import Enquiry.Regex.Search
import Enquiry.Tool.Lines

/-!
# Lines that match

`grep` writes the lines of its inputs in which an expression stands, or the places where it does,
or how many there are, with the lines around them if that is wanted.
-/

namespace Enquiry.Tool

open Host Text

/-- How lines are picked and shown. -/
structure Picking where
  regex : Regex
  flags : List Flag
  inverted : Bool
  /-- The names of the inputs are shown. -/
  named : Bool
  before : Nat
  after : Nat
  limit : Option Nat
  mark : Char

/-- Where the picking is in an input. -/
structure Picked where
  number : Nat
  count : Nat
  /-- The lines in front of the present one that have not been shown, the latest first. -/
  behind : List (Nat × Octets)
  /-- How many lines are still shown behind the last one that matched. -/
  wanted : Nat
  /-- The number of the last line that has been shown. -/
  last : Option Nat
  /-- The place of the line in the input. -/
  offset : Nat
  /-- The input holds bytes that no text has. -/
  binary : Bool
  /-- A line has matched that is not shown for that reason. -/
  hidden : Bool

namespace Picking

/-- A sign that separates parts of what is shown. -/
def separator (matched : Bool) : Char := if matched then ':' else '-'

/-- What stands in front of a line. -/
def front (p : Picking) (name : Octets) (matched : Bool) (number offset : Nat) : Octets :=
  let sign := separator matched
  (if p.named then name ++ [sign] else []) ++
    (if has p.flags 'n' then decimal number ++ [sign] else []) ++
    if has p.flags 'b' then decimal offset ++ [sign] else []

/-- What is shown of a line that matches. -/
def shownLine (p : Picking) (name : Octets) (number offset : Nat) (text : Octets) : Octets :=
  if has p.flags 'o' then
    if p.inverted then []
    else ((p.regex.all text).filter fun m => m.start < m.stop).flatMap fun m =>
      p.front name true number (offset + m.start) ++ Regex.slice text m.start m.stop ++ [p.mark]
  else p.front name true number offset ++ text ++ [p.mark]

/-- Only the number of lines is wanted, or whether there are any. -/
def isQuiet (p : Picking) : Bool := "cqlL".toList.any (has p.flags)

/-- Takes a line. -/
def step (p : Picking) (name : Octets) (s : Picked) (l : Line) : Turn Picked :=
  let number := s.number + 1
  let offset := s.offset + l.text.length + 1
  let matched := p.regex.occurs l.text != p.inverted
  let binary := s.binary || (!has p.flags 'a' && p.mark == '\n' && l.text.contains '\x00')
  let s := { s with binary }
  if matched then
    let count := s.count + 1
    let enough := p.limit.any (· ≤ count) && p.after = 0
    let stops := enough || "qlL".toList.any (has p.flags)
    if p.isQuiet then ⟨{ s with number, count, offset }, [], stops⟩
    else if binary then ⟨{ s with number, count, offset, hidden := true }, [], true⟩
    else
      let context := (s.behind.take p.before).reverse
      let first := (context.head?.map Prod.fst).getD number
      let gap := (p.before ≠ 0 ∨ p.after ≠ 0) ∧ s.last.any (fun n => n + 1 < first)
      let apart := if gap then "--\n".toList else []
      let lines := if has p.flags 'o' then [] else
        context.flatMap fun (n, text) => p.front name false n 0 ++ text ++ [p.mark]
      ⟨{ s with number, count, offset, behind := [], wanted := p.after, last := some number },
        apart ++ lines ++ p.shownLine name number s.offset l.text, enough⟩
  else
    let full := p.limit.any (· ≤ s.count)
    if 0 < s.wanted ∧ !p.isQuiet then
      let shown := if has p.flags 'o' then [] else
        p.front name false number s.offset ++ l.text ++ [p.mark]
      ⟨{ s with number, offset, wanted := s.wanted - 1, last := some number }, shown,
        full && s.wanted = 1⟩
    else
      let behind := if p.before = 0 then [] else (number, l.text) :: s.behind.take (p.before - 1)
      ⟨{ s with number, offset, behind }, [], full⟩

end Picking

/-- How a file is refused. -/
def grepRefusal : Refusal := fun name e => name ++ ": ".toList ++ wording e

/-- All files in a directory and in those within it. The first argument bounds the depth. -/
def filesWithin : Nat → Octets → Tool (List Octets)
  | 0, _ => return []
  | n + 1, path => do
      match ← Program.call (.status path false) with
      | .error _ => return [path]
      | .ok status =>
          if status.kind = .directory then
            match ← Program.call (.list path) with
            | .error _ => return [path]
            | .ok names =>
                let joined (name : Octets) : Octets :=
                  if path.getLast? = some '/' then path ++ name else path ++ '/' :: name
                let found ← names.mapM fun name => filesWithin n (joined name)
                return found.flatten
          else return [path]

/-- How deep directories are searched. -/
def maxDepth : Nat := 100

/-- The place in an input that can be read again. -/
def place? (descriptor : Nat) : Tool (Option Nat) := do
  match ← Program.call (.seek descriptor 0) with
  | .error _ => return none
  | .ok place =>
      let _ ← Program.call (.seek descriptor place)
      return some place

/-- How much of an input is looked at to find out whether it is text. -/
def looksSize : Nat := 32768

/-- The front of an input holds bytes that no text has, as far as it can be read again. -/
def isBinary (p : Picking) (descriptor : Nat) (place : Option Nat) : Tool Bool := do
  match place with
  | none => return false
  | some place =>
      if has p.flags 'a' || p.mark != '\n' then return false
      match ← Program.call (.read descriptor looksSize false) with
      | .error _ => return false
      | .ok data =>
          let _ ← Program.call (.seek descriptor place)
          return data.contains '\x00'

/-- Picks lines of some inputs. The answer says whether any line has matched. -/
def pickInputs (p : Picking) : List Octets → Bool → Tool Bool
  | [], found => return found
  | name :: rest, found => do
      let label := if name = ['-'] then "(standard input)".toList else name
      let directory ← if name = ['-'] then pure false else do
        match ← Program.call (.status name true) with
        | .ok status => pure (status.kind == .directory)
        | .error _ => pure false
      if directory then
        if !has p.flags 's' then warnAnd 2 (name ++ ": Is a directory".toList) else note 2
        pickInputs p rest found
      else
        let opened ← if name = ['-'] then pure (some 0) else do
          match ← Program.call (.opening name .reading 0) with
          | .ok d => pure (some d)
          | .error e => do
              if has p.flags 's' then note 2 else warnAnd 2 (grepRefusal name e)
              pure none
        match opened with
        | none => pickInputs p rest found
        | some descriptor =>
            let place ← place? descriptor
            let binary ← isBinary p descriptor place
            let (s, stopped) ← filterFrom (p.step label) 2 name descriptor Program.maxReads []
              ⟨0, 0, [], 0, none, 0, binary, false⟩
            match stopped && p.limit.isSome, place with
            | true, some place =>
                let _ ← Program.call (.seek descriptor (place + s.offset))
            | _, _ => pure ()
            closeInput descriptor
            if s.hidden then
              flush
              warn (label ++ ": binary file matches".toList)
            if has p.flags 'c' then
              print ((if p.named then label ++ [':'] else []) ++ decimal s.count ++ ['\n'])
            if has p.flags 'l' ∧ 0 < s.count then printLine label
            if has p.flags 'L' ∧ s.count = 0 then printLine label
            if has p.flags 'q' ∧ 0 < s.count then
              flush
              throw 0
            pickInputs p rest (found || 0 < s.count)

def grepWords : List (String × Char) :=
  [("extended-regexp", 'E'), ("fixed-strings", 'F'), ("basic-regexp", 'G'), ("perl-regexp", 'P'),
    ("regexp", 'e'), ("file", 'f'), ("ignore-case", 'i'), ("no-ignore-case", '3'),
    ("invert-match", 'v'), ("word-regexp", 'w'), ("line-regexp", 'x'), ("count", 'c'),
    ("colour==", '1'), ("color==", '1'), ("files-without-match", 'L'),
    ("files-with-matches", 'l'), ("max-count", 'm'), ("only-matching", 'o'), ("quiet", 'q'),
    ("silent", 'q'), ("no-messages", 's'), ("byte-offset", 'b'), ("with-filename", 'H'),
    ("no-filename", 'h'), ("line-number", 'n'), ("after-context", 'A'), ("before-context", 'B'),
    ("context", 'C'), ("text", 'a'), ("recursive", 'r'), ("dereference-recursive", 'R'),
    ("line-buffered", '2'), ("null-data", 'z'), ("include=", '4'), ("binary", 'U')]

/-- The expression of some patterns. -/
def grepNode (flags : List Flag) (kind : Char) (patterns : List Octets) : Tool Regex.Node := do
  let dialect : Regex.Dialect := ⟨kind != 'G', if kind = 'P' then .kinds else .none, false⟩
  let nodes ← patterns.mapM fun text => do
    if kind = 'F' then return Regex.Node.literal text
    match Regex.read dialect text with
    | .ok n => return n
    | .error e => fail 2 e.message.toList
  let node := match nodes with
    | [] => none
    | n :: rest => some (rest.foldl Regex.Node.either n)
  let node := node.getD (.pair (.anchor .textStart) (.pair (.single .any) (.anchor .textStart)))
  if has flags 'x' then
    return .pair (.anchor .textStart) (.pair node (.anchor .textEnd))
  else if has flags 'w' then
    return .pair (.anchor .noWordBefore) (.pair node (.anchor .noWordAfter))
  else return node

/-- How the tool is used. -/
def grepUsage : Octets := "Usage: grep [OPTION]... PATTERNS [FILE]...\n".toList

/-- Numbers behind a dash stand for the lines around. -/
def contextArgs (args : List Octets) : List Octets :=
  args.flatMap fun arg =>
    match arg with
    | '-' :: digits =>
        if !digits.isEmpty && digits.all isAsciiDigit then [['-', 'C'], digits] else [arg]
    | arg => [arg]

/-- Picks lines by an expression of some kind. -/
def grepAs (kind : Option Char) (args : List Octets) : Tool Unit := do
  let letters := "EFGPe:f:ivwxcLlm:oqsbHhnA:B:C:arRzUyT"
  let k := { Known.of letters grepWords with status := 2, usage := grepUsage }
  let (flags, operands) ← readFlags k (contextArgs args)
  let kind := ((flags.filter fun (c, _) => "EFGP".toList.contains c).getLast?.map Prod.fst).or kind
  let given := flags.filter fun (c, _) => c == 'e' || c == 'f'
  let texts ← given.mapM fun (c, text) => do
    if c = 'e' then return some text
    match ← readInput grepRefusal 2 text with
    | none => throw 2
    | some [] => return none
    | some data => return some (if data.getLast? = some '\n' then data.dropLast else data)
  let (texts, names) ← match given, operands with
    | [], [] => do
        tell grepUsage
        helpless 2
    | [], pattern :: names => pure ([some pattern], names)
    | _, names => pure (texts, names)
  let patterns := (texts.filterMap id).flatMap (List.splitOn '\n')
  let node ← grepNode flags (kind.getD 'G') patterns
  let number (c : Char) : Tool (Option Nat) := do
    match value? flags c with
    | none => return none
    | some text =>
        match number? text with
        | some n => return some n
        | none =>
            if c = 'm' then fail 2 "invalid max count".toList
            else fail 2 (text ++ ": invalid context length argument".toList)
  let around ← number 'C'
  let before := ((← number 'B').or around).getD 0
  let after := ((← number 'A').or around).getD 0
  let limit ← number 'm'
  let recursive := has flags 'r' || has flags 'R'
  let names ← if recursive then do
      let roots := if names.isEmpty then [['.']] else names
      let found ← roots.mapM (filesWithin maxDepth)
      let all := found.flatten
      pure (if names.isEmpty then all.map (·.drop 2) else all)
    else pure (orInput names)
  let named := if has flags 'h' then false else has flags 'H' || recursive || 1 < names.length
  let mode : Regex.Mode := ⟨has flags 'i' || has flags 'y', false⟩
  let p : Picking :=
    { regex := .ofNode mode node, flags, inverted := has flags 'v', named, before, after, limit
      mark := if has flags 'z' then '\x00' else '\n' }
  if limit = some 0 then throw 1
  let found ← pickInputs p names false
  let status := (← get).status
  note (if status ≠ 0 then status else if found then 0 else 1)

def grep (args : List Octets) : Tool Unit := grepAs none args

/-- Picks lines by an extended expression, or by fixed texts. -/
def egrep (args : List Octets) : Tool Unit := grepAs (some 'E') args

def fgrep (args : List Octets) : Tool Unit := grepAs (some 'F') args

end Enquiry.Tool
