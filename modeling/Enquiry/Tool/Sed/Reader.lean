import Enquiry.Tool.Sed.Command

/-!
# Reading commands of the stream editor

The commands stand in a text, divided by semicolons or line ends. What is wrong with the text is
said together with the place up to which it has been read.
-/

namespace Enquiry.Tool.Sed

open Host Text

/-- What is wrong, and how much of the text has not been read then; the place is not told when there
is no number. -/
abbrev Problem := String × Option Nat

/-- Something that is read from the rest of the text. -/
abbrev Reading := StateT (List Char) (Except Problem)

namespace Reading

def fault {α : Type} (what : String) : Reading α := do
  let rest ← get
  throw (what, some rest.length)

/-- The next character. -/
def next? : Reading (Option Char) := do
  match ← get with
  | [] => return none
  | c :: rest =>
      set rest
      return some c

def peek? : Reading (Option Char) := do return (← get).head?

/-- All characters of some kind at the front. -/
def takeWhile (p : Char → Bool) : Reading (List Char) := do
  let rest ← get
  let found := rest.takeWhile p
  set (rest.drop found.length)
  return found

def isBlank (c : Char) : Bool := c == ' ' || c == '\t'

/-- A number that begins with a digit. -/
def number : Reading Nat := do return digitsValue 10 (← takeWhile isAsciiDigit)

/-! ### Texts between marks -/

/-- The inside of a set behind its opening bracket, up to its closing one, in reverse. -/
def setBody : Nat → Bool → List Char → Option (List Char × List Char)
  | 0, _, _ => none
  | _, _, [] => none
  | n + 1, isFirst, c :: rest =>
      if c = '\n' then none
      else if c = ']' ∧ !isFirst then some ([']'], rest)
      else if c = '[' then
        match rest with
        | k :: more =>
            if k = ':' ∨ k = '.' ∨ k = '=' then
              let inside := more.takeWhile fun c => c != k && c != '\n' && c != ']'
              match more.drop inside.length with
              | k' :: ']' :: after =>
                  if k' = k then
                    (setBody n false after).map fun (body, rest) =>
                      ('[' :: k :: inside ++ k :: ']' :: body, rest)
                  else (setBody n false rest).map fun (body, rest) => (c :: body, rest)
              | _ => (setBody n false rest).map fun (body, rest) => (c :: body, rest)
            else (setBody n false rest).map fun (body, rest) => (c :: body, rest)
        | [] => none
      else (setBody n (isFirst && c = '^') rest).map fun (body, rest) => (c :: body, rest)

/-- A text up to a mark, in reverse. In an expression a mark may stand in a set, and a backslash
in front of an `n` is a line end. The first argument bounds the number of characters. -/
def delimited? (mark : Char) (isRegex : Bool) : Nat → List Char → List Char →
    Option (List Char) × List Char
  | 0, _, text => (none, text)
  | _, _, [] => (none, [])
  | n + 1, found, c :: rest =>
      if c = mark then (some found.reverse, rest)
      else if c = '\n' ∧ isRegex then (none, c :: rest)
      else if c = '\\' then
        match rest with
        | [] => (none, [])
        | d :: rest =>
            if d = mark ∧ !(d = '&' ∧ !isRegex) then delimited? mark isRegex n (d :: found) rest
            else if d = 'n' ∧ isRegex then delimited? mark isRegex n ('\n' :: found) rest
            else if d = '\n' ∧ isRegex then delimited? mark isRegex n (d :: found) rest
            else delimited? mark isRegex n (d :: '\\' :: found) rest
      else if c = '[' ∧ isRegex then
        match setBody (rest.length + 1) true rest with
        | some (body, rest) => delimited? mark isRegex n (body.reverse ++ '[' :: found) rest
        | none => (none, [])
      else delimited? mark isRegex n (c :: found) rest

/-- A text up to a mark, or a complaint. -/
def delimited (mark : Char) (isRegex : Bool) (complaint : String) : Reading (List Char) := do
  let text ← get
  let (found, rest) := delimited? mark isRegex (text.length + 1) [] text
  set rest
  match found with
  | some found => return found
  | none => fault complaint

/-- The expression of a text; nothing for an empty one. -/
def regex (extended : Bool) (mode : Regex.Mode) (text : List Char) : Reading (Option Regex) := do
  if text.isEmpty then return none
  match Regex.ofText ⟨extended, .control, true⟩ mode text with
  | .ok r => return some r
  | .error f => fault f.message

/-! ### Addresses -/

/-- An address that begins with a character, if it does. -/
def address? (extended : Bool) : Reading (Option Address) := do
  match ← peek? with
  | none => return none
  | some c =>
      if c = '/' ∨ c = '\\' then
        let _ ← next?
        let mark ← if c = '/' then pure '/' else do
          match ← next? with
          | some m => pure m
          | none => fault "unexpected \x60,'"
        let text ← delimited mark true "unterminated address regex"
        let flags ← takeWhile fun c => c == 'I' || c == 'M'
        return some (.regex (← regex extended ⟨flags.contains 'I', flags.contains 'M'⟩ text))
      else if isAsciiDigit c then
        let n ← number
        let _ ← takeWhile isBlank
        match ← peek? with
        | some '~' =>
            let _ ← next?
            let _ ← takeWhile isBlank
            return some (.step n (← number))
        | _ => return some (.line n)
      else if c = '$' then
        let _ ← next?
        return some .last
      else return none

/-- Where a range ends. -/
def stop? (extended : Bool) : Reading (Option Stop) := do
  let _ ← takeWhile isBlank
  match ← peek? with
  | some '+' =>
      let _ ← next?
      return some (.plus (← number))
  | some '~' =>
      let _ ← next?
      return some (.multiple (← number))
  | _ => return (← address? extended).map .address

/-! ### Parts of commands -/

/-- The end of a command. -/
def endOfCommand : Reading Unit := do
  let _ ← takeWhile isBlank
  match ← peek? with
  | some c =>
      if c = '\x7d' ∨ c = '#' then return ()
      let _ ← next?
      if c ≠ '\n' ∧ c ≠ ';' ∧ c ≠ '\r' then fault "extra characters after command"
  | none => return ()

/-- A label, which ends at a blank or a semicolon. -/
def label : Reading Octets := do
  let _ ← takeWhile isBlank
  takeWhile fun c => !isGap c && c != ';'

/-- The name of a file, which goes on to the end of the line. -/
def fileName : Reading Octets := do
  let _ ← takeWhile isBlank
  let name ← takeWhile (· != '\n')
  let _ ← next?
  if name.isEmpty then fault "missing filename in r/R/w/W commands"
  return name

/-- The text of a command up to the first line end without a backslash in front of it. -/
def textFrom : Nat → Octets → List Char → Octets × List Char
  | 0, found, rest => (found.reverse, rest)
  | _, found, [] => (found.reverse, [])
  | _, found, ['\\'] => (found.reverse, [])
  | n + 1, found, '\\' :: c :: rest =>
      match Regex.escaped? .control (c :: rest) with
      | some (e, rest) => textFrom n (e :: found) rest
      | none => textFrom n (c :: found) rest
  | n + 1, found, c :: rest =>
      if c = '\n' then (found.reverse, rest) else textFrom n (c :: found) rest

/-- The text of a command that adds lines. -/
def addedText : Reading Octets := do
  let _ ← takeWhile isBlank
  match ← peek? with
  | none => fault "expected \\ after \x60a', \x60c' or \x60i'"
  | some '\\' =>
      let _ ← next?
      let blanks ← takeWhile isBlank
      match ← peek? with
      | some '\n' =>
          let _ ← next?
      | _ => modify (blanks ++ ·)
      let rest ← get
      let first := match rest with
        | c :: more => if c = '\\' ∨ c = '\n' then ([], rest) else ([c], more)
        | [] => ([], [])
      let (text, rest) := textFrom (rest.length + 1) first.1.reverse first.2
      set rest
      return if text.isEmpty && rest.isEmpty then [] else text ++ ['\n']
  | some _ =>
      let rest ← get
      let (text, rest) := textFrom (rest.length + 1) [] rest
      set rest
      return text ++ ['\n']

/-- The parts of what is put in the place of an expression. -/
def parts : Nat → Octets → List Char → List Part
  | 0, found, _ => if found.isEmpty then [] else [.text found.reverse]
  | _, found, [] => if found.isEmpty then [] else [.text found.reverse]
  | n + 1, found, text =>
      let close (p : Part) (rest : List Char) : List Part :=
        (if found.isEmpty then [] else [.text found.reverse]) ++ p :: parts n [] rest
      match text with
      | '&' :: rest => close (.group 0) rest
      | '\\' :: c :: rest =>
          if isAsciiDigit c then close (.group (c.toNat - '0'.toNat)) rest
          else match [('U', Casing.upper), ('L', .lower), ('u', .upperOne), ('l', .lowerOne),
              ('E', .stop)].lookup c with
            | some casing => close (.casing casing) rest
            | none =>
                match Regex.escaped? .control (c :: rest) with
                | some (e, rest) => parts n (e :: found) rest
                | none => parts n (c :: found) rest
      | c :: rest => parts n (c :: found) rest
      | [] => []

/-- The options behind a substitution. -/
structure Flags where
  everywhere : Bool
  nth : Option Nat
  prints : Bool
  runs : Bool
  folds : Bool
  lines : Bool
  file : Option Octets

/-- Reads the options behind a substitution. The first argument bounds their number. -/
def flags : Nat → Flags → Reading Flags
  | 0, f => return f
  | n + 1, f => do
      match ← peek? with
      | none => return f
      | some c =>
          if c = '\x7d' ∨ c = '#' then return f
          if isAsciiDigit c then
            let k ← number
            if k = 0 then fault "number option to \x60s' command may not be zero"
            if f.nth.isSome then fault "multiple number options to \x60s' command"
            flags n { f with nth := some k }
          else
            let _ ← next?
            if c = '\n' ∨ c = ';' then return f
            else if isGap c then flags n f
            else if c = 'g' then
              if f.everywhere then fault "multiple \x60g' options to \x60s' command"
              flags n { f with everywhere := true }
            else if c = 'p' then
              if f.prints then fault "multiple \x60p' options to \x60s' command"
              flags n { f with prints := true }
            else if c = 'i' ∨ c = 'I' then flags n { f with folds := true }
            else if c = 'm' ∨ c = 'M' then flags n { f with lines := true }
            else if c = 'e' then flags n { f with runs := true }
            else if c = 'w' then return { f with file := some (← fileName) }
            else fault "unknown option to \x60s'"

/-- A substitution behind its letter. -/
def substitution (extended : Bool) : Reading Substitution := do
  let complaint := "unterminated \x60s' command"
  match ← next? with
  | none => fault complaint
  | some mark =>
      if mark = '\n' ∨ mark = '\\' then fault complaint
      let pattern ← delimited mark true complaint
      let replacement ← delimited mark false complaint
      let f ← flags ((← get).length + 1) ⟨false, none, false, false, false, false, none⟩
      let r ← regex extended ⟨f.folds, f.lines⟩ pattern
      let all := parts (replacement.length + 1) [] replacement
      let highest := (all.map fun p => match p with
        | .group n => n
        | _ => 0).foldl max 0
      if r.any fun r => r.groups < highest then
        fault (String.ofList ("invalid reference \\".toList ++ decimal highest ++
          " on \x60s' command's RHS".toList))
      return ⟨r, all, f.everywhere, f.nth.getD 1, f.prints, f.runs, f.file⟩

/-- The characters of one side of a translation. -/
def translated : List Char → List Char
  | '\\' :: '\\' :: rest => '\\' :: translated rest
  | '\\' :: c :: rest => ((Regex.control? c).getD c) :: translated rest
  | c :: rest => c :: translated rest
  | [] => []

def translation : Reading (List (Char × Char)) := do
  let complaint := "unterminated \x60y' command"
  match ← next? with
  | none => fault complaint
  | some mark =>
      let first ← delimited mark false complaint
      let second ← delimited mark false complaint
      let first := translated first
      let second := translated second
      if first.length ≠ second.length then
        fault "strings for \x60y' command are different lengths"
      endOfCommand
      return first.zip second

/-! ### Commands -/

/-- A number behind a command, if there is one. -/
def number? : Reading (Option Nat) := do
  let _ ← takeWhile isBlank
  match ← peek? with
  | some c => if isAsciiDigit c then return some (← number) else return none
  | none => return none

/-- Commands that are one letter. -/
def single? (c : Char) : Option Action :=
  match c with
  | '=' => some .number
  | 'd' => some .delete
  | 'D' => some .deleteFirst
  | 'F' => some .fileName
  | 'g' => some .get
  | 'G' => some .getAppend
  | 'h' => some .hold
  | 'H' => some .holdAppend
  | 'n' => some .next
  | 'N' => some .nextAppend
  | 'p' => some .print
  | 'P' => some .printFirst
  | 'x' => some .exchange
  | 'z' => some .clear
  | _ => none

/-- The action of a letter behind which it is read. -/
def action (extended hasTwo : Bool) (c : Char) : Reading Action := do
  let done (a : Action) : Reading Action := do
    endOfCommand
    return a
  let one : Reading Unit := do
    if hasTwo then fault "command only uses one address"
  match single? c with
  | some a => done a
  | none =>
      match c with
      | 'a' => return .append (← addedText)
      | 'i' => return .insert (← addedText)
      | 'c' => return .change (← addedText)
      | 'b' => let l ← label; done (.jump .always l)
      | 't' => let l ← label; done (.jump .changed l)
      | 'T' => let l ← label; done (.jump .unchanged l)
      | 'q' => one; let n ← number?; done (.quit (n.getD 0) false)
      | 'Q' => one; let n ← number?; done (.quit (n.getD 0) true)
      | 'l' => let n ← number?; done (.list n)
      | 'r' => return .readFile (← fileName)
      | 'R' => return .readLine (← fileName)
      | 'w' => return .writeFile (← fileName)
      | 'W' => return .writeFirst (← fileName)
      | 's' => return .substitute (← substitution extended)
      | 'y' => return .translate (← translation)
      | 'v' => let _ ← label; done .nothing
      | 'e' =>
          let _ ← takeWhile isBlank
          let command ← takeWhile (· != '\n')
          let _ ← next?
          return .run command
      | c => fault (String.ofList ("unknown command: \x60".toList ++ [c, '\'']))

/-- The address zero makes sense only in front of an expression. -/
def checkZero (start : Option Address) (stop : Option Stop) : Reading Unit := do
  match start, stop with
  | some (.line 0), some (.address (.regex _)) => return ()
  | some (.line 0), _ => fault "invalid usage of line address 0"
  | _, _ => return ()

/-- Reads commands. The numbers of the open blocks stand in `opened`, the last one first, and the
commands so far in `found`, the last one first. The first argument bounds the number of
commands. -/
def commands (extended : Bool) : Nat → List Nat → List Command → Reading (List Command)
  | 0, _, found => return found.reverse
  | n + 1, opened, found => do
      let _ ← takeWhile fun c => isGap c || c == ';'
      match ← peek? with
      | none =>
          if !opened.isEmpty then throw ("unmatched \x60\x7b'", none)
          return found.reverse
      | some _ =>
          let start ← address? extended
          let _ ← takeWhile isBlank
          let stop ← if start.isSome ∧ (← peek?) = some ',' then do
              let _ ← next?
              match ← stop? extended with
              | some s => pure (some s)
              | none =>
                  let _ ← next?
                  fault "unexpected \x60,'"
            else pure none
          let _ ← takeWhile isBlank
          let negated ← if (← peek?) = some '!' then do
              let _ ← next?
              let _ ← takeWhile fun c => isBlank c
              if (← peek?) = some '!' then
                let _ ← next?
                fault "multiple \x60!'s"
              pure true
            else pure false
          match ← next? with
          | none => fault "missing command"
          | some c =>
              checkZero start stop
              let add (a : Action) : List Command := ⟨start, stop, negated, a⟩ :: found
              match c with
              | '#' =>
                  if start.isSome then fault "comments don't accept any addresses"
                  let _ ← takeWhile (· != '\n')
                  commands extended n opened found
              | ':' =>
                  if start.isSome then fault ": doesn't want any addresses"
                  let _ ← takeWhile isBlank
                  let name ← takeWhile fun c => !isGap c && c != ';'
                  if name.isEmpty then fault "\":\" lacks a label"
                  commands extended n opened (add (.label name))
              | '\x7b' => commands extended n (found.length :: opened) (add (.block 0))
              | '\x7d' =>
                  match opened with
                  | [] => fault "unexpected \x60\x7d'"
                  | first :: opened =>
                      if start.isSome then fault "\x7d doesn't want any addresses"
                      endOfCommand
                      let stop := found.length
                      let found := found.reverse.zipIdx.map fun (c, i) =>
                        if i = first then { c with action := .block stop } else c
                      commands extended n opened (⟨none, none, false, .nothing⟩ :: found.reverse)
              | c =>
                  let a ← action extended stop.isSome c
                  commands extended n opened (add a)

end Reading

/-- The commands of a text. -/
def read (extended : Bool) (text : List Char) : Except Problem (List Command) :=
  ((Reading.commands extended (text.length + 2) [] []).run text).map Prod.fst

end Enquiry.Tool.Sed
