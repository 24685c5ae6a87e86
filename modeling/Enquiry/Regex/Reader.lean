import Enquiry.Regex.Basic
import Enquiry.Text.Integer

/-!
# Reading regular expressions

There are two dialects. In the extended one the brackets, braces and other signs mean something as
they are; in the other one they do so behind a backslash. A sign where nothing can stand in front
of it stands for itself.
-/

namespace Enquiry.Regex

open Text

/-- What a backslash in front of a letter may stand for besides. -/
inductive Escapes where
  | none
  /-- Control characters outside of sets and in them. -/
  | control
  /-- The same, and any character in sets. -/
  | all
  /-- Control characters, and letters for digits and blanks. -/
  | kinds
  deriving DecidableEq, Repr

structure Dialect where
  extended : Bool
  escapes : Escapes
  /-- A sign that makes no sense where it stands is an error in the extended dialect; otherwise it
  stands for itself. -/
  strict : Bool
  deriving DecidableEq, Repr

/-- What is wrong with an expression. -/
inductive Fault where
  | openSet | openGroup | closedGroup | openBrace | badBrace | badRange | badKind | badReference
  | trailingBackslash | nothingRepeated
  deriving DecidableEq, Repr

def Fault.message : Fault → String
  | openSet => "Unmatched [, [^, [:, [., or [="
  | openGroup => "Unmatched ( or \\("
  | closedGroup => "Unmatched ) or \\)"
  | openBrace => "Unmatched \\\x7b"
  | badBrace => "Invalid content of \\\x7b\\\x7d"
  | badRange => "Invalid range end"
  | badKind => "Invalid character class name"
  | badReference => "Invalid back reference"
  | trailingBackslash => "Trailing backslash"
  | nothingRepeated => "Invalid preceding regular expression"

/-! ### Characters -/

/-- The control character of a letter behind a backslash. -/
def control? (c : Char) : Option Char :=
  [('a', '\x07'), ('f', '\x0C'), ('n', '\n'), ('r', '\r'), ('t', '\t'), ('v', '\x0B')].lookup c

/-- A character that is named by digits behind a backslash, and what follows it. -/
def numbered? (escapes : Escapes) (text : List Char) : Option (Char × List Char) :=
  let digits (base size : Nat) (text : List Char) : Option (Char × List Char) :=
    let found := (text.take size).takeWhile (isDigitOf base)
    if found.isEmpty then none
    else some (Char.ofNat (digitsValue base found % 256), text.drop found.length)
  match escapes, text with
  | .control, 'd' :: rest => digits 10 3 rest
  | .control, 'o' :: rest => digits 8 3 rest
  | .control, 'x' :: rest => digits 16 2 rest
  | .control, 'c' :: c :: rest => some (Char.ofNat ((c.toUpper.toNat + 64) % 128), rest)
  | .all, 'x' :: rest => digits 16 2 rest
  | .all, c :: rest => if isDigitOf 8 c then digits 8 3 (c :: rest) else none
  | _, _ => none

/-- The character that a backslash and what follows it stand for, where that is a character. -/
def escaped? (escapes : Escapes) (text : List Char) : Option (Char × List Char) :=
  match text with
  | [] => none
  | c :: rest =>
      match escapes, control? c with
      | .none, _ => none
      | .all, none =>
          if c = 'b' then none else numbered? escapes text
      | _, some d => some (d, rest)
      | _, none => numbered? escapes text

/-! ### Sets -/

/-- The character at the front of a set, and what follows it. -/
def setChar? (escapes : Escapes) (text : List Char) : Option (Char × List Char) :=
  match text with
  | [] => none
  | '[' :: '.' :: c :: '.' :: ']' :: rest => some (c, rest)
  | '[' :: '=' :: c :: '=' :: ']' :: rest => some (c, rest)
  | '\\' :: rest =>
      match escapes, rest with
      | .none, _ => some ('\\', rest)
      | .control, _ => (escaped? .control rest).or (some ('\\', rest))
      | .kinds, _ => (escaped? .kinds rest).or (some ('\\', rest))
      | .all, c :: more => (escaped? .all rest).or (some (c, more))
      | .all, [] => none
  | c :: rest => some (c, rest)

/-- Reads the members of a set up to its closing bracket. The first argument bounds their number,
and the second one says that a bracket may be the first member. -/
def readMembers (escapes : Escapes) : Nat → Bool → List Char →
    Except Fault (List Member × List Char)
  | 0, _, _ => .error .openSet
  | _, _, [] => .error .openSet
  | n + 1, isFirst, text => do
      match text with
      | ']' :: rest =>
          if !isFirst then return ([], rest)
      | _ => pure ()
      match text with
      | '[' :: ':' :: rest =>
          let name := rest.takeWhile (·.isAlpha)
          match rest.drop name.length with
          | ':' :: ']' :: rest =>
              let name := String.ofList name
              if (kinds.lookup name).isNone then throw .badKind
              let (members, rest) ← readMembers escapes n false rest
              return (.kind name :: members, rest)
          | _ => throw .openSet
      | _ => pure ()
      match setChar? escapes text with
      | none => throw .openSet
      | some (first, '-' :: after) =>
          match after with
          | ']' :: _ =>
              let (members, rest) ← readMembers escapes n false ('-' :: after)
              return (.range first first :: members, rest)
          | _ =>
              match setChar? escapes after with
              | none => throw .openSet
              | some (last, rest) =>
                  if last < first then throw .badRange
                  let (members, rest) ← readMembers escapes n false rest
                  return (.range first last :: members, rest)
      | some (first, rest) =>
          let (members, rest) ← readMembers escapes n false rest
          return (.range first first :: members, rest)

/-- Reads a set behind its opening bracket. -/
def readSet (escapes : Escapes) (text : List Char) : Except Fault (Single × List Char) := do
  let (negated, text) := match text with
    | '^' :: rest => (true, rest)
    | text => (false, text)
  let (members, rest) ← readMembers escapes (text.length + 1) true text
  return (.set negated members, rest)

/-! ### Signs -/

inductive Sign where
  | node (n : Node)
  | openGroup | closeGroup | bar
  | star | plus | maybe
  /-- An opening brace. -/
  | brace
  deriving DecidableEq, Repr

/-- A set of the characters of a word. -/
def wordMembers : List Member := [.kind "alnum", .range '_' '_']

/-- What a letter behind a backslash stands for. -/
def special? (escapes : Escapes) (c : Char) : Option Node :=
  let more := escapes == .kinds
  match c with
  | 'd' => if more then some (.single (.set false [.kind "digit"])) else none
  | 'D' => if more then some (.single (.set true [.kind "digit"])) else none
  | 'h' => if more then some (.single (.set false [.kind "blank"])) else none
  | 'w' => some (.single (.set false wordMembers))
  | 'W' => some (.single (.set true wordMembers))
  | 's' => some (.single (.set false [.kind "space"]))
  | 'S' => some (.single (.set true [.kind "space"]))
  | 'b' => some (.anchor .wordEdge)
  | 'B' => some (.anchor .noWordEdge)
  | '<' => some (.anchor .wordStart)
  | '>' => some (.anchor .wordEnd)
  | '\x60' => some (.anchor .textStart)
  | '\'' => some (.anchor .textEnd)
  | _ => none

/-- What a sign stands for in one of the dialects. -/
def signOf? (c : Char) : Option Sign :=
  [('(', .openGroup), (')', .closeGroup), ('|', .bar), ('+', .plus), ('?', .maybe),
    ('\x7b', .brace)].lookup c

/-- A character that stands for itself. -/
def literalSign (c : Char) : Sign := .node (.single (.one c))

/-- The end of a part follows. -/
def endsPart (d : Dialect) (rest : List Char) : Bool :=
  match rest with
  | [] => true
  | '\\' :: c :: _ => !d.extended && (c == ')' || c == '|')
  | c :: _ => d.extended && (c == ')' || c == '|')

/-- Reads a sign. `isFirst` says that nothing stands in front of it in its part. -/
def readSign (d : Dialect) (isFirst : Bool) (text : List Char) :
    Except Fault (Option (Sign × List Char)) := do
  match text with
  | [] => return none
  | ['\\'] => throw .trailingBackslash
  | '\\' :: c :: rest =>
      match escaped? d.escapes (c :: rest) with
      | some (e, rest) => return some (literalSign e, rest)
      | none =>
          match if d.extended then none else signOf? c with
          | some sign => return some (sign, rest)
          | none =>
              if isAsciiDigit c && c != '0' && d.escapes != .all then
                return some (.node (.again (c.toNat - '0'.toNat)), rest)
              else match if d.escapes = .all then none else special? d.escapes c with
                | some n => return some (.node n, rest)
                | none => return some (literalSign c, rest)
  | '[' :: rest =>
      let (s, rest) ← readSet d.escapes rest
      return some (.node (.single s), rest)
  | '.' :: rest => return some (.node (.single .any), rest)
  | '*' :: rest => return some (if isFirst && !d.extended then literalSign '*' else .star, rest)
  | '^' :: rest =>
      return some (if isFirst || d.extended then .node (.anchor .lineStart) else literalSign '^', rest)
  | '$' :: rest =>
      let isAnchor := d.extended || endsPart d rest
      return some (if isAnchor then .node (.anchor .lineEnd) else literalSign '$', rest)
  | c :: rest =>
      match if d.extended then signOf? c else none with
      | some sign => return some (sign, rest)
      | none => return some (literalSign c, rest)

/-! ### Expressions -/

/-- The numbers between braces, and what follows them. -/
def readCounts? (d : Dialect) (text : List Char) : Option (Nat × Option Nat × List Char) :=
  let low := text.takeWhile isAsciiDigit
  let rest := text.drop low.length
  let close (rest : List Char) : Option (List Char) :=
    match d.extended, rest with
    | true, '\x7d' :: rest => some rest
    | false, '\\' :: '\x7d' :: rest => some rest
    | _, _ => none
  match rest with
  | ',' :: rest =>
      let high := rest.takeWhile isAsciiDigit
      if low.isEmpty && high.isEmpty then none
      else (close (rest.drop high.length)).map fun rest =>
        ((number? low).getD 0, number? high, rest)
  | rest =>
      match number? low with
      | none => none
      | some n => (close rest).map fun rest => (n, some n, rest)

/-- The largest number between braces. -/
def maxCount : Nat := 32767

/-- A place between characters. -/
def Node.isAnchor : Node → Bool
  | .anchor _ => true
  | _ => false

/-- Reads what says how often something stands, and does so again; `once` says that this has been
said already. The first argument bounds how often. -/
def readRepeats (d : Dialect) : Nat → Bool → Node → List Char → Except Fault (Node × List Char)
  | 0, _, node, text => .ok (node, text)
  | n + 1, once, node, text => do
      let sign ← match text with
        | ['\\'] => .ok none
        | text => readSign d false text
      let checkOnce : Except Fault Unit :=
        if once && d.strict && !d.extended then .error .nothingRepeated else .ok ()
      match sign with
      | some (.star, rest) =>
          checkOnce
          readRepeats d n true (.repeated node 0 none) rest
      | some (.plus, rest) => readRepeats d n true (.repeated node 1 none) rest
      | some (.maybe, rest) => readRepeats d n true (.repeated node 0 (some 1)) rest
      | some (.brace, rest) =>
          checkOnce
          match readCounts? d rest with
          | some (low, high, rest) =>
              if maxCount < low || high.any (maxCount < ·) || high.any (· < low) then
                throw .badBrace
              readRepeats d n true (.repeated node low high) rest
          | none =>
              if d.extended && !d.strict then return (node, text)
              else if rest.any (· == '\x7d') then throw .badBrace
              else throw .openBrace
      | _ => return (node, text)

/-- Where a reader is: how many parts it has seen, and what is left. -/
structure Reading where
  node : Node
  groups : Nat
  rest : List Char

/-- Reads signs one behind another, up to the end of their part; `inner` reads what stands in
brackets. The first number bounds how many there are. -/
def readParts (d : Dialect) (inner : Nat → List Char → Except Fault Reading) :
    Nat → Bool → Nat → Node → List Char → Except Fault Reading
  | 0, _, groups, found, text => .ok ⟨found, groups, text⟩
  | n + 1, isFirst, groups, found, text => do
      let next (groups : Nat) (node : Node) (rest : List Char) : Except Fault Reading := do
        let alone := node.isAnchor && (d.strict || !d.extended)
        let (node, rest) ← if alone then .ok (node, rest)
          else readRepeats d rest.length false node rest
        readParts d inner n node.isAnchor groups
          (if found = .empty then node else .pair found node) rest
      let unexpected (groups : Nat) (c : Char) (rest : List Char) : Except Fault Reading := do
        if !d.extended || d.escapes = .all then next groups (.single (.one c)) rest
        else if d.strict then throw .nothingRepeated
        else readParts d inner n isFirst groups found rest
      match ← readSign d isFirst text with
      | none => return ⟨found, groups, text⟩
      | some (.bar, _) => return ⟨found, groups, text⟩
      | some (.closeGroup, _) => return ⟨found, groups, text⟩
      | some (.node node, rest) => next groups node rest
      | some (.openGroup, rest) =>
          let number := groups + 1
          let inside ← inner number rest
          match ← readSign d false inside.rest with
          | some (.closeGroup, rest) => next inside.groups (.group number inside.node) rest
          | _ => throw .openGroup
      | some (.brace, rest) =>
          if d.extended && !d.strict && !isFirst then next groups (.single (.one '\x7b')) rest
          else if d.strict then throw .nothingRepeated
          else unexpected groups '\x7b' rest
      | some (.star, rest) => unexpected groups '*' rest
      | some (.plus, rest) => unexpected groups '+' rest
      | some (.maybe, rest) => unexpected groups '?' rest

/-- Reads what stands between bars. The first number bounds how many there are. -/
def readChoices (d : Dialect) (inner : Nat → List Char → Except Fault Reading) :
    Nat → Nat → List Char → Except Fault Reading
  | 0, groups, text => .ok ⟨.empty, groups, text⟩
  | n + 1, groups, text => do
      let first ← readParts d inner (text.length + 1) true groups .empty text
      match ← readSign d false first.rest with
      | some (.bar, rest) =>
          let others ← readChoices d inner n first.groups rest
          return { others with node := .either first.node others.node }
      | _ => return first

/-- Reads an expression. The first number bounds the depth of brackets. -/
def readNode (d : Dialect) : Nat → Nat → List Char → Except Fault Reading
  | 0, _, _ => .error .openGroup
  | n + 1, groups, text => readChoices d (readNode d n) (text.length + 1) groups text

/-- The parts that are asked for again. -/
def Node.recalled : Node → List Nat
  | pair a b => a.recalled ++ b.recalled
  | either a b => a.recalled ++ b.recalled
  | repeated n _ _ => n.recalled
  | group _ n => n.recalled
  | again k => [k]
  | _ => []

/-- Reads an expression; a closing bracket that no other one belongs to stands for itself, or is an
error. The first number bounds how many there are. -/
def readWhole (d : Dialect) : Nat → Nat → Node → List Char → Except Fault Reading
  | 0, _, _, _ => .error .closedGroup
  | n + 1, groups, found, text => do
      let reading ← readNode d (text.length + 1) groups text
      let node := if found = .empty then reading.node else .pair found reading.node
      match reading.rest with
      | [] => return { reading with node }
      | c :: rest =>
          if d.extended && !d.strict then
            readWhole d n reading.groups (.pair node (.single (.one c))) rest
          else throw .closedGroup

/-- The expression that a text is. -/
def read (d : Dialect) (text : List Char) : Except Fault Node := do
  let reading ← readWhole d (text.length + 1) 0 .empty text
  if reading.node.recalled.any (reading.groups < ·) then throw .badReference
  return reading.node

end Enquiry.Regex
