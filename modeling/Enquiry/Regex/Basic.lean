import Enquiry.Text.Ranges

/-!
# Regular expressions

An expression stands for texts: characters, sets of them, places between them, and what is made of
these by one behind another, one or another, and repetition. Parts of it are numbered, and what
they stood for can be asked for again.
-/

namespace Enquiry

open Text

namespace Regex

/-- A place between two characters. -/
inductive Anchor where
  /-- The beginning and the end of a line. -/
  | lineStart | lineEnd
  /-- The beginning and the end of the text. -/
  | textStart | textEnd
  | wordStart | wordEnd | wordEdge | noWordEdge
  /-- No character of a word stands in front of the place, or behind it. -/
  | noWordBefore | noWordAfter
  deriving DecidableEq, Repr

/-- What stands for one character. -/
inductive Single where
  | one (c : Char)
  | any
  | set (negated : Bool) (members : List Member)
  deriving DecidableEq, Repr

inductive Node where
  | empty
  | single (s : Single)
  | anchor (a : Anchor)
  | pair (first second : Node)
  | either (first second : Node)
  /-- Something so many times; without a second number, as often as one likes. -/
  | repeated (node : Node) (least : Nat) (most : Option Nat)
  /-- A part with a number. -/
  | group (number : Nat) (node : Node)
  /-- What a part stood for, once more. -/
  | again (number : Nat)
  deriving DecidableEq, Repr

/-- How texts are compared with an expression. -/
structure Mode where
  /-- Letters of both cases are the same. -/
  folds : Bool
  /-- Lines begin and end within the text as well. -/
  lines : Bool
  deriving DecidableEq, Repr

/-- A character of a word. -/
def isWordChar (c : Char) : Bool := c.isAlphanum || c == '_'

/-- The letter of the other case. -/
def otherCase (c : Char) : Char := if c.isUpper then c.toLower else c.toUpper

def Single.holds (m : Mode) (s : Single) (c : Char) : Bool :=
  let both (f : Char → Bool) : Bool := f c || (m.folds && f (otherCase c))
  match s with
  | .one d => both (· == d)
  | .any => true
  | .set negated members => both (fun c => members.any (·.holds c)) != negated

/-- A place lies between two characters, of which one may be missing at the end of the text. -/
def Anchor.holds (m : Mode) (a : Anchor) (before after : Option Char) : Bool :=
  let word (c : Option Char) : Bool := c.any isWordChar
  match a with
  | .lineStart => before.isNone || (m.lines && before == some '\n')
  | .lineEnd => after.isNone || (m.lines && after == some '\n')
  | .textStart => before.isNone
  | .textEnd => after.isNone
  | .wordStart => !word before && word after
  | .wordEnd => word before && !word after
  | .wordEdge => word before != word after
  | .noWordEdge => word before == word after
  | .noWordBefore => !word before
  | .noWordAfter => !word after

namespace Node

/-- Some part is asked for again. -/
def recalls : Node → Bool
  | pair a b => a.recalls || b.recalls
  | either a b => a.recalls || b.recalls
  | repeated n _ _ => n.recalls
  | group _ n => n.recalls
  | again _ => true
  | _ => false

/-- The number of parts. -/
def groups : Node → Nat
  | pair a b => max a.groups b.groups
  | either a b => max a.groups b.groups
  | repeated n _ _ => n.groups
  | group k n => max k n.groups
  | _ => 0

/-- The characters of a text one behind another. -/
def literal (text : List Char) : Node :=
  text.foldr (fun c n => .pair (.single (.one c)) n) .empty

end Node

/-- Where an expression has been found: the places of its beginning and end, and those of its
parts by number. -/
structure Match where
  start : Nat
  stop : Nat
  groups : List (Nat × Nat × Nat)
  deriving DecidableEq, Repr

/-- The beginning and the end of a part; the number zero stands for all. -/
def Match.group? (m : Match) (n : Nat) : Option (Nat × Nat) :=
  if n = 0 then some (m.start, m.stop) else m.groups.lookup n

end Regex

end Enquiry
