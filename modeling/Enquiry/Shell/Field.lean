import Enquiry.Shell.Pattern

/-!
# Fields

What a word becomes when its parts are put together: pieces, of which some are still to be divided
into fields. A loose piece is divided at the characters of a set; blanks of that set are taken
together. An exact piece is divided only where two arguments meet.
-/

namespace Enquiry.Shell

open Host

inductive Cell where
  /-- A quoted character stands for itself in patterns. -/
  | char (c : Char) (quoted : Bool)
  /-- Quotes have stood here. -/
  | mark
  /-- Two arguments meet here. -/
  | gap
  deriving DecidableEq, Repr

/-- How a piece is divided. -/
inductive Region where
  | whole | loose | exact
  deriving DecidableEq, Repr

structure Piece where
  region : Region
  cells : List Cell
  deriving DecidableEq, Repr

/-- One field of a word. -/
abbrev Field := List Cell

namespace Cell

def char? : Cell → Option Char
  | .char c _ => some c
  | _ => none

def marked? : Cell → Option Marked
  | .char c quoted => some (c, quoted)
  | _ => none

end Cell

namespace Field

/-- The characters of a field. -/
def text (f : Field) : Octets := f.filterMap Cell.char?

/-- The characters with their marks. -/
def marked (f : Field) : List Marked := f.filterMap Cell.marked?

end Field

namespace Piece

/-- Characters that are kept together. -/
def ofText (quoted : Bool) (text : Octets) : Piece := ⟨.whole, text.map (.char · quoted)⟩

/-- Characters that are divided unless they are quoted. -/
def ofValue (quoted : Bool) (text : Octets) : Piece :=
  ⟨if quoted then .whole else .loose, text.map (.char · quoted)⟩

/-- All cells of some pieces. -/
def join (pieces : List Piece) : Field := pieces.flatMap Piece.cells

end Piece

/-! ### Dividing -/

/-- The characters that separate fields when nothing else is said. -/
def blanks : Octets := [' ', '\t', '\n']

/-- Fields that are being divided. -/
structure Division where
  /-- The latest first. -/
  fields : List Field
  /-- The cells of the present field, the latest first. -/
  current : Field
  /-- The last separator was a blank behind a field. -/
  inBlank : Bool
  /-- The last piece was exact. -/
  exact : Bool
  /-- How many fields may still be begun, if not any number. -/
  left : Option Nat
  /-- The last field ends behind so many of its cells, if nothing more comes. -/
  stop : Option Nat

namespace Division

def begin (left : Option Nat) : Division := ⟨[], [], false, false, left, none⟩

def add (d : Division) (c : Cell) : Division := { d with current := c :: d.current }

/-- Ends the present field. -/
def close (d : Division) : Division :=
  { d with fields := d.current.reverse :: d.fields, current := [] }

/-- Does a cell separate fields, and as a blank? -/
def separates (set : Octets) (exact : Bool) : Cell → Bool × Bool
  | .gap => (true, true)
  | .mark => (false, false)
  | .char c _ =>
      let separator := !exact && set.contains c
      (separator, separator && blanks.contains c)

/-- A cell of the last field. -/
def stepLast (d : Division) (cell : Cell) (separator blank : Bool) : Division :=
  if blank then
    { d.add cell with stop := some (d.stop.getD d.current.length) }
  else
    { d.add cell with stop := if separator && d.inBlank then d.stop else none, inBlank := false }

/-- A separator behind or in front of a field. `close` says that the pieces around it are exact. -/
def separate (d : Division) (cell : Cell) (near blank : Bool) : Division :=
  let inBlank := if near then d.inBlank else blank
  if d.current.isEmpty && inBlank then { d with inBlank := false }
  else match d.left with
    | none => { d.close with inBlank }
    | some n =>
        if n ≤ 1 then { d.add cell with inBlank, left := some 0, stop := some d.current.length }
        else { d.close with inBlank, left := some (n - 1) }

/-- A cell of a piece that is divided. `near` says that this piece or the one before it is
exact. -/
def step (set : Octets) (near : Bool) (d : Division) (cell : Cell) : Division :=
  let (separator, blank) := separates set d.exact cell
  if d.left = some 0 then d.stepLast cell separator blank
  else if d.inBlank then
    if separator then { d with current := [], inBlank := blank }
    else { d.add cell with inBlank := false }
  else if separator then d.separate cell near blank
  else d.add cell

/-- The cells of a piece. -/
def piece (set : Octets) (d : Division) (p : Piece) : Division :=
  let divided (exact : Bool) : Division :=
    p.cells.foldl (step set (d.exact || exact)) { d with exact, inBlank := false }
  match p.region with
  | .whole => p.cells.foldl add d
  | .loose => divided false
  | .exact => divided true

/-- The fields, when all pieces have been added. An exact piece has a last field in any case. -/
def finish (d : Division) : List Field :=
  let d := match d.stop with
    | some n => { d with current := d.current.drop (d.current.length - n) }
    | none => d
  (if d.exact || !d.current.isEmpty then d.close else d).fields.reverse

end Division

/-- The fields of some pieces, at most so many if a number is given. -/
def Piece.fields (set : Octets) (left : Option Nat) (pieces : List Piece) : List Field :=
  (pieces.foldl (Division.piece set) (.begin left)).finish

end Enquiry.Shell
