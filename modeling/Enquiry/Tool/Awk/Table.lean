import Enquiry.Tool.Awk.Value
import Std.Data.HashMap

/-!
# Arrays of the record processor

The elements of an array are found by texts, or by numbers as long as no text has been asked for. A
loop over the keys meets them in the order of rows into which they have been put: a key belongs to
a row by a number that is made from its characters, it is put at the front of the row, and it moves
there when it is asked for.
-/

namespace Enquiry.Tool.Awk

open Host Text

/-- A key that is asked for. -/
inductive Key where
  | number (n : Int)
  | text (t : Octets)
  deriving DecidableEq, Repr

/-- The hash of a character is that of its code. -/
instance hashableChar : Hashable Char := instHashableChar

structure Table where
  cells : Std.HashMap Octets Value
  size : Nat
  /-- The rows of keys that are texts. There are none as long as all keys are numbers. -/
  texts : Option (Array (List Octets))
  /-- The rows of keys that have been asked for as numbers. -/
  numbers : Array (List Int)
  /-- The elements have come one behind another, and nothing else has been asked for. -/
  isRow : Bool

namespace Table

/-- How many rows there are at first, and how many keys stand in a row on average at most. -/
def firstRows : Nat := 64

def maxAverage : Nat := 12

def empty : Table := ⟨∅, 0, none, Array.replicate firstRows [], false⟩

instance : Inhabited Table := ⟨empty⟩

/-- The number that decides about the row of a text. -/
def mixed (t : Octets) : UInt32 :=
  t.foldl (fun (h : UInt32) c => (h ^^^ c.toNat.toUInt32) * 16777619) 2166136261

def rowOfText (rows : Nat) (t : Octets) : Nat := (mixed t).toNat % rows

def rowOfNumber (rows : Nat) (n : Int) : Nat := (n % rows).toNat

/-- Twice as many rows: each is divided, and the keys keep their order. -/
def divided {κ : Type} (row : Nat → κ → Nat) (rows : Array (List κ)) : Array (List κ) :=
  let size := rows.size
  let parts (upper : Bool) : List (List κ) :=
    rows.toList.zipIdx.map fun (keys, i) =>
      keys.filter fun k => (row (2 * size) k != i) == upper
  (parts false ++ parts true).toArray

/-- A key moves to the front of its row, into which it may be put. -/
def inFront {κ : Type} [BEq κ] (rows : Array (List κ)) (i : Nat) (k : κ) : Array (List κ) :=
  rows.modify i fun keys =>
    match keys with
    | [] => [k]
    | first :: _ => if first == k then keys else k :: keys.filter (· != k)

/-- Puts all keys that are numbers into the rows of texts. -/
def withTexts (t : Table) : Table :=
  match t.texts with
  | some _ => t
  | none =>
      let rows := t.numbers.size
      let texts := t.numbers.foldl
        (fun texts keys => keys.foldl
          (fun (texts : Array (List Octets)) n =>
            let key := signed n
            texts.modify (rowOfText rows key) (key :: ·)) texts)
        (Array.replicate rows [])
      { t with texts := some texts, isRow := false }

/-- There is a key more. -/
def grown (t : Table) : Table :=
  let t := { t with size := t.size + 1 }
  if maxAverage * t.numbers.size < t.size then
    { t with
      texts := t.texts.map (divided rowOfText)
      numbers := divided rowOfNumber t.numbers }
  else t

/-- The text of a key. -/
def keyText : Key → Octets
  | .number n => signed n
  | .text t => t

/-- The table after a text has been asked for, which is put in if that is wanted. -/
def touchText (t : Table) (key : Octets) (creates : Bool) : Table :=
  let t := t.withTexts
  let present := t.cells.contains key
  if !present && !creates then t
  else
    let t := if present then t
      else { t with cells := t.cells.insert key .unset }.grown
    { t with texts := t.texts.map fun rows => inFront rows (rowOfText rows.size key) key }

/-- The table after a number has been asked for, which is put in if that is wanted. -/
def touchNumber (t : Table) (n : Int) (creates : Bool) : Table :=
  let key := signed n
  let present := t.cells.contains key
  if t.isRow && present then t
  else if !present && !creates then t
  else
    let known := present && (t.numbers[rowOfNumber t.numbers.size n]?).any (·.contains n)
    let t := { t with isRow := false }
    let t := if known then t
      else if t.texts.isSome then t.touchText key true
      else if present then t
      else { t with cells := t.cells.insert key .unset }.grown
    { t with numbers := inFront t.numbers (rowOfNumber t.numbers.size n) n }

/-- The table after a key has been asked for. -/
def touch (t : Table) (key : Key) (creates : Bool) : Table :=
  if t.size = 0 ∧ !creates then t
  else match key with
    | .number n => t.touchNumber n creates
    | .text key => t.touchText key creates

def contains (t : Table) (key : Key) : Bool := t.cells.contains (keyText key)

def get (t : Table) (key : Key) : Value := (t.cells[keyText key]?).getD .unset

/-- Sets an element that is there. -/
def set (t : Table) (key : Key) (v : Value) : Table :=
  { t with cells := t.cells.insert (keyText key) v }

def erase (t : Table) (key : Key) : Table :=
  let text := keyText key
  if !t.cells.contains text then t
  else if t.size = 1 then empty
  else
    { t with
      cells := t.cells.erase text
      size := t.size - 1
      isRow := false
      texts := t.texts.map fun rows => rows.modify (rowOfText rows.size text) (·.erase text)
      numbers := match key, number? text with
        | .number n, _ => t.numbers.modify (rowOfNumber t.numbers.size n) (·.erase n)
        | .text _, some n => t.numbers.modify (rowOfNumber t.numbers.size n) (·.erase (n : Int))
        | .text _, none => t.numbers }

/-- The keys in their order, and the table after all of them have been asked for. -/
def keys (t : Table) : List Octets × Table :=
  if t.size = 0 then ([], t)
  else
    let t := t.withTexts
    (((t.texts.getD #[]).toList).flatten, t)

/-- The table of some values that are numbered from one on. -/
def ofRow (values : List Value) : Table :=
  let t := values.zipIdx.foldl
    (fun (t : Table) (v, i) =>
      let n : Int := i + 1
      let t := { t with cells := t.cells.insert (signed n) v }.grown
      { t with numbers := t.numbers.modify (rowOfNumber t.numbers.size n) (n :: ·) }) empty
  { t with isRow := true }

end Table

end Enquiry.Tool.Awk
