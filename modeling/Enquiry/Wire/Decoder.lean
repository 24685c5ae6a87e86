import Enquiry.Json.Printer
import Enquiry.Json.Reader
import Enquiry.Number.Word
import Enquiry.SortedMap

/-!
# Values as JSON text

`write` gives the text of a value, `read?` the value of a text. Reading is more generous than
writing: a structure may also be an array of its fields in order, its members may come in any
order, and unknown members are passed over, whatever they hold. A member may not appear twice.
A field that has a default may be left out; one that is optional may be left out of an object, or
be `null`.
-/

namespace Enquiry.Wire

open Json Number

/-- Types whose values have a JSON form. -/
class Encodes (α : Type) where
  json : α → Value

/-- Reads a value from the shape of a text, in which so many brackets may still nest. -/
abbrev Decoder (α : Type) := Nat → Written → Option α

/-- Types whose values can be read from JSON. -/
class Decodes (α : Type) where
  decoder : Decoder α

/-- The text of a value. -/
def write [Encodes α] (a : α) : String := (Encodes.json a).compact

/-- The value of a text. -/
def read? (α : Type) [Decodes α] (text : String) : Option α :=
  (Written.read? text.length text.toList).bind (Decodes.decoder maxLevels)

/-! ### Scalars, lists and maps -/

def text : Decoder String
  | _, .string points => stringOf? points
  | _, _ => none

def boolean : Decoder Bool
  | _, .bool b => some b
  | _, _ => none

/-- The largest number of 64 bits without a sign. -/
def maxNatural : Nat := wordBound - 1

/-- A number of 64 bits without a sign, written as an integer. -/
def natural : Decoder Nat
  | _, .number n =>
      match n.value? with
      | some (.integer i) => if 0 ≤ i ∧ i ≤ maxNatural then some i.toNat else none
      | _ => none
  | _, _ => none

def word64 : Decoder UInt64 := fun levels w => (natural levels w).map UInt64.ofNat

/-- A number of double precision, which may be written as an integer. -/
def double : Decoder Binary64
  | _, .number n =>
      match n.value? with
      | some (.integer i) => Binary64.ofInt? i
      | some (.real x) => some x
      | none => none
  | _, _ => none

/-- What a decoder reads, or `null`. -/
def nullable (d : Decoder α) : Decoder (Option α)
  | _, .null => some none
  | levels, w => (d levels w).map some

def list (d : Decoder α) : Decoder (List α)
  | levels + 1, .array items => items.mapM (d levels)
  | _, _ => none

/-- An object with any members. -/
def record : Decoder Members := fun levels w => (w.value? levels).bind Value.members?

/-- The members of an object, each read in the same way. -/
def entries? (d : Decoder α) (levels : Nat) (members : List (List Nat × Written)) :
    Option (List (String × α)) :=
  members.mapM fun (name, w) => do some (← stringOf? name, ← d levels w)

/-- An object with any names. Of members with the same name the last counts. -/
def map (d : Decoder α) : Decoder (SortedMap α)
  | levels + 1, .object members => (entries? d levels members).map SortedMap.ofList
  | _, _ => none

/-! ### Structures -/

/-- The fields of a structure that are there. -/
structure Fields where
  levels : Nat
  /-- They come from an array. -/
  positional : Bool
  entries : List (String × Written)

namespace Fields

/-- A field that has to be there. -/
def required (f : Fields) (name : String) (d : Decoder α) : Option α :=
  (f.entries.lookup name).bind (d f.levels)

/-- A field that may be `null`, or be missing from an object. -/
def optional (f : Fields) (name : String) (d : Decoder α) : Option (Option α) :=
  match f.entries.lookup name with
  | some w => nullable d f.levels w
  | none => if f.positional then none else some none

/-- A field that may be missing. -/
def defaulted (f : Fields) (name : String) (d : Decoder α) (value : α) : Option α :=
  match f.entries.lookup name with
  | some w => d f.levels w
  | none => some value

end Fields

/-- The members of an object whose names are among the given ones, unless one of them appears
twice. -/
def knownMembers? (names : List String) :
    List (List Nat × Written) → Option (List (String × Written))
  | [] => some []
  | (points, w) :: members =>
      match stringOf? points, knownMembers? names members with
      | some name, some known =>
          if name ∉ names then some known
          else if (known.lookup name).isSome then none
          else some ((name, w) :: known)
      | _, _ => none

/-- A structure with the given fields. -/
def struct (names : List String) (build : Fields → Option α) : Decoder α
  | levels + 1, .object members =>
      (knownMembers? names members).bind fun entries => build ⟨levels, false, entries⟩
  | levels + 1, .array items =>
      if items.length ≤ names.length then build ⟨levels, true, names.zip items⟩ else none
  | _, _ => none

/-! ### Variants -/

/-- Reads only texts that mean something as a whole: nothing is passed over unread. -/
def whole (d : Decoder α) : Decoder α := fun levels w =>
  if (w.value? levels).isSome then d levels w else none

/-- The value of the one member with a name, and the other members. -/
def takeMember? (name : String) (members : List (List Nat × Written)) :
    Option (Written × List (List Nat × Written)) :=
  let isTag (m : List Nat × Written) := stringOf? m.1 == some name
  match members.filter isTag with
  | [(_, w)] => some (w, members.filter fun m => !isTag m)
  | _ => none

/-- A variant that is named by one member, or by the first element of an array, and has its fields
in the rest. -/
def tagged (tag : String) (branch : String → Decoder α) : Decoder α :=
  whole fun levels w =>
    match w with
    | .object members =>
        (takeMember? tag members).bind fun (w, rest) =>
          (text levels w).bind fun name => branch name levels (.object rest)
    | .array (w :: rest) =>
        (text levels w).bind fun name => branch name levels (.array rest)
    | _ => none

/-- Objects only. -/
def objectOnly (d : Decoder α) : Decoder α
  | levels, .object members => d levels (.object members)
  | _, _ => none

/-! ### Writing -/

/-- A member that is left out when there is no value. -/
def ifSome (name : String) (v : Option String) : List (String × Value) :=
  (v.map fun s => (name, Value.string s)).toList

/-- A map as an object. -/
def mapJson (f : α → Value) (m : SortedMap α) : Value :=
  .object (m.entries.map fun (name, a) => (name, f a))

end Enquiry.Wire
