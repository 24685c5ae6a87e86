import Enquiry.Assignment
import Enquiry.Number.Binary64

/-!
# JSON values

A number is an integer or a number of double precision: `1` and `1.0` are two values. An object
keeps its members in the order in which their names first appeared; a name appears once, with the
value given last.
-/

namespace Enquiry.Json

open Number

/-- A JSON number. -/
inductive Numeric where
  | integer (n : Int)
  | real (x : Binary64)
  deriving DecidableEq, Repr

inductive Value where
  | null
  | bool (b : Bool)
  | number (n : Numeric)
  | string (s : String)
  | array (items : List Value)
  | object (members : List (String × Value))
  deriving Repr, Inhabited

/-- The members of an object. -/
abbrev Members := List (String × Value)

/-- The members given one after another. -/
def membersOf (pairs : Members) : Members :=
  pairs.foldl (fun members (name, v) => assign name v members) []

namespace Value

/-- A natural number. -/
def nat (n : Nat) : Value := .number (.integer n)

/-- A string or `null`. -/
def string? : Option String → Value
  | none => .null
  | some s => .string s

/-- A list of strings. -/
def strings (ss : List String) : Value := .array (ss.map .string)

/-- The members, if the value is an object. -/
def members? : Value → Option Members
  | .object members => some members
  | _ => none

/-- The value is `null`. -/
def isNull : Value → Bool
  | .null => true
  | _ => false

end Value

end Enquiry.Json
