import Enquiry.Json.Value
import Enquiry.Number.Notation

/-!
# Writing JSON

`Value.compact` writes a value without blanks. `Value.pretty` puts each element and each member on
a line of its own, two spaces deeper than the bracket around it; an empty array or object stays on
its line.

In a string only the quote, the backslash and the control characters below U+0020 are escaped;
everything else stands for itself.
-/

namespace Enquiry.Json

open Text Number

/-- A control character as `\u` and four hexadecimal digits. -/
def unicodeEscape (n : Nat) : List Char :=
  ['\\', 'u', '0', '0', hexChar (n / 16), hexChar (n % 16)]

/-- A character inside a string. -/
def escapeChar (c : Char) : List Char :=
  if c = '"' then ['\\', '"']
  else if c = '\\' then ['\\', '\\']
  else if 0x20 ≤ c.toNat then [c]
  else if c.toNat = 0x08 then ['\\', 'b']
  else if c.toNat = 0x09 then ['\\', 't']
  else if c.toNat = 0x0A then ['\\', 'n']
  else if c.toNat = 0x0C then ['\\', 'f']
  else if c.toNat = 0x0D then ['\\', 'r']
  else unicodeEscape c.toNat

/-- A string in quotes. -/
def quote (s : String) : List Char := '"' :: s.toList.flatMap escapeChar ++ ['"']

def Numeric.chars : Numeric → List Char
  | .integer n => withMinus (n < 0) (decimal n.natAbs)
  | .real x => x.general

mutual

/-- A value without blanks. -/
def Value.compactChars : Value → List Char
  | .null => "null".toList
  | .bool true => "true".toList
  | .bool false => "false".toList
  | .number n => n.chars
  | .string s => quote s
  | .array items => '[' :: compactItems items
  | .object members => '{' :: compactMembers members

/-- The elements of an array and its closing bracket. -/
def compactItems : List Value → List Char
  | [] => [']']
  | [v] => v.compactChars ++ [']']
  | v :: w :: vs => v.compactChars ++ ',' :: compactItems (w :: vs)

/-- The members of an object and its closing brace. -/
def compactMembers : List (String × Value) → List Char
  | [] => ['\x7d']
  | [(name, v)] => quote name ++ ':' :: v.compactChars ++ ['\x7d']
  | (name, v) :: m :: ms => quote name ++ ':' :: v.compactChars ++ ',' :: compactMembers (m :: ms)

end

/-- The value without blanks, as a string. -/
def Value.compact (v : Value) : String := String.ofList v.compactChars

/-- An object without blanks, as a string. -/
def compactObject (members : Members) : String := (Value.object members).compact

/-- A new line at a depth. -/
def newLine (depth : Nat) : List Char := '\n' :: List.replicate (2 * depth) ' '

mutual

/-- A value whose inner brackets are indented below `depth`. -/
def Value.prettyChars (depth : Nat) : Value → List Char
  | .array (v :: vs) =>
      '[' :: newLine (depth + 1) ++ v.prettyChars (depth + 1) ++ prettyItems (depth + 1) vs ++
        newLine depth ++ [']']
  | .object ((name, v) :: ms) =>
      '{' :: newLine (depth + 1) ++ quote name ++ ':' :: ' ' :: v.prettyChars (depth + 1) ++
        prettyMembers (depth + 1) ms ++ newLine depth ++ ['\x7d']
  | .array [] => ['[', ']']
  | .object [] => ['{', '\x7d']
  | .null => "null".toList
  | .bool true => "true".toList
  | .bool false => "false".toList
  | .number n => n.chars
  | .string s => quote s

/-- Further elements of an array, each on a line of its own. -/
def prettyItems (depth : Nat) : List Value → List Char
  | [] => []
  | v :: vs => ',' :: newLine depth ++ v.prettyChars depth ++ prettyItems depth vs

/-- Further members of an object, each on a line of its own. -/
def prettyMembers (depth : Nat) : List (String × Value) → List Char
  | [] => []
  | (name, v) :: ms =>
      ',' :: newLine depth ++ quote name ++ ':' :: ' ' :: v.prettyChars depth ++
        prettyMembers depth ms

end

/-- The value on many lines, as a string. -/
def Value.pretty (v : Value) : String := String.ofList (v.prettyChars 0)

end Enquiry.Json
