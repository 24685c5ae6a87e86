import Enquiry.Number.Notation
import Enquiry.Text.Integer
import Enquiry.Tool.Script.Machine

/-!
# Texts of values

Each value has two texts: one to be read by people, and one that shows what it is, in which texts
stand in quotes.
-/

namespace Enquiry.Tool.Script

open Host Text Number

/-! ### Numbers -/

/-- The decimal exponents that are written in positional notation. -/
def isPlainPower (power : Int) : Bool := -4 ≤ power && power < 16

/-- The fewest digits that read back. An exponent has at least two digits. -/
def realText (x : Float) : List Char :=
  match Extended.ofFloat x with
  | .infinite negative => withMinus negative "inf".toList
  | .undefined _ => "nan".toList
  | .finite x =>
      withMinus x.negative <|
        if x.isZero then "0.0".toList
        else
          let p := (shortest x).placed
          if isPlainPower (p.point - 1) then p.positional ".0".toList
          else (p.scientific.takeWhile (· != 'e')) ++ 'e' :: Extended.powerText (p.point - 1)

/-- The whole number that a number is without its places. -/
def truncated? (x : Float) : Option Int :=
  match Extended.ofFloat x with
  | .finite x =>
      let (num, den) := x.ratio
      let n : Int := num / den
      some (if x.negative then -n else n)
  | _ => none

/-- The whole number that a number is, if it is one. -/
def wholeOf? (x : Float) : Option Int := do
  let n ← truncated? x
  if Float.ofInt n == x then some n else none

/-- The number nearest to a whole one. -/
def realOf (n : Int) : Float :=
  match Binary64.ofInt? n with
  | some x => (Extended.finite x).toFloat
  | none => (Extended.infinite (n < 0)).toFloat

/-! ### Quotes -/

/-- A number in base sixteen with as many digits. -/
def hexFilled (count n : Nat) : List Char :=
  let digits := Nat.toDigits 16 n
  List.replicate (count - digits.length) '0' ++ digits

/-- A character is shown as it is. -/
def isShown (c : Char) : Bool :=
  let n := c.toNat
  (0x20 ≤ n && n < 0x7F) ||
    (0xA1 ≤ n && n != 0xAD && !(0x2000 ≤ n && n ≤ 0x200F) && !(0x2028 ≤ n && n ≤ 0x202F) &&
      !(0x205F ≤ n && n ≤ 0x206F) && n != 0x3000 && n != 0xFEFF && !(0xE000 ≤ n && n ≤ 0xF8FF))

/-- A character between quotes. With `plain` only characters of ASCII are shown. -/
def shownChar (quote : Char) (plain : Bool) (c : Char) : List Char :=
  if c = quote ∨ c = '\\' then ['\\', c]
  else if c = '\n' then ['\\', 'n']
  else if c = '\r' then ['\\', 'r']
  else if c = '\t' then ['\\', 't']
  else if isShown c && (!plain || c.toNat < 0x80) then [c]
  else if c.toNat < 0x100 then '\\' :: 'x' :: hexFilled 2 c.toNat
  else if c.toNat < 0x10000 then '\\' :: 'u' :: hexFilled 4 c.toNat
  else '\\' :: 'U' :: hexFilled 8 c.toNat

/-- A text in quotes: double ones if only single ones stand in it. -/
def inQuotes (plain : Bool) (text : List Char) : List Char :=
  let quote := if text.contains '\'' && !text.contains '"' then '"' else '\''
  quote :: text.flatMap (shownChar quote plain) ++ [quote]

/-- Things between commas. -/
def listed (parts : List (List Char)) : List Char := List.intercalate ", ".toList parts

namespace Running

/-! ### Values -/

/-- How deep values may nest that are written. -/
def maxDepth : Nat := 400

section

variable (apply : Apply)

mutual

/-- The text that shows what a value is. The first argument bounds the depth. -/
def shownFrom : Nat → Value → Running (List Char)
  | 0, _ => raiseText "RecursionError" "maximum recursion depth exceeded while getting the repr of an object"
  | n + 1, v => do
      match v with
      | .none => return "None".toList
      | .bool b => return (if b then "True" else "False").toList
      | .whole k => return Host.signed k
      | .real x => return realText x
      | .text t => return inQuotes false t
      | .bytes t => return 'b' :: inQuotes true t
      | .tuple [x] => return '(' :: (← shownFrom n x) ++ ",)".toList
      | .tuple items => return '(' :: listed (← shownAll n items) ++ [')']
      | .range a b 1 => return "range(".toList ++ listed [Host.signed a, Host.signed b] ++ [')']
      | .range a b c =>
          return "range(".toList ++ listed [Host.signed a, Host.signed b, Host.signed c] ++ [')']
      | .slice a b c => return "slice(".toList ++ listed (← shownAll n [a, b, c]) ++ [')']
      | .ellipsis => return "Ellipsis".toList
      | .builtin name =>
          if valueKinds.contains name || isFaultKind name || name == "NoneType" then
            return "<class '".toList ++ name.toList ++ "'>".toList
          return "<built-in function ".toList ++ shortName name ++ ">".toList
      | .method self name =>
          return "<built-in method ".toList ++ name.toList ++ " of ".toList ++
            (← kindNameOf self) ++ " object at 0x7f0000000000>".toList
      | .bound f self =>
          match ← object f with
          | .function f =>
              return "<bound method ".toList ++ f.title.toList ++ " of ".toList ++
                (← shownFrom n self) ++ ">".toList
          | _ => return "<bound method>".toList
      | .module name => return "<module '".toList ++ name.toList ++ "' (built-in)>".toList
      | .raw _ => return "<_io.BufferedWriter name='<stdout>'>".toList
      | .above _ _ => return "<super>".toList
      | .object k =>
          let own? ← ownMethod? v "__repr__"
          match own? with
          | some f =>
              match ← apply f [] [] with
              | .text t => return t
              | _ => raiseText "TypeError" "__repr__ returned non-string"
          | none =>
              match ← object k with
              | .list items => return '[' :: listed (← shownAll n items.toList) ++ [']']
              | .dict d => return '\x7b' :: listed (← shownEntries n d.pairs) ++ ['\x7d']
              | .set d =>
                  if d.size = 0 then return "set()".toList
                  return '\x7b' :: listed (← shownAll n d.keys) ++ ['\x7d']
              | .function f =>
                  return "<function ".toList ++ f.title.toList ++ " at 0x7f0000000000>".toList
              | .kind k => return "<class '__main__.".toList ++ k.name.toList ++ "'>".toList
              | .individual kind _ =>
                  return "<__main__.".toList ++ (← kindName (.object kind)) ++
                    " object at 0x7f0000000000>".toList
              | .fault f =>
                  return (← kindName f.kind) ++ '(' :: listed (← shownAll n f.args) ++ [')']
              | .cursor _ => return "<generator object at 0x7f0000000000>".toList
              | .held way _ => return "<".toList ++ way.toList ++ " object at 0x7f0000000000>".toList
              | .stream s =>
                  return "<_io.TextIOWrapper name=".toList ++ inQuotes false s.name ++
                    " mode='".toList ++ (if s.writes then ['w'] else ['r']) ++
                    "' encoding='utf-8'>".toList

def shownAll : Nat → List Value → Running (List (List Char))
  | _, [] => return []
  | 0, _ => return []
  | n + 1, v :: rest => do
      let t ← shownFrom n v
      return t :: (← shownAll n rest)

def shownEntries : Nat → List (Value × Value) → Running (List (List Char))
  | _, [] => return []
  | 0, _ => return []
  | n + 1, (k, v) :: rest => do
      let t ← shownFrom n k
      let u ← shownFrom n v
      return (t ++ ':' :: ' ' :: u) :: (← shownEntries n rest)

end

/-- How many steps the writing of a value may take, one inside the other. -/
def maxShown : Nat := 1000000

/-- The text that shows what a value is. -/
def shown (v : Value) : Running (List Char) := shownFrom apply maxShown v

/-- The text of a fault. -/
def faultText (f : Fault) (own : Value → Running (List Char)) : Running (List Char) := do
  let isCall ← belongs maxKinds f.kind (.builtin "OSError")
  let isKey ← belongs maxKinds f.kind (.builtin "KeyError")
  match f.args with
  | [] => return []
  | [v] => if isKey then shown apply v else own v
  | [number, what] =>
      if isCall then
        let front := "[Errno ".toList ++ (← shown apply number) ++ "] ".toList ++ (← own what)
        match f.attributes.lookup "filename" with
        | some path => return front ++ ": ".toList ++ (← shown apply path)
        | none => return front
      else shown apply (.tuple f.args)
  | args => shown apply (.tuple args)

/-- The text of a value that is to be read by people. The first argument bounds the depth. -/
def textFrom : Nat → Value → Running (List Char)
  | 0, v => shown apply v
  | n + 1, v => do
      match v with
      | .text t => return t
      | .object k =>
          match ← ownMethod? v "__str__" with
          | some f =>
              match ← apply f [] [] with
              | .text t => return t
              | _ => raiseText "TypeError" "__str__ returned non-string"
          | none =>
              match ← object k with
              | .fault f => faultText apply f (textFrom n)
              | _ => shown apply v
      | v => shown apply v

/-- The text of a value that is to be read by people. -/
def textOf (v : Value) : Running (List Char) := textFrom apply maxDepth v

end

/-! ### Conditions -/

/-- How large a value is that has parts. -/
def sizeOf? (v : Value) : Running (Option Nat) := do
  match v with
  | .text t => return some t.length
  | .bytes t => return some t.length
  | .tuple items => return some items.length
  | .range a b c =>
      if 0 < c then return some ((b - a + c - 1) / c).toNat
      return some ((a - b - c - 1) / (-c)).toNat
  | .object n =>
      match ← object n with
      | .list items => return some items.size
      | .dict d => return some d.size
      | .set d => return some d.size
      | _ => return none
  | _ => return none

/-- A value counts as true. -/
def holds (v : Value) : Running Bool := do
  match v with
  | .none => return false
  | .bool b => return b
  | .whole n => return n != 0
  | .real x => return !(x == 0)
  | v =>
      match ← sizeOf? v with
      | some n => return n != 0
      | none => return true

end Running

end Enquiry.Tool.Script
