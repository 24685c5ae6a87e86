import Enquiry.Tool.Script.Filling

/-!
# Operations on values

What the signs between two values do. Whole numbers have no bounds; their quotients are rounded
down, and a remainder has the sign of what is divided by.
-/

namespace Enquiry.Tool.Script

open Host Text Number

/-- The name by which a kind of values offers an operation. -/
def Operation.offered : Operation → String
  | add => "__add__"
  | subtract => "__sub__"
  | multiply => "__mul__"
  | divide => "__truediv__"
  | quotient => "__floordiv__"
  | remainder => "__mod__"
  | power => "__pow__"
  | shiftLeft => "__lshift__"
  | shiftRight => "__rshift__"
  | both => "__and__"
  | either => "__or__"
  | other => "__xor__"

/-- The bits of a negative number are the complement of those of the number above its absolute
value; `f` joins single bits, as long as the numbers have any. The first argument bounds their
number. -/
def joinBits (f : Bool → Bool → Bool) : Nat → Int → Int → Int
  | 0, a, b => if f (a < 0) (b < 0) then -1 else 0
  | n + 1, a, b =>
      let bit (x : Int) : Bool := x % 2 == 1
      2 * joinBits f n (Int.fdiv a 2) (Int.fdiv b 2) + if f (bit a) (bit b) then 1 else 0

/-- Two numbers joined bit by bit. -/
def joinedBits (f : Bool → Bool → Bool) (a b : Int) : Int :=
  joinBits f (max a.natAbs.log2 b.natAbs.log2 + 2) a b

/-- The remainder with the sign of what is divided by. -/
def realRemainder (x y : Float) : Float :=
  let r := x - y * (x / y).floor
  if r == 0 then (if y < 0 then -0.0 else 0.0) else r

/-- Rows one behind another, so many times. -/
def repeated {α : Type} (n : Int) (xs : List α) : List α := (List.replicate n.toNat xs).flatten

/-- The largest size of a row that is repeated. -/
def maxRow : Int := 100000000

namespace Running

/-- An operation on whole numbers. -/
def wholeOperation (op : Operation) (a b : Int) : Running Value := do
  match op with
  | .add => return .whole (a + b)
  | .subtract => return .whole (a - b)
  | .multiply => return .whole (a * b)
  | .divide =>
      if b = 0 then raiseText "ZeroDivisionError" "division by zero"
      match Binary64.ofRatio? a.natAbs b.natAbs with
      | some x => return .real (Extended.finite (x.withSign ((a < 0) != (b < 0) && a != 0))).toFloat
      | none => raiseText "OverflowError" "integer division result too large for a float"
  | .quotient =>
      if b = 0 then raiseText "ZeroDivisionError" "integer division or modulo by zero"
      return .whole (Int.fdiv a b)
  | .remainder =>
      if b = 0 then raiseText "ZeroDivisionError" "integer modulo by zero"
      return .whole (Int.fmod a b)
  | .power =>
      if 0 ≤ b then return .whole (Int.pow a b.toNat)
      if a = 0 then raiseText "ZeroDivisionError" "0.0 cannot be raised to a negative power"
      return .real (Float.pow (realOf a) (realOf b))
  | .shiftLeft =>
      if b < 0 then raiseText "ValueError" "negative shift count"
      return .whole (a * Int.pow 2 b.toNat)
  | .shiftRight =>
      if b < 0 then raiseText "ValueError" "negative shift count"
      return .whole (Int.fdiv a (Int.pow 2 b.toNat))
  | .both => return .whole (joinedBits (· && ·) a b)
  | .either => return .whole (joinedBits (· || ·) a b)
  | .other => return .whole (joinedBits (· != ·) a b)

/-- An operation on numbers of double precision. -/
def realOperation (op : Operation) (x y : Float) : Running (Option Value) := do
  match op with
  | .add => return some (.real (x + y))
  | .subtract => return some (.real (x - y))
  | .multiply => return some (.real (x * y))
  | .divide =>
      if y == 0 then raiseText "ZeroDivisionError" "float division by zero"
      return some (.real (x / y))
  | .quotient =>
      if y == 0 then raiseText "ZeroDivisionError" "float floor division by zero"
      return some (.real (x / y).floor)
  | .remainder =>
      if y == 0 then raiseText "ZeroDivisionError" "float modulo"
      return some (.real (realRemainder x y))
  | .power =>
      if x == 0 && y < 0 then
        raiseText "ZeroDivisionError" "0.0 cannot be raised to a negative power"
      return some (.real (Float.pow x y))
  | _ => return none

/-- A row repeated so many times. -/
def repeat? (n : Int) (v : Value) : Running (Option Value) := do
  let fits (size : Nat) : Running Unit := do
    if maxRow < n * size then raiseWith "MemoryError" []
  match v with
  | .text t =>
      fits t.length
      return some (.text (repeated n t))
  | .bytes t =>
      fits t.length
      return some (.bytes (repeated n t))
  | .tuple items =>
      fits items.length
      return some (.tuple (repeated n items))
  | .object k =>
      match ← object k with
      | .list items =>
          fits items.size
          return some (← makeList (repeated n items.toList))
      | _ => return none
  | _ => return none

/-- An operation on two objects. -/
def objectOperation (op : Operation) (a b : Object) : Running (Option Value) := do
  match op, a, b with
  | .add, .list x, .list y => return some (← make (.list (x ++ y)))
  | .either, .dict d, .dict e => return some (← makeDict (d.pairs ++ e.pairs))
  | .either, .set d, .set e => return some (← makeSet (d.keys ++ e.keys))
  | .both, .set d, .set e =>
      let found ← d.keys.filterM fun k => do return e.contains (← keyOf k)
      return some (← makeSet found)
  | .subtract, .set d, .set e =>
      let found ← d.keys.filterM fun k => do return !e.contains (← keyOf k)
      return some (← makeSet found)
  | .other, .set d, .set e =>
      let found ← d.keys.filterM fun k => do return !e.contains (← keyOf k)
      let more ← e.keys.filterM fun k => do return !d.contains (← keyOf k)
      return some (← makeSet (found ++ more))
  | _, _, _ => return none

section

variable (apply : Apply)

/-- An operation on two values, if there is one for them. -/
def operation? (op : Operation) (a b : Value) : Running (Option Value) := do
  match a, b with
  | .bool x, .bool y =>
      match op with
      | .both => return some (.bool (x && y))
      | .either => return some (.bool (x || y))
      | .other => return some (.bool (x != y))
      | _ => pure ()
  | _, _ => pure ()
  match quantity? a, quantity? b with
  | some (.whole x), some (.whole y) => return some (← wholeOperation op x y)
  | some x, some y => return ← realOperation op x.toReal y.toReal
  | _, _ => pure ()
  match ← ownMethod? a op.offered with
  | some f => return some (← apply f [b] [])
  | none => pure ()
  match op, a, b with
  | .add, .text s, .text t => return some (.text (s ++ t))
  | .add, .bytes s, .bytes t => return some (.bytes (s ++ t))
  | .add, .tuple s, .tuple t => return some (.tuple (s ++ t))
  | .remainder, .text s, v => return some (.text (← filled apply s v))
  | .multiply, v, .whole n => repeat? n v
  | .multiply, .whole n, v => repeat? n v
  | .multiply, v, .bool x => repeat? (if x then 1 else 0) v
  | op, .object s, .object t => objectOperation op (← object s) (← object t)
  | _, _, _ => return none

/-- An operation on two values, under some sign. -/
def operateAs (sign : String) (op : Operation) (a b : Value) : Running Value := do
  match ← operation? apply op a b with
  | some v => return v
  | none =>
      let ka ← kindNameOf a
      let kb ← kindNameOf b
      let isRow := [("str", "str"), ("list", "list"), ("tuple", "tuple")].lookup (String.ofList ka)
      if op = .add && isRow.isSome then
        raise "TypeError" ("can only concatenate ".toList ++ ka ++ " (not \"".toList ++ kb ++
          "\") to ".toList ++ ka)
      if op = .add && ka == "bytes".toList then
        raise "TypeError" ("can't concat ".toList ++ kb ++ " to bytes".toList)
      if op = .multiply && ["str", "list", "tuple", "bytes"].contains (String.ofList ka) then
        raise "TypeError" ("can't multiply sequence by non-int of type '".toList ++ kb ++ ['\''])
      raise "TypeError" ("unsupported operand type(s) for ".toList ++ sign.toList ++ ": '".toList ++
        ka ++ "' and '".toList ++ kb ++ ['\''])

/-- An operation on two values. -/
def operate (op : Operation) (a b : Value) : Running Value := operateAs apply op.sign op a b

/-- An operation that changes the first value if it can be changed. -/
def augment (op : Operation) (a b : Value) (items : Value → Running (List Value)) :
    Running Value := do
  let sign := (if op = .power then "**" else op.sign) ++ "="
  match op, a with
  | .add, .object n =>
      match ← object n with
      | .list _ =>
          let more ← items b
          changeObject n fun
            | .list x => .list (x ++ more.toArray)
            | o => o
          return a
      | _ => operateAs apply sign op a b
  | .either, .object n =>
      match ← object n, b with
      | .dict d, .object k =>
          match ← object k with
          | .dict e =>
              setObject n (.dict (← dictOf (d.pairs ++ e.pairs)))
              return a
          | _ => operateAs apply sign op a b
      | _, _ => operateAs apply sign op a b
  | _, _ => operateAs apply sign op a b

end

/-- The value behind a minus sign. -/
def negative (v : Value) : Running Value := do
  match v with
  | .bool b => return .whole (if b then -1 else 0)
  | .whole n => return .whole (-n)
  | .real x => return .real (-x)
  | v => raise "TypeError" ("bad operand type for unary -: '".toList ++ (← kindNameOf v) ++ ['\''])

/-- The value behind a plus sign. -/
def positive (v : Value) : Running Value := do
  match v with
  | .bool b => return .whole (if b then 1 else 0)
  | .whole n => return .whole n
  | .real x => return .real x
  | v => raise "TypeError" ("bad operand type for unary +: '".toList ++ (← kindNameOf v) ++ ['\''])

/-- The value with all bits turned. -/
def inverted (v : Value) : Running Value := do
  match v with
  | .bool b => return .whole (if b then -2 else -1)
  | .whole n => return .whole (-n - 1)
  | v => raise "TypeError" ("bad operand type for unary ~: '".toList ++ (← kindNameOf v) ++ ['\''])

end Running

end Enquiry.Tool.Script
