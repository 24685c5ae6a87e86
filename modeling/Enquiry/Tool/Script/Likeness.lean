import Enquiry.Tool.Script.Written

/-!
# Likeness and order of values

When two values are equal, which of them comes first, and the keys under which they are looked up.
Equal values have one key.
-/

namespace Enquiry.Tool.Script

open Host Text

/-- A number, whole or not. -/
inductive Quantity where
  | whole (n : Int)
  | real (x : Float)

/-- The number that a value is. -/
def quantity? : Value → Option Quantity
  | .bool b => some (.whole (if b then 1 else 0))
  | .whole n => some (.whole n)
  | .real x => some (.real x)
  | _ => none

/-- The nearest number of double precision. -/
def Quantity.toReal : Quantity → Float
  | whole n => realOf n
  | real x => x

namespace Quantity

def same : Quantity → Quantity → Bool
  | whole a, whole b => a == b
  | whole a, real b => wholeOf? b == some a
  | real a, whole b => wholeOf? a == some b
  | real a, real b => a == b

def less : Quantity → Quantity → Bool
  | whole a, whole b => a < b
  | a, b => a.toReal < b.toReal

end Quantity

/-- The order of two texts by their characters. -/
def textLess : List Char → List Char → Bool
  | _, [] => false
  | [], _ :: _ => true
  | a :: as, b :: bs => a.toNat < b.toNat || (a == b && textLess as bs)

namespace Running

/-! ### Keys -/

/-- The key of a value. The first argument bounds the depth. -/
def keyFrom : Nat → Value → Running Key
  | 0, _ => raiseText "RecursionError" "maximum recursion depth exceeded"
  | n + 1, v => do
      match v with
      | .none => return [.none]
      | .bool b => return [.whole (if b then 1 else 0)]
      | .whole k => return [.whole k]
      | .real x =>
          match wholeOf? x with
          | some k => return [.whole k]
          | none => return [.real x.toBits]
      | .text t => return [.text (String.ofList t)]
      | .bytes t => return [.bytes (String.ofList t)]
      | .tuple items =>
          let parts ← items.mapM (keyFrom n)
          return .opening :: parts.flatten ++ [.closing]
      | .range a b c => return [.opening, .named "range" "", .whole a, .whole b, .whole c, .closing]
      | .ellipsis => return [.named "ellipsis" ""]
      | .builtin name => return [.named "builtin" name]
      | .module name => return [.named "module" name]
      | .object k =>
          match ← object k with
          | .list _ => raiseText "TypeError" "unhashable type: 'list'"
          | .dict _ => raiseText "TypeError" "unhashable type: 'dict'"
          | .set _ => raiseText "TypeError" "unhashable type: 'set'"
          | _ => return [.object k]
      | .bound f self => return .object f :: (← keyFrom n self)
      | .method self name => return .named "method" name :: (← keyFrom n self)
      | .raw k => return [.named "raw" "", .object k]
      | .above _ self => keyFrom n self
      | .slice _ _ _ => raiseText "TypeError" "unhashable type: 'slice'"

def keyOf (v : Value) : Running Key := keyFrom maxDepth v

/-- A dictionary of some pairs. -/
def dictOf (pairs : List (Value × Value)) : Running Dict := do
  let mut d := Dict.empty
  for (k, v) in pairs do
    d := d.set (← keyOf k) k v
  return d

def makeDict (pairs : List (Value × Value)) : Running Value := do
  make (.dict (← dictOf pairs))

/-- A set of some values. -/
def makeSet (items : List Value) : Running Value := do
  make (.set (← dictOf (items.map fun v => (v, .none))))

/-! ### Equality -/

section

variable (apply : Apply)

mutual

/-- Two values are equal. The first argument bounds the number of steps. -/
def sameFrom : Nat → Value → Value → Running Bool
  | 0, _, _ => raiseText "RecursionError" "maximum recursion depth exceeded in comparison"
  | n + 1, a, b => do
      match quantity? a, quantity? b with
      | some x, some y => return x.same y
      | _, _ => pure ()
      match ← ownMethod? a "__eq__", ← ownMethod? b "__eq__" with
      | some f, _ => return ← holds (← apply f [b] [])
      | none, some f => return ← holds (← apply f [a] [])
      | none, none => pure ()
      match a, b with
      | .none, .none => return true
      | .text s, .text t => return s == t
      | .bytes s, .bytes t => return s == t
      | .tuple s, .tuple t => sameAll n s t
      | .range a b c, .range d e f => return a == d && b == e && c == f
      | .ellipsis, .ellipsis => return true
      | .builtin s, .builtin t => return s == t
      | .module s, .module t => return s == t
      | .raw s, .raw t => return s == t
      | .bound f s, .bound g t => if f = g then sameFrom n s t else return false
      | .object s, .object t =>
          if s = t then return true
          match ← object s, ← object t with
          | .list x, .list y =>
              if x.size = y.size then sameAll n x.toList y.toList else return false
          | .dict d, .dict e =>
              if d.size ≠ e.size then return false
              sameEntries n d.pairs e
          | .set d, .set e =>
              return d.size == e.size && d.places.toList.all fun (k, _) => e.contains k
          | _, _ => return false
      | _, _ => return false

def sameAll : Nat → List Value → List Value → Running Bool
  | 0, _, _ => return false
  | n + 1, as, bs => do
      match as, bs with
      | [], [] => return true
      | a :: as, b :: bs => if ← sameFrom n a b then sameAll n as bs else return false
      | _, _ => return false

/-- All pairs stand in a dictionary. -/
def sameEntries : Nat → List (Value × Value) → Dict → Running Bool
  | _, [], _ => return true
  | 0, _, _ => return false
  | n + 1, (k, v) :: rest, d => do
      match d.get? (← keyOf k) with
      | none => return false
      | some w => if ← sameFrom n v w then sameEntries n rest d else return false

end

/-- Two values are equal. -/
def same (a b : Value) : Running Bool := sameFrom apply maxShown a b

/-- Two values are one and the same. -/
def identical (a b : Value) : Bool :=
  match a, b with
  | .none, .none => true
  | .bool a, .bool b => a == b
  | .whole a, .whole b => a == b
  | .text a, .text b => a == b
  | .object a, .object b => a == b
  | .builtin a, .builtin b => a == b
  | .module a, .module b => a == b
  | .ellipsis, .ellipsis => true
  | .tuple [], .tuple [] => true
  | _, _ => false

/-! ### Order -/

/-- The place of the first difference of two rows. -/
def differ? : List Value → List Value → Running (Option (Value × Value))
  | a :: as, b :: bs => do
      if ← same apply a b then differ? as bs else return some (a, b)
  | _, _ => return none

/-- A value comes before another one, where the sign of the comparison is one for faults; `orSame`
when equal ones do too. The first argument bounds the depth. -/
def beforeFrom (sign : String) (orSame : Bool) : Nat → Value → Value → Running Bool
  | 0, _, _ => raiseText "RecursionError" "maximum recursion depth exceeded in comparison"
  | n + 1, a, b => do
      let refuse : Running Bool := do
        let (first, second) := if sign.startsWith ">" then (b, a) else (a, b)
        raise "TypeError" ("'".toList ++ sign.toList ++
          "' not supported between instances of '".toList ++ (← kindNameOf first) ++
          "' and '".toList ++ (← kindNameOf second) ++ ['\''])
      let rows (x y : List Value) : Running Bool := do
        match ← differ? apply x y with
        | some (a, b) => beforeFrom sign orSame n a b
        | none => return if orSame then x.length ≤ y.length else x.length < y.length
      match quantity? a, quantity? b with
      | some x, some y => return x.less y || (orSame && x.same y)
      | _, _ =>
          let own? ← ownMethod? a (if orSame then "__le__" else "__lt__")
          match own? with
          | some f => return ← holds (← apply f [b] [])
          | none => pure ()
          match a, b with
          | .text s, .text t => return textLess s t || (orSame && s == t)
          | .bytes s, .bytes t => return textLess s t || (orSame && s == t)
          | .tuple x, .tuple y => rows x y
          | .object s, .object t =>
              match ← object s, ← object t with
              | .list x, .list y => return ← rows x.toList y.toList
              | .set d, .set e =>
                  return (d.places.toList.all fun (k, _) => e.contains k) &&
                    (orSame || d.size < e.size)
              | _, _ => refuse
          | _, _ => refuse

/-- A value comes before another one. -/
def before (a b : Value) : Running Bool := beforeFrom apply "<" false maxDepth a b

/-- A value comes behind another one. -/
def behind (a b : Value) : Running Bool := beforeFrom apply ">" false maxDepth b a

/-- Merges two rows that are in order. The first argument bounds the number of steps. -/
def merged : Nat → List (Value × Value) → List (Value × Value) → List (Value × Value) →
    Running (List (Value × Value))
  | _, done, [], ys => return done.reverse ++ ys
  | _, done, xs, [] => return done.reverse ++ xs
  | 0, done, xs, ys => return done.reverse ++ xs ++ ys
  | n + 1, done, x :: xs, y :: ys => do
      if ← before apply y.1 x.1 then merged n (y :: done) (x :: xs) ys
      else merged n (x :: done) xs (y :: ys)

/-- Some values in the order of their keys; equal ones stay in their order. The first argument
bounds the number of halvings. -/
def inOrder : Nat → List (Value × Value) → Running (List (Value × Value))
  | 0, xs => return xs
  | n + 1, xs => do
      if xs.length < 2 then return xs
      let half := xs.length / 2
      let a ← inOrder n (xs.take half)
      let b ← inOrder n (xs.drop half)
      merged apply (xs.length + 1) [] a b

/-- A value stands in a row. -/
def standsIn (v : Value) : List Value → Running Bool
  | [] => return false
  | w :: rest => do
      if identical v w then return true
      if ← same apply v w then return true
      standsIn v rest

end

end Running

end Enquiry.Tool.Script
