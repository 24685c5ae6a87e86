import Enquiry.Tool.Script.Arithmetic
import Enquiry.Tool.Script.Stream

/-!
# Rows of values

Taking the values of a row one after another, and looking them up by their places. A place may be
counted from the end, by a negative number.
-/

namespace Enquiry.Tool.Script

open Host Text

/-- The places of a row of some size that a part of it has: the first one, the one at which it
ends, and the step between them. -/
structure Stretch where
  start : Int
  stop : Int
  step : Int

/-- The places of a stretch. The first argument bounds their number. -/
def Stretch.places (s : Stretch) : Nat → Int → List Nat
  | 0, _ => []
  | n + 1, i =>
      if (0 < s.step ∧ i < s.stop) ∨ (s.step < 0 ∧ s.stop < i) then
        i.toNat :: s.places n (i + s.step)
      else []

/-- The place that a number stands for in a row of some size. -/
def placeIn? (size : Nat) (i : Int) : Option Nat :=
  let i := if i < 0 then i + size else i
  if 0 ≤ i ∧ i < size then some i.toNat else none

namespace Running

section

variable (apply : Apply)

/-! ### One after another -/

/-- Goes through the values of a value. -/
def cursorOf (v : Value) : Running Cursor := do
  match v with
  | .text t => return .values (t.map fun c => .text [c])
  | .bytes t => return .values (t.map fun c => .whole c.toNat)
  | .tuple items => return .values items
  | .range a b c => return .range a b c
  | .raw n => return .lines n true
  | .object n =>
      match ← object n with
      | .list _ => return .list n 0
      | .dict d => return .values d.keys
      | .set d => return .values d.keys
      | .cursor _ => return .asked v
      | .stream s => return .lines n s.ofBytes
      | .individual _ _ =>
          match ← ownMethod? v "__iter__" with
          | some f => return .asked (← apply f [] [])
          | none => pure ()
      | _ => pure ()
      raise "TypeError" ('\'' :: (← kindNameOf v) ++ "' object is not iterable".toList)
  | v => raise "TypeError" ('\'' :: (← kindNameOf v) ++ "' object is not iterable".toList)

mutual

/-- The next value, and how it goes on. The first argument bounds the depth. -/
def advanceFrom : Nat → Cursor → Running (Option (Value × Cursor))
  | 0, _ => return none
  | n + 1, c => do
      match c with
      | .values [] => return none
      | .values (v :: rest) => return some (v, .values rest)
      | .list k i =>
          match ← object k with
          | .list items => return (items[i]?).map fun v => (v, .list k (i + 1))
          | _ => return none
      | .range i stop step =>
          if (0 < step ∧ i < stop) ∨ (step < 0 ∧ stop < i) then
            return some (.whole i, .range (i + step) stop step)
          return none
      | .lines k ofBytes => return (← readLine? k ofBytes).map fun v => (v, .lines k ofBytes)
      | .numbered i inner =>
          match ← advanceFrom n inner with
          | none => return none
          | some (v, inner) => return some (.tuple [.whole i, v], .numbered (i + 1) inner)
      | .zipped inner =>
          if inner.isEmpty then return none
          match ← advanceAll n inner with
          | none => return none
          | some found =>
              return some (.tuple (found.map Prod.fst), .zipped (found.map Prod.snd))
      | .mapped f inner =>
          match ← advanceFrom n inner with
          | none => return none
          | some (.tuple args, inner) => return some (← apply f args [], .mapped f inner)
          | some (v, inner) => return some (← apply f [v] [], .mapped f inner)
      | .asked (.object k) =>
          match ← object k with
          | .cursor inner =>
              match ← advanceFrom n inner with
              | none =>
                  setObject k (.cursor (.values []))
                  return none
              | some (v, inner) =>
                  setObject k (.cursor inner)
                  return some (v, c)
          | _ =>
              match ← ownMethod? (.object k) "__next__" with
              | none =>
                  raise "TypeError" ('\'' :: (← kindNameOf (.object k)) ++
                    "' object is not an iterator".toList)
              | some f =>
                  match ← Program.attempt (apply f [] []) with
                  | .ok v => return some (v, c)
                  | .error (.raised fault) =>
                      match ← object fault with
                      | .fault g =>
                          if ← belongs maxKinds g.kind (.builtin "StopIteration") then return none
                          throw (.raised fault)
                      | _ => throw (.raised fault)
                  | .error other => throw other
      | .asked _ => return none

def advanceAll : Nat → List Cursor → Running (Option (List (Value × Cursor)))
  | _, [] => return some []
  | 0, _ => return none
  | n + 1, c :: rest => do
      match ← advanceFrom n c with
      | none => return none
      | some found =>
          match ← advanceAll n rest with
          | none => return none
          | some others => return some (found :: others)

end

/-- How deep cursors may nest. -/
def maxCursors : Nat := 1000

/-- The next value, and how it goes on. -/
def advance (c : Cursor) : Running (Option (Value × Cursor)) := advanceFrom apply maxCursors c

/-- How often a loop may go round. -/
def maxRounds : Nat := 1000000000

/-- All values that are left, the latest first. The first argument bounds their number. -/
def drain : Nat → List Value → Cursor → Running (List Value)
  | 0, found, _ => return found
  | n + 1, found, c => do
      step
      match ← advance apply c with
      | none => return found
      | some (v, c) => drain n (v :: found) c

/-- The values of a value. -/
def itemsOf (v : Value) : Running (List Value) := do
  match v with
  | .tuple items => return items
  | .object n =>
      match ← object n with
      | .list items => return items.toList
      | .dict d => return d.keys
      | .set d => return d.keys
      | _ => return (← drain apply maxRounds [] (← cursorOf apply v)).reverse
  | v => return (← drain apply maxRounds [] (← cursorOf apply v)).reverse

/-- The pairs of a dictionary, or of a row of pairs. -/
def pairsOf (v : Value) : Running (List (Value × Value)) := do
  let dict? ← match v with
    | .object n =>
        match ← object n with
        | .dict d => pure (some d)
        | _ => pure none
    | _ => pure none
  match dict? with
  | some d => return d.pairs
  | none =>
      (← itemsOf apply v).mapM fun item => do
        match ← itemsOf apply item with
        | [k, w] => return (k, w)
        | _ => raiseText "ValueError" "dictionary update sequence element #0 has length 1; 2 is required"

/-! ### Places -/

/-- A number that is a place. -/
def placeNumber (what : String) (v : Value) : Running Int := do
  match v with
  | .whole n => return n
  | .bool b => return if b then 1 else 0
  | v =>
      raise "TypeError" (what.toList ++ " indices must be integers or slices, not ".toList ++
        (← kindNameOf v))

/-- The places that a slice of a row of some size has. -/
def stretchOf (size : Nat) (start stop step : Value) : Running Stretch := do
  let number? (v : Value) : Running (Option Int) := do
    match v with
    | .none => return none
    | .whole n => return some n
    | .bool b => return some (if b then 1 else 0)
    | _ =>
        raiseText "TypeError" "slice indices must be integers or None or have an __index__ method"
  let step := (← number? step).getD 1
  if step = 0 then raiseText "ValueError" "slice step cannot be zero"
  let size : Int := size
  let bounded (i : Int) : Int :=
    let i := if i < 0 then i + size else i
    if 0 < step then max 0 (min i size) else max (-1) (min i (size - 1))
  let first := (← number? start).map bounded
  let last := (← number? stop).map bounded
  if 0 < step then return ⟨first.getD 0, last.getD size, step⟩
  return ⟨first.getD (size - 1), last.getD (-1), step⟩

/-- A part of a row. -/
def part {α : Type} (items : List α) (start stop step : Value) : Running (List α) := do
  let s ← stretchOf items.length start stop step
  if s.step = 1 then return (items.drop s.start.toNat).take (s.stop - s.start).toNat
  let row := items.toArray
  return (s.places (row.size + 1) s.start).filterMap fun i => row[i]?

/-- The item of a value at a place or under a key. -/
def item (v key : Value) : Running Value := do
  let at_ {α : Type} (what : String) (items : List α) (make : α → Value) : Running Value := do
    match placeIn? items.length (← placeNumber what key) with
    | some i =>
        match items[i]? with
        | some x => return make x
        | none => raiseText "IndexError" (what ++ " index out of range")
    | none => raiseText "IndexError" (what ++ " index out of range")
  match v, key with
  | .text t, .slice a b c => return .text (← part t a b c)
  | .text t, _ => at_ "string" t fun c => .text [c]
  | .bytes t, .slice a b c => return .bytes (← part t a b c)
  | .bytes t, _ => at_ "index" t fun c => .whole c.toNat
  | .tuple t, .slice a b c => return .tuple (← part t a b c)
  | .tuple t, _ => at_ "tuple" t id
  | .range a b c, .whole i =>
      match placeIn? ((← sizeOf? v).getD 0) i with
      | some i => return .whole (a + i * c)
      | none =>
          let _ := b
          raiseText "IndexError" "range object index out of range"
  | .object n, key =>
      match ← object n, key with
      | .list items, .slice a b c => return ← makeList (← part items.toList a b c)
      | .list items, key =>
          match placeIn? items.size (← placeNumber "list" key) with
          | some i =>
              match items[i]? with
              | some x => return x
              | none => raiseText "IndexError" "list index out of range"
          | none => raiseText "IndexError" "list index out of range"
      | .dict d, key =>
          match d.get? (← keyOf key) with
          | some x => return x
          | none => raiseWith "KeyError" [key]
      | _, key =>
          match ← ownMethod? v "__getitem__" with
          | some f => apply f [key] []
          | none =>
              raise "TypeError" ('\'' :: (← kindNameOf v) ++ "' object is not subscriptable".toList)
  | v, _ => raise "TypeError" ('\'' :: (← kindNameOf v) ++ "' object is not subscriptable".toList)

/-- Puts a value at a place or under a key. -/
def setItem (v key value : Value) : Running Unit := do
  let refused : Running Unit := do
    raise "TypeError" ('\'' :: (← kindNameOf v) ++
      "' object does not support item assignment".toList)
  match v with
  | .object n =>
      match ← object n, key with
      | .list items, .slice a b c =>
          let s ← stretchOf items.size a b c
          let more ← itemsOf apply value
          let start := s.start.toNat
          let stop := max start s.stop.toNat
          setObject n (.list (items.toList.take start ++ more ++ items.toList.drop stop).toArray)
      | .list items, key =>
          match placeIn? items.size (← placeNumber "list" key) with
          | some i =>
              changeObject n fun
                | .list items => .list (items.set! i value)
                | o => o
          | none => raiseText "IndexError" "list assignment index out of range"
      | .dict _, key =>
          let k ← keyOf key
          changeObject n fun
            | .dict d => .dict (d.set k key value)
            | o => o
      | _, key =>
          match ← ownMethod? v "__setitem__" with
          | some f =>
              let _ ← apply f [key, value] []
          | none => refused
  | _ => refused

/-- Takes away what is at a place or under a key. -/
def dropItem (v key : Value) : Running Unit := do
  let refused : Running Unit := do
    raise "TypeError" ('\'' :: (← kindNameOf v) ++ "' object doesn't support item deletion".toList)
  match v with
  | .object n =>
      match ← object n, key with
      | .list items, .slice a b c =>
          let s ← stretchOf items.size a b c
          let places := s.places (items.size + 1) s.start
          setObject n (.list ((items.toList.zipIdx.filter fun (_, i) => !places.contains i).map
            Prod.fst).toArray)
      | .list items, key =>
          match placeIn? items.size (← placeNumber "list" key) with
          | some i => setObject n (.list (items.eraseIdxIfInBounds i))
          | none => raiseText "IndexError" "list assignment index out of range"
      | .dict d, key =>
          let k ← keyOf key
          if !d.contains k then raiseWith "KeyError" [key]
          setObject n (.dict (d.erase k))
      | _, _ => refused
  | _ => refused

/-- A value is among those of another one. -/
def contains (v row : Value) : Running Bool := do
  match row, v with
  | .text t, .text s => return occursIn s t
  | .text _, v =>
      raise "TypeError" ("'in <string>' requires string as left operand, not ".toList ++
        (← kindNameOf v))
  | .bytes t, .bytes s => return occursIn s t
  | .object n, v =>
      match ← object n with
      | .dict d => return d.contains (← keyOf v)
      | .set d => return d.contains (← keyOf v)
      | .list items => standsIn apply v items.toList
      | .individual _ _ =>
          match ← ownMethod? row "__contains__" with
          | some f => holds (← apply f [v] [])
          | none => standsIn apply v (← itemsOf apply row)
      | .cursor _ => standsIn apply v (← itemsOf apply row)
      | _ =>
          raise "TypeError" ("argument of type '".toList ++ (← kindNameOf row) ++
            "' is not iterable".toList)
  | .tuple items, v => standsIn apply v items
  | .range a b c, .whole n =>
      return (if 0 < c then a ≤ n && n < b else b < n && n ≤ a) && (n - a) % c == 0
  | .range _ _ _, _ => return false
  | row, _ =>
      raise "TypeError" ("argument of type '".toList ++ (← kindNameOf row) ++
        "' is not iterable".toList)

end

end Running

end Enquiry.Tool.Script
