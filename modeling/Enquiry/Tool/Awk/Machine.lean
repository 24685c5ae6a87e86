import Enquiry.Regex.Search
import Enquiry.Tool.Awk.Table
import Enquiry.Tool.Inlet
import Enquiry.Tool.Launching

/-!
# The record processor's machine

Variables, the record with its fields, and the expressions that have been read. A record is divided
into fields when one of them is asked for, and put together again when that is needed.
-/

namespace Enquiry.Tool.Awk

open Host Number Text

/-- What a variable holds. -/
inductive Slot where
  | unset
  /-- It has been handed to a function and not been used: it may become some array. -/
  | pending (array : Nat)
  | scalar (v : Value)
  | array (n : Nat)
  deriving Inhabited

/-- A place that is written to. -/
structure Outflow where
  name : Octets
  descriptor : Nat
  child : Option Nat
  /-- What has not been handed on, the latest first, and how much that is. -/
  waiting : List Octets
  size : Nat

/-- A place that is read from. -/
structure Inflow where
  name : Octets
  inlet : Inlet
  child : Option Nat

structure Machine where
  memory : Memory
  script : Script
  shared : Array Slot
  own : Array Slot
  arrays : Array Table
  /-- The record, which has to be put together from its fields if it is stale. -/
  record : Octets
  stale : Bool
  /-- The fields, if the record has been divided. -/
  fields : Array Value
  divided : Bool
  outflows : List Outflow
  inflows : List Inflow
  /-- The number of the next argument, the input that is open, and whether any has been. -/
  argument : Nat
  inlet : Option Inlet
  began : Bool
  regexes : Std.HashMap Octets Regex
  /-- The ranges that are open. -/
  ranges : List Nat
  seed : Value
  random : UInt64
  status : Nat
  /-- How many steps of loops have been made. -/
  steps : Nat

/-- Why something breaks off. -/
inductive Course where
  | leave
  | goOn
  | next
  | nextFile
  | exit
  | giveBack (v : Value)
  | failed (status : Nat)

abbrev Running := Program Course Machine

namespace Running

/-- Lets the tool do something. -/
def tool {α : Type} (x : Tool α) : Running α := fun m next stop =>
  x m.memory (fun a memory => next a { m with memory })
    fun status memory => stop (.failed status) { m with memory }

/-- Complains and breaks off. -/
def fail {α : Type} (text : Octets) : Running α := tool (Tool.fail 2 text)

/-! ### Variables -/

def slot (p : Place) : Running Slot := do
  match p with
  | .own n => return ((← get).own[n]?).getD .unset
  | .shared n => return ((← get).shared[n]?).getD .unset

def setSlot (p : Place) (s : Slot) : Running Unit :=
  match p with
  | .own n => modify fun m => { m with own := m.own.set! n s }
  | .shared n => modify fun m => { m with shared := m.shared.set! n s }

def special (s : Special) : Running Value := do
  match ((← get).shared[s.number]?).getD .unset with
  | .scalar v => return v
  | _ => return .unset

def setSpecial (s : Special) (v : Value) : Running Unit := setSlot (.shared s.number) (.scalar v)

/-- How numbers become texts. -/
def conversion : Running Octets := do return (← special .conversionFormat).toText []

def textOf (v : Value) : Running Octets := do
  match v with
  | .text t => return t
  | .input t => return t
  | .unset => return []
  | .number x => return numberText (← conversion) x

/-- The text of a special variable. -/
def specialText (s : Special) : Running Octets := do textOf (← special s)

/-- An error of the program, with the place in the inputs. -/
def fault {α : Type} (what : Octets) : Running α := do
  let file ← specialText .fileName
  let fileRecord ← specialText .fileRecordCount
  let record ← specialText .recordCount
  tool (warn ("run time error: ".toList ++ what))
  tool (tell ("\tFILENAME=\"".toList ++ file ++ "\" FNR=".toList ++ fileRecord ++
    " NR=".toList ++ record ++ ['\n']))
  throw (.failed 2)

/-! ### Arrays -/

/-- A new array. -/
def newArray : Running Nat := do
  let n := (← get).arrays.size
  modify fun m => { m with arrays := m.arrays.push .empty }
  return n

/-- The number of the array that a variable holds. -/
def arrayOf (p : Place) : Running Nat := do
  match ← slot p with
  | .array n => return n
  | .pending n =>
      setSlot p (.array n)
      return n
  | .unset =>
      let n ← newArray
      setSlot p (.array n)
      return n
  | .scalar _ => fault "a variable is used as an array".toList

def modifyTable (n : Nat) (f : Table → Table) : Running Unit :=
  modify fun m => { m with arrays := m.arrays.modify n f }

def table (n : Nat) : Running Table := do return ((← get).arrays[n]?).getD .empty

/-! ### Regular expressions -/

/-- The expression of a text. -/
def regexOf (t : Octets) : Running Regex := do
  match (← get).regexes[t]? with
  | some r => return r
  | none =>
      match Regex.ofText ⟨true, .all, false⟩ ⟨false, false⟩ t with
      | .ok r =>
          modify fun m => { m with regexes := m.regexes.insert t r }
          return r
      | .error e =>
          fail ("regular expression compile failed (".toList ++ e.message.toList ++ ")\n".toList ++ t)

/-! ### The record -/

/-- The parts of a text between blanks. -/
def betweenBlanks (text : Octets) : List Octets :=
  (text.splitBy fun a b => isGap a == isGap b).filter fun part => !part.any isGap

/-- The parts of a text between the places where an expression stands. -/
def betweenMatches (r : Regex) (text : Octets) : List Octets :=
  let found := (r.all text).filter fun m => m.start < m.stop
  let starts := 0 :: found.map Regex.Match.stop
  let stops := found.map Regex.Match.start ++ [text.length]
  (starts.zip stops).map fun (a, b) => Regex.slice text a b

/-- The parts of a text between separators. -/
def parts (separator : Octets) (text : Octets) : Running (List Octets) := do
  if text.isEmpty then return []
  match separator with
  | [' '] => return betweenBlanks text
  | [] => return text.map ([·])
  | [c] => return List.splitOn c text
  | t => return betweenMatches (← regexOf t) text

/-- Divides the record. -/
def divide : Running Unit := do
  let m ← get
  if m.divided then return ()
  let found ← parts (← specialText .fieldSeparator) m.record
  modify fun m => { m with fields := (found.map Value.input).toArray, divided := true }

/-- The text of the record. -/
def recordText : Running Octets := do
  let m ← get
  if !m.stale then return m.record
  let separator ← specialText .outputFieldSeparator
  let texts ← m.fields.toList.mapM textOf
  let record := List.intercalate separator texts
  modify fun m => { m with record, stale := false }
  return record

def setRecord (record : Octets) : Running Unit :=
  modify fun m => { m with record, stale := false, fields := #[], divided := false }

def field (n : Nat) : Running Value := do
  if n = 0 then return .input (← recordText)
  divide
  return ((← get).fields[n - 1]?).getD .unset

def fieldCount : Running Nat := do
  divide
  return (← get).fields.size

/-- The record gets so many fields. -/
def setFieldCount (n : Nat) : Running Unit := do
  divide
  modify fun m =>
    let fields := m.fields.take n
    { m with
      fields := fields ++ Array.replicate (n - fields.size) (.input [])
      stale := true }

def setField (n : Nat) (v : Value) : Running Unit := do
  if n = 0 then setRecord (← textOf v)
  else
    divide
    if (← get).fields.size < n then setFieldCount n
    modify fun m => { m with fields := m.fields.set! (n - 1) v, stale := true }

/-! ### Values of variables -/

def variableValue (p : Place) : Running Value := do
  if p = .shared Special.fieldCount.number then
    return .number (Float.ofNat (← fieldCount))
  match ← slot p with
  | .scalar v => return v
  | _ => return .unset

def setVariable (p : Place) (v : Value) : Running Unit := do
  if p = .shared Special.fieldCount.number then
    setFieldCount ((whole? v.toNumber).getD 0).toNat
  else match ← slot p with
    | .array _ => fault "an array is used as a variable".toList
    | _ => setSlot p (.scalar v)

end Running

end Enquiry.Tool.Awk
