import Enquiry.Tool.Launching
import Enquiry.Tool.Script.Value

/-!
# The machine of scripts

Objects, names and the functions that are under way. What goes wrong becomes an object that knows
where every function was.
-/

namespace Enquiry.Tool.Script

open Host Text

/-- The names of a function that is under way, or of the whole script. -/
structure Scope where
  names : Std.HashMap String Value
  /-- The names around it. -/
  parent : Option Nat
  own : List String
  shared : List String
  outer : List String
  /-- The names of a class are seen only from itself. -/
  isKind : Bool
  /-- What stands in front of the names of functions that are made here. -/
  title : String

instance : Inhabited Scope := ⟨⟨∅, none, [], [], [], false, ""⟩⟩

structure Machine where
  memory : Memory
  heap : Array Object
  scopes : Array Scope
  /-- The functions that are under way, the innermost first. -/
  frames : List Frame
  /-- What goes wrong is being dealt with. -/
  handling : Option Nat
  /-- The values that functions have handed out from their middle, the latest first. -/
  handedOut : List (List Value)
  /-- What is done when signals come. -/
  watched : List (Signal × Value)
  steps : Nat
  /-- How many functions have been made. -/
  functions : Nat
  file : List Char
  source : Array (List Char)
  args : List (List Char)
  /-- What modules hold besides what they always do, by the names of both. -/
  shelf : List ((String × String) × Value)

/-- Why something breaks off. -/
inductive Course where
  | leave
  | goOn
  | giveBack (v : Value)
  | raised (fault : Nat)
  | failed (status : Nat)

abbrev Running := Program Course Machine

/-- How functions are called. -/
abbrev Apply := Value → List Value → List (String × Value) → Running Value

namespace Running

/-- Lets the tool do something. -/
def tool {α : Type} (x : Tool α) : Running α := fun m next stop =>
  x m.memory (fun a memory => next a { m with memory })
    fun status memory => stop (.failed status) { m with memory }

/-! ### Objects -/

/-- A new object. -/
def make (o : Object) : Running Value := do
  let n := (← get).heap.size
  modify fun m => { m with heap := m.heap.push o }
  return .object n

def makeList (items : List Value) : Running Value := make (.list items.toArray)

def object (n : Nat) : Running Object := do return ((← get).heap[n]?).getD (.list #[])

def setObject (n : Nat) (o : Object) : Running Unit :=
  modify fun m => { m with heap := m.heap.set! n o }

/-- Changes an object where it is. -/
def changeObject (n : Nat) (f : Object → Object) : Running Unit :=
  modify fun m => { m with heap := m.heap.modify n f }

/-! ### What goes wrong -/

/-- Where the innermost function is. -/
def mark (span : Span) : Running Unit :=
  modify fun m =>
    match m.frames with
    | f :: rest => { m with frames := { f with span } :: rest }
    | [] => m

/-- Breaks off with a fault of some kind, whatever that is, that tells some values. -/
def raiseOf {α : Type} (kind : Value) (args : List Value)
    (attributes : List (String × Value)) : Running α := do
  let m ← get
  let f ← make (.fault ⟨kind, args, attributes, m.frames, m.handling, none⟩)
  match f with
  | .object n => throw (.raised n)
  | _ => throw (.failed 1)

def raiseWith {α : Type} (kind : String) (args : List Value) : Running α :=
  raiseOf (.builtin kind) args []

def raise {α : Type} (kind : String) (message : List Char) : Running α :=
  raiseWith kind [.text message]

def raiseText {α : Type} (kind message : String) : Running α := raise kind message.toList

/-- Breaks off because a call to the system has failed. -/
def raiseErrno {α : Type} (e : Errno) (path : Option (List Char)) : Running α :=
  raiseOf (.builtin (errnoKind e)) [.whole e.number, .text e.message.toList]
    ([("errno", .whole e.number), ("strerror", .text e.message.toList)] ++
      (path.map fun p => ("filename", Value.text p)).toList)

/-! ### Kinds -/

/-- The name of a kind as scripts know it. -/
def shortName (name : String) : List Char :=
  ((List.splitOn '.' name.toList).getLast?).getD name.toList

/-- The kind of a value. -/
def kindOf (v : Value) : Running Value := do
  match v with
  | .none => return .builtin "NoneType"
  | .bool _ => return .builtin "bool"
  | .whole _ => return .builtin "int"
  | .real _ => return .builtin "float"
  | .text _ => return .builtin "str"
  | .bytes _ => return .builtin "bytes"
  | .tuple _ => return .builtin "tuple"
  | .range _ _ _ => return .builtin "range"
  | .slice _ _ _ => return .builtin "slice"
  | .ellipsis => return .builtin "ellipsis"
  | .builtin name =>
      if valueKinds.contains name || isFaultKind name then return .builtin "type"
      return .builtin "builtin_function_or_method"
  | .method _ _ => return .builtin "builtin_function_or_method"
  | .bound _ _ => return .builtin "method"
  | .module _ => return .builtin "module"
  | .raw _ => return .builtin "_io.BufferedWriter"
  | .above _ _ => return .builtin "super"
  | .object n =>
      match ← object n with
      | .list _ => return .builtin "list"
      | .dict _ => return .builtin "dict"
      | .set _ => return .builtin "set"
      | .function _ => return .builtin "function"
      | .kind _ => return .builtin "type"
      | .individual k _ => return .object k
      | .fault f => return f.kind
      | .cursor (.range _ _ _) => return .builtin "range_iterator"
      | .cursor (.list _ _) => return .builtin "list_iterator"
      | .cursor _ => return .builtin "generator"
      | .stream _ => return .builtin "_io.TextIOWrapper"
      | .held way _ => return .builtin way

/-- The name of a kind. -/
def kindName (v : Value) : Running (List Char) := do
  match v with
  | .builtin name => return shortName name
  | .object n =>
      match ← object n with
      | .kind k => return k.name.toList
      | _ => return []
  | _ => return []

/-- The name of the kind of a value. -/
def kindNameOf (v : Value) : Running (List Char) := do kindName (← kindOf v)

/-- A kind belongs to another one. The first argument bounds the number of steps. -/
def belongs : Nat → Value → Value → Running Bool
  | 0, _, _ => return false
  | n + 1, kind, above => do
      match kind, above with
      | .builtin a, .builtin b =>
          return b == "object" || faultBelongs b 20 a || a == b || (a == "bool" && b == "int")
      | .object a, .object b =>
          if a = b then return true
          match ← object a with
          | .kind ⟨_, some base, _⟩ => belongs n base above
          | _ => return false
      | .object a, .builtin b =>
          match ← object a with
          | .kind ⟨_, some base, _⟩ => belongs n base above
          | _ => return b == "object"
      | _, _ => return false

/-- How many kinds may belong to each other. -/
def maxKinds : Nat := 100

/-- An attribute of a kind, or of one that it belongs to. -/
def kindAttribute? (name : String) : Nat → Value → Running (Option Value)
  | 0, _ => return none
  | n + 1, kind => do
      match kind with
      | .object k =>
          match ← object k with
          | .kind k =>
              match k.attributes.lookup name, k.base with
              | some v, _ => return some v
              | none, some base => kindAttribute? name n base
              | none, none => return none
          | _ => return none
      | _ => return none

/-- A method that a script has given to a kind of values. -/
def ownMethod? (v : Value) (name : String) : Running (Option Value) := do
  match v with
  | .object n =>
      let kind? ← match ← object n with
        | .individual k _ => pure (some (Value.object k))
        | .fault f => pure (some f.kind)
        | _ => pure none
      match kind? with
      | none => return none
      | some kind =>
          match ← kindAttribute? name maxKinds kind with
          | some (.object f) => return some (.bound f v)
          | other => return other
  | _ => return none

/-! ### Time -/

/-- The time that a step takes, in nanoseconds. -/
def stepCost : Nat := 500

/-- After so many steps the time is let pass that they have taken. -/
def stepsAtOnce : Nat := 256

/-- Makes a step. -/
def step : Running Unit := do
  let steps := (← get).steps + 1
  modify fun m => { m with steps }
  if steps % stepsAtOnce = 0 then
    let _ ← Program.call (.tick (stepsAtOnce * stepCost))

/-! ### Names -/

/-- The number of the scope of the whole script. -/
def scriptScope : Nat := 0

def scope (n : Nat) : Running Scope := do return ((← get).scopes[n]?).getD default

/-- The scope of the innermost function. -/
def innermost : Running Nat := do return ((← get).frames.head?.map Frame.scope).getD scriptScope

/-- A new scope. -/
def makeScope (s : Scope) : Running Nat := do
  let n := (← get).scopes.size
  modify fun m => { m with scopes := m.scopes.push s }
  return n

/-- Gives a name a value in a scope. -/
def setIn (n : Nat) (name : String) (v : Value) : Running Unit :=
  modify fun m =>
    { m with scopes := m.scopes.modify n fun s => { s with names := s.names.insert name v } }

/-- The scope around some scope in which a name has been given a value. The first argument bounds
the number of scopes. -/
def scopeWith? (name : String) : Nat → Option Nat → Running (Option Nat)
  | 0, _ => return none
  | _, none => return none
  | k + 1, some n => do
      let s ← scope n
      if s.names.contains name && !s.isKind then return some n
      scopeWith? name k s.parent

/-- How deep scopes may nest. -/
def maxScopes : Nat := 1000

/-- The functions that are always there. -/
def builtins : List String :=
  ["print", "len", "enumerate", "zip", "map", "filter", "sorted", "reversed", "sum", "min", "max",
    "abs", "round", "divmod", "pow", "repr", "ascii", "chr", "ord", "hex", "oct", "bin", "any",
    "all", "isinstance", "issubclass", "callable", "getattr", "setattr", "hasattr", "open", "input",
    "iter", "next", "id", "hash", "format", "exit", "quit", "super", "globals", "locals", "vars",
    "delattr", "dir"]

/-- What a name stands for that no script has given a value. -/
def builtin? (name : String) : Option Value :=
  if builtins.contains name || valueKinds.contains name || isFaultKind name then
    some (.builtin name)
  else (kindAliases.lookup name).map .builtin

/-- The value of a name. -/
def valueOf (name : String) : Running Value := do
  let here ← innermost
  let s ← scope here
  match s.names[name]? with
  | some v => if !s.shared.contains name then return v
  | none => pure ()
  if s.own.contains name then
    raiseText "UnboundLocalError"
      ("cannot access local variable '" ++ name ++ "' where it is not associated with a value")
  let start := if s.shared.contains name then some scriptScope else s.parent
  match ← scopeWith? name maxScopes start with
  | some n =>
      match (← scope n).names[name]? with
      | some v => return v
      | none => pure ()
  | none => pure ()
  match (← scope scriptScope).names[name]?, builtin? name with
  | some v, _ => return v
  | none, some v => return v
  | none, none => raiseText "NameError" ("name '" ++ name ++ "' is not defined")

/-- The scope in which a name is given a value. -/
def goalOf (name : String) : Running Nat := do
  let here ← innermost
  let s ← scope here
  if s.shared.contains name then return scriptScope
  if s.outer.contains name then return (← scopeWith? name maxScopes s.parent).getD here
  return here

def setName (name : String) (v : Value) : Running Unit := do setIn (← goalOf name) name v

/-- Takes a name away. -/
def dropName (name : String) : Running Unit := do
  let n ← goalOf name
  if !(← scope n).names.contains name then
    raiseText "NameError" ("name '" ++ name ++ "' is not defined")
  modify fun m =>
    { m with scopes := m.scopes.modify n fun s => { s with names := s.names.erase name } }

end Running

end Enquiry.Tool.Script
