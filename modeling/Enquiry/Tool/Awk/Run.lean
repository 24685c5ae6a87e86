import Enquiry.Tool.Awk.Evaluator
import Enquiry.Tool.Awk.Reader

/-!
# Processing records

`awk` reads a program, and does what its rules say: before the first record, for each record of the
inputs, and behind the last one.
-/

namespace Enquiry.Tool

open Host Text

namespace Awk

namespace Running

/-- A rule is meant for the record. -/
def isMeant (r : Rule) : Running Bool := do
  match r.condition with
  | .always => return true
  | .start => return false
  | .finish => return false
  | .test e => return (← eval maxSteps e).holds
  | .range k first last =>
      let opened := (← get).ranges.contains k
      let begins ← if opened then pure true else do pure (← eval maxSteps first).holds
      if !begins then return false
      let ends := (← eval maxSteps last).holds
      modify fun m =>
        { m with ranges :=
            if ends then m.ranges.filter (· != k) else if opened then m.ranges else k :: m.ranges }
      return true

/-- Does what a rule says. -/
def act (r : Rule) : Running Unit := do
  match r.action with
  | some s => exec maxSteps s
  | none => exec maxSteps (.print [] none)

/-- Does what all rules say that are meant for the record. -/
def actAll : List Rule → Running Unit
  | [] => return ()
  | r :: rest => do
      if ← isMeant r then act r
      actAll rest

/-- Processes all records. The first argument bounds their number. -/
def process (rules : List Rule) : Nat → Running Unit
  | 0 => return ()
  | n + 1 => do
      match ← nextRecord? maxInputs with
      | none => return ()
      | some text =>
          setRecord text
          match ← Program.attempt (actAll rules) with
          | .ok _ => process rules n
          | .error .next =>
              modify fun m => { m with own := #[] }
              process rules n
          | .error .nextFile =>
              modify fun m => { m with own := #[] }
              closeInlet
              process rules n
          | .error c => throw c

/-- Does what some rules say, until the program is to end. -/
def actUntilExit (x : Running Unit) : Running Bool := do
  match ← Program.attempt x with
  | .ok _ => return true
  | .error .exit => return false
  | .error (.failed status) => throw (.failed status)
  | .error _ => return true

/-- Runs the program. -/
def run : Running Unit := do
  let rules := (← get).script.rules
  let before := rules.filter fun r => r.condition matches .start
  let behind := rules.filter fun r => r.condition matches .finish
  let between := rules.filter fun r => !(r.condition matches .start | .finish)
  let goesOn ← actUntilExit (before.forM act)
  if goesOn ∧ !(between.isEmpty && behind.isEmpty) then
    let _ ← actUntilExit (process between maxSteps)
  let _ ← actUntilExit (behind.forM act)
  closeAll

/-- Sets what is known from the beginning. -/
def prepare (separator : Option Octets) (settings : List (Octets × Octets)) (args : List Octets) :
    Running Unit := do
  let text (s : Special) (t : String) : Running Unit := setSpecial s (.text t.toList)
  text .fieldSeparator " "
  text .outputFieldSeparator " "
  text .outputRecordSeparator "\n"
  text .recordSeparator "\n"
  text .keySeparator "\x1c"
  text .conversionFormat "%.6g"
  text .outputFormat "%.6g"
  text .fileName ""
  setSpecial .recordCount (.number 0)
  setSpecial .fileRecordCount (.number 0)
  let environment ← arrayOf (.shared Special.environment.number)
  for (name, value) in (← get).memory.vars do
    modifyTable environment fun t => (t.touch (.text name) true).set (.text name) (.input value)
  let arguments ← arrayOf (.shared Special.arguments.number)
  for (arg, i) in args.zipIdx do
    let key : Key := .number i
    modifyTable arguments fun t => (t.touch key true).set key (.input arg)
  setSpecial .argumentCount (.number (Float.ofNat args.length))
  match separator with
  | some t => setSpecial .fieldSeparator (.text (unescaped (t.length + 1) t))
  | none => pure ()
  for (name, value) in settings do
    setOutside name value

/-- The tool that a program is. -/
def toTool (script : Script) (x : Running Unit) : Tool Unit := fun memory next stop =>
  let m : Machine :=
    { memory, script, shared := Array.replicate script.names.length .unset, own := #[]
      arrays := #[], record := [], stale := false, fields := #[], divided := false
      outflows := [], inflows := [], argument := 1, inlet := none, began := false, regexes := ∅
      ranges := [], seed := .number 0, random := 88172645463325252, status := 0
      steps := 0 }
  x m (fun _ m => next () { m.memory with status := m.status }) fun c m =>
    match c with
    | .failed status => stop status m.memory
    | _ => next () { m.memory with status := m.status }

end Running

/-- What is said on the command line. -/
structure Order where
  files : List Octets
  separator : Option Octets
  settings : List (Octets × Octets)
  rest : List Octets

/-- Reads the options. The first argument bounds their number. -/
def readOrder : Nat → Order → List Octets → Tool Order
  | 0, o, args => return { o with rest := args }
  | _, o, [] => return o
  | n + 1, o, arg :: args => do
      let value (inline : Octets) : Tool (Octets × List Octets) := do
        match inline, args with
        | [], v :: args => return (v, args)
        | [], [] => fail 2 ("option requires an argument -- ".toList ++ arg.drop 1)
        | v, args => return (v, args)
      match arg with
      | ['-', '-'] => return { o with rest := args }
      | '-' :: 'f' :: inline =>
          let (v, args) ← value inline
          readOrder n { o with files := o.files ++ [v] } args
      | '-' :: 'F' :: inline =>
          let (v, args) ← value inline
          readOrder n { o with separator := some v } args
      | '-' :: 'v' :: inline =>
          let (v, args) ← value inline
          match Running.setting? v with
          | some s => readOrder n { o with settings := o.settings ++ [s] } args
          | none => fail 2 ("improper assignment: -v ".toList ++ v)
      | '-' :: 'W' :: inline =>
          let (_, args) ← value inline
          readOrder n o args
      | '-' :: _ :: _ => fail 2 ("not an option: ".toList ++ arg)
      | arg => return { o with rest := arg :: args }

/-- The text of the program, and the arguments behind it. -/
def programOf (o : Order) : Tool (Option (Octets × List Octets)) := do
  match o.files, o.rest with
  | [], [] => return none
  | [], text :: args => return some (text, args)
  | files, args =>
      let texts ← files.mapM fun name => do
        let data ← if name = ['-'] then Program.readAll 0 else Program.readPath name
        match data with
        | .ok data => return data
        | .error e => fail 2 ("cannot open \"".toList ++ name ++ "\" (".toList ++ wording e ++ [')'])
      return some (List.intercalate ['\n'] texts, args)

end Awk

/-- Processes records. -/
def awk (args : List Octets) : Tool Unit := do
  let name := (← get).name
  let short := (List.splitOn '/' name).getLast?.getD name
  modify fun m => { m with name := short }
  let order ← Awk.readOrder (args.length + 1) ⟨[], none, [], []⟩ args
  match ← Awk.programOf order with
  | none => return ()
  | some (text, args) =>
      match Awk.read (order.settings.map Prod.fst) text with
      | .error problem => fail 2 problem
      | .ok script =>
          Awk.Running.toTool script do
            Awk.Running.prepare order.separator order.settings (short :: args)
            Awk.Running.run

end Enquiry.Tool
