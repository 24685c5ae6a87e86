import Enquiry.Tool.Script.Trace

/-!
# Scripts from the command line

A script is read from a file, from the arguments or from the input, and is run. Its status is the
one with which it leaves; without any it is zero, or one when something has gone wrong.
-/

namespace Enquiry.Tool

open Host Text

namespace Script

/-- What is said on the command line. -/
structure Order where
  command : Option (List Char)
  /-- What is written is handed on at once. -/
  eager : Bool
  version : Bool
  rest : List (List Char)

/-- Reads the options. The first argument bounds their number. -/
def readOrder : Nat → Order → List Octets → Order
  | 0, o, args => { o with rest := args.map decoded }
  | n + 1, o, args =>
      match args with
      | ['-', 'c'] :: command :: rest =>
          { o with command := some (decoded command), rest := "-c".toList :: rest.map decoded }
      | ['-', '-'] :: rest => { o with rest := rest.map decoded }
      | ['-'] :: rest => { o with rest := ['-'] :: rest.map decoded }
      | ['-', 'V'] :: _ => { o with version := true }
      | ('-' :: '-' :: word) :: rest =>
          if word = "version".toList then { o with version := true } else readOrder n o rest
      | ('-' :: letters) :: rest =>
          let o := if letters.contains 'u' then { o with eager := true } else o
          if letters.contains 'W' || letters.contains 'X' then readOrder n o (rest.drop 1)
          else if letters.getLast? = some 'c' then
            match rest with
            | command :: rest =>
                { o with command := some (decoded command), rest := "-c".toList :: rest.map decoded }
            | [] => o
          else readOrder n o rest
      | args => { o with rest := args.map decoded }

/-- The names of the character set in which scripts write, in capitals without marks. -/
def wideNames : List String := ["CUTF8", "POSIXUTF8"]

/-- The variables that a script finds. Where no wide character set has been chosen, one is chosen for
it and for the programs that it starts. -/
def settled (vars : Variables) : Variables :=
  let value (name : String) : Octets := (vars.lookup name.toList).getD []
  if !(value "LC_ALL").isEmpty then vars
  else
    let chosen := if (value "LC_CTYPE").isEmpty then value "LANG" else value "LC_CTYPE"
    let name := String.ofList ((chosen.filter fun c => c != '.' && c != '-').map Char.toUpper)
    if wideNames.contains name then vars else setVariable vars "LC_CTYPE".toList "C.UTF-8".toList

namespace Running

/-- Prepares what a script finds when it begins. -/
def prepare : Running Unit := do
  modify fun m => { m with memory := { m.memory with vars := settled m.memory.vars } }
  let m ← get
  let args ← makeList (m.args.map Value.text)
  let path ← makeList [.text []]
  let environment ← makeDict (m.memory.vars.map fun (k, v) =>
    (.text (decoded k), .text (decoded v)))
  modify fun m =>
    { m with shelf := [(("sys", "argv"), args), (("sys", "path"), path),
        (("os", "environ"), environment)] }
  setIn scriptScope "__name__" (.text "__main__".toList)
  setIn scriptScope "__file__" (.text m.file)
  setIn scriptScope "__doc__" .none
  setIn scriptScope "__builtins__" (.module "builtins")
  let _ ← Program.call (.arrange Signal.pipe .ignored)

/-- How functions are called from outside. -/
def applied : Apply := call maxRounds

/-- The status with which a script leaves, after saying why if there is a reason. -/
def leavingStatus (args : List Value) : Running Nat := do
  let v := match args with
    | [v] => v
    | [] => .none
    | args => .tuple args
  match v with
  | .none => return 0
  | .whole n => return (n % 256).toNat
  | .bool b => return if b then 1 else 0
  | v =>
      let text ← textOf applied v
      writeText diagnosticStream (text ++ ['\n'])
      return 1

/-- The status of a script that has ended because something has gone wrong. -/
def faultStatus (fault : Nat) : Running Nat := do
  match ← object fault with
  | .fault f =>
      if ← belongs maxKinds f.kind (.builtin "SystemExit") then leavingStatus f.args
      else
        writeText diagnosticStream (← faultReport applied 50 fault)
        return 1
  | _ => return 1

/-- Runs the statements of a script: its status. -/
def runAll (body : List Statement) : Running Nat := do
  match ← Program.attempt (execAll maxRounds body) with
  | .ok _ => return 0
  | .error (.raised fault) =>
      match ← Program.attempt (faultStatus fault) with
      | .ok status => return status
      | .error _ => return 1
  | .error (.failed status) => return status
  | .error _ => return 0

/-- Hands on all that has been written: the status in the end. -/
def settle (status : Nat) : Running Nat := do
  let status ← match ← Program.attempt (flushStream outputStream) with
    | .ok _ => pure status
    | .error (.raised fault) => do
        let text ← faultReport applied 1 fault
        let last := ((List.splitOn '\n' text).reverse.drop 1).headD []
        let _ ← Program.attempt (writeText diagnosticStream
          ("Exception ignored in: <_io.TextIOWrapper name='<stdout>' mode='w' encoding='utf-8'>\n".toList ++
            last ++ ['\n']))
        pure 120
    | .error _ => pure 120
  let _ ← Program.attempt (flushStream diagnosticStream)
  return status

/-- Runs a script, and ends. -/
def run (body : List Statement) : Running Unit := do
  prepare
  let status ← runAll body
  Program.exit (← settle status)

/-- The tool that a script is. -/
def toTool (file : List Char) (source : Array (List Char)) (args : List (List Char)) (eager : Bool)
    (x : Running Unit) : Tool Unit := fun memory next stop =>
  let streams : Array Object :=
    #[.stream (.at "<stdin>".toList 0 true false false false),
      .stream (.at "<stdout>".toList 1 false true false eager),
      .stream (.at "<stderr>".toList 2 false true false true)]
  let m : Machine :=
    { memory, heap := streams, scopes := #[default]
      frames := [⟨"<module>", scriptScope, default, 0⟩], handling := none, handedOut := []
      watched := [], steps := 0, functions := 0, file, source, args, shelf := [] }
  x m (fun _ m => next () m.memory) fun c m =>
    match c with
    | .failed status => stop status m.memory
    | _ => next () m.memory

end Running

/-- The time that passes before a script begins, in nanoseconds. -/
def startCost : Nat := 12000000

end Script

/-- Runs a script. -/
def script (args : List Octets) : Tool Unit := do
  let order := Script.readOrder (args.length + 1) ⟨none, false, false, []⟩ args
  let _ ← Program.call (.tick Script.startCost)
  if order.version then
    printLine ("Python ".toList ++ Script.Running.versionText)
    return ()
  let eager := order.eager || (← inherited? "PYTHONUNBUFFERED").isSome
  let (file, args, text) ← match order.command, order.rest with
    | some command, rest => pure ("<string>".toList, rest, octets (String.ofList command))
    | none, [] => do
        match ← Program.readAll 0 with
        | .ok data => pure ("<stdin>".toList, [[]], data)
        | .error _ => pure ("<stdin>".toList, [[]], [])
    | none, ['-'] :: rest => do
        match ← Program.readAll 0 with
        | .ok data => pure ("<stdin>".toList, ['-'] :: rest, data)
        | .error _ => pure ("<stdin>".toList, ['-'] :: rest, [])
    | none, path :: rest => do
        match ← Program.readPath (octets (String.ofList path)) with
        | .ok data => do
            let here ← match ← Program.call .currentDirectory with
              | .ok here => pure (Script.decoded here)
              | .error _ => pure []
            let bare := if path.take 2 = ['.', '/'] then path.drop 2 else path
            pure (Script.joinPaths [here, bare], path :: rest, data)
        | .error e =>
            fail 2 ("can't open file '".toList ++ octets (String.ofList path) ++ "': [Errno ".toList ++
              decimal e.number ++ "] ".toList ++ wording e)
  let source := (Script.Running.plainLines (Script.decoded text))
  let lines := if order.command.isSome || file = "<stdin>".toList then #[]
    else (List.splitOn '\n' source).toArray
  match Script.read source with
  | .error problem =>
      let lines := (List.splitOn '\n' source).toArray
      tell (octets (String.ofList (problem.text file lines)))
      throw 1
  | .ok body => Script.Running.toTool file lines args eager (Script.Running.run body)

end Enquiry.Tool
