import Enquiry.Shell.Builtin.Basic
import Enquiry.Shell.Jobs

/-!
# Built-in commands for processes

Signals are sent and looked after, and the ends of processes are waited for.
-/

namespace Enquiry.Shell.Builtin

open Host Text

/-! ### Signals -/

/-- The signal of a number or a name, which stands for the end of the shell when it is zero. With
`real`, there is no such name. -/
def signalOf? (real : Bool) (text : Octets) : Option Signal :=
  if !text.isEmpty && text.all isAsciiDigit then
    (number? text).bind fun n => if n ≤ Signal.last then some n else none
  else
    let name := (textOf text).map Char.toUpper
    if name = "EXIT" ∧ !real then some 0 else Signal.ofName? name

/-- The signal of a number or a name in the richer dialect, where names may begin with `SIG`. -/
def richSignalOf? (real : Bool) (text : Octets) : Option Signal :=
  match signalOf? real text, afterStart? "SIG".toList (text.map Char.toUpper) with
  | some s, _ => some s
  | none, some name => signalOf? real name
  | none, none => none

def readSignal? (real : Bool) (text : Octets) : Sh (Option Signal) := do
  return if (← get).extended then richSignalOf? real text else signalOf? real text

/-- Arranges what is done when a signal comes. -/
def arrange (signal : Signal) (action : Option Octets) : Sh Unit := do
  modify fun s =>
    let others := s.traps.filter fun (t, _) => t != signal
    { s with traps := match action with
      | some a => (signal, a) :: others
      | none => others }
  if signal ≠ 0 then
    let disposition : Disposition := match action with
      | none => .default
      | some [] => .ignored
      | some _ => .caught
    let _ ← Program.call (.arrange signal disposition)

/-- Arranges the same for some signals. -/
def arrangeAll (action : Option Octets) : List Octets → Sh Nat
  | [] => return 0
  | name :: rest => do
      match ← readSignal? false name with
      | none =>
          if (← get).extended then Sh.warn ("trap: ".toList ++ name ++ ": invalid signal specification".toList)
          else
            let _ ← Program.writeAll Sh.diagnostics ("trap: ".toList ++ name ++ ": bad trap\n".toList)
          return 1
      | some signal =>
          arrange signal action
          arrangeAll action rest

/-- Shows what is done when signals come. -/
def showTraps : Sh Nat := do
  let traps := (← get).traps.mergeSort fun (a, _) (b, _) => a ≤ b
  for (signal, action) in traps do
    let name := if signal = 0 then "EXIT" else (Signal.name? signal).getD ""
    Sh.printLine ("trap -- ".toList ++ singleQuoted action ++ ' ' :: name.toList)
  return 0

def trap (args : List Octets) : Sh Nat := do
  let (_, args) ← readFlags "" args
  match args with
  | [] => showTraps
  | [name] => arrangeAll none [name]
  | action :: names =>
      if action.all isAsciiDigit ∧ (signalOf? false action).isSome then
        arrangeAll none (action :: names)
      else arrangeAll (if action = ['-'] then none else some action) names

/-- How `kill` is used. -/
def killUsage : Octets :=
  "Usage: kill [-s sigspec | -signum | -sigspec] [pid | job]... or\nkill -l [exitstatus]".toList

/-- The number of the first process of a job that is named by its place. -/
def jobNumber? (s : State) (text : Octets) : Option Nat :=
  let jobs := s.jobs.reverse
  match text with
  | ['%'] => s.jobs.head?.map Job.key
  | '%' :: '%' :: [] => s.jobs.head?.map Job.key
  | '%' :: '+' :: [] => s.jobs.head?.map Job.key
  | '%' :: '-' :: [] => (s.jobs[1]?).map Job.key
  | '%' :: digits => (number? digits).bind fun n =>
      if n = 0 then none else (jobs[n - 1]?).map Job.key
  | _ => none

/-- The process that an argument names. -/
def processOf (text : Octets) : Sh Nat := do
  match text with
  | '%' :: _ =>
      match jobNumber? (← get) text with
      | some n => return n
      | none => Sh.fault ("No such job: ".toList ++ text)
  | '-' :: rest => readNumber rest
  | text => readNumber text

/-- Sends a signal to some processes. -/
def sendAll (signal : Signal) : List Octets → Nat → Sh Nat
  | [], status => return status
  | target :: rest, status => do
      let number ← processOf target
      match ← Program.call (.kill number signal) with
      | .ok _ => sendAll signal rest status
      | .error err =>
          Sh.warn (err.message.toList ++ ['\n'])
          sendAll signal rest 1

/-- Shows the names of signals. -/
def listSignals (args : List Octets) : Sh Nat := do
  match args with
  | [] =>
      Sh.printLine ['0']
      for n in List.range Signal.last do
        Sh.printLine ((Signal.name? (n + 1)).map String.toList |>.getD (decimal (n + 1)))
      return 0
  | arg :: _ =>
      let n ← readNumber arg
      let signal := if 128 < n then n - 128 else n
      match (if signal ≤ Signal.last then Signal.name? signal else none) with
      | some name => Sh.printLine name.toList
      | none => Sh.fault ("invalid signal number or exit status: ".toList ++ arg)
      return 0

/-- Sends a signal to some processes, of which there is at least one. -/
def sendSome (signal : Signal) (args : List Octets) : Sh Nat := do
  if args.isEmpty then Sh.fault killUsage
  sendAll signal args 0

def kill (args : List Octets) : Sh Nat := do
  match args with
  | [] => Sh.fault killUsage
  | ('-' :: name) :: rest =>
      match ← readSignal? true name with
      | some signal => sendSome signal rest
      | none =>
          let (flags, args) ← readFlags "ls:" args
          if flags.any fun (c, _) => c == 'l' then listSignals args
          else match (flags.filter fun (c, _) => c == 's').getLast? with
            | none => sendSome Signal.terminate args
            | some (_, name) =>
                match ← readSignal? true name with
                | some signal => sendSome signal args
                | none => Sh.fault ("invalid signal number or name: ".toList ++ name)
  | args => sendSome Signal.terminate args

/-! ### Waiting -/

/-- The status when a signal has ended the waiting. -/
def interruptedStatus : Sh Nat := do
  match (← get).pending.getLast? with
  | some signal => return 128 + signal
  | none => return 128

/-- Waits for some processes, one after another. -/
def waitFor : List Octets → Nat → Sh Nat
  | [], status => return status
  | arg :: rest, _ => do
      let number ← processOf arg
      let s ← get
      match s.jobs.find? fun j => j.processes.getLast? == some number || j.key == number with
      | none => waitFor rest 127
      | some j =>
          match ← Sh.awaitJob true j.key Sh.maxWaits with
          | some fate =>
              modify fun s => { s with jobs := s.jobs.map fun k =>
                if k.key = j.key then { k with waited := true } else k }
              waitFor rest (Sh.statusOf fate)
          | none =>
              if (← get).pending.isEmpty then waitFor rest 127 else interruptedStatus

def wait (args : List Octets) : Sh Nat := do
  let (_, args) ← readFlags "" args
  if args.isEmpty then
    if ← Sh.awaitAll Sh.maxWaits then return 0 else interruptedStatus
  else waitFor args 0

/-- Shows jobs and forgets those that are done. -/
def jobs (args : List Octets) : Sh Nat := do
  let (flags, _) ← readFlags "lp" args
  Sh.reapEnded Sh.maxWaits
  let s ← get
  let rec show_ : List Job → Nat → Sh Unit
    | [], _ => return ()
    | j :: rest, n => do
        if flags.any fun (c, _) => c == 'p' then Sh.printLine (decimal j.key)
        else
          let current := s.jobs.head?.map Job.key == some j.key
          let standing : Octets := match j.isDone, j.fate? with
            | true, some (.exited 0) => "Done".toList
            | true, some (.exited n) => "Done(".toList ++ decimal n ++ [')']
            | true, some (.killed signal) => (Signal.wording signal).toList
            | _, _ => "Running".toList
          let number := if flags.isEmpty then [] else decimal j.key ++ [' ']
          let head := '[' :: decimal n ++ [']', ' ', if current then '+' else ' ', ' '] ++ number
          Sh.printLine (head ++ standing ++ List.replicate (33 - head.length - standing.length) ' ')
        show_ rest (n + 1)
  show_ s.jobs.reverse 1
  modify fun s => { s with jobs := s.jobs.filter fun j => !j.isDone }
  return 0

/-- Jobs are never brought to the front or back, because there is no terminal. -/
def moveJob (_ : List Octets) : Sh Nat := do
  if (← get).jobs.isEmpty then Sh.fault "No current job".toList
  Sh.fault "job (null) not created under job control".toList

def times (_ : List Octets) : Sh Nat := do
  let line := "0m0.000000s 0m0.000000s".toList
  Sh.printLine line
  Sh.printLine line
  return 0

end Enquiry.Shell.Builtin
