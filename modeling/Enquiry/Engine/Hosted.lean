import Enquiry.Engine.Executor
import Enquiry.Host.Schedule

/-!
# Engines on a machine

An executor is given its engine, and what is proved of its runs is proved for every engine: nothing
is known of one but that it is there or not, that it starts or not, and the events of its process.
This module has the one engine that the program as a whole needs to be run, with an engine file that
may be any executable and most often is a script.

`Engine.hosted` is the engine at a path of a machine. Its first input is empty, and what it writes
to its two outputs is heard outside at once. A run that is given up is killed; the processes that
it has started itself go on, without anybody who listens.

The machine is the environment of the program and no part of it. `Host` has its files, pipes,
processes, signals and clock, `Shell` and `Tool` the programs that a script may call, `Regex` the
expressions that they read, and `Software` lists them by name.
-/

namespace Enquiry

open Host

namespace Host.World

/-! ### Starting -/

/-- The number that stands for the outside. -/
def outside : Nat := 0

/-- Lets a descriptor of a process lead to a pipe that is heard outside. -/
def listen (w : World) (number descriptor : Nat) (channel : Channel) : World :=
  let (w, pipe) := w.addPipe (some channel)
  let (w, file) := w.openPipe pipe true
  let w := match w.pipe? pipe with
    | some p => w.setPipe pipe { p with readers := 1 }
    | none => w
  w.attach number descriptor ⟨file, false⟩

/-- Starts the program at a path, with an empty input and two outputs that are heard outside. -/
def spawn (w : World) (directory : Nat) (path : Octets) (arguments : List Octets)
    (vars : Variables) : Except Errno (World × Nat) :=
  match w.program directory path arguments vars with
  | .error e => .error e
  | .ok task =>
      let number := w.fresh
      let p : Process :=
        ⟨number, outside, number, w.now + execCost, .live task, false, [], directory, 0o022, [], [],
          none⟩
      let w := { w with processes := p :: w.processes, fresh := number + 1 }
      let w := (w.opening p "/dev/null".toList .reading 0).2
      .ok ((w.listen number 1 .output).listen number 2 .diagnostics, number)

/-- Ends a process from outside after some time, and listens to its outputs no more. -/
def abandon (w : World) (number : Nat) (delay : Nat) : World :=
  let w := { w with now := w.now + delay }
  let w := (w.signal number Signal.kill).bury number
  { w with
    sounds := []
    pipes := w.pipes.map fun (n, p) =>
      (n, if p.channel.isSome then { p with channel := none, readers := 0 } else p) }

/-! ### Watching -/

/-- The ending of a process that has ended. -/
def ending? (w : World) (number : Nat) : Option Ending :=
  match (w.process? number).map Process.standing with
  | some (.ended (.exited status)) => some (.exited status)
  | some (.ended (.killed s)) => some (.killed s)
  | _ => none

/-- What is heard. -/
def heard : Sound → Event
  | .wrote .output data => .output (bytesOf data)
  | .wrote .diagnostics data => .diagnostics (bytesOf data)
  | .closed .output => .outputClosed
  | .closed .diagnostics => .diagnosticsClosed

/-- A process of a machine as seen from outside, for at most so many steps of the machine. -/
def watch (number : Nat) : Nat → World → Enquiry.Process World
  | 0, w => .still (w.abandon number)
  | steps + 1, w =>
      match w.sounds.reverse with
      | sound :: rest =>
          .next (w.abandon number) (heard sound) fun _ =>
            watch number steps { w with sounds := rest.reverse }
      | [] =>
          match w.ending? number with
          | some ending =>
              .next (w.abandon number) (.ended ending) fun _ => watch number steps (w.bury number)
          | none =>
              match w.next? with
              | none => .still (w.abandon number)
              | some (t, p) =>
                  if w.now < t then
                    .next (w.abandon number) (.wait ⟨t - w.now⟩) fun _ =>
                      watch number steps ({ w with now := t }.advance p.number)
                  else watch number steps (w.advance p.number)

/-- How many steps a run may take. One that takes more is taken to go on for ever. -/
def maxSteps : Nat := 4000000

end Host.World

namespace Engine

def nullByteText : String := "nul byte found in provided data"

def nullPathText : String := "file name contained an unexpected NUL byte"

/-- The failure of a call to the system. -/
def systemFailure (e : Errno) : Failure :=
  .io (e.message ++ " (os error " ++ String.ofList (Text.decimal e.number) ++ ")")

/-- Why a program at a path has not been started. -/
def startFailure (path : String) : Errno → Failure
  | .noEntry => .binaryNotFound path
  | .accessDenied => .binaryNotExecutable path
  | e => systemFailure e

def hasNull (text : String) : Bool := text.toList.contains '\x00'

/-- A file that is a program: somebody may run it. -/
def isProgram (i : Inode) : Bool := i.kind == .regular && i.mode &&& 0o111 != 0

/-- The path of a machine names a program. -/
def checkAt (path : String) (directory : Nat) (w : World) : Except Failure Unit :=
  if hasNull path then .error (.io nullPathText)
  else match w.files.find? directory (octets path) true with
    | .error .noEntry => .error (.binaryNotFound path)
    | .error e => .error (systemFailure e)
    | .ok (.descriptor _) => .error (.binaryNotExecutable path)
    | .ok (.inode n) =>
        if (w.files.get? n).any isProgram then .ok () else .error (.binaryNotExecutable path)

/-- The directories that are searched for a program that is named without a path. -/
def searchPath (env : Environment) : List String :=
  ((List.splitOn ':' ((env.get? "PATH").getD "/bin:/usr/bin").toList).map String.ofList)

/-- The paths at which a program may be. -/
def candidates (path : String) (env : Environment) : List String :=
  if path.toList.contains '/' || path.isEmpty then [path]
  else (searchPath env).map fun d => if d.isEmpty then path else d ++ "/" ++ path

/-- Starts the first program of some paths that is there. -/
def spawnFirst (w : World) (directory : Nat) (args : List Octets) (vars : Variables) :
    List String → Option Errno → Except Errno (World × Nat)
  | [], denied => .error (denied.getD .noEntry)
  | path :: paths, denied =>
      match w.spawn directory (octets path) args vars with
      | .ok started => .ok started
      | .error .noEntry => spawnFirst w directory args vars paths denied
      | .error .notDirectory =>
          if paths.isEmpty then .error .notDirectory
          else spawnFirst w directory args vars paths denied
      | .error .accessDenied => spawnFirst w directory args vars paths (some .accessDenied)
      | .error e => .error e

/-- The variables of an environment in the order of their names. -/
def variablesOf (env : Environment) : Variables :=
  (env.entries.map fun (name, value) => (octets name, octets value)).mergeSort
    fun (a, _) (b, _) => !(b < a)

/-- The engine at a path of a machine, seen from one of its directories. -/
def hosted (path : String) (directory : Nat) : Engine World where
  path := path
  check := checkAt path directory
  start args env w :=
    if hasNull path || args.any hasNull || env.entries.any fun (_, value) => hasNull value then
      .error (.io nullByteText)
    else match spawnFirst w directory (octets path :: args.map octets) (variablesOf env)
        (candidates path env) none with
      | .error e => .error (startFailure path e)
      | .ok (w, number) => .ok (w.watch number World.maxSteps)

end Engine

end Enquiry
