import Enquiry.CommandLine.Run
import Enquiry.Engine.Hosted
import Enquiry.Software

/-!
# The program

Reads the environment, the settings files, the engine and the day, runs the command line on them,
and prints what it answers.
-/

namespace Enquiry.Main

open CommandLine Text

/-- The contents of a file, if it can be read as text. -/
def contents? (path : String) : IO (Option String) := do
  try
    return some (← IO.FS.readFile path)
  catch _ =>
    return none

def environment : IO Environment := do
  try
    return .ofBlock (← IO.FS.readBinFile "/proc/self/environ").toList
  catch _ =>
    return .empty

/-- The files that settings may come from. -/
def settingsFiles : List String :=
  ["config.toml", "config.dev.toml", "config.prod.toml", "config.test.toml"]

/-- How many directories above this one are searched for settings files. -/
def maxAncestors : Nat := 32

/-- The contents of a file in this directory or the nearest one above it. -/
def nearest? (name : String) : IO (Option String) := do
  for n in List.range maxAncestors do
    if let some contents ← contents? (String.join (List.replicate n "../") ++ name) then
      return some contents
  return none

def files : IO Layer.Files := do
  let found ← settingsFiles.filterMapM fun name => do
    return (← nearest? name).map (name, ·)
  return fun name => found.lookup name

/-- The directory that stands for the present one. -/
def workplace : String := "/home/user"

/-- A machine with the engine at a path, if there is a file. Whoever may read a file is taken to be
allowed to run it. -/
def machineWith (path : String) : IO (Host.World × Nat) := do
  let (w, directory) := (Host.World.boot software 0).enter workplace
  let full := if path.toList.head? == some '/' then path else workplace ++ "/" ++ path
  match ← contents? path with
  | some contents => return (w.install full (Host.octets contents) 0o755, directory)
  | none => return (w, directory)

/-- The number on the line of a text that begins with a word. -/
def numberBehind? (word : String) (text : String) : Option Nat :=
  (List.splitOn '\n' text.toList).findSome? fun line =>
    (afterStart? word.toList line).bind fun rest => number? (trim rest)

/-- Today, from the time when the system was started and the time since then. -/
def today : IO Date := do
  let stat ← contents? "/proc/stat"
  let uptime ← contents? "/proc/uptime"
  let started := (stat.bind (numberBehind? "btime")).getD 0
  let since := (uptime.bind fun t => number? (t.toList.takeWhile isAsciiDigit)).getD 0
  return .ofClock (started + since)

/-- Runs the program with some arguments. -/
def program (args : List String) : IO UInt32 := do
  let env ← environment
  let files ← files
  let path := match Settings.load env files (Settings.profile env) with
    | .ok settings => settings.binaryPath
    | .error _ => Settings.default.binaryPath
  let (machine, directory) ← machineWith path
  let outcome := (run ⟨env, files, (Engine.hosted · directory), ← today⟩ args machine).1
  IO.print outcome.output
  IO.eprint outcome.complaint
  return outcome.exitCode.toUInt32

end Enquiry.Main

def main (args : List String) : IO UInt32 := Enquiry.Main.program args
