import Enquiry.Shell.Builtin.Basic

/-!
# Built-in commands for directories

The shell remembers by which path it has come to its directory, symbolic links included.
-/

namespace Enquiry.Shell.Builtin

open Host Text

/-- The path of a directory without `.` and `..`, from another one on. -/
def normalPath (directory path : Octets) : Octets :=
  let start := if path.head? = some '/' then [] else List.splitOn '/' directory
  let parts := (start ++ List.splitOn '/' path).foldl
    (fun (found : List Octets) part =>
      if part.isEmpty ∨ part = ['.'] then found
      else if part = ['.', '.'] then found.drop 1
      else part :: found)
    []
  '/' :: List.intercalate ['/'] parts.reverse

/-- The path of the directory that the machine knows. -/
def physicalDirectory : Sh Octets := do
  match ← Program.call .currentDirectory with
  | .ok path => return path
  | .error _ => return []

/-- Notes that the shell is in another directory. -/
def enterDirectory (path : Octets) : Sh Unit := do
  let old := (← get).directory
  Sh.assign "OLDPWD" old
  Sh.exportName "OLDPWD"
  modify fun s => { s with directory := path }
  Sh.assign "PWD" path
  Sh.exportName "PWD"

/-- Goes to another directory; the answer is no when there is none. -/
def tryDirectory (physical : Bool) (path : Octets) : Sh Bool := do
  let s ← get
  let target := if physical then path else normalPath s.directory path
  match ← Program.call (.changeDirectory target) with
  | .ok _ =>
      let target ← if physical then physicalDirectory else pure target
      enterDirectory target
      return true
  | .error _ => return false

/-- The first of some directories in which there is another one with a name. -/
def firstDirectory (name : Octets) : List Octets → Sh (Option (Octets × Bool))
  | [] => return none
  | directory :: rest => do
      let path := if directory.isEmpty then name else directory ++ '/' :: name
      match ← Program.call (.status path true) with
      | .ok status =>
          if status.kind = .directory then return some (path, !directory.isEmpty)
          else firstDirectory name rest
      | .error _ => firstDirectory name rest

def cd (args : List Octets) : Sh Nat := do
  let (flags, args) ← readFlags "LP" args
  let s ← get
  let physical := flags.getLast?.any fun (c, _) => c == 'P'
  let (wanted, told) := match args with
    | [] => ((s.value? "HOME").getD [], false)
    | ['-'] :: _ => ((s.value? "OLDPWD").getD [], true)
    | arg :: _ => (arg, false)
  let isFixed := wanted.head? == some '/' ||
    [['.'], ['.', '.']].contains (wanted.takeWhile (· != '/'))
  let wanted := if wanted.isEmpty then ['.'] else wanted
  let paths := List.splitOn ':' ((s.value? "CDPATH").getD [])
  let (path, told) ←
    if isFixed then pure (wanted, told)
    else match ← firstDirectory wanted paths with
      | some (path, other) => pure (path, told || other)
      | none => pure (wanted, told)
  if ← tryDirectory physical path then
    if told then Sh.printLine (← get).directory
    return 0
  else if s.extended then
    Sh.warn (wanted ++ ": No such file or directory".toList)
    return 1
  else Sh.fault ("can't cd to ".toList ++ wanted)

def pwd (args : List Octets) : Sh Nat := do
  let (flags, _) ← readFlags "LP" args
  let physical := flags.getLast?.any fun (c, _) => c == 'P'
  let s ← get
  let path ← if physical then physicalDirectory else pure s.directory
  Sh.printLine path
  return 0

end Enquiry.Shell.Builtin
