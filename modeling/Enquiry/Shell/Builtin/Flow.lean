import Enquiry.Shell.Builtin.Basic

/-!
# Built-in commands that decide what comes next

Leaving loops, functions and the shell, running texts and files as commands, and turning into
another program.
-/

namespace Enquiry.Shell.Builtin

open Host Text

/-- The number of loops that an argument names. -/
def loopCount (args : List Octets) : Sh Nat := do
  match args with
  | [] => return 1
  | arg :: _ =>
      let n ← readNumber arg
      if n = 0 then Sh.fault ("Illegal number: ".toList ++ arg)
      return n

/-- Leaves so many loops, or begins the next turn of the outermost of them. -/
def leaveLoops (again : Bool) (args : List Octets) : Sh Nat := do
  let n := min (← loopCount args) (← get).loops
  if n = 0 then return 0
  Sh.done 0
  throw (if again then .again (n - 1) else .leave (n - 1))

def back (args : List Octets) : Sh Nat := do
  match args with
  | [] => pure ()
  | arg :: _ => Sh.done (← readNumber arg)
  throw .back

def exit (args : List Octets) : Sh Nat := do
  match args, (← get).leaving with
  | arg :: _, _ => Sh.done ((← readNumber arg) % 256)
  | [], some status => Sh.done status
  | [], none => pure ()
  throw .exit

def eval (e : Evaluator) (c : Context) (args : List Octets) : Sh Nat := do
  let text := List.intercalate [' '] args
  e.script c.goesOn text
  return (← get).status

/-! ### Programs in files -/

/-- The directories in which programs are looked for when nothing else is said. -/
def usualPath : String := "/usr/local/sbin:/usr/local/bin:/usr/sbin:/usr/bin:/sbin:/bin"

/-- The directories in which programs are looked for. -/
def searchPath (s : State) : List Octets :=
  List.splitOn ':' ((s.value? "PATH").getD usualPath.toList)

/-- The path of a name in a directory. -/
def inDirectory (directory name : Octets) : Octets :=
  if directory.isEmpty then name else directory ++ '/' :: name

/-- The first of some paths that leads to a regular file, with why others do not; the list holds
those that may be tried when that one cannot be run. -/
def firstRegular : List Octets → Errno → Sh (Except Errno (Octets × List Octets))
  | [], e => return .error e
  | path :: rest, e => do
      match ← Program.call (.status path true) with
      | .ok status =>
          if status.kind = .regular then return .ok (path, path :: rest)
          else firstRegular rest .accessDenied
      | .error .noEntry => firstRegular rest e
      | .error .notDirectory => firstRegular rest e
      | .error other => firstRegular rest other

/-- The paths at which a program may be. -/
def candidates (s : State) (name : Octets) : List Octets :=
  (searchPath s).map fun directory => inDirectory directory name

/-- Tries to turn into the programs at some paths; the error is that of one that is there. A text
that names no interpreter is run by the shell. -/
def tryPrograms (args : List Octets) (vars : Variables) : List Octets → Errno → Sh Errno
  | [], e => return e
  | path :: rest, e => do
      let result ← Program.call (.exec path args vars)
      let result ← match result with
        | .execFormat =>
            Program.call (.exec "/bin/sh".toList ("/bin/sh".toList :: path :: args.drop 1) vars)
        | other => pure other
      if result = .noEntry ∨ result = .notDirectory then tryPrograms args vars rest e
      else tryPrograms args vars rest result

/-- Turns into the program at one of some paths, or ends the shell because that cannot be done. -/
def become {α : Type} (args : List Octets) (paths : List Octets) : Sh α := do
  let s ← get
  let name := args.headD []
  let e ← tryPrograms args s.environment paths .noEntry
  let isMissing := [Errno.noEntry, .notDirectory, .linkLoop, .nameTooLong].contains e
  Sh.warn (name ++ ": ".toList ++ Redirection.wording e
    (if s.extended then "No such file or directory" else "not found"))
  Sh.done (if isMissing then 127 else 126)
  throw .exit

def exec (args : List Octets) : Sh Nat := do
  let (_, args) ← readFlags "" args
  match args with
  | [] => return 0
  | name :: _ =>
      let s ← get
      become args (if name.contains '/' then [name] else candidates s name)

/-- The path of a script that is run in the shell itself. -/
def scriptPath (name : Octets) : Sh Octets := do
  if name.contains '/' then return name
  let s ← get
  let found ← firstRegular (candidates s name) .noEntry
  match found with
  | .ok (path, _) => return path
  | .error _ =>
      if s.extended then return name
      Sh.fault (name ++ ": not found".toList)

def dot (e : Evaluator) (_ : Context) (args : List Octets) : Sh Nat := do
  let (_, args) ← readFlags "" args
  match args with
  | [] => return 0
  | name :: _ =>
      let path ← scriptPath name
      match ← Program.readPath path with
      | .error err => Redirection.openFault path err
      | .ok text =>
          let command := (← get).command
          modify fun s => { s with command := some path }
          let result ← Program.attempt (e.script .plain text)
          modify fun s => { s with command := command }
          match result with
          | .ok _ => pure ()
          | .error .back => pure ()
          | .error stop => throw stop
          return (← get).status

end Enquiry.Shell.Builtin
