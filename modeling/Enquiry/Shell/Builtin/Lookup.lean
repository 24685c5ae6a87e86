import Enquiry.Shell.Builtin.Flow
import Enquiry.Shell.Builtin.Output
import Enquiry.Shell.Builtin.Places
import Enquiry.Shell.Builtin.Settings
import Enquiry.Shell.Builtin.Watching

/-!
# Finding commands

A name stands for a command of the shell that nothing can replace, else for a function, else for
another command of the shell, else for a program in a directory. Here are all commands of the shell
by name, and those that say what a name stands for.
-/

namespace Enquiry.Shell

open Host Text

/-- What the name of a command stands for. -/
inductive Found where
  | function (body : Command)
  | builtin (b : Builtin)
  /-- The first path is the one that was found; it and the others may be tried. -/
  | program (path : Octets) (candidates : List Octets)
  | missing (e : Errno)

namespace Builtin

/-- The commands of the shell that need no look-up. -/
def basic : List (String × Builtin) :=
  [(".", ⟨true, false, dot⟩), (":", .ofSpecial fun _ => return 0),
    ("break", .ofSpecial (leaveLoops false)), ("continue", .ofSpecial (leaveLoops true)),
    ("eval", ⟨true, false, eval⟩), ("exec", .ofSpecial exec), ("exit", .ofSpecial exit),
    ("export", .declaring exporting), ("readonly", .declaring readOnly),
    ("return", .ofSpecial back), ("set", .ofSpecial setting), ("shift", .ofSpecial shift),
    ("times", .ofSpecial times), ("trap", .ofSpecial trap), ("unset", .ofSpecial unset),
    ("local", .declaring locals), ("[", .plain bracket), ("alias", ⟨false, true, fun _ _ => setAliases⟩),
    ("bg", .plain moveJob), ("fg", .plain moveJob), ("cd", .plain cd), ("chdir", .plain cd), ("echo", .plain echo),
    ("false", .plain fun _ => return 1), ("getopts", .plain getopts), ("jobs", .plain jobs),
    ("kill", .plain kill), ("printf", .plain printf), ("pwd", .plain pwd), ("read", .plain read),
    ("test", .plain test), ("true", .plain fun _ => return 0), ("ulimit", .plain ulimit),
    ("umask", .plain umask), ("unalias", .plain unalias), ("wait", .plain wait)]

/-- The names of the commands that are defined by looking names up. -/
def lookups : List String := ["command", "hash", "type"]

/-- The commands of the richer dialect. -/
def rich : List (String × Builtin) :=
  [("source", ⟨true, false, dot⟩), ("declare", .declaring exporting)]

/-- What a name stands for that is no command of the shell. -/
def findProgram (name : Octets) : Sh Found := do
  if name.contains '/' then return .program name [name]
  let s ← get
  match ← firstRegular (candidates s name) .noEntry with
  | .ok (path, candidates) => return .program path candidates
  | .error e => return .missing e

/-- How a name is described: at length or in short. Nothing is said of a name that stands for
nothing. -/
def describe (atLength : Bool) (name : Octets) : Sh (Option Octets) := do
  let s ← get
  let text := textOf name
  let both (long : String) : Option Octets :=
    some (if atLength then name ++ ' ' :: long.toList else name)
  if reservedWords.contains text then return both "is a shell keyword"
  match s.aliases.lookup name with
  | some value =>
      return some (if atLength then name ++ " is an alias for ".toList ++ value
        else "alias ".toList ++ name ++ '=' :: singleQuoted value)
  | none =>
      let builtin := (basic ++ if s.extended then rich else []).lookup text
      if builtin.any Builtin.special then
        return both (if s.extended then "is a shell builtin" else "is a special shell builtin")
      else if (s.functions.lookup text).isSome then
        return both (if s.extended then "is a function" else "is a shell function")
      else if builtin.isSome ∨ lookups.contains text then return both "is a shell builtin"
      else match ← findProgram name with
        | .program path _ =>
            match ← Program.call (.status path true) with
            | .ok _ => return some (if atLength then name ++ " is ".toList ++ path else path)
            | .error _ => return none
        | _ => return none

def type (args : List Octets) : Sh Nat := do
  let mut status := 0
  for name in args do
    match ← describe true name with
    | some text => Sh.printLine text
    | none =>
        Sh.printLine (name ++ ": not found".toList)
        status := 127
  return status

/-- Says what a name stands for; running commands is not done here. -/
def command (args : List Octets) : Sh Nat := do
  let (flags, args) ← readFlags "pvV" args
  match args, (flags.filter fun (c, _) => c != 'p').getLast? with
  | name :: _, some (c, _) =>
      match ← describe (c == 'V') name with
      | some text =>
          Sh.printLine text
          return 0
      | none =>
          if c = 'V' then Sh.printLine (name ++ ": not found".toList)
          return 127
  | _, _ => return 0

def hash (args : List Octets) : Sh Nat := do
  let (_, args) ← readFlags "rv" args
  let mut status := 0
  for name in args do
    if (← describe false name).isNone then
      Sh.warn (name ++ ": not found".toList)
      status := 1
  return status

/-- All commands of the shell. -/
def all : List (String × Builtin) :=
  basic ++ [("command", .plain command), ("hash", .plain hash), ("type", .plain type)]

/-- The command of the shell with a name. -/
def find? (extended : Bool) (name : Octets) : Option Builtin :=
  (if extended then all ++ rich else all).lookup (textOf name)

end Builtin

/-- What the name of a command stands for. No function is looked for without `functions`. -/
def findCommand (functions : Bool) (name : Octets) : Sh Found := do
  let s ← get
  match Builtin.find? s.extended name with
  | some b =>
      match (if b.special || !functions then none else s.functions.lookup (textOf name)) with
      | some body => return .function body
      | none => return .builtin b
  | none =>
      match (if functions then s.functions.lookup (textOf name) else none) with
      | some body => return .function body
      | none => Builtin.findProgram name

end Enquiry.Shell
