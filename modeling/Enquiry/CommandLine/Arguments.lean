import Enquiry.Number.Word
import Enquiry.Service.Response
import Enquiry.Text.Digit
import Enquiry.Text.Search

/-!
# Arguments

The commands of the command line and how they are written. A command takes positional arguments,
options with a value, which is either the next argument or stands behind an equals sign, and
flags. Options may come in any order and only once. Behind `--` everything is positional. An
argument that begins with a hyphen is never the value of the option before it.
-/

namespace Enquiry.CommandLine

open Text Number

inductive Command where
  | query (question path : String) (limit : Nat) (table : Bool)
  | explore (path : String) (sampleSize : Nat)
  | compile (question path : String) (limit : Nat)
  | check (path : Option String)
  deriving DecidableEq, Repr

/-- What the arguments of a program ask for. -/
inductive Invocation where
  | run (c : Command)
  | help
  | version
  | misuse
  deriving DecidableEq, Repr

/-- What a command takes, by name. -/
structure Usage where
  positionals : List String
  texts : List String
  numbers : List String
  flags : List String

/-- Arguments by the names of what they are given for. -/
abbrev Given := List (String × String)

/-- What the arguments of a command come to. -/
inductive Reading where
  | given (g : Given)
  | help
  | misuse

/-- A number of 64 bits without a sign, or with a plus. -/
def number64? (s : String) : Option Nat :=
  let digits := (afterStart? ['+'] s.toList).getD s.toList
  (number? digits).bind fun n => if n < wordBound then some n else none

namespace Usage

def query : Usage := ⟨["question"], ["path"], ["limit"], ["table"]⟩

def explore : Usage := ⟨["path"], [], ["sample-size"], []⟩

def compile : Usage := ⟨["question"], ["path"], ["limit"], []⟩

def check : Usage := ⟨[], ["path"], [], []⟩

def takesValue (u : Usage) (name : String) : Bool :=
  u.texts.contains name || u.numbers.contains name

/-- Adds an option with its value, unless it is there already or the value has the wrong form. -/
def addOption? (u : Usage) (g : Given) (name value : String) : Option Given :=
  if (g.lookup name).isSome then none
  else if u.numbers.contains name && (number64? value).isNone then none
  else some (g ++ [(name, value)])

/-- Adds a positional argument, if one more is taken. -/
def addPositional? (u : Usage) (g : Given) (value : String) : Option Given :=
  (u.positionals.find? fun name => (g.lookup name).isNone).map fun name => g ++ [(name, value)]

/-- Reads the arguments behind some that have been read. `pending` is the option that waits for
its value, and `trailing` says that `--` has been read. -/
def read (u : Usage) (pending : Option String) (trailing : Bool) (g : Given) :
    List String → Reading
  | [] => if pending.isSome then .misuse else .given g
  | arg :: args =>
      let add (g? : Option Given) : Reading :=
        match g? with
        | some g => read u none trailing g args
        | none => .misuse
      let hyphened := arg.toList.head? == some '-' && arg != "-"
      match pending with
      | some name =>
          if trailing || hyphened then .misuse else add (u.addOption? g name arg)
      | none =>
          if trailing || !hyphened then add (u.addPositional? g arg)
          else if arg = "--" then read u none true g args
          else match afterStart? ['-', '-'] arg.toList with
            | none => if arg.toList[1]? = some 'h' then .help else .misuse
            | some long =>
                let (name, value) := breakOn '=' long
                let name := String.ofList name
                if u.takesValue name then
                  if long.contains '=' then add (u.addOption? g name (String.ofList value))
                  else read u (some name) trailing g args
                else if long.contains '=' then .misuse
                else if u.flags.contains name then add (u.addOption? g name "")
                else if name = "help" then .help
                else .misuse

end Usage

/-- The number given under a name, or what it is when none is given. -/
def Given.number (g : Given) (name : String) (default : Nat) : Nat :=
  ((g.lookup name).bind number64?).getD default

/-- The command that some arguments make, unless one is missing. -/
def Reading.invocation (build : Given → Option Command) : Reading → Invocation
  | .given g => match build g with
    | some c => .run c
    | none => .misuse
  | .help => .help
  | .misuse => .misuse

def buildQuery (g : Given) : Option Command := do
  some (.query (← g.lookup "question") (← g.lookup "path")
    (Given.number g "limit" QueryRequest.defaultLimit) (g.lookup "table").isSome)

def buildExplore (g : Given) : Option Command := do
  some (.explore (← g.lookup "path")
    (Given.number g "sample-size" ExploreRequest.defaultSampleSize))

def buildCompile (g : Given) : Option Command := do
  some (.compile (← g.lookup "question") (← g.lookup "path")
    (Given.number g "limit" QueryRequest.defaultLimit))

def buildCheck (g : Given) : Option Command := some (.check (g.lookup "path"))

/-- The commands by name. -/
def commands : List (String × Usage × (Given → Option Command)) :=
  [("query", .query, buildQuery), ("explore", .explore, buildExplore),
    ("compile", .compile, buildCompile), ("check", .check, buildCheck)]

/-- What the arguments behind `help` ask for: one command at most. -/
def helpOn : List String → Invocation
  | [] => .help
  | [name] => if name = "help" ∨ (commands.lookup name).isSome then .help else .misuse
  | _ => .misuse

/-- What the arguments of a program ask for. -/
def Invocation.ofArguments : List String → Invocation
  | [] => .misuse
  | first :: rest =>
      match commands.lookup first with
      | some (usage, build) => (usage.read none false [] rest).invocation build
      | none =>
          if first = "help" then helpOn rest
          else if first = "--help" ∨ ['-', 'h'].isPrefixOf first.toList then .help
          else if first = "--version" ∨ ['-', 'V'].isPrefixOf first.toList then .version
          else .misuse

end Enquiry.CommandLine
