import Enquiry.Assignment
import Enquiry.Host.Console
import Enquiry.Shell.ScriptReader

/-!
# The state of a shell

What a shell remembers while it runs a script: its parameters, functions, options and jobs, what it
does when signals come, and where it is.
-/

namespace Enquiry.Shell

open Host Text

/-- A variable; it may have attributes and no value. -/
structure Variable where
  value : Option Octets
  exported : Bool
  readOnly : Bool
  deriving DecidableEq, Repr

/-- Processes that have been started together. -/
structure Job where
  processes : List Nat
  /-- How those have ended that have. -/
  fates : List (Nat × Fate)
  background : Bool
  /-- Its end has been heard of. -/
  waited : Bool
  text : Octets

namespace Job

def isDone (j : Job) : Bool := j.processes.all fun p => (j.fates.lookup p).isSome

/-- How its last process has ended. -/
def fate? (j : Job) : Option Fate := j.processes.getLast?.bind fun p => j.fates.lookup p

end Job

/-- The options that are set, by their letters. -/
structure Options where
  letters : List Char
  deriving DecidableEq, Repr

namespace Options

/-- No option is set. -/
def none : Options := ⟨[]⟩

/-- The names and letters of the options. Those without a letter of their own have a digit. -/
def names : List (String × Char) :=
  [("errexit", 'e'), ("noglob", 'f'), ("ignoreeof", 'I'), ("interactive", 'i'), ("monitor", 'm'),
    ("noexec", 'n'), ("stdin", 's'), ("xtrace", 'x'), ("verbose", 'v'), ("vi", 'V'), ("emacs", 'E'),
    ("noclobber", 'C'), ("allexport", 'a'), ("notify", 'b'), ("nounset", 'u'), ("privileged", 'p'),
    ("nolog", '0'), ("debug", '1')]

/-- The names and letters of the options of the richer dialect. -/
def richNames : List (String × Char) :=
  [("allexport", 'a'), ("braceexpand", 'B'), ("emacs", '2'), ("errexit", 'e'), ("errtrace", 'E'),
    ("functrace", 'T'), ("hashall", 'h'), ("histexpand", 'H'), ("history", '3'), ("ignoreeof", '4'),
    ("interactive-comments", '5'), ("keyword", 'k'), ("monitor", 'm'), ("noclobber", 'C'),
    ("noexec", 'n'), ("noglob", 'f'), ("nolog", '0'), ("notify", 'b'), ("nounset", 'u'),
    ("onecmd", 't'), ("physical", 'P'), ("pipefail", '6'), ("posix", '7'), ("privileged", 'p'),
    ("verbose", 'v'), ("vi", '8'), ("xtrace", 'x')]

def has (o : Options) (letter : Char) : Bool := o.letters.contains letter

/-- Sets an option or takes it away. -/
def put (o : Options) (letter : Char) (on : Bool) : Options :=
  let others := o.letters.filter (· != letter)
  ⟨if on then letter :: others else others⟩

/-- A command that fails ends the script. -/
def stopsOnFailure (o : Options) : Bool := o.has 'e'

/-- Parameters that are not set are errors. -/
def requiresSet (o : Options) : Bool := o.has 'u'

/-- Commands are shown before they run. -/
def traces (o : Options) : Bool := o.has 'x'

/-- Patterns are not expanded to paths. -/
def keepsPatterns (o : Options) : Bool := o.has 'f'

/-- Files that are there are not replaced. -/
def keepsFiles (o : Options) : Bool := o.has 'C'

/-- Variables are exported when they are set. -/
def exportsAll (o : Options) : Bool := o.has 'a'

/-- Commands are not run. -/
def skipsCommands (o : Options) : Bool := o.has 'n'

/-- A pipeline fails when one of its commands does. -/
def failsWithAny (o : Options) : Bool := o.has '6'

end Options

/-- What the shell has saved of the descriptors that a command has changed. -/
inductive Saved where
  /-- Nothing was open there. -/
  | closed (descriptor : Nat)
  /-- What was open there has another number now. -/
  | moved (descriptor copy : Nat)
  deriving DecidableEq, Repr

structure State where
  name : Octets
  arguments : List Octets
  /-- In the order in which they were first set. -/
  vars : List (String × Variable)
  functions : List (String × Command)
  /-- What the variables were that functions and commands have made their own, for each that is
  being run, the innermost first. -/
  outer : List (List (String × Option Variable))
  /-- How many functions are being run. -/
  depth : Nat
  status : Nat
  /-- The status of the last command in a word. -/
  innerStatus : Nat
  line : Nat
  /-- The command that complaints name. -/
  command : Option Octets
  /-- The number of the process that the script was started as. -/
  number : Nat
  /-- The number of the last process in the background. -/
  background : Option Nat
  /-- The latest first. -/
  jobs : List Job
  options : Options
  /-- What is done when signals come; zero stands for the end of the shell. -/
  traps : List (Signal × Octets)
  /-- Signals that have come and not been looked after. -/
  pending : List Signal
  /-- What commands have changed of the descriptors, for each that is being run, the innermost
  first. -/
  saved : List (List Saved)
  documents : List (Nat × Word)
  nextDocument : Nat
  /-- How many loops are being run around the command. -/
  loops : Nat
  /-- What the command has written, the latest first. -/
  written : List Octets
  /-- The status with which the shell was going to end when it began to do its last things. -/
  leaving : Option Nat
  /-- The number of the argument that `getopts` goes on with, and how many characters of the one in
  front of it have been read if there are more. -/
  optionIndex : Nat
  optionOffset : Option Nat
  directory : Octets
  aliases : List (Octets × Octets)
  /-- The script is in the richer dialect. -/
  extended : Bool
  /-- The state of the numbers that nobody can foresee. -/
  seed : Nat

/-- Why a shell breaks off what it does. -/
inductive Stop where
  /-- The shell ends with its status. -/
  | exit
  /-- Something is wrong; a script ends then. -/
  | fault
  /-- So many loops are left. -/
  | leave (loops : Nat)
  /-- The loop around so many others goes on with its next turn. -/
  | again (loops : Nat)
  /-- A function or a script returns. -/
  | back
  deriving DecidableEq, Repr

/-- Something that a shell does. -/
abbrev Sh := Program Stop State

namespace State

/-! ### Variables -/

def find? (s : State) (name : String) : Option Variable := s.vars.lookup name

/-- The value of a variable, if it is set. -/
def value? (s : State) (name : String) : Option Octets := (s.find? name).bind Variable.value

def setVariable (s : State) (name : String) (v : Variable) : State :=
  { s with vars := assign name v s.vars }

def dropVariable (s : State) (name : String) : State :=
  { s with vars := s.vars.filter fun (n, _) => n != name }

/-- Gives a variable a value, whatever it was. -/
def assign (s : State) (name : String) (value : Octets) : State :=
  let old := (s.find? name).getD ⟨none, false, false⟩
  let s :=
    if name = "OPTIND" then
      { s with optionIndex := max 1 ((number? value).getD 1), optionOffset := none }
    else s
  s.setVariable name
    { old with value := some value, exported := old.exported || s.options.exportsAll }

/-- Where a variable stands among those that are handed on. -/
def bucket (name : String) : Nat :=
  match name.toList with
  | [] => 0
  | c :: rest => (16 * c.toNat + (c :: rest).foldl (fun n c => n + c.toNat) 0) % 39

/-- The variables that are handed on to other programs, in the order of their places. -/
def environment (s : State) : Variables :=
  let exported := s.vars.filterMap fun (name, v) =>
    if v.exported then v.value.map (name, ·) else none
  (exported.mergeSort fun (a, _) (b, _) => bucket a ≤ bucket b).map fun (name, value) =>
    (octets name, value)

/-- Remembers a variable that becomes a function's or a command's own. -/
def keepOuter (s : State) (name : String) : State :=
  match s.outer with
  | [] => s
  | frame :: rest =>
      if (frame.lookup name).isSome then s
      else { s with outer := ((name, s.find? name) :: frame) :: rest }

/-- Begins to remember. -/
def pushOuter (s : State) : State := { s with outer := [] :: s.outer }

/-- Puts back what was remembered last. -/
def popOuter (s : State) : State :=
  match s.outer with
  | [] => s
  | frame :: rest =>
      let s := frame.foldl
        (fun s (name, old) =>
          match old with
          | some v => s.setVariable name v
          | none => s.dropVariable name)
        s
      { s with outer := rest }

/-- The first character of the fields' separators, if there is one. -/
def separator (s : State) : Octets :=
  match s.value? "IFS" with
  | some ifs => ifs.take 1
  | none => [' ']

/-- The letters of the options that are set. -/
def optionLetters (s : State) : Octets :=
  if s.extended then
    ("aefhkmnptuvxBCHP".toList.filter fun c => s.options.has c || c == 'h' || c == 'B')
  else
    (Options.names.map Prod.snd).reverse.filter fun c => s.options.has c && !isAsciiDigit c

/-- The value of a parameter, if it is set. -/
def parameter? (s : State) (name : String) : Option Octets :=
  match name.toList with
  | [] => none
  | c :: rest =>
      if isAsciiDigit c then
        match number? (c :: rest) with
        | some 0 => some s.name
        | some n => s.arguments[n - 1]?
        | none => none
      else if rest.isEmpty && !isNameStart c then
        if c = '?' then some (decimal s.status)
        else if c = '#' then some (decimal s.arguments.length)
        else if c = '$' then some (decimal s.number)
        else if c = '!' then s.background.map decimal
        else if c = '-' then some s.optionLetters
        else none
      else s.value? name

end State

namespace Sh

/-! ### Complaints and output -/

/-- The status of a process that has ended. -/
def statusOf : Fate → Nat
  | .exited status => status
  | .killed s => 128 + s

/-- Sets the status of the last command. -/
def done (status : Nat) : Sh Unit := modify fun s => { s with status }

/-- The beginning of a complaint. -/
def heading (s : State) : Octets :=
  if s.extended then s.name ++ ": line ".toList ++ decimal s.line ++ ": ".toList
  else
    s.name ++ ": ".toList ++ decimal s.line ++ ": ".toList ++
      match s.command with
      | some command => command ++ ": ".toList
      | none => []

/-- The descriptors of the usual outputs. -/
def output : Nat := 1

def diagnostics : Nat := 2

/-- Complains. -/
def warn (text : Octets) : Sh Unit := do
  let s ← get
  let _ ← Program.writeAll diagnostics (heading s ++ text ++ ['\n'])

/-- Complains and breaks off. -/
def fault {α : Type} (text : Octets) : Sh α := do
  warn text
  done 2
  throw .fault

/-- Adds to what the command writes. -/
def print (text : Octets) : Sh Unit :=
  if text.isEmpty then return ()
  else modify fun s => { s with written := text :: s.written }

def printLine (text : Octets) : Sh Unit := print (text ++ ['\n'])

/-- Writes what the command has written; the error when that fails. -/
def flush : Sh (Option Errno) := do
  let s ← get
  if s.written.isEmpty then return none
  set { s with written := [] }
  Program.writeAll output s.written.reverse.flatten

/-! ### Variables -/

/-- Gives a variable a value, unless it must not be changed. -/
def assign (name : String) (value : Octets) : Sh Unit := do
  let s ← get
  match s.find? name with
  | some ⟨_, _, true⟩ => fault (octets name ++ ": is read only".toList)
  | _ => set (s.assign name value)

/-- Exports a variable. -/
def exportName (name : String) : Sh Unit :=
  modify fun s =>
    s.setVariable name { (s.find? name).getD ⟨none, false, false⟩ with exported := true }

/-! ### Time and signals -/

/-- The time that a simple thing takes, in nanoseconds. -/
def stepCost : Nat := 500

/-- Lets the time pass that a simple thing takes, and notes the signals that have come. -/
def step : Sh Unit := do
  let _ ← Program.call (.tick stepCost)
  if !(← get).traps.isEmpty then
    let signals ← Program.call .signals
    if !signals.isEmpty then modify fun s => { s with pending := s.pending ++ signals }

end Sh

end Enquiry.Shell
