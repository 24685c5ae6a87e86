import Enquiry.Shell.Evaluation

/-!
# Shells as programs

A shell is given the text of a script or the path of one, with the script's arguments; without
both it reads the script from its input. `Session.task` is the task of a shell.
-/

namespace Enquiry.Shell.Session

open Host Text

/-- Where the script of a shell comes from. -/
inductive Script where
  | text (commands : Octets)
  | path (name : Octets)
  | input
  deriving DecidableEq, Repr

/-- What the arguments of a shell say. -/
structure Invocation where
  script : Script
  name : Octets
  arguments : List Octets
  options : Options

/-- What the options of a shell say. -/
structure Flags where
  options : Options
  /-- The script is the next argument. -/
  commanded : Bool
  /-- The script is read from the input. -/
  reads : Bool

/-- Reads the letters of an option; the error is a complaint. -/
def readLetters (extended on : Bool) : Octets → List Octets → Flags →
    Except Octets (Flags × List Octets)
  | [], rest, f => .ok (f, rest)
  | 'c' :: letters, rest, f => readLetters extended on letters rest { f with commanded := true }
  | 's' :: letters, rest, f => readLetters extended on letters rest { f with reads := true }
  | 'l' :: letters, rest, f => readLetters extended on letters rest f
  | 'o' :: letters, [], f => readLetters extended on letters [] f
  | 'o' :: letters, name :: rest, f =>
      match (if extended then Options.richNames else Options.names).lookup (textOf name) with
      | some letter =>
          readLetters extended on letters rest { f with options := f.options.put letter on }
      | none => .error ("Illegal option -o ".toList ++ name)
  | c :: letters, rest, f =>
      let known := (if extended then Options.richNames else Options.names).map Prod.snd
      if known.contains c ∧ !isAsciiDigit c then
        readLetters extended on letters rest { f with options := f.options.put c on }
      else .error ("Illegal option -".toList ++ [c])

/-- Reads the options of a shell. The first argument bounds their number. -/
def readOptions (extended : Bool) : Nat → List Octets → Flags →
    Except Octets (Flags × List Octets)
  | 0, args, f => .ok (f, args)
  | _, [], f => .ok (f, [])
  | n + 1, arg :: rest, f =>
      match arg with
      | ['-'] => .ok (f, rest)
      | ['-', '-'] => .ok (f, rest)
      | '-' :: '-' :: name =>
          if extended then readOptions extended n rest f
          else
            match readLetters extended true ('-' :: name) rest f with
            | .ok (f, rest) => readOptions extended n rest f
            | .error e => .error e
      | '-' :: letters =>
          match readLetters extended true letters rest f with
          | .ok (f, rest) => readOptions extended n rest f
          | .error e => .error e
      | '+' :: letters =>
          match readLetters extended false letters rest f with
          | .ok (f, rest) => readOptions extended n rest f
          | .error e => .error e
      | arg => .ok (f, arg :: rest)

/-- Reads the arguments of a shell, the first of which is its own name. -/
def readArguments (extended : Bool) (args : List Octets) : Except Octets Invocation := do
  let name := args.headD []
  let (flags, rest) ← readOptions extended (args.length + 1) (args.drop 1) ⟨.none, false, false⟩
  if flags.commanded then
    match rest with
    | [] => throw "-c requires an argument".toList
    | [text] => return ⟨.text text, name, [], flags.options⟩
    | text :: own :: arguments => return ⟨.text text, own, arguments, flags.options⟩
  else if flags.reads then return ⟨.input, name, rest, flags.options⟩
  else
    match rest with
    | [] => return ⟨.input, name, [], flags.options⟩
    | path :: arguments => return ⟨.path path, path, arguments, flags.options⟩

/-- The variables that a shell sets itself, unless others are handed on to it. -/
def ownVariables : List (String × Octets) :=
  [("IFS", blanks), ("PATH", Builtin.usualPath.toList), ("PS1", "$ ".toList),
    ("PS2", "> ".toList), ("PS4", "+ ".toList), ("OPTIND", ['1'])]

/-- The state of a shell that begins. -/
def begin (extended : Bool) (vars : Variables) : State where
  name := []
  arguments := []
  vars := ownVariables.map fun (name, value) => (name, ⟨some value, false, false⟩)
  functions := []
  outer := []
  depth := 0
  status := 0
  innerStatus := 0
  line := 0
  command := none
  number := 0
  background := none
  jobs := []
  options := .none
  traps := []
  pending := []
  leaving := none
  saved := []
  documents := []
  nextDocument := 0
  loops := 0
  written := []
  optionIndex := 1
  optionOffset := none
  directory := []
  aliases := []
  extended := extended
  seed := vars.length

/-- Takes over the variables that are handed on. -/
def importVariables (vars : Variables) (s : State) : State :=
  vars.foldl
    (fun s (name, value) =>
      if isName name ∧ name ≠ "IFS".toList ∧ name ≠ "OPTIND".toList then
        s.setVariable (String.ofList name) ⟨some value, true, false⟩
      else s)
    s

/-- The path by which the shell was told to be in its directory, if that is right. -/
def knownDirectory : Sh Octets := do
  let actual ← Builtin.physicalDirectory
  match (← get).value? "PWD" with
  | some path =>
      if path.head? ≠ some '/' then return actual
      match ← Program.call (.status path true), ← Program.call (.status ['.'] true) with
      | .ok told, .ok here => return if told.identity = here.identity then path else actual
      | _, _ => return actual
  | none => return actual

/-- Finds out where the shell is. -/
def prepare : Sh Unit := do
  let (number, parent) ← Program.call .identity
  let directory ← knownDirectory
  modify fun s => { s with number, directory }
  modify fun s => s.assign "PPID" (decimal parent)
  modify fun s => s.assign "PWD" directory
  Sh.exportName "PWD"

/-- Complains before anything has been run, and ends. -/
def refuse {α : Type} (text : Octets) : Sh α := do
  Sh.warn text
  Program.exit 2

/-- The text of the script at a path. -/
def readScript (path : Octets) : Sh Octets := do
  match ← Program.readPath path with
  | .ok text => return text
  | .error err =>
      if (← get).extended then
        Sh.warn (path ++ ": ".toList ++ err.message.toList)
        Program.exit (if err = .noEntry then 127 else 126)
      else
        refuse ("cannot open ".toList ++ path ++ ": ".toList ++
          Redirection.wording err "No such file")

/-- Runs a script to its end. -/
def runScript (e : Evaluator) (c : Context) (text : Octets) : Sh Unit := do
  let text := if text.contains '\x00' then text.filter (· != '\x00') else text
  let _ ← Program.attempt (e.script c text)
  e.leave

/-- What a shell does. -/
def run (args : List Octets) : Sh Unit := do
  let e := evaluator maxDepth
  let extended := (← get).extended
  modify fun s => { s with name := args.headD [] }
  prepare
  match readArguments extended args with
  | .error text => refuse text
  | .ok i =>
      let enter : Sh Unit :=
        modify fun s => { s with name := i.name, arguments := i.arguments, options := i.options }
      match i.script with
      | .text commands =>
          enter
          runScript e (Context.plain.last) commands
      | .path path =>
          let text ← readScript path
          enter
          runScript e .plain text
      | .input =>
          enter
          match ← Program.readAll 0 with
          | .ok text => runScript e .plain text
          | .error _ => runScript e .plain []

/-- The task of a shell. -/
def task (extended : Bool) (args : List Octets) (vars : Variables) : Task :=
  run args (importVariables vars (begin extended vars)) (fun _ s => .exit s.status)
    fun _ s => .exit s.status

end Enquiry.Shell.Session
