import Enquiry.Shell.Builtin.Lookup

/-!
# Running commands

What each kind of command does. `evaluator` ties everything together: the commands in a word, in a
function or in another command are run by the same rules, one level deeper.
-/

namespace Enquiry.Shell

open Host Text

namespace Evaluation

variable (e : Evaluator)

/-- Notes on which line the shell is. -/
def onLine (line : Nat) : Sh Unit := modify fun s => { s with line }

/-- Ends the shell when a command has failed whose failure is not looked at. -/
def checkFailure (c : Context) : Sh Unit := do
  let s ← get
  if s.options.stopsOnFailure && !c.tested && s.status != 0 then throw .exit

/-- Does something, and something else behind it in any case. -/
def andThen (act after : Sh Unit) : Sh Unit := do
  let result ← Program.attempt act
  after
  match result with
  | .ok _ => return ()
  | .error stop => throw stop

/-- The status when a redirection cannot be made. -/
def redirectStatus (s : State) : Nat := if s.extended then 1 else 2

/-- Makes redirections, does something with them if that succeeds, and puts all back. -/
def redirected (redirects : List Redirect) (act : Sh Unit) : Sh Unit := do
  let targets ← redirects.mapM (Redirection.prepare e)
  Redirection.push
  andThen
    (do
      if ← Redirection.tryAll e targets then act
      else Sh.done (redirectStatus (← get)))
    (Redirection.pop false)

/-! ### Simple commands -/

/-- A word is an assignment. -/
def isDeclaration (w : Word) : Bool := Read.isAssignment w

/-- The fields of the words of a command: the first ones say what the others are. -/
def fieldsFrom (assigns : Bool) : List Word → Sh (List Octets)
  | [] => return []
  | w :: rest => do
      let found ←
        if assigns && isDeclaration w then do
          let text ← e.text .assignment w
          pure [text]
        else e.fields w
      return found ++ (← fieldsFrom assigns rest)

/-- The fields of the words of a command. -/
def commandFields : List Word → Sh (List Octets)
  | [] => return []
  | w :: rest => do
      match ← e.fields w with
      | [] => commandFields rest
      | name :: more =>
          let s ← get
          let assigns := (Builtin.find? s.extended name).any Builtin.assigns
          return name :: more ++ (← fieldsFrom e assigns rest)

/-- What is left when `command` is taken away with its options, and whether that was there. The
first argument bounds the number of times. -/
def stripCommand : Nat → Bool → List Octets → Bool × List Octets
  | 0, stripped, args => (stripped, args)
  | n + 1, stripped, args =>
      match args with
      | name :: rest =>
          if textOf name = "command" then
            let rest' := rest.dropWhile (· == ['-', 'p'])
            let rest' := if rest'.head? = some ['-', '-'] then rest'.drop 1 else rest'
            match rest' with
            | [] => (stripped, args)
            | ('-' :: _ :: _) :: _ => (stripped, args)
            | args => stripCommand n true args
          else (stripped, args)
      | [] => (stripped, [])

/-- Gives a variable the value of an assignment. With `own`, the variable is the command's own and
is exported. -/
def assign (own exports : Bool) (w : Word) : Sh Octets := do
  let text ← e.text .assignment w
  let (name, value) := splitAssignment text
  let name := String.ofList name
  if own then modify fun s => s.keepOuter name
  Sh.assign name (value.getD [])
  if own || exports then Sh.exportName name
  return text

/-- Gives variables the values of assignments. -/
def assignAll (own exports : Bool) : List Word → Sh (List Octets)
  | [] => return []
  | w :: rest => do
      let text ← assign e own exports w
      return text :: (← assignAll own exports rest)

/-- Shows a command. -/
def trace (fields : List Octets) : Sh Unit := do
  let s ← get
  if s.options.traces then
    let front := (s.value? "PS4").getD "+ ".toList
    let _ ← Program.writeAll (Redirection.outerDiagnostics s)
      (front ++ List.intercalate [' '] fields ++ ['\n'])

/-- Writes what a command of the shell has written, and gives its status. -/
def flushStatus (status : Nat) : Sh Nat := do
  match ← Sh.flush with
  | none => return status
  | some err =>
      let s ← get
      let name := s.command.getD []
      Sh.warn (if s.extended then "write error: ".toList ++ err.message.toList
        else name ++ ": I/O error".toList)
      return 1

/-- Runs a command of the shell. An error in one that is `fatal` ends the script. -/
def runBuiltin (c : Context) (b : Builtin) (fatal : Bool) (name : Octets) (args : List Octets) :
    Sh Unit := do
  let before := (← get).command
  modify fun s => { s with command := some name }
  let result ← Program.attempt do
    let status ← b.run e c args
    let status ← flushStatus status
    Sh.done status
  let _ ← Sh.flush
  modify fun s => { s with command := before }
  match result with
  | .ok _ => return ()
  | .error .fault => if fatal then throw .fault else return ()
  | .error stop => throw stop

/-- Runs a function. -/
def runFunction (c : Context) (body : Command) (args : List Octets) : Sh Unit := do
  let before ← get
  set { before with
    arguments := args, optionIndex := 1, optionOffset := none, loops := 0
    depth := before.depth + 1 }
  let result ← Program.attempt (e.run c.goesOn body)
  modify fun s =>
    { s with
      arguments := before.arguments
      optionIndex := before.optionIndex, optionOffset := before.optionOffset
      loops := before.loops, depth := before.depth }
  match result with
  | .ok _ => return ()
  | .error .back => return ()
  | .error stop => throw stop

/-- Runs a program, in a child unless the shell ends behind it. -/
def runProgram (c : Context) (args : List Octets) (paths : List Octets) : Sh Unit := do
  if c.ends && (← get).traps.all (·.2.isEmpty) then Builtin.become args paths
  else
    let child ← e.fork (Builtin.become args paths)
    Sh.done (← Sh.await [child])

/-- Runs what a name stands for. -/
def runFound (c : Context) (fatal : Bool) (name : Octets) (args : List Octets) : Found → Sh Unit
  | .builtin b => runBuiltin e c b (fatal && b.special) name args
  | .function body => runFunction e c body args
  | .program _ paths => runProgram e c (name :: args) paths
  | .missing err => do
      if (← get).extended then
        Sh.warn (name ++ ": ".toList ++ Redirection.wording err "command not found")
      else Sh.warn (name ++ ": ".toList ++ Redirection.wording err "not found")
      Sh.done 127

/-- Runs a row of words. -/
def runRow (c : Context) (line : Nat) (assignments words : List Word)
    (redirects : List Redirect) : Sh Unit := do
  onLine line
  modify fun s => { s with innerStatus := 0 }
  let fields ← commandFields e words
  let (stripped, args) := stripCommand (fields.length + 1) false fields
  match args with
  | [] => do
      let targets ← redirects.mapM (Redirection.prepare e)
      Redirection.push
      andThen
        (do
          if ← Redirection.tryAll e targets then
            let shown ← assignAll e false false assignments
            if !shown.isEmpty then trace shown
            Sh.done (← get).innerStatus
          else Sh.done (redirectStatus (← get)))
        (Redirection.pop false)
  | name :: rest => do
      let found ← findCommand (!stripped) name
      let b? := match found with
        | .builtin b => some b
        | _ => none
      let special := !stripped && b?.any Builtin.special
      let isExec := b?.isSome && textOf name == "exec"
      let targets ← redirects.mapM (Redirection.prepare e)
      let own := !special
      if own then modify State.pushOuter
      Redirection.push
      andThen
        (do
          if ← Redirection.tryAll e targets then
            let shown ← assignAll e own (isExec && !rest.isEmpty) assignments
            trace (shown ++ fields)
            let found ← match b? with
              | some _ => pure found
              | none => findCommand (!stripped) name
            runFound e c (!stripped) name rest found
          else
            Sh.done (redirectStatus (← get))
            if special && !(← get).extended then throw .fault)
        (do
          Redirection.pop isExec
          if own then modify State.popOuter)

/-! ### Children -/

/-- Prepares a child that nobody waits for: it does not hear of interrupts, and the first one has
no input. -/
def detach (first : Bool) : Sh Unit := do
  let _ ← Program.call (.arrange Signal.interrupt .ignored)
  let _ ← Program.call (.arrange Signal.quit .ignored)
  if first then
    let _ ← Program.call (.close 0)
    let _ ← Program.call (.opening "/dev/null".toList .reading 0)

/-- Runs a command in a child. -/
def runSubshell (c : Context) (line : Nat) (body : Command) (redirects : List Redirect) :
    Sh Unit := do
  onLine line
  let targets ← redirects.mapM (Redirection.prepare e)
  let inner : Sh Unit := do
    Redirection.makeAll e targets
    e.run c.last body
  if c.ends && (← get).traps.isEmpty then inner
  else
    let child ← e.fork inner
    Sh.done (← Sh.await [child])

/-- Runs a command in a child that nobody waits for. -/
def runBackground (line : Nat) (body : Command) (redirects : List Redirect) : Sh Unit := do
  onLine line
  let targets ← redirects.mapM (Redirection.prepare e)
  let child ← e.fork do
    detach true
    Redirection.makeAll e targets
    e.run (Context.plain.last) body
  Sh.openJob true [child]
  Sh.done 0

/-- What a stage of a pipeline reads and writes, as far as that is not what the shell has. -/
structure Ends where
  input : Option Nat
  /-- The output, and the other end of its pipe. -/
  output : Option (Nat × Nat)

/-- Lets a stage read and write what it should. -/
def Ends.attach (ends : Ends) : Sh Unit := do
  match ends.output with
  | some (_, other) =>
      let _ ← Program.call (.close other)
  | none => pure ()
  match ends.input with
  | some descriptor =>
      if descriptor ≠ 0 then
        let _ ← Program.call (.redirect 0 descriptor)
        let _ ← Program.call (.close descriptor)
  | none => pure ()
  match ends.output with
  | some (descriptor, _) =>
      if descriptor ≠ 1 then
        let _ ← Program.call (.redirect 1 descriptor)
        let _ ← Program.call (.close descriptor)
  | none => pure ()

/-- Starts the stages of a pipeline; the answer is their numbers. -/
def startStages (c : Context) (background first : Bool) (input : Option Nat) :
    List Command → Sh (List Nat)
  | [] => return []
  | stage :: rest => do
      let pipe? ← if rest.isEmpty then pure none else do
        let ends ← Program.call .pipe
        pure (some ends)
      let ends : Ends := ⟨input, pipe?.map fun (output, written) => (written, output)⟩
      let child ← e.fork do
        if background then detach first
        ends.attach
        e.run c.last stage
      match input with
      | some descriptor =>
          let _ ← Program.call (.close descriptor)
      | none => pure ()
      match pipe? with
      | some (_, written) =>
          let _ ← Program.call (.close written)
      | none => pure ()
      return child :: (← startStages c background false (pipe?.map Prod.fst) rest)

/-- Waits for the stages of a pipeline. -/
def awaitStages (children : List Nat) : Sh Unit := do
  Sh.openJob false children
  let key := children.headD 0
  let fate ← Sh.awaitJob false key Sh.maxWaits
  let statuses := ((← Sh.job? key).map Job.fates).getD []
  Sh.closeJob key
  let last := (fate.map Sh.statusOf).getD 0
  let failed := (children.reverse.findSome? fun child =>
    (statuses.lookup child).bind fun f => if Sh.statusOf f = 0 then none else some (Sh.statusOf f))
  Sh.done (if (← get).options.failsWithAny then failed.getD 0 else last)

def runPipeline (c : Context) (background : Bool) (stages : List Command) : Sh Unit := do
  let children ← startStages e c background true none stages
  if background then
    Sh.openJob true children
    Sh.done 0
  else awaitStages children

/-- The output of a command, without the line ends behind it. -/
def capture (body : Option Command) : Sh Octets := do
  match body with
  | none => return []
  | some command =>
      let (output, input) ← Program.call .pipe
      let child ← e.fork do
        let _ ← Program.call (.close output)
        if input ≠ 1 then
          let _ ← Program.call (.redirect 1 input)
          let _ ← Program.call (.close input)
        e.run (Context.plain.last) command
      let _ ← Program.call (.close input)
      let text ← Program.readAll output
      let _ ← Program.call (.close output)
      let status ← Sh.await [child]
      modify fun s => { s with innerStatus := status }
      match text with
      | .ok text =>
          let text := if text.contains '\x00' then text.filter (· != '\x00') else text
          return (text.reverse.dropWhile (· == '\n')).reverse
      | .error _ => return []

/-! ### Compound commands -/

/-- How many turns a loop may take. -/
def maxTurns : Nat := 1000000000

/-- What a turn of a loop leads to. -/
inductive Turn where
  | next | done
  deriving DecidableEq, Repr

/-- Runs a part of a loop. -/
def turn (act : Sh Unit) : Sh Turn := do
  match ← Program.attempt act with
  | .ok _ => return .next
  | .error (.again 0) => return .next
  | .error (.leave 0) => return .done
  | .error (.again (n + 1)) => throw (.again n)
  | .error (.leave (n + 1)) => throw (.leave n)
  | .error stop => throw stop

/-- Runs something as a loop, around which there is one loop less. -/
def inLoop (act : Sh Unit) : Sh Unit := do
  let loops := (← get).loops
  modify fun s => { s with loops := loops + 1 }
  andThen act (modify fun s => { s with loops })

/-- Repeats a command for as long as a condition holds. The first argument bounds the number of
turns, and `status` is that of the last one. -/
def repeatWhile (c : Context) (negated : Bool) (condition body : Command) : Nat → Nat → Sh Unit
  | 0, status => Sh.done status
  | n + 1, status => do
      let tested ← Program.attempt (e.run .test condition)
      match tested with
      | .ok _ =>
          if ((← get).status == 0) == negated then Sh.done status
          else
            match ← turn (e.run c.goesOn body) with
            | .next => repeatWhile c negated condition body n (← get).status
            | .done => return ()
      | .error (.again 0) => repeatWhile c negated condition body n status
      | .error (.leave 0) => Sh.done status
      | .error (.again (n + 1)) => throw (.again n)
      | .error (.leave (n + 1)) => throw (.leave n)
      | .error stop => throw stop

/-- Repeats a command for each value of a variable. -/
def repeatEach (c : Context) (name : String) (body : Command) : List Octets → Sh Unit
  | [] => return ()
  | value :: rest => do
      Sh.assign name value
      match ← turn (e.run c.goesOn body) with
      | .next => repeatEach c name body rest
      | .done => return ()

/-- The word matches one of some patterns. -/
def matchesAny (text : Octets) : List Word → Sh Bool
  | [] => return false
  | w :: rest => do
      if (← e.pattern w).holds text then return true else matchesAny text rest

/-- Runs the command of the first arm that matches. -/
def runArms (c : Context) (text : Octets) : List (List Word × Option Command) → Sh Unit
  | [] => Sh.done 0
  | (patterns, body) :: rest => do
      if ← matchesAny e text patterns then
        match body with
        | some command => e.run c command
        | none => Sh.done 0
      else runArms c text rest

/-- Runs a command of any kind. -/
def runKind (c : Context) : Command → Sh Unit
  | .simple line assignments words redirects => do
      runRow e c line assignments words redirects
      checkFailure c
  | .pipeline background stages => do
      runPipeline e c background stages
      checkFailure c
  | .background line body redirects => do
      runBackground e line body redirects
  | .subshell line body redirects => do
      runSubshell e c line body redirects
      checkFailure c
  | .redirected line body redirects => do
      onLine line
      redirected e redirects (e.run c.goesOn body)
  | .negated body => do
      e.run .test body
      Sh.done (if (← get).status = 0 then 1 else 0)
  | .both first second => do
      e.run .test first
      if (← get).status = 0 then e.run c second
  | .either first second => do
      e.run .test first
      if (← get).status ≠ 0 then e.run c second
  | .sequence first second => do
      e.run c.goesOn first
      e.run c second
  | .branch condition yes no => do
      e.run .test condition
      if (← get).status = 0 then e.run c yes
      else match no with
        | some command => e.run c command
        | none => Sh.done 0
  | .loop negated condition body => inLoop (repeatWhile e c negated condition body maxTurns 0)
  | .each line name words body => do
      onLine line
      let values ← match words with
        | some words => fieldsFrom e false words
        | none => do
            let s ← get
            pure s.arguments
      Sh.done 0
      inLoop (repeatEach e c name body values)
  | .select line word arms => do
      onLine line
      runArms e c (← e.text .single word) arms
  | .define _ name body => do
      modify fun s =>
        { s with functions := (name, body) :: s.functions.filter fun (n, _) => n != name }
      Sh.done 0

/-- Runs a command, with the signals that have come looked after before and behind it. -/
def run (c : Context) (command : Command) : Sh Unit := do
  if (← get).options.skipsCommands then
    if c.ends then throw .exit
    return ()
  Sh.step
  e.lookAfterSignals
  runKind e c command
  e.lookAfterSignals
  if c.ends then throw .exit

/-! ### Scripts -/

/-- Runs the commands of a script that are left. The first argument bounds their number, and `ran`
says that there has been one. -/
def runSource (c : Context) : Nat → Bool → Source → Sh Unit
  | 0, _, _ => return ()
  | n + 1, ran, source => do
      let s ← get
      match Read.complete.run { source with nextDocument := s.nextDocument, documents := [] } with
      | .error fault =>
          modify fun s => { s with line := fault.line }
          Sh.fault ("Syntax error: ".toList ++ octets fault.message)
      | .ok (found, source) =>
          modify fun s =>
            { s with
              nextDocument := source.nextDocument
              documents := source.documents ++ s.documents }
          match found with
          | none => if !ran then Sh.done 0
          | some none => runSource c n ran source
          | some (some command) =>
              let last := match source.pushed with
                | some .finish => true
                | _ => false
              e.run { c with ends := c.ends && last } command
              runSource c n true source

/-- Runs the commands of a text. -/
def script (c : Context) (text : Octets) : Sh Unit := do
  runSource e c (text.length + 2) false (Source.begin text (← get).extended 0)

end Evaluation

open Evaluation

/-- The evaluator to some depth of commands in commands. -/
def evaluator : Nat → Evaluator
  | 0 =>
      { capture := fun _ => Sh.fault "Maximum function recursion depth exceeded".toList
        expand := fun _ _ => Sh.fault "Maximum function recursion depth exceeded".toList
        run := fun _ _ => Sh.fault "Maximum function recursion depth exceeded".toList
        script := fun _ _ => Sh.fault "Maximum function recursion depth exceeded".toList }
  | n + 1 =>
      { capture := fun body => capture (evaluator n) body
        expand := fun m w => (evaluator n).toExpander.parts m true false w
        run := fun c command => run (evaluator n) c command
        script := fun c text => script (evaluator n) c text }

/-- How deep commands may stand in commands. -/
def maxDepth : Nat := 100000

end Enquiry.Shell
