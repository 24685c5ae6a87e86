import Enquiry.Number.Extended
import Enquiry.Tool.Lines

/-!
# Starting other programs

Tools that turn into another program, with other variables or under other conditions, or that start
programs of their own and wait for them.
-/

namespace Enquiry.Tool

open Host Text Number

/-! ### Turning into a program -/

/-- The directories in which programs are looked for. -/
def searched (vars : Variables) : List Octets :=
  List.splitOn ':' ((vars.lookup (octets "PATH")).getD "/bin:/usr/bin".toList)

/-- The paths at which a program may be. -/
def placesOf (vars : Variables) (name : Octets) : List Octets :=
  if name.contains '/' then [name]
  else (searched vars).map fun d => if d.isEmpty then name else d ++ '/' :: name

/-- Turns into the first program of some paths that is there; a text that is no program is run by
the shell. The answer is why that fails. -/
def becomeAt (args : List Octets) (vars : Variables) : List Octets → Option Errno → Tool Errno
  | [], denied => return denied.getD .noEntry
  | path :: rest, denied => do
      match ← Program.call (.exec path args vars) with
      | .execFormat => Program.call (.exec "/bin/sh".toList ("/bin/sh".toList :: path :: args.drop 1) vars)
      | .accessDenied => becomeAt args vars rest (some .accessDenied)
      | .noEntry => becomeAt args vars rest denied
      | .notDirectory => becomeAt args vars rest denied
      | e => return e

/-- Turns into a program that is named by its first argument. -/
def become (vars : Variables) (args : List Octets) : Tool Errno := do
  let name := args.headD []
  if name.isEmpty then return .noEntry
  becomeAt args vars (placesOf vars name) none

/-- The status when a program cannot be run. -/
def statusOfFailure (e : Errno) : Nat := if e = .noEntry then 127 else 126

/-- Turns into a program, or complains that it cannot be run. -/
def becomeOrFail (args : List Octets) : Tool Unit := do
  let e ← become (← get).vars args
  fail (statusOfFailure e)
    ("failed to run command ".toList ++ shellQuoted (args.headD []) ++ ": ".toList ++ wording e)

/-! ### Variables -/

/-- A variable with its value. -/
def assignment? (arg : Octets) : Option (Octets × Octets) :=
  if arg.contains '=' then some (breakOn '=' arg) else none

def setVariable (vars : Variables) (name value : Octets) : Variables :=
  if vars.any fun (n, _) => n == name then
    vars.map fun (n, v) => if n == name then (n, value) else (n, v)
  else vars ++ [(name, value)]

/-- The words of a text between blanks, where quotes keep blanks. The first two arguments are the
quote that is open and the word that has begun, in reverse. -/
def wordsOf : Option Char → Option Octets → Octets → List Octets
  | _, word, [] => (word.map List.reverse).toList
  | some q, word, c :: rest =>
      if c = q then wordsOf none word rest
      else if c = '\\' ∧ q = '"' then
        wordsOf (some q) (some ((rest.take 1) ++ word.getD [])) (rest.drop 1)
      else wordsOf (some q) (some (c :: word.getD [])) rest
  | none, word, c :: rest =>
      if isGap c then (word.map List.reverse).toList ++ wordsOf none none rest
      else if c = '"' ∨ c = '\'' then wordsOf (some c) (some (word.getD [])) rest
      else if c = '\\' then
        wordsOf none (some (rest.take 1 ++ word.getD [])) (rest.drop 1)
      else wordsOf none (some (c :: word.getD [])) rest
termination_by _ _ text => text.length
decreasing_by all_goals grind

def envWords : List (String × Char) :=
  [("ignore-environment", 'i'), ("null", '0'), ("unset", 'u'), ("chdir", 'C'),
    ("split-string", 'S'), ("debug", 'v')]

/-- Sets variables in front of a program. -/
def takeAssignments : List Octets → Variables → Variables × List Octets
  | arg :: rest, vars =>
      match assignment? arg with
      | some (name, value) => takeAssignments rest (setVariable vars name value)
      | none => (vars, arg :: rest)
  | [], vars => (vars, [])

def env (args : List Octets) : Tool Unit := do
  let args := match args with
    | ('-' :: 'S' :: text) :: rest =>
        if text.isEmpty then wordsOf none none (rest.headD []) ++ rest.drop 1
        else wordsOf none none text ++ rest
    | args => args
  let k := { Known.of "i0u:C:S:v" envWords with strict := true, status := 125 }
  let (flags, args) ← readFlags k args
  let args := match value? flags 'S' with
    | some text => wordsOf none none text ++ args
    | none => args
  let (bare, args) := match args with
    | ['-'] :: rest => (true, rest)
    | args => (false, args)
  let given := (← get).vars
  let vars := if bare || has flags 'i' then [] else given
  let unset := (flags.filter fun (c, _) => c == 'u').map Prod.snd
  let vars := vars.filter fun (name, _) => !unset.contains name
  let (vars, args) := takeAssignments args vars
  match args with
  | [] =>
      for (name, value) in vars do
        print (name ++ '=' :: value ++ if has flags '0' then ['\x00'] else ['\n'])
  | args =>
      match value? flags 'C' with
      | none => pure ()
      | some directory =>
          match ← Program.call (.changeDirectory directory) with
          | .ok _ => pure ()
          | .error e =>
              fail 125 ("cannot change directory to ".toList ++ shellQuoted directory ++ ": ".toList ++
                wording e)
      let e ← become vars args
      let name := args.headD []
      warn (shellQuoted name ++ ": ".toList ++ wording e)
      if e = .noEntry ∧ name.contains ' ' then
        warn "use -[v]S to pass options in shebang lines".toList
      throw (statusOfFailure e)

def printenv (args : List Octets) : Tool Unit := do
  let k := { Known.of "0" [("null", '0')] with strict := true, status := 2 }
  let (flags, names) ← readFlags k args
  let ending := if has flags '0' then ['\x00'] else ['\n']
  let vars := (← get).vars
  if names.isEmpty then
    for (name, value) in vars do print (name ++ '=' :: value ++ ending)
  for name in names do
    match vars.lookup name with
    | some value => print (value ++ ending)
    | none => note 1

/-! ### Times -/

/-- The nanoseconds of a number with a letter for its unit. -/
def duration? (text : Octets) : Option Nat :=
  match Extended.read? text with
  | none => none
  | some (x, rest) =>
      let factor : Option Nat := match rest with
        | [] => some 1
        | ['s'] => some 1
        | ['m'] => some 60
        | ['h'] => some 3600
        | ['d'] => some 86400
        | _ => none
      match x, factor with
      | .finite b, some f =>
          if b.negative && b.significand != 0 then none
          else
            let (num, den) := b.ratio
            some ((num * f * 1000000000 + den - 1) / den)
      | .infinite false, some _ => some (Nat.pow 10 18)
      | _, _ => none

/-- Sleeps on until the time is over. The first argument bounds the number of interruptions. -/
def sleepFor : Nat → Nat → Tool Unit
  | 0, _ => return ()
  | n + 1, time => do
      match ← Program.call (.sleep time) with
      | 0 => return ()
      | left => sleepFor n left

def sleep (args : List Octets) : Tool Unit := do
  let (_, args) ← readFlags (.of "" []) args
  if args.isEmpty then missingOperand 1
  let times := args.map fun arg => (arg, duration? arg)
  for (arg, time) in times do
    if time.isNone then warn ("invalid time interval ".toList ++ quoted arg)
  if times.any fun (_, time) => time.isNone then
    helpless 1
  sleepFor 1000 ((times.filterMap Prod.snd).foldl (· + ·) 0)

/-! ### Children -/

/-- Starts a child that runs a program of this tool. -/
def start (child : Tool Unit) : Tool Nat := do
  flush
  Program.fork fun m => child m (fun _ m => .exit m.status) fun status _ => .exit status

/-- Waits for a child, or for some time. The first argument bounds the number of interruptions. -/
def awaitChild (child : Nat) (limit : Option Nat) : Nat → Tool (Option Fate)
  | 0 => return some (.exited 255)
  | n + 1 => do
      match ← Program.call (.wait (.child child) limit) with
      | .ended _ fate => return some fate
      | .none => return some (.exited 255)
      | .nothing => return none
      | .interrupted => awaitChild child limit n

/-- How often a wait may be interrupted. -/
def maxInterruptions : Nat := 100000

/-! ### Commands -/

/-- Turns into the shell, under some name, that runs a command. -/
def runShell (name command : Octets) : Tool Unit := do
  let _ ← Program.call (.exec "/bin/sh".toList [name, "-c".toList, command] (← get).vars)
  throw 127

/-- Starts a command whose output can be read: the descriptor and the child. -/
def openSource (name command : Octets) : Tool (Nat × Nat) := do
  let (output, input) ← Program.call .pipe
  let child ← start do
    let _ ← Program.call (.redirect 1 input)
    let _ ← Program.call (.close input)
    let _ ← Program.call (.close output)
    runShell name command
  let _ ← Program.call (.close input)
  return (output, child)

/-- Starts a command whose input can be written: the descriptor and the child. -/
def openSink (name command : Octets) : Tool (Nat × Nat) := do
  let (output, input) ← Program.call .pipe
  let child ← start do
    let _ ← Program.call (.redirect 0 output)
    let _ ← Program.call (.close input)
    let _ ← Program.call (.close output)
    runShell name command
  let _ ← Program.call (.close output)
  return (input, child)

/-- What a command writes. -/
def commandOutput (command : Octets) : Tool Octets := do
  let (output, child) ← openSource "sh".toList command
  let data ← Program.readAll output
  let _ ← Program.call (.close output)
  let _ ← awaitChild child none maxInterruptions
  match data with
  | .ok data => return data
  | .error _ => return []

/-- The signal of a name or a number. -/
def signalOf? (text : Octets) : Option Signal :=
  match number? text with
  | some n => if n ≤ Signal.last then some n else none
  | none =>
      let name := (textOf (text.map Char.toUpper))
      let short := (afterStart? "SIG".toList name.toList).getD name.toList
      if short = "EXIT".toList then some 0 else Signal.ofName? (String.ofList short)

/-- Ends by a signal, as a child has. -/
def endBy (signal : Signal) : Tool Unit := do
  flush
  let _ ← Program.call (.arrange signal .default)
  let (number, _) ← Program.call .identity
  let _ ← Program.call (.kill number signal)
  throw (128 + signal)

def timeoutWords : List (String × Char) :=
  [("signal", 's'), ("kill-after", 'k'), ("preserve-status", 'p'), ("foreground", 'f'),
    ("verbose", 'v')]

/-- Waits for a child until its time is over, and then makes it end. -/
def limitChild (flags : List Flag) (signal : Signal) (limit : Nat) (later : Option Nat)
    (child : Nat) (name : Octets) : Tool Unit := do
  let limit := if limit = 0 then none else some limit
  let send (signal : Signal) : Tool Unit := do
    if has flags 'v' then
      let word := ((Signal.name? signal).getD "EXIT").toList
      warn ("sending signal ".toList ++ word ++ " to command ".toList ++ shellQuoted name)
    let _ ← Program.call (.kill child signal)
    if !has flags 'f' then Program.call (.killGroup signal)
    let _ ← Program.call (.kill child Signal.resume)
    if !has flags 'f' then Program.call (.killGroup Signal.resume)
  match ← awaitChild child limit maxInterruptions with
  | some (.exited status) => throw status
  | some (.killed s) => endBy s
  | none =>
      send signal
      if signal = Signal.kill && !has flags 'f' then endBy Signal.kill
      let fate ← awaitChild child (if signal = Signal.kill then none else later) maxInterruptions
      let fate ← match fate with
        | some fate => pure fate
        | none => do
            send Signal.kill
            let fate ← awaitChild child none maxInterruptions
            pure (fate.getD (.exited 255))
      match fate with
      | .killed s =>
          if s = Signal.kill ∧ signal ≠ Signal.kill then endBy Signal.kill
          throw (if has flags 'p' ∨ s = Signal.kill then 128 + s else 124)
      | .exited status => throw (if has flags 'p' then status else 124)

def timeout (args : List Octets) : Tool Unit := do
  let k := { Known.of "s:k:v" timeoutWords with strict := true, status := 125 }
  let (flags, args) ← readFlags k args
  let time (text : Octets) : Tool Nat := do
    match duration? text with
    | some n => return n
    | none => misused 125 ("invalid time interval ".toList ++ quoted text)
  let signal ← match value? flags 's' with
    | none => pure Signal.terminate
    | some text =>
        match signalOf? text with
        | some s => pure s
        | none => misused 125 (quoted text ++ ": invalid signal".toList)
  let later ← match value? flags 'k' with
    | none => pure none
    | some text => some <$> time text
  match args with
  | [] => helpless 125
  | [_] => helpless 125
  | limit :: command =>
      let limit ← time limit
      if !has flags 'f' then Program.call .lead
      let child ← start (becomeOrFail command)
      limitChild flags signal limit later child (command.headD [])

/-- Turns into a program that does not hear that its terminal is gone. -/
def nohup (args : List Octets) : Tool Unit := do
  let (_, args) ← readFlags { Known.of "" [] with strict := true, status := 125 } args
  if args.isEmpty then missingOperand 125
  let _ ← Program.call (.arrange Signal.hangup .ignored)
  becomeOrFail args

/-- Turns into a program that is less urgent. -/
def nice (args : List Octets) : Tool Unit := do
  let k := { Known.of "n:" [("adjustment", 'n')] with strict := true, status := 125 }
  let (_, args) ← readFlags k args
  if args.isEmpty then printLine ['0'] else becomeOrFail args

/-- Turns into a program with a group of its own. -/
def setsid (args : List Octets) : Tool Unit := do
  let (_, args) ← readFlags { Known.of "cfw" [("wait", 'w')] with strict := true } args
  if args.isEmpty then fail 1 "no command specified".toList
  Program.call .lead
  let e ← become (← get).vars args
  fail (statusOfFailure e)
    ("failed to execute ".toList ++ args.headD [] ++ ": ".toList ++ wording e)

/-- Turns into a program, whatever is said of its buffers. -/
def stdbuf (args : List Octets) : Tool Unit := do
  let words := [("input", 'i'), ("output", 'o'), ("error", 'e')]
  let k := { Known.of "i:o:e:" words with strict := true, status := 125 }
  let (_, args) ← readFlags k args
  if args.isEmpty then missingOperand 125
  becomeOrFail args

/-! ### xargs -/

/-- The words of an input, where quotes and backslashes keep blanks, with a mark behind the last
one of each line. The first two arguments are the quote that is open and the word that has begun,
in reverse. The answer is nothing when a quote stays open. -/
def inputWords : Option Char → Option Octets → Octets → Option (List (Octets × Bool))
  | some _, _, [] => none
  | none, word, [] => some ((word.map fun w => (w.reverse, true)).toList)
  | some q, word, c :: rest =>
      if c = '\n' then none
      else if c = q then inputWords none (some (word.getD [])) rest
      else inputWords (some q) (some (c :: word.getD [])) rest
  | none, word, c :: rest =>
      let done (last : Bool) : List (Octets × Bool) := (word.map fun w => (w.reverse, last)).toList
      if c = '\n' then (inputWords none none rest).map (done true ++ ·)
      else if isGap c then (inputWords none none rest).map (done false ++ ·)
      else if c = '"' ∨ c = '\'' then inputWords (some c) (some (word.getD [])) rest
      else if c = '\\' then
        inputWords none (some (rest.take 1 ++ word.getD [])) (rest.drop 1)
      else inputWords none (some (c :: word.getD [])) rest
termination_by _ _ text => text.length
decreasing_by all_goals grind

/-- Items in groups of some size. -/
def groupsOf {α : Type} (size : Nat) : Nat → List α → List (List α)
  | 0, _ => []
  | _, [] => []
  | n + 1, xs => xs.take size :: groupsOf size n (xs.drop size)

/-- A text with another one in the place of a mark. -/
def substituted (mark value : Octets) : Nat → Octets → Octets
  | 0, text => text
  | _, [] => []
  | n + 1, c :: rest =>
      match (if mark.isEmpty then none else afterStart? mark (c :: rest)) with
      | some rest => value ++ substituted mark value n rest
      | none => c :: substituted mark value n rest

/-- Runs a program and takes note of how it ends. -/
def runCommand (args : List Octets) : Tool Unit := do
  let name := args.headD []
  let child ← start do
    match ← Program.call (.opening "/dev/null".toList .reading 0) with
    | .ok descriptor =>
        let _ ← Program.call (.redirect 0 descriptor)
    | .error _ => pure ()
    let e ← become (← get).vars args
    warn (shown name ++ ": ".toList ++ wording e)
    throw (statusOfFailure e)
  match ← awaitChild child none maxInterruptions with
  | some (.exited 0) => return ()
  | some (.exited 255) =>
      fail 124 (shown name ++ ": exited with status 255; aborting".toList)
  | some (.exited 126) => throw 126
  | some (.exited 127) => throw 127
  | some (.exited _) => note 123
  | some (.killed s) =>
      fail 125 (shown name ++ ": terminated by signal ".toList ++ decimal s)
  | none => return ()

def xargsWords : List (String × Char) :=
  [("null", '0'), ("delimiter", 'd'), ("max-args", 'n'), ("replace", 'I'), ("max-lines", 'L'),
    ("no-run-if-empty", 'r'), ("verbose", 't'), ("max-procs", 'P'), ("arg-file", 'a'),
    ("max-chars", 's'), ("exit", 'x')]

/-- Shows a command before it is run. -/
def announce (args : List Octets) : Tool Unit :=
  tell (List.intercalate [' '] args ++ ['\n'])

def xargs (args : List Octets) : Tool Unit := do
  let k := { Known.of "0d:n:I:i::L:rtP:a:s:xE:e::pl::" xargsWords with strict := true }
  let (flags, command) ← readFlags k args
  let command := if command.isEmpty then ["echo".toList] else command
  let text := (← readInput plainRefusal 1 ((value? flags 'a').getD ['-'])).getD []
  let mark? := (value? flags 'd').map fun text =>
    match text with
    | ['\\', 'n'] => '\n'
    | ['\\', 't'] => '\t'
    | ['\\', '0'] => '\x00'
    | text => text.headD '\n'
  let mark? := if has flags '0' then some '\x00' else mark?
  let replaced := (value? flags 'I').or ((value? flags 'i').map fun t =>
    if t.isEmpty then "\x7b\x7d".toList else t)
  let parts (mark : Char) : List (Octets × Bool) :=
    let all := List.splitOn mark text
    (if all.getLast? = some [] then all.dropLast else all).map (·, true)
  let items? : Option (List (Octets × Bool)) := match mark?, replaced with
    | some mark, _ => some (parts mark)
    | none, some _ =>
        some (((parts '\n').map fun (l, b) => (l.dropWhile isGap, b)).filter fun (l, _) => !l.isEmpty)
    | none, none => inputWords none none text
  let items ← match items? with
    | some items => pure items
    | none => fail 1 (("unmatched single quote; by default quotes are special to xargs " ++
        "unless you use the -0 option").toList)
  let words := items.map Prod.fst
  let run (args : List Octets) : Tool Unit := do
    if has flags 't' then announce args
    runCommand args
  match replaced with
  | some mark =>
      for word in words do
        run (command.map fun arg => substituted mark word (arg.length + 1) arg)
  | none =>
      let groups := match (value? flags 'n').bind number?, (value? flags 'L').bind number? with
        | some (n + 1), _ => groupsOf (n + 1) words.length words
        | _, some (n + 1) =>
            let lines := (items.splitBy fun (item : Octets × Bool) _ => !item.2).map (List.map Prod.fst)
            (groupsOf (n + 1) lines.length lines).map List.flatten
        | _, _ => if words.isEmpty then [] else groupsOf 5000 words.length words
      if groups.isEmpty && !has flags 'r' then run command
      for group in groups do run (command ++ group)

/-! ### kill -/

/-- Sends signals to processes. -/
def kill (args : List Octets) : Tool Unit := do
  let (signal, targets) ← match args with
    | ['-', 's'] :: name :: rest =>
        match signalOf? name with
        | some s => pure (s, rest)
        | none => fail 1 ("unknown signal name ".toList ++ name)
    | ('-' :: name) :: rest =>
        match signalOf? name with
        | some s => pure (s, rest)
        | none => fail 1 ("unknown signal name ".toList ++ name)
    | args => pure (Signal.terminate, args)
  for target in targets do
    match number? target with
    | none => warnAnd 1 ("failed to parse argument: ".toList ++ quoted target)
    | some n =>
        match ← Program.call (.kill n signal) with
        | .ok _ => pure ()
        | .error e => warnAnd 1 ("(".toList ++ target ++ "): ".toList ++ wording e)

end Enquiry.Tool
