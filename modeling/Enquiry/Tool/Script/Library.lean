import Enquiry.Tool.Script.Making

/-!
# The library of scripts

The functions of modules: those that ask something of the machine, those that work on paths and on
numbers, and those that exchange values as texts.
-/

namespace Enquiry.Tool.Script

open Host Text Number

/-! ### Paths -/

/-- A path in front of its last part, and that part. -/
def splitPath (path : List Char) : List Char × List Char :=
  let last := (path.reverse.takeWhile (· != '/')).reverse
  let front := path.take (path.length - last.length)
  let bare := (front.reverse.dropWhile (· == '/')).reverse
  (if bare.isEmpty then front else bare, last)

/-- Paths one behind another: an absolute one begins anew. -/
def joinPaths (paths : List (List Char)) : List Char :=
  paths.foldl (fun done path =>
    if path.head? = some '/' then path
    else if done.isEmpty ∨ done.getLast? = some '/' then done ++ path
    else done ++ '/' :: path) []

/-- A path without `.`, `..` and doubled separators. -/
def normalPath (path : List Char) : List Char :=
  let parts := (List.splitOn '/' path).foldl (fun done part =>
    if part.isEmpty ∨ part = ['.'] then done
    else if part = ['.', '.'] then done.drop 1
    else part :: done) []
  '/' :: List.intercalate ['/'] parts.reverse

/-- A path in front of its ending, and the ending. -/
def splitEnding (path : List Char) : List Char × List Char :=
  let last := (splitPath path).2
  let bare := last.dropWhile (· == '.')
  if bare.contains '.' then
    let ending := '.' :: (bare.reverse.takeWhile (· != '.')).reverse
    (path.take (path.length - ending.length), ending)
  else (path, [])

namespace Running

/-- The answer of a call, or a fault that names a path. -/
def orRaise {α : Type} (path : Option (List Char)) : Except Errno α → Running α
  | .ok a => return a
  | .error e => raiseErrno e path

/-- The number of nanoseconds of a number of seconds. -/
def nanosecondsOf (v : Value) : Running Nat := do
  match v with
  | .whole n =>
      if n < 0 then raiseText "ValueError" "sleep length must be non-negative"
      return n.toNat * 1000000000
  | v =>
      match quantity? v with
      | some q =>
          if q.toReal < 0 then raiseText "ValueError" "sleep length must be non-negative"
          return ((truncated? (q.toReal * 1000000000)).getD 0).toNat
      | none =>
          raise "TypeError" ('\'' :: (← kindNameOf v) ++
            "' object cannot be interpreted as an integer".toList)

/-- A number of seconds. -/
def secondsOf (nanoseconds : Nat) : Value :=
  .real (Float.ofNat nanoseconds / Float.ofNat 1000000000)

section

variable (apply : Apply)

/-- Does what a script has arranged for the signals that have come. -/
def attend : Running Unit := do
  if (← get).watched.isEmpty then return ()
  for s in ← Program.call .signals do
    match (← get).watched.lookup s with
    | some f =>
        let _ ← apply f [.whole s, .none] []
    | none => pure ()

/-- Sleeps, also when signals come. The first argument bounds how often that may be. -/
def sleepFor : Nat → Nat → Running Unit
  | 0, _ => return ()
  | n + 1, nanoseconds => do
      let left ← Program.call (.sleep nanoseconds)
      attend apply
      if left ≠ 0 then sleepFor n left

/-- Waits for a child: its number and the word that tells its end. The first argument bounds the
number of signals. -/
def awaitEnd (whom : Awaited) (patient : Bool) : Nat → Running (Option (Nat × Nat))
  | 0 => return none
  | n + 1 => do
      match ← Program.call (.wait whom (if patient then none else some 0)) with
      | .ended child (.exited status) => return some (child, status * 256)
      | .ended child (.killed s) => return some (child, s)
      | .none => raiseErrno .noChild none
      | .nothing => return some (0, 0)
      | .interrupted =>
          attend apply
          awaitEnd whom patient n

/-- What a process has arranged for a signal. -/
def arrangeSignal (g : Given) : Running Value := do
  let s := (← wantedWhole g.first).toNat
  let old := ((← get).watched.lookup s).getD (.whole 0)
  let handler := g.second?.getD .none
  let disposition := match handler with
    | .whole 0 => Disposition.default
    | .whole _ => .ignored
    | _ => .caught
  if Signal.isUncatchable s then raiseErrno .invalid none
  let _ ← Program.call (.arrange s disposition)
  modify fun m =>
    { m with watched :=
        let others := m.watched.filter fun (t, _) => t != s
        if disposition = .caught then (s, handler) :: others else others }
  return old

/-- The variables of the process as they are now. -/
def currentVariables : Running Variables := do
  match (← get).shelf.lookup ("os", "environ") with
  | some v =>
      (← pairsOf apply v).mapM fun (k, w) => do
        return (encoded (← wanted k), encoded (← wanted w))
  | none => return (← get).memory.vars

/-- Functions that ask something of the system. -/
def systemFunction? (name : String) (g : Given) : Running (Option Value) := do
  let path (i : Nat) : Running (List Char) := wanted ((g.args[i]?).getD .none)
  let number (i : Nat) : Running Nat := do return (← wantedWhole ((g.args[i]?).getD .none)).toNat
  let nothing : Running (Option Value) := return some .none
  match name with
  | "getpid" => return some (.whole (← Program.call .identity).1)
  | "getppid" => return some (.whole (← Program.call .identity).2)
  | "kill" =>
      orRaise none (← Program.call (.kill (← number 0) (← number 1)))
      attend apply
      nothing
  | "getcwd" => return some (.text (decoded (← orRaise none (← Program.call .currentDirectory))))
  | "chdir" =>
      let p ← path 0
      orRaise (some p) (← Program.call (.changeDirectory (encoded p)))
      nothing
  | "listdir" =>
      let p ← match g.args.head? with
        | some v => wanted v
        | none => pure ['.']
      let names ← orRaise (some p) (← Program.call (.list (encoded p)))
      return some (← makeList (names.map fun n => .text (decoded n)))
  | "mkdir" =>
      let p ← path 0
      orRaise (some p) (← Program.call (.makeDirectory (encoded p) 0o777))
      nothing
  | "makedirs" =>
      let p ← path 0
      let parts := (List.splitOn '/' p)
      for i in List.range parts.length do
        let front := List.intercalate ['/'] (parts.take (i + 1))
        if !front.isEmpty then
          match ← Program.call (.makeDirectory (encoded front) 0o777) with
          | .ok _ => pure ()
          | .error .alreadyThere =>
              if i + 1 = parts.length && !(← holds ((g.named.lookup "exist_ok").getD .none)) then
                raiseErrno .alreadyThere (some p)
          | .error e => raiseErrno e (some p)
      nothing
  | "remove" | "unlink" =>
      let p ← path 0
      orRaise (some p) (← Program.call (.unlink (encoded p)))
      nothing
  | "rmdir" =>
      let p ← path 0
      orRaise (some p) (← Program.call (.removeDirectory (encoded p)))
      nothing
  | "rename" | "replace" =>
      let p ← path 0
      orRaise (some p) (← Program.call (.rename (encoded p) (encoded (← path 1))))
      nothing
  | "symlink" =>
      let p ← path 0
      orRaise (some p) (← Program.call (.symlink (encoded p) (encoded (← path 1))))
      nothing
  | "chmod" =>
      let p ← path 0
      orRaise (some p) (← Program.call (.changeMode (encoded p) (← number 1)))
      nothing
  | "umask" => return some (.whole (← Program.call (.mask (← number 0))))
  | "access" =>
      match ← Program.call (.access (encoded (← path 0)) (← number 1)) with
      | .ok _ => return some (.bool true)
      | .error _ => return some (.bool false)
  | "getenv" =>
      let vars ← currentVariables apply
      match vars.lookup (encoded (← path 0)) with
      | some v => return some (.text (decoded v))
      | none => return some (g.second?.getD .none)
  | "putenv" => nothing
  | "fspath" => return some g.first
  | "cpu_count" => return some (.whole 4)
  | "_exit" => Program.exit ((← wantedWhole g.first) % 256).toNat
  | "abort" =>
      let (own, _) ← Program.call .identity
      let _ ← Program.call (.kill own 6)
      nothing
  | "write" =>
      match ← Program.writeAll (← number 0) (← wanted (g.second?.getD .none)) with
      | none => return some (.whole (← wanted (g.second?.getD .none)).length)
      | some e => raiseErrno e none
  | "read" =>
      return some (.bytes (← orRaise none (← Program.call (.read (← number 0) (← number 1) false))))
  | "close" =>
      orRaise none (← Program.call (.close (← number 0)))
      nothing
  | "setsid" | "setpgrp" =>
      Program.call .lead
      nothing
  | "fork" =>
      let child ← (fun m next _ => .fork (next 0 m) fun number => next number m : Running Nat)
      return some (.whole child)
  | "wait" =>
      match ← awaitEnd apply .any true maxInterruptions with
      | some (child, word) => return some (.tuple [.whole child, .whole word])
      | none => nothing
  | "waitpid" =>
      let k ← wantedWhole g.first
      let patient := (← number 1) = 0
      match ← awaitEnd apply (if k < 0 then .any else .child k.toNat) patient maxInterruptions with
      | some (child, word) => return some (.tuple [.whole child, .whole word])
      | none => nothing
  | "system" =>
      let command := encoded (← path 0)
      let vars ← currentVariables apply
      let child ← tool (start do
        let _ ← Program.call (.exec "/bin/sh".toList ["sh".toList, "-c".toList, command] vars)
        throw 127)
      match ← awaitEnd apply (.child child) true maxInterruptions with
      | some (_, word) => return some (.whole word)
      | none => nothing
  | "execv" | "execvp" =>
      let p ← path 0
      let args ← (← itemsOf apply (g.second?.getD .none)).mapM wanted
      let vars ← currentVariables apply
      let places := if name = "execv" then [encoded p] else placesOf vars (encoded p)
      let mut failure := Errno.noEntry
      for place in places do
        failure := ← Program.call (.exec place (args.map encoded) vars)
      raiseErrno failure none
  | _ => return none

/-- Functions on paths. -/
def pathFunction? (name : String) (g : Given) : Running (Option Value) := do
  let paths ← g.args.mapM wanted
  let p := paths.headD []
  let kindIs (test : FileKind → Bool) : Running (Option Value) := do
    match ← Program.call (.status (encoded p) true) with
    | .ok s => return some (.bool (test s.kind))
    | .error _ => return some (.bool false)
  match name with
  | "exists" => kindIs fun _ => true
  | "isfile" => kindIs (· == .regular)
  | "isdir" => kindIs (· == .directory)
  | "getsize" =>
      return some (.whole (← orRaise (some p) (← Program.call (.status (encoded p) true))).size)
  | "join" => return some (.text (joinPaths paths))
  | "basename" => return some (.text (splitPath p).2)
  | "dirname" => return some (.text (splitPath p).1)
  | "split" =>
      let (front, last) := splitPath p
      return some (.tuple [.text front, .text last])
  | "splitext" =>
      let (front, ending) := splitEnding p
      return some (.tuple [.text front, .text ending])
  | "isabs" => return some (.bool (p.head? == some '/'))
  | "abspath" | "realpath" =>
      let here := decoded (← orRaise none (← Program.call .currentDirectory))
      return some (.text (normalPath (joinPaths [here, p])))
  | "expanduser" => return some (.text p)
  | _ => return none

/-- Functions on numbers. -/
def numberFunction? (name : String) (g : Given) : Running (Option Value) := do
  let real (v : Value) : Running Float := do
    match quantity? v with
    | some q => return q.toReal
    | none => raise "TypeError" ("must be real number, not ".toList ++ (← kindNameOf v))
  let wholeBy (f : Float → Float) : Running (Option Value) := do
    match g.first with
    | .whole n => return some (.whole n)
    | v =>
        match truncated? (f (← real v)) with
        | some n => return some (.whole n)
        | none => raiseText "ValueError" "cannot convert float NaN to integer"
  let by_ (f : Float → Float) : Running (Option Value) := do return some (.real (f (← real g.first)))
  let domain (fits : Bool) : Running Unit := do
    if !fits then raiseText "ValueError" "math domain error"
  match name with
  | "floor" => wholeBy Float.floor
  | "ceil" => wholeBy Float.ceil
  | "trunc" => wholeBy id
  | "sqrt" =>
      domain (0 ≤ (← real g.first))
      by_ Float.sqrt
  | "log" =>
      let x ← real g.first
      domain (0 < x)
      match g.second? with
      | some b => return some (.real (x.log / (← real b).log))
      | none => return some (.real x.log)
  | "log2" =>
      domain (0 < (← real g.first))
      by_ Float.log2
  | "log10" =>
      domain (0 < (← real g.first))
      by_ Float.log10
  | "exp" => by_ Float.exp
  | "sin" => by_ Float.sin
  | "cos" => by_ Float.cos
  | "tan" => by_ Float.tan
  | "fabs" => by_ Float.abs
  | "isnan" => return some (.bool (← real g.first).isNaN)
  | "isinf" => return some (.bool (← real g.first).isInf)
  | "isfinite" => return some (.bool (← real g.first).isFinite)
  | "pow" => return some (.real (Float.pow (← real g.first) (← real (g.second?.getD .none))))
  | "gcd" =>
      let ns ← g.args.mapM wantedWhole
      let found := ns.foldl (fun (a : Nat) b => Nat.gcd a b.natAbs) 0
      return some (.whole found)
  | "factorial" =>
      let n ← wantedWhole g.first
      if n < 0 then raiseText "ValueError" "factorial() not defined for negative values"
      let found := (List.range n.toNat).foldl (fun (a i : Nat) => a * (i + 1)) 1
      return some (.whole found)
  | _ => return none

/-- Functions on time. -/
def timeFunction? (name : String) (g : Given) : Running (Option Value) := do
  match name with
  | "sleep" =>
      sleepFor apply maxInterruptions (← nanosecondsOf g.first)
      return some .none
  | "time" | "monotonic" | "perf_counter" => return some (secondsOf (← Program.call .now))
  | "time_ns" | "monotonic_ns" => return some (.whole (← Program.call .now))
  | _ => return none

/-- Functions on signals. -/
def signalFunction? (name : String) (g : Given) : Running (Option Value) := do
  match name with
  | "signal" => return some (← arrangeSignal g)
  | "getsignal" =>
      let s := (← wantedWhole g.first).toNat
      return some (((← get).watched.lookup s).getD (.whole 0))
  | "pause" =>
      let _ ← Program.call (.sleep 1000000000000000000)
      attend apply
      return some .none
  | "raise_signal" =>
      let (own, _) ← Program.call .identity
      orRaise none (← Program.call (.kill own (← wantedWhole g.first).toNat))
      attend apply
      return some .none
  | _ => return none

/-- Functions on the running script itself. -/
def scriptFunction? (name : String) (g : Given) : Running (Option Value) := do
  match name with
  | "exit" => raiseWith "SystemExit" (g.args.take 1)
  | "exc_info" =>
      match (← get).handling with
      | some n =>
          return some (.tuple [← kindOf (.object n), .object n, .none])
      | none => return some (.tuple [.none, .none, .none])
  | "getdefaultencoding" => return some (.text "utf-8".toList)
  | "getrecursionlimit" => return some (.whole 1000)
  | "setrecursionlimit" => return some .none
  | "intern" => return some g.first
  | "getsizeof" => return some (.whole 56)
  | _ => return none

/-- Functions that exchange values. -/
def exchangeFunction? (name : String) (g : Given) : Running (Option Value) := do
  match name with
  | "dumps" => return some (.text (← exchanged apply g g.first))
  | "loads" =>
      match g.first with
      | .text t => return some (← exchangedValue t)
      | .bytes t => return some (← exchangedValue (decoded t))
      | v =>
          raise "TypeError" ("the JSON object must be str, bytes or bytearray, not ".toList ++
            (← kindNameOf v))
  | "dump" =>
      let t ← exchanged apply g g.first
      let write ← feature (g.second?.getD .none) "write"
      let _ ← apply write [.text t] []
      return some .none
  | "load" =>
      let read ← feature g.first "read"
      match ← apply read [] [] with
      | .bytes t => return some (← exchangedValue (decoded t))
      | v => return some (← exchangedValue (← wanted v))
  | _ => return none

/-- A function of a module. -/
def moduleFunction? (module name : String) (g : Given) : Running (Option Value) := do
  match module with
  | "os" => systemFunction? apply name g
  | "os.path" => pathFunction? name g
  | "math" => numberFunction? name g
  | "time" => timeFunction? apply name g
  | "signal" => signalFunction? apply name g
  | "sys" => scriptFunction? name g
  | "json" => exchangeFunction? apply name g
  | _ => return none

/-- A function by its full name: one that is always there, one of a module, or what values of a
kind can do. -/
def callBuiltin (name : String) (g : Given) : Running Value := do
  match ← makeOf? apply name g with
  | some v => return v
  | none => pure ()
  match ← function? apply name g with
  | some v => return v
  | none => pure ()
  let parts := List.splitOn '.' name.toList
  let last := String.ofList (parts.getLast?.getD [])
  let front := String.ofList (List.intercalate ['.'] parts.dropLast)
  match ← moduleFunction? apply front last g with
  | some v => return v
  | none => pure ()
  match ← method? apply feature g.first last ⟨g.args.drop 1, g.named⟩ with
  | some v => return v
  | none => raise "TypeError" ('\'' :: name.toList ++ "' object is not callable".toList)

end

end Running

end Enquiry.Tool.Script
