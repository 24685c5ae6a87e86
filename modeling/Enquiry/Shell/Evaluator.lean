import Enquiry.Shell.Expansion

/-!
# Evaluators

What can be done with commands, as far as other parts of the shell need it: an `Evaluator` runs
commands and scripts. With one, the actions for signals are run, and a shell is left.
-/

namespace Enquiry.Shell

open Host Text

/-- Where a command stands. -/
structure Context where
  /-- Its failure is looked at, so that it ends no script. -/
  tested : Bool
  /-- The shell ends behind it. -/
  ends : Bool
  deriving DecidableEq, Repr

namespace Context

def plain : Context := ⟨false, false⟩

/-- A condition. -/
def test : Context := ⟨true, false⟩

/-- The same place, but the shell goes on. -/
def goesOn (c : Context) : Context := { c with ends := false }

/-- The same place, at the end of the shell. -/
def last (c : Context) : Context := { c with ends := true }

end Context

structure Evaluator extends Expander where
  run : Context → Command → Sh Unit
  /-- Runs the commands of a text, one after another. -/
  script : Context → Octets → Sh Unit

namespace Evaluator

variable (e : Evaluator)

/-! ### Signals -/

/-- Runs the action for a signal. The status afterwards is that of before, also when the action
ends the shell without saying with which status. -/
def runAction (action : Octets) : Sh Unit := do
  let before ← get
  set { before with leaving := some (before.leaving.getD before.status) }
  let result ← Program.attempt (e.script .plain action)
  modify fun s => { s with leaving := before.leaving }
  match result with
  | .ok _ => Sh.done before.status
  | .error stop => throw stop

/-- Runs the actions for some signals. -/
def runActions : List Signal → Sh Unit
  | [] => return ()
  | signal :: rest => do
      match (← get).traps.lookup signal with
      | some action => e.runAction action
      | none => pure ()
      runActions rest

/-- Looks after the signals that have come, in the order of their numbers. -/
def lookAfterSignals : Sh Unit := do
  let s ← get
  if s.pending.isEmpty then return ()
  set { s with pending := [] }
  e.runActions (s.pending.mergeSort (· ≤ ·))

/-! ### The end -/

/-- Ends the shell with its status. The action for its end is run before, and decides over the
status only if it leaves the shell itself. -/
def leave {α : Type} : Sh α := do
  let s ← get
  let _ ← Sh.flush
  match s.traps.lookup 0 with
  | some action =>
      set { s with
        traps := s.traps.filter fun (signal, _) => signal != 0
        leaving := some s.status, written := [] }
      match ← Program.attempt (e.script .plain action) with
      | .ok _ => Sh.done s.status
      | .error .exit => pure ()
      | .error .fault => pure ()
      | .error _ => Sh.done s.status
      let _ ← Sh.flush
  | none => pure ()
  Program.exit (← get).status

/-! ### Children -/

/-- A child forgets what its parent does when signals come, unless that is nothing. -/
def forgetTraps : List (Signal × Octets) → Sh Unit
  | [] => return ()
  | (signal, action) :: rest => do
      if signal ≠ 0 ∧ !action.isEmpty then
        let _ ← Program.call (.arrange signal .default)
      forgetTraps rest

/-- The task of a child that does something. -/
def childTask (body : Sh Unit) (s : State) : Task :=
  let whole : Sh Unit := do
    forgetTraps s.traps
    let _ ← Program.attempt body
    e.leave
  let s := { s with
    traps := s.traps.filter fun (_, action) => action.isEmpty
    jobs := [], pending := [], saved := [], loops := 0, leaving := none }
  whole s (fun _ s => .exit s.status) fun _ s => .exit s.status

/-- Splits off a child that does something. -/
def fork (body : Sh Unit) : Sh Nat := Program.fork (e.childTask body)

end Evaluator

end Enquiry.Shell
