import Enquiry.Shell.State

/-!
# Jobs

The processes that a shell has started, and waiting for them. Whoever is waited for, all ends of
children are noted, so that nobody has to hear of one twice.
-/

namespace Enquiry.Shell

open Host Text

namespace Job

/-- Notes that a process has ended. -/
def note (child : Nat) (fate : Fate) (j : Job) : Job :=
  if j.processes.contains child then { j with fates := (child, fate) :: j.fates } else j

/-- The number that the job is known by. -/
def key (j : Job) : Nat := j.processes.headD 0

/-- Nothing will be asked about the job any more. -/
def isOver (j : Job) : Bool := j.isDone && j.waited

end Job

namespace Sh

/-- Begins to watch some processes as the latest job. -/
def openJob (background : Bool) (processes : List Nat) : Sh Unit :=
  modify fun s =>
    { s with
      jobs := ⟨processes, [], background, false, []⟩ :: s.jobs.filter (!·.isOver)
      background := if background then processes.getLast? else s.background }

def job? (key : Nat) : Sh (Option Job) := do return (← get).jobs.find? fun j => j.key == key

/-- Forgets a job. -/
def closeJob (key : Nat) : Sh Unit :=
  modify fun s => { s with jobs := s.jobs.filter fun j => j.key != key }

/-- Notes the signals that have come. -/
def noteSignals : Sh Unit := do
  let signals ← Program.call .signals
  modify fun s => { s with pending := s.pending ++ signals }

/-- Says what has killed a process, unless that is nothing special. -/
def tellFate : Fate → Sh Unit
  | .exited _ => return ()
  | .killed signal => do
      if signal ≠ Signal.interrupt ∧ signal ≠ Signal.pipe then
        let _ ← Program.writeAll diagnostics ((Signal.wording signal).toList ++ ['\n'])

/-- Waits for the end of some child, and notes it. What has killed it is told if it belongs to the
job with a key. -/
def reap (key : Option Nat) : Sh Waited := do
  let waited ← Program.call (.wait .any none)
  match waited with
  | .ended child fate =>
      modify fun s => { s with jobs := s.jobs.map (Job.note child fate) }
      match key with
      | none => pure ()
      | some key =>
          match ← job? key with
          | some j => if j.processes.contains child then tellFate fate
          | none => pure ()
  | .interrupted => noteSignals
  | _ => pure ()
  return waited

/-- Notes the ends of children that have ended already. The first argument bounds their number. -/
def reapEnded : Nat → Sh Unit
  | 0 => return ()
  | n + 1 => do
      match ← Program.call (.wait .any (some 0)) with
      | .ended child fate =>
          modify fun s => { s with jobs := s.jobs.map (Job.note child fate) }
          reapEnded n
      | _ => return ()

/-- How often one waits for a child. -/
def maxWaits : Nat := 1000000

/-- Waits until a job is done. With `breaks`, a signal ends the waiting; then there is no fate. The
first argument bounds the number of ends that are heard of. -/
def awaitJob (breaks : Bool) (key : Nat) : Nat → Sh (Option Fate)
  | 0 => return none
  | n + 1 => do
      match ← job? key with
      | none => return none
      | some j =>
          if j.isDone then return j.fate?
          match ← reap (some key) with
          | .interrupted => if breaks then return none else awaitJob breaks key n
          | .none =>
              modify fun s =>
                { s with jobs := s.jobs.map fun j =>
                  if j.key = key then { j with fates := j.processes.map (·, .exited 127) } else j }
              awaitJob breaks key n
          | _ => awaitJob breaks key n

/-- Waits for processes that have just been started, and gives their status. -/
def await (processes : List Nat) : Sh Nat := do
  openJob false processes
  let key := processes.headD 0
  let fate ← awaitJob false key maxWaits
  closeJob key
  return (fate.map statusOf).getD 0

/-- Waits until no child is left. A signal ends the waiting; then the answer is no. The first
argument bounds the number of ends that are heard of. -/
def awaitAll : Nat → Sh Bool
  | 0 => return true
  | n + 1 => do
      if (← get).jobs.all Job.isDone then
        modify fun s => { s with jobs := s.jobs.map fun j => { j with waited := true } }
        return true
      match ← reap none with
      | .interrupted => return false
      | .none => return true
      | _ => awaitAll n

end Sh

end Enquiry.Shell
