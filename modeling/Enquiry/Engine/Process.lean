import Enquiry.Failure
import Enquiry.Text.Blank
import Enquiry.Text.Utf8

/-!
# Processes

A process is what happens from its start on, as seen from outside: it writes to its two outputs,
lets time pass, ends, and at last nobody can write to an output any more, which may be later than
the end when other processes hold it open. Between two events no time passes. At every moment the
process can be given up; what is left then is the state of the world that it runs in.
-/

namespace Enquiry

open Text

/-- How a process ends. -/
inductive Ending where
  | exited (code : Nat)
  | killed (signal : Nat)
  deriving DecidableEq, Repr

/-- The process ended well. -/
def Ending.isSuccess : Ending → Bool
  | .exited code => code == 0
  | .killed _ => false

/-- One thing that happens. -/
inductive Event where
  | wait (d : Duration)
  | output (bytes : List UInt8)
  | diagnostics (bytes : List UInt8)
  | outputClosed
  | diagnosticsClosed
  | ended (ending : Ending)
  deriving DecidableEq, Repr

/-- A process in a world of states `σ`. The function in front gives what is left when it is given
up after some nanoseconds in which nothing has happened. -/
inductive Process (σ : Type) where
  /-- Nothing happens any more. -/
  | still (left : Nat → σ)
  | next (left : Nat → σ) (event : Event) (rest : Unit → Process σ)

namespace Process

variable {σ : Type}

/-- What is left when the process is given up after some nanoseconds. -/
def giveUp (delay : Nat) : Process σ → σ
  | .still left => left delay
  | .next left event rest =>
      match event with
      | .wait d =>
          if delay ≤ d.nanoseconds then left delay
          else giveUp (delay - d.nanoseconds) (rest ())
      | _ => giveUp delay (rest ())

/-- The process of some events that leaves nothing behind. -/
def ofEvents (s : σ) : List Event → Process σ
  | [] => .still fun _ => s
  | event :: events => .next (fun _ => s) event fun _ => ofEvents s events

/-- The process that does something, and then ends and closes its outputs at once. -/
def closing (s : σ) (events : List Event) (ending : Ending) : Process σ :=
  ofEvents s (events ++ [.outputClosed, .diagnosticsClosed, .ended ending])

end Process

end Enquiry
