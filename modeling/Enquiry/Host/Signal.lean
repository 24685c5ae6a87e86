import Enquiry.Text.Digit

/-!
# Signals

A signal has a number, a name, a wording, and something that it does to a process that has made no
arrangements for it.
-/

namespace Enquiry.Host

open Text

/-- A signal by its number. -/
abbrev Signal := Nat

/-- What a signal does by itself. -/
inductive Action where
  | terminate | ignore | stop | resume
  deriving DecidableEq, Repr

/-- What a process has arranged for a signal. -/
inductive Disposition where
  | default | ignored
  /-- The process looks after it. -/
  | caught
  deriving DecidableEq, Repr

namespace Signal

/-- The signals in the order of their numbers, from one on, with their wording. -/
def table : List (String × String) :=
  [("HUP", "Hangup"), ("INT", "Interrupt"), ("QUIT", "Quit"), ("ILL", "Illegal instruction"),
    ("TRAP", "Trace/breakpoint trap"), ("ABRT", "Aborted"), ("BUS", "Bus error"),
    ("FPE", "Floating point exception"), ("KILL", "Killed"), ("USR1", "User defined signal 1"),
    ("SEGV", "Segmentation fault"), ("USR2", "User defined signal 2"), ("PIPE", "Broken pipe"),
    ("ALRM", "Alarm clock"), ("TERM", "Terminated"), ("STKFLT", "Stack fault"),
    ("CHLD", "Child exited"), ("CONT", "Continued"), ("STOP", "Stopped (signal)"),
    ("TSTP", "Stopped"), ("TTIN", "Stopped (tty input)"), ("TTOU", "Stopped (tty output)"),
    ("URG", "Urgent I/O condition"), ("XCPU", "CPU time limit exceeded"),
    ("XFSZ", "File size limit exceeded"), ("VTALRM", "Virtual timer expired"),
    ("PROF", "Profiling timer expired"), ("WINCH", "Window changed"), ("IO", "I/O possible"),
    ("PWR", "Power failure"), ("SYS", "Bad system call")]

def hangup : Signal := 1
def interrupt : Signal := 2
def quit : Signal := 3
def kill : Signal := 9
def pipe : Signal := 13
def terminate : Signal := 15
def child : Signal := 17
def resume : Signal := 18
def stop : Signal := 19

/-- The highest number of a signal. -/
def last : Signal := 64

def isValid (s : Signal) : Bool := s ≤ last

/-- A number behind some words. -/
def numbered (words : String) (n : Nat) : String := words ++ String.ofList (decimal n)

/-- The name of a signal, without `SIG`. -/
def name? (s : Signal) : Option String :=
  if s = 0 then none
  else if s ≤ table.length then table[s - 1]?.map Prod.fst
  else if s = 34 then some "RTMIN"
  else if s = last then some "RTMAX"
  else if 34 < s ∧ s < 50 then some (numbered "RTMIN+" (s - 34))
  else if 49 < s ∧ s < last then some (numbered "RTMAX-" (last - s))
  else none

/-- The signal of a name, without `SIG`. -/
def ofName? (name : String) : Option Signal :=
  (List.range (last + 1)).find? fun s => name? s == some name

/-- What is said of a process that a signal has ended. -/
def wording (s : Signal) : String :=
  match (if s = 0 then none else table[s - 1]?) with
  | some (_, wording) => wording
  | none =>
      if 34 ≤ s ∧ s ≤ last then numbered "Real-time signal " (s - 34)
      else numbered "Unknown signal " s

/-- What a signal does by itself. -/
def action (s : Signal) : Action :=
  if [17, 23, 28].contains s then .ignore
  else if s = resume then .resume
  else if [19, 20, 21, 22].contains s then .stop
  else .terminate

/-- The two signals that no process can look after. -/
def isUncatchable (s : Signal) : Bool := s == kill || s == stop

end Signal

end Enquiry.Host
