import Enquiry.Host.Errno
import Enquiry.Host.Octets
import Enquiry.Host.Signal

/-!
# Calls of a process

What a process can ask of the machine that it runs on, and what it is told. A `Task` is a process
that is under way: it has ended, or it waits for the answer to a call, or it splits in two.
-/

namespace Enquiry.Host

/-- The kinds of things that a path can lead to. -/
inductive FileKind where
  | regular | directory | link | device | fifo | pipe
  deriving DecidableEq, Repr

/-- What is known of a file. -/
structure FileStatus where
  kind : FileKind
  /-- The number of the file, which no other one has. -/
  identity : Nat
  mode : Nat
  size : Nat
  /-- When it was changed, in nanoseconds. -/
  modified : Nat
  links : Nat
  /-- It belongs to the user. -/
  owned : Bool
  deriving DecidableEq, Repr

/-- How a file is opened. -/
structure OpenMode where
  reads : Bool
  writes : Bool
  /-- The file is made when it is not there. -/
  creates : Bool
  /-- The file must not be there. -/
  exclusive : Bool
  truncates : Bool
  appends : Bool
  deriving DecidableEq, Repr

namespace OpenMode

def reading : OpenMode := ⟨true, false, false, false, false, false⟩

def writing : OpenMode := ⟨false, true, true, false, true, false⟩

def appending : OpenMode := ⟨false, true, true, false, false, true⟩

def updating : OpenMode := ⟨true, true, true, false, false, false⟩

/-- Writes a file that must not be there. -/
def making : OpenMode := ⟨false, true, true, true, false, false⟩

end OpenMode

/-- The variables of a process, in their order. -/
abbrev Variables := List (Octets × Octets)

/-- A child that has ended. -/
inductive Fate where
  | exited (status : Nat)
  | killed (signal : Signal)
  deriving DecidableEq, Repr

/-- What a process hears that waits for its children. -/
inductive Waited where
  | ended (child : Nat) (fate : Fate)
  /-- There is no such child. -/
  | none
  /-- The time is over, or nothing has happened yet and the process does not want to wait. -/
  | nothing
  | interrupted
  deriving DecidableEq, Repr

/-- Whom a process waits for. -/
inductive Awaited where
  | any
  | child (number : Nat)
  deriving DecidableEq, Repr

inductive Call where
  /-- Lets time pass, which the process uses itself. -/
  | tick (nanoseconds : Nat)
  /-- Sleeps; the answer is the time that was left when a signal came. -/
  | sleep (nanoseconds : Nat)
  /-- The time. -/
  | now
  /-- The caught signals that have come. -/
  | signals
  /-- Makes arrangements for a signal; the answer is what they were. -/
  | arrange (signal : Signal) (disposition : Disposition)
  | kill (target : Nat) (signal : Signal)
  /-- Makes a group of the process and the children that it will have. -/
  | lead
  /-- Sends a signal to all others of the group. -/
  | killGroup (signal : Signal)
  /-- The numbers of the process and of its parent. -/
  | identity
  /-- Waits for a child, not at all or for so long, or without a limit. -/
  | wait (whom : Awaited) (limit : Option Nat)
  /-- Turns into another program; there is an answer only when that fails. -/
  | exec (path : Octets) (arguments : List Octets) (environment : Variables)
  /-- Reads at most so many bytes, and with `line` none behind the end of a line. -/
  | read (descriptor : Nat) (size : Nat) (line : Bool)
  | write (descriptor : Nat) (data : Octets)
  | opening (path : Octets) (mode : OpenMode) (permissions : Nat)
  | close (descriptor : Nat)
  /-- Duplicates a descriptor to the first free one from a number on. -/
  | duplicate (descriptor : Nat) (lowest : Nat) (closeOnExec : Bool)
  /-- Lets a descriptor be the same as another one. -/
  | redirect (descriptor : Nat) (target : Nat)
  /-- Makes a pipe: the descriptors of its ends. -/
  | pipe
  /-- Moves the place in a file: the answer is where it was. -/
  | seek (descriptor : Nat) (offset : Nat)
  | descriptorStatus (descriptor : Nat)
  | truncate (descriptor : Nat) (size : Nat)
  | status (path : Octets) (follow : Bool)
  /-- May the file be used: the bits 4, 2 and 1 stand for reading, writing and running. -/
  | access (path : Octets) (bits : Nat)
  | list (path : Octets)
  | makeDirectory (path : Octets) (mode : Nat)
  | removeDirectory (path : Octets)
  | unlink (path : Octets)
  | rename (old new : Octets)
  | link (old new : Octets)
  | symlink (target path : Octets)
  | readLink (path : Octets)
  | changeMode (path : Octets) (mode : Nat)
  /-- Sets the time of a file. -/
  | touch (path : Octets) (time : Nat)
  | changeDirectory (path : Octets)
  | currentDirectory
  /-- Sets the bits that new files do not get: the answer is what they were. -/
  | mask (bits : Nat)

/-- What the machine answers to a call. -/
@[reducible] def Call.Reply : Call → Type
  | .tick _ => Unit
  | .sleep _ => Nat
  | .now => Nat
  | .signals => List Signal
  | .arrange _ _ => Disposition
  | .kill _ _ => Except Errno Unit
  | .lead => Unit
  | .killGroup _ => Unit
  | .identity => Nat × Nat
  | .wait _ _ => Waited
  | .exec _ _ _ => Errno
  | .read _ _ _ => Except Errno Octets
  | .write _ _ => Except Errno Nat
  | .opening _ _ _ => Except Errno Nat
  | .close _ => Except Errno Unit
  | .duplicate _ _ _ => Except Errno Nat
  | .redirect _ _ => Except Errno Unit
  | .pipe => Nat × Nat
  | .seek _ _ => Except Errno Nat
  | .descriptorStatus _ => Except Errno FileStatus
  | .truncate _ _ => Except Errno Unit
  | .status _ _ => Except Errno FileStatus
  | .access _ _ => Except Errno Unit
  | .list _ => Except Errno (List Octets)
  | .makeDirectory _ _ => Except Errno Unit
  | .removeDirectory _ => Except Errno Unit
  | .unlink _ => Except Errno Unit
  | .rename _ _ => Except Errno Unit
  | .link _ _ => Except Errno Unit
  | .symlink _ _ => Except Errno Unit
  | .readLink _ => Except Errno Octets
  | .changeMode _ _ => Except Errno Unit
  | .touch _ _ => Except Errno Unit
  | .changeDirectory _ => Except Errno Unit
  | .currentDirectory => Except Errno Octets
  | .mask _ => Nat

/-- A process that is under way. -/
inductive Task where
  | exit (status : Nat)
  | call (c : Call) (next : c.Reply → Task)
  /-- Splits: the child goes on as one task, and the parent learns the child's number. -/
  | fork (child : Task) (next : Nat → Task)

instance : Inhabited Task := ⟨.exit 0⟩

end Enquiry.Host
