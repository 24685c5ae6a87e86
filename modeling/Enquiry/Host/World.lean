import Enquiry.Host.Files

/-!
# The state of a machine

Files, pipes, open files and processes. Every process has a clock of its own; the machine always
goes on with the process that is furthest behind, so that what processes do to each other happens
in the order of time. Given the same files and programs, a machine always does the same.
-/

namespace Enquiry.Host

/-- Where a descriptor leads. -/
inductive Source where
  | inode (number : Nat)
  | pipeOutput (pipe : Nat)
  | pipeInput (pipe : Nat)
  deriving DecidableEq, Repr

/-- An open file, which several descriptors of several processes may share. -/
structure OpenFile where
  source : Source
  reads : Bool
  writes : Bool
  appends : Bool
  offset : Nat
  /-- How many descriptors lead to it. -/
  holders : Nat
  /-- The path by which it was opened. -/
  path : Octets

/-- What someone outside the machine hears of a pipe. -/
inductive Channel where
  | output | diagnostics
  deriving DecidableEq, Repr

structure Pipe where
  content : Blob
  /-- How many open files read from it and write to it. -/
  readers : Nat
  writers : Nat
  /-- When it was last changed. -/
  changed : Nat
  /-- Everything that goes into it is heard outside at once. -/
  channel : Option Channel

/-- A descriptor of a process. -/
structure Slot where
  file : Nat
  closeOnExec : Bool
  deriving DecidableEq, Repr

/-- The state that a process is in. -/
inductive Standing where
  | live (task : Task)
  /-- It has ended, but its parent has not heard of it yet. -/
  | ended (fate : Fate)

structure Process where
  number : Nat
  parent : Nat
  /-- The group that it belongs to. -/
  group : Nat
  clock : Nat
  standing : Standing
  stopped : Bool
  slots : List (Nat × Slot)
  directory : Nat
  mask : Nat
  dispositions : List (Signal × Disposition)
  /-- The caught signals that it has not looked at yet. -/
  pending : List Signal
  /-- Until when it waits, when it waits for something that takes a time. -/
  deadline : Option Nat

/-- The programs of a machine by name: the task of each for its arguments and variables. -/
abbrev Programs := List (String × (List Octets → Variables → Task))

/-- Something that is heard outside of the machine. -/
inductive Sound where
  | wrote (channel : Channel) (data : Octets)
  /-- Nobody can write any more. -/
  | closed (channel : Channel)
  deriving DecidableEq, Repr

structure World where
  programs : Programs
  files : Files
  openFiles : List (Nat × OpenFile)
  pipes : List (Nat × Pipe)
  processes : List Process
  /-- The number of the next open file, pipe or process. -/
  fresh : Nat
  /-- The time. -/
  now : Nat
  /-- What has been heard since somebody listened, the latest first. -/
  sounds : List Sound

namespace Process

def isLive (p : Process) : Bool :=
  match p.standing with
  | .live _ => true
  | .ended _ => false

/-- What a process has arranged for a signal. -/
def disposition (p : Process) (s : Signal) : Disposition :=
  (p.dispositions.lookup s).getD .default

def slot? (p : Process) (descriptor : Nat) : Option Slot := p.slots.lookup descriptor

/-- The first free descriptor from a number on. -/
def freeDescriptor (p : Process) (lowest : Nat) : Nat :=
  ((List.range (p.slots.length + 1)).map (lowest + ·)).find?
    (fun n => (p.slot? n).isNone) |>.getD lowest

def setSlot (p : Process) (descriptor : Nat) (slot : Slot) : Process :=
  { p with slots := (descriptor, slot) :: p.slots.filter fun (d, _) => d != descriptor }

def dropSlot (p : Process) (descriptor : Nat) : Process :=
  { p with slots := p.slots.filter fun (d, _) => d != descriptor }

end Process

namespace World

/-- The number of the process that takes over children without a parent. -/
def initial : Nat := 1

/-- A machine with some programs. -/
def boot (programs : Programs) (now : Nat) : World where
  programs := programs
  files := .system (programs.map Prod.fst)
  openFiles := []
  pipes := []
  processes := []
  fresh := 4242
  now := now
  sounds := []

/-! ### Parts -/

def process? (w : World) (n : Nat) : Option Process := w.processes.find? (·.number == n)

def mapProcess (w : World) (n : Nat) (f : Process → Process) : World :=
  { w with processes := w.processes.map fun p => if p.number = n then f p else p }

def openFile? (w : World) (n : Nat) : Option OpenFile := w.openFiles.lookup n

def setOpenFile (w : World) (n : Nat) (f : OpenFile) : World :=
  { w with openFiles := assign n f w.openFiles }

def pipe? (w : World) (n : Nat) : Option Pipe := w.pipes.lookup n

def setPipe (w : World) (n : Nat) (p : Pipe) : World := { w with pipes := assign n p w.pipes }

/-- The open file of a descriptor, with its number. -/
def fileOf (w : World) (p : Process) (descriptor : Nat) : Except Errno (Nat × OpenFile) :=
  match p.slot? descriptor with
  | none => .error .badDescriptor
  | some slot =>
      match w.openFile? slot.file with
      | some file => .ok (slot.file, file)
      | none => .error .badDescriptor

/-- Says something to the outside. -/
def say (w : World) (s : Sound) : World := { w with sounds := s :: w.sounds }

/-! ### Opening and closing -/

/-- Adds an open file, which one descriptor holds. -/
def addOpenFile (w : World) (f : OpenFile) : World × Nat :=
  ({ w with openFiles := (w.fresh, f) :: w.openFiles, fresh := w.fresh + 1 }, w.fresh)

/-- One more descriptor leads to an open file. -/
def hold (w : World) (n : Nat) : World :=
  match w.openFile? n with
  | some f => w.setOpenFile n { f with holders := f.holders + 1 }
  | none => w

/-- An end of a pipe is gone. -/
def leavePipe (w : World) (n : Nat) (writing : Bool) : World :=
  match w.pipe? n with
  | none => w
  | some p =>
      let p :=
        if writing then { p with writers := p.writers - 1, changed := w.now }
        else { p with readers := p.readers - 1, changed := w.now }
      if p.readers = 0 ∧ p.writers = 0 then
        { w with pipes := w.pipes.filter fun (m, _) => m != n }
      else
        let w := w.setPipe n p
        match p.channel with
        | some channel => if writing && p.writers == 0 then w.say (.closed channel) else w
        | none => w

/-- One descriptor less leads to an open file. -/
def release (w : World) (n : Nat) : World :=
  match w.openFile? n with
  | none => w
  | some f =>
      if 1 < f.holders then w.setOpenFile n { f with holders := f.holders - 1 }
      else
        let w := { w with openFiles := w.openFiles.filter fun (m, _) => m != n }
        match f.source with
        | .inode _ => w
        | .pipeOutput pipe => w.leavePipe pipe false
        | .pipeInput pipe => w.leavePipe pipe true

/-- Lets a descriptor of a process lead to an open file that has been held for it. -/
def attach (w : World) (number descriptor : Nat) (slot : Slot) : World :=
  let w := match (w.process? number).bind (·.slot? descriptor) with
    | some old => w.release old.file
    | none => w
  w.mapProcess number (·.setSlot descriptor slot)

/-- Adds a pipe without readers and writers. -/
def addPipe (w : World) (channel : Option Channel) : World × Nat :=
  ({ w with pipes := (w.fresh, ⟨.empty, 0, 0, w.now, channel⟩) :: w.pipes, fresh := w.fresh + 1 },
    w.fresh)

/-- Opens an end of a pipe. -/
def openPipe (w : World) (pipe : Nat) (writing : Bool) : World × Nat :=
  let w := match w.pipe? pipe with
    | some p =>
        w.setPipe pipe
          (if writing then { p with writers := p.writers + 1 }
          else { p with readers := p.readers + 1 })
    | none => w
  let path := "pipe:[".toList ++ Text.decimal pipe ++ [']']
  w.addOpenFile
    ⟨if writing then .pipeInput pipe else .pipeOutput pipe, !writing, writing, false, 0, 1, path⟩

/-! ### Ends and signals -/

/-- Closes all descriptors of a process. -/
def closeAll (w : World) (p : Process) : World :=
  (p.slots.foldl (fun w (_, slot) => w.release slot.file) w).mapProcess p.number fun p =>
    { p with slots := [] }

/-- Tells a process that looks after it that a child has ended. -/
def tellParent (w : World) (parent : Nat) : World :=
  w.mapProcess parent fun p =>
    if p.isLive && p.disposition Signal.child == .caught then
      { p with
        pending := if p.pending.contains Signal.child then p.pending else p.pending ++ [Signal.child]
        clock := max p.clock w.now }
    else p

/-- Ends a process. Its children lose their parent, and its parent gets a signal. -/
def finish (w : World) (number : Nat) (fate : Fate) : World :=
  match w.process? number with
  | none => w
  | some p =>
      let w := w.closeAll p
      let orphans := w.processes.filterMap fun q =>
        if q.parent = number then
          if q.isLive then some { q with parent := initial } else none
        else some q
      let w := { w with processes := orphans }
      if p.parent = initial then
        { w with processes := w.processes.filter fun q => q.number != number }
      else
        (w.mapProcess number fun p =>
          { p with standing := .ended fate, clock := w.now, deadline := none }).tellParent p.parent

/-- Gives a process a signal. -/
def signal (w : World) (number : Nat) (s : Signal) : World :=
  match w.process? number with
  | none => w
  | some p =>
      if !p.isLive || s = 0 then w
      else match (if s.isUncatchable then .default else p.disposition s) with
        | .ignored => w.mapProcess number fun p =>
            if s.action == .resume then { p with stopped := false } else p
        | .caught => w.mapProcess number fun p =>
            { p with
              pending := if p.pending.contains s then p.pending else p.pending ++ [s]
              clock := max p.clock w.now
              stopped := p.stopped && s.action != .resume }
        | .default =>
            match s.action with
            | .ignore => w
            | .resume => w.mapProcess number fun p =>
                { p with stopped := false, clock := max p.clock w.now }
            | .stop => w.mapProcess number fun p => { p with stopped := true }
            | .terminate => w.finish number (.killed s)

/-! ### Setting up a machine -/

/-- Puts a file of the user at an absolute path. -/
def install (w : World) (path : String) (content : Octets) (mode : Nat) : World :=
  { w with files := w.files.install path (.file (.ofOctets content)) mode true }

/-- Makes a directory of the user at an absolute path. -/
def installDirectory (w : World) (path : String) (mode : Nat) : World :=
  { w with files := w.files.install path (.directory [] Files.root) mode true }

/-- The number of the directory at an absolute path, with those above it made when missing. -/
def enter (w : World) (path : String) : World × Nat :=
  let (files, n) := Files.makeAll true w.files Files.root (Files.components (octets path))
  ({ w with files }, n)

end World

end Enquiry.Host
