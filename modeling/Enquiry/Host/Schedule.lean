import Enquiry.Host.FileCalls
import Enquiry.Text.Blank

/-!
# Running a machine

`World.next?` is the process that can go on first, and `World.advance` goes on with it: it answers
its call, or splits it, or ends it. A call that has to wait is answered when what it waits for has come.
-/

namespace Enquiry.Host.World

open Text

/-! ### What calls cost -/

/-- The time that a process needs for a call to the machine, in nanoseconds. -/
def callCost : Nat := 300

/-- The time that it takes to split, and until the child runs. -/
def forkCost : Nat := 60000

def childDelay : Nat := 60000

/-- The time that it takes to turn into another program. -/
def execCost : Nat := 400000

def cost : Call → Nat
  | .tick nanoseconds => nanoseconds
  | .exec _ _ _ => execCost
  | _ => callCost

/-! ### Programs -/

/-- The longest argument that a program may be given, and the size of all of them. -/
def maxArgument : Nat := 131071

def maxArguments : Nat := 2097152

/-- How much of a file is looked at to find its interpreter. -/
def headSize : Nat := 256

/-- The interpreter that the first line of a program names, and the argument behind it. -/
def interpreter? (content : Octets) : Option (Octets × Option Octets) :=
  (afterStart? ['#', '!'] (content.take headSize)).bind fun rest =>
    let isGap (c : Char) := c == ' ' || c == '\t'
    let line := trimWith isGap (rest.takeWhile (· != '\n'))
    let name := line.takeWhile (!isGap ·)
    let argument := (line.dropWhile (!isGap ·)).dropWhile isGap
    if name.isEmpty then none
    else some (name, if argument.isEmpty then none else some argument)

/-- The task of the program at a path. A text that names an interpreter is run by it; the first
argument bounds the number of interpreters. -/
def load (w : World) (directory : Nat) (path : Octets) (arguments : List Octets)
    (vars : Variables) : Nat → Except Errno Task
  | 0 => .error .linkLoop
  | steps + 1 =>
      match w.files.find? directory path true with
      | .error e => .error e
      | .ok (.descriptor _) => .error .accessDenied
      | .ok (.inode n) =>
          match w.files.get? n with
          | none => .error .noEntry
          | some i =>
              match i.node with
              | .program name =>
                  match w.programs.lookup name with
                  | some run => .ok (run arguments vars)
                  | none => .error .noEntry
              | .file content =>
                  if !i.permits 1 then .error .accessDenied
                  else match interpreter? content.toOctets with
                    | none => .error .execFormat
                    | some (name, argument) =>
                        load w directory name
                          (name :: argument.toList ++ path :: arguments.drop 1) vars steps
              | _ => .error .accessDenied

/-- How many interpreters may run each other. -/
def maxInterpreters : Nat := 5

/-- The task of a program, unless its arguments are too long. -/
def program (w : World) (directory : Nat) (path : Octets) (arguments : List Octets)
    (vars : Variables) : Except Errno Task :=
  let sizes := arguments.map List.length ++
    vars.map fun (name, value) => name.length + value.length + 1
  if sizes.any (maxArgument < ·) || maxArguments < sizes.foldr (· + ·) 0 then .error .tooBig
  else w.load directory path arguments vars maxInterpreters

/-- Turns a process into another program: it forgets what it has arranged for signals that it has
looked after, and loses the descriptors that are not handed on. -/
def become (w : World) (number : Nat) (task : Task) : World :=
  match w.process? number with
  | none => w
  | some p =>
      let (lost, kept) := p.slots.partition fun (_, slot) => slot.closeOnExec
      let w := w.mapProcess number fun p =>
        { p with
          standing := .live task
          clock := w.now + execCost
          deadline := none
          slots := kept
          dispositions := p.dispositions.filter fun (_, d) => d == .ignored
          pending := [] }
      lost.foldl (fun w (_, slot) => w.release slot.file) w

/-! ### Waiting -/

/-- When a process can go on that waits for a time, a signal or something else that has come at
some time. -/
def wakes (p : Process) (interruptible : Bool) (come : Option Nat) : Option Nat :=
  let signal := if interruptible && !p.pending.isEmpty then some p.clock else none
  [signal, come.map (max p.clock), p.deadline].filterMap id |>.min?

/-- The children of a process that somebody waits for. -/
def children (w : World) (number : Nat) : Awaited → List Process
  | .any => w.processes.filter (·.parent == number)
  | .child c => w.processes.filter fun p => p.parent == number && p.number == c

/-- A child that has ended, with the time of its end. -/
def endedChild? (w : World) (number : Nat) (whom : Awaited) : Option (Process × Fate) :=
  (w.children number whom).foldl
    (fun best p =>
      match p.standing, best with
      | .ended fate, none => some (p, fate)
      | .ended fate, some (q, f) => if p.clock < q.clock then some (p, fate) else some (q, f)
      | .live _, best => best)
    none

/-- When the pipe of a descriptor was changed, if one can read from it or write to it now. -/
def pipeReady? (w : World) (p : Process) (descriptor : Nat) (size : Nat) : Option Nat :=
  match w.fileOf p descriptor with
  | .error _ => some p.clock
  | .ok (_, f) =>
      match f.source with
      | .inode _ => some p.clock
      | .pipeOutput pipe =>
          match w.pipe? pipe with
          | none => some p.clock
          | some q => if q.content.size = 0 ∧ q.writers ≠ 0 then none else some q.changed
      | .pipeInput pipe =>
          match w.pipe? pipe with
          | none => some p.clock
          | some q =>
              if q.readers = 0 ∨ q.channel.isSome then some p.clock
              else
                let room := pipeSize - q.content.size
                if size ≤ room ∨ (room ≠ 0 ∧ pipePiece < size) then some q.changed else none

/-- When the call of a process can be answered; never, as things are, for `none`. -/
def readyAt (w : World) (p : Process) : Call → Option Nat
  | .sleep _ => if p.deadline.isNone then some p.clock else wakes p true none
  | .wait whom limit =>
      if limit.isSome && p.deadline.isNone then some p.clock
      else if (w.children p.number whom).isEmpty then some p.clock
      else wakes p true ((w.endedChild? p.number whom).map fun (c, _) => c.clock)
  | .read descriptor _ _ => wakes p true (w.pipeReady? p descriptor 0)
  | .write descriptor data => wakes p true (w.pipeReady? p descriptor data.length)
  | _ => some p.clock

/-- When a process can go on. -/
def wakesAt (w : World) (p : Process) : Option Nat :=
  if p.stopped then none
  else match p.standing with
    | .ended _ => none
    | .live (.call c _) => w.readyAt p c
    | .live _ => some p.clock

/-- The process that can go on first, and when. -/
def next? (w : World) : Option (Nat × Process) :=
  w.processes.foldl
    (fun best p =>
      match w.wakesAt p, best with
      | none, best => best
      | some t, none => some (t, p)
      | some t, some (u, q) => if t < u then some (t, p) else some (u, q))
    none

/-! ### Answering -/

/-- Lets a process wait until a time. -/
def arm (w : World) (p : Process) (until_ : Nat) : World :=
  w.mapProcess p.number fun p => { p with deadline := some until_ }

def sleep (w : World) (p : Process) (nanoseconds : Nat) : Option Nat × World :=
  match p.deadline with
  | none => (none, w.arm p (w.now + nanoseconds))
  | some deadline =>
      if deadline ≤ w.now then (some 0, w)
      else if !p.pending.isEmpty then (some (deadline - w.now), w)
      else (none, w)

/-- Forgets a child that has ended. -/
def bury (w : World) (number : Nat) : World :=
  { w with processes := w.processes.filter fun p => p.number != number }

def wait (w : World) (p : Process) (whom : Awaited) (limit : Option Nat) : Option Waited × World :=
  match w.endedChild? p.number whom with
  | some (c, fate) =>
      if c.clock ≤ w.now then (some (.ended c.number fate), w.bury c.number) else (none, w)
  | none =>
      if (w.children p.number whom).isEmpty then (some .none, w)
      else match limit, p.deadline with
        | some 0, _ => (some .nothing, w)
        | some d, none => (none, w.arm p (w.now + d))
        | _, deadline =>
            if deadline.any (· ≤ w.now) then (some .nothing, w)
            else if !p.pending.isEmpty then (some .interrupted, w)
            else (none, w)

/-- Answers a call that reads or writes, unless it has to wait and no signal comes. -/
def orInterrupted {α : Type} (p : Process) (x : Option (Except Errno α) × World) :
    Option (Except Errno α) × World :=
  match x with
  | (none, w) => (if p.pending.isEmpty then none else some (.error .interrupted), w)
  | x => x

/-- A call that always has an answer at once. -/
def answered {α : Type} (x : α × World) : Option α × World := (some x.1, x.2)

def sendSignal (w : World) (p : Process) (target : Nat) (s : Signal) : Answer Unit :=
  if !s.isValid then w.failing .invalid
  else match w.process? (if target = 0 then p.number else target) with
    | none => if target = initial then w.failing .notPermitted else w.failing .noProcess
    | some q => (.ok (), w.signal q.number s)

/-- Sends a signal to all others of the group of a process. -/
def signalGroup (w : World) (p : Process) (s : Signal) : World :=
  let others := w.processes.filter fun q => q.group == p.group && q.number != p.number
  others.foldl (fun w q => w.signal q.number s) w

/-- The answer to a call of a process and the machine afterwards; no answer when the process has
to wait. -/
def perform (w : World) (p : Process) : (c : Call) → Option c.Reply × World
  | .tick _ => (some (), w)
  | .sleep nanoseconds => w.sleep p nanoseconds
  | .now => (some w.now, w)
  | .signals => (some p.pending, w.mapProcess p.number fun p => { p with pending := [] })
  | .arrange s d =>
      (some (p.disposition s), w.mapProcess p.number fun p =>
        { p with
          dispositions := (s, d) :: p.dispositions.filter fun (t, _) => t != s
          pending := if d == .caught then p.pending else p.pending.filter (· != s) })
  | .kill target s => answered (w.sendSignal p target s)
  | .lead => (some (), w.mapProcess p.number fun p => { p with group := p.number })
  | .killGroup s => (some (), w.signalGroup p s)
  | .identity => (some (p.number, p.parent), w)
  | .wait whom limit => w.wait p whom limit
  | .exec path arguments vars =>
      match w.program p.directory path arguments vars with
      | .error e => (some e, w)
      | .ok task => (none, w.become p.number task)
  | .read descriptor size line => orInterrupted p (w.read p descriptor size line)
  | .write descriptor data => orInterrupted p (w.write p descriptor data)
  | .opening path mode permissions => answered (w.opening p path mode permissions)
  | .close descriptor => answered (w.close p descriptor)
  | .duplicate descriptor lowest closeOnExec =>
      answered (w.duplicate p descriptor lowest closeOnExec)
  | .redirect descriptor target => answered (w.redirect p descriptor target)
  | .pipe => answered (w.makePipe p)
  | .seek descriptor offset => answered (w.seek p descriptor offset)
  | .descriptorStatus descriptor =>
      (some ((w.fileOf p descriptor).map fun (_, f) => w.sourceStatus f.source), w)
  | .truncate descriptor size => answered (w.truncate p descriptor size)
  | .status path follow => (some (w.status p path follow), w)
  | .access path bits => (some (w.access p path bits), w)
  | .list path => (some (w.list p path), w)
  | .makeDirectory path mode =>
      answered (w.make p path (fun above => .directory [] above) (masked p mode))
  | .removeDirectory path => answered (w.removeDirectory p path)
  | .unlink path => answered (w.unlink p path)
  | .rename old new => answered (w.rename p old new)
  | .link old new => answered (w.link p old new)
  | .symlink target path => answered (w.make p path (fun _ => .link target) 0o777)
  | .readLink path => (some (w.readLink p path), w)
  | .changeMode path mode => answered (w.change p path fun i => { i with mode })
  | .touch path time => answered (w.change p path fun i => { i with modified := time })
  | .changeDirectory path => answered (w.changeDirectory p path)
  | .currentDirectory => (some (.ok (w.files.pathOf Files.pathBound p.directory [])), w)
  | .mask bits => (some p.mask, w.mapProcess p.number fun p => { p with mask := bits })

/-! ### Steps -/

/-- Lets a process go on with a task after some time, unless it has been ended meanwhile. -/
def proceed (w : World) (number : Nat) (task : Task) (after : Nat) : World :=
  w.mapProcess number fun p =>
    if p.isLive then { p with standing := .live task, clock := w.now + after, deadline := none }
    else p

/-- Splits a process. -/
def split (w : World) (p : Process) (child : Task) (next : Nat → Task) : World :=
  let w := p.slots.foldl (fun w (_, slot) => w.hold slot.file) w
  let number := w.fresh
  let q : Process :=
    { p with
      number
      parent := p.number
      clock := w.now + forkCost + childDelay
      standing := .live child
      pending := [] }
  { w with processes := q :: w.processes, fresh := number + 1 }.proceed p.number (next number)
    forkCost

/-- One step of a process whose turn it is. -/
def advance (w : World) (number : Nat) : World :=
  match w.process? number with
  | none => w
  | some p =>
      match p.standing with
      | .ended _ => w
      | .live (.exit status) => w.finish number (.exited (status % 256))
      | .live (.fork child next) => w.split p child next
      | .live (.call c next) =>
          match w.perform p c with
          | (some reply, w) => w.proceed number (next reply) (cost c)
          | (none, w) => w.mapProcess number fun q => { q with clock := max q.clock w.now }

end Enquiry.Host.World
