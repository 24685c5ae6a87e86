import Enquiry.Host.World

/-!
# Calls about files

What the machine does when a process opens, reads, writes, names and removes files. Every
operation gives an answer and the machine afterwards.
-/

namespace Enquiry.Host.World

/-- The answer to a call and the machine afterwards. -/
abbrev Answer (α : Type) := Except Errno α × World

/-- A call that fails changes nothing. -/
def failing {α : Type} (w : World) (e : Errno) : Answer α := (.error e, w)

/-- What a path leads to from where a process is. -/
def resolve (w : World) (p : Process) (path : Octets) (follow : Bool) : Except Errno Target :=
  w.files.resolve p.directory path follow

/-- What is known of what a descriptor leads to. -/
def sourceStatus (w : World) : Source → FileStatus
  | .inode n =>
      match w.files.get? n with
      | some i => i.status n
      | none => ⟨.regular, n, 0, 0, 0, 0, true⟩
  | .pipeOutput pipe => ⟨.pipe, pipe, 0o600, 0, 0, 1, true⟩
  | .pipeInput pipe => ⟨.pipe, pipe, 0o600, 0, 0, 1, true⟩

def status (w : World) (p : Process) (path : Octets) (follow : Bool) : Except Errno FileStatus := do
  match ← w.files.find? p.directory path follow with
  | .inode n =>
      match w.files.get? n with
      | some i => return i.status n
      | none => throw .noEntry
  | .descriptor d =>
      let (_, f) ← (w.fileOf p d).mapError fun _ => .noEntry
      let s := w.sourceStatus f.source
      return if follow then s else { s with kind := .link }

/-! ### Opening -/

/-- Lets the first free descriptor of a process lead to a new open file. -/
def opened (w : World) (p : Process) (f : OpenFile) : Answer Nat :=
  let (w, n) := w.addOpenFile f
  let descriptor := p.freeDescriptor 0
  (.ok descriptor, w.attach p.number descriptor ⟨n, false⟩)

/-- The bits of permission that a mode needs. -/
def neededBits (mode : OpenMode) : Nat := (if mode.reads then 4 else 0) + if mode.writes then 2 else 0

/-- Opens a file that is there. -/
def openInode (w : World) (p : Process) (path : Octets) (mode : OpenMode) (n : Nat) :
    Answer Nat :=
  match w.files.get? n with
  | none => w.failing .noEntry
  | some i =>
      if i.kind == .directory && (mode.writes || mode.creates) then w.failing .isDirectory
      else if !i.permits (neededBits mode) then w.failing .accessDenied
      else
        let w := match i.node, mode.truncates with
          | .file _, true =>
              { w with files := w.files.set n { i with node := .file .empty, modified := w.now } }
          | _, _ => w
        w.opened p ⟨.inode n, mode.reads, mode.writes, mode.appends, 0, 1, path⟩

/-- The absolute path of a name in a directory. -/
def fullPath (w : World) (t : Target) : Octets :=
  let above := w.files.pathOf Files.pathBound t.directory []
  if t.name = ['.'] then above
  else if above = ['/'] then '/' :: t.name
  else above ++ '/' :: t.name

/-- The permissions of a new file. -/
def masked (p : Process) (mode : Nat) : Nat := mode - (mode &&& p.mask)

/-- New names may be made in a directory. -/
def mayChange (w : World) (directory : Nat) : Except Errno Unit :=
  match w.files.get? directory with
  | none => .error .noEntry
  | some i =>
      if i.links = 0 then .error .noEntry
      else if i.permits 3 then .ok ()
      else .error .accessDenied

def opening (w : World) (p : Process) (path : Octets) (mode : OpenMode) (permissions : Nat) :
    Answer Nat :=
  match w.resolve p path true with
  | .error e => w.failing e
  | .ok target =>
      match target.place with
      | some place =>
          if mode.exclusive then w.failing .alreadyThere
          else match place with
            | .inode n => w.openInode p (w.fullPath target) mode n
            | .descriptor d =>
                match w.fileOf p d with
                | .error _ => w.failing .noEntry
                | .ok (_, f) =>
                    match f.source with
                    | .inode n => w.openInode p f.path mode n
                    | .pipeOutput pipe =>
                        let (w, n) := w.openPipe pipe mode.writes
                        let descriptor := p.freeDescriptor 0
                        (.ok descriptor, w.attach p.number descriptor ⟨n, false⟩)
                    | .pipeInput pipe =>
                        let (w, n) := w.openPipe pipe mode.writes
                        let descriptor := p.freeDescriptor 0
                        (.ok descriptor, w.attach p.number descriptor ⟨n, false⟩)
      | none =>
          if !mode.creates then w.failing .noEntry
          else if target.slashed then w.failing .isDirectory
          else match w.mayChange target.directory with
            | .error e => w.failing e
            | .ok _ =>
                let (files, n) := w.files.create target.directory target.name (.file .empty)
                  (masked p permissions) true w.now
                { w with files }.opened p
                  ⟨.inode n, mode.reads, mode.writes, mode.appends, 0, 1, w.fullPath target⟩

/-! ### Reading and writing -/

/-- The first bytes of a row: at most so many, and with `line` none behind the end of a line. -/
def portion (size : Nat) (line : Bool) (o : Octets) : Octets :=
  if line then
    let front := o.takeWhile (· != '\n')
    if front.length < o.length then (front ++ ['\n']).take size else front.take size
  else o.take size

/-- How many bytes fit into a pipe, and how many go into it in one piece. -/
def pipeSize : Nat := 65536

def pipePiece : Nat := 4096

/-- Reads from an open file; `none` when there is nothing to read yet. -/
def readFile (w : World) (number : Nat) (f : OpenFile) (size : Nat) (line : Bool) :
    Option (Except Errno Octets) × World :=
  match f.source with
  | .pipeInput _ => (some (.error .badDescriptor), w)
  | .pipeOutput pipe =>
      match w.pipe? pipe with
      | none => (some (.ok []), w)
      | some q =>
          if q.content.size = 0 then
            if q.writers = 0 then (some (.ok []), w) else (none, w)
          else
            let all := q.content.toOctets
            let found := portion size line all
            let rest := all.drop found.length
            (some (.ok found),
              w.setPipe pipe
                { q with
                  content := ⟨rest, [], q.content.size - found.length⟩
                  changed := max q.changed w.now })
  | .inode n =>
      match w.files.get? n with
      | none => (some (.error .badDescriptor), w)
      | some i =>
          match i.node with
          | .file content =>
              let w :=
                if content.back.isEmpty then w
                else { w with files := w.files.set n { i with node := .file content.compact } }
              let content := content.compact
              let found := portion size line (content.front.drop f.offset)
              (some (.ok found), w.setOpenFile number { f with offset := f.offset + found.length })
          | .device .null => (some (.ok []), w)
          | .device _ => (some (.ok (List.replicate size '\x00')), w)
          | .program _ => (some (.ok []), w)
          | _ => (some (.error .isDirectory), w)

def read (w : World) (p : Process) (descriptor : Nat) (size : Nat) (line : Bool) :
    Option (Except Errno Octets) × World :=
  match w.fileOf p descriptor with
  | .error e => (some (.error e), w)
  | .ok (number, f) =>
      if f.reads then w.readFile number f size line else (some (.error .badDescriptor), w)

/-- Writes to a pipe; `none` when it is full. -/
def writePipe (w : World) (p : Process) (pipe : Nat) (data : Octets) :
    Option (Except Errno Nat) × World :=
  match w.pipe? pipe with
  | none => (some (.error .brokenPipe), w)
  | some q =>
      if q.readers = 0 then (some (.error .brokenPipe), w.signal p.number Signal.pipe)
      else match q.channel with
        | some channel => (some (.ok data.length), w.say (.wrote channel data))
        | none =>
            let room := pipeSize - q.content.size
            let size := data.length
            if size ≤ room then
              (some (.ok size),
                w.setPipe pipe
                  { q with content := q.content.append data, changed := max q.changed w.now })
            else if room = 0 || size ≤ pipePiece then (none, w)
            else
              (some (.ok room),
                w.setPipe pipe
                  { q with
                    content := q.content.append (data.take room), changed := max q.changed w.now })

def write (w : World) (p : Process) (descriptor : Nat) (data : Octets) :
    Option (Except Errno Nat) × World :=
  match w.fileOf p descriptor with
  | .error e => (some (.error e), w)
  | .ok (number, f) =>
      if !f.writes then (some (.error .badDescriptor), w)
      else match f.source with
        | .pipeOutput _ => (some (.error .badDescriptor), w)
        | .pipeInput pipe =>
            if data.isEmpty then (some (.ok 0), w) else w.writePipe p pipe data
        | .inode n =>
            match w.files.get? n with
            | none => (some (.error .badDescriptor), w)
            | some i =>
                match i.node with
                | .file content =>
                    let offset := if f.appends then content.size else f.offset
                    let content := content.overwrite offset data
                    let files := w.files.set n { i with node := .file content, modified := w.now }
                    (some (.ok data.length),
                      { w with files }.setOpenFile number
                        { f with offset := offset + data.length })
                | .device .full =>
                    (some (if data.isEmpty then .ok 0 else .error .noSpace), w)
                | .device _ => (some (.ok data.length), w)
                | _ => (some (.error .badDescriptor), w)

/-- Moves the place in a file; the answer is where it was. -/
def seek (w : World) (p : Process) (descriptor offset : Nat) : Answer Nat :=
  match w.fileOf p descriptor with
  | .error e => w.failing e
  | .ok (number, f) =>
      match f.source with
      | .inode _ => (.ok f.offset, w.setOpenFile number { f with offset })
      | _ => w.failing .illegalSeek

def truncate (w : World) (p : Process) (descriptor size : Nat) : Answer Unit :=
  match w.fileOf p descriptor with
  | .error e => w.failing e
  | .ok (_, f) =>
      match f.source, f.writes with
      | .inode n, true =>
          (.ok (), { w with files := w.files.modify n fun i =>
            match i.node with
            | .file content =>
                { i with node := .file (content.resize size), modified := w.now }
            | _ => i })
      | _, _ => w.failing .invalid

/-! ### Descriptors -/

def close (w : World) (p : Process) (descriptor : Nat) : Answer Unit :=
  match p.slot? descriptor with
  | none => w.failing .badDescriptor
  | some slot => (.ok (), (w.mapProcess p.number (·.dropSlot descriptor)).release slot.file)

/-- The highest number of a descriptor. -/
def maxDescriptors : Nat := 1024

def duplicate (w : World) (p : Process) (descriptor lowest : Nat) (closeOnExec : Bool) :
    Answer Nat :=
  match p.slot? descriptor with
  | none => w.failing .badDescriptor
  | some slot =>
      let found := p.freeDescriptor lowest
      if maxDescriptors ≤ found then w.failing .tooManyFiles
      else (.ok found, (w.hold slot.file).attach p.number found ⟨slot.file, closeOnExec⟩)

def redirect (w : World) (p : Process) (descriptor target : Nat) : Answer Unit :=
  match p.slot? target with
  | none => w.failing .badDescriptor
  | some slot =>
      if maxDescriptors ≤ descriptor then w.failing .badDescriptor
      else if descriptor = target then (.ok (), w)
      else (.ok (), (w.hold slot.file).attach p.number descriptor ⟨slot.file, false⟩)

/-- Makes a pipe: the descriptors of its ends. -/
def makePipe (w : World) (p : Process) : (Nat × Nat) × World :=
  let (w, pipe) := w.addPipe none
  let (w, output) := w.openPipe pipe false
  let (w, input) := w.openPipe pipe true
  let first := p.freeDescriptor 0
  let second := (p.setSlot first ⟨output, false⟩).freeDescriptor 0
  ((first, second),
    (w.attach p.number first ⟨output, false⟩).attach p.number second ⟨input, false⟩)

/-! ### Names -/

/-- Makes a file under a path that leads nowhere. -/
def make (w : World) (p : Process) (path : Octets) (node : Nat → Node) (mode : Nat) :
    Answer Unit :=
  match w.resolve p path false with
  | .error e => w.failing e
  | .ok target =>
      if target.place.isSome then w.failing .alreadyThere
      else match w.mayChange target.directory with
        | .error e => w.failing e
        | .ok _ =>
            let (files, _) := w.files.create target.directory target.name (node target.directory)
              mode true w.now
            (.ok (), { w with files })

/-- Takes the name of a file away, if a test of it gives no error. -/
def remove (w : World) (p : Process) (path : Octets) (test : Inode → Option Errno) :
    Answer Unit :=
  match w.resolve p path false with
  | .error e => w.failing e
  | .ok target =>
      match target.place with
      | none => w.failing .noEntry
      | some (.descriptor _) => w.failing .notPermitted
      | some (.inode n) =>
          match w.files.get? n with
          | none => w.failing .noEntry
          | some i =>
              match test i, w.mayChange target.directory with
              | some e, _ => w.failing e
              | none, .error e => w.failing e
              | none, .ok _ =>
                  if target.name = ['.'] || target.name = ['.', '.'] then w.failing .invalid
                  else (.ok (),
                    { w with files := w.files.unbind target.directory target.name w.now })

def unlink (w : World) (p : Process) (path : Octets) : Answer Unit :=
  w.remove p path fun i => if i.kind == .directory then some .isDirectory else none

def removeDirectory (w : World) (p : Process) (path : Octets) : Answer Unit :=
  w.remove p path fun i =>
    match i.node with
    | .directory entries _ => if entries.isEmpty then none else some .notEmpty
    | _ => some .notDirectory

/-- A directory with some number lies in another one, or is it. The first argument bounds the
depth. -/
def isInside (fs : Files) (outer : Nat) : Nat → Nat → Bool
  | 0, _ => false
  | steps + 1, n =>
      n == outer ||
        match (fs.get? n).map Inode.node with
        | some (.directory _ parent) => n != parent && isInside fs outer steps parent
        | _ => false

def rename (w : World) (p : Process) (old new : Octets) : Answer Unit :=
  match w.resolve p old false, w.resolve p new false with
  | .error e, _ => w.failing e
  | _, .error e => w.failing e
  | .ok source, .ok target =>
      match source.place, w.mayChange source.directory, w.mayChange target.directory with
      | none, _, _ => w.failing .noEntry
      | some (.descriptor _), _, _ => w.failing .notPermitted
      | _, .error e, _ => w.failing e
      | _, _, .error e => w.failing e
      | some (.inode n), .ok _, .ok _ =>
          let isDirectory (n : Nat) := ((w.files.get? n).map Inode.kind) == some .directory
          let fault : Option Errno :=
            if isDirectory n && isInside w.files n Files.pathBound target.directory then
              some .invalid
            else match target.place with
              | none => if target.slashed && !isDirectory n then some .notDirectory else none
              | some (.descriptor _) => some .notPermitted
              | some (.inode m) =>
                  if isDirectory m then
                    if !isDirectory n then some .isDirectory
                    else if (w.files.entries m).isEmpty || n == m then none
                    else some .notEmpty
                  else if isDirectory n then some .notDirectory
                  else none
          match fault with
          | some e => w.failing e
          | none =>
              if target.place = some (.inode n) then (.ok (), w)
              else
                let files := w.files.bind target.directory target.name n w.now
                let files := match target.place with
                  | some (.inode m) => files.modify m fun i => { i with links := i.links - 1 }
                  | _ => files
                let files := files.unbind source.directory source.name w.now
                let files := files.modify n fun i =>
                  match i.node with
                  | .directory entries _ =>
                      { i with node := .directory entries target.directory }
                  | _ => i
                (.ok (), { w with files })

def link (w : World) (p : Process) (old new : Octets) : Answer Unit :=
  match w.files.find? p.directory old false, w.resolve p new false with
  | .error e, _ => w.failing e
  | _, .error e => w.failing e
  | .ok (.descriptor _), _ => w.failing .crossDevice
  | .ok (.inode n), .ok target =>
      if ((w.files.get? n).map Inode.kind) == some .directory then w.failing .notPermitted
      else if target.place.isSome then w.failing .alreadyThere
      else match w.mayChange target.directory with
        | .error e => w.failing e
        | .ok _ =>
            (.ok (), { w with files := w.files.bind target.directory target.name n w.now })

def readLink (w : World) (p : Process) (path : Octets) : Except Errno Octets := do
  match ← w.files.find? p.directory path false with
  | .descriptor d => return (← (w.fileOf p d).mapError fun _ => .noEntry).2.path
  | .inode n =>
      match (w.files.get? n).map Inode.node with
      | some (.link target) => return target
      | _ => throw .invalid

/-- Changes a file of the user. -/
def change (w : World) (p : Process) (path : Octets) (f : Inode → Inode) : Answer Unit :=
  match w.files.find? p.directory path true with
  | .error e => w.failing e
  | .ok (.descriptor _) => (.ok (), w)
  | .ok (.inode n) =>
      match w.files.get? n with
      | none => w.failing .noEntry
      | some i =>
          if i.owned then (.ok (), { w with files := w.files.set n (f i) })
          else w.failing .notPermitted

/-- The names in a directory, in the order of their bytes. -/
def list (w : World) (p : Process) (path : Octets) : Except Errno (List Octets) := do
  match ← w.files.find? p.directory path true with
  | .descriptor _ => throw .notDirectory
  | .inode n =>
      match w.files.get? n with
      | none => throw .noEntry
      | some i =>
          match i.node with
          | .directory entries _ =>
              if i.permits 4 then return (entries.map Prod.fst).mergeSort fun a b => !(b < a)
              else throw .accessDenied
          | .descriptors _ =>
              return (p.slots.map fun (d, _) => Text.decimal d).mergeSort fun a b => !(b < a)
          | _ => throw .notDirectory

def changeDirectory (w : World) (p : Process) (path : Octets) : Answer Unit :=
  match w.files.find? p.directory path true with
  | .error e => w.failing e
  | .ok (.descriptor _) => w.failing .notDirectory
  | .ok (.inode n) =>
      match w.files.get? n with
      | none => w.failing .noEntry
      | some i =>
          if i.kind != .directory then w.failing .notDirectory
          else if !i.permits 1 then w.failing .accessDenied
          else (.ok (), w.mapProcess p.number fun p => { p with directory := n })

def access (w : World) (p : Process) (path : Octets) (bits : Nat) : Except Errno Unit := do
  match ← w.files.find? p.directory path true with
  | .descriptor d =>
      let _ ← (w.fileOf p d).mapError fun _ => .noEntry
      return ()
  | .inode n =>
      match w.files.get? n with
      | none => throw .noEntry
      | some i => if i.permits bits then return () else throw .accessDenied

end Enquiry.Host.World
