import Enquiry.Assignment
import Enquiry.Host.Accounts
import Enquiry.Host.Call
import Enquiry.Host.Octets
import Enquiry.Text.Search

/-!
# Files

The files of a machine are numbered; directories give them names. `Files.resolve` finds what a
path leads to, through directories and symbolic links, and checks at every step that the user may
pass. The files of the user are told apart from those of the system, which only their last three
permission bits open to the user.
-/

namespace Enquiry.Host

open Text

/-! ### Contents of files and pipes

A row of bytes to which one can add cheaply: what has been added last is kept apart, the latest
first.
-/

structure Blob where
  front : Octets
  /-- What comes after it, the latest first. -/
  back : List Octets
  size : Nat
  deriving DecidableEq, Repr

namespace Blob

def empty : Blob := ⟨[], [], 0⟩

def ofOctets (o : Octets) : Blob := ⟨o, [], o.length⟩

def append (b : Blob) (o : Octets) : Blob :=
  if o.isEmpty then b else ⟨b.front, o :: b.back, b.size + o.length⟩

/-- All the bytes in their order. -/
def toOctets (b : Blob) : Octets :=
  if b.back.isEmpty then b.front else b.front ++ b.back.reverse.flatten

/-- The same bytes, all in front. -/
def compact (b : Blob) : Blob := if b.back.isEmpty then b else ⟨b.toOctets, [], b.size⟩

/-- The first `n` bytes, with zeros if there are fewer. -/
def resize (b : Blob) (n : Nat) : Blob :=
  if n = b.size then b
  else if n = 0 then empty
  else ofOctets (b.toOctets.take n ++ List.replicate (n - b.size) '\x00')

/-- Puts bytes in the place of those from an offset on. -/
def overwrite (b : Blob) (offset : Nat) (o : Octets) : Blob :=
  if offset = b.size then b.append o
  else
    let all := (b.resize (max b.size offset)).toOctets
    ofOctets (all.take offset ++ o ++ all.drop (offset + o.length))

end Blob

/-! ### Nodes -/

/-- A file that is no file. -/
inductive Device where
  | null | zero | full | random
  deriving DecidableEq, Repr

inductive Node where
  | file (content : Blob)
  /-- The names in a directory, and the number of the one that it stands in. -/
  | directory (entries : List (Octets × Nat)) (parent : Nat)
  | link (target : Octets)
  /-- A program of the machine itself. -/
  | program (name : String)
  | device (d : Device)
  /-- The directory of the open descriptors of the process that looks into it. -/
  | descriptors (parent : Nat)
  deriving DecidableEq, Repr

structure Inode where
  node : Node
  mode : Nat
  /-- It belongs to the user. -/
  owned : Bool
  /-- When it was changed, in nanoseconds. -/
  modified : Nat
  /-- How many names lead to it. -/
  links : Nat
  deriving DecidableEq, Repr

structure Files where
  inodes : List (Nat × Inode)
  /-- The number of the next file. -/
  fresh : Nat

/-- What a path leads to. -/
inductive Place where
  | inode (number : Nat)
  /-- A descriptor of the process itself. -/
  | descriptor (number : Nat)
  deriving DecidableEq, Repr

/-- The end of a path: a name in a directory, and what it leads to if it is there. -/
structure Target where
  directory : Nat
  name : Octets
  place : Option Place
  /-- The path ends in a slash. -/
  slashed : Bool

namespace Inode

/-- The user may use the file: the bits 4, 2 and 1 stand for reading, writing and running. -/
def permits (i : Inode) (bits : Nat) : Bool :=
  let granted := if i.owned then i.mode / 64 % 8 else i.mode % 8
  granted &&& bits == bits

def kind (i : Inode) : FileKind :=
  match i.node with
  | .file _ => .regular
  | .directory _ _ => .directory
  | .link _ => .link
  | .program _ => .regular
  | .device _ => .device
  | .descriptors _ => .directory

/-- The size of a program of the machine. -/
def programSize : Nat := 40000

def size (i : Inode) : Nat :=
  match i.node with
  | .file content => content.size
  | .directory _ _ => 4096
  | .link target => target.length
  | .program _ => programSize
  | .device _ => 0
  | .descriptors _ => 0

def status (i : Inode) (number : Nat) : FileStatus :=
  ⟨i.kind, number, i.mode, i.size, i.modified, i.links, i.owned⟩

end Inode

namespace Files

/-- The number of the directory that all absolute paths begin at. -/
def root : Nat := 1

def get? (fs : Files) (n : Nat) : Option Inode := fs.inodes.lookup n

def set (fs : Files) (n : Nat) (i : Inode) : Files := { fs with inodes := assign n i fs.inodes }

def modify (fs : Files) (n : Nat) (f : Inode → Inode) : Files :=
  match fs.get? n with
  | some i => fs.set n (f i)
  | none => fs

/-- Adds a file without a name. -/
def add (fs : Files) (i : Inode) : Files × Nat :=
  (⟨(fs.fresh, i) :: fs.inodes, fs.fresh + 1⟩, fs.fresh)

/-- The names in a directory. -/
def entries (fs : Files) (directory : Nat) : List (Octets × Nat) :=
  match (fs.get? directory).map Inode.node with
  | some (.directory entries _) => entries
  | _ => []

/-- Changes the names in a directory. -/
def mapEntries (fs : Files) (directory : Nat) (now : Nat)
    (f : List (Octets × Nat) → List (Octets × Nat)) : Files :=
  fs.modify directory fun i =>
    match i.node with
    | .directory entries parent =>
        { i with node := .directory (f entries) parent, modified := now }
    | _ => i

/-- Gives a file a name. -/
def bind (fs : Files) (directory : Nat) (name : Octets) (n : Nat) (now : Nat) : Files :=
  (fs.mapEntries directory now fun entries =>
    (name, n) :: entries.filter fun (other, _) => other != name).modify n fun i =>
      { i with links := i.links + 1 }

/-- Takes a name away. -/
def unbind (fs : Files) (directory : Nat) (name : Octets) (now : Nat) : Files :=
  let fs := match (fs.entries directory).lookup name with
    | some n => fs.modify n fun i => { i with links := i.links - 1 }
    | none => fs
  fs.mapEntries directory now fun entries => entries.filter fun (other, _) => other != name

/-- Adds a file under a name. -/
def create (fs : Files) (directory : Nat) (name : Octets) (node : Node) (mode : Nat)
    (owned : Bool) (now : Nat) : Files × Nat :=
  let (fs, n) := fs.add ⟨node, mode, owned, now, 0⟩
  (fs.bind directory name n now, n)

/-! ### Paths -/

/-- The longest name in a directory, and the length that no path reaches. -/
def maxName : Nat := 255

def pathBound : Nat := 4096

/-- How many symbolic links one path may go through. -/
def maxLinks : Nat := 40

/-- The names between the slashes of a path. -/
def components (path : Octets) : List Octets := (List.splitOn '/' path).filter (!·.isEmpty)

/-- Where a path begins: at the root or in the present directory. -/
def origin (directory : Nat) (path : Octets) : Nat :=
  if path.head? = some '/' then root else directory

/-- Follows the names of a path from a directory on. With `follow`, a symbolic link at its end is
gone through as well. The first argument bounds the number of names, and the second one that of
the links. -/
def walk (fs : Files) (follow : Bool) :
    Nat → Nat → Nat → List Octets → Except Errno Target
  | 0, _, _, _ => .error .linkLoop
  | _ + 1, _, directory, [] => .ok ⟨directory, ['.'], some (.inode directory), false⟩
  | steps + 1, links, directory, name :: rest =>
      match fs.get? directory with
      | none => .error .noEntry
      | some i =>
          let found : Except Errno (Option (Nat ⊕ Nat)) :=
            if maxName < name.length then .error .nameTooLong
            else if name = ['.'] then .ok (some (.inl directory))
            else match i.node with
              | .directory entries parent =>
                  if name = ['.', '.'] then .ok (some (.inl parent))
                  else .ok ((entries.lookup name).map .inl)
              | .descriptors parent =>
                  if name = ['.', '.'] then .ok (some (.inl parent))
                  else .ok ((number? name).map .inr)
              | _ => .error .notDirectory
          let isDirectory := i.kind == .directory
          if !isDirectory then .error .notDirectory
          else if !i.permits 1 then .error .accessDenied
          else match found with
            | .error e => .error e
            | .ok none =>
                if rest.isEmpty then .ok ⟨directory, name, none, false⟩ else .error .noEntry
            | .ok (some (.inr descriptor)) =>
                if rest.isEmpty then .ok ⟨directory, name, some (.descriptor descriptor), false⟩
                else .error .notDirectory
            | .ok (some (.inl n)) =>
                match (fs.get? n).map Inode.node, links with
                | some (.link _), 0 => .error .linkLoop
                | some (.link target), links + 1 =>
                    if rest.isEmpty && !follow then
                      .ok ⟨directory, name, some (.inode n), false⟩
                    else
                      walk fs follow steps links (origin directory target)
                        (components target ++ rest)
                | _, links =>
                    if rest.isEmpty then .ok ⟨directory, name, some (.inode n), false⟩
                    else walk fs follow steps links n rest

/-- What a path leads to, from a directory on. -/
def resolve (fs : Files) (directory : Nat) (path : Octets) (follow : Bool) :
    Except Errno Target :=
  if path.isEmpty then .error .noEntry
  else if pathBound ≤ path.length then .error .nameTooLong
  else
    let slashed := path.getLast? == some '/'
    match walk fs (follow || slashed) (2 * pathBound) maxLinks (origin directory path)
      (components path) with
    | .error e => .error e
    | .ok target =>
        match slashed, target.place with
        | true, some (.inode n) =>
            if ((fs.get? n).map Inode.kind) == some .directory then .ok { target with slashed }
            else .error .notDirectory
        | true, some (.descriptor _) => .error .notDirectory
        | _, _ => .ok { target with slashed }

/-- The number of the file that a path leads to. -/
def find? (fs : Files) (directory : Nat) (path : Octets) (follow : Bool) :
    Except Errno Place :=
  match fs.resolve directory path follow with
  | .error e => .error e
  | .ok target =>
      match target.place with
      | some place => .ok place
      | none => .error .noEntry

/-- The path of a directory. The first argument bounds the number of names. -/
def pathOf (fs : Files) : Nat → Nat → Octets → Octets
  | 0, _, path => path
  | steps + 1, n, path =>
      if n = root then if path.isEmpty then ['/'] else path
      else match (fs.get? n).map Inode.node with
        | some (.directory _ parent) =>
            match (fs.entries parent).find? fun (_, m) => m == n with
            | some (name, _) => pathOf fs steps parent ('/' :: name ++ path)
            | none => path
        | _ => path

/-! ### Setting up -/

/-- The permissions of a directory of the system. -/
def directoryMode : Nat := 0o755

/-- A machine without files. -/
def empty : Files := ⟨[(root, ⟨.directory [] root, directoryMode, false, 0, 2⟩)], root + 1⟩

/-- The directory of some names from a directory on; those that are missing are made. -/
def makeAll (owned : Bool) : Files → Nat → List Octets → Files × Nat
  | fs, directory, [] => (fs, directory)
  | fs, directory, name :: rest =>
      match (fs.entries directory).lookup name with
      | some n => makeAll owned fs n rest
      | none =>
          let (fs, n) := fs.create directory name (.directory [] directory) directoryMode owned 0
          makeAll owned fs n rest

/-- Puts a file at an absolute path, with the directories above it. -/
def install (fs : Files) (path : String) (node : Node) (mode : Nat) (owned : Bool) : Files :=
  match (components (octets path)).reverse with
  | [] => fs
  | name :: above =>
      let (fs, directory) := makeAll owned fs root above.reverse
      let node := match node with
        | .directory entries _ => .directory entries directory
        | .descriptors _ => .descriptors directory
        | node => node
      (fs.create directory name node mode owned 0).1

/-- The files of a machine with some programs. -/
def system (programs : List String) : Files :=
  let directory := Node.directory [] root
  let fixed : List (String × Node × Nat) :=
    [("/usr/bin", directory, 0o755), ("/usr/sbin", directory, 0o755),
      ("/usr/local/bin", directory, 0o755), ("/usr/local/sbin", directory, 0o755),
      ("/usr/lib", directory, 0o755), ("/bin", .link "usr/bin".toList, 0o777),
      ("/sbin", .link "usr/sbin".toList, 0o777), ("/lib", .link "usr/lib".toList, 0o777),
      ("/etc/passwd", .file (.ofOctets (Account.all.flatMap Account.line)), 0o644), ("/root", directory, 0o700),
      ("/home", directory, 0o755), ("/var", directory, 0o755), ("/opt", directory, 0o755),
      ("/tmp", directory, 0o1777), ("/var/tmp", directory, 0o1777),
      ("/dev/null", .device .null, 0o666), ("/dev/zero", .device .zero, 0o666),
      ("/dev/full", .device .full, 0o666), ("/dev/random", .device .random, 0o666),
      ("/dev/urandom", .device .random, 0o666), ("/proc/self/fd", .descriptors root, 0o555),
      ("/dev/fd", .link "/proc/self/fd".toList, 0o777),
      ("/dev/stdin", .link "/proc/self/fd/0".toList, 0o777),
      ("/dev/stdout", .link "/proc/self/fd/1".toList, 0o777),
      ("/dev/stderr", .link "/proc/self/fd/2".toList, 0o777)]
  let fs := fixed.foldl (fun fs (path, node, mode) => fs.install path node mode false) empty
  programs.foldl (fun fs name => fs.install ("/usr/bin/" ++ name) (.program name) 0o755 false) fs

end Files

end Enquiry.Host
