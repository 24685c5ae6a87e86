import Enquiry.Tool.Lines

/-!
# Names of files

The parts of a path, and the path that a path stands for when all links in it are followed.
-/

namespace Enquiry.Tool

open Host Text

/-- The end of a tool's line. -/
def lineEnd (flags : List Flag) : Octets := if has flags 'z' then ['\x00'] else ['\n']

/-- A text without the slashes at its end. -/
def dropSlashes (path : Octets) : Octets := (path.reverse.dropWhile (· == '/')).reverse

/-- The last part of a path. -/
def lastPart (path : Octets) : Octets :=
  let short := dropSlashes path
  if short.isEmpty then path.take 1
  else (short.reverse.takeWhile (· != '/')).reverse

/-- A name without its ending. -/
def withoutEnding (ending name : Octets) : Octets :=
  if ending.length < name.length ∧ ending.isSuffixOf name then
    name.take (name.length - ending.length)
  else name

def basename (args : List Octets) : Tool Unit := do
  let (flags, names) ← readFlags
    { Known.of "as:z" [("multiple", 'a'), ("suffix", 's'), ("zero", 'z')] with strict := true } args
  let ending := (value? flags 's').getD []
  let show_ (ending name : Octets) : Tool Unit :=
    print (withoutEnding ending (lastPart name) ++ lineEnd flags)
  match names with
  | [] => missingOperand 1
  | names =>
      if has flags 'a' || has flags 's' then
        for name in names do show_ ending name
      else match names with
        | [name, ending] => show_ ending name
        | _ :: _ :: extra :: _ => extraOperand 1 extra
        | names => show_ [] (names.headD [])

/-- A path without its last part. -/
def dirPart (path : Octets) : Octets :=
  let short := dropSlashes path
  if short.isEmpty then if path.isEmpty then ['.'] else ['/']
  else
    let above := (short.reverse.dropWhile (· != '/')).reverse
    if above.isEmpty then ['.']
    else
      let above := dropSlashes above
      if above.isEmpty then ['/'] else above

def dirname (args : List Octets) : Tool Unit := do
  let (flags, names) ← readFlags { Known.of "z" [("zero", 'z')] with strict := true } args
  if names.isEmpty then missingOperand 1
  for name in names do
    print (dirPart name ++ lineEnd flags)

/-! ### Links -/

/-- What has to be there of a path. -/
inductive Presence where
  /-- Everything. -/
  | whole
  /-- Everything but the last part. -/
  | parents
  | nothing
  deriving DecidableEq, Repr

/-- The parts of a path. -/
def partsOf (path : Octets) : List Octets := (List.splitOn '/' path).filter (!·.isEmpty)

def pathOfParts (parts : List Octets) : Octets :=
  if parts.isEmpty then ['/'] else parts.flatMap fun p => '/' :: p

/-- Follows the parts of a path behind those that have been followed. The first argument bounds
the number of steps. -/
def followParts (presence : Presence) (resolves : Bool) :
    Nat → List Octets → List Octets → Tool (Except Errno (List Octets))
  | 0, _, _ => return .error .linkLoop
  | _, above, [] => return .ok above
  | n + 1, above, part :: rest => do
      if part = ['.'] then followParts presence resolves n above rest
      else if part = ['.', '.'] then followParts presence resolves n above.dropLast rest
      else
        let here := above ++ [part]
        match ← Program.call (.status (pathOfParts here) false) with
        | .ok status =>
            let link := status.kind == .link && resolves
            let target ← if link then Program.call (.readLink (pathOfParts here)) else
              pure (.error .invalid)
            match target with
            | .ok target =>
                let start := if target.head? = some '/' then [] else above
                followParts presence resolves n start (partsOf target ++ rest)
            | .error _ =>
                if !rest.isEmpty && status.kind != .directory && presence != .nothing then
                  return .error .notDirectory
                followParts presence resolves n here rest
        | .error e =>
            match presence with
            | .nothing => followParts presence resolves n here rest
            | .parents => if rest.isEmpty then return .ok here else return .error e
            | .whole => return .error e

/-- The path without links that a path stands for. -/
def canonical (presence : Presence) (resolves : Bool) (path : Octets) :
    Tool (Except Errno Octets) := do
  if path.isEmpty then return .error .noEntry
  let start ← if path.head? = some '/' then pure [] else do
    match ← Program.call .currentDirectory with
    | .ok directory => pure (partsOf directory)
    | .error _ => pure []
  let found ← followParts presence resolves 4096 start (partsOf path)
  match found with
  | .ok parts => return .ok (pathOfParts parts)
  | .error e => return .error e

def presenceOf (flags : List Flag) (usual : Presence) : Presence :=
  match (flags.filter fun (c, _) => "efm".toList.contains c).getLast? with
  | some ('e', _) => .whole
  | some ('m', _) => .nothing
  | some _ => .parents
  | none => usual

def readlinkWords : List (String × Char) :=
  [("canonicalize", 'f'), ("canonicalize-existing", 'e'), ("canonicalize-missing", 'm'),
    ("no-newline", 'n'), ("quiet", 'q'), ("silent", 's'), ("verbose", 'v'), ("zero", 'z')]

def readlink (args : List Octets) : Tool Unit := do
  let (flags, names) ← readFlags (.of "efmnqsvz" readlinkWords) args
  if names.isEmpty then missingOperand 1
  let follows := "efm".toList.any (has flags)
  let bare := has flags 'n' && names.length == 1
  for name in names do
    let found ← if follows then canonical (presenceOf flags .parents) true name
      else Program.call (.readLink name)
    match found with
    | .ok path => print (path ++ if bare then [] else lineEnd flags)
    | .error e =>
        if has flags 'v' then warn (plainRefusal name e)
        note 1

def realpathWords : List (String × Char) :=
  [("canonicalize-existing", 'e'), ("canonicalize-missing", 'm'), ("strip", 's'),
    ("no-symlinks", 's'), ("quiet", 'q'), ("zero", 'z'), ("logical", 'L'), ("physical", 'P'),
    ("relative-to=", 'T'), ("relative-base=", 'B')]

/-- A path as it is seen from a directory. -/
def relativeTo (directory path : Octets) : Octets :=
  let from_ := partsOf directory
  let to_ := partsOf path
  let shared := ((from_.zip to_).takeWhile fun (a, b) => a == b).length
  let up := (from_.drop shared).map fun _ => ['.', '.']
  let parts := up ++ to_.drop shared
  if parts.isEmpty then ['.'] else List.intercalate ['/'] parts

def realpath (args : List Octets) : Tool Unit := do
  let (flags, names) ← readFlags (.of "emsqzLP" realpathWords) args
  if names.isEmpty then missingOperand 1
  let presence := presenceOf flags .parents
  let resolves := !has flags 's'
  let base ← match value? flags 'T' with
    | none => pure none
    | some directory => do
        match ← canonical presence resolves directory with
        | .ok path => pure (some path)
        | .error e => fail 1 (plainRefusal directory e)
  for name in names do
    match ← canonical presence resolves name with
    | .ok path =>
        let path := match base with
          | some directory => relativeTo directory path
          | none => path
        print (path ++ lineEnd flags)
    | .error e =>
        if !has flags 'q' then warn (plainRefusal name e)
        note 1

def pwd (args : List Octets) : Tool Unit := do
  let (flags, names) ← readFlags (.of "LP" [("logical", 'L'), ("physical", 'P')]) args
  if !names.isEmpty then warn "ignoring non-option arguments".toList
  let real ← match ← Program.call .currentDirectory with
    | .ok path => pure path
    | .error e => fail 1 (wording e)
  let logical ← inherited? "PWD"
  match has flags 'L', logical with
  | true, some path =>
      match ← canonical .whole true path with
      | .ok found => printLine (if found = real then path else real)
      | .error _ => printLine real
  | _, _ => printLine real

end Enquiry.Tool
