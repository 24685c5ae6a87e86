import Enquiry.Text.Ranges
import Enquiry.Tool.Names

/-!
# Files and directories

Tools that make, move, copy and remove files and directories, and change what is known of them.
-/

namespace Enquiry.Tool

open Host Text

/-! ### Paths -/

/-- A name in a directory. -/
def inDirectory (directory name : Octets) : Octets :=
  if directory.getLast? = some '/' then directory ++ name else directory ++ '/' :: name

/-- The status of the file at a path, if there is one. -/
def statusAt? (path : Octets) (follow : Bool) : Tool (Option FileStatus) := do
  match ← Program.call (.status path follow) with
  | .ok status => return some status
  | .error _ => return none

def isDirectoryAt (path : Octets) : Tool Bool := do
  return (← statusAt? path true).any fun s => s.kind == .directory

/-- Complains that something cannot be done with a path. -/
def complain (what : String) (path : Octets) (e : Errno) : Tool Unit :=
  warnAnd 1 (what.toList ++ ' ' :: shellQuoted path ++ ": ".toList ++ wording e)

/-- Complains about a call that has failed. -/
def orComplain (what : String) (path : Octets) (result : Except Errno Unit) : Tool Bool := do
  match result with
  | .ok _ => return true
  | .error e =>
      complain what path e
      return false

/-! ### Modes -/

/-- The bits of a letter for each of the owner, the group and all others. -/
def permissionBits (c : Char) : Nat :=
  if c = 'r' then 0o444 else if c = 'w' then 0o222 else if c = 'x' then 0o111
  else if c = 's' then 0o6000 else if c = 't' then 0o1000 else 0

/-- The bits that belong to a letter for some users. -/
def userBits (c : Char) : Nat :=
  if c = 'u' then 0o4700 else if c = 'g' then 0o2070 else if c = 'o' then 0o1007 else 0o7777

/-- The bits of some letters behind a sign, for some users. -/
def lettersBits (who : Nat) (isDirectory : Bool) (mode : Nat) (letters : Octets) : Nat :=
  (letters.map fun c =>
    if c = 'X' then if isDirectory || mode &&& 0o111 != 0 then 0o111 &&& who else 0
    else if c = 'u' then (mode / 64 % 8) * 0o111 &&& who
    else if c = 'g' then (mode / 8 % 8) * 0o111 &&& who
    else if c = 'o' then (mode % 8) * 0o111 &&& who
    else permissionBits c &&& who).foldl (· ||| ·) 0

/-- Bits without some others. -/
def withoutBits (bits others : Nat) : Nat := bits - (bits &&& others)

/-- A mode changed by the actions behind some users. The first argument bounds their number. -/
def changedBy (who : Nat) (isDirectory : Bool) : Nat → Nat → Octets → Option Nat
  | 0, _, _ => none
  | _, mode, [] => some mode
  | n + 1, mode, sign :: rest =>
      let letters := rest.takeWhile fun c => "rwxXstugo".toList.contains c
      let bits := lettersBits who isDirectory mode letters
      let after := rest.drop letters.length
      if sign = '+' then changedBy who isDirectory n (mode ||| bits) after
      else if sign = '-' then changedBy who isDirectory n (withoutBits mode bits) after
      else if sign = '=' then
        changedBy who isDirectory n (withoutBits mode (who &&& 0o7777) ||| bits) after
      else none

/-- A mode changed as a text says, where new files do not get some bits. -/
def changedMode? (mask : Nat) (isDirectory : Bool) (mode : Nat) (text : Octets) : Option Nat :=
  if !text.isEmpty && text.all (isDigitOf 8) then
    let n := digitsValue 8 text
    if n ≤ 0o7777 then some n else none
  else
    (List.splitOn ',' text).foldlM
      (fun mode part =>
        let users := part.takeWhile fun c => "ugoa".toList.contains c
        let actions := part.drop users.length
        let who := if users.isEmpty then withoutBits 0o7777 mask
          else (users.map userBits).foldl (· ||| ·) 0
        if actions.isEmpty then none
        else changedBy who isDirectory (actions.length + 1) mode actions)
      mode

/-- The bits that new files do not get. -/
def currentMask : Tool Nat := do
  let mask ← Program.call (.mask 0)
  let _ ← Program.call (.mask mask)
  return mask

/-! ### Directories -/

/-- Makes a directory and those above it. -/
def makeParents (mode : Nat) (path : Octets) : Tool Unit := do
  let slashed := path.head? == some '/'
  let parts := partsOf path
  for i in List.range parts.length do
    let front := List.intercalate ['/'] (parts.take (i + 1))
    let here := if slashed then '/' :: front else front
    let isLast := i + 1 == parts.length
    match ← Program.call (.makeDirectory here (if isLast then mode else 0o777)) with
    | .ok _ => pure ()
    | .error e =>
        if !(← isDirectoryAt here) then
          let e := if e = .alreadyThere && !isLast then .notDirectory else e
          complain "cannot create directory" (if isLast then path else here) e
          return ()

def mkdir (args : List Octets) : Tool Unit := do
  let (flags, names) ← readFlags
    (.of "pm:v" [("parents", 'p'), ("mode", 'm'), ("verbose", 'v')]) args
  if names.isEmpty then missingOperand 1
  let mode ← match value? flags 'm' with
    | none => pure none
    | some text =>
        match changedMode? 0 true 0o777 text with
        | some mode => pure (some mode)
        | none => fail 1 ("invalid mode ".toList ++ quoted text)
  for name in names do
    if has flags 'p' then makeParents 0o777 name
    else
      let made ← Program.call (.makeDirectory name 0o777)
      if ← orComplain "cannot create directory" name made then
        if has flags 'v' then printLine ("mkdir: created directory ".toList ++ shellQuoted name)
    match mode with
    | some mode =>
        let _ ← Program.call (.changeMode name mode)
    | none => pure ()

def rmdir (args : List Octets) : Tool Unit := do
  let (flags, names) ← readFlags (.of "pv" [("parents", 'p'), ("verbose", 'v'),
    ("ignore-fail-on-non-empty", 'i')]) args
  if names.isEmpty then missingOperand 1
  for name in names do
    match ← Program.call (.removeDirectory name) with
    | .error e => if !(has flags 'i' && e == .notEmpty) then complain "failed to remove" name e
    | .ok _ =>
        if has flags 'p' then
          let parts := partsOf name
          let above := ((List.range parts.length).drop 1).reverse.map fun n =>
            (if name.head? = some '/' then ['/'] else []) ++ List.intercalate ['/'] (parts.take n)
          for directory in above do
            let removed ← Program.call (.removeDirectory directory)
            let _ ← orComplain "failed to remove directory" directory removed

/-! ### Removing -/

/-- Removes a file, or a directory with all that is in it. The first argument bounds the depth. -/
def removeAll (flags : List Flag) : Nat → Octets → Tool Unit
  | 0, _ => return ()
  | n + 1, path => do
      let deep := has flags 'r' || has flags 'R'
      match ← Program.call (.status path false) with
      | .error e =>
          if !(has flags 'f' && (e == .noEntry || e == .notDirectory)) then
            complain "cannot remove" path e
      | .ok status =>
          if status.kind ≠ .directory then
            let removed ← Program.call (.unlink path)
            let done ← orComplain "cannot remove" path removed
            if done && has flags 'v' then printLine ("removed ".toList ++ shellQuoted path)
          else if !deep then
            if has flags 'd' then
              let _ ← orComplain "cannot remove" path (← Program.call (.removeDirectory path))
            else complain "cannot remove" path .isDirectory
          else
            match ← Program.call (.list path) with
            | .error e => complain "cannot remove" path e
            | .ok names =>
                for name in names do removeAll flags n (inDirectory path name)
                let removed ← Program.call (.removeDirectory path)
                let done ← orComplain "cannot remove" path removed
                if done && has flags 'v' then
                  printLine ("removed directory ".toList ++ shellQuoted path)

def rm (args : List Octets) : Tool Unit := do
  let (flags, names) ← readFlags (.of "frRdviI"
    [("force", 'f'), ("recursive", 'r'), ("dir", 'd'), ("verbose", 'v')]) args
  if names.isEmpty && !has flags 'f' then missingOperand 1
  for name in names do
    let last := lastPart name
    if (has flags 'r' || has flags 'R') && (last == ['.'] || last == ['.', '.']) then
      warnAnd 1 ("refusing to remove '.' or '..' directory: skipping ".toList ++ shellQuoted name)
    else removeAll flags 200 name

def unlink (args : List Octets) : Tool Unit := do
  let (_, names) ← readFlags (.of "" []) args
  match names with
  | [] => missingOperand 1
  | [name] =>
      match ← Program.call (.unlink name) with
      | .ok _ => return ()
      | .error e => fail 1 ("cannot unlink ".toList ++ shellQuoted name ++ ": ".toList ++ wording e)
  | _ :: extra :: _ => extraOperand 1 extra

/-! ### Several files and one place -/

/-- The files that are meant and the place where they go: a directory, or the name of one file. -/
structure Transfer where
  files : List Octets
  target : Octets
  intoDirectory : Bool

/-- Reads what goes where. -/
def readTransfer (flags : List Flag) (names : List Octets) : Tool Transfer := do
  match value? flags 't' with
  | some directory =>
      if names.isEmpty then misused 1 "missing file operand".toList
      return ⟨names, directory, true⟩
  | none =>
      match names.reverse with
      | [] => misused 1 "missing file operand".toList
      | [name] => misused 1 ("missing destination file operand after ".toList ++ shellQuoted name)
      | target :: files =>
          let into ← if has flags 'T' then pure false else isDirectoryAt target
          if !into && 1 < files.length then
            match ← Program.call (.status target true) with
            | .ok _ => fail 1 ("target ".toList ++ shellQuoted target ++ ": Not a directory".toList)
            | .error e => fail 1 ("target ".toList ++ shellQuoted target ++ ": ".toList ++ wording e)
          return ⟨files.reverse, target, into⟩

/-- The place of one of the files. -/
def Transfer.place (t : Transfer) (file : Octets) : Octets :=
  if t.intoDirectory then inDirectory t.target (lastPart file) else t.target

def transferWords : List (String × Char) :=
  [("force", 'f'), ("no-clobber", 'n'), ("verbose", 'v'), ("target-directory", 't'),
    ("no-target-directory", 'T'), ("recursive", 'r'), ("archive", 'a'), ("symbolic", 's'),
    ("no-dereference", 'P'), ("update==", 'u'), ("parents", '1'), ("preserve==", 'p'),
    ("relative", '2'), ("interactive", 'i')]

/-- Both paths lead to the same file. -/
def areSame (a b : Octets) (follow : Bool) : Tool Bool := do
  match ← statusAt? a follow, ← statusAt? b follow with
  | some s, some t => return s.identity == t.identity
  | _, _ => return false

/-- An arrow between two names. -/
def arrow (a b : Octets) : Octets := shellQuoted a ++ " -> ".toList ++ shellQuoted b

/-- Copies the contents of an open file to another one. The first argument bounds the number of
blocks. -/
def copyContent (source target : Nat) : Nat → Tool (Option Errno)
  | 0 => return none
  | n + 1 => do
      match ← Program.call (.read source blockSize false) with
      | .error e => return some e
      | .ok [] => return none
      | .ok data =>
          match ← Program.writeAll target data with
          | some e => return some e
          | none => copyContent source target n

/-- Copies one file. -/
def copyFile (flags : List Flag) (source target : Octets) (status : FileStatus) : Tool Unit := do
  match ← Program.call (.opening source .reading 0) with
  | .error e =>
      warnAnd 1 ("cannot open ".toList ++ shellQuoted source ++ " for reading: ".toList ++ wording e)
  | .ok input =>
      let opened ← do
        match ← Program.call (.opening target .writing (status.mode &&& 0o777)) with
        | .ok d => pure (Except.ok d)
        | .error e =>
            if has flags 'f' && e == .accessDenied then
              let _ ← Program.call (.unlink target)
              Program.call (.opening target .writing (status.mode &&& 0o777))
            else pure (.error e)
      match opened with
      | .error e =>
          complain "cannot create regular file" target e
      | .ok output =>
          match ← copyContent input output Program.maxReads with
          | some e =>
              warnAnd 1 ("error copying ".toList ++ shellQuoted source ++ " to ".toList ++
                shellQuoted target ++ ": ".toList ++ wording e)
          | none => pure ()
          let _ ← Program.call (.close output)
          if has flags 'p' || has flags 'a' then
            let _ ← Program.call (.changeMode target status.mode)
            let _ ← Program.call (.touch target status.modified)
      let _ ← Program.call (.close input)

/-- Copies a file, or a directory with all that is in it. The first argument bounds the depth. -/
def copyTree (flags : List Flag) (top : Bool) : Nat → Octets → Octets → Tool Unit
  | 0, _, _ => return ()
  | n + 1, source, target => do
      let deep := "rRa".toList.any (has flags)
      let keeps := "Pda".toList.any (has flags) || (deep && !top) || (deep && !has flags 'L')
      match ← Program.call (.status source (!keeps)) with
      | .error e => complain "cannot stat" source e
      | .ok status =>
          if status.kind = .directory then
            if !deep then
              warnAnd 1 ("-r not specified; omitting directory ".toList ++ shellQuoted source)
            else
              let isThere ← isDirectoryAt target
              let made ← if isThere then pure (Except.ok ())
                else Program.call (.makeDirectory target (status.mode ||| 0o700))
              if has flags 'v' && !isThere then printLine (arrow source target)
              if ← orComplain "cannot create directory" target made then
                match ← Program.call (.list source) with
                | .error e => complain "cannot access" source e
                | .ok names =>
                    for name in names do
                      copyTree flags false n (inDirectory source name) (inDirectory target name)
          else if ← areSame source target true then
            warnAnd 1 (shellQuoted source ++ " and ".toList ++ shellQuoted target ++
              " are the same file".toList)
          else
            let isThere := (← statusAt? target false).isSome
            if isThere && has flags 'n' then return ()
            if (← isDirectoryAt target) then
              warnAnd 1 ("cannot overwrite directory ".toList ++ shellQuoted target ++
                " with non-directory".toList)
              return ()
            if has flags 'v' then printLine (arrow source target)
            match status.kind with
            | .link =>
                match ← Program.call (.readLink source) with
                | .error e => complain "cannot read symbolic link" source e
                | .ok path =>
                    if isThere then let _ ← Program.call (.unlink target)
                    let made ← Program.call (.symlink path target)
                    let _ ← orComplain "cannot create symbolic link" target made
            | _ => copyFile flags source target status

def cp (args : List Octets) : Tool Unit := do
  let (flags, names) ← readFlags (.of "rRaPdLpfnvt:Tiu" transferWords) args
  let t ← readTransfer flags names
  for file in t.files do
    copyTree flags true 200 file (t.place file)

def mv (args : List Octets) : Tool Unit := do
  let (flags, names) ← readFlags (.of "fnvt:Tiu" transferWords) args
  let t ← readTransfer flags names
  for file in t.files do
    let target := t.place file
    match ← Program.call (.status file false) with
    | .error e => complain "cannot stat" file e
    | .ok status =>
        let there ← statusAt? target false
        if there.isSome && has flags 'n' then pure ()
        else if there.any fun s => s.identity == status.identity then
          warnAnd 1 (shellQuoted file ++ " and ".toList ++ shellQuoted target ++
            " are the same file".toList)
        else match ← Program.call (.rename file target) with
          | .ok _ => if has flags 'v' then
              printLine ("renamed ".toList ++ arrow file target)
          | .error .isDirectory =>
              warnAnd 1 ("cannot overwrite directory ".toList ++ shellQuoted target ++
                " with non-directory".toList)
          | .error .notDirectory =>
              warnAnd 1 ("cannot overwrite non-directory ".toList ++ shellQuoted target ++
                " with directory ".toList ++ shellQuoted file)
          | .error .invalid =>
              warnAnd 1 ("cannot move ".toList ++ shellQuoted file ++
                " to a subdirectory of itself, ".toList ++ shellQuoted target)
          | .error e =>
              warnAnd 1 ("cannot move ".toList ++ shellQuoted file ++ " to ".toList ++
                shellQuoted target ++ ": ".toList ++ wording e)

def ln (args : List Octets) : Tool Unit := do
  let (flags, names) ← readFlags (.of "sfnvt:TrLPi" transferWords) args
  let soft := has flags 's'
  let names := match names with
    | [name] => if has flags 't' then names else [name, ['.']]
    | names => names
  let t ← readTransfer flags names
  let t ← if has flags 'n' && t.intoDirectory then do
      let isLink := (← statusAt? t.target false).any fun s => s.kind == .link
      pure { t with intoDirectory := !isLink }
    else pure t
  for file in t.files do
    let target := t.place file
    if !soft && (← isDirectoryAt file) then
      warnAnd 1 (shown file ++ ": hard link not allowed for directory".toList)
    else if !soft && (← statusAt? file false).isNone then
      complain "failed to access" file .noEntry
    else
      if has flags 'f' then
        if !(← isDirectoryAt target) || (has flags 'n') then
          let _ ← Program.call (.unlink target)
      let made ← if soft then Program.call (.symlink file target)
        else Program.call (.link file target)
      match made with
      | .ok _ => if has flags 'v' then
          printLine (if soft then arrow target file
            else shellQuoted target ++ " => ".toList ++ shellQuoted file)
      | .error e =>
          if soft then complain "failed to create symbolic link" target e
          else if e = .alreadyThere then complain "failed to create hard link" target e
          else warnAnd 1 ("failed to create hard link ".toList ++ shellQuoted target ++
            " => ".toList ++ shellQuoted file ++ ": ".toList ++ wording e)

/-! ### What is known of files -/

def chmod (args : List Octets) : Tool Unit := do
  let isMode (arg : Octets) : Bool := match arg with
    | '-' :: rest => !rest.isEmpty && rest.all fun c => "rwxXst".toList.contains c
    | _ => false
  let given := args.find? isMode
  let args := match given with
    | some mode => args.erase mode
    | none => args
  let (flags, names) ← readFlags (.of "Rvcf"
    [("recursive", 'R'), ("verbose", 'v'), ("changes", 'c'), ("silent", 'f'), ("quiet", 'f'),
      ("reference=", 'r')]) args
  let names := given.toList ++ names
  match names with
  | [] => missingOperand 1
  | [mode] => misused 1 ("missing operand after ".toList ++ quoted mode)
  | text :: files =>
      let mask ← currentMask
      if (changedMode? mask false 0 text).isNone then
        misused 1 ("invalid mode: ".toList ++ quoted text)
      let rec change : Nat → Octets → Tool Unit
        | 0, _ => return ()
        | n + 1, file => do
            match ← Program.call (.status file true) with
            | .error e => if !has flags 'f' then complain "cannot access" file e else note 1
            | .ok status =>
                let isDirectory := status.kind == .directory
                let mode := (changedMode? mask isDirectory status.mode text).getD status.mode
                match ← Program.call (.changeMode file mode) with
                | .error e => complain "changing permissions of" file e
                | .ok _ => pure ()
                if has flags 'R' && isDirectory then
                  match ← Program.call (.list file) with
                  | .error e => complain "cannot read directory" file e
                  | .ok names => for name in names do change n (inDirectory file name)
      for file in files do change 200 file

def touch (args : List Octets) : Tool Unit := do
  let (flags, names) ← readFlags (.of "acd:fhmr:t:"
    [("no-create", 'c'), ("date", 'd'), ("reference", 'r'), ("time=", 'x')]) args
  if names.isEmpty then misused 1 "missing file operand".toList
  let time ← match value? flags 'r' with
    | none => Program.call .now
    | some name => do
        match ← Program.call (.status name true) with
        | .ok status => pure status.modified
        | .error e =>
            fail 1 ("failed to get attributes of ".toList ++ shellQuoted name ++ ": ".toList ++
              wording e)
  let time := match value? flags 'd' with
    | some ('@' :: digits) => ((number? digits).map (· * 1000000000)).getD time
    | _ => time
  for name in names do
    let isThere := (← statusAt? name true).isSome
    if !isThere && !has flags 'c' then
      match ← Program.call (.opening name .appending 0o666) with
      | .ok d =>
          let _ ← Program.call (.close d)
      | .error e => complain "cannot touch" name e
    if isThere || has flags 'r' || has flags 'd' then
      match ← Program.call (.touch name time) with
      | .ok _ => pure ()
      | .error e => if isThere then complain "cannot touch" name e

/-! ### Sizes and names -/

def truncate (args : List Octets) : Tool Unit := do
  let (flags, names) ← readFlags (.of "cos:r:"
    [("no-create", 'c'), ("size", 's'), ("reference", 'r')]) args
  let size ← match value? flags 's' with
    | some size => pure size
    | none => misused 1 "you must specify either '--size' or '--reference'".toList
  if names.isEmpty then misused 1 "missing file operand".toList
  let (sign, digits) := match size with
    | '+' :: rest => (some '+', rest)
    | '-' :: rest => (some '-', rest)
    | rest => (none, rest)
  let factors := [("", 1), ("K", 1024), ("KB", 1000), ("M", 1048576), ("MB", 1000000)]
  let number := digits.takeWhile isAsciiDigit
  let n ← match number? number, factors.lookup (textOf (digits.drop number.length)) with
    | some n, some f => pure (n * f)
    | _, _ => fail 1 ("Invalid number: ".toList ++ quoted size)
  for name in names do
    let before := ((← statusAt? name true).map FileStatus.size).getD 0
    let isThere := (← statusAt? name true).isSome
    if isThere || !has flags 'c' then
      match ← Program.call (.opening name ⟨false, true, true, false, false, false⟩ 0o666) with
      | .error e =>
          warnAnd 1 ("cannot open ".toList ++ shellQuoted name ++ " for writing: ".toList ++ wording e)
      | .ok d =>
          let size := if sign = some '+' then before + n else if sign = some '-' then before - n else n
          let _ ← Program.call (.truncate d size)
          let _ ← Program.call (.close d)

/-- The letters that stand for a number in the name of a temporary file. -/
def nameLetters (count seed : Nat) : Octets :=
  let letters := "abcdefghijklmnopqrstuvwxyzABCDEFGHIJKLMNOPQRSTUVWXYZ0123456789".toList
  ((List.range count).foldl
    (fun (found, seed) _ =>
      let seed := (seed * 6364136223846793005 + 1442695040888963407) % 18446744073709551616
      ((letters[seed / 8589934592 % letters.length]?).getD 'x' :: found, seed))
    (([] : Octets), seed)).1

/-- Makes a file or a directory under a new name. The first argument bounds the number of
trials. -/
def makeTemporary (flags : List Flag) (front back : Octets) (count : Nat) :
    Nat → Nat → Tool (Except Errno Octets)
  | 0, _ => return .error .alreadyThere
  | n + 1, seed => do
      let path := front ++ nameLetters count seed ++ back
      if has flags 'u' then return .ok path
      let made ← if has flags 'd' then Program.call (.makeDirectory path 0o700)
        else do
          match ← Program.call (.opening path .making 0o600) with
          | .ok d => Program.call (.close d)
          | .error e => pure (.error e)
      match made with
      | .ok _ => return .ok path
      | .error .alreadyThere => makeTemporary flags front back count n (seed + 1)
      | .error e => return .error e

def mktemp (args : List Octets) : Tool Unit := do
  let (flags, names) ← readFlags (.of "dquV tp:"
    [("directory", 'd'), ("dry-run", 'u'), ("quiet", 'q'), ("suffix=", 's'), ("tmpdir==", 'p')]) args
  let template ← match names with
    | [] => pure "tmp.XXXXXXXXXX".toList
    | [t] => pure t
    | _ => misused 1 "too many templates".toList
  let inside := names.isEmpty || has flags 'p' || has flags 't'
  let given := (value? flags 'p').bind fun d => if d.isEmpty then none else some d
  let usual := ((← inherited? "TMPDIR").bind fun d => if d.isEmpty then none else some d).getD
    "/tmp".toList
  let path := if inside then inDirectory (given.getD usual) template else template
  let back := (path.reverse.takeWhile (· != 'X')).reverse
  let front := path.take (path.length - back.length)
  let count := (front.reverse.takeWhile (· == 'X')).length
  let back := back ++ (value? flags 's').getD []
  if count < 3 then fail 1 ("too few X's in template ".toList ++ quoted template)
  let (number, _) ← Program.call .identity
  let now ← Program.call .now
  match ← makeTemporary flags (front.take (front.length - count)) back count 100
      (number * 1000003 + now) with
  | .ok path => printLine path
  | .error e =>
      let what := if has flags 'd' then "directory" else "file"
      if has flags 'q' then throw 1
      fail 1 ("failed to create ".toList ++ what.toList ++ " via template ".toList ++
        quoted path ++ ": ".toList ++ wording e)

end Enquiry.Tool
