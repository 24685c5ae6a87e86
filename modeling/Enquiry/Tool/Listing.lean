import Enquiry.Shell.Pattern
import Enquiry.Tool.Launching
import Enquiry.Tool.Moment
import Enquiry.Tool.Order
import Enquiry.Tool.Places

/-!
# Listing and finding files

`ls` lists directories, `stat` shows what is known of files, and `find` walks through directories
and does something with the files that pass its tests.
-/

namespace Enquiry.Tool

open Host Text

/-! ### What is shown of files -/

def kindLetter : FileKind → Char
  | .regular => '-'
  | .directory => 'd'
  | .link => 'l'
  | .device => 'c'
  | .fifo => 'p'
  | .pipe => 'p'

/-- The permissions in letters. -/
def modeLetters (s : FileStatus) : Octets :=
  let bit (n : Nat) : Bool := s.mode / n % 2 == 1
  let run (x special : Nat) (lower upper : Char) : Char :=
    if bit special then if bit x then lower else upper else if bit x then 'x' else '-'
  [kindLetter s.kind, if bit 256 then 'r' else '-', if bit 128 then 'w' else '-',
    run 64 2048 's' 'S', if bit 32 then 'r' else '-', if bit 16 then 'w' else '-',
    run 8 1024 's' 'S', if bit 4 then 'r' else '-', if bit 2 then 'w' else '-', run 1 512 't' 'T']

def ownerOf (s : FileStatus) : Octets := if s.owned then "oracle".toList else "root".toList

/-- The number of blocks of half a kibibyte. -/
def blocksOf (s : FileStatus) : Nat :=
  match s.kind with
  | .regular => (s.size + 4095) / 4096 * 8
  | .directory => 8
  | _ => 0

/-! ### ls -/

/-- A file with its name and status. -/
structure Entry where
  name : Octets
  path : Octets
  status : FileStatus

/-- The entries in the order that is wanted. -/
def inOrder (flags : List Flag) (entries : List Entry) : List Entry :=
  let byName (a b : Entry) : Ordering := compareChars a.name b.name
  let order (a b : Entry) : Ordering :=
    if has flags 't' then (compare b.status.modified a.status.modified).then (byName a b)
    else if has flags 'S' then (compare b.status.size a.status.size).then (byName a b)
    else if has flags 'v' then
      (compareVersions (a.name.length + b.name.length + 2) a.name b.name).then (byName a b)
    else byName a b
  let sorted := if has flags 'U' || has flags 'f' then entries
    else entries.mergeSort fun a b => order a b != .gt
  if has flags 'r' then sorted.reverse else sorted

/-- The sign behind the name of a file. -/
def indicator (flags : List Flag) (s : FileStatus) : Octets :=
  if has flags 'F' then
    match s.kind with
    | .directory => ['/']
    | .link => if has flags 'l' then [] else ['@']
    | .fifo => ['|']
    | .regular => if s.mode &&& 0o111 != 0 then ['*'] else []
    | _ => []
  else if has flags 'p' ∧ s.kind = .directory then ['/'] else []

/-- Columns of the same width, of which those in the list stand at the left. -/
def aligned (left : List Nat) (rows : List (List Octets)) : List Octets :=
  let count := (rows.map List.length).foldl max 0
  let widths := (List.range count).map fun i =>
    (rows.map fun row => ((row[i]?).getD []).length).foldl max 0
  rows.map fun row => List.intercalate [' '] <| row.zipIdx.map fun (cell, i) =>
    let gap := List.replicate ((widths[i]?).getD 0 - cell.length) ' '
    if i + 1 = count then cell else if left.contains i then cell ++ gap else gap ++ cell

/-- The size in a form that is easily read. -/
def humanSize (n : Nat) : Octets :=
  let rec go : Nat → Nat → List Char → Octets
    | 0, n, _ => decimal n
    | _, n, [] => decimal n
    | k + 1, n, unit :: units =>
        -- `n` counts units of the size in front, times 1024
        if n < 1024 * 10 then
          let tenths := (n * 10 + 1023) / 1024
          if tenths < 100 then decimal (tenths / 10) ++ '.' :: decimal (tenths % 10) ++ [unit]
          else decimal ((n + 1023) / 1024) ++ [unit]
        else if n < 1024 * 1024 then decimal ((n + 1023) / 1024) ++ [unit]
        else go k ((n + 1023) / 1024) units
  if n < 1024 then decimal n else go 8 n "KMGTPE".toList

/-- The row of a file in the long form. -/
def longRow (flags : List Flag) (now : Moment) (e : Entry) : Tool (List Octets) := do
  let m := Moment.ofNanoseconds e.status.modified
  let recent := m.seconds ≤ now.seconds ∧ now.seconds - m.seconds < 15778476
  let date := m.write (if recent then "%b %e %H:%M" else "%b %e  %Y").toList
  let target ← if e.status.kind = .link then do
      match ← Program.call (.readLink e.path) with
      | .ok target => pure (" -> ".toList ++ target)
      | .error _ => pure []
    else pure []
  let owner := if has flags 'n' then (if e.status.owned then "1000".toList else ['0'])
    else ownerOf e.status
  let size := if has flags 'h' then humanSize e.status.size else decimal e.status.size
  let front := if has flags 'i' then [decimal e.status.identity] else []
  let owners := (if has flags 'g' then [] else [owner]) ++ if has flags 'o' || has flags 'G' then [] else [owner]
  return front ++ [modeLetters e.status, decimal e.status.links] ++ owners ++
    [size, date, e.name ++ indicator flags e.status ++ target]

/-- Shows some files. -/
def showEntries (flags : List Flag) (inside : Bool) (entries : List Entry) : Tool Unit := do
  let entries := inOrder flags entries
  if "lgon".toList.any (has flags) then
    let now := Moment.ofNanoseconds (← Program.call .now)
    if inside then
      let total := (entries.map fun e => blocksOf e.status).foldl (· + ·) 0
      printLine ("total ".toList ++ decimal (total / 2))
    let rows ← entries.mapM (longRow flags now)
    for line in aligned [0, 2, 3] rows do printLine line
  else
    let cell (e : Entry) : Octets :=
      (if has flags 'i' then decimal e.status.identity ++ [' '] else []) ++
        (if has flags 's' then decimal (blocksOf e.status / 2) ++ [' '] else []) ++
        (if has flags 'Q' then '"' :: e.name ++ ['"'] else e.name) ++ indicator flags e.status
    if has flags 'm' then
      if !entries.isEmpty then printLine (List.intercalate ", ".toList (entries.map cell))
    else for e in entries do printLine (cell e)

/-- Lists a directory, and with `R` those within it. The first argument bounds the depth. -/
def listDirectory (flags : List Flag) (headed first : Bool) : Nat → Octets → Tool Unit
  | 0, _ => return ()
  | n + 1, path => do
      match ← Program.call (.list path) with
      | .error e =>
          warnAnd 2 ("cannot open directory ".toList ++ shellQuoted path ++ ": ".toList ++ wording e)
      | .ok names =>
          let all := has flags 'a' || has flags 'f'
          let dots := if all then [['.'], ['.', '.']] else []
          let shownNames := dots ++ names.filter fun name =>
            all || has flags 'A' || name.head? != some '.'
          let entries ← shownNames.filterMapM fun name => do
            let here := inDirectory path name
            return (← statusAt? here (has flags 'L')).map (Entry.mk name here)
          if headed then print ((if first then [] else ['\n']) ++ path ++ ":\n".toList)
          showEntries flags true entries
          if has flags 'R' then
            for e in inOrder flags entries do
              if e.status.kind = .directory ∧ e.name ≠ ['.'] ∧ e.name ≠ ['.', '.'] then
                listDirectory flags true false n e.path

def lsWords : List (String × Char) :=
  [("all", 'a'), ("almost-all", 'A'), ("directory", 'd'), ("classify==", 'F'), ("recursive", 'R'),
    ("reverse", 'r'), ("human-readable", 'h'), ("inode", 'i'), ("size", 's'), ("color==", '0'),
    ("dereference", 'L'), ("numeric-uid-gid", 'n'), ("quote-name", 'Q'), ("no-group", 'G'),
    ("sort=", '2'), ("time-style=", '3'), ("group-directories-first", '4'), ("escape", 'b')]

def ls (args : List Octets) : Tool Unit := do
  let k := { Known.of "aAbcCdfFgGhHiklLmnNopqQrRsStTuUvw:xXZ1" lsWords with status := 2 }
  let (flags, names) ← readFlags k args
  let flags := match value? flags '2' with
    | some ['t', 'i', 'm', 'e'] => ('t', []) :: flags
    | some ['s', 'i', 'z', 'e'] => ('S', []) :: flags
    | some ['n', 'o', 'n', 'e'] => ('U', []) :: flags
    | some ['v', 'e', 'r', 's', 'i', 'o', 'n'] => ('v', []) :: flags
    | _ => flags
  let given := if names.isEmpty then [['.']] else names
  let follow := !has flags 'd' && !has flags 'l'
  let found ← given.filterMapM fun name => do
    match ← Program.call (.status name follow) with
    | .ok status => return some (Entry.mk name name status)
    | .error _ =>
        match ← Program.call (.status name false) with
        | .ok status => return some (Entry.mk name name status)
        | .error e =>
            warnAnd 2 ("cannot access ".toList ++ shellQuoted name ++ ": ".toList ++ wording e)
            return none
  let (directories, files) := found.partition fun e =>
    e.status.kind == .directory && !has flags 'd'
  if !files.isEmpty then showEntries flags false files
  let headed := 1 < given.length || has flags 'R'
  let mut first := files.isEmpty
  for e in inOrder flags directories do
    listDirectory flags headed first 100 e.path
    first := false

/-! ### stat -/

/-- The name of the kind of a file. -/
def kindName (s : FileStatus) : String :=
  match s.kind with
  | .regular => if s.size = 0 then "regular empty file" else "regular file"
  | .directory => "directory"
  | .link => "symbolic link"
  | .device => "character special file"
  | .fifo => "fifo"
  | .pipe => "fifo"

/-- What stands for a letter in a format. -/
def statField (name : Octets) (s : FileStatus) (c : Char) : Octets :=
  let time := Moment.ofNanoseconds s.modified
  let typeBits := match s.kind with
    | .regular => 0o100000
    | .directory => 0o040000
    | .link => 0o120000
    | .device => 0o020000
    | .fifo => 0o010000
    | .pipe => 0o010000
  match c with
  | 'a' => Nat.toDigits 8 s.mode
  | 'A' => modeLetters s
  | 'b' => decimal (blocksOf s)
  | 'B' => "512".toList
  | 'f' => Nat.toDigits 16 (typeBits + s.mode)
  | 'F' => (kindName s).toList
  | 'g' => if s.owned then "1000".toList else ['0']
  | 'G' => ownerOf s
  | 'u' => if s.owned then "1000".toList else ['0']
  | 'U' => ownerOf s
  | 'h' => decimal s.links
  | 'i' => decimal s.identity
  | 'n' => name
  | 'N' => shellQuoted name
  | 'o' => "4096".toList
  | 's' => decimal s.size
  | 'X' => decimal (s.modified / 1000000000)
  | 'Y' => decimal (s.modified / 1000000000)
  | 'Z' => decimal (s.modified / 1000000000)
  | 'x' => time.write "%Y-%m-%d %H:%M:%S.%N %z".toList
  | 'y' => time.write "%Y-%m-%d %H:%M:%S.%N %z".toList
  | 'z' => time.write "%Y-%m-%d %H:%M:%S.%N %z".toList
  | 'W' => ['0']
  | 'w' => ['-']
  | '%' => ['%']
  | _ => ['?']

/-- Fills a format; with `escapes`, a backslash stands for a control character. -/
def statLine (escapes : Bool) (name : Octets) (s : FileStatus) : Octets → Octets
  | '%' :: c :: rest => statField name s c ++ statLine escapes name s rest
  | '\\' :: 'n' :: rest =>
      if escapes then '\n' :: statLine escapes name s rest
      else '\\' :: 'n' :: statLine escapes name s rest
  | '\\' :: 't' :: rest =>
      if escapes then '\t' :: statLine escapes name s rest
      else '\\' :: 't' :: statLine escapes name s rest
  | c :: rest => c :: statLine escapes name s rest
  | [] => []

def stat (args : List Octets) : Tool Unit := do
  let (flags, names) ← readFlags (.of "Lfc:t"
    [("dereference", 'L'), ("format", 'c'), ("printf=", 'p'), ("terse", 't')]) args
  if names.isEmpty then missingOperand 1
  for name in names do
    match ← Program.call (.status name (has flags 'L')) with
    | .error e => warnAnd 1 ("cannot statx ".toList ++ shellQuoted name ++ ": ".toList ++ wording e)
    | .ok s =>
        match value? flags 'c', value? flags 'p' with
        | some format, _ => printLine (statLine false name s format)
        | none, some format => print (statLine true name s format)
        | none, none =>
            print (statLine true name s (("  File: %n\\n  Size: %s\\tBlocks: %b  IO Block: %o  %F\\n" ++
              "Access: (0%a/%A)  Uid: ( %u/ %U)   Gid: ( %g/ %G)\\nModify: %y\\n").toList))

/-! ### find -/

/-- A test of a file, or something that is done with it. -/
inductive Test where
  | always (value : Bool)
  | name (p : Shell.Pattern) (folds whole : Bool)
  | kind (letters : List Char)
  | empty
  | size (compare : Ordering) (count unit : Nat)
  | minutes (compare : Ordering) (count unit : Nat)
  | newer (time : Nat)
  | mode (bits : Nat) (exactly any : Bool)
  | access (bits : Nat)
  | print (ending : Char)
  | format (text : Octets)
  | delete
  | prune
  | quit
  | run (command : List Octets)
  | gather (command : List Octets)
  | negated (t : Test)
  | both (a b : Test)
  | either (a b : Test)
  | second (a b : Test)

/-- The test does something. -/
def Test.acts : Test → Bool
  | .print _ => true
  | .format _ => true
  | .delete => true
  | .run _ => true
  | .gather _ => true
  | .quit => true
  | .negated t => t.acts
  | .both a b => a.acts || b.acts
  | .either a b => a.acts || b.acts
  | .second a b => a.acts || b.acts
  | _ => false

/-- The options of the whole search. -/
structure Search where
  least : Nat
  most : Option Nat
  /-- What is in a directory comes before the directory itself. -/
  depth : Bool
  follow : Bool

/-- A pattern without marked characters. -/
def plainPattern (text : Octets) : Shell.Pattern := Shell.Pattern.ofMarked true (text.map (·, false))

/-- A number with a sign that says more or less. -/
def signedCount? (text : Octets) : Option (Ordering × Octets) :=
  match text with
  | '+' :: rest => some (.gt, rest)
  | '-' :: rest => some (.lt, rest)
  | rest => if rest.isEmpty then none else some (.eq, rest)

/-- Reads a single test; `inner` reads what stands in brackets. -/
def readTest (inner : List Octets → Search → Tool (Test × List Octets × Search))
    (args : List Octets) (s : Search) : Tool (Test × List Octets × Search) := do
  let missing {α : Type} (name : Octets) : Tool α :=
    fail 1 ("missing argument to \x60".toList ++ name ++ ['\''])
  match args with
  | [] => return (.always true, [], s)
  | arg :: rest =>
      let name := String.ofList arg
      let value : Tool (Octets × List Octets) := do
        match rest with
        | v :: rest => return (v, rest)
        | [] => missing arg
      let number (text : Octets) : Tool Nat := do
        match number? text with
        | some n => return n
        | none =>
            fail 1 ("Expected a positive decimal integer argument to ".toList ++ arg ++
              ", but got ".toList ++ quoted text)
      let counted (text : Octets) : Tool (Ordering × Nat) := do
        match (signedCount? text).bind fun (o, digits) => (number? digits).map (o, ·) with
        | some found => return found
        | none => fail 1 ("invalid argument \x60".toList ++ text ++ "' to \x60".toList ++ arg ++ ['\''])
      match name with
      | "(" =>
          let (t, rest, s) ← inner rest s
          match rest with
          | [')'] :: rest => return (t, rest, s)
          | _ => fail 1 "invalid expression; I was expecting to find a ')' somewhere but did not see one.".toList
      | "-true" => return (.always true, rest, s)
      | "-false" => return (.always false, rest, s)
      | "-name" => let (v, rest) ← value; return (.name (plainPattern v) false false, rest, s)
      | "-iname" =>
          let (v, rest) ← value
          return (.name (plainPattern (v.map Char.toLower)) true false, rest, s)
      | "-path" => let (v, rest) ← value; return (.name (plainPattern v) false true, rest, s)
      | "-wholename" => let (v, rest) ← value; return (.name (plainPattern v) false true, rest, s)
      | "-type" => let (v, rest) ← value; return (.kind (v.filter (· != ',')), rest, s)
      | "-empty" => return (.empty, rest, s)
      | "-size" =>
          let (v, rest) ← value
          match signedCount? v with
          | none => missing arg
          | some (o, text) =>
              let digits := text.takeWhile isAsciiDigit
              let n ← number digits
              let unit := match text.drop digits.length with
                | ['c'] => 1
                | ['w'] => 2
                | ['k'] => 1024
                | ['M'] => 1048576
                | ['G'] => 1073741824
                | _ => 512
              return (.size o n unit, rest, s)
      | "-mmin" => let (v, rest) ← value; let (o, n) ← counted v; return (.minutes o n 60, rest, s)
      | "-mtime" =>
          let (v, rest) ← value
          let (o, n) ← counted v
          return (.minutes o n 86400, rest, s)
      | "-newer" =>
          let (v, rest) ← value
          match ← Program.call (.status v true) with
          | .ok status => return (.newer status.modified, rest, s)
          | .error e => fail 1 (quoted v ++ ": ".toList ++ wording e)
      | "-perm" =>
          let (v, rest) ← value
          let (sign, text) := match v with
            | '-' :: more => (some '-', more)
            | '/' :: more => (some '/', more)
            | more => (none, more)
          match changedMode? 0 false 0 text with
          | some bits => return (.mode bits (sign == none) (sign == some '/'), rest, s)
          | none => fail 1 ("invalid mode ".toList ++ quoted v)
      | "-readable" => return (.access 4, rest, s)
      | "-writable" => return (.access 2, rest, s)
      | "-executable" => return (.access 1, rest, s)
      | "-print" => return (.print '\n', rest, s)
      | "-print0" => return (.print '\x00', rest, s)
      | "-printf" => let (v, rest) ← value; return (.format v, rest, s)
      | "-delete" => return (.delete, rest, { s with depth := true })
      | "-prune" => return (.prune, rest, s)
      | "-quit" => return (.quit, rest, s)
      | "-depth" => return (.always true, rest, { s with depth := true })
      | "-follow" => return (.always true, rest, { s with follow := true })
      | "-xdev" => return (.always true, rest, s)
      | "-mindepth" =>
          let (v, rest) ← value
          return (.always true, rest, { s with least := ← number v })
      | "-maxdepth" =>
          let (v, rest) ← value
          return (.always true, rest, { s with most := some (← number v) })
      | _ =>
          if name = "-exec" ∨ name = "-execdir" ∨ name = "-ok" then
            let command := rest.takeWhile fun a => a != [';'] && a != ['+']
            match rest.drop command.length with
            | [';'] :: rest => return (.run command, rest, s)
            | ['+'] :: rest => return (.gather command.dropLast, rest, s)
            | _ => missing arg
          else if arg.head? = some '-' then
            fail 1 ("unknown predicate \x60".toList ++ arg ++ ['\''])
          else
            fail 1 ("paths must precede expression: \x60".toList ++ arg ++ ['\''])

/-- Reads tests that are all wanted. The first argument bounds their number. -/
def readTests (inner : List Octets → Search → Tool (Test × List Octets × Search)) :
    Nat → List Octets → Search → Tool (Test × List Octets × Search)
  | 0, args, s => return (.always true, args, s)
  | n + 1, args, s => do
      let rec one : Nat → List Octets → Search → Tool (Test × List Octets × Search)
        | 0, args, s => return (.always true, args, s)
        | k + 1, args, s => do
            match args with
            | arg :: rest =>
                if arg = ['!'] ∨ arg = "-not".toList then
                  let (t, rest, s) ← one k rest s
                  return (.negated t, rest, s)
                else readTest inner args s
            | [] => readTest inner args s
      let (first, rest, s) ← one args.length args s
      match rest with
      | [] => return (first, [], s)
      | arg :: more =>
          if arg = "-a".toList ∨ arg = "-and".toList then
            let (others, rest, s) ← readTests inner n more s
            return (.both first others, rest, s)
          else if arg = "-o".toList ∨ arg = "-or".toList ∨ arg = [')'] ∨ arg = [','] then
            return (first, rest, s)
          else
            let (others, rest, s) ← readTests inner n rest s
            return (.both first others, rest, s)

/-- Reads tests of which one is enough. The first argument bounds the depth of brackets. -/
def readChoice : Nat → List Octets → Search → Tool (Test × List Octets × Search)
  | 0, args, s => return (.always true, args, s)
  | n + 1, args, s => do
      let (first, rest, s) ← readTests (readChoice n) (args.length + 1) args s
      match rest with
      | arg :: more =>
          if arg = "-o".toList ∨ arg = "-or".toList then
            let (others, rest, s) ← readChoice n more s
            return (.either first others, rest, s)
          else if arg = [','] then
            let (others, rest, s) ← readChoice n more s
            return (.second first others, rest, s)
          else return (first, rest, s)
      | [] => return (first, [], s)

/-- What a test has led to: whether it holds, whether what is in a directory is left out, whether
the search is over, and the files that are gathered for each command. -/
structure Finding where
  holds : Bool
  prunes : Bool
  quits : Bool
  gathered : List (List Octets × Octets)

/-- A count of units compared with a number. -/
def compares (o : Ordering) (n count : Nat) : Bool := compare n count == o

/-- What is written of a file as a format says. -/
def findFormat (path : Octets) (depth : Nat) (root : Octets) (s : FileStatus) : Octets → Octets
  | '%' :: c :: rest =>
      let field := match c with
        | 'p' => path
        | 'f' => lastPart path
        | 'h' => dirPart path
        | 'P' => (path.drop root.length).dropWhile (· == '/')
        | 'd' => decimal depth
        | 's' => decimal s.size
        | 'm' => Nat.toDigits 8 s.mode
        | 'M' => modeLetters s
        | 'y' => [if s.kind = .regular then 'f' else kindLetter s.kind]
        | 'u' => ownerOf s
        | 'g' => ownerOf s
        | '%' => ['%']
        | c => ['%', c]
      field ++ findFormat path depth root s rest
  | '\\' :: 'n' :: rest => '\n' :: findFormat path depth root s rest
  | '\\' :: 't' :: rest => '\t' :: findFormat path depth root s rest
  | '\\' :: '0' :: rest => '\x00' :: findFormat path depth root s rest
  | '\\' :: '\\' :: rest => '\\' :: findFormat path depth root s rest
  | c :: rest => c :: findFormat path depth root s rest
  | [] => []

/-- Runs a command. The answer is its status. -/
def runForStatus (args : List Octets) : Tool Nat := do
  let child ← start do
    let e ← become (← get).vars args
    warn (shellQuoted (args.headD []) ++ ": ".toList ++ wording e)
    throw 1
  match ← awaitChild child none maxInterruptions with
  | some (.exited n) => return n
  | _ => return 1

/-- Tests a file. -/
def Test.check (now : Nat) (root path : Octets) (depth : Nat) (s : FileStatus) :
    Test → Finding → Tool Finding
  | .always b, f => return { f with holds := b }
  | .name p folds whole, f =>
      let text := if whole then path else lastPart path
      return { f with holds := p.holds (if folds then text.map Char.toLower else text) }
  | .kind letters, f =>
      let letter := if s.kind = .regular then 'f' else kindLetter s.kind
      return { f with holds := letters.contains letter }
  | .empty, f => do
      match s.kind with
      | .regular => return { f with holds := s.size == 0 }
      | .directory =>
          match ← Program.call (.list path) with
          | .ok names => return { f with holds := names.isEmpty }
          | .error _ => return { f with holds := false }
      | _ => return { f with holds := false }
  | .size o n unit, f => return { f with holds := compares o ((s.size + unit - 1) / unit) n }
  | .minutes o n unit, f =>
      return { f with holds := compares o ((now - s.modified) / (unit * 1000000000)) n }
  | .newer time, f => return { f with holds := time < s.modified }
  | .mode bits exactly any, f =>
      let found := s.mode &&& bits
      let holds := if exactly then s.mode == bits
        else if any then bits == 0 || found != 0 else found == bits
      return { f with holds }
  | .access bits, f => do
      match ← Program.call (.access path bits) with
      | .ok _ => return { f with holds := true }
      | .error _ => return { f with holds := false }
  | .print ending, f => do
      Tool.print (path ++ [ending])
      return { f with holds := true }
  | .format text, f => do
      Tool.print (findFormat path depth root s text)
      return { f with holds := true }
  | .delete, f => do
      let removed ← if s.kind = .directory then Program.call (.removeDirectory path)
        else Program.call (.unlink path)
      match removed with
      | .ok _ => return { f with holds := true }
      | .error e =>
          warnAnd 1 ("cannot delete ".toList ++ quoted path ++ ": ".toList ++ wording e)
          return { f with holds := false }
  | .prune, f => return { f with holds := true, prunes := true }
  | .quit, f => return { f with holds := true, quits := true }
  | .run command, f => do
      let mark := "\x7b\x7d".toList
      let status ← runForStatus
        (command.map fun arg => substituted mark path (arg.length + 1) arg)
      return { f with holds := status == 0 }
  | .gather command, f => return { f with holds := true, gathered := (command, path) :: f.gathered }
  | .negated t, f => do
      let f ← t.check now root path depth s f
      return { f with holds := !f.holds }
  | .both a b, f => do
      let f ← a.check now root path depth s f
      if f.holds then b.check now root path depth s f else return f
  | .either a b, f => do
      let f ← a.check now root path depth s f
      if f.holds then return f else b.check now root path depth s f
  | .second a b, f => do
      let f ← a.check now root path depth s f
      b.check now root path depth s f

/-- Walks through a directory. The first argument bounds the depth. -/
def walk (now : Nat) (search : Search) (test : Test) (root : Octets) :
    Nat → Nat → Octets → Finding → Tool Finding
  | 0, _, _, f => return f
  | n + 1, depth, path, f => do
      if f.quits then return f
      match ← Program.call (.status path search.follow) with
      | .error e =>
          warnAnd 1 (quoted path ++ ": ".toList ++ wording e)
          return f
      | .ok s =>
          let here (f : Finding) : Tool Finding := do
            if f.quits || depth < search.least then return f
            test.check now root path depth s f
          let below (f : Finding) : Tool Finding := do
            if s.kind ≠ .directory ∨ search.most.any (· ≤ depth) ∨ f.quits then return f
            match ← Program.call (.list path) with
            | .error e =>
                warnAnd 1 (quoted path ++ ": ".toList ++ wording e)
                return f
            | .ok names =>
                let mut f := f
                for name in names do
                  f ← walk now search test root n (depth + 1) (inDirectory path name) f
                return f
          if search.depth then here (← below { f with prunes := false })
          else
            let f ← here { f with prunes := false }
            if f.prunes then return { f with prunes := false } else below f

def find (args : List Octets) : Tool Unit := do
  let args := args.dropWhile fun a => a == ['-', 'H'] || a == ['-', 'P']
  let (follow, args) := match args with
    | ['-', 'L'] :: rest => (true, rest)
    | args => (false, args)
  let roots := args.takeWhile fun a => a.head? != some '-' && a != ['('] && a != ['!']
  let (test, rest, search) ←
    readChoice (args.length + 1) (args.drop roots.length) ⟨0, none, false, follow⟩
  match rest with
  | [] => pure ()
  | arg :: _ =>
      if arg = [')'] then fail 1 "invalid expression; you have too many ')'".toList
      else fail 1 ("unexpected argument ".toList ++ quoted arg)
  let test := if test.acts then test else .both test (.print '\n')
  let now ← Program.call .now
  let mut f : Finding := ⟨true, false, false, []⟩
  for root in (if roots.isEmpty then [['.']] else roots) do
    f ← walk now search test root 200 0 root f
  let commands := (f.gathered.reverse.map Prod.fst).eraseDups
  for command in commands do
    let files := (f.gathered.reverse.filter fun (c, _) => c == command).map Prod.snd
    let status ← runForStatus (command ++ files)
    if status ≠ 0 then note 1

end Enquiry.Tool
