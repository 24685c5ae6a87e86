import Enquiry.Tool.Inlet
import Enquiry.Tool.Launching
import Enquiry.Tool.Sed.Reader

/-!
# The stream editor at work

The editor takes one line of its inputs after another, does the commands that are meant for it, and
writes what has become of it.
-/

namespace Enquiry.Tool.Sed

open Host Text

/-! ### State -/

/-- A place that lines are written to. -/
structure Outlet where
  name : Octets
  descriptor : Nat
  /-- The last line has been written without its end. -/
  unended : Bool

/-- What is written before the next line is taken. -/
inductive Addition where
  | text (t : Octets)
  | file (name : Octets)

/-- What the editor is told by its options. -/
structure Manner where
  /-- Lines are written only when a command says so. -/
  quiet : Bool
  /-- Each input has lines of its own. -/
  separate : Bool
  /-- Files are changed; a name for the file as it was may be given. -/
  inPlace : Option Octets
  /-- What is written is handed on at once. -/
  prompt : Bool
  /-- What ends a line. -/
  mark : Char
  width : Nat
  commands : Array Command
  /-- What stands in front of a complaint about an expression. -/
  place : Octets

structure Editor where
  manner : Manner
  /-- The inputs that have not been opened, and the one that is open. -/
  names : List Octets
  name : Octets
  inlet : Option Inlet
  /-- The line that is edited, and another one that is kept. -/
  line : Line
  held : Line
  number : Nat
  /-- Something has been put in since the line was taken. -/
  changed : Bool
  /-- The ranges that are open, by the numbers of their commands. -/
  ranges : List (Nat × Stop)
  /-- The latest one first. -/
  additions : List Addition
  latest : Option Regex
  /-- The first outlet is the one for all lines. -/
  outlets : Array Outlet
  /-- What has been written for the file that is changed, the latest first. -/
  copy : List Octets
  /-- Files from which single lines are taken. -/
  inlets : List (Octets × Option Inlet)

/-- Something that the editor does. -/
abbrev Editing := StateT Editor Tool

def tool {α : Type} (x : Tool α) : Editing α := StateT.lift x

/-! ### Writing -/

/-- The file is being changed. -/
def isChanging : Editing Bool := do
  let e ← get
  return e.manner.inPlace.isSome && e.inlet.isSome

/-- Writes to an outlet. -/
def emit (k : Nat) (text : Octets) : Editing Unit := do
  if text.isEmpty then return ()
  let e ← get
  if k = 0 ∧ (← isChanging) then set { e with copy := text :: e.copy }
  else match e.outlets[k]? with
    | none => return ()
    | some outlet =>
        if outlet.descriptor = 1 then
          tool (print text)
          if e.manner.prompt then tool flush
        else if outlet.descriptor = 2 then tool (tell text)
        else
          let _ ← tool (Program.writeAll outlet.descriptor text)

def setUnended (k : Nat) (unended : Bool) : Editing Unit :=
  modify fun e => { e with outlets := e.outlets.modify k fun o => { o with unended } }

/-- Ends the last line of an outlet. -/
def endLine (k : Nat) : Editing Unit := do
  let e ← get
  if (e.outlets[k]?).any Outlet.unended then
    setUnended k false
    emit k [e.manner.mark]

/-- Writes some text on lines of its own. -/
def emitText (k : Nat) (text : Octets) : Editing Unit := do
  endLine k
  emit k text

/-- Writes a line. -/
def emitLine (k : Nat) (l : Line) : Editing Unit := do
  endLine k
  let mark := (← get).manner.mark
  emit k (if l.ended then l.text ++ [mark] else l.text)
  if !l.ended then setUnended k true

/-- The number of the outlet of a file. -/
def outletOf (name : Octets) : Editing Nat := do
  return ((← get).outlets.findIdx? fun o => o.name == name).getD 0

/-- Writes what has been added behind a line. -/
def emitAdditions : Editing Unit := do
  let e ← get
  if e.additions.isEmpty then return ()
  set { e with additions := [] }
  for a in e.additions.reverse do
    match a with
    | .text t => emitText 0 t
    | .file name =>
        if name = "/dev/stdin".toList then
          match ← tool (Program.readAll 0) with
          | .ok data => emitText 0 data
          | .error _ => pure ()
        else match ← tool (Program.readPath name) with
          | .ok data => emitText 0 data
          | .error _ => pure ()

/-! ### Reading -/

/-- An input cannot be read. -/
def unreadable (name : Octets) : Trouble := fun e =>
  fail 4 ("read error on ".toList ++ name ++ ": ".toList ++ wording e)

/-- A file that has been changed takes the place of what it was. -/
def putBack : Editing Unit := do
  let e ← get
  match e.manner.inPlace, e.inlet with
  | some suffix, some _ =>
      set { e with copy := [] }
      setUnended 0 false
      let name := e.name
      if !suffix.isEmpty then
        let backup := if suffix.contains '*' then
            suffix.flatMap fun c => if c = '*' then name else [c]
          else name ++ suffix
        let _ ← tool (Program.call (.rename name backup))
      let mode := match ← tool (Program.call (.status (if suffix.isEmpty then name else []) true)) with
        | .ok s => s.mode
        | .error _ => 0o644
      if suffix.isEmpty then
        let _ ← tool (Program.call (.unlink name))
      match ← tool (Program.call (.opening name .writing mode)) with
      | .ok d =>
          let _ ← tool (Program.writeAll d e.copy.reverse.flatten)
          let _ ← tool (Program.call (.close d))
      | .error w => tool (warnAnd 4 ("couldn't open file ".toList ++ name ++ ": ".toList ++ wording w))
  | _, _ => return ()

/-- Closes the input that is open. -/
def closeInlet : Editing Unit := do
  putBack
  match (← get).inlet with
  | none => return ()
  | some i =>
      tool (closeInput i.descriptor)
      modify fun e => { e with inlet := none }

/-- Opens an input; nothing is open when that fails. -/
def openInlet (name : Octets) : Editing Unit := do
  let e ← get
  if name = ['-'] ∧ e.manner.inPlace.isNone then
    set { e with name, inlet := some (.ofDescriptor 0) }
  else
    if e.manner.inPlace.isSome then
      match ← tool (Program.call (.status name true)) with
      | .ok s =>
          if s.kind ≠ .regular then
            tool (warnAnd 4 ("couldn't edit ".toList ++ name ++ ": not a regular file".toList))
            return ()
      | .error _ => pure ()
    match ← tool (Program.call (.opening name .reading 0)) with
    | .ok d => set { e with name, inlet := some (.ofDescriptor d), copy := [] }
    | .error w => tool (warnAnd 2 ("can't read ".toList ++ name ++ ": ".toList ++ wording w))

/-- Finds the input of which something is left, and opens one after another until there is one.
With `within` only the input that is open is meant. The first argument bounds the number of
inputs. -/
def prepare (within : Bool) : Nat → Editing Bool
  | 0 => return false
  | n + 1 => do
      let e ← get
      match e.inlet with
      | some i =>
          let i ← tool (i.filled (unreadable e.name))
          set { e with inlet := some i }
          if !i.rest.isEmpty then return true
          if within then return false
          closeInlet
          prepare within n
      | none =>
          match e.names with
          | [] => return false
          | name :: names =>
              if within then return false
              set { e with names }
              if e.manner.separate then modify fun e => { e with number := 0 }
              openInlet name
              prepare within n

/-- How many inputs may be opened. -/
def enough : Editing Nat := do return 2 * (← get).names.length + 2

/-- There is a line behind the present one. -/
def hasMore : Editing Bool := do prepare (← get).manner.separate (← enough)

/-- Takes the next line, if there is one. What has been added behind the present one is written
first. -/
def nextLine? : Editing (Option Line) := do
  emitAdditions
  modify fun e => { e with changed := false }
  if !(← prepare false (← enough)) then return none
  let e ← get
  match e.inlet with
  | none => return none
  | some i =>
      let (line, i) ← tool (i.line? e.manner.mark (unreadable e.name))
      set { e with inlet := some i, number := e.number + 1 }
      return line

/-! ### Addresses -/

/-- The expression that is meant. -/
def meantRegex (r : Option Regex) : Editing Regex := do
  let e ← get
  match r.or e.latest with
  | some r =>
      set { e with latest := some r }
      return r
  | none =>
      tool (fail 1 (e.manner.place ++ "no previous regular expression".toList))

def Address.holds : Address → Editing Bool
  | .line n => do return (← get).number == n
  | .step first distance => do
      let number := (← get).number
      return if distance = 0 then number == first
        else first ≤ number && (number - first) % distance == 0
  | .last => do return !(← hasMore)
  | .regex r => do
      let r ← meantRegex r
      return r.occurs (← get).line.text

def openRange (k : Nat) (s : Stop) : Editing Unit :=
  modify fun e => { e with ranges := (k, s) :: e.ranges.filter fun (j, _) => j != k }

def closeRange (k : Nat) : Editing Unit :=
  modify fun e => { e with ranges := e.ranges.filter fun (j, _) => j != k }

/-- A range begins at the present line. -/
def beginRange (k : Nat) (s : Stop) : Editing Bool := do
  let number := (← get).number
  let upTo (last : Nat) : Editing Bool := do
    if number < last then openRange k (.address (.line last))
    return true
  match s with
  | .plus n => upTo (number + n)
  | .multiple n => upTo (if n = 0 then number else number / n * n + n)
  | .address (.line last) => upTo last
  | .address a => do
      openRange k (.address a)
      return true

/-- A command is meant for the present line. -/
def isMeant (k : Nat) (c : Command) : Editing Bool := do
  match c.start, c.stop with
  | none, _ => return true
  | some a, none => a.holds
  | some a, some s =>
      match (← get).ranges.lookup k with
      | none => if ← a.holds then beginRange k s else return false
      | some (.address (.line last)) =>
          let number := (← get).number
          if number < last then return true
          closeRange k
          if number = last then return true
          if ← a.holds then beginRange k s else return false
      | some (.address b) =>
          if ← b.holds then closeRange k
          return true
      | some _ => return false

/-! ### Substitution -/

/-- How the letters that follow are changed: those up to the next sign, and the first one. -/
structure Style where
  all : Option Casing
  one : Option Casing

def Style.apply (s : Style) (text : Octets) : Octets :=
  let whole := match s.all with
    | some .upper => text.map Char.toUpper
    | some .lower => text.map Char.toLower
    | _ => text
  match s.one, whole with
  | some .upperOne, c :: rest => c.toUpper :: rest
  | some .lowerOne, c :: rest => c.toLower :: rest
  | _, whole => whole

/-- What is put in for a place. -/
def expanded (text : Octets) (m : Regex.Match) : Style → List Part → Octets
  | _, [] => []
  | s, .casing c :: rest =>
      match c with
      | .stop => expanded text m ⟨none, none⟩ rest
      | .upper => expanded text m { s with all := some .upper } rest
      | .lower => expanded text m { s with all := some .lower } rest
      | c => expanded text m { s with one := some c } rest
  | s, p :: rest =>
      let found := match p with
        | .text t => t
        | .group n =>
            match m.group? n with
            | some (a, b) => Regex.slice text a b
            | none => []
        | .casing _ => []
      if found.isEmpty then expanded text m s rest
      else s.apply found ++ expanded text m { s with one := none } rest

/-- The text with other texts at some places, which stand one behind another. `position` is the
place of the first character. -/
def replaced (put : Regex.Match → Octets) : Nat → Octets → List Regex.Match → Octets
  | _, text, [] => text
  | position, text, m :: rest =>
      text.take (m.start - position) ++ put m ++
        replaced put m.stop (text.drop (m.stop - position)) rest

/-- Puts something in; nothing is there when the expression does not stand often enough. -/
def substituted? (s : Substitution) (r : Regex) (text : Octets) : Option Octets :=
  let found :=
    if s.nth = 1 ∧ !s.everywhere then (r.search? text).toList
    else
      let later := (r.all text).drop (s.nth - 1)
      if s.everywhere then later else later.take 1
  if found.isEmpty then none
  else some (replaced (fun m => expanded text m ⟨none, none⟩ s.parts) 0 text found)

/-! ### Commands -/

/-- Where the editor goes on. -/
inductive Course where
  | on (k : Nat)
  /-- The line is finished, and written unless the editor is quiet. -/
  | finished
  | dropped
  /-- The line is edited again from the first command on. -/
  | again
  | ended (status : Nat)

def setText (text : Octets) : Editing Unit :=
  modify fun e => { e with line := { e.line with text } }

/-- Writes the line unless the editor is quiet. -/
def emitFinished : Editing Unit := do
  let e ← get
  if !e.manner.quiet then emitLine 0 e.line

/-- A line behind another one. -/
def joined (mark : Char) (a b : Line) : Line := ⟨a.text ++ mark :: b.text, b.ended⟩

/-- A character as it is listed. -/
def listed (c : Char) : Octets :=
  if c = '\\' then "\\\\".toList else if isHidden c then escapedByte c else [c]

/-- The lines of a listing. The first two arguments are the width and the length of the line so
far. -/
def listing (width : Nat) : Nat → Octets → Octets
  | _, [] => "$\n".toList
  | size, c :: rest =>
      let shown := listed c
      if 0 < width ∧ width - 1 < size + shown.length then
        "\\\n".toList ++ shown ++ listing width shown.length rest
      else shown ++ listing width (size + shown.length) rest

/-- The next line of a file from which single lines are taken. -/
def takeLine (name : Octets) : Editing (Option Line) := do
  let e ← get
  let inlet ← match e.inlets.lookup name with
    | some i => pure i
    | none => tool do
        match ← Program.call (.opening name .reading 0) with
        | .ok d => return some (.ofDescriptor d)
        | .error _ => return none
  match inlet with
  | none => return none
  | some i =>
      let (line, i) ← tool (i.line? e.manner.mark (unreadable name))
      set { e with inlets := (name, some i) :: e.inlets.filter fun (n, _) => n != name }
      return line

/-- The output of a command without the end of its last line. -/
def outputOf (command : Octets) : Editing Octets := do
  let data ← tool (commandOutput command)
  return if data.getLast? = some '\n' then data.dropLast else data

def add (a : Addition) : Editing Unit := modify fun e => { e with additions := a :: e.additions }

/-- Where a jump leads. -/
def jumpTo (label : Octets) : Editing Course := do
  if label.isEmpty then return .finished
  return .on (((labels (← get).manner.commands.toList).lookup label).getD 0)

/-- Does a command that is meant for the line. -/
def perform (k : Nat) (c : Command) : Editing Course := do
  let e ← get
  let mark := e.manner.mark
  let on : Course := .on (k + 1)
  let text := e.line.text
  let firstPart := text.takeWhile (· != mark)
  let firstLine : Line := ⟨firstPart, e.line.ended || firstPart.length < text.length⟩
  match c.action with
  | .block _ | .nothing | .label _ => return on
  | .append t => add (.text t); return on
  | .insert t => emitText 0 t; return on
  | .change t =>
      if (e.ranges.lookup k).isNone || c.negated then emitText 0 t
      return .dropped
  | .jump condition label =>
      let taken := match condition with
        | .always => true
        | .changed => e.changed
        | .unchanged => !e.changed
      if condition ≠ .always then set { e with changed := false }
      if taken then jumpTo label else return on
  | .delete => return .dropped
  | .deleteFirst =>
      match text.drop firstPart.length with
      | [] => return .dropped
      | _ :: rest =>
          setText rest
          return .again
  | .run command =>
      if command.isEmpty then setText (← outputOf text)
      else emitText 0 (← tool (commandOutput command))
      return on
  | .get => set { e with line := e.held }; return on
  | .getAppend => set { e with line := joined mark e.line e.held }; return on
  | .hold => set { e with held := e.line }; return on
  | .holdAppend => set { e with held := joined mark e.held e.line }; return on
  | .exchange => set { e with line := e.held, held := e.line }; return on
  | .list width =>
      emitText 0 (listing (width.getD e.manner.width) 0 text)
      return on
  | .next =>
      if !(← hasMore) then return .finished
      emitFinished
      match ← nextLine? with
      | none => return .finished
      | some line =>
          modify fun e => { e with line }
          return on
  | .nextAppend =>
      if !(← hasMore) then return .finished
      match ← nextLine? with
      | none => return .finished
      | some line =>
          modify fun e => { e with line := joined mark e.line line }
          return on
  | .print => emitLine 0 e.line; return on
  | .printFirst => emitLine 0 firstLine; return on
  | .quit status quietly =>
      if !quietly then
        emitFinished
        emitAdditions
      return .ended status
  | .readFile name => add (.file name); return on
  | .readLine name =>
      match ← takeLine name with
      | none => return on
      | some line =>
          add (.text (if line.ended then line.text ++ [mark] else line.text))
          return on
  | .substitute s =>
      let r ← meantRegex s.regex
      match substituted? s r text with
      | none => return on
      | some text =>
          let text ← if s.runs then outputOf text else pure text
          modify fun e => { e with line := { e.line with text }, changed := true }
          let line := (← get).line
          if s.prints then emitLine 0 line
          match s.file with
          | none => return on
          | some name =>
              emitLine (← outletOf name) line
              return on
  | .writeFile name => emitLine (← outletOf name) e.line; return on
  | .writeFirst name => emitLine (← outletOf name) firstLine; return on
  | .translate table => setText (text.map fun c => (table.lookup c).getD c); return on
  | .number => emitText 0 (decimal e.number ++ ['\n']); return on
  | .clear => setText []; return on
  | .fileName => emitText 0 (e.name ++ ['\n']); return on

/-- Ends the editing with a status. -/
def finish (status : Nat) : Editing Unit := do
  emitAdditions
  match (← get).inlet with
  | some i => if i.descriptor = 0 then tool i.giveBack
  | none => pure ()
  closeInlet
  if status ≠ 0 then tool (note status)

/-- The time that a step takes, in nanoseconds, and after how many steps it is let pass. -/
def stepCost : Nat := 1000

def stepsAtOnce : Nat := 128

/-- Edits from a command on. The first argument bounds the number of steps. -/
def edit : Nat → Nat → Editing Unit
  | 0, _ => return ()
  | n + 1, k => do
      if n % stepsAtOnce = 0 then
        let _ ← tool (Program.call (.tick (stepsAtOnce * stepCost)))
      let next : Editing Unit := do
        match ← nextLine? with
        | none => finish 0
        | some line =>
            modify fun e => { e with line }
            edit n 0
      match (← get).manner.commands[k]? with
      | none =>
          emitFinished
          next
      | some c =>
          if (← isMeant k c) != c.negated then
            match ← perform k c with
            | .on k => edit n k
            | .finished =>
                emitFinished
                next
            | .dropped => next
            | .again => edit n 0
            | .ended status => finish status
          else match c.action with
            | .block stop => edit n (stop + 1)
            | _ => edit n (k + 1)

/-- How many steps the editor does. -/
def maxSteps : Nat := 1000000000

/-- Edits all lines of the inputs. -/
def editAll : Editing Unit := do
  match ← nextLine? with
  | none => finish 0
  | some line =>
      modify fun e => { e with line }
      edit maxSteps 0

/-! ### Options -/

/-- A piece of the commands: the file that it comes from, if it is one, and the text. -/
structure Piece where
  file : Option Octets
  text : Octets

/-- Where something stands in the commands: in which piece, or in which line of a file. The number of
the expression is counted from some number on. -/
def placeOf : Nat → Nat → List Piece → Octets
  | _, _, [] => []
  | k, consumed, p :: rest =>
      if consumed ≤ p.text.length ∨ rest.isEmpty then
        match p.file with
        | none =>
            "-e expression #".toList ++ decimal k ++ ", char ".toList ++ decimal consumed ++
              ": ".toList
        | some name =>
            let lines := ((p.text.take consumed).filter (· == '\n')).length
            "file ".toList ++ name ++ " line ".toList ++ decimal (lines + 1) ++ ": ".toList
      else placeOf (if p.file.isNone then k + 1 else k) (consumed - p.text.length - 1) rest

/-- The text of all pieces. -/
def textOfPieces (pieces : List Piece) : Octets := List.intercalate ['\n'] (pieces.map Piece.text)

/-- The place of what has no place of its own. -/
def noPlace (pieces : List Piece) : Octets :=
  placeOf (pieces.filter fun p => p.file.isNone).length 0 (pieces.getLast?.toList.map fun p =>
    { p with text := [] })

/-- The files that commands write. -/
def written (commands : List Command) : List Octets :=
  (commands.filterMap fun c =>
    match c.action with
    | .writeFile name => some name
    | .writeFirst name => some name
    | .substitute s => s.file
    | _ => none).eraseDups

/-- Opens the files that commands write. -/
def openOutlets (names : List Octets) : Tool (List Outlet) :=
  names.mapM fun name => do
    if name = "/dev/stdout".toList then return ⟨name, 1, false⟩
    if name = "/dev/stderr".toList then return ⟨name, 2, false⟩
    match ← Program.call (.opening name .writing 0o666) with
    | .ok d => return ⟨name, d, false⟩
    | .error e => fail 4 ("couldn't open file ".toList ++ name ++ ": ".toList ++ wording e)

/-- The ranges that are open from the beginning. -/
def openedRanges (commands : List Command) : List (Nat × Stop) :=
  commands.zipIdx.filterMap fun (c, k) =>
    match c.start, c.stop with
    | some (.line 0), some s => some (k, s)
    | _, _ => none

def known : Known :=
  { Known.of "ne:f:Ersi::zul:b"
      [("quiet", 'n'), ("silent", 'n'), ("expression", 'e'), ("file", 'f'),
        ("regexp-extended", 'E'), ("separate", 's'), ("in-place", 'i'), ("null-data", 'z'),
        ("unbuffered", 'u'), ("line-length", 'l'), ("binary", 'b'), ("posix", '1'),
        ("sandbox", '2'), ("follow-symlinks", '3'), ("zero-terminated", 'z')] with
    usage := ("Usage: sed [OPTION]... \x7bscript-only-if-no-other-script\x7d " ++
      "[input-file]...\n\n").toList }

/-- The pieces of the commands that options say. -/
def piecesOf (flags : List Flag) : Tool (List Piece) := do
  let found ← flags.mapM fun (c, text) => do
    if c = 'e' then return some (Piece.mk none text)
    if c ≠ 'f' then return none
    let data ← if text = ['-'] then Program.readAll 0 else Program.readPath text
    match data with
    | .ok data =>
        return some ⟨some text, data⟩
    | .error e => fail 4 ("couldn't open file ".toList ++ text ++ ": ".toList ++ wording e)
  return found.filterMap id

end Sed

open Host Text

/-- Edits lines. -/
def sed (args : List Octets) : Tool Unit := do
  let (flags, operands) ← readFlags Sed.known args
  let pieces ← Sed.piecesOf flags
  let (pieces, names) ← match pieces, operands with
    | [], [] => do
        tell Sed.known.usage
        throw 1
    | [], text :: names => pure ([⟨none, text⟩], names)
    | pieces, names => pure (pieces, names)
  let text := Sed.textOfPieces pieces
  match Sed.read (has flags 'E' || has flags 'r') text with
  | .error (what, left) =>
      let place := match left with
        | some n => Sed.placeOf 1 (text.length - n) pieces
        | none => Sed.noPlace pieces
      fail 1 (place ++ what.toList)
  | .ok commands =>
      let known := (Sed.labels commands).map Prod.fst
      match (Sed.targets commands).find? fun l => !known.contains l with
      | some l => fail 4 ("can't find label for jump to \x60".toList ++ l ++ ['\''])
      | none =>
          let outlets ← Sed.openOutlets (Sed.written commands)
          let inPlace := value? flags 'i'
          let manner : Sed.Manner :=
            { quiet := has flags 'n' || text.take 3 == "#n\n".toList || text == "#n".toList
              separate := has flags 's' || inPlace.isSome
              inPlace, prompt := has flags 'u'
              mark := if has flags 'z' then '\x00' else '\n'
              width := (((value? flags 'l').bind number?).getD 70)
              commands := commands.toArray, place := Sed.noPlace pieces }
          let e : Sed.Editor :=
            { manner, names := orInput names, name := ['-'], inlet := none, line := ⟨[], true⟩
              held := ⟨[], true⟩, number := 0, changed := false
              ranges := Sed.openedRanges commands, additions := [], latest := none
              outlets := (⟨[], 1, false⟩ :: outlets).toArray, copy := [], inlets := [] }
          let _ ← Sed.editAll.run e

end Enquiry.Tool
