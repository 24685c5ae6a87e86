import Enquiry.Tool.Awk.Machine
import Enquiry.Tool.Awk.Token

/-!
# Files and commands of the record processor

What the programs write to and read from besides the usual output and the inputs: files and
commands, each of which stays open until it is closed.
-/

namespace Enquiry.Tool.Awk.Running

open Host Text

/-- The name by which commands are run. -/
def shell : Octets := "/bin/sh".toList

/-- The number by which the end of a child is told. -/
def endOf (child : Nat) : Tool Nat := do
  match ← awaitChild child none maxInterruptions with
  | some (.exited status) => return status
  | some (.killed s) => return 256 + s
  | none => return 0

/-! ### Writing -/

/-- Hands on what has been written to a place. -/
def Outflow.flush (o : Outflow) : Tool Outflow := do
  if o.waiting.isEmpty then return o
  let _ ← Program.writeAll o.descriptor o.waiting.reverse.flatten
  return { o with waiting := [], size := 0 }

/-- Hands on all that has been written. -/
def flushAll : Running Unit := do
  tool flush
  let flows ← tool ((← get).outflows.mapM Outflow.flush)
  modify fun m => { m with outflows := flows }

/-- Opens a place that is written to. -/
def openOutflow (d : Direction) (name : Octets) : Running Outflow := do
  flushAll
  match d with
  | .command =>
      let (descriptor, child) ← tool (openSink shell name)
      return ⟨name, descriptor, some child, [], 0⟩
  | d =>
      if name = "/dev/stdout".toList ∨ name = ['-'] then return ⟨name, 1, none, [], 0⟩
      if name = "/dev/stderr".toList then return ⟨name, 2, none, [], 0⟩
      let mode := if d = .append then OpenMode.appending else .writing
      match ← Program.call (.opening name mode 0o666) with
      | .ok descriptor => return ⟨name, descriptor, none, [], 0⟩
      | .error e =>
          fail ("cannot open \"".toList ++ name ++ "\" for output (".toList ++ wording e ++ [')'])

/-- Writes to a place. -/
def writeTo (d : Direction) (name text : Octets) : Running Unit := do
  let o ← match (← get).outflows.find? fun o => o.name == name with
    | some o => pure o
    | none => do
        let o ← openOutflow d name
        modify fun m => { m with outflows := o :: m.outflows }
        pure o
  if o.descriptor = 1 then tool (print text)
  else
    let o := { o with waiting := text :: o.waiting, size := o.size + text.length }
    let o ← if o.descriptor = 2 ∨ pieceSize ≤ o.size then tool (Outflow.flush o) else pure o
    modify fun m =>
      { m with outflows := m.outflows.map fun p => if p.name == name then o else p }

/-- Closes a place that is written to: the number of its end. -/
def closeOutflow (o : Outflow) : Tool Nat := do
  let o ← Outflow.flush o
  if o.descriptor = 1 then flush
  if 2 < o.descriptor then
    let _ ← Program.call (.close o.descriptor)
  match o.child with
  | some child => endOf child
  | none => return 0

/-- Closes all commands that are written to, the latest first, and then all other places. -/
def closeAll : Running Unit := do
  let flows := (← get).outflows
  modify fun m => { m with outflows := [] }
  let (commands, files) := flows.partition fun o => o.child.isSome
  let _ ← tool (commands.mapM closeOutflow)
  let _ ← tool (files.mapM closeOutflow)

/-! ### Reading -/

/-- An input cannot be read. -/
def unreadable : Trouble := fun e =>
  Tool.fail 2 ("read error (".toList ++ wording e ++ [')'])

/-- A part of a text up to an empty line, and what follows behind all empty lines. -/
def paragraph : Octets → Octets → Octets × Octets
  | found, [] => (found.reverse, [])
  | found, '\n' :: '\n' :: rest => (found.reverse, rest.dropWhile (· == '\n'))
  | found, c :: rest => paragraph (c :: found) rest

/-- The next record of an input. -/
def record? (i : Inlet) : Running (Option Octets × Inlet) := do
  match ← specialText .recordSeparator with
  | [c] =>
      let (line, i) ← tool (i.line? c unreadable)
      return (line.map Line.text, i)
  | separator =>
      let i ← tool (i.filledUntil (fun _ => false) unreadable Program.maxReads)
      if separator.isEmpty then
        let text := i.rest.dropWhile (· == '\n')
        if text.isEmpty then return (none, { i with rest := [] })
        let (found, rest) := paragraph [] text
        let found := if rest.isEmpty && found.getLast? == some '\n' then found.dropLast else found
        return (some found, { i with rest })
      else
        if i.rest.isEmpty then return (none, i)
        let r ← regexOf separator
        match (r.all i.rest).find? fun m => m.start < m.stop with
        | some m => return (some (i.rest.take m.start), { i with rest := i.rest.drop m.stop })
        | none =>
            return (some i.rest, { i with rest := [] })

/-- Closes a place that is read from: the number of its end. -/
def closeInflow (f : Inflow) : Tool Nat := do
  closeInput f.inlet.descriptor
  match f.child with
  | some child => endOf child
  | none => return 0

/-- The place that is read from; nothing when it cannot be opened. -/
def inflow? (isCommand : Bool) (name : Octets) : Running (Option Inflow) := do
  match (← get).inflows.find? fun f => f.name == name && f.child.isSome == isCommand with
  | some f => return some f
  | none =>
      let opened ← if isCommand then do
          flushAll
          let (descriptor, child) ← tool (openSource shell name)
          pure (some ⟨name, .ofDescriptor descriptor, some child⟩)
        else if name = ['-'] ∨ name = "/dev/stdin".toList then
          pure (some ⟨name, .ofDescriptor 0, none⟩)
        else do
          match ← Program.call (.opening name .reading 0) with
          | .ok descriptor => pure (some ⟨name, .ofDescriptor descriptor, none⟩)
          | .error _ => pure none
      match opened with
      | none => return none
      | some f =>
          modify fun m => { m with inflows := f :: m.inflows }
          return some f

/-- The next record of a place; what is missing says why there is none. -/
def takeFrom (isCommand : Bool) (name : Octets) : Running (Except Int Octets) := do
  match ← inflow? isCommand name with
  | none => return .error (-1)
  | some f =>
      let (found, inlet) ← record? f.inlet
      modify fun m =>
        { m with inflows := m.inflows.map fun g =>
            if g.name == name && g.child.isSome == isCommand then { f with inlet } else g }
      match found with
      | some text => return .ok text
      | none => return .error 0

/-- Closes what has a name: the number of its end. -/
def close (name : Octets) : Running Int := do
  let m ← get
  let outs := m.outflows.filter fun o => o.name == name
  let ins := m.inflows.filter fun f => f.name == name
  set { m with
    outflows := m.outflows.filter fun o => o.name != name
    inflows := m.inflows.filter fun f => f.name != name }
  let ends ← tool (outs.mapM closeOutflow)
  let others ← tool (ins.mapM closeInflow)
  return ((ends ++ others).getLast?.map Int.ofNat).getD (-1)

/-- Hands on what has been written to what has a name. -/
def flushNamed (name : Octets) : Running Int := do
  if (← get).outflows.any fun o => o.name == name then
    flushAll
    return 0
  return -1

/-! ### The inputs -/

/-- An argument that sets a variable. -/
def setting? (text : Octets) : Option (Octets × Octets) :=
  let name := text.takeWhile fun c => isWordStart c || isAsciiDigit c
  match name, text.drop name.length with
  | c :: _, '=' :: value => if isWordStart c then some (name, value) else none
  | _, _ => none

/-- Sets a variable from outside. -/
def setOutside (name value : Octets) : Running Unit := do
  match (← get).script.names.findIdx? (· == name) with
  | some n => setVariable (.shared n) (.input (unescaped (value.length + 1) value))
  | none => return ()

/-- Opens the next input that the arguments name; the first one if none is named. The first argument
bounds the number of arguments. -/
def openNext : Nat → Running Bool
  | 0 => return false
  | n + 1 => do
      let m ← get
      let count := ((whole? (← special .argumentCount).toNumber).getD 0).toNat
      if count ≤ m.argument then
        if m.began then return false
        set { m with began := true, inlet := some (.ofDescriptor 0) }
        setSpecial .fileName (.text ['-'])
        return true
      set { m with argument := m.argument + 1 }
      let arguments ← table (← arrayOf (.shared Special.arguments.number))
      let name ← textOf (arguments.get (.number m.argument))
      if name.isEmpty then openNext n
      else match setting? name with
        | some (name, value) =>
            setOutside name value
            openNext n
        | none =>
            let descriptor ← if name = ['-'] then pure 0 else do
              match ← Program.call (.opening name .reading 0) with
              | .ok d => pure d
              | .error e =>
                  fail ("cannot open \"".toList ++ name ++ "\" (".toList ++ wording e ++ [')'])
            modify fun m => { m with began := true, inlet := some (.ofDescriptor descriptor) }
            setSpecial .fileName (.text name)
            setSpecial .fileRecordCount (.number 0)
            return true

/-- Closes the input that is open. -/
def closeInlet : Running Unit := do
  match (← get).inlet with
  | some i =>
      tool (closeInput i.descriptor)
      modify fun m => { m with inlet := none }
  | none => return ()

/-- How many inputs may be opened. -/
def maxInputs : Nat := 100000

/-- The next record of the inputs. The first argument bounds the number of inputs. -/
def nextRecord? : Nat → Running (Option Octets)
  | 0 => return none
  | n + 1 => do
      match (← get).inlet with
      | none => if ← openNext maxInputs then nextRecord? n else return none
      | some i =>
          let (found, i) ← record? i
          modify fun m => { m with inlet := some i }
          match found with
          | some text =>
              let more (s : Special) : Running Unit := do
                setSpecial s (.number ((← special s).toNumber + 1))
              more .recordCount
              more .fileRecordCount
              return some text
          | none =>
              closeInlet
              nextRecord? n

end Enquiry.Tool.Awk.Running
