import Enquiry.Shell.Builtin.Basic

/-!
# Built-in commands for names

Variables get attributes, become a function's own, and are forgotten; functions and aliases have
names as well.
-/

namespace Enquiry.Shell.Builtin

open Host Text

/-- Shows variables in the order of their names, with a word in front. -/
def showVariables (word : Octets) (holds : Variable → Bool) : Sh Nat := do
  let s ← get
  let shown := (s.vars.filter fun (_, v) => holds v).mergeSort fun (a, _) (b, _) => !(b < a)
  for (name, v) in shown do
    let front := if word.isEmpty then [] else word ++ [' ']
    match v.value with
    | some value => Sh.printLine (front ++ octets name ++ '=' :: singleQuoted value)
    | none => Sh.printLine (front ++ octets name)
  return 0

/-- Changes the attributes of a variable, and its value if there is a new one. -/
def declare (change : Variable → Variable) (arg : Octets) : Sh Unit := do
  let (name, value) := splitAssignment arg
  let name ← readName name
  match value with
  | some value => Sh.assign name value
  | none => pure ()
  modify fun s => s.setVariable name (change ((s.find? name).getD ⟨none, false, false⟩))

/-- Does something with each of some arguments. -/
def forEach (act : Octets → Sh Unit) : List Octets → Sh Unit
  | [] => return ()
  | arg :: rest => do
      act arg
      forEach act rest

def declareAll (word : Octets) (holds : Variable → Bool) (change : Variable → Variable)
    (args : List Octets) : Sh Nat := do
  let (flags, args) ← readFlags "p" args
  if !flags.isEmpty || args.isEmpty then showVariables word holds
  else
    forEach (declare change) args
    return 0

def exporting : List Octets → Sh Nat :=
  declareAll "export".toList Variable.exported fun v => { v with exported := true }

def readOnly : List Octets → Sh Nat :=
  declareAll "readonly".toList Variable.readOnly fun v => { v with readOnly := true }

/-- Makes a variable the function's own. -/
def makeLocal (arg : Octets) : Sh Unit := do
  if arg = ['-'] then return ()
  let (name, value) := splitAssignment arg
  let name ← readName name
  let s ← get
  match s.find? name, value with
  | some ⟨_, _, true⟩, some _ => Sh.fault (octets name ++ ": is read only".toList)
  | _, _ => pure ()
  set (s.keepOuter name)
  match value with
  | some value => Sh.assign name value
  | none =>
      if s.extended then
        modify fun s => s.setVariable name ⟨none, false, false⟩
      else if (s.find? name).isNone then
        modify fun s => s.setVariable name ⟨none, false, false⟩

def locals (args : List Octets) : Sh Nat := do
  if (← get).depth = 0 then Sh.fault "not in a function".toList
  forEach makeLocal args
  return 0

/-- Forgets a variable. -/
def unsetVariable (arg : Octets) : Sh Unit := do
  let name ← readName arg
  match (← get).find? name with
  | some ⟨_, _, true⟩ => Sh.fault (octets name ++ ": is read only".toList)
  | _ => modify fun s => s.dropVariable name

/-- Forgets a function. -/
def unsetFunction (arg : Octets) : Sh Unit :=
  modify fun s =>
    { s with functions := s.functions.filter fun (name, _) => octets name != arg }

def unset (args : List Octets) : Sh Nat := do
  let (flags, args) ← readFlags "vf" args
  let ofFunction := flags.getLast?.any fun (c, _) => c == 'f'
  let s ← get
  let act (arg : Octets) : Sh Unit :=
    if ofFunction then unsetFunction arg
    else if s.extended ∧ flags.isEmpty ∧ (s.find? (textOf arg)).isNone then unsetFunction arg
    else unsetVariable arg
  forEach act args
  return 0

/-! ### Aliases -/

/-- Shows an alias. -/
def showAlias (name value : Octets) : Sh Unit := Sh.printLine (name ++ '=' :: singleQuoted value)

def setAliases (args : List Octets) : Sh Nat := do
  let s ← get
  if args.isEmpty then
    for (name, value) in s.aliases do showAlias name value
    return 0
  let mut status := 0
  for arg in args do
    let (name, value) := splitAssignment arg
    match value, (← get).aliases.lookup name with
    | some value, _ =>
        modify fun s =>
          { s with aliases := (s.aliases.filter fun (n, _) => n != name) ++ [(name, value)] }
    | none, some value => showAlias name value
    | none, none =>
        let _ ← Program.writeAll Sh.diagnostics
          ("alias: ".toList ++ name ++ " not found\n".toList)
        status := 1
  return status

def unalias (args : List Octets) : Sh Nat := do
  let (flags, args) ← readFlags "a" args
  if !flags.isEmpty then
    modify fun s => { s with aliases := [] }
    return 0
  let mut status := 0
  for name in args do
    if ((← get).aliases.lookup name).isSome then
      modify fun s => { s with aliases := s.aliases.filter fun (n, _) => n != name }
    else
      let _ ← Program.writeAll Sh.diagnostics
        ("unalias: ".toList ++ name ++ " not found\n".toList)
      status := 1
  return status

end Enquiry.Shell.Builtin
