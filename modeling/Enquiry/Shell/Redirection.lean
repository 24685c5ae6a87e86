import Enquiry.Shell.Evaluator

/-!
# Redirections

Where the descriptors of a command lead. The words of all redirections are expanded before the
first one is made; what has been open is kept at a higher number, and is put back later.
-/

namespace Enquiry.Shell

open Host Text

/-- What a descriptor is going to lead to. -/
inductive Target where
  | file (use : FileUse) (path : Octets)
  | copy (other : Nat)
  | nothing
  | text (content : Octets)
  deriving DecidableEq, Repr

namespace Redirection

/-- The wording of an error when a file is opened, made or run. -/
def wording (e : Errno) (missing : String) : Octets :=
  (if e = .noEntry ∨ e = .notDirectory then missing else e.message).toList

def openFault {α : Type} (path : Octets) (e : Errno) : Sh α := do
  if (← get).extended then Sh.fault (path ++ ": ".toList ++ e.message.toList)
  else
    Sh.fault ("cannot open ".toList ++ path ++ ": ".toList ++ wording e "No such file")

def createFault {α : Type} (path : Octets) (e : Errno) : Sh α := do
  if (← get).extended then
    let e := if e = .alreadyThere then "cannot overwrite existing file" else e.message
    Sh.fault (path ++ ": ".toList ++ e.toList)
  else
    Sh.fault ("cannot create ".toList ++ path ++ ": ".toList ++ wording e "Directory nonexistent")

/-- The descriptor that a word names. -/
def copyTarget (text : Octets) : Sh Target := do
  match text with
  | ['-'] => return .nothing
  | [c] =>
      match digitValue? c with
      | some n => return .copy n
      | none => Sh.fault "Syntax error: Bad fd number".toList
  | _ =>
      match number? text, (← get).extended with
      | some n, true => return .copy n
      | _, _ => Sh.fault "Syntax error: Bad fd number".toList

/-- Expands the words of a redirection. -/
def prepare (e : Evaluator) : Redirect → Sh (Nat × Target)
  | .file descriptor use name => do return (descriptor, .file use (← e.text .single name))
  | .copy descriptor other => do return (descriptor, ← copyTarget (← e.text .single other))
  | .document descriptor number => do
      let word := ((← get).documents.lookup number).getD []
      return (descriptor, .text (← e.text .plain word))
  | .string descriptor word => do
      return (descriptor, .text ((← e.text .single word) ++ ['\n']))

/-- The permissions of a file that is made. -/
def newMode : Nat := 0o666

/-- Opens a file that is written anew, but not one that is there already. -/
def openUnlessThere (path : Octets) : Sh Nat := do
  match ← Program.call (.status path true) with
  | .error _ =>
      match ← Program.call (.opening path .making newMode) with
      | .ok n => return n
      | .error err => createFault path err
  | .ok status =>
      if status.kind = .regular then createFault path .alreadyThere
      else match ← Program.call (.opening path ⟨false, true, false, false, false, false⟩ newMode) with
        | .ok n => return n
        | .error err => createFault path err

/-- Opens a file. -/
def openFile (use : FileUse) (path : Octets) : Sh Nat := do
  if use = .output ∧ (← get).options.keepsFiles then openUnlessThere path
  else
    let mode := match use with
      | .input => OpenMode.reading
      | .append => OpenMode.appending
      | .update => OpenMode.updating
      | _ => OpenMode.writing
    match ← Program.call (.opening path mode newMode) with
    | .ok n => return n
    | .error err => if use = .input then openFault path err else createFault path err

/-- How much a pipe takes without anybody who reads it. -/
def pipeRoom : Nat := 4096

/-- A descriptor from which a text can be read. -/
def openText (e : Evaluator) (content : Octets) : Sh Nat := do
  let (output, input) ← Program.call .pipe
  if content.length ≤ pipeRoom then
    let _ ← Program.writeAll input content
  else
    let _ ← e.fork do
      let _ ← Program.call (.close output)
      let _ ← Program.writeAll input content
      Program.exit 0
  let _ ← Program.call (.close input)
  return output

/-- The lowest number for descriptors that the shell keeps for itself. -/
def keptFrom : Nat := 10

/-- The descriptor that has been saved. -/
def descriptorOf : Saved → Nat
  | .closed descriptor => descriptor
  | .moved descriptor _ => descriptor

/-- Begins to save what commands change. -/
def push : Sh Unit := modify fun s => { s with saved := [] :: s.saved }

def note (saved : Saved) : Sh Unit :=
  modify fun s =>
    match s.saved with
    | [] => s
    | frame :: rest => { s with saved := (saved :: frame) :: rest }

/-- Saves what a descriptor leads to, unless that has been saved already. With `fresh` it did not
lead to anything. -/
def save (descriptor : Nat) (fresh : Bool) : Sh Unit := do
  match (← get).saved with
  | [] => return ()
  | frame :: _ =>
      if frame.any fun k => descriptorOf k == descriptor then return ()
      if fresh then note (.closed descriptor)
      else match ← Program.call (.duplicate descriptor keptFrom true) with
        | .ok copy =>
            let _ ← Program.call (.close descriptor)
            note (.moved descriptor copy)
        | .error _ => note (.closed descriptor)

/-- Puts back what has been saved. -/
def restore : List Saved → Sh Unit
  | [] => return ()
  | .closed descriptor :: rest => do
      let _ ← Program.call (.close descriptor)
      restore rest
  | .moved descriptor copy :: rest => do
      let _ ← Program.call (.redirect descriptor copy)
      let _ ← Program.call (.close copy)
      restore rest

/-- Forgets what has been saved. -/
def forget : List Saved → Sh Unit
  | [] => return ()
  | .closed _ :: rest => forget rest
  | .moved _ copy :: rest => do
      let _ ← Program.call (.close copy)
      forget rest

/-- Ends the saving that was begun last, and puts everything back unless it is to stay. -/
def pop (stays : Bool) : Sh Unit := do
  let s ← get
  match s.saved with
  | [] => return ()
  | frame :: rest =>
      set { s with saved := rest }
      if stays then forget frame else restore frame

/-- Where the diagnostics of the shell itself lead while a command is redirected. -/
def outerDiagnostics (s : State) : Nat :=
  ((s.saved.headD []).findSome? fun k =>
    match k with
    | .moved 2 copy => some copy
    | _ => none).getD Sh.diagnostics

/-- Lets a descriptor lead to something that has been opened for it. -/
def place (descriptor opened : Nat) : Sh Unit := do
  save descriptor (opened == descriptor)
  if descriptor ≠ opened then
    let moved ← Program.call (.redirect descriptor opened)
    let _ ← Program.call (.close opened)
    match moved with
    | .ok _ => return ()
    | .error err => Sh.fault (decimal descriptor ++ ": ".toList ++ err.message.toList)

/-- Makes a redirection. -/
def make (e : Evaluator) (descriptor : Nat) : Target → Sh Unit
  | .nothing => do
      save descriptor false
      let _ ← Program.call (.close descriptor)
  | .copy other => do
      if other = descriptor then return ()
      save descriptor false
      match ← Program.call (.redirect descriptor other) with
      | .ok _ => return ()
      | .error err => Sh.fault (decimal other ++ ": ".toList ++ err.message.toList)
  | .file use path => do place descriptor (← openFile use path)
  | .text content => do place descriptor (← openText e content)

/-- Makes redirections one after another. -/
def makeAll (e : Evaluator) : List (Nat × Target) → Sh Unit
  | [] => return ()
  | (descriptor, target) :: rest => do
      make e descriptor target
      makeAll e rest

/-- Makes redirections; the answer is no when one of them cannot be made. -/
def tryAll (e : Evaluator) (targets : List (Nat × Target)) : Sh Bool := do
  match ← Program.attempt (makeAll e targets) with
  | .ok _ => return true
  | .error .fault => return false
  | .error stop => throw stop

end Redirection

end Enquiry.Shell
