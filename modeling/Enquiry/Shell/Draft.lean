import Enquiry.Shell.Source

/-!
# Words that are being read

While a word is read, braces and expressions in it may be open. A `Draft` keeps what has been read
of each of them, and the rules for quotes that hold at this place.
-/

namespace Enquiry.Shell

open Host

/-- What the characters of a word mean. -/
inductive Mode where
  | bare | double | single | arithmetic
  deriving DecidableEq, Repr

/-- The rules that hold between some brackets. -/
structure Layer where
  mode : Mode
  /-- Quotes within quoted braces are open. -/
  innerDouble : Bool
  /-- The layer was begun by a parameter. -/
  ofParameter : Bool
  double : Bool
  /-- How many braces are open. -/
  braces : Nat
  /-- How many parentheses are open. -/
  parentheses : Nat
  /-- How many of the open braces stand in double quotes. -/
  doubleBraces : Nat

def Layer.begin (mode : Mode) (double : Bool) : Layer := ⟨mode, false, false, double, 0, 0, 0⟩

/-- What stands behind the name of a parameter in braces. -/
inductive Operator where
  | length
  | default (emptyToo : Bool)
  | assign (emptyToo : Bool)
  | alternative (emptyToo : Bool)
  | require (emptyToo : Bool)
  | cut (how : Cut)
  | slice
  | replace (spot : Spot)
  | recase (upper all : Bool)
  | bad
  deriving DecidableEq, Repr

namespace Operator

/-- What stands behind the operator is quoted where the parameter is. -/
def keepsQuotes : Operator → Bool
  | .default _ => true
  | .alternative _ => true
  | _ => false

/-- What stands behind the operator has quotes of its own. -/
def isPattern : Operator → Bool
  | .cut _ => true
  | .replace _ => true
  | _ => false

/-- The character between the sections behind the operator. -/
def separator? : Operator → Option Char
  | .slice => some ':'
  | .replace _ => some '/'
  | _ => none

/-- The use of a parameter that the operator and the sections behind it make. -/
def use : Operator → List Word → Use
  | .length, _ => .length
  | .default e, words => .default e words.flatten
  | .assign e, words => .assign e words.flatten
  | .alternative e, words => .alternative e words.flatten
  | .require e, words => .require e words.flatten
  | .cut how, words => .cut how words.flatten
  | .slice, words => .slice (words.headD []) words[1]?
  | .replace spot, words => .replace spot (words.headD []) (words[1]?.getD [])
  | .recase upper all, _ => .recase upper all
  | .bad, _ => .bad

end Operator

/-- What has been begun and will become a part. -/
inductive Opener where
  | word
  | parameter (quoted : Bool) (name : String) (operator : Operator)
  | arithmetic (quoted : Bool)

structure Frame where
  opener : Opener
  /-- The sections that are done, the latest first. -/
  sections : List Word
  /-- The parts of this section, the latest first. -/
  parts : List Part
  /-- The characters behind them, the latest first, and whether they are quoted. -/
  run : Octets
  runQuoted : Bool
  /-- Everything is quoted. -/
  base : Bool
  /-- Quotes have been opened. -/
  toggled : Bool

namespace Frame

def begin (opener : Opener) (base : Bool) : Frame := ⟨opener, [], [], [], false, base, false⟩

/-- The characters behind the last part become a part. -/
def flush (f : Frame) : Frame :=
  if f.run.isEmpty then f
  else { f with parts := .text f.runQuoted f.run.reverse :: f.parts, run := [] }

def isQuoted (f : Frame) : Bool := f.base || f.toggled

def addChar (f : Frame) (quoted : Bool) (c : Char) : Frame :=
  if f.run.isEmpty then { f with run := [c], runQuoted := quoted }
  else if f.runQuoted = quoted then { f with run := c :: f.run }
  else { f.flush with run := [c], runQuoted := quoted }

def addPart (f : Frame) (p : Part) : Frame :=
  let f := f.flush
  { f with parts := p :: f.parts }

/-- Opens or closes quotes. -/
def toggle (f : Frame) : Frame :=
  let f := f.addPart .mark
  { f with toggled := !f.toggled }

/-- Begins a new section. -/
def divide (f : Frame) : Frame :=
  let f := f.flush
  { f with sections := f.parts.reverse :: f.sections, parts := [] }

/-- The sections in their order. -/
def words (f : Frame) : List Word := f.divide.sections.reverse

/-- The parts that the frame makes of what stands in it. -/
def close (f : Frame) : Word :=
  match f.opener with
  | .word => f.words.flatten
  | .parameter quoted name operator => [.parameter quoted name (operator.use f.words)]
  | .arithmetic quoted => [.arithmetic quoted f.words.flatten]

/-- The next character begins a new section. -/
def isDivided (f : Frame) (c : Char) : Bool :=
  match f.opener with
  | .parameter _ _ operator =>
      operator.separator? == some c && !f.toggled &&
        (f.sections.isEmpty || operator == .slice)
  | _ => false

end Frame

structure Draft where
  /-- The innermost one and those around it. -/
  layer : Layer
  outerLayers : List Layer
  frame : Frame
  outerFrames : List Frame
  /-- Some of the word is quoted. -/
  quoted : Bool

namespace Draft

def begin (mode : Mode) (base : Bool) : Draft :=
  ⟨.begin mode (mode == .double), [], .begin .word base, [], false⟩

def mapLayer (d : Draft) (f : Layer → Layer) : Draft := { d with layer := f d.layer }

def mapFrame (d : Draft) (f : Frame → Frame) : Draft := { d with frame := f d.frame }

def addChar (d : Draft) (c : Char) : Draft := d.mapFrame fun f => f.addChar f.isQuoted c

/-- Adds a character that stands for itself. -/
def addEscaped (d : Draft) (c : Char) : Draft := d.mapFrame (·.addChar true c)

def addPart (d : Draft) (p : Part) : Draft := d.mapFrame (·.addPart p)

def isQuoted (d : Draft) : Bool := d.frame.isQuoted

def pushLayer (d : Draft) (l : Layer) : Draft :=
  { d with layer := l, outerLayers := d.layer :: d.outerLayers }

def popLayer (d : Draft) : Draft :=
  match d.outerLayers with
  | l :: rest => { d with layer := l, outerLayers := rest }
  | [] => d

def pushFrame (d : Draft) (f : Frame) : Draft :=
  { d with frame := f, outerFrames := d.frame :: d.outerFrames }

/-- Closes the innermost frame. -/
def popFrame (d : Draft) : Draft :=
  match d.outerFrames with
  | f :: rest =>
      { d with frame := d.frame.close.foldl Frame.addPart f, outerFrames := rest }
  | [] => d

/-- Opens the braces of a parameter. -/
def openBraces (d : Draft) (name : String) (operator : Operator) : Draft :=
  let quoted := d.isQuoted
  let mode :=
    if operator.isPattern then .bare
    else if d.layer.mode = .arithmetic then .double
    else d.layer.mode
  let d :=
    if mode ≠ d.layer.mode ∨ d.layer.innerDouble then
      d.pushLayer { Layer.begin mode (mode != .bare) with ofParameter := true }
    else d
  let d := d.mapLayer fun l =>
    { l with
      braces := l.braces + 1
      doubleBraces := if l.double then l.doubleBraces + 1 else l.doubleBraces }
  d.pushFrame (.begin (.parameter quoted name operator) (quoted && operator.keepsQuotes))

/-- A closing brace. -/
def closeBrace (d : Draft) : Draft :=
  let l := d.layer
  if !l.innerDouble && 0 < l.braces then
    let d := d.mapLayer fun l => { l with braces := l.braces - 1 }
    let d :=
      if d.layer.braces = 0 ∧ l.ofParameter then d.popLayer
      else d.mapLayer fun l => { l with doubleBraces := l.doubleBraces - 1 }
    d.popFrame
  else d.addChar '\x7d'

/-- The word that has been read. -/
def word (d : Draft) : Word := d.frame.close

end Draft

end Enquiry.Shell
