import Enquiry.Host.Accounts
import Enquiry.Shell.Arithmetic
import Enquiry.Shell.Field
import Enquiry.Shell.Pattern
import Enquiry.Shell.State

/-!
# Expansion of words

What words become: a parameter its value, a command its output, an expression its result, and a
tilde a directory. `Expander` stands for the expansion of the words within a word, and for running
the commands in it.
-/

/-! ### Paths that match patterns

A field with patterns becomes the paths that match it, in their order. A slash is matched by
nothing but itself, and a name that begins with a dot only by a pattern that does too.
-/

namespace Enquiry.Shell.Paths

open Host

/-- A backslash lets the next character stand for itself. -/
def resolveEscapes : List Marked → List Marked
  | ('\\', false) :: (c, _) :: rest => (c, true) :: resolveEscapes rest
  | m :: rest => m :: resolveEscapes rest
  | [] => []

/-- A part of a path means more than itself. A bracket does if a set follows it. -/
def isPattern : List Marked → Bool
  | [] => false
  | ('*', false) :: _ => true
  | ('?', false) :: _ => true
  | ('[', false) :: rest =>
      let inside := match rest with
        | ('!', false) :: more => more
        | _ => rest
      (inside.drop 1).contains (']', false) || isPattern rest
  | _ :: rest => isPattern rest

/-- The names in a directory that match a pattern. -/
def names (directory : Octets) (pattern : List Marked) : Sh (List Octets) := do
  let path := if directory.isEmpty then ['.'] else directory
  match ← Program.call (.list path) with
  | .error _ => return []
  | .ok names =>
      let dotted := (pattern.head?.map Prod.fst) == some '.'
      let names := if dotted then ['.'] :: ['.', '.'] :: names else names
      let p := Pattern.ofMarked (← get).extended pattern
      return names.filter fun name => (dotted || name.head? != some '.') && p.holds name

/-- There is something at a path. -/
def exists? (path : Octets) : Sh Bool := do
  return (← Program.call (.status path false)) matches .ok _

/-- The paths behind a directory that match a pattern. The first argument bounds the number of
parts. -/
def search : Nat → Octets → List Marked → Sh (List Octets)
  | 0, _, _ => return []
  | n + 1, directory, text => do
      let part := text.takeWhile fun (c, _) => c != '/'
      let plain := directory ++ part.map Prod.fst
      match text.drop part.length with
      | [] =>
          if isPattern part then return (← names directory part).map (directory ++ ·)
          else if ← exists? plain then return [plain]
          else return []
      | slash :: rest =>
          if isPattern part then
            let found ← (← names directory part).mapM fun name =>
              search n (directory ++ name ++ [slash.1]) rest
            return found.flatten
          else search n (plain ++ [slash.1]) rest

/-- The paths that match a field; the field itself when there are none. -/
def expand (f : List Marked) : Sh (List Octets) := do
  if !hasMeta f then return [f.map Prod.fst]
  let text := resolveEscapes f
  let found ← if isPattern text then search (text.length + 1) [] text else pure []
  return if found.isEmpty then [f.map Prod.fst] else found.mergeSort fun a b => !(b < a)

end Enquiry.Shell.Paths

/-! ### Words -/

namespace Enquiry.Shell

open Host Text

/-- What a word is expanded for. -/
structure Manner where
  /-- Each argument is a field of its own. -/
  splits : Bool
  /-- A tilde at the front stands for a directory. -/
  tilde : Bool
  /-- So does one behind the first equals sign and behind colons. -/
  assigns : Bool
  /-- The word stands behind an operator in a parameter. -/
  inner : Bool

namespace Manner

def fields : Manner := ⟨true, true, false, false⟩

/-- One text, with no tilde in it. -/
def plain : Manner := ⟨false, false, false, false⟩

def single : Manner := ⟨false, true, false, false⟩

def assignment : Manner := ⟨false, false, true, false⟩

end Manner

/-- How what stands in a word is expanded. -/
structure Expander where
  /-- The output of a command, without the line ends behind it. -/
  capture : Option Command → Sh Octets
  expand : Manner → Word → Sh (List Piece)

/-! ### Tildes -/

/-- The directory behind a tilde. -/
def home? (s : State) (user : Octets) : Option Octets :=
  if user.isEmpty then s.value? "HOME" else Account.home? user

/-- The cells of unquoted text. A tilde may stand at its front with `may`, behind an equals sign
with `equals`, and behind a colon with `colons`; `ends` says that the word ends with the text. The
first argument bounds the number of characters. -/
def tildes (s : State) (colons ends : Bool) : Nat → (may equals : Bool) → Octets → List Cell
  | 0, _, _, _ => []
  | _, _, _, [] => []
  | n + 1, may, equals, c :: rest =>
      let user := rest.takeWhile fun c => c != '/' && !(colons && c == ':')
      let behind := rest.drop user.length
      let home := if may && c == '~' && (ends || !behind.isEmpty) then home? s user else none
      match home with
      | some directory =>
          directory.map (.char · true) ++ tildes s colons ends n false equals behind
      | none =>
          let opens := (equals && c == '=') || (colons && c == ':')
          .char c false :: tildes s colons ends n opens (equals && c != '=') rest

/-! ### Parameters -/

/-- Stands between two arguments. -/
def argumentMark : Char := '\x00'

/-- The value of a parameter, if it is set. -/
def parameterText? (s : State) (m : Manner) (quoted : Bool) (name : String) : Option Octets :=
  if name = "@" ∨ name = "*" then
    let apart := m.splits && (!quoted || name == "@")
    some (List.intercalate (if apart then [argumentMark] else s.separator) s.arguments)
  else s.parameter? name

/-- The piece that the value of a parameter becomes. -/
def valuePiece (s : State) (quoted : Bool) (name : String) (value : Octets) : Piece :=
  let region : Region :=
    if !quoted then .loose
    else if name = "@" ∧ !s.arguments.isEmpty then .exact
    else .whole
  ⟨region, value.map fun c => if c = argumentMark then .gap else .char c quoted⟩

/-- A parameter that has to be set is not. -/
def notSet {α : Type} (name : String) : Sh α :=
  Sh.fault (octets name ++ ": parameter not set".toList)

namespace Expander

variable (e : Expander)

/-- A word as one text. -/
def text (m : Manner) (w : Word) : Sh Octets := do return (Piece.join (← e.expand m w)).text

/-- A word as the characters of a pattern. -/
def pattern (w : Word) : Sh Pattern := do
  let marked := (Piece.join (← e.expand .single w)).marked
  return Pattern.ofMarked (← get).extended marked

/-- The fields of a word. -/
def fields (w : Word) : Sh (List Octets) := do
  let pieces ← e.expand .fields w
  let s ← get
  let found := Piece.fields ((s.value? "IFS").getD blanks) none pieces
  if s.options.keepsPatterns || !found.any fun f => hasMeta f.marked then
    return found.map Field.text
  else return (← found.mapM fun f => Paths.expand f.marked).flatten

/-- The number that an expression in a word comes to. -/
def number (w : Word) : Sh Int := do Arithmetic.evaluate (← e.text .plain w)

/-- What is left of a value when a pattern is cut off. -/
def cut (how : Cut) (p : Pattern) (value : Octets) : Octets :=
  let keepEnd (n : Option Nat) := value.drop (n.getD 0)
  let keepFront (n : Option Nat) := value.take (value.length - n.getD 0)
  match how with
  | .shortStart => keepEnd (p.front? false value)
  | .longStart => keepEnd (p.front? true value)
  | .shortEnd => keepFront (p.end? false value)
  | .longEnd => keepFront (p.end? true value)

/-- A part of a list, from an offset on, which counts from the end when it is negative. -/
def slice {α : Type} (offset : Int) (size : Option Int) (xs : List α) : List α :=
  let start := if offset < 0 then (xs.length : Int) + offset else offset
  if start < 0 then []
  else
    let rest := xs.drop start.toNat
    match size with
    | none => rest
    | some n => if n < 0 then rest.take (rest.length - n.natAbs) else rest.take n.toNat

/-- Replaces what a pattern matches, in a value from its front on. -/
def replaceFrom (p : Pattern) (all : Bool) (new : Octets) : Nat → Octets → Octets
  | 0, value => value
  | _, [] => []
  | n + 1, c :: rest =>
      match p.front? true (c :: rest) with
      | some size =>
          if size = 0 then c :: replaceFrom p all new n rest
          else
            let behind := (c :: rest).drop size
            new ++ if all then replaceFrom p all new n behind else behind
      | none => c :: replaceFrom p all new n rest

def replaced (spot : Spot) (p : Pattern) (new value : Octets) : Octets :=
  if p.isEmpty then value
  else match spot with
    | .first => replaceFrom p false new value.length value
    | .all => replaceFrom p true new value.length value
    | .atStart =>
        match p.front? true value with
        | some n => new ++ value.drop n
        | none => value
    | .atEnd =>
        match p.end? true value with
        | some n => value.take (value.length - n) ++ new
        | none => value

/-- A value with its first letter, or all of them, in the other case. -/
def recased (upper all : Bool) (value : Octets) : Octets :=
  let change (c : Char) := if upper then c.toUpper else c.toLower
  match value with
  | [] => []
  | c :: rest => change c :: if all then rest.map change else rest

/-- What a use makes of the value of a parameter that is set. -/
def used (s : State) (m : Manner) (name : String) (value : Octets) : Use → Sh Octets
  | .cut how w => do return cut how (← e.pattern w) value
  | .replace spot p new => do
      let p ← e.pattern p
      return replaced spot p (← e.text .single new) value
  | .recase upper all => return recased upper all value
  | .slice offset size => do
      let offset ← e.number offset
      let size ← match size with
        | some w => some <$> e.number w
        | none => pure none
      if name = "@" ∨ name = "*" then
        let mark := if m.splits then [argumentMark] else s.separator
        return List.intercalate mark (slice offset size (s.name :: s.arguments))
      else return slice offset size value
  | _ => return value

/-- The number of characters of a parameter. -/
def lengthOf (s : State) (name : String) (value : Octets) : Nat :=
  if s.extended ∧ (name = "@" ∨ name = "*") then s.arguments.length else value.length

/-- The pieces of a parameter. -/
def parameter (m : Manner) (quoted : Bool) (name : String) (use : Use) : Sh (List Piece) := do
  let s ← get
  let value := parameterText? s m quoted name
  let isMissing (emptyToo : Bool) := value.isNone || (emptyToo && value == some [])
  let found : Sh (List Piece) := return [valuePiece s quoted name (value.getD [])]
  let behind : Manner := { m with tilde := true, inner := true }
  match use with
  | .bad => Sh.fault "Bad substitution".toList
  | .default emptyToo w => if isMissing emptyToo then e.expand behind w else found
  | .alternative emptyToo w => if isMissing emptyToo then return [] else e.expand behind w
  | .assign emptyToo w =>
      if isMissing emptyToo then
        let new ← e.text .single w
        if !isName (octets name) then Sh.fault (octets name ++ ": bad variable name".toList)
        Sh.assign name new
        return [valuePiece s quoted name new]
      else found
  | .require emptyToo w =>
      if isMissing emptyToo then
        let told ← e.text .single w
        let message :=
          if !w.isEmpty then told
          else if emptyToo then "parameter not set or null".toList
          else "parameter not set".toList
        Sh.fault (octets name ++ ": ".toList ++ message)
      else found
  | use =>
      match value with
      | none => if s.options.requiresSet then notSet name else
          match use with
          | .length => return [Piece.ofValue quoted ['0']]
          | _ => return [valuePiece s quoted name []]
      | some value =>
          match use with
          | .length => return [Piece.ofValue quoted (decimal (lengthOf s name value))]
          | use => return [valuePiece s quoted name (← e.used s m name value use)]

/-! ### Words -/

/-- The pieces of a part. -/
def part (m : Manner) (first last : Bool) : Part → Sh (List Piece)
  | .text true chars => return [Piece.ofText true chars]
  | .text false chars => do
      let s ← get
      let cells :=
        if m.tilde || m.assigns then
          tildes s m.assigns last chars.length (first && m.tilde) (first && m.assigns) chars
        else chars.map (.char · false)
      return [⟨if m.inner then .loose else .whole, cells⟩]
  | .mark => return [⟨.whole, [.mark]⟩]
  | .parameter quoted name use => e.parameter m quoted name use
  | .command quoted body => do return [Piece.ofValue quoted (← e.capture body)]
  | .arithmetic quoted expression => do
      return [Piece.ofValue quoted (signed (← e.number expression))]

/-- The pieces of the parts of a word. Quotes around all arguments alone leave no mark, so that no
arguments are no field. -/
def parts (m : Manner) : (first inQuotes : Bool) → Word → Sh (List Piece)
  | _, _, [] => return []
  | _, false, .mark :: .parameter true "@" .value :: .mark :: rest => do
      let pieces ← e.parameter m true "@" .value
      return pieces ++ (← parts m false false rest)
  | first, inQuotes, p :: rest => do
      let pieces ← e.part m first rest.isEmpty p
      let inQuotes := match p with
        | .mark => !inQuotes
        | _ => inQuotes
      return pieces ++ (← parts m false inQuotes rest)

end Expander

end Enquiry.Shell
