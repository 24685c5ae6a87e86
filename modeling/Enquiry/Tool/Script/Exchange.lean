import Enquiry.Tool.Script.Method

/-!
# Values as exchanged texts

Values are written in the common notation of braces and brackets, and read back from it. What is
read is checked as it is read; a fault tells the place at which the text is wrong.
-/

namespace Enquiry.Tool.Script

open Host Text

/-- How values are written. -/
structure Writing where
  /-- What stands in front of an item for each level, if items have lines of their own. -/
  indent : Option (List Char)
  between : List Char
  behindKey : List Char
  /-- Only characters of ASCII are written as they are. -/
  plain : Bool
  sorted : Bool
  /-- What turns other values into ones that can be written. -/
  other : Option Value

/-- A unit of sixteen bits by its number. -/
def unitEscape (n : Nat) : List Char := '\\' :: 'u' :: hexFilled 4 n

/-- A character between double quotes. -/
def exchangedChar (plain : Bool) (c : Char) : List Char :=
  let n := c.toNat
  if c = '"' ∨ c = '\\' then ['\\', c]
  else if c = '\n' then ['\\', 'n']
  else if c = '\r' then ['\\', 'r']
  else if c = '\t' then ['\\', 't']
  else if n = 8 then ['\\', 'b']
  else if n = 12 then ['\\', 'f']
  else if n < 0x20 then unitEscape n
  else if plain && 0x7F ≤ n then
    if n < 0x10000 then unitEscape n
    else unitEscape (0xD800 + (n - 0x10000) / 0x400) ++ unitEscape (0xDC00 + (n - 0x10000) % 0x400)
  else [c]

def exchangedText (plain : Bool) (t : List Char) : List Char :=
  '"' :: t.flatMap (exchangedChar plain) ++ ['"']

/-- A number of double precision. -/
def exchangedReal (x : Float) : List Char :=
  match Number.Extended.ofFloat x with
  | .finite _ => realText x
  | .infinite negative => (if negative then "-Infinity" else "Infinity").toList
  | .undefined _ => "NaN".toList

namespace Running

section

variable (apply : Apply)

/-- The name of an entry. -/
def entryName (v : Value) : Running (List Char) := do
  match v with
  | .text t => return t
  | .bool b => return (if b then "true" else "false").toList
  | .none => return "null".toList
  | .whole n => return Host.signed n
  | .real x => return exchangedReal x
  | v =>
      raise "TypeError" ("keys must be str, int, float, bool or None, not ".toList ++
        (← kindNameOf v))

/-- A new line at some level. -/
def lineAt (w : Writing) (level : Nat) : List Char :=
  match w.indent with
  | some blanks => '\n' :: repeated level blanks
  | none => []

/-- What stands between brackets: the parts, each on a line of its own if there are lines. -/
def enclosed (w : Writing) (level : Nat) (first last : Char) (parts : List (List Char)) :
    List Char :=
  if parts.isEmpty then [first, last]
  else
    first :: lineAt w (level + 1) ++ List.intercalate (w.between ++ lineAt w (level + 1)) parts ++
      lineAt w level ++ [last]

/-- Entries in the order of their keys. -/
def inKeyOrder (pairs : List (Value × Value)) : Running (List (Value × Value)) := do
  let found ← inOrder apply 64 (pairs.map fun (k, v) => (k, .tuple [k, v]))
  return found.filterMap fun
    | (k, .tuple [_, v]) => some (k, v)
    | _ => none

mutual

/-- A value in the common notation. The first argument bounds the number of steps. -/
def exchangedFrom (w : Writing) : Nat → Nat → Value → Running (List Char)
  | 0, _, _ => raiseText "ValueError" "Circular reference detected"
  | n + 1, level, v => do
      let foreign : Running (List Char) := do
        match w.other with
        | some f => exchangedFrom w n level (← apply f [v] [])
        | none =>
            raise "TypeError" ("Object of type ".toList ++ (← kindNameOf v) ++
              " is not JSON serializable".toList)
      match v with
      | .none => return "null".toList
      | .bool b => return (if b then "true" else "false").toList
      | .whole k => return Host.signed k
      | .real x => return exchangedReal x
      | .text t => return exchangedText w.plain t
      | .tuple items => return enclosed w level '[' ']' (← exchangedAll w n (level + 1) items)
      | .object k =>
          match ← object k with
          | .list items =>
              return enclosed w level '[' ']' (← exchangedAll w n (level + 1) items.toList)
          | .dict d =>
              let pairs ← if w.sorted then inKeyOrder apply d.pairs else pure d.pairs
              return enclosed w level '\x7b' '\x7d' (← exchangedEntries w n (level + 1) pairs)
          | _ => foreign
      | _ => foreign

def exchangedAll (w : Writing) : Nat → Nat → List Value → Running (List (List Char))
  | _, _, [] => return []
  | 0, _, _ => return []
  | n + 1, level, v :: rest => do
      let t ← exchangedFrom w n level v
      return t :: (← exchangedAll w n level rest)

def exchangedEntries (w : Writing) :
    Nat → Nat → List (Value × Value) → Running (List (List Char))
  | _, _, [] => return []
  | 0, _, _ => return []
  | n + 1, level, (k, v) :: rest => do
      let name ← entryName k
      let t ← exchangedFrom w n level v
      return (exchangedText w.plain name ++ w.behindKey ++ t) :: (← exchangedEntries w n level rest)

end

/-- A value in the common notation, as the arguments say by their names. -/
def exchanged (g : Given) (v : Value) : Running (List Char) := do
  let indent ← match g.named.lookup "indent" with
    | none | some .none => pure none
    | some (.text t) => pure (some t)
    | some v => pure (some (List.replicate (← wantedWhole v).toNat ' '))
  let usual := if indent.isSome then [','] else [',', ' ']
  let (between, behindKey) ← match g.named.lookup "separators" with
    | none | some .none => pure (usual, [':', ' '])
    | some v =>
        match ← itemsOf apply v with
        | [a, b] => pure (← wanted a, ← wanted b)
        | _ => raiseText "ValueError" "not enough values to unpack (expected 2, got 1)"
  let plain ← match g.named.lookup "ensure_ascii" with
    | some v => holds v
    | none => pure true
  let sorted ← holds ((g.named.lookup "sort_keys").getD .none)
  let other := (g.named.lookup "default").filter fun v => !(v matches .none)
  exchangedFrom apply ⟨indent, between, behindKey, plain, sorted, other⟩ maxShown 0 v

end

/-! ### Reading -/

/-- Where a text is wrong. -/
def wrongAt {α : Type} (text : List Char) (place : Nat) (what : String) : Running α := do
  let before := text.take place
  let line := before.count '\n' + 1
  let column := (before.reverse.takeWhile (· != '\n')).length + 1
  raise "json.decoder.JSONDecodeError" (what.toList ++ ": line ".toList ++ decimal line ++
    " column ".toList ++ decimal column ++ " (char ".toList ++ decimal place ++ [')'])

def isExchangeBlank (c : Char) : Bool := c == ' ' || c == '\t' || c == '\n' || c == '\r'

/-- A rest of a text and its place. -/
abbrev Rest := List Char × Nat

def pastBlanks (r : Rest) : Rest :=
  let blanks := r.1.takeWhile isExchangeBlank
  (r.1.drop blanks.length, r.2 + blanks.length)

/-- Reads a text behind its quote. The first argument bounds the number of characters. -/
def readQuoted (text : List Char) (start : Nat) : Nat → List Char → Rest → Running (List Char × Rest)
  | 0, _, (_, i) => wrongAt text i "Unterminated string starting at"
  | n + 1, done, (rest, i) => do
      match rest with
      | [] => wrongAt text start "Unterminated string starting at"
      | '"' :: rest => return (done.reverse, rest, i + 1)
      | '\\' :: 'u' :: rest =>
          match hexDigits? 4 rest with
          | none => wrongAt text (i + 1) "Invalid \\uXXXX escape"
          | some high =>
              let low? := match rest.drop 4 with
                | '\\' :: 'u' :: more => hexDigits? 4 more
                | _ => none
              match low? with
              | some low =>
                  if 0xD800 ≤ high ∧ high ≤ 0xDBFF ∧ 0xDC00 ≤ low ∧ low ≤ 0xDFFF then
                    let c := Char.ofNat (0x10000 + (high - 0xD800) * 0x400 + (low - 0xDC00))
                    readQuoted text start n (c :: done) (rest.drop 10, i + 12)
                  else readQuoted text start n (Char.ofNat high :: done) (rest.drop 4, i + 6)
              | none => readQuoted text start n (Char.ofNat high :: done) (rest.drop 4, i + 6)
      | '\\' :: c :: rest =>
          let found := [('"', '"'), ('\\', '\\'), ('/', '/'), ('b', '\x08'), ('f', '\x0C'), ('n', '\n'),
            ('r', '\r'), ('t', '\t')].lookup c
          match found with
          | some d => readQuoted text start n (d :: done) (rest, i + 2)
          | none => wrongAt text i "Invalid \\escape"
      | c :: rest =>
          if c.toNat < 0x20 then wrongAt text i "Invalid control character at"
          readQuoted text start n (c :: done) (rest, i + 1)

/-- The number at the front of a text, and how long it is. -/
def exchangedNumber? (text : List Char) : Option (Value × Nat) :=
  let front := if text.head? = some '-' then ['-'] else []
  let text := text.drop front.length
  let whole := match text with
    | '0' :: _ => ['0']
    | text => text.takeWhile isAsciiDigit
  if whole.isEmpty then none
  else
    let text := text.drop whole.length
    let places := match text with
      | '.' :: rest =>
          let digits := rest.takeWhile isAsciiDigit
          if digits.isEmpty then [] else '.' :: digits
      | _ => []
    let text := text.drop places.length
    let power := match text with
      | e :: rest =>
          if e = 'e' ∨ e = 'E' then
            let sign := rest.take 1 |>.filter fun c => c == '-' || c == '+'
            let digits := (rest.drop sign.length).takeWhile isAsciiDigit
            if digits.isEmpty then [] else e :: sign ++ digits
          else []
      | [] => []
    let all := front ++ whole ++ places ++ power
    if places.isEmpty && power.isEmpty then
      let n : Int := digitsValue 10 whole
      some (.whole (if front.isEmpty then n else -n), all.length)
    else
      some (.real (((Number.Extended.read? all).map fun (x, _) => x.toFloat).getD 0), all.length)

/-- The words that are values. -/
def exchangedWords : List (String × Value) :=
  [("null", .none), ("true", .bool true), ("false", .bool false), ("NaN", .real (0.0 / 0.0)),
    ("Infinity", .real (1.0 / 0.0)), ("-Infinity", .real (-1.0 / 0.0))]

mutual

/-- Reads a value. The first argument bounds the number of steps. -/
def readExchanged (text : List Char) : Nat → Rest → Running (Value × Rest)
  | 0, (_, i) => wrongAt text i "Expecting value"
  | n + 1, (rest, i) => do
      match rest with
      | '"' :: more =>
          let (t, r) ← readQuoted text i (more.length + 1) [] (more, i + 1)
          return (.text t, r)
      | '[' :: more =>
          match pastBlanks (more, i + 1) with
          | (']' :: rest, i) => return (← makeList [], rest, i + 1)
          | r =>
              let (items, r) ← readItems text n [] r
              return (← makeList items, r)
      | '\x7b' :: more =>
          match pastBlanks (more, i + 1) with
          | ('\x7d' :: rest, i) => return (← makeDict [], rest, i + 1)
          | r =>
              let (entries, r) ← readEntries text n [] r
              return (← makeDict entries, r)
      | rest =>
          match exchangedNumber? rest with
          | some (v, size) => return (v, rest.drop size, i + size)
          | none =>
              match exchangedWords.find? fun (w, _) => w.toList.isPrefixOf rest with
              | some (w, v) => return (v, rest.drop w.length, i + w.length)
              | none => wrongAt text i "Expecting value"

def readItems (text : List Char) : Nat → List Value → Rest → Running (List Value × Rest)
  | 0, _, (_, i) => wrongAt text i "Expecting value"
  | n + 1, done, r => do
      let (v, r) ← readExchanged text n (pastBlanks r)
      match pastBlanks r with
      | (',' :: rest, i) => readItems text n (v :: done) (rest, i + 1)
      | (']' :: rest, i) => return ((v :: done).reverse, rest, i + 1)
      | (_, i) => wrongAt text i "Expecting ',' delimiter"

def readEntries (text : List Char) :
    Nat → List (Value × Value) → Rest → Running (List (Value × Value) × Rest)
  | 0, _, (_, i) => wrongAt text i "Expecting value"
  | n + 1, done, r => do
      match pastBlanks r with
      | ('"' :: more, i) =>
          let (k, r) ← readQuoted text i (more.length + 1) [] (more, i + 1)
          match pastBlanks r with
          | (':' :: rest, i) =>
              let (v, r) ← readExchanged text n (pastBlanks (rest, i + 1))
              match pastBlanks r with
              | (',' :: rest, i) => readEntries text n ((.text k, v) :: done) (rest, i + 1)
              | ('\x7d' :: rest, i) => return (((.text k, v) :: done).reverse, rest, i + 1)
              | (_, i) => wrongAt text i "Expecting ',' delimiter"
          | (_, i) => wrongAt text i "Expecting ':' delimiter"
      | (_, i) => wrongAt text i "Expecting property name enclosed in double quotes"

end

/-- The value that a text means. -/
def exchangedValue (text : List Char) : Running Value := do
  let (v, r) ← readExchanged text (2 * text.length + 2) (pastBlanks (text, 0))
  match pastBlanks r with
  | ([], _) => return v
  | (_, i) => wrongAt text i "Extra data"

end Running

end Enquiry.Tool.Script
