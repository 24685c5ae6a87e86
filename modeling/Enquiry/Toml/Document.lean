import Enquiry.Assignment
import Enquiry.Settings.Value
import Enquiry.Toml.Scalar

/-!
# TOML documents

A document is a sequence of lines: a key with a value, the header of a table, or nothing, each with
an optional comment. `settings?` gives what the keys outside of all tables stand for, provided that
the whole document is well formed.
-/

namespace Enquiry.Toml

open Text

/-! ### Tables of TOML

A document is a tree of tables. A table may be made by a header of its own, implied by the header
of a table inside it, or made by a key with dots. These rules say where a key may be added: a key
has one value; a header names no table that has been made already, unless it was only implied; and
a key with dots leads through no table that has a header of its own.
-/

/-- How a table came to be. -/
inductive Origin where
  | header | implied | dotted
  deriving DecidableEq, Repr

/-- What a key stands for. -/
inductive Item where
  /-- A scalar, an array or a table in braces. -/
  | value (v : SettingValue)
  | table (origin : Origin) (entries : List (String × Item))
  /-- Tables under one header, the last of them first. -/
  | tables (latest : List (String × Item)) (earlier : List (List (String × Item)))

/-- The entries of a table. -/
abbrev Entries := List (String × Item)

/-- The value as a setting. -/
def Item.setting : Item → SettingValue
  | .value v => v
  | .table _ _ => .other
  | .tables _ _ => .other

/-- Adds a key that is new. -/
def addNew? (key : String) (item : Item) (entries : Entries) : Option Entries :=
  if (entries.lookup key).isSome then none else some (entries ++ [(key, item)])

/-- Adds a value under a key with dots. `origin` is how the table of these entries came to be, and
`inside` says that a part of the key led into it. -/
def addValue? (v : SettingValue) (key : String) (inside : Bool) (origin : Origin) :
    List String → Entries → Option Entries
  | [], entries =>
      if inside ∧ origin ≠ .dotted then none else addNew? key (.value v) entries
  | part :: path, entries =>
      match entries.lookup part with
      | none =>
          (addValue? v key true .dotted path []).map fun inner =>
            assign part (.table .dotted inner) entries
      | some (.value _) => none
      | some (.table .header _) => none
      | some (.table made inner) =>
          (addValue? v key true made path inner).map fun inner =>
            assign part (.table made inner) entries
      | some (.tables latest earlier) =>
          (addValue? v key true .header path latest).map fun latest =>
            assign part (.tables latest earlier) entries

/-- Changes the entries of the table that a path of headers leads to, or of the last table where
there are several under one header. -/
def alter? (f : Entries → Option Entries) : List String → Entries → Option Entries
  | [], entries => f entries
  | part :: path, entries =>
      match entries.lookup part with
      | none => (alter? f path []).map fun inner => assign part (.table .implied inner) entries
      | some (.value _) => none
      | some (.table origin inner) =>
          (alter? f path inner).map fun inner => assign part (.table origin inner) entries
      | some (.tables latest earlier) =>
          (alter? f path latest).map fun latest => assign part (.tables latest earlier) entries

/-- Opens the table of a header. -/
def openTable? (key : String) (entries : Entries) : Option Entries :=
  match entries.lookup key with
  | none => some (assign key (.table .header []) entries)
  | some (.table .implied inner) => some (assign key (.table .header inner) entries)
  | some _ => none

/-- Opens a further table under a header of several. -/
def openFurther? (key : String) (entries : Entries) : Option Entries :=
  match entries.lookup key with
  | none => some (assign key (.tables [] []) entries)
  | some (.tables latest earlier) => some (assign key (.tables [] (latest :: earlier)) entries)
  | some _ => none

/-- How deep brackets nest at most, and how many parts a key has. -/
def maxLevels : Nat := 79

/-! ### Keys and comments -/

/-- A character of a key without quotes. -/
def isBare (c : Char) : Bool :=
  isAsciiDigit c || ('a' ≤ c && c ≤ 'z') || ('A' ≤ c && c ≤ 'Z') || c == '-' || c == '_'

/-- One part of a key. -/
def readPart? (text : List Char) : Option (String × List Char) :=
  match text with
  | '"' :: rest => (readQuoted? rest).map fun (s, rest) => (String.ofList s, rest)
  | '\'' :: rest => (readLiteral? rest).map fun (s, rest) => (String.ofList s, rest)
  | _ =>
      if (text.takeWhile isBare).isEmpty then none
      else some (String.ofList (text.takeWhile isBare), text.dropWhile isBare)

/-- A key: its parts, with dots between them. The first argument bounds their number. -/
def readKey? : Nat → List Char → Option (List String × List Char)
  | 0, _ => none
  | parts + 1, text =>
      match readPart? (skipGap text) with
      | none => none
      | some (part, rest) =>
          match skipGap rest with
          | '.' :: rest =>
              (readKey? parts rest).map fun (path, rest) => (part :: path, rest)
          | rest => some ([part], rest)

/-- What follows a comment at the front of a text, if the comment has no control characters. -/
def skipComment? (text : List Char) : Option (List Char) :=
  match text with
  | '#' :: rest => some (rest.dropWhile isQuotable)
  | _ => some text

/-- What follows the end of a line. The end of the text ends a line too. -/
def endLine? : List Char → Option (List Char)
  | [] => some []
  | '\n' :: rest => some rest
  | '\r' :: '\n' :: rest => some rest
  | _ => none

/-- The rest of a line behind its contents, and the lines after it. -/
def finishLine? (text : List Char) : Option (List Char) :=
  (skipComment? (skipGap text)).bind endLine?

/-- What follows the blanks, line ends and comments at the front of a text. -/
def skipLayout (inComment : Bool) : List Char → List Char
  | [] => []
  | c :: rest =>
      if inComment then
        if isQuotable c then skipLayout true rest
        else if c = '\n' then skipLayout false rest
        else match c, rest with
          | '\r', '\n' :: rest => skipLayout false rest
          | c, rest => c :: rest
      else if isGap c || c == '\n' then skipLayout false rest
      else if c = '#' then skipLayout true rest
      else match c, rest with
        | '\r', '\n' :: rest => skipLayout false rest
        | c, rest => c :: rest

/-! ### Values -/

/-- Adds a value under the parts of a key. -/
def addAt? (path : List String) (v : SettingValue) (entries : Entries) : Option Entries :=
  match path.reverse with
  | [] => none
  | key :: parents => addValue? v key false .header parents.reverse entries

mutual

/-- A value at the front of a text and what follows it. The first argument bounds the number of
steps, the second how deep brackets nest. -/
def readValue? : Nat → Nat → List Char → Option (SettingValue × List Char)
  | 0, _, _ => none
  | steps + 1, levels, text =>
      match text, levels with
      | '[' :: _, 0 => none
      | '[' :: rest, levels + 1 => (readItems? steps levels rest).map (.other, ·)
      | '\x7b' :: _, 0 => none
      | '\x7b' :: rest, levels + 1 =>
          match skipGap rest with
          | '\x7d' :: rest => some (.other, rest)
          | rest => (readPairs? steps levels [] rest).map (.other, ·)
      | text, _ => readScalar? text

/-- The elements of an array and its closing bracket. -/
def readItems? : Nat → Nat → List Char → Option (List Char)
  | 0, _, _ => none
  | steps + 1, levels, text =>
      match skipLayout false text with
      | ']' :: rest => some rest
      | text =>
          match readValue? steps levels text with
          | none => none
          | some (_, rest) =>
              match skipLayout false rest with
              | ',' :: rest => readItems? steps levels rest
              | ']' :: rest => some rest
              | _ => none

/-- The entries of a table in braces, behind those read already, and the closing brace. -/
def readPairs? : Nat → Nat → Entries → List Char → Option (List Char)
  | 0, _, _, _ => none
  | steps + 1, levels, entries, text =>
      match readKey? maxLevels text with
      | some (path, '=' :: rest) =>
          match readValue? steps levels (skipGap rest) with
          | none => none
          | some (v, rest) =>
              match addAt? path v entries with
              | none => none
              | some entries =>
                  match skipGap rest with
                  | ',' :: rest => readPairs? steps levels entries rest
                  | '\x7d' :: rest => some rest
                  | _ => none
      | _ => none

end

/-! ### Lines -/

/-- What has been read of a document: its tree, and the path of the table that is open. -/
structure Reading where
  entries : Entries
  current : List String

/-- Reads a header, behind its opening bracket. -/
def readHeader? (reading : Reading) (text : List Char) : Option (Reading × List Char) := do
  let (several, text) := match text with
    | '[' :: rest => (true, rest)
    | text => (false, text)
  let (path, rest) ← readKey? maxLevels text
  let rest ← readMark? ']' rest
  let rest ← (if several then readMark? ']' rest else some rest)
  let rest ← finishLine? rest
  let key ← path.getLast?
  let entries ← alter? (if several then openFurther? key else openTable? key) path.dropLast
    reading.entries
  some (⟨entries, path⟩, rest)

/-- Reads a key with its value. -/
def readKeyValue? (reading : Reading) (text : List Char) : Option (Reading × List Char) := do
  let (path, rest) ← readKey? maxLevels text
  let rest ← readMark? '=' rest
  let (v, rest) ← readValue? (2 * text.length + 2) maxLevels (skipGap rest)
  let rest ← finishLine? rest
  let entries ← alter? (addAt? path v) reading.current reading.entries
  some ({ reading with entries }, rest)

/-- Reads the lines of a document. Every step reads at least one character, so the bound on the
steps is never met. -/
def readLines? : Nat → Reading → List Char → Option Reading
  | 0, _, _ => none
  | steps + 1, reading, text =>
      match skipGap text with
      | [] => some reading
      | '[' :: rest =>
          (readHeader? reading rest).bind fun (reading, rest) => readLines? steps reading rest
      | c :: rest =>
          if c = '#' ∨ c = '\n' ∨ c = '\r' then
            (finishLine? (c :: rest)).bind (readLines? steps reading ·)
          else
            (readKeyValue? reading (c :: rest)).bind fun (reading, rest) =>
              readLines? steps reading rest

/-- A text without the mark of its byte order. -/
def dropByteOrderMark : List Char → List Char
  | '\uFEFF' :: rest => rest
  | text => text

/-- What the keys outside of all tables stand for, if the document is well formed. -/
def settings? (text : String) : Option (List (String × SettingValue)) :=
  let chars := dropByteOrderMark text.toList
  (readLines? (chars.length + 1) ⟨[], []⟩ chars).map fun reading =>
    reading.entries.map fun (key, item) => (key, item.setting)

end Enquiry.Toml
