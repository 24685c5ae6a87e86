import Enquiry.Number.Extended
import Enquiry.Tool.Lines

/-!
# Order of lines

`sort` compares lines by keys, which are parts of them, in one of several orders. What the keys do
not tell apart is compared as a whole.
-/

namespace Enquiry.Tool

open Host Text Number

/-! ### Keys -/

/-- Letters that say how a key is compared. -/
def orderLetters : List Char := "bdfghiMnRrV".toList

/-- A part of a line. -/
structure Key where
  /-- The number of a field from zero on, and of a character in it. -/
  startField : Nat
  startChar : Nat
  endField : Option Nat
  /-- Zero stands for the end of the field. -/
  endChar : Nat
  /-- Blanks at the front of the first and the last field do not count. -/
  startBlanks : Bool
  endBlanks : Bool
  order : List Char

/-- Reads a number at the front of a text. -/
def frontNumber (text : Octets) : Option Nat × Octets :=
  let digits := text.takeWhile isAsciiDigit
  (number? digits, text.drop digits.length)

/-- Reads a key. -/
def readKey (spec : Octets) : Tool Key := do
  let bad {α : Type} (what : String) : Tool α :=
    fail 2 (what.toList ++ ": invalid field specification ".toList ++ quoted spec)
  let readAt (text : Octets) (what : String) : Tool (Nat × Octets) := do
    match frontNumber text with
    | (some n, rest) => return (n, rest)
    | (none, _) => fail 2 (what.toList ++ ": invalid count at start of ".toList ++ quoted text)
  let (field, rest) ← readAt spec "invalid number at field start"
  if field = 0 then bad "field number is zero"
  let (char, rest) ← match rest with
    | '.' :: rest => do
        let (n, rest) ← readAt rest "invalid number after '.'"
        if n = 0 then bad "character offset is zero"
        pure (n, rest)
    | rest => pure (1, rest)
  let letters := rest.takeWhile orderLetters.contains
  let rest := rest.drop letters.length
  let key : Key :=
    { startField := field - 1, startChar := char - 1, endField := none, endChar := 0
      startBlanks := letters.contains 'b', endBlanks := false
      order := letters.filter (· != 'b') }
  match rest with
  | [] => return key
  | ',' :: rest =>
      let (field, rest) ← readAt rest "invalid number after ','"
      if field = 0 then bad "field number is zero"
      let (char, rest) ← match rest with
        | '.' :: rest => readAt rest "invalid number after '.'"
        | rest => pure (0, rest)
      let letters := rest.takeWhile orderLetters.contains
      if !(rest.drop letters.length).isEmpty then bad "stray character in field spec"
      return { key with
        endField := some (field - 1)
        endChar := char
        endBlanks := letters.contains 'b'
        order := key.order ++ letters.filter (· != 'b') }
  | _ => bad "stray character in field spec"

def isSpace (c : Char) : Bool := c == ' ' || c == '\t' || c == '\n'

/-- How many characters some fields at the front of a text take up. With `whole`, the mark behind
the last one belongs to them. -/
def fieldsSize (mark : Option Char) (whole : Bool) : Nat → Octets → Nat
  | 0, _ => 0
  | n + 1, text =>
      match mark with
      | some m =>
          let field := (text.takeWhile (· != m)).length
          if field < text.length ∧ (whole ∨ n ≠ 0) then
            field + 1 + fieldsSize mark whole n (text.drop (field + 1))
          else field
      | none =>
          let gap := (text.takeWhile isSpace).length
          let field := ((text.drop gap).takeWhile (!isSpace ·)).length
          gap + field + fieldsSize mark whole n (text.drop (gap + field))

/-- The part of a line that a key names. -/
def Key.part (mark : Option Char) (k : Key) (line : Octets) : Octets :=
  let skip (skips : Bool) (place : Nat) : Nat :=
    if skips then place + ((line.drop place).takeWhile isSpace).length else place
  let start := skip k.startBlanks (fieldsSize mark true k.startField line) + k.startChar
  let stop := match k.endField with
    | none => line.length
    | some field =>
        if k.endChar = 0 then fieldsSize mark false (field + 1) line
        else skip k.endBlanks (fieldsSize mark true field line) + k.endChar
  (line.take stop).drop start

/-! ### Comparisons -/

/-- A decimal number at the front of a text: its digits in front of the point and behind it. -/
structure Written where
  negative : Bool
  whole : List Char
  places : List Char
  rest : Octets

/-- The decimal number at the front of a text; nothing counts as zero. -/
def writtenNumber (text : Octets) : Written :=
  let text := text.dropWhile isSpace
  let (negative, text) := match text with
    | '-' :: rest => (true, rest)
    | text => (false, text)
  let whole := text.takeWhile isAsciiDigit
  match text.drop whole.length with
  | '.' :: rest =>
      let places := rest.takeWhile isAsciiDigit
      ⟨negative, whole, places, rest.drop places.length⟩
  | rest => ⟨negative, whole, [], rest⟩

namespace Written

/-- The value, as a whole number of units of its last place. -/
def scaled (w : Written) (places : Nat) : Int :=
  let digits := w.whole ++ w.places ++ List.replicate (places - w.places.length) '0'
  let n : Int := digitsValue 10 digits
  if w.negative then -n else n

def compare (a b : Written) : Ordering :=
  let places := max a.places.length b.places.length
  Ord.compare (a.scaled places) (b.scaled places)

/-- The order of the unit that stands behind a number. -/
def unit (w : Written) : Int :=
  let order : Nat := match w.rest with
    | c :: _ =>
        let units := "KMGTPEZYRQ".toList
        if c = 'k' then 1 else (units.findIdx? (· == c)).elim 0 (· + 1)
    | [] => 0
  let zero := (w.whole ++ w.places).all (· == '0')
  if zero then 0 else if w.negative then -(order + 1 : Int) else order + 1

end Written

/-- The order of some characters, one after another. -/
def compareChars : List Char → List Char → Ordering
  | [], [] => .eq
  | [], _ :: _ => .lt
  | _ :: _, [] => .gt
  | a :: as, b :: bs =>
      if a < b then .lt else if b < a then .gt else compareChars as bs

/-- The number of a month, or zero. -/
def monthOf (text : Octets) : Nat :=
  let months := ["JAN", "FEB", "MAR", "APR", "MAY", "JUN", "JUL", "AUG", "SEP", "OCT", "NOV", "DEC"]
  let name := String.ofList (((text.dropWhile isSpace).take 3).map Char.toUpper)
  (months.findIdx? (· == name)).elim 0 (· + 1)

/-- The place of a number of double precision: what is no number comes first. -/
def compareReals (a b : Octets) : Ordering :=
  match Extended.read? a, Extended.read? b with
  | none, none => .eq
  | none, some _ => .lt
  | some _, none => .gt
  | some (x, _), some (y, _) =>
      let undefined (x : Extended) : Bool := match x with
        | .undefined _ => true
        | _ => false
      match undefined x, undefined y with
      | true, true => .eq
      | true, false => .lt
      | false, true => .gt
      | false, false =>
          if x.toFloat < y.toFloat then .lt else if y.toFloat < x.toFloat then .gt else .eq

/-- The rank of a character in the name of a version. -/
def versionRank : Option Char → Int
  | none => -1
  | some c =>
      if isAsciiDigit c then 0
      else if c.isAlpha then c.toNat
      else if c = '~' then -2
      else c.toNat + 256

/-- The order of the parts without digits at the front of two versions. -/
def compareLetters : Nat → List Char → List Char → Ordering
  | 0, _, _ => .eq
  | n + 1, a, b =>
      let ends (cs : List Char) : Bool := cs.isEmpty || (cs.head?.map isAsciiDigit).getD true
      if ends a ∧ ends b then .eq
      else
        let rank (cs : List Char) : Int := versionRank cs.head?
        match Ord.compare (rank a) (rank b) with
        | .eq => compareLetters n (a.drop 1) (b.drop 1)
        | other => other

/-- The order of two versions: parts with digits are compared as numbers. The first argument bounds
the number of parts. -/
def compareVersions : Nat → List Char → List Char → Ordering
  | 0, _, _ => .eq
  | n + 1, a, b =>
      if a.isEmpty ∧ b.isEmpty then .eq
      else
        let letters (cs : List Char) := cs.dropWhile (!isAsciiDigit ·)
        match compareLetters (a.length + b.length + 1) a b with
        | .eq =>
            let a := letters a
            let b := letters b
            let x := a.takeWhile isAsciiDigit
            let y := b.takeWhile isAsciiDigit
            match Ord.compare (digitsValue 10 x) (digitsValue 10 y) with
            | .eq => compareVersions n (a.drop x.length) (b.drop y.length)
            | other => other
        | other => other

/-- The order of two parts of lines. -/
def compareParts (order : List Char) (a b : Octets) : Ordering :=
  let found :=
    if order.contains 'n' then (writtenNumber a).compare (writtenNumber b)
    else if order.contains 'g' then compareReals a b
    else if order.contains 'h' then
      let x := writtenNumber a
      let y := writtenNumber b
      (Ord.compare x.unit y.unit).then (x.compare y)
    else if order.contains 'M' then Ord.compare (monthOf a) (monthOf b)
    else
      let kept (text : Octets) : Octets :=
        let text := if order.contains 'd' then
          text.filter fun c => c.isAlphanum || c == ' ' || c == '\t' else text
        let text := if order.contains 'i' then
          text.filter fun c => 0x20 ≤ c.toNat && c.toNat ≤ 0x7E else text
        if order.contains 'f' then text.map Char.toUpper else text
      if order.contains 'V' then compareVersions (a.length + b.length + 2) (kept a) (kept b)
      else compareChars (kept a) (kept b)
  if order.contains 'r' then found.swap else found

/-! ### sort -/

/-- How lines are put in order. -/
structure Sorting where
  keys : List Key
  mark : Option Char
  /-- What the keys do not tell apart stays as it is. -/
  stable : Bool
  reversed : Bool

/-- A line with the parts that are compared. -/
structure Sorted where
  line : Octets
  parts : List Octets

def Sorting.prepare (s : Sorting) (line : Octets) : Sorted :=
  ⟨line, s.keys.map fun k => k.part s.mark line⟩

/-- The order of two lines by their keys. -/
def Sorting.compareKeys (s : Sorting) (a b : Sorted) : Ordering :=
  ((s.keys.zip (a.parts.zip b.parts)).foldl
    (fun found (k, x, y) =>
      match found with
      | .eq => compareParts k.order x y
      | other => other)
    .eq)

def Sorting.compare (s : Sorting) (a b : Sorted) : Ordering :=
  match s.compareKeys a b with
  | .eq =>
      if s.stable then .eq
      else
        let whole := compareChars a.line b.line
        if s.reversed then whole.swap else whole
  | other => other

/-- The first of all lines in a row that the keys do not tell apart. -/
def Sorting.unique (s : Sorting) : List Sorted → List Sorted
  | [] => []
  | a :: rest =>
      match s.unique rest with
      | [] => [a]
      | b :: others => if s.compareKeys a b == .eq then a :: others else a :: b :: others

/-- The first line that is out of order, with its number. -/
def Sorting.disorder? (s : Sorting) (unique : Bool) : Nat → List Sorted → Option (Nat × Sorted)
  | n, a :: b :: rest =>
      let wrong := match s.compare a b with
        | .gt => true
        | .eq => unique
        | .lt => false
      if wrong then some (n + 1, b) else s.disorder? unique (n + 1) (b :: rest)
  | _, _ => none

def sortWords : List (String × Char) :=
  [("ignore-leading-blanks", 'b'), ("dictionary-order", 'd'), ("ignore-case", 'f'),
    ("general-numeric-sort", 'g'), ("human-numeric-sort", 'h'), ("ignore-nonprinting", 'i'),
    ("month-sort", 'M'), ("numeric-sort", 'n'), ("random-sort", 'R'), ("reverse", 'r'),
    ("version-sort", 'V'), ("check", 'c'), ("key", 'k'), ("merge", 'm'), ("output", 'o'),
    ("stable", 's'), ("buffer-size", 'S'), ("field-separator", 't'),
    ("temporary-directory", 'T'), ("unique", 'u'), ("zero-terminated", 'z'), ("parallel=", 'P')]

def sort (args : List Octets) : Tool Unit := do
  let (flags, names) ← readFlags
    { Known.of "bdfghiMnRrVcCk:mo:sS:t:T:uz" sortWords with status := 2 } args
  let mark ← match value? flags 't' with
    | none => pure none
    | some [c] => pure (some c)
    | some ['\\', '0'] => pure (some '\x00')
    | some [] => fail 2 "empty tab".toList
    | some text => fail 2 ("multi-character tab ".toList ++ quoted text)
  let letters := orderLetters.filter (has flags)
  let shared := letters.filter (· != 'b')
  let blanks := has flags 'b'
  let given ← (flags.filter fun (c, _) => c == 'k').mapM fun (_, spec) => readKey spec
  let keys := given.map fun k =>
    if k.order.isEmpty && !k.startBlanks && !k.endBlanks then
      { k with order := shared, startBlanks := blanks, endBlanks := blanks }
    else k
  let plain := keys.isEmpty && letters.all (· == 'r')
  let keys := if keys.isEmpty && !plain then
    [{ startField := 0, startChar := 0, endField := none, endChar := 0
       startBlanks := blanks, endBlanks := false, order := shared : Key }] else keys
  let s : Sorting := ⟨keys, mark, has flags 's' || has flags 'u', has flags 'r'⟩
  let s := if plain then { s with keys :=
    [⟨0, 0, none, 0, false, false, if has flags 'r' then ['r'] else []⟩] } else s
  let checks := has flags 'c' || has flags 'C'
  if checks then
    match names with
    | _ :: extra :: _ =>
        let letter := if has flags 'c' then 'c' else 'C'
        fail 2 ("extra operand ".toList ++ shellQuoted extra ++ " not allowed with -".toList ++
          [letter])
    | _ => pure ()
  let refusal : Refusal := fun name e => "cannot read: ".toList ++ shown name ++ ": ".toList ++ wording e
  let texts ← (orInput names).mapM fun name => do
    match ← readInput refusal 2 name with
    | some text => return text
    | none => throw 2
  let mark := if has flags 'z' then '\x00' else '\n'
  let linesIn (text : Octets) : List Octets :=
    let parts := List.splitOn mark text
    if parts.getLast? = some [] then parts.dropLast else parts
  let inputs := texts.map fun text => (linesIn text).map s.prepare
  let lines := inputs.flatten
  if checks then
    match s.disorder? (has flags 'u') 1 lines with
    | none => return ()
    | some (n, l) =>
        if has flags 'c' then
          fail 1 (((names.head?).getD ['-']) ++ ':' :: decimal n ++ ": disorder: ".toList ++ l.line)
        else throw 1
  let before (a b : Sorted) : Bool := s.compare a b != .gt
  let sorted := if has flags 'm' then inputs.foldl (fun found lines => found.merge lines before) []
    else lines.mergeSort before
  let sorted := if has flags 'u' then s.unique sorted else sorted
  match value? flags 'o' with
  | none => pure ()
  | some name =>
      match ← Program.call (.opening name .writing 0o666) with
      | .ok descriptor =>
          let _ ← Program.call (.redirect 1 descriptor)
      | .error e => fail 2 ("open failed: ".toList ++ shown name ++ ": ".toList ++ wording e)
  print (sorted.flatMap fun l => l.line ++ [mark])

/-! ### comm -/

/-- The lines of two sorted lists side by side: in the first only, in the second only, in both. The
first argument bounds their number. -/
def columns : Nat → List Octets → List Octets → List (Nat × Octets)
  | 0, _, _ => []
  | _, [], bs => bs.map (2, ·)
  | _, as, [] => as.map (1, ·)
  | n + 1, a :: as, b :: bs =>
      match compareChars a b with
      | .lt => (1, a) :: columns n as (b :: bs)
      | .gt => (2, b) :: columns n (a :: as) bs
      | .eq => (3, a) :: columns n as bs

/-- The lines of an input that has to be there. -/
def linesOrStop (status : Nat) (name : Octets) : Tool (List Octets) := do
  match ← readInput plainRefusal status name with
  | some text => return (linesOf text).map Line.text
  | none => throw status

def comm (args : List Octets) : Tool Unit := do
  let (flags, names) ← readFlags
    (.of "123z" [("check-order", 'x'), ("nocheck-order", 'y'), ("output-delimiter=", 'o'),
      ("total", 't')]) args
  match names with
  | [first, second] =>
      let as ← linesOrStop 1 first
      let bs ← linesOrStop 1 second
      let mark := (value? flags 'o').getD ['\t']
      let hidden (n : Nat) : Bool := has flags (digitChar n)
      for (n, text) in columns (as.length + bs.length + 1) as bs do
        if !hidden n then
          let front := ((List.range n).filter fun k => k ≠ 0 ∧ !hidden k).flatMap fun _ => mark
          printLine (front ++ text)
  | [] => missingOperand 1
  | [one] => misused 1 ("missing operand after ".toList ++ quoted one)
  | _ :: _ :: extra :: _ => extraOperand 1 extra

/-! ### join -/

/-- The fields of a line, and the field by which it is joined. -/
def joinedFields (mark : Option Char) (n : Nat) (line : Octets) : Octets × List Octets :=
  let fields := match mark with
    | some c => List.splitOn c line
    | none => (List.splitOn ' ' (line.map fun c => if c == '\t' then ' ' else c)).filter
        (!·.isEmpty)
  ((fields[n - 1]?).getD [], fields.eraseIdx (n - 1))

def join (args : List Octets) : Tool Unit := do
  let (flags, names) ← readFlags (.of "1:2:j:t:a:v:e:o:i" [("ignore-case", 'i')]) args
  let mark := (value? flags 't').bind List.head?
  let place (c : Char) : Nat :=
    (((value? flags c).or (value? flags 'j')).bind number?).getD 1
  let out := (mark.getD ' ')
  match names with
  | [first, second] =>
      let as := (← linesOrStop 1 first).map (joinedFields mark (place '1'))
      let bs := (← linesOrStop 1 second).map (joinedFields mark (place '2'))
      let wanted (c : Char) (text : Octets) : Bool := flags.any (· == (c, text))
      for (key, fields) in as do
        let found := bs.filter fun (k, _) => k == key
        if !has flags 'v' then
          for (_, others) in found do
            printLine (List.intercalate [out] (key :: fields ++ others))
        if found.isEmpty && (wanted 'a' ['1'] || wanted 'v' ['1']) then
          printLine (List.intercalate [out] (key :: fields))
      for (key, fields) in bs do
        if !(as.any fun (k, _) => k == key) && (wanted 'a' ['2'] || wanted 'v' ['2']) then
          printLine (List.intercalate [out] (key :: fields))
  | [] => missingOperand 1
  | [one] => misused 1 ("missing operand after ".toList ++ quoted one)
  | _ :: _ :: extra :: _ => extraOperand 1 extra

end Enquiry.Tool
