import Enquiry.Number.Extended
import Enquiry.Tool.Lines

/-!
# Counting

Counts of lines, words and characters; lines that are the same; numbers in front of lines; and rows
of numbers.
-/

namespace Enquiry.Tool

open Host Text Number

/-! ### wc -/

structure Counts where
  lines : Nat
  words : Nat
  bytes : Nat
  longest : Nat
  /-- The length of the present line. -/
  line : Nat
  inWord : Bool

namespace Counts

def zero : Counts := ⟨0, 0, 0, 0, 0, false⟩

def add (n : Counts) (c : Char) : Counts :=
  let gap := isGap c
  let line := if c = '\n' then 0 else if c = '\t' then (n.line / 8 + 1) * 8 else n.line + 1
  { lines := if c = '\n' then n.lines + 1 else n.lines
    words := if !gap && !n.inWord then n.words + 1 else n.words
    bytes := n.bytes + 1
    longest := max n.longest line
    line := line
    inWord := !gap }

/-- The counts of both. -/
def join (a b : Counts) : Counts :=
  ⟨a.lines + b.lines, a.words + b.words, a.bytes + b.bytes, max a.longest b.longest, 0, false⟩

end Counts

/-- The counts of an input. The first argument bounds the number of blocks. -/
def countInput (name : Octets) (descriptor : Nat) : Nat → Counts → Tool Counts
  | 0, n => return n
  | k + 1, n => do
      match ← readBlock 1 name descriptor blockSize with
      | [] => return n
      | data => countInput name descriptor k (data.foldl Counts.add n)

/-- A line of counts. -/
def countLine (flags : List Flag) (width : Nat) (n : Counts) (name : Option Octets) : Octets :=
  let wanted := [('l', n.lines), ('w', n.words), ('m', n.bytes), ('c', n.bytes), ('L', n.longest)]
  let chosen := wanted.filter fun (c, _) => has flags c
  let all := if chosen.isEmpty then [n.lines, n.words, n.bytes] else chosen.map Prod.snd
  let l : Layout := { Layout.plain with width }
  List.intercalate [' '] (all.map fun (k : Nat) => l.integer k) ++
    (match name with
      | some name => ' ' :: name
      | none => []) ++ ['\n']

def countInputs (flags : List Flag) (width : Nat) (named : Bool) :
    List Octets → Counts → Tool Counts
  | [], n => return n
  | name :: rest, n => do
      match ← openInput plainRefusal 1 name with
      | none => countInputs flags width named rest n
      | some descriptor =>
          let found ← countInput name descriptor Program.maxReads .zero
          closeInput descriptor
          print (countLine flags width found (if named then some name else none))
          countInputs flags width named rest (n.join found)

/-- The statuses of some inputs that are there. -/
def statuses : List Octets → Tool (List FileStatus)
  | [] => return []
  | name :: rest => do
      let found ← if name = ['-'] then Program.call (.descriptorStatus 0)
        else Program.call (.status name true)
      let others ← statuses rest
      match found with
      | .ok status => return status :: others
      | .error _ => return others

/-- The width of the counts. -/
def countWidth (flags : List Flag) (names : List Octets) : Tool Nat := do
  let kinds := ("lwmcL".toList.filter (has flags)).length
  if names.length = 1 ∧ kinds = 1 then return 1
  let found ← statuses names
  let (regular, others) := found.partition fun s => s.kind == .regular
  let total := regular.foldl (fun n s => n + s.size) 0
  return max (decimal total).length (if others.isEmpty then 1 else 7)

def wcWords : List (String × Char) :=
  [("lines", 'l'), ("words", 'w'), ("chars", 'm'), ("bytes", 'c'), ("max-line-length", 'L')]

def wc (args : List Octets) : Tool Unit := do
  let (flags, names) ← readFlags (.of "lwmcL" wcWords) args
  let inputs := orInput names
  let width ← countWidth flags inputs
  let total ← countInputs flags width (!names.isEmpty) inputs .zero
  if 1 < names.length then print (countLine flags width total (some "total".toList))

/-! ### uniq -/

/-- Lines that are the same, of which the first one is shown. -/
structure Run where
  lines : List Octets
  count : Nat

/-- What is compared of a line: without its first fields and characters, and no more than so many
characters. -/
def comparedPart (fields chars : Nat) (size : Option Nat) (fold : Bool) (text : Octets) : Octets :=
  let dropField (text : Octets) : Octets :=
    let blank (c : Char) := c == ' ' || c == '\t'
    (text.dropWhile blank).dropWhile (!blank ·)
  let rest := ((List.range fields).foldl (fun text _ => dropField text) text).drop chars
  let rest := match size with
    | some n => rest.take n
    | none => rest
  if fold then rest.map Char.toUpper else rest

/-- What is written of lines that are the same. -/
def writtenRun (flags : List Flag) (r : Run) : Octets :=
  let lines := r.lines.reverse
  if has flags 'D' then
    if 1 < r.count then (lines.map fun l => l ++ ['\n']).flatten else []
  else if (has flags 'd' && r.count == 1) || (has flags 'u' && r.count != 1) then []
  else
    let front := if has flags 'c' then
      { Layout.plain with width := 7 }.integer r.count ++ [' '] else []
    front ++ lines.headD [] ++ ['\n']

def uniqWords : List (String × Char) :=
  [("count", 'c'), ("repeated", 'd'), ("unique", 'u'), ("ignore-case", 'i'), ("skip-fields", 'f'),
    ("skip-chars", 's'), ("check-chars", 'w'), ("zero-terminated", 'z'), ("all-repeated", 'D')]

/-- The number behind an option. -/
def countOf (flags : List Flag) (c : Char) (what : String) : Tool (Option Nat) := do
  match value? flags c with
  | none => return none
  | some text =>
      match number? text with
      | some n => return some n
      | none => fail 1 (text ++ ": invalid number of ".toList ++ what.toList)

/-- Lets what is written from now on go to a file. -/
def writeTo (name : Octets) : Tool Unit := do
  if name ≠ ['-'] then
    match ← Program.call (.opening name .writing 0o666) with
    | .ok descriptor =>
        let _ ← Program.call (.redirect 1 descriptor)
        let _ ← Program.call (.close descriptor)
    | .error e => fail 1 (plainRefusal name e)

def uniq (args : List Octets) : Tool Unit := do
  let (flags, names) ← readFlags (.of "cduif:s:w:zD" uniqWords) args
  let fields := (← countOf flags 'f' "fields to skip").getD 0
  let chars := (← countOf flags 's' "bytes to skip").getD 0
  let size ← countOf flags 'w' "bytes to compare"
  let key := comparedPart fields chars size (has flags 'i')
  match names with
  | _ :: _ :: extra :: _ => extraOperand 1 extra
  | _ => pure ()
  match names[1]? with
  | some name => writeTo name
  | none => pure ()
  let step (r : Option Run) (l : Line) : Turn (Option Run) :=
    match r with
    | none => ⟨some ⟨[l.text], 1⟩, [], false⟩
    | some r =>
        if key (r.lines.headD []) = key l.text then
          ⟨some ⟨if has flags 'D' then l.text :: r.lines else r.lines, r.count + 1⟩, [], false⟩
        else ⟨some ⟨[l.text], 1⟩, writtenRun flags r, false⟩
  let (last, _) ← filterInput plainRefusal 1 step (names.headD ['-']) none
  match last with
  | some r => print (writtenRun flags r)
  | none => return ()

/-! ### nl -/

def nlWords : List (String × Char) :=
  [("body-numbering", 'b'), ("number-width", 'w'), ("number-separator", 's'),
    ("starting-line-number", 'v'), ("line-increment", 'i')]

def nl (args : List Octets) : Tool Unit := do
  let (flags, names) ← readFlags (.of "b:w:s:v:i:n:h:f:d:l:p" nlWords) args
  let all := value? flags 'b' == some ['a']
  let none_ := value? flags 'b' == some ['n']
  let width := ((value? flags 'w').bind number?).getD 6
  let apart := (value? flags 's').getD ['\t']
  let start := ((value? flags 'v').bind (Integer.whole? (some 10))).getD 1
  let increment := ((value? flags 'i').bind (Integer.whole? (some 10))).getD 1
  let layout : Layout := match value? flags 'n' with
    | some ['l', 'n'] => { Layout.plain with width, left := true }
    | some ['r', 'z'] => { Layout.plain with width, zero := true }
    | _ => { Layout.plain with width }
  let step (n : Int) (l : Line) : Turn Int :=
    if !none_ && (all || !l.text.isEmpty) then
      ⟨n + increment, layout.integer n ++ apart ++ l.text ++ ['\n'], false⟩
    else
      ⟨n, List.replicate (width + apart.length) ' ' ++ l.text ++ ['\n'], false⟩
  let _ ← filterInputs plainRefusal 1 step (orInput names) start

/-! ### seq -/

/-- A decimal number: `value · 10 ^ (-places)`. -/
structure Place where
  value : Int
  places : Nat

/-- The decimal number that a text is. -/
def decimal? (text : Octets) : Option Place :=
  let text := text.dropWhile isGap
  let (negative, text) := match text with
    | '-' :: rest => (true, rest)
    | '+' :: rest => (false, rest)
    | text => (false, text)
  let whole := text.takeWhile isAsciiDigit
  let (fraction, rest) := match text.drop whole.length with
    | '.' :: rest =>
        let digits := rest.takeWhile isAsciiDigit
        (digits, rest.drop digits.length)
    | rest => ([], rest)
  let (power, rest) := Extended.readPower ['e', 'E'] rest
  if (whole.isEmpty && fraction.isEmpty) || !rest.isEmpty || 1000 < power.natAbs then none
  else
    let n : Int := digitsValue 10 (whole ++ fraction)
    let n := if negative then -n else n
    let places : Int := fraction.length - power
    if places < 0 then some ⟨n * Nat.pow 10 places.natAbs, 0⟩ else some ⟨n, places.toNat⟩

/-- A decimal number with so many places. -/
def Place.scaled (p : Place) (places : Nat) : Int := p.value * Nat.pow 10 (places - p.places)

/-- The text of a decimal number with so many places. -/
def placeText (places : Nat) (n : Int) : Octets :=
  let digits := Extended.fixedDigits false places n.natAbs (Nat.pow 10 places)
  if n < 0 then '-' :: digits else digits

/-- Writes numbers one after another. The first argument bounds their number. -/
def writeNumbers (text : Int → Octets) (apart : Octets) (step last : Int) :
    Nat → Bool → Int → Tool Unit
  | 0, _, _ => return ()
  | k + 1, first, n => do
      if (0 < step ∧ last < n) ∨ (step < 0 ∧ n < last) then
        if !first then print ['\n']
      else
        print (if first then text n else apart ++ text n)
        if (k + 1) % 64 = 0 then let _ ← Program.call (.tick 1000)
        writeNumbers text apart step last k false (n + step)

/-- The text of a number in a format with one place. -/
def inFormat? (format : Octets) : Option (Extended → Octets) :=
  let front := format.takeWhile (· != '%')
  match format.drop front.length with
  | '%' :: rest =>
      let flags := rest.takeWhile Layout.isFlag
      let rest := rest.drop flags.length
      let width := rest.takeWhile isAsciiDigit
      let rest := rest.drop width.length
      let (precision, rest) : Option Nat × Octets := match rest with
        | '.' :: more =>
            let digits := more.takeWhile isAsciiDigit
            (some ((number? digits).getD 0), more.drop digits.length)
        | rest => (none, rest)
      match rest with
      | letter :: behind =>
          if "eEfFgG".toList.contains letter then
            let layout : Layout :=
              { flags.foldl Layout.withFlag .plain with width := (number? width).getD 0, precision }
            some fun x => front ++ Extended.layOut layout letter x ++ behind
          else none
      | [] => none
  | _ => none

/-- A number in front of which a dash is no sign of an option. -/
def isNegative (arg : Octets) : Bool :=
  match arg with
  | '-' :: c :: _ => isAsciiDigit c || c == '.'
  | _ => false

/-- The options in front of the numbers. -/
def seqFlags (args : List Octets) : Tool (List Flag × List Octets) := do
  let front := args.takeWhile fun a => !isNegative a
  let k := Known.of "s:f:w" [("separator", 's'), ("format", 'f'), ("equal-width", 'w')]
  let (flags, numbers) ← readFlags { k with strict := true } front
  return (flags, numbers ++ args.drop front.length)

def seq (args : List Octets) : Tool Unit := do
  let (flags, numbers) ← seqFlags args
  let read (text : Octets) : Tool Place := do
    match decimal? text with
    | some p => return p
    | none => misused 1 ("invalid floating point argument: ".toList ++ quoted text)
  let (first, step, last) ← match numbers with
    | [] => missingOperand 1
    | [last] => do
        let last ← read last
        pure ((⟨1, 0⟩ : Place), (⟨1, 0⟩ : Place), last)
    | [first, last] => do
        let first ← read first
        let last ← read last
        pure (first, (⟨1, 0⟩ : Place), last)
    | [first, step, last] => do
        let first ← read first
        let stepText := step
        let step ← read step
        let last ← read last
        if step.value = 0 then
          misused 1 ("invalid Zero increment value: ".toList ++ quoted stepText)
        pure (first, step, last)
    | _ :: _ :: _ :: extra :: _ => extraOperand 1 extra
  let shownPlaces := max first.places step.places
  let places := max shownPlaces last.places
  let scale := Nat.pow 10 (places - shownPlaces)
  let start := first.scaled places
  let delta := step.scaled places
  let stop := last.scaled places
  let plain (n : Int) : Octets := placeText shownPlaces (Int.tdiv n scale)
  let count := if delta = 0 then 0 else (Int.tdiv (stop - start) delta).toNat
  let lastShown := start + delta * count
  let width := max (plain start).length (plain lastShown).length
  let equal (n : Int) : Octets :=
    let digits := placeText shownPlaces (Int.tdiv n scale).natAbs
    if n < 0 then '-' :: List.replicate (width - 1 - digits.length) '0' ++ digits
    else List.replicate (width - digits.length) '0' ++ digits
  let text ← match value? flags 'f' with
    | some format =>
        match inFormat? format with
        | some f => pure fun (n : Int) => f (.ofRatio (n < 0) n.natAbs (Nat.pow 10 places))
        | none => fail 1 ("format ".toList ++ quoted format ++ " has no % directive".toList)
    | none => pure (if has flags 'w' then equal else plain)
  let apart := (value? flags 's').getD ['\n']
  writeNumbers text apart delta stop (count + 2) true start

end Enquiry.Tool
