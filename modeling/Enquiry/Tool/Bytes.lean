import Enquiry.Tool.Launching

/-!
# Bytes

Bytes in numbers and in letters that are safe to send, and copies of blocks.
-/

namespace Enquiry.Tool

open Host Text

/-- The bytes of some inputs. -/
def bytesOfInputs (names : List Octets) : Tool Octets := readInputs plainRefusal 1 (orInput names)

/-! ### od -/

/-- A file can be read. -/
def isThere (name : Octets) : Tool Bool := do
  if name = ['-'] then return true
  match ← Program.call (.access name 4) with
  | .ok _ => return true
  | .error _ => return false

/-- How bytes are shown: in groups of some size, as a letter says. -/
structure Dumping where
  letter : Char
  size : Nat
  deriving DecidableEq, Repr

/-- The width of a number of so many bytes, with a blank in front. -/
def Dumping.width (d : Dumping) : Nat :=
  match d.letter with
  | 'a' => 4
  | 'c' => 4
  | 'o' => (d.size * 8 + 2) / 3 + 1
  | 'x' => d.size * 2 + 1
  | 'u' => (decimal (Nat.pow 256 d.size - 1)).length + 1
  | _ => (decimal (Nat.pow 256 d.size / 2)).length + 2

def byteNames : List String :=
  ["nul", "soh", "stx", "etx", "eot", "enq", "ack", "bel", "bs", "ht", "nl", "vt", "ff", "cr",
    "so", "si", "dle", "dc1", "dc2", "dc3", "dc4", "nak", "syn", "etb", "can", "em", "sub", "esc",
    "fs", "gs", "rs", "us", "sp"]

/-- The value of bytes of which the first one counts least. -/
def valueOf (bytes : Octets) : Nat := bytes.foldr (fun c n => c.toNat + 256 * n) 0

/-- The text of a group of bytes. -/
def Dumping.text (d : Dumping) (bytes : Octets) : Octets :=
  let n := valueOf bytes
  let digits (base width : Nat) : Octets :=
    let text := Nat.toDigits base n
    List.replicate (width - text.length) '0' ++ text
  match d.letter with
  | 'a' =>
      let n := n % 128
      if n = 127 then "del".toList else ((byteNames[n]?).map String.toList).getD [Char.ofNat n]
  | 'c' =>
      let named := [(0, "\\0"), (7, "\\a"), (8, "\\b"), (9, "\\t"), (10, "\\n"), (11, "\\v"),
        (12, "\\f"), (13, "\\r")]
      match named.lookup n with
      | some text => text.toList
      | none => if 0x20 ≤ n ∧ n < 0x7F then [Char.ofNat n] else digits 8 3
  | 'o' => digits 8 (d.width - 1)
  | 'x' => digits 16 (d.width - 1)
  | 'u' => decimal n
  | _ =>
      let half := Nat.pow 256 d.size / 2
      signed (if n < half then n else (n : Int) - Nat.pow 256 d.size)

/-- The number of an offset as a letter says. -/
def offsetText (letter : Char) (n : Nat) : Octets :=
  let (base, width) := if letter = 'd' then (10, 7) else if letter = 'x' then (16, 6) else (8, 7)
  let digits := Nat.toDigits base n
  if letter = 'n' then [] else List.replicate (width - digits.length) '0' ++ digits

/-- The ways of showing that a text asks for. -/
def readDumping : Nat → Octets → Option (List Dumping)
  | 0, _ => none
  | _, [] => some []
  | n + 1, letter :: rest =>
      if !"acdoux".toList.contains letter then none
      else
        let size := rest.takeWhile isAsciiDigit
        let (count, rest) : Option Nat × Octets := match size, rest with
          | [], 'C' :: rest => (some 1, rest)
          | [], 'S' :: rest => (some 2, rest)
          | [], 'I' :: rest => (some 4, rest)
          | [], 'L' :: rest => (some 8, rest)
          | [], rest => (none, rest)
          | size, rest => (number? size, rest.drop size.length)
        let usual := if letter = 'a' ∨ letter = 'c' then 1 else 4
        let rest := if rest.head? = some 'z' then rest.drop 1 else rest
        (readDumping n rest).map (⟨letter, count.getD usual⟩ :: ·)

/-- The lines of a row of bytes. -/
def dumpRow (ways : List Dumping) (perRow : Nat) (front : Octets) (row : Octets) : List Octets :=
  let cell (d : Dumping) : Nat := (ways.map fun e => (e.width * d.size + e.size - 1) / e.size).foldl max 0
  ways.zipIdx.map fun (d, i) =>
    let groups := groupsOf d.size (row.length + 1) row
    let texts := groups.flatMap fun bytes =>
      let text := d.text bytes
      List.replicate (cell d - text.length) ' ' ++ text
    let _ := perRow
    (if i = 0 then front else List.replicate front.length ' ') ++ texts

/-- The lines of rows, of which those that repeat the one in front are shown as a star. -/
def dumpRows (all : Bool) (ways : List Dumping) (perRow : Nat) (letter : Char) :
    Nat → Nat → Option Octets → Bool → Octets → List Octets
  | 0, _, _, _, _ => []
  | _, offset, _, _, [] => if letter = 'n' then [] else [offsetText letter offset]
  | n + 1, offset, last, starred, data =>
      let row := data.take perRow
      let rest := data.drop perRow
      let next := offset + row.length
      if !all && last == some row && row.length = perRow then
        (if starred then [] else [['*']]) ++ dumpRows all ways perRow letter n next last true rest
      else
        dumpRow ways perRow (offsetText letter offset) row ++
          dumpRows all ways perRow letter n next (some row) false rest

def od (args : List Octets) : Tool Unit := do
  let (flags, names) ← readFlags (.of "A:t:j:N:vw::abcdosxi"
    [("address-radix", 'A'), ("format", 't'), ("skip-bytes", 'j'), ("read-bytes", 'N'),
      ("output-duplicates", 'v'), ("width", 'w')]) args
  let short : List (Char × List Dumping) :=
    [('a', [⟨'a', 1⟩]), ('b', [⟨'o', 1⟩]), ('c', [⟨'c', 1⟩]), ('d', [⟨'u', 2⟩]), ('o', [⟨'o', 2⟩]),
      ('s', [⟨'d', 2⟩]), ('x', [⟨'x', 2⟩]), ('i', [⟨'d', 4⟩])]
  let ways ← flags.mapM fun (c, text) => do
    if c = 't' then
      match readDumping (text.length + 1) text with
      | some found => return found
      | none => fail 1 ("invalid type string ".toList ++ quoted text)
    else return (short.lookup c).getD []
  let ways := if ways.flatten.isEmpty then [⟨'o', 2⟩] else ways.flatten
  let letter := ((value? flags 'A').bind List.head?).getD 'o'
  let perRow := match value? flags 'w' with
    | none => 16
    | some text => max 1 ((number? text).getD 32)
  let data ← bytesOfInputs names
  let skipped := ((value? flags 'j').bind number?).getD 0
  let data := data.drop skipped
  let data := match (value? flags 'N').bind number? with
    | some n => data.take n
    | none => data
  if data.isEmpty && skipped == 0 && !names.isEmpty then
    if (← get).status ≠ 0 && !(← names.anyM isThere) then return ()
  for line in dumpRows (has flags 'v') ways perRow letter (data.length + 1) skipped none false data do
    printLine line

/-! ### base64 -/

def base64Letters : List Char :=
  "ABCDEFGHIJKLMNOPQRSTUVWXYZabcdefghijklmnopqrstuvwxyz0123456789+/".toList

/-- Letters for bytes, three by three. -/
def toBase64 : Octets → Octets
  | a :: b :: c :: rest =>
      let n := a.toNat * 65536 + b.toNat * 256 + c.toNat
      letters n 4 ++ toBase64 rest
  | [a, b] => letters (a.toNat * 65536 + b.toNat * 256) 3 ++ ['=']
  | [a] => letters (a.toNat * 65536) 2 ++ ['=', '=']
  | [] => []
where
  /-- The first letters of a number of 24 bits. -/
  letters (n count : Nat) : Octets :=
    ([n / 262144, n / 4096 % 64, n / 64 % 64, n % 64].take count).map fun i =>
      (base64Letters[i]?).getD 'A'

/-- The number of some letters, if they are all letters for bytes. -/
def base64Number? (letters : Octets) : Option Nat :=
  letters.foldlM (fun n c => (base64Letters.findIdx? (· == c)).map (64 * n + ·)) 0

/-- The bytes of one to four letters: two letters are needed for the first byte. -/
def base64Bytes (letters : Octets) : Octets :=
  let good := letters.takeWhile base64Letters.contains
  match good, base64Number? good with
  | [_, _], some n => [Char.ofNat (n / 16)]
  | [_, _, _], some n => [Char.ofNat (n / 1024), Char.ofNat (n / 4 % 256)]
  | [_, _, _, _], some n =>
      [Char.ofNat (n / 65536), Char.ofNat (n / 256 % 256), Char.ofNat (n % 256)]
  | _, _ => []

/-- Four letters stand for bytes, also with signs in the end that fill them up. -/
def isBase64Group (letters : Octets) : Bool :=
  match letters with
  | [a, b, '=', '='] => (base64Number? [a, b]).isSome
  | [a, b, c, '='] => (base64Number? [a, b, c]).isSome
  | [a, b, c, d] => (base64Number? [a, b, c, d]).isSome
  | _ => false

/-- The bytes of letters, four by four; `false` when they do not all stand for bytes. -/
def ofBase64 : Octets → Octets × Bool
  | [] => ([], true)
  | a :: b :: c :: d :: rest =>
      if isBase64Group [a, b, c, d] then
        let (bytes, good) := ofBase64 rest
        (base64Bytes [a, b, c, d] ++ bytes, good)
      else (base64Bytes [a, b, c, d], false)
  | letters => (base64Bytes letters, false)

def base64 (args : List Octets) : Tool Unit := do
  let (flags, names) ← readFlags (.of "diw:"
    [("decode", 'd'), ("ignore-garbage", 'i'), ("wrap", 'w')]) args
  match names with
  | _ :: extra :: _ => extraOperand 1 extra
  | _ => pure ()
  let data ← bytesOfInputs names
  if has flags 'd' then
    let letters := data.filter fun c => c != '\n' && (!has flags 'i' || c == '=' || base64Letters.contains c)
    let (bytes, good) := ofBase64 letters
    print bytes
    if !good then
      flush
      fail 1 "invalid input".toList
  else
    let width ← match value? flags 'w' with
      | none => pure 76
      | some text =>
          match number? text with
          | some n => pure n
          | none => fail 1 ("invalid wrap size: ".toList ++ quoted text)
    let letters := toBase64 data
    if width = 0 then print letters
    else for line in groupsOf width (letters.length + 1) letters do printLine line

/-! ### dd -/

/-- The number of an operand, whose factors are joined by a letter. -/
def ddNumber? (text : Octets) : Option Nat :=
  let units := [("", 1), ("c", 1), ("w", 2), ("b", 512), ("k", 1024), ("K", 1024), ("kB", 1000),
    ("M", 1048576), ("MB", 1000000), ("G", 1073741824)]
  (List.splitOn 'x' text).foldlM
    (fun n part =>
      let digits := part.takeWhile isAsciiDigit
      match number? digits, units.lookup (textOf (part.drop digits.length)) with
      | some k, some unit => some (n * k * unit)
      | _, _ => none)
    1

/-- Copies blocks. The answer is the number of full blocks, of others, and of bytes. The first
argument bounds the number of blocks. -/
def copyBlocksOf (size : Nat) (source target : Nat) (change : Octets → Octets) (full : Bool) :
    Nat → Nat × Nat × Nat → Tool (Nat × Nat × Nat)
  | 0, found => return found
  | n + 1, (whole, others, bytes) => do
      let rec fill : Nat → Octets → Tool Octets
        | 0, data => return data
        | k + 1, data => do
            match ← Program.call (.read source (size - data.length) false) with
            | .ok [] => return data
            | .ok more =>
                let data := data ++ more
                if full ∧ data.length < size then fill k data else return data
            | .error _ => return data
      match ← fill size [] with
      | [] => return (whole, others, bytes)
      | data =>
          match ← Program.writeAll target (change data) with
          | some e => fail 1 ("error writing 'standard output': ".toList ++ wording e)
          | none => pure ()
          let found := if data.length = size then (whole + 1, others, bytes + data.length)
            else (whole, others + 1, bytes + data.length)
          copyBlocksOf size source target change full n found

def dd (args : List Octets) : Tool Unit := do
  let operands ← args.mapM fun arg => do
    let (name, value) := breakOn '=' arg
    if !arg.contains '=' then misused 1 ("unrecognized operand ".toList ++ quoted arg)
    return (String.ofList name, value)
  for (name, value) in operands do
    if !(["if", "of", "bs", "ibs", "obs", "cbs", "count", "skip", "seek", "status", "conv", "iflag",
        "oflag"].contains name) then
      misused 1 ("unrecognized operand ".toList ++ quoted (name.toList ++ '=' :: value))
  let number (name : String) (usual : Nat) : Tool Nat := do
    match (operands.filter fun (n, _) => n == name).getLast? with
    | none => return usual
    | some (_, text) =>
        match ddNumber? text with
        | some n => return n
        | none => fail 1 ("invalid number: ".toList ++ quoted text)
  let text (name : String) : Octets :=
    (((operands.filter fun (n, _) => n == name).getLast?).map Prod.snd).getD []
  let size ← number "bs" (← number "ibs" 512)
  let count ← number "count" Program.maxReads
  let skip ← number "skip" 0
  let seek ← number "seek" 0
  let conversions := List.splitOn ',' (text "conv")
  let source ← match text "if" with
    | [] => pure 0
    | path => do
        match ← Program.call (.opening path .reading 0) with
        | .ok d => pure d
        | .error e =>
            fail 1 ("failed to open ".toList ++ shellQuoted path ++ ": ".toList ++ wording e)
  let keeps := conversions.contains "notrunc".toList || seek ≠ 0
  let target ← match text "of" with
    | [] => pure 1
    | path => do
        match ← Program.call (.opening path ⟨false, true, true, false, !keeps, false⟩ 0o666) with
        | .ok d => pure d
        | .error e =>
            fail 1 ("failed to open ".toList ++ shellQuoted path ++ ": ".toList ++ wording e)
  if seek ≠ 0 then
    let _ ← Program.call (.seek target (seek * size))
  let rec skipBlocks : Nat → Tool Unit
    | 0 => return ()
    | n + 1 => do
        let _ ← Program.call (.read source size false)
        skipBlocks n
  skipBlocks skip
  let change (data : Octets) : Octets :=
    if conversions.contains "ucase".toList then data.map Char.toUpper
    else if conversions.contains "lcase".toList then data.map Char.toLower
    else data
  let full := (List.splitOn ',' (text "iflag")).contains "fullblock".toList
  let (whole, others, bytes) ← copyBlocksOf size source target change full count (0, 0, 0)
  let status := text "status"
  let records (word : String) : Octets :=
    decimal whole ++ '+' :: decimal others ++ " records ".toList ++ word.toList ++ ['\n']
  if status ≠ "none".toList then tell (records "in" ++ records "out")
  if status ≠ "none".toList ∧ status ≠ "noxfer".toList then
    let noun := if bytes = 1 then " byte copied" else " bytes copied"
    tell (decimal bytes ++ noun.toList ++ ", 0.0001 s, 1.0 MB/s\n".toList)

end Enquiry.Tool
