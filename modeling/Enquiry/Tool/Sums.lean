import Enquiry.Tool.Launching

/-!
# Sums of files

Single numbers that tell files apart.
-/

namespace Enquiry.Tool

open Host Text

/-- The words of 32 bits turned to the left. -/
def rotated (n count : Nat) : Nat :=
  (n * Nat.pow 2 count) % 4294967296 + n / Nat.pow 2 (32 - count)

/-- A message filled up to blocks of 64 bytes with its length behind it. -/
def filledMessage (bigEnd : Bool) (data : Octets) : List Nat :=
  let bytes := data.map Char.toNat
  let zeros := (119 - bytes.length % 64) % 64
  let bits := bytes.length * 8
  let size := (List.range 8).map fun i => bits / Nat.pow 256 i % 256
  bytes ++ 128 :: List.replicate zeros 0 ++ if bigEnd then size.reverse else size

/-- The words of some bytes. -/
def wordsIn (bigEnd : Bool) : List Nat → List Nat
  | a :: b :: c :: d :: rest =>
      (if bigEnd then ((a * 256 + b) * 256 + c) * 256 + d else ((d * 256 + c) * 256 + b) * 256 + a) ::
        wordsIn bigEnd rest
  | _ => []

/-- Digits of a number of bytes. -/
def hexBytes (bytes : List Nat) : Octets := bytes.flatMap fun b => [hexChar (b / 16), hexChar (b % 16)]

def bytesOfWord (bigEnd : Bool) (n : Nat) : List Nat :=
  let bytes := (List.range 4).map fun i => n / Nat.pow 256 i % 256
  if bigEnd then bytes.reverse else bytes

def complemented (n : Nat) : Nat := 4294967295 - n

/-- The integer part of a positive number times 2 to the power of 32, and of its roots: the
constants of the sums. -/
def squareRootOf (n : Nat) : Nat :=
  let rec go : Nat → Nat → Nat → Nat
    | 0, low, _ => low
    | k + 1, low, high =>
        if high ≤ low + 1 then low
        else
          let middle := (low + high) / 2
          if middle * middle ≤ n then go k middle high else go k low middle
  go 200 0 (n + 1)

def cubeRootOf (n : Nat) : Nat :=
  let rec go : Nat → Nat → Nat → Nat
    | 0, low, _ => low
    | k + 1, low, high =>
        if high ≤ low + 1 then low
        else
          let middle := (low + high) / 2
          if middle * middle * middle ≤ n then go k middle high else go k low middle
  go 200 0 (n + 1)

/-- The first numbers that no smaller one divides. -/
def primes : List Nat :=
  (List.range 312).filter fun n => 2 ≤ n && (List.range n).all fun d => d < 2 || n % d != 0

/-- The constants of the longer sum: fractions of cube roots and of square roots. -/
def cubeFractions : Array Nat :=
  (primes.map fun p => cubeRootOf (p * Nat.pow 2 96) % 4294967296).toArray

def squareFractions : List Nat :=
  (primes.take 8).map fun p => squareRootOf (p * Nat.pow 2 64) % 4294967296

/-- The words of a block, and those that follow from them. -/
def schedule256 (block : List Nat) : Array Nat :=
  (List.range 48).foldl
    (fun w _ =>
      let at_ (i : Nat) : Nat := (w[w.size - i]?).getD 0
      let a := at_ 15
      let b := at_ 2
      let s := rotated a 25 ^^^ rotated a 14 ^^^ (a / 8)
      let t := rotated b 15 ^^^ rotated b 13 ^^^ (b / 1024)
      w.push ((at_ 16 + s + at_ 7 + t) % 4294967296))
    block.toArray

def step256 (w : Array Nat) (state : List Nat) (i : Nat) : List Nat :=
  match state with
  | [a, b, c, d, e, f, g, h] =>
      let s1 := rotated e 26 ^^^ rotated e 21 ^^^ rotated e 7
      let choice := (e &&& f) ^^^ (complemented e &&& g)
      let t1 := h + s1 + choice + (cubeFractions[i]?).getD 0 + (w[i]?).getD 0
      let s0 := rotated a 30 ^^^ rotated a 19 ^^^ rotated a 10
      let majority := (a &&& b) ^^^ (a &&& c) ^^^ (b &&& c)
      let t2 := s0 + majority
      [(t1 + t2) % 4294967296, a, b, c, (d + t1) % 4294967296, e, f, g]
  | state => state

/-- The sum of 256 bits. -/
def sum256 (data : Octets) : Octets :=
  let blocks := groupsOf 16 (data.length + 2) (wordsIn true (filledMessage true data))
  let state := blocks.foldl
    (fun state block =>
      let w := schedule256 block
      let next := (List.range 64).foldl (step256 w) state
      (state.zip next).map fun (a, b) => (a + b) % 4294967296)
    squareFractions
  hexBytes (state.flatMap (bytesOfWord true))

def schedule160 (block : List Nat) : Array Nat :=
  (List.range 64).foldl
    (fun w _ =>
      let at_ (i : Nat) : Nat := (w[w.size - i]?).getD 0
      w.push (rotated (at_ 3 ^^^ at_ 8 ^^^ at_ 14 ^^^ at_ 16) 1))
    block.toArray

def step160 (w : Array Nat) (state : List Nat) (i : Nat) : List Nat :=
  match state with
  | [a, b, c, d, e] =>
      let (f, k) :=
        if i < 20 then ((b &&& c) ||| (complemented b &&& d), 0x5A827999)
        else if i < 40 then (b ^^^ c ^^^ d, 0x6ED9EBA1)
        else if i < 60 then ((b &&& c) ||| (b &&& d) ||| (c &&& d), 0x8F1BBCDC)
        else (b ^^^ c ^^^ d, 0xCA62C1D6)
      [(rotated a 5 + f + e + k + (w[i]?).getD 0) % 4294967296, a, rotated b 30, c, d]
  | state => state

/-- The sum of 160 bits. -/
def sum160 (data : Octets) : Octets :=
  let blocks := groupsOf 16 (data.length + 2) (wordsIn true (filledMessage true data))
  let state := blocks.foldl
    (fun state block =>
      let w := schedule160 block
      let next := (List.range 80).foldl (step160 w) state
      (state.zip next).map fun (a, b) => (a + b) % 4294967296)
    [0x67452301, 0xEFCDAB89, 0x98BADCFE, 0x10325476, 0xC3D2E1F0]
  hexBytes (state.flatMap (bytesOfWord true))

/-- The constants of the sum of 128 bits: the first digits of sines. -/
def sineDigits : Array Nat :=
  ((List.range 64).map fun i =>
    let x := (Float.sin (Float.ofNat (i + 1))).abs
    (x * 4294967296.0).floor.toUInt64.toNat).toArray

def step128 (block : Array Nat) (state : List Nat) (i : Nat) : List Nat :=
  match state with
  | [a, b, c, d] =>
      let turns := if i < 16 then [7, 12, 17, 22] else if i < 32 then [5, 9, 14, 20]
        else if i < 48 then [4, 11, 16, 23] else [6, 10, 15, 21]
      let (f, g) :=
        if i < 16 then ((b &&& c) ||| (complemented b &&& d), i)
        else if i < 32 then ((d &&& b) ||| (complemented d &&& c), (5 * i + 1) % 16)
        else if i < 48 then (b ^^^ c ^^^ d, (3 * i + 5) % 16)
        else (c ^^^ (b ||| complemented d), (7 * i) % 16)
      let n := (a + f + (sineDigits[i]?).getD 0 + (block[g]?).getD 0) % 4294967296
      [d, (b + rotated n ((turns[i % 4]?).getD 0)) % 4294967296, b, c]
  | state => state

/-- The sum of 128 bits. -/
def sum128 (data : Octets) : Octets :=
  let blocks := groupsOf 16 (data.length + 2) (wordsIn false (filledMessage false data))
  let state := blocks.foldl
    (fun state block =>
      let next := (List.range 64).foldl (step128 block.toArray) state
      (state.zip next).map fun (a, b) => (a + b) % 4294967296)
    [0x67452301, 0xEFCDAB89, 0x98BADCFE, 0x10325476]
  hexBytes (state.flatMap (bytesOfWord false))

/-- Shows the sums of some inputs, or checks those that a list tells of. -/
def sums (sum : Octets → Octets) (args : List Octets) : Tool Unit := do
  let (flags, names) ← readFlags (.of "bctwz" [("binary", 'b'), ("check", 'c'), ("text", 't'),
    ("quiet", 'q'), ("status", 's')]) args
  for name in orInput names do
    match ← readInput plainRefusal 1 name with
    | none => pure ()
    | some data =>
        if has flags 'c' then
          let mut wrong := 0
          for line in linesOf data do
            let (expected, file) := breakOn ' ' line.text
            let file := file.drop 1
            match ← readInput plainRefusal 1 file with
            | none => printLine (file ++ ": FAILED open or read".toList)
            | some content =>
                if sum content = expected then
                  if !has flags 'q' && !has flags 's' then printLine (file ++ ": OK".toList)
                else
                  wrong := wrong + 1
                  if !has flags 's' then printLine (file ++ ": FAILED".toList)
          if 0 < wrong then
            flush
            let noun := if wrong = 1 then " computed checksum did NOT match" else
              " computed checksums did NOT match"
            warnAnd 1 ("WARNING: ".toList ++ decimal wrong ++ noun.toList)
        else printLine (sum data ++ "  ".toList ++ name)

/-- One step of the sum that is made by dividing polynomials. -/
def crcStep (crc byte : Nat) : Nat :=
  (List.range 8).foldl
    (fun crc _ =>
      let next := crc * 2 % 4294967296
      if 2147483648 ≤ crc then next ^^^ 0x04C11DB7 else next)
    (crc ^^^ byte * 16777216)

/-- The bytes of a length, of which the first one counts least. -/
def lengthBytes : Nat → Nat → List Nat
  | 0, _ => []
  | k + 1, n => if n = 0 then [] else n % 256 :: lengthBytes k (n / 256)

def cksum (args : List Octets) : Tool Unit := do
  let (_, names) ← readFlags (.of "" []) args
  for name in orInput names do
    match ← readInput plainRefusal 1 name with
    | none => pure ()
    | some data =>
        let crc := data.foldl (fun crc c => crcStep crc c.toNat) 0
        let crc := (lengthBytes 8 data.length).foldl crcStep crc
        printLine (decimal (complemented crc) ++ ' ' :: decimal data.length ++
          if names.isEmpty then [] else ' ' :: name)

end Enquiry.Tool
