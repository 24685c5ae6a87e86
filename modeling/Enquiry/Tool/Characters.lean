import Enquiry.Text.Integer
import Enquiry.Text.Ranges
import Enquiry.Tool.Lines

/-!
# Characters and columns

Tools that change single characters of their input, or cut its lines into columns and put them
together again.
-/

namespace Enquiry.Tool

open Host Text

/-! ### tr -/

/-- What an array of characters may be made of. -/
inductive Stretch where
  | chars (cs : List Char)
  | kind (name : String)
  /-- A character again and again; as often as is needed when no number is given. -/
  | repeated (c : Char) (count : Option Nat)
  deriving DecidableEq, Repr

/-- The character at the front of an array, and what follows it. -/
def arrayChar? : Octets → Option (Char × Octets)
  | [] => none
  | ['\\'] => some ('\\', [])
  | '\\' :: c :: rest =>
      if isDigitOf 8 c then
        let digits := ((c :: rest).take 3).takeWhile (isDigitOf 8)
        let digits := if 255 < digitsValue 8 digits then digits.take 2 else digits
        some (Char.ofNat (digitsValue 8 digits), (c :: rest).drop digits.length)
      else
        let named := [('a', '\x07'), ('b', '\x08'), ('f', '\x0C'), ('n', '\n'), ('r', '\r'),
          ('t', '\t'), ('v', '\x0B')]
        some ((named.lookup c).getD c, rest)
  | c :: rest => some (c, rest)

/-- What stands in brackets with colons, equals signs or a star, and what follows it. -/
def bracketed? (text : Octets) : Tool (Option (Stretch × Octets)) := do
  match text with
  | '[' :: ':' :: rest =>
      let name := rest.takeWhile (· != ':')
      match rest.drop name.length with
      | ':' :: ']' :: rest =>
          if (kinds.lookup (String.ofList name)).isSome then
            return some (.kind (String.ofList name), rest)
          else fail 1 ("invalid character class ".toList ++ quoted name)
      | _ => return none
  | '[' :: '=' :: c :: '=' :: ']' :: rest => return some (.chars [c], rest)
  | '[' :: rest =>
      match arrayChar? rest with
      | some (c, '*' :: rest) =>
          let digits := rest.takeWhile isAsciiDigit
          match rest.drop digits.length with
          | ']' :: rest =>
              let count := digitsValue (if digits.head? = some '0' then 8 else 10) digits
              return some (.repeated c (if count = 0 then none else some count), rest)
          | _ => return none
      | _ => return none
  | _ => return none

/-- The characters from one to another. -/
def charsBetween (first last : Char) : List Char :=
  (List.range (last.toNat + 1 - first.toNat)).map fun i => Char.ofNat (first.toNat + i)

/-- Reads an array. The first argument bounds the number of its parts. -/
def readArray : Nat → Octets → Tool (List Stretch)
  | 0, _ => return []
  | _, [] => return []
  | n + 1, text => do
      match ← bracketed? text with
      | some (stretch, rest) => return stretch :: (← readArray n rest)
      | none =>
          match arrayChar? text with
          | none => return []
          | some (first, '-' :: rest) =>
              match arrayChar? rest with
              | none => return .chars [first] :: (← readArray n ('-' :: rest))
              | some (last, after) =>
                  if last < first then
                    let range := (text.take (text.length - after.length))
                    fail 1 ("range-endpoints of ".toList ++ quoted range ++
                      " are in reverse collating sequence order".toList)
                  else return .chars (charsBetween first last) :: (← readArray n after)
          | some (c, rest) => return .chars [c] :: (← readArray n rest)

/-- All bytes. -/
def allBytes : List Char := charsBetween '\x00' (Char.ofNat 255)

/-- The characters of a part; one without a number stands for so many. -/
def Stretch.toList (missing : Nat) : Stretch → List Char
  | .chars cs => cs
  | .kind name => allBytes.filter fun c => ((kinds.lookup name).map (· c)).getD false
  | .repeated c count => List.replicate (count.getD missing) c

/-- The characters of an array, filled up to a size where a part has no number. -/
def arrayChars (size : Nat) (parts : List Stretch) : List Char :=
  let fixed := (parts.map fun p => (p.toList 0).length).foldl (· + ·) 0
  parts.flatMap (Stretch.toList (size - fixed))

/-- What a character becomes. -/
structure Translation where
  /-- The characters that become others. -/
  table : List (Char × Char)
  deleted : List Char
  /-- Of these only the first one in a row is kept. -/
  squeezed : List Char

/-- A table in the order of the bytes: nothing stands where a character is deleted. -/
def Translation.compiled (t : Translation) : Array (Option Char) :=
  (allBytes.map fun c =>
    if t.deleted.contains c then none else some ((t.table.lookup c).getD c)).toArray

/-- Translates a block behind some character. -/
def Translation.translate (squeezed : Array Bool) (table : Array (Option Char)) :
    Option Char → Octets → List Char → Octets × Option Char
  | last, [], found => (found.reverse, last)
  | last, c :: rest, found =>
      match (table[c.toNat]?).join with
      | none => translate squeezed table last rest found
      | some d =>
          if some d == last && (squeezed[d.toNat]?).getD false then
            translate squeezed table last rest found
          else translate squeezed table (some d) rest (d :: found)

/-- Translates the first input. The first argument bounds the number of blocks. -/
def translateInput (squeezed : Array Bool) (table : Array (Option Char)) :
    Nat → Option Char → Tool Unit
  | 0, _ => return ()
  | n + 1, last => do
      match ← readBlock 1 ['-'] 0 blockSize with
      | [] => return ()
      | data =>
          let (text, last) := Translation.translate squeezed table last data []
          print text
          translateInput squeezed table n last

/-- How the characters of two arrays belong together. -/
def pairs (first second : List Char) : List (Char × Char) :=
  let filled := second ++ List.replicate (first.length - second.length) (second.getLast?.getD '\x00')
  (first.zip filled).reverse

def trWords : List (String × Char) :=
  [("complement", 'c'), ("delete", 'd'), ("squeeze-repeats", 's'), ("truncate-set1", 't')]

def tr (args : List Octets) : Tool Unit := do
  let (flags, sets) ← readFlags { Known.of "cCdst" trWords with strict := true } args
  let deletes := has flags 'd'
  let squeezes := has flags 's'
  match sets with
  | [] => missingOperand 1
  | [set] =>
      if !deletes && !squeezes then
        warn ("missing operand after ".toList ++ quoted set)
        tell "Two strings must be given when translating.\n".toList
        helpless 1
      if deletes && squeezes then
        warn ("missing operand after ".toList ++ quoted set)
        tell "Two strings must be given when both deleting and squeezing repeats.\n".toList
        helpless 1
  | [_, set] =>
      if deletes && !squeezes then
        warn ("extra operand ".toList ++ quoted set)
        tell "Only one string may be given when deleting without squeezing repeats.\n".toList
        helpless 1
  | _ :: _ :: extra :: _ => extraOperand 1 extra
  for set in sets do
    if (set.reverse.takeWhile (· == '\\')).length % 2 = 1 then
      warn "warning: an unescaped backslash at end of string is not portable".toList
  let first ← readArray ((sets.headD []).length + 1) (sets.headD [])
  let first := arrayChars 0 first
  let first := if has flags 'c' || has flags 'C' then allBytes.filter fun c => !first.contains c
    else first
  let second ← match sets[1]? with
    | some set => readArray (set.length + 1) set
    | none => pure []
  let translates := !deletes && sets.length == 2
  let second := arrayChars (if translates then first.length else 0) second
  if translates && second.isEmpty && !first.isEmpty && !has flags 't' then
    fail 1 "when not truncating set1, string2 must be non-empty".toList
  let first := if has flags 't' && translates then first.take second.length else first
  let t : Translation :=
    { table := if translates then pairs first second else []
      deleted := if deletes then first else []
      squeezed := if squeezes then if sets.length == 2 then second else first else [] }
  let squeezed := (allBytes.map t.squeezed.contains).toArray
  translateInput squeezed t.compiled Program.maxReads none

/-! ### Lists of places -/

/-- The places from one to another; all that follow when there is no last one. -/
structure Range where
  first : Nat
  last : Option Nat
  deriving DecidableEq, Repr

def Range.holds (n : Nat) (r : Range) : Bool := r.first ≤ n && r.last.all (n ≤ ·)

/-- Reads a list of places, which are called so. -/
def readRanges (what : String) (text : Octets) : List Octets → Tool (List Range)
  | [] => return []
  | part :: rest => do
      let invalid {α : Type} (part : Octets) : Tool α :=
        misused 1 ("invalid ".toList ++ what.toList ++ ' ' :: quoted part)
      let number (digits : Octets) : Tool Nat := do
        match number? digits with
        | some 0 => misused 1 (if what = "field value" then "fields are numbered from 1".toList
            else "byte/character positions are numbered from 1".toList)
        | some n => return n
        | none => invalid digits
      let (first, behind) := breakOn '-' part
      let range ←
        if !part.contains '-' then do
          if part.isEmpty then
            misused 1 (if what = "field value" then "fields are numbered from 1".toList
              else "byte/character positions are numbered from 1".toList)
          let n ← number part
          pure (⟨n, some n⟩ : Range)
        else if first.isEmpty && behind.isEmpty then
          misused 1 "invalid range with no endpoint: -".toList
        else do
          let low ← if first.isEmpty then pure 1 else number first
          let high ← if behind.isEmpty then pure none
            else if behind.all (· == '0') then pure (some 0)
            else some <$> number behind
          if high.any (· < low) then misused 1 "invalid decreasing range".toList
          pure (⟨low, high⟩ : Range)
      return range :: (← readRanges what text rest)

/-! ### cut -/

/-- The parts of a list in some places, with its stretches that touch kept together. -/
def chosen {α : Type} (ranges : List Range) (negated : Bool) (xs : List α) : List (List α) :=
  let marked := xs.zipIdx.map fun (x, i) => (x, ranges.any (·.holds (i + 1)) != negated)
  (marked.splitBy fun (_, a) (_, b) => a == b).filterMap fun run =>
    if (run.head?.map Prod.snd).getD false then some (run.map Prod.fst) else none

def cutWords : List (String × Char) :=
  [("bytes", 'b'), ("characters", 'c'), ("fields", 'f'), ("delimiter", 'd'),
    ("only-delimited", 's'), ("output-delimiter=", 'o'), ("complement", 'C'),
    ("zero-terminated", 'z')]

/-- Where the ranges of the list begin and end counts: bytes of ranges that only touch are apart
when there is something to put between them. -/
def byRanges (ranges : List Range) (text : Octets) : List Octets :=
  let sorted := ranges.mergeSort fun a b => a.first ≤ b.first
  let merged := sorted.foldl
    (fun found r =>
      match found with
      | last :: others =>
          match last.last, r.last with
          | none, _ => found
          | some l, none => if r.first ≤ l then ⟨last.first, none⟩ :: others else r :: found
          | some l, some m =>
              if r.first ≤ l then ⟨last.first, some (max l m)⟩ :: others else r :: found
      | [] => [r])
    []
  merged.reverse.filterMap fun r =>
    let part := (match r.last with
      | some l => text.take l
      | none => text).drop (r.first - 1)
    if part.isEmpty then none else some part

def cut (args : List Octets) : Tool Unit := do
  let (flags, names) ← readFlags (.of "b:c:f:d:snz" cutWords) args
  let lists := flags.filter fun (c, _) => "bcf".toList.contains c
  match lists with
  | [] => misused 1 "you must specify a list of bytes, characters, or fields".toList
  | [_] => pure ()
  | _ => misused 1 "only one list may be specified".toList
  let (kind, list) := lists.headD ('b', [])
  let fields := kind == 'f'
  let between := value? flags 'o'
  let mark ← match value? flags 'd' with
    | none => pure '\t'
    | some [c] => pure c
    | some [] => pure '\x00'
    | some _ => misused 1 "the delimiter must be a single character".toList
  if !fields && has flags 'd' then
    misused 1 "an input delimiter may be specified only when operating on fields".toList
  if !fields && has flags 's' then
    misused 1 "suppressing non-delimited lines makes sense\n\tonly when operating on fields".toList
  let parts := (List.splitOn ',' (list.map fun c => if c == ' ' || c == '\t' then ',' else c))
  let ranges ← readRanges (if fields then "field value" else "byte/character position") list parts
  let negated := has flags 'C'
  let cutLine (l : Line) : Octets :=
    if fields then
      if !l.text.contains mark then if has flags 's' then [] else l.text ++ ['\n']
      else
        let kept := (chosen ranges negated (List.splitOn mark l.text)).flatten
        List.intercalate (between.getD [mark]) kept ++ ['\n']
    else
      match between with
      | some between =>
          let kept := if negated then chosen ranges true l.text else byRanges ranges l.text
          List.intercalate between kept ++ ['\n']
      | none => (chosen ranges negated l.text).flatten ++ ['\n']
  let _ ← filterInputs plainRefusal 1 (fun (_ : Unit) l => ⟨(), cutLine l, false⟩) (orInput names) ()

/-! ### paste -/

/-- The marks of a list, of which a backslash and a zero stand for none. -/
def readMarks : Octets → List Octets
  | '\\' :: 'n' :: rest => ['\n'] :: readMarks rest
  | '\\' :: 't' :: rest => ['\t'] :: readMarks rest
  | '\\' :: '0' :: rest => [] :: readMarks rest
  | '\\' :: c :: rest => [c] :: readMarks rest
  | c :: rest => [c] :: readMarks rest
  | [] => []

/-- Parts with marks between them, which are used one after another. -/
def intercalateMarks (marks : List Octets) (parts : List Octets) : Octets :=
  (parts.zipIdx.map fun (part, i) =>
    if i = 0 then part else ((marks[(i - 1) % marks.length]?).getD []) ++ part).flatten

/-- The lines of inputs side by side; the dash stands for the first input, whose lines go to its
places in turn. -/
def besides (marks : List Octets) (columns : List (Option (List Octets))) (shared : List Octets) :
    List Octets :=
  let count := (columns.filter Option.isNone).length
  let rows := (columns.map fun c =>
    match c with
    | some lines => lines.length
    | none => if count = 0 then 0 else (shared.length + count - 1) / count).foldl max 0
  let placed := columns.zipIdx.map fun (c, i) =>
    (c, ((columns.take i).filter Option.isNone).length)
  (List.range rows).map fun row =>
    intercalateMarks marks <| placed.map fun (c, k) =>
      match c with
      | some lines => (lines[row]?).getD []
      | none => (shared[row * count + k]?).getD []

def paste (args : List Octets) : Tool Unit := do
  let (flags, names) ← readFlags
    (.of "d:sz" [("delimiters", 'd'), ("serial", 's'), ("zero-terminated", 'z')]) args
  let marks := readMarks ((value? flags 'd').getD ['\t'])
  let marks := if marks.isEmpty then [[]] else marks
  let names := orInput names
  let shared ← if names.contains ['-'] then readInput plainRefusal 1 ['-'] else pure none
  let shared := (linesOf (shared.getD [])).map Line.text
  let linesAt (name : Octets) : Tool (Option (List Octets)) := do
    if name = ['-'] then return none
    match ← readInput plainRefusal 1 name with
    | some text => return some ((linesOf text).map Line.text)
    | none => throw 1
  let columns ← names.mapM linesAt
  if has flags 's' then
    for column in columns do
      printLine (intercalateMarks marks (column.getD shared))
  else
    for row in besides marks columns shared do
      printLine row

/-! ### Widths -/

/-- A line cut into pieces of some width, behind a blank if possible. -/
def foldLine (width : Nat) (blanks : Bool) : Nat → Octets → List Octets
  | 0, text => [text]
  | n + 1, text =>
      if text.length ≤ width then [text]
      else
        let front := text.take width
        let size :=
          if blanks then
            let kept := (front.reverse.dropWhile fun c => c != ' ' && c != '\t').length
            if kept = 0 then width else kept
          else width
        text.take size :: foldLine width blanks n (text.drop size)

def fold (args : List Octets) : Tool Unit := do
  let args := match args with
    | ('-' :: digits) :: rest =>
        if !digits.isEmpty && digits.all isAsciiDigit then ['-', 'w'] :: digits :: rest else args
    | args => args
  let (flags, names) ← readFlags
    (.of "bsw:" [("bytes", 'b'), ("spaces", 's'), ("width", 'w')]) args
  let width ← match value? flags 'w' with
    | none => pure 80
    | some text =>
        match number? text with
        | some (n + 1) => pure (n + 1)
        | _ => fail 1 ("invalid number of columns: ".toList ++ quoted text)
  mapLines (fun text => List.intercalate ['\n'] (foldLine width (has flags 's') text.length text)) names

/-- A line with blanks in the place of its tabs, behind so many columns. -/
def expandLine (width : Nat) : Nat → Octets → Octets
  | _, [] => []
  | column, c :: rest =>
      if c = '\t' then
        let size := width - column % width
        List.replicate size ' ' ++ expandLine width (column + size) rest
      else c :: expandLine width (column + 1) rest

def expand (args : List Octets) : Tool Unit := do
  let (flags, names) ← readFlags (.of "it:" [("tabs", 't'), ("initial", 'i')]) args
  let width := max 1 (((value? flags 't').bind number?).getD 8)
  mapLines (expandLine width 0) names

end Enquiry.Tool
