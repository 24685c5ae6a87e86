import Enquiry.Tool.Moment
import Enquiry.Tool.Places

/-!
# Differences of files

`cmp` finds the first byte by which two files differ, and `diff` the fewest lines to drop and to
add that turn one into the other.
-/

namespace Enquiry.Tool

open Host Text

/-- The first place where two rows of bytes differ, with its line; nothing when one of them is the
front of the other. -/
def firstDifference : Nat → Nat → Octets → Octets → Option (Nat × Nat × Char × Char)
  | place, line, a :: as, b :: bs =>
      if a = b then firstDifference (place + 1) (if a = '\n' then line + 1 else line) as bs
      else some (place, line, a, b)
  | _, _, _, _ => none

/-- An operand is missing behind an argument. -/
def refuseOperand {α : Type} (arg : Octets) : Tool α := do
  let name := (← get).name
  warn ("missing operand after ".toList ++ quoted arg)
  warn ("Try '".toList ++ name ++ " --help' for more information.".toList)
  throw 2

/-- The contents of a file that has to be there. -/
def contentOrStop (status : Nat) (name : Octets) : Tool Octets := do
  match ← readInput (fun name e => name ++ ": ".toList ++ wording e) status name with
  | some data => return data
  | none => throw status

/-- A byte as it is shown: marks stand in front of what cannot be seen. -/
def visible (c : Char) : Octets :=
  let n := c.toNat
  let low (n : Nat) : Octets :=
    if n < 32 then ['^', Char.ofNat (n + 64)] else if n = 127 then ['^', '?'] else [Char.ofNat n]
  if n < 128 then low n else 'M' :: '-' :: low (n - 128)

def cmp (args : List Octets) : Tool Unit := do
  let (flags, names) ← readFlags { Known.of "sblin:"
    [("silent", 's'), ("quiet", 's'), ("print-bytes", 'b'), ("verbose", 'l'), ("bytes", 'n')]
    with status := 2, named := true } args
  match names with
  | [] => refuseOperand "cmp".toList
  | first :: others =>
      let second := others.headD ['-']
      let a ← contentOrStop 2 first
      let b ← contentOrStop 2 second
      let limit := (value? flags 'n').bind number?
      let cutTo (text : Octets) : Octets := match limit with
        | some n => text.take n
        | none => text
      let a := cutTo a
      let b := cutTo b
      if a = b then return ()
      note 1
      if has flags 's' then return ()
      if has flags 'l' then
        let width := (decimal (min a.length b.length)).length
        for ((x, y), i) in (a.zip b).zipIdx do
          if x ≠ y then
            let byte (c : Char) : Octets := { Layout.plain with width := 3 }.pad (Nat.toDigits 8 c.toNat)
            let shown (c : Char) : Octets := if has flags 'b' then byte c ++ ' ' :: visible c else byte c
            printLine ({ Layout.plain with width }.pad (decimal (i + 1)) ++ ' ' :: shown x ++ ' ' :: shown y)
      match firstDifference 1 1 a b with
      | some (place, line, x, y) =>
          if !has flags 'l' then
            let shown (c : Char) : Octets :=
              { Layout.plain with width := 3 }.pad (Nat.toDigits 8 c.toNat) ++ ' ' :: visible c
            let bytes :=
              if has flags 'b' then " is ".toList ++ shown x ++ ' ' :: shown y else []
            printLine (first ++ ' ' :: second ++ " differ: ".toList ++
              (if has flags 'b' then "byte " else "char ").toList ++ decimal place ++
              ", line ".toList ++ decimal line ++ bytes)
      | none =>
          let (short, n, data) := if a.length < b.length then (first, a.length, a) else (second, b.length, b)
          let where_ :=
            if n = 0 then " which is empty".toList
            else
              let lines := (data.filter (· == '\n')).length
              let whole := data.getLast? == some '\n'
              " after byte ".toList ++ decimal n ++
                (if whole then ", line ".toList ++ decimal lines
                else ", in line ".toList ++ decimal (lines + 1))
          tell ("cmp: EOF on ".toList ++ short ++ where_ ++ ['\n'])

/-- One line of the comparison of two files. -/
inductive Edit where
  | keep (line : Line)
  | drop (line : Line)
  | add (line : Line)
  deriving DecidableEq

/-- The lengths of the longest rows of lines that two lists have in common, for each end of the
first one, from the last line of the first one on. -/
def commonLengths (a : Line) (bs : List Line) (below : List Nat) : List Nat :=
  ((bs.zip (below.zip (below.drop 1))).foldr
    (fun (b, here, next) (found : List Nat) =>
      (if a = b then next + 1 else max here (found.headD 0)) :: found)
    [0])

/-- The table of these lengths, with the first line of the first list in front. -/
def commonTable : List Line → List Line → List (List Nat)
  | [], bs => [List.replicate (bs.length + 1) 0]
  | a :: as, bs =>
      let table := commonTable as bs
      commonLengths a bs (table.headD []) :: table

/-- A shortest way from one list of lines to another. -/
def edits : List Line → List Line → List (List Nat) → List Edit
  | [], bs, _ => bs.map .add
  | a :: as, bs, table =>
      let below := (table.drop 1).headD []
      let rec across : List Line → List Nat → List Nat → List Edit
        | [], _, _ => .drop a :: edits as [] (table.drop 1)
        | b :: rest, here, next =>
            if a = b then
              .keep a :: edits as rest ((table.drop 1).map (·.drop (bs.length - rest.length)))
            else if (here.drop 1).headD 0 ≤ next.headD 0 then
              .drop a :: edits as (b :: rest)
                ((table.drop 1).map (·.drop (bs.length - rest.length - 1)))
            else .add b :: across rest (here.drop 1) (next.drop 1)
      across bs (table.headD []) below

/-- A place where two files differ: the number of lines in front of it in both, and the lines of
both. -/
structure Hunk where
  before : Nat
  after : Nat
  dropped : List Line
  added : List Line

/-- The places where two files differ. -/
def hunks : Nat → Nat → List Edit → Option Hunk → List Hunk
  | _, _, [], h => h.toList
  | i, j, .keep _ :: rest, h => h.toList ++ hunks (i + 1) (j + 1) rest none
  | i, j, .drop l :: rest, h =>
      let h := h.getD ⟨i, j, [], []⟩
      hunks (i + 1) j rest (some { h with dropped := h.dropped ++ [l] })
  | i, j, .add l :: rest, h =>
      let h := h.getD ⟨i, j, [], []⟩
      hunks i (j + 1) rest (some { h with added := h.added ++ [l] })

/-- Lines behind a sign. -/
def signedLines (sign : Octets) (lines : List Line) : Octets :=
  lines.flatMap fun l =>
    sign ++ l.text ++ '\n' ::
      if l.ended then [] else "\\ No newline at end of file\n".toList

/-- The numbers of some lines. -/
def lineSpan (before count : Nat) : Octets :=
  if count ≤ 1 then decimal (before + count)
  else decimal (before + 1) ++ ',' :: decimal (before + count)

def Hunk.normal (h : Hunk) : Octets :=
  let letter := if h.dropped.isEmpty then 'a' else if h.added.isEmpty then 'd' else 'c'
  lineSpan h.before h.dropped.length ++ letter :: lineSpan h.after h.added.length ++ ['\n'] ++
    signedLines "< ".toList h.dropped ++
    (if letter = 'c' then "---\n".toList else []) ++ signedLines "> ".toList h.added

/-- The numbers of the lines of a hunk with lines around it. -/
def unifiedSpan (before count : Nat) : Octets :=
  let start := if count = 0 then before else before + 1
  if count = 1 then decimal start else decimal start ++ ',' :: decimal count

/-- The edits in groups with so many kept lines around them. -/
def unifiedHunks (context : Nat) (all : List Edit) : Octets :=
  let isKeep (e : Edit) : Bool := match e with
    | .keep _ => true
    | _ => false
  let marked := all.zipIdx
  let changes := (marked.filter fun (e, _) => !isKeep e).map Prod.snd
  let wanted := marked.map fun (e, i) =>
    (e, changes.any fun c => c ≤ i + context ∧ i ≤ c + context)
  let numbered := wanted.foldl
    (fun (found, i, j) (e, w) =>
      let (i', j') := match e with
        | .keep _ => (i + 1, j + 1)
        | .drop _ => (i + 1, j)
        | .add _ => (i, j + 1)
      ((e, w, i, j) :: found, i', j'))
    (([] : List (Edit × Bool × Nat × Nat)), 0, 0)
  let groups := (numbered.1.reverse.splitBy fun a b => a.2.1 == b.2.1).filter fun g =>
    (g.head?.map fun x => x.2.1).getD false
  groups.flatMap fun g =>
    let (i, j) := (g.head?.map fun x => (x.2.2.1, x.2.2.2)).getD (0, 0)
    let old := (g.filter fun x => match x.1 with | .add _ => false | _ => true).length
    let new := (g.filter fun x => match x.1 with | .drop _ => false | _ => true).length
    "@@ -".toList ++ unifiedSpan i old ++ " +".toList ++ unifiedSpan j new ++ " @@\n".toList ++
      g.flatMap fun x => match x.1 with
        | .keep l => signedLines [' '] [l]
        | .drop l => signedLines ['-'] [l]
        | .add l => signedLines ['+'] [l]

def diff (args : List Octets) : Tool Unit := do
  let (flags, names) ← readFlags { Known.of "qsuU:rbBwiNaL:"
    [("brief", 'q'), ("report-identical-files", 's'), ("unified==", 'u'), ("label", 'L')]
    with status := 2, named := true } args
  match names with
  | [first, second] =>
      let a ← contentOrStop 2 first
      let b ← contentOrStop 2 second
      if a = b then
        if has flags 's' then
          printLine ("Files ".toList ++ first ++ " and ".toList ++ second ++ " are identical".toList)
      else
        note 1
        if has flags 'q' then
          printLine ("Files ".toList ++ first ++ " and ".toList ++ second ++ " differ".toList)
        else
          let as := linesOf a
          let bs := linesOf b
          let all := edits as bs (commonTable as bs)
          if has flags 'u' || has flags 'U' then
            let labels := (flags.filter fun (c, _) => c == 'L').map Prod.snd
            let label (i : Nat) (name : Octets) : Tool Octets := do
              match labels[i]? with
              | some l => return l
              | none =>
                  let time := ((← statusAt? name true).map FileStatus.modified).getD 0
                  return name ++ '\t' ::
                    (Moment.ofNanoseconds time).write "%Y-%m-%d %H:%M:%S.%N %z".toList
            printLine ("--- ".toList ++ (← label 0 first))
            printLine ("+++ ".toList ++ (← label 1 second))
            let context := ((value? flags 'U').bind number?).getD 3
            print (unifiedHunks context all)
          else print ((hunks 0 0 all none).flatMap Hunk.normal)
  | [] => refuseOperand "diff".toList
  | [one] => refuseOperand one
  | _ :: _ :: extra :: _ => extraOperand 2 extra

end Enquiry.Tool
