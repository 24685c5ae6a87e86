import Enquiry.Tool.Script.Evaluator
import Enquiry.Tool.Script.Reader

/-!
# Traces

What a script says when it ends because something has gone wrong: where each function was, with the
line of the source and marks below the part that was being done, and what has gone wrong.
-/

namespace Enquiry.Tool.Script

open Host Text

/-! ### Marks -/

/-- The part of an expression between its operands, or around its index, where stronger marks
stand. -/
def strongPart? (text : List Char) : Option (Nat × Nat) :=
  let parsed := do
    let lexemes ← lexemesOfPart 1 0 text
    let (e, p) ← Reading.whole.run ⟨lexemes, default, ⟨false, []⟩⟩
    return (e, p.lexemes.all fun x => x.token matches .lineEnd | .back | .finish)
  match parsed with
  | .error _ => none
  | .ok (_, false) => none
  | .ok (.mk _ (.operate _ a b), true) =>
      let between := (text.take b.span.column).drop a.span.lastColumn
      let off := (between.takeWhile isSpace).length
      let start := a.span.lastColumn + off
      let isLong := (between[off + 1]?.map fun c => !isSpace c).getD false
      let skipped := ((text.drop start).takeWhile fun c => isSpace c || c == ')' || c == '#').length
      some (start + skipped, start + skipped + if isLong then 2 else 1)
  | .ok (.mk _ (.item v k), true) =>
      let start := v.span.lastColumn
      let start := start + ((text.drop start).takeWhile (· != '[')).length
      let stop := k.span.lastColumn + 1
      let stop := stop + ((text.drop stop).takeWhile (· != ']')).length
      some (start, if stop < text.length then stop + 1 else stop)
  | .ok _ => none

/-- The marks below a part of a line, behind as many blanks as are needed. -/
def marksBelow (line : List Char) (span : Span) : List Char :=
  let blanks := (line.takeWhile isSpace).length
  let shown := trimWith isSpace line
  let stop := if span.line = span.lastLine then span.lastColumn else blanks + shown.length
  let size := stop - span.column
  let strong? :=
    if span.line = span.lastLine then strongPart? ((line.take stop).drop span.column) else none
  let front := List.replicate (4 + (span.column - blanks)) ' '
  match strong? with
  | some (a, b) =>
      front ++ List.replicate a '~' ++ List.replicate (b - a) '^' ++ List.replicate (size - b) '~' ++
        ['\n']
  | none =>
      if size < shown.length then front ++ List.replicate size '^' ++ ['\n'] else []

/-- Where a function was. -/
def frameText (file : List Char) (source : Array (List Char)) (f : Frame) : List Char :=
  let head := "  File \"".toList ++ file ++ "\", line ".toList ++ decimal f.span.line ++ ", in ".toList ++
    f.function.toList ++ ['\n']
  match source[f.span.line - 1]? with
  | none => head
  | some line =>
      let shown := trimWith isSpace line
      if shown.isEmpty then head
      else head ++ "    ".toList ++ shown ++ '\n' :: marksBelow line f.span

/-- Where all functions were. More than three times the same is said only once. The number is how
often the last one has been said. -/
def framesText (file : List Char) (source : Array (List Char)) :
    Option (Frame × Nat) → List Frame → List Char
  | before, [] =>
      match before with
      | some (_, n) => repeats n
      | none => []
  | before, f :: rest =>
      let sameAs (g : Frame) : Bool := g.function == f.function && g.span.line == f.span.line
      match before with
      | some (g, n) =>
          if sameAs g then
            (if n < 3 then frameText file source f else []) ++
              framesText file source (some (f, n + 1)) rest
          else repeats n ++ frameText file source f ++ framesText file source (some (f, 1)) rest
      | none => frameText file source f ++ framesText file source (some (f, 1)) rest
where
  /-- How often the last line has been left out. -/
  repeats (n : Nat) : List Char :=
    if n ≤ 3 then []
    else "  [Previous line repeated ".toList ++ decimal (n - 3) ++ " more time".toList ++
      (if n = 4 then [] else ['s']) ++ "]\n".toList

/-- What is wrong with a source. -/
def Problem.text (p : Problem) (file : List Char) (source : Array (List Char)) : List Char :=
  let head := "  File \"".toList ++ file ++ "\", line ".toList ++ decimal p.span.line ++ ['\n']
  let line := (source[p.span.line - 1]?).getD []
  let blanks := (line.takeWhile isSpace).length
  let shown := trimWith isSpace line
  let size := max 1 (p.span.lastColumn - p.span.column)
  let below :=
    if shown.isEmpty then []
    else "    ".toList ++ shown ++ '\n' ::
      (if p.message = "unexpected indent" then []
        else List.replicate (4 + (p.span.column - blanks)) ' ' ++ List.replicate size '^' ++ ['\n'])
  head ++ below ++ p.kind.toList ++ ": ".toList ++ p.message.toList ++ ['\n']

namespace Running

/-- The full name of a kind of faults. -/
def fullKindName (v : Value) : Running (List Char) := do
  match v with
  | .builtin name => return name.toList
  | v => kindName v

/-- What is said of a fault. The first argument bounds how many there are behind each other. -/
def faultReport (apply : Apply) : Nat → Nat → Running (List Char)
  | 0, _ => return []
  | n + 1, k => do
      match ← object k with
      | .fault f =>
          let m ← get
          let before ← match f.cause, f.context with
            | some (some c), _ => do
                pure ((← faultReport apply n c) ++
                  "\nThe above exception was the direct cause of the following exception:\n\n".toList)
            | some none, _ => pure []
            | none, some c => do
                if c = k then pure []
                else
                  pure ((← faultReport apply n c) ++
                    "\nDuring handling of the above exception, another exception occurred:\n\n".toList)
            | none, none => pure []
          let trace := framesText m.file m.source none f.trace.reverse
          let kind ← fullKindName f.kind
          let text ← match ← Program.attempt (textOf apply (.object k)) with
            | .ok t => pure t
            | .error _ => pure "<exception str() failed>".toList
          let last := if text.isEmpty then kind else kind ++ ": ".toList ++ text
          let head := if f.trace.isEmpty then [] else "Traceback (most recent call last):\n".toList
          return before ++ head ++ trace ++ last ++ ['\n']
      | _ => return []

end Running

end Enquiry.Tool.Script
