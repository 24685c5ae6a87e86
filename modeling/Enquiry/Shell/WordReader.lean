import Enquiry.Shell.Draft
import Enquiry.Text.Search

/-!
# Reading words

A word is read character by character until one that ends it. What stands in `$(` and `)` is read
by a function that is given, because it may hold any commands. The same rules read the documents
behind `<<`, which end at a line that holds their mark.
-/

namespace Enquiry.Shell

open Host Text

/-- Where a word stands. -/
inductive Setting where
  | command
  /-- It is the mark of a document: nothing in it is expanded. -/
  | mark
  /-- It is a document, with its mark. -/
  | document (announcement : Announcement)

namespace Setting

def isMark : Setting → Bool
  | .mark => true
  | _ => false

def announcement? : Setting → Option Announcement
  | .document a => some a
  | _ => none

def isDocument (s : Setting) : Bool := s.announcement?.isSome

end Setting

/-- A character that ends a word outside of quotes. -/
def isMeta (c : Char) : Bool := " \t\n;&|<>()".toList.contains c

/-- The back quote. -/
def backQuote : Char := '\x60'

/-! ### Documents -/

/-- The script behind a document whose last line comes next. -/
def afterMark? (a : Announcement) (chars : Octets) : Option Octets :=
  let chars := if a.dropTabs then chars.dropWhile (· == '\t') else chars
  match afterStart? a.mark chars with
  | some [] => some []
  | some ('\n' :: rest) => some rest
  | _ => none

/-- At the front of a line: `true` when the document is over. -/
def endsDocument (setting : Setting) : Read Bool := do
  match setting.announcement? with
  | none => return false
  | some a =>
      let s ← get
      match afterMark? a s.chars with
      | some rest =>
          set { s with chars := rest, line := s.line + 1 }
          return true
      | none =>
          if a.dropTabs then set { s with chars := s.chars.dropWhile (· == '\t') }
          return false

/-! ### Parameters -/

/-- The sign of an operator behind the name of a parameter. -/
def signOf? (emptyToo : Bool) : Char → Option Operator
  | '-' => some (.default emptyToo)
  | '+' => some (.alternative emptyToo)
  | '?' => some (.require emptyToo)
  | '=' => some (.assign emptyToo)
  | _ => none

/-- Reads the operator behind the name of a parameter in braces. No operator is there when the
braces are closed at once. -/
def readOperator : Read (Option Operator) := do
  let extended := (← get).extended
  match ← Read.takeJoined with
  | none => return some .bad
  | some '\x7d' => return none
  | some ':' =>
      match ← Read.peekJoined with
      | some c =>
          match signOf? true c with
          | some operator =>
              let _ ← Read.take
              return some operator
          | none =>
              if extended then return some .slice
              else
                let _ ← Read.take
                return some .bad
      | none => return some .bad
  | some '%' => return some (.cut (if ← Read.accept '%' then .longEnd else .shortEnd))
  | some '#' => return some (.cut (if ← Read.accept '#' then .longStart else .shortStart))
  | some c =>
      match signOf? false c with
      | some operator => return some operator
      | none =>
          if extended ∧ c = '/' then
            if ← Read.accept '/' then return some (.replace .all)
            else if ← Read.accept '#' then return some (.replace .atStart)
            else if ← Read.accept '%' then return some (.replace .atEnd)
            else return some (.replace .first)
          else if extended ∧ c = '^' then return some (.recase true (← Read.accept '^'))
          else if extended ∧ c = ',' then return some (.recase false (← Read.accept ','))
          else return some .bad

/-- Reads a parameter behind its dollar sign; the next character belongs to it. -/
def readParameter (d : Draft) : Read Draft := do
  let braced ← Read.accept '\x7b'
  let size ← Read.size
  let plain (name : Octets) : Draft :=
    d.addPart (.parameter d.isQuoted (String.ofList name) .value)
  let operated (name : Octets) : Read Draft := do
    match ← readOperator with
    | none => return plain name
    | some operator => return d.openBraces (String.ofList name) operator
  /- The name behind `#` in braces, whose length is wanted. -/
  let measured (name : Octets) : Read Draft := do
    if (← Read.peekJoined) = some '\x7d' then return d.openBraces (String.ofList name) .length
    else return d.openBraces (String.ofList name) .bad
  match ← Read.peekJoined with
  | none => return d.openBraces "" .bad
  | some c =>
      if isNameStart c then
        let name ← Read.takeWhile isNameChar size []
        if braced then operated name else return plain name
      else if isAsciiDigit c then
        let name ← Read.takeWhile isAsciiDigit (if braced then size else 1) []
        if braced then operated name else return plain name
      else if !braced then
        let _ ← Read.take
        return plain [c]
      else if c = '\x7d' then return d.openBraces "" .bad
      else
        let _ ← Read.take
        let next ← Read.peekJoined
        if c = '#' then
          match next with
          | none => return d.openBraces "#" .bad
          | some n =>
              if isNameChar n then
                let name ← if isAsciiDigit n then Read.takeWhile isAsciiDigit size []
                  else Read.takeWhile isNameChar size []
                measured name
              else if n ≠ '\x7d' then
                let s ← get
                let _ ← Read.take
                let behind ← Read.peekJoined
                if behind = some '\x7d' ∧ isSpecial n then measured [n]
                else
                  set s
                  operated ['#']
              else operated ['#']
        else if isSpecial c then operated [c]
        else
          return d.openBraces "" .bad

/-! ### Back quotes -/

/-- The commands between back quotes, behind the first one. -/
def readBackQuoted (double : Bool) : Nat → Octets → Read Octets
  | 0, _ => Read.fail "EOF in backquote substitution"
  | n + 1, found => do
      match ← Read.takeJoined with
      | none => Read.fail "EOF in backquote substitution"
      | some c =>
          if c = backQuote then return found.reverse
          else if c = '\\' then
            match ← Read.take with
            | none => Read.fail "EOF in backquote substitution"
            | some e =>
                if e = '\\' ∨ e = backQuote ∨ e = '$' ∨ (double ∧ e = '"') then
                  readBackQuoted double n (e :: found)
                else readBackQuoted double n (e :: '\\' :: found)
          else readBackQuoted double n (c :: found)

/-- The command in some text, whose lines are counted from one. -/
def readInside (list : Read (Option Command)) (text : Octets) : Read (Option Command) := do
  let s ← get
  set { s with chars := text, line := 1, pushed := none, announced := [] }
  let body ← list
  modify fun after =>
    { s with documents := after.documents, nextDocument := after.nextDocument }
  return body

/-- The command behind `$(`, up to its closing parenthesis. -/
def readSubstitution (list closing : Read (Option Command)) : Read (Option Command) := do
  let announced := (← get).announced
  modify fun s => { s with announced := [], pushed := none }
  let body ← list
  let _ ← closing
  modify fun s => { s with announced, pushed := none }
  return body

/-! ### Words -/

/-- What reading a character of a word leads to. -/
inductive Progress where
  | more (d : Draft)
  /-- A line has ended. -/
  | line (d : Draft)
  /-- The character does not belong to the word any more. -/
  | done (d : Draft)

/-- Reads what follows a dollar sign. -/
def readDollar (setting : Setting) (list closing : Read (Option Command)) (d : Draft) :
    Read Draft := do
  match ← Read.peekJoined with
  | none => return d.addChar '$'
  | some c =>
      if setting.isMark then return d.addChar '$'
      else if c = '(' then
        let _ ← Read.take
        if ← Read.accept '(' then
          let quoted := d.isQuoted
          let d := d.pushLayer (.begin .arithmetic true)
          return d.pushFrame (.begin (.arithmetic quoted) true)
        else
          let body ← readSubstitution list closing
          return d.addPart (.command d.isQuoted body)
      else if c = '\x7b' ∨ isNameStart c ∨ isSpecial c then readParameter d
      else return d.addChar '$'

/-- Reads a backslash outside of single quotes, behind it. -/
def readBackslash (setting : Setting) (d : Draft) : Read Draft := do
  match ← Read.take with
  | none => return d.addEscaped '\\'
  | some c =>
      let l := d.layer
      let kept := l.double && c != '\\' && c != backQuote && c != '$' &&
        (c != '"' || (setting.isDocument && l.braces == 0)) && (c != '\x7d' || l.braces == 0)
      let d := if kept then d.addEscaped '\\' else d
      return { d.addEscaped c with quoted := true }

/-- Opens or closes quotes. -/
def quoteMark (setting : Setting) (d : Draft) : Draft :=
  if setting.isDocument then d else d.mapFrame Frame.toggle

/-- Opens or closes double quotes. -/
def toggleDouble (setting : Setting) (d : Draft) : Draft :=
  quoteMark setting
    (if d.layer.braces = 0 then d
    else d.mapLayer fun l => { l with innerDouble := !l.innerDouble })

/-- A quote that ends what the layer began. -/
def endQuote (setting : Setting) (d : Draft) (c : Char) : Draft :=
  if setting.isDocument ∧ d.layer.braces = 0 then d.addChar c
  else
    let d :=
      if d.layer.doubleBraces = 0 then
        d.mapLayer fun l => { l with mode := .bare, double := false }
      else d
    let d := { d with quoted := true }
    if c = '"' then toggleDouble setting d else quoteMark setting d

/-- Reads one character of a word. -/
def readChar (setting : Setting) (list closing : Read (Option Command)) (d : Draft) :
    Read Progress := do
  let l := d.layer
  let next ← if l.mode = .single then Read.peek else Read.peekJoined
  match next with
  | none => return .done d
  | some c =>
      let plain : Read Progress := do
        let _ ← Read.take
        if d.frame.isDivided c then return .more (d.mapFrame Frame.divide)
        else return .more (d.addChar c)
      if c = '\n' then
        if l.mode = .bare ∧ l.braces = 0 then return .done d
        else
          let _ ← Read.take
          return .line (d.addChar c)
      else match l.mode with
        | .single =>
            let _ ← Read.take
            if c = '\'' then return .more (endQuote setting d c)
            else return .more (d.addEscaped c)
        | mode =>
            if c = '\\' then
              let _ ← Read.take
              return .more (← readBackslash setting d)
            else if c = '$' then
              let _ ← Read.take
              return .more (← readDollar setting list closing d)
            else if c = backQuote then
              let _ ← Read.take
              if setting.isMark then return .more (d.addChar c)
              else
                let text ← readBackQuoted l.double (← Read.size) []
                let body ← readInside list text
                return .more (d.addPart (.command d.isQuoted body))
            else if c = '\x7d' then
              let _ ← Read.take
              return .more d.closeBrace
            else match mode with
              | .arithmetic =>
                  if c = '(' then
                    let _ ← Read.take
                    return .more ((d.mapLayer fun l =>
                      { l with parentheses := l.parentheses + 1 }).addChar c)
                  else if c = ')' then
                    let _ ← Read.take
                    if 0 < l.parentheses then
                      return .more ((d.mapLayer fun l =>
                        { l with parentheses := l.parentheses - 1 }).addChar c)
                    else if ← Read.accept ')' then return .more d.popLayer.popFrame
                    else return .more (d.addChar c)
                  else plain
              | .double =>
                  if c = '"' then
                    let _ ← Read.take
                    return .more (endQuote setting d c)
                  else plain
              | _ =>
                  if c = '\'' then
                    let _ ← Read.take
                    return .more (quoteMark setting (d.mapLayer fun l => { l with mode := .single }))
                  else if c = '"' then
                    let _ ← Read.take
                    return .more (toggleDouble setting (d.mapLayer fun l =>
                      { l with mode := .double, double := true }))
                  else if isMeta c ∧ l.braces = 0 then return .done d
                  else plain

/-- Reads the rest of a word. The first argument bounds the number of its characters. -/
def readDraft (setting : Setting) (list closing : Read (Option Command)) :
    Nat → Bool → Draft → Read Draft
  | 0, _, d => return d
  | n + 1, atLineStart, d => do
      if atLineStart && (← endsDocument setting) then return d
      match ← readChar setting list closing d with
      | .more d => readDraft setting list closing n false d
      | .line d => readDraft setting list closing n true d
      | .done d => return d

/-- Complains about what is still open at the end of a word. -/
def checkClosed (setting : Setting) (d : Draft) : Read Unit := do
  if d.layer.mode = .arithmetic then Read.fail "Missing '))'"
  if d.layer.mode ≠ .bare ∧ !setting.isDocument then Read.fail "Unterminated quoted string"
  if 0 < d.layer.braces then Read.fail "Missing '\x7d'"

/-- Reads a word. -/
def readWord (setting : Setting) (list closing : Read (Option Command)) : Read Draft := do
  let d ← readDraft setting list closing ((← Read.size) + 1) false (.begin .bare false)
  checkClosed setting d
  return d

/-- Reads a document. -/
def readDocument (list closing : Read (Option Command)) (a : Announcement) : Read Word := do
  let mode := if a.quoted then .single else .double
  let setting := Setting.document a
  let d ← readDraft setting list closing ((← Read.size) + 1) true (.begin mode true)
  checkClosed setting d
  return d.word

end Enquiry.Shell
