import Enquiry.Tool.Script.Tree

/-!
# Reading scripts

An expression is read by levels, from the ones that bind the least to single operands. Statements
are read line by line; a block is what is indented behind a colon, or what follows it on its line.
-/

namespace Enquiry.Tool.Script

open Host Text

/-- Where the reader is. -/
structure Position where
  lexemes : List Lexeme
  /-- Where the last token stands that has been read. -/
  last : Span
  /-- What has been found out about the function that is read. -/
  nature : Nature

abbrev Reading := StateT Position (Except Problem)

namespace Reading

/-! ### Tokens -/

def peek : Reading Token := do return ((← get).lexemes.head?.map Lexeme.token).getD .finish

def peekSecond : Reading Token := do
  return (((← get).lexemes.drop 1).head?.map Lexeme.token).getD .finish

/-- Where the next token stands. -/
def here : Reading Span := do
  let p ← get
  return (p.lexemes.head?.map Lexeme.span).getD p.last

def skip : Reading Unit := modify fun p =>
  match p.lexemes with
  | x :: rest => { p with lexemes := rest, last := x.span }
  | [] => p

def faultWith {α : Type} (message : String) : Reading α := do
  throw ⟨"SyntaxError", message, ← here⟩

/-- The script goes on in a way that makes no sense. -/
def fault {α : Type} : Reading α := faultWith "invalid syntax"

def sees (s : String) : Reading Bool := do
  match ← peek with
  | .sign t => return t == s
  | _ => return false

def seesWord (s : String) : Reading Bool := do
  match ← peek with
  | .name w => return w == s
  | _ => return false

def accept (s : String) : Reading Bool := do
  if ← sees s then
    skip
    return true
  return false

def acceptWord (s : String) : Reading Bool := do
  if ← seesWord s then
    skip
    return true
  return false

def expect (s : String) : Reading Unit := do
  if !(← accept s) then fault

def expectWord (s : String) : Reading Unit := do
  if !(← acceptWord s) then fault

/-- How many steps a loop may take here. -/
def bound : Reading Nat := do return (← get).lexemes.length + 1

/-- An expression that begins at a place and ends here. -/
def since (start : Span) (form : Form) : Reading Expr := do
  return .mk (start.to (← get).last) form

/-- The words that are no names. -/
def keywords : List String :=
  ["False", "None", "True", "and", "as", "assert", "async", "await", "break", "class", "continue",
    "def", "del", "elif", "else", "except", "finally", "for", "from", "global", "if", "import",
    "in", "is", "lambda", "nonlocal", "not", "or", "pass", "raise", "return", "try", "while",
    "with", "yield"]

/-- A name that stands next. -/
def name : Reading String := do
  match ← peek with
  | .name w =>
      if keywords.contains w then fault
      skip
      return w
  | _ => fault

/-! ### Lists -/

/-- An expression comes next. -/
def seesExpr : Reading Bool := do
  match ← peek with
  | .whole _ | .real _ | .text _ | .bytes _ | .template _ _ _ => return true
  | .name w =>
      return !keywords.contains w ||
        ["False", "None", "True", "not", "lambda", "yield", "await"].contains w
  | .sign s => return ["(", "[", "\x7b", "-", "+", "~", "*", "..."].contains s
  | _ => return false

/-- Between brackets, two things stand side by side. -/
def unseparated {α : Type} : Reading α := do
  if ← seesExpr then faultWith "invalid syntax. Perhaps you forgot a comma?" else fault

/-- What is separated by commas. The first argument bounds the number; the answer says whether there
was a comma. -/
def commas (one : Reading α) : Nat → List α → Bool → Reading (List α × Bool)
  | 0, found, comma => return (found.reverse, comma)
  | n + 1, found, comma => do
      if !(← seesExpr) then return (found.reverse, comma)
      let x ← one
      if ← accept "," then commas one n (x :: found) true else return ((x :: found).reverse, comma)

/-- Things separated by commas up to a sign. -/
def listUntil (one : Reading α) (stop : String) : Nat → List α → Reading (List α)
  | 0, _ => fault
  | n + 1, found => do
      if ← accept stop then return found.reverse
      let x ← one
      if ← accept "," then listUntil one stop n (x :: found)
      else
        if !(← accept stop) then unseparated
        return (x :: found).reverse

/-! ### Operators -/

/-- Operations from left to right. -/
def chain (next : Reading Expr) (signs : List (String × Operation)) :
    Nat → Span → Expr → Reading Expr
  | 0, _, e => return e
  | n + 1, start, e => do
      match ← peek with
      | .sign s =>
          match signs.lookup s with
          | some op =>
              skip
              let other ← next
              chain next signs n start (← since start (.operate op e other))
          | none => return e
      | _ => return e

def chained (next : Reading Expr) (signs : List (String × Operation)) : Reading Expr := do
  let start ← here
  let e ← next
  chain next signs (← bound) start e

/-! ### Texts with places -/

/-- The characters of an expression in a text, and what follows it. The first argument bounds their
number, the second one is the number of open brackets, the third one the quote that is open. -/
def placeChars : Nat → Nat → Option Char → List Char → List Char → List Char × List Char
  | 0, _, _, done, text => (done.reverse, text)
  | _, _, _, done, [] => (done.reverse, [])
  | n + 1, depth, some q, done, c :: rest =>
      placeChars n depth (if c = q then none else some q) (c :: done) rest
  | n + 1, depth, none, done, c :: rest =>
      if c = '\'' ∨ c = '"' then placeChars n depth (some c) (c :: done) rest
      else if c = '(' ∨ c = '[' ∨ c = '\x7b' then placeChars n (depth + 1) none (c :: done) rest
      else if depth = 0 ∧ (c = '\x7d' ∨ c = ':' ∨ (c = '!' ∧ rest.head? ≠ some '=')) then
        (done.reverse, c :: rest)
      else if c = ')' ∨ c = ']' ∨ c = '\x7d' then
        placeChars n (depth - 1) none (c :: done) rest
      else if c = '!' ∨ ((c = '=' ∨ c = '<' ∨ c = '>') ∧ rest.head? = some '=') then
        placeChars n depth none ('=' :: c :: done) (rest.drop 1)
      else placeChars n depth none (c :: done) rest

/-- The place behind some characters from a place on. -/
def behind (place : Span) (chars : List Char) : Span :=
  let lines := chars.count '\n'
  let column :=
    if lines = 0 then place.column + chars.length
    else (chars.reverse.takeWhile (· != '\n')).length
  ⟨place.line + lines, column, place.line + lines, column⟩

/-- Reads an expression that stands in a text at some place. -/
def within (inner : Reading Expr) (place : Span) (text : List Char) : Reading Expr := do
  let p ← get
  if text.all (· == ' ') then faultWith "f-string: empty expression not allowed"
  let lexemes ← match lexemesOfPart place.line place.column text with
    | .ok lexemes => pure lexemes
    | .error problem => throw problem
  set ({ p with lexemes } : Position)
  let e ← inner
  match ← peek with
  | .lineEnd | .finish => pure ()
  | _ => faultWith "f-string: invalid syntax"
  modify fun q => { p with nature := q.nature }
  return e

/-- A part of a text without places, if there is one. -/
def plainPiece (plain : Bool) (reversed : List Char) : List Piece :=
  if reversed.isEmpty then []
  else [.text (if plain then reversed.reverse else resolved false reversed.reverse)]

/-- The parts of a text with places, and what follows them. The text is the end of another one that
begins at `start`. The first number bounds the number of characters; `nested` when this is the
layout of a value. -/
def pieces (one : Reading Expr) (start : Span) (raw : List Char) (plain nested : Bool) :
    Nat → List Char → List Char → Reading (List Piece × List Char)
  | 0, _, _ => fault
  | n + 1, done, text => do
      match text with
      | [] =>
          if nested then faultWith "f-string: expecting '\x7d'"
          return (plainPiece plain done, [])
      | '\x7b' :: rest =>
          if !nested && rest.head? == some '\x7b' then
            return ← pieces one start raw plain nested n ('\x7b' :: done) (rest.drop 1)
          let place := behind start (raw.take (raw.length - rest.length))
          let (chars, rest) := placeChars (rest.length + 1) 0 none [] rest
          let shown := (chars.reverse.dropWhile (· == ' ')).head? = some '='
          let source :=
            if shown then ((chars.reverse.dropWhile (· == ' ')).drop 1).reverse else chars
          let e ← within one place source
          let (conversion, rest) := match rest with
            | '!' :: c :: rest => (some c, rest)
            | rest => (none, rest)
          let (format, rest) ← match rest with
            | ':' :: rest => pieces one start raw plain true n [] rest
            | rest => pure ([], rest)
          let conversion :=
            if shown && conversion.isNone && format.isEmpty then some 'r' else conversion
          match rest with
          | '\x7d' :: rest =>
              let (others, rest) ← pieces one start raw plain nested n [] rest
              return (plainPiece plain done ++ (if shown then [.text chars] else []) ++
                Piece.value e conversion format :: others, rest)
          | _ => faultWith "f-string: expecting '\x7d'"
      | '\x7d' :: rest =>
          if nested then return (plainPiece plain done, '\x7d' :: rest)
          match rest with
          | '\x7d' :: rest => pieces one start raw plain nested n ('\x7d' :: done) rest
          | _ => faultWith "f-string: single '\x7d' is not allowed"
      | '\\' :: c :: rest =>
          if plain then pieces one start raw plain nested n ('\\' :: done) (c :: rest)
          else pieces one start raw plain nested n (c :: '\\' :: done) rest
      | c :: rest => pieces one start raw plain nested n (c :: done) rest

/-- A part of a row of texts. -/
inductive TextPart where
  | text (t : List Char)
  | bytes (data : Octets)
  | pieces (ps : List Piece)

/-- Texts one behind another. -/
def textParts (one : Reading Expr) : Nat → Reading (List TextPart)
  | 0 => return []
  | n + 1 => do
      match ← peek with
      | .text t =>
          skip
          return .text t :: (← textParts one n)
      | .bytes b =>
          skip
          return .bytes b :: (← textParts one n)
      | .template front raw plain =>
          let span ← here
          skip
          let start : Span := ⟨span.line, span.column + front, span.line, span.column + front⟩
          let (ps, _) ← pieces one start raw plain false (2 * raw.length + 2) [] raw
          return .pieces ps :: (← textParts one n)
      | _ => return []

/-- A row of texts as one expression. -/
def textForm (parts : List TextPart) : Form :=
  if parts.any fun p => p matches .pieces _ then
    .template (parts.flatMap fun
      | .text t => [.text t]
      | .bytes b => [.text b]
      | .pieces ps => ps)
  else if parts.any fun p => p matches .bytes _ then
    .constant (.bytes (parts.flatMap fun
      | .bytes b => b
      | _ => []))
  else
    .constant (.text (parts.flatMap fun
      | .text t => t
      | _ => []))

/-! ### Operands -/

/-- An expression that may give its value a name. -/
def naming (inner : Reading Expr) : Reading Expr := do
  match ← peek, ← peekSecond with
  | .name w, .sign ":=" =>
      let start ← here
      if keywords.contains w then fault
      skip
      skip
      let e ← inner
      modify fun p => { p with nature := { p.nature with named := w :: p.nature.named } }
      since start (.naming w e)
  | _, _ => inner

/-- The level of operations above which lie comparisons, for which values are collected. -/
abbrev Level := Reading Expr → Reading Expr

/-- An expression that may be a row of values, with a star in front. -/
def starred (low : Level) (inner : Reading Expr) : Reading Expr := do
  if ← sees "*" then
    let start ← here
    skip
    let e ← low inner
    since start (.spread e)
  else naming inner

/-- Expressions separated by commas are a tuple. -/
def tupleOf (one : Reading Expr) : Reading Expr := do
  let start ← here
  let (items, comma) ← commas one (← bound) [] false
  match items, comma with
  | [], _ => fault
  | [.mk _ (.spread _)], false => faultWith "can't use starred expression here"
  | [e], false => return e
  | items, _ => since start (.tuple items)

/-- Where values come from that are collected. The first argument bounds the number. -/
def clauses (low test : Level) (inner : Reading Expr) : Nat → Reading (List Clause)
  | 0 => return []
  | n + 1 => do
      if ← acceptWord "for" then
        let target ← tupleOf (starred low (low inner))
        expectWord "in"
        let source ← test inner
        return .each target source :: (← clauses low test inner n)
      else if ← acceptWord "if" then
        let condition ← naming (test inner)
        return .given condition :: (← clauses low test inner n)
      else return []

/-- An argument of a call. -/
def argument (low test : Level) (inner : Reading Expr) : Reading Argument := do
  if ← accept "*" then return .spread (← inner)
  if ← accept "**" then return .namedSpread (← inner)
  match ← peek, ← peekSecond with
  | .name w, .sign "=" =>
      if keywords.contains w then fault
      skip
      skip
      return .named w (← inner)
  | _, _ =>
      let start ← here
      let e ← naming inner
      if ← seesWord "for" then
        let cs ← clauses low test inner (← bound)
        return .plain (← since start (.collect .generator none e cs))
      return .plain e

/-- An index, or a part of a row. -/
def index (inner : Reading Expr) : Reading Expr := do
  let start ← here
  let part? : Reading (Option Expr) := do
    if (← sees ":") || (← sees "]") || (← sees ",") then return none
    return some (← naming inner)
  let first ← part?
  if ← accept ":" then
    let second ← part?
    let third ← if ← accept ":" then part? else pure none
    since start (.slice first second third)
  else match first with
    | some e => return e
    | none => fault

/-- What stands in square brackets. -/
def listForm (low test : Level) (inner : Reading Expr) : Reading Form := do
  if ← accept "]" then return .list []
  let first ← starred low inner
  if ← seesWord "for" then
    let cs ← clauses low test inner (← bound)
    expect "]"
    return .collect .list none first cs
  if ← accept "," then
    return .list (first :: (← listUntil (starred low inner) "]" (← bound) []))
  if !(← accept "]") then unseparated
  return .list [first]

/-- What stands in braces. -/
def braceForm (low test : Level) (inner : Reading Expr) : Reading Form := do
  if ← accept "\x7d" then return .dict []
  let entry : Reading (Option Expr × Expr) := do
    if ← accept "**" then return (none, ← low inner)
    let key ← inner
    expect ":"
    return (some key, ← inner)
  if ← sees "**" then return .dict (← listUntil entry "\x7d" (← bound) [])
  let first ← starred low inner
  if ← accept ":" then
    let value ← inner
    if ← seesWord "for" then
      let cs ← clauses low test inner (← bound)
      expect "\x7d"
      return .collect .dict (some first) value cs
    if ← accept "," then
      return .dict ((some first, value) :: (← listUntil entry "\x7d" (← bound) []))
    if !(← accept "\x7d") then unseparated
    return .dict [(some first, value)]
  if ← seesWord "for" then
    let cs ← clauses low test inner (← bound)
    expect "\x7d"
    return .collect .set none first cs
  if ← accept "," then
    return .set (first :: (← listUntil (starred low inner) "\x7d" (← bound) []))
  expect "\x7d"
  return .set [first]

/-- A value that is handed out from the middle of a function. -/
def handOut (low : Level) (inner : Reading Expr) : Reading Expr := do
  let start ← here
  expectWord "yield"
  modify fun p => { p with nature := { p.nature with generates := true } }
  if ← acceptWord "from" then
    let from_ ← here
    let e ← inner
    let all ← since from_ (.spread e)
    since start (.handOut (some all))
  else if ← seesExpr then
    let e ← tupleOf (starred low inner)
    since start (.handOut (some e))
  else since start (.handOut none)

/-- What stands in round brackets. -/
def bracketed (low test : Level) (inner : Reading Expr) (start : Span) : Reading Expr := do
  if ← accept ")" then return ← since start (.tuple [])
  if ← seesWord "yield" then
    let e ← handOut low inner
    expect ")"
    return e
  let first ← starred low inner
  if ← seesWord "for" then
    let cs ← clauses low test inner (← bound)
    expect ")"
    since start (.collect .generator none first cs)
  else if ← accept "," then
    let others ← listUntil (starred low inner) ")" (← bound) []
    since start (.tuple (first :: others))
  else
    if !(← accept ")") then unseparated
    return first

/-- A single operand. -/
def operand (low test : Level) (inner : Reading Expr) : Reading Expr := do
  let start ← here
  match ← peek with
  | .whole n =>
      skip
      since start (.constant (.whole n))
  | .real x =>
      skip
      since start (.constant (.real x))
  | .text _ | .bytes _ | .template _ _ _ =>
      let parts ← textParts inner (← bound)
      since start (textForm parts)
  | .name w =>
      let constant := [("None", Constant.none), ("True", .bool true), ("False", .bool false)].lookup w
      match constant with
      | some c =>
          skip
          since start (.constant c)
      | none =>
          let n ← name
          since start (.name n)
  | .sign "(" =>
      skip
      bracketed low test inner start
  | .sign "[" =>
      skip
      let form ← listForm low test inner
      since start form
  | .sign "\x7b" =>
      skip
      let form ← braceForm low test inner
      since start form
  | .sign "..." =>
      skip
      since start (.constant .ellipsis)
  | _ => fault

/-- Calls, attributes and items behind an operand. The first argument bounds their number. -/
def trailed (low test : Level) (inner : Reading Expr) : Nat → Span → Expr → Reading Expr
  | 0, _, e => return e
  | n + 1, start, e => do
      if ← accept "(" then
        let args ← listUntil (argument low test inner) ")" (← bound) []
        trailed low test inner n start (← since start (.call e args))
      else if ← accept "[" then
        let from_ ← here
        let first ← index inner
        let key ← if ← accept "," then
            let others ← listUntil (index inner) "]" (← bound) []
            let p ← get
            pure (Expr.mk (from_.to p.last) (.tuple (first :: others)))
          else
            expect "]"
            pure first
        trailed low test inner n start (← since start (.item e key))
      else if ← accept "." then
        let word ← name
        trailed low test inner n start (← since start (.feature e word))
      else return e

/-! ### Levels -/

/-- The levels up to the one above which lie comparisons. The number bounds how many signs stand in
front of an operand; `low` and `test` are the levels that this and the conditions are. -/
def powers (low test : Level) (inner : Reading Expr) : Nat → Reading Expr
  | 0 => fault
  | n + 1 => do
      let start ← here
      if ← accept "-" then
        let e ← powers low test inner n
        return ← since start (.negative e)
      if ← accept "+" then
        let e ← powers low test inner n
        return ← since start (.positive e)
      if ← accept "~" then
        let e ← powers low test inner n
        return ← since start (.inverted e)
      let e ← operand low test inner
      let e ← trailed low test inner (← bound) start e
      if ← accept "**" then
        let other ← powers low test inner n
        since start (.operate .power e other)
      else return e

/-- Operations on values. -/
def operations (low test : Level) (inner : Reading Expr) : Reading Expr := do
  let factors := powers low test inner (← bound)
  let products := chained factors
    [("*", .multiply), ("/", .divide), ("//", .quotient), ("%", .remainder)]
  let sums := chained products [("+", .add), ("-", .subtract)]
  let shifts := chained sums [("<<", .shiftLeft), (">>", .shiftRight)]
  chained (chained (chained shifts [("&", .both)]) [("^", .other)]) [("|", .either)]

/-- A sign of a comparison that stands next. -/
def comparison? : Reading (Option Comparison) := do
  match ← peek, ← peekSecond with
  | .sign s, _ =>
      let found := [("<", Comparison.less), ("<=", .atMost), ("==", .same), ("!=", .different),
        (">", .more), (">=", .atLeast)].lookup s
      if found.isSome then skip
      return found
  | .name "in", _ =>
      skip
      return some .within
  | .name "not", .name "in" =>
      skip
      skip
      return some .without
  | .name "is", .name "not" =>
      skip
      skip
      return some .distinct
  | .name "is", _ =>
      skip
      return some .identical
  | _, _ => return none

/-- The comparisons behind an operand. -/
def compared (next : Reading Expr) : Nat → Reading (List (Comparison × Expr))
  | 0 => return []
  | n + 1 => do
      match ← comparison? with
      | none => return []
      | some c =>
          let e ← next
          return (c, e) :: (← compared next n)

def comparisons (next : Reading Expr) : Reading Expr := do
  let start ← here
  let e ← next
  match ← compared next (← bound) with
  | [] => return e
  | others => since start (.compare e others)

/-- Signs of denial in front of a comparison. -/
def denied (next : Reading Expr) : Nat → Reading Expr
  | 0 => fault
  | n + 1 => do
      let start ← here
      if ← acceptWord "not" then
        let e ← denied next n
        since start (.opposite e)
      else comparisons next

/-- Conditions that are joined by a word. -/
def joined (word : String) (make : Expr → Expr → Form) (next : Reading Expr) :
    Nat → Span → Expr → Reading Expr
  | 0, _, e => return e
  | n + 1, start, e => do
      if ← acceptWord word then
        let other ← next
        joined word make next n start (← since start (make e other))
      else return e

/-- Conditions over some operations. -/
def conditions (next : Reading Expr) : Reading Expr := do
  let both : Reading Expr := do
    let start ← here
    let e ← denied next (← bound)
    joined "and" .both (denied next (← bound)) (← bound) start e
  let start ← here
  let e ← both
  joined "or" .either both (← bound) start e

mutual

/-- Operations, of some depth. -/
def low : Nat → Level
  | 0, _ => fault
  | n + 1, inner => operations (low n) (test n) inner

/-- Conditions, of some depth. -/
def test : Nat → Level
  | 0, _ => fault
  | n + 1, inner => conditions (low n inner)

end

/-- A parameter of a function; `typed` when its kind may be said. -/
def parameter (typed : Bool) (inner : Reading Expr) : Reading (Option Parameter) := do
  let annotation : Reading Unit := do
    if typed then
      if ← accept ":" then
        let _ ← inner
  if ← accept "**" then
    let n ← name
    annotation
    return some (.mk n .namedRest none)
  if ← accept "*" then
    match ← peek with
    | .name _ =>
        let n ← name
        annotation
        return some (.mk n .rest none)
    | _ => return some (.mk "" .rest none)
  if ← accept "/" then return none
  let n ← name
  annotation
  let usual ← if ← accept "=" then some <$> inner else pure none
  return some (.mk n .plain usual)

/-- Behind the parameter that takes all arguments, parameters take theirs only by name. -/
def settle : Bool → List (Option Parameter) → List Parameter
  | _, [] => []
  | after, none :: rest => settle after rest
  | after, some (.mk n taking usual) :: rest =>
      match taking with
      | .plain => .mk n (if after then .named else .plain) usual :: settle after rest
      | .rest => .mk n .rest usual :: settle true rest
      | taking => .mk n taking usual :: settle after rest

/-- An expression. The first argument bounds the depth. -/
def expr : Nat → Reading Expr
  | 0 => fault
  | n + 1 => do
      let start ← here
      if ← acceptWord "lambda" then
        let parameters ← listUntil (parameter false (expr n)) ":" (← bound) []
        let body ← expr n
        return ← since start (.function (settle false parameters) body)
      let yes ← test (n + 1) (expr n)
      if ← acceptWord "if" then
        let condition ← test (n + 1) (expr n)
        if !(← acceptWord "else") then faultWith "expected 'else' after 'if' expression"
        let no ← expr n
        since start (.choice condition yes no)
      else return yes

/-- An expression of any depth. -/
def whole : Reading Expr := do expr (← bound)

/-- An operation of any depth. -/
def lowest : Level := fun inner => do low (← bound) inner

/-- Expressions that may be a tuple. -/
def values : Reading Expr := do
  if ← seesWord "yield" then handOut lowest whole else tupleOf (starred lowest whole)

/-- Places that values are put in. -/
def targets : Reading Expr := tupleOf (starred lowest (lowest whole))

/-! ### Statements -/

/-- The operations that change what they are put in. -/
def augmentations : List (String × Operation) :=
  [("+=", .add), ("-=", .subtract), ("*=", .multiply), ("/=", .divide), ("//=", .quotient),
    ("%=", .remainder), ("**=", .power), ("<<=", .shiftLeft), (">>=", .shiftRight), ("&=", .both),
    ("|=", .either), ("^=", .other)]

/-- Values can be put in a place; if not, what it is instead. -/
def unfit? : Nat → Expr → Option String
  | 0, _ => none
  | n + 1, e =>
      match e.form with
      | .name _ | .feature _ _ | .item _ _ => none
      | .spread e => unfit? n e
      | .tuple items => items.findSome? (unfit? n)
      | .list items => items.findSome? (unfit? n)
      | .constant .none => some "None"
      | .constant (.bool true) => some "True"
      | .constant (.bool false) => some "False"
      | .constant .ellipsis => some "ellipsis"
      | .constant _ => some "literal"
      | .call _ _ => some "function call"
      | .compare _ _ => some "comparison"
      | .template _ => some "f-string expression"
      | .choice _ _ _ => some "conditional expression"
      | .function _ _ => some "lambda"
      | _ => some "expression"

/-- The values that are assigned behind some places. The first argument bounds their number. -/
def assigned : Nat → List Expr → Reading Deed
  | 0, _ => fault
  | n + 1, places => do
      let e ← values
      if ← accept "=" then assigned n (e :: places)
      else
        match places.reverse.findSome? fun p => (unfit? 100 p).map fun what => (p.span, what) with
        | some (span, what) =>
            throw ⟨"SyntaxError",
              "cannot assign to " ++ what ++ " here. Maybe you meant '==' instead of '='?", span⟩
        | none => return .assign places.reverse e

/-- A name with dots. -/
def dotted : Nat → Reading String
  | 0 => fault
  | n + 1 => do
      let first ← name
      if ← accept "." then return first ++ "." ++ (← dotted n) else return first

/-- What something is called besides. -/
def alias? : Reading (Option String) := do
  if ← acceptWord "as" then return some (← name) else return none

/-- Names separated by commas. -/
def names : Nat → Reading (List String)
  | 0 => fault
  | n + 1 => do
      let first ← name
      if ← accept "," then return first :: (← names n) else return [first]

/-- The modules that are named for loading. -/
def loadItems : Nat → Reading (List (String × Option String))
  | 0 => fault
  | n + 1 => do
      let word ← dotted (← bound)
      let other ← alias?
      if ← accept "," then return (word, other) :: (← loadItems n) else return [(word, other)]

/-- A statement without a block. -/
def simple : Reading Deed := do
  let some? (x : Reading Expr) : Reading (Option Expr) := do
    if ← seesExpr then return some (← x) else return none
  match ← peek with
  | .name "pass" =>
      skip
      return .pass
  | .name "break" =>
      skip
      return .leave
  | .name "continue" =>
      skip
      return .goOn
  | .name "return" =>
      skip
      return .giveBack (← some? values)
  | .name "raise" =>
      skip
      let e ← some? whole
      let cause ← if ← acceptWord "from" then some <$> whole else pure none
      return .raise e cause
  | .name "assert" =>
      skip
      let condition ← whole
      let message ← if ← accept "," then some <$> whole else pure none
      return .insist condition message
  | .name "del" =>
      skip
      let e ← targets
      match e.form with
      | .tuple items => return .delete items
      | _ => return .delete [e]
  | .name "global" =>
      skip
      return .shared (← names (← bound))
  | .name "nonlocal" =>
      skip
      return .outer (← names (← bound))
  | .name "import" =>
      skip
      return .load (← loadItems (← bound))
  | .name "from" =>
      skip
      let module ← dotted (← bound)
      expectWord "import"
      let item : Reading (String × Option String) := do
        let word ← name
        return (word, ← alias?)
      if ← accept "*" then return .loadFrom module [("*", none)]
      if ← accept "(" then return .loadFrom module (← listUntil item ")" (← bound) [])
      let (items, _) ← commas item (← bound) [] false
      return .loadFrom module items
  | _ =>
      let e ← values
      match ← peek with
      | .sign "=" =>
          skip
          assigned (← bound) [e]
      | .sign ":" =>
          skip
          let _ ← whole
          if ← accept "=" then return .assign [e] (← values) else return .pass
      | .sign s =>
          match augmentations.lookup s with
          | some op =>
              skip
              return .augment e op (← values)
          | none => return .evaluate e
      | _ => return .evaluate e

/-- Statements on one line. The first argument bounds their number. -/
def line : Nat → Reading (List Statement)
  | 0 => fault
  | n + 1 => do
      let start ← here
      let deed ← simple
      let s := Statement.mk (start.to (← get).last) deed
      if ← accept ";" then
        match ← peek with
        | .lineEnd =>
            skip
            return [s]
        | _ => return s :: (← line n)
      else match ← peek with
        | .lineEnd =>
            skip
            return [s]
        | .finish => return [s]
        | _ => fault

/-- Statements up to the end of a block. -/
def untilBack (one : Reading (List Statement)) : Nat → Reading (List Statement)
  | 0 => fault
  | n + 1 => do
      match ← peek with
      | .back =>
          skip
          return []
      | .finish => return []
      | _ =>
          let first ← one
          return first ++ (← untilBack one n)

/-- A block behind the head of a statement. -/
def block (one : Reading (List Statement)) (what : String) (line? : Span) :
    Reading (List Statement) := do
  if !(← accept ":") then faultWith "expected ':'"
  match ← peek with
  | .lineEnd =>
      skip
      match ← peek with
      | .deeper =>
          skip
          untilBack one (← bound)
      | _ =>
          throw ⟨"IndentationError", "expected an indented block after " ++ what ++ " on line " ++
            String.ofList (decimal line?.line), (← here).start⟩
  | _ => line (← bound)

/-- The block behind a word, if the word comes next. -/
def blockAfter (one : Reading (List Statement)) (word what : String) :
    Reading (List Statement) := do
  let start ← here
  if ← acceptWord word then block one what start else return []

/-- The further branches of a choice. -/
def branches (one : Reading (List Statement)) : Nat → Reading (List (Expr × List Statement))
  | 0 => fault
  | n + 1 => do
      let start ← here
      if ← acceptWord "elif" then
        let condition ← naming whole
        let body ← block one "'elif' statement" start
        return (condition, body) :: (← branches one n)
      else return []

/-- What is done when something goes wrong. -/
def handlers (one : Reading (List Statement)) : Nat → Reading (List Handler)
  | 0 => fault
  | n + 1 => do
      let start ← here
      if ← acceptWord "except" then
        let kind ← if ← sees ":" then pure none else some <$> tupleOf whole
        let word ← alias?
        let body ← block one "'except' statement" start
        return .mk kind word body :: (← handlers one n)
      else return []

/-- What a block is done with. -/
def companion : Reading (Expr × Option Expr) := do
  let e ← whole
  if ← acceptWord "as" then
    let start ← lowest whole
    return (e, some start)
  return (e, none)

/-- What functions and classes are decorated with. -/
def decorators : Nat → Reading (List Expr)
  | 0 => fault
  | n + 1 => do
      if ← accept "@" then
        let e ← whole
        match ← peek with
        | .lineEnd => skip
        | _ => fault
        return e :: (← decorators n)
      else return []

/-- A statement with blocks. -/
def compound (one : Reading (List Statement)) (word : String) : Reading Deed := do
  let start ← here
  let decorated ← if word = "@" then decorators (← bound) else pure []
  let word ← match ← peek with
    | .name w => pure w
    | _ => fault
  skip
  match word with
  | "if" =>
      let condition ← naming whole
      let body ← block one "'if' statement" start
      let others ← branches one (← bound)
      return .choose ((condition, body) :: others) (← blockAfter one "else" "'else' statement")
  | "while" =>
      let condition ← naming whole
      let body ← block one "'while' statement" start
      return .loop condition body (← blockAfter one "else" "'else' statement")
  | "for" =>
      let target ← targets
      expectWord "in"
      let source ← values
      let body ← block one "'for' statement" start
      return .each target source body (← blockAfter one "else" "'else' statement")
  | "try" =>
      let body ← block one "'try' statement" start
      let hs ← handlers one (← bound)
      let otherwise ← blockAfter one "else" "'else' statement"
      let stands := (← seesWord "finally")
      let atLast ← blockAfter one "finally" "'finally' statement"
      if hs.isEmpty && !stands then faultWith "expected 'except' or 'finally' block"
      return .attempt body hs otherwise atLast
  | "with" =>
      let (items, _) ← commas companion (← bound) [] false
      return .within items (← block one "'with' statement" start)
  | "def" =>
      let n ← name
      expect "("
      let parameters ← listUntil (parameter true whole) ")" (← bound) []
      if ← accept "->" then
        let _ ← whole
      let around := (← get).nature
      modify fun p => { p with nature := ⟨false, []⟩ }
      let body ← block one "function definition" start
      let nature := (← get).nature
      modify fun p => { p with nature := around }
      return .define n (settle false parameters) body decorated nature
  | "class" =>
      let n ← name
      let args ← if ← accept "(" then
          listUntil (argument lowest lowest whole) ")" (← bound) []
        else pure []
      let bases := args.filterMap fun
        | .plain e => some e
        | _ => none
      return .group n bases (← block one "class definition" start) decorated
  | _ => fault

/-- The words that begin a statement with blocks. -/
def compoundWords : List String := ["if", "while", "for", "try", "with", "def", "class"]

/-- Statements, of some depth. -/
def statement : Nat → Reading (List Statement)
  | 0 => fault
  | n + 1 => do
      let start ← here
      let deed? ← match ← peek with
        | .name w => if compoundWords.contains w then some <$> compound (statement n) w else pure none
        | .sign "@" => some <$> compound (statement n) "@"
        | .deeper => throw ⟨"IndentationError", "unexpected indent", start⟩
        | _ => pure none
      match deed? with
      | some deed => return [.mk (start.to (← get).last) deed]
      | none => line (← bound)

/-- The statements of a script. -/
def script : Nat → Reading (List Statement)
  | 0 => fault
  | n + 1 => do
      match ← peek with
      | .finish => return []
      | .lineEnd =>
          skip
          script n
      | _ =>
          let first ← statement (← bound)
          return first ++ (← script n)

end Reading

/-- Reads a script. -/
def read (source : List Char) : Except Problem (List Statement) := do
  let (lexemes, open?) ← lexemesOf source
  match (Reading.script (lexemes.length + 1)).run ⟨lexemes, default, ⟨false, []⟩⟩, open? with
  | .ok (statements, _), none => return statements
  | .ok _, some (bracket, span) => throw ⟨"SyntaxError", unclosed bracket, span⟩
  | .error problem, none => throw problem
  | .error problem, some (bracket, span) =>
      if span.line < problem.span.line then throw ⟨"SyntaxError", unclosed bracket, span⟩
      else throw problem
where
  unclosed (bracket : String) : String := "'" ++ bracket ++ "' was never closed"

end Enquiry.Tool.Script
