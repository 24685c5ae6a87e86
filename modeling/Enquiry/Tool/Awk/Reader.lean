import Enquiry.Tool.Awk.Token

/-!
# Reading programs of the record processor

An expression is read by levels, from the ones that bind the least to single operands. Names become
numbers of variables when they are met for the first time.
-/

namespace Enquiry.Tool.Awk

open Host Text

/-- Where the reader is. -/
structure Position where
  tokens : List Placed
  /-- The names of shared variables, and those of the function that is read. -/
  shared : List Octets
  own : List Octets
  /-- The names of functions, and those that have been read. -/
  called : List Octets
  defined : List (Nat × Function)
  /-- A comparison with `>` would be taken for a place that is written to. -/
  printing : Bool
  /-- A function is being read. -/
  inFunction : Bool
  /-- How many brackets and braces are open. -/
  brackets : Nat
  braces : Nat
  ranges : Nat
  lines : Nat

abbrev Reading := StateT Position (Except Problem)

namespace Reading

/-! ### Tokens -/

def peek : Reading Token := do return ((← get).tokens.head?.map Prod.fst).getD .ending

/-- The token behind the next one. -/
def peekSecond : Reading Token := do
  return (((← get).tokens.drop 1).head?.map Prod.fst).getD .ending

def skip : Reading Unit := modify fun p => { p with tokens := p.tokens.drop 1 }

/-- The program goes on in a way that makes no sense. -/
def fault {α : Type} : Reading α := do
  let p ← get
  match p.tokens with
  | [] => throw (problemAt (p.lines + 1) (if 0 < p.braces then
      "missing \x7d near end of file".toList
      else "syntax error at or near end of file".toList))
  | (t, line) :: rest =>
      let atEnd := match t with
        | .ending => rest.isEmpty
        | _ => false
      if atEnd && 0 < p.braces then
        throw (problemAt (line + 1) "missing \x7d near end of file".toList)
      else if 0 < p.brackets then
        match t with
        | .sign s => throw (problemAt line ("missing ) near ".toList ++ s))
        | .ending => throw (problemAt line "missing ) near end of line".toList)
        | _ => pure ()
      throw (problemAt line ("syntax error at or near ".toList ++ t.written))

/-- A sign comes next. -/
def sees (s : String) : Reading Bool := do
  match ← peek with
  | .sign t => return t == s.toList
  | _ => return false

/-- A word comes next. -/
def seesWord (s : String) : Reading Bool := do
  match ← peek with
  | .word w => return w == s.toList
  | _ => return false

def accept (s : String) : Reading Bool := do
  if ← sees s then
    skip
    return true
  return false

def expect (s : String) : Reading Unit := do
  if !(← accept s) then fault

def expectWord (s : String) : Reading Unit := do
  if ← seesWord s then skip else fault

/-- Skips the ends of lines, and semicolons if they are no matter. The first argument bounds their
number. -/
def skipEndings (semicolons : Bool) : Nat → Reading Unit
  | 0 => return ()
  | n + 1 => do
      match ← peek with
      | .ending =>
          if (← get).tokens.isEmpty then return ()
          skip
          skipEndings semicolons n
      | .sign [';'] =>
          if semicolons then
            skip
            skipEndings semicolons n
      | _ => return ()

def newlines : Reading Unit := do skipEndings false (← get).tokens.length

def blanks : Reading Unit := do skipEndings true (← get).tokens.length

/-! ### Names -/

/-- The number of a name among some names, and all names. -/
def numberOf (name : Octets) (names : List Octets) : Nat × List Octets :=
  match names.findIdx? (· == name) with
  | some n => (n, names)
  | none => (names.length, names ++ [name])

/-- The variable of a name. -/
def place (name : Octets) : Reading Place := do
  let p ← get
  match p.own.findIdx? (· == name) with
  | some n => return .own n
  | none =>
      let (n, shared) := numberOf name p.shared
      set { p with shared }
      return .shared n

def isName (w : Octets) : Bool :=
  let text := String.ofList w
  !keywords.contains text && (builtins.lookup text).isNone

/-- A name that stands next. -/
def name : Reading Octets := do
  match ← peek with
  | .word w =>
      if !isName w then fault
      skip
      return w
  | .callee w =>
      skip
      return w
  | _ => fault

/-! ### Lists -/

/-- Reads in brackets, where `>` is a comparison. -/
def bracketed {α : Type} (close : String) (x : Reading α) : Reading α := do
  let printing := (← get).printing
  modify fun p =>
    { p with printing := false, brackets := if close = ")" then p.brackets + 1 else p.brackets }
  let a ← x
  expect close
  modify fun p => { p with printing, brackets := if close = ")" then p.brackets - 1 else p.brackets }
  return a

/-- What stands between commas. The first number bounds how many there are. -/
def commaList (item : Reading Expr) : Nat → Reading (List Expr)
  | 0 => fault
  | n + 1 => do
      let e ← item
      if ← accept "," then
        newlines
        return e :: (← commaList item n)
      return [e]

/-- Expressions between commas, of which there may be none before a sign. -/
def exprs (item : Reading Expr) (close : String) : Reading (List Expr) := do
  newlines
  if ← sees close then return []
  let found ← commaList item (← get).tokens.length
  newlines
  return found

/-! ### Operands -/

def isTarget : Expr → Bool
  | .name _ | .element _ _ | .field _ => true
  | _ => false

/-- The sign of an operation that changes its target. -/
def updates : List (String × Operation) :=
  [("+=", .add), ("-=", .subtract), ("*=", .multiply), ("/=", .divide), ("%=", .remainder),
    ("^=", .power)]

/-- A name with its keys. -/
def named (inner : Reading Expr) (w : Octets) : Reading Expr := do
  let p ← place w
  if ← accept "[" then
    let keys ← bracketed "]" (exprs inner "]")
    return .element p keys
  return .name p

mutual

/-- An operand without signs behind it. The first argument bounds the depth. -/
def operand (inner : Reading Expr) : Nat → Reading Expr
  | 0 => fault
  | n + 1 => do
      match ← peek with
      | .number x _ => skip; return .number x
      | .text t => skip; return .text t
      | .pattern t => skip; return .pattern t
      | .callee w =>
          skip
          skip
          let args ← bracketed ")" (exprs inner ")")
          let (f, called) := numberOf w (← get).called
          modify fun p => { p with called }
          return .call f args
      | .word w => skip; worded inner w n
      | .sign s =>
          match String.ofList s with
          | "(" =>
              skip
              let items ← bracketed ")" (exprs inner ")")
              match items with
              | [] => fault
              | [e] => return e
              | keys =>
                  expectWord "in"
                  return .within keys (← place (← name))
          | "$" =>
              skip
              if ← accept "-" then return .field (.negative (← operand inner n))
              return .field (← operand inner n)
          | "++" =>
              skip
              return .count .add true (← operand inner n)
          | "--" =>
              skip
              return .count .subtract true (← operand inner n)
          | "-" =>
              skip
              return .negative (← operand inner n)
          | _ => fault
      | .ending => fault

/-- An operand that begins with a word. -/
def worded (inner : Reading Expr) (w : Octets) : Nat → Reading Expr
  | 0 => fault
  | n + 1 => do
      if isName w then named inner w
      else if w = "getline".toList then
        let target ← match ← peek with
          | .word v => if isName v then some <$> (do skip; named inner v) else pure none
          | .sign ['$'] => some <$> operand inner n
          | _ => pure none
        if ← accept "<" then return .takeFrom false (← operand inner n) target
        return .take target
      else match builtins.lookup (String.ofList w) with
        | some b =>
            if ← accept "(" then
              return .builtin b (← bracketed ")" (exprs inner ")"))
            if b = .length then return .builtin b [] else fault
        | none => fault

end

/-- An operand with what stands behind it: a count, or a value that it gets. -/
def target (inner : Reading Expr) : Reading Expr := do
  let e ← operand inner (← get).tokens.length
  if !isTarget e then return e
  match ← peek with
  | .sign s =>
      let sign := String.ofList s
      if sign = "++" then
        skip
        return .count .add false e
      else if sign = "--" then
        skip
        return .count .subtract false e
      else if sign = "=" then
        skip
        newlines
        return .assign e (← inner)
      else match updates.lookup sign with
        | some op =>
            skip
            newlines
            return .update op e (← inner)
        | none => return e
  | _ => return e

/-! ### Levels -/

/-- Operands with signs between them, from left to right. The first number bounds how many there
are. -/
def chain (next : Reading Expr) (signs : List (String × (Expr → Expr → Expr))) :
    Nat → Expr → Reading Expr
  | 0, e => return e
  | n + 1, e => do
      match ← peek with
      | .sign s =>
          let sign := String.ofList s
          if sign = ">" ∧ (← get).printing then return e
          match signs.lookup sign with
          | some f =>
              skip
              if sign = "&&" ∨ sign = "||" then newlines
              let other ← next
              chain next signs n (f e other)
          | none => return e
      | _ => return e

def chained (next : Reading Expr) (signs : List (String × (Expr → Expr → Expr))) :
    Reading Expr := do
  let e ← next
  chain next signs (← get).tokens.length e

/-- Powers, which bind to the right. The first argument bounds the depth. -/
def power (inner : Reading Expr) : Nat → Reading Expr
  | 0 => fault
  | n + 1 => do
      let e ← target inner
      if ← accept "^" then
        if ← accept "-" then return .operate .power e (.negative (← power inner n))
        if ← accept "+" then return .operate .power e (.positive (← power inner n))
        if ← accept "!" then return .operate .power e (.opposite (← power inner n))
        return .operate .power e (← power inner n)
      return e

/-- Commands whose output is taken. The first number bounds how many there are. -/
def piped (inner : Reading Expr) : Nat → Expr → Reading Expr
  | 0, e => return e
  | n + 1, e => do
      if (← get).printing || !(← sees "|") then return e
      match ← peekSecond with
      | .word w =>
          if w ≠ "getline".toList then return e
          skip
          skip
          let goal ← match ← peek with
            | .word v => if isName v then some <$> (do skip; named inner v) else pure none
            | .sign ['$'] => some <$> operand inner n
            | _ => pure none
          piped inner n (.takeFrom true e goal)
      | _ => return e

/-- Signs in front of an operand. The first argument bounds their number. -/
def signed (inner : Reading Expr) : Nat → Reading Expr
  | 0 => fault
  | n + 1 => do
      if ← accept "!" then return .opposite (← signed inner n)
      if ← accept "-" then return .negative (← signed inner n)
      if ← accept "+" then return .positive (← signed inner n)
      let size := (← get).tokens.length
      let e ← power inner size
      piped inner size e

def product (inner : Reading Expr) : Reading Expr := do
  chained (signed inner ((← get).tokens.length + 1))
    [("*", .operate .multiply), ("/", .operate .divide), ("%", .operate .remainder)]

def sum (inner : Reading Expr) : Reading Expr :=
  chained (product inner) [("+", .operate .add), ("-", .operate .subtract)]

/-- An operand comes next. -/
def seesOperand : Reading Bool := do
  match ← peek with
  | .number _ _ | .text _ | .pattern _ | .callee _ => return true
  | .word w => return isName w || (builtins.lookup (String.ofList w)).isSome
  | .sign s => return ["$", "(", "!", "++", "--"].contains (String.ofList s)
  | .ending => return false

/-- Texts one behind another. -/
def joined (inner : Reading Expr) : Nat → Expr → Reading Expr
  | 0, e => return e
  | n + 1, e => do
      if ← seesOperand then
        let other ← sum inner
        joined inner n (.join e other)
      else return e

def text (inner : Reading Expr) : Reading Expr := do
  let e ← sum inner
  joined inner (← get).tokens.length e

def comparison (inner : Reading Expr) : Reading Expr :=
  chained (text inner)
    [("<", .compare .less), ("<=", .compare .atMost), ("==", .compare .same),
      ("!=", .compare .different), (">", .compare .more), (">=", .compare .atLeast)]

def matched (inner : Reading Expr) : Reading Expr :=
  chained (comparison inner) [("~", .matching false), ("!~", .matching true)]

/-- Whether keys are in an array. -/
def membership : Nat → Expr → Reading Expr
  | 0, e => return e
  | n + 1, e => do
      if ← seesWord "in" then
        skip
        let p ← place (← name)
        membership n (.within [e] p)
      else return e

def member (inner : Reading Expr) : Reading Expr := do
  let e ← matched inner
  membership (← get).tokens.length e

def either (inner : Reading Expr) : Reading Expr :=
  chained (chained (member inner) [("&&", .both)]) [("||", .either)]

/-- An expression. The first argument bounds the depth. -/
def expr : Nat → Reading Expr
  | 0 => fault
  | n + 1 => do
      let e ← either (expr n)
      if ← accept "?" then
        newlines
        let yes ← expr n
        newlines
        expect ":"
        newlines
        return .choice e yes (← expr n)
      return e

/-- An expression of any depth. -/
def whole : Reading Expr := do expr ((← get).tokens.length + 1)

/-! ### Statements -/

/-- The statement ends here. -/
def seesEnd : Reading Bool := do
  match ← peek with
  | .ending => return true
  | .sign [';'] => return true
  | .sign ['\x7d'] => return true
  | _ => return false

def endOfStatement : Reading Unit := do
  match ← peek with
  | .ending => skip
  | .sign [';'] => skip
  | .sign ['\x7d'] => return ()
  | _ => fault

/-- A place that is written to. -/
def direction? : Reading (Option (Direction × Expr)) := do
  let kind ← match ← peek with
    | .sign ['>'] => pure (some Direction.file)
    | .sign ['>', '>'] => pure (some .append)
    | .sign ['|'] => pure (some .command)
    | _ => pure none
  match kind with
  | none => return none
  | some kind =>
      skip
      return some (kind, ← whole)

/-- What is written: a list that may stand in brackets. -/
def written : Reading (List Expr) := do
  let start ← get
  let after : Reading Bool := do
    if ← seesEnd then return true
    return (← sees ">") || (← sees ">>") || (← sees "|")
  if ← after then return []
  if ← accept "(" then
    let attempt := (do
      let items ← bracketed ")" (exprs whole ")")
      return (items, ← after) : Reading (List Expr × Bool)).run (← get)
    match attempt with
    | .ok ((items, true), p) =>
        set p
        return items
    | .error e =>
        set start
        match (commaList whole start.tokens.length).run start with
        | .ok (items, p) =>
            set p
            return items
        | .error _ => throw e
    | .ok _ =>
        set start
        commaList whole start.tokens.length
  else commaList whole start.tokens.length

/-- A print statement. -/
def printing : Reading (List Expr × Option (Direction × Expr)) := do
  modify fun p => { p with printing := true }
  let args ← written
  let target ← direction?
  modify fun p => { p with printing := false }
  return (args, target)

/-- A statement that is no compound of others, without its end. -/
def simple : Reading Statement := do
  match ← peek with
  | .word w =>
      match String.ofList w with
      | "print" =>
          skip
          let (args, target) ← printing
          return .print args target
      | "printf" =>
          skip
          let (args, target) ← printing
          if args.isEmpty then fault
          return .printf args target
      | "delete" =>
          skip
          let p ← place (← name)
          if ← accept "[" then
            return .delete p (some (← bracketed "]" (exprs whole "]")))
          return .delete p none
      | _ => return .expr (← whole)
  | _ => return .expr (← whole)

/-- A loop over the keys of an array comes next. -/
def seesEach : Reading Bool := do
  match ((← get).tokens.take 4).map Prod.fst with
  | [.word k, .word i, .word a, .sign [')']] =>
      return isName k && i == "in".toList && isName a
  | _ => return false

/-- A value behind a word, if there is one. -/
def value? : Reading (Option Expr) := do
  if ← seesEnd then return none
  return some (← whole)

/-- A statement with its end. The first argument bounds the depth. -/
def statement : Nat → Reading Statement
  | 0 => fault
  | n + 1 => do
      let body : Reading Statement := do
        newlines
        statement n
      let finished (s : Statement) : Reading Statement := do
        endOfStatement
        return s
      let inBrackets {α : Type} (x : Reading α) : Reading α := do
        expect "("
        bracketed ")" x
      match ← peek with
      | .sign ['\x7b'] =>
          let s ← block n
          if ← sees ";" then skip
          return s
      | .sign [';'] =>
          skip
          return .block []
      | .word w =>
          match String.ofList w with
          | "if" =>
              skip
              let test ← inBrackets whole
              let yes ← body
              let before ← get
              blanks
              if ← seesWord "else" then
                skip
                return .choose test yes (some (← body))
              set before
              return .choose test yes none
          | "while" =>
              skip
              let test ← inBrackets whole
              if ← accept ";" then return .loop (some test) none (.block [])
              return .loop (some test) none (← body)
          | "do" =>
              skip
              let s ← body
              blanks
              expectWord "while"
              let test ← inBrackets whole
              finished (.loopOnce s test)
          | "for" =>
              skip
              expect "("
              if ← seesEach then
                let target ← place (← name)
                skip
                let array ← place (← name)
                expect ")"
                return .each target array (← body)
              let first ← if ← sees ";" then pure none else some <$> simple
              expect ";"
              newlines
              let test ← if ← sees ";" then pure none else some <$> whole
              expect ";"
              newlines
              let step ← if ← sees ")" then pure none else some <$> simple
              expect ")"
              let rest ← if ← accept ";" then pure (.block []) else body
              return .block (first.toList ++ [.loop test step rest])
          | "break" => skip; finished .leave
          | "continue" => skip; finished .goOn
          | "next" => skip; finished .next
          | "nextfile" => skip; finished .nextFile
          | "exit" =>
              skip
              let e ← value?
              finished (.exit e)
          | "return" =>
              if !(← get).inFunction then
                let line := ((← get).tokens.head?.map Prod.snd).getD 1
                throw (problemAt line "return outside function body".toList)
              skip
              let e ← value?
              finished (.giveBack e)
          | _ =>
              let s ← simple
              finished s
      | _ =>
          let s ← simple
          finished s
where
  /-- Statements in braces. -/
  block (n : Nat) : Reading Statement := do
    expect "\x7b"
    modify fun p => { p with braces := p.braces + 1 }
    let body ← statements n (← get).tokens.length
    expect "\x7d"
    modify fun p => { p with braces := p.braces - 1 }
    return .block body
  /-- Statements one behind another, up to a closing brace. -/
  statements (n : Nat) : Nat → Reading (List Statement)
    | 0 => fault
    | k + 1 => do
        blanks
        if ← sees "\x7d" then return []
        let s ← statement n
        return s :: (← statements n k)

/-- Statements in braces, of any depth. -/
def block : Reading Statement := do
  if !(← sees "\x7b") then fault
  statement ((← get).tokens.length + 1)

/-! ### Rules -/

/-- The names of what a function is given. -/
def parameters : Nat → Reading (List Octets)
  | 0 => fault
  | n + 1 => do
      newlines
      if ← sees ")" then return []
      let w ← name
      newlines
      if ← accept "," then return w :: (← parameters n)
      return [w]

/-- A function behind its word. -/
def function : Reading Unit := do
  newlines
  let w ← name
  expect "("
  let own ← bracketed ")" (do parameters (← get).tokens.length)
  newlines
  let (f, called) := numberOf w (← get).called
  modify fun p => { p with called, own, inFunction := true }
  let body ← block
  modify fun p =>
    { p with own := [], inFunction := false, defined := (f, ⟨own.length, body⟩) :: p.defined }

/-- A rule. -/
def rule : Reading Rule := do
  let action? : Reading (Option Statement) := do
    if ← sees "\x7b" then return some (← block) else return none
  if ← seesWord "BEGIN" then
    skip
    return ⟨.start, some (← block)⟩
  if ← seesWord "END" then
    skip
    return ⟨.finish, some (← block)⟩
  if ← sees "\x7b" then return ⟨.always, some (← block)⟩
  let first ← whole
  if ← accept "," then
    newlines
    let last ← whole
    let n := (← get).ranges
    modify fun p => { p with ranges := n + 1 }
    return ⟨.range n first last, ← action?⟩
  return ⟨.test first, ← action?⟩

/-- All rules. The first number bounds how many there are. -/
def rules : Nat → List Rule → Reading (List Rule)
  | 0, found => return found.reverse
  | n + 1, found => do
      blanks
      if (← get).tokens.isEmpty then return found.reverse
      if ← seesWord "function" then
        skip
        function
        rules n found
      else
        let r ← rule
        rules n (r :: found)

end Reading

/-- The program of a text, with some names that are known from outside. -/
def read (outside : List Octets) (text : Octets) : Except Problem Script := do
  let tokens ← tokensOf text
  let lines := (text.filter (· == '\n')).length + 1
  let names := specials.map fun (name, _) => name.toList
  let start : Position :=
    { tokens, shared := names ++ outside.filter fun n => !names.contains n, own := [], called := []
      defined := [], printing := false, inFunction := false, brackets := 0, braces := 0, ranges := 0, lines }
  let (rules, p) ← (Reading.rules (tokens.length + 1) []).run start
  match p.called.zipIdx.find? fun (_, f) => (p.defined.lookup f).isNone with
  | some (w, _) =>
      throw (problemAt (lines + 1) ("function ".toList ++ w ++ " never defined".toList))
  | none =>
      let functions := (List.range p.called.length).map fun f =>
        (p.defined.lookup f).getD ⟨0, .block []⟩
      return ⟨rules, functions.toArray, p.shared⟩

end Enquiry.Tool.Awk
