import Enquiry.Regex.Search
import Enquiry.Shell.Condition
import Enquiry.Shell.Format
import Enquiry.Tool.Flags

/-!
# Values

Tools that write their arguments, test them, and calculate with them.
-/

namespace Enquiry.Tool

open Host Text

/-! ### Writing -/

def echo (args : List Octets) : Tool Unit := print (Shell.richlyEchoed args)

/-- A complaint about an argument in the words of this tool. -/
def numberComplaint (text : Octets) : Octets :=
  let cut (ending words : String) : Option Octets :=
    if ending.toList.isSuffixOf text then
      some (quoted (text.take (text.length - ending.length)) ++ words.toList)
    else none
  (cut ": expected numeric value" ": expected a numeric value").getD
    ((cut ": not completely converted" ": value not completely converted").getD
      ((cut ": Numerical result out of range" ": Numerical result out of range").getD text))

def printf (args : List Octets) : Tool Unit := do
  let args := match args with
    | ['-', '-'] :: rest => rest
    | args => args
  match args with
  | [] => missingOperand 1
  | format :: args =>
      let filling := Shell.formatted format args
      for text in filling.complaints.reverse do warnAnd 1 (numberComplaint text)
      print filling.text
      match filling.fault with
      | some text =>
          flush
          fail 1 text
      | none => return ()

/-! ### Conditions -/

/-- A complaint about a condition in the words of this tool. -/
def conditionComplaint (text : Octets) : Octets :=
  match afterStart? "Illegal number: ".toList text with
  | some arg => "invalid integer ".toList ++ quoted arg
  | none =>
      let ending := ": unexpected operator".toList
      if ending.isSuffixOf text then
        "extra argument ".toList ++ quoted (text.take (text.length - ending.length))
      else text

/-- What is wrong with two or three arguments, which have to be an operator and its operands. -/
def misplaced? (args : List Octets) : Option Octets :=
  match args with
  | [['!'], _] => none
  | [op, arg] =>
      match op with
      | ['-', _] =>
          if Shell.Condition.unaryNames.contains (String.ofList op) then none
          else some (quoted op ++ ": unary operator expected".toList)
      | _ => some ("missing argument after ".toList ++ quoted arg)
  | [left, op, right] =>
      match Shell.Condition.operator? true op with
      | some (.binary _) => none
      | some .both => none
      | some .either => none
      | _ =>
          if left = ['!'] ∨ left = ['('] ∧ right = [')'] then none
          else some (quoted op ++ ": binary operator expected".toList)
  | _ => none

/-- Decides about some arguments. -/
def verdict (args : List Octets) : Tool Unit := do
  match misplaced? args with
  | some text => fail 2 text
  | none => pure ()
  let holds ← (Shell.Condition.decision true args).recover fun text => do
    let text : Octets := text
    fail 2 (conditionComplaint text)
  note (if holds then 0 else 1)

def test (args : List Octets) : Tool Unit := verdict args

/-- The same, with a bracket behind the arguments. -/
def bracket (args : List Octets) : Tool Unit := do
  if args.getLast? = some [']'] then verdict args.dropLast else fail 2 "missing ']'".toList

/-! ### expr -/

namespace Expr

/-- Why an expression has no value. -/
inductive Fault where
  | notInteger | divisionByZero | missing (behind : Octets) | unexpected (arg : Octets)
  | unclosed (behind : Octets) | instead (arg : Octets) | stray
  | regex (f : Regex.Fault)

def Fault.message : Fault → Octets
  | notInteger => "non-integer argument".toList
  | divisionByZero => "division by zero".toList
  | missing behind => "syntax error: missing argument after ".toList ++ quoted behind
  | unclosed behind => "syntax error: expecting ')' after ".toList ++ quoted behind
  | instead arg => "syntax error: expecting ')' instead of ".toList ++ quoted arg
  | stray => "syntax error: unexpected ')'".toList
  | unexpected arg => "syntax error: unexpected argument ".toList ++ quoted arg
  | regex f => f.message.toList

/-- The value of an operand that is a whole number. -/
def integer? (text : Octets) : Option Int :=
  let digits := match text with
    | '-' :: rest => rest
    | rest => rest
  if digits.isEmpty || !digits.all isAsciiDigit then none
  else
    let n : Int := digitsValue 10 digits
    some (if text.head? = some '-' then -n else n)

/-- Nothing, or zero. -/
def isNull (text : Octets) : Bool :=
  text.isEmpty || (match integer? text with
    | some n => n == 0
    | none => false)

def truth (b : Bool) : Octets := if b then ['1'] else ['0']

/-- What an operator makes of two whole numbers. -/
def calculate (op : Octets) (left right : Octets) : Except Fault Octets := do
  match integer? left, integer? right with
  | some a, some b =>
      if op = ['+'] then return signed (a + b)
      else if op = ['-'] then return signed (a - b)
      else if op = ['*'] then return signed (a * b)
      else if b = 0 then throw .divisionByZero
      else if op = ['/'] then return signed (Int.tdiv a b)
      else return signed (Int.tmod a b)
  | _, _ => throw .notInteger

/-- What a comparison makes of two operands. -/
def compareAs (op : Octets) (left right : Octets) : Octets :=
  let order := match integer? left, integer? right with
    | some a, some b => compare a b
    | _, _ => if left = right then .eq else if left < right then .lt else .gt
  truth <| match String.ofList op with
    | "<" => order == .lt
    | "<=" => order != .gt
    | ">" => order == .gt
    | ">=" => order != .lt
    | "!=" => order != .eq
    | _ => order == .eq

/-- What an expression finds at the front of a text: its first part, or how much it stands for. -/
def matched (text pattern : Octets) : Except Fault Octets := do
  match Regex.read ⟨false, .none, false⟩ pattern with
  | .error f => throw (.regex f)
  | .ok node =>
      let anchored := Regex.Node.pair (.anchor .textStart) node
      let r := Regex.ofNode ⟨false, false⟩ anchored
      let found := r.search? text
      if 0 < r.groups then
        return match found.bind (·.group? 1) with
          | some (a, b) => Regex.slice text a b
          | none => []
      else return decimal ((found.map Regex.Match.stop).getD 0)

/-- The operators of a level, the loosest first. -/
def levels : List (List Octets) :=
  [[['|']], [['&']], [['<'], ['<', '='], ['='], ['=', '='], ['!', '='], ['>', '='], ['>']],
    [['+'], ['-']], [['*'], ['/'], ['%']], [[':']]]

/-- What an operator makes of two operands. -/
def join (op left right : Octets) : Except Fault Octets := do
  if op = ['|'] then return if isNull left then (if isNull right then ['0'] else right) else left
  else if op = ['&'] then return if isNull left || isNull right then ['0'] else left
  else if op = [':'] then matched left right
  else if "+-*/%".toList.any fun c => op == [c] then calculate op left right
  else return compareAs op left right

/-- What has been read: a value, the last argument, and those behind it. -/
structure Reading where
  value : Octets
  last : Octets
  rest : List Octets

/-- Reads an operand; `whole` reads what stands in brackets, and `operand` another operand. -/
def readOperand (whole operand : List Octets → Octets → Except Fault Reading)
    (args : List Octets) (last : Octets) : Except Fault Reading := do
  match args with
  | [] => throw (.missing last)
  | arg :: rest =>
      if arg = ['('] then
        let r ← whole rest arg
        match r.rest with
        | [')'] :: rest => return { r with rest, last := [')'] }
        | [] => throw (.unclosed r.last)
        | other :: _ => throw (.instead other)
      else if arg = [')'] then throw .stray
      else if arg = ['+'] then
        match rest with
        | [] => throw (.missing arg)
        | v :: rest => return ⟨v, v, rest⟩
      else if arg = "length".toList then
        let r ← operand rest arg
        return { r with value := decimal r.value.length }
      else if arg = "match".toList then
        let text ← operand rest arg
        let pattern ← operand text.rest text.last
        return { pattern with value := ← matched text.value pattern.value }
      else if arg = "index".toList then
        let text ← operand rest arg
        let chars ← operand text.rest text.last
        let place := (text.value.findIdx? chars.value.contains).elim 0 (· + 1)
        return { chars with value := decimal place }
      else if arg = "substr".toList then
        let text ← operand rest arg
        let start ← operand text.rest text.last
        let size ← operand start.rest start.last
        let value := match integer? start.value, integer? size.value with
          | some a, some n => if a < 1 ∨ n < 1 then [] else (text.value.drop (a.toNat - 1)).take n.toNat
          | _, _ => []
        return { size with value }
      else return ⟨arg, arg, rest⟩

/-- Reads operands that operators of one level join. The first argument bounds their number. -/
def readJoined (ops : List Octets) (next : List Octets → Octets → Except Fault Reading) :
    Nat → Reading → Except Fault Reading
  | 0, r => .ok r
  | n + 1, r => do
      match r.rest with
      | op :: rest =>
          if ops.contains op then
            let right ← next rest op
            readJoined ops next n { right with value := ← join op r.value right.value }
          else return r
      | [] => return r

/-- Reads operands that the operators of some levels join. -/
def readLevels (operand : List Octets → Octets → Except Fault Reading) :
    List (List Octets) → List Octets → Octets → Except Fault Reading
  | [], args, last => operand args last
  | ops :: inner, args, last => do
      let first ← readLevels operand inner args last
      readJoined ops (readLevels operand inner) args.length first

/-- Reads an operand. The first argument bounds the depth. -/
def operandAt : Nat → List Octets → Octets → Except Fault Reading
  | 0, _, last => .error (.missing last)
  | n + 1, args, last =>
      readOperand (readLevels (operandAt n) levels) (operandAt n) args last

/-- The value of an expression. -/
def value (args : List Octets) : Except Fault Octets := do
  let r ← readLevels (operandAt (args.length + 1)) levels args []
  match r.rest with
  | [] => return r.value
  | arg :: _ => throw (.unexpected arg)

end Expr

def expr (args : List Octets) : Tool Unit := do
  let args := match args with
    | ['-', '-'] :: rest => rest
    | args => args
  if args.isEmpty then missingOperand 2
  match Expr.value args with
  | .error f => fail 2 f.message
  | .ok text =>
      printLine text
      note (if Expr.isNull text then 1 else 0)

/-! ### Others -/

/-- The numbers that a number is made of. The first argument bounds their number. -/
def factorsOf : Nat → Nat → Nat → List Nat
  | 0, _, n => [n]
  | k + 1, d, n =>
      if n < 2 then []
      else if n < d * d then [n]
      else if n % d = 0 then d :: factorsOf k d (n / d)
      else factorsOf k (d + 1) n

def factor (args : List Octets) : Tool Unit := do
  for arg in args do
    match number? arg with
    | some n =>
        printLine (decimal n ++ ':' :: (factorsOf 2000000 2 n).flatMap fun p => ' ' :: decimal p)
    | none => warnAnd 1 (quoted arg ++ " is not a valid positive integer".toList)

/-- Shows where programs are. -/
def which (args : List Octets) : Tool Unit := do
  let (flags, names) ← readFlags (.of "as" []) args
  let path := ((← inherited? "PATH").getD [])
  for name in names do
    let places := if name.contains '/' then [name]
      else (List.splitOn ':' path).map fun d => d ++ '/' :: name
    let found ← places.filterM fun place => do
      match ← Program.call (.status place true), ← Program.call (.access place 1) with
      | .ok status, .ok _ => return status.kind == .regular
      | _, _ => return false
    match found with
    | [] => note 1
    | first :: _ => for place in (if has flags 'a' then found else [first]) do printLine place

end Enquiry.Tool
