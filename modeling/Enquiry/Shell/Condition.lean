import Enquiry.Host.Program
import Enquiry.Text.Integer

/-!
# Conditions

What `test` decides about its arguments: strings, whole numbers and files, joined by `!`, `-a`,
`-o` and brackets. What the arguments mean depends on their number, so that an argument that looks
like an operator can be compared as well.
-/

namespace Enquiry.Shell.Condition

open Host Text

inductive Operator where
  /-- An operator in front of its operand. -/
  | unary (name : String)
  | binary (name : String)
  | negation | both | either | leftParen | rightParen
  deriving DecidableEq, Repr

def unaryNames : List String :=
  ["-r", "-w", "-x", "-e", "-f", "-d", "-c", "-b", "-p", "-u", "-g", "-k", "-s", "-t", "-z", "-n",
    "-h", "-O", "-G", "-L", "-S"]

def binaryNames : List String :=
  ["=", "!=", "<", ">", "-eq", "-ne", "-ge", "-gt", "-le", "-lt", "-nt", "-ot", "-ef"]

/-- The operator that an argument may be. With `rich`, two equals signs are one as well. -/
def operator? (rich : Bool) (arg : Octets) : Option Operator :=
  let name := String.ofList arg
  if unaryNames.contains name then some (.unary name)
  else if binaryNames.contains name then some (.binary name)
  else if rich ∧ name = "==" then some (.binary "=")
  else if name = "!" then some .negation
  else if name = "-a" then some .both
  else if name = "-o" then some .either
  else if name = "(" then some .leftParen
  else if name = ")" then some .rightParen
  else none

def isBinary (rich : Bool) (arg : Octets) : Bool :=
  match operator? rich arg with
  | some (.binary _) => true
  | _ => false

/-- The operator at the front of some arguments. One that needs an operand is none where nothing
follows, or where another operator has it as its first operand. -/
def front? (rich : Bool) (args : List Octets) : Option Operator :=
  match args with
  | [] => none
  | arg :: rest =>
      match operator? rich arg with
      | some (.unary name) =>
          match rest with
          | [] => none
          | [_] => some (.unary name)
          | next :: _ => if isBinary rich next then none else some (.unary name)
      | some .leftParen => if rest.isEmpty then none else some .leftParen
      | found => found

/-! ### Files -/

variable {σ : Type}

/-- A decision; it breaks off with what is wrong with the arguments. -/
abbrev Decision (σ : Type) := Program Octets σ

/-- The status of the file at a path. -/
def status? (path : Octets) (follow : Bool) : Decision σ (Option FileStatus) := do
  match ← Program.call (.status path follow) with
  | .ok status => return some status
  | .error _ => return none

/-- The user may use the file at a path. -/
def permits (path : Octets) (bits : Nat) : Decision σ Bool := do
  match ← Program.call (.access path bits) with
  | .ok _ => return true
  | .error _ => return false

/-- What a test of one file decides. -/
def fileTest (name : String) (path : Octets) : Decision σ Bool := do
  let holds (p : FileStatus → Bool) : Decision σ Bool := do return (← status? path true).any p
  let mode (bit : Nat) : Decision σ Bool := holds fun s => s.mode &&& bit != 0
  match name with
  | "-r" => permits path 4
  | "-w" => permits path 2
  | "-x" => permits path 1
  | "-e" => holds fun _ => true
  | "-f" => holds fun s => s.kind == .regular
  | "-d" => holds fun s => s.kind == .directory
  | "-c" => holds fun s => s.kind == .device
  | "-p" => holds fun s => s.kind == .fifo || s.kind == .pipe
  | "-u" => mode 0o4000
  | "-g" => mode 0o2000
  | "-k" => mode 0o1000
  | "-s" => holds fun s => 0 < s.size
  | "-O" => holds fun s => s.owned
  | "-G" => holds fun s => s.owned
  | "-h" => return (← status? path false).any fun s => s.kind == .link
  | "-L" => return (← status? path false).any fun s => s.kind == .link
  | _ => return false

/-- What a comparison of two files decides. -/
def compareFiles (name : String) (left right : Octets) : Decision σ Bool := do
  let l ← status? left true
  let r ← status? right true
  match name, l, r with
  | "-ef", some l, some r => return l.identity == r.identity
  | "-nt", some l, some r => return r.modified < l.modified
  | "-ot", some l, some r => return l.modified < r.modified
  | _, _, _ => return false

/-! ### Comparisons -/

/-- The whole number that an operand is. -/
def number (arg : Octets) : Decision σ Int :=
  match Integer.whole? (some 10) arg with
  | some n => return n
  | none => throw ("Illegal number: ".toList ++ arg)

def numeric? (name : String) : Option (Int → Int → Bool) :=
  [("-eq", fun a b : Int => a == b), ("-ne", fun a b => a != b), ("-lt", fun a b => decide (a < b)),
    ("-le", fun a b => decide (a ≤ b)), ("-gt", fun a b => decide (b < a)),
    ("-ge", fun a b => decide (b ≤ a))].lookup name

/-- What an operator between two operands decides. -/
def binaryTest (name : String) (left right : Octets) : Decision σ Bool := do
  match numeric? name with
  | some f => return f (← number left) (← number right)
  | none =>
      match name with
      | "=" => return left == right
      | "!=" => return left != right
      | "<" => return left < right
      | ">" => return right < left
      | _ => compareFiles name left right

/-- What an operator in front of its operand decides. -/
def unaryTest (name : String) (arg : Octets) : Decision σ Bool := do
  match name with
  | "-z" => return arg.isEmpty
  | "-n" => return !arg.isEmpty
  | "-t" =>
      let _ ← number arg
      return false
  | _ => fileTest name arg

/-! ### Expressions -/

/-- A decision and the arguments behind it. -/
abbrev Decided := Bool × List Octets

/-- Complains about an argument. -/
def complain {α : Type} (name : Octets) (text : String) : Decision σ α :=
  throw (if name.isEmpty then text.toList else name ++ ": ".toList ++ text.toList)

/-- Reads a test that is not negated; `inner` reads what stands in brackets. -/
def primary (rich : Bool) (inner : List Octets → Decision σ Decided) (args : List Octets) : Decision σ Decided := do
  match args with
  | [] => return (false, [])
  | arg :: rest =>
      match front? rich args, rest with
      | some .leftParen, ([')'] :: _) => return (false, rest)
      | some .leftParen, rest =>
          match ← inner rest with
          | (b, [')'] :: rest) => return (b, rest)
          | _ => complain [] "closing paren expected"
      | some (.unary name), [] => complain name.toList "argument expected"
      | some (.unary name), operand :: rest => return (← unaryTest name operand, rest)
      | _, op :: rest =>
          match front? rich (op :: rest), rest with
          | some (.binary name), right :: rest => return (← binaryTest name arg right, rest)
          | some (.binary name), [] => complain name.toList "argument expected"
          | _, _ => return (!arg.isEmpty, op :: rest)
      | _, [] => return (!arg.isEmpty, [])

/-- Reads a test and the negations in front of it. -/
def negated (rich : Bool) (inner : List Octets → Decision σ Decided) : List Octets → Decision σ Decided
  | [] => return (false, [])
  | arg :: rest => do
      match front? rich (arg :: rest) with
      | some .negation =>
          let (b, rest) ← negated rich inner rest
          return (!b, rest)
      | _ => primary rich inner (arg :: rest)

/-- Reads tests joined by an operator. The first argument bounds their number. -/
def joined (rich : Bool) (operator : Operator) (join : Bool → Bool → Bool)
    (one : List Octets → Decision σ Decided) : Nat → Bool → List Octets → Decision σ Decided
  | 0, b, args => return (b, args)
  | n + 1, b, args => do
      let (c, rest) ← one args
      let b := join b c
      if front? rich rest = some operator then joined rich operator join one n b (rest.drop 1)
      else return (b, rest)

/-- Reads any condition. The first argument bounds the depth of brackets. -/
def expression (rich : Bool) : Nat → List Octets → Decision σ Decided
  | 0, args => return (false, args)
  | n + 1, args =>
      let size := args.length + 1
      joined rich .either (· || ·)
        (joined rich .both (· && ·) (negated rich (expression rich n)) size true) size false args

/-- What all arguments together decide. Where they go on behind a condition, the last one that has
been read is complained about; with `rich`, the first one that has not. -/
def whole (rich : Bool) (args : List Octets) : Decision σ Bool := do
  match ← expression rich (args.length + 1) args with
  | (b, []) => return b
  | (_, rest) =>
      let read := args.take (args.length - rest.length)
      complain (if rich then rest.headD [] else read.getLast?.getD []) "unexpected operator"

/-- What some arguments decide. The first argument bounds the number of negations in front. -/
def holds (rich : Bool) : Nat → List Octets → Decision σ Bool
  | 0, _ => return false
  | n + 1, args => do
      let special (args : List Octets) : Decision σ Bool := do
        match args with
        | ['('] :: rest =>
            if rest.getLast? = some [')'] then whole rich rest.dropLast else whole rich args
        | ['!'] :: rest => return !(← holds rich n rest)
        | args => whole rich args
      match args with
      | [] => return false
      | [left, op, right] =>
          match operator? rich op with
          | some (.binary name) => binaryTest name left right
          | _ => special args
      | [_, _, _, _] => special args
      | args => whole rich args

/-- What some arguments decide. -/
def decision (rich : Bool) (args : List Octets) : Decision σ Bool :=
  holds rich (args.length + 1) args

end Enquiry.Shell.Condition
