import Enquiry.Tool.Script.Token

/-!
# Trees of scripts

Expressions and statements. Each knows the stretch of the source in which it is written.
-/

namespace Enquiry.Tool.Script

open Host

inductive Operation where
  | add | subtract | multiply | divide | quotient | remainder | power
  | shiftLeft | shiftRight | both | either | other
  deriving DecidableEq, Repr

/-- The sign of an operation. -/
def Operation.sign : Operation → String
  | add => "+"
  | subtract => "-"
  | multiply => "*"
  | divide => "/"
  | quotient => "//"
  | remainder => "%"
  | power => "** or pow()"
  | shiftLeft => "<<"
  | shiftRight => ">>"
  | both => "&"
  | either => "|"
  | other => "^"

inductive Comparison where
  | less | atMost | same | different | more | atLeast | within | without | identical | distinct
  deriving DecidableEq, Repr

inductive Constant where
  | none
  | bool (b : Bool)
  | whole (n : Nat)
  | real (x : Float)
  | text (t : List Char)
  | bytes (data : Octets)
  | ellipsis

/-- What is collected from other values. -/
inductive Collection where
  | list | set | dict | generator
  deriving DecidableEq, Repr

/-- How a parameter takes arguments. -/
inductive Taking where
  | plain
  /-- Only by its name. -/
  | named
  /-- All arguments that are left. -/
  | rest
  | namedRest
  deriving DecidableEq, Repr

mutual

inductive Expr where
  | mk (span : Span) (form : Form)

inductive Form where
  | constant (c : Constant)
  | name (n : String)
  | template (pieces : List Piece)
  | tuple (items : List Expr)
  | list (items : List Expr)
  | set (items : List Expr)
  /-- An entry without a key stands for all entries of another dictionary. -/
  | dict (entries : List (Option Expr × Expr))
  | positive (e : Expr)
  | negative (e : Expr)
  | inverted (e : Expr)
  | opposite (e : Expr)
  | operate (op : Operation) (a b : Expr)
  | both (a b : Expr)
  | either (a b : Expr)
  | compare (first : Expr) (others : List (Comparison × Expr))
  | choice (test yes no : Expr)
  | call (f : Expr) (args : List Argument)
  | feature (e : Expr) (name : String)
  | item (e index : Expr)
  | slice (start stop step : Option Expr)
  | function (parameters : List Parameter) (body : Expr)
  | collect (kind : Collection) (key : Option Expr) (value : Expr) (clauses : List Clause)
  | spread (e : Expr)
  | naming (name : String) (e : Expr)
  /-- Hands out a value from the middle of a function. -/
  | handOut (e : Option Expr)

/-- A part of a text with places for values. -/
inductive Piece where
  | text (t : List Char)
  | value (e : Expr) (conversion : Option Char) (format : List Piece)

inductive Argument where
  | plain (e : Expr)
  | named (name : String) (e : Expr)
  | spread (e : Expr)
  | namedSpread (e : Expr)

inductive Parameter where
  | mk (name : String) (taking : Taking) (usual : Option Expr)

/-- Where the values come from that are collected. -/
inductive Clause where
  | each (target source : Expr)
  | given (test : Expr)

end

instance : Inhabited Expr := ⟨.mk default (.constant .none)⟩

def Expr.span : Expr → Span
  | .mk span _ => span

def Expr.form : Expr → Form
  | .mk _ form => form

/-- What is to be known of the body of a function besides its statements. -/
structure Nature where
  /-- It hands out values from its middle. -/
  generates : Bool
  /-- The names that it gives to values within expressions. -/
  named : List String

mutual

inductive Statement where
  | mk (span : Span) (deed : Deed)

inductive Deed where
  | evaluate (e : Expr)
  | assign (targets : List Expr) (value : Expr)
  | augment (target : Expr) (op : Operation) (value : Expr)
  | giveBack (e : Option Expr)
  | raise (e cause : Option Expr)
  | insist (test : Expr) (message : Option Expr)
  | delete (targets : List Expr)
  | pass
  | leave
  | goOn
  /-- Names that belong to the whole script, or to the functions around. -/
  | shared (names : List String)
  | outer (names : List String)
  | load (items : List (String × Option String))
  | loadFrom (module : String) (items : List (String × Option String))
  | choose (branches : List (Expr × List Statement)) (otherwise : List Statement)
  | loop (test : Expr) (body otherwise : List Statement)
  | each (target source : Expr) (body otherwise : List Statement)
  | attempt (body : List Statement) (handlers : List Handler) (otherwise : List Statement)
      (atLast : List Statement)
  | within (items : List (Expr × Option Expr)) (body : List Statement)
  | define (name : String) (parameters : List Parameter) (body : List Statement)
      (decorators : List Expr) (nature : Nature)
  | group (name : String) (bases : List Expr) (body : List Statement) (decorators : List Expr)

inductive Handler where
  | mk (kind : Option Expr) (name : Option String) (body : List Statement)

end

instance : Inhabited Statement := ⟨.mk default .pass⟩

def Statement.span : Statement → Span
  | .mk span _ => span

def Statement.deed : Statement → Deed
  | .mk _ deed => deed

end Enquiry.Tool.Script
