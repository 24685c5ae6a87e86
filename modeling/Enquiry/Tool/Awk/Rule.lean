import Enquiry.Host.Octets

/-!
# Rules of the record processor

A program is a list of rules, each of which says which records it is meant for and what is done with
them, and of functions.
-/

namespace Enquiry.Tool.Awk

open Host

/-- Where a value is kept: in a variable of the function that runs, or in one that all share. -/
inductive Place where
  | own (n : Nat)
  | shared (n : Nat)
  deriving DecidableEq, Repr

inductive Comparison where
  | less | atMost | same | different | more | atLeast
  deriving DecidableEq, Repr

inductive Operation where
  | add | subtract | multiply | divide | remainder | power
  deriving DecidableEq, Repr

/-- The functions that every program has. -/
inductive Builtin where
  | length | substr | index | split | sub | gsub | find | sprintf | sin | cos | atan2 | exp | log
  | sqrt | int | rand | srand | lower | upper | system | close | flush
  deriving DecidableEq, Repr

inductive Expr where
  | number (x : Float)
  | text (t : Octets)
  /-- A regular expression. -/
  | pattern (t : Octets)
  | name (p : Place)
  | element (array : Place) (keys : List Expr)
  | field (n : Expr)
  | assign (target value : Expr)
  | update (op : Operation) (target value : Expr)
  /-- Counts up or down; the value is the one before or the one behind. -/
  | count (op : Operation) (isBefore : Bool) (target : Expr)
  | choice (test yes no : Expr)
  | either (a b : Expr)
  | both (a b : Expr)
  /-- An array has an element with these keys. -/
  | within (keys : List Expr) (array : Place)
  | matching (negated : Bool) (e r : Expr)
  | compare (c : Comparison) (a b : Expr)
  | join (a b : Expr)
  | operate (op : Operation) (a b : Expr)
  | opposite (e : Expr)
  | negative (e : Expr)
  | positive (e : Expr)
  | builtin (b : Builtin) (args : List Expr)
  | call (f : Nat) (args : List Expr)
  /-- Takes the next record of the inputs. -/
  | take (target : Option Expr)
  /-- Takes the next record of a file or of what a command writes. -/
  | takeFrom (isCommand : Bool) (source : Expr) (target : Option Expr)
  deriving Inhabited

/-- How the place is meant that something is written to. -/
inductive Direction where
  | file | append | command
  deriving DecidableEq, Repr

inductive Statement where
  | block (body : List Statement)
  | expr (e : Expr)
  | print (args : List Expr) (target : Option (Direction × Expr))
  | printf (args : List Expr) (target : Option (Direction × Expr))
  | choose (test : Expr) (yes : Statement) (no : Option Statement)
  | loop (test : Option Expr) (step : Option Statement) (body : Statement)
  /-- Does something before the test is made for the first time. -/
  | loopOnce (body : Statement) (test : Expr)
  | each (target array : Place) (body : Statement)
  | leave
  | goOn
  | next
  | nextFile
  | exit (e : Option Expr)
  | giveBack (e : Option Expr)
  | delete (array : Place) (keys : Option (List Expr))
  deriving Inhabited

/-- For which records a rule is meant. -/
inductive When where
  | start
  | finish
  | always
  | test (e : Expr)
  /-- From one record to another; each such rule has a number. -/
  | range (n : Nat) (first last : Expr)

/-- A rule; without an action the record is written. -/
structure Rule where
  condition : When
  action : Option Statement

structure Function where
  /-- How many values it is given. -/
  size : Nat
  body : Statement

structure Script where
  rules : List Rule
  functions : Array Function
  /-- The names of all shared variables. -/
  names : List Octets

/-! ### Names -/

/-- The variables that mean something to the processor. -/
inductive Special where
  | fieldCount | recordCount | fileRecordCount | fieldSeparator | outputFieldSeparator
  | outputRecordSeparator | recordSeparator | fileName | keySeparator | matchStart | matchLength
  | conversionFormat | outputFormat | environment | argumentCount | arguments
  deriving DecidableEq, Repr

/-- Their names. -/
def specials : List (String × Special) :=
  [("NF", .fieldCount), ("NR", .recordCount), ("FNR", .fileRecordCount), ("FS", .fieldSeparator),
    ("OFS", .outputFieldSeparator), ("ORS", .outputRecordSeparator), ("RS", .recordSeparator),
    ("FILENAME", .fileName), ("SUBSEP", .keySeparator), ("RSTART", .matchStart),
    ("RLENGTH", .matchLength), ("CONVFMT", .conversionFormat), ("OFMT", .outputFormat),
    ("ENVIRON", .environment), ("ARGC", .argumentCount), ("ARGV", .arguments)]

/-- The number of a special variable. -/
def Special.number (s : Special) : Nat := (specials.findIdx? fun (_, t) => t == s).getD 0

/-- The names of the functions that every program has. -/
def builtins : List (String × Builtin) :=
  [("length", .length), ("substr", .substr), ("index", .index), ("split", .split), ("sub", .sub),
    ("gsub", .gsub), ("match", .find), ("sprintf", .sprintf), ("sin", .sin), ("cos", .cos),
    ("atan2", .atan2), ("exp", .exp), ("log", .log), ("sqrt", .sqrt), ("int", .int),
    ("rand", .rand), ("srand", .srand), ("tolower", .lower), ("toupper", .upper),
    ("system", .system), ("close", .close), ("fflush", .flush)]

/-- Words that are no names. -/
def keywords : List String :=
  ["BEGIN", "END", "function", "if", "else", "while", "for", "do", "break", "continue", "next",
    "nextfile", "exit", "return", "delete", "in", "getline", "print", "printf"]

end Enquiry.Tool.Awk
