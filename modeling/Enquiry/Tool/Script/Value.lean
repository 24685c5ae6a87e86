import Enquiry.Tool.Inlet
import Enquiry.Tool.Script.Tree
import Std.Data.HashMap

/-!
# Values of scripts

Values that cannot change are written out; all others are objects, which a value names by their
number. A dictionary keeps its entries in the order in which their keys first appeared.
-/

namespace Enquiry.Tool.Script

open Host

inductive Value where
  | none
  | bool (b : Bool)
  | whole (n : Int)
  | real (x : Float)
  | text (t : List Char)
  | bytes (data : Octets)
  | tuple (items : List Value)
  | range (start stop step : Int)
  | slice (start stop step : Value)
  | ellipsis
  | object (n : Nat)
  /-- A function or a kind of values that is always there. -/
  | builtin (name : String)
  /-- Something that a value can do, by its name. -/
  | method (self : Value) (name : String)
  /-- A function of a script together with the value that it is asked of. -/
  | bound (function : Nat) (self : Value)
  | module (name : String)
  /-- The bytes behind a stream of text. -/
  | raw (stream : Nat)
  /-- A value as one of a kind that its own kind belongs to. -/
  | above (kind self : Value)
  deriving Inhabited

/-- A part of the key that a value is. -/
inductive Atom where
  | none
  | whole (n : Int)
  | real (bits : UInt64)
  | text (t : String)
  | bytes (t : String)
  | opening
  | closing
  | object (n : Nat)
  | named (kind name : String)
  deriving BEq, Hashable

/-- What is looked up in a dictionary. -/
abbrev Key := List Atom

/-- A dictionary. Entries that have been taken out leave a gap. -/
structure Dict where
  entries : Array (Option (Key × Value × Value))
  places : Std.HashMap Key Nat
  size : Nat

namespace Dict

def empty : Dict := ⟨#[], ∅, 0⟩

instance : Inhabited Dict := ⟨empty⟩

/-- The value of a key. -/
def get? (d : Dict) (k : Key) : Option Value :=
  match d.places[k]? with
  | some i => ((d.entries[i]?).join).map fun (_, _, v) => v
  | none => .none

def contains (d : Dict) (k : Key) : Bool := d.places.contains k

/-- Gives a key a value. A key that is there stays as it is. -/
def set (d : Dict) (k : Key) (key value : Value) : Dict :=
  match d.places[k]? with
  | some i =>
      { d with entries := d.entries.modify i fun e =>
          e.map fun (k, old, _) => (k, old, value) }
  | none =>
      { entries := d.entries.push (some (k, key, value))
        places := d.places.insert k d.entries.size
        size := d.size + 1 }

/-- Takes a key out. -/
def erase (d : Dict) (k : Key) : Dict :=
  match d.places[k]? with
  | some i =>
      { entries := d.entries.modify i fun _ => .none
        places := d.places.erase k
        size := d.size - 1 }
  | none => d

/-- The keys with their values, in their order. -/
def pairs (d : Dict) : List (Value × Value) :=
  d.entries.toList.filterMap fun e => e.map fun (_, k, v) => (k, v)

def keys (d : Dict) : List Value := d.pairs.map Prod.fst

def values (d : Dict) : List Value := d.pairs.map Prod.snd

end Dict

/-- A function of a script. -/
structure Function where
  name : String
  /-- Its name together with those of the classes and functions around it. -/
  title : String
  parameters : List (String × Taking × Option Value)
  body : List Statement
  /-- The function only gives a value. -/
  result : Option Expr
  /-- The names around it. -/
  scope : Nat
  /-- The names that belong to it, and those that belong to the script or to functions around. -/
  own : List String
  shared : List String
  outer : List String
  /-- It hands out values from its middle. -/
  generates : Bool

/-- A kind of values that a script has made. -/
structure Kind where
  name : String
  base : Option Value
  attributes : List (String × Value)

/-- Where a function was when something went wrong. -/
structure Frame where
  function : String
  scope : Nat
  span : Span
  /-- How many functions are around it. -/
  depth : Nat
  deriving Inhabited

/-- Something that has gone wrong. -/
structure Fault where
  kind : Value
  args : List Value
  attributes : List (String × Value)
  trace : List Frame
  /-- What was being dealt with. -/
  context : Option Nat
  /-- What it has been caused by; a cause may be denied. -/
  cause : Option (Option Nat)

/-- What values are taken from one after another. -/
inductive Cursor where
  | values (rest : List Value)
  | list (object : Nat) (next : Nat)
  | range (next stop step : Int)
  | lines (stream : Nat) (ofBytes : Bool)
  | numbered (next : Int) (inner : Cursor)
  | zipped (inner : List Cursor)
  /-- A value of a script that gives the next one when it is asked. -/
  | asked (v : Value)
  /-- Results of a function. -/
  | mapped (f : Value) (inner : Cursor)
  deriving Inhabited

/-- A file, or an input or output of the script. -/
structure Stream where
  name : List Char
  descriptor : Nat
  /-- What has been read and not been used. -/
  inlet : Inlet
  /-- Text that has been written and not become bytes yet, the latest first, and how much that is. -/
  pending : List Octets
  pendingSize : Nat
  /-- Bytes that have not been handed on, the latest first, and how much that is. -/
  waiting : List Octets
  size : Nat
  reads : Bool
  writes : Bool
  ofBytes : Bool
  /-- What is written is handed on line by line. -/
  byLine : Bool
  closed : Bool

inductive Object where
  | list (items : Array Value)
  | dict (d : Dict)
  | set (d : Dict)
  | function (f : Function)
  | kind (k : Kind)
  | individual (kind : Nat) (attributes : List (String × Value))
  | fault (f : Fault)
  | cursor (c : Cursor)
  | stream (s : Stream)
  /-- A function that a class holds in another way: one that is asked without arguments, or one that
  is not bound to a value, or to the class. -/
  | held (way : String) (f : Value)
  deriving Inhabited

/-! ### Kinds -/

/-- The kinds of things that can go wrong, each with the kind that it belongs to. -/
def faultKinds : List (String × String) :=
  [("BaseException", "object"), ("SystemExit", "BaseException"),
    ("KeyboardInterrupt", "BaseException"), ("GeneratorExit", "BaseException"),
    ("Exception", "BaseException"), ("ArithmeticError", "Exception"),
    ("ZeroDivisionError", "ArithmeticError"), ("OverflowError", "ArithmeticError"),
    ("FloatingPointError", "ArithmeticError"), ("AssertionError", "Exception"),
    ("AttributeError", "Exception"), ("EOFError", "Exception"), ("ImportError", "Exception"),
    ("ModuleNotFoundError", "ImportError"), ("LookupError", "Exception"),
    ("IndexError", "LookupError"), ("KeyError", "LookupError"), ("MemoryError", "Exception"),
    ("NameError", "Exception"), ("UnboundLocalError", "NameError"), ("OSError", "Exception"),
    ("BlockingIOError", "OSError"), ("ChildProcessError", "OSError"),
    ("ConnectionError", "OSError"), ("BrokenPipeError", "ConnectionError"),
    ("FileExistsError", "OSError"), ("FileNotFoundError", "OSError"),
    ("InterruptedError", "OSError"), ("IsADirectoryError", "OSError"),
    ("NotADirectoryError", "OSError"), ("PermissionError", "OSError"),
    ("ProcessLookupError", "OSError"), ("TimeoutError", "OSError"),
    ("RuntimeError", "Exception"), ("NotImplementedError", "RuntimeError"),
    ("RecursionError", "RuntimeError"), ("StopIteration", "Exception"),
    ("SyntaxError", "Exception"), ("IndentationError", "SyntaxError"),
    ("SystemError", "Exception"), ("TypeError", "Exception"), ("ValueError", "Exception"),
    ("UnicodeError", "ValueError"), ("UnicodeDecodeError", "UnicodeError"),
    ("UnicodeEncodeError", "UnicodeError"), ("json.decoder.JSONDecodeError", "ValueError"),
    ("io.UnsupportedOperation", "OSError"),
    ("Warning", "Exception"), ("UserWarning", "Warning"), ("DeprecationWarning", "Warning")]

/-- Other names of kinds. -/
def kindAliases : List (String × String) :=
  [("IOError", "OSError"), ("EnvironmentError", "OSError")]

/-- The kinds that are always there, by the names under which scripts know them. -/
def valueKinds : List String :=
  ["object", "type", "property", "staticmethod", "classmethod", "bool", "int", "float", "str", "bytes", "tuple", "list", "dict", "set",
    "frozenset", "range", "slice", "enumerate", "zip"]

def isFaultKind (name : String) : Bool := (faultKinds.lookup name).isSome

/-- A kind of faults belongs to another one. The first argument bounds the number of steps. -/
def faultBelongs (kind : String) : Nat → String → Bool
  | 0, _ => false
  | n + 1, name =>
      name == kind || match faultKinds.lookup name with
        | some above => faultBelongs kind n above
        | none => false

/-- The kind of errors of calls. -/
def errnoKind : Errno → String
  | .noEntry => "FileNotFoundError"
  | .alreadyThere => "FileExistsError"
  | .accessDenied => "PermissionError"
  | .notPermitted => "PermissionError"
  | .isDirectory => "IsADirectoryError"
  | .notDirectory => "NotADirectoryError"
  | .brokenPipe => "BrokenPipeError"
  | .noProcess => "ProcessLookupError"
  | .noChild => "ChildProcessError"
  | .interrupted => "InterruptedError"
  | _ => "OSError"

end Enquiry.Tool.Script
