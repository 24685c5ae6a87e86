import Enquiry.Shell.Redirection

/-!
# Commands of the shell itself

What every built-in command is: a function of its arguments that gives a status. Options are
letters in front of the arguments.
-/

namespace Enquiry.Shell

open Host Text

structure Builtin where
  /-- No function can take its place, and its errors end the script. -/
  special : Bool
  /-- Its arguments may be assignments. -/
  assigns : Bool
  run : Evaluator → Context → List Octets → Sh Nat

namespace Builtin

/-- A command that needs nothing but its arguments. -/
def plain (run : List Octets → Sh Nat) : Builtin := ⟨false, false, fun _ _ => run⟩

def ofSpecial (run : List Octets → Sh Nat) : Builtin := ⟨true, false, fun _ _ => run⟩

/-- A command that declares names. -/
def declaring (run : List Octets → Sh Nat) : Builtin := ⟨true, true, fun _ _ => run⟩

end Builtin

/-! ### Options -/

/-- An option with its value, if it has one. -/
abbrev Flag := Char × Octets

/-- The letters of an argument. The first list holds the letters that are known, each with a colon
behind it if it takes a value; the third one is what follows the argument. -/
def readLetters (known : List Char) : Octets → List Octets → Sh (List Flag × List Octets)
  | [], rest => return ([], rest)
  | c :: letters, rest => do
      if c = ':' ∨ !known.contains c then Sh.fault ("Illegal option -".toList ++ [c])
      if (known.dropWhile (· != c)).drop 1 |>.head? |>.any (· == ':') then
        match letters, rest with
        | [], [] => Sh.fault ("No arg for -".toList ++ c :: " option".toList)
        | [], value :: rest => return ([(c, value)], rest)
        | value, rest => return ([(c, value)], rest)
      else
        let (flags, rest) ← readLetters known letters rest
        return ((c, []) :: flags, rest)

/-- The options in front of some arguments. The first argument bounds their number. -/
def readFlagsFrom (known : List Char) : Nat → List Octets → Sh (List Flag × List Octets)
  | 0, args => return ([], args)
  | n + 1, args => do
      match args with
      | ['-', '-'] :: rest => return ([], rest)
      | ('-' :: c :: letters) :: rest =>
          let (flags, rest) ← readLetters known (c :: letters) rest
          let (more, rest) ← readFlagsFrom known n rest
          return (flags ++ more, rest)
      | args => return ([], args)

/-- The options in front of some arguments, and the arguments behind them. -/
def readFlags (known : String) (args : List Octets) : Sh (List Flag × List Octets) :=
  readFlagsFrom known.toList (args.length + 1) args

/-! ### Numbers and names -/

/-- The greatest number that a command takes. -/
def maxNumber : Int := 2147483647

/-- The number that an argument is. -/
def readNumber (text : Octets) : Sh Nat := do
  match Integer.whole? (some 10) text with
  | some n =>
      if 0 ≤ n ∧ n ≤ maxNumber then return n.toNat
      else Sh.fault ("Illegal number: ".toList ++ text)
  | none => Sh.fault ("Illegal number: ".toList ++ text)

/-- The name of a variable that an argument is. -/
def readName (text : Octets) : Sh String := do
  if isName text then return String.ofList text
  else Sh.fault (text ++ ": bad variable name".toList)

/-- A text in single quotes. -/
def singleQuoted (text : Octets) : Octets :=
  '\'' :: (text.flatMap fun c => if c = '\'' then "'\"'\"'".toList else [c]) ++ ['\'']

/-- An argument split at its first equals sign. -/
def splitAssignment (text : Octets) : Octets × Option Octets :=
  let name := text.takeWhile (· != '=')
  match text.drop name.length with
  | _ :: value => (name, some value)
  | [] => (name, none)

end Enquiry.Shell
