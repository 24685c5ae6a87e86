import Enquiry.Tool.Basic

/-!
# Options of tools

Options are letters behind a dash or words behind two, anywhere between the other arguments. A word
may be cut short as long as it is clear which one is meant.
-/

namespace Enquiry.Tool

open Host Text

/-- What follows an option. -/
inductive Following where
  | nothing | value | maybe
  deriving DecidableEq, Repr

/-- The options that a tool knows. -/
structure Known where
  letters : List (Char × Following)
  /-- Words, with the letters that they stand for. Where there is no such letter, an equals sign
  behind a word says that it takes a value, and two that it may. -/
  words : List (String × Char)
  /-- The first argument that is no option ends the options. -/
  strict : Bool
  /-- The status of a tool that is misused. -/
  status : Nat
  /-- What is said of its use then. -/
  usage : Octets
  /-- The name of the tool stands in front of the advice where to find help. -/
  named : Bool

/-- An option with its value. -/
abbrev Flag := Char × Octets

/-- Letters, of which those with a colon behind them take a value and those with two may. -/
def lettersOf : List Char → List (Char × Following)
  | c :: ':' :: ':' :: rest => (c, .maybe) :: lettersOf rest
  | c :: ':' :: rest => (c, .value) :: lettersOf rest
  | c :: rest => (c, .nothing) :: lettersOf rest
  | [] => []

/-- The options that some letters and words say. -/
def Known.of (letters : String) (words : List (String × Char)) : Known :=
  ⟨lettersOf letters.toList, words, false, 1, [], false⟩

/-- Complains about an option. -/
def refuse {α : Type} (k : Known) (text : Octets) : Tool α := do
  warn text
  tell k.usage
  if k.named then tell ((← get).name ++ ": ".toList)
  helpless k.status

/-- Reads the letters of an argument. -/
def readLetters (k : Known) : Octets → List Octets → Tool (List Flag × List Octets)
  | [], rest => return ([], rest)
  | c :: letters, rest => do
      match k.letters.lookup c with
      | none => refuse k ("invalid option -- '".toList ++ [c, '\''])
      | some .nothing =>
          let (flags, rest) ← readLetters k letters rest
          return ((c, []) :: flags, rest)
      | some .maybe => return ([(c, letters)], rest)
      | some .value =>
          match letters, rest with
          | [], [] => refuse k ("option requires an argument -- '".toList ++ [c, '\''])
          | [], value :: rest => return ([(c, value)], rest)
          | value, rest => return ([(c, value)], rest)

/-- A word that is known: the letter that it stands for, and what follows it. -/
structure KnownWord where
  word : Octets
  letter : Char
  following : Following

/-- The words that are known. -/
def Known.knownWords (k : Known) : List KnownWord :=
  k.words.map fun (text, letter) =>
    let word := text.toList.takeWhile (· != '=')
    let own : Following :=
      if text.length = word.length then .nothing
      else if text.length = word.length + 1 then .value
      else .maybe
    ⟨word, letter, (k.letters.lookup letter).getD own⟩

/-- The words that a text may be meant to be. -/
def meant (k : Known) (name : Octets) : List KnownWord :=
  match k.knownWords.filter fun w => w.word == name with
  | [] => k.knownWords.filter fun w => name.isPrefixOf w.word
  | found => found

/-- Reads a word behind two dashes. -/
def readWord (k : Known) (text : Octets) (rest : List Octets) :
    Tool (Flag × List Octets) := do
  let name := text.takeWhile (· != '=')
  let value := match text.drop name.length with
    | _ :: value => some value
    | [] => none
  let unknown {α : Type} : Tool α :=
    refuse k ("unrecognized option '--".toList ++ text ++ ['\''])
  match meant k name with
  | [] => unknown
  | ⟨word, letter, following⟩ :: others =>
      let option := "option '--".toList
      if others.any fun w => w.letter != letter then
        let possible := (meant k name).flatMap fun w => " '--".toList ++ w.word ++ ['\'']
        refuse k (option ++ name ++ "' is ambiguous; possibilities:".toList ++ possible)
      match following, value, rest with
      | .nothing, some _, _ =>
          refuse k (option ++ word ++ "' doesn't allow an argument".toList)
      | .nothing, none, rest => return ((letter, []), rest)
      | _, some value, rest => return ((letter, value), rest)
      | .maybe, none, rest => return ((letter, []), rest)
      | .value, none, value :: rest => return ((letter, value), rest)
      | .value, none, [] =>
          refuse k (option ++ word ++ "' requires an argument".toList)

/-- The options among some arguments, and the other arguments. The first argument bounds the number
of arguments. -/
def readFlagsFrom (k : Known) : Nat → List Octets → Tool (List Flag × List Octets)
  | 0, args => return ([], args)
  | _, [] => return ([], [])
  | n + 1, arg :: rest => do
      match arg with
      | ['-', '-'] => return ([], rest)
      | '-' :: '-' :: name =>
          let (flag, rest) ← readWord k name rest
          let (flags, others) ← readFlagsFrom k n rest
          return (flag :: flags, others)
      | '-' :: c :: letters =>
          let (found, rest) ← readLetters k (c :: letters) rest
          let (flags, others) ← readFlagsFrom k n rest
          return (found ++ flags, others)
      | arg =>
          if k.strict then return ([], arg :: rest)
          let (flags, others) ← readFlagsFrom k n rest
          return (flags, arg :: others)

/-- The options among some arguments, and the other arguments. -/
def readFlags (k : Known) (args : List Octets) : Tool (List Flag × List Octets) :=
  readFlagsFrom k (args.length + 1) args

/-- An option has been given. -/
def has (flags : List Flag) (c : Char) : Bool := flags.any fun (d, _) => d == c

/-- The value of an option, the last time it was given. -/
def value? (flags : List Flag) (c : Char) : Option Octets :=
  (flags.filter fun (d, _) => d == c).getLast?.map Prod.snd

/-- An operand is missing. -/
def missingOperand {α : Type} (status : Nat) : Tool α := misused status "missing operand".toList

/-- There is an operand too many. -/
def extraOperand {α : Type} (status : Nat) (arg : Octets) : Tool α :=
  misused status ("extra operand ".toList ++ quoted arg)

end Enquiry.Tool
