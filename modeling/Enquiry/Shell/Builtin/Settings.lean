import Enquiry.Shell.Builtin.Names
import Enquiry.Text.Layout

/-!
# Built-in commands for the shell's settings

Options, arguments, the reading of options of scripts, limits and permissions.
-/

namespace Enquiry.Shell.Builtin

open Host Text

/-! ### Options and arguments -/

/-- Sets an option by its letter. -/
def putLetter (on : Bool) (letter : Char) : Sh Unit := do
  let s ← get
  let known := (if s.extended then Options.richNames else Options.names).map Prod.snd
  if isAsciiDigit letter ∨ !known.contains letter then
    Sh.fault ("Illegal option -".toList ++ [letter])
  set { s with options := s.options.put letter on }

/-- Sets an option by its name. -/
def putName (on : Bool) (name : Octets) : Sh Unit := do
  let s ← get
  match (if s.extended then Options.richNames else Options.names).lookup (textOf name) with
  | some letter => set { s with options := s.options.put letter on }
  | none => Sh.fault ("Illegal option -o ".toList ++ name)

/-- Shows all options, or with `asCommands` the commands that set them. -/
def showOptions (asCommands : Bool) : Sh Unit := do
  let s ← get
  let names := if s.extended then Options.richNames else Options.names
  if !asCommands then Sh.printLine "Current option settings".toList
  for (name, letter) in names do
    let on := s.options.has letter
    if asCommands then
      Sh.printLine ("set ".toList ++ (if on then '-' else '+') :: "o ".toList ++ name.toList)
    else
      let blank := List.replicate (16 - name.length) ' '
      Sh.printLine (name.toList ++ blank ++ (if on then "on" else "off").toList)

/-- The letters of an argument that sets options; `true` when a name follows. -/
def putLetters (on : Bool) : Octets → List Octets → Sh (List Octets)
  | [], rest => return rest
  | 'o' :: letters, [] => do
      showOptions !on
      putLetters on letters []
  | 'o' :: letters, name :: rest => do
      putName on name
      putLetters on letters rest
  | c :: letters, rest => do
      putLetter on c
      putLetters on letters rest

/-- Sets the options in front of some arguments. No arguments are left when there were none; the
first argument bounds the number of options. -/
def putOptions : Nat → List Octets → Sh (Option (List Octets))
  | 0, _ => return none
  | _, [] => return none
  | n + 1, arg :: rest => do
      match arg with
      | ['-', '-'] => return some rest
      | ['-'] =>
          modify fun s => { s with options := (s.options.put 'x' false).put 'v' false }
          return if rest.isEmpty then none else some rest
      | '-' :: letters => putOptions n (← putLetters true letters rest)
      | '+' :: letters => putOptions n (← putLetters false letters rest)
      | arg => return some (arg :: rest)

/-- Replaces the arguments. -/
def putArguments (args : List Octets) : Sh Unit :=
  modify fun s => { s with arguments := args, optionIndex := 1, optionOffset := none }

def setting (args : List Octets) : Sh Nat := do
  if args.isEmpty then
    showVariables [] fun v => v.value.isSome
  else
    match ← putOptions (args.length + 1) args with
    | some args => putArguments args
    | none => pure ()
    return 0

def shift (args : List Octets) : Sh Nat := do
  let n ← match args with
    | arg :: _ => readNumber arg
    | [] => pure 1
  let s ← get
  if s.arguments.length < n then
    if s.extended then return 1
    Sh.fault "can't shift that many".toList
  putArguments (s.arguments.drop n)
  return 0

/-! ### Options of scripts -/

/-- Writes to the diagnostics without naming a place. -/
def tell (text : Octets) : Sh Unit := do
  let _ ← Program.writeAll Sh.diagnostics (text ++ ['\n'])

/-- The letter of an option is known, and whether it takes a value. -/
def knownOption? (known : Octets) (letter : Char) : Option Bool :=
  match known.dropWhile (· != letter) with
  | _ :: next :: _ => if letter = ':' then none else some (next == ':')
  | [_] => if letter = ':' then none else some false
  | [] => none

/-- What reading an option leads to: the letter that stands for it, the next argument, and how many
characters of the one in front of it have been read if there are more. -/
structure OptionStep where
  letter : Char
  index : Nat
  offset : Option Nat
  done : Bool

/-- Reads the next option of some arguments. -/
def nextOption (known : Octets) (args : List Octets) (index : Nat) (offset : Option Nat) :
    Sh OptionStep := do
  let silent := known.head? == some ':'
  let ended (index : Nat) : OptionStep := ⟨'?', index, none, true⟩
  let letters (text : Octets) (read index : Nat) : Sh OptionStep := do
    match text with
    | [] => return ended index
    | c :: rest =>
        let after : Option Nat := if rest.isEmpty then none else some (read + 1)
        match knownOption? known c with
        | none =>
            if silent then Sh.assign "OPTARG" [c]
            else
              tell ("Illegal option -".toList ++ [c])
              modify fun s => s.dropVariable "OPTARG"
            return ⟨'?', index, after, false⟩
        | some false =>
            Sh.assign "OPTARG" []
            return ⟨c, index, after, false⟩
        | some true =>
            match rest, args[index - 1]? with
            | [], none =>
                if silent then
                  Sh.assign "OPTARG" [c]
                  return ⟨':', index, none, false⟩
                else
                  tell ("No arg for -".toList ++ c :: " option".toList)
                  modify fun s => s.dropVariable "OPTARG"
                  return ⟨'?', index, none, false⟩
            | [], some value =>
                Sh.assign "OPTARG" value
                return ⟨c, index + 1, none, false⟩
            | value, _ =>
                Sh.assign "OPTARG" value
                return ⟨c, index, none, false⟩
  let fresh : Sh OptionStep := do
    match args[index - 1]? with
    | some ['-', '-'] => return ended (index + 1)
    | some ('-' :: c :: rest) => letters (c :: rest) 1 (index + 1)
    | _ => return ended index
  match offset with
  | some read =>
      match ((args[index - 2]?).getD []).drop read with
      | [] => fresh
      | text => letters text read index
  | none => fresh

def getopts (args : List Octets) : Sh Nat := do
  match args with
  | known :: name :: rest =>
      let s ← get
      let args := if rest.isEmpty then s.arguments else rest
      let (index, offset) :=
        if args.length + 1 < s.optionIndex then (1, none) else (s.optionIndex, s.optionOffset)
      let step ← nextOption known args index offset
      Sh.assign "OPTIND" (decimal step.index)
      let name ← readName name
      Sh.assign name [step.letter]
      modify fun s => { s with optionIndex := step.index, optionOffset := step.offset }
      return if step.done then 1 else 0
  | _ => Sh.fault "Usage: getopts optstring var [arg...]".toList

/-! ### Permissions and limits -/

/-- Permissions by letters, as they are left by a mask. -/
def maskText (mask : Nat) : Octets :=
  let part (name : Char) (bits : Nat) : Octets :=
    let letters := [(4, 'r'), (2, 'w'), (1, 'x')].filterMap fun (bit, c) =>
      if bits &&& bit = 0 then some c else none
    name :: '=' :: letters
  List.intercalate [','] [part 'u' (mask / 64 % 8), part 'g' (mask / 8 % 8), part 'o' (mask % 8)]

/-- The bits of a clause about permissions, such as `g=rx`, put into some permissions. -/
def clause? (mode : Nat) (text : Octets) : Option Nat :=
  let who := text.takeWhile fun c => "ugoa".toList.contains c
  match text.drop who.length with
  | op :: letters =>
      let bits? := letters.foldlM (fun n c => ([('r', 4), ('w', 2), ('x', 1)].lookup c).map (n ||| ·)) 0
      let whole := who.isEmpty || who.contains 'a'
      bits?.bind fun bits =>
        let change (mode : Nat) (place : Nat) (name : Char) : Nat :=
          if !whole && !who.contains name then mode
          else
            let old := mode / place % 8
            let new := if op = '=' then bits else if op = '+' then old ||| bits else old - (old &&& bits)
            mode - old * place + new * place
        if op = '=' ∨ op = '+' ∨ op = '-' then
          some (change (change (change mode 64 'u') 8 'g') 1 'o')
        else none
  | [] => none

def umask (args : List Octets) : Sh Nat := do
  let (flags, args) ← readFlags "S" args
  let old ← Program.call (.mask 0o022)
  let _ ← Program.call (.mask old)
  match args with
  | [] =>
      if flags.isEmpty then
        let digits := Nat.toDigits 8 old
        Sh.printLine (List.replicate (4 - digits.length) '0' ++ digits)
      else Sh.printLine (maskText old)
      return 0
  | text :: _ =>
      if text.head?.any isAsciiDigit then
        if text.all (isDigitOf 8) then
          let _ ← Program.call (.mask (digitsValue 8 text % 512))
          return 0
        else Sh.fault ("Illegal number: ".toList ++ text)
      else
        match (List.splitOn ',' text).foldlM clause? (511 - old) with
        | some mode =>
            let _ ← Program.call (.mask (511 - mode))
            return 0
        | none => Sh.fault ("Illegal mode: ".toList ++ text)

/-- The greatest number of descriptors. -/
def openLimit : Nat := 1024

def ulimit (args : List Octets) : Sh Nat := do
  let (flags, args) ← readFlags "HSatfdscmlpnvwr" args
  if args.isEmpty then
    if flags.any fun (c, _) => c == 'n' then Sh.printLine (decimal openLimit)
    else Sh.printLine "unlimited".toList
  return 0

end Enquiry.Shell.Builtin
