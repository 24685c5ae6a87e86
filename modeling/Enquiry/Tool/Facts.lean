import Enquiry.Tool.Flags
import Enquiry.Tool.Moment

/-!
# Facts about the machine

The time, the user and the machine.
-/

namespace Enquiry.Tool

open Host Text

/-! ### date -/

/-- A word of a date: letters, a number with its sign, or a sign. -/
inductive DateWord where
  | letters (text : Octets)
  | digits (sign : Option Char) (text : Octets)
  | sign (c : Char)
  deriving DecidableEq, Repr

/-- The words of a date. The first argument bounds their number. -/
def dateWords : Nat → Octets → List DateWord
  | 0, _ => []
  | _, [] => []
  | n + 1, c :: rest =>
      if isGap c then dateWords n rest
      else if c.isAlpha then
        let word := (c :: rest).takeWhile Char.isAlpha
        .letters (word.map Char.toLower) :: dateWords n ((c :: rest).drop word.length)
      else if isAsciiDigit c then
        let word := (c :: rest).takeWhile isAsciiDigit
        .digits none word :: dateWords n ((c :: rest).drop word.length)
      else if (c = '+' ∨ c = '-') ∧ (rest.head?.map isAsciiDigit).getD false then
        let word := rest.takeWhile isAsciiDigit
        .digits (some c) word :: dateWords n (rest.drop word.length)
      else .sign c :: dateWords n rest

/-- What has been read of a date: the parts of the moment, and what is added to it. -/
structure DateParts where
  date : Option (Int × Int × Int)
  time : Option (Int × Int × Int)
  seconds : Option Int
  months : Int
  days : Int
  added : Int
  weekday : Option Nat

/-- What a unit adds. -/
def DateParts.add (p : DateParts) (n : Int) (unit : Octets) : Option DateParts :=
  let name := if unit.getLast? = some 's' then unit.dropLast else unit
  match String.ofList name with
  | "sec" => some { p with added := p.added + n }
  | "second" => some { p with added := p.added + n }
  | "min" => some { p with added := p.added + 60 * n }
  | "minute" => some { p with added := p.added + 60 * n }
  | "hour" => some { p with added := p.added + 3600 * n }
  | "day" => some { p with days := p.days + n }
  | "week" => some { p with days := p.days + 7 * n }
  | "fortnight" => some { p with days := p.days + 14 * n }
  | "month" => some { p with months := p.months + n }
  | "year" => some { p with months := p.months + 12 * n }
  | _ => none

def intOf (digits : Octets) : Int := (digitsValue 10 digits : Nat)

/-- The number of a name of which at least three letters are given. -/
def nameIndex (names : List String) (text : Octets) : Option Nat :=
  if text.length < 3 then none
  else names.findIdx? fun name => text.isPrefixOf (name.toList.map Char.toLower)

/-- The words of a date in which signs have come together with the digits behind them. -/
def joinSigns : List DateWord → List DateWord
  | .sign c :: .digits none d :: .letters unit :: rest =>
      if c = '+' ∨ c = '-' then .digits (some c) d :: .letters unit :: joinSigns rest
      else .sign c :: .digits none d :: .letters unit :: joinSigns rest
  | w :: rest => w :: joinSigns rest
  | [] => []

/-- Reads the words of a date. The first argument bounds their number. -/
def readDateWords : Nat → List DateWord → DateParts → Option DateParts
  | 0, _, _ => none
  | _, [], p => some p
  | n + 1, words, p =>
      match words with
      | .sign '@' :: .digits sign d :: rest =>
          let value := if sign = some '-' then -intOf d else intOf d
          readDateWords n rest { p with seconds := some value }
      | .digits none h :: .sign ':' :: .digits none m :: .sign ':' :: .digits none s ::
          .sign '.' :: .digits none _ :: rest =>
          readDateWords n rest { p with time := some (intOf h, intOf m, intOf s) }
      | .digits none h :: .sign ':' :: .digits none m :: .sign ':' :: .digits none s :: rest =>
          readDateWords n rest { p with time := some (intOf h, intOf m, intOf s) }
      | .digits none h :: .sign ':' :: .digits none m :: rest =>
          readDateWords n rest { p with time := some (intOf h, intOf m, 0) }
      | .digits none y :: .digits (some '-') m :: .digits (some '-') d :: rest =>
          readDateWords n rest { p with date := some (intOf y, intOf m, intOf d) }
      | .digits none m :: .sign '/' :: .digits none d :: .sign '/' :: .digits none y :: rest =>
          readDateWords n rest { p with date := some (intOf y, intOf m, intOf d) }
      | .digits none y :: .sign '/' :: .digits none d :: rest =>
          readDateWords n rest { p with date := some (1970, intOf y, intOf d) }
      | .digits sign d :: .letters unit :: .letters ['a', 'g', 'o'] :: rest =>
          let value := if sign = some '-' then -intOf d else intOf d
          (p.add (-value) unit).bind (readDateWords n rest)
      | .digits sign d :: .letters unit :: rest =>
          match nameIndex Moment.monthNames unit, rest with
          | some m, .digits none y :: rest =>
              readDateWords n rest { p with date := some (intOf y, m + 1, intOf d) }
          | some m, rest => readDateWords n rest { p with date := some (1970, m + 1, intOf d) }
          | none, rest =>
              let value := if sign = some '-' then -intOf d else intOf d
              (p.add value unit).bind (readDateWords n rest)
      | .digits none d :: rest =>
          if d.length = 8 then
            readDateWords n rest
              { p with date := some (intOf (d.take 4), intOf ((d.drop 4).take 2), intOf (d.drop 6)) }
          else none
      | .letters name :: rest =>
          match String.ofList name with
          | "now" => readDateWords n rest p
          | "today" => readDateWords n rest p
          | "utc" => readDateWords n rest p
          | "gmt" => readDateWords n rest p
          | "z" => readDateWords n rest p
          | "t" => readDateWords n rest p
          | "ago" => readDateWords n rest p
          | "yesterday" => readDateWords n rest { p with days := p.days - 1 }
          | "tomorrow" => readDateWords n rest { p with days := p.days + 1 }
          | "midnight" => readDateWords n rest { p with time := some (0, 0, 0) }
          | "noon" => readDateWords n rest { p with time := some (12, 0, 0) }
          | "next" =>
              match rest with
              | .letters unit :: rest => (p.add 1 unit).bind (readDateWords n rest)
              | _ => none
          | "last" =>
              match rest with
              | .letters unit :: rest => (p.add (-1) unit).bind (readDateWords n rest)
              | _ => none
          | _ =>
              match nameIndex Moment.monthNames name, rest with
              | some m, .digits none d :: .sign ',' :: .digits none y :: rest =>
                  readDateWords n rest { p with date := some (intOf y, m + 1, intOf d) }
              | some m, .digits none d :: .digits none y :: rest =>
                  readDateWords n rest { p with date := some (intOf y, m + 1, intOf d) }
              | some m, .digits none d :: rest =>
                  readDateWords n rest { p with date := some (1970, m + 1, intOf d) }
              | none, rest =>
                  match nameIndex Moment.dayNames name with
                  | some day =>
                      let rest := match rest with
                        | .sign ',' :: rest => rest
                        | rest => rest
                      readDateWords n rest { p with weekday := some day }
                  | none => none
              | _, _ => none
      | _ => none

/-- The moment that a text means, seen from another one. -/
def moment? (now : Moment) (text : Octets) : Option Moment :=
  let p : DateParts := ⟨none, none, none, 0, 0, 0, none⟩
  (readDateWords (text.length + 1) (joinSigns (dateWords (text.length + 1) text)) p).bind fun p =>
    match p.seconds with
    | some s => some (.ofSeconds (s + p.days * 86400 + p.added) 0)
    | none =>
        let moved := p.months ≠ 0 ∨ p.days ≠ 0 ∨ p.added ≠ 0
        let (year, month, day) := p.date.getD (now.year, now.month, now.day)
        let (hour, minute, second) := p.time.getD
          (if p.date.isSome ∨ (p.weekday.isSome ∧ !moved) then (0, 0, 0)
          else (now.hour, now.minute, now.second))
        let valid := 1 ≤ month ∧ month ≤ 12 ∧ 1 ≤ day ∧ day ≤ 31 ∧ hour < 24 ∧ minute < 60 ∧
          second < 61 ∧ (Moment.ofParts year month day 0 0 0).day = day
        if !valid then none
        else
          let m := Moment.ofParts year (month + p.months) (day + p.days) hour minute second
          let m := match p.weekday, p.date with
            | some w, none =>
                Moment.ofSeconds (m.seconds + ((w + 7 - m.weekday) % 7 : Nat) * 86400) 0
            | _, _ => m
          some (.ofSeconds (m.seconds + p.added) (if p.date.isSome ∨ p.time.isSome then 0
            else now.nanoseconds))

def dateWordsKnown : List (String × Char) :=
  [("date", 'd'), ("utc", 'u'), ("universal", 'u'), ("reference", 'r'), ("rfc-email", 'R'),
    ("iso-8601==", 'I'), ("rfc-3339=", '3'), ("set", 's')]

def date (args : List Octets) : Tool Unit := do
  let (flags, args) ← readFlags (.of "d:uRI::r:s:" dateWordsKnown) args
  let now := Moment.ofNanoseconds (← Program.call .now)
  let m ← match value? flags 'd', value? flags 'r' with
    | some text, _ =>
        match moment? now text with
        | some m => pure m
        | none => fail 1 ("invalid date ".toList ++ quoted text)
    | none, some path => do
        match ← Program.call (.status path true) with
        | .ok status => pure (Moment.ofNanoseconds status.modified)
        | .error e => fail 1 (shown path ++ ": ".toList ++ wording e)
    | none, none => pure now
  let iso := (value? flags 'I').orElse fun _ => none
  match args with
  | ('+' :: format) :: [] => printLine (m.write format)
  | [] =>
      let format := match iso, value? flags '3' with
        | some ['h', 'o', 'u', 'r', 's'] , _ => "%Y-%m-%dT%H+00:00"
        | some ['m', 'i', 'n', 'u', 't', 'e', 's'], _ => "%Y-%m-%dT%H:%M+00:00"
        | some ['s', 'e', 'c', 'o', 'n', 'd', 's'], _ => "%Y-%m-%dT%H:%M:%S+00:00"
        | some ['n', 's'], _ => "%Y-%m-%dT%H:%M:%S,%N+00:00"
        | some _, _ => "%Y-%m-%d"
        | none, some ['d', 'a', 't', 'e'] => "%Y-%m-%d"
        | none, some _ => "%Y-%m-%d %H:%M:%S+00:00"
        | none, none => if has flags 'R' then "%a, %d %b %Y %H:%M:%S +0000"
            else "%a %b %e %H:%M:%S UTC %Y"
      printLine (m.write format.toList)
  | ('+' :: _) :: extra :: _ => extraOperand 1 extra
  | arg :: _ => fail 1 ("invalid date ".toList ++ quoted arg)

/-! ### The user -/

/-- The name and the number of the user. -/
def userName : Octets := "oracle".toList

def userNumber : Nat := 1000

def showIdentity (args : List Octets) : Tool Unit := do
  let (flags, _) ← readFlags (.of "unrgGz"
    [("user", 'u'), ("name", 'n'), ("real", 'r'), ("group", 'g'), ("groups", 'G'), ("zero", 'z')])
    args
  if "ugG".toList.any (has flags) then
    print ((if has flags 'n' then userName else decimal userNumber) ++
      [if has flags 'z' then '\x00' else '\n'])
  else
    if has flags 'z' then fail 1 "option --zero not permitted in default format".toList
    if has flags 'n' then fail 1 "cannot print only names or real IDs in default format".toList
    let pair := decimal userNumber ++ '(' :: userName ++ [')']
    printLine ("uid=".toList ++ pair ++ " gid=".toList ++ pair ++ " groups=".toList ++ pair)

def whoami (args : List Octets) : Tool Unit := do
  let (_, args) ← readFlags (.of "" []) args
  match args with
  | [] => printLine userName
  | extra :: _ => extraOperand 1 extra

/-! ### The machine -/

def uname (args : List Octets) : Tool Unit := do
  let words := [("all", 'a'), ("kernel-name", 's'), ("nodename", 'n'), ("kernel-release", 'r'),
    ("kernel-version", 'v'), ("machine", 'm'), ("processor", 'p'), ("operating-system", 'o')]
  let (flags, args) ← readFlags (.of "asnrvmpio" words) args
  match args with
  | extra :: _ => extraOperand 1 extra
  | [] => pure ()
  let all := [('s', "Linux"), ('n', "localhost"), ('r', "6.1.0"), ('v', "#1 SMP"), ('m', "x86_64"),
    ('o', "GNU/Linux")]
  let chosen := all.filter fun (c, _) => has flags c || has flags 'a'
  let chosen := if chosen.isEmpty then all.take 1 else chosen
  printLine (List.intercalate [' '] (chosen.map fun (_, text) => text.toList))

def hostname (_ : List Octets) : Tool Unit := printLine "localhost".toList

def nproc (_ : List Octets) : Tool Unit := printLine ['1']

/-- There is no terminal. -/
def tty (args : List Octets) : Tool Unit := do
  let (flags, _) ← readFlags (.of "s" [("silent", 's'), ("quiet", 's')]) args
  if !has flags 's' then printLine "not a tty".toList
  note 1

end Enquiry.Tool
