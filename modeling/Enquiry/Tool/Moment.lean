import Enquiry.Host.Octets
import Enquiry.Text.Layout

/-!
# Moments

A moment is a number of seconds from the beginning of the year 1970 on. It has a day of the
calendar and a time of that day, and is written as a format says.
-/

namespace Enquiry.Tool

open Host Text

/-- A moment in its parts. -/
structure Moment where
  seconds : Int
  nanoseconds : Nat
  year : Int
  month : Nat
  day : Nat
  hour : Nat
  minute : Nat
  second : Nat
  /-- The day of the week from Sunday on, and the day of the year, from zero on. -/
  weekday : Nat
  yearDay : Nat

namespace Moment

/-- The number of days from the beginning of the year 1970 on. Years are counted from March on, so
that the day that some years have more is their last one. -/
def daysBefore (year : Int) (month day : Int) : Int :=
  let y := if month ≤ 2 then year - 1 else year
  let era := Int.fdiv y 400
  let yearOfEra := y - era * 400
  let shifted := if 2 < month then month - 3 else month + 9
  let dayOfYear := Int.fdiv (153 * shifted + 2) 5 + day - 1
  let dayOfEra := yearOfEra * 365 + Int.fdiv yearOfEra 4 - Int.fdiv yearOfEra 100 + dayOfYear
  era * 146097 + dayOfEra - 719468

/-- The year, the month and the day so many days after the beginning of the year 1970. -/
def dateOf (days : Int) : Int × Nat × Nat :=
  let z := days + 719468
  let era := Int.fdiv z 146097
  let doe := z - era * 146097
  let yoe := Int.fdiv (doe - Int.fdiv doe 1460 + Int.fdiv doe 36524 - Int.fdiv doe 146096) 365
  let doy := doe - (365 * yoe + Int.fdiv yoe 4 - Int.fdiv yoe 100)
  let mp := Int.fdiv (5 * doy + 2) 153
  let day := doy - Int.fdiv (153 * mp + 2) 5 + 1
  let month := if mp < 10 then mp + 3 else mp - 9
  let year := yoe + era * 400 + if month ≤ 2 then 1 else 0
  (year, month.toNat, day.toNat)

/-- The moment of some seconds. -/
def ofSeconds (seconds : Int) (nanoseconds : Nat) : Moment :=
  let days := Int.fdiv seconds 86400
  let time := (seconds - days * 86400).toNat
  let (year, month, day) := dateOf days
  { seconds, nanoseconds, year, month, day
    hour := time / 3600
    minute := time / 60 % 60
    second := time % 60
    weekday := ((days + 4) - Int.fdiv (days + 4) 7 * 7).toNat
    yearDay := (days - daysBefore year 1 1).toNat }

def ofNanoseconds (n : Nat) : Moment := ofSeconds (n / 1000000000 : Nat) (n % 1000000000)

/-- The moment of a day and a time; months and days may be out of their bounds. -/
def ofParts (year month day hour minute second : Int) : Moment :=
  let months := year * 12 + month - 1
  let year := Int.fdiv months 12
  let month := months - year * 12 + 1
  ofSeconds ((daysBefore year month 1 + day - 1) * 86400 + hour * 3600 + minute * 60 + second) 0

/-! ### Writing -/

def monthNames : List String :=
  ["January", "February", "March", "April", "May", "June", "July", "August", "September",
    "October", "November", "December"]

def dayNames : List String :=
  ["Sunday", "Monday", "Tuesday", "Wednesday", "Thursday", "Friday", "Saturday"]

def monthName (m : Moment) : Octets := ((monthNames[m.month - 1]?).getD "").toList

def dayName (m : Moment) : Octets := ((dayNames[m.weekday]?).getD "").toList

/-- The year to which the week of a moment belongs and the number of the week, where weeks begin
on Monday and the first one has a Thursday. -/
def isoWeek (m : Moment) : Int × Nat :=
  let weekday : Int := if m.weekday = 0 then 7 else m.weekday
  let thursday := ofSeconds (m.seconds + (4 - weekday) * 86400) 0
  (thursday.year, thursday.yearDay / 7 + 1)

/-- A number in some columns, filled up with a character. -/
def filled (fill : Option Char) (width : Nat) (n : Int) : Octets :=
  let digits := decimal n.natAbs
  let sign := if n < 0 then ['-'] else []
  match fill with
  | none => sign ++ digits
  | some c => sign ++ List.replicate (width - digits.length) c ++ digits

/-- What stands for a letter in a format. The first arguments say with what a number is filled up,
and to which width, if that is not the usual. Parts are written by `inner`. -/
def field? (inner : String → Octets) (m : Moment) (fill : Option (Option Char))
    (width : Option Nat) (c : Char) : Option Octets :=
  let number (usual : Char) (size : Nat) (n : Int) : Octets :=
    filled (fill.getD (some usual)) (width.getD size) n
  let text (s : Octets) : Octets :=
    List.replicate (width.getD 0 - s.length) ((fill.getD (some ' ')).getD ' ') ++ s
  let twelve := if m.hour % 12 = 0 then 12 else m.hour % 12
  let half := if m.hour < 12 then "AM" else "PM"
  match c with
  | 'Y' => some (number '0' 1 m.year)
  | 'C' => some (number '0' 2 (Int.fdiv m.year 100))
  | 'y' => some (number '0' 2 (m.year - Int.fdiv m.year 100 * 100))
  | 'm' => some (number '0' 2 m.month)
  | 'd' => some (number '0' 2 m.day)
  | 'e' => some (number ' ' 2 m.day)
  | 'H' => some (number '0' 2 m.hour)
  | 'I' => some (number '0' 2 twelve)
  | 'k' => some (number ' ' 2 m.hour)
  | 'l' => some (number ' ' 2 twelve)
  | 'M' => some (number '0' 2 m.minute)
  | 'S' => some (number '0' 2 m.second)
  | 'j' => some (number '0' 3 (m.yearDay + 1))
  | 'u' => some (number '0' 1 (if m.weekday = 0 then 7 else m.weekday))
  | 'w' => some (number '0' 1 m.weekday)
  | 'U' => some (number '0' 2 ((m.yearDay + 7 - m.weekday) / 7 : Nat))
  | 'W' => some (number '0' 2 ((m.yearDay + 7 - (m.weekday + 6) % 7) / 7 : Nat))
  | 'V' => some (number '0' 2 (isoWeek m).2)
  | 'G' => some (number '0' 1 (isoWeek m).1)
  | 'g' => some (number '0' 2 ((isoWeek m).1 - Int.fdiv (isoWeek m).1 100 * 100))
  | 's' => some (number '0' 1 m.seconds)
  | 'q' => some (number '0' 1 ((m.month + 2) / 3 : Nat))
  | 'N' =>
      let digits := filled (some '0') 9 m.nanoseconds
      some (match width with
        | some n => (digits ++ List.replicate (n - 9) '0').take n
        | none => digits)
  | 'a' => some (text (m.dayName.take 3))
  | 'A' => some (text m.dayName)
  | 'b' => some (text (m.monthName.take 3))
  | 'h' => some (text (m.monthName.take 3))
  | 'B' => some (text m.monthName)
  | 'p' => some (text half.toList)
  | 'P' => some (text (half.toList.map Char.toLower))
  | 'Z' => some (text "UTC".toList)
  | 'z' => some "+0000".toList
  | 'n' => some ['\n']
  | 't' => some ['\t']
  | '%' => some ['%']
  | 'c' => some (text (inner "%a %b %e %H:%M:%S %Y"))
  | 'D' => some (text (inner "%m/%d/%y"))
  | 'x' => some (text (inner "%m/%d/%y"))
  | 'F' => some (text (inner "%Y-%m-%d"))
  | 'R' => some (text (inner "%H:%M"))
  | 'r' => some (text (inner "%I:%M:%S %p"))
  | 'T' => some (text (inner "%H:%M:%S"))
  | 'X' => some (text (inner "%H:%M:%S"))
  | _ => none

/-- How many formats may stand within each other. -/
def formatDepth : Nat := 3

/-- A moment as a format says. The first argument bounds the number of characters, and the second
one how many formats stand within each other. -/
def writeFrom (m : Moment) : Nat → Nat → Octets → Octets
  | 0, _, _ => []
  | _, _, [] => []
  | n + 1, depth, '%' :: rest =>
      let flags := rest.takeWhile fun c => "-_0^#".toList.contains c
      let after := rest.drop flags.length
      let digits := after.takeWhile isAsciiDigit
      let after := after.drop digits.length
      let fill := (flags.filterMap fun c =>
        if c = '-' then some none else if c = '_' then some (some ' ')
        else if c = '0' then some (some '0') else none).getLast?
      let colons := after.takeWhile (· == ':')
      let after := after.drop colons.length
      let after := match after with
        | 'E' :: c :: more => c :: more
        | 'O' :: c :: more => c :: more
        | after => after
      match after with
      | [] => '%' :: rest
      | c :: after =>
          let inner (format : String) : Octets :=
            match depth with
            | 0 => []
            | depth + 1 => writeFrom m n depth format.toList
          let found := if c = 'z' ∧ !colons.isEmpty then some "+00:00".toList
            else field? inner m fill (number? digits) c
          let text := found.getD ('%' :: flags ++ digits ++ [c])
          (if flags.contains '^' then text.map Char.toUpper else text) ++ writeFrom m n depth after
  | n + 1, depth, c :: rest => c :: writeFrom m n depth rest

/-- A moment as a format says. -/
def write (m : Moment) (format : Octets) : Octets :=
  m.writeFrom (format.length + 40) formatDepth format

end Moment

end Enquiry.Tool
