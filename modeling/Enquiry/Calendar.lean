import Enquiry.Text.Digit

/-!
# Calendar days

Days of the proleptic Gregorian calendar from the year -262143 to the year 262142, the year 0
included. A day is written as year, month and day with hyphens; the year has at least four digits,
and a sign when it is negative or over 9999.
-/

namespace Enquiry

open Text

def isLeapYear (year : Int) : Bool := year % 4 == 0 && (year % 100 != 0 || year % 400 == 0)

/-- The number of days of a month. -/
def daysInMonth (year : Int) (month : Nat) : Nat :=
  if month = 2 then (if isLeapYear year then 29 else 28)
  else if month = 4 ∨ month = 6 ∨ month = 9 ∨ month = 11 then 30
  else 31

def firstYear : Int := -262143

def lastYear : Int := 262142

/-- The three numbers name a day of the calendar. -/
def IsDay (year : Int) (month day : Nat) : Prop :=
  firstYear ≤ year ∧ year ≤ lastYear ∧ 1 ≤ month ∧ month ≤ 12 ∧ 1 ≤ day ∧
    day ≤ daysInMonth year month

instance (year : Int) (month day : Nat) : Decidable (IsDay year month day) := by
  unfold IsDay; infer_instance

/-- A day of the calendar. -/
structure Date where
  year : Int
  month : Nat
  day : Nat
  isDay : IsDay year month day
  deriving DecidableEq

namespace Date

/-- The day that three numbers name. -/
def ofParts? (year : Int) (month day : Nat) : Option Date :=
  if h : IsDay year month day then some ⟨year, month, day, h⟩ else none

/-- The day before, if the calendar has one. -/
def previous? (d : Date) : Option Date :=
  if 1 < d.day then ofParts? d.year d.month (d.day - 1)
  else if 1 < d.month then ofParts? d.year (d.month - 1) (daysInMonth d.year (d.month - 1))
  else ofParts? (d.year - 1) 12 31

/-- The day after, if the calendar has one. -/
def next? (d : Date) : Option Date :=
  if d.day < daysInMonth d.year d.month then ofParts? d.year d.month (d.day + 1)
  else if d.month < 12 then ofParts? d.year (d.month + 1) 1
  else ofParts? (d.year + 1) 1 1

/-- The day so many days after another, or the last day there is. -/
def after : Nat → Date → Date
  | 0, d => d
  | n + 1, d => after n (d.next?.getD d)

/-- The day that clocks count from. -/
def epoch : Date := ⟨1970, 1, 1, by decide⟩

/-- The day on which a clock shows so many seconds. -/
def ofClock (seconds : Nat) : Date := after (seconds / 86400) epoch

/-- A number with leading zeros up to a width. -/
def padded (width n : Nat) : List Char :=
  List.replicate (width - (decimal n).length) '0' ++ decimal n

/-- The year, with a sign unless it has four digits or fewer and is not negative. -/
def yearText (year : Int) : List Char :=
  if year < 0 then '-' :: padded 4 year.natAbs
  else if 9999 < year then '+' :: padded 4 year.natAbs
  else padded 4 year.natAbs

def chars (d : Date) : List Char :=
  yearText d.year ++ '-' :: padded 2 d.month ++ '-' :: padded 2 d.day

/-- The day as text. -/
def text (d : Date) : String := String.ofList d.chars

end Date

end Enquiry
