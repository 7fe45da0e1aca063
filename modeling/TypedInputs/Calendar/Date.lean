/-
# Dates

The proleptic Gregorian calendar from the year 1 to the year 9999. A `Date` is a real date of it: a
month has its days, and February 29 exists in leap years only.

Dates are counted by their ordinal, 1 for January 1 of the year 1. `Date.ofOrdinal?` finds the date
again: the year is the greatest one that starts before the day, the month likewise.
-/

import TypedInputs.Text.Digit

namespace TypedInputs
namespace Calendar

/-- What is wrong with the fields of a date or a time of day. -/
inductive FieldFault where
  | year (given : Nat)
  | month
  | day
  | hour
  | minute
  | second
deriving Repr, DecidableEq

/-- How a field fault is reported. -/
def FieldFault.message : FieldFault → String
  | .year given => "year " ++ toString given ++ " is out of range"
  | .month => "month must be in 1..12"
  | .day => "day is out of range for month"
  | .hour => "hour must be in 0..23"
  | .minute => "minute must be in 0..59"
  | .second => "second must be in 0..59"

/-- The last year of the calendar. -/
def maxYear : Nat := 9999

/-- A year with a February 29. -/
def isLeap (year : Nat) : Bool := year % 4 == 0 && (year % 100 != 0 || year % 400 == 0)

/-- How many days a month has. -/
def daysInMonth (year : Nat) : Nat → Nat
  | 2 => if isLeap year then 29 else 28
  | 4 | 6 | 9 | 11 => 30
  | _ => 31

/-- The fields of a real date. -/
def IsDate (year month day : Nat) : Prop :=
  1 ≤ year ∧ year ≤ maxYear ∧ 1 ≤ month ∧ month ≤ 12 ∧ 1 ≤ day ∧ day ≤ daysInMonth year month

instance (year month day : Nat) : Decidable (IsDate year month day) :=
  inferInstanceAs (Decidable (_ ∧ _))

/-- A date of the calendar. -/
structure Date where
  year : Nat
  month : Nat
  day : Nat
  isDate : IsDate year month day
deriving DecidableEq

namespace Date

/-- The date with the given fields, or the first field that is out of its range. -/
def ofFields (year month day : Nat) : Except FieldFault Date :=
  if h : IsDate year month day then .ok ⟨year, month, day, h⟩
  else if year < 1 ∨ maxYear < year then .error (.year year)
  else if month < 1 ∨ 12 < month then .error .month
  else .error .day

/-- The days before a year. -/
def daysBeforeYear (year : Nat) : Nat :=
  365 * (year - 1) + (year - 1) / 4 - (year - 1) / 100 + (year - 1) / 400

/-- The days of a year before a month. -/
def daysBeforeMonth (year month : Nat) : Nat :=
  (List.range (month - 1)).foldl (fun days m => days + daysInMonth year (m + 1)) 0

/-- The number of a date, counted from January 1 of the year 1. -/
def ordinal (d : Date) : Nat := daysBeforeYear d.year + daysBeforeMonth d.year d.month + d.day

/-- The year that an ordinal belongs to. -/
def yearOfOrdinal (n : Nat) : Nat :=
  let near := (n - 1) * 400 / 146097 + 1
  if daysBeforeYear (near + 1) < n then near + 1
  else if daysBeforeYear near < n then near
  else near - 1

/-- The month that a day of a year belongs to. -/
def monthOfDay (year day : Nat) : Nat :=
  ((List.range 12).reverse.find? fun m => decide (daysBeforeMonth year (m + 1) < day)).getD 0 + 1

/-- The date with an ordinal. -/
def ofOrdinal? (n : Nat) : Option Date :=
  let year := yearOfOrdinal n
  let day := n - daysBeforeYear year
  let month := monthOfDay year day
  (ofFields year month (day - daysBeforeMonth year month)).toOption

/-- The text `YYYY-MM-DD`. -/
def toChars (d : Date) : List Char :=
  Text.padded 4 d.year ++ '-' :: Text.padded 2 d.month ++ '-' :: Text.padded 2 d.day

/-- The text `YYYY-MM-DD`. -/
def text (d : Date) : String := String.ofList d.toChars

end Date
end Calendar
end TypedInputs
