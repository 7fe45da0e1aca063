/-
# Dates with times, with and without an offset

A `DateTime` is a date and a time of day on some wall clock. Its whole seconds are counted from the
start of 1970 on that clock; `firstSecond` and `lastSecond` are the ends of the calendar in this
count.

A `ZonedDateTime` is a wall clock reading with its offset from UTC in seconds and, when the offset
comes from a named zone, the name. Two of them are the same instant when wall clock less offset
agrees. Its text is the wall clock, `T` between date and time, and the offset `±HH:MM` or
`±HH:MM:SS`.
-/

import TypedInputs.Calendar.TimeOfDay

namespace TypedInputs
namespace Calendar

/-- A date and a time of day. -/
structure DateTime where
  date : Date
  time : TimeOfDay
deriving DecidableEq

/-- The ordinal of January 1, 1970. -/
def epochOrdinal : Int := 719163

/-- The seconds of a day. -/
def secondsPerDay : Int := 86400

/-- The first second of the calendar: the start of the year 1. -/
def firstSecond : Int := (1 - epochOrdinal) * secondsPerDay

/-- The last second of the calendar: the end of the year 9999. -/
def lastSecond : Int := (3652059 - epochOrdinal + 1) * secondsPerDay - 1

namespace DateTime

/-- The whole seconds since the start of 1970. -/
def seconds (t : DateTime) : Int :=
  ((t.date.ordinal : Int) - epochOrdinal) * secondsPerDay + t.time.seconds

/-- An earlier reading. -/
def before (s t : DateTime) : Bool :=
  s.date.ordinal < t.date.ordinal || s.date.ordinal == t.date.ordinal && s.time.before t.time

/-- The reading that many seconds after the start of 1970. -/
def ofSeconds? (seconds : Int) (microsecond : Nat) : Option DateTime := do
  let date ← Date.ofOrdinal? (seconds / secondsPerDay + epochOrdinal).toNat
  let time ← TimeOfDay.ofSeconds? (seconds % secondsPerDay).toNat microsecond
  some ⟨date, time⟩

/-- Date and time with a separator between them. -/
def toCharsWith (separator : Char) (t : DateTime) : List Char :=
  t.date.toChars ++ separator :: t.time.toChars

/-- The text with a `T` between date and time. -/
def toChars (t : DateTime) : List Char := t.toCharsWith 'T'

/-- The text with a `T` between date and time. -/
def text (t : DateTime) : String := String.ofList t.toChars

end DateTime

/-- The hours and minutes of a number of seconds, and the seconds that are left when there are
any. -/
def clockChars (n : Nat) : List Char :=
  Text.padded 2 (n / 3600) ++ ':' :: Text.padded 2 (n / 60 % 60) ++
    if n % 60 = 0 then [] else ':' :: Text.padded 2 (n % 60)

/-- The text of an offset: a sign, hours and minutes, and seconds when there are any. -/
def offsetChars (offset : Int) : List Char :=
  (if offset < 0 then '-' else '+') :: clockChars offset.natAbs

/-- A wall clock reading with its offset from UTC in seconds, and the zone that sets it. -/
structure ZonedDateTime where
  wall : DateTime
  offset : Int
  zone : Option String
deriving DecidableEq

namespace ZonedDateTime

/-- Date, time and offset, without the zone. -/
def toChars (t : ZonedDateTime) : List Char := t.wall.toChars ++ offsetChars t.offset

/-- Date, time and offset, without the zone. -/
def text (t : ZonedDateTime) : String := String.ofList t.toChars

/-- The whole seconds since the start of 1970 in UTC. -/
def instant (t : ZonedDateTime) : Int := t.wall.seconds - t.offset

/-- Being the same instant. -/
def equals (a b : ZonedDateTime) : Bool :=
  a.instant == b.instant && a.wall.time.microsecond == b.wall.time.microsecond

end ZonedDateTime
end Calendar
end TypedInputs
