/-
# Dates and times as literals

| type | form |
| --- | --- |
| date | `YYYY-MM-DD` |
| time | `HH:MM`, `HH:MM:SS` or `HH:MM:SS.f` with one to nine digits |
| date with time | a date, `T`, a time |
| with zone | a date with time, an offset, maybe a zone in brackets |

The digits are decimal digits of any script, and one line feed may follow at the end. Of a fraction
the first six digits count. An offset is `Z` or `±HH:MM` or `±HH:MM:SS`, at most 18 hours; a zone
name is anything without a closing bracket.

The form is checked first, then date, time, offset and zone in this order. An offset alone is a
zone without a name, in minutes or in seconds, except that `Z` and an offset of zero are UTC.
-/

import TypedInputs.Literal.Fault
import TypedInputs.Zone.Directory

namespace TypedInputs
namespace Literal

open Calendar

/-- What follows a character that must come first. -/
def dropChar? (c : Char) : List Char → Option (List Char)
  | [] => none
  | d :: rest => if d = c then some rest else none

/-- The numbers of a written date. -/
structure DateFields where
  year : Nat
  month : Nat
  day : Nat
deriving Repr, DecidableEq

/-- The numbers of a written time. -/
structure TimeFields where
  hour : Nat
  minute : Nat
  second : Nat
  fraction : List Nat
deriving Repr, DecidableEq

/-- A written offset: `Z`, or a sign and numbers. -/
inductive WrittenOffset where
  | utc
  | signed (written : String) (negative : Bool) (hours minutes seconds : Nat)
deriving Repr, DecidableEq

/-- The date at the start of a text, and what follows it. -/
def readDate (text : List Char) : Option (DateFields × List Char) := do
  let (year, rest) ← Text.takeDigits 4 text
  let rest ← dropChar? '-' rest
  let (month, rest) ← Text.takeDigits 2 rest
  let rest ← dropChar? '-' rest
  let (day, rest) ← Text.takeDigits 2 rest
  some (⟨Text.ofDigits year, Text.ofDigits month, Text.ofDigits day⟩, rest)

/-- The fraction at the start of a text, and what follows it; nothing is read when none stands
there. -/
def readFraction : List Char → List Nat × List Char
  | '.' :: rest =>
    let (digits, tail) := Text.spanDigits rest
    if 1 ≤ digits.length ∧ digits.length ≤ 9 then (digits, tail) else ([], '.' :: rest)
  | text => ([], text)

/-- The seconds with their fraction at the start of a text, and what follows them; nothing is read
when none stand there. -/
def readSeconds (text : List Char) : (Nat × List Nat) × List Char :=
  match (dropChar? ':' text).bind (Text.takeDigits 2) with
  | some (second, rest) =>
    let (fraction, tail) := readFraction rest
    ((Text.ofDigits second, fraction), tail)
  | none => ((0, []), text)

/-- The time at the start of a text, and what follows it. -/
def readTime (text : List Char) : Option (TimeFields × List Char) := do
  let (hour, rest) ← Text.takeDigits 2 text
  let rest ← dropChar? ':' rest
  let (minute, rest) ← Text.takeDigits 2 rest
  let ((second, fraction), rest) := readSeconds rest
  some (⟨Text.ofDigits hour, Text.ofDigits minute, second, fraction⟩, rest)

/-- The date with time at the start of a text, and what follows it. -/
def readDateTime (text : List Char) : Option ((DateFields × TimeFields) × List Char) := do
  let (date, rest) ← readDate text
  let rest ← dropChar? 'T' rest
  let (time, rest) ← readTime rest
  some ((date, time), rest)

/-- The numbers of an offset after its sign, and what follows them. -/
def readOffsetFields (text : List Char) : Option ((Nat × Nat × Nat) × List Char) := do
  let (hours, rest) ← Text.takeDigits 2 text
  let rest ← dropChar? ':' rest
  let (minutes, rest) ← Text.takeDigits 2 rest
  match (dropChar? ':' rest).bind (Text.takeDigits 2) with
  | some (seconds, tail) =>
    some ((Text.ofDigits hours, Text.ofDigits minutes, Text.ofDigits seconds), tail)
  | none => some ((Text.ofDigits hours, Text.ofDigits minutes, 0), rest)

/-- The offset at the start of a text, and what follows it. -/
def readOffset : List Char → Option (WrittenOffset × List Char)
  | 'Z' :: rest => some (.utc, rest)
  | c :: rest =>
    if c = '+' ∨ c = '-' then
      (readOffsetFields rest).map fun ((hours, minutes, seconds), tail) =>
        let written := (c :: rest).take ((c :: rest).length - tail.length)
        (.signed (String.ofList written) (c == '-') hours minutes seconds, tail)
    else none
  | [] => none

/-- The zone name in brackets at the start of a text, and what follows it; nothing is read when
none stands there. -/
def readZone : List Char → Option (List Char) × List Char
  | '[' :: rest =>
    let name := rest.takeWhile (· != ']')
    match name, rest.drop name.length with
    | _ :: _, _ :: tail => (some name, tail)
    | _, _ => (none, '[' :: rest)
  | text => (none, text)

/-- The microseconds of a fraction: its first six digits, with zeros for the missing ones. -/
def microsecond (fraction : List Nat) : Nat :=
  Text.ofDigits ((fraction ++ List.replicate 6 0).take 6)

/-- The date of the calendar with written fields. -/
def DateFields.toDate (f : DateFields) : Except LiteralFault Date :=
  (Date.ofFields f.year f.month f.day).mapError .field

/-- The time of day with written fields. -/
def TimeFields.toTime (f : TimeFields) : Except LiteralFault TimeOfDay :=
  (TimeOfDay.ofFields f.hour f.minute f.second (microsecond f.fraction)).mapError .field

/-- The form of a date. -/
def dateForm : String := "YYYY-MM-DD"

/-- The form of a time. -/
def timeForm : String := "HH:MM:SS"

/-- The form of a date with time. -/
def dateTimeForm : String := "YYYY-MM-DDTHH:MM:SS"

/-- The form of a date with time, offset and zone. -/
def zonedForm : String := "YYYY-MM-DDTHH:MM:SS+HH:MM[:SS][zone]"

/-- The date that a text writes. -/
def parseDate (text : List Char) : Except LiteralFault Date :=
  match readDate text with
  | some (date, rest) => if Text.isLineEnd rest then date.toDate else .error (.notInForm dateForm)
  | none => .error (.notInForm dateForm)

/-- The time of day that a text writes. -/
def parseTime (text : List Char) : Except LiteralFault TimeOfDay :=
  match readTime text with
  | some (time, rest) => if Text.isLineEnd rest then time.toTime else .error (.notInForm timeForm)
  | none => .error (.notInForm timeForm)

/-- The date with time that written fields make. -/
def toDateTime (date : DateFields) (time : TimeFields) : Except LiteralFault DateTime := do
  let date ← date.toDate
  let time ← time.toTime
  return ⟨date, time⟩

/-- The date with time that a text writes. -/
def parseDateTime (text : List Char) : Except LiteralFault DateTime :=
  match readDateTime text with
  | some ((date, time), rest) =>
    if Text.isLineEnd rest then toDateTime date time else .error (.notInForm dateTimeForm)
  | none => .error (.notInForm dateTimeForm)

/-- The greatest offset, in seconds. -/
def maxOffset : Nat := 18 * 3600

/-- A written offset in seconds. -/
def WrittenOffset.seconds : WrittenOffset → Except LiteralFault Int
  | .utc => .ok 0
  | .signed written negative hours minutes seconds =>
    let n := hours * 3600 + minutes * 60 + seconds
    if 59 < minutes ∨ 59 < seconds then .error (.invalidOffset written)
    else if maxOffset < n then .error (.offsetOutOfRange written)
    else .ok (if negative then -(n : Int) else n)

/-- Why a date with a zone has no value. -/
inductive ZonedFault where
  | literal (fault : LiteralFault)
  | beyondCalendar
deriving Repr, DecidableEq

/-- The zone of an offset that stands alone; only an offset with seconds is kept in seconds. -/
inductive OffsetZone where
  | utc
  | minutes (count : Int)
  | seconds (count : Int)
deriving Repr, DecidableEq

namespace OffsetZone

/-- The offset in seconds. -/
def offset : OffsetZone → Int
  | .utc => 0
  | .minutes count => count * 60
  | .seconds count => count

/-- The name, which only UTC has. -/
def name? : OffsetZone → Option String
  | .utc => some Zone.utcName
  | .minutes _ | .seconds _ => none

/-- The zone of an offset in whole minutes. -/
def ofMinutes (count : Int) : OffsetZone := if count = 0 then .utc else .minutes count

/-- The zone of an offset. An offset is whole days and the seconds after them, so the days of one
below zero are below zero and the seconds are not. -/
def ofOffset (offset : Int) : OffsetZone :=
  if offset % secondsPerDay % 60 = 0 then ofMinutes (offset / 60) else .seconds offset

end OffsetZone

/-- The zone name of an offset that stands alone. -/
def zoneOfOffset (offset : Int) : Option String := (OffsetZone.ofOffset offset).name?

/-- A wall clock reading as a history of regimes resolves it, and the regime that it is under; the
written offset is preferred. -/
def settled? (rules : Zone.Rules) (wall : DateTime) (offset : Int) :
    Option (DateTime × Zone.Regime) := do
  let t ← rules.resolve wall.seconds offset
  let moved ← DateTime.ofSeconds? t.seconds wall.time.microsecond
  some (moved, t.regime)

/-- The reading of a wall clock in a zone, the written offset preferred. -/
def inZone (zone : Zone.Named) (wall : DateTime) (offset : Int) : Except ZonedFault ZonedDateTime :=
  match zone.clock with
  | .fixed minutes => .ok ⟨wall, minutes * 60, some zone.name⟩
  | .ruled rules =>
    match settled? rules wall offset with
    | some (moved, regime) => .ok ⟨moved, regime.seconds, some zone.name⟩
    | none => .error .beyondCalendar

/-- The reading of a wall clock with a written offset, in the zone with a name if there is one. -/
def atOffset [Zone.Directory] (wall : DateTime) (offset : Int) :
    Option (List Char) → Except ZonedFault ZonedDateTime
  | none => .ok ⟨wall, (OffsetZone.ofOffset offset).offset, zoneOfOffset offset⟩
  | some name =>
    match Zone.Directory.find? name with
    | some zone => inZone zone wall offset
    | none => .error (.literal (.unknownZone (String.ofList name)))

/-- The parts of a date with time and zone: written fields, offset and zone name. -/
structure ZonedFields where
  date : DateFields
  time : TimeFields
  offset : WrittenOffset
  zone : Option (List Char)
deriving Repr, DecidableEq

/-- The parts of a text that has the form of a date with time and zone. -/
def readZoned (text : List Char) : Option ZonedFields := do
  let ((date, time), rest) ← readDateTime text
  let (offset, rest) ← readOffset rest
  let (zone, rest) := readZone rest
  if Text.isLineEnd rest then some ⟨date, time, offset, zone⟩ else none

/-- The date with time and zone that a text writes. -/
def parseZoned [Zone.Directory] (text : List Char) : Except ZonedFault ZonedDateTime :=
  match readZoned text with
  | none => .error (.literal (.notInForm zonedForm))
  | some fields => do
    let wall ← (toDateTime fields.date fields.time).mapError .literal
    let offset ← fields.offset.seconds.mapError .literal
    atOffset wall offset fields.zone

end Literal
end TypedInputs
