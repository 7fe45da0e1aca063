/-
# Times of day

A time of day counts to the microsecond. Its text is `HH:MM:SS`, with a point and six digits more
when there are microseconds.
-/

import TypedInputs.Calendar.Date

namespace TypedInputs
namespace Calendar

/-- The fields of a time of day. -/
def IsTime (hour minute second microsecond : Nat) : Prop :=
  hour ≤ 23 ∧ minute ≤ 59 ∧ second ≤ 59 ∧ microsecond < 1000000

instance (hour minute second microsecond : Nat) :
    Decidable (IsTime hour minute second microsecond) :=
  inferInstanceAs (Decidable (_ ∧ _))

/-- A time of day. -/
structure TimeOfDay where
  hour : Nat
  minute : Nat
  second : Nat
  microsecond : Nat
  isTime : IsTime hour minute second microsecond
deriving DecidableEq

namespace TimeOfDay

/-- The time with the given fields, or the first field that is out of its range. A number of
microseconds is below a million by the way it is read. -/
def ofFields (hour minute second microsecond : Nat) : Except FieldFault TimeOfDay :=
  if h : IsTime hour minute second (microsecond % 1000000) then
    .ok ⟨hour, minute, second, microsecond % 1000000, h⟩
  else if 23 < hour then .error .hour
  else if 59 < minute then .error .minute
  else .error .second

/-- The whole seconds since midnight. -/
def seconds (t : TimeOfDay) : Nat := (t.hour * 60 + t.minute) * 60 + t.second

/-- An earlier time of day. -/
def before (s t : TimeOfDay) : Bool :=
  s.seconds < t.seconds || s.seconds == t.seconds && s.microsecond < t.microsecond

/-- The time that many seconds and microseconds after midnight. -/
def ofSeconds? (seconds microsecond : Nat) : Option TimeOfDay :=
  (ofFields (seconds / 3600) (seconds / 60 % 60) (seconds % 60) microsecond).toOption

/-- The text `HH:MM:SS` or `HH:MM:SS.ffffff`. -/
def toChars (t : TimeOfDay) : List Char :=
  Text.padded 2 t.hour ++ ':' :: Text.padded 2 t.minute ++ ':' :: Text.padded 2 t.second ++
    if t.microsecond = 0 then [] else '.' :: Text.padded 6 t.microsecond

/-- The text `HH:MM:SS` or `HH:MM:SS.ffffff`. -/
def text (t : TimeOfDay) : String := String.ofList t.toChars

end TimeOfDay
end Calendar
end TypedInputs
