/-
# The texts of dates and times

Dates, times of day and offsets are written with padded numbers and separators, so the grammar has
what they are written as (`isDateText_toChars`, `isTimeText_toChars`, `isOffsetText_clockChars`),
and its readers take back what was written and leave the rest alone.

`parseDate_toChars`, `parseTime_toChars` and `parseDateTime_toChars` say that a date, a time of day
and a date with time are read back from their texts. For dates with an offset and a zone
`readZoned_toChars` gives the fields that are read, and `exists_readOffset` says that the offset
among them is the one that was written.
-/

import TypedInputs.Proofs.Calendar.Grammar

namespace TypedInputs
namespace Calendar

/-- No month has more than 31 days. -/
theorem daysInMonth_le (year month : Nat) : daysInMonth year month ≤ 31 := by
  unfold daysInMonth
  split
  · split_ifs <;> omega
  all_goals decide

/-- The fields of a date make this date. -/
theorem Date.ofFields_self (d : Date) : Date.ofFields d.year d.month d.day = .ok d :=
  dif_pos d.isDate

theorem TimeOfDay.microsecond_lt (t : TimeOfDay) : t.microsecond < 10 ^ 6 := t.isTime.2.2.2

/-- The fields of a time make this time. -/
theorem TimeOfDay.ofFields_self (t : TimeOfDay) :
    TimeOfDay.ofFields t.hour t.minute t.second t.microsecond = .ok t := by
  have hmicro : t.microsecond % 1000000 = t.microsecond := Nat.mod_eq_of_lt t.microsecond_lt
  have htime : IsTime t.hour t.minute t.second (t.microsecond % 1000000) := by
    rw [hmicro]
    exact t.isTime
  rw [TimeOfDay.ofFields, dif_pos htime]
  simp only [hmicro]

end Calendar

namespace Literal

open Calendar Text

/-- A number that fits its width is written as a field. -/
theorem isField_padded {width n : Nat} (hw : 0 < width) (h : n < 10 ^ width) :
    IsField width (padded width n) n := by
  have hfield := IsField.mk (spells_padded width n) (length_padded hw h)
  rwa [ofDigits_paddedDigits] at hfield

/-! ### Dates -/

/-- The fields of a date, as they are read. -/
def dateFields (d : Date) : DateFields := ⟨d.year, d.month, d.day⟩

/-- The canonical text of a date is in the grammar, with the fields of the date. -/
theorem isDateText_toChars (d : Date) : IsDateText d.toChars (dateFields d) := by
  obtain ⟨-, hyear, -, hmonth, -, hday⟩ := d.isDate
  have := daysInMonth_le d.year d.month
  have hyear : d.year < 10 ^ 4 := by
    unfold maxYear at hyear
    omega
  have hmonth : d.month < 10 ^ 2 := by omega
  have hday : d.day < 10 ^ 2 := by omega
  have htext := IsDateText.mk (isField_padded (by decide) hyear)
    (isField_padded (by decide) hmonth) (isField_padded (by decide) hday)
  rwa [← List.cons_append, ← List.append_assoc] at htext

/-- The fields of a date are read as the date. -/
theorem toDate_dateFields (d : Date) : (dateFields d).toDate = .ok d := by
  rw [DateFields.toDate, dateFields, d.ofFields_self]
  rfl

/-- **A date is read back from its text.** -/
theorem parseDate_toChars (d : Date) : parseDate d.toChars = .ok d := by
  have hread := (isDateText_toChars d).readDate_append []
  rw [List.append_nil] at hread
  rw [parseDate, hread]
  simp only [isLineEnd, if_true, toDate_dateFields]

/-! ### Times of day -/

/-- The fraction of a time of day, as it is read. -/
def fractionOf (t : TimeOfDay) : List Nat :=
  if t.microsecond = 0 then [] else paddedDigits 6 t.microsecond

/-- The fields of a time of day, as they are read. -/
def timeFields (t : TimeOfDay) : TimeFields := ⟨t.hour, t.minute, t.second, fractionOf t⟩

theorem length_paddedDigits {width n : Nat} (hw : 0 < width) (h : n < 10 ^ width) :
    (paddedDigits width n).length = width := by
  rw [← (spells_padded width n).length_eq, length_padded hw h]

/-- The canonical fraction is in the grammar; without microseconds it is left out. -/
theorem isFractionText_toChars (t : TimeOfDay) :
    IsFractionText (if t.microsecond = 0 then [] else '.' :: padded 6 t.microsecond)
      (fractionOf t) := by
  unfold fractionOf
  split_ifs with hzero
  · exact .absent
  · have hlength := length_paddedDigits (by decide) t.microsecond_lt
    exact .written (spells_padded 6 _) (by omega) (by omega)

/-- The digits of the fraction say the microseconds. -/
theorem microsecond_fractionOf (t : TimeOfDay) : microsecond (fractionOf t) = t.microsecond := by
  unfold fractionOf microsecond
  split_ifs with hzero
  · rw [hzero]
    rfl
  · have hlength := length_paddedDigits (by decide) t.microsecond_lt
    rw [List.take_left' hlength, ofDigits_paddedDigits]

/-- The canonical text of a time is in the grammar, with the fields of the time. -/
theorem isTimeText_toChars (t : TimeOfDay) : IsTimeText t.toChars (timeFields t) := by
  obtain ⟨hhour, hminute, hsecond, -⟩ := t.isTime
  have hhour : t.hour < 10 ^ 2 := by omega
  have hminute : t.minute < 10 ^ 2 := by omega
  have hsecond : t.second < 10 ^ 2 := by omega
  have htext := IsTimeText.mk (isField_padded (by decide) hhour)
    (isField_padded (by decide) hminute)
    (.written (isField_padded (by decide) hsecond) (isFractionText_toChars t))
  rw [timeFields]
  simpa only [TimeOfDay.toChars, List.append_assoc, List.cons_append] using htext

/-- The fields of a time are read as the time. -/
theorem toTime_timeFields (t : TimeOfDay) : (timeFields t).toTime = .ok t := by
  rw [TimeFields.toTime, timeFields, microsecond_fractionOf, t.ofFields_self]
  rfl

/-- **A time of day is read back from its text,** to the microsecond. -/
theorem parseTime_toChars (t : TimeOfDay) : parseTime t.toChars = .ok t := by
  have hread := (isTimeText_toChars t).readTime_append endsClock_nil
  rw [List.append_nil] at hread
  rw [parseTime, hread]
  simp only [isLineEnd, if_true, toTime_timeFields]

/-! ### Dates with times -/

/-- The canonical text of a date and a time is read as their fields, up to what ends a time. -/
theorem readDateTime_toChars (t : DateTime) {rest : List Char} (hrest : EndsClock rest) :
    readDateTime (t.toChars ++ rest) = some ((dateFields t.date, timeFields t.time), rest) := by
  have htext := IsDateTimeText.mk (isDateText_toChars t.date) (isTimeText_toChars t.time)
  exact htext.readDateTime_append hrest

/-- The fields of a date and a time make them. -/
theorem toDateTime_fields (t : DateTime) :
    toDateTime (dateFields t.date) (timeFields t.time) = .ok t := by
  simp only [toDateTime, toDate_dateFields, toTime_timeFields]
  rfl

/-- **A date with time is read back from its text.** -/
theorem parseDateTime_toChars (t : DateTime) : parseDateTime t.toChars = .ok t := by
  have hread := readDateTime_toChars t endsClock_nil
  rw [List.append_nil] at hread
  rw [parseDateTime, hread]
  simp only [isLineEnd, if_true, toDateTime_fields]

/-! ### Offsets and zones -/

/-- The canonical text of an offset's length is in the grammar, with its hours, minutes and
seconds. -/
theorem isOffsetText_clockChars {n : Nat} (h : n ≤ maxOffset) :
    IsOffsetText (clockChars n) (n / 3600) (n / 60 % 60) (n % 60) := by
  have hmax : n ≤ 64800 := h
  have hhours := isField_padded (n := n / 3600) (by decide : 0 < 2) (by omega)
  have hminutes := isField_padded (n := n / 60 % 60) (by decide : 0 < 2) (by omega)
  have hseconds := isField_padded (n := n % 60) (by decide : 0 < 2) (by omega)
  simp only [clockChars, List.append_assoc, List.cons_append]
  split_ifs with hzero
  · rw [List.append_nil, hzero]
    exact .minutes hhours hminutes
  · exact .seconds hhours hminutes hseconds

/-- The seconds of an offset, when its fields are on the clock and it is not too great. -/
theorem seconds_signed_eq_ok_iff {written : String} {negative : Bool} {hours minutes seconds : Nat}
    {n : Int} : WrittenOffset.seconds (.signed written negative hours minutes seconds) = .ok n ↔
      (minutes ≤ 59 ∧ seconds ≤ 59) ∧ hours * 3600 + minutes * 60 + seconds ≤ 18 * 3600 ∧
        n = if negative then -((hours * 3600 + minutes * 60 + seconds : Nat) : Int)
          else (hours * 3600 + minutes * 60 + seconds : Nat) := by
  simp only [WrittenOffset.seconds]
  generalize hours * 3600 + minutes * 60 + seconds = total
  rw [← not_lt, ← not_lt, ← not_or, ← not_lt]
  by_cases hfields : 59 < minutes ∨ 59 < seconds
  · simp [hfields]
  · by_cases hmax : maxOffset < total
    · simp [hfields, hmax, show 18 * 3600 < total from hmax]
    · simp [hfields, hmax, show ¬18 * 3600 < total from hmax, eq_comm]

/-- The fields of an offset that is not too great stand for that offset. -/
theorem seconds_signed (written : String) (negative : Bool) {n : Nat} (h : n ≤ maxOffset) :
    WrittenOffset.seconds (.signed written negative (n / 3600) (n / 60 % 60) (n % 60)) =
      .ok (if negative then -(n : Int) else n) := by
  have hsum : n / 3600 * 3600 + n / 60 % 60 * 60 + n % 60 = n := by omega
  have hmax : n ≤ 18 * 3600 := h
  rw [seconds_signed_eq_ok_iff, hsum]
  exact ⟨by omega, hmax, rfl⟩

/-- **An offset is read back from its text,** when nothing follows that prolongs it. -/
theorem exists_readOffset {offset : Int} (h : offset.natAbs ≤ maxOffset) {rest : List Char}
    (hrest : EndsClock rest) :
    ∃ written, readOffset (offsetChars offset ++ rest) = some (written, rest) ∧
      written.seconds = .ok offset := by
  have htext := isOffsetText_clockChars h
  unfold offsetChars
  split_ifs with hneg
  · have hvalue : -(offset.natAbs : Int) = offset := by omega
    refine ⟨_, (IsWrittenOffset.signed (.inr rfl) htext).readOffset_append hrest, ?_⟩
    rw [seconds_signed _ _ h, if_pos (by decide), hvalue]
  · have hvalue : (offset.natAbs : Int) = offset := by omega
    refine ⟨_, (IsWrittenOffset.signed (.inl rfl) htext).readOffset_append hrest, ?_⟩
    rw [seconds_signed _ _ h, if_neg (by decide), hvalue]

/-- The text of a zone name: in brackets, nothing when there is none. -/
def zoneChars : Option String → List Char
  | none => []
  | some name => '[' :: name.toList ++ [']']

/-- A zone in brackets is read as its name, since no bracket ends it earlier; without one nothing is
read. -/
theorem readZone_zoneChars {zone : Option String}
    (h : ∀ name ∈ zone, Zone.IsBracketable name) :
    readZone (zoneChars zone) = (zone.map String.toList, []) := by
  cases zone with
  | none => rfl
  | some name =>
    obtain ⟨hne, hbracket⟩ := h name rfl
    have htake : (name.toList ++ [']']).takeWhile (· != ']') = name.toList := by
      rw [List.takeWhile_append_of_pos fun c hc => by
        simpa using fun h : c = ']' => hbracket (h ▸ hc)]
      simp
    rw [zoneChars, List.cons_append, readZone, htake, List.drop_left]
    cases hname : name.toList with
    | nil => exact absurd (String.toList_eq_nil_iff.1 hname) hne
    | cons c cs => simp [hname]

/-- A zone in brackets ends the offset before it. -/
theorem endsClock_zoneChars (zone : Option String) : EndsClock (zoneChars zone) := by
  cases zone with
  | none => exact endsClock_nil
  | some name => exact endsClock_cons _ (by decide)

/-- The offset behind a date with time does not prolong the time. -/
theorem endsClock_offsetChars (offset : Int) (rest : List Char) :
    EndsClock (offsetChars offset ++ rest) := by
  unfold offsetChars
  split_ifs
  · exact endsClock_cons _ (by decide)
  · exact endsClock_cons _ (by decide)

/-- **The text of a date with offset and zone has the fields that were written.** -/
theorem readZoned_toChars (wall : DateTime) {offset : Int} (ho : offset.natAbs ≤ maxOffset)
    {zone : Option String} (hz : ∀ name ∈ zone, Zone.IsBracketable name) :
    ∃ written, written.seconds = .ok offset ∧
      readZoned (wall.toChars ++ offsetChars offset ++ zoneChars zone) =
        some ⟨dateFields wall.date, timeFields wall.time, written, zone.map String.toList⟩ := by
  obtain ⟨written, hread, hseconds⟩ := exists_readOffset ho (endsClock_zoneChars zone)
  refine ⟨written, hseconds, ?_⟩
  rw [readZoned, List.append_assoc, readDateTime_toChars wall (endsClock_offsetChars _ _)]
  simp only [Option.bind_eq_bind, Option.bind_some, hread, readZone_zoneChars hz, isLineEnd,
    if_true]

end Literal
end TypedInputs
