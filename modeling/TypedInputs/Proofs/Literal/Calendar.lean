/-
# What calendar texts denote

| text | denotes |
| --- | --- |
| `YYYY-MM-DD` | the date with these fields, if the Gregorian calendar has it |
| `HH:MM`, `HH:MM:SS`, `HH:MM:SS.f` | that many microseconds after midnight, if on the clock |
| date, `T`, time | both |

One line feed may follow each of them, and no other text is read. A fraction has up to nine digits,
and its microseconds are rounded down: the first six digits of it, with zeros for the missing ones,
are the number of its digits times a million over their power of ten (`microsecond_eq`).

Each reader leaves the end of a line alone, so a text is read to its end exactly when it is a line
of the grammar (`exists_read_iff`). A `T` stands in a date with time at one place only, so the line
is split there and both sides are read as they would be alone (`parseDateTime_append`).
-/

import TypedInputs.Proofs.Calendar.Count
import TypedInputs.Proofs.Calendar.Text
import TypedInputs.Proofs.Literal.Domain

namespace TypedInputs
namespace Calendar

/-- A leap year of the Gregorian calendar. -/
def IsLeapYear (year : Nat) : Prop := 4 ∣ year ∧ (100 ∣ year → 400 ∣ year)

/-- The fields of a date of the Gregorian calendar. -/
structure IsGregorian (year month day : Nat) : Prop where
  year_pos : 1 ≤ year
  month_mem : 1 ≤ month ∧ month ≤ 12
  day_mem : 1 ≤ day ∧ day ≤ 31
  short_month : month ∈ [4, 6, 9, 11] → day ≤ 30
  february : month = 2 → day ≤ 28 ∨ day = 29 ∧ IsLeapYear year

/-- The calendar's leap years are those of the rules. -/
theorem Date.isLeap_eq_true {year : Nat} : isLeap year = true ↔ IsLeapYear year := by
  rw [Date.isLeap_iff, IsLeapYear]
  omega

/-- The days of a month by the rules of the Gregorian calendar. -/
theorem daysInMonth_eq (year month : Nat) :
    daysInMonth year month =
      if month = 2 then (if isLeap year then 29 else 28)
      else if month ∈ [4, 6, 9, 11] then 30 else 31 := by
  unfold daysInMonth
  split <;> simp_all

/-- **The calendar has the Gregorian dates** up to its last year. -/
theorem isDate_iff {year month day : Nat} :
    IsDate year month day ↔ year ≤ maxYear ∧ IsGregorian year month day := by
  have hleap : isLeap year = true ↔ IsLeapYear year := Date.isLeap_eq_true
  rw [IsDate, daysInMonth_eq]
  constructor
  · rintro ⟨hyear, hmax, hmonth, hmonth', hday, hday'⟩
    refine ⟨hmax, hyear, ⟨hmonth, hmonth'⟩, ⟨hday, ?_⟩, fun hshort => ?_, fun hfebruary => ?_⟩
    · split_ifs at hday' <;> omega
    · rw [if_neg (by rintro rfl; exact absurd hshort (by decide)), if_pos hshort] at hday'
      exact hday'
    · rw [if_pos hfebruary] at hday'
      split_ifs at hday' with h
      · by_cases hlast : day = 29
        · exact .inr ⟨hlast, hleap.1 h⟩
        · exact .inl (by omega)
      · exact .inl hday'
  · rintro ⟨hmax, hyear, hmonth, hday, hshort, hfebruary⟩
    refine ⟨hyear, hmax, hmonth.1, hmonth.2, hday.1, ?_⟩
    split_ifs with h h' h'
    · rcases hfebruary h with hle | ⟨rfl, -⟩ <;> omega
    · rcases hfebruary h with hle | ⟨-, hyear⟩
      · exact hle
      · exact absurd (hleap.2 hyear) h'
    · exact hshort h'
    · exact hday.2

/-- A time is made of just its own fields, of the microseconds those within a second. -/
theorem TimeOfDay.ofFields_eq_ok_iff {hour minute second microsecond : Nat} {t : TimeOfDay} :
    ofFields hour minute second microsecond = .ok t ↔
      t.hour = hour ∧ t.minute = minute ∧ t.second = second ∧
        t.microsecond = microsecond % 1000000 := by
  obtain ⟨hour', minute', second', microsecond', isTime⟩ := t
  constructor
  · intro h
    unfold ofFields at h
    split_ifs at h
    cases h
    exact ⟨rfl, rfl, rfl, rfl⟩
  · rintro ⟨rfl, rfl, rfl, hmicro⟩
    obtain rfl : microsecond' = microsecond % 1000000 := hmicro
    exact dif_pos isTime

/-- The microseconds since midnight. -/
def TimeOfDay.microseconds (t : TimeOfDay) : Nat := t.seconds * 1000000 + t.microsecond

end Calendar

namespace Literal

open Calendar Text

variable {text : List Char}

/-! ### Dates -/

/-- Fields make a date when they are its own. -/
theorem DateFields.toDate_eq_ok_iff {f : DateFields} {d : Date} :
    f.toDate = .ok d ↔ f = dateFields d := by
  constructor
  · intro h
    obtain ⟨hyear, hmonth, hday⟩ := Date.ofFields_eq_ok (mapError_eq_ok.1 h)
    rw [dateFields, hyear, hmonth, hday]
  · rintro rfl
    exact toDate_dateFields d

/-- A written date has a year of the calendar. -/
theorem IsDateText.year_le {f : DateFields} (h : IsDateText text f) : f.year ≤ maxYear := by
  obtain ⟨hy, -, -⟩ := h
  exact Nat.le_of_lt_succ hy.lt_pow

/-- **The fields of a written date are those of a date** exactly when they are Gregorian. -/
theorem IsDateText.exists_toDate_iff {f : DateFields} (h : IsDateText text f) :
    (∃ d, f.toDate = .ok d) ↔ IsGregorian f.year f.month f.day := by
  constructor
  · rintro ⟨d, hd⟩
    rw [DateFields.toDate_eq_ok_iff.1 hd]
    exact (isDate_iff.1 d.isDate).2
  · intro hgregorian
    exact ⟨⟨f.year, f.month, f.day, isDate_iff.2 ⟨h.year_le, hgregorian⟩⟩,
      DateFields.toDate_eq_ok_iff.2 rfl⟩

/-- **A text is a date when it is a line with a written one.** -/
theorem parseDate_eq_ok_iff {d : Date} : parseDate text = .ok d ↔
    ∃ body f, IsLine text body ∧ IsDateText body f ∧ f.toDate = .ok d := by
  rw [← exists_read_iff (fun h _ => h.readDate_append _) isDateText_of_readDate, parseDate]
  rcases readDate text with - | ⟨f, rest⟩
  · simp
  · cases hrest : isLineEnd rest <;> simp [hrest]

/-! ### Times of day -/

/-- The hour, minute and second of a written time are on the clock. -/
structure TimeFields.IsOnClock (f : TimeFields) : Prop where
  hour_le : f.hour ≤ 23
  minute_le : f.minute ≤ 59
  second_le : f.second ≤ 59

/-- The microseconds since midnight that a time is written with, rounded down. -/
def TimeFields.microseconds (f : TimeFields) : Nat :=
  ((f.hour * 60 + f.minute) * 60 + f.second) * 10 ^ 6 +
    ofDigits f.fraction * 10 ^ 6 / 10 ^ f.fraction.length

/-- **The microseconds of a fraction are rounded down.** -/
theorem microsecond_eq {fraction : List Nat} (h : ∀ d ∈ fraction, d < 10) :
    microsecond fraction = ofDigits fraction * 10 ^ 6 / 10 ^ fraction.length := by
  have hdigits : ∀ d ∈ fraction ++ List.replicate 6 0, d < 10 := by
    intro d hd
    rcases List.mem_append.1 hd with hd | hd
    · exact h d hd
    · rw [List.eq_of_mem_replicate hd]
      decide
  rw [microsecond, ofDigits_take hdigits, ofDigits_append, ofDigits_replicate_zero,
    List.length_append, List.length_replicate, Nat.add_sub_cancel, Nat.add_zero]

/-- The fraction of a time has decimal digits. -/
theorem IsTimeText.lt_ten {f : TimeFields} (h : IsTimeText text f) : ∀ d ∈ f.fraction, d < 10 := by
  obtain ⟨-, -, hs⟩ := h
  cases hs with
  | absent => simp
  | written _ hf =>
    cases hf with
    | absent => simp
    | written hf _ _ => exact fun d hd => hf.lt_ten hd

/-- A fraction is less than a second. -/
theorem microsecond_lt {fraction : List Nat} (h : ∀ d ∈ fraction, d < 10) :
    microsecond fraction < 1000000 := by
  rw [microsecond_eq h]
  exact Nat.div_lt_of_lt_mul (Nat.mul_lt_mul_of_pos_right (ofDigits_lt h) (by decide))

/-- **The fields of a written time are those of a time of day** exactly when they are on the
clock. -/
theorem TimeFields.toTime_eq_ok_iff {f : TimeFields} (h : ∀ d ∈ f.fraction, d < 10)
    {t : TimeOfDay} : f.toTime = .ok t ↔ f.IsOnClock ∧ t.microseconds = f.microseconds := by
  have hmicro := microsecond_lt h
  have hsum : f.microseconds =
      ((f.hour * 60 + f.minute) * 60 + f.second) * 10 ^ 6 + microsecond f.fraction := by
    rw [microsecond_eq h, TimeFields.microseconds]
  have hfits := t.isTime
  unfold IsTime at hfits
  rw [toTime, mapError_eq_ok, TimeOfDay.ofFields_eq_ok_iff, Nat.mod_eq_of_lt hmicro, hsum,
    TimeOfDay.microseconds, TimeOfDay.seconds]
  constructor
  · rintro ⟨hhour, hminute, hsecond, hfraction⟩
    rw [hhour, hminute, hsecond] at hfits
    exact ⟨⟨hfits.1, hfits.2.1, hfits.2.2.1⟩, by rw [hhour, hminute, hsecond, hfraction]; rfl⟩
  · rintro ⟨⟨hhour, hminute, hsecond⟩, heq⟩
    omega

/-- A time that is written is a time when the clock has its fields. -/
theorem IsTimeText.exists_toTime_iff {f : TimeFields} (h : IsTimeText text f) :
    (∃ t, f.toTime = .ok t) ↔ f.IsOnClock := by
  constructor
  · rintro ⟨t, ht⟩
    exact ((TimeFields.toTime_eq_ok_iff h.lt_ten).1 ht).1
  · rintro ⟨hhour, hminute, hsecond⟩
    have htime : IsTime f.hour f.minute f.second (microsecond f.fraction) :=
      ⟨hhour, hminute, hsecond, microsecond_lt h.lt_ten⟩
    exact ⟨_, mapError_eq_ok.2 (TimeOfDay.ofFields_self ⟨_, _, _, _, htime⟩)⟩

/-- **A text is a time of day when it is a line with a written one.** -/
theorem parseTime_eq_ok_iff {t : TimeOfDay} : parseTime text = .ok t ↔
    ∃ body f, IsLine text body ∧ IsTimeText body f ∧ f.toTime = .ok t := by
  rw [← exists_read_iff (fun h hrest => h.readTime_append (endsClock_of_isLineEnd hrest))
    isTimeText_of_readTime, parseTime]
  rcases readTime text with - | ⟨f, rest⟩
  · simp
  · cases hrest : isLineEnd rest <;> simp [hrest]

/-! ### Dates with times -/

/-- A date and a time are made from their fields side by side. -/
theorem toDateTime_eq_ok_iff {d : DateFields} {t : TimeFields} {v : DateTime} :
    toDateTime d t = .ok v ↔ d.toDate = .ok v.date ∧ t.toTime = .ok v.time := by
  obtain ⟨date', time'⟩ := v
  unfold toDateTime
  cases d.toDate with
  | error fault => simp [bind, Except.bind]
  | ok date =>
    cases t.toTime with
    | error fault => simp [bind, Except.bind]
    | ok time => simp [bind, Except.bind, pure, Except.pure]

/-- **A text is a date with time when it is a line with a written one.** -/
theorem parseDateTime_eq_ok_iff {v : DateTime} : parseDateTime text = .ok v ↔
    ∃ body f, IsLine text body ∧ IsDateTimeText body f ∧ toDateTime f.1 f.2 = .ok v := by
  rw [← exists_read_iff (fun h hrest => h.readDateTime_append (endsClock_of_isLineEnd hrest))
    isDateTimeText_of_readDateTime, parseDateTime]
  rcases readDateTime text with - | ⟨⟨d, t⟩, rest⟩
  · simp
  · cases hrest : isLineEnd rest <;> simp [hrest]

/-- **A date with time is split at its `T`,** and both sides are read as they would be alone. -/
theorem parseDateTime_append {d t : List Char} {v : DateTime} :
    parseDateTime (d ++ 'T' :: t) = .ok v ↔
      (parseDate d = .ok v.date ∧ d.getLast? ≠ some '\n') ∧ parseTime t = .ok v.time := by
  rw [parseDateTime_eq_ok_iff, parseDate_eq_ok_iff, parseTime_eq_ok_iff]
  constructor
  · rintro ⟨_, _, hwhole, @⟨d', t', date, time, hd, ht⟩, hvalue⟩
    obtain ⟨hdate, htime⟩ := toDateTime_eq_ok_iff.1 hvalue
    obtain ⟨rfl, hline⟩ := (isLine_append_cons (by decide) (hd.notMem (by decide))
      (ht.notMem (by decide))).1 hwhole
    have hlast : d.getLast? ≠ some '\n' := fun h =>
      hd.notMem (by decide) (List.mem_of_getLast? h)
    exact ⟨⟨⟨d, date, .inl rfl, hd, hdate⟩, hlast⟩, t', time, hline, ht, htime⟩
  · rintro ⟨⟨⟨d', date, hline, hd, hdate⟩, hlast⟩, t', time, hline', ht, htime⟩
    obtain rfl := hline.eq_of_getLast? hlast
    refine ⟨d ++ 'T' :: t', (date, time), ?_, .mk hd ht, toDateTime_eq_ok_iff.2 ⟨hdate, htime⟩⟩
    exact (isLine_append_cons (by decide) (hd.notMem (by decide)) (ht.notMem (by decide))).2
      ⟨rfl, hline'⟩

/-! ### What the texts denote -/

/-- **Calendar texts denote exactly their fields.** -/
theorem calendarTexts_denote :
    (∀ text, (∃ d, parseDate text = .ok d) ↔
      ∃ body f, IsLine text body ∧ IsDateText body f ∧ IsGregorian f.year f.month f.day) ∧
    (∀ text d, parseDate text = .ok d ↔
      ∃ body, IsLine text body ∧ IsDateText body ⟨d.year, d.month, d.day⟩) ∧
    (∀ text, (∃ t, parseTime text = .ok t) ↔
      ∃ body f, IsLine text body ∧ IsTimeText body f ∧ f.IsOnClock) ∧
    (∀ text t, parseTime text = .ok t ↔
      ∃ body f, IsLine text body ∧ IsTimeText body f ∧ f.IsOnClock ∧
        t.microseconds = f.microseconds) ∧
    ∀ d t v, parseDateTime (d ++ 'T' :: t) = .ok v ↔
      (parseDate d = .ok v.date ∧ d.getLast? ≠ some '\n') ∧ parseTime t = .ok v.time := by
  refine ⟨fun text => ?_, fun text d => ?_, fun text => ?_, fun text t => ?_,
    fun d t v => parseDateTime_append⟩
  · constructor
    · rintro ⟨d, hd⟩
      obtain ⟨body, f, hline, hbody, hvalue⟩ := parseDate_eq_ok_iff.1 hd
      exact ⟨body, f, hline, hbody, hbody.exists_toDate_iff.1 ⟨d, hvalue⟩⟩
    · rintro ⟨body, f, hline, hbody, hgregorian⟩
      obtain ⟨d, hd⟩ := hbody.exists_toDate_iff.2 hgregorian
      exact ⟨d, parseDate_eq_ok_iff.2 ⟨body, f, hline, hbody, hd⟩⟩
  · rw [parseDate_eq_ok_iff]
    simp only [DateFields.toDate_eq_ok_iff, dateFields, exists_eq_right, ← and_assoc]
  · constructor
    · rintro ⟨t, ht⟩
      obtain ⟨body, f, hline, hbody, hvalue⟩ := parseTime_eq_ok_iff.1 ht
      exact ⟨body, f, hline, hbody, hbody.exists_toTime_iff.1 ⟨t, hvalue⟩⟩
    · rintro ⟨body, f, hline, hbody, hclock⟩
      obtain ⟨t, ht⟩ := hbody.exists_toTime_iff.2 hclock
      exact ⟨t, parseTime_eq_ok_iff.2 ⟨body, f, hline, hbody, ht⟩⟩
  · rw [parseTime_eq_ok_iff]
    refine exists₂_congr fun body f => and_congr_right fun _ => and_congr_right fun hbody => ?_
    exact TimeFields.toTime_eq_ok_iff hbody.lt_ten

example : (parseTime "23:59:59.999999999\n".toList).map TimeOfDay.microseconds =
    .ok 86399999999 := by decide

end Literal
end TypedInputs
