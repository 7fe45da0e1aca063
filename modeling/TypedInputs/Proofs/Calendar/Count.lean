/-
# Counting days and seconds

The ordinals of the calendar are 1 to 3652059, and `Date.ofOrdinal?` finds the date of each of them
(`Date.exists_ofOrdinal?`): the estimate of the year is off by one at most (`yearOfOrdinal_spec`),
and the months of a year divide its days (`monthOfDay_spec`). Date and ordinal determine each other
(`Date.ordinal_of_ofOrdinal?`, `Date.eq_of_ordinal_eq`).

With the time of day this says that seconds are counted back and forth: a reading that is made of
seconds has them (`DateTime.seconds_of_ofSeconds?`), there is one for every second of the calendar
(`DateTime.exists_ofSeconds?`), and but for microseconds it is the only one
(`DateTime.eq_of_seconds_eq`).
-/

import Mathlib.Tactic.Linarith
import TypedInputs.Calendar.DateTime

namespace TypedInputs
namespace Calendar

/-- The ordinal of the last day of the calendar. -/
def maxOrdinal : Nat := 3652059

namespace Date

/-! ### Years -/

/-- How many days a year has. -/
def daysInYear (year : Nat) : Nat := if isLeap year then 366 else 365

/-- The leap years of the Gregorian calendar. -/
theorem isLeap_iff {year : Nat} :
    isLeap year = true ↔ year % 4 = 0 ∧ (year % 100 ≠ 0 ∨ year % 400 = 0) := by
  simp [isLeap]

/-- The days before the next year are those before a year and its own. -/
theorem daysBeforeYear_succ {year : Nat} (h : 1 ≤ year) :
    daysBeforeYear (year + 1) = daysBeforeYear year + daysInYear year := by
  obtain ⟨y, rfl⟩ := Nat.exists_eq_add_of_le' h
  have h4 : (y + 1) / 4 = y / 4 + if (y + 1) % 4 = 0 then 1 else 0 := by split_ifs <;> omega
  have h100 : (y + 1) / 100 = y / 100 + if (y + 1) % 100 = 0 then 1 else 0 := by
    split_ifs <;> omega
  have h400 : (y + 1) / 400 = y / 400 + if (y + 1) % 400 = 0 then 1 else 0 := by
    split_ifs <;> omega
  have hle : y / 100 ≤ y := Nat.div_le_self y 100
  have himp : (y + 1) % 400 = 0 → (y + 1) % 100 = 0 := by omega
  have himp' : (y + 1) % 100 = 0 → (y + 1) % 4 = 0 := by omega
  simp only [daysBeforeYear, daysInYear, isLeap_iff, Nat.add_sub_cancel, h4, h100, h400]
  generalize y / 4 = a, y / 100 = b, y / 400 = c at *
  generalize (y + 1) % 4 = u, (y + 1) % 100 = v, (y + 1) % 400 = w at *
  split_ifs <;> omega

/-- Before a later year there are no fewer days. -/
theorem daysBeforeYear_mono {a b : Nat} (ha : 1 ≤ a) (h : a ≤ b) :
    daysBeforeYear a ≤ daysBeforeYear b := by
  induction h with
  | refl => exact Nat.le_refl _
  | step hb ih =>
    rw [daysBeforeYear_succ (Nat.le_trans ha hb)]
    omega

/-- A year has 146097 / 400 days, less than two days more or less over all years. -/
theorem daysBeforeYear_bounds (k : Nat) :
    146097 * k ≤ 400 * daysBeforeYear (k + 1) + 699 ∧
      400 * daysBeforeYear (k + 1) ≤ 146097 * k + 396 := by
  unfold daysBeforeYear
  omega

/-- **The estimate finds the year** whose days an ordinal is among. -/
theorem yearOfOrdinal_spec {n : Nat} (h : 1 ≤ n) :
    1 ≤ yearOfOrdinal n ∧ daysBeforeYear (yearOfOrdinal n) < n ∧
      n ≤ daysBeforeYear (yearOfOrdinal n + 1) := by
  unfold yearOfOrdinal
  generalize hq : (n - 1) * 400 / 146097 = q
  simp only
  split_ifs with hnext hnear
  · have hlate := (daysBeforeYear_bounds (q + 2)).1
    have hyear : q + 1 + 1 + 1 = q + 2 + 1 := rfl
    rw [hyear]
    omega
  · omega
  · obtain _ | q := q
    · exact absurd h (by simp [daysBeforeYear] at hnear; omega)
    · have hearly := (daysBeforeYear_bounds q).2
      simp only [Nat.add_sub_cancel]
      omega

/-! ### Months -/

/-- The days before the next month are those before a month and its own. -/
theorem daysBeforeMonth_succ (year : Nat) {month : Nat} (h : 1 ≤ month) :
    daysBeforeMonth year (month + 1) = daysBeforeMonth year month + daysInMonth year month := by
  obtain ⟨m, rfl⟩ := Nat.exists_eq_add_of_le' h
  simp only [daysBeforeMonth, Nat.add_sub_cancel, List.range_succ, List.foldl_append,
    List.foldl_cons, List.foldl_nil]

theorem daysBeforeMonth_one (year : Nat) : daysBeforeMonth year 1 = 0 := rfl

/-- The months have the days of the year. -/
theorem daysBeforeMonth_thirteen (year : Nat) : daysBeforeMonth year 13 = daysInYear year := by
  unfold daysInYear
  cases hleap : isLeap year <;> simp [daysBeforeMonth, daysInMonth, List.range_succ, hleap]

/-- Before a later month there are no fewer days. -/
theorem daysBeforeMonth_mono {year a b : Nat} (ha : 1 ≤ a) (h : a ≤ b) :
    daysBeforeMonth year a ≤ daysBeforeMonth year b := by
  induction h with
  | refl => exact Nat.le_refl _
  | step hb ih =>
    rw [daysBeforeMonth_succ year (Nat.le_trans ha hb)]
    omega

/-- The last number below `n` that has a property, found from above. -/
theorem find?_reverse_range {p : Nat → Bool} {n m : Nat}
    (h : (List.range n).reverse.find? p = some m) :
    m < n ∧ p m = true ∧ ∀ k, m < k → k < n → p k = false := by
  induction n with
  | zero => exact absurd h (by simp)
  | succ n ih =>
    rw [List.range_succ, List.reverse_append, List.reverse_singleton, List.singleton_append,
      List.find?_cons] at h
    cases hn : p n with
    | true =>
      rw [hn] at h
      obtain rfl := Option.some.inj h
      exact ⟨Nat.lt_succ_self n, hn, fun k hk hk' => by omega⟩
    | false =>
      rw [hn] at h
      obtain ⟨hm, hpm, hnot⟩ := ih h
      refine ⟨by omega, hpm, fun k hk hk' => ?_⟩
      rcases Nat.lt_or_ge k n with hkn | hkn
      · exact hnot k hk hkn
      · rwa [show k = n by omega]

/-- **The search finds the month** whose days a day of the year is among. -/
theorem monthOfDay_spec {year day : Nat} (h : 1 ≤ day) (h' : day ≤ daysInYear year) :
    1 ≤ monthOfDay year day ∧ monthOfDay year day ≤ 12 ∧
      daysBeforeMonth year (monthOfDay year day) < day ∧
      day ≤ daysBeforeMonth year (monthOfDay year day + 1) := by
  unfold monthOfDay
  cases hfind : (List.range 12).reverse.find?
      fun m => decide (daysBeforeMonth year (m + 1) < day) with
  | none =>
    have hjanuary := List.find?_eq_none.1 hfind 0 (by decide)
    rw [decide_eq_true_iff, daysBeforeMonth_one] at hjanuary
    exact absurd h hjanuary
  | some m =>
    obtain ⟨hm, hbefore, hnext⟩ := find?_reverse_range hfind
    rw [decide_eq_true_iff] at hbefore
    refine ⟨Nat.le_add_left 1 m, hm, hbefore, ?_⟩
    rw [Option.getD_some]
    rcases Nat.lt_or_ge (m + 1) 12 with hlt | hge
    · have hnot := hnext (m + 1) (by omega) hlt
      rw [decide_eq_false_iff_not] at hnot
      omega
    · rw [show m + 1 + 1 = 13 by omega, daysBeforeMonth_thirteen]
      exact h'

/-! ### Ordinals -/

/-- A date that is made of fields has these fields. -/
theorem ofFields_eq_ok {year month day : Nat} {d : Date} (h : ofFields year month day = .ok d) :
    d.year = year ∧ d.month = month ∧ d.day = day := by
  unfold ofFields at h
  split_ifs at h
  cases h
  exact ⟨rfl, rfl, rfl⟩

/-- **The calendar has a date for each of its ordinals.** -/
theorem exists_ofOrdinal? {n : Nat} (h : 1 ≤ n) (h' : n ≤ maxOrdinal) :
    ∃ d, ofOrdinal? n = some d := by
  obtain ⟨hyear, hbefore, hafter⟩ := yearOfOrdinal_spec h
  have hmax : yearOfOrdinal n ≤ maxYear := by
    by_contra hgt
    have hmono : daysBeforeYear (maxYear + 1) ≤ daysBeforeYear (yearOfOrdinal n) :=
      daysBeforeYear_mono (by decide) (Nat.lt_of_not_le hgt)
    have hend : daysBeforeYear (maxYear + 1) = maxOrdinal := by decide
    omega
  rw [daysBeforeYear_succ hyear] at hafter
  have hday : 1 ≤ n - daysBeforeYear (yearOfOrdinal n) := by omega
  have hday' : n - daysBeforeYear (yearOfOrdinal n) ≤ daysInYear (yearOfOrdinal n) := by omega
  obtain ⟨hmonth, hmonth', hbegun, hends⟩ := monthOfDay_spec hday hday'
  rw [daysBeforeMonth_succ _ hmonth] at hends
  have hdate : IsDate (yearOfOrdinal n)
      (monthOfDay (yearOfOrdinal n) (n - daysBeforeYear (yearOfOrdinal n)))
      (n - daysBeforeYear (yearOfOrdinal n) - daysBeforeMonth (yearOfOrdinal n)
        (monthOfDay (yearOfOrdinal n) (n - daysBeforeYear (yearOfOrdinal n)))) :=
    ⟨hyear, hmax, hmonth, hmonth', by omega, by omega⟩
  exact ⟨_, by simp only [ofOrdinal?, ofFields, dif_pos hdate]; rfl⟩

/-- **A date that is found by its ordinal has it.** -/
theorem ordinal_of_ofOrdinal? {n : Nat} {d : Date} (h : ofOrdinal? n = some d) :
    d.ordinal = n := by
  unfold ofOrdinal? at h
  simp only at h
  cases hfields : ofFields (yearOfOrdinal n)
      (monthOfDay (yearOfOrdinal n) (n - daysBeforeYear (yearOfOrdinal n)))
      (n - daysBeforeYear (yearOfOrdinal n) - daysBeforeMonth (yearOfOrdinal n)
        (monthOfDay (yearOfOrdinal n) (n - daysBeforeYear (yearOfOrdinal n)))) with
  | error fault =>
    rw [hfields] at h
    exact absurd h (by simp [Except.toOption])
  | ok found =>
    rw [hfields] at h
    obtain rfl := Option.some.inj h
    obtain ⟨hyear, hmonth, hday⟩ := ofFields_eq_ok hfields
    have hpos := found.isDate.2.2.2.2.1
    rw [ordinal, hyear, hmonth]
    omega

/-- A date is among the days of its year. -/
theorem ordinal_bounds (d : Date) :
    daysBeforeYear d.year < d.ordinal ∧ d.ordinal ≤ daysBeforeYear (d.year + 1) := by
  obtain ⟨hyear, -, hmonth, hmonth', hday, hday'⟩ := d.isDate
  have hmonths : daysBeforeMonth d.year (d.month + 1) ≤ daysBeforeMonth d.year 13 :=
    daysBeforeMonth_mono (Nat.le_add_left 1 _) (Nat.succ_le_succ hmonth')
  rw [daysBeforeMonth_succ _ hmonth, daysBeforeMonth_thirteen] at hmonths
  rw [daysBeforeYear_succ hyear]
  unfold ordinal
  omega

/-- Every date has a number in the calendar. -/
theorem ordinal_mem (d : Date) : 1 ≤ d.ordinal ∧ d.ordinal ≤ maxOrdinal := by
  obtain ⟨hbefore, hafter⟩ := d.ordinal_bounds
  have hlast : daysBeforeYear (d.year + 1) ≤ daysBeforeYear (maxYear + 1) :=
    daysBeforeYear_mono (Nat.le_add_left 1 _) (Nat.succ_le_succ d.isDate.2.1)
  have hend : daysBeforeYear (maxYear + 1) = maxOrdinal := by decide
  omega

/-- A date that is not later has no later year. -/
theorem year_le_of_ordinal_le {a b : Date} (h : a.ordinal ≤ b.ordinal) : a.year ≤ b.year := by
  by_contra hlt
  have hyears : daysBeforeYear (b.year + 1) ≤ daysBeforeYear a.year :=
    daysBeforeYear_mono (Nat.le_add_left 1 _) (Nat.lt_of_not_le hlt)
  have ha := a.ordinal_bounds
  have hb := b.ordinal_bounds
  omega

/-- In one year, a date that is not later has no later month. -/
theorem month_le_of_ordinal_le {a b : Date} (hyear : a.year = b.year)
    (h : a.ordinal ≤ b.ordinal) : a.month ≤ b.month := by
  by_contra hlt
  have hmonths : daysBeforeMonth b.year (b.month + 1) ≤ daysBeforeMonth b.year a.month :=
    daysBeforeMonth_mono (Nat.le_add_left 1 _) (Nat.lt_of_not_le hlt)
  obtain ⟨-, -, -, -, hday, -⟩ := a.isDate
  obtain ⟨-, -, hmonth, -, -, hday'⟩ := b.isDate
  rw [daysBeforeMonth_succ _ hmonth] at hmonths
  unfold ordinal at h
  rw [hyear] at h
  omega

/-- **An ordinal belongs to one date.** -/
theorem eq_of_ordinal_eq {a b : Date} (h : a.ordinal = b.ordinal) : a = b := by
  have hyear : a.year = b.year :=
    Nat.le_antisymm (year_le_of_ordinal_le h.le) (year_le_of_ordinal_le h.ge)
  have hmonth : a.month = b.month :=
    Nat.le_antisymm (month_le_of_ordinal_le hyear h.le) (month_le_of_ordinal_le hyear.symm h.ge)
  unfold ordinal at h
  rw [hyear, hmonth, Nat.add_left_cancel_iff] at h
  obtain ⟨year, month, day, isDate⟩ := a
  obtain rfl := hyear
  obtain rfl := hmonth
  obtain rfl := h
  rfl

end Date

/-! ### Seconds -/

/-- A time is within its day. -/
theorem TimeOfDay.seconds_lt (t : TimeOfDay) : t.seconds < 86400 := by
  obtain ⟨hhour, hminute, hsecond, -⟩ := t.isTime
  unfold TimeOfDay.seconds
  omega

/-- A time that is made of the seconds of a day has as many. -/
theorem TimeOfDay.ofSeconds?_eq_some {seconds microsecond : Nat} {t : TimeOfDay}
    (h : TimeOfDay.ofSeconds? seconds microsecond = some t) :
    t.seconds = seconds ∧ t.microsecond = microsecond % 1000000 := by
  unfold TimeOfDay.ofSeconds? TimeOfDay.ofFields at h
  split_ifs at h
  · cases h
    exact ⟨by simp only [TimeOfDay.seconds]; omega, rfl⟩
  all_goals exact absurd h (by simp [Except.toOption])

/-- Every second of a day is one of a time. -/
theorem TimeOfDay.exists_ofSeconds? {seconds : Nat} (h : seconds < 86400) (microsecond : Nat) :
    ∃ t, TimeOfDay.ofSeconds? seconds microsecond = some t := by
  have htime : IsTime (seconds / 3600) (seconds / 60 % 60) (seconds % 60)
      (microsecond % 1000000) := ⟨by omega, by omega, by omega, by omega⟩
  exact ⟨_, by simp only [TimeOfDay.ofSeconds?, TimeOfDay.ofFields, dif_pos htime]; rfl⟩

/-- Seconds and microseconds belong to one time of day. -/
theorem TimeOfDay.eq_of_seconds_eq {a b : TimeOfDay} (h : a.seconds = b.seconds)
    (hmicro : a.microsecond = b.microsecond) : a = b := by
  obtain ⟨hour, minute, second, microsecond, isTime⟩ := a
  obtain ⟨hour', minute', second', microsecond', isTime'⟩ := b
  have hfields : hour = hour' ∧ minute = minute' ∧ second = second' := by
    have hfits := isTime
    have hfits' := isTime'
    unfold IsTime at hfits hfits'
    unfold TimeOfDay.seconds at h
    dsimp only at h
    omega
  obtain ⟨rfl, rfl, rfl⟩ := hfields
  obtain rfl : microsecond = microsecond' := hmicro
  rfl

namespace DateTime

/-- A reading is within the calendar. -/
theorem seconds_mem (t : DateTime) : firstSecond ≤ t.seconds ∧ t.seconds ≤ lastSecond := by
  have hdate := t.date.ordinal_mem
  have htime := t.time.seconds_lt
  unfold maxOrdinal at hdate
  unfold seconds firstSecond lastSecond epochOrdinal secondsPerDay
  omega

/-- **There is a reading for every second of the calendar.** -/
theorem exists_ofSeconds? {n : Int} (h : firstSecond ≤ n) (h' : n ≤ lastSecond)
    (microsecond : Nat) : ∃ t, ofSeconds? n microsecond = some t := by
  unfold firstSecond epochOrdinal secondsPerDay at h
  unfold lastSecond epochOrdinal secondsPerDay at h'
  have hfirst : 1 ≤ (n / 86400 + 719163).toNat := by omega
  have hlast : (n / 86400 + 719163).toNat ≤ maxOrdinal := by
    unfold maxOrdinal
    omega
  have htime : (n % 86400).toNat < 86400 := by omega
  obtain ⟨date, hdate⟩ := Date.exists_ofOrdinal? hfirst hlast
  obtain ⟨time, htime⟩ := TimeOfDay.exists_ofSeconds? htime microsecond
  refine ⟨⟨date, time⟩, ?_⟩
  simp only [ofSeconds?, secondsPerDay, epochOrdinal, hdate, htime, Option.bind_eq_bind,
    Option.bind_some]

/-- **A reading that is made of seconds has them.** -/
theorem seconds_of_ofSeconds? {n : Int} {microsecond : Nat} {t : DateTime}
    (h : ofSeconds? n microsecond = some t) (hm : microsecond < 1000000) :
    t.seconds = n ∧ t.time.microsecond = microsecond := by
  simp only [ofSeconds?, Option.bind_eq_bind, Option.bind_eq_some_iff] at h
  obtain ⟨date, hdate, time, htime, heq⟩ := h
  obtain rfl := Option.some.inj heq
  have hordinal := Date.ordinal_of_ofOrdinal? hdate
  obtain ⟨hseconds, hmicro⟩ := TimeOfDay.ofSeconds?_eq_some htime
  have hpos := date.ordinal_mem.1
  refine ⟨?_, by rw [hmicro, Nat.mod_eq_of_lt hm]⟩
  rw [seconds, hordinal, hseconds]
  unfold secondsPerDay epochOrdinal at *
  omega

/-- **Seconds and microseconds belong to one reading.** -/
theorem eq_of_seconds_eq {a b : DateTime} (h : a.seconds = b.seconds)
    (hmicro : a.time.microsecond = b.time.microsecond) : a = b := by
  have ha := a.time.seconds_lt
  have hb := b.time.seconds_lt
  unfold seconds secondsPerDay at h
  obtain ⟨date, time⟩ := a
  obtain ⟨date', time'⟩ := b
  dsimp only at h ha hb
  obtain rfl : date = date' := Date.eq_of_ordinal_eq (by omega)
  obtain rfl : time = time' := TimeOfDay.eq_of_seconds_eq (by omega) hmicro
  rfl

end DateTime
end Calendar
end TypedInputs
