/-
# The grammar of dates, times and offsets

| relation | texts |
| --- | --- |
| `IsField n` | a number in `n` digits |
| `IsDateText` | year, month and day, with hyphens between them |
| `IsFractionText` | nothing; a point and one to nine digits |
| `IsSecondsText` | nothing; a colon, the second and a fraction |
| `IsTimeText` | hour, colon, minute and seconds |
| `IsDateTimeText` | a date, `T` and a time of day |
| `IsOffsetText` | hours, colon, minutes and maybe a colon and seconds |
| `IsWrittenOffset` | `Z`; a sign and such a text |

Each reader takes what its relation has and leaves the rest, when the rest does not prolong it
(`_append`), and it takes nothing else (`_of_read`). What prolongs a time of day is a digit, a point
or a colon.
-/

import TypedInputs.Literal.Calendar
import TypedInputs.Proofs.Text.Grammar

namespace TypedInputs
namespace Literal

open Calendar Text

/-- A number written in so many digits. -/
inductive IsField (width : Nat) : List Char → Nat → Prop
  | mk {text : List Char} {digits : List Nat} (h : Spells text digits)
      (hwidth : text.length = width) : IsField width text (ofDigits digits)

/-- A written date. -/
inductive IsDateText : List Char → DateFields → Prop
  | mk {y m d : List Char} {year month day : Nat} (hy : IsField 4 y year) (hm : IsField 2 m month)
      (hd : IsField 2 d day) : IsDateText (y ++ '-' :: (m ++ '-' :: d)) ⟨year, month, day⟩

/-- A written fraction of a second, maybe left out, and its digits. -/
inductive IsFractionText : List Char → List Nat → Prop
  | absent : IsFractionText [] []
  | written {f : List Char} {digits : List Nat} (hf : Spells f digits) (hpos : 1 ≤ digits.length)
      (hle : digits.length ≤ 9) : IsFractionText ('.' :: f) digits

/-- A written second with its fraction, maybe left out. -/
inductive IsSecondsText : List Char → Nat → List Nat → Prop
  | absent : IsSecondsText [] 0 []
  | written {s f : List Char} {second : Nat} {digits : List Nat} (hs : IsField 2 s second)
      (hf : IsFractionText f digits) : IsSecondsText (':' :: (s ++ f)) second digits

/-- A written time of day. -/
inductive IsTimeText : List Char → TimeFields → Prop
  | mk {h m s : List Char} {hour minute second : Nat} {fraction : List Nat} (hh : IsField 2 h hour)
      (hm : IsField 2 m minute) (hs : IsSecondsText s second fraction) :
      IsTimeText (h ++ ':' :: (m ++ s)) ⟨hour, minute, second, fraction⟩

/-- A written date with time. -/
inductive IsDateTimeText : List Char → DateFields × TimeFields → Prop
  | mk {d t : List Char} {date : DateFields} {time : TimeFields} (hd : IsDateText d date)
      (ht : IsTimeText t time) : IsDateTimeText (d ++ 'T' :: t) (date, time)

/-- The hours, minutes and seconds of an offset as they are written behind its sign. -/
inductive IsOffsetText : List Char → Nat → Nat → Nat → Prop
  | minutes {h m : List Char} {hours minutes : Nat} (hh : IsField 2 h hours)
      (hm : IsField 2 m minutes) : IsOffsetText (h ++ ':' :: m) hours minutes 0
  | seconds {h m s : List Char} {hours minutes seconds : Nat} (hh : IsField 2 h hours)
      (hm : IsField 2 m minutes) (hs : IsField 2 s seconds) :
      IsOffsetText (h ++ ':' :: (m ++ ':' :: s)) hours minutes seconds

/-- A written offset with its sign, whatever its hours, minutes and seconds are. -/
inductive IsWrittenOffset : List Char → WrittenOffset → Prop
  | utc : IsWrittenOffset ['Z'] .utc
  | signed {sign : Char} {text : List Char} {hours minutes seconds : Nat}
      (hsign : sign = '+' ∨ sign = '-') (h : IsOffsetText text hours minutes seconds) :
      IsWrittenOffset (sign :: text)
        (.signed (String.ofList (sign :: text)) (sign == '-') hours minutes seconds)

/-- A text that does not prolong a time of day. -/
def FollowsTime (text : List Char) : Prop := StartsWithoutDigit text ∧ text.head? ≠ some '.'

/-- A text that prolongs neither a time of day without seconds nor an offset. -/
def EndsClock (text : List Char) : Prop := FollowsTime text ∧ text.head? ≠ some ':'

theorem endsClock_nil : EndsClock [] := ⟨⟨startsWithoutDigit_nil, by simp⟩, by simp⟩

/-- A character that no time goes on with ends it. -/
theorem endsClock_cons {c : Char} (rest : List Char)
    (h : digitValue? c = none ∧ c ≠ '.' ∧ c ≠ ':') : EndsClock (c :: rest) :=
  ⟨⟨startsWithoutDigit_cons h.1, by simpa using h.2.1⟩, by simpa using h.2.2⟩

/-- The end of a line ends a time. -/
theorem endsClock_of_isLineEnd {rest : List Char} (h : isLineEnd rest = true) : EndsClock rest := by
  rcases isLineEnd_iff.1 h with rfl | rfl
  · exact endsClock_nil
  · exact endsClock_cons [] (by decide)

/-! ### Fields -/

variable {text rest : List Char}

/-- A field of digits is read, whatever follows it. -/
theorem IsField.exists_takeDigits {width value : Nat} (h : IsField width text value)
    (rest : List Char) :
    ∃ digits, takeDigits width (text ++ rest) = some (digits, rest) ∧ ofDigits digits = value := by
  obtain ⟨hspells, rfl⟩ := h
  exact ⟨_, hspells.takeDigits_append rest, rfl⟩

/-- The digits that are read are a field. -/
theorem isField_of_takeDigits {width : Nat} {digits : List Nat}
    (h : takeDigits width text = some (digits, rest)) :
    ∃ t, text = t ++ rest ∧ IsField width t (ofDigits digits) := by
  obtain ⟨t, rfl, ht⟩ := spells_of_takeDigits h
  exact ⟨t, rfl, .mk ht (ht.length_eq.trans (length_of_takeDigits h))⟩

/-- A field has digits only. -/
theorem IsField.digitValue?_ne_none {width value : Nat} (h : IsField width text value) {c : Char}
    (hc : c ∈ text) : digitValue? c ≠ none := by
  obtain ⟨hspells, -⟩ := h
  exact hspells.digitValue?_ne_none hc

/-- A field has no more digits than its width. -/
theorem IsField.lt_pow {width value : Nat} (h : IsField width text value) : value < 10 ^ width := by
  obtain ⟨hspells, rfl⟩ := h
  rw [hspells.length_eq]
  exact ofDigits_lt fun d hd => hspells.lt_ten hd

/-- A character is dropped where it is the first one. -/
theorem dropChar?_eq_some_iff {c : Char} : dropChar? c text = some rest ↔ text = c :: rest := by
  cases text with
  | nil => simp [dropChar?]
  | cons d tail =>
    rw [dropChar?]
    split_ifs with h <;> simp [h]

@[simp] theorem dropChar?_cons_self (c : Char) (rest : List Char) :
    dropChar? c (c :: rest) = some rest := dropChar?_eq_some_iff.2 rfl

/-- No other character is dropped. -/
theorem dropChar?_eq_none {c : Char} (h : text.head? ≠ some c) : dropChar? c text = none := by
  cases text with
  | nil => rfl
  | cons d rest => simpa [dropChar?] using h

/-! ### Dates -/

/-- A date is written in digits and hyphens, so that a separator after it is none of its
characters. -/
theorem IsDateText.digit_or_hyphen {fields : DateFields} (h : IsDateText text fields) {c : Char}
    (hc : c ∈ text) : digitValue? c ≠ none ∨ c = '-' := by
  obtain ⟨hy, hm, hd⟩ := h
  simp only [List.mem_append, List.mem_cons] at hc
  obtain hc | rfl | hc | rfl | hc := hc
  · exact .inl (hy.digitValue?_ne_none hc)
  · exact .inr rfl
  · exact .inl (hm.digitValue?_ne_none hc)
  · exact .inr rfl
  · exact .inl (hd.digitValue?_ne_none hc)

/-- A character that is neither a digit nor a hyphen stands in no date. -/
theorem IsDateText.notMem {fields : DateFields} (h : IsDateText text fields) {c : Char}
    (hc : digitValue? c = none ∧ c ≠ '-') : c ∉ text := fun hmem =>
  (h.digit_or_hyphen hmem).elim (absurd hc.1) hc.2

/-- **A written date is read,** whatever follows. -/
theorem IsDateText.readDate_append {fields : DateFields} (h : IsDateText text fields)
    (rest : List Char) : readDate (text ++ rest) = some (fields, rest) := by
  obtain @⟨y, m, d, _, _, _, hy, hm, hd⟩ := h
  obtain ⟨years, hyear, rfl⟩ := hy.exists_takeDigits ('-' :: (m ++ '-' :: (d ++ rest)))
  obtain ⟨months, hmonth, rfl⟩ := hm.exists_takeDigits ('-' :: (d ++ rest))
  obtain ⟨days, hday, rfl⟩ := hd.exists_takeDigits rest
  simp only [readDate, List.append_assoc, List.cons_append, hyear, hmonth, hday,
    dropChar?_cons_self, Option.bind_eq_bind, Option.bind_some]

/-- What is read as a date is a written date. -/
theorem isDateText_of_readDate {fields : DateFields} (h : readDate text = some (fields, rest)) :
    ∃ t, text = t ++ rest ∧ IsDateText t fields := by
  simp only [readDate, Option.bind_eq_bind, Option.bind_eq_some_iff, dropChar?_eq_some_iff,
    Prod.exists, Option.some.injEq, Prod.mk.injEq] at h
  obtain ⟨years, _, hyear, _, rfl, months, _, hmonth, _, rfl, days, _, hday, rfl, rfl⟩ := h
  obtain ⟨y, rfl, hy⟩ := isField_of_takeDigits hyear
  obtain ⟨m, rfl, hm⟩ := isField_of_takeDigits hmonth
  obtain ⟨d, rfl, hd⟩ := isField_of_takeDigits hday
  exact ⟨y ++ '-' :: (m ++ '-' :: d), by simp, .mk hy hm hd⟩

/-! ### Times of day -/

/-- Without a point there is no fraction. -/
theorem readFraction_of_head? (h : text.head? ≠ some '.') : readFraction text = ([], text) := by
  unfold readFraction
  split
  · exact absurd rfl h
  · rfl

/-- A written fraction is read. -/
theorem IsFractionText.readFraction_append {digits : List Nat} (h : IsFractionText text digits)
    (hrest : FollowsTime rest) : readFraction (text ++ rest) = (digits, rest) := by
  cases h with
  | absent => exact readFraction_of_head? hrest.2
  | written hf hpos hle =>
    rw [List.cons_append, readFraction, hf.spanDigits_append hrest.1]
    exact if_pos ⟨hpos, hle⟩

/-- What is read as a fraction is a written fraction. -/
theorem isFractionText_of_readFraction {digits : List Nat}
    (h : readFraction text = (digits, rest)) :
    ∃ t, text = t ++ rest ∧ IsFractionText t digits := by
  have hnone : ([], text) = (digits, rest) → ∃ t, text = t ++ rest ∧ IsFractionText t digits := by
    intro heq
    obtain ⟨rfl, rfl⟩ := Prod.mk.inj heq
    exact ⟨[], rfl, .absent⟩
  unfold readFraction at h
  split at h
  · rename_i tail
    rcases hspan : spanDigits tail with ⟨ds, left⟩
    rw [hspan] at h
    dsimp only at h
    split_ifs at h with hlength
    · obtain ⟨rfl, rfl⟩ := Prod.mk.inj h
      obtain ⟨f, rfl, hf, -⟩ := spells_of_spanDigits hspan
      exact ⟨'.' :: f, rfl, .written hf hlength.1 hlength.2⟩
    · exact hnone h
  · exact hnone h

/-- A colon without two digits behind it opens no seconds. -/
theorem readSeconds_of_head? (h : text.head? ≠ some ':') : readSeconds text = ((0, []), text) := by
  rw [readSeconds, dropChar?_eq_none h, Option.bind_none]

/-- Written seconds are read. -/
theorem IsSecondsText.readSeconds_append {second : Nat} {fraction : List Nat}
    (h : IsSecondsText text second fraction) (hrest : EndsClock rest) :
    readSeconds (text ++ rest) = ((second, fraction), rest) := by
  cases h with
  | absent => exact readSeconds_of_head? hrest.2
  | @written s f _ _ hs hf =>
    obtain ⟨digits, hread, rfl⟩ := hs.exists_takeDigits (f ++ rest)
    simp only [readSeconds, List.cons_append, List.append_assoc, dropChar?_cons_self,
      Option.bind_some, hread, hf.readFraction_append hrest.1]

/-- What is read as seconds are written seconds. -/
theorem isSecondsText_of_readSeconds {second : Nat} {fraction : List Nat}
    (h : readSeconds text = ((second, fraction), rest)) :
    ∃ t, text = t ++ rest ∧ IsSecondsText t second fraction := by
  unfold readSeconds at h
  split at h
  · rename_i digits tail hread
    rw [Option.bind_eq_some_iff] at hread
    obtain ⟨behind, hcolon, htake⟩ := hread
    rw [dropChar?_eq_some_iff] at hcolon
    obtain ⟨s, rfl, hs⟩ := isField_of_takeDigits htake
    rcases hfraction : readFraction tail with ⟨ds, left⟩
    obtain ⟨f, rfl, hf⟩ := isFractionText_of_readFraction hfraction
    simp only [hfraction, Prod.mk.injEq] at h
    obtain ⟨⟨rfl, rfl⟩, rfl⟩ := h
    exact ⟨':' :: (s ++ f), by simp [hcolon], .written hs hf⟩
  · simp only [Prod.mk.injEq] at h
    obtain ⟨⟨rfl, rfl⟩, rfl⟩ := h
    exact ⟨[], rfl, .absent⟩

/-- A fraction is written in digits behind a point. -/
theorem IsFractionText.digit_or_point {digits : List Nat} (h : IsFractionText text digits)
    {c : Char} (hc : c ∈ text) : digitValue? c ≠ none ∨ c = '.' := by
  cases h with
  | absent => simp at hc
  | written hf _ _ =>
    rcases List.mem_cons.1 hc with rfl | hc
    · exact .inr rfl
    · exact .inl (hf.digitValue?_ne_none hc)

/-- Seconds are written in digits, a colon and a point. -/
theorem IsSecondsText.digit_or_mark {second : Nat} {fraction : List Nat}
    (h : IsSecondsText text second fraction) {c : Char} (hc : c ∈ text) :
    digitValue? c ≠ none ∨ c = ':' ∨ c = '.' := by
  cases h with
  | absent => simp at hc
  | written hs hf =>
    simp only [List.mem_cons, List.mem_append] at hc
    obtain rfl | hc | hc := hc
    · exact .inr (.inl rfl)
    · exact .inl (hs.digitValue?_ne_none hc)
    · exact (hf.digit_or_point hc).imp_right .inr

/-- A time is written in digits, colons and a point, none of which starts an offset. -/
theorem IsTimeText.digit_or_mark {fields : TimeFields} (h : IsTimeText text fields) {c : Char}
    (hc : c ∈ text) : digitValue? c ≠ none ∨ c = ':' ∨ c = '.' := by
  obtain ⟨hh, hm, hs⟩ := h
  simp only [List.mem_append, List.mem_cons] at hc
  obtain hc | rfl | hc | hc := hc
  · exact .inl (hh.digitValue?_ne_none hc)
  · exact .inr (.inl rfl)
  · exact .inl (hm.digitValue?_ne_none hc)
  · exact hs.digit_or_mark hc

/-- A character that is neither a digit nor a colon nor a point stands in no time of day. -/
theorem IsTimeText.notMem {fields : TimeFields} (h : IsTimeText text fields) {c : Char}
    (hc : digitValue? c = none ∧ c ≠ ':' ∧ c ≠ '.') : c ∉ text := by
  intro hmem
  obtain hdigit | hmark := h.digit_or_mark hmem
  · exact hdigit hc.1
  · exact not_or.2 hc.2 hmark

/-- **A written time of day is read,** when nothing follows that prolongs it. -/
theorem IsTimeText.readTime_append {fields : TimeFields} (h : IsTimeText text fields)
    (hrest : EndsClock rest) : readTime (text ++ rest) = some (fields, rest) := by
  obtain @⟨h, m, s, _, _, second, fraction, hh, hm, hs⟩ := h
  obtain ⟨hours, hhour, rfl⟩ := hh.exists_takeDigits (':' :: (m ++ (s ++ rest)))
  obtain ⟨minutes, hminute, rfl⟩ := hm.exists_takeDigits (s ++ rest)
  simp only [readTime, List.append_assoc, List.cons_append, hhour, hminute, dropChar?_cons_self,
    Option.bind_eq_bind, Option.bind_some, hs.readSeconds_append hrest]

/-- What is read as a time of day is a written time of day. -/
theorem isTimeText_of_readTime {fields : TimeFields} (h : readTime text = some (fields, rest)) :
    ∃ t, text = t ++ rest ∧ IsTimeText t fields := by
  simp only [readTime, Option.bind_eq_bind, Option.bind_eq_some_iff, dropChar?_eq_some_iff,
    Prod.exists] at h
  obtain ⟨hours, _, hhour, _, rfl, minutes, tail, hminute, hend⟩ := h
  obtain ⟨hr, rfl, hh⟩ := isField_of_takeDigits hhour
  obtain ⟨mn, rfl, hm⟩ := isField_of_takeDigits hminute
  rcases hseconds : readSeconds tail with ⟨⟨second, fraction⟩, left⟩
  obtain ⟨s, rfl, hs⟩ := isSecondsText_of_readSeconds hseconds
  simp only [hseconds, Option.some.injEq, Prod.mk.injEq] at hend
  obtain ⟨rfl, rfl⟩ := hend
  exact ⟨hr ++ ':' :: (mn ++ s), by simp, .mk hh hm hs⟩

/-! ### Dates with times -/

/-- **A written date with time is read,** when nothing follows that prolongs it. -/
theorem IsDateTimeText.readDateTime_append {fields : DateFields × TimeFields}
    (h : IsDateTimeText text fields) (hrest : EndsClock rest) :
    readDateTime (text ++ rest) = some (fields, rest) := by
  obtain ⟨hd, ht⟩ := h
  simp only [readDateTime, List.append_assoc, List.cons_append, hd.readDate_append,
    dropChar?_cons_self, ht.readTime_append hrest, Option.bind_eq_bind, Option.bind_some]

/-- What is read as a date with time is a written date with time. -/
theorem isDateTimeText_of_readDateTime {fields : DateFields × TimeFields}
    (h : readDateTime text = some (fields, rest)) :
    ∃ t, text = t ++ rest ∧ IsDateTimeText t fields := by
  simp only [readDateTime, Option.bind_eq_bind, Option.bind_eq_some_iff, dropChar?_eq_some_iff,
    Prod.exists, Option.some.injEq, Prod.mk.injEq] at h
  obtain ⟨_, _, hdate, _, rfl, _, _, htime, rfl, rfl⟩ := h
  obtain ⟨d, rfl, hd⟩ := isDateText_of_readDate hdate
  obtain ⟨t, rfl, ht⟩ := isTimeText_of_readTime htime
  exact ⟨d ++ 'T' :: t, by simp, .mk hd ht⟩

/-! ### Offsets -/

/-- **The written fields of an offset are read,** when nothing follows that prolongs them. -/
theorem IsOffsetText.readOffsetFields_append {hours minutes seconds : Nat}
    (h : IsOffsetText text hours minutes seconds) (hrest : EndsClock rest) :
    readOffsetFields (text ++ rest) = some ((hours, minutes, seconds), rest) := by
  cases h with
  | @minutes h m _ _ hh hm =>
    obtain ⟨hs, hhour, rfl⟩ := hh.exists_takeDigits (':' :: (m ++ rest))
    obtain ⟨ms, hminute, rfl⟩ := hm.exists_takeDigits rest
    simp only [readOffsetFields, List.append_assoc, List.cons_append, hhour, hminute,
      dropChar?_cons_self, dropChar?_eq_none hrest.2, Option.bind_eq_bind, Option.bind_some,
      Option.bind_none]
  | @seconds h m s _ _ _ hh hm hs =>
    obtain ⟨hs', hhour, rfl⟩ := hh.exists_takeDigits (':' :: (m ++ ':' :: (s ++ rest)))
    obtain ⟨ms, hminute, rfl⟩ := hm.exists_takeDigits (':' :: (s ++ rest))
    obtain ⟨ss, hsecond, rfl⟩ := hs.exists_takeDigits rest
    simp only [readOffsetFields, List.append_assoc, List.cons_append, hhour, hminute, hsecond,
      dropChar?_cons_self, Option.bind_eq_bind, Option.bind_some]

/-- What is read as the fields of an offset are written fields. -/
theorem isOffsetText_of_readOffsetFields {hours minutes seconds : Nat}
    (h : readOffsetFields text = some ((hours, minutes, seconds), rest)) :
    ∃ t, text = t ++ rest ∧ IsOffsetText t hours minutes seconds := by
  simp only [readOffsetFields, Option.bind_eq_bind, Option.bind_eq_some_iff,
    dropChar?_eq_some_iff, Prod.exists] at h
  obtain ⟨hs, _, hhour, _, rfl, ms, tail, hminute, hend⟩ := h
  obtain ⟨hr, rfl, hh⟩ := isField_of_takeDigits hhour
  obtain ⟨mn, rfl, hm⟩ := isField_of_takeDigits hminute
  split at hend
  · rename_i ss left hread
    rw [Option.bind_eq_some_iff] at hread
    obtain ⟨behind, hcolon, htake⟩ := hread
    obtain rfl := dropChar?_eq_some_iff.1 hcolon
    obtain ⟨s, rfl, hs⟩ := isField_of_takeDigits htake
    simp only [Option.some.injEq, Prod.mk.injEq] at hend
    obtain ⟨⟨rfl, rfl, rfl⟩, rfl⟩ := hend
    exact ⟨hr ++ ':' :: (mn ++ ':' :: s), by simp, .seconds hh hm hs⟩
  · simp only [Option.some.injEq, Prod.mk.injEq] at hend
    obtain ⟨⟨rfl, rfl, rfl⟩, rfl⟩ := hend
    exact ⟨hr ++ ':' :: mn, by simp, .minutes hh hm⟩

theorem take_length_sub_length (text rest : List Char) :
    (text ++ rest).take ((text ++ rest).length - rest.length) = text := by
  rw [List.length_append, Nat.add_sub_cancel, List.take_left' rfl]

/-- Behind a sign the fields of an offset are read, and its text is what was taken for them. -/
theorem readOffset_cons {sign : Char} (hsign : sign = '+' ∨ sign = '-') (text : List Char) :
    readOffset (sign :: text) =
      (readOffsetFields text).map fun ((hours, minutes, seconds), tail) =>
        (.signed (String.ofList ((sign :: text).take ((sign :: text).length - tail.length)))
          (sign == '-') hours minutes seconds, tail) := by
  rcases hsign with rfl | rfl <;> simp [readOffset]

/-- **A written offset is read,** when nothing follows that prolongs it. -/
theorem IsWrittenOffset.readOffset_append {offset : WrittenOffset} (h : IsWrittenOffset text offset)
    (hrest : EndsClock rest) : readOffset (text ++ rest) = some (offset, rest) := by
  cases h with
  | utc => rfl
  | signed hsign h =>
    rw [List.cons_append, readOffset_cons hsign, h.readOffsetFields_append hrest, Option.map_some]
    simp only [← List.cons_append, take_length_sub_length]

/-- What is read as an offset is a written offset. -/
theorem isWrittenOffset_of_readOffset {offset : WrittenOffset}
    (h : readOffset text = some (offset, rest)) :
    ∃ t, text = t ++ rest ∧ IsWrittenOffset t offset := by
  unfold readOffset at h
  split at h
  · obtain ⟨rfl, rfl⟩ := Prod.mk.inj (Option.some.inj h)
    exact ⟨['Z'], rfl, .utc⟩
  · rename_i sign tail _
    split_ifs at h with hsign
    obtain ⟨⟨⟨hours, minutes, seconds⟩, left⟩, hread, heq⟩ := Option.map_eq_some_iff.1 h
    obtain ⟨rfl, rfl⟩ := Prod.mk.inj heq
    obtain ⟨t, rfl, ht⟩ := isOffsetText_of_readOffsetFields hread
    refine ⟨sign :: t, rfl, ?_⟩
    rw [← List.cons_append, take_length_sub_length]
    exact .signed hsign ht
  · cases h

end Literal
end TypedInputs
