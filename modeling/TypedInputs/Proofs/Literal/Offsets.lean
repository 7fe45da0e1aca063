/-
# Dates with an offset alone

| offset | seconds |
| --- | --- |
| `Z` | 0 |
| `+HH:MM`, `+HH:MM:SS` | what is written, at most 18 hours |
| `-HH:MM`, `-HH:MM:SS` | the same below zero |

A date with time and such an offset behind it is read with the wall clock of the first and the
seconds of the second, and no other offset is read (`parseZoned_append`). Zones are of three kinds
here. An offset below zero is a negative number of days and the seconds after them, so whole minutes
are seen by the remainder of these seconds and counted by a division of the whole, rounded down. As
a day is of whole minutes, both agree, and all three kinds keep the offset
(`OffsetZone.offset_ofOffset`).
-/

import TypedInputs.Proofs.Literal.Calendar
import TypedInputs.Proofs.Literal.Zoned
import TypedInputs.Zone.Lookup

namespace TypedInputs
namespace Literal

open Calendar Text

/-- An offset without its sign, and its seconds. -/
inductive IsOffsetLength : List Char → Nat → Prop
  | mk {text : List Char} {hours minutes seconds : Nat}
      (h : IsOffsetText text hours minutes seconds) (hminutes : minutes ≤ 59)
      (hseconds : seconds ≤ 59) (hmax : hours * 3600 + minutes * 60 + seconds ≤ 18 * 3600) :
      IsOffsetLength text (hours * 3600 + minutes * 60 + seconds)

/-- An offset, and its seconds. -/
inductive IsOffset : List Char → Int → Prop
  | utc : IsOffset ['Z'] 0
  | ahead {text : List Char} {n : Nat} (h : IsOffsetLength text n) : IsOffset ('+' :: text) n
  | behind {text : List Char} {n : Nat} (h : IsOffsetLength text n) : IsOffset ('-' :: text) (-n)

/-- **The offsets are the written ones that have a number of seconds.** -/
theorem isOffset_iff {text : List Char} {n : Int} :
    IsOffset text n ↔ ∃ written, IsWrittenOffset text written ∧ written.seconds = .ok n := by
  constructor
  · intro h
    cases h with
    | utc => exact ⟨.utc, .utc, rfl⟩
    | ahead h =>
      obtain ⟨h, hminutes, hseconds, hmax⟩ := h
      exact ⟨_, .signed (.inl rfl) h,
        seconds_signed_eq_ok_iff.2 ⟨⟨hminutes, hseconds⟩, hmax, (if_neg (by decide)).symm⟩⟩
    | behind h =>
      obtain ⟨h, hminutes, hseconds, hmax⟩ := h
      exact ⟨_, .signed (.inr rfl) h,
        seconds_signed_eq_ok_iff.2 ⟨⟨hminutes, hseconds⟩, hmax, (if_pos (by decide)).symm⟩⟩
  · rintro ⟨written, htext, hvalue⟩
    cases htext with
    | utc =>
      cases hvalue
      exact .utc
    | signed hsign h =>
      obtain ⟨⟨hminutes, hseconds⟩, hmax, rfl⟩ := seconds_signed_eq_ok_iff.1 hvalue
      rcases hsign with rfl | rfl
      · exact .ahead (.mk h hminutes hseconds hmax)
      · exact .behind (.mk h hminutes hseconds hmax)

/-- An offset ends the time before it, by its first character. -/
theorem endsClock_of_head? {o : List Char}
    (h : o.head? = some 'Z' ∨ o.head? = some '+' ∨ o.head? = some '-') : EndsClock o := by
  rcases h with h | h | h
  all_goals
    obtain ⟨rest, rfl⟩ := List.head?_eq_some_iff.1 h
    exact endsClock_cons rest (by decide)

/-- No zone is read where no bracket stands. -/
theorem readZone_of_notMem {rest : List Char} (h : '[' ∉ rest) : readZone rest = (none, rest) := by
  unfold readZone
  split
  · exact absurd (List.mem_cons_self ..) h
  · rfl

/-- What is read of a date with time and an offset alone. -/
theorem readZoned_append {d o : List Char} {fields : DateFields × TimeFields}
    (hd : IsDateTimeText d fields) (ho : EndsClock o) (hbracket : '[' ∉ o) :
    readZoned (d ++ o) = (readOffset o).bind fun read =>
      if isLineEnd read.2 then some ⟨fields.1, fields.2, read.1, none⟩ else none := by
  simp only [readZoned, hd.readDateTime_append ho, Option.bind_eq_bind, Option.bind_some]
  refine Option.bind_congr fun read hread => ?_
  obtain ⟨t, rfl, -⟩ := isWrittenOffset_of_readOffset hread
  rw [readZone_of_notMem fun h => hbracket (List.mem_append_right t h)]

section

variable [Zone.Directory]

/-- Behind a date and a time, what is left is an offset and nothing else, and the zone follows from
it. -/
theorem parseZoned_eq_ok_iff {d o : List Char} {fields : DateFields × TimeFields} {wall : DateTime}
    (hd : IsDateTimeText d fields) (hwall : toDateTime fields.1 fields.2 = .ok wall)
    (ho : EndsClock o) (hbracket : '[' ∉ o) {z : ZonedDateTime} :
    parseZoned (d ++ o) = .ok z ↔
      ∃ written rest, readOffset o = some (written, rest) ∧ isLineEnd rest = true ∧
        ∃ n, written.seconds = .ok n ∧ z = ⟨wall, n, zoneOfOffset n⟩ := by
  rw [parseZoned, readZoned_append hd ho hbracket]
  rcases readOffset o with - | ⟨written, rest⟩
  · simp
  · cases hrest : isLineEnd rest
    · simp [hrest]
    · simp only [Option.bind_some, hrest, if_true, hwall, Except.mapError]
      cases hn : written.seconds with
      | error fault => simp [bind, Except.bind, hn, hrest]
      | ok n => simp [bind, Except.bind, atOffset_none, hn, hrest, eq_comm (a := z)]

/-- **A date with time keeps its wall clock and the offset behind it,** whichever kind of zone the
offset is. -/
theorem parseZoned_append {d o : List Char} {wall : DateTime} (hd : parseDateTime d = .ok wall)
    (hlast : d.getLast? ≠ some '\n')
    (hstart : o.head? = some 'Z' ∨ o.head? = some '+' ∨ o.head? = some '-') (hbracket : '[' ∉ o)
    (z : ZonedDateTime) :
    parseZoned (d ++ o) = .ok z ↔
      ∃ body n, IsLine o body ∧ IsOffset body n ∧ (OffsetZone.ofOffset n).offset = n ∧
        z = ⟨wall, n, (OffsetZone.ofOffset n).name?⟩ := by
  obtain ⟨_, fields, hline, htext, hwall⟩ := parseDateTime_eq_ok_iff.1 hd
  obtain rfl := hline.eq_of_getLast? hlast
  rw [parseZoned_eq_ok_iff htext hwall (endsClock_of_head? hstart) hbracket,
    exists_read_iff (fun h hrest => h.readOffset_append (endsClock_of_isLineEnd hrest))
      isWrittenOffset_of_readOffset]
  simp only [isOffset_iff]
  constructor
  · rintro ⟨body, written, hbody, htext, n, hn, rfl⟩
    exact ⟨body, n, hbody, ⟨written, htext, hn⟩, OffsetZone.offset_ofOffset n, rfl⟩
  · rintro ⟨body, n, hbody, ⟨written, htext, hn⟩, -, rfl⟩
    exact ⟨body, written, hbody, htext, n, hn, rfl⟩

end

/-- Half a minute more than an hour behind UTC, with a line feed at the end. -/
theorem parseZoned_secondsBehind :
    parseZoned ("2007-12-03T10:15:30".toList ++ "-01:00:30\n".toList) =
      .ok ⟨⟨⟨2007, 12, 3, by decide⟩, ⟨10, 15, 30, 0, by decide⟩⟩, -3630, none⟩ := by
  have hlength : IsOffsetLength "01:00:30".toList 3630 :=
    .mk (isOffsetText_clockChars (n := 3630) (by decide)) (by decide) (by decide) (by decide)
  exact (parseZoned_append (by decide) (by decide) (by decide) (by decide) _).2
    ⟨"-01:00:30".toList, -3630, .inr rfl, .behind hlength, rfl, rfl⟩

end Literal
end TypedInputs
