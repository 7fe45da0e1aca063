/-
# Dates with a zone

A text is no date with a zone, or an offset stands alone, or it names a zone and the zone decides
(`parseZoned_cases`).

| zone | the date |
| --- | --- |
| none | the reading at the offset, which is UTC when it is zero |
| one offset for ever | the reading at that offset, whatever was written |
| a history | the reading resolved, the written offset preferred |

Only a history can leave the calendar, when it does not cover the reading (`parseZoned_eq_beyond`).

The text of a date is read as what was written (`parseZoned_chars`), so the date is stable if its
zone takes it for itself again. This holds of what a text writes when at most one transition lies
near, because a resolution resolves to itself (`isStable_of_parseZoned`).
-/

import TypedInputs.Literal
import TypedInputs.Proofs.Calendar.Count
import TypedInputs.Proofs.Calendar.Text
import TypedInputs.Proofs.Zone.Gaps

namespace TypedInputs

open Calendar

namespace Zone

/-- At most one transition of a clock lies within three days of a reading. -/
def Clock.IsSteadyAt (n : Int) : Clock → Prop
  | .fixed _ => True
  | .ruled rules =>
    (within (n - Rules.threeDays) (n + Rules.threeDays) rules.transitions).length ≤ 1

instance (n : Int) : (clock : Clock) → Decidable (clock.IsSteadyAt n)
  | .fixed _ => isTrue trivial
  | .ruled _ => inferInstanceAs (Decidable (_ ≤ _))

/-- A clock that shows a reading within the calendar. -/
def Clock.Covers (n : Int) : Clock → Prop
  | .fixed _ => True
  | .ruled rules => rules.Covers n

instance (n : Int) : (clock : Clock) → Decidable (clock.Covers n)
  | .fixed _ => isTrue trivial
  | .ruled rules => inferInstanceAs (Decidable (rules.Covers n))

end Zone

namespace Literal

/-! ### Offsets that stand alone -/

/-- A day is of whole minutes, so the days of an offset leave no seconds. -/
theorem emod_secondsPerDay_emod (offset : Int) : offset % secondsPerDay % 60 = offset % 60 :=
  Int.emod_emod_of_dvd offset (by decide)

/-- **Every kind of zone keeps the offset** that it was made for. -/
theorem OffsetZone.offset_ofOffset (offset : Int) : (ofOffset offset).offset = offset := by
  unfold ofOffset ofMinutes
  rw [emod_secondsPerDay_emod]
  split_ifs with hminutes hzero
  · show 0 = offset
    omega
  · show offset / 60 * 60 = offset
    omega
  · rfl

/-- Only an offset of zero is UTC. -/
theorem zoneOfOffset_eq (offset : Int) :
    zoneOfOffset offset = if offset = 0 then some Zone.utcName else none := by
  by_cases hzero : offset = 0
  · rw [if_pos hzero, hzero]
    rfl
  · rw [if_neg hzero, zoneOfOffset, OffsetZone.ofOffset, emod_secondsPerDay_emod]
    split_ifs with hminutes
    · rw [OffsetZone.ofMinutes, if_neg (by omega)]
      rfl
    · rfl

/-- A written offset that counts is at most 18 hours. -/
theorem natAbs_le_of_seconds {written : WrittenOffset} {offset : Int}
    (h : written.seconds = .ok offset) : offset.natAbs ≤ maxOffset := by
  cases written with
  | utc =>
    cases h
    decide
  | signed written negative hours minutes seconds =>
    simp only [WrittenOffset.seconds] at h
    split_ifs at h with hminutes hlarge hsign
    · cases h
      omega
    · cases h
      omega

/-- The regime that a time is settled under is one of the zone's. -/
theorem regime_mem_of_settled? {rules : Zone.Rules} {wall moved : DateTime} {offset : Int}
    {regime : Zone.Regime} (h : settled? rules wall offset = some (moved, regime)) :
    regime ∈ rules.regimes := by
  simp only [settled?, Option.bind_eq_bind, Option.bind_eq_some_iff, Option.some.injEq,
    Prod.mk.injEq] at h
  obtain ⟨t, ht, _, -, -, rfl⟩ := h
  exact Zone.Rules.regime_mem_of_resolve ht

/-- **What is settled on is settled on again,** with its own offset. -/
theorem settled?_settled {rules : Zone.Rules} {wall moved : DateTime} {offset : Int}
    {regime : Zone.Regime}
    (hsteady : (Zone.Clock.ruled rules).IsSteadyAt wall.seconds)
    (hoffsets : ∀ g ∈ rules.regimes, g.seconds.natAbs ≤ 64800)
    (h : settled? rules wall offset = some (moved, regime)) :
    ∃ again, settled? rules moved regime.seconds = some (moved, again) ∧
      again.seconds = regime.seconds := by
  simp only [settled?, Option.bind_eq_bind, Option.bind_eq_some_iff, Option.some.injEq,
    Prod.mk.injEq] at h
  obtain ⟨t, ht, moved', hmoved, rfl, rfl⟩ := h
  obtain ⟨hseconds, hmicro⟩ := DateTime.seconds_of_ofSeconds? hmoved wall.time.microsecond_lt
  obtain ⟨s, A, B, hsteps⟩ := Zone.Rules.exists_steps_of_atMostOne hsteady
  obtain ⟨u, hu, hsame, hoffset⟩ :=
    Zone.Rules.StepsNear.resolvesTo hsteps hoffsets wall.seconds_mem ht
  refine ⟨u.regime, ?_, hoffset⟩
  simp only [settled?, hseconds, hmicro, hu, hsame, hmoved, Option.bind_eq_bind, Option.bind_some]

/-- **A reading is settled on exactly when the calendar has its instant.** -/
theorem settled?_eq_none {rules : Zone.Rules} {wall : DateTime} (offset : Int) :
    settled? rules wall offset = none ↔ ¬rules.Covers wall.seconds := by
  rw [← Zone.Rules.exists_resolve_iff wall.seconds_mem offset]
  unfold settled?
  cases hresolve : rules.resolve wall.seconds offset with
  | none => simp
  | some t =>
    obtain ⟨hfirst, hlast⟩ := Zone.Rules.isSecond_of_resolve hresolve
    obtain ⟨moved, hmoved⟩ := DateTime.exists_ofSeconds? hfirst hlast wall.time.microsecond
    simp [hmoved]

/-- A zone refuses a wall clock time only where the calendar ends. -/
theorem inZone_eq_error {zone : Zone.Named} {wall : DateTime} {offset : Int} {fault : ZonedFault} :
    inZone zone wall offset = .error fault ↔
      fault = .beyondCalendar ∧ ¬zone.clock.Covers wall.seconds := by
  unfold inZone
  cases zone.clock with
  | fixed minutes => simp [Zone.Clock.Covers]
  | ruled rules =>
    simp only [Zone.Clock.Covers, ← settled?_eq_none offset]
    cases settled? rules wall offset with
    | none => simp [eq_comm]
    | some found => simp

variable [Zone.Directory]

/-- Without a zone the written offset stands. -/
theorem atOffset_none (wall : DateTime) (offset : Int) :
    atOffset wall offset none = .ok ⟨wall, offset, zoneOfOffset offset⟩ := by
  rw [atOffset, OffsetZone.offset_ofOffset]

/-- **The text of a date with offset and zone is read with what was written.** -/
theorem parseZoned_chars (wall : DateTime) {offset : Int} (ho : offset.natAbs ≤ maxOffset)
    {zone : Option String} (hz : ∀ name ∈ zone, Zone.IsBracketable name) :
    parseZoned (wall.toChars ++ offsetChars offset ++ zoneChars zone) =
      atOffset wall offset (zone.map String.toList) := by
  obtain ⟨written, hseconds, hread⟩ := readZoned_toChars wall ho hz
  rw [parseZoned, hread]
  simp only [toDateTime_fields, hseconds]
  rfl

/-- The reading of a text that names a zone, and the zone. -/
def namedZone? (text : String) : Option (DateTime × Zone.Named) := do
  let fields ← readZoned text.toList
  let wall ← (toDateTime fields.date fields.time).toOption
  let _ ← fields.offset.seconds.toOption
  let name ← fields.zone
  let zone ← Zone.Directory.find? name
  some (wall, zone)

/-- **A text is no date with a zone, or an offset stands alone, or the zone decides.** -/
theorem parseZoned_cases (text : String) :
    (namedZone? text = none ∧ ∃ fault, parseZoned text.toList = .error (.literal fault)) ∨
    (namedZone? text = none ∧ ∃ wall offset, offset.natAbs ≤ maxOffset ∧
      parseZoned text.toList = .ok ⟨wall, offset, zoneOfOffset offset⟩) ∨
    ∃ wall offset name zone, offset.natAbs ≤ maxOffset ∧ Zone.Directory.find? name = some zone ∧
      namedZone? text = some (wall, zone) ∧ parseZoned text.toList = inZone zone wall offset := by
  unfold namedZone? parseZoned
  cases readZoned text.toList with
  | none => exact .inl ⟨rfl, _, rfl⟩
  | some fields =>
    obtain ⟨date, time, written, zone⟩ := fields
    simp only [Option.bind_eq_bind, Option.bind_some]
    cases toDateTime date time with
    | error fault => exact .inl ⟨rfl, fault, rfl⟩
    | ok wall =>
      cases hoffset : written.seconds with
      | error fault => exact .inl ⟨rfl, fault, rfl⟩
      | ok offset =>
        have hmax := natAbs_le_of_seconds hoffset
        cases zone with
        | none => exact .inr (.inl ⟨rfl, wall, offset, hmax, atOffset_none wall offset⟩)
        | some name =>
          simp only [Except.toOption, Option.bind_some]
          cases hfind : Zone.Directory.find? name with
          | none =>
            refine .inl ⟨rfl, .unknownZone (String.ofList name), ?_⟩
            show atOffset wall offset (some name) = _
            rw [atOffset, hfind]
          | some zone =>
            refine .inr (.inr ⟨wall, offset, name, zone, hmax, hfind, rfl, ?_⟩)
            show atOffset wall offset (some name) = _
            rw [atOffset, hfind]

/-- A text whose reading is not within the calendar by the clock of the zone that it names. -/
def IsBeyondCalendar (text : String) : Prop :=
  ∃ named ∈ namedZone? text, ¬named.2.clock.Covers named.1.seconds

instance (text : String) : Decidable (IsBeyondCalendar text) :=
  inferInstanceAs (Decidable (∃ named ∈ namedZone? text, _))

/-- **A well-formed text leaves the calendar exactly when its zone does not cover the reading.** -/
theorem parseZoned_eq_beyond {text : String} :
    parseZoned text.toList = .error .beyondCalendar ↔ IsBeyondCalendar text := by
  unfold IsBeyondCalendar
  rcases parseZoned_cases text with ⟨hnamed, fault, h⟩ | ⟨hnamed, wall, offset, -, h⟩ |
    ⟨wall, offset, name, zone, -, -, hnamed, h⟩
  · simp [hnamed, h]
  · simp [hnamed, h]
  · simp [hnamed, h, inZone_eq_error]

/-- The zone that a text names has at most one transition within three days of the date. -/
def IsSteady (text : String) : Prop :=
  ∀ named ∈ namedZone? text, named.2.clock.IsSteadyAt named.1.seconds

instance (text : String) : Decidable (IsSteady text) :=
  inferInstanceAs (Decidable (∀ named ∈ namedZone? text, _))

/-- A date with zone whose text is read as itself. -/
structure IsStable (t : ZonedDateTime) : Prop where
  natAbs_offset_le : t.offset.natAbs ≤ maxOffset
  isBracketable : ∀ name ∈ t.zone, Zone.IsBracketable name
  atOffset_eq : atOffset t.wall t.offset (t.zone.map String.toList) = .ok t

/-- A time with an offset alone is stable. -/
theorem isStable_withoutZone (wall : DateTime) {offset : Int} (ho : offset.natAbs ≤ maxOffset) :
    IsStable ⟨wall, offset, zoneOfOffset offset⟩ := by
  rw [zoneOfOffset_eq]
  split_ifs with hzero
  · subst hzero
    refine ⟨ho, fun name hname => ?_, ?_⟩
    · obtain rfl := Option.some.inj hname
      decide
    · simp only [atOffset, Option.map_some, Zone.Directory.find?_utc]
      rfl
  · exact ⟨ho, by simp, by simp [atOffset_none, zoneOfOffset_eq, hzero]⟩

/-- No regime of a zone is farther from UTC than a written offset may be. -/
theorem natAbs_seconds_le {zone : Zone.Named} {name : List Char} {rules : Zone.Rules}
    (hfind : Zone.Directory.find? name = some zone) (hclock : zone.clock = .ruled rules)
    {g : Zone.Regime} (hg : g ∈ rules.regimes) : g.seconds.natAbs ≤ maxOffset := by
  have hoffset : g.offset ∈ zone.clock.offsets := by
    rw [hclock]
    exact List.mem_map_of_mem hg
  have hminutes := Zone.Directory.natAbs_offset_le hfind hoffset
  unfold Zone.maxOffsetMinutes at hminutes
  unfold Zone.Regime.seconds maxOffset
  omega

/-- No zone of a directory is farther from UTC than an offset may be. -/
theorem natAbs_offset_le_of_inZone {zone : Zone.Named} {name : List Char} {wall : DateTime}
    {offset : Int} {t : ZonedDateTime} (hfind : Zone.Directory.find? name = some zone)
    (h : inZone zone wall offset = .ok t) : t.offset.natAbs ≤ maxOffset := by
  unfold inZone at h
  split at h
  · rename_i minutes hclock
    obtain rfl := Except.ok.inj h
    have hminutes : minutes.natAbs ≤ Zone.maxOffsetMinutes :=
      Zone.Directory.natAbs_offset_le hfind (by rw [hclock]; exact List.mem_singleton_self _)
    unfold Zone.maxOffsetMinutes at hminutes
    unfold maxOffset
    show (minutes * 60).natAbs ≤ _
    omega
  · rename_i rules hclock
    split at h
    · rename_i moved regime hsettled
      obtain rfl := Except.ok.inj h
      exact natAbs_seconds_le hfind hclock (regime_mem_of_settled? hsettled)
    · cases h

/-- **Every date with a zone that a text writes is at an offset of at most 18 hours.** -/
theorem natAbs_offset_le_of_parseZoned {text : String} {t : ZonedDateTime}
    (h : parseZoned text.toList = .ok t) : t.offset.natAbs ≤ maxOffset := by
  rcases parseZoned_cases text with ⟨-, fault, hparse⟩ | ⟨-, wall, offset, hmax, hparse⟩ |
    ⟨wall, offset, name, zone, -, hfind, -, hparse⟩
  · rw [hparse] at h
    cases h
  · rw [hparse] at h
    obtain rfl := Except.ok.inj h
    exact hmax
  · rw [hparse] at h
    exact natAbs_offset_le_of_inZone hfind h

/-- **A time in a zone is stable** where the zone is steady: resolved again with the offset that it
got, it stays where it is. -/
theorem isStable_inZone {zone : Zone.Named} {name : List Char} {wall : DateTime} {offset : Int}
    {t : ZonedDateTime} (hfind : Zone.Directory.find? name = some zone)
    (hsteady : zone.clock.IsSteadyAt wall.seconds) (h : inZone zone wall offset = .ok t) :
    IsStable t := by
  have hagain := Zone.Directory.find?_name hfind
  have hbracketable := Zone.Directory.isBracketable_name hfind
  have hmax := natAbs_offset_le_of_inZone hfind h
  have hname : ∀ other ∈ some zone.name, Zone.IsBracketable other := by
    intro other hother
    obtain rfl := Option.some.inj hother
    exact hbracketable
  obtain ⟨_, clock⟩ := zone
  cases clock with
  | fixed minutes =>
    obtain rfl := Except.ok.inj h
    refine ⟨hmax, hname, ?_⟩
    simp only [atOffset, Option.map_some, hagain, inZone]
  | ruled rules =>
    simp only [inZone] at h
    split at h
    · rename_i moved regime hsettled
      obtain rfl := Except.ok.inj h
      obtain ⟨again, hsettled', hsame⟩ :=
        settled?_settled hsteady (fun g hg => natAbs_seconds_le hfind rfl hg) hsettled
      refine ⟨hmax, hname, ?_⟩
      simp only [atOffset, Option.map_some, hagain, inZone, hsettled', hsame]
    · cases h

/-- **A date that a steady text writes is stable.** -/
theorem isStable_of_parseZoned {text : String} (hsteady : IsSteady text) {t : ZonedDateTime}
    (h : parseZoned text.toList = .ok t) : IsStable t := by
  rcases parseZoned_cases text with ⟨-, fault, hparse⟩ | ⟨-, wall, offset, hmax, hparse⟩ |
    ⟨wall, offset, name, zone, -, hfind, hnamed, hparse⟩
  · rw [hparse] at h
    cases h
  · rw [hparse] at h
    obtain rfl := Except.ok.inj h
    exact isStable_withoutZone wall hmax
  · rw [hparse] at h
    exact isStable_inZone hfind (hsteady _ hnamed) h

end Literal
end TypedInputs
