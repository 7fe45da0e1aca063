/-
# Readings in a zone with a history

A reading with a written offset becomes a date in the zone (`Resolves`). When the zone's clock shows
the reading, the date keeps it and has the zone's own offset, which is the written one wherever the
zone has the reading with that. When the clock skips the reading, the date is moved out of the gap.

At most one transition may lie near. Every reading that is a day inside the calendar then has its date
(`inZone_resolves`).
-/

import TypedInputs.Proofs.Literal.Zoned
import TypedInputs.Proofs.Zone.Readings
import TypedInputs.Zone.Pacific

namespace TypedInputs
namespace Literal

open Calendar

variable {rules : Zone.Rules} {wall : DateTime} {offset : Int}

/-- The date that a reading with a written offset, in seconds, stands for in a zone. -/
structure Resolves (rules : Zone.Rules) (wall : DateTime) (offset : Int) (t : ZonedDateTime) :
    Prop where
  /-- The zone has this offset at this instant. -/
  normalized : (rules.regimeAt t.instant).seconds = t.offset
  microsecond : t.wall.time.microsecond = wall.time.microsecond
  /-- The zone shows the reading with the written offset. -/
  written : ∀ u, rules.ShowsAt wall.seconds u → (rules.regimeAt u).seconds = offset →
    t.wall = wall ∧ t.offset = offset
  /-- The zone shows the reading. -/
  kept : (∃ u, rules.ShowsAt wall.seconds u) →
    t.wall = wall ∧ rules.IsChosen wall.seconds offset t.instant
  /-- The zone skips the reading, by a gap of a day at most. -/
  moved : ∀ s A B, rules.Skips wall.seconds s A B → B.seconds - A.seconds ≤ secondsPerDay →
    t.wall.seconds = wall.seconds + (B.seconds - A.seconds) ∧ t.offset = B.seconds

/-- A resolution has a date, at its own instant and with the microseconds of the reading. -/
theorem exists_inZone_of_resolve {t : Zone.LocalTime} (name : String)
    (h : rules.resolve wall.seconds offset = some t) :
    ∃ moved : DateTime,
      inZone ⟨name, .ruled rules⟩ wall offset = .ok ⟨moved, t.regime.seconds, some name⟩ ∧
      moved.seconds = t.seconds ∧ moved.time.microsecond = wall.time.microsecond := by
  obtain ⟨hfirst, hlast⟩ := Zone.Rules.isSecond_of_resolve h
  obtain ⟨moved, hmoved⟩ := DateTime.exists_ofSeconds? hfirst hlast wall.time.microsecond
  obtain ⟨hseconds, hmicro⟩ := DateTime.seconds_of_ofSeconds? hmoved wall.time.microsecond_lt
  refine ⟨moved, ?_, hseconds, hmicro⟩
  simp only [inZone, settled?, h, hmoved, Option.bind_eq_bind, Option.bind_some]

/-- A date with the reading and the offset of a local time is at its instant. -/
theorem instant_of_seconds_eq {moved : DateTime} {t : Zone.LocalTime} (zone : Option String)
    (h : moved.seconds = t.seconds) :
    ZonedDateTime.instant ⟨moved, t.regime.seconds, zone⟩ = t.instant := by
  rw [ZonedDateTime.instant, h, Zone.LocalTime.instant]

variable {s : Int} {A B : Zone.Regime}

/-- **A reading that the zone shows is kept.** -/
theorem exists_resolves_of_shown (name : String) (h : rules.StepsNear wall.seconds s A B)
    (hinside : Zone.IsInside wall.seconds) (hshown : ∃ u, rules.ShowsAt wall.seconds u) :
    ∃ t, inZone ⟨name, .ruled rules⟩ wall offset = .ok t ∧ t.zone = some name ∧
      Resolves rules wall offset t := by
  obtain ⟨u, hu, hresolve⟩ := h.exists_isChosen hinside hshown offset
  obtain ⟨moved, hinZone, hseconds, hmicro⟩ := exists_inZone_of_resolve name hresolve
  obtain rfl : moved = wall := DateTime.eq_of_seconds_eq (hseconds.trans hu.shown) hmicro
  have hinstant := instant_of_seconds_eq (some name) hseconds
  rw [Zone.Rules.instant_clockAt] at hinstant
  refine ⟨_, hinZone, rfl, ?_⟩
  constructor
  case normalized => rw [hinstant, Zone.Rules.clockAt_regime]
  case microsecond => rfl
  case written =>
    intro v hv hoffset
    obtain rfl := hu.written v hv hoffset
    exact ⟨rfl, hoffset⟩
  case kept =>
    intro _
    rw [hinstant]
    exact ⟨rfl, hu⟩
  case moved =>
    intro s' A' B' hskips
    exact absurd hu.shown ((Zone.Rules.StepsNear.exists_skips_iff h hinside).1
      ⟨s', A', B', hskips⟩ u)

/-- **A reading that the zone skips is moved out of the gap.** -/
theorem exists_resolves_of_skipped (name : String) (h : rules.StepsNear wall.seconds s A B)
    (hinside : Zone.IsInside wall.seconds) (hnever : ∀ u, ¬rules.ShowsAt wall.seconds u) :
    ∃ t, inZone ⟨name, .ruled rules⟩ wall offset = .ok t ∧ t.zone = some name ∧
      Resolves rules wall offset t := by
  obtain ⟨t, hresolve⟩ := (Zone.Rules.exists_resolve_iff hinside.isSecond offset).2
    (Zone.Rules.covers_of_isInside (r := rules) hinside)
  obtain ⟨moved, hinZone, hseconds, hmicro⟩ := exists_inZone_of_resolve name hresolve
  refine ⟨_, hinZone, rfl, ?_⟩
  constructor
  case normalized =>
    rw [instant_of_seconds_eq _ hseconds]
    exact congrArg Zone.Regime.seconds (Zone.Rules.isShown_of_resolve hresolve).regimeAt_eq
  case microsecond => exact hmicro
  case written => exact fun u hu => absurd hu (hnever u)
  case kept => exact fun ⟨u, hu⟩ => absurd hu (hnever u)
  case moved =>
    intro s' A' B' hskips hwide
    obtain ⟨rfl, rfl, rfl⟩ := h.eq_of_skips hskips
    have hday : (secondsPerDay : Int) = 86400 := rfl
    rw [h.resolve_of_not_showsAt hinside hnever (by omega)] at hresolve
    obtain rfl := Option.some.inj hresolve
    exact ⟨hseconds, rfl⟩

/-- **In a zone every reading a day inside the calendar, with at most one transition near, has a
normalized date.** The date is the reading with the written offset if the zone has it, else the reading
with the zone's own offset, and the reading moved on by the width of the gap if the zone skips it. -/
theorem inZone_resolves (name : String) (rules : Zone.Rules) (wall : DateTime) (offset : Int)
    (hsteady : (Zone.Clock.ruled rules).IsSteadyAt wall.seconds)
    (hinside : Zone.IsInside wall.seconds) :
    (∃ t, inZone ⟨name, .ruled rules⟩ wall offset = .ok t ∧ t.zone = some name ∧
      Resolves rules wall offset t) ∧
    ((∃ u, rules.ShowsAt wall.seconds u) ∨ ∃ s A B, rules.Skips wall.seconds s A B) := by
  obtain ⟨s, A, B, h⟩ := Zone.Rules.exists_steps_of_atMostOne hsteady
  by_cases hshown : ∃ u, rules.ShowsAt wall.seconds u
  · exact ⟨exists_resolves_of_shown name h hinside hshown, .inl hshown⟩
  · have hnever : ∀ u, ¬rules.ShowsAt wall.seconds u := not_exists.1 hshown
    exact ⟨exists_resolves_of_skipped name h hinside hnever,
      .inr ((Zone.Rules.StepsNear.exists_skips_iff h hinside).2 hnever)⟩

/-- Midday of 30 December 2011, a day that Apia skipped to change sides of the date line. -/
def skippedMidday : DateTime := ⟨⟨2011, 12, 30, by decide⟩, ⟨12, 0, 0, 0, by decide⟩⟩

/-- The skipped midday is moved by a day, to the offset of the other side. -/
theorem inZone_skippedMidday :
    ∃ t, inZone ⟨"Pacific/Apia", .ruled Zone.Pacific.apia⟩ skippedMidday (-36000) = .ok t ∧
      t.wall.seconds = skippedMidday.seconds + secondsPerDay ∧ t.offset = 50400 := by
  obtain ⟨⟨t, hinZone, -, h⟩, -⟩ := inZone_resolves "Pacific/Apia" Zone.Pacific.apia skippedMidday
    (-36000) (by decide +kernel) (by decide +kernel)
  have hskips : Zone.Pacific.apia.Skips skippedMidday.seconds 1325239200 ⟨-600, 60⟩ ⟨840, 60⟩ :=
    ⟨by decide +kernel, by decide +kernel, by decide +kernel, by decide +kernel⟩
  exact ⟨t, hinZone, h.moved _ _ _ hskips (by decide)⟩

end Literal
end TypedInputs
