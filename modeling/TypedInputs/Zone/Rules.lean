/-
# Time zone rules

A zone is a history of regimes. A regime is an offset from UTC and the part of it that is daylight
saving; it holds from its start, an instant in UTC seconds, to the start of the next one, and the
initial regime holds before all transitions.

All times here are whole seconds of the calendar, local ones on the zone's own clock. A sum that
leaves the calendar has no result, and then the whole computation has none, with one exception: where
the time a day before or a day after is outside the calendar, no regime is asked for there and the
search goes on (`Rules.candidate`).

`localize` finds a regime under which the zone's clock shows a given local time. It asks the regimes
in force about a day before and a day after for the offsets to try; what remains are the regimes
that do show that time.

* One remains: it is the answer.
* Two remain, in an overlap: the one that is daylight saving or is not, as is asked for; where that
  does not decide, the earlier instant if daylight saving is asked for and else the later one.
* None remains, in a gap: the time is sought six hours away, later if daylight saving is asked for
  and else earlier, and brought back with the regime found there.

`normalize` moves a local time with a regime that does not show it to the regime of its instant.

`resolve` prefers a written offset: if the zone shows the local time with that offset, the answer
has it. Otherwise the zone decides, with daylight saving not asked for.
-/

import TypedInputs.Calendar.DateTime

namespace TypedInputs
namespace Zone

/-- An offset from UTC and the daylight saving in it, both in minutes. -/
structure Regime where
  offset : Int
  saving : Int
deriving Repr, DecidableEq

/-- The offset in seconds. -/
def Regime.seconds (g : Regime) : Int := g.offset * 60

/-- A regime with daylight saving. -/
def Regime.isSaving (g : Regime) : Bool := g.saving != 0

/-- The start of a regime, in UTC seconds since the start of 1970. -/
structure Transition where
  start : Int
  regime : Regime
deriving Repr, DecidableEq

/-- The minutes of a day. Every offset is less than a day. -/
def minutesPerDay : Nat := 1440

/-- The start of the year 1800, before which no zone had a transition. -/
def earliestStart : Int := -5364662400

/-- The end of the year 2100, after which no zone has a transition. -/
def latestStart : Int := 4133980799

/-- A transition that a zone can have. -/
def Transition.IsReal (t : Transition) : Prop :=
  t.regime.offset.natAbs < minutesPerDay ∧ earliestStart ≤ t.start ∧ t.start ≤ latestStart

instance (t : Transition) : Decidable t.IsReal := inferInstanceAs (Decidable (_ ∧ _ ∧ _))

/-- Transitions in ascending order of their starts. -/
def Ascending : List Transition → Prop
  | [] | [_] => True
  | t :: u :: rest => t.start < u.start ∧ Ascending (u :: rest)

instance decidableAscending : (transitions : List Transition) → Decidable (Ascending transitions)
  | [] | [_] => isTrue trivial
  | t :: u :: rest =>
    have := decidableAscending (u :: rest)
    inferInstanceAs (Decidable (t.start < u.start ∧ Ascending (u :: rest)))

/-- Regimes that can follow each other in a zone. -/
def IsHistory (initial : Regime) (transitions : List Transition) : Prop :=
  initial.offset.natAbs < minutesPerDay ∧ (∀ t ∈ transitions, t.IsReal) ∧ Ascending transitions

instance (initial : Regime) (transitions : List Transition) :
    Decidable (IsHistory initial transitions) :=
  inferInstanceAs (Decidable (_ ∧ _ ∧ _))

/-- A history of regimes, the transitions in ascending order. -/
structure Rules where
  initial : Regime
  transitions : List Transition
  isHistory : IsHistory initial transitions
deriving DecidableEq

/-- A local time in seconds and the regime it is meant under. -/
structure LocalTime where
  seconds : Int
  regime : Regime
deriving Repr, DecidableEq

/-- A sum of seconds, if the calendar has it. -/
def shift? (seconds delta : Int) : Option Int :=
  let sum := seconds + delta
  if Calendar.firstSecond ≤ sum ∧ sum ≤ Calendar.lastSecond then some sum else none

namespace Rules

/-- The regime in force at an instant. -/
def regimeAt (r : Rules) (instant : Int) : Regime :=
  let begun := r.transitions.takeWhile fun t => decide (t.start ≤ instant)
  (begun.getLast?.map (·.regime)).getD r.initial

/-- The local time of an instant. -/
def fromUtc (r : Rules) (instant : Int) : Option LocalTime :=
  let regime := r.regimeAt instant
  (shift? instant regime.seconds).map (⟨·, regime⟩)

/-- The local time of the instant that a local time is under its regime. -/
def normalize (r : Rules) (t : LocalTime) : Option LocalTime :=
  (shift? t.seconds (-t.regime.seconds)).bind r.fromUtc

/-- A day in seconds. -/
def day : Int := Calendar.secondsPerDay

/-- Six hours in seconds. -/
def sixHours : Int := 21600

/-- The local times to consider for a wall clock reading: that reading under the regimes in force
about `delta` away, normalized, if it still is that reading then. There are none where `delta` leads
out of the calendar. -/
def candidate (r : Rules) (n delta : Int) : Option (List LocalTime) :=
  match shift? n delta with
  | none => some []
  | some around =>
    (r.normalize ⟨n, r.regimeAt around⟩).map fun t => if t.seconds = n then [t] else []

/-- The regimes that show a wall clock reading, without repetition of an offset. -/
def candidates (r : Rules) (n : Int) : Option (List LocalTime) := do
  let before ← r.candidate n (-day)
  let after ← r.candidate n day
  return before ++ after.filter fun t => before.all fun b => b.regime.offset != t.regime.offset

/-- The choice between two regimes that show the same reading. -/
def choose (isSaving : Bool) (a b : LocalTime) : LocalTime :=
  if a.regime.isSaving != b.regime.isSaving then
    if a.regime.isSaving == isSaving then a else b
  else if isSaving then
    if a.regime.offset ≥ b.regime.offset then a else b
  else
    if a.regime.offset ≥ b.regime.offset then b else a

/-- The local time with a wall clock reading, daylight saving being asked for or not. -/
def localize (r : Rules) (n : Int) (isSaving : Bool) : Option LocalTime :=
  match r.candidates n with
  | none => none
  | some [t] => some t
  | some (a :: b :: _) => some (choose isSaving a b)
  | some [] =>
    if isSaving then
      if n + sixHours ≤ Calendar.lastSecond then
        (localize r (n + sixHours) true).bind fun t =>
          (shift? t.seconds (-sixHours)).map (⟨·, t.regime⟩)
      else none
    else if Calendar.firstSecond ≤ n - sixHours then
      (localize r (n - sixHours) false).bind fun t =>
        (shift? t.seconds sixHours).map (⟨·, t.regime⟩)
    else none
termination_by
  if isSaving then (Calendar.lastSecond - n).toNat else (n - Calendar.firstSecond).toNat
decreasing_by
  all_goals simp_all only [sixHours, if_true, Bool.false_eq_true, if_false]; omega

/-- The normalized local time with a wall clock reading. -/
def settle (r : Rules) (n : Int) (isSaving : Bool) : Option LocalTime :=
  (r.localize n isSaving).bind r.normalize

/-- Whether a local time has a reading and an offset in seconds. -/
def LocalTime.shows (t : LocalTime) (n offset : Int) : Bool :=
  t.seconds == n && t.regime.seconds == offset

/-- The local time with a wall clock reading and, if the zone has it so, a written offset. -/
def resolve (r : Rules) (n offset : Int) : Option LocalTime := do
  let standard ← r.settle n false
  if LocalTime.shows standard n offset then return standard
  let saving ← r.settle n true
  if LocalTime.shows saving n offset then return saving
  return standard

end Rules
end Zone
end TypedInputs
