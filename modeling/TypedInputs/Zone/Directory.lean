/-
# Directories of zones

A zone has a name in its standard spelling and a clock, which shows one offset for ever or follows a
history of regimes. A directory finds a zone by a name in any spelling that it accepts, and promises
this much about what it finds:

* `UTC` is the zone of that name, without an offset;
* a zone is found again by its standard name;
* a standard name is not empty and has no closing bracket, so that it can stand in brackets;
* no clock is more than 18 hours from UTC.

Whatever reads or coerces dates works with any directory. `Zone.Lookup` has the one that the program
runs with.
-/

import TypedInputs.Zone.Rules

namespace TypedInputs
namespace Zone

/-- The regimes of a history, the initial one first. -/
def Rules.regimes (r : Rules) : List Regime := r.initial :: r.transitions.map (·.regime)

/-- How a zone sets its offset: one offset in minutes for ever, or a history of regimes. -/
inductive Clock where
  | fixed (offset : Int)
  | ruled (rules : Rules)
deriving DecidableEq

/-- The offsets that a clock ever shows, in minutes. -/
def Clock.offsets : Clock → List Int
  | .fixed offset => [offset]
  | .ruled rules => rules.regimes.map (·.offset)

/-- A time zone under its standard name. -/
structure Named where
  name : String
  clock : Clock
deriving DecidableEq

/-- The name of the zone that is UTC itself. -/
def utcName : String := "UTC"

/-- UTC as a zone. -/
def utc : Named := ⟨utcName, .fixed 0⟩

/-- A name that can stand in brackets. -/
def IsBracketable (name : String) : Prop := name ≠ "" ∧ ']' ∉ name.toList

instance (name : String) : Decidable (IsBracketable name) := inferInstanceAs (Decidable (_ ∧ _))

/-- The minutes of 18 hours, which no zone is farther from UTC. -/
def maxOffsetMinutes : Nat := 18 * 60

/-- A directory of zones. -/
class Directory where
  /-- The zone with a name. -/
  find? : List Char → Option Named
  find?_utc : find? utcName.toList = some utc
  find?_name : ∀ {name zone}, find? name = some zone → find? zone.name.toList = some zone
  isBracketable_name : ∀ {name zone}, find? name = some zone → IsBracketable zone.name
  natAbs_offset_le : ∀ {name zone offset}, find? name = some zone →
    offset ∈ zone.clock.offsets → offset.natAbs ≤ maxOffsetMinutes

end Zone
end TypedInputs
