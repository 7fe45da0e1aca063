/-
# Zones by name

`Zone.named?` knows a zone by its name in any ASCII case, and answers with its standard spelling.
In a name `_plus_` and `_minus_` stand for the signs. `UTC` in any case is the zone of that name;
a name with a character outside ASCII belongs to no zone. This is the directory that the program
runs with.
-/

import TypedInputs.Zone.Africa
import TypedInputs.Zone.America
import TypedInputs.Zone.Asia
import TypedInputs.Zone.Australia
import TypedInputs.Zone.Directory
import TypedInputs.Zone.Europe
import TypedInputs.Zone.Pacific

namespace TypedInputs
namespace Zone

/-- The zones but UTC, by their standard names. -/
def table : List (String × Clock) :=
  [("Africa/Casablanca", .ruled Africa.casablanca),
   ("Africa/Monrovia", .ruled Africa.monrovia),
   ("America/Caracas", .ruled America.caracas),
   ("America/New_York", .ruled America.newYork),
   ("America/Sao_Paulo", .ruled America.saoPaulo),
   ("America/St_Johns", .ruled America.stJohns),
   ("Asia/Kathmandu", .ruled Asia.kathmandu),
   ("Asia/Kolkata", .ruled Asia.kolkata),
   ("Asia/Pyongyang", .ruled Asia.pyongyang),
   ("Asia/Tokyo", .ruled Asia.tokyo),
   ("Australia/Lord_Howe", .ruled Australia.lordHowe),
   ("Australia/Sydney", .ruled Australia.sydney),
   ("Europe/Dublin", .ruled Europe.dublin),
   ("Europe/London", .ruled Europe.london),
   ("Europe/Paris", .ruled Europe.paris),
   ("Europe/Warsaw", .ruled Europe.warsaw),
   ("Pacific/Apia", .ruled Pacific.apia),
   ("US/Eastern", .ruled America.newYork),
   ("Etc/GMT+5", .fixed (-300)),
   ("Etc/GMT-14", .fixed 840),
   ("Etc/GMT0", .fixed 0),
   ("Etc/UTC", .fixed 0),
   ("GMT", .fixed 0),
   ("GMT0", .fixed 0),
   ("Zulu", .fixed 0)]

/-- A text with a sign in the place of a word, wherever the word stands; `rest` is how much of a
word that was found is still to be left out. -/
def putSign (word : List Char) (sign : Char) (rest : Nat) : List Char → List Char
  | [] => []
  | c :: text =>
    match rest with
    | n + 1 => putSign word sign n text
    | 0 =>
      if word.isPrefixOf (c :: text) then sign :: putSign word sign (word.length - 1) text
      else c :: putSign word sign 0 text

/-- A name with its spelled out signs put back. -/
def withSigns (name : List Char) : List Char :=
  putSign "_minus_".toList '-' 0 (putSign "_plus_".toList '+' 0 name)

/-- The zone with a name. -/
def named? (name : List Char) : Option Named :=
  if name.map Char.toUpper = utcName.toList then some utc
  else if name.all fun c => decide (c.toNat < 128) then
    let key := (withSigns name).map Char.toLower
    (table.find? fun entry => entry.1.toList.map Char.toLower == key).map fun (standard, clock) =>
      ⟨standard, clock⟩
  else none

/-- What a directory promises about one of its zones. -/
def IsListed (zone : Named) : Prop :=
  named? zone.name.toList = some zone ∧ IsBracketable zone.name ∧
    ∀ offset ∈ zone.clock.offsets, offset.natAbs ≤ maxOffsetMinutes

instance (zone : Named) : Decidable (IsListed zone) := inferInstanceAs (Decidable (_ ∧ _ ∧ _))

theorem isListed_utc : IsListed utc := by decide +kernel

/-- All zones of the table have what a directory promises. -/
theorem isListed_of_mem_table :
    ∀ entry ∈ table, IsListed ⟨entry.1, entry.2⟩ := by decide +kernel

/-- What is found by a name has all that a directory promises. -/
theorem isListed_of_named? {name : List Char} {zone : Named} (h : named? name = some zone) :
    IsListed zone := by
  unfold named? at h
  split at h
  · obtain rfl := Option.some.inj h
    exact isListed_utc
  · split at h
    · obtain ⟨entry, he, rfl⟩ := Option.map_eq_some_iff.1 h
      exact isListed_of_mem_table entry (List.mem_of_find?_eq_some he)
    · simp at h

instance directory : Directory where
  find? := named?
  find?_utc := isListed_utc.1
  find?_name h := (isListed_of_named? h).1
  isBracketable_name h := (isListed_of_named? h).2.1
  natAbs_offset_le h := (isListed_of_named? h).2.2 _

end Zone
end TypedInputs
