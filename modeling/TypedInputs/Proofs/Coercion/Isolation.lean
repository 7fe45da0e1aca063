/-
# Inputs do not disturb each other

What an input gets depends on its declared type and its own argument. Other arguments, the uid, the
uid that is in force, the level of the log and the state of the event bus may differ from one
coercion to the next, and the order of the inputs decides about the order of the result alone.
-/

import TypedInputs.Proofs.Coercion.Harvest

namespace TypedInputs
namespace Coercion

open Diagnostics

section

variable [Zone.Directory]

/-- What an input gets depends on its own argument alone. -/
theorem valueOf_congr {fields fields' : List (String × Value)} {input : Input}
    (h : field? fields input.name = field? fields' input.name) :
    valueOf fields input = valueOf fields' input := by
  have hargument : argumentOf fields input = argumentOf fields' input := by
    rw [argumentOf, argumentOf, h]
  rw [valueOf, valueOf, hargument]

/-- **A name's value depends on the argument of the name alone.** -/
theorem field?_yields_congr {fields fields' : List (String × Value)} {name : String}
    (h : field? fields name = field? fields' name) (inputs : List Input) :
    field? (putFields [] (yields fields inputs)) name =
      field? (putFields [] (yields fields' inputs)) name := by
  rw [field?_putFields_yields, field?_putFields_yields]
  congr 1
  funext input
  split_ifs with hname
  · exact valueOf_congr (by rw [hname, h])
  · rfl

end

/-- **Coercion keeps inputs apart, and diagnostics have no part in it.** Two coercions for the same
inputs that have results agree on every name on whose argument they agree, whatever their other
arguments, their uids and their diagnostics are. And when no two inputs share a name, coercing them
in another order has a result too, with the same entries. -/
theorem coerceAll_isolated [Zone.Directory] {inputs : List Input} {uid uid' : String}
    {fields fields' : List (String × Value)} {d d' : Diagnostics} {r r' : List (String × Value)}
    (hnodup : (inputs.map Input.name).Nodup)
    (h : ((coerceAll uid inputs (.object fields)).run d).1 = .ok r)
    (h' : ((coerceAll uid' inputs (.object fields')).run d').1 = .ok r') :
    (∀ name, field? fields name = field? fields' name → field? r name = field? r' name) ∧
    ∀ inputs', inputs.Perm inputs' →
      ∃ s, ((coerceAll uid' inputs' (.object fields)).run d').1 = .ok s ∧ r.Perm s := by
  obtain ⟨hescapes, rfl⟩ := coerceAll_eq_ok.1 h
  obtain ⟨-, rfl⟩ := coerceAll_eq_ok.1 h'
  refine ⟨fun name hname => field?_yields_congr hname inputs, fun inputs' hperm => ?_⟩
  have hnodup' : (inputs'.map Input.name).Nodup := (hperm.map Input.name).nodup_iff.1 hnodup
  refine ⟨_, coerceAll_eq_ok.2 ⟨hescapes.perm hperm, rfl⟩, ?_⟩
  rw [putFields_yields hnodup, putFields_yields hnodup']
  exact hperm.filterMap _

/-- Inputs for the level and the mode of a lamp. -/
def lampInputs : List Input := [byteLevel, modeInput]

/-- Arguments for the lamp. -/
def lampArguments : List (String × Value) := [("level", .text "7"), ("mode", .text "3")]

/-- Arguments with the same level, a mode that fails and one that is not declared. -/
def otherArguments : List (String × Value) :=
  [("other", .null), ("mode", .text "dim"), ("level", .text "7")]

/-- Diagnostics of another action, with a full bus whose observer fails. -/
def otherDiagnostics : Diagnostics where
  uid := "outer"
  log := ⟨.debug, [], []⟩
  bus := some
    ((EventBus.create [.failing] 1).publish ⟨"describe.input", "unsupported", "outer", .null⟩)
  route := .bus

set_option maxRecDepth 20000 in
/-- The level does not notice what becomes of the mode. -/
theorem coerceAll_isolated_lamp :
    ((coerceAll "on" lampInputs (.object lampArguments)).run (.ofLevel .info)).1 =
        .ok [("level", .int 7), ("mode", .int 3)] ∧
      ((coerceAll "off" lampInputs (.object otherArguments)).run otherDiagnostics).1 =
        .ok [("level", .int 7)] ∧
      field? lampArguments "level" = field? otherArguments "level" ∧
      field? [("level", Value.int 7), ("mode", .int 3)] "level" =
        field? [("level", Value.int 7)] "level" ∧
      ∃ s, ((coerceAll "off" lampInputs.reverse (.object lampArguments)).run otherDiagnostics).1 =
          .ok s ∧ [("level", Value.int 7), ("mode", .int 3)].Perm s := by
  have hfirst : ((coerceAll "on" lampInputs (.object lampArguments)).run (.ofLevel .info)).1 =
      .ok [("level", .int 7), ("mode", .int 3)] := rfl
  have hsecond : ((coerceAll "off" lampInputs (.object otherArguments)).run otherDiagnostics).1 =
      .ok [("level", .int 7)] := rfl
  obtain ⟨hvalues, horder⟩ := coerceAll_isolated (by decide) hfirst hsecond
  exact ⟨hfirst, hsecond, rfl, hvalues "level" rfl, horder _ (List.reverse_perm _).symm⟩

end Coercion
end TypedInputs
