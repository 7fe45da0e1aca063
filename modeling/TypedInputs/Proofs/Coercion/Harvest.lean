/-
# What coercion harvests

The values that an action gets are what its inputs yield, put under their names one after the other:
`valueOf` is what one input yields, and it depends on nothing but the declared type and the argument.
Coercion has a result exactly when none of the arguments escapes, and then the result is this
(`coerceAll_eq_ok`). Neither the uid nor the diagnostics have a part in it.
-/

import TypedInputs.Proofs.Coercion.Escape
import TypedInputs.Proofs.Fields

namespace TypedInputs
namespace Coercion

open Diagnostics

/-- The value that an argument with a fate gives its input. -/
def Fate.value? (raw : Value) : Fate → Option Value
  | .typed v => some v
  | .passed => some raw
  | .absent | .failed _ => none

/-- What came of an argument has the value of its fate. -/
theorem Fate.value?_coerced (fate : Fate) (input : Input) (raw : Value) (uid : String) :
    (fate.coerced input raw uid).value? = fate.value? raw := by
  cases fate <;> rfl

/-- What came of an argument adds its value to the harvest, if it has one. -/
theorem Harvest.values_add (h : Harvest) (name : String) (c : Coerced) :
    (h.add name c).values = c.value?.elim h.values fun v => setField name v h.values := by
  cases c <;> rfl

variable [Zone.Directory]

/-- The value that an input gets from its argument. -/
def valueOf (fields : List (String × Value)) (input : Input) : Option Value :=
  match fateOf input.declaredType (argumentOf fields input) with
  | .ok fate => fate.value? (argumentOf fields input)
  | .error _ => none

/-- The value of an input is that of the fate of its argument. -/
theorem valueOf_eq {fields : List (String × Value)} {input : Input} {fate : Fate}
    (h : fateOf input.declaredType (argumentOf fields input) = .ok fate) :
    valueOf fields input = fate.value? (argumentOf fields input) := by
  rw [valueOf, h]

/-- Each input that gets a value, with the value. -/
def yields (fields : List (String × Value)) (inputs : List Input) : List (String × Value) :=
  entriesOf Input.name (valueOf fields) inputs

/-- **What is harvested is what the inputs yield,** put under their names one after the other. -/
theorem values_of_foldlM {fields : List (String × Value)} {inputs : List Input}
    {h h' : Harvest} (hrun : inputs.foldlM (harvestFate fields) h = .ok h') :
    h'.values = putFields h.values (yields fields inputs) := by
  induction inputs generalizing h with
  | nil =>
    obtain rfl := Except.ok.inj hrun
    rfl
  | cons input rest ih =>
    rw [List.foldlM_cons, harvestFate] at hrun
    cases hfate : fateOf input.declaredType (argumentOf fields input) with
    | error e =>
      rw [hfate] at hrun
      cases hrun
    | ok fate =>
      rw [hfate] at hrun
      rw [ih hrun, Harvest.values_add, Fate.value?_coerced]
      cases hvalue : fate.value? (argumentOf fields input) with
      | none =>
        rw [yields, yields, entriesOf_cons_of_none ((valueOf_eq hfate).trans hvalue)]
        rfl
      | some v =>
        rw [yields, yields, entriesOf_cons_of_some ((valueOf_eq hfate).trans hvalue)]
        rfl

/-- No argument of the inputs escapes. -/
def NoneEscapes (fields : List (String × Value)) (inputs : List Input) : Prop :=
  ∀ input ∈ inputs, escape? input.declaredType (argumentOf fields input) = none

/-- In another order the inputs do not escape either. -/
theorem NoneEscapes.perm {fields : List (String × Value)} {inputs inputs' : List Input}
    (h : NoneEscapes fields inputs) (hperm : inputs.Perm inputs') : NoneEscapes fields inputs' :=
  fun input hinput => h input (hperm.mem_iff.2 hinput)

/-- All inputs are harvested exactly when nothing escapes from any of them. -/
theorem exists_harvest_iff {fields : List (String × Value)} {inputs : List Input} {h : Harvest} :
    (∃ h', inputs.foldlM (harvestFate fields) h = .ok h') ↔ NoneEscapes fields inputs := by
  have hnone : NoneEscapes fields inputs ↔ inputs.findSome? (fun input =>
      escape? input.declaredType (argumentOf fields input)) = none :=
    List.findSome?_eq_none_iff.symm
  rw [hnone]
  constructor
  · rintro ⟨h', hrun⟩
    rw [Option.eq_none_iff_forall_ne_some]
    intro e hescape
    rw [harvest_eq_error.2 hescape] at hrun
    cases hrun
  · intro hescape
    cases hrun : inputs.foldlM (harvestFate fields) h with
    | ok h' => exact ⟨h', rfl⟩
    | error e =>
      rw [harvest_eq_error.1 hrun] at hescape
      cases hescape

/-- **The result of coercing all arguments.** There is one exactly when no argument escapes, and
then it is what the inputs yield. -/
theorem coerceAll_eq_ok {uid : String} {inputs : List Input} {fields : List (String × Value)}
    {d : Diagnostics} {r : List (String × Value)} :
    (coerceAll uid inputs (.object fields)).result d = .ok r ↔
      NoneEscapes fields inputs ∧ r = putFields [] (yields fields inputs) := by
  rw [result_coerceAll, ← exists_harvest_iff (h := ⟨[], []⟩)]
  constructor
  · intro hresult
    cases hrun : inputs.foldlM (harvestFate fields) ⟨[], []⟩ with
    | error e =>
      rw [hrun] at hresult
      cases hresult
    | ok h =>
      rw [hrun] at hresult
      obtain rfl := Except.ok.inj hresult
      exact ⟨⟨h, rfl⟩, values_of_foldlM hrun⟩
  · rintro ⟨⟨h, hrun⟩, rfl⟩
    rw [hrun, ← values_of_foldlM hrun]
    rfl

/-- The value of a name is what the last input with the name that gets a value yields. -/
theorem field?_putFields_yields (fields : List (String × Value)) (inputs : List Input)
    (name : String) :
    field? (putFields [] (yields fields inputs)) name =
      inputs.reverse.findSome? fun input =>
        if input.name = name then valueOf fields input else none :=
  field?_putFields_entriesOf inputs name

/-- Inputs of which no two share a name yield what is harvested. -/
theorem putFields_yields {fields : List (String × Value)} {inputs : List Input}
    (h : (inputs.map Input.name).Nodup) :
    putFields [] (yields fields inputs) = yields fields inputs :=
  putFields_of_nodup (nodup_map_fst_entriesOf h)

end Coercion
end TypedInputs
