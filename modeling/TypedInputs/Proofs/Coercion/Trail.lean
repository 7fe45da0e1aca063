/-
# What coercion leaves in the diagnostics

A failure leaves a warning and a notice, and nothing else that becomes of an argument leaves a trace
(`left_coerceOne`). Coercing one input after the other leaves the reports of their failures in this
order, up to the first argument that escapes: the `trail` of the inputs. It is the same for every
loop that coerces inputs and never fails by itself, whatever else the loop does with their values
(`left_foldlM`). After the trail, coercing all arguments adds remarks only (`remarks_coerceAll`).
-/

import TypedInputs.Proofs.Coercion.Outcome
import TypedInputs.Proofs.Diagnostics.Reports

namespace TypedInputs

open Diagnostics

/-- The diagnostics after a failure was reported. One that has no shown form is not. -/
def CoercionFailure.reported (f : CoercionFailure) (d : Diagnostics) : Diagnostics :=
  match f.value.shown with
  | .ok shown => (d.record .warning Coercion.logger (f.warning shown)).notify (f.notice shown)
  | .error _ => d

/-- The diagnostics after what became of an argument was reported. -/
def Coerced.reported : Coerced → Diagnostics → Diagnostics
  | .failed f, d => f.reported d
  | .absent, d | .typed .., d | .passed .., d => d

/-- Diagnostics that agree do so after the same report. -/
theorem Diagnostics.Agree.reported {d e : Diagnostics} (h : Agree d e) (c : Coerced) :
    Agree (c.reported d) (c.reported e) := by
  cases c with
  | failed f =>
    show Agree (f.reported d) (f.reported e)
    unfold CoercionFailure.reported
    cases f.value.shown with
    | ok shown => exact (h.record _ _ _).notify _
    | error fault => exact h
  | absent | typed | passed => exact h

namespace Coercion

open Number

/-- **The remarks at the end are remarks.** -/
theorem remarks_remark (uid : String) (inputs : List Input) (fields : List (String × Value))
    (h : Harvest) (d : Diagnostics) :
    Remarks .debug d ((remark uid inputs (.object fields) h).left d) := by
  obtain ⟨undeclared, shown, hundeclared, hshown⟩ :=
    Value.exists_undeclared fields (inputs.map Input.name)
  unfold remark
  rw [hundeclared]
  simp only [Except.mapError, hshown, Reporting.left_lift_bind]
  split_ifs
  · exact (remarks_record d _ _ _).trans (remarks_record _ _ _ _)
  · exact remarks_record d _ _ _
  · exact remarks_record d _ _ _
  · exact remarks_refl _ d

variable [Zone.Directory]

/-- **What coercing an argument leaves:** the report of a failure, or nothing. -/
theorem left_coerceOne (input : Input) (raw : Value) (uid : String) (d : Diagnostics) :
    (coerceOne input raw uid).left d = match fateOf input.declaredType raw with
      | .ok fate => (fate.coerced input raw (if uid = "" then d.uid else uid)).reported d
      | .error _ => d := by
  by_cases hnull : raw = .null
  · subst hnull
    rfl
  rw [fateOf_of_ne_null hnull, coerceOne_of_ne_null hnull]
  cases convert input.declaredType raw with
  | error e => rfl
  | ok conversion =>
    cases conversion with
    | typed v => rfl
    | passed => rfl
    | invalid fault =>
      show _ = match Conversion.fate raw (.invalid fault) with
        | .ok fate => (fate.coerced input raw (if uid = "" then d.uid else uid)).reported d
        | .error _ => d
      simp only [report, Conversion.fate]
      cases hshown : raw.shown with
      | ok shown =>
        simp only [Fate.coerced, Coerced.reported, CoercionFailure.reported, hshown]
        rfl
      | error fault => rfl

/-- The diagnostics after inputs were coerced one after the other. The first argument that escapes
ends it. -/
def trail (uid : String) (fields : List (String × Value)) : List Input → Diagnostics → Diagnostics
  | [], d => d
  | input :: rest, d =>
    match fateOf input.declaredType (argumentOf fields input) with
    | .ok fate =>
      trail uid fields rest ((fate.coerced input (argumentOf fields input) uid).reported d)
    | .error _ => d

/-- Diagnostics that agree do so after the same trail. -/
theorem agree_trail {d e : Diagnostics} (h : Agree d e) (uid : String)
    (fields : List (String × Value)) (inputs : List Input) :
    Agree (trail uid fields inputs d) (trail uid fields inputs e) := by
  induction inputs generalizing d e with
  | nil => exact h
  | cons input rest ih =>
    unfold trail
    split
    · exact ih (h.reported _)
    · exact h

/-- **What a loop leaves that coerces its inputs:** their trail, when the loop does not fail by
itself. -/
theorem left_foldlM {β : Type} {uid : String} (huid : uid ≠ "") {fields : List (String × Value)}
    {step : β → Input → Reporting Escape β} {f : β → Input → Coerced → Except Escape β}
    (hstep : ∀ b input, step b input =
      coerceOne input (argumentOf fields input) uid >>= fun c => liftM (f b input c))
    (hf : ∀ b input fate, fateOf input.declaredType (argumentOf fields input) = .ok fate →
      ∃ b', f b input (fate.coerced input (argumentOf fields input) uid) = .ok b')
    (inputs : List Input) (b : β) (d : Diagnostics) :
    (inputs.foldlM step b).left d = trail uid fields inputs d := by
  induction inputs generalizing b d with
  | nil => rfl
  | cons input rest ih =>
    have hleft := left_coerceOne input (argumentOf fields input) uid d
    have hresult := result_coerceOne input (argumentOf fields input) uid d
    rw [if_neg huid] at hleft hresult
    rw [List.foldlM_cons, Reporting.left_bind, hstep,
      Reporting.result_bind (f := f b input) (fun _ _ => rfl), Reporting.left_bind, hresult,
      trail]
    cases hfate : fateOf input.declaredType (argumentOf fields input) with
    | error e =>
      rw [hfate] at hleft
      exact hleft
    | ok fate =>
      obtain ⟨b', hb'⟩ := hf b input fate hfate
      rw [hfate] at hleft
      simp only [Except.map, bind, Except.bind, hb', Reporting.left_lift, hleft]
      exact ih b' _

/-- **What coercing all arguments leaves:** the trail of the inputs, and behind it remarks. -/
theorem remarks_coerceAll {uid : String} (huid : uid ≠ "") (inputs : List Input)
    (fields : List (String × Value)) (d : Diagnostics) :
    Remarks .debug { trail uid fields inputs { d with uid } with uid := d.uid }
      ((coerceAll uid inputs (.object fields)).left d) := by
  have htrail : ∀ d, (inputs.foldlM (harvestOne uid (.object fields)) ⟨[], []⟩).left d =
      trail uid fields inputs d := by
    refine left_foldlM huid (f := fun h input c => .ok (h.add input.name c)) ?_ ?_ inputs _
    · exact fun h input => rfl
    · exact fun h input fate _ => ⟨_, rfl⟩
  unfold coerceAll
  simp only [orNoArguments_object]
  rw [Reporting.left_withUid huid, Reporting.left_bind, htrail]
  refine Remarks.withUid ?_ d.uid
  cases (inputs.foldlM (harvestOne uid (.object fields)) ⟨[], []⟩).result { d with uid } with
  | error e => exact remarks_refl _ _
  | ok h =>
    have hremark := remarks_remark uid inputs fields h (trail uid fields inputs { d with uid })
    show Remarks .debug _ ((remark uid inputs (.object fields) h >>= fun _ => pure h.values).left _)
    rw [Reporting.left_bind, result_remark]
    exact hremark

end Coercion
end TypedInputs
