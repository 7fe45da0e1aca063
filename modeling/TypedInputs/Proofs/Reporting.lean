/-
# Results of work that reports, and what it leaves

What is reported goes to the diagnostics, and what comes out is the result. Where each step has a
result that the diagnostics do not touch, so has the whole: `result_bind` and `result_foldlM` take
the results of the steps to the result of their sequence, without the diagnostics.

The diagnostics that work leaves do depend on results, because a failure ends it (`left_bind`). A
whole run, with its result and what it leaves, is followed through a sequence by `run_bind_of_ok` and
`run_bind_of_error`.
-/

import TypedInputs.Diagnostics

namespace TypedInputs
namespace Reporting

open Diagnostics

variable {ε δ α β : Type}

/-- The result of work that starts with some diagnostics. -/
def result (work : Reporting ε α) (d : Diagnostics) : Except ε α := (work.run d).1

theorem result_eq (work : Reporting ε α) (d : Diagnostics) : work.result d = (work.run d).1 := rfl

theorem result_lift_bind (a : α) (next : α → Reporting ε β) (d : Diagnostics) :
    ((liftM (Except.ok a : Except ε α) : Reporting ε α) >>= next).result d =
      (next a).result d := rfl

/-- **The result of a sequence** whose second part has a result that the diagnostics do not
touch. -/
theorem result_bind {work : Reporting ε α} {next : α → Reporting ε β} {f : α → Except ε β}
    (h : ∀ a d, (next a).result d = f a) (d : Diagnostics) :
    (work >>= next).result d = work.result d >>= f := by
  have hrun : (work >>= next).result d = match (work d).1 with
      | .ok a => (next a).result (work d).2
      | .error e => .error e := by
    show ((ExceptT.bindCont next (work d).1) (work d).2).1 = _
    cases (work d).1 <;> rfl
  rw [hrun]
  show _ = (work d).1 >>= f
  cases (work d).1 with
  | error e => rfl
  | ok a => exact h a (work d).2

/-- A result is mapped by what follows it. -/
theorem result_bind_pure (work : Reporting ε α) (g : α → β) (d : Diagnostics) :
    (work >>= fun a => pure (g a)).result d = (work.result d).map g := by
  rw [result_bind (f := fun a => .ok (g a)) fun _ _ => rfl]
  cases work.result d <;> rfl

theorem result_withUid (uid : String) (work : Reporting ε α) (d : Diagnostics) :
    (withUid uid work).result d = work.result (d.push uid).2 := rfl

theorem result_adapt (f : ε → δ) (work : Reporting ε α) (d : Diagnostics) :
    result (ExceptT.adapt f work : Reporting δ α) d = (work.result d).mapError f := rfl

/-- **The result of a loop** whose step has a result that the diagnostics do not touch. -/
theorem result_foldlM {step : β → α → Reporting ε β} {f : β → α → Except ε β}
    (h : ∀ b a d, (step b a).result d = f b a) (items : List α) (b : β) (d : Diagnostics) :
    (items.foldlM step b).result d = items.foldlM f b := by
  induction items generalizing b d with
  | nil => rfl
  | cons a rest ih =>
    rw [List.foldlM_cons, List.foldlM_cons, result_bind fun b d => ih b d, h]

/-! ### Whole runs -/

/-- A sequence whose first part has a result. -/
theorem run_bind_of_ok {work : Reporting ε α} {d d' : Diagnostics} {a : α}
    (h : work.run d = (.ok a, d')) (next : α → Reporting ε β) :
    (work >>= next).run d = (next a).run d' := by
  show (ExceptT.bindCont next (work.run d).1) (work.run d).2 = _
  rw [h]
  rfl

/-- A sequence whose first part fails. -/
theorem run_bind_of_error {work : Reporting ε α} {d d' : Diagnostics} {e : ε}
    (h : work.run d = (.error e, d')) (next : α → Reporting ε β) :
    (work >>= next).run d = (.error e, d') := by
  show (ExceptT.bindCont next (work.run d).1) (work.run d).2 = _
  rw [h]
  rfl

/-- A run with a uid in force, which is restored afterwards. -/
theorem run_withUid {uid : String} (huid : uid ≠ "") (work : Reporting ε α) (d : Diagnostics) :
    (withUid uid work).run d =
      ((work.run { d with uid }).1, { (work.run { d with uid }).2 with uid := d.uid }) := by
  show ((work.run (d.push uid).2).1, (work.run (d.push uid).2).2.restore (d.push uid).1) = _
  rw [Diagnostics.push, if_neg huid]
  rfl

/-! ### What is left -/

/-- The diagnostics that work leaves which starts with some diagnostics. -/
def left (work : Reporting ε α) (d : Diagnostics) : Diagnostics := (work.run d).2

theorem run_eq (work : Reporting ε α) (d : Diagnostics) :
    work.run d = (work.result d, work.left d) := rfl

/-- **What a sequence leaves:** the second part is only reached when the first has a result. -/
theorem left_bind (work : Reporting ε α) (next : α → Reporting ε β) (d : Diagnostics) :
    (work >>= next).left d = match work.result d with
      | .ok a => (next a).left (work.left d)
      | .error _ => work.left d := by
  show ((ExceptT.bindCont next (work d).1) (work d).2).2 = match (work d).1 with
      | .ok a => (next a).left (work d).2
      | .error _ => (work d).2
  cases (work d).1 <;> rfl

/-- A result alone leaves the diagnostics. -/
theorem left_lift (result : Except ε α) (d : Diagnostics) :
    left (liftM result : Reporting ε α) d = d := by
  cases result <;> rfl

theorem left_lift_bind (a : α) (next : α → Reporting ε β) (d : Diagnostics) :
    ((liftM (Except.ok a : Except ε α) : Reporting ε α) >>= next).left d = (next a).left d := rfl

theorem left_adapt (f : ε → δ) (work : Reporting ε α) (d : Diagnostics) :
    left (ExceptT.adapt f work : Reporting δ α) d = work.left d := rfl

/-- Work with a uid in force leaves the uid that was in force before. -/
theorem left_withUid {uid : String} (huid : uid ≠ "") (work : Reporting ε α) (d : Diagnostics) :
    (withUid uid work).left d = { work.left { d with uid } with uid := d.uid } := by
  show (work (d.push uid).2).2.restore (d.push uid).1 = _
  rw [Diagnostics.push, if_neg huid]
  rfl

end Reporting
end TypedInputs
