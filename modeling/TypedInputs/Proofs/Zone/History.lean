/-
# The regime in force

`Rules.regimeAt` looks a regime up among the transitions that have begun. Read from the front it is
a recursion, `regimeFrom`: each transition that has begun replaces the regime so far, and the first
one that has not ends the search.

Three facts about it carry all that is said of zones. Before the year 1800 the initial regime is in
force and after 2100 the last one (`regimeAt_of_lt`, `regimeAt_of_le`); and where at most one
transition falls into a span of time, the regime over this span is one step
(`exists_steps_of_atMostOne`).
-/

import Mathlib.Data.List.TakeWhile
import Mathlib.Tactic.Linarith
import TypedInputs.Zone.Directory

namespace TypedInputs
namespace Zone

/-- The regime at an instant when a regime is in force before all transitions. -/
def regimeFrom (g : Regime) (instant : Int) : List Transition → Regime
  | [] => g
  | t :: rest => if t.start ≤ instant then regimeFrom t.regime instant rest else g

/-- The last regime that has begun is found from either end of the history. -/
theorem regimeFrom_eq (g : Regime) (instant : Int) (transitions : List Transition) :
    (((transitions.takeWhile fun t => decide (t.start ≤ instant)).getLast?).map (·.regime)).getD g =
      regimeFrom g instant transitions := by
  induction transitions generalizing g with
  | nil => rfl
  | cons t rest ih =>
    by_cases ht : t.start ≤ instant
    · rw [List.takeWhile_cons_of_pos (by simpa using ht), regimeFrom, if_pos ht, ← ih t.regime]
      cases hbegun : rest.takeWhile fun t => decide (t.start ≤ instant) with
      | nil => rfl
      | cons u more =>
        rw [List.getLast?_cons_cons, List.getLast?_eq_some_getLast (List.cons_ne_nil u more)]
        rfl
    · rw [List.takeWhile_cons_of_neg (by simpa using ht), regimeFrom, if_neg ht]
      rfl

/-- The regime in force is the initial one or one of the history. -/
theorem regimeFrom_mem (g : Regime) (instant : Int) (transitions : List Transition) :
    regimeFrom g instant transitions ∈ g :: transitions.map (·.regime) := by
  induction transitions generalizing g with
  | nil => simp [regimeFrom]
  | cons t rest ih =>
    rw [regimeFrom]
    split_ifs
    · exact List.mem_cons_of_mem _ (ih t.regime)
    · exact List.mem_cons_self

/-- Before all transitions the initial regime is in force. -/
theorem regimeFrom_of_lt {g : Regime} {instant : Int} {transitions : List Transition}
    (h : ∀ t ∈ transitions, instant < t.start) : regimeFrom g instant transitions = g := by
  cases transitions with
  | nil => rfl
  | cons t rest =>
    have := h t List.mem_cons_self
    rw [regimeFrom, if_neg (by omega)]

/-- After all transitions the last regime is in force. -/
theorem regimeFrom_of_le {g : Regime} {instant : Int} {transitions : List Transition}
    (h : ∀ t ∈ transitions, t.start ≤ instant) :
    regimeFrom g instant transitions = (transitions.getLast?.map (·.regime)).getD g := by
  have htake : transitions.takeWhile (fun t => decide (t.start ≤ instant)) = transitions :=
    List.takeWhile_eq_self_iff.2 fun t ht => by simpa using h t ht
  rw [← regimeFrom_eq, htake]

/-- Ascending transitions stand in ascending order pairwise. -/
theorem Ascending.pairwise {transitions : List Transition} (h : Ascending transitions) :
    transitions.Pairwise (·.start < ·.start) := by
  induction transitions with
  | nil => exact .nil
  | cons t rest ih =>
    cases rest with
    | nil => exact List.pairwise_singleton _ t
    | cons u more =>
      obtain ⟨htu, hrest⟩ := h
      have hpairs := ih hrest
      refine List.pairwise_cons.2 ⟨fun v hv => ?_, hpairs⟩
      rcases List.mem_cons.1 hv with rfl | hv
      · exact htu
      · exact htu.trans ((List.pairwise_cons.1 hpairs).1 v hv)

namespace Rules

variable (r : Rules)

/-- The regime at an instant is the one in force after the history up to it. -/
theorem regimeAt_eq (instant : Int) :
    r.regimeAt instant = regimeFrom r.initial instant r.transitions :=
  regimeFrom_eq r.initial instant r.transitions

theorem regimeAt_mem (instant : Int) : r.regimeAt instant ∈ r.regimes := by
  rw [regimeAt_eq]
  exact regimeFrom_mem _ _ _

/-- The regime after all transitions. -/
def final : Regime := (r.transitions.getLast?.map (·.regime)).getD r.initial

/-- Before the year 1800 the initial regime is in force. -/
theorem regimeAt_of_lt {u : Int} (h : u < earliestStart) :
    r.regimeAt u = r.initial := by
  rw [regimeAt_eq]
  refine regimeFrom_of_lt fun t ht => ?_
  have := (r.isHistory.2.1 t ht).2.1
  omega

/-- After the year 2100 the last regime is in force. -/
theorem regimeAt_of_le {u : Int} (h : latestStart ≤ u) :
    r.regimeAt u = r.final := by
  rw [regimeAt_eq]
  refine regimeFrom_of_le fun t ht => ?_
  have := (r.isHistory.2.1 t ht).2.2
  omega

variable {r}

/-- **Every offset is less than a day.** -/
theorem natAbs_seconds_lt {g : Regime} (h : g ∈ r.regimes) : g.seconds.natAbs < 86400 := by
  have hoffset : g.offset.natAbs < minutesPerDay := by
    rcases List.mem_cons.1 h with rfl | h
    · exact r.isHistory.1
    · obtain ⟨t, ht, rfl⟩ := List.mem_map.1 h
      exact (r.isHistory.2.1 t ht).1
  unfold minutesPerDay at hoffset
  unfold Regime.seconds
  omega

theorem initial_mem : r.initial ∈ r.regimes := List.mem_cons_self

theorem final_mem : r.final ∈ r.regimes := by
  have h := r.regimeAt_mem latestStart
  rwa [r.regimeAt_of_le le_rfl] at h

end Rules

/-! ### At most one transition -/

/-- Over the span from `a` to `b` one regime gives way to another at `s`; or the regime stays the
same, and then `s` says nothing. -/
structure Rules.Steps (r : Rules) (a b s : Int) (A B : Regime) : Prop where
  regimeAt_eq_ite : ∀ u, a ≤ u → u ≤ b → r.regimeAt u = if u < s then A else B
  before_mem : A ∈ r.regimes
  after_mem : B ∈ r.regimes
  real : A = B ∨ earliestStart ≤ s ∧ s ≤ latestStart

/-- The transitions of a span of time. -/
def within (a b : Int) (transitions : List Transition) : List Transition :=
  transitions.filter fun t => decide (a ≤ t.start ∧ t.start ≤ b)

/-- **With one transition at most in a span, there are two regimes in it at most:** one before a
certain instant and one from then on. Where they differ, the instant is that of a real
transition. -/
theorem exists_regimeFrom_eq_ite (a b : Int) {transitions : List Transition}
    (hreal : ∀ t ∈ transitions, t.IsReal) (hsorted : transitions.Pairwise (·.start < ·.start))
    (hone : (within a b transitions).length ≤ 1) (g : Regime) :
    ∃ s A B, (∀ u, a ≤ u → u ≤ b → regimeFrom g u transitions = if u < s then A else B) ∧
      A ∈ g :: transitions.map (·.regime) ∧ B ∈ g :: transitions.map (·.regime) ∧
      (A = B ∨ earliestStart ≤ s ∧ s ≤ latestStart) := by
  induction transitions generalizing g with
  | nil => exact ⟨a, g, g, fun u _ _ => by simp [regimeFrom], by simp, by simp, .inl rfl⟩
  | cons t rest ih =>
    obtain ⟨hhead, htail⟩ := List.pairwise_cons.1 hsorted
    have hrest : ∀ u ∈ rest, u.IsReal := fun u hu => hreal u (List.mem_cons_of_mem _ hu)
    rcases lt_or_ge t.start a with hbefore | hafter
    · -- The transition has begun before the span: what counts is the rest.
      have hsub : (within a b rest).length ≤ 1 := by
        rwa [within, List.filter_cons_of_neg (by simp; omega)] at hone
      obtain ⟨s, A, B, heq, hA, hB, hs⟩ := ih hrest htail hsub t.regime
      refine ⟨s, A, B, fun u ha hb => ?_, List.mem_cons_of_mem _ hA, List.mem_cons_of_mem _ hB, hs⟩
      rw [regimeFrom, if_pos (by omega)]
      exact heq u ha hb
    · rcases lt_or_ge b t.start with hlate | hin
      · -- The transition begins after the span: nothing changes on it.
        refine ⟨a, g, g, fun u _ hb => ?_, by simp, by simp, .inl rfl⟩
        rw [regimeFrom, if_neg (by omega)]
        simp
      · -- The transition falls into the span: it is the only one that does.
        have hnone : within a b rest = [] := by
          rw [within, List.filter_cons_of_pos (by simp; omega), List.length_cons] at hone
          exact List.eq_nil_of_length_eq_zero (by unfold within; omega)
        have hlater : ∀ u ∈ rest, b < u.start := by
          intro u hu
          have hstart := hhead u hu
          have hout := List.filter_eq_nil_iff.1 hnone u hu
          rw [decide_eq_true_iff] at hout
          omega
        refine ⟨t.start, g, t.regime, fun u ha hb => ?_, by simp, by simp, .inr
          (hreal t List.mem_cons_self).2⟩
        rw [regimeFrom]
        by_cases hu : t.start ≤ u
        · rw [if_pos hu, if_neg (by omega)]
          exact regimeFrom_of_lt fun v hv => by have := hlater v hv; omega
        · rw [if_neg hu, if_pos (by omega)]

/-- **Where at most one transition falls into a span, the regime over it is one step.** -/
theorem Rules.exists_steps_of_atMostOne {r : Rules} {a b : Int}
    (h : (within a b r.transitions).length ≤ 1) : ∃ s A B, r.Steps a b s A B := by
  obtain ⟨s, A, B, heq, hA, hB, hs⟩ :=
    exists_regimeFrom_eq_ite a b r.isHistory.2.1 r.isHistory.2.2.pairwise h r.initial
  exact ⟨s, A, B, fun u ha hb => by rw [r.regimeAt_eq]; exact heq u ha hb, hA, hB, hs⟩

end Zone
end TypedInputs
