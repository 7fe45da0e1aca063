/-
# Gaps

Where at most one transition lies within three days of a reading, the regime is one step there
(`Rules.StepsNear`), and a reading without a candidate is in the gap of this step: its instant is
after the step under the first regime and before it under the second one (`StepsNear.gap`). The
search then comes back with the first regime, and the reading moves on by the width of the gap.

The reading that it moves to has one regime only. So a resolution is stable: the reading that comes
out resolves to itself with the offset that comes out (`StepsNear.resolvesTo`).
-/

import TypedInputs.Proofs.Zone.Resolution

namespace TypedInputs
namespace Zone
namespace Rules

variable {r : Rules} {n s : Int} {A B : Regime} {t : LocalTime}

/-- Three days in seconds. -/
def threeDays : Int := 3 * day

/-- A zone whose regime is one step within three days of a reading. -/
def StepsNear (r : Rules) (n s : Int) (A B : Regime) : Prop :=
  r.Steps (n - threeDays) (n + threeDays) s A B

/-- Near the reading two regimes are in force, one before the step and one after it. -/
theorem StepsNear.regimeAt_eq (h : r.StepsNear n s A B) {u : Int}
    (hu : (u - n).natAbs ≤ 259200) : r.regimeAt u = if u < s then A else B := by
  have hthree : threeDays = 259200 := rfl
  exact Steps.regimeAt_eq_ite h u (by omega) (by omega)

/-- What shows the reading has the first regime before the step, or the second one after it. -/
theorem StepsNear.regime_of_isShown (h : r.StepsNear n s A B) {m : Int}
    (hm : (m - n).natAbs ≤ 172800) (ht : r.IsShown m t) :
    t.regime = A ∧ m - A.seconds < s ∨ t.regime = B ∧ s ≤ m - B.seconds := by
  have hregime := ht.regimeAt_eq
  have hg := natAbs_seconds_lt ht.regime_mem
  rw [h.regimeAt_eq (by omega)] at hregime
  split_ifs at hregime with hs
  · exact .inl ⟨hregime.symm, by rw [hregime]; exact hs⟩
  · exact .inr ⟨hregime.symm, by rw [hregime]; omega⟩

/-- **Without a candidate the reading is in a gap:** its instant is after the step under the first
regime and before it under the second. -/
theorem StepsNear.gap (h : r.StepsNear n s A B) {m : Int} (hm : (m - n).natAbs ≤ 172800)
    (hsecond : IsSecond m) (hnil : r.candidates m = some []) :
    s ≤ m - A.seconds ∧ m - B.seconds < s := by
  have hnear := isNear_of_candidates_nil hsecond hnil
  obtain ⟨hbefore, hafter⟩ := candidates_eq_nil.1 hnil
  have hday : day = 86400 := rfl
  have hA := natAbs_seconds_lt (Steps.before_mem h)
  have hB := natAbs_seconds_lt (Steps.after_mem h)
  rw [isNear_iff] at hnear
  have hbefore := seconds_ne_of_candidate_nil (isSecond_iff.2 (by omega)) hbefore
  have hafter := seconds_ne_of_candidate_nil (isSecond_iff.2 (by omega)) hafter
  rw [h.regimeAt_eq (u := m + -day) (by omega)] at hbefore
  rw [h.regimeAt_eq (u := m + day) (by omega)] at hafter
  constructor
  · split_ifs at hbefore with hs
    · rw [h.regimeAt_eq (by omega)] at hbefore
      by_contra hlt
      rw [if_pos (by omega)] at hbefore
      exact hbefore rfl
    · rw [h.regimeAt_eq (by omega), if_neg (by omega)] at hbefore
      exact absurd rfl hbefore
  · split_ifs at hafter with hs
    · rw [h.regimeAt_eq (by omega), if_pos (by omega)] at hafter
      exact absurd rfl hafter
    · rw [h.regimeAt_eq (by omega)] at hafter
      by_contra hlt
      rw [if_neg (by omega)] at hafter
      exact hafter rfl

/-- The search in a gap goes back to the first regime. -/
theorem StepsNear.regime_of_localize (h : r.StepsNear n s A B) (hn : IsNear n)
    (hgap : n - B.seconds < s) (hwide : B.seconds - A.seconds ≤ 129600) {m : Int}
    (hle : m ≤ n) (hge : s + A.seconds - sixHours ≤ m) (ht : r.localize m false = some t) :
    t.regime = A := by
  have hsix : sixHours = 21600 := rfl
  have hsecond : IsSecond m := by
    rw [isNear_iff] at hn
    rw [isSecond_iff]
    omega
  generalize hasked : false = isSaving at ht
  fun_induction r.localize m isSaving generalizing t with
  | case1 => exact absurd ht (by simp)
  | case2 m isSaving u hcandidates =>
    obtain rfl := Option.some.inj ht
    have hshown := isShown_of_mem_candidates hcandidates (List.mem_singleton_self u)
    rcases h.regime_of_isShown (by omega) hshown with ⟨hA, -⟩ | ⟨-, hB⟩
    · exact hA
    · omega
  | case3 m isSaving a b rest hcandidates =>
    obtain rfl := Option.some.inj ht
    have hshown := isShown_choose isSaving hcandidates
    rcases h.regime_of_isShown (by omega) hshown with ⟨hA, -⟩ | ⟨-, hB⟩
    · exact hA
    · omega
  | case4 => exact absurd hasked (by simp)
  | case5 => exact absurd hasked (by simp)
  | case6 m isSaving hcandidates _ hfirst ih =>
    obtain ⟨hbegun, -⟩ := h.gap (by omega) hsecond hcandidates
    obtain ⟨u, hu, -, rfl⟩ := bind_shift?_eq_some.1 ht
    show u.regime = A
    exact ih (by omega) (by omega) ⟨hfirst, le_trans (by omega) hsecond.2⟩ rfl hu
  | case7 => exact absurd ht (by simp)

/-- **A reading in a gap moves on by the width of the gap,** to the second regime. -/
theorem StepsNear.eq_of_settle_gap (h : r.StepsNear n s A B)
    (hwide : B.seconds - A.seconds ≤ 129600) (hn : IsSecond n) (hnil : r.candidates n = some [])
    (ht : r.settle n false = some t) : t = ⟨n - A.seconds + B.seconds, B⟩ := by
  obtain ⟨u, hu, hnormal⟩ := settle_eq_some.1 ht
  obtain ⟨hbegun, hgap⟩ := h.gap (by omega) hn hnil
  have hA := natAbs_seconds_lt (Steps.before_mem h)
  have hregime := h.regime_of_localize (isNear_of_candidates_nil hn hnil) hgap hwide le_rfl
    (by unfold sixHours; omega) hu
  have hinstant : u.instant = n - A.seconds := by
    rw [LocalTime.instant, (localize_eq_some hu).1, hregime]
  have hB : r.regimeAt (n - A.seconds) = B := by rw [h.regimeAt_eq (by omega), if_neg (by omega)]
  obtain ⟨-, -, hclock⟩ := normalize_eq_some.1 hnormal
  rw [hclock, hinstant, clockAt, hB]

/-- Where a reading from a gap moves to, only the second regime shows it. -/
theorem StepsNear.resolvesTo_after_gap (h : r.StepsNear n s A B)
    (hwide : B.seconds - A.seconds ≤ 129600) (hn : IsSecond n) (hnil : r.candidates n = some [])
    (hsecond : IsSecond (n - A.seconds + B.seconds)) :
    r.ResolvesTo (n - A.seconds + B.seconds) B.seconds := by
  obtain ⟨hbegun, hgap⟩ := h.gap (by omega) hn hnil
  generalize hm : n - A.seconds + B.seconds = m at hsecond
  have hcovers : r.Covers m := by
    have := covers_of_isNear (r := r) (d := B.seconds - A.seconds)
      (isNear_of_candidates_nil hn hnil) (by omega)
    rwa [show n + (B.seconds - A.seconds) = m by omega] at this
  obtain ⟨v, hv⟩ := exists_localize false hsecond hcovers
  obtain ⟨hseconds, -, hshown | hvnil⟩ := localize_eq_some hv
  · have hB : v.regime = B := by
      rcases h.regime_of_isShown (by omega) hshown with ⟨-, hlt⟩ | ⟨hB, -⟩
      · omega
      · exact hB
    have hagain := resolvesTo_of_settle (settle_eq_some.2 ⟨v, hv, hshown.settled⟩) hseconds
    rwa [hB] at hagain
  · have := h.gap (by omega) hsecond hvnil
    omega

/-- **A resolution resolves to itself,** also when the reading was in a gap and moved. -/
theorem StepsNear.resolvesTo (h : r.StepsNear n s A B)
    (hoffsets : ∀ g ∈ r.regimes, g.seconds.natAbs ≤ 64800) (hn : IsSecond n) {offset : Int}
    (ht : r.resolve n offset = some t) : r.ResolvesTo t.seconds t.regime.seconds := by
  have hA := hoffsets A (Steps.before_mem h)
  have hB := hoffsets B (Steps.after_mem h)
  by_cases hkept : t.seconds = n
  · rw [hkept]
    exact resolvesTo_of_resolve ht hkept
  rcases settle_of_resolve ht with hsettle | ⟨-, hseconds⟩
  · have hnil : r.candidates n = some [] := by
      obtain ⟨u, hu, hnormal⟩ := settle_eq_some.1 hsettle
      obtain ⟨hseconds, -, hshown | hnil⟩ := localize_eq_some hu
      · rw [hshown.settled] at hnormal
        exact absurd (Option.some.inj hnormal ▸ hseconds) hkept
      · exact hnil
    have hsecond := isSecond_of_resolve ht
    obtain rfl := h.eq_of_settle_gap (by omega) hn hnil hsettle
    exact h.resolvesTo_after_gap (by omega) hn hnil hsecond
  · exact absurd hseconds hkept

end Rules
end Zone
end TypedInputs
