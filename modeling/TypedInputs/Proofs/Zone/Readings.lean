/-
# What a reading stands for

The clock of a zone shows a reading at an instant (`Rules.ShowsAt`), at two of them in an overlap, or at
none because it skips it at a transition (`Rules.Skips`). Where at most one transition lies within
three days of a reading that is a day inside the calendar, the candidates are the zone's own local times
with the reading, the earlier one first (`StepsNear.candidates_of_unique`,
`StepsNear.candidates_of_overlap`).

So both searches together find everything that the zone shows, and a resolution answers as follows.

| the zone shows the reading | a resolution has |
| --- | --- |
| with the written offset | the reading, with this offset |
| with another one | the reading, with the other one |
| with two others | the reading, without daylight saving, or else at the later instant |
| never | the reading moved on by the width of the gap |
-/

import TypedInputs.Proofs.Zone.Gaps

namespace TypedInputs
namespace Zone

open Calendar

/-- A reading that is at least a day inside the calendar. -/
def IsInside (n : Int) : Prop := firstSecond + secondsPerDay ≤ n ∧ n ≤ lastSecond - secondsPerDay

instance (n : Int) : Decidable (IsInside n) := inferInstanceAs (Decidable (_ ∧ _))

theorem isInside_iff {n : Int} : IsInside n ↔ -62135510400 ≤ n ∧ n ≤ 253402214399 := Iff.rfl

/-- A reading well inside the calendar stays in it for a day. -/
theorem IsInside.isSecond_add {n d : Int} (h : IsInside n) (hd : d.natAbs ≤ 86400) :
    IsSecond (n + d) := by
  rw [isInside_iff] at h
  rw [isSecond_iff]
  omega

theorem IsInside.isSecond {n : Int} (h : IsInside n) : IsSecond n := by
  have hsame := h.isSecond_add (d := 0) (by decide)
  rwa [Int.add_zero] at hsame

namespace Rules

variable {r : Rules} {n s u v : Int} {A B : Regime} {t : LocalTime}

/-- A reading well inside the calendar is covered by every zone. -/
theorem covers_of_isInside (h : IsInside n) : r.Covers n := by
  have hinitial := natAbs_seconds_lt r.initial_mem
  have hfinal := natAbs_seconds_lt r.final_mem
  rw [isInside_iff] at h
  rw [covers_iff]
  omega

/-- The clock shows a reading at an instant. -/
def ShowsAt (r : Rules) (n u : Int) : Prop := (r.clockAt u).seconds = n

instance (r : Rules) (n u : Int) : Decidable (r.ShowsAt n u) := inferInstanceAs (Decidable (_ = _))

/-- An instant that shows a reading is the reading less the offset there. -/
theorem ShowsAt.eq_sub (h : r.ShowsAt n u) : u = n - (r.regimeAt u).seconds := by
  rw [ShowsAt, clockAt_seconds] at h
  omega

/-- A reading that is skipped at a transition from one regime to another: under the first one it is
reached no sooner than the transition, and under the second one it is past by then. -/
structure Skips (r : Rules) (n s : Int) (A B : Regime) : Prop where
  before : r.regimeAt (s - 1) = A
  after : r.regimeAt s = B
  begun : s + A.seconds ≤ n
  ended : n < s + B.seconds

/-- What shows a reading does so at its instant. -/
theorem IsShown.showsAt (h : r.IsShown n t) : r.ShowsAt n t.instant := by
  obtain ⟨-, -, hclock⟩ := normalize_eq_some.1 h.settled
  rw [ShowsAt, ← hclock]
  exact h.seconds_eq

/-! ### Candidates near a step -/

/-- The instants of a reading lie on their side of the step. -/
theorem StepsNear.showsAt_cases (h : r.StepsNear n s A B) (hu : r.ShowsAt n u) :
    (u < s ∧ r.regimeAt u = A) ∨ (s ≤ u ∧ r.regimeAt u = B) := by
  have hg := r.natAbs_regimeAt_lt u
  have hinstant := hu.eq_sub
  have hregime := h.regimeAt_eq (u := u) (by omega)
  split_ifs at hregime with hs
  · exact .inl ⟨hs, hregime⟩
  · exact .inr ⟨by omega, hregime⟩

/-- An instant before the step and a later one show a reading from different sides of the step. -/
theorem StepsNear.step_between (h : r.StepsNear n s A B) (hu : r.ShowsAt n u) (hv : r.ShowsAt n v)
    (huv : u < v) : u < s ∧ s ≤ v := by
  have hu' := hu.eq_sub
  have hv' := hv.eq_sub
  rcases h.showsAt_cases hu with ⟨hus, hA⟩ | ⟨hus, hB⟩
  · rcases h.showsAt_cases hv with ⟨-, hA'⟩ | ⟨hvs, -⟩
    · rw [hA] at hu'
      rw [hA'] at hv'
      omega
    · exact ⟨hus, hvs⟩
  · rcases h.showsAt_cases hv with ⟨hvs, -⟩ | ⟨-, hB'⟩
    · omega
    · rw [hB] at hu'
      rw [hB'] at hv'
      omega

/-- The regime that is tried gives the local time at the instant that it takes the reading for, if the
clock shows the reading then. -/
theorem candidate_of_isInside (h : IsInside n) {d : Int} (hd : d.natAbs ≤ 86400) :
    r.candidate n d = some
      (if r.ShowsAt n (n - (r.regimeAt (n + d)).seconds) then
        [r.clockAt (n - (r.regimeAt (n + d)).seconds)] else []) := by
  rw [candidate_of_isSecond (h.isSecond_add hd)]
  have hsome := normalize_ne_none_of_covers h.isSecond hd (covers_of_isInside (r := r) h)
  obtain ⟨t, ht⟩ := Option.ne_none_iff_exists'.1 hsome
  obtain ⟨-, -, rfl⟩ := normalize_eq_some.1 ht
  rw [ht]
  rfl

/-- The regime of an instant that shows the reading is tried on its side of the step. -/
theorem StepsNear.candidate_before (h : r.StepsNear n s A B) (hn : IsInside n)
    (hu : r.ShowsAt n u) (hs : u < s) : r.candidate n (-day) = some [r.clockAt u] := by
  have hg := r.natAbs_regimeAt_lt u
  have hinstant := hu.eq_sub
  have hday : day = 86400 := rfl
  have hregime : r.regimeAt (n + -day) = r.regimeAt u := by
    rw [h.regimeAt_eq (u := u) (by omega), if_pos hs, h.regimeAt_eq (by omega), if_pos (by omega)]
  rw [candidate_of_isInside hn (by decide), hregime, ← hinstant, if_pos hu]

/-- An instant after the step is found by the regime a day later. -/
theorem StepsNear.candidate_after (h : r.StepsNear n s A B) (hn : IsInside n)
    (hu : r.ShowsAt n u) (hs : s ≤ u) : r.candidate n day = some [r.clockAt u] := by
  have hg := r.natAbs_regimeAt_lt u
  have hinstant := hu.eq_sub
  have hday : day = 86400 := rfl
  have hregime : r.regimeAt (n + day) = r.regimeAt u := by
    rw [h.regimeAt_eq (u := u) (by omega), if_neg (by omega), h.regimeAt_eq (by omega),
      if_neg (by omega)]
  rw [candidate_of_isInside hn (by decide), hregime, ← hinstant, if_pos hu]

/-- The regime that is tried gives the only local time with the reading, or nothing. -/
theorem candidate_of_unique (hn : IsInside n) (honly : ∀ v, r.ShowsAt n v → v = u) {d : Int}
    (hd : d.natAbs ≤ 86400) :
    r.candidate n d = some [] ∨ r.candidate n d = some [r.clockAt u] := by
  rw [candidate_of_isInside hn hd]
  split_ifs with hshows
  · rw [honly _ hshows]
    exact .inr rfl
  · exact .inl rfl

/-- **A reading that the clock shows once has one candidate.** -/
theorem StepsNear.candidates_of_unique (h : r.StepsNear n s A B) (hn : IsInside n)
    (hu : r.ShowsAt n u) (honly : ∀ v, r.ShowsAt n v → v = u) :
    r.candidates n = some [r.clockAt u] := by
  rw [candidates_eq_some]
  rcases h.showsAt_cases hu with ⟨hs, -⟩ | ⟨hs, -⟩
  · have hbefore := h.candidate_before hn hu hs
    rcases candidate_of_unique hn honly (d := day) (by decide) with hafter | hafter
    · exact ⟨_, _, hbefore, hafter, rfl⟩
    · exact ⟨_, _, hbefore, hafter, by simp⟩
  · have hafter := h.candidate_after hn hu hs
    rcases candidate_of_unique hn honly (d := -day) (by decide) with hbefore | hbefore
    · exact ⟨_, _, hbefore, hafter, rfl⟩
    · exact ⟨_, _, hbefore, hafter, by simp⟩

/-- The earlier of two instants with one reading has the greater offset. -/
theorem ShowsAt.offset_lt (hu : r.ShowsAt n u) (hv : r.ShowsAt n v) (huv : u < v) :
    (r.regimeAt v).offset < (r.regimeAt u).offset := by
  have hu' := hu.eq_sub
  have hv' := hv.eq_sub
  unfold Regime.seconds at hu' hv'
  omega

/-- No offset is that of both instants. -/
theorem ShowsAt.seconds_ne (hu : r.ShowsAt n u) (hv : r.ShowsAt n v) (huv : u < v) :
    (r.regimeAt u).seconds ≠ (r.regimeAt v).seconds := by
  have hlt := hu.offset_lt hv huv
  unfold Regime.seconds
  omega

/-- **A reading that the clock shows twice has two candidates,** the earlier one first. -/
theorem StepsNear.candidates_of_overlap (h : r.StepsNear n s A B) (hn : IsInside n)
    (hu : r.ShowsAt n u) (hv : r.ShowsAt n v) (huv : u < v) :
    r.candidates n = some [r.clockAt u, r.clockAt v] := by
  obtain ⟨hus, hvs⟩ := h.step_between hu hv huv
  have hne : ((r.regimeAt u).offset != (r.regimeAt v).offset) = true :=
    bne_iff_ne.2 (hu.offset_lt hv huv).ne'
  exact candidates_eq_some.2
    ⟨_, _, h.candidate_before hn hu hus, h.candidate_after hn hv hvs, by simp [hne]⟩

/-- **A reading that the clock never shows has no candidate.** -/
theorem candidates_of_not_showsAt (hn : IsInside n) (hnever : ∀ u, ¬r.ShowsAt n u) :
    r.candidates n = some [] := by
  have hcovers := covers_of_isInside (r := r) hn
  cases hcandidates : r.candidates n with
  | none => exact absurd hcovers ((candidates_eq_none_iff hn.isSecond).1 hcandidates)
  | some found =>
    cases found with
    | nil => rfl
    | cons t rest =>
      have hshown := isShown_of_mem_candidates hcandidates List.mem_cons_self
      exact absurd hshown.showsAt (hnever _)

/-! ### Resolutions -/

/-- The only candidate is settled on. -/
theorem settle_of_candidates_singleton {isSaving : Bool} (h : r.candidates n = some [t]) :
    r.settle n isSaving = some t := by
  have hlocalize : r.localize n isSaving = some t := by rw [localize, h]
  have hshown := isShown_of_mem_candidates h (List.mem_singleton_self t)
  exact settle_eq_some.2 ⟨t, hlocalize, hshown.settled⟩

/-- Of two candidates the chosen one is settled on. -/
theorem settle_of_candidates_pair {isSaving : Bool} {a b : LocalTime}
    (h : r.candidates n = some [a, b]) : r.settle n isSaving = some (choose isSaving a b) := by
  have hlocalize : r.localize n isSaving = some (choose isSaving a b) := by rw [localize, h]
  exact settle_eq_some.2 ⟨_, hlocalize, (isShown_choose isSaving h).settled⟩

/-- A resolution takes the standard search unless only the other one has the written offset. -/
theorem resolve_of_settle {standard saving : LocalTime} (hstandard : r.settle n false = some standard)
    (hsaving : r.settle n true = some saving) (offset : Int) :
    r.resolve n offset = some
      (if LocalTime.shows standard n offset = true then standard
        else if LocalTime.shows saving n offset = true then saving else standard) := by
  simp only [resolve, hstandard, hsaving, Option.bind_eq_bind, Option.bind_some, Option.pure_def]
  split_ifs <;> rfl

/-- The earlier one of two local times is the one without daylight saving. -/
def PrefersEarlier (a b : Regime) : Prop := a.isSaving = false ∧ b.isSaving = true

instance (a b : Regime) : Decidable (PrefersEarlier a b) := inferInstanceAs (Decidable (_ ∧ _))

/-- Where the earlier one of two candidates alone is without daylight saving, the standard search takes
it, and the other search the later one. -/
theorem choose_of_prefersEarlier {a b : LocalTime} (h : PrefersEarlier a.regime b.regime) :
    choose false a b = a ∧ choose true a b = b := by
  obtain ⟨ha, hb⟩ := h
  simp [choose, ha, hb]

/-- Otherwise it is the other way round. -/
theorem choose_of_not_prefersEarlier {a b : LocalTime} (h : ¬PrefersEarlier a.regime b.regime)
    (hoffset : b.regime.offset < a.regime.offset) :
    choose false a b = b ∧ choose true a b = a := by
  unfold PrefersEarlier at h
  cases ha : a.regime.isSaving <;> cases hb : b.regime.isSaving <;>
    simp_all [choose, hoffset.le]

/-- An instant that shows the reading with an offset in seconds. -/
theorem shows_clockAt {offset : Int} (hu : r.ShowsAt n u) :
    LocalTime.shows (r.clockAt u) n offset = true ↔ (r.regimeAt u).seconds = offset := by
  rw [shows_iff]
  exact and_iff_right hu

/-- **A reading that the clock shows once resolves to it,** whatever offset was written. -/
theorem StepsNear.resolve_of_unique (h : r.StepsNear n s A B) (hn : IsInside n)
    (hu : r.ShowsAt n u) (honly : ∀ v, r.ShowsAt n v → v = u) (offset : Int) :
    r.resolve n offset = some (r.clockAt u) := by
  have hcandidates := h.candidates_of_unique hn hu honly
  rw [resolve_of_settle (settle_of_candidates_singleton hcandidates)
    (settle_of_candidates_singleton hcandidates)]
  split_ifs <;> rfl

/-- **A reading that the clock shows twice resolves to the side with the written offset.** With any
other offset it resolves to the later side, unless the earlier one alone is without daylight
saving. -/
theorem StepsNear.resolve_of_overlap (h : r.StepsNear n s A B) (hn : IsInside n)
    (hu : r.ShowsAt n u) (hv : r.ShowsAt n v) (huv : u < v) (offset : Int) :
    r.resolve n offset = some
      (if (r.regimeAt u).seconds = offset then r.clockAt u
        else if (r.regimeAt v).seconds = offset then r.clockAt v
        else if PrefersEarlier (r.regimeAt u) (r.regimeAt v) then r.clockAt u
        else r.clockAt v) := by
  have hcandidates := h.candidates_of_overlap hn hu hv huv
  have hne := hu.seconds_ne hv huv
  rw [resolve_of_settle (settle_of_candidates_pair hcandidates)
    (settle_of_candidates_pair hcandidates)]
  by_cases hearlier : PrefersEarlier (r.regimeAt u) (r.regimeAt v)
  · obtain ⟨hstandard, hsaving⟩ := choose_of_prefersEarlier
      (a := r.clockAt u) (b := r.clockAt v) hearlier
    simp only [hstandard, hsaving, shows_clockAt hu, shows_clockAt hv, if_pos hearlier]
  · obtain ⟨hstandard, hsaving⟩ := choose_of_not_prefersEarlier
      (a := r.clockAt u) (b := r.clockAt v) hearlier (hu.offset_lt hv huv)
    simp only [hstandard, hsaving, shows_clockAt hu, shows_clockAt hv, if_neg hearlier]
    -- The later side is tried first here, and no offset is that of both.
    by_cases hlater : (r.regimeAt v).seconds = offset
    · have hnot : (r.regimeAt u).seconds ≠ offset := fun heq => hne (heq.trans hlater.symm)
      simp only [if_pos hlater, if_neg hnot]
    · simp only [if_neg hlater]

/-- An instant at which the clock shows a reading, chosen for a written offset: the one with this
offset; with none, of two of them, the one without daylight saving or, where that does not decide,
the later one. -/
structure IsChosen (r : Rules) (n offset w : Int) : Prop where
  shown : r.ShowsAt n w
  written : ∀ u, r.ShowsAt n u → (r.regimeAt u).seconds = offset → w = u
  standard : (∀ u, r.ShowsAt n u → (r.regimeAt u).seconds ≠ offset) →
    ∀ u v, u < v → r.ShowsAt n u → r.ShowsAt n v →
      (r.regimeAt u).isSaving ≠ (r.regimeAt v).isSaving →
        (w = u ∨ w = v) ∧ (r.regimeAt w).isSaving = false
  later : (∀ u, r.ShowsAt n u → (r.regimeAt u).seconds ≠ offset) →
    ∀ u v, u < v → r.ShowsAt n u → r.ShowsAt n v →
      (r.regimeAt u).isSaving = (r.regimeAt v).isSaving → w = v

/-- The only instant that shows a reading is chosen, whatever offset is asked for. -/
theorem isChosen_of_unique (hu : r.ShowsAt n u) (honly : ∀ v, r.ShowsAt n v → v = u)
    (offset : Int) : r.IsChosen n offset u := by
  have hone : ∀ v w, v < w → r.ShowsAt n v → ¬r.ShowsAt n w := by
    intro v w hlt hv hw
    rw [honly v hv, honly w hw] at hlt
    exact lt_irrefl u hlt
  constructor
  case shown => exact hu
  case written => exact fun v hv _ => (honly v hv).symm
  case standard => exact fun _ v w hlt hv hw => absurd hw (hone v w hlt hv)
  case later => exact fun _ v w hlt hv hw => absurd hw (hone v w hlt hv)

/-- On one side of the step the clock shows a reading once. -/
theorem StepsNear.eq_or_eq_of_showsAt (h : r.StepsNear n s A B) (hu : r.ShowsAt n u)
    (hv : r.ShowsAt n v) (huv : u < v) {w : Int} (hw : r.ShowsAt n w) : w = u ∨ w = v := by
  by_contra hne
  rcases lt_trichotomy w u with hlt | heq | hgt
  · have hstep := h.step_between hw hu hlt
    have hstep' := h.step_between hu hv huv
    omega
  · exact hne (.inl heq)
  · rcases lt_trichotomy w v with hlt | heq | hgt'
    · have hstep := h.step_between hu hw hgt
      have hstep' := h.step_between hw hv hlt
      omega
    · exact hne (.inr heq)
    · have hstep := h.step_between hu hv huv
      have hstep' := h.step_between hv hw hgt'
      omega

/-- **The instant that an overlap resolves to is chosen.** -/
theorem StepsNear.isChosen_of_overlap (h : r.StepsNear n s A B) (hu : r.ShowsAt n u)
    (hv : r.ShowsAt n v) (huv : u < v) (offset : Int) :
    r.IsChosen n offset
      (if (r.regimeAt u).seconds = offset then u
        else if (r.regimeAt v).seconds = offset then v
        else if PrefersEarlier (r.regimeAt u) (r.regimeAt v) then u
        else v) := by
  have hne := hu.seconds_ne hv huv
  -- Any two instants of the reading are these two.
  have htwo : ∀ a b, a < b → r.ShowsAt n a → r.ShowsAt n b → a = u ∧ b = v := by
    intro a b hab ha hb
    rcases h.eq_or_eq_of_showsAt hu hv huv ha with rfl | rfl <;>
      rcases h.eq_or_eq_of_showsAt hu hv huv hb with rfl | rfl <;> omega
  constructor
  case shown => split_ifs <;> assumption
  case written =>
    intro w hw hoffset
    rcases h.eq_or_eq_of_showsAt hu hv huv hw with rfl | rfl
    · rw [if_pos hoffset]
    · rw [if_neg (hoffset ▸ hne), if_pos hoffset]
  case standard =>
    intro hnot a b hab ha hb hsaving
    obtain ⟨rfl, rfl⟩ := htwo a b hab ha hb
    rw [if_neg (hnot a ha), if_neg (hnot b hb)]
    by_cases hearlier : PrefersEarlier (r.regimeAt a) (r.regimeAt b)
    · rw [if_pos hearlier]
      exact ⟨.inl rfl, hearlier.1⟩
    · rw [if_neg hearlier]
      refine ⟨.inr rfl, ?_⟩
      cases hdaylight : (r.regimeAt b).isSaving with
      | false => rfl
      | true => exact absurd ⟨by simpa [hdaylight] using hsaving, hdaylight⟩ hearlier
  case later =>
    intro hnot a b hab ha hb hsaving
    obtain ⟨rfl, rfl⟩ := htwo a b hab ha hb
    have hlater : ¬PrefersEarlier (r.regimeAt a) (r.regimeAt b) := by
      rintro ⟨hstandard, hdaylight⟩
      rw [hsaving, hdaylight] at hstandard
      exact Bool.noConfusion hstandard
    rw [if_neg (hnot a ha), if_neg (hnot b hb), if_neg hlater]

/-- **A reading that the clock shows resolves to the local time at the chosen instant.** -/
theorem StepsNear.exists_isChosen (h : r.StepsNear n s A B) (hn : IsInside n)
    (hshown : ∃ u, r.ShowsAt n u) (offset : Int) :
    ∃ w, r.IsChosen n offset w ∧ r.resolve n offset = some (r.clockAt w) := by
  obtain ⟨u, hu⟩ := hshown
  by_cases honly : ∀ v, r.ShowsAt n v → v = u
  · exact ⟨u, isChosen_of_unique hu honly offset, h.resolve_of_unique hn hu honly offset⟩
  · push Not at honly
    obtain ⟨v, hv, hne⟩ := honly
    rcases lt_or_gt_of_ne hne with hlt | hlt
    · refine ⟨_, h.isChosen_of_overlap hv hu hlt offset, ?_⟩
      rw [h.resolve_of_overlap hn hv hu hlt]
      simp only [apply_ite r.clockAt]
    · refine ⟨_, h.isChosen_of_overlap hu hv hlt offset, ?_⟩
      rw [h.resolve_of_overlap hn hu hv hlt]
      simp only [apply_ite r.clockAt]

/-- **A reading that is skipped resolves to the reading moved on by the width of the gap.** -/
theorem StepsNear.resolve_of_not_showsAt (h : r.StepsNear n s A B) (hn : IsInside n)
    (hnever : ∀ u, ¬r.ShowsAt n u) (hwide : B.seconds - A.seconds ≤ 129600) (offset : Int) :
    r.resolve n offset = some ⟨n + (B.seconds - A.seconds), B⟩ := by
  obtain ⟨t, ht⟩ := (exists_resolve_iff hn.isSecond offset).2 (covers_of_isInside (r := r) hn)
  have hnil := candidates_of_not_showsAt hn hnever
  rcases settle_of_resolve ht with hsettle | ⟨hsettle, hseconds⟩
  · rw [ht, h.eq_of_settle_gap hwide hn.isSecond hnil hsettle]
    simp only [Option.some.injEq, LocalTime.mk.injEq, and_true]
    omega
  · have hshown : r.IsShown n t := ⟨hseconds, normalize_of_settle hsettle⟩
    exact absurd hshown.showsAt (hnever _)

/-! ### Readings that are skipped -/

/-- The transition at which a reading is skipped is the step. -/
theorem StepsNear.eq_of_skips (h : r.StepsNear n s A B) {s' : Int} {A' B' : Regime}
    (hskips : r.Skips n s' A' B') : s = s' ∧ A = A' ∧ B = B' := by
  obtain ⟨hbefore, hafter, hbegun, hended⟩ := hskips
  have hA := r.natAbs_regimeAt_lt (s' - 1)
  have hB := r.natAbs_regimeAt_lt s'
  rw [hbefore] at hA
  rw [hafter] at hB
  rw [h.regimeAt_eq (by omega)] at hbefore hafter
  have hne : A' ≠ B' := by
    rintro rfl
    omega
  split_ifs at hbefore hafter with hs hs'
  · exact absurd (hbefore.symm.trans hafter) hne
  · exact ⟨by omega, hbefore, hafter⟩
  · omega
  · exact absurd (hbefore.symm.trans hafter) hne

/-- **A reading is skipped exactly when the clock never shows it.** -/
theorem StepsNear.exists_skips_iff (h : r.StepsNear n s A B) (hn : IsInside n) :
    (∃ s' A' B', r.Skips n s' A' B') ↔ ∀ u, ¬r.ShowsAt n u := by
  constructor
  · rintro ⟨s', A', B', hskips⟩ u hu
    obtain ⟨rfl, rfl, rfl⟩ := h.eq_of_skips hskips
    have hinstant := hu.eq_sub
    have hbegun := hskips.begun
    have hended := hskips.ended
    rcases h.showsAt_cases hu with ⟨hs, hA⟩ | ⟨hs, hB⟩
    · rw [hA] at hinstant
      omega
    · rw [hB] at hinstant
      omega
  · intro hnever
    obtain ⟨hbegun, hended⟩ :=
      h.gap (m := n) (by omega) hn.isSecond (candidates_of_not_showsAt hn hnever)
    have hA := natAbs_seconds_lt (Steps.before_mem h)
    have hB := natAbs_seconds_lt (Steps.after_mem h)
    refine ⟨s, A, B, ?_, ?_, by omega, by omega⟩
    · rw [h.regimeAt_eq (by omega), if_pos (by omega)]
    · rw [h.regimeAt_eq (by omega), if_neg (by omega)]

end Rules
end Zone
end TypedInputs
