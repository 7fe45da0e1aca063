/-
# Resolution of local times

A local time is settled when its regime is in force at its instant, and `normalize` settles what it
is given (`normalize_eq_some`, `normalize_idem`). Candidates are settled local times with the
reading that was asked for (`Rules.IsShown`); a search that finds none goes on six hours away and
keeps the reading (`localize_eq_some`).

Transitions are far from the ends of the calendar, so a search without a candidate is far from them
too (`isNear_of_candidates_nil`). Hence a reading has a resolution exactly when the calendar has its
instant under the first or the last regime (`exists_resolve_iff`).
-/

import TypedInputs.Proofs.Zone.History

namespace TypedInputs
namespace Zone

open Calendar

/-- A second of the calendar. -/
def IsSecond (n : Int) : Prop := firstSecond ≤ n ∧ n ≤ lastSecond

theorem isSecond_iff {n : Int} : IsSecond n ↔ -62135596800 ≤ n ∧ n ≤ 253402300799 := Iff.rfl

theorem shift?_of_isSecond {n d : Int} (h : IsSecond (n + d)) : shift? n d = some (n + d) :=
  if_pos h

theorem shift?_of_not_isSecond {n d : Int} (h : ¬IsSecond (n + d)) : shift? n d = none := if_neg h

/-- A sum is one of the calendar's seconds. -/
theorem shift?_eq_some {n d m : Int} : shift? n d = some m ↔ IsSecond (n + d) ∧ n + d = m := by
  by_cases h : IsSecond (n + d)
  · simp [shift?_of_isSecond h, h]
  · simp [shift?_of_not_isSecond h, h]

/-- The instant of a local time under its regime. -/
def LocalTime.instant (t : LocalTime) : Int := t.seconds - t.regime.seconds

namespace Rules

variable {r : Rules} {n : Int} {t t' : LocalTime}

/-- What the zone's clock shows at an instant. -/
def clockAt (r : Rules) (instant : Int) : LocalTime :=
  ⟨instant + (r.regimeAt instant).seconds, r.regimeAt instant⟩

@[simp] theorem clockAt_regime (r : Rules) (u : Int) : (r.clockAt u).regime = r.regimeAt u := rfl

@[simp] theorem clockAt_seconds (r : Rules) (u : Int) :
    (r.clockAt u).seconds = u + (r.regimeAt u).seconds := rfl

@[simp] theorem instant_clockAt (r : Rules) (u : Int) : (r.clockAt u).instant = u := by
  rw [LocalTime.instant, clockAt_seconds, clockAt_regime]
  omega

/-! ### Settled local times -/

/-- An instant has the local time of its clock, if that is in the calendar. -/
theorem fromUtc_eq_some {u : Int} :
    r.fromUtc u = some t ↔ IsSecond t.seconds ∧ t = r.clockAt u := by
  simp only [fromUtc, Option.map_eq_some_iff, shift?_eq_some]
  constructor
  · rintro ⟨_, ⟨h, rfl⟩, rfl⟩
    exact ⟨h, rfl⟩
  · rintro ⟨h, rfl⟩
    exact ⟨_, ⟨h, rfl⟩, rfl⟩

/-- **Normalization keeps the instant** and shows what the clock shows then. -/
theorem normalize_eq_some :
    r.normalize t = some t' ↔
      IsSecond t.instant ∧ IsSecond t'.seconds ∧ t' = r.clockAt t.instant := by
  simp only [normalize, Option.bind_eq_some_iff, shift?_eq_some, fromUtc_eq_some]
  constructor
  · rintro ⟨_, ⟨h, rfl⟩, h'⟩
    exact ⟨h, h'⟩
  · rintro ⟨h, h'⟩
    exact ⟨_, ⟨h, rfl⟩, h'⟩

/-- A normalized local time is normalized. -/
theorem normalize_idem (h : r.normalize t = some t') : r.normalize t' = some t' := by
  obtain ⟨hinstant, hseconds, rfl⟩ := normalize_eq_some.1 h
  exact normalize_eq_some.2 ⟨by rwa [instant_clockAt], hseconds, by rw [instant_clockAt]⟩

/-- A local time that shows a reading and is settled. -/
structure IsShown (r : Rules) (n : Int) (t : LocalTime) : Prop where
  seconds_eq : t.seconds = n
  settled : r.normalize t = some t

/-- What is shown has a regime of the zone. -/
theorem IsShown.regime_mem (h : r.IsShown n t) : t.regime ∈ r.regimes := by
  obtain ⟨-, -, ht⟩ := normalize_eq_some.1 h.settled
  rw [ht]
  exact r.regimeAt_mem _

/-- What is shown has the regime of its instant. -/
theorem IsShown.regimeAt_eq (h : r.IsShown n t) :
    r.regimeAt (n - t.regime.seconds) = t.regime := by
  obtain ⟨-, -, ht⟩ := normalize_eq_some.1 h.settled
  rw [← h.seconds_eq]
  exact (congrArg LocalTime.regime ht).symm

/-! ### Candidates -/

/-- A candidate is shown by the zone. -/
theorem isShown_of_mem_candidate {d : Int} {found : List LocalTime}
    (h : r.candidate n d = some found) (ht : t ∈ found) : r.IsShown n t := by
  unfold candidate at h
  split at h
  · obtain rfl := Option.some.inj h
    exact absurd ht List.not_mem_nil
  · obtain ⟨u, hu, rfl⟩ := Option.map_eq_some_iff.1 h
    split_ifs at ht with hn
    · obtain rfl := List.mem_singleton.1 ht
      exact ⟨hn, normalize_idem hu⟩
    · exact absurd ht List.not_mem_nil

/-- The candidates are those of the day before and those of the day after with another offset. -/
theorem candidates_eq_some {found : List LocalTime} :
    r.candidates n = some found ↔ ∃ before after, r.candidate n (-day) = some before ∧
      r.candidate n day = some after ∧ found =
        before ++ after.filter fun t => before.all fun b => b.regime.offset != t.regime.offset := by
  simp only [candidates, Option.bind_eq_bind, Option.bind_eq_some_iff, Option.pure_def,
    Option.some.injEq]
  constructor
  · rintro ⟨before, hbefore, after, hafter, rfl⟩
    exact ⟨before, after, hbefore, hafter, rfl⟩
  · rintro ⟨before, after, hbefore, hafter, rfl⟩
    exact ⟨before, hbefore, after, hafter, rfl⟩

/-- **Every candidate is settled and has the reading.** -/
theorem isShown_of_mem_candidates {found : List LocalTime} (h : r.candidates n = some found)
    (ht : t ∈ found) : r.IsShown n t := by
  obtain ⟨before, after, hbefore, hafter, rfl⟩ := candidates_eq_some.1 h
  rcases List.mem_append.1 ht with ht | ht
  · exact isShown_of_mem_candidate hbefore ht
  · exact isShown_of_mem_candidate hafter (List.mem_filter.1 ht).1

/-- One of the two is chosen. -/
theorem choose_mem (isSaving : Bool) (a b : LocalTime) (rest : List LocalTime) :
    choose isSaving a b ∈ a :: b :: rest := by
  unfold choose
  split_ifs <;> simp

/-- A choice among candidates is one of them. -/
theorem isShown_choose (isSaving : Bool) {a b : LocalTime} {rest : List LocalTime}
    (h : r.candidates n = some (a :: b :: rest)) : r.IsShown n (choose isSaving a b) :=
  isShown_of_mem_candidates h (choose_mem isSaving a b rest)

/-- A local time that is brought back keeps its regime and stays in the calendar. -/
theorem bind_shift?_eq_some {found : Option LocalTime} {d : Int} :
    (found.bind fun t => (shift? t.seconds d).map (⟨·, t.regime⟩)) = some t ↔
      ∃ u, found = some u ∧ IsSecond (u.seconds + d) ∧ t = ⟨u.seconds + d, u.regime⟩ := by
  simp only [Option.bind_eq_some_iff, Option.map_eq_some_iff, shift?_eq_some]
  constructor
  · rintro ⟨u, hu, _, ⟨h, rfl⟩, rfl⟩
    exact ⟨u, hu, h, rfl⟩
  · rintro ⟨u, hu, h, rfl⟩
    exact ⟨u, hu, _, ⟨h, rfl⟩, rfl⟩

/-- **The search keeps the reading;** what it finds is settled unless there was no candidate. -/
theorem localize_eq_some {isSaving : Bool} (h : r.localize n isSaving = some t) :
    t.seconds = n ∧ t.regime ∈ r.regimes ∧ (r.IsShown n t ∨ r.candidates n = some []) := by
  fun_induction r.localize n isSaving generalizing t with
  | case1 => exact absurd h (by simp)
  | case2 n isSaving u hcandidates =>
    obtain rfl := Option.some.inj h
    have hshown := isShown_of_mem_candidates hcandidates (List.mem_singleton_self u)
    exact ⟨hshown.seconds_eq, hshown.regime_mem, .inl hshown⟩
  | case3 n isSaving a b rest hcandidates =>
    obtain rfl := Option.some.inj h
    have hshown := isShown_choose isSaving hcandidates
    exact ⟨hshown.seconds_eq, hshown.regime_mem, .inl hshown⟩
  | case4 n hcandidates _ ih =>
    obtain ⟨u, hu, -, rfl⟩ := bind_shift?_eq_some.1 h
    obtain ⟨hseconds, hregime, -⟩ := ih hu
    exact ⟨by simp only [hseconds]; omega, hregime, .inr hcandidates⟩
  | case5 => exact absurd h (by simp)
  | case6 n isSaving hcandidates _ _ ih =>
    obtain ⟨u, hu, -, rfl⟩ := bind_shift?_eq_some.1 h
    obtain ⟨hseconds, hregime, -⟩ := ih hu
    exact ⟨by simp only [hseconds]; omega, hregime, .inr hcandidates⟩
  | case7 => exact absurd h (by simp)

/-- A reading is settled when it is localized and then normalized. -/
theorem settle_eq_some {isSaving : Bool} :
    r.settle n isSaving = some t ↔ ∃ u, r.localize n isSaving = some u ∧ r.normalize u = some t :=
  Option.bind_eq_some_iff

/-- What is settled on is settled. -/
theorem normalize_of_settle {isSaving : Bool} (h : r.settle n isSaving = some t) :
    r.normalize t = some t := by
  obtain ⟨u, -, hu⟩ := settle_eq_some.1 h
  exact normalize_idem hu

/-! ### Searches without a candidate -/

/-- Where the shifted reading is in the calendar, the regime there is tried. -/
theorem candidate_of_isSecond {d : Int} (h : IsSecond (n + d)) :
    r.candidate n d = (r.normalize ⟨n, r.regimeAt (n + d)⟩).map
      fun t => if t.seconds = n then [t] else [] := by
  rw [candidate, shift?_of_isSecond h]

/-- A regime that is tried and gives no candidate is not in force at the instant it would give. -/
theorem seconds_ne_of_candidate_nil {d : Int} (hd : IsSecond (n + d))
    (h : r.candidate n d = some []) :
    (r.regimeAt (n - (r.regimeAt (n + d)).seconds)).seconds ≠ (r.regimeAt (n + d)).seconds := by
  rw [candidate_of_isSecond hd, Option.map_eq_some_iff] at h
  obtain ⟨t, ht, hnil⟩ := h
  obtain ⟨-, -, rfl⟩ := normalize_eq_some.1 ht
  intro hsame
  rw [if_pos (by simp only [clockAt_seconds, LocalTime.instant, hsame]; omega)] at hnil
  exact List.cons_ne_nil _ _ hnil

/-- There are no candidates when neither side has one. -/
theorem candidates_eq_nil :
    r.candidates n = some [] ↔ r.candidate n (-day) = some [] ∧ r.candidate n day = some [] := by
  rw [candidates_eq_some]
  constructor
  · rintro ⟨before, after, hbefore, hafter, hnil⟩
    obtain ⟨rfl, hnil⟩ := List.append_eq_nil_iff.1 hnil.symm
    rw [List.filter_eq_self.2 (by simp)] at hnil
    exact ⟨hbefore, hnil ▸ hafter⟩
  · rintro ⟨hbefore, hafter⟩
    exact ⟨[], [], hbefore, hafter, rfl⟩

/-- There is no list of candidates when one side fails. -/
theorem candidates_eq_none :
    r.candidates n = none ↔ r.candidate n (-day) = none ∨ r.candidate n day = none := by
  rw [candidates]
  cases r.candidate n (-day) <;> cases r.candidate n day <;> simp

/-- A local time so near to a transition that a zone can have that there may be no candidate. -/
def IsNear (n : Int) : Prop := earliestStart - day ≤ n ∧ n ≤ latestStart + day

theorem isNear_iff {n : Int} : IsNear n ↔ -5364748800 ≤ n ∧ n ≤ 4134067199 := Iff.rfl

theorem natAbs_regimeAt_lt (r : Rules) (u : Int) : (r.regimeAt u).seconds.natAbs < 86400 :=
  natAbs_seconds_lt (r.regimeAt_mem u)

/-- **A search without a candidate is far from the ends of the calendar.** -/
theorem isNear_of_candidates_nil (hn : IsSecond n) (h : r.candidates n = some []) : IsNear n := by
  obtain ⟨hbefore, hafter⟩ := candidates_eq_nil.1 h
  rw [isSecond_iff] at hn
  have hday : day = 86400 := rfl
  have hearliest : earliestStart = -5364662400 := rfl
  have hlatest : latestStart = 4133980799 := rfl
  have habs := r.natAbs_regimeAt_lt
  constructor
  · by_contra hlt
    have hne := seconds_ne_of_candidate_nil (isSecond_iff.2 (by omega)) hafter
    have := habs (n + day)
    rw [r.regimeAt_of_lt (u := n + day) (by omega)] at hne this
    exact hne (by rw [r.regimeAt_of_lt (by omega)])
  · by_contra hgt
    have hne := seconds_ne_of_candidate_nil (isSecond_iff.2 (by omega)) hbefore
    have := habs (n + -day)
    rw [r.regimeAt_of_le (u := n + -day) (by omega)] at hne this
    exact hne (by rw [r.regimeAt_of_le (by omega)])

/-! ### The ends of the calendar -/

/-- A reading whose instant the calendar has, under the first regime and under the last. -/
def Covers (r : Rules) (n : Int) : Prop :=
  firstSecond + r.initial.seconds ≤ n ∧ n ≤ lastSecond + r.final.seconds

instance (r : Rules) (n : Int) : Decidable (r.Covers n) := inferInstanceAs (Decidable (_ ∧ _))

theorem covers_iff :
    r.Covers n ↔ -62135596800 + r.initial.seconds ≤ n ∧ n ≤ 253402300799 + r.final.seconds :=
  Iff.rfl

/-- Near a transition the calendar has all instants, and two days away from there too. -/
theorem covers_of_isNear {d : Int} (h : IsNear n) (hd : d.natAbs ≤ 172800) : r.Covers (n + d) := by
  have hinitial := natAbs_seconds_lt r.initial_mem
  have hfinal := natAbs_seconds_lt r.final_mem
  rw [isNear_iff] at h
  rw [covers_iff]
  omega

/-- A reading that the zone covers is normalized inside the calendar, under the regime in force at
most a day away. -/
theorem normalize_ne_none_of_covers {d : Int} (hn : IsSecond n) (hd : d.natAbs ≤ 86400)
    (hcovers : r.Covers n) : r.normalize ⟨n, r.regimeAt (n + d)⟩ ≠ none := by
  have habs := r.natAbs_regimeAt_lt
  have hearliest : earliestStart = -5364662400 := rfl
  have hlatest : latestStart = 4133980799 := rfl
  rw [isSecond_iff] at hn
  rw [covers_iff] at hcovers
  have hinstant : IsSecond (n - (r.regimeAt (n + d)).seconds) ∧
      IsSecond (r.clockAt (n - (r.regimeAt (n + d)).seconds)).seconds := by
    have hg := habs (n + d)
    have hg' := habs (n - (r.regimeAt (n + d)).seconds)
    simp only [isSecond_iff, clockAt_seconds]
    rcases lt_or_ge n (earliestStart - 86400) with hlow | hlow
    · rw [r.regimeAt_of_lt (u := n + d) (by omega)] at hg hg' ⊢
      rw [r.regimeAt_of_lt (by omega)]
      omega
    rcases lt_or_ge (latestStart + 2 * 86400) n with hhigh | hhigh
    · rw [r.regimeAt_of_le (u := n + d) (by omega)] at hg hg' ⊢
      rw [r.regimeAt_of_le (by omega)]
      omega
    · omega
  have hnormal : r.normalize ⟨n, r.regimeAt (n + d)⟩ = some (r.clockAt _) :=
    normalize_eq_some.2 ⟨hinstant.1, hinstant.2, rfl⟩
  rw [hnormal]
  exact Option.some_ne_none _

/-- The search for candidates does not leave the calendar where the zone covers the reading. -/
theorem candidate_ne_none_of_covers (hn : IsSecond n) {d : Int} (hd : d.natAbs ≤ 86400)
    (hcovers : r.Covers n) : r.candidate n d ≠ none := by
  by_cases hshift : IsSecond (n + d)
  · rw [candidate_of_isSecond hshift, Ne, Option.map_eq_none_iff]
    exact normalize_ne_none_of_covers hn hd hcovers
  · rw [candidate, shift?_of_not_isSecond hshift]
    exact Option.some_ne_none _

/-- A side fails when its regime leads out of the calendar. -/
theorem candidate_eq_none {d : Int} (hd : IsSecond (n + d))
    (hout : ¬IsSecond (n - (r.regimeAt (n + d)).seconds)) : r.candidate n d = none := by
  rw [Int.sub_eq_add_neg] at hout
  rw [candidate_of_isSecond hd, normalize, shift?_of_not_isSecond hout]
  rfl

/-- The first or the last regime is in force a day away, and takes the instant out of the
calendar. -/
theorem exists_candidate_eq_none (hn : IsSecond n) (hcovers : ¬r.Covers n) :
    r.candidate n (-day) = none ∨ r.candidate n day = none := by
  have hday : day = 86400 := rfl
  have hinitial := natAbs_seconds_lt r.initial_mem
  have hfinal := natAbs_seconds_lt r.final_mem
  have hearliest : earliestStart = -5364662400 := rfl
  have hlatest : latestStart = 4133980799 := rfl
  rw [covers_iff] at hcovers
  rw [isSecond_iff] at hn
  rcases lt_or_ge n (-62135596800 + r.initial.seconds) with hlow | hlow
  · have hregime : r.regimeAt (n + day) = r.initial := r.regimeAt_of_lt (by omega)
    refine .inr (candidate_eq_none (isSecond_iff.2 (by omega)) ?_)
    rw [hregime, isSecond_iff]
    omega
  · have hregime : r.regimeAt (n + -day) = r.final := r.regimeAt_of_le (by omega)
    refine .inl (candidate_eq_none (isSecond_iff.2 (by omega)) ?_)
    rw [hregime, isSecond_iff]
    omega

/-- **Candidates can be sought exactly where the calendar has the instant.** -/
theorem candidates_eq_none_iff (hn : IsSecond n) : r.candidates n = none ↔ ¬r.Covers n := by
  rw [candidates_eq_none]
  constructor
  · rintro (hnone | hnone) hcovers
    · exact candidate_ne_none_of_covers hn (by decide) hcovers hnone
    · exact candidate_ne_none_of_covers hn (by decide) hcovers hnone
  · exact exists_candidate_eq_none hn

/-- **The search ends with a result wherever the calendar has the instant.** -/
theorem exists_localize (isSaving : Bool) (hn : IsSecond n) (hcovers : r.Covers n) :
    ∃ t, r.localize n isSaving = some t := by
  fun_induction r.localize n isSaving with
  | case1 n isSaving hcandidates => exact absurd hcovers ((candidates_eq_none_iff hn).1 hcandidates)
  | case2 => exact ⟨_, rfl⟩
  | case3 => exact ⟨_, rfl⟩
  | case4 n hcandidates hlast ih =>
    have hnear := isNear_of_candidates_nil hn hcandidates
    obtain ⟨u, hu⟩ := ih ⟨hn.1.trans (by unfold sixHours; omega), hlast⟩
      (covers_of_isNear hnear (by decide))
    have hback : u.seconds + -sixHours = n := by rw [(localize_eq_some hu).1]; omega
    exact ⟨_, bind_shift?_eq_some.2 ⟨u, hu, by rwa [hback], rfl⟩⟩
  | case5 n hcandidates hlast =>
    have hnear := isNear_of_candidates_nil hn hcandidates
    rw [isNear_iff] at hnear
    exact absurd (isSecond_iff.2 (by unfold sixHours; omega)).2 hlast
  | case6 n isSaving hcandidates _ hfirst ih =>
    have hnear := isNear_of_candidates_nil hn hcandidates
    obtain ⟨u, hu⟩ := ih ⟨hfirst, le_trans (by unfold sixHours; omega) hn.2⟩
      (covers_of_isNear (d := -sixHours) hnear (by decide))
    have hback : u.seconds + sixHours = n := by rw [(localize_eq_some hu).1]; omega
    exact ⟨_, bind_shift?_eq_some.2 ⟨u, hu, by rwa [hback], rfl⟩⟩
  | case7 n isSaving hcandidates _ hfirst =>
    have hnear := isNear_of_candidates_nil hn hcandidates
    rw [isNear_iff] at hnear
    exact absurd (isSecond_iff.2 (by unfold sixHours; omega)).1 hfirst

/-- A reading that the zone covers is settled. -/
theorem exists_settle (isSaving : Bool) (hn : IsSecond n) (hcovers : r.Covers n) :
    ∃ t, r.settle n isSaving = some t := by
  obtain ⟨u, hu⟩ := exists_localize isSaving hn hcovers
  obtain ⟨hseconds, hregime, hshown | hnil⟩ := localize_eq_some hu
  · exact ⟨u, settle_eq_some.2 ⟨u, hu, hshown.settled⟩⟩
  · have hnear := isNear_of_candidates_nil hn hnil
    have hg := natAbs_seconds_lt hregime
    have hg' := r.natAbs_regimeAt_lt u.instant
    rw [isNear_iff] at hnear
    have hinstant : u.instant = n - u.regime.seconds := by rw [LocalTime.instant, hseconds]
    refine ⟨r.clockAt u.instant, settle_eq_some.2 ⟨u, hu, normalize_eq_some.2 ⟨?_, ?_, rfl⟩⟩⟩
    · rw [isSecond_iff]
      omega
    · rw [isSecond_iff, clockAt_seconds]
      omega

/-- A reading that the zone does not cover is not settled. -/
theorem settle_eq_none {isSaving : Bool} (hn : IsSecond n) (hcovers : ¬r.Covers n) :
    r.settle n isSaving = none := by
  rw [settle, localize, (candidates_eq_none_iff hn).2 hcovers]
  rfl

/-- **A reading resolves exactly when the calendar has its instant.** -/
theorem exists_resolve_iff (hn : IsSecond n) (offset : Int) :
    (∃ t, r.resolve n offset = some t) ↔ r.Covers n := by
  constructor
  · rintro ⟨t, ht⟩
    by_contra hcovers
    rw [resolve, settle_eq_none hn hcovers] at ht
    exact absurd ht (by simp)
  · intro hcovers
    obtain ⟨standard, hstandard⟩ := exists_settle false hn hcovers
    obtain ⟨saving, hsaving⟩ := exists_settle true hn hcovers
    simp only [resolve, hstandard, hsaving, Option.bind_eq_bind, Option.bind_some, Option.pure_def]
    split_ifs <;> exact ⟨_, rfl⟩

/-! ### Resolving again -/

/-- The two searches that a resolution comes from; the second one counts when it shows the
reading. -/
theorem settle_of_resolve {offset : Int} (h : r.resolve n offset = some t) :
    r.settle n false = some t ∨ r.settle n true = some t ∧ t.seconds = n := by
  simp only [resolve, Option.bind_eq_bind, Option.bind_eq_some_iff, Option.pure_def] at h
  obtain ⟨standard, hstandard, h⟩ := h
  split_ifs at h with hshows
  · exact .inl (hstandard.trans h)
  · obtain ⟨saving, hsaving, h⟩ := Option.bind_eq_some_iff.1 h
    split_ifs at h with hshows'
    · obtain rfl := Option.some.inj h
      rw [LocalTime.shows, Bool.and_eq_true, beq_iff_eq] at hshows'
      exact .inr ⟨hsaving, hshows'.1⟩
    · exact .inl (hstandard.trans h)

/-- **A resolution is settled.** -/
theorem isShown_of_resolve {offset : Int} (h : r.resolve n offset = some t) :
    r.IsShown t.seconds t := by
  rcases settle_of_resolve h with hsettle | ⟨hsettle, -⟩
  · exact ⟨rfl, normalize_of_settle hsettle⟩
  · exact ⟨rfl, normalize_of_settle hsettle⟩

/-- What is resolved is in the calendar. -/
theorem isSecond_of_resolve {offset : Int} (h : r.resolve n offset = some t) :
    IsSecond t.seconds :=
  (normalize_eq_some.1 (isShown_of_resolve h).settled).2.1

/-- What is resolved has a regime of the zone. -/
theorem regime_mem_of_resolve {offset : Int} (h : r.resolve n offset = some t) :
    t.regime ∈ r.regimes :=
  (isShown_of_resolve h).regime_mem

/-- A resolution that shows the reading and has an offset. -/
def ResolvesTo (r : Rules) (n offset : Int) : Prop :=
  ∃ t, r.resolve n offset = some t ∧ t.seconds = n ∧ t.regime.seconds = offset

theorem shows_iff {offset : Int} :
    LocalTime.shows t n offset = true ↔ t.seconds = n ∧ t.regime.seconds = offset := by
  rw [LocalTime.shows, Bool.and_eq_true, beq_iff_eq, beq_iff_eq]

/-- **The written offset is preferred:** when one of the searches shows the reading with it, so does
the resolution. -/
theorem resolvesTo_of_settle {isSaving : Bool} (h : r.settle n isSaving = some t)
    (hn : t.seconds = n) : r.ResolvesTo n t.regime.seconds := by
  have hsecond : IsSecond n := hn ▸ (normalize_eq_some.1 (normalize_of_settle h)).2.1
  have hcovers : r.Covers n := by
    by_contra hnot
    rw [settle_eq_none hsecond hnot] at h
    exact absurd h (by simp)
  obtain ⟨standard, hstandard⟩ := exists_settle false hsecond hcovers
  unfold ResolvesTo
  simp only [resolve, hstandard, Option.bind_eq_bind, Option.bind_some, Option.pure_def]
  by_cases hshows : LocalTime.shows standard n t.regime.seconds = true
  · exact ⟨standard, by rw [if_pos hshows], shows_iff.1 hshows⟩
  · cases isSaving with
    | false =>
      rw [hstandard] at h
      obtain rfl := Option.some.inj h
      exact absurd (shows_iff.2 ⟨hn, rfl⟩) hshows
    | true =>
      have hthis : LocalTime.shows t n t.regime.seconds = true := shows_iff.2 ⟨hn, rfl⟩
      exact ⟨t, by rw [if_neg hshows, h, Option.bind_some, if_pos hthis], hn, rfl⟩

/-- A reading that was kept resolves to itself with the offset that it got. -/
theorem resolvesTo_of_resolve {offset : Int} (h : r.resolve n offset = some t)
    (hn : t.seconds = n) : r.ResolvesTo n t.regime.seconds := by
  rcases settle_of_resolve h with hsettle | ⟨hsettle, -⟩
  · exact resolvesTo_of_settle hsettle hn
  · exact resolvesTo_of_settle hsettle hn

end Rules
end Zone
end TypedInputs
