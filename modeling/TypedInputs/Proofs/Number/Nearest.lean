/-
# Rounding takes the nearest number

The numbers of a format with one exponent are a grid, and a value is rounded to the nearest point of
the grid of its exponent. A number of a greater exponent is a point of this grid too, and one of a
lesser exponent is below the binade of the value, at whose start the grid has a point
(`value_eq_or_lt`). So the point is nearest among all numbers of the format, and a tie goes to an
even mantissa (`abs_sub_value_le`).

Only values from `overflow` on round to nothing (`roundValue_eq_none_iff`). This is the middle
between the greatest number and the next power of two, where the tie goes up.
-/

import Mathlib.Algebra.Order.Ring.Abs
import TypedInputs.Proofs.Number.Rounding

namespace TypedInputs
namespace Number

/-! ### The nearest natural number -/

/-- The nearest natural number is a half away at most. -/
theorem abs_sub_nearestNat_le {u : ℚ} (h : 0 ≤ u) : |u - nearestNat u| ≤ 1 / 2 := by
  have hlow := Nat.floor_le h
  have hhigh := Nat.lt_floor_add_one u
  have hrest : ((⌊u⌋₊ % 2 : Nat) : ℚ) ≤ 1 := by
    exact_mod_cast (show ⌊u⌋₊ % 2 ≤ 1 by omega)
  have hrest' : (0 : ℚ) ≤ (⌊u⌋₊ % 2 : Nat) := Nat.cast_nonneg _
  unfold nearestNat
  split_ifs <;> push_cast <;> rw [abs_le] <;> constructor <;> linarith

/-- In the middle between two natural numbers the even one is taken. -/
theorem even_nearestNat {u : ℚ} (h : 0 ≤ u) (hmiddle : |u - nearestNat u| = 1 / 2) :
    Even (nearestNat u) := by
  have hlow := Nat.floor_le h
  have hhigh := Nat.lt_floor_add_one u
  unfold nearestNat at hmiddle ⊢
  split_ifs at hmiddle ⊢ with hbelow habove
  · rcases (abs_eq (by norm_num)).1 hmiddle with heq | heq <;> linarith
  · push_cast at hmiddle
    rcases (abs_eq (by norm_num)).1 hmiddle with heq | heq <;> linarith
  · rw [Nat.even_iff]
    omega

/-- Another natural number is at least half a unit away. -/
theorem half_le_abs_sub {u : ℚ} (h : 0 ≤ u) {k : Nat} (hk : k ≠ nearestNat u) :
    1 / 2 ≤ |u - k| := by
  have hne : (nearestNat u : Int) - k ≠ 0 := by omega
  have hone : (1 : ℚ) ≤ |(nearestNat u : ℚ) - k| := by exact_mod_cast Int.one_le_abs hne
  have hsum := abs_sub_le (nearestNat u : ℚ) u k
  have hnear := abs_sub_nearestNat_le h
  rw [abs_sub_comm] at hnear
  linarith

/-- **No natural number is nearer.** -/
theorem abs_sub_nearestNat_le_abs_sub {u : ℚ} (h : 0 ≤ u) (k : Nat) :
    |u - nearestNat u| ≤ |u - k| := by
  rcases eq_or_ne k (nearestNat u) with rfl | hk
  · exact le_rfl
  · exact (abs_sub_nearestNat_le h).trans (half_le_abs_sub h hk)

/-- **Of two equally near natural numbers the even one is taken.** -/
theorem even_nearestNat_of_tie {u : ℚ} (h : 0 ≤ u) {k : Nat} (hk : k ≠ nearestNat u)
    (htie : |u - nearestNat u| = |u - k|) : Even (nearestNat u) := by
  have hfar := half_le_abs_sub h hk
  exact even_nearestNat h (le_antisymm (abs_sub_nearestNat_le h) (htie ▸ hfar))

/-! ### The nearest number of a format -/

namespace BinaryFormat

variable {f : BinaryFormat} {v : ℚ}

theorem two_pow_precision (hp : 0 < f.precision) :
    (2 : ℚ) ^ f.precision = 2 ^ (f.precision - 1) * 2 := by
  rw [← pow_succ, Nat.sub_add_cancel hp]

/-- The value in units of the grid of its exponent. -/
def scaled (f : BinaryFormat) (v : ℚ) : ℚ := v * 2 ^ (-f.exponentOf v)

theorem scaled_mul (f : BinaryFormat) (v : ℚ) : f.scaled v * 2 ^ f.exponentOf v = v := by
  rw [scaled, mul_assoc, ← zpow_add₀ two_ne_zero, Int.add_left_neg, zpow_zero, mul_one]

theorem scaled_nonneg (h : 0 ≤ v) : 0 ≤ f.scaled v := by
  unfold scaled
  positivity

/-- No value has an exponent below the least. -/
theorem minExponent_le_exponentOf (f : BinaryFormat) (v : ℚ) : f.minExponent ≤ f.exponentOf v := by
  unfold exponentOf
  split_ifs
  · exact le_rfl
  · exact le_max_left _ _

/-- A value is below the end of its grid. -/
theorem scaled_lt (hp : 0 < f.precision) (h : 0 ≤ v) : f.scaled v < 2 ^ f.precision := by
  rcases h.eq_or_lt with rfl | hpos
  · rw [scaled, zero_mul]
    positivity
  · have hexponent : Int.log 2 v < f.exponentOf v + f.precision := by
      rw [exponentOf, if_neg hpos.ne']
      omega
    have hlt := (Int.lt_zpow_iff_log_lt one_lt_two hpos).2 hexponent
    rwa [Nat.cast_ofNat, zpow_add₀ two_ne_zero, zpow_natCast, mul_comm,
      ← div_lt_iff₀ (by positivity), div_eq_mul_inv, ← zpow_neg] at hlt

/-- Above the least exponent a value has all bits. -/
theorem le_scaled (hp : 0 < f.precision) (h : 0 ≤ v) (hmin : f.minExponent < f.exponentOf v) :
    2 ^ (f.precision - 1) ≤ f.scaled v := by
  have hzero : v ≠ 0 := by
    rintro rfl
    rw [exponentOf, if_pos rfl] at hmin
    exact lt_irrefl _ hmin
  have hexponent : f.exponentOf v + (f.precision - 1 : Nat) ≤ Int.log 2 v := by
    rw [exponentOf, if_neg hzero] at hmin ⊢
    omega
  have hle := (Int.zpow_le_iff_le_log one_lt_two (h.lt_of_ne' hzero)).2 hexponent
  rwa [Nat.cast_ofNat, zpow_add₀ two_ne_zero, zpow_natCast, mul_comm, ← le_div_iff₀ (by positivity),
    div_eq_mul_inv, ← zpow_neg] at hle

/-- The point of the grid that a value is rounded to. -/
def gridPoint (f : BinaryFormat) (v : ℚ) : Nat := nearestNat (f.scaled v)

/-- A value is at most half a step from the point it is rounded to. -/
theorem abs_scaled_sub_gridPoint_le (h : 0 ≤ v) : |f.scaled v - f.gridPoint v| ≤ 1 / 2 :=
  abs_sub_nearestNat_le (scaled_nonneg h)

/-- A value is not rounded beyond the end of its grid. -/
theorem gridPoint_le (hp : 0 < f.precision) (h : 0 ≤ v) : f.gridPoint v ≤ 2 ^ f.precision := by
  have hlt := scaled_lt hp h
  have hnear := abs_le.1 (abs_scaled_sub_gridPoint_le (f := f) h)
  have hcast : (f.gridPoint v : ℚ) < (2 ^ f.precision + 1 : Nat) := by
    push_cast
    linarith [hnear.1]
  have hnat : f.gridPoint v < 2 ^ f.precision + 1 := by exact_mod_cast hcast
  omega

/-- Above the least exponent a value is in the upper half of its grid. -/
theorem le_gridPoint (hp : 0 < f.precision) (h : 0 ≤ v) (hmin : f.minExponent < f.exponentOf v) :
    2 ^ (f.precision - 1) ≤ f.gridPoint v := by
  have hle := le_scaled hp h hmin
  have hnear := abs_le.1 (abs_scaled_sub_gridPoint_le (f := f) h)
  have hcast : ((2 ^ (f.precision - 1) : Nat) : ℚ) < (f.gridPoint v + 1 : Nat) := by
    push_cast
    linarith [hnear.2]
  have hnat : 2 ^ (f.precision - 1) < f.gridPoint v + 1 := by exact_mod_cast hcast
  omega

/-- The end of a grid is the start of the next one. -/
theorem roundValue_of_eq (hend : f.gridPoint v = 2 ^ f.precision) :
    f.roundValue v = if h : f.Canonical (2 ^ (f.precision - 1)) (f.exponentOf v + 1) then
      some ⟨_, _, h⟩ else none := by
  have hnearest : nearestNat (v * 2 ^ (-f.exponentOf v)) = Nat.pow 2 f.precision := hend
  simp only [roundValue, hnearest, if_true]
  rfl

/-- A value that does not reach the end of its grid is rounded on it. -/
theorem roundValue_of_ne (hne : f.gridPoint v ≠ 2 ^ f.precision) :
    f.roundValue v = if h : f.Canonical (f.gridPoint v) (f.exponentOf v) then
      some ⟨_, _, h⟩ else none := by
  have hnearest : nearestNat (v * 2 ^ (-f.exponentOf v)) ≠ Nat.pow 2 f.precision := hne
  simp only [roundValue, hnearest, if_false]
  rfl

/-- The end of a grid is the start of the next one, if the format has that. -/
theorem canonical_of_eq (hp : 0 < f.precision) :
    f.Canonical (2 ^ (f.precision - 1)) (f.exponentOf v + 1) ↔ f.exponentOf v < f.maxExponent := by
  have hmin := minExponent_le_exponentOf f v
  have hlt : 2 ^ (f.precision - 1) < 2 ^ f.precision :=
    Nat.pow_lt_pow_right one_lt_two (by omega)
  simp only [Canonical, Nat.pow_eq]
  omega

/-- A point inside its grid is a number of the format, if the format has the exponent. -/
theorem canonical_of_ne (hp : 0 < f.precision) (h : 0 ≤ v)
    (hne : f.gridPoint v ≠ 2 ^ f.precision) :
    f.Canonical (f.gridPoint v) (f.exponentOf v) ↔ f.exponentOf v ≤ f.maxExponent := by
  have hmin := minExponent_le_exponentOf f v
  have hle := gridPoint_le hp h
  have hfull := le_gridPoint hp h
  simp only [Canonical, Nat.pow_eq]
  omega

/-- What a value rounds to is the point of the grid, and its mantissa is even where the point is. -/
theorem value_eq_of_roundValue (hp : 1 < f.precision) {x : Magnitude f}
    (h : f.roundValue v = some x) :
    x.value = f.gridPoint v * 2 ^ f.exponentOf v ∧ (Even (f.gridPoint v) → Even x.mantissa) := by
  by_cases hend : f.gridPoint v = 2 ^ f.precision
  · rw [roundValue_of_eq hend] at h
    split_ifs at h with hcanonical
    obtain rfl := Option.some.inj h
    refine ⟨?_, fun _ => Nat.even_pow.2 ⟨even_two, by omega⟩⟩
    rw [hend, Magnitude.value, zpow_add_one₀ two_ne_zero]
    push_cast
    rw [two_pow_precision (by omega)]
    ring
  · rw [roundValue_of_ne hend] at h
    split_ifs at h with hcanonical
    obtain rfl := Option.some.inj h
    exact ⟨rfl, id⟩

/-- A number of the format is a point of the grid of a value, or below the start of its binade. -/
theorem value_eq_or_lt (hp : 0 < f.precision) (v : ℚ) (y : Magnitude f) :
    (∃ k : Nat, y.value = k * 2 ^ f.exponentOf v) ∨
      f.minExponent < f.exponentOf v ∧
        y.value < (2 ^ (f.precision - 1) : Nat) * 2 ^ f.exponentOf v := by
  obtain ⟨hlt, hmin, -, -⟩ := y.canonical
  rcases le_or_gt (f.exponentOf v) y.exponent with hle | hgt
  · obtain ⟨n, hn⟩ := Int.eq_ofNat_of_zero_le (a := y.exponent - f.exponentOf v) (by omega)
    refine .inl ⟨y.mantissa * 2 ^ n, ?_⟩
    obtain hexponent : y.exponent = n + f.exponentOf v := by omega
    rw [Magnitude.value, hexponent, zpow_add₀ two_ne_zero, zpow_natCast]
    push_cast
    ring
  · refine .inr ⟨hmin.trans_lt hgt, ?_⟩
    have hmantissa : (y.mantissa : ℚ) < 2 ^ f.precision := by exact_mod_cast hlt
    calc y.value < 2 ^ f.precision * 2 ^ y.exponent :=
          mul_lt_mul_of_pos_right hmantissa (by positivity)
      _ ≤ 2 ^ f.precision * 2 ^ (f.exponentOf v - 1) :=
          mul_le_mul_of_nonneg_left (zpow_le_zpow_right₀ one_le_two (by omega)) (by positivity)
      _ = (2 ^ (f.precision - 1) : Nat) * 2 ^ f.exponentOf v := by
          rw [zpow_sub_one₀ two_ne_zero, two_pow_precision hp]
          push_cast
          ring

/-- The distance of a value to a point of its grid. -/
theorem abs_sub_grid (f : BinaryFormat) (v : ℚ) (k : Nat) :
    |v - k * 2 ^ f.exponentOf v| = |f.scaled v - k| * 2 ^ f.exponentOf v := by
  have hpos : (0 : ℚ) < 2 ^ f.exponentOf v := by positivity
  calc |v - k * 2 ^ f.exponentOf v|
      = |f.scaled v * 2 ^ f.exponentOf v - k * 2 ^ f.exponentOf v| := by rw [scaled_mul]
    _ = |f.scaled v - k| * 2 ^ f.exponentOf v := by rw [← sub_mul, abs_mul, abs_of_pos hpos]

/-- **No number of the format is nearer** than what a value rounds to, and where another one is as
near, the mantissa is even. -/
theorem abs_sub_value_le (hp : 1 < f.precision) (h : 0 ≤ v) {x : Magnitude f}
    (hx : f.roundValue v = some x) (y : Magnitude f) :
    |v - x.value| ≤ |v - y.value| ∧
      (|v - x.value| = |v - y.value| → y.value ≠ x.value → Even x.mantissa) := by
  have hpos : (0 : ℚ) < 2 ^ f.exponentOf v := by positivity
  have hscaled := scaled_nonneg (f := f) h
  obtain ⟨hvalue, heven⟩ := value_eq_of_roundValue hp hx
  have hgrid (k : Nat) : |v - x.value| ≤ |v - k * 2 ^ f.exponentOf v| := by
    rw [hvalue, abs_sub_grid, abs_sub_grid]
    exact mul_le_mul_of_nonneg_right (abs_sub_nearestNat_le_abs_sub hscaled k) hpos.le
  rcases value_eq_or_lt (by omega) v y with ⟨k, hk⟩ | ⟨hmin, hbelow⟩
  · refine ⟨hk ▸ hgrid k, fun htie hne => heven ?_⟩
    have hother : k ≠ f.gridPoint v := by
      rintro rfl
      exact hne (hk.trans hvalue.symm)
    rw [hk, hvalue, abs_sub_grid, abs_sub_grid] at htie
    exact even_nearestNat_of_tie hscaled hother (mul_right_cancel₀ hpos.ne' htie)
  · -- The start of the binade is between the number and the value.
    have hstart : (2 ^ (f.precision - 1) : Nat) * 2 ^ f.exponentOf v ≤ v := by
      conv_rhs => rw [← scaled_mul f v]
      push_cast
      exact mul_le_mul_of_nonneg_right (le_scaled (by omega) h hmin) hpos.le
    have hless : |v - x.value| < |v - y.value| := by
      refine (hgrid (2 ^ (f.precision - 1))).trans_lt ?_
      rw [abs_of_nonneg (by linarith), abs_of_nonneg (by linarith)]
      linarith
    exact ⟨hless.le, fun htie => absurd htie hless.ne⟩

/-! ### The overflow -/

/-- The middle between the greatest number and the next power of two. -/
def overflow (f : BinaryFormat) : ℚ :=
  2 ^ (f.maxExponent + f.precision) - 2 ^ (f.maxExponent - 1)

/-- The overflow is half a step before the end of the last grid. -/
theorem overflow_eq (f : BinaryFormat) :
    f.overflow = (2 ^ f.precision - 1 / 2) * 2 ^ f.maxExponent := by
  rw [overflow, zpow_add₀ two_ne_zero, zpow_sub_one₀ two_ne_zero, zpow_natCast]
  ring

theorem overflow_pos (f : BinaryFormat) : 0 < f.overflow := by
  have hone : (1 : ℚ) ≤ 2 ^ f.precision := one_le_pow₀ one_le_two
  rw [overflow_eq]
  exact mul_pos (by linarith) (by positivity)

theorem overflow_le_zpow (f : BinaryFormat) :
    f.overflow ≤ 2 ^ (f.maxExponent + f.precision) :=
  sub_le_self _ (by positivity)

/-- A value with an exponent below the greatest does not overflow. -/
theorem lt_overflow (hp : 0 < f.precision) (h : 0 ≤ v) (hq : f.exponentOf v < f.maxExponent) :
    v < f.overflow := by
  have hone : (1 : ℚ) ≤ 2 ^ f.precision := one_le_pow₀ one_le_two
  have hexponent : (2 : ℚ) ^ f.exponentOf v ≤ 2 ^ (f.maxExponent - 1) :=
    zpow_le_zpow_right₀ one_le_two (by omega)
  calc v = f.scaled v * 2 ^ f.exponentOf v := (scaled_mul f v).symm
    _ < 2 ^ f.precision * 2 ^ f.exponentOf v :=
        mul_lt_mul_of_pos_right (scaled_lt hp h) (by positivity)
    _ ≤ 2 ^ f.precision * 2 ^ (f.maxExponent - 1) :=
        mul_le_mul_of_nonneg_left hexponent (by positivity)
    _ = (2 ^ f.precision - 2 ^ f.precision / 2) * 2 ^ f.maxExponent := by
        rw [zpow_sub_one₀ two_ne_zero]
        ring
    _ ≤ (2 ^ f.precision - 1 / 2) * 2 ^ f.maxExponent :=
        mul_le_mul_of_nonneg_right (by linarith) (by positivity)
    _ = f.overflow := f.overflow_eq.symm

/-- A value with an exponent above the greatest overflows. -/
theorem overflow_le (hp : 0 < f.precision) (hle : f.minExponent ≤ f.maxExponent) (h : 0 ≤ v)
    (hq : f.maxExponent < f.exponentOf v) : f.overflow ≤ v := by
  have hfull := le_scaled hp h (hle.trans_lt hq)
  have hexponent : (2 : ℚ) ^ (f.maxExponent + 1) ≤ 2 ^ f.exponentOf v :=
    zpow_le_zpow_right₀ one_le_two (by omega)
  calc f.overflow ≤ 2 ^ f.precision * 2 ^ f.maxExponent := by
        rw [overflow_eq]
        exact mul_le_mul_of_nonneg_right (by linarith) (by positivity)
    _ = 2 ^ (f.precision - 1) * 2 ^ (f.maxExponent + 1) := by
        rw [two_pow_precision hp, zpow_add_one₀ two_ne_zero]
        ring
    _ ≤ f.scaled v * 2 ^ f.exponentOf v :=
        mul_le_mul hfull hexponent (by positivity) (scaled_nonneg h)
    _ = v := scaled_mul f v

/-- The last half unit of a grid is rounded to its end: the point in front of the end is odd. -/
theorem gridPoint_eq_iff (hp : 0 < f.precision) (h : 0 ≤ v) :
    f.gridPoint v = 2 ^ f.precision ↔ 2 ^ f.precision - 1 / 2 ≤ f.scaled v := by
  have hnear := abs_le.1 (abs_scaled_sub_gridPoint_le (f := f) h)
  constructor
  · intro hend
    have hcast : (f.gridPoint v : ℚ) = 2 ^ f.precision := by exact_mod_cast hend
    linarith [hnear.1]
  · intro hlast
    by_contra hne
    have hle := gridPoint_le hp h
    have hbelow : (f.gridPoint v : ℚ) + 1 ≤ 2 ^ f.precision := by
      exact_mod_cast (show f.gridPoint v + 1 ≤ 2 ^ f.precision by omega)
    have hmiddle : f.scaled v - f.gridPoint v = 1 / 2 := by linarith [hnear.2]
    have heven : Even (f.gridPoint v) := by
      refine even_nearestNat (scaled_nonneg h) ?_
      change |f.scaled v - f.gridPoint v| = 1 / 2
      rw [hmiddle, abs_of_pos one_half_pos]
    have hend : f.gridPoint v + 1 = 2 ^ f.precision := by
      have hcast : (f.gridPoint v : ℚ) + 1 = 2 ^ f.precision := by linarith
      exact_mod_cast hcast
    have hodd : ¬Even (2 ^ f.precision) := hend ▸ Nat.not_even_iff_odd.2 heven.add_one
    exact hodd (Nat.even_pow.2 ⟨even_two, hp.ne'⟩)

/-- **Only values from the overflow on round to nothing.** -/
theorem roundValue_eq_none_iff (hp : 0 < f.precision) (hle : f.minExponent ≤ f.maxExponent)
    (h : 0 ≤ v) : f.roundValue v = none ↔ f.overflow ≤ v := by
  have hnone : f.roundValue v = none ↔ f.maxExponent < f.exponentOf v ∨
      f.exponentOf v = f.maxExponent ∧ f.gridPoint v = 2 ^ f.precision := by
    by_cases hend : f.gridPoint v = 2 ^ f.precision
    · rw [roundValue_of_eq hend, dite_eq_right_iff]
      simp only [canonical_of_eq hp, reduceCtorEq, imp_false]
      rw [not_lt, le_iff_lt_or_eq, and_iff_left hend, eq_comm]
    · rw [roundValue_of_ne hend, dite_eq_right_iff]
      simp only [canonical_of_ne hp h hend, reduceCtorEq, imp_false]
      rw [not_le, or_iff_left fun hlast => hend hlast.2]
  rw [hnone]
  rcases lt_trichotomy (f.exponentOf v) f.maxExponent with hq | hq | hq
  · have hlt := lt_overflow hp h hq
    simp only [hlt.not_ge, hq.ne, hq.not_gt, false_and, or_self]
  · have hunits : f.overflow ≤ v ↔ 2 ^ f.precision - 1 / 2 ≤ f.scaled v := by
      have hpos : (0 : ℚ) < 2 ^ f.exponentOf v := by positivity
      have hmul := mul_le_mul_iff_left₀ hpos (b := 2 ^ f.precision - 1 / 2) (c := f.scaled v)
      rwa [scaled_mul, hq, ← overflow_eq] at hmul
    rw [hunits, gridPoint_eq_iff hp h]
    simp [hq]
  · simp only [hq, overflow_le hp hle h hq, true_or]

end BinaryFormat

end Number
end TypedInputs
