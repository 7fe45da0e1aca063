/-
# Rounding as a function of the value

A `Ratio` is one of many quotients with the same value, and rounding looks at the value alone:
`round_eq` writes it with the logarithm and the floor of a rational number, so quotients of the same
value round to the same number.

Three facts about values say what is rounded without a loss, and what is lost altogether.

| value | rounds to |
| --- | --- |
| that of a number of the format | this number (`round_toRatio`) |
| `m · 2 ^ q` with few enough bits | a number of this value (`exists_value_eq`) |
| less than half the least number | zero (`roundValue_eq_zero`) |
-/

import Mathlib.Algebra.Order.Field.Power
import Mathlib.Data.Int.Log
import Mathlib.Data.Rat.Floor
import Mathlib.Tactic.FieldSimp
import Mathlib.Tactic.Linarith
import Mathlib.Tactic.Positivity
import Mathlib.Tactic.Ring
import TypedInputs.Number.BinaryFormat

namespace TypedInputs
namespace Number

/-- The rational number of a ratio. -/
def Ratio.value (r : Ratio) : ℚ := r.num / r.den

namespace Ratio

theorem den_cast_pos (r : Ratio) : (0 : ℚ) < r.den := Nat.cast_pos.2 r.den_pos

@[simp] theorem value_ofNat (n : Nat) : (ofNat n).value = n := by simp [ofNat, value]

theorem value_eq_zero_iff {r : Ratio} : r.value = 0 ↔ r.num = 0 := by
  rw [value, div_eq_zero_iff, Nat.cast_eq_zero, Nat.cast_eq_zero]
  exact or_iff_left r.den_pos.ne'

theorem one_le_value_iff {r : Ratio} : 1 ≤ r.value ↔ r.den ≤ r.num := by
  rw [value, le_div_iff₀ r.den_cast_pos, one_mul, Nat.cast_le]

/-- Scaling a ratio multiplies its value by a power of the base, also by one with a negative
exponent. -/
theorem value_scale (r : Ratio) (base : Nat) (k : Int) (hb : 0 < base) :
    (r.scale base k hb).value = r.value * (base : ℚ) ^ k := by
  have hbase : (base : ℚ) ≠ 0 := (Nat.cast_pos.2 hb).ne'
  unfold scale
  split_ifs with hk
  · obtain ⟨n, rfl⟩ := Int.eq_ofNat_of_zero_le hk
    simp only [value, Int.toNat_natCast, Nat.pow_eq, Nat.cast_mul, Nat.cast_pow, zpow_natCast]
    ring
  · obtain ⟨n, hn⟩ := Int.eq_ofNat_of_zero_le (a := -k) (by omega)
    obtain rfl : k = -(n : Int) := by omega
    simp only [value, neg_neg, Int.toNat_natCast, Nat.pow_eq, Nat.cast_mul, Nat.cast_pow, zpow_neg,
      zpow_natCast]
    rw [div_mul_eq_div_div, div_eq_mul_inv _ ((base : ℚ) ^ n)]

@[simp] theorem value_scaleTwo (r : Ratio) (k : Int) :
    (r.scaleTwo k).value = r.value * 2 ^ k := r.value_scale 2 k _

@[simp] theorem value_scaleTen (r : Ratio) (k : Int) :
    (r.scaleTen k).value = r.value * 10 ^ k := r.value_scale 10 k _

end Ratio

/-! ### The logarithm -/

/-- The binary logarithm of a value is the power of two below it. -/
theorem log_eq_of_mem {v : ℚ} {e : Int} (h : 2 ^ e ≤ v) (h' : v < 2 ^ (e + 1)) :
    Int.log 2 v = e := by
  have hpos : 0 < v := lt_of_lt_of_le (by positivity) h
  have hle := (Int.zpow_le_iff_le_log one_lt_two hpos).1 h
  have hlt := (Int.lt_zpow_iff_log_lt one_lt_two hpos).1 h'
  omega

/-- The power of two that the binary logarithm names is no greater than the number. -/
theorem pow_log2_le {n : Nat} (h : n ≠ 0) : (2 : ℚ) ^ n.log2 ≤ n := by
  exact_mod_cast Nat.log2_self_le h

/-- The next power of two is greater than the number. -/
theorem lt_pow_log2_succ (n : Nat) : (n : ℚ) < 2 ^ (n.log2 + 1) := by
  exact_mod_cast Nat.lt_log2_self

/-- **The binary logarithm of a ratio is that of its value.** The lengths of the two numbers leave
two candidates, between which one comparison decides. -/
theorem Ratio.floorLog2_eq {r : Ratio} (h : r.num ≠ 0) : r.floorLog2 = Int.log 2 r.value := by
  have hnum := pow_log2_le h
  have hnum' := lt_pow_log2_succ r.num
  have hden := pow_log2_le r.den_pos.ne'
  have hden' := lt_pow_log2_succ r.den
  have hlow : (2 : ℚ) ^ ((r.num.log2 : Int) - r.den.log2 - 1) ≤ r.value := by
    rw [value, le_div_iff₀ r.den_cast_pos]
    calc (2 : ℚ) ^ ((r.num.log2 : Int) - r.den.log2 - 1) * r.den
        ≤ 2 ^ ((r.num.log2 : Int) - r.den.log2 - 1) * 2 ^ (r.den.log2 + 1) :=
          mul_le_mul_of_nonneg_left hden'.le (by positivity)
      _ = 2 ^ r.num.log2 := by
          rw [← zpow_natCast, ← zpow_natCast, ← zpow_add₀ two_ne_zero]
          congr 1
          push_cast
          ring
      _ ≤ r.num := hnum
  have hhigh : r.value < 2 ^ ((r.num.log2 : Int) - r.den.log2 + 1) := by
    rw [value, div_lt_iff₀ r.den_cast_pos]
    calc (r.num : ℚ) < 2 ^ (r.num.log2 + 1) := hnum'
      _ = 2 ^ ((r.num.log2 : Int) - r.den.log2 + 1) * 2 ^ r.den.log2 := by
          rw [← zpow_natCast, ← zpow_natCast, ← zpow_add₀ two_ne_zero]
          congr 1
          push_cast
          ring
      _ ≤ 2 ^ ((r.num.log2 : Int) - r.den.log2 + 1) * r.den :=
          mul_le_mul_of_nonneg_left hden (by positivity)
  simp only [floorLog2, ← one_le_value_iff, value_scaleTwo]
  generalize (r.num.log2 : Int) - r.den.log2 = e at *
  have hscaled : 1 ≤ r.value * 2 ^ (-e) ↔ (2 : ℚ) ^ e ≤ r.value := by
    rw [zpow_neg, ← div_eq_mul_inv, le_div_iff₀ (by positivity), one_mul]
  simp only [hscaled]
  split_ifs with hle
  · exact (log_eq_of_mem hle hhigh).symm
  · refine (log_eq_of_mem hlow ?_).symm
    rw [Int.sub_add_cancel]
    exact lt_of_not_ge hle

/-! ### The nearest natural number -/

/-- The natural number nearest to a rational number that is not negative; of two equally near ones
the even one. -/
def nearestNat (v : ℚ) : Nat :=
  if v - ⌊v⌋₊ < 1 / 2 then ⌊v⌋₊
  else if 1 / 2 < v - ⌊v⌋₊ then ⌊v⌋₊ + 1
  else ⌊v⌋₊ + ⌊v⌋₊ % 2

/-- The nearest natural number to a ratio is the one to its value, and in the middle the even
one. -/
theorem Ratio.nearest_eq (r : Ratio) : r.nearest = nearestNat r.value := by
  have hden := r.den_cast_pos
  have hfloor : ⌊r.value⌋₊ = r.num / r.den := Rat.natFloor_natCast_div_natCast r.num r.den
  have hrest : r.value - (r.num / r.den : Nat) = (r.num % r.den : Nat) / r.den := by
    have hsplit : (r.num : ℚ) = r.den * (r.num / r.den : Nat) + (r.num % r.den : Nat) := by
      exact_mod_cast (Nat.div_add_mod r.num r.den).symm
    rw [value, eq_div_iff hden.ne', sub_mul, div_mul_cancel₀ _ hden.ne', hsplit]
    ring
  have hbelow : 2 * (r.num % r.den) < r.den ↔ ((r.num % r.den : Nat) : ℚ) / r.den < 1 / 2 := by
    rw [div_lt_div_iff₀ hden two_pos, one_mul, mul_comm]
    exact_mod_cast Iff.rfl
  have habove : r.den < 2 * (r.num % r.den) ↔ 1 / 2 < ((r.num % r.den : Nat) : ℚ) / r.den := by
    rw [div_lt_div_iff₀ two_pos hden, one_mul, mul_comm]
    exact_mod_cast Iff.rfl
  simp only [nearest, nearestNat, hfloor, hrest, hbelow, habove]

@[simp] theorem nearestNat_natCast (n : Nat) : nearestNat n = n := by
  simp [nearestNat]

/-- Below a half the nearest natural number is zero. -/
theorem nearestNat_of_lt {v : ℚ} (h : v < 1 / 2) : nearestNat v = 0 := by
  have hfloor : ⌊v⌋₊ = 0 := Nat.floor_eq_zero.2 (by linarith)
  rw [nearestNat, hfloor, if_pos (by simpa using h)]

/-! ### Rounding -/

namespace BinaryFormat

/-- The exponent that a value has in a format. -/
def exponentOf (f : BinaryFormat) (v : ℚ) : Int :=
  if v = 0 then f.minExponent else max f.minExponent (Int.log 2 v - (f.precision - 1 : Nat))

/-- The number of the format nearest to a value. -/
def roundValue (f : BinaryFormat) (v : ℚ) : Option (Magnitude f) :=
  let q := f.exponentOf v
  let m := nearestNat (v * 2 ^ (-q))
  let (m, q) := if m = Nat.pow 2 f.precision then (Nat.pow 2 (f.precision - 1), q + 1) else (m, q)
  if h : f.Canonical m q then some ⟨m, q, h⟩ else none

/-- **Rounding looks at the value alone.** -/
theorem round_eq (f : BinaryFormat) (r : Ratio) : f.round r = f.roundValue r.value := by
  have hexponent : (if r.num = 0 then f.minExponent
      else max f.minExponent (r.floorLog2 - (f.precision - 1 : Nat))) = f.exponentOf r.value := by
    simp only [exponentOf, Ratio.value_eq_zero_iff]
    split_ifs with hzero
    · rfl
    · rw [r.floorLog2_eq hzero]
  simp only [round, roundValue, hexponent, Ratio.nearest_eq, Ratio.value_scaleTwo]

end BinaryFormat

/-- The rational number of a magnitude. -/
def Magnitude.value {f : BinaryFormat} (x : Magnitude f) : ℚ := x.mantissa * 2 ^ x.exponent

theorem Magnitude.value_nonneg {f : BinaryFormat} (x : Magnitude f) : 0 ≤ x.value := by
  unfold Magnitude.value
  positivity

@[simp] theorem Magnitude.value_toRatio {f : BinaryFormat} (x : Magnitude f) :
    x.toRatio.value = x.value := by
  rw [toRatio, Ratio.value_scaleTwo, Ratio.value_ofNat, value]

namespace BinaryFormat

variable {f : BinaryFormat}

/-- The value of a canonical pair has its exponent. -/
theorem exponentOf_canonical (hp : 0 < f.precision) {m : Nat} {q : Int} (h : f.Canonical m q) :
    f.exponentOf (m * 2 ^ q) = q := by
  obtain ⟨hlt, hmin, -, hnormal⟩ := h
  rw [Nat.pow_eq] at hlt hnormal
  rcases Nat.eq_zero_or_pos m with rfl | hm
  · have hpow := Nat.two_pow_pos (f.precision - 1)
    rw [exponentOf, if_pos (by simp)]
    omega
  · have hlog : Int.log 2 ((m : ℚ) * 2 ^ q) = m.log2 + q := by
      refine log_eq_of_mem ?_ ?_
      · rw [zpow_add₀ two_ne_zero, zpow_natCast]
        exact mul_le_mul_of_nonneg_right (pow_log2_le hm.ne') (by positivity)
      · rw [show (m.log2 : Int) + q + 1 = (m.log2 + 1 : Nat) + q by push_cast; ring,
          zpow_add₀ two_ne_zero, zpow_natCast]
        exact mul_lt_mul_of_pos_right (lt_pow_log2_succ m) (by positivity)
    have hbits : m.log2 < f.precision := (Nat.log2_lt hm.ne').2 hlt
    rw [exponentOf, if_neg (by positivity), hlog]
    rcases hnormal with hnormal | rfl
    · have hfull : f.precision - 1 ≤ m.log2 := (Nat.le_log2 hm.ne').2 hnormal
      omega
    · omega

/-- **The value of a canonical pair rounds to it.** -/
theorem roundValue_canonical (hp : 0 < f.precision) {m : Nat} {q : Int} (h : f.Canonical m q) :
    f.roundValue (m * 2 ^ q) = some ⟨m, q, h⟩ := by
  have hscaled : (m : ℚ) * 2 ^ q * 2 ^ (-q) = m := by
    rw [mul_assoc, ← zpow_add₀ two_ne_zero, Int.add_right_neg, zpow_zero, mul_one]
  have hlt : m ≠ Nat.pow 2 f.precision := h.1.ne
  simp only [roundValue, exponentOf_canonical hp h, hscaled, nearestNat_natCast, if_neg hlt,
    dif_pos h]

/-- **A number of the format rounds to itself.** -/
theorem round_toRatio (hp : 0 < f.precision) (x : Magnitude f) : f.round x.toRatio = some x := by
  rw [round_eq, Magnitude.value_toRatio]
  exact roundValue_canonical hp x.canonical

/-- **Every number with few enough bits is a number of the format.** -/
theorem exists_value_eq (hp : 0 < f.precision) {m : Nat} {q : Int}
    (hm : m < 2 ^ f.precision) (hmin : f.minExponent ≤ q) (hmax : q ≤ f.maxExponent) :
    ∃ x : Magnitude f, x.value = m * 2 ^ q := by
  rcases Nat.eq_zero_or_pos m with rfl | hpos
  · exact ⟨⟨0, f.minExponent, Nat.two_pow_pos _, le_rfl, hmin.trans hmax, .inr rfl⟩,
      by simp [Magnitude.value]⟩
  -- The mantissa moves up until it has all bits, or the exponent is the least one.
  have hbits : m.log2 < f.precision := (Nat.log2_lt hpos.ne').2 hm
  obtain ⟨k, hk⟩ : ∃ k : Nat, k = min (f.precision - 1 - m.log2) (q - f.minExponent).toNat :=
    ⟨_, rfl⟩
  have hlow := Nat.log2_self_le hpos.ne'
  have hcanonical : f.Canonical (m * 2 ^ k) (q - k) := by
    refine ⟨?_, by omega, by omega, ?_⟩
    · calc m * 2 ^ k < 2 ^ (m.log2 + 1) * 2 ^ k :=
            Nat.mul_lt_mul_of_pos_right Nat.lt_log2_self (Nat.two_pow_pos k)
        _ = 2 ^ (m.log2 + 1 + k) := (Nat.pow_add ..).symm
        _ ≤ 2 ^ f.precision := Nat.pow_le_pow_right Nat.two_pos (by omega)
    · rcases Nat.lt_or_ge k (f.precision - 1 - m.log2) with hlt | hge
      · exact .inr (by omega)
      · refine .inl ?_
        calc 2 ^ (f.precision - 1) ≤ 2 ^ (m.log2 + k) :=
              Nat.pow_le_pow_right Nat.two_pos (by omega)
          _ = 2 ^ m.log2 * 2 ^ k := Nat.pow_add ..
          _ ≤ m * 2 ^ k := Nat.mul_le_mul_right _ hlow
  refine ⟨⟨_, _, hcanonical⟩, ?_⟩
  rw [Magnitude.value, Nat.cast_mul, Nat.cast_pow, Nat.cast_ofNat, zpow_sub₀ two_ne_zero,
    zpow_natCast]
  field_simp

/-- The zero of a format. -/
def zero (h : f.minExponent ≤ f.maxExponent) : Magnitude f :=
  ⟨0, f.minExponent, Nat.two_pow_pos _, le_rfl, h, .inr rfl⟩

@[simp] theorem value_zero (h : f.minExponent ≤ f.maxExponent) : (zero h).value = 0 := by
  simp [zero, Magnitude.value]

/-- What is less than half the least number rounds to zero. -/
theorem roundValue_eq_zero (hle : f.minExponent ≤ f.maxExponent) {v : ℚ}
    (h : 0 ≤ v) (h' : v < 2 ^ (f.minExponent - 1)) : f.roundValue v = some (zero hle) := by
  have hexponent : f.exponentOf v = f.minExponent := by
    unfold exponentOf
    split_ifs with hzero
    · rfl
    · have hlog := (Int.lt_zpow_iff_log_lt one_lt_two (lt_of_le_of_ne h (Ne.symm hzero))).1 h'
      omega
  have hsmall : v * 2 ^ (-f.minExponent) < 1 / 2 := by
    rw [zpow_neg, ← div_eq_mul_inv, div_lt_iff₀ (by positivity)]
    rw [zpow_sub₀ two_ne_zero, zpow_one] at h'
    linarith
  have hnearest : nearestNat (v * 2 ^ (-f.minExponent)) = 0 :=
    nearestNat_of_lt hsmall
  have hne : 0 ≠ Nat.pow 2 f.precision := (Nat.two_pow_pos _).ne
  have hcanonical : f.Canonical 0 f.minExponent := (zero hle).canonical
  simp only [roundValue, hexponent, hnearest, if_neg hne, dif_pos hcanonical]
  rfl

end BinaryFormat
end Number
end TypedInputs
