/-
# Doubles as values

The double nearest to a decimal number depends on its value alone (`ofDecimal_eq`): exponents that
are cut off without arithmetic belong to values beyond the greatest double, or to values that round
to zero. Among all doubles of either sign it is the nearest one (`Decimal.toDouble_isNearest`).

Single precision numbers are doubles, so narrowing twice is narrowing once (`toSingle_toSingle`).
-/

import TypedInputs.Proofs.Number.Decimal
import TypedInputs.Proofs.Number.Nearest

namespace TypedInputs
namespace Number

open Text

/-- A sign put on a rational number. -/
def signedValue (negative : Bool) (v : ℚ) : ℚ := if negative then -v else v

/-- A sign does not change the magnitude. -/
theorem abs_signedValue (negative : Bool) (v : ℚ) : |signedValue negative v| = |v| := by
  cases negative with
  | false => rfl
  | true => exact abs_neg v

/-- Values of one sign differ as their magnitudes do. -/
theorem abs_signedValue_sub (negative : Bool) (v w : ℚ) :
    |signedValue negative v - signedValue negative w| = |v - w| := by
  cases negative with
  | false => rfl
  | true =>
    show |-v - -w| = |v - w|
    rw [neg_sub_neg, abs_sub_comm]

/-- Values of opposite signs are apart by the sum of their magnitudes. -/
theorem abs_signedValue_sub_not (negative : Bool) {v w : ℚ} (hv : 0 ≤ v) (hw : 0 ≤ w) :
    |signedValue negative v - signedValue (!negative) w| = v + w := by
  cases negative with
  | false =>
    show |v - -w| = v + w
    rw [sub_neg_eq_add, abs_of_nonneg (add_nonneg hv hw)]
  | true =>
    show |-v - w| = v + w
    rw [← neg_add', abs_neg, abs_of_nonneg (add_nonneg hv hw)]

@[simp] theorem signedValue_zero (negative : Bool) : signedValue negative 0 = 0 := by
  simp [signedValue]

theorem binary64_precision_pos : 0 < binary64.precision := by decide

theorem binary32_precision_pos : 0 < binary32.precision := by decide

namespace Double

/-- The double nearest to a value with a sign. -/
def ofValue (negative : Bool) (v : ℚ) : Double :=
  match binary64.roundValue v with
  | some x => .finite negative x
  | none => .infinite negative

/-- The double of a ratio depends on its value alone. -/
theorem ofRatio_eq (negative : Bool) (r : Ratio) :
    ofRatio negative r = ofValue negative r.value := by
  cases h : binary64.roundValue r.value with
  | none => simp only [ofRatio, ofValue, BinaryFormat.round_eq, h]
  | some x => simp only [ofRatio, ofValue, BinaryFormat.round_eq, h]

/-- **A double is the nearest one to its value.** -/
theorem ofValue_value (negative : Bool) (x : Magnitude binary64) :
    ofValue negative x.value = .finite negative x := by
  rw [ofValue, Magnitude.value,
    BinaryFormat.roundValue_canonical binary64_precision_pos x.canonical]

theorem zero_eq (negative : Bool) : zero negative = ofValue negative 0 := by
  rw [zero, ofRatio_eq, Ratio.value_ofNat, Nat.cast_zero]

/-- The rational number of a finite double. -/
def value? : Double → Option ℚ
  | .finite negative x => some (signedValue negative x.value)
  | .nan | .infinite _ => none

/-! ### Decimal numbers -/

/-- Three binary places are less than a decimal one. -/
theorem two_pow_le_ten_pow (n : Nat) : (2 : ℚ) ^ (3 * n) ≤ 10 ^ n := by
  rw [pow_mul]
  exact pow_le_pow_left₀ (by norm_num) (by norm_num) n

/-- There is no double of the magnitude 2 ^ 1024 or above. -/
theorem roundValue_of_two_pow_le {v : ℚ} (h : 2 ^ 1024 ≤ v) : binary64.roundValue v = none := by
  have hpos : 0 ≤ v := le_trans (by positivity) h
  rw [BinaryFormat.roundValue_eq_none_iff binary64_precision_pos (by decide) hpos]
  calc binary64.overflow ≤ 2 ^ (binary64.maxExponent + binary64.precision) :=
        binary64.overflow_le_zpow
    _ = 2 ^ 1024 := by
        rw [← zpow_natCast]
        rfl
    _ ≤ v := h

/-- An exponent above the reach belongs to a value beyond the greatest double. -/
theorem roundValue_of_reach_lt {c : Nat} (hc : c ≠ 0) {k : Int} (hk : (decimalReach : Int) < k) :
    binary64.roundValue (c * 10 ^ k) = none := by
  obtain ⟨n, rfl⟩ := Int.eq_ofNat_of_zero_le (a := k) (by omega)
  have hn : 400 < n := by
    unfold decimalReach at hk
    omega
  have hone : (1 : ℚ) ≤ c := by exact_mod_cast Nat.one_le_iff_ne_zero.2 hc
  refine roundValue_of_two_pow_le ?_
  calc (2 : ℚ) ^ 1024 ≤ 2 ^ (3 * n) := pow_le_pow_right₀ (by norm_num) (by omega)
    _ ≤ 10 ^ n := two_pow_le_ten_pow n
    _ ≤ c * 10 ^ n := le_mul_of_one_le_left (by positivity) hone
    _ = c * 10 ^ (n : Int) := by rw [zpow_natCast]

/-- An exponent far below the reach belongs to a value that rounds to zero. -/
theorem roundValue_of_lt_reach {c : Nat} {k : Int}
    (hk : k < -(c.log2 + decimalReach : Int)) :
    binary64.roundValue (c * 10 ^ k) = some (BinaryFormat.zero (f := binary64) (by decide)) := by
  obtain ⟨n, hn⟩ := Int.eq_ofNat_of_zero_le (a := -k) (by omega)
  obtain rfl : k = -(n : Int) := by omega
  have hlarge : c.log2 + 400 < n := by
    unfold decimalReach at hk
    omega
  refine BinaryFormat.roundValue_eq_zero _ (by positivity) ?_
  rw [zpow_neg, zpow_natCast, ← div_eq_mul_inv, div_lt_iff₀ (by positivity)]
  calc (c : ℚ) < 2 ^ (c.log2 + 1) := lt_pow_log2_succ c
    _ = 2 ^ ((c.log2 + 1 : Nat) : Int) := (zpow_natCast _ _).symm
    _ ≤ 2 ^ (-1075 + (3 * n : Nat) : Int) := zpow_le_zpow_right₀ (by norm_num) (by omega)
    _ = 2 ^ (binary64.minExponent - 1) * 2 ^ (3 * n) := by
        rw [zpow_add₀ two_ne_zero, zpow_natCast]
        rfl
    _ ≤ 2 ^ (binary64.minExponent - 1) * 10 ^ n :=
        mul_le_mul_of_nonneg_left (two_pow_le_ten_pow n) (by positivity)

/-- **The double nearest to a decimal number depends on its value alone.** -/
theorem ofDecimal_eq (negative : Bool) (c : Nat) (k : Int) :
    ofDecimal negative c k = ofValue negative (c * 10 ^ k) := by
  unfold ofDecimal
  split_ifs with hzero hhigh hlow
  · rw [zero_eq, hzero, Nat.cast_zero, zero_mul]
  · rw [ofValue, roundValue_of_reach_lt hzero hhigh]
  · have hnothing : binary64.roundValue 0 = some (BinaryFormat.zero (f := binary64) (by decide)) :=
      BinaryFormat.roundValue_eq_zero _ le_rfl (by positivity)
    rw [zero_eq, ofValue, ofValue, roundValue_of_lt_reach hlow, hnothing]
  · rw [ofRatio_eq, Ratio.value_scaleTen, Ratio.value_ofNat]

/-- A numeral is read as the double nearest to its value. -/
theorem ofNumeral_eq (n : Numeral) :
    ofNumeral n = ofValue n.negative (n.coefficient * 10 ^ n.scale) := ofDecimal_eq _ _ _

/-! ### The nearest double -/

/-- A double is nearest to a rational number. Below the overflow no double is nearer, and where
another one is as near, the mantissa is even; from the overflow on the double is an infinity. -/
def IsNearest (v : ℚ) : Double → Prop
  | .nan => False
  | .infinite negative => binary64.overflow ≤ |v| ∧ (negative = true ↔ v < 0)
  | .finite negative x => |v| < binary64.overflow ∧ ∀ y w, value? y = some w →
      |v - signedValue negative x.value| ≤ |v - w| ∧
        (|v - signedValue negative x.value| = |v - w| → w ≠ signedValue negative x.value →
          Even x.mantissa)

/-- **The double of a value is the nearest one,** whatever the signs of the others. -/
theorem ofValue_isNearest (negative : Bool) {v : ℚ} (h : 0 ≤ v) :
    (ofValue negative v).IsNearest (signedValue negative v) := by
  have hp : 1 < binary64.precision := by decide
  have hlimit := BinaryFormat.roundValue_eq_none_iff (f := binary64) (by decide) (by decide) h
  unfold ofValue
  cases hround : binary64.roundValue v with
  | none =>
    have hle := hlimit.1 hround
    have hpos : 0 < v := binary64.overflow_pos.trans_le hle
    refine ⟨by rwa [abs_signedValue, abs_of_nonneg h], ?_⟩
    cases negative with
    | false => simp [signedValue, h]
    | true => simp [signedValue, hpos]
  | some x =>
    have hlt : ¬binary64.overflow ≤ v := fun hle => by simp [hlimit.2 hle] at hround
    refine ⟨by rwa [abs_signedValue, abs_of_nonneg h, ← not_le], fun y w hw => ?_⟩
    cases y with
    | nan => cases hw
    | infinite => cases hw
    | finite minus y =>
      obtain rfl := Option.some.inj hw
      have hnearest := BinaryFormat.abs_sub_value_le hp h hround y
      rw [abs_signedValue_sub]
      rcases Bool.eq_or_eq_not minus negative with rfl | rfl
      · rw [abs_signedValue_sub]
        exact ⟨hnearest.1, fun htie hne => hnearest.2 htie fun heq => hne (by rw [heq])⟩
      · -- On the other side of zero only zero itself can be as near.
        have hzero := (BinaryFormat.abs_sub_value_le hp h hround
          (BinaryFormat.zero (by decide))).1
        have hy := y.value_nonneg
        rw [BinaryFormat.value_zero, sub_zero, abs_of_nonneg h] at hzero
        rw [abs_signedValue_sub_not negative h hy]
        refine ⟨by linarith, fun htie hne => ?_⟩
        have hnothing : y.value = 0 := by linarith
        refine hnearest.2 ?_ fun heq => hne ?_
        · rw [htie, hnothing, sub_zero, add_zero, abs_of_nonneg h]
        · rw [← heq, hnothing, signedValue_zero, signedValue_zero]

/-! ### Single precision -/

/-- Single precision is the nearest of its numbers, or infinite where there is none. -/
theorem toSingle_finite (negative : Bool) (x : Magnitude binary64) :
    toSingle (.finite negative x) = match binary32.roundValue x.value with
      | some y => ofValue negative y.value
      | none => .infinite negative := by
  cases h : binary32.roundValue x.value with
  | none => simp only [toSingle, BinaryFormat.round_eq, Magnitude.value_toRatio, h]
  | some y => simp only [toSingle, BinaryFormat.round_eq, Magnitude.value_toRatio, ofRatio_eq, h]

/-- Every single precision number is a double. -/
theorem exists_double_value_eq (y : Magnitude binary32) :
    ∃ x : Magnitude binary64, x.value = y.value := by
  obtain ⟨hm, hmin, hmax, -⟩ := y.canonical
  refine BinaryFormat.exists_value_eq binary64_precision_pos ?_ ?_ ?_
  · exact lt_trans hm (by decide)
  · exact le_trans (by decide) hmin
  · exact le_trans hmax (by decide)

/-- **Narrowing twice is narrowing once.** -/
theorem toSingle_toSingle (x : Double) : x.toSingle.toSingle = x.toSingle := by
  cases x with
  | nan => rfl
  | infinite negative => rfl
  | finite negative x =>
    rw [toSingle_finite]
    cases hround : binary32.roundValue x.value with
    | none => rfl
    | some y =>
      obtain ⟨z, hz⟩ := exists_double_value_eq y
      have hsame : binary32.roundValue z.value = some y := by
        rw [hz]
        exact BinaryFormat.roundValue_canonical binary32_precision_pos y.canonical
      show (ofValue negative y.value).toSingle = ofValue negative y.value
      rw [← hz, ofValue_value, toSingle_finite, hsame]
      show ofValue negative y.value = .finite negative z
      rw [← hz, ofValue_value]

end Double

/-- The rational number of a decimal. -/
def Decimal.value (d : Decimal) : ℚ := signedValue d.negative (d.coefficient * 10 ^ d.exponent)

/-- **The double of a decimal is the nearest one.** -/
theorem Decimal.toDouble_isNearest (d : Decimal) : d.toDouble.IsNearest d.value := by
  rw [toDouble, Double.ofDecimal_eq]
  exact Double.ofValue_isNearest d.negative (by positivity)

end Number
end TypedInputs
