/-
# Integers as doubles

| magnitude | double |
| --- | --- |
| at most 2 ^ 53 | the one of this value |
| below 2 ^ 1024 - 2 ^ 970 | the nearest one |
| from there on | none |

What is rounded does not step over a number of the format: this would be nearer
(`value_le_of_roundValue`). So an integer from a power of two on has a double from this power on,
however few bits are left for it.
-/

import TypedInputs.Proofs.Number.Double

namespace TypedInputs
namespace Number

namespace BinaryFormat

variable {f : BinaryFormat}

/-- **Rounding does not step over a number of the format.** -/
theorem value_le_of_roundValue (hp : 1 < f.precision) {v : ℚ} (h : 0 ≤ v) {x : Magnitude f}
    (hx : f.roundValue v = some x) {y : Magnitude f} (hy : y.value ≤ v) : y.value ≤ x.value := by
  by_contra hlt
  rw [not_le] at hlt
  have hnear := (abs_sub_value_le hp h hx y).1
  rw [abs_of_nonneg (by linarith), abs_of_nonneg (by linarith)] at hnear
  linarith

end BinaryFormat

namespace Double

/-- Every power of two below the overflow is a double. -/
theorem exists_value_eq_two_pow {k : Nat} (hk : k ≤ 971) :
    ∃ y : Magnitude binary64, y.value = 2 ^ k := by
  have hmin : (-1074 : Int) ≤ k := by omega
  have hmax : (k : Int) ≤ 971 := by exact_mod_cast hk
  obtain ⟨y, hy⟩ :=
    BinaryFormat.exists_value_eq (f := binary64) (m := 1) (by decide) (by decide) hmin hmax
  exact ⟨y, by simpa using hy⟩

/-- Every natural number up to `2 ^ 53` is a double. -/
theorem exists_value_eq_natCast {m : Nat} (hm : m ≤ 2 ^ 53) :
    ∃ y : Magnitude binary64, y.value = m := by
  rcases hm.lt_or_eq with hlt | rfl
  · obtain ⟨y, hy⟩ :=
      BinaryFormat.exists_value_eq (f := binary64) (q := 0) (by decide) hlt (by decide) (by decide)
    exact ⟨y, by simpa using hy⟩
  · obtain ⟨y, hy⟩ := exists_value_eq_two_pow (k := 53) (by decide)
    exact ⟨y, by exact_mod_cast hy⟩

/-- An integer is its magnitude with its sign. -/
theorem signedValue_natAbs (n : Int) : signedValue (decide (n < 0)) n.natAbs = n := by
  unfold signedValue
  rw [← Int.cast_natCast]
  simp only [decide_eq_true_eq]
  split_ifs with hneg
  · rw [← Int.cast_neg]
    exact congrArg Int.cast (by omega)
  · exact congrArg Int.cast (by omega)

/-- An integer is rounded as its magnitude is. -/
theorem ofInt?_eq (n : Int) :
    ofInt? n = (binary64.roundValue n.natAbs).map (.finite (decide (n < 0))) := by
  rw [ofInt?, BinaryFormat.round_eq, Ratio.value_ofNat]

/-- **Integers up to 2 ^ 53 are doubles.** -/
theorem exists_ofInt?_of_le {n : Int} (h : n.natAbs ≤ 2 ^ 53) :
    ∃ x, ofInt? n = some x ∧ x.value? = some (n : ℚ) := by
  obtain ⟨y, hy⟩ := exists_value_eq_natCast h
  have hround : binary64.roundValue n.natAbs = some y := by
    rw [← hy]
    exact BinaryFormat.roundValue_canonical binary64_precision_pos y.canonical
  exact ⟨.finite (decide (n < 0)) y, by rw [ofInt?_eq, hround, Option.map_some],
    by rw [value?, hy, signedValue_natAbs]⟩

/-- An integer from a power of two on has a double from this power on. -/
theorem exists_of_ofInt? {n : Int} {x : Double} (hx : ofInt? n = some x) {k : Nat} (hk : k ≤ 971)
    (h : 2 ^ k ≤ n.natAbs) :
    ∃ v : ℚ, x.value? = some (signedValue (decide (n < 0)) v) ∧ 2 ^ k ≤ v := by
  rw [ofInt?_eq] at hx
  obtain ⟨y, hround, rfl⟩ := Option.map_eq_some_iff.1 hx
  obtain ⟨power, hpower⟩ := exists_value_eq_two_pow hk
  have hle : power.value ≤ (n.natAbs : ℚ) := by
    rw [hpower]
    exact_mod_cast h
  exact ⟨y.value, rfl, hpower ▸
    BinaryFormat.value_le_of_roundValue (by decide) (Nat.cast_nonneg _) hround hle⟩

/-- **Integers have a double below the overflow.** -/
theorem ofInt?_eq_none_iff {n : Int} :
    ofInt? n = none ↔ 2 ^ 1024 - 2 ^ 970 ≤ n.natAbs := by
  have hoverflow : binary64.overflow = ((2 ^ 1024 - 2 ^ 970 : Nat) : ℚ) := by
    have hle : (2 : Nat) ^ 970 ≤ 2 ^ 1024 := by gcongr <;> decide
    have hhigh : binary64.maxExponent + binary64.precision = (1024 : Nat) := rfl
    have hlow : binary64.maxExponent - 1 = (970 : Nat) := rfl
    rw [BinaryFormat.overflow, hhigh, hlow, zpow_natCast, zpow_natCast, Nat.cast_sub hle,
      Nat.cast_pow, Nat.cast_pow, Nat.cast_ofNat]
  rw [ofInt?_eq, Option.map_eq_none_iff,
    BinaryFormat.roundValue_eq_none_iff (by decide) (by decide) (Nat.cast_nonneg _), hoverflow,
    Nat.cast_le]

end Double
end Number
end TypedInputs
