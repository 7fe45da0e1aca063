/-
# Numbers narrowed to integers

A number narrows to an integer of a width in three steps: the fraction is dropped, what is beyond a
range of 32 or 64 bits is moved to its nearest end, and the low bits are kept. The first two steps
are the function `saturated`, which is monotone (`saturated_mono`); the third changes nothing within
the width (`wrap_of_inWidth`), and in any case answers the only integer of the width with the same
residue (`eq_wrap_iff`).

| type | range of the second step | low bits |
| --- | --- | --- |
| `byte`, `short` | 32 bits | 8, 16 |
| `int` | 32 bits | all |
| `long` | 64 bits | all |
-/

import Mathlib.Data.Int.ModEq
import TypedInputs.Proofs.Literal.Domain

namespace TypedInputs
namespace Number

/-- The integer next to a rational number in the direction of zero. -/
def towardZero (v : ℚ) : Int := if 0 ≤ v then ⌊v⌋ else ⌈v⌉

/-- Rounding toward zero treats both signs alike. -/
theorem towardZero_neg (v : ℚ) : towardZero (-v) = -towardZero v := by
  unfold towardZero
  rcases lt_trichotomy v 0 with h | rfl | h
  · rw [if_pos (by linarith), if_neg (by linarith), Int.floor_neg]
  · simp
  · rw [if_neg (by linarith), if_pos h.le, Int.ceil_neg]

/-- Rounding toward zero keeps the order. -/
theorem towardZero_mono {v w : ℚ} (h : v ≤ w) : towardZero v ≤ towardZero w := by
  unfold towardZero
  split_ifs with hv hw hw
  · exact Int.floor_le_floor h
  · exact absurd (hv.trans h) hw
  · calc ⌈v⌉ ≤ 0 := Int.ceil_le.2 (by simpa using (not_le.1 hv).le)
      _ ≤ ⌊w⌋ := Int.floor_nonneg.2 hw
  · exact Int.ceil_le_ceil h

namespace Double

/-- **Dropping the fraction of a magnitude is truncation of its value,** with either sign. -/
theorem signed_truncateMagnitude (negative : Bool) (x : Magnitude binary64) :
    signed negative (truncateMagnitude x) = towardZero (signedValue negative x.value) := by
  have hfloor : truncateMagnitude x = ⌊x.value⌋₊ := by
    rw [truncateMagnitude, ← Rat.natFloor_natCast_div_natCast, ← Magnitude.value_toRatio,
      Ratio.value]
  have hnonneg : 0 ≤ x.value := by
    unfold Magnitude.value
    positivity
  have hpositive : (truncateMagnitude x : Int) = towardZero x.value := by
    rw [hfloor, towardZero, if_pos hnonneg, Int.natCast_floor_eq_floor hnonneg]
  cases negative with
  | false => exact hpositive
  | true =>
    show -(truncateMagnitude x : Int) = towardZero (-x.value)
    rw [towardZero_neg, hpositive]

/-- The order of the doubles that are numbers: the infinities are at its ends, and the two zeros are
at most each other. -/
inductive AtMost : Double → Double → Prop
  | finite {s t : Bool} {x y : Magnitude binary64}
      (h : signedValue s x.value ≤ signedValue t y.value) : AtMost (.finite s x) (.finite t y)
  | least {y : Double} (h : y ≠ .nan) : AtMost (.infinite true) y
  | greatest {x : Double} (h : x ≠ .nan) : AtMost x (.infinite false)

end Double
end Number

namespace Literal

open Number

/-! ### The ends of a range -/

/-- No width is empty. -/
theorem signedBounds_le (bits : Nat) : (signedBounds bits).1 ≤ (signedBounds bits).2 := by
  have hpos := Nat.two_pow_pos (bits - 1)
  simp only [signedBounds, Nat.pow_eq]
  omega

/-- What is saturated is in its width. -/
theorem inWidth_saturate (bits : Nat) (n : Int) : InWidth bits (saturate bits n) := by
  have hle := signedBounds_le bits
  unfold InWidth saturate
  omega

/-- An integer in its width is not saturated. -/
theorem saturate_of_inWidth {bits : Nat} {n : Int} (h : InWidth bits n) : saturate bits n = n := by
  obtain ⟨hlow, hhigh⟩ := h
  rw [saturate, max_eq_left hlow, min_eq_left hhigh]

theorem saturate_mono (bits : Nat) {m n : Int} (h : m ≤ n) : saturate bits m ≤ saturate bits n :=
  min_le_min_right _ (max_le_max_right _ h)

/-- A wider width has all integers of a narrower one. -/
theorem InWidth.mono {bits width : Nat} {n : Int} (h : InWidth bits n) (hle : bits ≤ width) :
    InWidth width n := by
  have hpow : 2 ^ (bits - 1) ≤ 2 ^ (width - 1) := Nat.pow_le_pow_right Nat.two_pos (by omega)
  rw [inWidth_iff] at h ⊢
  omega

/-- A number without its fraction, moved to the nearest integer of a width; zero for NaN. -/
def saturated (width : Nat) : Double → Int
  | .nan => 0
  | .infinite true => (signedBounds width).1
  | .infinite false => (signedBounds width).2
  | .finite negative x => saturate width (towardZero (signedValue negative x.value))

/-- What is saturated is in its width, whatever the double was. -/
theorem inWidth_saturated (width : Nat) (x : Double) : InWidth width (saturated width x) := by
  have hle := signedBounds_le width
  match x with
  | .nan =>
    have hpos := Nat.two_pow_pos (width - 1)
    rw [saturated, inWidth_iff]
    omega
  | .infinite true => exact ⟨le_rfl, hle⟩
  | .infinite false => exact ⟨hle, le_rfl⟩
  | .finite negative x => exact inWidth_saturate _ _

/-- **Saturation is monotone.** -/
theorem saturated_mono (width : Nat) {x y : Double} (h : x.AtMost y) :
    saturated width x ≤ saturated width y := by
  cases h with
  | finite h => exact saturate_mono width (towardZero_mono h)
  | least => exact (inWidth_saturated width y).1
  | greatest => exact (inWidth_saturated width x).2

/-- A double whose integer is in the width is not saturated. -/
theorem saturated_of_inWidth {width : Nat} {x : Double} {v : ℚ} (hv : x.value? = some v)
    (h : InWidth width (towardZero v)) : saturated width x = towardZero v := by
  cases x with
  | nan => cases hv
  | infinite => cases hv
  | finite negative x =>
    obtain rfl := Option.some.inj hv
    exact saturate_of_inWidth h

/-! ### The low bits -/

/-- **Low bits are a residue:** of the integers of the width only one has the same. -/
theorem eq_wrap_iff {bits : Nat} (h : 1 ≤ bits) {m n : Int} :
    m = wrap bits n ↔ InWidth bits m ∧ m ≡ n [ZMOD 2 ^ bits] := by
  have hpow : 2 ^ bits = 2 * 2 ^ (bits - 1) := by
    rw [← Nat.pow_succ', Nat.succ_eq_add_one, Nat.sub_add_cancel h]
  have hcast : ((2 ^ bits : Nat) : Int) = 2 ^ bits := by push_cast; rfl
  rw [eq_comm, wrap, Nat.pow_eq, Int.bmod_eq_iff (Nat.two_pow_pos bits), ← and_assoc, hcast,
    Int.modEq_comm, Int.modEq_iff_dvd, inWidth_iff]
  refine and_congr_left fun _ => ?_
  rw [← hcast, hpow]
  omega

/-- An integer in its width is not wrapped. -/
theorem wrap_of_inWidth {bits : Nat} (h : 1 ≤ bits) {n : Int} (hn : InWidth bits n) :
    wrap bits n = n := ((eq_wrap_iff h).2 ⟨hn, rfl⟩).symm

/-- Truncating to a width is saturating first and wrapping then. -/
theorem truncateToWidth_eq {bits : Nat} (h : 1 ≤ bits) (x : Double) :
    truncateToWidth bits x = wrap bits (saturated (saturationBits bits) x) := by
  match x with
  | .nan =>
    have hpos := Nat.two_pow_pos (bits - 1)
    have hzero : InWidth bits 0 := inWidth_iff.2 (by omega)
    exact (wrap_of_inWidth h hzero).symm
  | .infinite true => rfl
  | .infinite false => rfl
  | .finite negative x =>
    rw [truncateToWidth, Double.signed_truncateMagnitude, saturated]

/-- Doubles are saturated to 64 bits for `long`, and else to 32. -/
theorem saturationBits_of_width? {tag : TypeTag} {bits : Nat} (h : tag.width? = some bits) :
    saturationBits bits = if tag = .long then 64 else 32 := by
  cases tag <;> cases h <;> rfl

/-- An integral type truncates to its width. -/
theorem truncateForTag?_eq {tag : TypeTag} {bits : Nat} (h : tag.width? = some bits) (x : Double) :
    truncateForTag? tag x = some (truncateToWidth bits x) := by
  unfold truncateForTag?
  split_ifs with hnan
  · rw [hnan, truncateToWidth]
  · rw [h, Option.map_some]

/-- **A number narrows to the low bits of its saturated integer part.** It is saturated in 64 bits
for `long` and in 32 bits otherwise. For `int` and `long` all bits stay, and narrowing is monotone;
for every tag the integer part is kept where it is within the width. -/
theorem truncateForTag?_saturates {tag : TypeTag} {bits : Nat} (h : tag.width? = some bits)
    (x : Double) :
    ∃ n, truncateForTag? tag x = some n ∧
      (∀ declared : DeclaredType, declared.tag = tag → narrow declared x = .ok (.int n)) ∧
      InWidth bits n ∧ (x = .nan → n = 0) ∧
      (∀ m, m = n ↔ InWidth bits m ∧
        m ≡ saturated (if tag = .long then 64 else 32) x [ZMOD 2 ^ bits]) ∧
      (tag = .int ∨ tag = .long → n = saturated (if tag = .long then 64 else 32) x ∧
        ∀ y m, x.AtMost y → truncateForTag? tag y = some m → n ≤ m) ∧
      ∀ v, x.value? = some v → InWidth bits (towardZero v) → n = towardZero v := by
  obtain ⟨hpos, hle⟩ := le_of_width? h
  have hvalue (y : Double) : truncateToWidth bits y =
      wrap bits (saturated (if tag = .long then 64 else 32) y) := by
    rw [truncateToWidth_eq hpos, saturationBits_of_width? h]
  have hall (htag : tag = .int ∨ tag = .long) (y : Double) :
      truncateToWidth bits y = saturated (if tag = .long then 64 else 32) y := by
    refine (hvalue y).trans (wrap_of_inWidth hpos ?_)
    rcases htag with rfl | rfl <;> cases h <;> exact inWidth_saturated _ y
  refine ⟨_, truncateForTag?_eq h x, fun declared htag => narrow_integral (htag ▸ h) x,
    inWidth_truncateToWidth hpos x, fun hnan => ?_, fun m => ?_, fun htag => ⟨hall htag x, ?_⟩,
    fun v hv hwidth => ?_⟩
  · rw [hnan, truncateToWidth]
  · rw [hvalue x]
    exact eq_wrap_iff hpos
  · intro y m hxy hm
    rw [truncateForTag?_eq h, Option.some.injEq] at hm
    rw [← hm, hall htag, hall htag]
    exact saturated_mono _ hxy
  · have hwide : bits ≤ if tag = .long then 64 else 32 := by
      cases tag <;> cases h <;> decide
    rw [hvalue x, saturated_of_inWidth hv (hwidth.mono hwide), wrap_of_inWidth hpos hwidth]

/-- The number -300.75 is the byte -44. -/
theorem truncateForTag?_byte :
    TypeTag.byte.width? = some 8 ∧
      truncateForTag? .byte (.finite true ⟨1203 * 2 ^ 42, -44, by decide⟩) = some (-44) := by
  obtain ⟨n, hn, -, -, -, hresidue, -⟩ :=
    truncateForTag?_saturates (show TypeTag.byte.width? = some 8 from rfl)
      (.finite true ⟨1203 * 2 ^ 42, -44, by decide⟩)
  have hpart : saturated 32 (.finite true ⟨1203 * 2 ^ 42, -44, by decide⟩) = -300 := by
    have hvalue : towardZero (signedValue true
        (Magnitude.value (f := binary64) ⟨1203 * 2 ^ 42, -44, by decide⟩)) = -300 := by
      rw [Magnitude.value, signedValue, if_pos rfl, towardZero, if_neg (by norm_num),
        Int.ceil_eq_iff]
      norm_num
    rw [saturated, hvalue]
    decide
  have hbyte : -44 = n := by
    refine (hresidue (-44)).2 ⟨inWidth_iff.2 (by decide), ?_⟩
    rw [if_neg (by decide), hpart]
    decide
  exact ⟨rfl, hbyte ▸ hn⟩

end Literal
end TypedInputs
