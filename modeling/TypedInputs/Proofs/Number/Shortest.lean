/-
# The shortest text of a double

The text of a finite double is a numeral whose value rounds to the double. The search for few digits
keeps only what reads back, and the exact digits behind it are exact (`roundValue_shortest`); the
layout moves the point and drops zeros, which changes no value (`writesValue_layout`).

The text is a decimal literal as well, and its decimal has the double for its nearest one
(`Decimal.exists_parse_text`). The exponent is in reach at both ends: the value is below the
overflow, and the digits that are searched end at `leastPlace` or above, as the exact ones do.
-/

import Mathlib.Data.List.TakeWhile
import TypedInputs.Number.Shortest
import TypedInputs.Proofs.Number.Double

namespace TypedInputs
namespace Number

open Text

/-- The value of a decimal number. -/
def ScaledNat.value (n : ScaledNat) : ℚ := n.digits * 10 ^ n.exponent

/-- The neighbours of a ratio are on the grid that they are asked for. -/
theorem exponent_of_mem_neighbours {r : Ratio} {e : Int} {n : ScaledNat} (h : n ∈ r.neighbours e) :
    n.exponent = e := by
  unfold Ratio.neighbours at h
  simp only at h
  split_ifs at h <;> rcases List.mem_pair.1 h with rfl | rfl <;> rfl

namespace Double

/-! ### The digits of a text -/

/-- The exact digits of a double have its value. -/
theorem value_exactDigits (x : Magnitude binary64) : (exactDigits x).value = x.value := by
  unfold exactDigits
  split_ifs with he
  · obtain ⟨n, hn⟩ := Int.eq_ofNat_of_zero_le he
    simp only [ScaledNat.value, Magnitude.value, hn, Int.toNat_natCast, Nat.pow_eq, Nat.cast_mul,
      Nat.cast_pow, Nat.cast_ofNat, zpow_zero, zpow_natCast, mul_one]
  · obtain ⟨n, hn⟩ := Int.eq_ofNat_of_zero_le (a := -x.exponent) (by omega)
    have hexponent : x.exponent = -(n : Int) := by omega
    simp only [ScaledNat.value, Magnitude.value, hexponent, neg_neg, Int.toNat_natCast, Nat.pow_eq,
      Nat.cast_mul, Nat.cast_pow, Nat.cast_ofNat, zpow_neg, zpow_natCast]
    rw [show (10 : ℚ) = 5 * 2 by norm_num, mul_pow]
    field_simp

/-- A finite double is the rounding of the value it was made of. -/
theorem roundValue_of_ofValue {negative negative' : Bool} {v : ℚ} {x : Magnitude binary64}
    (h : ofValue negative v = .finite negative' x) : binary64.roundValue v = some x := by
  unfold ofValue at h
  split at h
  · rename_i y hround
    rw [hround, (Double.finite.inj h).2]
  · cases h

/-- **The shortest digits read back.** -/
theorem roundValue_shortest (x : Magnitude binary64) :
    binary64.roundValue (shortest x).value = some x := by
  unfold shortest
  simp only
  generalize hgrids : (List.range maxSignificantDigits).flatMap _ = grids
  cases hfind : grids.find? (readsBack x) with
  | none =>
    rw [Option.getD_none, value_exactDigits]
    exact BinaryFormat.roundValue_canonical binary64_precision_pos x.canonical
  | some n =>
    have hreads := List.find?_some hfind
    rw [readsBack, beq_iff_eq, ofDecimal_eq] at hreads
    exact roundValue_of_ofValue hreads

/-- The shortest digits of a double other than zero are not zero. -/
theorem shortest_ne_zero {x : Magnitude binary64} (h : x.mantissa ≠ 0) :
    (shortest x).digits ≠ 0 := by
  intro hzero
  have hround := roundValue_shortest x
  rw [ScaledNat.value, hzero, Nat.cast_zero, zero_mul,
    BinaryFormat.roundValue_eq_zero (f := binary64) (by decide) le_rfl (by positivity)] at hround
  exact h (congrArg Magnitude.mantissa (Option.some.inj hround)).symm

/-- The digits of a magnitude begin at `10 ^ -1075` at the earliest. -/
theorem le_floorLog10_toRatio (x : Magnitude binary64) : -1075 ≤ x.toRatio.floorLog10 := by
  have hmin : (-1074 : Int) ≤ x.exponent := x.canonical.2.1
  obtain ⟨k, hk⟩ : ∃ k, k = (-x.exponent).toNat := ⟨_, rfl⟩
  have hden : x.toRatio.den ≤ 2 ^ k := by
    unfold Magnitude.toRatio Ratio.scaleTwo Ratio.scale
    rw [hk]
    split_ifs
    · exact Nat.one_le_two_pow
    · exact (Nat.one_mul _).le
  unfold Ratio.floorLog10 decimalLength
  split_ifs with hle
  · omega
  · have hquotient : (x.toRatio.den - 1) / x.toRatio.num < 10 ^ (k + 1) :=
      calc (x.toRatio.den - 1) / x.toRatio.num ≤ x.toRatio.den - 1 := Nat.div_le_self _ _
        _ < x.toRatio.den := Nat.sub_one_lt x.toRatio.den_pos.ne'
        _ ≤ 2 ^ k := hden
        _ ≤ 10 ^ k := Nat.pow_le_pow_left (by decide) k
        _ ≤ 10 ^ (k + 1) := Nat.pow_le_pow_right (by decide) k.le_succ
    have hlength := length_toDigits_le k.succ_pos hquotient
    omega

/-- **No digit of the shortest text stands below this place.** -/
def leastPlace : Int := -1100

/-- The last of the shortest digits stands at this place or above it. -/
theorem leastPlace_le_exponent_shortest (x : Magnitude binary64) :
    leastPlace ≤ (shortest x).exponent := by
  have hmin : (-1074 : Int) ≤ x.exponent := x.canonical.2.1
  have hleading := le_floorLog10_toRatio x
  unfold shortest leastPlace
  simp only
  generalize hgrids : (List.range maxSignificantDigits).flatMap _ = grids
  cases hfind : grids.find? (readsBack x) with
  | none =>
    rw [Option.getD_none, exactDigits]
    split_ifs <;> simp only <;> omega
  | some n =>
    have hmem := List.mem_of_find?_eq_some hfind
    rw [← hgrids, List.mem_flatMap] at hmem
    obtain ⟨k, hk, hn⟩ := hmem
    have hcount : k < 17 := List.mem_range.1 hk
    rw [Option.getD_some, exponent_of_mem_neighbours hn]
    omega

/-! ### The text -/

/-- The text is an unsigned numeral with a value, and its digits end at the place `10 ^ least` or
above. -/
def WritesValue (text : List Char) (v : ℚ) (least : Int) : Prop :=
  ∃ c k, Writes text c k ∧ (c : ℚ) * 10 ^ k = v ∧ least ≤ k

/-- The value of digits with the point before the first of them moved to the right. -/
def pointedValue (digits : List Nat) (point : Int) : ℚ :=
  ofDigits digits * 10 ^ (point - digits.length)

theorem isExponent_exponentText (e : Int) : IsExponent ('e' :: exponentText e) e :=
  isExponent_signed (.inl rfl) (spells_padded 2 e.natAbs) (padded_ne_nil 2 e.natAbs)
    (ofDigits_paddedDigits 2 e.natAbs)

section Layout

variable {text : List Char} {digits : List Nat} {point : Int}

/-- Digits with an exponent behind them write their value. -/
theorem writesValue_scientific (h : Spells text digits) (hne : text ≠ [])
    (hpoint : point ≤ minPositionalPoint ∨ maxPositionalPoint < point) :
    WritesValue (layout text point) (pointedValue digits point)
      (min (-1) (point - digits.length)) := by
  unfold layout
  rw [if_pos hpoint]
  have hexponent := isExponent_exponentText (point - 1)
  have hlength := h.length_eq
  match text, hne with
  | [d], _ =>
    refine ⟨_, _, ⟨[d], _, digits, [], _, rfl, .whole h (by simp), hexponent, rfl, rfl⟩, ?_, ?_⟩
    · rw [pointedValue, ← hlength, List.append_nil]
      simp
    · rw [← hlength]
      simp
  | d :: e :: es, _ =>
    have hfirst := h.take 1
    have hrest := h.drop 1
    have hplace : point - 1 - ((digits.drop 1).length : Nat) = point - digits.length := by
      rw [List.length_drop, ← hlength]
      simp only [List.length_cons]
      omega
    refine ⟨_, _, ⟨_, _, _, _, _, rfl, .both hfirst (by simp) hrest, hexponent, rfl, rfl⟩, ?_, ?_⟩
    · rw [List.take_append_drop, hplace, pointedValue]
    · rw [hplace]
      exact min_le_right _ _

/-- Digits behind a point and zeros write their value. -/
theorem writesValue_zeros (h : Spells text digits) (hpoint : point ≤ 0) :
    WritesValue ('0' :: '.' :: List.replicate (-point).toNat '0' ++ text)
      (pointedValue digits point) (min (-1) (point - digits.length)) := by
  have hzeros := Spells.replicate_zero (-point).toNat
  have hshift : (0 : Int) - ((List.replicate (-point).toNat 0 ++ digits).length : Nat) =
      point - digits.length := by
    rw [List.length_append, List.length_replicate]
    omega
  have hleading : ofDigits ([0] ++ (List.replicate (-point).toNat 0 ++ digits)) =
      ofDigits digits := by
    rw [ofDigits_append, ofDigits_append, ofDigits_replicate_zero]
    simp [ofDigits]
  refine ⟨_, _, ⟨_, [], [0], _, 0, (List.append_nil _).symm,
    .both (w := ['0']) (Spells.replicate_zero 1) (by simp) (hzeros.append h), .absent, rfl,
    rfl⟩, ?_, ?_⟩
  · rw [hleading, hshift, pointedValue]
  · rw [hshift]
    exact min_le_right _ _

/-- Digits with zeros up to the point write their value. -/
theorem writesValue_whole (h : Spells text digits) (hne : text ≠ [])
    (hpoint : (text.length : Int) ≤ point) :
    WritesValue (text ++ List.replicate (point.toNat - text.length) '0' ++ ['.', '0'])
      (pointedValue digits point) (min (-1) (point - digits.length)) := by
  have hzeros := Spells.replicate_zero (point.toNat - text.length)
  refine ⟨_, _, ⟨_, [], _, [0], 0, (List.append_nil _).symm,
    .both (h.append hzeros) (by simp [hne]) (f := ['0']) (Spells.replicate_zero 1), .absent, rfl,
    rfl⟩, ?_, min_le_left _ _⟩
  have hshift : point - digits.length = (point.toNat - text.length : Nat) := by
    rw [← h.length_eq]
    omega
  have htrailing : ofDigits (digits ++ List.replicate (point.toNat - text.length) 0 ++ [0]) =
      ofDigits digits * 10 ^ (point.toNat - text.length) * 10 := by
    rw [ofDigits_append, ofDigits_append, ofDigits_replicate_zero, List.length_replicate]
    simp [ofDigits]
  rw [htrailing, pointedValue, hshift, zpow_natCast]
  simp only [List.length_singleton, Nat.cast_mul, Nat.cast_pow, Nat.cast_ofNat]
  norm_num
  ring

/-- Digits that the point divides write their value. -/
theorem writesValue_divided (h : Spells text digits) (hpos : 0 < point)
    (hpoint : point < text.length) :
    WritesValue (text.take point.toNat ++ '.' :: text.drop point.toNat)
      (pointedValue digits point) (min (-1) (point - digits.length)) := by
  have hne : text.take point.toNat ≠ [] := by
    rw [← List.length_pos_iff, List.length_take]
    omega
  have hplace : 0 - ((digits.drop point.toNat).length : Nat) = point - digits.length := by
    rw [List.length_drop, ← h.length_eq]
    omega
  refine ⟨_, _, ⟨_, [], _, _, 0, (List.append_nil _).symm,
    .both (h.take point.toNat) hne (h.drop point.toNat), .absent, rfl, rfl⟩, ?_, ?_⟩
  · rw [List.take_append_drop, hplace, pointedValue]
  · rw [hplace]
    exact min_le_right _ _

/-- **Every layout writes the digits with the point where it belongs,** and no others but zeros in
front and one behind the point. -/
theorem writesValue_layout (h : Spells text digits) (hne : text ≠ []) (point : Int) :
    WritesValue (layout text point) (pointedValue digits point)
      (min (-1) (point - digits.length)) := by
  unfold layout
  split_ifs with hscientific hzeros hwhole
  · have hlayout := writesValue_scientific h hne hscientific
    unfold layout at hlayout
    rwa [if_pos hscientific] at hlayout
  · exact writesValue_zeros h hzeros
  · exact writesValue_whole h hne hwhole
  · exact writesValue_divided h (by omega) (by omega)

end Layout

/-- Zeros at the end of a text are dropped. -/
theorem exists_eq_dropTrailingZeros_append (text : List Char) :
    ∃ k, text = dropTrailingZeros text ++ List.replicate k '0' := by
  refine ⟨(text.reverse.takeWhile (· == '0')).length, ?_⟩
  have hzeros : text.reverse.takeWhile (· == '0') =
      List.replicate (text.reverse.takeWhile (· == '0')).length '0' :=
    List.eq_replicate_of_mem fun c hc => by simpa using List.mem_takeWhile_imp hc
  rw [dropTrailingZeros, ← List.reverse_replicate, ← hzeros, ← List.reverse_append,
    List.takeWhile_append_dropWhile, List.reverse_reverse]

/-- **Dropping the zeros at the end changes no value.** -/
theorem exists_spells_dropTrailingZeros {text : List Char} {digits : List Nat}
    (h : Spells text digits) (hne : ofDigits digits ≠ 0) (e : Int) :
    ∃ digits', Spells (dropTrailingZeros text) digits' ∧ dropTrailingZeros text ≠ [] ∧
      pointedValue digits' (e + text.length) = ofDigits digits * 10 ^ e ∧
      digits'.length ≤ text.length := by
  obtain ⟨k, hk⟩ := exists_eq_dropTrailingZeros_append text
  generalize hkept : dropTrailingZeros text = kept at hk
  subst hk
  have hspells := h.take kept.length
  rw [List.take_left] at hspells
  have hdigits := (hspells.append (Spells.replicate_zero k)).unique h
  have hlength := hspells.length_eq
  rw [← hdigits, ofDigits_append, ofDigits_replicate_zero, List.length_replicate, Nat.add_zero]
    at hne ⊢
  refine ⟨_, hspells, ?_, ?_, ?_⟩
  · rintro rfl
    refine hne ?_
    rw [List.length_eq_zero_iff.1 hlength.symm]
    exact Nat.zero_mul _
  · rw [pointedValue, List.length_append, List.length_replicate, ← hlength]
    push_cast
    rw [show e + ((kept.length : Int) + k) - kept.length = k + e by omega,
      zpow_add₀ (by norm_num), zpow_natCast]
    ring
  · rw [← hlength, List.length_append]
    omega

/-- A number is no less than the power of ten with as many digits. -/
theorem ten_pow_le {c : Nat} (hc : c ≠ 0) : 10 ^ (decimalLength c - 1) ≤ c := by
  by_contra hlt
  rw [not_le] at hlt
  rcases Nat.eq_zero_or_pos (decimalLength c - 1) with hone | hpos
  · rw [hone, pow_zero] at hlt
    omega
  · have hlength := length_toDigits_le hpos hlt
    unfold decimalLength at hlength hpos
    omega

/-- **A decimal that rounds to a double has its exponent in reach,** when its digits end at the least
place or above. -/
theorem inReach_of_roundValue {c : Nat} {k : Int} {x : Magnitude binary64}
    (hround : binary64.roundValue (c * 10 ^ k) = some x) (hc : c ≠ 0) (hk : leastPlace ≤ k)
    (negative : Bool) : (Decimal.mk negative c k).InReach := by
  refine ⟨?_, le_trans (by decide) hk⟩
  by_contra hle
  have hadjusted : 999999999999999999 < k + decimalLength c - 1 := not_le.1 hle
  have hlarge : (400 : Nat) ≤ k + (decimalLength c - 1 : Nat) := by omega
  have hbeyond : (2 : ℚ) ^ 1024 ≤ c * 10 ^ k :=
    calc (2 : ℚ) ^ 1024 ≤ 2 ^ (3 * 400) := pow_le_pow_right₀ (by norm_num) (by norm_num)
      _ ≤ 10 ^ 400 := two_pow_le_ten_pow 400
      _ = 10 ^ ((400 : Nat) : Int) := (zpow_natCast _ _).symm
      _ ≤ 10 ^ (k + (decimalLength c - 1 : Nat)) := zpow_le_zpow_right₀ (by norm_num) hlarge
      _ = 10 ^ (decimalLength c - 1) * 10 ^ k := by
          rw [zpow_add₀ (by norm_num), zpow_natCast, mul_comm]
      _ ≤ c * 10 ^ k :=
          mul_le_mul_of_nonneg_right (by exact_mod_cast ten_pow_le hc) (by positivity)
  rw [roundValue_of_two_pow_le hbeyond] at hround
  cases hround

/-- **The text of a magnitude writes a value that rounds to it,** and has its exponent in reach. -/
theorem exists_writes_magnitudeText (x : Magnitude binary64) :
    ∃ c k, Writes (magnitudeText x) c k ∧ binary64.roundValue (c * 10 ^ k) = some x ∧
      ∀ negative, (Decimal.mk negative c k).InReach := by
  unfold magnitudeText
  split_ifs with hzero
  · refine ⟨0, -1, ⟨['0', '.', '0'], [], [0], [0], 0, rfl,
      .both (w := ['0']) (f := ['0']) (Spells.replicate_zero 1) (by simp)
        (Spells.replicate_zero 1), .absent, rfl, rfl⟩, ?_, by decide⟩
    have hx : x.value = 0 := by rw [Magnitude.value, hzero, Nat.cast_zero, zero_mul]
    rw [Nat.cast_zero, zero_mul, ← hx]
    exact BinaryFormat.roundValue_canonical binary64_precision_pos x.canonical
  · have hdigits := shortest_ne_zero hzero
    obtain ⟨digits, hspells, hne, hvalue, hlength⟩ := exists_spells_dropTrailingZeros
      (spells_toDigits (shortest x).digits) (by rwa [ofDigits_decimalDigits]) (shortest x).exponent
    obtain ⟨c, k, hwrites, hck, hplace⟩ := writesValue_layout hspells hne
      ((shortest x).exponent + (Nat.toDigits 10 (shortest x).digits).length)
    rw [hvalue, ofDigits_decimalDigits] at hck
    have hround : binary64.roundValue (c * 10 ^ k) = some x := by
      rw [hck]
      exact roundValue_shortest x
    have hleast := leastPlace_le_exponent_shortest x
    refine ⟨c, k, hwrites, hround, inReach_of_roundValue hround ?_ ?_⟩
    · rintro rfl
      have hpositive : 0 < ((shortest x).digits : ℚ) := Nat.cast_pos.2 (Nat.pos_of_ne_zero hdigits)
      have hnonzero : 0 < ((shortest x).digits : ℚ) * 10 ^ (shortest x).exponent := by positivity
      rw [← hck, Nat.cast_zero, zero_mul] at hnonzero
      exact lt_irrefl 0 hnonzero
    · unfold leastPlace at *
      omega

/-- **The text of a finite double is a numeral that stands for the double.** Its decimal is in
reach. -/
theorem exists_isNumeral_toChars (negative : Bool) (x : Magnitude binary64) :
    ∃ n, IsNumeral (toChars (.finite negative x)) n ∧ ofNumeral n = .finite negative x ∧
      (Decimal.ofNumeral n).InReach := by
  obtain ⟨c, k, hwrites, hround, hreach⟩ := exists_writes_magnitudeText x
  obtain ⟨n, hn, hnegative, hcoefficient, hscale⟩ :=
    hwrites.exists_isNumeral (isSign_signText negative)
  refine ⟨n, hn, ?_, ?_⟩
  · rw [ofNumeral_eq, hnegative, hcoefficient, hscale, ofValue, hround]
  · rw [Decimal.ofNumeral, hnegative, hcoefficient, hscale]
    exact hreach negative

end Double

namespace Decimal

/-- **The text of a finite double is a decimal literal,** and the double is the nearest one to its
decimal. -/
theorem exists_parse_text (negative : Bool) (x : Magnitude binary64) :
    ∃ d, parse (Double.finite negative x).text = .ok d ∧ d.toDouble = .finite negative x := by
  obtain ⟨n, hn, hvalue, hreach⟩ := Double.exists_isNumeral_toChars negative x
  refine ⟨ofNumeral n, parse_eq_ok_iff.2 ⟨n, ?_, rfl, hreach⟩, hvalue⟩
  rwa [Double.text, String.toList_ofList, hn.trim_eq]

/-- **The texts of NaN and the infinities are no decimal literals.** -/
theorem parse_text_of_value?_eq_none {x : Double} (h : x.value? = none) :
    parse x.text = .error (.notDecimal x.text) := by
  cases x with
  | nan => rfl
  | infinite negative => cases negative <;> rfl
  | finite => cases h

end Decimal
end Number
end TypedInputs
