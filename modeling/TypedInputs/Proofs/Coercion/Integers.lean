/-
# Integers as numbers and as texts

| integer | its text | itself |
| --- | --- | --- |
| of the width, at most 2 ^ 53 in magnitude | the integer | the integer |
| beyond the width, with a double | a failure | the low bits of the saturated integer |
| beyond all doubles | a failure | a failure |

A number goes through a double, which loses bits from 2 ^ 53 on. This does no harm beyond a width:
32 and 64 bits end at a power of two, rounding does not step back over it, and what is beyond is
saturated to the same end as the integer would be (`saturated_of_ofInt?`).
-/

import TypedInputs.Proofs.Coercion.Escape
import TypedInputs.Proofs.Literal.Narrowing
import TypedInputs.Proofs.Number.Integers

namespace TypedInputs

namespace Number

/-- An integer is rounded to itself. -/
theorem towardZero_intCast (n : Int) : towardZero n = n := by
  unfold towardZero
  split_ifs
  · exact Int.floor_intCast n
  · exact Int.ceil_intCast n

end Number

namespace Literal

open Number

/-! ### The saturated double of an integer -/

/-- A double with a value is saturated as the integer next to it on the side of zero. -/
theorem saturated_of_value? (width : Nat) {x : Double} {v : ℚ} (h : x.value? = some v) :
    saturated width x = saturate width (towardZero v) := by
  cases x with
  | nan => cases h
  | infinite => cases h
  | finite negative x =>
    obtain rfl := Option.some.inj h
    rfl

/-- An integer at or below the least of a width becomes this one. -/
theorem saturate_of_le {width : Nat} {n : Int} (h : n ≤ (signedBounds width).1) :
    saturate width n = (signedBounds width).1 := by
  rw [saturate, max_eq_right h, min_eq_left (signedBounds_le width)]

/-- An integer at or above the greatest of a width becomes this one. -/
theorem saturate_of_ge {width : Nat} {n : Int} (h : (signedBounds width).2 ≤ n) :
    saturate width n = (signedBounds width).2 :=
  min_eq_right (h.trans (le_max_left _ _))

/-- **Beyond a width and below 2 ^ 53 a double is saturated as its integer would be.** -/
theorem saturated_of_ofInt? {width : Nat} (hwidth : width ≤ 64) {n : Int} {x : Double}
    (hx : Double.ofInt? n = some x) (h : n.natAbs ≤ 2 ^ 53 ∨ ¬InWidth width n) :
    saturated width x = saturate width n := by
  rcases h with hsmall | hbeyond
  · obtain ⟨y, hy, hvalue⟩ := Double.exists_ofInt?_of_le hsmall
    obtain rfl := Option.some.inj (hx.symm.trans hy)
    rw [saturated_of_value? width hvalue, towardZero_intCast]
  · have hlarge : 2 ^ (width - 1) ≤ n.natAbs := by
      rw [inWidth_iff] at hbeyond
      omega
    obtain ⟨v, hvalue, hv⟩ := Double.exists_of_ofInt? hx (by omega) hlarge
    have hbound : (((2 ^ (width - 1) : Nat) : Int) : ℚ) ≤ v := by exact_mod_cast hv
    rw [saturated_of_value? width hvalue, signedValue]
    by_cases hneg : n < 0
    · have hpart : towardZero (-v) ≤ -(2 ^ (width - 1) : Nat) := by
        rw [← towardZero_intCast (-_), Int.cast_neg]
        exact towardZero_mono (neg_le_neg hbound)
      have hend : (signedBounds width).1 = -(2 ^ (width - 1) : Nat) := by simp [signedBounds]
      rw [if_pos (decide_eq_true hneg), saturate_of_le (hend ▸ hpart), saturate_of_le (by omega)]
    · have hpart : (2 ^ (width - 1) : Nat) ≤ towardZero v := by
        rw [← towardZero_intCast (Nat.cast _)]
        exact towardZero_mono hbound
      have hend : (signedBounds width).2 = (2 ^ (width - 1) : Nat) - 1 := by simp [signedBounds]
      rw [if_neg (by simpa using hneg), saturate_of_ge (by omega), saturate_of_ge (by omega)]

/-- **A double narrows to what its integer would,** beyond the width and below 2 ^ 53. -/
theorem truncateToWidth_of_ofInt? {tag : TypeTag} {bits : Nat} (hwidth : tag.width? = some bits)
    {n : Int} {x : Double} (hx : Double.ofInt? n = some x)
    (h : n.natAbs ≤ 2 ^ 53 ∨ ¬InWidth bits n) :
    truncateToWidth bits x = wrap bits (saturate (if tag = .long then 64 else 32) n) := by
  rw [truncateToWidth_eq (le_of_width? hwidth).1, saturationBits_of_width? hwidth]
  refine congrArg _ (saturated_of_ofInt? (by split_ifs <;> decide) hx ?_)
  refine or_iff_not_imp_left.2 fun hlarge => ?_
  have hbeyond := h.resolve_left hlarge
  rw [inWidth_iff] at hbeyond ⊢
  cases tag <;> cases hwidth <;> simp only [reduceCtorEq, if_true, if_false] <;> omega

/-- An integer in the width of its type stays as it is. -/
theorem wrap_saturate_of_inWidth {tag : TypeTag} {bits : Nat} (hwidth : tag.width? = some bits)
    {n : Int} (h : InWidth bits n) :
    wrap bits (saturate (if tag = .long then 64 else 32) n) = n := by
  have hwide : bits ≤ if tag = .long then 64 else 32 := by
    cases tag <;> cases hwidth <;> decide
  rw [saturate_of_inWidth (h.mono hwide), wrap_of_inWidth (le_of_width? hwidth).1 h]

end Literal

namespace Coercion

open Number Literal Text

section

variable [Zone.Directory] {declared : DeclaredType} {bits : Nat} {n : Int}

omit [Zone.Directory] in
/-- An integral type has a rule for numbers and one for texts. -/
theorem hasRules_of_width? (h : declared.tag.width? = some bits) :
    declared.tag.hasNumberRule = true ∧ declared.tag.hasTextGrammar = true := by
  generalize declared.tag = tag at h
  cases tag <;> cases h <;> exact ⟨rfl, rfl⟩

/-- An integer with a double is narrowed. -/
theorem fateOf_int_of_some (hwidth : declared.tag.width? = some bits) {x : Double}
    (hx : Double.ofInt? n = some x) :
    fateOf declared (.int n) = .ok (.typed (.int (truncateToWidth bits x))) := by
  have hdouble : (Value.int n).toDouble = .ok x := by rw [Value.toDouble, hx]
  exact fateOf_eq_typed.2
    (.number (hasRules_of_width? hwidth).1 rfl hdouble (narrow_integral hwidth x))

omit [Zone.Directory] in
/-- An integer within the limit on digits is shown. -/
theorem shown_int_of_lt (hlength : n.natAbs < 10 ^ maxIntegerDigits) :
    (Value.int n).shown = .ok (toString n) := by
  rw [shown_int, integerText?_of_lt hlength]
  rfl

/-- A number that is invalid for its type fails, when it can be shown. -/
theorem fateOf_number_of_invalid {raw : Value} {fault : LiteralFault}
    {shown : String} (hraw : raw.isNumber = true) (hrule : declared.tag.hasNumberRule = true)
    (hconvert : convertNumber declared raw = .ok (.invalid fault)) (hshown : raw.shown = .ok shown) :
    fateOf declared raw = .ok (.failed fault) := by
  rw [fateOf_number hraw hrule, hconvert]
  simp only [bind, Except.bind, Conversion.fate, hshown]

/-- An integer beyond all doubles fails. -/
theorem fateOf_int_beyondDouble (hrule : declared.tag.hasNumberRule = true)
    (hlength : n.natAbs < 10 ^ maxIntegerDigits) (hx : Double.ofInt? n = none) :
    fateOf declared (.int n) = .ok (.failed .beyondDouble) := by
  have hconvert : convertNumber declared (.int n) = .ok (.invalid .beyondDouble) := by
    simp only [convertNumber, Value.toDouble, hx]
  exact fateOf_number_of_invalid rfl hrule hconvert (shown_int_of_lt hlength)

/-- An integer without a nearest double fails. -/
theorem fateOf_int_of_none (hwidth : declared.tag.width? = some bits)
    (hlength : n.natAbs < 10 ^ maxIntegerDigits) (hx : Double.ofInt? n = none) :
    fateOf declared (.int n) = .ok (.failed .beyondDouble) :=
  fateOf_int_beyondDouble (hasRules_of_width? hwidth).1 hlength hx

/-- The text of an integer is read when the integer is of the width. -/
theorem fateOf_integerText (hwidth : declared.tag.width? = some bits)
    (hlength : n.natAbs < 10 ^ maxIntegerDigits) :
    fateOf declared (.text (toString n)) =
      .ok (if InWidth bits n then .typed (.int n) else .failed (.outOfRange bits)) := by
  rw [fateOf_text (hasRules_of_width? hwidth).2, parse_of_width? hwidth,
    parseIntegral_toString hlength]
  split_ifs <;> rfl

/-- **Numbers and texts agree on integers** of the width, up to 2 ^ 53 in magnitude. Beyond the width
the text fails, and the number gives the integer of the width with the low bits of the saturated
number, or fails when it is beyond all doubles. -/
theorem coerceOne_integers {input : Input}
    (hwidth : (DeclaredType.ofIdentifier input.type).tag.width? = some bits)
    (hlength : n.natAbs < 10 ^ maxIntegerDigits) (uid : String) (d : Diagnostics) :
    (InWidth bits n → n.natAbs ≤ 2 ^ 53 → ∀ raw ∈ [Value.int n, .text (toString n)],
      ((coerceOne input raw uid).run d).1 =
        .ok (.typed (DeclaredType.ofIdentifier input.type).tag (.int n))) ∧
    (¬InWidth bits n →
      ((coerceOne input (.text (toString n)) uid).run d).1 =
        .ok (.failed ⟨if uid = "" then d.uid else uid, input.name, .text (toString n), input.type,
          .outOfRange bits⟩) ∧
      (n.natAbs < 2 ^ 1024 - 2 ^ 970 → ∃ m,
        ((coerceOne input (.int n) uid).run d).1 =
          .ok (.typed (DeclaredType.ofIdentifier input.type).tag (.int m)) ∧
        InWidth bits m ∧
        m ≡ saturate (if (DeclaredType.ofIdentifier input.type).tag = .long then 64 else 32) n
          [ZMOD 2 ^ bits]) ∧
      (2 ^ 1024 - 2 ^ 970 ≤ n.natAbs →
        ((coerceOne input (.int n) uid).run d).1 =
          .ok (.failed ⟨if uid = "" then d.uid else uid, input.name, .int n, input.type,
            .beyondDouble⟩))) := by
  have hresult := fun raw => result_coerceOne input raw uid d
  simp only [Reporting.result_eq] at hresult
  have hwidth' : input.declaredType.tag.width? = some bits := hwidth
  have htext := fateOf_integerText hwidth' hlength
  refine ⟨fun hin hsmall raw hraw => ?_, fun hout => ⟨?_, fun hdouble => ?_, fun hbeyond => ?_⟩⟩
  · have hnumber : fateOf input.declaredType (.int n) = .ok (.typed (.int n)) := by
      obtain ⟨x, hx, -⟩ := Double.exists_ofInt?_of_le hsmall
      rw [fateOf_int_of_some hwidth' hx, truncateToWidth_of_ofInt? hwidth' hx (.inl hsmall),
        wrap_saturate_of_inWidth hwidth' hin]
    rw [if_pos hin] at htext
    rcases List.mem_pair.1 hraw with rfl | rfl
    · rw [hresult, hnumber]
      rfl
    · rw [hresult, htext]
      rfl
  · rw [hresult, htext, if_neg hout, ← identifier_declaredType]
    rfl
  · obtain ⟨x, hx⟩ := Option.ne_none_iff_exists'.1
      fun hnone => hdouble.not_ge (Double.ofInt?_eq_none_iff.1 hnone)
    have hnarrow := truncateToWidth_of_ofInt? hwidth' hx (.inr hout)
    refine ⟨_, ?_, (eq_wrap_iff (le_of_width? hwidth').1).1 hnarrow⟩
    rw [hresult, fateOf_int_of_some hwidth' hx]
    rfl
  · rw [hresult, fateOf_int_of_none hwidth' hlength (Double.ofInt?_eq_none_iff.2 hbeyond),
      ← identifier_declaredType]
    rfl

end

/-- The least byte is one either way. The number 300 keeps its low bits, its text is no byte. -/
theorem coerceOne_integers_byte :
    (∀ raw ∈ [Value.int (-128), .text (toString (-128 : Int))],
      ((coerceOne byteLevel raw "dim").run (.ofLevel .info)).1 =
        .ok (.typed .byte (.int (-128)))) ∧
      ((coerceOne byteLevel (.text (toString (300 : Int))) "dim").run (.ofLevel .info)).1 =
        .ok (.failed ⟨"dim", "level", .text (toString (300 : Int)), "byte", .outOfRange 8⟩) ∧
      ((coerceOne byteLevel (.int 300) "dim").run (.ofLevel .info)).1 =
        .ok (.typed .byte (.int 44)) := by
  have hshort {n : Int} (h : InWidth 64 n) : n.natAbs < 10 ^ maxIntegerDigits :=
    @natAbs_lt_of_inWidth .long 64 rfl n h
  have hwidth : (DeclaredType.ofIdentifier byteLevel.type).tag.width? = some 8 := rfl
  have hlow := (coerceOne_integers hwidth (hshort (n := -128) (by decide)) "dim"
    (.ofLevel .info)).1 (by decide) (by decide)
  obtain ⟨htext, hnumber, -⟩ := (coerceOne_integers hwidth (hshort (n := 300) (by decide)) "dim"
    (.ofLevel .info)).2 (by decide)
  have hdouble : (300 : Int).natAbs < 2 ^ 1024 - 2 ^ 970 := by
    obtain ⟨x, hx, -⟩ := Double.exists_ofInt?_of_le (n := 300) (by decide)
    by_contra hle
    rw [Double.ofInt?_eq_none_iff.2 (not_lt.1 hle)] at hx
    cases hx
  obtain ⟨m, hm, hin, hresidue⟩ := hnumber hdouble
  obtain rfl : m = 44 := (eq_wrap_iff (by decide)).2 ⟨hin, hresidue⟩
  exact ⟨hlow, htext, hm⟩

end Coercion
end TypedInputs
