/-
# Literals of one type as literals of another

The numeric grammars nest: an integer literal, less its final line feed, is a numeral without point
and exponent, and a decimal literal, less the blanks around it, is a numeral. One numeral stands
behind a text, so all types that read the text read one number (`ReadsAs`): the decimal itself, the
quantity without a unit, and the double nearest to it.

| literal of | is a literal of | with the value |
| --- | --- | --- |
| an integral type | `decimalText` | the decimal of exponent 0 |
| `decimalText` | `quantity` | the dimensionless quantity |
| `decimalText` | `double` | the nearest double |
| `decimalText` | `float` | the nearest double, in single precision |
-/

import TypedInputs.Proofs.Literal.RoundTrip
import TypedInputs.Proofs.Number.Cuts

namespace TypedInputs
namespace Literal

open Number Text

/-! ### Integers as decimals -/

/-- An integer is a numeral of its value without a point and an exponent. -/
theorem exists_isNumeral_of_isInteger {text : List Char} {written : SignedDigits}
    (h : IsInteger text written) :
    ∃ n, IsNumeral text n ∧ (Decimal.ofNumeral n).exponent = 0 ∧
      (Decimal.ofNumeral n).coefficient = written.value.natAbs ∧
      (Decimal.ofNumeral n).value = written.value := by
  obtain @⟨sign, digits, negative, values, hs, hspells, hne⟩ := h
  refine ⟨⟨negative, values, [], 0⟩, ?_, rfl, ?_, ?_⟩
  · have hn := IsNumeral.mk hs (.whole hspells hne) .absent
    rwa [List.append_nil] at hn
  · simp only [Decimal.ofNumeral, Numeral.coefficient, List.append_nil, SignedDigits.value]
    split_ifs <;> simp
  · simp only [Decimal.value, signedValue, Decimal.ofNumeral, Numeral.coefficient, Numeral.scale,
      List.append_nil, List.length_nil, Nat.cast_zero, sub_zero, zpow_zero, mul_one,
      SignedDigits.value]
    split_ifs <;> simp

/-- The decimals of few digits without an exponent are in reach. -/
theorem inReach_of_exponent_eq_zero {d : Decimal} (hexponent : d.exponent = 0)
    (h : d.coefficient < 10 ^ maxIntegerDigits) : d.InReach := by
  have hlength := length_toDigits_le (by decide) h
  have hreach : (maxIntegerDigits : Int) ≤ Decimal.maxAdjusted := by decide
  have hleast : Decimal.minExponent ≤ 0 := by decide
  rw [Decimal.InReach, Decimal.adjusted, hexponent, decimalLength]
  omega

/-- **An integer literal is a decimal literal of the same value.** -/
theorem exists_parse_decimal_of_parseIntegral {tag : TypeTag} {bits : Nat}
    (hwidth : tag.width? = some bits) {text : String} {n : Int}
    (h : parseIntegral bits text.toList = .ok n) :
    ∃ d, Decimal.parse text = .ok d ∧ d.exponent = 0 ∧ d.value = n := by
  obtain ⟨written, ⟨body, hline, hinteger⟩, -, hrange, rfl⟩ := parseIntegral_eq_ok_iff.1 h
  obtain ⟨rest, htext, hrest⟩ := isLine_iff.1 hline
  obtain ⟨m, hm, hexponent, hcoefficient, hvalue⟩ := exists_isNumeral_of_isInteger hinteger
  refine ⟨_, Decimal.parse_eq_ok_iff.2 ⟨m, ?_, rfl, ?_⟩, hexponent, hvalue⟩
  · rwa [htext, hinteger.trim_append_eq hrest]
  · exact inReach_of_exponent_eq_zero hexponent (hcoefficient ▸ natAbs_lt_of_inWidth hwidth hrange)

/-! ### Decimals as quantities and doubles -/

section

variable [Zone.Directory]

/-- All types of numbers with a fraction read a text as one decimal: itself, the dimensionless
quantity and the nearest double. -/
structure ReadsAs (text : String) (d : Decimal) : Prop where
  decimal : ∀ declared, declared.tag = .decimalText → parse declared text = .ok (.decimal d)
  quantity : ∀ declared, declared.tag = .quantity → parse declared text = .ok (.quantity ⟨d, ""⟩)
  double : ∀ declared, declared.tag = .double → parse declared text = .ok (.float d.toDouble)
  single : ∀ declared, declared.tag = .float →
    parse declared text = .ok (.float d.toDouble.toSingle)
  nearest : d.toDouble.IsNearest d.value

/-- **A decimal literal is a literal of all types of numbers with a fraction.** -/
theorem readsAs_of_parse_decimal {text : String} {d : Decimal} (h : Decimal.parse text = .ok d) :
    ReadsAs text d := by
  have hdouble : parseDouble text.toList = .ok d.toDouble := by
    obtain ⟨n, hn, rfl, -⟩ := Decimal.parse_eq_ok_iff.1 h
    exact parseDouble_of_isNumeral hn
  refine ⟨fun declared htag => ?_, fun declared htag => ?_, fun declared htag => ?_,
    fun declared htag => ?_, d.toDouble_isNearest⟩
  · rw [parse_eq_ok, htag, parseTag_decimalText, h]
    rfl
  · rw [parse_eq_ok, htag, parseTag_quantity, Quantity.parse_of_parse_decimal h]
    rfl
  · rw [parse_eq_ok, htag, parseTag_double, hdouble]
    rfl
  · rw [parse_eq_ok, htag, parseTag_float, parseSingle, hdouble]
    rfl

/-- **The numeric grammars nest.** What is a literal of an integral type is one of all types of
numbers with a fraction, and these read the integer, as a decimal of exponent 0. What is a literal of
`decimalText` is one of the others, and these read the decimal. The double that they read is the
nearest one, an infinity beyond the greatest. -/
theorem parse_nests {declared : DeclaredType} {text : String} {v : Value}
    (h : parse declared text = .ok v) :
    (∀ bits, declared.tag.width? = some bits →
      ∃ (n : Int) (d : Decimal), v = .int n ∧ d.exponent = 0 ∧ d.value = n ∧ ReadsAs text d) ∧
    (declared.tag = .decimalText → ∃ d, v = .decimal d ∧ ReadsAs text d) := by
  rw [parse_eq_ok] at h
  constructor
  · intro bits hwidth
    rw [parseTag_integral hwidth] at h
    obtain ⟨n, hn, rfl⟩ := built_eq_ok.1 h
    obtain ⟨d, hd, hexponent, hvalue⟩ := exists_parse_decimal_of_parseIntegral hwidth hn
    exact ⟨n, d, rfl, hexponent, hvalue, readsAs_of_parse_decimal hd⟩
  · intro htag
    rw [htag, parseTag_decimalText] at h
    obtain ⟨d, hd, rfl⟩ := built_eq_ok.1 h
    exact ⟨d, rfl, readsAs_of_parse_decimal (mapError_eq_ok.1 hd)⟩

end

/-- Leading zeros, digits of another script and a final line feed do not stop a byte from being a
decimal. -/
theorem parse_nests_byte :
    parse (.ofIdentifier "byte") "-0٤2\n" = .ok (.int (-42)) ∧
      ∃ d : Decimal, d.exponent = 0 ∧ d.value = (-42 : Int) ∧ ReadsAs "-0٤2\n" d := by
  have hparse : parse (.ofIdentifier "byte") "-0٤2\n" = .ok (.int (-42)) := rfl
  obtain ⟨n, d, hn, hexponent, hvalue, hreads⟩ := (parse_nests hparse).1 8 rfl
  obtain rfl := Value.int.inj hn
  exact ⟨hparse, d, hexponent, hvalue, hreads⟩

end Literal
end TypedInputs
