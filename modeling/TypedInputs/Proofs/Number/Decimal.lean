/-
# Decimals and their texts

A text writes a decimal when, trimmed, it is a numeral whose exponent is in reach, and the decimal
has the sign, all the digits and the exponent that are written (`Decimal.parse_eq_ok_iff`).

The canonical text of a decimal is a numeral with the decimal's sign, coefficient and exponent, in
every one of its layouts: digits alone, digits with a point, zeros in front, and scientific. A
decimal whose exponent is in reach is therefore read back from its text as the same decimal
(`Decimal.parse_text_of_inReach`), with zeros at the end of its coefficient and the sign and
exponent of a zero kept.
-/

import TypedInputs.Number.Decimal
import TypedInputs.Proofs.Text.Trimming

namespace TypedInputs
namespace Text

/-- The text is an unsigned numeral that writes `coefficient · 10 ^ scale`. -/
def Writes (text : List Char) (coefficient : Nat) (scale : Int) : Prop :=
  ∃ mantissa exponent whole fraction e, text = mantissa ++ exponent ∧
    IsMantissa mantissa whole fraction ∧ IsExponent exponent e ∧
    ofDigits (whole ++ fraction) = coefficient ∧ e - fraction.length = scale

/-- A sign in front of an unsigned numeral makes a numeral. -/
theorem Writes.exists_isNumeral {text sign : List Char} {coefficient : Nat} {scale : Int}
    {negative : Bool} (h : Writes text coefficient scale) (hs : IsSign sign negative) :
    ∃ n : Numeral, IsNumeral (sign ++ text) n ∧ n.negative = negative ∧
      n.coefficient = coefficient ∧ n.scale = scale := by
  obtain ⟨m, x, whole, fraction, e, rfl, hm, hx, hcoefficient, hscale⟩ := h
  exact ⟨_, .mk hs hm hx, rfl, hcoefficient, hscale⟩

/-- An exponent with an explicit sign. -/
theorem isExponent_signed {mark : Char} (hmark : mark = 'e' ∨ mark = 'E') {e : Int}
    {text : List Char} {digits : List Nat} (h : Spells text digits) (hne : text ≠ [])
    (hvalue : ofDigits digits = e.natAbs) :
    IsExponent (mark :: (if e < 0 then '-' else '+') :: text) e := by
  by_cases he : e < 0
  · have hw := IsExponent.marked hmark (.mk .minus h hne)
    have hv : SignedDigits.value ⟨true, digits⟩ = e := by
      simp only [SignedDigits.value, if_true, hvalue]
      omega
    rw [hv] at hw
    rwa [if_pos he]
  · have hw := IsExponent.marked hmark (.mk .plus h hne)
    have hv : SignedDigits.value ⟨false, digits⟩ = e := by
      simp only [SignedDigits.value, Bool.false_eq_true, if_false, hvalue]
      omega
    rw [hv] at hw
    rwa [if_neg he]

end Text

namespace Number

open Text

/-- What is written for a sign is one. -/
theorem Double.isSign_signText (negative : Bool) : IsSign (Double.signText negative) negative := by
  cases negative
  · exact .absent
  · exact .minus

namespace Decimal

theorem spells_digits (d : Decimal) : Spells d.digits (decimalDigits d.coefficient) :=
  spells_toDigits d.coefficient

theorem digits_ne_nil (d : Decimal) : d.digits ≠ [] := Nat.toDigits_ne_nil

theorem length_decimalDigits (d : Decimal) :
    (decimalDigits d.coefficient).length = d.digits.length :=
  (spells_digits d).length_eq.symm

/-- What is written for an exponent is one, with its value. -/
theorem isExponent_exponentText (e : Int) : IsExponent (exponentText e) e :=
  isExponent_signed (.inr rfl) (spells_toDigits e.natAbs) Nat.toDigits_ne_nil
    (ofDigits_decimalDigits _)

/-- The exponent of a scientific text, which is left out where it would be zero. -/
theorem isExponent_of_point (point : Int) :
    IsExponent (if point = 1 then [] else exponentText (point - 1)) (point - 1) := by
  split_ifs with h
  · rw [h]
    exact .absent
  · exact isExponent_exponentText _

/-- The digits of a decimal with a point after the first `n` of them. -/
theorem isMantissa_take_drop (d : Decimal) {n : Nat} (hn : 0 < n) :
    IsMantissa (d.digits.take n ++ '.' :: d.digits.drop n) ((decimalDigits d.coefficient).take n)
      ((decimalDigits d.coefficient).drop n) := by
  refine .both ((spells_digits d).take n) ?_ ((spells_digits d).drop n)
  intro h
  have := List.length_pos_of_ne_nil (digits_ne_nil d)
  have hlength := congrArg List.length h
  rw [List.length_take, List.length_nil] at hlength
  omega

/-- The positional text of a decimal writes its coefficient and its exponent. -/
theorem writes_positionalText {d : Decimal} (he : d.exponent ≤ 0) :
    Writes d.positionalText d.coefficient d.exponent := by
  have hlength := length_decimalDigits d
  have hdef : d.point = d.exponent + d.digits.length := rfl
  unfold positionalText
  split_ifs with hzero hpoint
  · refine ⟨d.digits, [], _, [], 0, (List.append_nil _).symm,
      .whole (spells_digits d) (digits_ne_nil d), .absent, ?_, ?_⟩
    · rw [List.append_nil, ofDigits_decimalDigits]
    · simp [hzero]
  · have hzeros := Spells.replicate_zero (-d.point).toNat
    refine ⟨_, [], [0], _, 0, (List.append_nil _).symm,
      .both (w := ['0']) (Spells.replicate_zero 1) (by simp) (hzeros.append (spells_digits d)),
      .absent, ?_, ?_⟩
    · rw [ofDigits_append, ofDigits_append, ofDigits_replicate_zero, ofDigits_decimalDigits]
      simp [ofDigits]
    · rw [List.length_append, List.length_replicate, hlength]
      omega
  · refine ⟨_, [], _, _, 0, (List.append_nil _).symm, isMantissa_take_drop d (by omega), .absent,
      ?_, ?_⟩
    · rw [List.take_append_drop, ofDigits_decimalDigits]
    · rw [List.length_drop, hlength]
      omega

/-- The scientific text of a decimal writes its coefficient and its exponent. -/
theorem writes_scientificText (d : Decimal) :
    Writes d.scientificText d.coefficient d.exponent := by
  have hlength := length_decimalDigits d
  have hspells := spells_digits d
  have hmantissa := isMantissa_take_drop d Nat.one_pos
  have hexponent := isExponent_of_point d.point
  have hdef : d.point = d.exponent + d.digits.length := rfl
  unfold scientificText
  cases hd : d.digits with
  | nil => exact absurd hd (digits_ne_nil d)
  | cons first rest =>
    rw [hd] at hspells hmantissa hlength hdef
    cases rest with
    | nil =>
      refine ⟨[first], _, _, [], _, rfl, .whole hspells (by simp), hexponent, ?_, ?_⟩
      · rw [List.append_nil, ofDigits_decimalDigits]
      · simp [hdef]
    | cons second rest =>
      refine ⟨_, _, _, _, _, rfl, hmantissa, hexponent, ?_, ?_⟩
      · rw [List.take_append_drop, ofDigits_decimalDigits]
      · rw [List.length_drop, hlength, hdef]
        simp only [List.length_cons]
        omega

/-- **The text of a decimal writes its coefficient and its exponent,** in every layout. -/
theorem writes_magnitudeText (d : Decimal) : Writes d.magnitudeText d.coefficient d.exponent := by
  unfold magnitudeText
  split_ifs with h
  · exact writes_positionalText h.1
  · exact writes_scientificText d

/-- The text of a decimal is a numeral that stands for the decimal. -/
theorem exists_isNumeral_toChars (d : Decimal) :
    ∃ n, IsNumeral d.toChars n ∧ ofNumeral n = d := by
  obtain ⟨n, hn, hnegative, hcoefficient, hscale⟩ :=
    (writes_magnitudeText d).exists_isNumeral (Double.isSign_signText d.negative)
  exact ⟨n, hn, by rw [ofNumeral, hnegative, hcoefficient, hscale]⟩

/-- **A text writes a decimal** when, trimmed, it is a numeral that stands for it, and its exponent
is in reach. -/
theorem parse_eq_ok_iff {text : String} {d : Decimal} :
    parse text = .ok d ↔
      ∃ n, IsNumeral (trim text.toList) n ∧ ofNumeral n = d ∧ d.InReach := by
  unfold parse ofChars?
  constructor
  · intro h
    split at h
    · rename_i e hread
      obtain rfl := Except.ok.inj h
      split at hread
      · rename_i n hn
        split at hread
        · rename_i hreach
          obtain rfl := Option.some.inj hread
          exact ⟨n, Numeral.ofText?_eq_some_iff.1 hn, rfl, hreach⟩
        · cases hread
      · cases hread
    · cases h
  · rintro ⟨n, hn, rfl, hreach⟩
    simp only [Numeral.ofText?_eq_some_iff.2 hn, if_pos hreach]

/-- The fault of a text that writes no decimal is always the same, and quotes the text. -/
theorem parse_eq_error_iff {text : String} {fault : NumberFault} :
    parse text = .error fault ↔ (∀ d, parse text ≠ .ok d) ∧ fault = .notDecimal text := by
  unfold parse
  cases ofChars? text.toList with
  | none => simp [eq_comm]
  | some d => simp

/-- A decimal that a text writes has its exponent in reach. -/
theorem inReach_of_parse {text : String} {d : Decimal} (h : parse text = .ok d) : d.InReach := by
  obtain ⟨-, -, -, hreach⟩ := parse_eq_ok_iff.1 h
  exact hreach

/-- **A decimal is read back from its text:** the same sign, coefficient and exponent. -/
theorem parse_text_of_inReach {d : Decimal} (h : d.InReach) : parse d.text = .ok d := by
  obtain ⟨n, hn, hvalue⟩ := exists_isNumeral_toChars d
  refine parse_eq_ok_iff.2 ⟨n, ?_, hvalue, h⟩
  rwa [text, String.toList_ofList, hn.trim_eq]

/-- **Decimal literals are read exactly,** however many digits they have: the decimal of a numeral
in reach has the numeral's sign, all its digits as the coefficient, and its exponent less the number
of digits behind the point. Every other text is refused as no decimal literal. -/
theorem parse_exact (text : String) :
    (∀ d, parse text = .ok d ↔ ∃ n, IsNumeral (trim text.toList) n ∧
      d.negative = n.negative ∧ d.coefficient = ofDigits (n.whole ++ n.fraction) ∧
        d.exponent = n.exponent - n.fraction.length ∧
          d.exponent + decimalLength d.coefficient - 1 ≤ maxAdjusted ∧ minExponent ≤ d.exponent) ∧
    ∀ fault, parse text = .error fault ↔ fault = .notDecimal text ∧
      ¬∃ n, IsNumeral (trim text.toList) n ∧ (ofNumeral n).InReach := by
  refine ⟨fun d => parse_eq_ok_iff.trans ⟨?_, ?_⟩, fun fault => parse_eq_error_iff.trans ⟨?_, ?_⟩⟩
  · rintro ⟨n, hn, rfl, hreach⟩
    exact ⟨n, hn, rfl, rfl, rfl, hreach⟩
  · rintro ⟨n, hn, hnegative, hcoefficient, hexponent, hreach⟩
    have hvalue : ofNumeral n = d := by
      rw [ofNumeral, Numeral.coefficient, Numeral.scale, ← hnegative, ← hcoefficient, ← hexponent]
    exact ⟨n, hn, hvalue, hreach⟩
  · rintro ⟨hnone, hfault⟩
    refine ⟨hfault, fun ⟨n, hn, hreach⟩ => hnone _ (parse_eq_ok_iff.2 ⟨n, hn, rfl, hreach⟩)⟩
  · rintro ⟨hfault, hnone⟩
    refine ⟨fun d hd => ?_, hfault⟩
    obtain ⟨n, hn, rfl, hreach⟩ := parse_eq_ok_iff.1 hd
    exact hnone ⟨n, hn, hreach⟩

/-- Zeros at the end are digits of the coefficient, and a digit of any script is one. -/
example : parse "-٠٠1.50e-3\n" = .ok ⟨true, 150, -5⟩ := by decide +kernel

end Decimal
end Number
end TypedInputs
