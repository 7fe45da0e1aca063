/-
# Integer literals

| text | reading |
| --- | --- |
| no line with a written integer | no integer |
| more than `maxIntegerDigits` digits, leading zeros counted | too many digits |
| an integer that is not of the width | out of range |
| other | the integer |

A line may end with a line feed, so a text that is read need not be an integer as a whole, and an
integer of many zeros is not read. These are the only differences between what is read and the
grammar of integers.
-/

import TypedInputs.Proofs.Literal.Domain
import TypedInputs.Zone.Lookup

namespace TypedInputs
namespace Literal

open Number Text

/-- A written integer, with the end of its line behind it or without. -/
def IsIntegerLine (text : List Char) (written : SignedDigits) : Prop :=
  ∃ body, IsLine text body ∧ IsInteger body written

/-- The end of a line is no digit. -/
theorem startsWithoutDigit_of_isLineEnd {rest : List Char} (h : isLineEnd rest = true) :
    StartsWithoutDigit rest := by
  rcases isLineEnd_iff.1 h with rfl | rfl
  · exact startsWithoutDigit_nil
  · exact startsWithoutDigit_cons (by decide)

/-- A line is one of a written integer when that is read and the end of the line is left. -/
theorem isIntegerLine_iff {text : List Char} {written : SignedDigits} :
    IsIntegerLine text written ↔
      ∃ rest, readInteger text = some (written, rest) ∧ isLineEnd rest = true := by
  have hread {text rest : List Char} {written : SignedDigits}
      (h : readInteger text = some (written, rest)) :
      ∃ body, text = body ++ rest ∧ IsInteger body written := by
    obtain ⟨body, htext, hbody, -⟩ := isInteger_of_readInteger h
    exact ⟨body, htext, hbody⟩
  have hlines : (∃ value rest, readInteger text = some (value, rest) ∧ isLineEnd rest = true ∧
      value = written) ↔ ∃ body value, IsLine text body ∧ IsInteger body value ∧ value = written :=
    exists_read_iff
      (fun h hrest => h.readInteger_append (startsWithoutDigit_of_isLineEnd hrest)) hread
  simpa [IsIntegerLine] using hlines.symm

variable {bits : Nat} {text : List Char} {written : SignedDigits}

/-- What becomes of a written integer. -/
theorem IsIntegerLine.parseIntegral_eq (h : IsIntegerLine text written) :
    parseIntegral bits text =
      if maxIntegerDigits < written.digits.length then .error (.tooManyDigits written.digits.length)
      else if InWidth bits written.value then .ok written.value else .error (.outOfRange bits) := by
  obtain ⟨rest, hread, hrest⟩ := isIntegerLine_iff.1 h
  rw [parseIntegral, hread]
  simp only [hrest, Bool.not_true, Bool.false_eq_true, if_false]
  rfl

/-- A text without a written integer is refused for it. -/
theorem parseIntegral_of_not (h : ¬∃ written, IsIntegerLine text written) :
    parseIntegral bits text = .error .notInteger := by
  rw [parseIntegral]
  rcases hread : readInteger text with - | ⟨written, rest⟩
  · rfl
  · cases hrest : isLineEnd rest with
    | false => simp [hrest]
    | true => exact absurd ⟨written, isIntegerLine_iff.2 ⟨rest, hread, hrest⟩⟩ h

/-- **A text is an integer of a width when it is a line with one** that has not too many digits. -/
theorem parseIntegral_eq_ok_iff {n : Int} : parseIntegral bits text = .ok n ↔
    ∃ written, IsIntegerLine text written ∧ written.digits.length ≤ maxIntegerDigits ∧
      InWidth bits written.value ∧ written.value = n := by
  constructor
  · intro h
    by_cases hline : ∃ written, IsIntegerLine text written
    · obtain ⟨written, hwritten⟩ := hline
      rw [hwritten.parseIntegral_eq] at h
      split_ifs at h with hlong hwidth
      exact ⟨written, hwritten, not_lt.1 hlong, hwidth, Except.ok.inj h⟩
    · rw [parseIntegral_of_not hline] at h
      cases h
  · rintro ⟨written, hwritten, hshort, hwidth, rfl⟩
    rw [hwritten.parseIntegral_eq, if_neg (not_lt.2 hshort), if_pos hwidth]

section

variable [Zone.Directory]

/-- What a text writes for an integral type. -/
theorem parse_of_width? {declared : DeclaredType} (hwidth : declared.tag.width? = some bits)
    (text : String) :
    parse declared text =
      match parseIntegral bits text.toList with
      | .ok n => .ok (.int n)
      | .error fault => .error (.invalid ⟨.text text, declared.identifier, fault⟩) := by
  rw [parse, parseTag_integral hwidth]
  cases parseIntegral bits text.toList <;> rfl

/-- **Integer literals are the lines of written integers in range,** and every other text is refused
under its own name. -/
theorem parse_integral {declared : DeclaredType} (hwidth : declared.tag.width? = some bits)
    (text : String) :
    (∀ v, parse declared text = .ok v ↔
      ∃ written, IsIntegerLine text.toList written ∧
        written.digits.length ≤ maxIntegerDigits ∧
        -2 ^ (bits - 1) ≤ written.value ∧ written.value < 2 ^ (bits - 1) ∧
        v = .int written.value) ∧
    ∀ e, parse declared text = .error e →
      ∃ fault, e = .invalid ⟨.text text, declared.identifier, fault⟩ := by
  refine ⟨fun v => ?_, fun e he => ?_⟩
  · rw [parse_eq_ok, parseTag_integral hwidth, built_eq_ok]
    constructor
    · rintro ⟨_, hparse, rfl⟩
      obtain ⟨written, hline, hshort, hrange, rfl⟩ := parseIntegral_eq_ok_iff.1 hparse
      obtain ⟨hlow, hhigh⟩ := inWidth_iff.1 hrange
      exact ⟨written, hline, hshort, by exact_mod_cast hlow, by exact_mod_cast hhigh, rfl⟩
    · rintro ⟨written, hline, hshort, hlow, hhigh, rfl⟩
      have hrange : InWidth bits written.value :=
        inWidth_iff.2 ⟨by exact_mod_cast hlow, by exact_mod_cast hhigh⟩
      exact ⟨_, parseIntegral_eq_ok_iff.2 ⟨written, hline, hshort, hrange, rfl⟩, rfl⟩
  · rw [parse_of_width? hwidth] at he
    cases hparse : parseIntegral bits text.toList with
    | ok n =>
      rw [hparse] at he
      cases he
    | error fault =>
      rw [hparse] at he
      cases he
      exact ⟨fault, rfl⟩

end

/-- The least byte, with a zero in front. -/
theorem parse_integral_leastByte :
    (DeclaredType.ofIdentifier "byte").tag.width? = some 8 ∧
      parse (.ofIdentifier "byte") "-0128" = .ok (.int (-128)) := by
  have hwritten : IsIntegerLine "-0128".toList ⟨true, [0, 1, 2, 8]⟩ :=
    ⟨['-'] ++ "0128".toList, .inl rfl, .mk .minus rfl (by decide)⟩
  exact ⟨rfl, ((parse_integral rfl _).1 _).2 ⟨_, hwritten, by decide, by decide, by decide, rfl⟩⟩

/-- Zeros in a row are an integer. -/
theorem isInteger_zeros {k : Nat} (h : k ≠ 0) :
    IsInteger (List.replicate k '0') ⟨false, List.replicate k 0⟩ := by
  have hne : List.replicate k '0' ≠ [] := by simpa using h
  have hzeros := IsInteger.mk .absent (Spells.replicate_zero k) hne
  rwa [List.nil_append] at hzeros

/-- More zeros than an integer may have digits. -/
def manyZeros : String := String.ofList (List.replicate (maxIntegerDigits + 1) '0')

theorem isInteger_manyZeros :
    IsInteger manyZeros.toList ⟨false, List.replicate (maxIntegerDigits + 1) 0⟩ := by
  rw [manyZeros, String.toList_ofList]
  exact isInteger_zeros (Nat.succ_ne_zero _)

/-- **Neither is a line feed refused nor are leading zeros read without end.** -/
theorem parse_int_lineFeed_manyZeros :
    (parse (.ofIdentifier "int") "5\n" = .ok (.int 5) ∧
      ¬∃ written, IsInteger "5\n".toList written) ∧
    ∃ written, IsInteger manyZeros.toList written ∧ written.value = 0 ∧
      parse (.ofIdentifier "int") manyZeros =
        .error (.invalid ⟨.text manyZeros, "int", .tooManyDigits (maxIntegerDigits + 1)⟩) := by
  refine ⟨⟨rfl, ?_⟩, _, isInteger_manyZeros, ?_, ?_⟩
  · rintro ⟨written, hwritten⟩
    have hread := hwritten.readInteger_append startsWithoutDigit_nil
    rw [List.append_nil] at hread
    cases hread
  · rw [SignedDigits.value, ofDigits_replicate_zero]
    rfl
  · have hwidth : (DeclaredType.ofIdentifier "int").tag.width? = some 32 := rfl
    have hline : IsIntegerLine manyZeros.toList _ := ⟨_, .inl rfl, isInteger_manyZeros⟩
    rw [parse_of_width? hwidth, hline.parseIntegral_eq, List.length_replicate,
      if_pos (Nat.lt_succ_self _)]
    rfl

end Literal
end TypedInputs
