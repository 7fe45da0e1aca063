/-
# Quantities and their texts

A quantity's text is its decimal's text and, after one space, the unit. No numeral holds a blank, so
the longest decimal at the start of the text is the one that was written, even where the unit looks
like an exponent; and a quantity whose decimal is in reach and whose unit is a unit symbol, or
empty, is read back from its text as the same quantity (`Quantity.parse_text_of_isProper`).
-/

import TypedInputs.Proofs.Number.Cuts

namespace TypedInputs
namespace Number
namespace Quantity

open Text

/-- A quantity whose decimal is in reach and whose unit is empty or a unit symbol. -/
def IsProper (q : Quantity) : Prop := q.value.InReach ∧ (q.unit = "" ∨ isUnit q.unit.toList)

/-! ### Reading what was written -/

/-- A decimal alone is cut behind its last character. -/
theorem firstCut?_toChars (d : Decimal) : firstCut? d.toChars = some (d.toChars, []) := by
  obtain ⟨n, hn, -⟩ := Decimal.exists_isNumeral_toChars d
  exact firstCut?_eq_some_iff.2 ⟨[], isLongestCut_of_isNumeral hn⟩

/-- **A decimal is cut from the unit after the space,** whatever the unit looks like: a longer cut
would put the space into the decimal. -/
theorem firstCut?_toChars_append (d : Decimal) {unit : List Char} (hunit : isUnit unit) :
    firstCut? (d.toChars ++ ' ' :: unit) = some (d.toChars, unit) := by
  obtain ⟨n, hn, -⟩ := Decimal.exists_isNumeral_toChars d
  have hspace : ∀ c ∈ [' '], isBlank c = true := List.forall_mem_singleton.2 (by decide)
  refine firstCut?_eq_some_iff.2
    ⟨[' '], ⟨rfl, ⟨n, hn⟩, hspace, .inr hunit⟩, fun {value _ _} hcut => ?_⟩
  by_contra hlong
  rw [not_le] at hlong
  obtain ⟨n', hn'⟩ := hcut.isNumeral
  have hmem : ' ' ∈ value := by
    obtain ⟨k, hk⟩ := Nat.exists_eq_add_of_lt hlong
    have htake := congrArg (List.take value.length) hcut.text_eq
    rw [List.take_left, hk, Nat.add_assoc, List.take_length_add_append,
      List.take_succ_cons] at htake
    simp [← htake]
  have hblank := (hn'.isNumeric ' ' hmem).isBlank_eq_false
  exact absurd hblank (by decide)

/-- A quantity with a unit has no blanks around it. -/
theorem trim_toChars_append (d : Decimal) {unit : List Char} (hunit : isUnit unit) :
    trim (d.toChars ++ ' ' :: unit) = d.toChars ++ ' ' :: unit := by
  obtain ⟨n, hn, -⟩ := Decimal.exists_isNumeral_toChars d
  have hne : unit ≠ [] := by
    rintro rfl
    simp [isUnit] at hunit
  refine trim_eq_self (fun c hc => ?_) fun c hc => ?_
  · rw [List.head?_append_of_ne_nil _ hn.ne_nil] at hc
    exact (hn.isNumeric c (List.mem_of_mem_head? hc)).isBlank_eq_false
  · rw [List.getLast?_append_of_ne_nil _ (by simp), List.getLast?_cons_of_ne_nil hne] at hc
    exact isBlank_of_isUnit hunit c (List.mem_of_getLast? hc)

/-- **A proper quantity is read back from its text:** the same decimal and the same unit. -/
theorem parse_text_of_isProper {q : Quantity} (h : q.IsProper) : parse q.text = .ok q := by
  obtain ⟨value, unit⟩ := q
  obtain ⟨hreach, hunit⟩ := h
  simp only at hreach hunit
  have hvalue : Decimal.parse (String.ofList value.toChars) = .ok value :=
    Decimal.parse_text_of_inReach hreach
  rcases hunit with rfl | hunit
  · obtain ⟨n, hn, -⟩ := Decimal.exists_isNumeral_toChars value
    have htext : (text ⟨value, ""⟩).toList = value.toChars := String.toList_ofList
    refine parse_eq_ok_iff.2 ⟨value.toChars, [], ?_, hvalue, rfl⟩
    rw [htext, hn.trim_eq, firstCut?_toChars]
  · have hne : unit ≠ "" := by
      rintro rfl
      simp [isUnit] at hunit
    have htext : (text ⟨value, unit⟩).toList = value.toChars ++ ' ' :: unit.toList := by
      simp [text, isDimensionless, hne, Decimal.text]
    refine parse_eq_ok_iff.2 ⟨value.toChars, unit.toList, ?_, hvalue, String.ofList_toList⟩
    rw [htext, trim_toChars_append value hunit, firstCut?_toChars_append value hunit]

/-! ### What is read is proper -/

/-- A quantity that is read is proper. -/
theorem isProper_of_parse {text : String} {q : Quantity} (h : parse text = .ok q) :
    q.IsProper := by
  obtain ⟨value, unit, hcut, hvalue, hunit⟩ := parse_eq_ok_iff.1 h
  obtain ⟨blanks, hlongest⟩ := firstCut?_eq_some_iff.1 hcut
  refine ⟨Decimal.inReach_of_parse hvalue, ?_⟩
  rw [← hunit]
  rcases hlongest.unit with ⟨rfl, -⟩ | hunit
  · exact .inl rfl
  · exact .inr (by rwa [String.toList_ofList])

/-- A quantity that is made of a double is proper. -/
theorem isProper_of_ofDouble {x : Double} {q : Quantity} (h : ofDouble x "" = .ok q) :
    q.IsProper := by
  unfold ofDouble at h
  cases hvalue : Decimal.parse x.text with
  | error e => simp [hvalue, Except.map] at h
  | ok d =>
    rw [hvalue] at h
    obtain rfl := Except.ok.inj h
    exact ⟨Decimal.inReach_of_parse hvalue, .inl rfl⟩

end Quantity
end Number
end TypedInputs
