/-
# Trimmed texts

A text that neither starts nor ends with a blank is trimmed already, and blanks around a text are
trimmed. Numerals hold no blank at all: a numeral is made of digits, signs, points and marks, and no
digit of any script is a blank.
-/

import TypedInputs.Proofs.Text.Grammar
import TypedInputs.Text.Blank

namespace TypedInputs
namespace Text

/-- A text that does not start with a blank has none to drop. -/
theorem dropWhile_isBlank_of_head {text : List Char} (h : ∀ c ∈ text.head?, isBlank c = false) :
    text.dropWhile isBlank = text := by
  cases text with
  | nil => rfl
  | cons c rest => rw [List.dropWhile_cons_of_neg (by simpa using h c rfl)]

/-- **A text with no blank at its ends is trimmed already.** -/
theorem trim_eq_self {text : List Char} (hhead : ∀ c ∈ text.head?, isBlank c = false)
    (hlast : ∀ c ∈ text.getLast?, isBlank c = false) : trim text = text := by
  rw [trim, dropWhile_isBlank_of_head hhead, trimEnd_eq_reverse_dropWhile,
    dropWhile_isBlank_of_head (by simpa using hlast), List.reverse_reverse]

/-- A text without blanks is its own trimming. -/
theorem trim_eq_self_of_forall {text : List Char} (h : ∀ c ∈ text, isBlank c = false) :
    trim text = text :=
  trim_eq_self (fun c hc => h c (List.mem_of_mem_head? hc))
    fun c hc => h c (List.mem_of_getLast? hc)

theorem dropWhile_isBlank_append {blanks : List Char} (h : ∀ c ∈ blanks, isBlank c = true)
    (text : List Char) : (blanks ++ text).dropWhile isBlank = text.dropWhile isBlank :=
  List.dropWhile_append_of_pos h

/-- Blanks at the end are trimmed. -/
theorem trimEnd_append {blanks : List Char} (h : ∀ c ∈ blanks, isBlank c = true)
    (text : List Char) : trimEnd (text ++ blanks) = trimEnd text := by
  rw [trimEnd_eq_reverse_dropWhile, trimEnd_eq_reverse_dropWhile, List.reverse_append,
    dropWhile_isBlank_append fun c hc => h c (List.mem_reverse.1 hc)]

/-- **Blanks around a text are trimmed.** -/
theorem trim_surround {before after : List Char} (hbefore : ∀ c ∈ before, isBlank c = true)
    (hafter : ∀ c ∈ after, isBlank c = true) (text : List Char) :
    trim (before ++ text ++ after) = trim text := by
  have hblank : after.dropWhile isBlank = [] := by
    simpa using dropWhile_isBlank_append hafter []
  rw [trim, trim, List.append_assoc, dropWhile_isBlank_append hbefore, List.dropWhile_append]
  split_ifs with hempty
  · rw [hblank, List.isEmpty_iff.1 hempty]
  · exact trimEnd_append hafter _

/-- Blanks behind a text without blanks are trimmed. -/
theorem trim_append {text blanks : List Char} (h : ∀ c ∈ text, isBlank c = false)
    (hblanks : ∀ c ∈ blanks, isBlank c = true) : trim (text ++ blanks) = text := by
  have htrim := @trim_surround [] blanks (by simp) hblanks text
  rwa [List.nil_append, trim_eq_self_of_forall h] at htrim

/-- The blanks behind a character that is no blank are those behind what follows it. -/
theorem trimEnd_cons {c : Char} (h : isBlank c = false) (text : List Char) :
    trimEnd (c :: text) = c :: trimEnd text := by
  rw [trimEnd]
  split <;> simp_all

/-- Trimming keeps the start of a text that starts with no blank. -/
theorem trim_eq_trimEnd {text : List Char} (h : ∀ c ∈ text.head?, isBlank c = false) :
    trim text = trimEnd text := by
  rw [trim, dropWhile_isBlank_of_head h]

/-- Trimming the end keeps the first character. -/
theorem head?_trimEnd {text : List Char} (h : ∀ c ∈ text.head?, isBlank c = false) :
    (trimEnd text).head? = text.head? := by
  cases text with
  | nil => rfl
  | cons c rest => rw [trimEnd_cons (h c rfl), List.head?_cons, List.head?_cons]

/-- A digit of any script is no blank: the runs of ten digits and the blanks are apart. -/
theorem isBlank_eq_false_of_digit {c : Char} (h : digitValue? c ≠ none) : isBlank c = false := by
  obtain ⟨d, hd⟩ := Option.ne_none_iff_exists'.1 h
  rw [digitValue?, Option.map_eq_some_iff] at hd
  obtain ⟨first, hfirst, -⟩ := hd
  have hmem := List.mem_of_find?_eq_some hfirst
  have hrun := List.find?_some hfirst
  rw [decide_eq_true_iff] at hrun
  have hapart : ∀ first ∈ digitZeros, (33 ≤ first ∧ first + 10 ≤ 0x85) ∨
      (0xa1 ≤ first ∧ first + 10 ≤ 0x1680) ∨ (0x1681 ≤ first ∧ first + 10 ≤ 0x2000) ∨
      0x3001 ≤ first := by decide
  have hc := hapart first hmem
  rw [Bool.eq_false_iff]
  intro hblank
  simp only [isBlank, Bool.or_eq_true, Bool.and_eq_true, decide_eq_true_eq, beq_iff_eq] at hblank
  omega

/-- A character that numerals are made of. -/
def IsNumeric (c : Char) : Prop :=
  digitValue? c ≠ none ∨ c = '+' ∨ c = '-' ∨ c = '.' ∨ c = 'e' ∨ c = 'E'

/-- No numeric character is blank. -/
theorem IsNumeric.isBlank_eq_false {c : Char} (h : IsNumeric c) : isBlank c = false := by
  rcases h with h | rfl | rfl | rfl | rfl | rfl
  · exact isBlank_eq_false_of_digit h
  all_goals decide

theorem IsSign.isNumeric {text : List Char} {negative : Bool} (h : IsSign text negative) :
    ∀ c ∈ text, IsNumeric c := by
  cases h <;> simp [IsNumeric]

theorem Spells.isNumeric {text : List Char} {digits : List Nat} (h : Spells text digits) :
    ∀ c ∈ text, IsNumeric c := fun _ hc => .inl (h.digitValue?_ne_none hc)

/-- An integer has numeric characters only. -/
theorem IsInteger.isNumeric {text : List Char} {written : SignedDigits}
    (h : IsInteger text written) : ∀ c ∈ text, IsNumeric c := by
  obtain ⟨hs, ht, -⟩ := h
  intro c hc
  rcases List.mem_append.1 hc with hc | hc
  · exact hs.isNumeric c hc
  · exact ht.isNumeric c hc

/-- A mantissa has numeric characters only. -/
theorem IsMantissa.isNumeric {text : List Char} {whole fraction : List Nat}
    (h : IsMantissa text whole fraction) : ∀ c ∈ text, IsNumeric c := by
  have hpoint : IsNumeric '.' := by simp [IsNumeric]
  intro c hc
  cases h with
  | whole hw _ => exact hw.isNumeric c hc
  | both hw _ hf =>
    rcases List.mem_append.1 hc with hc | hc
    · exact hw.isNumeric c hc
    · rcases List.mem_cons.1 hc with rfl | hc
      · exact hpoint
      · exact hf.isNumeric c hc
  | fraction hf _ =>
    rcases List.mem_cons.1 hc with rfl | hc
    · exact hpoint
    · exact hf.isNumeric c hc

/-- An exponent has numeric characters only. -/
theorem IsExponent.isNumeric {text : List Char} {e : Int} (h : IsExponent text e) :
    ∀ c ∈ text, IsNumeric c := by
  intro c hc
  cases h with
  | absent => simp at hc
  | marked hm ht =>
    rcases List.mem_cons.1 hc with rfl | hc
    · rcases hm with rfl | rfl <;> simp [IsNumeric]
    · exact ht.isNumeric c hc

/-- **A numeral is made of digits, signs, points and marks.** -/
theorem IsNumeral.isNumeric {text : List Char} {n : Numeral} (h : IsNumeral text n) :
    ∀ c ∈ text, IsNumeric c := by
  obtain ⟨hs, hm, he⟩ := h
  intro c hc
  rcases List.mem_append.1 hc with hc | hc
  · exact hs.isNumeric c hc
  · rcases List.mem_append.1 hc with hc | hc
    · exact hm.isNumeric c hc
    · exact he.isNumeric c hc

/-- An integer is trimmed to its sign and digits, with a final line feed or without. -/
theorem IsInteger.trim_append_eq {text rest : List Char} {written : SignedDigits}
    (h : IsInteger text written) (hrest : isLineEnd rest = true) : trim (text ++ rest) = text := by
  refine trim_append (fun c hc => (h.isNumeric c hc).isBlank_eq_false) fun c hc => ?_
  rcases isLineEnd_iff.1 hrest with rfl | rfl
  · cases hc
  · obtain rfl := List.mem_singleton.1 hc
    decide

/-- A numeral has no blanks around it. -/
theorem IsNumeral.trim_eq {text : List Char} {n : Numeral} (h : IsNumeral text n) :
    trim text = text :=
  trim_eq_self_of_forall fun c hc => (h.isNumeric c hc).isBlank_eq_false

/-- A mantissa is not empty. -/
theorem IsMantissa.ne_nil {text : List Char} {whole fraction : List Nat}
    (h : IsMantissa text whole fraction) : text ≠ [] := by
  cases h with
  | whole _ hne => exact hne
  | both _ hne _ => simp
  | fraction _ _ => simp

theorem IsNumeral.ne_nil {text : List Char} {n : Numeral} (h : IsNumeral text n) : text ≠ [] := by
  obtain ⟨_, hm, _⟩ := h
  simp [hm.ne_nil]

end Text
end TypedInputs
