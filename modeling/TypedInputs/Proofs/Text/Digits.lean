/-
# Digits and the numbers they write

A text *spells* a list of numbers when its characters are decimal digits with these values, in any
script. A text that spells digits is read back as those digits by `spanDigits`, provided no digit
follows, and by `takeDigits` whatever follows.

Numbers are written by `Nat.toDigits 10` and, with zeros in front, by `padded`. Both spell digits
whose number is the one that was written (`spells_toDigits`, `spells_padded`).
-/

import Mathlib.Data.List.Basic
import Mathlib.Data.List.Induction
import Mathlib.Tactic.Ring
import TypedInputs.Text.Digit

namespace TypedInputs
namespace Text

/-- The characters of the text are digits with these values. -/
def Spells (text : List Char) (digits : List Nat) : Prop :=
  text.map digitValue? = digits.map some

/-- No digit stands at the start of the text. -/
def StartsWithoutDigit (text : List Char) : Prop := ∀ c ∈ text.head?, digitValue? c = none

theorem startsWithoutDigit_nil : StartsWithoutDigit [] := by simp [StartsWithoutDigit]

theorem startsWithoutDigit_cons {c : Char} {rest : List Char} (h : digitValue? c = none) :
    StartsWithoutDigit (c :: rest) := by simpa [StartsWithoutDigit] using h

namespace Spells

variable {text text' rest : List Char} {digits digits' : List Nat}

theorem nil : Spells [] [] := rfl

theorem cons {c : Char} {d : Nat} (hc : digitValue? c = some d) (h : Spells text digits) :
    Spells (c :: text) (d :: digits) := by
  simp only [Spells, List.map_cons, hc, List.cons.injEq, true_and]
  exact h

theorem append (h : Spells text digits) (h' : Spells text' digits') :
    Spells (text ++ text') (digits ++ digits') := by
  simp only [Spells, List.map_append] at *
  rw [h, h']

theorem length_eq (h : Spells text digits) : text.length = digits.length := by
  simpa using congrArg List.length h

theorem replicate_zero (k : Nat) : Spells (List.replicate k '0') (List.replicate k 0) := by
  simp only [Spells, List.map_replicate]
  rfl

/-- A text spells one list of digits at most. -/
theorem unique (h : Spells text digits) (h' : Spells text digits') : digits = digits' :=
  List.map_injective_iff.2 (Option.some_injective Nat) (h.symm.trans h')

theorem ne_nil (h : Spells text digits) (hne : text ≠ []) : digits ≠ [] := by
  have := h.length_eq
  intro hd
  simp_all

/-- Every character of a text that spells digits is a digit. -/
theorem digitValue?_ne_none (h : Spells text digits) {c : Char} (hc : c ∈ text) :
    digitValue? c ≠ none := by
  have hmem : digitValue? c ∈ digits.map some := h ▸ List.mem_map_of_mem hc
  obtain ⟨d, -, hd⟩ := List.mem_map.1 hmem
  simp [← hd]

theorem lt_ten (h : Spells text digits) {d : Nat} (hd : d ∈ digits) : d < 10 := by
  have hmem : some d ∈ text.map digitValue? := h ▸ List.mem_map_of_mem hd
  obtain ⟨c, -, hc⟩ := List.mem_map.1 hmem
  exact digitValue?_lt hc

theorem take (h : Spells text digits) (n : Nat) : Spells (text.take n) (digits.take n) := by
  simp only [Spells, List.map_take] at *
  rw [h]

theorem drop (h : Spells text digits) (n : Nat) : Spells (text.drop n) (digits.drop n) := by
  simp only [Spells, List.map_drop] at *
  rw [h]

/-- **Digits are read to the last one.** -/
theorem spanDigits_append (h : Spells text digits) (hrest : StartsWithoutDigit rest) :
    spanDigits (text ++ rest) = (digits, rest) := by
  induction text generalizing digits with
  | nil =>
    obtain rfl : digits = [] := by simpa [Spells] using h.symm
    cases rest with
    | nil => rfl
    | cons c rest => simp [spanDigits, hrest c rfl]
  | cons c text ih =>
    cases digits with
    | nil => simp [Spells] at h
    | cons d digits =>
      obtain ⟨hc, htail⟩ := List.cons.inj h
      rw [List.cons_append, spanDigits, hc]
      rw [ih htail]

/-- **A fixed number of digits is read whatever follows.** -/
theorem takeDigits_append (h : Spells text digits) (rest : List Char) :
    takeDigits text.length (text ++ rest) = some (digits, rest) := by
  induction text generalizing digits with
  | nil =>
    obtain rfl : digits = [] := by simpa [Spells] using h.symm
    rfl
  | cons c text ih =>
    cases digits with
    | nil => simp [Spells] at h
    | cons d digits =>
      obtain ⟨hc, htail⟩ := List.cons.inj h
      rw [List.length_cons, List.cons_append, takeDigits, hc]
      rw [ih htail]
      rfl

end Spells

/-- What `spanDigits` reads stands at the start of the text, and no digit is left over. -/
theorem spells_of_spanDigits {text rest : List Char} {digits : List Nat}
    (h : spanDigits text = (digits, rest)) :
    ∃ t, text = t ++ rest ∧ Spells t digits ∧ StartsWithoutDigit rest := by
  induction text generalizing digits rest with
  | nil =>
    obtain ⟨rfl, rfl⟩ := Prod.mk.inj h
    exact ⟨[], rfl, Spells.nil, startsWithoutDigit_nil⟩
  | cons c text ih =>
    rw [spanDigits] at h
    cases hc : digitValue? c with
    | some d =>
      rw [hc] at h
      obtain ⟨rfl, rfl⟩ := Prod.mk.inj h
      obtain ⟨t, ht, hspells, hrest⟩ := ih rfl
      exact ⟨c :: t, by rw [List.cons_append, ← ht], Spells.cons hc hspells, hrest⟩
    | none =>
      rw [hc] at h
      obtain ⟨rfl, rfl⟩ := Prod.mk.inj h
      exact ⟨[], rfl, Spells.nil, startsWithoutDigit_cons hc⟩

/-- What `takeDigits` reads stands at the start of the text. -/
theorem spells_of_takeDigits {n : Nat} {text rest : List Char} {digits : List Nat}
    (h : takeDigits n text = some (digits, rest)) : ∃ t, text = t ++ rest ∧ Spells t digits := by
  induction n generalizing text digits with
  | zero =>
    obtain ⟨rfl, rfl⟩ := Prod.mk.inj (Option.some.inj h)
    exact ⟨[], rfl, Spells.nil⟩
  | succ n ih =>
    cases text with
    | nil => cases h
    | cons c text =>
      rw [takeDigits] at h
      cases hc : digitValue? c with
      | some d =>
        rw [hc] at h
        obtain ⟨⟨ds, tail⟩, hread, heq⟩ := Option.map_eq_some_iff.1 h
        obtain ⟨rfl, rfl⟩ := Prod.mk.inj heq
        obtain ⟨t, rfl, ht⟩ := ih hread
        exact ⟨c :: t, rfl, Spells.cons hc ht⟩
      | none =>
        rw [hc] at h
        cases h

/-! ### The number of a list of digits -/

/-- Digits behind others push those up by their places. -/
theorem ofDigits_append (digits digits' : List Nat) :
    ofDigits (digits ++ digits') = ofDigits digits * 10 ^ digits'.length + ofDigits digits' := by
  induction digits' using List.reverseRecOn with
  | nil => simp
  | append_singleton digits' d ih =>
    rw [← List.append_assoc, ofDigits_concat, ofDigits_concat, ih, List.length_append,
      List.length_singleton, pow_succ]
    ring

/-- Zeros write zero. -/
theorem ofDigits_replicate_zero (k : Nat) : ofDigits (List.replicate k 0) = 0 := by
  induction k with
  | zero => rfl
  | succ k ih => rw [List.replicate_succ', ofDigits_concat, ih]

/-- A number is below the power of ten with one digit more. -/
theorem ofDigits_lt {digits : List Nat} (h : ∀ d ∈ digits, d < 10) :
    ofDigits digits < 10 ^ digits.length := by
  induction digits using List.reverseRecOn with
  | nil => simp
  | append_singleton digits d ih =>
    have hinit := ih fun e he => h e (List.mem_append_left _ he)
    have hlast := h d (by simp)
    rw [ofDigits_concat, List.length_append, List.length_singleton, pow_succ]
    omega

/-- **The first digits are the number divided by a power of ten,** rounded down. -/
theorem ofDigits_take {digits : List Nat} (h : ∀ d ∈ digits, d < 10) (n : Nat) :
    ofDigits (digits.take n) = ofDigits digits / 10 ^ (digits.length - n) := by
  have hsplit := ofDigits_append (digits.take n) (digits.drop n)
  have hrest := ofDigits_lt fun d hd => h d (List.mem_of_mem_drop (i := n) hd)
  rw [List.take_append_drop, List.length_drop] at hsplit
  rw [List.length_drop] at hrest
  rw [hsplit, Nat.add_comm, Nat.add_mul_div_right _ _ (Nat.pow_pos (by decide)),
    Nat.div_eq_of_lt hrest, Nat.zero_add]

/-! ### The ASCII digits -/

/-- The value of an ASCII digit. -/
def asciiValue (c : Char) : Nat := c.toNat - '0'.toNat

/-- The codes of the ASCII digits. -/
theorem toNat_of_isDigit {c : Char} (h : c.isDigit) : 48 ≤ c.toNat ∧ c.toNat ≤ 57 := by
  simp only [Char.isDigit, Bool.and_eq_true, decide_eq_true_eq, ge_iff_le,
    UInt32.le_iff_toNat_le] at h
  exact h

/-- An ASCII digit has its usual value. -/
theorem digitValue?_of_isDigit {c : Char} (h : c.isDigit) :
    digitValue? c = some (asciiValue c) := by
  have hc := toNat_of_isDigit h
  have hfirst : digitZeros.find? (fun first => decide (first ≤ c.toNat ∧ c.toNat < first + 10)) =
      some 0x30 := by
    apply List.find?_cons_of_pos
    rw [decide_eq_true_iff]
    omega
  rw [digitValue?, hfirst]
  rfl

/-- ASCII digits spell their values. -/
theorem spells_of_isDigit {text : List Char} (h : ∀ c ∈ text, c.isDigit) :
    Spells text (text.map asciiValue) := by
  rw [Spells, List.map_map]
  exact List.map_congr_left fun c hc => digitValue?_of_isDigit (h c hc)

/-- The digits of an ASCII text write what the library reads in them. -/
theorem ofDigits_map_asciiValue (text : List Char) :
    ofDigits (text.map asciiValue) = Nat.ofDigitChars 10 text 0 := by
  rw [Nat.ofDigitChars_eq_foldl, ofDigits, List.foldl_map]
  rfl

/-- The decimal digits of a number, most significant first. -/
def decimalDigits (n : Nat) : List Nat := (Nat.toDigits 10 n).map asciiValue

@[simp] theorem ofDigits_decimalDigits (n : Nat) : ofDigits (decimalDigits n) = n := by
  rw [decimalDigits, ofDigits_map_asciiValue, Nat.ofDigitChars_ten_toDigits]

theorem isDigit_of_mem_toDigits {n : Nat} {c : Char} (h : c ∈ Nat.toDigits 10 n) : c.isDigit :=
  Nat.isDigit_of_mem_toDigits (by decide) (by decide) h

/-- **A number is written in its digits.** -/
theorem spells_toDigits (n : Nat) : Spells (Nat.toDigits 10 n) (decimalDigits n) :=
  spells_of_isDigit fun _ => isDigit_of_mem_toDigits

/-- The digits of a number below a power of ten are at most as many as its exponent, and at least
one. -/
theorem length_toDigits_le {n width : Nat} (hw : 0 < width) (h : n < 10 ^ width) :
    (Nat.toDigits 10 n).length ≤ width :=
  (Nat.length_toDigits_le_iff (by decide) hw).2 h

/-! ### Numbers with zeros in front -/

/-- The digits of a number padded with zeros. -/
def paddedDigits (width n : Nat) : List Nat :=
  List.replicate (width - (Nat.toDigits 10 n).length) 0 ++ decimalDigits n

theorem spells_padded (width n : Nat) : Spells (padded width n) (paddedDigits width n) :=
  (Spells.replicate_zero _).append (spells_toDigits n)

@[simp] theorem ofDigits_paddedDigits (width n : Nat) : ofDigits (paddedDigits width n) = n := by
  rw [paddedDigits, ofDigits_append, ofDigits_replicate_zero, ofDigits_decimalDigits]
  omega

theorem padded_ne_nil (width n : Nat) : padded width n ≠ [] := by
  rw [padded, List.leftpad]
  exact List.append_ne_nil_of_right_ne_nil _ Nat.toDigits_ne_nil

/-- A number that fits is padded to its width. -/
theorem length_padded {width n : Nat} (hw : 0 < width) (h : n < 10 ^ width) :
    (padded width n).length = width := by
  have := length_toDigits_le hw h
  rw [padded, List.length_leftpad]
  omega

end Text
end TypedInputs
