/-
# How the text of a quantity is cut

A quantity's text is a decimal literal, blanks and a unit, and there may be more than one way to cut
it so (`IsCut`). The search takes the first way in the order of preference of the numeral's pattern.
It is the way with the longest literal (`firstCut?_eq_some_iff`): a unit starts with neither a digit
nor a point, so a literal in front of one ends behind its exponent or in front of it
(`IsCut.rest_eq_or`), and the search tries the two in this order (`firstCut?_eq`).

A text without a unit has one cut, so the dimensionless quantities are the decimals.
-/

import Mathlib.Data.List.TakeWhile
import TypedInputs.Number.Quantity
import TypedInputs.Proofs.Number.Decimal
import TypedInputs.Proofs.Text.Pattern

namespace TypedInputs
namespace Number
namespace Quantity

open Text

/-! ### Cuts -/

/-- A way to cut a text into a decimal literal, blanks and a unit symbol. Without a unit there are
no blanks. -/
structure IsCut (text value blanks unit : List Char) : Prop where
  text_eq : text = value ++ (blanks ++ unit)
  isNumeral : ∃ n, IsNumeral value n
  isBlank : ∀ c ∈ blanks, isBlank c = true
  unit : unit = [] ∧ blanks = [] ∨ isUnit unit = true

/-- The way with the longest decimal literal. -/
structure IsLongestCut (text value blanks unit : List Char) : Prop
    extends IsCut text value blanks unit where
  longest : ∀ {value' blanks' unit'}, IsCut text value' blanks' unit' →
    value'.length ≤ value.length

/-- A unit has no blanks. -/
theorem isBlank_of_isUnit {unit : List Char} (h : isUnit unit) :
    ∀ c ∈ unit, Text.isBlank c = false := by
  cases unit with
  | nil => simp [isUnit] at h
  | cons first rest =>
    simp only [isUnit, startsUnit, Bool.and_eq_true, Bool.not_eq_true', List.all_eq_true] at h
    intro c hc
    rcases List.mem_cons.1 hc with rfl | hc
    · exact h.1.1.1.1.1
    · exact h.2 c hc

/-- The unit behind blanks is found; without a unit there may be no blanks either. -/
theorem unitOf?_append {blanks unit : List Char} (hblank : ∀ c ∈ blanks, Text.isBlank c = true)
    (hunit : unit = [] ∧ blanks = [] ∨ isUnit unit = true) :
    unitOf? (blanks ++ unit) = some unit := by
  rcases hunit with ⟨rfl, rfl⟩ | hunit
  · rfl
  · have hdrop : (blanks ++ unit).dropWhile Text.isBlank = unit := by
      rw [List.dropWhile_append_of_pos hblank]
      exact dropWhile_isBlank_of_head fun c hc =>
        isBlank_of_isUnit hunit c (List.mem_of_mem_head? hc)
    have hne : blanks ++ unit ≠ [] := by
      rintro heq
      rw [(List.append_eq_nil_iff.1 heq).2] at hunit
      cases hunit
    unfold unitOf?
    split
    · exact absurd ‹_› hne
    · simp only [hdrop, hunit, if_true]

/-- What a unit is read from is blanks and the unit. -/
theorem exists_blanks_of_unitOf? {rest unit : List Char} (h : unitOf? rest = some unit) :
    ∃ blanks, rest = blanks ++ unit ∧ (∀ c ∈ blanks, Text.isBlank c = true) ∧
      (unit = [] ∧ blanks = [] ∨ isUnit unit = true) := by
  unfold unitOf? at h
  split at h
  · obtain rfl := Option.some.inj h
    exact ⟨[], rfl, by simp, .inl ⟨rfl, rfl⟩⟩
  · simp only at h
    split at h
    · rename_i hunit
      obtain rfl := Option.some.inj h
      exact ⟨_, List.takeWhile_append_dropWhile.symm, fun c hc => List.mem_takeWhile_imp hc,
        .inr hunit⟩
    · cases h

/-- A cut is a numeral in front of something that a unit is read from. -/
theorem exists_isCut_iff {text value unit : List Char} :
    (∃ blanks, IsCut text value blanks unit) ↔
      ∃ rest, text = value ++ rest ∧ (∃ n, IsNumeral value n) ∧ unitOf? rest = some unit := by
  constructor
  · rintro ⟨blanks, h⟩
    exact ⟨_, h.text_eq, h.isNumeral, unitOf?_append h.isBlank h.unit⟩
  · rintro ⟨rest, rfl, hn, hunit⟩
    obtain ⟨blanks, rfl, hblank, hunit⟩ := exists_blanks_of_unitOf? hunit
    exact ⟨blanks, rfl, hn, hblank, hunit⟩

/-- No unit is read where a character stands that is no blank and starts no unit. -/
theorem unitOf?_cons_eq_none {c : Char} (hblank : Text.isBlank c = false)
    (hstart : startsUnit c = false) (rest : List Char) : unitOf? (c :: rest) = none := by
  simp [unitOf?, hblank, isUnit, hstart]

/-- No unit starts with a digit. -/
theorem unitOf?_digit {c : Char} (hc : isDigit c = true) (rest : List Char) :
    unitOf? (c :: rest) = none := by
  refine unitOf?_cons_eq_none (isBlank_eq_false_of_digit ?_) ?_ rest
  · exact Option.isSome_iff_ne_none.1 hc
  · simp [startsUnit, hc]

theorem unitOf?_point (rest : List Char) : unitOf? ('.' :: rest) = none :=
  unitOf?_cons_eq_none (by decide) (by decide) rest

/-! ### The first cut is the longest -/

/-- What a cut answers when the rest of the text is left. -/
def answer (text rest : List Char) : Option (List Char × List Char) :=
  (unitOf? rest).map fun unit => (text.take (text.length - rest.length), unit)

/-- A cut answers with the value before it and the unit behind it. -/
theorem answer_of_eq_append {text value rest : List Char} (h : text = value ++ rest) :
    answer text rest = (unitOf? rest).map (value, ·) := by
  simp [answer, h]

/-- **The first cut is one of two,** behind the exponent or in front of it. -/
theorem firstCut?_eq (text : List Char) :
    firstCut? text = (Numeral.readMantissa (readSign text).2).bind fun parts =>
      (answer text (Numeral.readExponent parts.2).2).or (answer text parts.2) :=
  Pattern.find?_numeral
    (fun c rest hc => by rw [unitOf?_digit hc, Option.map_none])
    (fun rest => by rw [unitOf?_point, Option.map_none]) text

/-- Every cut is one of the two. -/
theorem IsCut.rest_eq_or {text value blanks unit : List Char} (h : IsCut text value blanks unit) :
    ∃ parts, Numeral.readMantissa (readSign text).2 = some parts ∧
      (blanks ++ unit = parts.2 ∨ blanks ++ unit = (Numeral.readExponent parts.2).2) := by
  obtain ⟨rfl, ⟨n, hn⟩, hblank, hunit⟩ := h
  have hread := unitOf?_append hblank hunit
  generalize blanks ++ unit = rest at hread
  refine hn.rest_eq_or (fun c hc => ?_) fun hpoint => ?_
  · obtain ⟨tail, rfl⟩ := List.head?_eq_some_iff.1 hc
    by_contra hne
    rw [unitOf?_digit (Option.isSome_iff_ne_none.2 hne)] at hread
    cases hread
  · obtain ⟨tail, rfl⟩ := List.head?_eq_some_iff.1 hpoint
    rw [unitOf?_point] at hread
    cases hread

/-- The cut that leaves the least is the longest. -/
theorem exists_isLongestCut {text value rest unit : List Char} (htext : text = value ++ rest)
    (hn : ∃ n, IsNumeral value n) (hunit : unitOf? rest = some unit)
    (hleast : ∀ {value' blanks' unit'}, IsCut text value' blanks' unit' →
      rest.length ≤ (blanks' ++ unit').length) :
    ∃ blanks, IsLongestCut text value blanks unit := by
  obtain ⟨blanks, hcut⟩ := exists_isCut_iff.2 ⟨rest, htext, hn, hunit⟩
  refine ⟨blanks, hcut, fun hcut' => ?_⟩
  have hless := hleast hcut'
  have hlength := congrArg List.length (htext.symm.trans hcut'.text_eq)
  rw [List.length_append, List.length_append] at hlength
  omega

/-- **The first cut is the longest.** -/
theorem exists_isLongestCut_of_firstCut? {text value unit : List Char}
    (h : firstCut? text = some (value, unit)) : ∃ blanks, IsLongestCut text value blanks unit := by
  rw [firstCut?_eq] at h
  cases hread : Numeral.readMantissa (readSign text).2 with
  | none => simp [hread] at h
  | some parts =>
    have hends {value blanks unit : List Char} (hcut : IsCut text value blanks unit) :
        blanks ++ unit = parts.2 ∨ blanks ++ unit = (Numeral.readExponent parts.2).2 := by
      obtain ⟨parts', hread', hrest⟩ := hcut.rest_eq_or
      rwa [← Option.some.inj (hread.symm.trans hread')] at hrest
    obtain ⟨⟨short, n, hshort, hn⟩, long, n', hlong, hn'⟩ := exists_isNumeral_of_readMantissa hread
    rw [hread, Option.bind_some, answer_of_eq_append hshort, answer_of_eq_append hlong] at h
    rcases hexponent : Numeral.readExponent parts.2 with ⟨e, left⟩
    obtain ⟨x, hx, -⟩ := isExponent_of_readExponent hexponent
    simp only [hexponent] at hends hlong h
    cases hleft : unitOf? left with
    | some u =>
      -- Behind the exponent is the end: no cut leaves less of the text.
      obtain ⟨rfl, rfl⟩ : long = value ∧ u = unit := by simpa [hleft] using h
      refine exists_isLongestCut hlong ⟨n', hn'⟩ hleft fun hcut => ?_
      rcases hends hcut with hrest | hrest
      · rw [hrest, hx, List.length_append]
        omega
      · rw [hrest]
    | none =>
      -- Nothing can follow the exponent, so every cut is in front of it.
      have hnone : (unitOf? left).map (long, ·) = none := by rw [hleft, Option.map_none]
      rw [hnone, Option.none_or, Option.map_eq_some_iff] at h
      obtain ⟨u, hu, heq⟩ := h
      obtain ⟨rfl, rfl⟩ := Prod.mk.inj heq
      refine exists_isLongestCut hshort ⟨n, hn⟩ hu fun hcut => ?_
      rcases hends hcut with hrest | hrest
      · rw [hrest]
      · have hunit := unitOf?_append hcut.isBlank hcut.unit
        rw [hrest, hleft] at hunit
        cases hunit

/-- Where there is a cut, the search finds one. -/
theorem IsCut.exists_firstCut? {text value blanks unit : List Char}
    (h : IsCut text value blanks unit) : ∃ parts, firstCut? text = some parts := by
  obtain ⟨parts, hread, hrest⟩ := h.rest_eq_or
  have hanswer : answer text (blanks ++ unit) = some (value, unit) := by
    rw [answer_of_eq_append h.text_eq, unitOf?_append h.isBlank h.unit, Option.map_some]
  rw [firstCut?_eq, hread, Option.bind_some]
  rcases hrest with hrest | hrest
  · rw [← hrest, hanswer]
    cases answer text (Numeral.readExponent (blanks ++ unit)).2 with
    | some parts => exact ⟨parts, rfl⟩
    | none => exact ⟨_, rfl⟩
  · rw [← hrest, hanswer]
    exact ⟨_, rfl⟩

/-- Two longest cuts are the same. -/
theorem IsLongestCut.unique {text value blanks unit value' blanks' unit' : List Char}
    (h : IsLongestCut text value blanks unit) (h' : IsLongestCut text value' blanks' unit') :
    value = value' ∧ unit = unit' := by
  have hlength : value.length = value'.length :=
    Nat.le_antisymm (h'.longest h.toIsCut) (h.longest h'.toIsCut)
  obtain ⟨hvalue, hrest⟩ := List.append_inj (h.text_eq.symm.trans h'.text_eq) hlength
  have hunit := unitOf?_append h.isBlank h.unit
  rw [hrest, unitOf?_append h'.isBlank h'.unit] at hunit
  exact ⟨hvalue, (Option.some.inj hunit).symm⟩

/-- **The search finds the cut with the longest literal,** and nothing else. -/
theorem firstCut?_eq_some_iff {text value unit : List Char} :
    firstCut? text = some (value, unit) ↔ ∃ blanks, IsLongestCut text value blanks unit := by
  refine ⟨exists_isLongestCut_of_firstCut?, fun ⟨blanks, h⟩ => ?_⟩
  obtain ⟨⟨value', unit'⟩, hfind⟩ := h.toIsCut.exists_firstCut?
  obtain ⟨blanks', h'⟩ := exists_isLongestCut_of_firstCut? hfind
  obtain ⟨rfl, rfl⟩ := h.unique h'
  exact hfind

/-- A decimal literal is cut behind its last character. -/
theorem isLongestCut_of_isNumeral {text : List Char} {n : Numeral} (h : IsNumeral text n) :
    IsLongestCut text text [] [] where
  text_eq := by simp
  isNumeral := ⟨n, h⟩
  isBlank := by simp
  unit := .inl ⟨rfl, rfl⟩
  longest hcut := by
    have hlength := congrArg List.length hcut.text_eq
    rw [List.length_append] at hlength
    omega

/-! ### The quantity of a text -/

/-- A quantity is read from the first cut of its text, the value as a decimal and the unit as it
stands. -/
theorem parse_eq_ok_iff {text : String} {q : Quantity} :
    parse text = .ok q ↔ ∃ value unit, firstCut? (trim text.toList) = some (value, unit) ∧
      Decimal.parse (String.ofList value) = .ok q.value ∧ String.ofList unit = q.unit := by
  obtain ⟨decimal, symbol⟩ := q
  unfold parse
  cases hcut : firstCut? (trim text.toList) with
  | none => simp
  | some parts =>
    obtain ⟨value, unit⟩ := parts
    cases hvalue : Decimal.parse (String.ofList value) with
    | error fault => simp [hvalue, Except.map]
    | ok d => simp [hvalue, Except.map]

/-- **A decimal literal is a dimensionless quantity.** -/
theorem parse_of_parse_decimal {text : String} {d : Decimal} (h : Decimal.parse text = .ok d) :
    parse text = .ok ⟨d, ""⟩ := by
  obtain ⟨n, hn, hvalue, hreach⟩ := Decimal.parse_eq_ok_iff.1 h
  refine parse_eq_ok_iff.2 ⟨_, [], firstCut?_eq_some_iff.2 ⟨[], isLongestCut_of_isNumeral hn⟩,
    Decimal.parse_eq_ok_iff.2 ⟨n, ?_, hvalue, hreach⟩, rfl⟩
  rwa [String.toList_ofList, hn.trim_eq]

/-- **A dimensionless quantity is a decimal literal.** -/
theorem parse_decimal_of_parse {text : String} {d : Decimal} (h : parse text = .ok ⟨d, ""⟩) :
    Decimal.parse text = .ok d := by
  obtain ⟨value, unit, hcut, hvalue, hunit⟩ := parse_eq_ok_iff.1 h
  obtain rfl : unit = [] := by simpa using hunit
  obtain ⟨blanks, hlongest⟩ := firstCut?_eq_some_iff.1 hcut
  obtain ⟨m, hm⟩ := hlongest.isNumeral
  obtain ⟨n, hn, heq, hreach⟩ := Decimal.parse_eq_ok_iff.1 hvalue
  have hblanks : blanks = [] := by
    rcases hlongest.unit with ⟨-, hblanks⟩ | hunit
    · exact hblanks
    · cases hunit
  have htext := hlongest.text_eq
  rw [hblanks, List.append_nil, List.append_nil] at htext
  rw [String.toList_ofList, hm.trim_eq, ← htext] at hn
  exact Decimal.parse_eq_ok_iff.2 ⟨n, hn, heq, hreach⟩

/-- **A quantity is split at the longest decimal literal.** A text writes a quantity exactly when,
trimmed, it can be cut into a decimal literal, blanks and a unit symbol, or is a decimal literal
alone, and the longest literal that it can be cut behind is a decimal; the quantity is this decimal,
with the unit behind it. Dimensionless quantities and decimals have the same texts. -/
theorem parse_splits (text : String) :
    (∀ q, parse text = .ok q ↔ ∃ value blanks unit,
      IsLongestCut (trim text.toList) value blanks unit ∧
        Decimal.parse (String.ofList value) = .ok q.value ∧ q.unit = String.ofList unit) ∧
    ∀ d, Decimal.parse text = .ok d ↔ parse text = .ok ⟨d, ""⟩ := by
  refine ⟨fun q => ?_, fun d => ⟨parse_of_parse_decimal, parse_decimal_of_parse⟩⟩
  rw [parse_eq_ok_iff]
  constructor
  · rintro ⟨value, unit, hcut, hvalue, hunit⟩
    obtain ⟨blanks, hlongest⟩ := firstCut?_eq_some_iff.1 hcut
    exact ⟨value, blanks, unit, hlongest, hvalue, hunit.symm⟩
  · rintro ⟨value, blanks, unit, hlongest, hvalue, hunit⟩
    exact ⟨value, unit, firstCut?_eq_some_iff.2 ⟨blanks, hlongest⟩, hvalue, hunit.symm⟩

/-- No unit can follow the exponent here, so its mark starts the unit. -/
example : parse "1e5.3" = .ok ⟨⟨false, 1, 0⟩, "e5.3"⟩ := by decide +kernel

end Quantity
end Number
end TypedInputs
