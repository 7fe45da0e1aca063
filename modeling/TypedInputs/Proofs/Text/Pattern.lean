/-
# The pattern of numerals

A pattern can leave a text at many places, but most of them are dead ends behind a numeral. Where
what follows a part refuses the characters that a shorter part would leave over, the part is taken
as long as possible and at once (`find?_many`). So it is with signs, with digits and with the digits
around a point. An exponent is different, because its mark may start something else as well.

A numeral therefore ends at one of two places, behind its exponent or in front of it, and the first
of them counts (`find?_numeral`). Both are where the readers of `Text.Numeral` stop.
-/

import TypedInputs.Proofs.Text.Grammar
import TypedInputs.Text.Pattern

namespace TypedInputs
namespace Text

variable {α : Type} {next : List Char → Option α}

/-- No text that starts with a character of the class has an answer. -/
def Refuses (next : List Char → Option α) (p : Char → Bool) : Prop :=
  ∀ c rest, p c = true → next (c :: rest) = none

/-- Behind the digits stands what is left when digits are dropped. -/
theorem spanDigits_snd (text : List Char) : (spanDigits text).2 = text.dropWhile isDigit := by
  induction text with
  | nil => rfl
  | cons c rest ih =>
    cases hc : digitValue? c with
    | some d => simp [spanDigits, isDigit, hc, ih]
    | none => simp [spanDigits, isDigit, hc]

namespace Pattern

/-! ### What a pattern does, by its form -/

theorem find?_one_nil (p : Char → Bool) (next : List Char → Option α) :
    (one p).find? next [] = none := rfl

theorem find?_one_cons (p : Char → Bool) (next : List Char → Option α) (c : Char)
    (rest : List Char) : (one p).find? next (c :: rest) = if p c then next rest else none := rfl

theorem find?_optional (a : Pattern) (next : List Char → Option α) (text : List Char) :
    (optional a).find? next text = (a.find? next text).or (next text) := rfl

theorem find?_either (a b : Pattern) (next : List Char → Option α) (text : List Char) :
    (either a b).find? next text = (a.find? next text).or (b.find? next text) := rfl

theorem find?_andThen (a b : Pattern) (next : List Char → Option α) (text : List Char) :
    (andThen a b).find? next text = a.find? (b.find? next) text := rfl

/-! ### What follows refuses the characters that a shorter part would leave -/

/-- **A run is taken to its end,** when no shorter run will do. -/
theorem find?_many {p : Char → Bool} (h : Refuses next p) (text : List Char) :
    (many p).find? next text = next (text.dropWhile p) := by
  show findMany? p next text = _
  induction text with
  | nil => rfl
  | cons c rest ih =>
    cases hc : p c with
    | true =>
      rw [findMany?, if_pos hc, ih, h c rest hc, Option.or_none, List.dropWhile_cons_of_pos hc]
    | false =>
      rw [findMany?, if_neg (by simp [hc]), List.dropWhile_cons_of_neg (by simp [hc])]

/-- Digits take all that there are, when what follows refuses a digit. -/
theorem find?_digits (h : Refuses next isDigit) (text : List Char) :
    digits.find? next text =
      if (spanDigits text).1 = [] then none else next (spanDigits text).2 := by
  cases text with
  | nil => rfl
  | cons c rest =>
    cases hc : digitValue? c with
    | some d =>
      have hdigit : isDigit c = true := by rw [isDigit, hc, Option.isSome_some]
      simp only [digits, find?_andThen, find?_one_cons, hdigit, if_true, spanDigits, hc]
      rw [if_neg (List.cons_ne_nil d _), spanDigits_snd]
      exact find?_many h rest
    | none =>
      have hdigit : isDigit c = false := by rw [isDigit, hc, Option.isSome_none]
      simp [digits, find?_andThen, find?_one_cons, hdigit, spanDigits, hc]

/-- A sign is taken when it is there, when what follows refuses one. -/
theorem find?_sign (hplus : ∀ rest, next ('+' :: rest) = none)
    (hminus : ∀ rest, next ('-' :: rest) = none) (text : List Char) :
    sign.find? next text = next (readSign text).2 := by
  cases text with
  | nil => rfl
  | cons c rest =>
    by_cases hp : c = '+'
    · subst hp
      simp [sign, find?_optional, find?_one_cons, readSign, hplus]
    · by_cases hm : c = '-'
      · subst hm
        simp [sign, find?_optional, find?_one_cons, readSign, hminus]
      · rw [readSign_of_ne (by simp [hp, hm])]
        simp [sign, find?_optional, find?_one_cons, hp, hm]

theorem find?_point (rest : List Char) : point.find? next ('.' :: rest) = next rest := rfl

/-- A point is not found where none stands. -/
theorem find?_point_of_ne {text : List Char} (h : text.head? ≠ some '.') :
    point.find? next text = none := by
  cases text with
  | nil => rfl
  | cons c rest =>
    have hc : c ≠ '.' := by simpa using h
    simp [point, find?_one_cons, hc]

/-- Behind a point the digits of the fraction are taken. -/
theorem find?_fraction (hdigit : Refuses next isDigit) (hpoint : ∀ rest, next ('.' :: rest) = none)
    (rest : List Char) : fraction.find? next ('.' :: rest) = next (spanDigits rest).2 := by
  rw [fraction, find?_optional, find?_andThen, find?_point, find?_many hdigit, hpoint, Option.or_none,
    spanDigits_snd]

/-- Without a point no fraction is taken. -/
theorem find?_fraction_of_ne {text : List Char} (h : text.head? ≠ some '.') :
    fraction.find? next text = next text := by
  rw [fraction, find?_optional, find?_andThen, find?_point_of_ne h, Option.none_or]

/-- **A mantissa ends at one place,** when neither a digit nor a point can follow it. -/
theorem find?_mantissa (hdigit : Refuses next isDigit) (hpoint : ∀ rest, next ('.' :: rest) = none)
    (text : List Char) :
    mantissa.find? next text = (Numeral.readMantissa text).bind fun parts => next parts.2 := by
  have hrefuses : Refuses (fraction.find? next) isDigit := by
    intro c rest hc
    rw [find?_fraction_of_ne (by rintro ⟨⟩; simp [isDigit, digitValue?_point] at hc),
      hdigit c rest hc]
  rw [mantissa, find?_either, find?_andThen, find?_andThen, find?_digits hrefuses]
  by_cases hhead : text.head? = some '.'
  · obtain ⟨rest, rfl⟩ := List.head?_eq_some_iff.1 hhead
    have hspan : spanDigits ('.' :: rest) = ([], '.' :: rest) := by
      rw [spanDigits, digitValue?_point]
    rw [hspan, if_pos rfl, Option.none_or, find?_point, find?_digits hdigit]
    rcases hrest : spanDigits rest with ⟨digits, tail⟩
    by_cases hne : digits = []
    · simp [Numeral.readMantissa, hspan, hrest, hne]
    · rw [Numeral.readMantissa_of_fraction hrest hne, if_neg hne]
      rfl
  · rw [find?_point_of_ne hhead, Option.or_none]
    rcases hspan : spanDigits text with ⟨whole, tail⟩
    by_cases hne : whole = []
    · obtain ⟨w, rfl, hw, htail⟩ := spells_of_spanDigits hspan
      obtain rfl : w = [] := List.eq_nil_of_length_eq_zero (by rw [hw.length_eq, hne]; rfl)
      rw [if_pos hne, List.nil_append, Numeral.readMantissa_eq_none htail hhead]
      rfl
    · rw [if_neg hne]
      by_cases htail : tail.head? = some '.'
      · obtain ⟨rest, rfl⟩ := List.head?_eq_some_iff.1 htail
        rw [find?_fraction hdigit hpoint, Numeral.readMantissa_of_point hspan hne rfl]
        rfl
      · rw [find?_fraction_of_ne htail, Numeral.readMantissa_of_whole hspan hne htail]
        rfl

/-- **An exponent ends behind its digits or is left out,** in this order. -/
theorem find?_exponent (hdigit : Refuses next isDigit) (text : List Char) :
    exponent.find? next text = (next (Numeral.readExponent text).2).or (next text) := by
  have hsign (c : Char) (hc : digitValue? c = none) (rest : List Char) :
      digits.find? next (c :: rest) = none := by
    rw [find?_digits hdigit, spanDigits, hc, if_pos rfl]
  have hinteger (rest : List Char) : sign.find? (digits.find? next) rest =
      (readInteger rest).bind fun parts => next parts.2 := by
    rw [find?_sign (hsign _ digitValue?_plus) (hsign _ digitValue?_minus), find?_digits hdigit,
      readInteger]
    rcases readSign rest with ⟨negative, unsigned⟩
    rcases hspan : spanDigits unsigned with ⟨_ | ⟨d, ds⟩, tail⟩ <;> simp [hspan]
  cases text with
  | nil => simp [exponent, find?_optional, find?_andThen, find?_one_nil, Numeral.readExponent]
  | cons c rest =>
    by_cases hmark : c = 'e' ∨ c = 'E'
    · have hfind : exponent.find? next (c :: rest) =
          ((readInteger rest).bind fun parts => next parts.2).or (next (c :: rest)) := by
        rw [← hinteger]
        rcases hmark with rfl | rfl <;> rfl
      have hread : (Numeral.readExponent (c :: rest)).2 =
          (readInteger rest).elim (c :: rest) Prod.snd := by
        rcases hmark with rfl | rfl <;> simp only [Numeral.readExponent] <;>
          cases readInteger rest <;> rfl
      rw [hfind, hread]
      cases readInteger rest <;> simp
    · rw [not_or] at hmark
      have hread : Numeral.readExponent (c :: rest) = (0, c :: rest) := by
        unfold Numeral.readExponent
        split <;> simp_all
      simp [exponent, find?_optional, find?_andThen, find?_one_cons, hmark, hread]

/-- **A numeral ends behind its exponent or in front of it,** in this order, when neither a digit
nor a point can follow it. -/
theorem find?_numeral (hdigit : Refuses next isDigit) (hpoint : ∀ rest, next ('.' :: rest) = none)
    (text : List Char) :
    numeral.find? next text = (Numeral.readMantissa (readSign text).2).bind fun parts =>
      (next (Numeral.readExponent parts.2).2).or (next parts.2) := by
  have hexponent {c : Char} (he : c ≠ 'e') (hE : c ≠ 'E') (rest : List Char) :
      exponent.find? next (c :: rest) = next (c :: rest) := by
    simp [exponent, find?_optional, find?_andThen, find?_one_cons, he, hE]
  have hdigit' : Refuses (exponent.find? next) isDigit := by
    intro c rest hc
    rw [hexponent (by rintro rfl; exact absurd hc (by decide))
      (by rintro rfl; exact absurd hc (by decide)), hdigit c rest hc]
  have hpoint' (rest : List Char) : exponent.find? next ('.' :: rest) = none := by
    rw [hexponent (by decide) (by decide), hpoint]
  have hsign {c : Char} (hc : digitValue? c = none) (hdot : c ≠ '.') (rest : List Char) :
      mantissa.find? (exponent.find? next) (c :: rest) = none := by
    rw [find?_mantissa hdigit' hpoint',
      Numeral.readMantissa_eq_none (startsWithoutDigit_cons hc) (by simpa using hdot)]
    rfl
  have hnumeral : numeral.find? next text =
      sign.find? (mantissa.find? (exponent.find? next)) text := rfl
  rw [hnumeral, find?_sign (hsign digitValue?_plus (by decide))
    (hsign digitValue?_minus (by decide)), find?_mantissa hdigit' hpoint']
  simp only [find?_exponent hdigit]

end Pattern

/-! ### The two ends -/

/-- A numeral at the start of a text, with neither a digit nor a point behind it, ends where the
mantissa ends or behind the exponent that is read there. -/
theorem IsNumeral.rest_eq_or {text rest : List Char} {n : Numeral} (h : IsNumeral text n)
    (hrest : StartsWithoutDigit rest) (hpoint : rest.head? ≠ some '.') :
    ∃ parts, Numeral.readMantissa (readSign (text ++ rest)).2 = some parts ∧
      (rest = parts.2 ∨ rest = (Numeral.readExponent parts.2).2) := by
  obtain ⟨hs, hm, he⟩ := h
  obtain ⟨hdigit, hdot⟩ := he.head_append hrest hpoint
  rw [List.append_assoc, List.append_assoc, hs.readSign_append (hm.head_ne_sign _)]
  refine ⟨_, hm.readMantissa_append hdigit hdot, ?_⟩
  cases he with
  | absent => exact .inl rfl
  | marked hmark hinteger => exact .inr (by rw [hinteger.readExponent_cons_append hmark hrest])

/-- At both ends there is a numeral in front. -/
theorem exists_isNumeral_of_readMantissa {text : List Char}
    {parts : (List Nat × List Nat) × List Char}
    (h : Numeral.readMantissa (readSign text).2 = some parts) :
    (∃ t n, text = t ++ parts.2 ∧ IsNumeral t n) ∧
      ∃ t n, text = t ++ (Numeral.readExponent parts.2).2 ∧ IsNumeral t n := by
  obtain ⟨⟨whole, fraction⟩, tail⟩ := parts
  rcases hsign : readSign text with ⟨negative, unsigned⟩
  obtain ⟨sign, rfl, hs⟩ := isSign_of_readSign hsign
  rw [hsign] at h
  obtain ⟨m, rfl, hm⟩ := isMantissa_of_readMantissa h
  rcases hexponent : Numeral.readExponent tail with ⟨e, left⟩
  obtain ⟨x, rfl, hx⟩ := isExponent_of_readExponent hexponent
  exact ⟨⟨sign ++ (m ++ []), _, by simp, .mk hs hm .absent⟩,
    ⟨sign ++ (m ++ x), _, by simp, .mk hs hm hx⟩⟩

end Text
end TypedInputs
