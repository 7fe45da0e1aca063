/-
# The grammar of integers and numerals

| relation | texts |
| --- | --- |
| `IsSign` | nothing, `+` or `-` |
| `IsInteger` | a sign and digits |
| `IsMantissa` | digits; digits, a point and maybe digits; a point and digits |
| `IsExponent` | nothing; `e` or `E` and an integer |
| `IsNumeral` | a sign, a mantissa and an exponent |

The readers of `Text.Numeral` read exactly these texts. What follows a text must not prolong it: no
digit after an integer, and after a numeral neither a digit nor a point nor a mark of an exponent.
With nothing left over the grammar and the reader agree (`Numeral.ofText?_eq_some_iff`).
-/

import TypedInputs.Proofs.Text.Digits
import TypedInputs.Text.Blank
import TypedInputs.Text.Numeral

namespace TypedInputs
namespace Text

/-- A sign, maybe left out, and whether it is a minus. -/
inductive IsSign : List Char → Bool → Prop
  | absent : IsSign [] false
  | plus : IsSign ['+'] false
  | minus : IsSign ['-'] true

/-- A written integer. -/
inductive IsInteger : List Char → SignedDigits → Prop
  | mk {sign text : List Char} {negative : Bool} {digits : List Nat} (hs : IsSign sign negative)
      (ht : Spells text digits) (hne : text ≠ []) : IsInteger (sign ++ text) ⟨negative, digits⟩

/-- A written mantissa: the digits before and after the point. -/
inductive IsMantissa : List Char → List Nat → List Nat → Prop
  | whole {w : List Char} {ws : List Nat} (hw : Spells w ws) (hne : w ≠ []) : IsMantissa w ws []
  | both {w f : List Char} {ws fs : List Nat} (hw : Spells w ws) (hne : w ≠ [])
      (hf : Spells f fs) : IsMantissa (w ++ '.' :: f) ws fs
  | fraction {f : List Char} {fs : List Nat} (hf : Spells f fs) (hne : f ≠ []) :
      IsMantissa ('.' :: f) [] fs

/-- A written exponent, zero when it is left out. -/
inductive IsExponent : List Char → Int → Prop
  | absent : IsExponent [] 0
  | marked {mark : Char} {text : List Char} {written : SignedDigits} (hm : mark = 'e' ∨ mark = 'E')
      (h : IsInteger text written) : IsExponent (mark :: text) written.value

/-- A written numeral. -/
inductive IsNumeral : List Char → Numeral → Prop
  | mk {sign mantissa exponent : List Char} {negative : Bool} {whole fraction : List Nat} {e : Int}
      (hs : IsSign sign negative) (hm : IsMantissa mantissa whole fraction)
      (he : IsExponent exponent e) :
      IsNumeral (sign ++ (mantissa ++ exponent)) ⟨negative, whole, fraction, e⟩

/-- A text that does not prolong a numeral. -/
def Detached (text : List Char) : Prop :=
  ∀ c ∈ text.head?, digitValue? c = none ∧ c ≠ '.' ∧ c ≠ 'e' ∧ c ≠ 'E'

theorem detached_nil : Detached [] := by simp [Detached]

theorem Detached.startsWithoutDigit {text : List Char} (h : Detached text) :
    StartsWithoutDigit text := fun c hc => (h c hc).1

theorem Detached.head?_ne_point {text : List Char} (h : Detached text) : text.head? ≠ some '.' :=
  fun hc => (h _ hc).2.1 rfl

/-! ### Lines -/

/-- The text is the body, with one line feed behind it or without. -/
def IsLine (text body : List Char) : Prop := text = body ∨ text = body ++ ['\n']

/-- A line is its body and an end of a line. -/
theorem isLine_iff {text body : List Char} :
    IsLine text body ↔ ∃ rest, text = body ++ rest ∧ isLineEnd rest = true := by
  constructor
  · rintro (rfl | rfl)
    · exact ⟨[], by simp, rfl⟩
    · exact ⟨['\n'], rfl, rfl⟩
  · rintro ⟨rest, rfl, hrest⟩
    rcases isLineEnd_iff.1 hrest with rfl | rfl
    · exact .inl (List.append_nil _)
    · exact .inr rfl

/-- A line without a line feed at its end is its own body. -/
theorem IsLine.eq_of_getLast? {text body : List Char} (h : IsLine text body)
    (hlast : text.getLast? ≠ some '\n') : text = body := by
  rcases h with rfl | rfl
  · rfl
  · exact absurd List.getLast?_concat hlast

/-- A line with a character that stands at one place only is split there. -/
theorem isLine_append_cons {c : Char} (hc : c ≠ '\n') {a b a' b' : List Char} (ha : c ∉ a')
    (hb : c ∉ b') : IsLine (a ++ c :: b) (a' ++ c :: b') ↔ a = a' ∧ IsLine b b' := by
  have hsplit {z : List Char} (hz : c ∉ z) : a ++ c :: b = a' ++ c :: z ↔ a = a' ∧ b = z := by
    rw [eq_comm, List.append_cons_inj_of_notMem ha hz, eq_comm, eq_comm (a := z)]
    simp only [true_and]
  have hend : c ∉ b' ++ ['\n'] := by simp [hb, hc]
  rw [IsLine, IsLine, List.append_assoc, List.cons_append, hsplit hb, hsplit hend, and_or_left]

/-- **A reader that takes just what a grammar has reads the lines of the grammar,** when it leaves
the end of a line alone. -/
theorem exists_read_iff {α : Type} {read : List Char → Option (α × List Char)}
    {IsText : List Char → α → Prop}
    (happend : ∀ {body rest value}, IsText body value → isLineEnd rest = true →
      read (body ++ rest) = some (value, rest))
    (hof : ∀ {text rest value}, read text = some (value, rest) →
      ∃ body, text = body ++ rest ∧ IsText body value) {text : List Char} {p : α → Prop} :
    (∃ value rest, read text = some (value, rest) ∧ isLineEnd rest = true ∧ p value) ↔
      ∃ body value, IsLine text body ∧ IsText body value ∧ p value := by
  constructor
  · rintro ⟨value, rest, hread, hrest, hvalue⟩
    obtain ⟨body, htext, hbody⟩ := hof hread
    exact ⟨body, value, isLine_iff.2 ⟨rest, htext, hrest⟩, hbody, hvalue⟩
  · rintro ⟨body, value, hline, hbody, hvalue⟩
    obtain ⟨rest, rfl, hrest⟩ := isLine_iff.1 hline
    exact ⟨value, rest, happend hbody hrest, hrest, hvalue⟩

/-! ### Signs -/

/-- Where no sign stands, none is read. -/
theorem readSign_of_ne {text : List Char} (h : ∀ c ∈ text.head?, c ≠ '+' ∧ c ≠ '-') :
    readSign text = (false, text) := by
  cases text with
  | nil => rfl
  | cons c rest =>
    obtain ⟨hplus, hminus⟩ := h c rfl
    unfold readSign
    split <;> simp_all

/-- A sign is read, if no other follows it. -/
theorem IsSign.readSign_append {sign rest : List Char} {negative : Bool} (hs : IsSign sign negative)
    (hrest : ∀ c ∈ rest.head?, c ≠ '+' ∧ c ≠ '-') : readSign (sign ++ rest) = (negative, rest) := by
  cases hs with
  | absent => exact readSign_of_ne hrest
  | plus => rfl
  | minus => rfl

/-- What is read as a sign is one. -/
theorem isSign_of_readSign {text rest : List Char} {negative : Bool}
    (h : readSign text = (negative, rest)) :
    ∃ sign, text = sign ++ rest ∧ IsSign sign negative := by
  unfold readSign at h
  split at h <;> obtain ⟨rfl, rfl⟩ := Prod.mk.inj h
  · exact ⟨['+'], rfl, .plus⟩
  · exact ⟨['-'], rfl, .minus⟩
  · exact ⟨[], rfl, .absent⟩

theorem digitValue?_plus : digitValue? '+' = none := by decide

theorem digitValue?_minus : digitValue? '-' = none := by decide

theorem digitValue?_point : digitValue? '.' = none := by decide

/-- Digits do not start with a sign. -/
theorem Spells.head_ne_sign {text : List Char} {digits : List Nat} (h : Spells text digits)
    (hne : text ≠ []) (rest : List Char) : ∀ c ∈ (text ++ rest).head?, c ≠ '+' ∧ c ≠ '-' := by
  intro c hc
  rw [List.head?_append_of_ne_nil _ hne] at hc
  have hdigit := h.digitValue?_ne_none (List.mem_of_mem_head? hc)
  constructor
  · rintro rfl
    exact hdigit digitValue?_plus
  · rintro rfl
    exact hdigit digitValue?_minus

/-! ### Integers -/

/-- **A written integer is read,** when no digit follows. -/
theorem IsInteger.readInteger_append {text rest : List Char} {written : SignedDigits}
    (h : IsInteger text written) (hrest : StartsWithoutDigit rest) :
    readInteger (text ++ rest) = some (written, rest) := by
  obtain ⟨hs, ht, hne⟩ := h
  rw [List.append_assoc, readInteger, hs.readSign_append (ht.head_ne_sign hne rest)]
  simp only [ht.spanDigits_append hrest]
  cases hd : ‹List Nat› with
  | nil => exact absurd hd (ht.ne_nil hne)
  | cons d ds => rfl

/-- What is read as an integer is a written integer. -/
theorem isInteger_of_readInteger {text rest : List Char} {written : SignedDigits}
    (h : readInteger text = some (written, rest)) :
    ∃ t, text = t ++ rest ∧ IsInteger t written ∧ StartsWithoutDigit rest := by
  rcases hread : readSign text with ⟨negative, unsigned⟩
  obtain ⟨sign, hsign, hs⟩ := isSign_of_readSign hread
  rcases hspan : spanDigits unsigned with ⟨digits, tail⟩
  obtain ⟨t, ht, hspells, htail⟩ := spells_of_spanDigits hspan
  simp only [readInteger, hread, hspan] at h
  cases digits with
  | nil => simp at h
  | cons d ds =>
    obtain ⟨rfl, rfl⟩ := Prod.mk.inj (Option.some.inj h)
    have hne : t ≠ [] := by
      rintro rfl
      simpa using hspells.length_eq
    exact ⟨sign ++ t, by rw [List.append_assoc, ← ht, hsign], .mk hs hspells hne, htail⟩

/-! ### Mantissas -/

namespace Numeral

/-- Digits without a point are a mantissa without a fraction. -/
theorem readMantissa_of_whole {text rest : List Char} {whole : List Nat}
    (h : spanDigits text = (whole, rest)) (hne : whole ≠ []) (hpoint : rest.head? ≠ some '.') :
    readMantissa text = some ((whole, []), rest) := by
  unfold readMantissa
  rw [h]
  split <;> simp_all

/-- Digits around a point are a mantissa; there may be none behind it. -/
theorem readMantissa_of_point {text rest tail : List Char} {whole fraction : List Nat}
    (h : spanDigits text = (whole, '.' :: rest)) (hne : whole ≠ [])
    (hf : spanDigits rest = (fraction, tail)) :
    readMantissa text = some ((whole, fraction), tail) := by
  unfold readMantissa
  rw [h]
  cases whole with
  | nil => exact absurd rfl hne
  | cons d ds => simp only [hf]

/-- A point with digits behind it is a mantissa. -/
theorem readMantissa_of_fraction {rest tail : List Char} {fraction : List Nat}
    (hf : spanDigits rest = (fraction, tail)) (hne : fraction ≠ []) :
    readMantissa ('.' :: rest) = some (([], fraction), tail) := by
  have h : spanDigits ('.' :: rest) = ([], '.' :: rest) := by rw [spanDigits, digitValue?_point]
  unfold readMantissa
  rw [h]
  cases fraction with
  | nil => exact absurd rfl hne
  | cons d ds => simp only [hf]

/-- Without a digit or a point there is no mantissa. -/
theorem readMantissa_eq_none {text : List Char} (h : StartsWithoutDigit text)
    (hpoint : text.head? ≠ some '.') : readMantissa text = none := by
  have hspan : spanDigits text = ([], text) := by
    have hread := Spells.nil.spanDigits_append h
    rwa [List.nil_append] at hread
  rw [readMantissa, hspan]
  split <;> simp_all

end Numeral

/-- **A written mantissa is read,** when neither a digit nor a point follows. -/
theorem IsMantissa.readMantissa_append {text rest : List Char} {whole fraction : List Nat}
    (h : IsMantissa text whole fraction) (hrest : StartsWithoutDigit rest)
    (hpoint : rest.head? ≠ some '.') :
    Numeral.readMantissa (text ++ rest) = some ((whole, fraction), rest) := by
  cases h with
  | whole hw hne =>
    exact Numeral.readMantissa_of_whole (hw.spanDigits_append hrest) (hw.ne_nil hne) hpoint
  | both hw hne hf =>
    rw [List.append_assoc]
    exact Numeral.readMantissa_of_point
      (hw.spanDigits_append (startsWithoutDigit_cons digitValue?_point)) (hw.ne_nil hne)
      (hf.spanDigits_append hrest)
  | fraction hf hne =>
    exact Numeral.readMantissa_of_fraction (hf.spanDigits_append hrest) (hf.ne_nil hne)

/-- What is read as a mantissa is a written mantissa. -/
theorem isMantissa_of_readMantissa {text rest : List Char} {whole fraction : List Nat}
    (h : Numeral.readMantissa text = some ((whole, fraction), rest)) :
    ∃ t, text = t ++ rest ∧ IsMantissa t whole fraction := by
  rcases hspan : spanDigits text with ⟨ws, tail⟩
  obtain ⟨w, rfl, hw, hrest⟩ := spells_of_spanDigits hspan
  have hwne (hws : ws ≠ []) : w ≠ [] := by
    rintro rfl
    exact hws (List.eq_nil_of_length_eq_zero hw.length_eq.symm)
  by_cases hpoint : tail.head? = some '.'
  · obtain ⟨tail, rfl⟩ := List.head?_eq_some_iff.1 hpoint
    rcases hspan' : spanDigits tail with ⟨fs, tail'⟩
    obtain ⟨f, rfl, hf, -⟩ := spells_of_spanDigits hspan'
    by_cases hws : ws = []
    · subst hws
      obtain rfl : w = [] := List.eq_nil_of_length_eq_zero hw.length_eq
      by_cases hfs : fs = []
      · subst hfs
        unfold Numeral.readMantissa at h
        rw [hspan] at h
        simp [hspan'] at h
      · rw [List.nil_append, Numeral.readMantissa_of_fraction hspan' hfs] at h
        obtain ⟨⟨rfl, rfl⟩, rfl⟩ := by simpa using h
        have hfne : f ≠ [] := by
          rintro rfl
          exact hfs (List.eq_nil_of_length_eq_zero hf.length_eq.symm)
        exact ⟨'.' :: f, rfl, .fraction hf hfne⟩
    · rw [Numeral.readMantissa_of_point hspan hws hspan'] at h
      obtain ⟨⟨rfl, rfl⟩, rfl⟩ := by simpa using h
      exact ⟨w ++ '.' :: f, by simp, .both hw (hwne hws) hf⟩
  · by_cases hws : ws = []
    · subst hws
      obtain rfl : w = [] := List.eq_nil_of_length_eq_zero hw.length_eq
      rw [List.nil_append, Numeral.readMantissa_eq_none hrest hpoint] at h
      cases h
    · rw [Numeral.readMantissa_of_whole hspan hws hpoint] at h
      obtain ⟨⟨rfl, rfl⟩, rfl⟩ := by simpa using h
      exact ⟨w, rfl, .whole hw (hwne hws)⟩

/-! ### Numerals -/

/-- A mantissa does not start with a sign. -/
theorem IsMantissa.head_ne_sign {text : List Char} {whole fraction : List Nat}
    (h : IsMantissa text whole fraction) (rest : List Char) :
    ∀ c ∈ (text ++ rest).head?, c ≠ '+' ∧ c ≠ '-' := by
  cases h with
  | whole hw hne => exact hw.head_ne_sign hne rest
  | both hw hne _ =>
    rw [List.append_assoc]
    exact hw.head_ne_sign hne _
  | fraction _ _ => simp

/-- A written exponent starts with neither a digit nor a point, when what follows does not. -/
theorem IsExponent.head_append {text rest : List Char} {e : Int} (h : IsExponent text e)
    (hrest : StartsWithoutDigit rest) (hpoint : rest.head? ≠ some '.') :
    StartsWithoutDigit (text ++ rest) ∧ (text ++ rest).head? ≠ some '.' := by
  cases h with
  | absent => exact ⟨hrest, hpoint⟩
  | marked hm _ =>
    rcases hm with rfl | rfl
    · exact ⟨startsWithoutDigit_cons (by decide), by simp⟩
    · exact ⟨startsWithoutDigit_cons (by decide), by simp⟩

/-- A mark and an integer are read as an exponent. -/
theorem IsInteger.readExponent_cons_append {mark : Char} {text rest : List Char}
    {written : SignedDigits} (h : IsInteger text written) (hmark : mark = 'e' ∨ mark = 'E')
    (hrest : StartsWithoutDigit rest) :
    Numeral.readExponent (mark :: text ++ rest) = (written.value, rest) := by
  have hread := h.readInteger_append hrest
  rcases hmark with rfl | rfl
  · simp only [List.cons_append, Numeral.readExponent, hread]
  · simp only [List.cons_append, Numeral.readExponent, hread]

/-- **A written exponent is read.** -/
theorem IsExponent.readExponent_append {text rest : List Char} {e : Int} (h : IsExponent text e)
    (hrest : Detached rest) : Numeral.readExponent (text ++ rest) = (e, rest) := by
  cases h with
  | absent =>
    rw [List.nil_append]
    unfold Numeral.readExponent
    split
    · exact absurd rfl (hrest 'e' rfl).2.2.1
    · exact absurd rfl (hrest 'E' rfl).2.2.2
    · rfl
  | marked hm h => exact h.readExponent_cons_append hm hrest.startsWithoutDigit

/-- What is read as an exponent is a written exponent. -/
theorem isExponent_of_readExponent {text rest : List Char} {e : Int}
    (h : Numeral.readExponent text = (e, rest)) :
    ∃ t, text = t ++ rest ∧ IsExponent t e := by
  have hnone : (0, text) = (e, rest) → ∃ t, text = t ++ rest ∧ IsExponent t e := by
    intro heq
    obtain ⟨rfl, rfl⟩ := Prod.mk.inj heq
    exact ⟨[], rfl, .absent⟩
  have hsome {mark : Char} (hm : mark = 'e' ∨ mark = 'E') {tail : List Char} {w : SignedDigits}
      {left : List Char} (hw : readInteger tail = some (w, left))
      (heq : (w.value, left) = (e, rest)) : ∃ t, mark :: tail = t ++ rest ∧ IsExponent t e := by
    obtain ⟨rfl, rfl⟩ := Prod.mk.inj heq
    obtain ⟨t, rfl, ht, -⟩ := isInteger_of_readInteger hw
    exact ⟨mark :: t, rfl, .marked hm ht⟩
  unfold Numeral.readExponent at h
  split at h
  · split at h
    · exact hsome (.inl rfl) ‹_› h
    · exact hnone h
  · split at h
    · exact hsome (.inr rfl) ‹_› h
    · exact hnone h
  · exact hnone h

/-- **A written numeral is read,** when nothing follows that prolongs it. -/
theorem IsNumeral.read_append {text rest : List Char} {n : Numeral} (h : IsNumeral text n)
    (hrest : Detached rest) : Numeral.read (text ++ rest) = some (n, rest) := by
  obtain ⟨hs, hm, he⟩ := h
  obtain ⟨hdigit, hpoint⟩ := he.head_append hrest.startsWithoutDigit hrest.head?_ne_point
  rw [List.append_assoc, List.append_assoc, Numeral.read, hs.readSign_append (hm.head_ne_sign _)]
  simp only [hm.readMantissa_append hdigit hpoint, he.readExponent_append hrest]

/-- What is read as a numeral is a written numeral. -/
theorem isNumeral_of_read {text rest : List Char} {n : Numeral}
    (h : Numeral.read text = some (n, rest)) : ∃ t, text = t ++ rest ∧ IsNumeral t n := by
  rcases hsign : readSign text with ⟨negative, unsigned⟩
  obtain ⟨sign, rfl, hs⟩ := isSign_of_readSign hsign
  simp only [Numeral.read, hsign] at h
  rcases hmantissa : Numeral.readMantissa unsigned with - | ⟨⟨whole, fraction⟩, tail⟩
  · simp [hmantissa] at h
  · obtain ⟨m, rfl, hm⟩ := isMantissa_of_readMantissa hmantissa
    rcases hexponent : Numeral.readExponent tail with ⟨e, left⟩
    obtain ⟨x, rfl, hx⟩ := isExponent_of_readExponent hexponent
    simp only [hmantissa, hexponent, Option.some.injEq, Prod.mk.injEq] at h
    obtain ⟨rfl, rfl⟩ := h
    exact ⟨sign ++ (m ++ x), by simp, .mk hs hm hx⟩

/-- **A text is a numeral exactly when the grammar has it.** -/
theorem Numeral.ofText?_eq_some_iff {text : List Char} {n : Numeral} :
    Numeral.ofText? text = some n ↔ IsNumeral text n := by
  constructor
  · intro h
    unfold Numeral.ofText? at h
    split at h
    · rename_i m hread
      obtain rfl := Option.some.inj h
      obtain ⟨t, rfl, ht⟩ := isNumeral_of_read hread
      rwa [List.append_nil]
    · simp at h
  · intro h
    have hread := h.read_append detached_nil
    rw [List.append_nil] at hread
    rw [Numeral.ofText?, hread]

end Text
end TypedInputs
