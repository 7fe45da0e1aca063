/-
# The grammar of floating point literals

A text is a floating point literal when, trimmed, it is a sign and one of the words `NaN` and
`Infinity`, or a numeral with a suffix behind it or without (`parseDouble_eq_ok_iff`). The suffix is
no part of the numeral: what a numeral could be prolonged by is a digit, a point or the mark of an
exponent. A literal always has a value, since every numeral has a nearest double, and the one fault
of other texts is `notFloating`.

The value does not depend on how the literal is dressed (`Adorns`): blanks around it, a plus where
no sign stands, a suffix behind a numeral.

| text | as `double` | as `float` |
| --- | --- | --- |
| `NaN`, `+NaN`, `-NaN` | NaN | NaN |
| `Infinity`, `+Infinity`, `-Infinity` | the infinity of the sign | the infinity of the sign |
| a numeral, `1.5e-3`, `1.`, `.5f` | the nearest double | that double in single precision |
-/

import Mathlib.Logic.Relation
import TypedInputs.Proofs.Literal.Domain
import TypedInputs.Proofs.Number.Shortest
import TypedInputs.Zone.Lookup

namespace TypedInputs
namespace Literal

open Number Text

/-- A suffix of a numeral, maybe left out. -/
inductive IsSuffix : List Char → Prop
  | absent : IsSuffix []
  | letter {c : Char} (hc : c = 'f' ∨ c = 'F' ∨ c = 'd' ∨ c = 'D') : IsSuffix [c]

/-- The suffixes that the reader allows are those of the grammar. -/
theorem isSuffix_iff {text : List Char} : IsSuffix text ↔ isFloatingSuffix text = true := by
  constructor
  · rintro (_ | rfl | rfl | rfl | rfl) <;> rfl
  · intro h
    unfold isFloatingSuffix at h
    split at h
    · exact .absent
    all_goals first | exact .letter (by simp) | cases h

theorem IsSuffix.detached {text : List Char} (h : IsSuffix text) : Detached text := by
  rcases h with _ | rfl | rfl | rfl | rfl <;> simp [Detached] <;> decide

/-- A suffix has no blanks. -/
theorem IsSuffix.isBlank_eq_false {text : List Char} (h : IsSuffix text) :
    ∀ c ∈ text, isBlank c = false := by
  rcases h with _ | rfl | rfl | rfl | rfl <;> simp <;> decide

/-- A written floating point number without blanks around it. -/
inductive IsFloating : List Char → Double → Prop
  | nan {sign : List Char} {negative : Bool} (hs : IsSign sign negative) :
      IsFloating (sign ++ ['N', 'a', 'N']) .nan
  | infinity {sign : List Char} {negative : Bool} (hs : IsSign sign negative) :
      IsFloating (sign ++ ['I', 'n', 'f', 'i', 'n', 'i', 't', 'y']) (.infinite negative)
  | numeral {text suffix : List Char} {n : Numeral} (hn : IsNumeral text n)
      (hsuffix : IsSuffix suffix) : IsFloating (text ++ suffix) (Double.ofNumeral n)

/-! ### Reading -/

/-- A word that starts like no mantissa is not what stands behind the sign of a numeral. -/
theorem unsigned_ne_of_read {text unsigned word : List Char} {negative : Bool}
    {read : Numeral × List Char} (hread : Numeral.read text = some read)
    (hsign : readSign text = (negative, unsigned)) (hword : Numeral.readMantissa word = none) :
    unsigned ≠ word := by
  rintro rfl
  rw [Numeral.read, hsign] at hread
  simp only [hword] at hread
  cases hread

/-- A double is the number at the start of the trimmed text, if only a suffix follows it. -/
theorem parseDouble_of_read {text rest : List Char} {n : Numeral}
    (hread : Numeral.read (trim text) = some (n, rest)) :
    parseDouble text =
      if isFloatingSuffix rest then .ok (Double.ofNumeral n) else .error .notFloating := by
  unfold parseDouble
  simp only
  generalize trim text = body at *
  cases hsign : readSign body with
  | mk negative unsigned =>
    simp only
    rw [if_neg (unsigned_ne_of_read hread hsign (by decide)),
      if_neg (unsigned_ne_of_read hread hsign (by decide)), hread]

/-- **Every text in the grammar is read as its value.** -/
theorem parseDouble_of_isFloating {text : List Char} {x : Double}
    (h : IsFloating (trim text) x) : parseDouble text = .ok x := by
  generalize hbody : trim text = body at h
  cases h with
  | nan hs =>
    have hsign : readSign (_ ++ ['N', 'a', 'N']) = _ := hs.readSign_append (by simp)
    rw [parseDouble, hbody]
    simp only [hsign, if_true]
  | infinity hs =>
    have hsign : readSign (_ ++ ['I', 'n', 'f', 'i', 'n', 'i', 't', 'y']) = _ :=
      hs.readSign_append (by simp)
    rw [parseDouble, hbody]
    simp only [hsign]
    rfl
  | numeral hn hsuffix =>
    have hread := hn.read_append hsuffix.detached
    rw [← hbody] at hread
    rw [parseDouble_of_read hread, if_pos (isSuffix_iff.1 hsuffix)]

/-- **The floating point literals are the texts of the grammar.** -/
theorem parseDouble_eq_ok_iff {text : List Char} {x : Double} :
    parseDouble text = .ok x ↔ IsFloating (trim text) x := by
  refine ⟨fun h => ?_, parseDouble_of_isFloating⟩
  unfold parseDouble at h
  simp only at h
  rcases hsign : readSign (trim text) with ⟨negative, unsigned⟩
  obtain ⟨sign, hbody, hs⟩ := isSign_of_readSign hsign
  simp only [hsign] at h
  split_ifs at h with hnan hinfinity
  · obtain rfl := Except.ok.inj h
    rw [hbody, hnan]
    exact .nan hs
  · obtain rfl := Except.ok.inj h
    rw [hbody, hinfinity]
    exact .infinity hs
  · split at h
    · rename_i n rest hread
      obtain ⟨numeral, hnumeral, hn⟩ := isNumeral_of_read hread
      split_ifs at h with hsuffix
      obtain rfl := Except.ok.inj h
      rw [hnumeral]
      exact .numeral hn (isSuffix_iff.2 hsuffix)
    · cases h

/-- Every other text has the same fault. -/
theorem parseDouble_eq_error_iff {text : List Char} {fault : LiteralFault} :
    parseDouble text = .error fault ↔
      (¬∃ x, IsFloating (trim text) x) ∧ fault = .notFloating := by
  have hnone : (¬∃ x, IsFloating (trim text) x) ↔ ∀ x, parseDouble text ≠ .ok x := by
    simp only [not_exists, ne_eq, parseDouble_eq_ok_iff]
  rw [hnone]
  unfold parseDouble
  simp only
  split_ifs
  · simp
  · simp
  · split
    · split_ifs <;> simp [eq_comm]
    · simp [eq_comm]

/-- **A numeral is a floating point literal,** with blanks around it or without. -/
theorem parseDouble_of_isNumeral {text : List Char} {n : Numeral} (hn : IsNumeral (trim text) n) :
    parseDouble text = .ok (Double.ofNumeral n) := by
  have hfloating := IsFloating.numeral hn .absent
  rw [List.append_nil] at hfloating
  exact parseDouble_of_isFloating hfloating

/-- **A double is read back from its canonical text.** -/
theorem parseDouble_formatDouble (x : Double) : parseDouble (formatDouble x).toList = .ok x := by
  cases x with
  | nan => rfl
  | infinite negative => cases negative <;> rfl
  | finite negative x =>
    obtain ⟨n, hn, hvalue, -⟩ := Double.exists_isNumeral_toChars negative x
    have hchars : (formatDouble (.finite negative x)).toList =
      Double.toChars (.finite negative x) := String.toList_ofList
    rw [← hn.trim_eq] at hn
    rw [hchars, parseDouble_of_isNumeral hn, hvalue]

/-! ### Dress -/

/-- A text, and the same text with blanks around it, with a plus in place of no sign, or, when it is
a numeral, with a suffix. -/
inductive Adorns : List Char → List Char → Prop
  | blanks {before text after : List Char} (hbefore : ∀ c ∈ before, isBlank c = true)
      (hafter : ∀ c ∈ after, isBlank c = true) : Adorns text (before ++ text ++ after)
  | plus {text : List Char} (hsign : ∀ c ∈ text.head?, c ≠ '+' ∧ c ≠ '-')
      (hblank : ∀ c ∈ text.head?, isBlank c = false) : Adorns text ('+' :: text)
  | suffix {text suffix : List Char} {n : Numeral} (hn : IsNumeral text n)
      (hsuffix : IsSuffix suffix) : Adorns text (text ++ suffix)

/-- A reader of doubles sees the sign, and what stands behind it, of the trimmed text. -/
theorem parseDouble_congr {text other : List Char}
    (h : readSign (trim text) = readSign (trim other)) : parseDouble text = parseDouble other := by
  unfold parseDouble Numeral.read
  simp only [h]

/-- **The dress of a text does not change its value,** whether it has one or not. -/
theorem Adorns.parseDouble_eq {text other : List Char} (h : Adorns text other) :
    parseDouble text = parseDouble other := by
  cases h with
  | blanks hbefore hafter =>
    refine parseDouble_congr ?_
    rw [trim_surround hbefore hafter]
  | plus hsign hblank =>
    refine parseDouble_congr ?_
    have hplus : isBlank '+' = false := by decide
    rw [trim_eq_trimEnd hblank, trim_eq_trimEnd (by simp [hplus]), trimEnd_cons hplus]
    exact readSign_of_ne (by rwa [head?_trimEnd hblank])
  | suffix hn hsuffix =>
    have htrim := trim_eq_self_of_forall fun c hc => (List.mem_append.1 hc).elim
      (fun hc => (hn.isNumeric c hc).isBlank_eq_false) (hsuffix.isBlank_eq_false c)
    have hwith := IsFloating.numeral hn hsuffix
    rw [← htrim] at hwith
    rw [← hn.trim_eq] at hn
    rw [parseDouble_of_isNumeral hn, parseDouble_of_isFloating hwith]

/-- **Changing the dress of a text any number of times leaves its value.** -/
theorem parseDouble_eq_of_eqvGen {text other : List Char}
    (h : Relation.EqvGen Adorns text other) : parseDouble text = parseDouble other := by
  induction h with
  | rel _ _ h => exact h.parseDouble_eq
  | refl => rfl
  | symm _ _ _ ih => exact ih.symm
  | trans _ _ _ _ _ ih ih' => exact ih.trans ih'

/-! ### The types -/

/-- The types of floating point numbers. -/
def IsFloatingTag (tag : TypeTag) : Prop := tag = .float ∨ tag = .double

/-- A double in the precision of a floating point type. -/
def inPrecision (tag : TypeTag) (x : Double) : Double := if tag = .float then x.toSingle else x

section

variable [Zone.Directory]

/-- Both floating types read a double and then keep to their precision. -/
theorem parse_of_isFloatingTag {declared : DeclaredType} (htag : IsFloatingTag declared.tag)
    (text : String) : parse declared text = match parseDouble text.toList with
      | .ok x => .ok (.float (inPrecision declared.tag x))
      | .error fault => .error (.invalid ⟨.text text, declared.identifier, fault⟩) := by
  obtain ⟨identifier, tag, primitive⟩ := declared
  rcases htag with rfl | rfl
  · unfold parse
    rw [parseTag_float, parseSingle]
    cases parseDouble text.toList <;> rfl
  · unfold parse
    rw [parseTag_double]
    cases parseDouble text.toList <;> rfl

/-- **Floating point texts are accepted exactly by their grammar.** A text is a literal of a
floating point type if and only if, trimmed, it is written in the grammar, and then its value is the
double that is written, in the precision of the type. Every other text is reported as no floating
point literal. Blanks around a text, a plus in place of no sign and the suffix of a numeral can be
added and removed, in any order, and the text has the same value or none as before. -/
theorem parse_floating {declared : DeclaredType} (htag : IsFloatingTag declared.tag)
    (text : String) :
    (∀ v, parse declared text = .ok v ↔
      ∃ x, IsFloating (trim text.toList) x ∧ v = .float (inPrecision declared.tag x)) ∧
    (∀ e, parse declared text = .error e ↔ (¬∃ x, IsFloating (trim text.toList) x) ∧
      e = .invalid ⟨.text text, declared.identifier, .notFloating⟩) ∧
    ∀ other : String, Relation.EqvGen Adorns text.toList other.toList →
      ∀ v, parse declared text = .ok v ↔ parse declared other = .ok v := by
  simp only [parse_of_isFloatingTag htag]
  refine ⟨fun v => ?_, fun e => ?_, fun other hdress v => ?_⟩
  · simp only [← parseDouble_eq_ok_iff]
    cases parseDouble text.toList <;> simp [eq_comm]
  · cases hread : parseDouble text.toList with
    | ok x =>
      have hsome : ∃ x, IsFloating (trim text.toList) x := ⟨x, parseDouble_eq_ok_iff.1 hread⟩
      simp [hsome]
    | error fault =>
      obtain ⟨hnone, rfl⟩ := parseDouble_eq_error_iff.1 hread
      simp [hnone, eq_comm]
  · rw [parseDouble_eq_of_eqvGen hdress]
    cases parseDouble other.toList <;> simp

end

/-- Blanks, a plus, a digit of another script, an exponent and a suffix. -/
theorem parse_floating_dressed :
    IsFloatingTag (DeclaredType.ofIdentifier "double").tag ∧
      IsFloating "+٣.5E2D".toList (Double.ofNumeral ⟨false, [3], [5], 2⟩) ∧
      parse (.ofIdentifier "double") " +٣.5E2D\n" =
        .ok (.float (Double.ofNumeral ⟨false, [3], [5], 2⟩)) ∧
      parse (.ofIdentifier "double") "٣.5E2" =
        .ok (.float (Double.ofNumeral ⟨false, [3], [5], 2⟩)) := by
  have htag : IsFloatingTag (DeclaredType.ofIdentifier "double").tag := .inr rfl
  have hnumeral : IsNumeral "٣.5E2".toList ⟨false, [3], [5], 2⟩ :=
    Numeral.ofText?_eq_some_iff.1 (by decide)
  have hsigned : IsNumeral "+٣.5E2".toList ⟨false, [3], [5], 2⟩ :=
    Numeral.ofText?_eq_some_iff.1 (by decide)
  have hsuffix : IsSuffix ['D'] := .letter (by simp)
  obtain ⟨hliteral, -, hdress⟩ := parse_floating htag " +٣.5E2D\n"
  have hparse := (hliteral _).2 ⟨_, .numeral hsigned hsuffix, rfl⟩
  have hsurround : Adorns "+٣.5E2D".toList " +٣.5E2D\n".toList :=
    @Adorns.blanks [' '] "+٣.5E2D".toList ['\n'] (List.forall_mem_singleton.2 (by decide))
      (List.forall_mem_singleton.2 (by decide))
  have hplus : Adorns "٣.5E2".toList "+٣.5E2".toList := by
    refine .plus ?_ ?_ <;> rintro c ⟨⟩ <;> decide
  have hbare : Relation.EqvGen Adorns " +٣.5E2D\n".toList "٣.5E2".toList :=
    .trans _ "+٣.5E2".toList _
      (.trans _ "+٣.5E2D".toList _ (.symm _ _ (.rel _ _ hsurround))
        (.symm _ _ (.rel _ _ (.suffix hsigned hsuffix))))
      (.symm _ _ (.rel _ _ hplus))
  exact ⟨htag, .numeral hsigned hsuffix, hparse, (hdress "٣.5E2" hbare _).1 hparse⟩

end Literal
end TypedInputs
