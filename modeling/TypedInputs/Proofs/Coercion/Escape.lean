/-
# What escapes from coercion

Coercion is meant to answer for every argument, and it does for all but two kinds. The integer is
lost in the report of its failure, which has to write it.

| argument | of a type | escapes as |
| --- | --- | --- |
| an integer with more than 4300 digits | with a number rule | an integer too long to be written |
| a text whose reading its zone does not cover | date with zone | a date beyond the calendar |

`escape?` tells from the argument alone whether it escapes, and nothing else ever does
(`fateOf_eq_error`). One such argument ends the coercion of all (`harvest_eq_error`).
-/

import TypedInputs.Proofs.Coercion.Outcome

namespace TypedInputs
namespace Literal

open Number

/-! ### Errors that are no faults of a literal -/

/-- A number rule gives a value or finds a fault. -/
theorem narrow_of_hasNumberRule {declared : DeclaredType} (h : declared.tag.hasNumberRule = true)
    (x : Double) :
    (∃ v, narrow declared x = .ok v) ∨ ∃ e, narrow declared x = .error (.invalid e) := by
  unfold narrow
  generalize declared.tag = tag at h
  cases tag with
  | byte | short | int | long | float | double => exact .inl ⟨_, rfl⟩
  | decimalText =>
    cases Decimal.parse x.text with
    | ok d => exact .inl ⟨_, rfl⟩
    | error fault => exact .inr ⟨_, rfl⟩
  | quantity =>
    cases Quantity.ofDouble x "" with
    | ok q => exact .inl ⟨_, rfl⟩
    | error fault => exact .inr ⟨_, rfl⟩
  | bool | string | date | time | dateTime | zonedDateTime | unsupported => cases h

/-- A value is built from what was read, or the fault is one of the literal. -/
theorem built_cases {α : Type} (result : Except LiteralFault α) (build : α → Value) :
    (∃ v, built result build = .ok v) ∨
      ∃ fault, built result build = .error (.inr (.literal fault)) := by
  cases result with
  | ok a => exact .inl ⟨_, rfl⟩
  | error fault => exact .inr ⟨fault, rfl⟩

variable [Zone.Directory]

/-- Every grammar but that of dates with a zone gives a value or finds a fault. -/
theorem parseTag_cases {tag : TypeTag} (h : tag.hasTextGrammar = true)
    (hzone : tag ≠ .zonedDateTime) (text : String) :
    (∃ v, parseTag tag text = .ok v) ∨
      ∃ fault, parseTag tag text = .error (.inr (.literal fault)) := by
  cases tag with
  | bool | byte | short | int | long | float | double | decimalText | date | time | dateTime
  | quantity => exact built_cases _ _
  | zonedDateTime => exact absurd rfl hzone
  | string | unsupported => cases h

theorem parseTag_zoned (text : String) :
    parseTag .zonedDateTime text = match parseZoned text.toList with
      | .ok t => .ok (.zoned t)
      | .error fault => .error (.inr fault) := rfl

/-- **A grammar gives a value or finds a fault,** except that a date with a zone may be beyond the
calendar. -/
theorem parse_cases {declared : DeclaredType} (h : declared.tag.hasTextGrammar = true)
    (text : String) :
    (parse declared text = .error .beyondCalendar ∧
      declared.tag = .zonedDateTime ∧ IsBeyondCalendar text) ∨
    ((¬(declared.tag = .zonedDateTime ∧ IsBeyondCalendar text)) ∧
      ((∃ v, parse declared text = .ok v) ∨ ∃ e, parse declared text = .error (.invalid e))) := by
  unfold parse
  generalize declared.tag = tag at h ⊢
  by_cases hzone : tag = .zonedDateTime
  · subst hzone
    rw [parseTag_zoned, ← parseZoned_eq_beyond]
    cases parseZoned text.toList with
    | ok t => exact .inr ⟨by simp, .inl ⟨_, rfl⟩⟩
    | error fault =>
      cases fault with
      | literal fault => exact .inr ⟨by simp, .inr ⟨_, rfl⟩⟩
      | beyondCalendar => exact .inl ⟨rfl, rfl, rfl⟩
  · refine .inr ⟨fun hboth => hzone hboth.1, ?_⟩
    rcases parseTag_cases h hzone text with ⟨v, hv⟩ | ⟨fault, hfault⟩
    · rw [hv]
      exact .inl ⟨v, rfl⟩
    · rw [hfault]
      exact .inr ⟨_, rfl⟩

end Literal

namespace Number

/-- **An integer that is too long to be written is beyond every double.** -/
theorem Double.ofInt?_eq_none {n : Int} (h : 10 ^ Text.maxIntegerDigits ≤ n.natAbs) :
    ofInt? n = none := by
  have hround : binary64.round (Ratio.ofNat n.natAbs) = none := by
    rw [BinaryFormat.round_eq, Ratio.value_ofNat]
    refine roundValue_of_two_pow_le ?_
    calc (2 : ℚ) ^ 1024 ≤ 2 ^ (3 * Text.maxIntegerDigits) :=
          pow_le_pow_right₀ (by norm_num) (by decide)
      _ ≤ 10 ^ Text.maxIntegerDigits := two_pow_le_ten_pow _
      _ ≤ n.natAbs := by exact_mod_cast h
  rw [ofInt?, hround]
  rfl

end Number

namespace Coercion

open Number Literal

/-- Reading a literal never escapes when it gives a value or finds a fault. -/
theorem exists_conversionOf {result : Except LiteralError Value}
    (h : (∃ v, result = .ok v) ∨ ∃ e, result = .error (.invalid e)) :
    ∃ conversion, conversionOf result = .ok conversion := by
  rcases h with ⟨v, rfl⟩ | ⟨e, rfl⟩
  · exact ⟨_, rfl⟩
  · exact ⟨_, rfl⟩

/-- An argument with a shown form has a fate whatever its conversion is. -/
theorem exists_fate_of_shown {raw : Value} {shown : String} (h : raw.shown = .ok shown)
    (conversion : Conversion) : ∃ fate, conversion.fate raw = .ok fate := by
  cases conversion with
  | typed v => exact ⟨_, rfl⟩
  | passed => exact ⟨_, rfl⟩
  | invalid fault => exact ⟨.failed fault, by rw [Conversion.fate, h]⟩

/-- An integer is shown in digits, if the limit allows that many. -/
theorem shown_int (n : Int) :
    (Value.int n).shown = (Text.integerText? n).elim (.error .integerTooLong) .ok := by
  rw [Value.shown]

section

variable [Zone.Directory]

/-- What an argument escapes as. -/
def escape? (declared : DeclaredType) : Value → Option Escape
  | .int n =>
    if declared.tag.hasNumberRule = true ∧ 10 ^ Text.maxIntegerDigits ≤ n.natAbs then
      some (.kind .integerTooLong)
    else none
  | .text s =>
    if declared.tag = .zonedDateTime ∧ IsBeyondCalendar s then some .beyondCalendar else none
  | _ => none

omit [Zone.Directory] in
/-- A type with a number rule converts every number, be it to a fault. -/
theorem exists_convertNumber {declared : DeclaredType} (h : declared.tag.hasNumberRule = true)
    (raw : Value) : ∃ conversion, convertNumber declared raw = .ok conversion := by
  unfold convertNumber
  split
  · exact exists_conversionOf (narrow_of_hasNumberRule h _)
  · exact ⟨_, rfl⟩

/-- A number passes where no number rule is. -/
theorem fateOf_number_passed {declared : DeclaredType} {raw : Value} (hraw : raw.isNumber = true)
    (hrule : declared.tag.hasNumberRule = false) : fateOf declared raw = .ok .passed := by
  cases raw with
  | int n =>
    simp only [fateOf, convert, hrule, Bool.and_false]
    rfl
  | float x =>
    simp only [fateOf, convert, hrule, Bool.and_false]
    rfl
  | _ => cases hraw

/-- An integer for a type with a number rule has a fate, unless it has too many digits to be
shown. -/
theorem fateOf_int {declared : DeclaredType} (n : Int)
    (hrule : declared.tag.hasNumberRule = true) :
    (10 ^ Text.maxIntegerDigits ≤ n.natAbs ∧
      fateOf declared (.int n) = .error (.kind .integerTooLong)) ∨
    (n.natAbs < 10 ^ Text.maxIntegerDigits ∧ ∃ fate, fateOf declared (.int n) = .ok fate) := by
  rw [fateOf_number rfl hrule]
  rcases Nat.lt_or_ge n.natAbs (10 ^ Text.maxIntegerDigits) with hshort | hlong
  · refine .inr ⟨hshort, ?_⟩
    obtain ⟨conversion, hconversion⟩ := exists_convertNumber hrule (.int n)
    rw [hconversion]
    have hshown : (Value.int n).shown = .ok (toString n) := by
      rw [shown_int, integerText?_of_lt hshort]
      rfl
    exact exists_fate_of_shown hshown conversion
  · refine .inl ⟨hlong, ?_⟩
    have hconvert : convertNumber declared (.int n) = .ok (.invalid .beyondDouble) := by
      simp only [convertNumber, Value.toDouble, Double.ofInt?_eq_none hlong]
    have hshown : (Value.int n).shown = .error .integerTooLong := by
      rw [shown_int, integerText?_of_le hlong]
      rfl
    simp only [hconvert, bind, Except.bind, Conversion.fate, hshown]

/-- A double always has a fate. -/
theorem exists_fateOf_float (declared : DeclaredType) (x : Double) :
    ∃ fate, fateOf declared (.float x) = .ok fate := by
  cases hrule : declared.tag.hasNumberRule with
  | false => exact ⟨_, fateOf_number_passed rfl hrule⟩
  | true =>
    obtain ⟨conversion, hconversion⟩ := exists_convertNumber hrule (.float x)
    have hshown : (Value.float x).shown = .ok x.text := by rw [Value.shown]
    rw [fateOf_number rfl hrule, hconversion]
    exact exists_fate_of_shown hshown conversion

/-- A text passes where no grammar is. -/
theorem fateOf_text_passed {declared : DeclaredType} (h : declared.tag.hasTextGrammar = false)
    (s : String) : fateOf declared (.text s) = .ok .passed := by
  simp only [fateOf, convert, Value.isNumber, h]
  rfl

/-- A text has a fate, unless it is a date with a zone that leads out of the calendar. -/
theorem fateOf_text_cases (declared : DeclaredType) (s : String) :
    ((declared.tag = .zonedDateTime ∧ IsBeyondCalendar s) ∧
      fateOf declared (.text s) = .error .beyondCalendar) ∨
    (¬(declared.tag = .zonedDateTime ∧ IsBeyondCalendar s) ∧
      ∃ fate, fateOf declared (.text s) = .ok fate) := by
  cases hgrammar : declared.tag.hasTextGrammar with
  | false =>
    have hzone : declared.tag ≠ .zonedDateTime := by
      intro heq
      rw [heq] at hgrammar
      cases hgrammar
    exact .inr ⟨fun h => hzone h.1, _, fateOf_text_passed hgrammar s⟩
  | true =>
    rw [fateOf_text hgrammar]
    rcases parse_cases hgrammar s with ⟨hparse, hbeyond⟩ | ⟨hbeyond, hparse⟩
    · rw [hparse]
      exact .inl ⟨hbeyond, rfl⟩
    · obtain ⟨conversion, hconversion⟩ := exists_conversionOf hparse
      have hshown : (Value.text s).shown = .ok (Text.quoted s) := by rw [Value.shown]
      rw [hconversion]
      exact .inr ⟨hbeyond, exists_fate_of_shown hshown conversion⟩

/-- **An argument escapes as `escape?` tells, or it has a fate.** -/
theorem fateOf_cases (declared : DeclaredType) (raw : Value) :
    (∃ e, escape? declared raw = some e ∧ fateOf declared raw = .error e) ∨
      (escape? declared raw = none ∧ ∃ fate, fateOf declared raw = .ok fate) := by
  cases raw with
  | int n =>
    cases hrule : declared.tag.hasNumberRule with
    | false => exact .inr ⟨by simp [escape?, hrule], _, fateOf_number_passed rfl hrule⟩
    | true =>
      rcases fateOf_int n hrule with ⟨hlong, hfate⟩ | ⟨hshort, hfate⟩
      · exact .inl ⟨_, if_pos ⟨hrule, hlong⟩, hfate⟩
      · exact .inr ⟨if_neg fun h => Nat.not_le_of_lt hshort h.2, hfate⟩
  | float x => exact .inr ⟨rfl, exists_fateOf_float declared x⟩
  | text s =>
    rcases fateOf_text_cases declared s with ⟨hbeyond, hfate⟩ | ⟨hwithin, hfate⟩
    · exact .inl ⟨_, if_pos hbeyond, hfate⟩
    · exact .inr ⟨if_neg hwithin, hfate⟩
  | null => exact .inr ⟨rfl, _, rfl⟩
  | bool | list | object | decimal | quantity | date | time | dateTime | zoned =>
    exact .inr ⟨rfl, .passed, rfl⟩

/-- **What escapes is known in advance.** -/
theorem fateOf_eq_error {declared : DeclaredType} {raw : Value} {e : Escape} :
    fateOf declared raw = .error e ↔ escape? declared raw = some e := by
  rcases fateOf_cases declared raw with ⟨e', hescape, hfate⟩ | ⟨hescape, fate, hfate⟩
  · rw [hescape, hfate, Except.error.injEq, Option.some.injEq]
  · rw [hescape, hfate]
    simp

/-- **The first argument that escapes ends the harvest.** -/
theorem harvest_eq_error {fields : List (String × Value)} {inputs : List Input} {h : Harvest}
    {e : Escape} :
    inputs.foldlM (harvestFate fields) h = .error e ↔
      inputs.findSome? (fun input => escape? input.declaredType (argumentOf fields input)) =
        some e := by
  induction inputs generalizing h with
  | nil => simp [pure, Except.pure]
  | cons input rest ih =>
    rw [List.foldlM_cons, List.findSome?_cons, harvestFate]
    rcases fateOf_cases input.declaredType (argumentOf fields input) with
      ⟨e', hescape, hfate⟩ | ⟨hescape, fate, hfate⟩
    · rw [hescape, hfate]
      exact Except.error.injEq e' e ▸ Option.some.injEq e' e ▸ Iff.rfl
    · rw [hescape, hfate]
      exact ih

/-- **What escapes from coercion.** One argument escapes exactly as `escape?` tells from its
declared type and its value, whatever the uid and the diagnostics are. All arguments of an object
escape exactly when one of them does, and then as the first of these; otherwise both give a
result. -/
theorem coercion_eq_error_iff :
    (∀ (input : Input) (raw : Value) (uid : String) (d : Diagnostics) (e : Escape),
      ((coerceOne input raw uid).run d).1 = .error e ↔
        escape? input.declaredType raw = some e) ∧
    ∀ (uid : String) (inputs : List Input) (fields : List (String × Value)) (d : Diagnostics)
      (e : Escape),
      ((coerceAll uid inputs (.object fields)).run d).1 = .error e ↔
        inputs.findSome? (fun input => escape? input.declaredType (argumentOf fields input)) =
          some e := by
  constructor
  · intro input raw uid d e
    have hresult := result_coerceOne input raw uid d
    rw [Reporting.result] at hresult
    rw [hresult, ← fateOf_eq_error]
    cases fateOf input.declaredType raw <;> simp [Except.map]
  · intro uid inputs fields d e
    have hresult := result_coerceAll uid inputs fields d
    rw [Reporting.result] at hresult
    rw [hresult, ← harvest_eq_error]
    cases inputs.foldlM (harvestFate fields) ⟨[], []⟩ <;> simp [Except.map]

end

/-- An input for a date with a zone. -/
def startInput : Input :=
  ⟨"start", "ZonedDateTime", none, none, true, "", TextSet.empty, none, by decide⟩

/-- An input for an integer. -/
def countInput : Input := ⟨"count", "int", none, none, true, "", TextSet.empty, none, by decide⟩

/-- The first moment of the calendar on a clock that is ahead of UTC. -/
def beforeTheCalendar : String := "0001-01-01T00:00:00+00:00[Europe/Paris]"

/-- Coercion has no result for a date before the calendar, and the other arguments are lost with
it. -/
theorem coerceAll_beforeTheCalendar :
    ((coerceOne startInput (.text beforeTheCalendar) "light").run (.ofLevel .info)).1 =
        .error .beyondCalendar ∧
      ((coerceAll "light" [startInput, countInput]
        (.object [("start", .text beforeTheCalendar), ("count", .int 1)])).run (.ofLevel .info)).1 =
        .error .beyondCalendar := by
  have hbeyond : IsBeyondCalendar beforeTheCalendar := by decide +kernel
  have hstart : escape? startInput.declaredType (.text beforeTheCalendar) =
      some .beyondCalendar := by
    rw [escape?, if_pos ⟨by decide, hbeyond⟩]
  have hfirst : [startInput, countInput].findSome? (fun input => escape? input.declaredType
      (argumentOf [("start", .text beforeTheCalendar), ("count", .int 1)] input)) =
        some .beyondCalendar := by
    have hargument : argumentOf [("start", .text beforeTheCalendar), ("count", .int 1)] startInput =
        .text beforeTheCalendar := rfl
    rw [List.findSome?_cons, hargument, hstart]
  constructor
  · refine (result_coerceOne _ _ _ _).trans ?_
    rw [fateOf_eq_error.2 hstart]
    rfl
  · refine (result_coerceAll _ _ _ _).trans ?_
    rw [harvest_eq_error.2 hfirst]
    rfl

end Coercion
end TypedInputs
