/-
# Type soundness of coercion

What coercion gives for an argument depends on the first line that applies.

| argument | result |
| --- | --- |
| null | nothing |
| a number, for a type with a number rule | a typed value, or a failure |
| a text, for a type with a grammar | a typed value, or a failure |
| any other | the argument, passed through |

A typed value is what the rule or the grammar converts the argument to (`Converts`), and either way
it is a native value of the declared type's tag (`IsNative`) and has a canonical text. The main
statement is `coerceOne_sound`.
-/

import TypedInputs.Proofs.Coercion.Escape

namespace TypedInputs
namespace Literal

open Number Calendar

/-! ### Native values -/

/-- A unit symbol: no blanks, and neither a digit nor a sign nor a point in front. -/
def IsUnitSymbol (unit : List Char) : Prop :=
  (∀ c ∈ unit, Text.isBlank c = false) ∧
    ∃ c rest, unit = c :: rest ∧ Text.isDigit c = false ∧ c ∉ ['+', '-', '.']

/-- The native values of a tag. -/
def IsNative : TypeTag → Value → Prop
  | .bool, .bool _ => True
  | .byte, .int n => -2 ^ 7 ≤ n ∧ n < 2 ^ 7
  | .short, .int n => -2 ^ 15 ≤ n ∧ n < 2 ^ 15
  | .int, .int n => -2 ^ 31 ≤ n ∧ n < 2 ^ 31
  | .long, .int n => -2 ^ 63 ≤ n ∧ n < 2 ^ 63
  | .float, .float x => x.toSingle = x
  | .double, .float _ => True
  | .decimalText, .decimal d => d.InReach
  | .date, .date d => IsDate d.year d.month d.day
  | .time, .time t => IsTime t.hour t.minute t.second t.microsecond
  | .dateTime, .dateTime ⟨d, t⟩ =>
    IsDate d.year d.month d.day ∧ IsTime t.hour t.minute t.second t.microsecond
  | .zonedDateTime, .zoned t => t.offset.natAbs ≤ maxOffset
  | .quantity, .quantity q => q.value.InReach ∧ (q.unit = "" ∨ IsUnitSymbol q.unit.toList)
  | _, _ => False

/-- A unit that the reader of quantities finds is a symbol of a unit. -/
theorem isUnitSymbol_of_isUnit {unit : List Char} (h : Quantity.isUnit unit = true) :
    IsUnitSymbol unit := by
  cases unit with
  | nil => cases h
  | cons c rest =>
    simp only [Quantity.isUnit, Quantity.startsUnit, Bool.and_eq_true, Bool.not_eq_true',
      List.all_eq_true, bne_iff_ne] at h
    obtain ⟨⟨⟨⟨⟨hblank, hdigit⟩, hplus⟩, hminus⟩, hpoint⟩, hrest⟩ := h
    refine ⟨fun d hd => ?_, c, rest, rfl, hdigit, by simp [hplus, hminus, hpoint]⟩
    rcases List.mem_cons.1 hd with rfl | hd
    · exact hblank
    · exact hrest d hd

/-- An integer of the width of a tag. -/
theorem isNative_of_inWidth {tag : TypeTag} {bits : Nat} {n : Int}
    (hwidth : tag.width? = some bits) (h : InWidth bits n) : IsNative tag (.int n) := by
  rw [inWidth_iff] at h
  cases tag with
  | byte | short | int | long =>
    cases hwidth
    exact h
  | bool | float | double | decimalText | string | date | time | dateTime | zonedDateTime
  | quantity | unsupported => cases hwidth

/-- Every value of a tag is native, of dates with a zone those with an offset that a zone can
have. -/
theorem isNative_of_inhabits {tag : TypeTag} {v : Value} (h : Inhabits tag v)
    (hzoned : ∀ t, v = .zoned t → t.offset.natAbs ≤ maxOffset) : IsNative tag v := by
  cases h with
  | bool | double => trivial
  | integral hwidth h => exact isNative_of_inWidth hwidth h
  | float h => exact h
  | decimal h => exact h
  | date d => exact d.isDate
  | time t => exact t.isTime
  | dateTime t => exact ⟨t.date.isDate, t.time.isTime⟩
  | zoned t => exact hzoned t rfl
  | quantity h => exact ⟨h.1, h.2.imp_right isUnitSymbol_of_isUnit⟩

/-- **What a number narrows to is native.** -/
theorem isNative_of_narrow {declared : DeclaredType} {x : Double} {v : Value}
    (h : narrow declared x = .ok v) : IsNative declared.tag v := by
  refine isNative_of_inhabits (inhabits_of_narrow h) ?_
  rintro t rfl
  have hinhabits := inhabits_of_narrow h
  unfold narrow at h
  generalize declared.tag = tag at h hinhabits
  cases hinhabits
  cases h

variable [Zone.Directory]

/-- **What a text writes is native.** -/
theorem isNative_of_parse {declared : DeclaredType} {text : String} {v : Value}
    (h : parse declared text = .ok v) : IsNative declared.tag v := by
  refine isNative_of_inhabits (inhabits_of_parse h) ?_
  rintro t rfl
  have hinhabits := inhabits_of_parse h
  rw [parse_eq_ok] at h
  generalize declared.tag = tag at h hinhabits
  cases hinhabits
  rw [parseTag_zoned] at h
  split at h
  · rename_i s hs
    obtain rfl := Value.zoned.inj (Except.ok.inj h)
    exact natAbs_offset_le_of_parseZoned hs
  · cases h

end Literal

namespace Coercion

open Number Diagnostics Literal

/-! ### Which line applies -/

/-- An argument that no rule applies to. -/
def HasNoRule (tag : TypeTag) (raw : Value) : Prop :=
  raw ≠ .null ∧ ¬(raw.isNumber = true ∧ tag.hasNumberRule = true) ∧
    ¬((∃ s, raw = .text s) ∧ tag.hasTextGrammar = true)

section

variable [Zone.Directory]

/-- **What an argument converts to is native and has a canonical text.** -/
theorem Converts.sound {declared : DeclaredType} {raw v : Value} (h : Converts declared raw v) :
    IsNative declared.tag v ∧ ∃ text, format declared.tag v = .ok text := by
  cases h with
  | number _ _ _ h => exact ⟨isNative_of_narrow h, exists_format_of_inhabits (inhabits_of_narrow h)⟩
  | text _ h => exact ⟨isNative_of_parse h, exists_format_of_inhabits (inhabits_of_parse h)⟩

omit [Zone.Directory] in
/-- No text passes where texts are read. -/
theorem conversionOf_ne_passed (result : Except LiteralError Value) :
    conversionOf result ≠ .ok .passed := by
  unfold conversionOf
  split <;> simp

omit [Zone.Directory] in
/-- No number passes where numbers are converted. -/
theorem convertNumber_ne_passed (declared : DeclaredType) (raw : Value) :
    convertNumber declared raw ≠ .ok .passed := by
  unfold convertNumber
  split
  · exact conversionOf_ne_passed _
  · simp

/-- A number passes through exactly when its type has no number rule. -/
theorem fateOf_number_eq_passed {declared : DeclaredType} {raw : Value}
    (hraw : raw.isNumber = true) :
    fateOf declared raw = .ok .passed ↔ declared.tag.hasNumberRule = false := by
  constructor
  · intro hpassed
    by_contra hrule
    rw [Bool.not_eq_false] at hrule
    rw [fateOf_number hraw hrule] at hpassed
    obtain ⟨conversion, hconverted, hfate⟩ := bind_fate_eq_ok.1 hpassed
    rw [Conversion.fate_eq_passed.1 hfate] at hconverted
    exact convertNumber_ne_passed declared raw hconverted
  · exact fateOf_number_passed hraw

/-- A text passes through exactly when its type has no text grammar. -/
theorem fateOf_text_eq_passed {declared : DeclaredType} {s : String} :
    fateOf declared (.text s) = .ok .passed ↔ declared.tag.hasTextGrammar = false := by
  constructor
  · intro hpassed
    by_contra hgrammar
    rw [Bool.not_eq_false] at hgrammar
    rw [fateOf_text hgrammar] at hpassed
    obtain ⟨conversion, hconverted, hfate⟩ := bind_fate_eq_ok.1 hpassed
    rw [Conversion.fate_eq_passed.1 hfate] at hconverted
    exact conversionOf_ne_passed _ hconverted
  · exact fun hgrammar => fateOf_text_passed hgrammar s

/-- **An argument passes through exactly when no rule applies to it.** -/
theorem fateOf_eq_passed {declared : DeclaredType} {raw : Value} :
    fateOf declared raw = .ok .passed ↔ HasNoRule declared.tag raw := by
  unfold HasNoRule
  cases raw with
  | null =>
    refine ⟨fun h => ?_, fun h => absurd rfl h.1⟩
    cases h
  | int n =>
    rw [fateOf_number_eq_passed rfl]
    simp [Value.isNumber]
  | float x =>
    rw [fateOf_number_eq_passed rfl]
    simp [Value.isNumber]
  | text s =>
    rw [fateOf_text_eq_passed]
    simp [Value.isNumber]
  | bool | list | object | decimal | quantity | date | time | dateTime | zoned =>
    exact ⟨fun _ => by simp [Value.isNumber], fun _ => rfl⟩

end

/-- **Coercion is type-sound.** What it gives has the tag of the declared type. It is a typed value
exactly when the number rule or the grammar of the type converts the argument to this value, which
then is native and has a canonical text; and it is the argument itself, passed through, exactly when
the argument is not null and no rule applies to it. -/
theorem coerceOne_sound [Zone.Directory] (input : Input) (raw : Value) (uid : String)
    (d : Diagnostics) :
    (∀ tag v, ((coerceOne input raw uid).run d).1 = .ok (.typed tag v) ↔
      tag = (DeclaredType.ofIdentifier input.type).tag ∧
        Converts (.ofIdentifier input.type) raw v) ∧
    (∀ tag v, ((coerceOne input raw uid).run d).1 = .ok (.typed tag v) →
      IsNative tag v ∧ ∃ text, format tag v = .ok text) ∧
    ∀ tag v, ((coerceOne input raw uid).run d).1 = .ok (.passed tag v) ↔
      tag = (DeclaredType.ofIdentifier input.type).tag ∧ v = raw ∧ HasNoRule tag raw := by
  have htyped : ∀ tag v, ((coerceOne input raw uid).run d).1 = .ok (.typed tag v) ↔
      tag = (DeclaredType.ofIdentifier input.type).tag ∧
        Converts (.ofIdentifier input.type) raw v := by
    intro tag v
    refine coerceOne_eq_ok.trans ⟨?_, ?_⟩
    · rintro ⟨fate, hfate, hcoerced⟩
      obtain ⟨rfl, rfl⟩ := Fate.coerced_eq_typed.1 hcoerced.symm
      exact ⟨rfl, fateOf_eq_typed.1 hfate⟩
    · rintro ⟨rfl, hconverts⟩
      exact ⟨_, fateOf_eq_typed.2 hconverts, rfl⟩
  refine ⟨htyped, fun tag v h => ?_, fun tag v => coerceOne_eq_ok.trans ⟨?_, ?_⟩⟩
  · obtain ⟨rfl, hconverts⟩ := (htyped tag v).1 h
    exact hconverts.sound
  · rintro ⟨fate, hfate, hcoerced⟩
    obtain ⟨rfl, rfl, rfl⟩ := Fate.coerced_eq_passed.1 hcoerced.symm
    exact ⟨rfl, rfl, fateOf_eq_passed.1 hfate⟩
  · rintro ⟨rfl, rfl, hnone⟩
    exact ⟨_, fateOf_eq_passed.2 hnone, rfl⟩

/-- An input for a quantity. -/
def powerInput : Input :=
  ⟨"power", "QuantityType", none, none, false, "", TextSet.empty, none, by decide⟩

set_option maxRecDepth 20000 in
/-- A unit that looks like an exponent is a unit symbol. -/
theorem coerceOne_sound_power :
    ((coerceOne powerInput (.text " 1e5.3 ") "heat").run (.ofLevel .info)).1 =
        .ok (.typed .quantity (.quantity ⟨⟨false, 1, 0⟩, "e5.3"⟩)) ∧
      IsNative .quantity (.quantity ⟨⟨false, 1, 0⟩, "e5.3"⟩) ∧
      ∃ text, format .quantity (.quantity ⟨⟨false, 1, 0⟩, "e5.3"⟩) = .ok text := by
  have hcoerce : ((coerceOne powerInput (.text " 1e5.3 ") "heat").run (.ofLevel .info)).1 =
      .ok (.typed .quantity (.quantity ⟨⟨false, 1, 0⟩, "e5.3"⟩)) := by cbv
  exact ⟨hcoerce, (coerceOne_sound powerInput _ "heat" (.ofLevel .info)).2.1 _ _ hcoerce⟩

end Coercion
end TypedInputs
