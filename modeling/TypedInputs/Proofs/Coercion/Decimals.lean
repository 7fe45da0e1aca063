/-
# Numbers as decimals and quantities

A number becomes a decimal through a text: the shortest text of its double is read as a decimal
literal. The detour is exact (`exists_narrowsAs`). The text is in the grammar in all its layouts, its
exponent is not taken for a unit, and the double is the nearest one to the decimal.

| number | decimal and quantity |
| --- | --- |
| a finite double | the decimal of its text, without a unit |
| NaN and the infinities | a failure: their texts are no decimal literals |
| an integer below 2 ^ 1024 - 2 ^ 970 | as its nearest double |
| an integer from there on | a failure: it has no double |
-/

import TypedInputs.Proofs.Coercion.Integers

namespace TypedInputs
namespace Literal

open Number

/-- The types whose values are decimals, with a unit or without. -/
def IsDecimalTag (tag : TypeTag) : Prop := tag = .decimalText ∨ tag = .quantity

/-- A double narrows to a decimal: to the decimal itself and to the dimensionless quantity, which is
also what the text of the double is read as. Nothing is lost, the double is the nearest one to the
decimal. -/
structure NarrowsAs (x : Double) (d : Decimal) : Prop where
  decimal : ∀ declared, declared.tag = .decimalText → narrow declared x = .ok (.decimal d)
  quantity : ∀ declared, declared.tag = .quantity → narrow declared x = .ok (.quantity ⟨d, ""⟩)
  text : Quantity.parse x.text = .ok ⟨d, ""⟩
  toDouble : d.toDouble = x
  nearest : x.IsNearest d.value

/-- A double is narrowed to a decimal by its shortest text. -/
theorem narrow_decimalText {declared : DeclaredType} (h : declared.tag = .decimalText)
    (x : Double) : narrow declared x = ((Decimal.parse x.text).mapError fun fault =>
      .invalid ⟨.float x, declared.identifier, .number fault⟩).map .decimal := by
  unfold narrow
  rw [h]

/-- A double is narrowed to a quantity without a unit. -/
theorem narrow_quantity {declared : DeclaredType} (h : declared.tag = .quantity)
    (x : Double) : narrow declared x = ((Quantity.ofDouble x "").mapError fun fault =>
      .invalid ⟨.float x, declared.identifier, .number fault⟩).map .quantity := by
  unfold narrow
  rw [h]

/-- **Finite doubles narrow to decimals without loss.** -/
theorem exists_narrowsAs (negative : Bool) (m : Magnitude binary64) :
    ∃ d, NarrowsAs (.finite negative m) d := by
  obtain ⟨d, hd, hdouble⟩ := Decimal.exists_parse_text negative m
  refine ⟨d, fun declared htag => ?_, fun declared htag => ?_, Quantity.parse_of_parse_decimal hd,
    hdouble, hdouble ▸ d.toDouble_isNearest⟩
  · rw [narrow_decimalText htag, hd]
    rfl
  · rw [narrow_quantity htag, Quantity.ofDouble, hd]
    rfl

/-- **NaN and the infinities narrow to no decimal.** -/
theorem narrow_eq_error_of_value?_eq_none {declared : DeclaredType}
    (htag : IsDecimalTag declared.tag) {x : Double} (hx : x.value? = none) :
    narrow declared x =
      .error (.invalid ⟨.float x, declared.identifier, .number (.notDecimal x.text)⟩) := by
  have hparse := Decimal.parse_text_of_value?_eq_none hx
  rcases htag with htag | htag
  · rw [narrow_decimalText htag, hparse]
    rfl
  · rw [narrow_quantity htag, Quantity.ofDouble, hparse]
    rfl

/-- What narrows as a decimal is a value of every decimal type. -/
theorem NarrowsAs.exists_narrow {x : Double} {d : Decimal} (h : NarrowsAs x d)
    {declared : DeclaredType} (htag : IsDecimalTag declared.tag) :
    ∃ v, narrow declared x = .ok v :=
  htag.elim (fun htag => ⟨_, h.decimal declared htag⟩) fun htag => ⟨_, h.quantity declared htag⟩

end Literal

namespace Coercion

open Number Literal Text

/-- A number of the wire that can be shown. -/
inductive IsShownNumber : Value → Prop
  | float (x : Double) : IsShownNumber (.float x)
  | int {n : Int} (h : n.natAbs < 10 ^ maxIntegerDigits) : IsShownNumber (.int n)

/-- A number without a finite double, and what is wrong with it as a decimal. -/
inductive LacksDouble : Value → LiteralFault → Prop
  | float {x : Double} (h : x.value? = none) :
      LacksDouble (.float x) (.number (.notDecimal x.text))
  | int {n : Int} (h : 2 ^ 1024 - 2 ^ 970 ≤ n.natAbs) : LacksDouble (.int n) .beyondDouble

/-- There is one reason at most why a number lacks a double. -/
theorem LacksDouble.unique {raw : Value} {fault fault' : LiteralFault}
    (h : LacksDouble raw fault) (h' : LacksDouble raw fault') : fault = fault' := by
  cases h <;> cases h' <;> rfl

/-- Integers up to 2 ^ 53 are doubles. -/
theorem not_lacksDouble_of_le {n : Int} (h : n.natAbs ≤ 2 ^ 53) (fault : LiteralFault) :
    ¬LacksDouble (.int n) fault := by
  intro hlacks
  cases hlacks with
  | int hbeyond =>
    obtain ⟨x, hx, -⟩ := Double.exists_ofInt?_of_le h
    rw [Double.ofInt?_eq_none_iff.2 hbeyond] at hx
    cases hx

/-- A number that lacks no double has a finite one. -/
theorem exists_finite {raw : Value} (hnumber : IsShownNumber raw)
    (h : ∀ fault, ¬LacksDouble raw fault) :
    ∃ negative m, raw.toDouble = .ok (.finite negative m) := by
  cases hnumber with
  | float x =>
    cases x with
    | finite negative m => exact ⟨negative, m, rfl⟩
    | nan | infinite => exact absurd (.float rfl) (h _)
  | @int n =>
    cases hx : Double.ofInt? n with
    | none => exact absurd (.int (Double.ofInt?_eq_none_iff.1 hx)) (h _)
    | some x =>
      obtain ⟨m, -, rfl⟩ := Option.map_eq_some_iff.1 ((Double.ofInt?_eq n).symm.trans hx)
      exact ⟨_, m, by rw [Value.toDouble, hx]⟩

section

variable [Zone.Directory] {declared : DeclaredType} {raw : Value}

omit [Zone.Directory] in
theorem hasNumberRule_of_isDecimalTag {tag : TypeTag} (h : IsDecimalTag tag) :
    tag.hasNumberRule = true := by
  rcases h with rfl | rfl <;> rfl

/-- A number without a finite double fails. -/
theorem fateOf_of_lacksDouble (htag : IsDecimalTag declared.tag) {fault : LiteralFault}
    (hnumber : IsShownNumber raw) (h : LacksDouble raw fault) :
    fateOf declared raw = .ok (.failed fault) := by
  have hrule := hasNumberRule_of_isDecimalTag htag
  cases h with
  | @float x hx =>
    have hconvert : convertNumber declared (.float x) =
        .ok (.invalid (.number (.notDecimal x.text))) := by
      simp only [convertNumber, Value.toDouble, narrow_eq_error_of_value?_eq_none htag hx,
        conversionOf]
    have hshown : (Value.float x).shown = .ok x.text := by rw [Value.shown]
    exact fateOf_number_of_invalid rfl hrule hconvert hshown
  | int h =>
    cases hnumber with
    | int hlength =>
      exact fateOf_int_beyondDouble hrule hlength (Double.ofInt?_eq_none_iff.2 h)

/-- A number with a finite double is narrowed. -/
theorem exists_fateOf_typed (htag : IsDecimalTag declared.tag) (hnumber : IsShownNumber raw)
    (h : ∀ fault, ¬LacksDouble raw fault) :
    ∃ x d v, raw.toDouble = .ok x ∧ NarrowsAs x d ∧ narrow declared x = .ok v ∧
      fateOf declared raw = .ok (.typed v) := by
  obtain ⟨negative, m, hx⟩ := exists_finite hnumber h
  obtain ⟨d, hd⟩ := exists_narrowsAs negative m
  obtain ⟨v, hv⟩ := hd.exists_narrow htag
  have hraw : raw.isNumber = true := by cases hnumber <;> rfl
  exact ⟨_, d, v, hx, hd, hv,
    fateOf_eq_typed.2 (.number (hasNumberRule_of_isDecimalTag htag) hraw hx hv)⟩

/-- **Coercing a number to a decimal type fails only where the number has no finite double,** and
otherwise gives what this double narrows to. -/
theorem exists_coerceOne_decimals {input : Input} (htag : IsDecimalTag input.declaredType.tag)
    (hnumber : IsShownNumber raw) (uid : String) (d : Diagnostics) :
    ∃ c, ((coerceOne input raw uid).run d).1 = .ok c ∧
      (∀ failure, c = .failed failure ↔ ∃ fault, LacksDouble raw fault ∧
        failure = ⟨if uid = "" then d.uid else uid, input.name, raw, input.type, fault⟩) ∧
      ((∀ fault, ¬LacksDouble raw fault) → ∃ x d v, raw.toDouble = .ok x ∧ NarrowsAs x d ∧
        narrow input.declaredType x = .ok v ∧ c = .typed input.declaredType.tag v) := by
  have hresult := result_coerceOne input raw uid d
  rw [Reporting.result_eq] at hresult
  rw [hresult, ← identifier_declaredType]
  by_cases hlacks : ∃ fault, LacksDouble raw fault
  · obtain ⟨fault, hfault⟩ := hlacks
    rw [fateOf_of_lacksDouble htag hnumber hfault]
    refine ⟨_, rfl, fun failure => ⟨fun h => ⟨fault, hfault, ?_⟩, ?_⟩,
      fun hnone => absurd hfault (hnone fault)⟩
    · exact (Coerced.failed.inj h).symm
    · rintro ⟨other, hother, rfl⟩
      rw [hother.unique hfault]
      rfl
  · obtain ⟨x, dec, v, hx, hdec, hv, hfate⟩ :=
      exists_fateOf_typed htag hnumber (not_exists.1 hlacks)
    rw [hfate]
    refine ⟨_, rfl, fun failure => ⟨fun h => (by cases h), ?_⟩,
      fun _ => ⟨x, dec, v, hx, hdec, hv, rfl⟩⟩
    rintro ⟨fault, hfault, -⟩
    exact absurd ⟨fault, hfault⟩ hlacks

/-- **Numbers become decimals and quantities without loss.** A finite double narrows to a decimal,
whose nearest double it is, and to the dimensionless quantity of the same decimal, which is the one
that its text writes. NaN and the infinities are refused for both types. So coercing a number that
can be shown fails for these types if and only if it is one of those or an integer beyond all
doubles, and otherwise gives what the nearest double of the number narrows to. -/
theorem narrow_decimals :
    (∀ negative m, ∃ d, NarrowsAs (.finite negative m) d) ∧
    (∀ x : Double, x.value? = none → ∀ declared, IsDecimalTag declared.tag →
      narrow declared x =
        .error (.invalid ⟨.float x, declared.identifier, .number (.notDecimal x.text)⟩)) ∧
    ∀ input raw uid d, IsDecimalTag (DeclaredType.ofIdentifier input.type).tag →
      IsShownNumber raw → ∃ c, ((coerceOne input raw uid).run d).1 = .ok c ∧
        (∀ failure, c = .failed failure ↔ ∃ fault, LacksDouble raw fault ∧
          failure = ⟨if uid = "" then d.uid else uid, input.name, raw, input.type, fault⟩) ∧
        ((∀ fault, ¬LacksDouble raw fault) → ∃ x d v, raw.toDouble = .ok x ∧ NarrowsAs x d ∧
          narrow (.ofIdentifier input.type) x = .ok v ∧
            c = .typed (DeclaredType.ofIdentifier input.type).tag v) :=
  ⟨exists_narrowsAs, fun _ hx _ htag => narrow_eq_error_of_value?_eq_none htag hx,
    fun _ _ uid d htag hnumber => exists_coerceOne_decimals htag hnumber uid d⟩

end

/-- An input for an amount of heat. -/
def heatInput : Input :=
  ⟨"heat", "QuantityType", none, none, false, "", TextSet.empty, none, by decide⟩

/-- An integer is a quantity by way of its double; NaN is none. -/
theorem narrow_decimals_heat :
    IsDecimalTag (DeclaredType.ofIdentifier heatInput.type).tag ∧
      IsShownNumber (.int (-3)) ∧ (∀ fault, ¬LacksDouble (.int (-3)) fault) ∧
      (∃ x d v, (Value.int (-3)).toDouble = .ok x ∧ NarrowsAs x d ∧
        narrow (.ofIdentifier heatInput.type) x = .ok v ∧
          ((coerceOne heatInput (.int (-3)) "").run (.ofLevel .info)).1 =
            .ok (.typed .quantity v)) ∧
      LacksDouble (.float .nan) (.number (.notDecimal "nan")) ∧
      ((coerceOne heatInput (.float .nan) "warm").run (.ofLevel .info)).1 =
        .ok (.failed ⟨"warm", "heat", .float .nan, "QuantityType",
          .number (.notDecimal "nan")⟩) := by
  have htag : IsDecimalTag (DeclaredType.ofIdentifier heatInput.type).tag := .inr rfl
  have hshown : IsShownNumber (.int (-3)) :=
    .int (@natAbs_lt_of_inWidth .long 64 rfl (-3) (by decide))
  have hdouble := not_lacksDouble_of_le (n := -3) (by decide)
  have hlacks : LacksDouble (.float .nan) (.number (.notDecimal "nan")) := .float rfl
  obtain ⟨-, -, hcoerce⟩ := narrow_decimals
  obtain ⟨c, hc, -, htyped⟩ := hcoerce heatInput (.int (-3)) "" (.ofLevel .info) htag hshown
  obtain ⟨x, d, v, hx, hd, hv, rfl⟩ := htyped hdouble
  obtain ⟨c, hc', hfailed, -⟩ :=
    hcoerce heatInput (.float .nan) "warm" (.ofLevel .info) htag (.float _)
  obtain rfl := (hfailed _).2 ⟨_, hlacks, rfl⟩
  exact ⟨htag, hshown, hdouble, ⟨x, d, v, hx, hd, hv, hc⟩, hlacks, hc'⟩

end Coercion
end TypedInputs
