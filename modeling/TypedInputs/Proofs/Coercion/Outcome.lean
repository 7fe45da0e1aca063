/-
# What becomes of an argument

`Fate` says what becomes of an argument as far as its value and its declared type decide, and
`fateOf` finds it. Coercing an argument gives what its fate says (`result_coerceOne`), and coercing
all arguments harvests one fate after the other (`result_coerceAll`). The diagnostics have no part
in the values, and the remarks at the end never fail, because the members of an object are texts
and texts can be sorted and shown.
-/

import TypedInputs.Coercion
import TypedInputs.Proofs.Arguments
import TypedInputs.Proofs.Literal.RoundTrip
import TypedInputs.Proofs.Reporting

namespace TypedInputs
namespace Coercion

open Number Diagnostics Literal

/-- What becomes of an argument. -/
inductive Fate where
  | absent
  | typed (value : Value)
  | passed
  | failed (fault : LiteralFault)

theorem identifier_declaredType (input : Input) : input.declaredType.identifier = input.type := by
  unfold Input.declaredType DeclaredType.ofIdentifier
  split <;> rfl

/-- What coercion gives for an argument with a fate. -/
def Fate.coerced (input : Input) (raw : Value) (uid : String) : Fate → Coerced
  | .absent => .absent
  | .typed v => .typed input.declaredType.tag v
  | .passed => .passed input.declaredType.tag raw
  | .failed fault => .failed ⟨uid, input.name, raw, input.declaredType.identifier, fault⟩

/-- Only a typed fate gives a typed value. -/
theorem Fate.coerced_eq_typed {input : Input} {raw v : Value} {uid : String} {fate : Fate}
    {tag : TypeTag} :
    fate.coerced input raw uid = .typed tag v ↔
      fate = .typed v ∧ tag = input.declaredType.tag := by
  cases fate <;> simp [Fate.coerced, eq_comm, and_comm]

/-- Only a fate that passes lets the argument through. -/
theorem Fate.coerced_eq_passed {input : Input} {raw v : Value} {uid : String} {fate : Fate}
    {tag : TypeTag} :
    fate.coerced input raw uid = .passed tag v ↔
      fate = .passed ∧ tag = input.declaredType.tag ∧ v = raw := by
  cases fate <;> simp [Fate.coerced, eq_comm]

/-- The fate of an argument with a conversion. An invalid one can be reported only when it has a
shown form. -/
def Conversion.fate (raw : Value) : Conversion → Except Escape Fate
  | .typed v => .ok (.typed v)
  | .passed => .ok .passed
  | .invalid fault =>
    match raw.shown with
    | .ok _ => .ok (.failed fault)
    | .error e => .error (.kind e)

/-- An argument with a fate has a conversion that gives it. -/
theorem bind_fate_eq_ok {raw : Value} {converted : Except Escape Conversion} {fate : Fate} :
    converted >>= Conversion.fate raw = .ok fate ↔
      ∃ conversion, converted = .ok conversion ∧ conversion.fate raw = .ok fate := by
  cases converted with
  | error e =>
    constructor
    · intro h
      cases h
    · rintro ⟨conversion, hconversion, -⟩
      cases hconversion
  | ok conversion =>
    constructor
    · exact fun h => ⟨conversion, rfl, h⟩
    · rintro ⟨conversion', hconversion, h⟩
      obtain rfl := Except.ok.inj hconversion
      exact h

/-- Only a conversion to a value makes an argument typed. -/
theorem Conversion.fate_eq_typed {conversion : Conversion} {raw v : Value} :
    conversion.fate raw = .ok (.typed v) ↔ conversion = .typed v := by
  cases conversion with
  | typed w => simp [Conversion.fate]
  | passed => simp [Conversion.fate]
  | invalid fault =>
    rw [Conversion.fate]
    split <;> simp

/-- Only a conversion without a rule lets an argument pass. -/
theorem Conversion.fate_eq_passed {conversion : Conversion} {raw : Value} :
    conversion.fate raw = .ok .passed ↔ conversion = .passed := by
  cases conversion with
  | typed w => simp [Conversion.fate]
  | passed => simp [Conversion.fate]
  | invalid fault =>
    rw [Conversion.fate]
    split <;> simp

/-- A failure is one of an argument with a shown form. -/
theorem Conversion.exists_shown {conversion : Conversion} {raw : Value} {fault : LiteralFault}
    (h : conversion.fate raw = .ok (.failed fault)) : ∃ shown, raw.shown = .ok shown := by
  cases conversion with
  | typed w => cases h
  | passed => cases h
  | invalid fault' =>
    rw [Conversion.fate] at h
    split at h
    · exact ⟨_, ‹_›⟩
    · cases h

/-- The argument of an input. -/
def argumentOf (fields : List (String × Value)) (input : Input) : Value :=
  (field? fields input.name).getD .null

theorem argument_eq (fields : List (String × Value)) (input : Input) :
    (Value.object fields).argument input.name = .ok (argumentOf fields input) := rfl

theorem orNoArguments_object (fields : List (String × Value)) :
    (Value.object fields).orNoArguments = .object fields := by
  cases fields <;> rfl

/-- **The remarks on an object never fail.** -/
theorem result_remark (uid : String) (inputs : List Input) (fields : List (String × Value))
    (h : Harvest) (d : Diagnostics) :
    (remark uid inputs (.object fields) h).result d = .ok () := by
  obtain ⟨undeclared, shown, hundeclared, hshown⟩ :=
    Value.exists_undeclared fields (inputs.map Input.name)
  unfold remark
  rw [hundeclared]
  simp only [Except.mapError, Reporting.result_lift_bind, hshown]
  split_ifs <;> rfl

/-- A conversion to a value read this value. -/
theorem ok_of_conversionOf_typed {result : Except LiteralError Value} {v : Value}
    (h : conversionOf result = .ok (.typed v)) : result = .ok v := by
  unfold conversionOf at h
  split at h <;> cases h
  rfl

/-! ### One argument -/

variable [Zone.Directory]

/-- The fate of an argument for a declared type. -/
def fateOf (declared : DeclaredType) : Value → Except Escape Fate
  | .null => .ok .absent
  | raw => convert declared raw >>= Conversion.fate raw

/-- An argument that is there has the fate of its conversion. -/
theorem fateOf_of_ne_null {declared : DeclaredType} {raw : Value} (h : raw ≠ .null) :
    fateOf declared raw = convert declared raw >>= Conversion.fate raw := by
  cases raw <;> first | rfl | exact absurd rfl h

/-- An argument that is there is converted, and what cannot be converted is reported. -/
theorem coerceOne_of_ne_null {raw : Value} (h : raw ≠ .null) (input : Input) (uid : String) :
    coerceOne input raw uid = do
      match ← convert input.declaredType raw with
      | .typed v => return .typed input.declaredType.tag v
      | .passed => return .passed input.declaredType.tag raw
      | .invalid fault =>
        let inForce := (← get).uid
        let failure : CoercionFailure := ⟨if uid = "" then inForce else uid, input.name, raw,
          input.declaredType.identifier, fault⟩
        report failure
        return .failed failure := by
  cases raw <;> first | rfl | exact absurd rfl h

/-- **Coercing an argument gives what its fate says.** A failure has the uid that is in force when
no other is given. -/
theorem result_coerceOne (input : Input) (raw : Value) (uid : String) (d : Diagnostics) :
    (coerceOne input raw uid).result d =
      (fateOf input.declaredType raw).map
        (Fate.coerced input raw (if uid = "" then d.uid else uid)) := by
  by_cases hnull : raw = .null
  · subst hnull
    rfl
  rw [fateOf_of_ne_null hnull, coerceOne_of_ne_null hnull]
  cases convert input.declaredType raw with
  | error e => rfl
  | ok conversion =>
    cases conversion with
    | typed v => rfl
    | passed => rfl
    | invalid fault =>
      simp only [report]
      show _ = Except.map _ (Conversion.fate raw (.invalid fault))
      unfold Conversion.fate
      cases hshown : raw.shown with
      | ok shown =>
        rfl
      | error e => rfl

/-- An argument is coerced to what its fate says, if it has one. -/
theorem coerceOne_eq_ok {input : Input} {raw : Value} {uid : String} {d : Diagnostics}
    {c : Coerced} :
    (coerceOne input raw uid).result d = .ok c ↔ ∃ fate,
      fateOf input.declaredType raw = .ok fate ∧
        c = fate.coerced input raw (if uid = "" then d.uid else uid) := by
  rw [result_coerceOne]
  cases fateOf input.declaredType raw <;> simp [Except.map, eq_comm]

/-! ### Where a fate comes from -/

/-- A typed argument was converted to its value. -/
theorem convert_of_fateOf_typed {declared : DeclaredType} {raw v : Value}
    (h : fateOf declared raw = .ok (.typed v)) : convert declared raw = .ok (.typed v) := by
  by_cases hnull : raw = .null
  · subst hnull
    cases h
  rw [fateOf_of_ne_null hnull] at h
  obtain ⟨conversion, hconvert, hfate⟩ := bind_fate_eq_ok.1 h
  rwa [Conversion.fate_eq_typed.1 hfate] at hconvert

/-- An argument that failed has a shown form. -/
theorem exists_shown_of_fateOf_failed {declared : DeclaredType} {raw : Value}
    {fault : LiteralFault} (h : fateOf declared raw = .ok (.failed fault)) :
    ∃ shown, raw.shown = .ok shown := by
  by_cases hnull : raw = .null
  · subst hnull
    cases h
  rw [fateOf_of_ne_null hnull] at h
  obtain ⟨conversion, -, hfate⟩ := bind_fate_eq_ok.1 h
  exact Conversion.exists_shown hfate

/-- The fate of a number with a number rule. -/
theorem fateOf_number {declared : DeclaredType} {raw : Value} (hraw : raw.isNumber = true)
    (hrule : declared.tag.hasNumberRule = true) :
    fateOf declared raw = convertNumber declared raw >>= Conversion.fate raw := by
  have hnull : raw ≠ .null := by
    rintro rfl
    cases hraw
  rw [fateOf_of_ne_null hnull]
  unfold convert
  rw [if_pos (by rw [hraw, hrule]; rfl)]

/-- The fate of a text in a grammar. -/
theorem fateOf_text {declared : DeclaredType} {s : String}
    (h : declared.tag.hasTextGrammar = true) :
    fateOf declared (.text s) =
      conversionOf (parse declared s) >>= Conversion.fate (.text s) := by
  simp only [fateOf, convert, Value.isNumber, h]
  rfl

/-- An argument that the number rule or the grammar of a type converts to a value. -/
inductive Converts (declared : DeclaredType) : Value → Value → Prop
  | number {raw v : Value} {x : Double} (hrule : declared.tag.hasNumberRule = true)
      (hnumber : raw.isNumber = true) (hx : raw.toDouble = .ok x)
      (h : narrow declared x = .ok v) : Converts declared raw v
  | text {s : String} {v : Value} (hgrammar : declared.tag.hasTextGrammar = true)
      (h : parse declared s = .ok v) : Converts declared (.text s) v

/-- **A typed value is what its argument converts to.** -/
theorem fateOf_eq_typed {declared : DeclaredType} {raw v : Value} :
    fateOf declared raw = .ok (.typed v) ↔ Converts declared raw v := by
  constructor
  · intro h
    have hconvert := convert_of_fateOf_typed h
    unfold convert at hconvert
    by_cases hnumber : (raw.isNumber && declared.tag.hasNumberRule) = true
    · rw [if_pos hnumber, convertNumber] at hconvert
      rw [Bool.and_eq_true] at hnumber
      split at hconvert
      · rename_i x hx
        exact .number hnumber.2 hnumber.1 hx (ok_of_conversionOf_typed hconvert)
      · cases hconvert
    · rw [if_neg hnumber] at hconvert
      split at hconvert
      · split_ifs at hconvert with hgrammar
        · exact .text hgrammar (ok_of_conversionOf_typed hconvert)
        · cases hconvert
      · cases hconvert
  · intro h
    cases h with
    | number hrule hnumber hx h =>
      rw [fateOf_number hnumber hrule, convertNumber, hx]
      simp only [h, conversionOf]
      rfl
    | text hgrammar h =>
      rw [fateOf_text hgrammar, h]
      rfl

/-! ### All arguments -/

/-- One more fate harvested. -/
def harvestFate (fields : List (String × Value)) (h : Harvest) (input : Input) :
    Except Escape Harvest :=
  (fateOf input.declaredType (argumentOf fields input)).map fun fate =>
    h.add input.name (fate.coerced input (argumentOf fields input) "")

/-- One more input adds its fate to the harvest, whatever the diagnostics are. -/
theorem result_harvestOne (uid : String) (fields : List (String × Value)) (h : Harvest)
    (input : Input) (d : Diagnostics) :
    (harvestOne uid (.object fields) h input).result d = harvestFate fields h input := by
  unfold harvestOne
  rw [argument_eq]
  simp only [Except.mapError, Reporting.result_lift_bind]
  rw [Reporting.result_bind_pure, result_coerceOne, harvestFate]
  cases fateOf input.declaredType (argumentOf fields input) with
  | error e => rfl
  | ok fate => cases fate <;> rfl

/-- **Coercing all arguments harvests their fates.** -/
theorem result_coerceAll (uid : String) (inputs : List Input) (fields : List (String × Value))
    (d : Diagnostics) :
    (coerceAll uid inputs (.object fields)).result d =
      (inputs.foldlM (harvestFate fields) ⟨[], []⟩).map Harvest.values := by
  unfold coerceAll
  simp only [orNoArguments_object]
  rw [Reporting.result_withUid]
  have hremark : ∀ (h : Harvest) (d : Diagnostics),
      (do remark uid inputs (.object fields) h; return h.values : Reporting Escape _).result d =
        .ok h.values := by
    intro h d
    rw [Reporting.result_bind_pure (g := fun _ => h.values), result_remark]
    rfl
  rw [Reporting.result_bind hremark, Reporting.result_foldlM (result_harvestOne uid fields)]
  cases inputs.foldlM (harvestFate fields) ⟨[], []⟩ <;> rfl

/-- An input for a level in one byte. -/
def byteLevel : Input :=
  ⟨"level", "byte", none, none, false, "", TextSet.empty, none, by decide⟩

/-- An input for a mode by its number. -/
def modeInput : Input :=
  ⟨"mode", "int", none, none, false, "", TextSet.empty, none, by decide⟩

end Coercion
end TypedInputs
