/-
# Inputs are described all or none

An input can be described unless its type is a text of decimals or unknown (`Input.IsDescribable`),
and then its parameter says of it what `Describes` lists. A list of inputs is described from its
front: the first input that cannot be described is reported and ends the description, whether or not
an error comes of it. So the description that gives nothing and the one that is strict are two views of
one run (`run_describeInputs`, `run_requireParameters`).
-/

import Mathlib.Data.List.Forall2
import TypedInputs.Description
import TypedInputs.Proofs.Diagnostics.Accounts
import TypedInputs.Proofs.Reporting

namespace TypedInputs

open Diagnostics EventBus

/-! ### One input -/

/-- An input whose type can be described. -/
def Input.IsDescribable (input : Input) : Prop :=
  input.declaredType.tag ≠ .decimalText ∧ input.declaredType.tag ≠ .unsupported

instance : DecidablePred Input.IsDescribable := fun _ => inferInstanceAs (Decidable (_ ∧ _))

/-- Decimals and types that are not supported have no category. -/
theorem TypeTag.category?_eq_none {tag : TypeTag} :
    tag.category? = none ↔ tag = .decimalText ∨ tag = .unsupported := by
  cases tag <;> simp [TypeTag.category?]

/-- An input that cannot be described has no parameter. -/
theorem Input.parameter?_eq_none {input : Input} :
    input.parameter? = none ↔ ¬input.IsDescribable := by
  rw [parameter?, DeclaredType.intrinsics?, Option.map_eq_none_iff, Option.map_eq_none_iff,
    TypeTag.category?_eq_none, IsDescribable]
  tauto

/-- A primitive type is one of truth values or of numbers. -/
theorem tag_mem_of_primitive {identifier : String}
    (h : (DeclaredType.ofIdentifier identifier).primitive = true) :
    (DeclaredType.ofIdentifier identifier).tag ∈ primitiveTypes.map Prod.snd := by
  unfold DeclaredType.ofIdentifier at h ⊢
  cases htag : tagOf? primitiveTypes identifier with
  | none =>
    rw [htag] at h
    cases h
  | some tag =>
    obtain ⟨entry, hentry, rfl⟩ := Option.map_eq_some_iff.1 htag
    exact List.mem_map_of_mem (List.mem_of_find?_eq_some hentry)

/-- The default that a primitive type has by itself. -/
theorem primitiveDefault_of_primitive {identifier : String} {category : Category}
    (h : (DeclaredType.ofIdentifier identifier).primitive = true)
    (hcategory : (DeclaredType.ofIdentifier identifier).tag.category? = some category) :
    category.primitiveDefault =
      some (if (DeclaredType.ofIdentifier identifier).tag = .bool then "false" else "0") := by
  have hmem := tag_mem_of_primitive h
  revert hmem hcategory
  generalize (DeclaredType.ofIdentifier identifier).tag = tag
  cases tag <;> cases category <;> decide

/-- What the default of a parameter is: the input's own one unless that is empty, else the one that a
primitive type has. -/
def Input.expectedDefault (input : Input) : Option String :=
  if input.defaultValue ≠ "" then some input.defaultValue
  else if input.declaredType.primitive then
    some (if input.declaredType.tag = .bool then "false" else "0")
  else none

/-- A parameter that describes an input. -/
structure Describes (input : Input) (p : Parameter) : Prop where
  name : p.name = input.name
  type : input.declaredType.tag.category? = some p.type
  label : p.label = input.label
  description : p.description = input.description
  required : p.required = true ↔ input.declaredType.primitive = true ∨ input.required = true
  readOnly : p.readOnly = false
  context : p.context =
    if input.declaredType.primitive then none else input.declaredType.tag.context?
  default : p.default = input.expectedDefault

/-- **The parameter of an input describes it.** -/
theorem describes_of_parameter? {input : Input} {p : Parameter} (h : input.parameter? = some p) :
    Describes input p := by
  unfold Input.parameter? DeclaredType.intrinsics? at h
  rw [Option.map_map] at h
  obtain ⟨category, hcategory, rfl⟩ := Option.map_eq_some_iff.1 h
  cases hprimitive : input.declaredType.primitive with
  | false =>
    refine ⟨rfl, ?_, rfl, rfl, ?_, rfl, ?_, ?_⟩
    · simpa [hprimitive] using hcategory
    · simp [hprimitive]
    · simp [hprimitive]
    · simp only [Function.comp_apply, hprimitive, Input.expectedDefault, ite_not]
      rfl
  | true =>
    have hdefault := primitiveDefault_of_primitive hprimitive hcategory
    refine ⟨rfl, ?_, rfl, rfl, ?_, rfl, ?_, ?_⟩
    · simpa [hprimitive] using hcategory
    · simp [hprimitive]
    · simp [hprimitive]
    · simp only [Function.comp_apply, hprimitive, if_true, hdefault, Input.expectedDefault, ite_not]
      rfl

namespace Description

/-- The diagnostics after an input that cannot be described was reported. -/
def reported (e : UnsupportedInput) (d : Diagnostics) : Diagnostics :=
  (d.record .info inputLogger e.reason).notify (e.notice d.uid)

/-- The report that an input of a type cannot be described, under the uid in force. -/
def reportOf (uid : String) (input : Input) : Report where
  notice := ⟨"describe.input", "unsupported", uid, .object
    [("input", .text input.name), ("declared_type", .text input.type)]⟩
  record := ⟨.info, "actioninputs.descriptors.engine", uid,
    "Unsupported input parameter '" ++ input.name ++ "' having type " ++ input.type⟩

variable {ε : Type} {d : Diagnostics}

/-- An input with a parameter is described without a report. -/
theorem run_describeInput_of_some {input : Input} {p : Parameter} (h : input.parameter? = some p) :
    (describeInput input : Reporting ε _).run d = (.ok (some p), d) := by
  unfold describeInput
  rw [h]
  rfl

/-- An input without a parameter is reported. -/
theorem run_describeInput_of_none {input : Input} (h : input.parameter? = none) :
    (describeInput input : Reporting ε _).run d = (.ok none, reported input.unsupported d) := by
  unfold describeInput
  rw [h]
  rfl

/-- **What the report of an input adds,** when remarks are kept and the bus has room. -/
theorem accounts_reported_unsupported {bus : EventBus} (hlevel : d.log.threshold ≤ .info)
    (hbus : d.activeBus? = some bus) (hroom : bus.queue.length < bus.capacity) (input : Input) :
    Accounts d bus [reportOf d.uid input] (reported input.unsupported d)
      (bus.publish (reportOf d.uid input).notice).settle := by
  have hlogger : isPackageLogger inputLogger = true := by decide
  exact accounts_report (keeps_of_threshold_le hlogger (by decide) hlevel _ _) hbus hroom _

/-! ### All inputs -/

/-- The first input that cannot be described. -/
def firstUndescribed? (inputs : List Input) : Option Input :=
  inputs.find? fun input => input.parameter?.isNone

/-- Nothing ends a description whose inputs can all be described. -/
theorem firstUndescribed?_eq_none {inputs : List Input} :
    firstUndescribed? inputs = none ↔ ∀ input ∈ inputs, input.IsDescribable := by
  rw [firstUndescribed?, List.find?_eq_none]
  simp only [Option.isNone_iff_eq_none, Input.parameter?_eq_none, not_not]

/-- The input that ends a description is the first that cannot be described. -/
theorem firstUndescribed?_eq_some {inputs : List Input} {input : Input} :
    firstUndescribed? inputs = some input ↔ ¬input.IsDescribable ∧ ∃ before after,
      inputs = before ++ input :: after ∧ ∀ earlier ∈ before, earlier.IsDescribable := by
  rw [firstUndescribed?, List.find?_eq_some_iff_append]
  simp only [Option.isNone_iff_eq_none, Input.parameter?_eq_none, Bool.not_eq_true',
    Option.isNone_eq_false_iff, Option.isSome_iff_ne_none, ne_eq, not_not]

theorem firstUndescribed?_cons_of_none {input : Input} (h : input.parameter? = none)
    (rest : List Input) : firstUndescribed? (input :: rest) = some input := by
  rw [firstUndescribed?, List.find?_cons_of_pos (by rw [h]; rfl)]

theorem firstUndescribed?_cons_of_some {input : Input} {p : Parameter} (h : input.parameter? = some p)
    (rest : List Input) : firstUndescribed? (input :: rest) = firstUndescribed? rest := by
  rw [firstUndescribed?, List.find?_cons_of_neg (by rw [h]; simp), firstUndescribed?]

/-- **The description of all inputs** ends at the first that cannot be described. -/
theorem run_describeInputs (inputs : List Input) (d : Diagnostics) :
    (describeInputs inputs : Reporting ε _).run d = match firstUndescribed? inputs with
      | none => (.ok (some (inputs.filterMap Input.parameter?)), d)
      | some input => (.ok none, reported input.unsupported d) := by
  induction inputs with
  | nil => rfl
  | cons input rest ih =>
    unfold describeInputs
    cases hparameter : input.parameter? with
    | none =>
      rw [Reporting.run_bind_of_ok (run_describeInput_of_none hparameter),
        firstUndescribed?_cons_of_none hparameter]
      rfl
    | some p =>
      rw [Reporting.run_bind_of_ok (run_describeInput_of_some hparameter),
        firstUndescribed?_cons_of_some hparameter, List.filterMap_cons_some hparameter]
      dsimp only
      cases hfirst : firstUndescribed? rest with
      | none | some first =>
        rw [hfirst] at ih
        rw [Reporting.run_bind_of_ok ih]
        rfl

/-- **The strict description** ends at the same input and leaves the same diagnostics. -/
theorem run_requireParameters (inputs : List Input) (d : Diagnostics) :
    (requireParameters inputs).run d = match firstUndescribed? inputs with
      | none => (.ok (inputs.filterMap Input.parameter?), d)
      | some input => (.error input.unsupported, reported input.unsupported d) := by
  induction inputs with
  | nil => rfl
  | cons input rest ih =>
    unfold requireParameters
    cases hparameter : input.parameter? with
    | none =>
      rw [Reporting.run_bind_of_ok (run_describeInput_of_none hparameter),
        firstUndescribed?_cons_of_none hparameter]
      rfl
    | some p =>
      rw [Reporting.run_bind_of_ok (run_describeInput_of_some hparameter),
        firstUndescribed?_cons_of_some hparameter, List.filterMap_cons_some hparameter]
      dsimp only
      cases hfirst : firstUndescribed? rest with
      | none =>
        rw [hfirst] at ih
        rw [Reporting.run_bind_of_ok ih]
        rfl
      | some first =>
        rw [hfirst] at ih
        exact Reporting.run_bind_of_error ih _

/-- Of inputs that can all be described, each has its parameter in its place. -/
theorem forall₂_parameters {inputs : List Input} (h : ∀ input ∈ inputs, input.IsDescribable) :
    List.Forall₂ (fun input p => input.parameter? = some p) inputs
      (inputs.filterMap Input.parameter?) := by
  induction inputs with
  | nil => exact .nil
  | cons input rest ih =>
    cases hparameter : input.parameter? with
    | none => exact absurd (h input List.mem_cons_self) (Input.parameter?_eq_none.1 hparameter)
    | some p =>
      rw [List.filterMap_cons_some hparameter]
      exact .cons hparameter (ih fun later hlater => h later (List.mem_cons_of_mem _ hlater))

/-- **Inputs are described all or none, and the strict description agrees.** There is a list of
parameters exactly when every input can be described. It has the parameter of each input in its
place, nothing is reported, and the strict description gives the same list. Otherwise there is no
list, and the strict description fails with the first input that cannot be described; both leave the
same diagnostics, which have one record and one event more, about that input alone. -/
theorem describe_all_or_none (inputs : List Input) {bus : EventBus}
    (hlevel : d.log.threshold ≤ .info) (hbus : d.activeBus? = some bus)
    (hroom : bus.queue.length < bus.capacity) :
    ((∃ ps d', (describeInputs inputs : Reporting ε _).run d = (.ok (some ps), d')) ↔
      ∀ input ∈ inputs, input.IsDescribable) ∧
    (∀ ps d', (describeInputs inputs : Reporting ε _).run d = (.ok (some ps), d') →
      d' = d ∧ (requireParameters inputs).run d = (.ok ps, d) ∧
        List.Forall₂ (fun input p =>
          (describeInput input : Reporting ε _).run d = (.ok (some p), d) ∧ Describes input p)
          inputs ps) ∧
    ((¬∀ input ∈ inputs, input.IsDescribable) → ∃ before input after d' bus',
      inputs = before ++ input :: after ∧ (∀ earlier ∈ before, earlier.IsDescribable) ∧
        ¬input.IsDescribable ∧
        (describeInputs inputs : Reporting ε _).run d = (.ok none, d') ∧
        (requireParameters inputs).run d = (.error ⟨input.name, input.type⟩, d') ∧
        Accounts d bus [reportOf d.uid input] d' bus') := by
  have hdescribe := run_describeInputs (ε := ε) inputs d
  have hrequire := run_requireParameters inputs d
  cases hfirst : firstUndescribed? inputs with
  | none =>
    rw [hfirst] at hdescribe hrequire
    have hall := firstUndescribed?_eq_none.1 hfirst
    refine ⟨⟨fun _ => hall, fun _ => ⟨_, d, hdescribe⟩⟩, fun ps d' hrun => ?_,
      fun hnot => absurd hall hnot⟩
    obtain ⟨hps, rfl⟩ := Prod.mk.inj (hdescribe.symm.trans hrun)
    obtain rfl := Option.some.inj (Except.ok.inj hps)
    refine ⟨rfl, hrequire, (forall₂_parameters hall).imp fun input p hparameter => ?_⟩
    exact ⟨run_describeInput_of_some hparameter, describes_of_parameter? hparameter⟩
  | some input =>
    rw [hfirst] at hdescribe hrequire
    obtain ⟨hinput, before, after, rfl, hbefore⟩ := firstUndescribed?_eq_some.1 hfirst
    have hnone : ∀ ps d', (describeInputs (before ++ input :: after) : Reporting ε _).run d ≠
        (.ok (some ps), d') := fun ps d' hrun => by
      have hnever := hdescribe.symm.trans hrun
      cases hnever
    refine ⟨⟨fun ⟨ps, d', hrun⟩ => absurd hrun (hnone ps d'), fun hall => ?_⟩,
      fun ps d' hrun => absurd hrun (hnone ps d'), fun _ => ?_⟩
    · exact absurd (hall input (by simp)) hinput
    · exact ⟨before, input, after, _, _, rfl, hbefore, hinput, hdescribe, hrequire,
        accounts_reported_unsupported hlevel hbus hroom input⟩

/-- An input of a primitive type. -/
def speedInput : Input :=
  ⟨"speed", "int", some "Speed", none, false, "", TextSet.empty, none, by decide⟩

/-- An input whose type is a text of decimals. -/
def ratioInput : Input :=
  ⟨"ratio", "DecimalType", none, none, false, "", TextSet.empty, none, by decide⟩

/-- An input of an unknown type. -/
def colorInput : Input :=
  ⟨"color", "HSBType", none, none, true, "", TextSet.empty, none, by decide⟩

/-- A running bus with room for one event. -/
def fanBus : EventBus := (EventBus.create [.memory] 1).start

/-- Diagnostics with remarks and the bus, where the fan's action is being processed. -/
def fanDiagnostics : Diagnostics :=
  { Diagnostics.ofLevel .info with uid := "fan.setSpeed", bus := some fanBus, route := .bus }

/-- Of two inputs that cannot be described only the first is reported. -/
theorem describe_all_or_none_fan :
    fanDiagnostics.log.threshold ≤ .info ∧ fanDiagnostics.activeBus? = some fanBus ∧
      fanBus.queue.length < fanBus.capacity ∧
      ∃ d' bus',
        (describeInputs [speedInput, ratioInput, colorInput] : Reporting Empty _).run
          fanDiagnostics = (.ok none, d') ∧
        (requireParameters [speedInput, ratioInput, colorInput]).run fanDiagnostics =
          (.error ⟨"ratio", "DecimalType"⟩, d') ∧
        Accounts fanDiagnostics fanBus [reportOf "fan.setSpeed" ratioInput] d' bus' := by
  have hlevel : fanDiagnostics.log.threshold ≤ .info := by decide
  have hroom : fanBus.queue.length < fanBus.capacity := by decide
  obtain ⟨-, -, hnone⟩ := describe_all_or_none (ε := Empty)
    [speedInput, ratioInput, colorInput] hlevel rfl hroom
  obtain ⟨before, input, after, d', bus', hsplit, hbefore, hinput, hdescribe, hrequire, haccounts⟩ :=
    hnone (by decide)
  have hfirst : input = ratioInput := by
    have hfound : firstUndescribed? [speedInput, ratioInput, colorInput] = some input :=
      firstUndescribed?_eq_some.2 ⟨hinput, before, after, hsplit, hbefore⟩
    exact (Option.some.inj hfound).symm
  subst hfirst
  exact ⟨hlevel, rfl, hroom, d', bus', hdescribe, hrequire, haccounts⟩

end Description
end TypedInputs
