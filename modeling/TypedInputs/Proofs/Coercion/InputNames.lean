/-
# The names of an action's inputs

No two inputs of an action share a name. Reading an action whose fields are all valid ends in one of
two ways.

| names of the inputs | result |
| --- | --- |
| all different | the action |
| some repeated | one issue with the action itself, which lists these names in ascending order |

So a name stands for one input or none: the first input with the name, which `Action.input?` finds, is
the only one, and the values that the action gets have each name at most once, one value for each
input that was coerced.
-/

import TypedInputs.Proofs.Coercion.Account
import TypedInputs.Proofs.Validation

namespace TypedInputs

/-! ### Names that are repeated -/

/-- **The repeated texts are those that occur at least twice.** -/
theorem mem_repeated {s : String} {texts : List String} :
    s ∈ repeated texts ↔ 2 ≤ texts.count s := by
  induction texts with
  | nil => simp [repeated]
  | cons t rest ih =>
    rw [repeated]
    by_cases hst : t = s
    · subst hst
      rw [List.count_cons_self]
      split_ifs with hmem
      · have hpos := List.count_pos_iff.2 hmem
        simp only [List.mem_cons_self, true_iff]
        omega
      · rw [ih, List.count_eq_zero.2 hmem]
        omega
    · rw [List.count_cons_of_ne hst, ← ih]
      split_ifs with hmem
      · simp [Ne.symm hst]
      · rfl

theorem repeated_eq_nil_iff {texts : List String} : repeated texts = [] ↔ texts.Nodup :=
  ⟨nodup_of_repeated_eq_nil, repeated_eq_nil_of_nodup⟩

namespace Action

/-! ### Reading an action -/

/-- All fields of an object are valid for an action, and these are its uid and its inputs. -/
structure FieldsValid (fields : List (String × Value)) (uid : { s : String // s ≠ "" })
    (inputs : List Input) : Prop where
  uid : (FieldName.word "uid").required Check.nonEmptyText fields = .valid uid
  label : ∃ label, (FieldName.word "label").withDefault none (Check.orNull Check.text) fields =
    .valid label
  description : ∃ description,
    (FieldName.word "description").withDefault none (Check.orNull Check.text) fields =
      .valid description
  visibility : ∃ visibility, (FieldName.word "visibility").withDefault .visible
    (Check.oneOf Visibility.all Visibility.name) fields = .valid visibility
  tags : ∃ tags, (FieldName.word "tags").withDefault TextSet.empty Check.textSet fields =
    .valid tags
  inputs : (FieldName.word "inputs").withDefault [] (Check.tuple Input.check) fields =
    .valid inputs
  outputs : ∃ outputs, (FieldName.word "outputs").withDefault [] (Check.tuple Output.check) fields =
    .valid outputs

variable {fields : List (String × Value)} {uid : { s : String // s ≠ "" }} {inputs : List Input}

/-- What is left to check when all fields are valid. -/
theorem FieldsValid.exists_check_eq (h : FieldsValid fields uid inputs) :
    ∃ label description visibility tags outputs, check (.object fields) =
      ofParts uid label description visibility tags inputs outputs := by
  obtain ⟨label, hlabel⟩ := h.label
  obtain ⟨description, hdescription⟩ := h.description
  obtain ⟨visibility, hvisibility⟩ := h.visibility
  obtain ⟨tags, htags⟩ := h.tags
  obtain ⟨outputs, houtputs⟩ := h.outputs
  refine ⟨label, description, visibility, tags, outputs, ?_⟩
  show ofFields fields = _
  rw [ofFields, h.uid, hlabel, hdescription, hvisibility, htags, h.inputs, houtputs]
  rfl

/-- **An action with different names for its inputs is read.** -/
theorem FieldsValid.exists_valid (h : FieldsValid fields uid inputs)
    (hnodup : (inputs.map Input.name).Nodup) :
    ∃ action, check (.object fields) = .valid action ∧ action.uid = uid.val ∧
      action.inputs = inputs := by
  obtain ⟨label, description, visibility, tags, outputs, hcheck⟩ := h.exists_check_eq
  rw [hcheck, ofParts, dif_pos (repeated_eq_nil_iff.2 hnodup)]
  exact ⟨_, rfl, rfl, rfl⟩

/-- **An action with a repeated name is refused,** and the repeated names are listed. -/
theorem FieldsValid.exists_refused (h : FieldsValid fields uid inputs)
    (hrepeated : ¬(inputs.map Input.name).Nodup) :
    ∃ names : TextSet, check (.object fields) =
        .invalid [⟨[], .refused ("action " ++ Text.quoted uid.val ++
          " declares duplicate inputs: " ++ textsShown names.toList)⟩] ∧
      ∀ name, name ∈ names.toList ↔ 2 ≤ (inputs.map Input.name).count name := by
  obtain ⟨label, description, visibility, tags, outputs, hcheck⟩ := h.exists_check_eq
  rw [hcheck, ofParts, dif_neg (mt repeated_eq_nil_iff.1 hrepeated)]
  refine ⟨_, rfl, fun name => ?_⟩
  rw [TextSet.mem_toList_ofList, mem_repeated]

/-! ### Looking an input up -/

variable {action : Action} {name : String} {input : Input}

/-- **The input with a name is the only one.** -/
theorem input?_eq_some_iff :
    action.input? name = some input ↔ input ∈ action.inputs ∧ input.name = name := by
  constructor
  · intro h
    exact ⟨List.mem_of_find?_eq_some h, by simpa using List.find?_some h⟩
  · rintro ⟨hinput, rfl⟩
    exact find?_name hinput fun other hother hname =>
      List.inj_on_of_nodup_map action.nodup_names hother hinput hname

/-- No input is found under a name that none has. -/
theorem input?_eq_none_iff :
    action.input? name = none ↔ ∀ input ∈ action.inputs, input.name ≠ name := by
  rw [input?, List.find?_eq_none]
  simp only [beq_iff_eq, ne_eq]

end Action

namespace Coercion

open Diagnostics

section

variable [Zone.Directory] {arguments : Value} {args : List (String × Value)}

/-- Each argument of an action on its own is coerced to what is said. -/
def EachCoercesTo (action : Action) (args : List (String × Value)) (coerced : Input → Coerced) :
    Prop :=
  ∀ input ∈ action.inputs, ∀ d : Diagnostics,
    ((coerceOne input (argumentOf args input) action.uid).run d).1 = .ok (coerced input)

theorem EachCoercesTo.coercedEach {action : Action} {coerced : Input → Coerced}
    (h : EachCoercesTo action args coerced) :
    CoercedEach action.uid args coerced action.inputs :=
  coercedEach_of_coerceOne (d := .ofLevel .info) action.uid_ne
    fun input hinput => h input hinput _

/-- An action is coerced as its inputs are. -/
theorem result_coerceAction (harguments : arguments.orNoArguments = .object args)
    (action : Action) (d : Diagnostics) :
    (coerceAction action arguments).result d =
      (coerceAll action.uid action.inputs (.object args)).result d := by
  rw [coerceAction, coerceAll, coerceAll, harguments, orNoArguments_object]

/-- Where no argument escapes, each is coerced to something, whatever the diagnostics are. -/
theorem exists_eachCoercesTo {action : Action} (h : NoneEscapes args action.inputs) :
    ∃ coerced, EachCoercesTo action args coerced := by
  have heach : ∀ input, ∃ c, input ∈ action.inputs → ∀ d : Diagnostics,
      ((coerceOne input (argumentOf args input) action.uid).run d).1 = .ok c := by
    intro input
    cases hfate : fateOf input.declaredType (argumentOf args input) with
    | ok fate =>
      refine ⟨fate.coerced input (argumentOf args input) action.uid, fun _ d => ?_⟩
      rw [← Reporting.result_eq, result_coerceOne, hfate, if_neg action.uid_ne]
      rfl
    | error e =>
      refine ⟨.absent, fun hinput => ?_⟩
      have hescape := h input hinput
      rw [fateOf_eq_error.1 hfate] at hescape
      cases hescape
  choose coerced hcoerced using heach
  exact ⟨coerced, hcoerced⟩

/-- **Coercing an action's arguments has a result if each of them has one.** -/
theorem exists_coerceAction_iff (harguments : arguments.orNoArguments = .object args)
    (action : Action) (d : Diagnostics) :
    (∃ r, ((coerceAction action arguments).run d).1 = .ok r) ↔
      ∃ coerced, EachCoercesTo action args coerced := by
  simp only [← Reporting.result_eq, result_coerceAction harguments, coerceAll_eq_ok]
  constructor
  · rintro ⟨r, hnone, -⟩
    exact exists_eachCoercesTo hnone
  · rintro ⟨coerced, hcoerced⟩
    exact ⟨_, hcoerced.coercedEach.noneEscapes, rfl⟩

/-- **An action gets one value for each input that was coerced,** under the name of the input. -/
theorem coerceAction_entries (harguments : arguments.orNoArguments = .object args)
    {action : Action} {coerced : Input → Coerced} (hcoerced : EachCoercesTo action args coerced)
    {d : Diagnostics} {r : List (String × Value)}
    (h : ((coerceAction action arguments).run d).1 = .ok r) :
    (r.map Prod.fst).Nodup ∧
      (∀ name v, (name, v) ∈ r ↔
        ∃ input, action.input? name = some input ∧ (coerced input).value? = some v) ∧
      r.length = (action.inputs.filter fun input => (coerced input).value?.isSome).length := by
  rw [← Reporting.result_eq, result_coerceAction harguments, coerceAll_eq_ok] at h
  obtain ⟨-, rfl⟩ := h
  rw [putFields_yields action.nodup_names, hcoerced.coercedEach.yields_eq]
  refine ⟨nodup_map_fst_entriesOf action.nodup_names, fun name v => ?_, ?_⟩
  · rw [entriesOf, List.mem_filterMap]
    simp only [Action.input?_eq_some_iff, Option.map_eq_some_iff, Prod.mk.injEq]
    constructor
    · rintro ⟨input, hinput, w, hw, hname, rfl⟩
      exact ⟨input, ⟨hinput, hname⟩, hw⟩
    · rintro ⟨input, ⟨hinput, hname⟩, hw⟩
      exact ⟨input, hinput, v, hw, hname, rfl⟩
  · rw [← List.length_map Prod.fst, map_fst_entriesOf, List.length_map]

/-- **Input names are unique, and looking one up is exact.** An object whose fields are all valid is
an action, with these inputs, if and only if no two of them share a name. Otherwise there is one
issue, with the object itself, which lists the names that occur at least twice, each once and in
ascending order. The input with a name is the only one of the name, and there is none when no input
has the name. So coercing the arguments of an action, which has a result if each of them has one,
gives no name two values, and as many values as inputs were coerced. -/
theorem input_names_unique :
    (∀ fields uid inputs, Action.FieldsValid fields uid inputs →
      ((∃ action, Action.check (.object fields) = .valid action) ↔
        (inputs.map Input.name).Nodup) ∧
      (∀ action, Action.check (.object fields) = .valid action → action.inputs = inputs) ∧
      (¬(inputs.map Input.name).Nodup → ∃ names : List String,
        Action.check (.object fields) =
          .invalid [⟨[], .refused ("action " ++ Text.quoted uid.val ++
            " declares duplicate inputs: " ++ textsShown names)⟩] ∧
        names.Pairwise (· < ·) ∧
        ∀ name, name ∈ names ↔ 2 ≤ (inputs.map Input.name).count name)) ∧
    (∀ (action : Action) (name : String),
      (∀ input, action.input? name = some input ↔
        input ∈ action.inputs ∧ input.name = name) ∧
      (action.input? name = none ↔ ∀ input ∈ action.inputs, input.name ≠ name)) ∧
    ∀ (action : Action) (arguments : Value) args (d : Diagnostics),
      arguments.orNoArguments = .object args →
      ((∃ r, ((coerceAction action arguments).run d).1 = .ok r) ↔
        ∃ coerced, EachCoercesTo action args coerced) ∧
      ∀ coerced r, EachCoercesTo action args coerced →
        ((coerceAction action arguments).run d).1 = .ok r →
          (r.map Prod.fst).Nodup ∧
          (∀ name v, (name, v) ∈ r ↔
            ∃ input, action.input? name = some input ∧ (coerced input).value? = some v) ∧
          r.length = (action.inputs.filter fun input => (coerced input).value?.isSome).length := by
  refine ⟨fun fields uid inputs h => ?_,
    fun action name => ⟨fun input => Action.input?_eq_some_iff, Action.input?_eq_none_iff⟩,
    fun action arguments args d harguments =>
      ⟨exists_coerceAction_iff harguments action d, fun coerced r hcoerced hr =>
        coerceAction_entries harguments hcoerced hr⟩⟩
  by_cases hnodup : (inputs.map Input.name).Nodup
  · obtain ⟨action, hcheck, -, hinputs⟩ := h.exists_valid hnodup
    refine ⟨⟨fun _ => hnodup, fun _ => ⟨action, hcheck⟩⟩, fun other hother => ?_,
      fun hrepeated => absurd hnodup hrepeated⟩
    rw [hcheck] at hother
    rw [← Checked.valid.inj hother, hinputs]
  · obtain ⟨names, hcheck, hnames⟩ := h.exists_refused hnodup
    rw [hcheck]
    refine ⟨⟨fun ⟨_, hvalid⟩ => ?_, fun h => absurd h hnodup⟩, fun _ hvalid => ?_,
      fun _ => ⟨names.toList, rfl, names.ascending, hnames⟩⟩
    · cases hvalid
    · cases hvalid

end

/-- An object with the inputs of an action, of which two share a name. -/
def twiceNamed : List (String × Value) :=
  [("uid", .text "scene"),
   ("inputs", .list ([byteLevel, modeInput, byteLevel].map Input.toValue))]

/-- An action with a level and a mode. -/
def sceneAction : Action :=
  ⟨"scene", none, none, .visible, TextSet.empty, [byteLevel, modeInput], [], by decide, by decide⟩

/-- Arguments of which one fails. -/
def sceneArguments : List (String × Value) := [("level", .text "300"), ("mode", .text "3")]

/-- What becomes of these arguments. -/
def sceneValue (input : Input) : Coerced :=
  if input.name = "mode" then .typed .int (.int 3)
  else .failed ⟨"scene", "level", .text "300", "byte", .outOfRange 8⟩

/-- One name of two is repeated, and one argument of two fails. -/
theorem input_names_unique_scene :
    (Action.FieldsValid twiceNamed ⟨"scene", by decide⟩ [byteLevel, modeInput, byteLevel] ∧
      ∃ names : List String, Action.check (.object twiceNamed) =
          .invalid [⟨[], .refused ("action " ++ Text.quoted "scene" ++
            " declares duplicate inputs: " ++ textsShown names)⟩] ∧
        "level" ∈ names ∧ "mode" ∉ names) ∧
      sceneAction.input? "mode" = some modeInput ∧
      (Value.object sceneArguments).orNoArguments = .object sceneArguments ∧
      EachCoercesTo sceneAction sceneArguments sceneValue ∧
      ∃ r, ((coerceAction sceneAction (.object sceneArguments)).run (.ofLevel .info)).1 = .ok r ∧
        ("mode", .int 3) ∈ r ∧ r.length = 1 := by
  have hvalid : Action.FieldsValid twiceNamed ⟨"scene", by decide⟩
      [byteLevel, modeInput, byteLevel] :=
    ⟨rfl, ⟨_, rfl⟩, ⟨_, rfl⟩, ⟨_, rfl⟩, ⟨_, rfl⟩, rfl, ⟨_, rfl⟩⟩
  have harguments := orNoArguments_object sceneArguments
  have heach : EachCoercesTo sceneAction sceneArguments sceneValue := by
    intro input hinput d
    rw [← Reporting.result_eq, result_coerceOne]
    rcases List.mem_pair.1 hinput with rfl | rfl <;> rfl
  obtain ⟨hread, hlookUp, hcoerce⟩ := input_names_unique
  obtain ⟨names, hcheck, -, hnames⟩ := (hread _ _ _ hvalid).2.2 (by decide)
  obtain ⟨hresult, hentries⟩ := hcoerce sceneAction _ _ (.ofLevel .info) harguments
  obtain ⟨r, hr⟩ := hresult.2 ⟨sceneValue, heach⟩
  obtain ⟨-, hmem, hlength⟩ := hentries sceneValue r heach hr
  have hmode : sceneAction.input? "mode" = some modeInput :=
    ((hlookUp sceneAction "mode").1 modeInput).2 ⟨by decide, rfl⟩
  refine ⟨⟨hvalid, names, hcheck, (hnames _).2 (by decide), fun h => ?_⟩, hmode, harguments, heach,
    r, hr, (hmem _ _).2 ⟨modeInput, hmode, rfl⟩, hlength.trans (by decide)⟩
  exact absurd ((hnames _).1 h) (by decide)

end Coercion
end TypedInputs
