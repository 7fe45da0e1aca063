/-
# What is written of a catalog reads as the catalog

A dump of a model has every field under its name on the wire, among whatever other fields, and tags as a
list in whatever order (`Input.IsDump`, `Output.IsDump`, `Action.IsDump`). Dumps of actions load as
these actions, in a bare list and under `actions` (`load_of_isDump`). The payload of a parameter leaves
out what is null, and what is left out is null when it is read (`check_toPayload`).
-/

import TypedInputs.Catalog.Yaml
import TypedInputs.Parameter
import TypedInputs.Proofs.Validation

namespace TypedInputs

/-- A list of the texts of a set, each once. -/
def TextSet.IsDump (set : TextSet) (v : Value) : Prop :=
  ∃ texts : List String, texts.Perm set.toList ∧ v = .ofTexts texts

theorem TextSet.isDump_toList (set : TextSet) : set.IsDump (.ofTexts set.toList) :=
  ⟨set.toList, .refl _, rfl⟩

/-- A dump of a set reads as the set. -/
theorem Check.textSet_of_isDump {set : TextSet} {v : Value} (h : set.IsDump v) :
    textSet v = .valid set := by
  obtain ⟨texts, hperm, rfl⟩ := h
  exact textSet_ofTexts fun s => hperm.mem_iff

/-! ### Inputs and outputs -/

/-- Fields that say all of an input. -/
structure Input.DumpedAs (input : Input) (fields : List (String × Value)) : Prop where
  name : field? fields "name" = some (.text input.name)
  type : field? fields "type" = some (.text input.type)
  label : field? fields "label" = some (.ofText? input.label)
  description : field? fields "description" = some (.ofText? input.description)
  required : field? fields "required" = some (.bool input.required)
  defaultValue : field? fields "defaultValue" = some (.text input.defaultValue)
  tags : ∃ v, field? fields "tags" = some v ∧ input.tags.IsDump v
  reference : field? fields "reference" = some (.ofText? input.reference)

/-- A dump of an input. -/
def Input.IsDump (input : Input) (v : Value) : Prop :=
  ∃ fields, v = .object fields ∧ input.DumpedAs fields

theorem Input.isDump_toValue (input : Input) : input.IsDump input.toValue :=
  ⟨_, rfl, rfl, rfl, rfl, rfl, rfl, rfl, ⟨_, rfl, input.tags.isDump_toList⟩, rfl⟩

/-- **A dump of an input reads as the input.** -/
theorem Input.check_of_isDump {input : Input} {v : Value} (h : input.IsDump v) :
    Input.check v = .valid input := by
  obtain ⟨fields, rfl, h⟩ := h
  obtain ⟨tags, htags, hset⟩ := h.tags
  show Input.ofFields fields = .valid input
  unfold Input.ofFields
  rw [(FieldName.word "name").required_of_field? h.name (Check.nonEmptyText_text input.name_ne),
    (FieldName.word "type").required_of_field? h.type (Check.text_text _),
    (FieldName.word "label").withDefault_of_field? h.label (Check.orNull_text _),
    (FieldName.word "description").withDefault_of_field? h.description (Check.orNull_text _),
    (FieldName.word "required").withDefault_of_field? h.required (Check.flag_bool _),
    FieldName.defaultValue.withDefault_of_field? h.defaultValue (Check.textOrNull_text _),
    (FieldName.word "tags").withDefault_of_field? htags (Check.textSet_of_isDump hset),
    (FieldName.word "reference").withDefault_of_field? h.reference (Check.orNull_text _)]
  rfl

/-- Fields that say all of an output. -/
structure Output.DumpedAs (output : Output) (fields : List (String × Value)) : Prop where
  name : field? fields "name" = some (.text output.name)
  type : field? fields "type" = some (.text output.type)
  label : field? fields "label" = some (.ofText? output.label)
  description : field? fields "description" = some (.ofText? output.description)
  defaultValue : field? fields "defaultValue" = some (.text output.defaultValue)
  tags : ∃ v, field? fields "tags" = some v ∧ output.tags.IsDump v
  reference : field? fields "reference" = some (.ofText? output.reference)

/-- A dump of an output. -/
def Output.IsDump (output : Output) (v : Value) : Prop :=
  ∃ fields, v = .object fields ∧ output.DumpedAs fields

theorem Output.isDump_toValue (output : Output) : output.IsDump output.toValue :=
  ⟨_, rfl, rfl, rfl, rfl, rfl, rfl, ⟨_, rfl, output.tags.isDump_toList⟩, rfl⟩

/-- **A dump of an output reads as the output.** -/
theorem Output.check_of_isDump {output : Output} {v : Value} (h : output.IsDump v) :
    Output.check v = .valid output := by
  obtain ⟨fields, rfl, h⟩ := h
  obtain ⟨tags, htags, hset⟩ := h.tags
  show Output.ofFields fields = .valid output
  unfold Output.ofFields
  rw [(FieldName.word "name").required_of_field? h.name (Check.nonEmptyText_text output.name_ne),
    (FieldName.word "type").required_of_field? h.type (Check.text_text _),
    (FieldName.word "label").withDefault_of_field? h.label (Check.orNull_text _),
    (FieldName.word "description").withDefault_of_field? h.description (Check.orNull_text _),
    FieldName.defaultValue.withDefault_of_field? h.defaultValue (Check.textOrNull_text _),
    (FieldName.word "tags").withDefault_of_field? htags (Check.textSet_of_isDump hset),
    (FieldName.word "reference").withDefault_of_field? h.reference (Check.orNull_text _)]
  rfl

/-! ### Actions -/

/-- Fields that say all of an action. -/
structure Action.DumpedAs (action : Action) (fields : List (String × Value)) : Prop where
  uid : field? fields "uid" = some (.text action.uid)
  label : field? fields "label" = some (.ofText? action.label)
  description : field? fields "description" = some (.ofText? action.description)
  visibility : field? fields "visibility" = some (.text action.visibility.name)
  tags : ∃ v, field? fields "tags" = some v ∧ action.tags.IsDump v
  inputs : ∃ values, field? fields "inputs" = some (.list values) ∧
    List.Forall₂ Input.IsDump action.inputs values
  outputs : ∃ values, field? fields "outputs" = some (.list values) ∧
    List.Forall₂ Output.IsDump action.outputs values

/-- A dump of an action. -/
def Action.IsDump (action : Action) (v : Value) : Prop :=
  ∃ fields, v = .object fields ∧ action.DumpedAs fields

/-- What an action writes is a dump of it. -/
theorem Action.isDump_toValue (action : Action) : action.IsDump action.toValue := by
  refine ⟨_, rfl, rfl, rfl, rfl, rfl, ⟨_, rfl, action.tags.isDump_toList⟩, ⟨_, rfl, ?_⟩, ⟨_, rfl, ?_⟩⟩
  · exact List.forall₂_map_right_iff.2 (List.forall₂_same.2 fun input _ => input.isDump_toValue)
  · exact List.forall₂_map_right_iff.2 (List.forall₂_same.2 fun output _ => output.isDump_toValue)

/-- The parts of an action make the action. -/
theorem Action.ofParts_parts (action : Action) :
    ofParts ⟨action.uid, action.uid_ne⟩ action.label action.description action.visibility
      action.tags action.inputs action.outputs = .valid action :=
  dif_pos (repeated_eq_nil_of_nodup action.nodup_names)

/-- **A dump of an action reads as the action.** -/
theorem Action.check_of_isDump {action : Action} {v : Value} (h : action.IsDump v) :
    Action.check v = .valid action := by
  obtain ⟨fields, rfl, h⟩ := h
  obtain ⟨tags, htags, hset⟩ := h.tags
  obtain ⟨inputs, hinputs, hinput⟩ := h.inputs
  obtain ⟨outputs, houtputs, houtput⟩ := h.outputs
  have hcheckInputs : Check.tuple Input.check (.list inputs) = .valid action.inputs :=
    Check.itemsFrom_of_forall₂ (hinput.flip.imp fun _ _ => Input.check_of_isDump) 0
  have hcheckOutputs : Check.tuple Output.check (.list outputs) = .valid action.outputs :=
    Check.itemsFrom_of_forall₂ (houtput.flip.imp fun _ _ => Output.check_of_isDump) 0
  show Action.ofFields fields = .valid action
  unfold Action.ofFields
  rw [(FieldName.word "uid").required_of_field? h.uid (Check.nonEmptyText_text action.uid_ne),
    (FieldName.word "label").withDefault_of_field? h.label (Check.orNull_text _),
    (FieldName.word "description").withDefault_of_field? h.description (Check.orNull_text _),
    (FieldName.word "visibility").withDefault_of_field? h.visibility (Check.visibility_name _),
    (FieldName.word "tags").withDefault_of_field? htags (Check.textSet_of_isDump hset),
    (FieldName.word "inputs").withDefault_of_field? hinputs hcheckInputs,
    (FieldName.word "outputs").withDefault_of_field? houtputs hcheckOutputs]
  exact action.ofParts_parts

/-! ### Parameters -/

/-- The fields that are there unless they are null. -/
theorem field?_filter_isNull {fields : List (String × Value)} (h : (fields.map Prod.fst).Nodup)
    (name : String) :
    field? (fields.filter fun entry => !entry.2.isNull) name =
      (field? fields name).filter fun v => !v.isNull := by
  induction fields with
  | nil => rfl
  | cons entry rest ih =>
    obtain ⟨n, v⟩ := entry
    obtain ⟨hn, hrest⟩ := List.nodup_cons.1 h
    have hkept := ih hrest
    by_cases hname : n = name
    · subst hname
      rw [field?_cons_self]
      cases hnull : v.isNull with
      | true =>
        -- No later field has the name, so nothing comes in the place of the null.
        rw [field?_eq_none.2 hn] at hkept
        rw [List.filter_cons_of_neg (by simp [hnull]), hkept, Option.filter_some, hnull]
        rfl
      | false =>
        rw [List.filter_cons_of_pos (by simp [hnull]), field?_cons_self, Option.filter_some, hnull]
        rfl
    · rw [field?_cons_of_ne hname, List.filter_cons]
      split
      · rw [field?_cons_of_ne hname, hkept]
      · exact hkept

/-- A field that is there unless it is null, and null when it is absent. -/
theorem FieldName.withDefault_orNull {α : Type} {check : Check α} {fields : List (String × Value)}
    {s : String} {v : Value} {a : Option α}
    (h : field? fields s = (some v).filter fun v => !v.isNull)
    (hcheck : Check.orNull check v = .valid a) :
    (word s).withDefault none (Check.orNull check) fields = .valid a := by
  cases hnull : v.isNull with
  | true =>
    obtain rfl : v = .null := by
      cases v <;> first | rfl | cases hnull
    rw [FieldName.withDefault_of_absent h]
    exact hcheck
  | false =>
    rw [Option.filter_some, hnull] at h
    exact (word s).withDefault_of_field? h hcheck

/-- **The payload of a parameter reads as the parameter.** -/
theorem Parameter.check_toPayload (p : Parameter) : Parameter.check p.toPayload = .valid p := by
  have hnames : (p.toFields.map Prod.fst).Nodup := by
    show ["name", "type", "label", "description", "required", "readOnly", "context",
      "default"].Nodup
    decide
  have hkept := field?_filter_isNull hnames
  show Parameter.ofFields (p.toFields.filter fun entry => !entry.2.isNull) = .valid p
  generalize (p.toFields.filter fun entry => !entry.2.isNull) = fields at hkept
  unfold Parameter.ofFields
  rw [(FieldName.word "name").required_of_field? (hkept "name") (Check.text_text _),
    (FieldName.word "type").required_of_field? (hkept "type") (Check.category_name _),
    FieldName.withDefault_orNull (hkept "label") (Check.orNull_text _),
    FieldName.withDefault_orNull (hkept "description") (Check.orNull_text _),
    (FieldName.word "required").withDefault_of_field? (hkept "required") (Check.flag_bool _),
    FieldName.readOnly.withDefault_of_field? (hkept "readOnly") (Check.flag_bool _),
    FieldName.withDefault_orNull (hkept "context") (Check.orNull_context _),
    FieldName.withDefault_orNull (hkept "default") (Check.orNull_text _)]
  rfl

namespace Catalog

open Diagnostics

section

variable [YamlLibrary]

/-- **What is written of a catalog reads as the catalog.** -/
theorem load_of_isDump (files : Files) (path : Option String) (d : Diagnostics)
    {actions : List Action} {dumps : List Value} (h : List.Forall₂ Action.IsDump actions dumps) :
    (load files path (.list dumps)).run d = (.ok actions, d) ∧
    ∀ fields, field? fields "actions" = some (.list dumps) →
      (load files path (.object fields)).run d = (.ok actions, d) := by
  have hitems : ofItems (.list dumps) = .ok actions := by
    have hcheck : Check.itemsFrom Action.check 0 dumps = .valid actions :=
      Check.itemsFrom_of_forall₂ (h.flip.imp fun _ _ => Action.check_of_isDump) 0
    rw [ofItems, ofList, hcheck]
  have hlist : ofData (.list dumps) = .ok actions := hitems
  refine ⟨?_, fun fields hfields => ?_⟩
  · show (liftM (ofData (.list dumps)) : Reporting CatalogFault _).run d = _
    rw [hlist]
    rfl
  · have hobject : ofData (.object fields) = .ok actions := by
      rw [ofData, hfields]
      exact hitems
    show (liftM (ofData (.object fields)) : Reporting CatalogFault _).run d = _
    rw [hobject]
    rfl

/-- **Reading undoes writing.** Actions, such as those that were loaded from whatever data, are dumped
with all their fields, and every dump of them loads as the same actions in the same order: in a list, and
in an object with such a list under `actions`, whatever else is in it. The payload of a parameter reads
as the same parameter. -/
theorem reading_undoes_writing (files : Files) (path : Option String) (d : Diagnostics) :
    (∀ actions : List Action,
      List.Forall₂ Action.IsDump actions (actions.map Action.toValue) ∧
      ∀ dumps, List.Forall₂ Action.IsDump actions dumps →
        (load files path (.list dumps)).run d = (.ok actions, d) ∧
        ∀ fields, field? fields "actions" = some (.list dumps) →
          (load files path (.object fields)).run d = (.ok actions, d)) ∧
    ∀ p : Parameter, Parameter.check p.toPayload = .valid p := by
  refine ⟨fun actions => ⟨?_, fun dumps hdumps => load_of_isDump files path d hdumps⟩,
    Parameter.check_toPayload⟩
  exact List.forall₂_map_right_iff.2 (List.forall₂_same.2 fun action _ => action.isDump_toValue)

end

/-- An action with two tags. -/
def lampAction : Action :=
  ⟨"lamp", some "Lamp", none, .expert, TextSet.ofList ["dimmable", "indoor"],
    [⟨"brightness", "byte", none, none, true, "1", TextSet.ofList ["dimmable"], none, by decide⟩],
    [⟨"glow", "String", none, none, "", TextSet.empty, some "lamp", by decide⟩],
    by decide, by decide⟩

/-- A dump of the lamp, its tags and its fields in another order than it writes them. -/
def lampDump : Value :=
  .object
    [("tags", .ofTexts ["indoor", "dimmable"]), ("uid", .text "lamp"), ("label", .text "Lamp"),
     ("visibility", .text "EXPERT"), ("description", .null), ("version", .int 2),
     ("inputs", .list (lampAction.inputs.map Input.toValue)),
     ("outputs", .list (lampAction.outputs.map Output.toValue))]

/-- The dump of the lamp in an object with another field loads as the lamp. -/
theorem reading_undoes_writing_lamp :
    List.Forall₂ Action.IsDump [lampAction] [lampDump] ∧
      field? [("name", Value.text "lamps"), ("actions", .list [lampDump])] "actions" =
        some (.list [lampDump]) ∧
      (load (fun _ => .missing) none
        (.object [("name", .text "lamps"), ("actions", .list [lampDump])])).run
          (.ofLevel .info) = (.ok [lampAction], .ofLevel .info) := by
  have hdump : lampAction.IsDump lampDump := by
    refine ⟨_, rfl, rfl, rfl, rfl, rfl, ⟨_, rfl, ["indoor", "dimmable"], ?_, rfl⟩, ⟨_, rfl, ?_⟩,
      ⟨_, rfl, ?_⟩⟩
    · decide
    · exact .cons (Input.isDump_toValue _) .nil
    · exact .cons (Output.isDump_toValue _) .nil
  have hdumps : List.Forall₂ Action.IsDump [lampAction] [lampDump] := .cons hdump .nil
  have hfield : field? [("name", Value.text "lamps"), ("actions", .list [lampDump])] "actions" =
      some (.list [lampDump]) := rfl
  refine ⟨hdumps, hfield, ?_⟩
  exact (((reading_undoes_writing _ none (.ofLevel .info)).1 [lampAction]).2 _ hdumps).2 _ hfield

end Catalog
end TypedInputs
