/-
# Actions

An action has a uid, inputs and outputs. Inputs declare their type by an identifier, which
`DeclaredType.ofIdentifier` explains; no two inputs of an action share a name. Names and uids are
never empty.

`check` reads a model from data, and `toValue` writes it with every field under its name on the
wire, null for what is absent and tags in ascending order; what is written reads as the same model.
-/

import TypedInputs.DeclaredType
import TypedInputs.Shown
import TypedInputs.Validation

namespace TypedInputs

/-- A formal parameter of an action. -/
structure Input where
  name : String
  type : String
  label : Option String
  description : Option String
  required : Bool
  defaultValue : String
  tags : TextSet
  reference : Option String
  name_ne : name ≠ ""
deriving DecidableEq

/-- A result of an action. -/
structure Output where
  name : String
  type : String
  label : Option String
  description : Option String
  defaultValue : String
  tags : TextSet
  reference : Option String
  name_ne : name ≠ ""
deriving DecidableEq

/-- Who gets to see an action. -/
inductive Visibility where
  | visible
  | hidden
  | expert
deriving Repr, DecidableEq

namespace Visibility

/-- All degrees of visibility. -/
def all : List Visibility := [visible, hidden, expert]

/-- The name of a degree of visibility. -/
def name : Visibility → String
  | visible => "VISIBLE"
  | hidden => "HIDDEN"
  | expert => "EXPERT"

end Visibility

/-- An action. -/
structure Action where
  uid : String
  label : Option String
  description : Option String
  visibility : Visibility
  tags : TextSet
  inputs : List Input
  outputs : List Output
  uid_ne : uid ≠ ""
  nodup_names : (inputs.map Input.name).Nodup
deriving DecidableEq

/-- A text or null. -/
def Value.ofText? (s : Option String) : Value := (s.map .text).getD .null

/-- A list of texts. -/
def Value.ofTexts (texts : List String) : Value := .list (texts.map .text)

namespace Input

/-- The name of the model in reports. -/
def model : String := "InputDescriptor"

/-- What the declared type means. -/
def declaredType (input : Input) : DeclaredType := .ofIdentifier input.type

/-- An input read from the fields of an object. -/
def ofFields (fields : List (String × Value)) : Checked Input :=
  (fun name type label description required defaultValue tags reference =>
      ⟨name.val, type, label, description, required, defaultValue, tags, reference,
        name.property⟩) <$>
    (FieldName.word "name").required Check.nonEmptyText fields <*>
    (FieldName.word "type").required Check.text fields <*>
    (FieldName.word "label").withDefault none (Check.orNull Check.text) fields <*>
    (FieldName.word "description").withDefault none (Check.orNull Check.text) fields <*>
    (FieldName.word "required").withDefault false Check.flag fields <*>
    FieldName.defaultValue.withDefault "" Check.textOrNull fields <*>
    (FieldName.word "tags").withDefault TextSet.empty Check.textSet fields <*>
    (FieldName.word "reference").withDefault none (Check.orNull Check.text) fields

/-- An input read from data. -/
def check : Check Input := Check.fieldsOf model ofFields

/-- An input with all its fields. -/
def toValue (input : Input) : Value :=
  .object
    [("name", .text input.name), ("type", .text input.type), ("label", .ofText? input.label),
     ("description", .ofText? input.description), ("required", .bool input.required),
     ("defaultValue", .text input.defaultValue), ("tags", .ofTexts input.tags.toList),
     ("reference", .ofText? input.reference)]

end Input

namespace Output

/-- The name of the model in reports. -/
def model : String := "OutputDescriptor"

/-- An output read from the fields of an object. -/
def ofFields (fields : List (String × Value)) : Checked Output :=
  (fun name type label description defaultValue tags reference =>
      ⟨name.val, type, label, description, defaultValue, tags, reference, name.property⟩) <$>
    (FieldName.word "name").required Check.nonEmptyText fields <*>
    (FieldName.word "type").required Check.text fields <*>
    (FieldName.word "label").withDefault none (Check.orNull Check.text) fields <*>
    (FieldName.word "description").withDefault none (Check.orNull Check.text) fields <*>
    FieldName.defaultValue.withDefault "" Check.textOrNull fields <*>
    (FieldName.word "tags").withDefault TextSet.empty Check.textSet fields <*>
    (FieldName.word "reference").withDefault none (Check.orNull Check.text) fields

/-- An output read from data. -/
def check : Check Output := Check.fieldsOf model ofFields

/-- An output with all its fields. -/
def toValue (output : Output) : Value :=
  .object
    [("name", .text output.name), ("type", .text output.type), ("label", .ofText? output.label),
     ("description", .ofText? output.description), ("defaultValue", .text output.defaultValue),
     ("tags", .ofTexts output.tags.toList), ("reference", .ofText? output.reference)]

end Output

/-- The texts that occur more than once, with one occurrence for each repetition. -/
def repeated : List String → List String
  | [] => []
  | s :: rest => if s ∈ rest then s :: repeated rest else repeated rest

/-- Texts of which none is repeated differ from each other. -/
theorem nodup_of_repeated_eq_nil {texts : List String} (h : repeated texts = []) : texts.Nodup := by
  induction texts with
  | nil => exact .nil
  | cons s rest ih =>
    by_cases hs : s ∈ rest
    · simp [repeated, hs] at h
    · simp only [repeated, hs, if_false] at h
      exact List.nodup_cons.2 ⟨hs, ih h⟩

namespace Action

/-- The name of the model in reports. -/
def model : String := "ActionType"

/-- The input with a name. -/
def input? (action : Action) (name : String) : Option Input :=
  action.inputs.find? fun input => input.name == name

/-- The action with fields that are all valid. It is refused when inputs share a name, and the
names that do are reported once each, in ascending order. -/
def ofParts (uid : { s : String // s ≠ "" }) (label description : Option String)
    (visibility : Visibility) (tags : TextSet) (inputs : List Input) (outputs : List Output) :
    Checked Action :=
  if h : repeated (inputs.map Input.name) = [] then
    .valid ⟨uid.val, label, description, visibility, tags, inputs, outputs, uid.property,
      nodup_of_repeated_eq_nil h⟩
  else
    .issue (.refused ("action " ++ Text.quoted uid.val ++ " declares duplicate inputs: " ++
      textsShown (TextSet.ofList (repeated (inputs.map Input.name))).toList))

/-- An action read from the fields of an object. -/
def ofFields (fields : List (String × Value)) : Checked Action :=
  (ofParts <$>
    (FieldName.word "uid").required Check.nonEmptyText fields <*>
    (FieldName.word "label").withDefault none (Check.orNull Check.text) fields <*>
    (FieldName.word "description").withDefault none (Check.orNull Check.text) fields <*>
    (FieldName.word "visibility").withDefault .visible
      (Check.oneOf Visibility.all Visibility.name) fields <*>
    (FieldName.word "tags").withDefault TextSet.empty Check.textSet fields <*>
    (FieldName.word "inputs").withDefault [] (Check.tuple Input.check) fields <*>
    (FieldName.word "outputs").withDefault [] (Check.tuple Output.check) fields).andThen id

/-- An action read from data. -/
def check : Check Action := Check.fieldsOf model ofFields

/-- An action with all its fields. -/
def toValue (action : Action) : Value :=
  .object
    [("uid", .text action.uid), ("label", .ofText? action.label),
     ("description", .ofText? action.description), ("visibility", .text action.visibility.name),
     ("tags", .ofTexts action.tags.toList), ("inputs", .list (action.inputs.map Input.toValue)),
     ("outputs", .list (action.outputs.map Output.toValue))]

end Action
end TypedInputs
