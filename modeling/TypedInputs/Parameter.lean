/-
# Parameters of a configuration page

A parameter describes one input to whoever fills it in: its category, the editor that fits it, and
what to start from. The description of an action holds parameters for all of its inputs, or none at
all when one of the inputs cannot be described.
-/

import TypedInputs.Action

namespace TypedInputs

/-- The description of one input. -/
structure Parameter where
  name : String
  type : Category
  label : Option String
  description : Option String
  required : Bool
  readOnly : Bool
  context : Option Context
  default : Option String
deriving Repr, DecidableEq

/-- The description of one action. -/
structure ActionDescription where
  uid : String
  label : Option String
  description : Option String
  inputs : List Input
  parameters : Option (List Parameter)
  outputs : List Output
deriving DecidableEq

/-- A value that is null. -/
def Value.isNull : Value → Bool
  | .null => true
  | _ => false

namespace Parameter

/-- The name of the model in reports. -/
def model : String := "ParameterDescriptor"

/-- A parameter read from the fields of an object. -/
def ofFields (fields : List (String × Value)) : Checked Parameter :=
  Parameter.mk <$>
    (FieldName.word "name").required Check.text fields <*>
    (FieldName.word "type").required (Check.oneOf Category.all Category.name) fields <*>
    (FieldName.word "label").withDefault none (Check.orNull Check.text) fields <*>
    (FieldName.word "description").withDefault none (Check.orNull Check.text) fields <*>
    (FieldName.word "required").withDefault false Check.flag fields <*>
    FieldName.readOnly.withDefault false Check.flag fields <*>
    (FieldName.word "context").withDefault none
      (Check.orNull (Check.oneOf Context.all Context.name)) fields <*>
    (FieldName.word "default").withDefault none (Check.orNull Check.text) fields

/-- A parameter read from data. -/
def check : Check Parameter := Check.fieldsOf model ofFields

/-- The fields of a parameter. -/
def toFields (p : Parameter) : List (String × Value) :=
  [("name", .text p.name), ("type", .text p.type.name), ("label", .ofText? p.label),
   ("description", .ofText? p.description), ("required", .bool p.required),
   ("readOnly", .bool p.readOnly), ("context", .ofText? (p.context.map Context.name)),
   ("default", .ofText? p.default)]

/-- A parameter with all its fields. -/
def toValue (p : Parameter) : Value := .object p.toFields

/-- A parameter with the fields that are there. -/
def toPayload (p : Parameter) : Value := .object (p.toFields.filter fun (_, v) => !v.isNull)

end Parameter

namespace ActionDescription

/-- An action that can be configured in full. -/
def isConfigurable (d : ActionDescription) : Bool := d.parameters.isSome

/-- The parameters, null when there are none. -/
def parametersValue : Option (List Parameter) → Value
  | some parameters => .list (parameters.map Parameter.toValue)
  | none => .null

/-- A description with all its fields. -/
def toPayload (d : ActionDescription) : Value :=
  .object
    [("actionUid", .text d.uid), ("label", .ofText? d.label),
     ("description", .ofText? d.description), ("inputs", .list (d.inputs.map Input.toValue)),
     ("inputConfigDescriptions", parametersValue d.parameters),
     ("outputs", .list (d.outputs.map Output.toValue))]

end ActionDescription
end TypedInputs
