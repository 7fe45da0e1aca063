/-
# Descriptions

An input with a type that can be described becomes a parameter. The input's own default counts if it
is not empty, and the type's otherwise; a parameter is required when the type or the input says so.

| function | an input that cannot be described |
| --- | --- |
| `describeInput` | is reported by a record and a notice, and gives nothing |
| `describeInputs` | ends the description: there is no partial list |
| `requireParameters` | is an error, reported all the same |
| `describeAction` | leaves the action without parameters |
-/

import TypedInputs.Diagnostics
import TypedInputs.Parameter

namespace TypedInputs

open Diagnostics

/-- An input whose type cannot be described. -/
structure UnsupportedInput where
  input : String
  declaredType : String
deriving Repr, DecidableEq

namespace UnsupportedInput

/-- The name of this kind of failure. -/
def kind : String := "UnsupportedInputType"

/-- The reason alone. -/
def reason (e : UnsupportedInput) : String :=
  "Unsupported input parameter '" ++ e.input ++ "' having type " ++ e.declaredType

/-- The details. -/
def details (e : UnsupportedInput) : List (String × Value) :=
  [("input", .text e.input), ("declared_type", .text e.declaredType)]

/-- The reason with the details. -/
def message (e : UnsupportedInput) : String :=
  withDetails e.reason
    [("input", Text.quoted e.input), ("declared_type", Text.quoted e.declaredType)]

/-- The notice of the failure. -/
def notice (e : UnsupportedInput) (uid : String) : Notice :=
  ⟨"describe.input", "unsupported", uid, .object e.details⟩

end UnsupportedInput

/-- The parameter for an input, `none` when its type cannot be described. -/
def Input.parameter? (input : Input) : Option Parameter :=
  input.declaredType.intrinsics?.map fun rules =>
    { name := input.name
      type := rules.category
      label := input.label
      description := input.description
      required := rules.required || input.required
      readOnly := false
      context := rules.context
      default := if input.defaultValue = "" then rules.default else some input.defaultValue }

/-- The failure to describe an input. -/
def Input.unsupported (input : Input) : UnsupportedInput := ⟨input.name, input.type⟩

namespace Description

/-- The logger of the descriptions of inputs. -/
def inputLogger : String := loggerOf "descriptors.engine"

/-- The logger of the descriptions of actions. -/
def actionLogger : String := loggerOf "descriptors.actions"

/-- An input that cannot be described, reported under the uid in force. -/
def report {ε : Type} (e : UnsupportedInput) : Reporting ε Unit := do
  Reporting.record .info inputLogger e.reason
  let inForce := (← get).uid
  Reporting.notify (e.notice inForce)

/-- An input described. -/
def describeInput {ε : Type} (input : Input) : Reporting ε (Option Parameter) :=
  match input.parameter? with
  | some parameter => return some parameter
  | none => do
    report input.unsupported
    return none

/-- All inputs described, or nothing if one of them cannot be. -/
def describeInputs {ε : Type} : List Input → Reporting ε (Option (List Parameter))
  | [] => return some []
  | input :: rest => do
    match ← describeInput input with
    | some parameter => return (← describeInputs rest).map (parameter :: ·)
    | none => return none

/-- All inputs described; the first one that cannot be is the error. -/
def requireParameters : List Input → Reporting UnsupportedInput (List Parameter)
  | [] => return []
  | input :: rest => do
    match ← describeInput input with
    | some parameter => return parameter :: (← requireParameters rest)
    | none => throw input.unsupported

/-- An action described. -/
def describeAction {ε : Type} (action : Action) : Reporting ε ActionDescription :=
  Reporting.withUid action.uid do
    let parameters ← describeInputs action.inputs
    if parameters.isNone then
      Reporting.record .debug actionLogger
        ("Action " ++ action.uid ++ " has inputs without a UI representation")
    return ⟨action.uid, action.label, action.description, action.inputs, parameters, action.outputs⟩

/-- Actions described, in their order. -/
def describeActions {ε : Type} (actions : List Action) : Reporting ε (List ActionDescription) :=
  actions.mapM describeAction

end Description
end TypedInputs
