/-
# Coercion

Coercion gives an action the native values it expects, as far as the arguments allow.

| argument | of a type | becomes |
| --- | --- | --- |
| null or missing | any | nothing |
| a number | with a number rule | the number narrowed to the type |
| a text | with a grammar | the value that the text writes |
| anything else | any | itself, passed through |

A number or text without such a value is a failure: the input is left out, and a warning and a
notice say so. `convert` decides what becomes of an argument and looks at nothing else; `coerceOne`
and `coerceAll` add the reports.

Little escapes from coercion: a date that the calendar does not have in its zone, and an integer
that is too long to be reported. `Escape` lists all of it.
-/

import TypedInputs.Action
import TypedInputs.Arguments
import TypedInputs.Diagnostics

namespace TypedInputs

open Number Diagnostics

variable [Zone.Directory]

/-- What ends coercion altogether. -/
inductive Escape where
  | noRule (tag : TypeTag)
  | beyondCalendar
  | kind (fault : KindFault)
deriving Repr, DecidableEq

/-- How an escape is reported. -/
def Escape.message : Escape → String
  | .noRule tag => tag.shown
  | .beyondCalendar => beyondCalendarMessage
  | .kind fault => fault.message

/-- A value that is no literal of an input's type. -/
structure CoercionFailure where
  uid : String
  input : String
  value : Value
  declaredType : String
  fault : LiteralFault

namespace CoercionFailure

/-- The name of this kind of failure. -/
def kind : String := "InvalidLiteral"

/-- What is wrong with the value. -/
def reason (f : CoercionFailure) : String := f.fault.message

/-- The warning about a failure whose value has a shown form. -/
def warning (f : CoercionFailure) (shown : String) : String :=
  "Action " ++ f.uid ++ " input parameter '" ++ f.input ++ "': converting value " ++ shown ++
    " into type " ++ f.declaredType ++ " failed (" ++ f.reason ++ ")! Input parameter is ignored."

/-- The details of a failure whose value has a shown form. -/
def detailsOf (f : CoercionFailure) (shown : String) : List (String × Value) :=
  [("action", .text f.uid), ("input", .text f.input), ("value", .text shown),
   ("declared_type", .text f.declaredType), ("reason", .text f.reason)]

/-- The details of a failure. -/
def details (f : CoercionFailure) : Except KindFault (List (String × Value)) :=
  f.value.shown.map f.detailsOf

/-- The notice of a failure whose value has a shown form. -/
def notice (f : CoercionFailure) (shown : String) : Notice :=
  ⟨"coerce.input", "invalid_literal", f.uid, .object (f.detailsOf shown)⟩

end CoercionFailure

/-- What became of an argument. -/
inductive Coerced where
  | absent
  | typed (tag : TypeTag) (value : Value)
  | passed (tag : TypeTag) (value : Value)
  | failed (failure : CoercionFailure)

/-- The value that an action gets. -/
def Coerced.value? : Coerced → Option Value
  | .typed _ v | .passed _ v => some v
  | .absent | .failed _ => none

namespace Coercion

/-- What an argument that is there converts to. -/
inductive Conversion where
  | typed (value : Value)
  | passed
  | invalid (fault : LiteralFault)

/-- What the reading of a literal means for the argument. -/
def conversionOf : Except LiteralError Value → Except Escape Conversion
  | .ok v => .ok (.typed v)
  | .error (.invalid e) => .ok (.invalid e.fault)
  | .error (.noRule tag) => .error (.noRule tag)
  | .error .beyondCalendar => .error .beyondCalendar

/-- A number for a type with a number rule. -/
def convertNumber (declared : DeclaredType) (raw : Value) : Except Escape Conversion :=
  match raw.toDouble with
  | .ok x => conversionOf (Literal.narrow declared x)
  | .error _ => .ok (.invalid .beyondDouble)

/-- An argument for a declared type. -/
def convert (declared : DeclaredType) (raw : Value) : Except Escape Conversion :=
  if raw.isNumber && declared.tag.hasNumberRule then convertNumber declared raw
  else
    match raw with
    | .text s =>
      if declared.tag.hasTextGrammar then conversionOf (Literal.parse declared s) else .ok .passed
    | _ => .ok .passed

/-- The logger of this module. -/
def logger : String := loggerOf "coercion.engine"

/-- A failure reported: a warning and a notice. -/
def report (f : CoercionFailure) : Reporting Escape Unit :=
  match f.value.shown with
  | .ok shown => do
    Reporting.record .warning logger (f.warning shown)
    Reporting.notify (f.notice shown)
  | .error fault => throw (.kind fault)

/-- An argument coerced for an input. Without a uid of its own a failure has the one in force. -/
def coerceOne (input : Input) (raw : Value) (uid : String) : Reporting Escape Coerced :=
  match raw with
  | .null => return .absent
  | raw => do
    let declared := input.declaredType
    match ← convert declared raw with
    | .typed v => return .typed declared.tag v
    | .passed => return .passed declared.tag raw
    | .invalid fault =>
      let inForce := (← get).uid
      let failure : CoercionFailure :=
        ⟨if uid = "" then inForce else uid, input.name, raw, declared.identifier, fault⟩
      report failure
      return .failed failure

/-- The values of inputs, and the names of those that were left out because they failed. -/
structure Harvest where
  values : List (String × Value)
  skipped : List String

/-- The harvest with one more input. The last value of a name counts. -/
def Harvest.add (h : Harvest) (name : String) : Coerced → Harvest
  | .typed _ v | .passed _ v => { h with values := setField name v h.values }
  | .failed _ => { h with skipped := h.skipped ++ [name] }
  | .absent => h

/-- One more input coerced. -/
def harvestOne (uid : String) (arguments : Value) (h : Harvest) (input : Input) :
    Reporting Escape Harvest := do
  let raw ← (arguments.argument input.name).mapError Escape.kind
  let coerced ← coerceOne input raw uid
  return h.add input.name coerced

/-- The remarks after all inputs: which arguments no input declares, and which inputs failed. -/
def remark (uid : String) (inputs : List Input) (arguments : Value) (h : Harvest) :
    Reporting Escape Unit := do
  let undeclared ← (arguments.undeclared (inputs.map Input.name)).mapError Escape.kind
  if !undeclared.isEmpty then
    let shown ← (Value.list undeclared).shown.mapError Escape.kind
    Reporting.record .debug logger
      ("Ignoring undeclared arguments for action " ++ uid ++ ": " ++ shown)
  if !h.skipped.isEmpty then
    Reporting.record .debug logger
      ("Coerced " ++ toString h.values.length ++ " argument(s) for action " ++ uid ++
        "; skipped " ++ textsShown h.skipped)

/-- The arguments coerced for all inputs of an action: each name with its value, in the order of the
inputs. -/
def coerceAll (uid : String) (inputs : List Input) (arguments : Value) :
    Reporting Escape (List (String × Value)) :=
  let arguments := arguments.orNoArguments
  Reporting.withUid uid do
    let harvest ← inputs.foldlM (harvestOne uid arguments) ⟨[], []⟩
    remark uid inputs arguments harvest
    return harvest.values

/-- The arguments of an action coerced. -/
def coerceAction (action : Action) (arguments : Value) : Reporting Escape (List (String × Value)) :=
  coerceAll action.uid action.inputs arguments

end Coercion
end TypedInputs
