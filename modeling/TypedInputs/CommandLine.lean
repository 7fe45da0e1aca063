/-
# The command line

| command | prints | ends with 1 when |
| --- | --- | --- |
| `describe` | the descriptions of a catalog's actions | the catalog does not load, or has no such action |
| `coerce` | the arguments of one action in canonical text | that, or the arguments are no object, or coercion escapes |
| `validate` | nothing | the catalog does not load, or an action cannot be described in full |

A run depends on the words, the environment and the files, and gives the exit code, what is printed,
and the diagnostics with the log and the lines of the event bus. Values that no rule applied to are
printed as they came. Arguments are read before the catalog, in JSON; two names in them that differ in
half of a pair of code units only are one (`Json.Reader`).
-/

import TypedInputs.Catalog.Loader
import TypedInputs.Coercion
import TypedInputs.CommandLine.Command
import TypedInputs.Description
import TypedInputs.Diagnostics.Settings
import TypedInputs.Json.Writer
import TypedInputs.Zone.Lookup

namespace TypedInputs
namespace CommandLine

open Diagnostics Catalog

variable [Zone.Directory] [YamlLibrary]

/-- Why a command fails. -/
inductive CommandFault where
  | catalog (fault : CatalogFault)
  | actionNotFound (uid : String)
  | argumentsMissing (path : String)
  | argumentsFolder (path : String)
  | argumentsBehindFile (path : String)
  | argumentsUndecodable (fault : Text.Utf8Fault)
  | argumentsMalformed (fault : Json.Fault)
  | escape (cause : Escape)

/-- How a command's failure is reported. -/
def CommandFault.message : CommandFault → String
  | .catalog fault => fault.message
  | .actionNotFound uid => "Action not found in catalog: " ++ uid
  | .argumentsMissing path => missingMessage path
  | .argumentsFolder path => folderMessage path
  | .argumentsBehindFile path => behindFileMessage path
  | .argumentsUndecodable fault => fault.message
  | .argumentsMalformed fault => fault.message
  | .escape cause => cause.message

/-- The logger of the command line. -/
def logger : String := loggerOf "cli"

/-- A catalog loaded from its path. -/
def loadPath (files : Files) (path : String) : Reporting CommandFault (List Action) :=
  ExceptT.adapt CommandFault.catalog (Catalog.load files (some path) .null)

/-- The actions with a uid, of which there must be one; all actions without a uid. -/
def select (uid : Option String) (actions : List Action) : Except CommandFault (List Action) :=
  match uid with
  | none => .ok actions
  | some uid =>
    match actions.filter fun action => action.uid == uid with
    | [] => .error (.actionNotFound uid)
    | selected => .ok selected

/-- The first action with a uid. -/
def selectFirst (uid : String) (actions : List Action) : Except CommandFault Action :=
  match actions.find? fun action => action.uid == uid with
  | some action => .ok action
  | none => .error (.actionNotFound uid)

/-- The descriptions of a catalog's actions, or of those with a uid. -/
def describe (files : Files) (path : String) (uid : Option String) :
    Reporting CommandFault (List ActionDescription) := do
  let actions ← loadPath files path
  let selected ← select uid actions
  Description.describeActions selected

/-- One more input coerced, its value in canonical text. -/
def renderOne (action : Action) (arguments : Value) (rendered : List (String × Value))
    (input : Input) : Reporting Escape (List (String × Value)) := do
  let raw ← (arguments.argument input.name).mapError Escape.kind
  match ← Coercion.coerceOne input raw action.uid with
  | .typed tag v => do
    let text ← (Literal.format tag v).mapError Escape.kind
    return setField input.name (.text text) rendered
  | .passed _ v => return setField input.name v rendered
  | .absent | .failed _ => return rendered

/-- The arguments of an action coerced, each value in canonical text. -/
def render (action : Action) (arguments : Value) : Reporting Escape (List (String × Value)) :=
  Reporting.withUid action.uid do action.inputs.foldlM (renderOne action arguments) []

/-- The arguments for an action of a catalog coerced, each value in canonical text. -/
def coerce (files : Files) (path uid : String) (arguments : Value) :
    Reporting CommandFault (List (String × Value)) := do
  let actions ← loadPath files path
  let action ← selectFirst uid actions
  ExceptT.adapt CommandFault.escape (render action arguments)

/-- A catalog loads and all of its actions can be described in full. -/
def validate (files : Files) (path : String) : Reporting CommandFault Bool := do
  Reporting.record .info logger ("Validating catalog: " ++ path)
  let actions ← loadPath files path
  let descriptions ← Description.describeActions actions
  let lacking := (descriptions.filter fun d => !d.isConfigurable).map ActionDescription.uid
  if lacking.isEmpty then do
    Reporting.record .info logger "Catalog is valid"
    return true
  else do
    Reporting.record .error logger
      ("Actions with inputs that cannot be described: " ++ textsShown lacking)
    return false

/-- A JSON text of arguments. -/
def readArguments (text : String) : Except CommandFault Value :=
  (Json.read text).mapError .argumentsMalformed

/-- The arguments that are given: in a file, on the command line, or none. -/
def givenArguments (files : Files) (args argsFile : Option String) : Except CommandFault Value :=
  match given? argsFile, given? args with
  | some path, _ =>
    match files (Path.normal path) with
    | .file bytes =>
      if Path.asksForFolder path then .error (.argumentsBehindFile path)
      else (textOfFile bytes).mapError .argumentsUndecodable >>= readArguments
    | .behindFile => .error (.argumentsBehindFile path)
    | .folder => .error (.argumentsFolder path)
    | .missing => .error (.argumentsMissing path)
  | none, some text => readArguments text
  | none, none => .ok (.object [])

/-- How a run ended: with what exit code, what was printed, and what was reported. -/
structure Outcome where
  exitCode : Nat
  output : String
  diagnostics : Diagnostics

namespace Outcome

/-- The text of the log. -/
def log (o : Outcome) : List String := o.diagnostics.log.records.map Record.line

/-- The lines of the event bus. -/
def events (o : Outcome) : List String := (o.diagnostics.bus.map EventBus.printed).getD []

end Outcome

/-- What a command prints. -/
def printed (v : Value) : Reporting CommandFault String := do
  let text ← (Json.write v).mapError fun fault => CommandFault.escape (.kind fault)
  return text ++ "\n"

/-- A command carried out: its exit code and what it prints. -/
def execute (files : Files) : Command → Reporting CommandFault (Nat × String)
  | .describe path uid => do
    let descriptions ← describe files path uid
    return (0, ← printed (.list (descriptions.map ActionDescription.toPayload)))
  | .coerce path uid args argsFile => do
    let arguments ← givenArguments files args argsFile
    let rendered ← coerce files path uid arguments
    return (0, ← printed (.object rendered))
  | .validate path => do
    let valid ← validate files path
    return (if valid then 0 else 1, "")

/-- What a command is called when it fails. -/
def failureName : Command → String
  | .describe .. => "Describe failed: "
  | .coerce .. => "Coerce failed: "
  | .validate _ => "Validation failed: "

/-- A command carried out; a failure is logged and ends with 1. -/
def executeSafely (files : Files) (command : Command) (d : Diagnostics) : Outcome :=
  match (execute files command).run d with
  | (.ok (exitCode, output), done) => ⟨exitCode, output, done⟩
  | (.error fault, done) =>
    ⟨1, "", done.record .error logger (failureName command ++ fault.message)⟩

/-- The diagnostics of a run: the level that is asked for, and the bus that the environment asks
for, running. -/
def startDiagnostics (env : Environment) (logLevel : Option String) :
    Except LevelFault Diagnostics :=
  (chosenLevel logLevel env.logLevel).map fun level =>
    let d := Diagnostics.ofLevel level
    match env.bus? with
    | some bus => { d with bus := some bus.start, route := .bus }
    | none => d

/-- The bus shut down and no longer published to. -/
def finish (o : Outcome) : Outcome :=
  let d := o.diagnostics
  { o with diagnostics := { d with bus := d.bus.map EventBus.shutdown, route := .off } }

/-- A run of the program. It is refused when the level asked for is none. -/
def run (files : Files) (env : Environment) (words : List String) : Except LevelFault Outcome :=
  match parse words with
  | .error .usage => .ok ⟨2, "", Diagnostics.ofLevel .info⟩
  | .error (.help topic) => .ok ⟨0, helpOn topic, Diagnostics.ofLevel .info⟩
  | .ok invocation => do
    let d ← startDiagnostics env invocation.logLevel
    match invocation.command with
    | some command => .ok (finish (executeSafely files command d))
    | none => .ok (finish ⟨0, generalHelp, d⟩)

end CommandLine
end TypedInputs
