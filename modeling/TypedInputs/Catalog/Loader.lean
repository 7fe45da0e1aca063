/-
# Loading catalogs

A catalog is a list of actions, or an object with such a list under `actions`. It comes from data
or from a file, in JSON (`.json`) or in YAML (`.yaml` and `.yml`). Every action is checked, and the
issues of all of them are reported together.

YAML is read by a library, which may be installed or not. Nothing is promised about what it finds in a
file, so that whatever loads or registers catalogs works with any library; `Catalog.Yaml` has the one
that the program runs with.

What is read are values. YAML can write data that are none, such as a set or a name that is no text;
these have no place here. Nor has half of a pair of code units, which JSON can write in a text: two uids
or names that differ in such a half only are one (`Json.Reader`).
-/

import TypedInputs.Catalog.Path
import TypedInputs.Catalog.Registry
import TypedInputs.Diagnostics
import TypedInputs.Json.Reader

namespace TypedInputs
namespace Catalog

open Diagnostics

/-- The library that reads YAML. -/
class YamlLibrary where
  /-- The data in the bytes of a file, or what is reported when there are none; nothing when no library
  is installed. -/
  read? : Option (List UInt8 → Except String Value)

/-- Why there is no catalog. -/
inductive CatalogFault where
  | notFound (path : String)
  | folder (path : String)
  | undecodable (fault : Text.Utf8Fault)
  | malformed (fault : Json.Fault)
  | noYamlLibrary
  | yaml (report : String)
  | unsupportedFormat (suffix path : String)
  | nothingGiven
  | noActions (keys : List String)
  | notList (kind : Kind)
  | invalid (issues : List Issue)

/-- The name of a list of actions in reports. -/
def model : String :=
  "list[function-after[validate_unique_input_names(), " ++ Action.model ++ "]]"

/-- How a number of issues with a model is reported. -/
def issuesMessage (issues : List Issue) : String :=
  let errors := if issues.length = 1 then " validation error for " else " validation errors for "
  toString issues.length ++ errors ++ model

/-- How a catalog fault is reported. Of issues only their number is. -/
def CatalogFault.message : CatalogFault → String
  | .notFound path => "Catalog file not found: " ++ path
  | .folder path => folderMessage path
  | .undecodable fault => fault.message
  | .malformed fault => fault.message
  | .noYamlLibrary =>
    "PyYAML required for YAML catalogs. Install with: pip install 'actioninputs[yaml]'"
  | .yaml report => report
  | .unsupportedFormat suffix path =>
    withDetails ("Unsupported catalog format: " ++ suffix ++ ". Use .json or .yaml")
      [("path", Text.quoted path)]
  | .nothingGiven => "Either config_path or config_data must be provided"
  | .noActions keys =>
    withDetails "Catalog object must contain an 'actions' list" [("keys", textsShown keys)]
  | .notList kind => "Catalog must be a list of action types, got " ++ kind.name
  | .invalid issues => issuesMessage issues

/-- The logger of this module. -/
def logger : String := loggerOf "catalog.loader"

/-- The actions of a list. -/
def ofList (items : List Value) : Except CatalogFault (List Action) :=
  match Check.itemsFrom Action.check 0 items with
  | .valid actions => .ok actions
  | .invalid issues => .error (.invalid issues)

/-- The actions of a value that should be a list. -/
def ofItems : Value → Except CatalogFault (List Action)
  | .list items => ofList items
  | v => .error (.notList v.kind)

/-- The actions of data. -/
def ofData : Value → Except CatalogFault (List Action)
  | .object fields =>
    match field? fields "actions" with
    | some v => ofItems v
    | none => .error (.noActions (TextSet.ofList (fields.map (·.1))).toList)
  | v => ofItems v

/-- The data in the bytes of a file in JSON. -/
def readJson (bytes : List UInt8) : Except CatalogFault Value := do
  let text ← (textOfFile bytes).mapError .undecodable
  (Json.read text).mapError .malformed

variable [YamlLibrary]

/-- The data in the bytes of a file in YAML. -/
def readYaml (bytes : List UInt8) : Except CatalogFault Value :=
  match YamlLibrary.read? with
  | none => .error .noYamlLibrary
  | some read => (read bytes).mapError .yaml

/-- The data of a file. Its suffix says how it is read. -/
def readFile (files : Files) (path : String) : Except CatalogFault Value :=
  match files (Path.normal path) with
  | .missing | .behindFile => .error (.notFound path)
  | .folder => .error (.folder (Path.normal path))
  | .file bytes =>
    let suffix := Path.suffix path
    if suffix = ".json" then readJson bytes
    else if suffix = ".yaml" ∨ suffix = ".yml" then readYaml bytes
    else .error (.unsupportedFormat suffix path)

/-- The actions of a catalog that is given by its path or as data. Data comes first, and null is no
data. -/
def load (files : Files) (path : Option String) (data : Value) :
    Reporting CatalogFault (List Action) :=
  match data, path with
  | .null, some path => do
    let v ← readFile files path
    Reporting.record .info logger ("Loaded action catalog from " ++ path)
    ofData v
  | .null, none => throw .nothingGiven
  | data, _ => ofData data

/-- Why a catalog is not registered as a whole. -/
inductive RegistrationFault where
  | catalog (fault : CatalogFault)
  | registry (fault : RegistryFault)

/-- A catalog loaded and its actions registered in their order. Those before the first one that is
refused stay registered. -/
def register (files : Files) (path : Option String) (data : Value) (overwrite : Bool)
    (r : Registry) : StateM Diagnostics (Except RegistrationFault (List Action) × Registry) := do
  match ← (load files path data).run with
  | .error fault => return (.error (.catalog fault), r)
  | .ok actions =>
    match r.registerAll overwrite actions with
    | (some fault, registered) => return (.error (.registry fault), registered)
    | (none, registered) =>
      modify fun d =>
        d.record .debug logger ("Registered " ++ toString actions.length ++ " action type(s)")
      return (.ok actions, registered)

end Catalog
end TypedInputs
