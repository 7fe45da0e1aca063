/-
# What the command `coerce` prints

The command coerces the arguments of an action one after the other and adds to its output what each
is printed as: a value that a rule applied to in canonical text, a value that passed through as it
came, and nothing for the others (`rendered`). Its result is the output of the inputs one after the
other (`result_coerce`), and the diagnostics have no part in it.
-/

import TypedInputs.CommandLine
import TypedInputs.Proofs.Coercion.Outcome
import TypedInputs.Proofs.Text.Utf8

namespace TypedInputs
namespace CommandLine

open Diagnostics Catalog Coercion Literal

/-! ### What one argument is printed as -/

/-- What an argument with a fate is printed as: nothing when it is absent or failed. -/
def printedAs (tag : TypeTag) (raw : Value) : Fate → Except Escape (Option Value)
  | .typed v => ((format tag v).mapError Escape.kind).map fun text => some (.text text)
  | .passed => .ok (some raw)
  | .absent | .failed _ => .ok none

/-- What came of one more input added to the output. -/
def addCoerced (input : Input) (acc : List (String × Value)) :
    Coerced → Except Escape (List (String × Value))
  | .typed tag v =>
    ((format tag v).mapError Escape.kind).map fun text => setField input.name (.text text) acc
  | .passed _ v => .ok (setField input.name v acc)
  | .absent | .failed _ => .ok acc

variable [Zone.Directory]

/-- What an argument for a declared type is printed as. -/
def rendered (declared : DeclaredType) (raw : Value) : Except Escape (Option Value) :=
  fateOf declared raw >>= printedAs declared.tag raw

/-- One more input printed. -/
def renderFate (fields acc : List (String × Value)) (input : Input) :
    Except Escape (List (String × Value)) :=
  (rendered input.declaredType (argumentOf fields input)).map fun found =>
    found.elim acc fun v => setField input.name v acc

/-- One more input is coerced under the uid of its action, and what came of it is added to the
output. -/
theorem renderOne_eq (action : Action) (fields acc : List (String × Value)) (input : Input) :
    renderOne action (.object fields) acc input =
      Coercion.coerceOne input (argumentOf fields input) action.uid >>= fun c =>
        liftM (addCoerced input acc c) := by
  unfold renderOne
  rw [argument_eq]
  refine congrArg (Coercion.coerceOne input (argumentOf fields input) action.uid >>= ·)
    (funext fun c => ?_)
  cases c with
  | absent | passed | failed => rfl
  | typed tag v =>
    simp only [addCoerced]
    cases format tag v <;> rfl

/-- One more input coerced and printed. -/
theorem result_renderOne (action : Action) (fields acc : List (String × Value)) (input : Input)
    (d : Diagnostics) :
    (renderOne action (.object fields) acc input).result d = renderFate fields acc input := by
  rw [renderOne_eq, Reporting.result_bind (f := addCoerced input acc) (fun _ _ => rfl),
    result_coerceOne, renderFate, rendered]
  cases fateOf input.declaredType (argumentOf fields input) with
  | error e => rfl
  | ok fate =>
    cases fate with
    | absent | passed | failed => rfl
    | typed v =>
      show addCoerced input acc (.typed input.declaredType.tag v) =
        Except.map _ (printedAs input.declaredType.tag (argumentOf fields input) (.typed v))
      rw [addCoerced, printedAs]
      cases format input.declaredType.tag v <;> rfl

/-! ### The command -/

/-- The output for an action. -/
theorem result_render (action : Action) (fields : List (String × Value)) (d : Diagnostics) :
    (render action (.object fields)).result d = action.inputs.foldlM (renderFate fields) [] := by
  rw [render, Reporting.result_withUid, Reporting.result_foldlM (result_renderOne action fields)]

variable [YamlLibrary]

omit [Zone.Directory] in
/-- Loading a catalog depends on the files alone. -/
theorem result_loadPath (files : Files) (path : String) (d d' : Diagnostics) :
    (loadPath files path).result d = (loadPath files path).result d' := by
  rw [loadPath, Reporting.result_adapt, Reporting.result_adapt]
  refine congrArg (Except.mapError _) ?_
  show (Catalog.load files (some path) .null).result d =
    (Catalog.load files (some path) .null).result d'
  simp only [Catalog.load]
  cases Catalog.readFile files path <;> rfl

omit [Zone.Directory] in
/-- Loading a catalog logs that it was read, or nothing. -/
theorem left_loadPath (files : Files) (path : String) (d : Diagnostics) :
    (loadPath files path).left d = d ∨
      (loadPath files path).left d =
        d.record .info Catalog.logger ("Loaded action catalog from " ++ path) := by
  rw [loadPath, Reporting.left_adapt]
  simp only [Catalog.load]
  cases Catalog.readFile files path with
  | error fault => exact .inl rfl
  | ok v =>
    rw [Reporting.left_lift_bind, Reporting.left_bind]
    refine .inr ?_
    show (liftM (ofData v) : Reporting CatalogFault _).left _ = _
    rw [Reporting.left_lift]
    rfl

omit [Zone.Directory] in
/-- **A catalog in JSON** loads as the actions that its text lists, whatever library reads YAML. -/
theorem loadPath_json {files : Files} {path text : String} {actions : List Action}
    (hfile : files (Path.normal path) = .file (Text.encode text))
    (hsuffix : Path.suffix path = ".json")
    (hactions : (Json.read (String.ofList (unifyLines text.toList))).mapError .malformed >>= ofData =
      .ok actions) (d : Diagnostics) :
    ((loadPath files path).run d).1 = .ok actions := by
  have hread : readFile files path =
      (Json.read (String.ofList (unifyLines text.toList))).mapError .malformed := by
    rw [readFile, hfile]
    dsimp only
    rw [if_pos hsuffix, readJson, textOfFile, Text.decode_encode]
    rfl
  show (loadPath files path).result d = _
  rw [loadPath, Reporting.result_adapt]
  simp only [Catalog.load]
  rw [hread]
  cases hdata : (Json.read (String.ofList (unifyLines text.toList))).mapError
      CatalogFault.malformed with
  | error fault =>
    rw [hdata] at hactions
    cases hactions
  | ok v =>
    rw [hdata] at hactions
    exact congrArg (Except.mapError CommandFault.catalog) hactions

/-- **The command coerces** the arguments of the first action with the uid, when the catalog loads. -/
theorem result_coerce (files : Files) (path uid : String) (fields : List (String × Value))
    (d : Diagnostics) :
    (coerce files path uid (.object fields)).result d =
      (loadPath files path).result d >>= fun actions => selectFirst uid actions >>= fun action =>
        (action.inputs.foldlM (renderFate fields) []).mapError .escape := by
  unfold coerce
  refine Reporting.result_bind (fun actions d => ?_) d
  cases selectFirst uid actions with
  | error fault => rfl
  | ok action =>
    simp only [Reporting.result_lift_bind]
    rw [Reporting.result_adapt, result_render]
    rfl

end CommandLine
end TypedInputs
