/-
# The output of coercion is a fixed point

What the command `coerce` prints for the arguments of an action are again arguments, and coercing
them prints the same. A value that a rule applied to is printed in canonical text, and this text is
read back as the value (`rendered_idem`); a value that passed through passes through again. An input
without a value stays without one.

No two inputs of an action share a name, so the output is made of the contributions of the inputs in
their order (`foldlM_renderFate_of_nodup`), and each input finds there what it contributed.
-/

import TypedInputs.Catalog.Yaml
import TypedInputs.Proofs.CommandLine.Rendering
import TypedInputs.Proofs.Fields

namespace TypedInputs
namespace CommandLine

open Diagnostics Catalog Coercion Literal

section

variable [Zone.Directory]

/-! ### What one argument is printed as -/

/-- A date with a zone among texts is steady. -/
def SteadyFor (declared : DeclaredType) (raw : Value) : Prop :=
  declared.tag = .zonedDateTime → ∀ s, raw = .text s → IsSteady s

omit [Zone.Directory] in
/-- A type that narrows numbers reads texts too, and is no date with a zone. -/
theorem hasTextGrammar_of_hasNumberRule {tag : TypeTag} (h : tag.hasNumberRule = true) :
    tag.hasTextGrammar = true ∧ tag ≠ .zonedDateTime := by
  cases tag with
  | byte | short | int | long | float | double | decimalText | quantity => exact ⟨rfl, by simp⟩
  | bool | string | date | time | dateTime | zonedDateTime | unsupported => cases h

/-- **A value that a rule applied to comes back from its canonical text.** -/
theorem roundTrips_of_fateOf {declared : DeclaredType} {raw v : Value}
    (hsteady : SteadyFor declared raw) (h : fateOf declared raw = .ok (.typed v)) :
    declared.tag.hasTextGrammar = true ∧ RoundTrips declared v := by
  cases fateOf_eq_typed.1 h with
  | number hrule hnumber hx hnarrow =>
    obtain ⟨hgrammar, hzone⟩ := hasTextGrammar_of_hasNumberRule hrule
    exact ⟨hgrammar, roundTrips_of_inhabits (inhabits_of_narrow hnarrow) hzone⟩
  | text hgrammar hs =>
    exact ⟨hgrammar, roundTrips_of_parse (fun htag => hsteady htag _ rfl) hs⟩

/-- **What an argument is printed as is printed as itself.** -/
theorem rendered_idem {declared : DeclaredType} {raw w : Value} (hsteady : SteadyFor declared raw)
    (h : rendered declared raw = .ok (some w)) : rendered declared w = .ok (some w) := by
  have hrendered := h
  unfold rendered at h
  cases hfate : fateOf declared raw with
  | error e =>
    rw [hfate] at h
    cases h
  | ok fate =>
    rw [hfate] at h
    have hprinted : printedAs declared.tag raw fate = .ok (some w) := h
    cases fate with
    | absent => cases hprinted
    | failed fault => cases hprinted
    | passed =>
      obtain rfl := Option.some.inj (Except.ok.inj hprinted)
      exact hrendered
    | typed v =>
      obtain ⟨hgrammar, text, hformat, hparse⟩ := roundTrips_of_fateOf hsteady hfate
      rw [printedAs, hformat] at hprinted
      obtain rfl := Option.some.inj (Except.ok.inj hprinted)
      have hagain : fateOf declared (.text text) = .ok (.typed v) := by
        rw [fateOf_text hgrammar, hparse]
        rfl
      rw [rendered, hagain]
      show printedAs declared.tag (.text text) (.typed v) = _
      rw [printedAs, hformat]
      rfl

theorem rendered_null (declared : DeclaredType) : rendered declared .null = .ok none := rfl

/-! ### The fields of the output -/

/-- What an input contributes to the output. -/
def contribution (fields : List (String × Value)) (input : Input) : Option Value :=
  match rendered input.declaredType (argumentOf fields input) with
  | .ok found => found
  | .error _ => none

/-- The output of inputs that all have one. -/
def rendering (fields : List (String × Value)) (inputs : List Input) : List (String × Value) :=
  inputs.filterMap fun input => (contribution fields input).map fun v => (input.name, v)

theorem rendering_eq (fields : List (String × Value)) (inputs : List Input) :
    rendering fields inputs = entriesOf Input.name (contribution fields) inputs := rfl

/-- An argument that can be printed, or that leaves nothing to print. -/
def IsPrintable (fields : List (String × Value)) (input : Input) : Prop :=
  rendered input.declaredType (argumentOf fields input) = .ok (contribution fields input)

/-- An argument that is rendered is printable. -/
theorem isPrintable_of_rendered {fields : List (String × Value)} {input : Input}
    {found : Option Value} (h : rendered input.declaredType (argumentOf fields input) = .ok found) :
    IsPrintable fields input := by
  rw [IsPrintable, contribution, h]

/-- **The output is made of what the inputs contribute, in their order.** -/
theorem foldlM_renderFate {fields : List (String × Value)} {inputs : List Input}
    (hprintable : ∀ input ∈ inputs, IsPrintable fields input) (acc : List (String × Value)) :
    inputs.foldlM (renderFate fields) acc = .ok (putFields acc (rendering fields inputs)) := by
  induction inputs generalizing acc with
  | nil => rfl
  | cons input rest ih =>
    have hrest : ∀ i ∈ rest, IsPrintable fields i := fun i hi =>
      hprintable i (List.mem_cons_of_mem _ hi)
    rw [List.foldlM_cons, renderFate, hprintable input List.mem_cons_self]
    cases hcontribution : contribution fields input with
    | none =>
      rw [rendering_eq, entriesOf_cons_of_none hcontribution]
      exact ih hrest acc
    | some v =>
      rw [rendering_eq, entriesOf_cons_of_some hcontribution, putFields_cons]
      exact ih hrest _

/-- Inputs of which no two share a name have the output that they contribute. -/
theorem foldlM_renderFate_of_nodup {fields : List (String × Value)} {inputs : List Input}
    (hnodup : (inputs.map Input.name).Nodup)
    (hprintable : ∀ input ∈ inputs, IsPrintable fields input) :
    inputs.foldlM (renderFate fields) [] = .ok (rendering fields inputs) := by
  rw [foldlM_renderFate hprintable, rendering_eq, putFields_of_nodup (nodup_map_fst_entriesOf hnodup)]

/-- Each input of an output was printable. -/
theorem isPrintable_of_foldlM {fields : List (String × Value)} {inputs : List Input}
    {acc r : List (String × Value)} (h : inputs.foldlM (renderFate fields) acc = .ok r) :
    ∀ input ∈ inputs, IsPrintable fields input := by
  induction inputs generalizing acc with
  | nil => simp
  | cons input rest ih =>
    rw [List.foldlM_cons, renderFate] at h
    cases hrendered : rendered input.declaredType (argumentOf fields input) with
    | error e =>
      rw [hrendered] at h
      cases h
    | ok found =>
      rw [hrendered] at h
      intro i hi
      rcases List.mem_cons.1 hi with rfl | hi
      · exact isPrintable_of_rendered hrendered
      · exact ih h i hi

/-! ### The command -/

/-- The texts of an action's arguments for dates with a zone are steady. -/
def HasSteadyArguments (action : Action) (fields : List (String × Value)) : Prop :=
  ∀ input ∈ action.inputs, SteadyFor input.declaredType (argumentOf fields input)

/-- **What is rendered renders as itself.** -/
theorem foldlM_renderFate_idem {action : Action} {fields r : List (String × Value)}
    (hsteady : HasSteadyArguments action fields)
    (h : action.inputs.foldlM (renderFate fields) [] = .ok r) :
    action.inputs.foldlM (renderFate r) [] = .ok r := by
  have hprintable := isPrintable_of_foldlM h
  have hr : r = rendering fields action.inputs := by
    rw [foldlM_renderFate_of_nodup action.nodup_names hprintable] at h
    exact (Except.ok.inj h).symm
  have hagain : ∀ input ∈ action.inputs, rendered input.declaredType (argumentOf r input) =
      .ok (contribution fields input) := by
    intro input hinput
    have hargument : argumentOf r input = (contribution fields input).getD .null := by
      rw [argumentOf, hr, rendering_eq, field?_entriesOf_of_nodup action.nodup_names hinput]
    rw [hargument]
    cases hcontribution : contribution fields input with
    | none => exact rendered_null _
    | some w =>
      have hrendered := hprintable input hinput
      rw [IsPrintable, hcontribution] at hrendered
      exact rendered_idem (hsteady input hinput) hrendered
  have hsame : rendering r action.inputs = rendering fields action.inputs :=
    List.filterMap_congr fun input hinput => by rw [contribution, hagain input hinput]
  rw [foldlM_renderFate_of_nodup action.nodup_names
    (fun input hinput => isPrintable_of_rendered (hagain input hinput)), hsame, hr]

end

/-- **The output of the command `coerce` is a fixed point.** When the arguments of an action of a
catalog are coerced and printed, coercing what was printed prints the same, whatever the
diagnostics are. Of dates with a zone, the zone that is named must have at most one transition
within three days of the date. -/
theorem coerce_fixed_point [Zone.Directory] [YamlLibrary] {files : Files} {path uid : String} {d : Diagnostics}
    {actions : List Action} {action : Action} {fields r : List (String × Value)}
    (hload : ((loadPath files path).run d).1 = .ok actions)
    (haction : selectFirst uid actions = .ok action)
    (hsteady : HasSteadyArguments action fields)
    (h : ((coerce files path uid (.object fields)).run d).1 = .ok r) (d' : Diagnostics) :
    ((coerce files path uid (.object r)).run d').1 = .ok r := by
  have hfirst := result_coerce files path uid fields d
  have hsecond := result_coerce files path uid r d'
  have hload' : (loadPath files path).result d' = .ok actions :=
    (result_loadPath files path d' d).trans hload
  have hloaded : (loadPath files path).result d = .ok actions := hload
  rw [hloaded] at hfirst
  rw [hload'] at hsecond
  have hrender : selectFirst uid actions >>= (fun action =>
      (action.inputs.foldlM (renderFate fields) []).mapError CommandFault.escape) = .ok r :=
    hfirst.symm.trans h
  rw [haction] at hrender
  have hfold := foldlM_renderFate_idem hsteady (mapError_eq_ok.1 hrender)
  refine hsecond.trans ?_
  show (selectFirst uid actions >>= fun action =>
    (action.inputs.foldlM (renderFate r) []).mapError CommandFault.escape) = .ok r
  rw [haction]
  exact mapError_eq_ok.2 hfold

/-- A catalog with one action, which dims a lamp to a level from some time on. -/
def lampText : String :=
  "[\x7b\"uid\": \"dim\", \"inputs\": [\x7b\"name\": \"level\", \"type\": \"DecimalType\"\x7d, " ++
    "\x7b\"name\": \"from\", \"type\": \"ZonedDateTime\"\x7d]\x7d]"

/-- A folder with this catalog. -/
def lampFiles : Files := fun path =>
  if path = "lamp.json" then .file (Text.encode lampText) else .missing

/-- The action that dims a lamp. -/
def dimAction : Action :=
  ⟨"dim", none, none, .visible, TextSet.empty,
    [{ Coercion.byteLevel with type := "DecimalType" },
      ⟨"from", "ZonedDateTime", none, none, false, "", TextSet.empty, none, by decide⟩], [],
    by decide, by decide⟩

/-- Arguments of the action, in texts that are not canonical. -/
def dimArguments : List (String × Value) :=
  [("level", .text " 1.50e3 "), ("from", .text "2024-01-01T08:30Z")]

/-- The arguments in canonical text. -/
def dimOutput : List (String × Value) :=
  [("level", .text "1.50E+3"), ("from", .text "2024-01-01T08:30:00+00:00[UTC]")]

set_option maxRecDepth 20000 in
/-- The output for the lamp is a fixed point. -/
theorem coerce_fixed_point_lamp :
    ((loadPath lampFiles "lamp.json").run (.ofLevel .info)).1 = .ok [dimAction] ∧
      selectFirst "dim" [dimAction] = .ok dimAction ∧
      HasSteadyArguments dimAction dimArguments ∧
      ((coerce lampFiles "lamp.json" "dim" (.object dimArguments)).run (.ofLevel .info)).1 =
        .ok dimOutput ∧
      ((coerce lampFiles "lamp.json" "dim" (.object dimOutput)).run (.ofLevel .info)).1 =
        .ok dimOutput := by
  have hload : ((loadPath lampFiles "lamp.json").run (.ofLevel .info)).1 = .ok [dimAction] := by
    have hfile : lampFiles (Path.normal "lamp.json") = .file (Text.encode lampText) := rfl
    exact loadPath_json hfile rfl (by cbv) _
  have hselect : selectFirst "dim" [dimAction] = .ok dimAction := rfl
  have hsteady : HasSteadyArguments dimAction dimArguments := by
    rintro input (_ | ⟨_, _ | ⟨_, hnone⟩⟩) htag s hs
    · cases htag
    · obtain rfl := Value.text.inj hs
      decide +kernel
    · cases hnone
  have hcoerce : ((coerce lampFiles "lamp.json" "dim" (.object dimArguments)).run
      (.ofLevel .info)).1 = .ok dimOutput := by
    rw [← Reporting.result_eq, result_coerce, Reporting.result_eq, hload]
    cbv
  exact ⟨hload, hselect, hsteady, hcoerce, coerce_fixed_point hload hselect hsteady hcoerce _⟩

end CommandLine
end TypedInputs
