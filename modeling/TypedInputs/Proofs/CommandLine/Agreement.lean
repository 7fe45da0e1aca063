/-
# The command `coerce` and the library coerce alike

The command has a loop of its own, which prints each value as soon as it is there. It goes side by
side with the library's loop: what escapes from one escapes from the other, and after each input the
values of the one are printed by the other (`exists_renderFate`, `foldlM_renderFate_agrees`). Both
leave the same trail of reports (`left_render`), because printing never fails. What else they leave
are remarks, which are no warnings.
-/

import TypedInputs.Catalog.Yaml
import TypedInputs.Proofs.Coercion.Soundness
import TypedInputs.Proofs.Coercion.Trail
import TypedInputs.Proofs.CommandLine.Rendering

namespace TypedInputs
namespace CommandLine

open Diagnostics Catalog Coercion Literal

/-- An entry of the library's result and the entry that the command prints for it: the canonical text
of a value that a rule applied to, and an argument that passed through as it came. -/
inductive Renders [Zone.Directory] (action : Action) (fields : List (String × Value))
    (d : Diagnostics) : String × Value → String × Value → Prop
  | typed {input : Input} {tag : TypeTag} {v : Value} {text : String}
      (hinput : input ∈ action.inputs)
      (htyped : ((coerceOne input (argumentOf fields input) action.uid).run d).1 =
        .ok (.typed tag v))
      (hformat : format tag v = .ok text) :
      Renders action fields d (input.name, v) (input.name, .text text)
  | passed {input : Input} {tag : TypeTag} (hinput : input ∈ action.inputs)
      (hpassed : ((coerceOne input (argumentOf fields input) action.uid).run d).1 =
        .ok (.passed tag (argumentOf fields input))) :
      Renders action fields d (input.name, argumentOf fields input)
        (input.name, argumentOf fields input)

section

variable [Zone.Directory] {action : Action} {fields : List (String × Value)} {d : Diagnostics}

/-! ### What comes out -/

/-- An entry is printed under its name. -/
theorem Renders.fst_eq {entry printed : String × Value} (h : Renders action fields d entry printed) :
    entry.1 = printed.1 := by
  cases h <;> rfl

/-- **Entries that are printed for each other stay so when one more is put.** -/
theorem forall₂_setField {r s : List (String × Value)} {name : String} {v w : Value}
    (h : List.Forall₂ (Renders action fields d) r s)
    (hentry : Renders action fields d (name, v) (name, w)) :
    List.Forall₂ (Renders action fields d) (setField name v r) (setField name w s) := by
  induction h with
  | nil => exact .cons hentry .nil
  | @cons entry printed r s hfirst hrest ih =>
    have hname := hfirst.fst_eq
    obtain ⟨n, v'⟩ := entry
    obtain ⟨m, w'⟩ := printed
    obtain rfl : n = m := hname
    by_cases hn : n = name
    · subst hn
      rw [setField_cons_of_eq rfl, setField_cons_of_eq rfl]
      exact .cons hentry hrest
    · rw [setField_cons_of_ne hn, setField_cons_of_ne hn]
      exact .cons hfirst ih

/-- A typed value has a canonical text. -/
theorem exists_format_of_fateOf {declared : DeclaredType} {raw v : Value}
    (h : fateOf declared raw = .ok (.typed v)) : ∃ text, format declared.tag v = .ok text :=
  (fateOf_eq_typed.1 h).sound.2

/-- **One more input:** what the library harvests, the command prints. -/
theorem exists_renderFate {input : Input} (hinput : input ∈ action.inputs) {h : Harvest}
    {acc : List (String × Value)} (hacc : List.Forall₂ (Renders action fields d) h.values acc)
    {fate : Fate} (hfate : fateOf input.declaredType (argumentOf fields input) = .ok fate) :
    ∃ acc', renderFate fields acc input = .ok acc' ∧ List.Forall₂ (Renders action fields d)
      (h.add input.name (fate.coerced input (argumentOf fields input) "")).values acc' := by
  have hcoerced : (coerceOne input (argumentOf fields input) action.uid).result d = .ok _ :=
    coerceOne_eq_ok.2 ⟨fate, hfate, rfl⟩
  unfold renderFate rendered
  rw [hfate]
  cases fate with
  | absent | failed => exact ⟨acc, rfl, hacc⟩
  | passed => exact ⟨_, rfl, forall₂_setField hacc (.passed hinput hcoerced)⟩
  | typed v =>
    obtain ⟨text, hformat⟩ := exists_format_of_fateOf hfate
    refine ⟨setField input.name (.text text) acc, ?_,
      forall₂_setField hacc (.typed hinput hcoerced hformat)⟩
    show Except.map _ (printedAs input.declaredType.tag (argumentOf fields input) (.typed v)) = _
    rw [printedAs, hformat]
    rfl

/-- **The two loops side by side.** -/
theorem foldlM_renderFate_agrees {inputs : List Input} (hinputs : ∀ i ∈ inputs, i ∈ action.inputs)
    {h : Harvest} {acc : List (String × Value)}
    (hacc : List.Forall₂ (Renders action fields d) h.values acc) :
    (∀ e, inputs.foldlM (harvestFate fields) h = .error e →
      inputs.foldlM (renderFate fields) acc = .error e) ∧
    ∀ h', inputs.foldlM (harvestFate fields) h = .ok h' →
      ∃ s, inputs.foldlM (renderFate fields) acc = .ok s ∧
        List.Forall₂ (Renders action fields d) h'.values s := by
  induction inputs generalizing h acc with
  | nil =>
    refine ⟨fun e he => ?_, fun h' hh' => ?_⟩
    · cases he
    · obtain rfl := Except.ok.inj hh'
      exact ⟨acc, rfl, hacc⟩
  | cons input rest ih =>
    have hinput := hinputs input List.mem_cons_self
    rw [List.foldlM_cons, List.foldlM_cons]
    cases hfate : fateOf input.declaredType (argumentOf fields input) with
    | error e =>
      have hlibrary : harvestFate fields h input = .error e := by rw [harvestFate, hfate]; rfl
      have hcommand : renderFate fields acc input = .error e := by
        rw [renderFate, rendered, hfate]
        rfl
      rw [hlibrary, hcommand]
      refine ⟨fun e' he' => ?_, fun h' hh' => ?_⟩
      · obtain rfl := Except.error.inj he'
        rfl
      · cases hh'
    | ok fate =>
      obtain ⟨acc', hcommand, hacc'⟩ := exists_renderFate hinput hacc hfate
      have hlibrary : harvestFate fields h input =
          .ok (h.add input.name (fate.coerced input (argumentOf fields input) "")) := by
        rw [harvestFate, hfate]
        rfl
      rw [hlibrary, hcommand]
      exact ih (fun i hi => hinputs i (List.mem_cons_of_mem _ hi)) hacc'

/-! ### What is left -/

/-- **The command leaves the trail of the inputs,** because printing never fails. -/
theorem left_render (action : Action) (fields : List (String × Value)) (d : Diagnostics) :
    (render action (.object fields)).left d =
      { trail action.uid fields action.inputs { d with uid := action.uid } with uid := d.uid } := by
  have htrail : ∀ d, (action.inputs.foldlM (renderOne action (.object fields)) []).left d =
      trail action.uid fields action.inputs d := by
    refine left_foldlM action.uid_ne (f := fun acc input => addCoerced input acc)
      (fun acc input => renderOne_eq action fields acc input) ?_ action.inputs []
    intro acc input fate hfate
    cases fate with
    | absent | passed | failed => exact ⟨_, rfl⟩
    | typed v =>
      obtain ⟨text, hformat⟩ := exists_format_of_fateOf hfate
      refine ⟨setField input.name (.text text) acc, ?_⟩
      rw [Fate.coerced, addCoerced, hformat]
      rfl
  rw [render, Reporting.left_withUid action.uid_ne, htrail]

variable [YamlLibrary]

omit [Zone.Directory] in
/-- Loading a catalog leaves remarks at most. -/
theorem remarks_loadPath (files : Files) (path : String) (d : Diagnostics) :
    Remarks .info d ((loadPath files path).left d) := by
  rcases left_loadPath files path d with hleft | hleft
  · rw [hleft]
    exact remarks_refl .info d
  · rw [hleft]
    exact remarks_record d _ _ _

/-- **What the command leaves,** and what the library leaves, differ in remarks only. -/
theorem agree_left {files : Files} {path uid : String} {actions : List Action}
    (hload : (loadPath files path).result d = .ok actions)
    (haction : selectFirst uid actions = .ok action) :
    Agree ((coerce files path uid (.object fields)).left d)
      ((coerceAction action (.object fields)).left d) := by
  have hstart : Agree ((loadPath files path).left d) d :=
    (remarks_loadPath files path d).agree (by decide)
  have hcommand : (coerce files path uid (.object fields)).left d =
      (render action (.object fields)).left ((loadPath files path).left d) := by
    unfold coerce
    rw [Reporting.left_bind, hload]
    simp only [haction, Reporting.left_lift_bind, Reporting.left_adapt]
  have hlibrary := (remarks_coerceAll action.uid_ne action.inputs fields d).agree (by decide)
  rw [hcommand, left_render, hstart.uid]
  exact ((agree_trail (hstart.withUid action.uid) action.uid fields action.inputs).withUid
    d.uid).trans hlibrary.symm

end

/-- **The command and the library coerce alike.** For an action of a catalog that loads, what escapes
from the command is what escapes from the library, and nothing else can go wrong in it. Otherwise
the two results have the same names in the same order, each value of the library printed by the
command in canonical text or, when no rule applied to it, as it came. Either way the command leaves
the bus as the library does, with the same events under the same numbers, and the same warnings in
the log. -/
theorem coerce_agrees [Zone.Directory] [YamlLibrary] {files : Files} {path uid : String} {d : Diagnostics}
    {actions : List Action} {action : Action} (fields : List (String × Value))
    (hload : ((loadPath files path).run d).1 = .ok actions)
    (haction : actions.find? (fun a => a.uid == uid) = some action) :
    let command := (coerce files path uid (.object fields)).run d
    let library := (coerceAction action (.object fields)).run d
    (∀ fault, command.1 = .error fault ↔ ∃ e, fault = .escape e ∧ library.1 = .error e) ∧
    (∀ r, library.1 = .ok r →
      ∃ s, command.1 = .ok s ∧ List.Forall₂ (Renders action fields d) r s) ∧
    command.2.bus = library.2.bus ∧ command.2.warnings = library.2.warnings := by
  intro command library
  have hselect : selectFirst uid actions = .ok action := by rw [selectFirst, haction]
  have hcommand : command.1 =
      (action.inputs.foldlM (renderFate fields) []).mapError CommandFault.escape := by
    refine (result_coerce files path uid fields d).trans ?_
    have hloaded : (loadPath files path).result d = .ok actions := hload
    rw [hloaded]
    show (selectFirst uid actions >>= fun action =>
      (action.inputs.foldlM (renderFate fields) []).mapError CommandFault.escape) = _
    rw [hselect]
    rfl
  have hlibrary : library.1 =
      (action.inputs.foldlM (harvestFate fields) ⟨[], []⟩).map Harvest.values :=
    result_coerceAll action.uid action.inputs fields d
  have hnone : List.Forall₂ (Renders action fields d) (Harvest.mk [] []).values [] := .nil
  obtain ⟨hescape, hok⟩ := foldlM_renderFate_agrees (fun i hi => hi) hnone
  have hleft : Agree command.2 library.2 := agree_left hload hselect
  cases hharvest : action.inputs.foldlM (harvestFate fields) ⟨[], []⟩ with
  | error e =>
    rw [hescape e hharvest] at hcommand
    rw [hharvest] at hlibrary
    refine ⟨fun fault => ?_, fun r hr => ?_, hleft.bus, hleft.warnings⟩
    · rw [hcommand, hlibrary]
      simp [Except.mapError, Except.map, eq_comm]
    · rw [hlibrary] at hr
      cases hr
  | ok h =>
    obtain ⟨s, hrendered, hrenders⟩ := hok h hharvest
    rw [hrendered] at hcommand
    rw [hharvest] at hlibrary
    refine ⟨fun fault => ?_, fun r hr => ?_, hleft.bus, hleft.warnings⟩
    · rw [hcommand, hlibrary]
      simp [Except.mapError, Except.map]
    · rw [hlibrary] at hr
      obtain rfl := Except.ok.inj hr
      exact ⟨s, hcommand, hrenders⟩

/-- A catalog with two actions of one uid. -/
def shadeText : String :=
  "[\x7b\"uid\": \"shade\", \"inputs\": [" ++
    "\x7b\"name\": \"height\", \"type\": \"byte\"\x7d, " ++
    "\x7b\"name\": \"area\", \"type\": \"DecimalType\"\x7d, " ++
    "\x7b\"name\": \"mood\", \"type\": \"Mood\"\x7d]\x7d, \x7b\"uid\": \"shade\"\x7d]"

/-- A folder with this catalog. -/
def shadeFiles : Files := fun path =>
  if path = "shades.json" then .file (Text.encode shadeText) else .missing

/-- The first of the actions. -/
def shadeAction : Action :=
  ⟨"shade", none, none, .visible, TextSet.empty,
    [⟨"height", "byte", none, none, false, "", TextSet.empty, none, by decide⟩,
      ⟨"area", "DecimalType", none, none, false, "", TextSet.empty, none, by decide⟩,
      ⟨"mood", "Mood", none, none, false, "", TextSet.empty, none, by decide⟩], [],
    by decide, by decide⟩

/-- The second of the actions. -/
def bareAction : Action :=
  ⟨"shade", none, none, .visible, TextSet.empty, [], [], by decide, by decide⟩

/-- Arguments of which one fails, one has a rule and one has none. -/
def shadeArguments : List (String × Value) :=
  [("mood", .bool true), ("area", .text " 1.50e3 "), ("height", .text "300")]

/-- Diagnostics with a running bus. -/
def shadeDiagnostics : Diagnostics :=
  { Diagnostics.ofLevel .info with bus := some (EventBus.create [.memory] 1).start, route := .bus }

set_option maxRecDepth 20000 in
/-- The command prints the area in canonical text and the mood as it came. -/
theorem coerce_agrees_shade :
    ((loadPath shadeFiles "shades.json").run shadeDiagnostics).1 = .ok [shadeAction, bareAction] ∧
      [shadeAction, bareAction].find? (fun a => a.uid == "shade") = some shadeAction ∧
      ((coerceAction shadeAction (.object shadeArguments)).run shadeDiagnostics).1 =
        .ok [("area", .decimal ⟨false, 150, 1⟩), ("mood", .bool true)] ∧
      ((coerce shadeFiles "shades.json" "shade" (.object shadeArguments)).run
        shadeDiagnostics).1 = .ok [("area", .text "1.50E+3"), ("mood", .bool true)] ∧
      List.Forall₂ (Renders shadeAction shadeArguments shadeDiagnostics)
        [("area", .decimal ⟨false, 150, 1⟩), ("mood", .bool true)]
        [("area", .text "1.50E+3"), ("mood", .bool true)] ∧
      ((coerce shadeFiles "shades.json" "shade" (.object shadeArguments)).run
          shadeDiagnostics).2.bus =
        ((coerceAction shadeAction (.object shadeArguments)).run shadeDiagnostics).2.bus := by
  have hload : ((loadPath shadeFiles "shades.json").run shadeDiagnostics).1 =
      .ok [shadeAction, bareAction] := by
    have hfile : shadeFiles (Path.normal "shades.json") = .file (Text.encode shadeText) := rfl
    exact loadPath_json hfile rfl (by cbv) _
  have hfind : [shadeAction, bareAction].find? (fun a => a.uid == "shade") = some shadeAction :=
    rfl
  have hlibrary : ((coerceAction shadeAction (.object shadeArguments)).run shadeDiagnostics).1 =
      .ok [("area", .decimal ⟨false, 150, 1⟩), ("mood", .bool true)] := rfl
  have hcommand : ((coerce shadeFiles "shades.json" "shade" (.object shadeArguments)).run
      shadeDiagnostics).1 = .ok [("area", .text "1.50E+3"), ("mood", .bool true)] := by
    rw [← Reporting.result_eq, result_coerce, Reporting.result_eq, hload]
    rfl
  obtain ⟨-, hresult, hbus, -⟩ := coerce_agrees shadeArguments hload hfind
  obtain ⟨s, hs, hrenders⟩ := hresult _ hlibrary
  rw [hcommand] at hs
  obtain rfl := Except.ok.inj hs
  exact ⟨hload, hfind, hlibrary, hcommand, hrenders, hbus⟩

end CommandLine
end TypedInputs
