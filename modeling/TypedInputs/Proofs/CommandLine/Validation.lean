/-
# The command `validate` and the descriptions agree

The command describes the actions of a catalog as the library does, and is content when each of them is
described in full. What else it reports are remarks, so the bus has the same notices after it
(`run_validate`). There are none of them exactly when the command is content
(`descriptions_agree_with_validation`).
-/

import TypedInputs.Proofs.CommandLine.Agreement
import TypedInputs.Proofs.Description.Actions

namespace TypedInputs

open Diagnostics EventBus

namespace Diagnostics

variable {d e : Diagnostics}

/-- Diagnostics that agree have the same bus in force. -/
theorem Agree.activeBus?_eq (h : Agree d e) : d.activeBus? = e.activeBus? := by
  rw [activeBus?, activeBus?, h.bus, h.route]

/-- **The same action described in both.** -/
theorem Agree.reportedAction (h : Agree d e) (action : Action) :
    Agree (Description.reportedAction action d) (Description.reportedAction action e) := by
  unfold Description.reportedAction
  cases Description.firstUndescribed? action.inputs with
  | none => exact h
  | some input =>
    rw [← h.uid]
    exact ((((h.withUid action.uid).record _ _ _).notify _).record _ _ _).withUid d.uid

/-- **The same actions described in both.** -/
theorem Agree.reportedActions (h : Agree d e) (actions : List Action) :
    Agree (Description.reportedActions actions d) (Description.reportedActions actions e) := by
  induction actions generalizing d e with
  | nil => exact h
  | cons action rest ih => exact ih (h.reportedAction action)

end Diagnostics

namespace CommandLine

open Catalog Description

section

variable [YamlLibrary] {d : Diagnostics}

omit [YamlLibrary] in
/-- The verdict on descriptions: none of them lacks its parameters. -/
theorem isEmpty_lacking {views : List ActionDescription} :
    ((views.filter fun view => !view.isConfigurable).map ActionDescription.uid).isEmpty = true ↔
      ∀ view ∈ views, view.isConfigurable = true := by
  rw [List.isEmpty_iff, List.map_eq_nil_iff, List.filter_eq_nil_iff]
  simp

/-- **A catalog that loads has its actions described,** and is valid if all the descriptions are
configurable. What the command leaves differs in remarks from what the descriptions leave. -/
theorem run_validate {files : Files} {path : String} {actions : List Action}
    (hload : (loadPath files path).result d = .ok actions) :
    ∃ valid left, (validate files path).run d = (.ok valid, left) ∧
      (valid = true ↔ ∀ view ∈ actions.map described, view.isConfigurable = true) ∧
      Agree left (reportedActions actions d) := by
  have hbegun : Agree (d.record .info logger ("Validating catalog: " ++ path)) d :=
    (remarks_record d _ _ _).agree (by decide)
  generalize hd' : d.record .info logger ("Validating catalog: " ++ path) = d' at hbegun
  have hloaded : Agree ((loadPath files path).left d') d :=
    ((remarks_loadPath files path d').agree (by decide)).trans hbegun
  have hrun : (loadPath files path).run d' = (.ok actions, (loadPath files path).left d') := by
    rw [Reporting.run_eq, result_loadPath files path d' d, hload]
  have hdescribed := hloaded.reportedActions actions
  have hrecord : (Reporting.record .info logger ("Validating catalog: " ++ path) :
      Reporting CommandFault Unit).run d = (.ok (), d') := by
    rw [← hd']
    rfl
  unfold validate
  rw [Reporting.run_bind_of_ok hrecord, Reporting.run_bind_of_ok hrun,
    Reporting.run_bind_of_ok (run_describeActions actions _)]
  dsimp only
  split_ifs with hempty
  · refine ⟨true, _, rfl, ?_, ?_⟩
    · exact iff_of_true rfl (isEmpty_lacking.1 hempty)
    · exact ((remarks_record _ _ _ _).agree (by decide)).trans hdescribed
  · refine ⟨false, _, rfl, ?_, ?_⟩
    · exact iff_of_false Bool.false_ne_true (mt isEmpty_lacking.2 hempty)
    · exact ((remarks_record _ _ _ _).agree (by decide)).trans hdescribed

/-- **Descriptions, events and validation agree.** Every action has its description, in order. The
uid in force is restored, and the bus takes one notice for each action that is not configurable, in
order, about its first input that cannot be described. A catalog of these actions is valid exactly when
every description is configurable, and exactly when the bus took nothing; its validation leaves the bus
as the descriptions do. -/
theorem descriptions_agree_with_validation {ε : Type} (actions : List Action) {bus : EventBus}
    (hbus : d.activeBus? = some bus)
    (hroom : bus.queue.length + (actions.filter fun a => ¬a.IsDescribable).length ≤ bus.capacity) :
    ∃ views d' bus' notices,
      (describeActions actions : Reporting ε _).run d = (.ok views, d') ∧
      List.Forall₂ DescribesAction actions views ∧
      d'.uid = d.uid ∧ d'.activeBus? = some bus' ∧ Takes bus notices bus' ∧
      List.Forall₂ IsNoticeOf (actions.filter fun a => ¬a.IsDescribable) notices ∧
      ∀ (files : Files) (path : String), ((loadPath files path).run d).1 = .ok actions →
        ∃ valid left, (validate files path).run d = (.ok valid, left) ∧
          (valid = true ↔ ∀ view ∈ views, view.isConfigurable = true) ∧
          (valid = true ↔ notices = []) ∧ left.activeBus? = some bus' := by
  obtain ⟨bus', notices, hbus', htakes, hnotices⟩ := takes_reportedActions actions hbus hroom
  have hviews : List.Forall₂ DescribesAction actions (actions.map described) :=
    List.forall₂_map_right_iff.2 (List.forall₂_same.2 fun action _ => describesAction_described action)
  refine ⟨_, _, bus', notices, run_describeActions actions d, hviews, uid_reportedActions actions d,
    hbus', htakes, hnotices, fun files path hload => ?_⟩
  obtain ⟨valid, left, hrun, hvalid, hleft⟩ := run_validate hload
  refine ⟨valid, left, hrun, hvalid, hvalid.trans ?_, hleft.activeBus?_eq.trans hbus'⟩
  rw [← List.length_eq_zero_iff, ← hnotices.length_eq, List.length_eq_zero_iff,
    List.filter_eq_nil_iff]
  simp [isConfigurable_described]

end

/-- The notice that the area of the shade cannot be described. -/
def areaNotice : Notice :=
  ⟨"describe.input", "unsupported", "shade",
    .object [("input", .text "area"), ("declared_type", .text "DecimalType")]⟩

/-- The bus that the shade's diagnostics start with. -/
def shadeBus : EventBus := (EventBus.create [.memory] 1).start

set_option maxRecDepth 20000 in
/-- Of the shade's two actions the first is not described in full, and so the catalog is not valid. -/
theorem shades_agree_with_validation :
    shadeDiagnostics.activeBus? = some shadeBus ∧
      shadeBus.queue.length +
        ([shadeAction, bareAction].filter fun a => ¬a.IsDescribable).length ≤ shadeBus.capacity ∧
      ((loadPath shadeFiles "shades.json").run shadeDiagnostics).1 =
        .ok [shadeAction, bareAction] ∧
      ∃ views d' bus', (describeActions [shadeAction, bareAction] : Reporting Empty _).run
          shadeDiagnostics = (.ok views, d') ∧
        List.Forall₂ DescribesAction [shadeAction, bareAction] views ∧
        d'.activeBus? = some bus' ∧ Takes shadeBus [areaNotice] bus' ∧
        ∃ left, (validate shadeFiles "shades.json").run shadeDiagnostics = (.ok false, left) ∧
          left.activeBus? = some bus' := by
  have hbus : shadeDiagnostics.activeBus? = some shadeBus := rfl
  have hroom : shadeBus.queue.length +
      ([shadeAction, bareAction].filter fun a => ¬a.IsDescribable).length ≤ shadeBus.capacity := by
    decide
  have hload : ((loadPath shadeFiles "shades.json").run shadeDiagnostics).1 =
      .ok [shadeAction, bareAction] := by
    have hfile : shadeFiles (Path.normal "shades.json") = .file (Text.encode shadeText) := rfl
    exact loadPath_json hfile rfl (by cbv) _
  obtain ⟨views, d', bus', notices, hrun, hviews, -, hbus', htakes, hnotices, hvalidate⟩ :=
    descriptions_agree_with_validation (ε := Empty) [shadeAction, bareAction] hbus hroom
  obtain ⟨valid, left, hleft, -, hverdict, hactive⟩ := hvalidate shadeFiles "shades.json" hload
  have hlacking : ([shadeAction, bareAction].filter fun a => ¬a.IsDescribable) = [shadeAction] := by
    decide
  rw [hlacking] at hnotices
  obtain ⟨n, rest, ⟨before, input, after, hinputs, hbefore, hinput, rfl⟩, hrest, rfl⟩ :=
    List.forall₂_cons_left_iff.1 hnotices
  obtain rfl := List.forall₂_nil_left_iff.1 hrest
  have hnotice : (reportOf shadeAction.uid input).notice = areaNotice := by
    have hfound : firstUndescribed? shadeAction.inputs = some input :=
      firstUndescribed?_eq_some.2 ⟨hinput, before, after, hinputs, hbefore⟩
    have hfirst : (firstUndescribed? shadeAction.inputs).map
        (fun i => (reportOf shadeAction.uid i).notice) = some areaNotice := rfl
    rw [hfound] at hfirst
    exact Option.some.inj hfirst
  rw [hnotice] at htakes
  have hvalid : valid = false := Bool.eq_false_iff.2 fun htrue => by simpa using hverdict.1 htrue
  subst hvalid
  exact ⟨hbus, hroom, hload, views, d', bus', hrun, hviews, hbus', htakes, left, hleft, hactive⟩

end CommandLine
end TypedInputs
