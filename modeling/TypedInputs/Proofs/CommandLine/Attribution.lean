/-
# What is reported has the uid of its action

Coercion and description put the uid of an action in force and restore the one before, however they end.
In between every record and every notice has the uid of the action: a failure has the uid that it is
given, which is the one in force, and so has an input that cannot be described. The command `coerce` is
no exception, except that the record of the catalog that was loaded comes before
(`reports_attributed`).
-/

import TypedInputs.Catalog.Yaml
import TypedInputs.Proofs.Coercion.Escape
import TypedInputs.Proofs.Coercion.Trail
import TypedInputs.Proofs.CommandLine.Rendering
import TypedInputs.Proofs.Description.Actions
import TypedInputs.Proofs.Diagnostics.Attribution

namespace TypedInputs

open Diagnostics Reporting

namespace Coercion

variable {uid : String} {d : Diagnostics}

/-- **A failure is reported under the uid in force,** when that is the uid that it has. -/
theorem attributed_reported (f : CoercionFailure) (huid : f.uid = d.uid) :
    Attributed d.uid d (f.reported d) := by
  unfold CoercionFailure.reported
  cases f.value.shown with
  | error fault => exact attributed_refl d.uid d
  | ok shown =>
    exact (attributed_record d .warning logger (f.warning shown)).trans (attributed_notify _ huid)

/-- What became of an argument is reported under the uid in force. -/
theorem attributed_coerced {given : String} (hgiven : given = "" ∨ given = d.uid) (fate : Fate)
    (input : Input) (raw : Value) :
    Attributed d.uid d
      ((fate.coerced input raw (if given = "" then d.uid else given)).reported d) := by
  cases fate with
  | absent | typed | passed => exact attributed_refl d.uid d
  | failed fault =>
    refine attributed_reported _ ?_
    show (if given = "" then d.uid else given) = d.uid
    split_ifs with hempty
    · rfl
    · exact hgiven.resolve_left hempty

/-- The remarks at the end are made under the uid in force, on whatever the arguments are. -/
theorem reportsUnder_remark (given : String) (inputs : List Input) (arguments : Value)
    (h : Harvest) : ReportsUnder uid (remark given inputs arguments h) := by
  unfold remark
  refine (reportsUnder_lift uid _).bind fun undeclared => ?_
  split_ifs
  · refine (reportsUnder_lift uid _).bind fun shown => ?_
    exact (reportsUnder_record uid _ _ _).bind fun _ => reportsUnder_record uid _ _ _
  · exact reportsUnder_record uid _ _ _
  · refine (reportsUnder_lift uid _).bind fun shown => ?_
    exact (reportsUnder_record uid _ _ _).bind fun _ => reportsUnder_pure uid _
  · exact reportsUnder_pure uid _

variable [Zone.Directory]

/-- **One argument** is reported under the uid in force, given or not. -/
theorem attributed_coerceOne {given : String} (hgiven : given = "" ∨ given = d.uid) (input : Input)
    (raw : Value) : Attributed d.uid d ((coerceOne input raw given).left d) := by
  rw [left_coerceOne]
  cases fateOf input.declaredType raw with
  | error e => exact attributed_refl d.uid d
  | ok fate => exact attributed_coerced hgiven fate input raw

/-- **A failure without a uid of its own** has the one in force, and so has its notice. -/
theorem notified_coerceOne {input : Input} {raw : Value} {failure : CoercionFailure}
    (h : (coerceOne input raw "").result d = .ok (.failed failure)) :
    failure.uid = d.uid ∧ ∃ shown, raw.shown = .ok shown ∧
      (coerceOne input raw "").left d =
        (d.record .warning logger (failure.warning shown)).notify (failure.notice shown) := by
  obtain ⟨fate, hfate, hfailure⟩ := coerceOne_eq_ok.1 h
  rw [if_pos rfl] at hfailure
  cases fate with
  | absent | typed | passed => cases hfailure
  | failed fault =>
    obtain ⟨shown, hshown⟩ := exists_shown_of_fateOf_failed hfate
    obtain rfl := Coerced.failed.inj hfailure
    refine ⟨rfl, shown, hshown, ?_⟩
    rw [left_coerceOne, hfate]
    simp only [if_pos, Fate.coerced, Coerced.reported, CoercionFailure.reported, hshown]

/-- An argument that is coerced under the uid in force is reported under it. -/
theorem reportsUnder_coerceOne (input : Input) (raw : Value) :
    ReportsUnder uid (coerceOne input raw uid) := by
  rintro d rfl
  exact attributed_coerceOne (.inr rfl) input raw

/-- **All arguments of an action** are reported under its uid. -/
theorem attributed_coerceAll (huid : uid ≠ "") (inputs : List Input) (arguments : Value)
    (d : Diagnostics) : Attributed uid d ((coerceAll uid inputs arguments).left d) := by
  have hone : ∀ h input, ReportsUnder uid (harvestOne uid arguments.orNoArguments h input) := by
    intro h input
    refine (reportsUnder_lift uid _).bind fun raw => ?_
    exact (reportsUnder_coerceOne input raw).bind fun _ => reportsUnder_pure uid _
  refine ReportsUnder.withUid ?_ huid d
  refine (ReportsUnder.foldlM hone inputs _).bind fun harvest => ?_
  exact (reportsUnder_remark uid inputs _ harvest).bind fun _ => reportsUnder_pure uid _

end Coercion

namespace Description

variable {ε : Type} {uid : String}

/-- An input that cannot be described is reported under the uid in force. -/
theorem attributed_unsupported (e : UnsupportedInput) (d : Diagnostics) :
    Attributed d.uid d (reported e d) := by
  unfold reported
  exact (attributed_record d .info inputLogger e.reason).trans (attributed_notify _ rfl)

/-- Inputs are described under the uid in force. -/
theorem reportsUnder_describeInputs (inputs : List Input) :
    ReportsUnder uid (describeInputs inputs : Reporting ε _) := by
  rintro d rfl
  show Attributed d.uid d ((describeInputs inputs : Reporting ε _).run d).2
  rw [run_describeInputs]
  cases firstUndescribed? inputs with
  | none => exact attributed_refl d.uid d
  | some input => exact attributed_unsupported input.unsupported d

/-- **The description of an action** is reported under its uid. -/
theorem attributed_describeAction (action : Action) (d : Diagnostics) :
    Attributed action.uid d ((describeAction action : Reporting ε _).left d) := by
  refine ReportsUnder.withUid ?_ action.uid_ne d
  refine (reportsUnder_describeInputs action.inputs).bind fun parameters => ?_
  split_ifs
  · exact (reportsUnder_record _ _ _ _).bind fun _ => reportsUnder_pure _ _
  · exact reportsUnder_pure _ _

end Description

namespace CommandLine

open Catalog Coercion Description

variable {d d' : Diagnostics}

/-- Diagnostics with records of one logger more, under the uid in force. -/
def LogsOnly (logger : String) (d d' : Diagnostics) : Prop :=
  ∃ records : List Record, (∀ r ∈ records, r.logger = logger ∧ r.uid = d.uid) ∧
    d' = { d with log := { d.log with records := d.log.records ++ records } }

/-- Loading a catalog is logged by the loader and nothing else. -/
theorem logsOnly_loadPath [YamlLibrary] (files : Files) (path : String) (d : Diagnostics) :
    LogsOnly Catalog.logger d ((loadPath files path).left d) := by
  have hnothing : LogsOnly Catalog.logger d d := ⟨[], by simp, by rw [List.append_nil]⟩
  rcases left_loadPath files path d with hleft | hleft
  · rw [hleft]
    exact hnothing
  · rw [hleft]
    unfold Diagnostics.record Log.add
    split
    · exact ⟨[⟨.info, Catalog.logger, d.uid, _⟩], by simp, rfl⟩
    · exact hnothing

section

variable [Zone.Directory]

/-- **The arguments that the command coerces** are reported under the uid of their action. -/
theorem attributed_render (action : Action) (arguments : Value) (d : Diagnostics) :
    Attributed action.uid d ((render action arguments).left d) := by
  have hone : ∀ acc input, ReportsUnder action.uid (renderOne action arguments acc input) := by
    intro acc input
    refine (reportsUnder_lift _ _).bind fun raw => ?_
    refine (reportsUnder_coerceOne input raw).bind fun coerced => ?_
    cases coerced with
    | typed tag v => exact (reportsUnder_lift _ _).bind fun _ => reportsUnder_pure _ _
    | passed | absent | failed => exact reportsUnder_pure _ _
  exact ReportsUnder.withUid (ReportsUnder.foldlM hone action.inputs []) action.uid_ne d

variable [YamlLibrary]

/-- **The command** reports under the uid of its action once the catalog is loaded. -/
theorem attributed_coerce (files : Files) (path uid : String) (arguments : Value)
    (d : Diagnostics) :
    Attributed uid ((loadPath files path).left d) ((coerce files path uid arguments).left d) := by
  unfold coerce
  rw [Reporting.left_bind]
  cases (loadPath files path).result d with
  | error fault => exact attributed_refl uid _
  | ok actions =>
    dsimp only
    unfold selectFirst
    cases hfind : actions.find? fun action => action.uid == uid with
    | none => exact attributed_refl uid _
    | some action =>
      obtain rfl : action.uid = uid := by simpa using List.find?_some hfind
      dsimp only
      rw [Reporting.left_lift_bind, Reporting.left_adapt]
      exact attributed_render action arguments _

/-- **What is reported has the uid of its action, and no uid is left behind.** From whatever
diagnostics a call starts, with whatever uid in force, and whether it has a result or an escape ends it,
the uid in force is the same afterwards, and what was reported has the uid of the action that was
processed.

* The library coerces the arguments of an action, which may be anything.
* The command does, after the loader has logged that the catalog was loaded.
* An action is described, and so is each of a list of actions, one after the other.
* One argument that is coerced without a uid of its own is reported under the one in force. -/
theorem reports_attributed {ε : Type} (d : Diagnostics) :
    (∀ uid, uid ≠ "" → ∀ (inputs : List Input) (arguments : Value),
      Attributed uid d ((coerceAll uid inputs arguments).run d).2) ∧
    (∀ (action : Action) (arguments : Value),
      Attributed action.uid d ((coerceAction action arguments).run d).2) ∧
    (∀ (files : Files) (path uid : String) (arguments : Value),
      LogsOnly Catalog.logger d ((loadPath files path).run d).2 ∧
      Attributed uid ((loadPath files path).run d).2 ((coerce files path uid arguments).run d).2) ∧
    (∀ action, Attributed action.uid d ((describeAction action : Reporting ε _).run d).2) ∧
    (∀ actions, ((describeActions actions : Reporting ε _).run d).2.uid = d.uid) ∧
    (∀ before action after, ∃ d₁ d₂,
      ((describeActions before : Reporting ε _).run d).2 = d₁ ∧
      ((describeAction action : Reporting ε _).run d₁).2 = d₂ ∧ Attributed action.uid d₁ d₂ ∧
      ((describeActions after : Reporting ε _).run d₂).2 =
        ((describeActions (before ++ action :: after) : Reporting ε _).run d).2) ∧
    (∀ (input : Input) (raw : Value),
      Attributed d.uid d ((coerceOne input raw "").run d).2 ∧
      ∀ failure, ((coerceOne input raw "").run d).1 = .ok (.failed failure) →
        failure.uid = d.uid ∧ ∃ shown, raw.shown = .ok shown ∧
          ((coerceOne input raw "").run d).2 =
            (d.record .warning Coercion.logger (failure.warning shown)).notify
              (failure.notice shown) ∧
          (failure.notice shown).uid = d.uid) := by
  refine ⟨fun uid huid inputs arguments => attributed_coerceAll huid inputs arguments d,
    fun action arguments => attributed_coerceAll action.uid_ne action.inputs arguments d,
    fun files path uid arguments =>
      ⟨logsOnly_loadPath files path d, attributed_coerce files path uid arguments d⟩,
    fun action => attributed_describeAction action d, ?_, ?_, ?_⟩
  · intro actions
    rw [run_describeActions]
    exact uid_reportedActions actions d
  · intro before action after
    refine ⟨_, _, rfl, rfl, attributed_describeAction action _, ?_⟩
    simp only [run_describeActions, run_describeAction, reportedActions, List.foldl_append,
      List.foldl_cons]
  · intro input raw
    refine ⟨attributed_coerceOne (.inl rfl) input raw, fun failure hfailure => ?_⟩
    obtain ⟨huid, shown, hshown, hleft⟩ := notified_coerceOne hfailure
    exact ⟨huid, shown, hshown, hleft, huid⟩

end

/-- Diagnostics with a running bus, where another action is being processed. -/
def roomDiagnostics : Diagnostics :=
  { Diagnostics.ofLevel .info with
    uid := "room", bus := some (EventBus.create [.memory] 1).start, route := .bus }

/-- A level that does not fit its byte, and a date before the calendar. -/
def lampArguments : List (String × Value) :=
  [("level", .text "300"), ("start", .text beforeTheCalendar)]

set_option maxRecDepth 20000 in
/-- The level is reported under the uid of the lamp before the date escapes, and the uid of the room
is restored. -/
theorem reports_attributed_lamp :
    ((coerceAll "lamp" [byteLevel, startInput] (.object lampArguments)).run roomDiagnostics).1 =
        .error .beyondCalendar ∧
      Attributed "lamp" roomDiagnostics
        ((coerceAll "lamp" [byteLevel, startInput] (.object lampArguments)).run
          roomDiagnostics).2 := by
  constructor
  · have hbeyond : Literal.IsBeyondCalendar beforeTheCalendar := by decide +kernel
    have hstart : escape? startInput.declaredType (argumentOf lampArguments startInput) =
        some .beyondCalendar := by
      have hargument : argumentOf lampArguments startInput = .text beforeTheCalendar := rfl
      rw [hargument, escape?, if_pos ⟨by decide, hbeyond⟩]
    have hlevel : escape? byteLevel.declaredType (argumentOf lampArguments byteLevel) = none := by
      cbv
    have hfirst : [byteLevel, startInput].findSome? (fun input =>
        escape? input.declaredType (argumentOf lampArguments input)) = some .beyondCalendar := by
      rw [List.findSome?_cons, hlevel, List.findSome?_cons, hstart]
    refine (result_coerceAll _ _ _ _).trans ?_
    rw [harvest_eq_error.2 hfirst]
    rfl
  · exact (reports_attributed (ε := Empty) roomDiagnostics).1 "lamp" (by decide) _ _

end CommandLine
end TypedInputs
