/-
# Whatever is left out is reported

Coercing all arguments accounts for each of the inputs: the result has the values of those that got
one, and the diagnostics have one notice and one warning for each that failed, in the order of the
inputs (`coerceAll_accounts`). The reports are followed along the trail that coercion leaves: one
failure adds one report (`accounts_reported`), and reports that are added one after the other are
added together (`Accounts.trans`).
-/

import TypedInputs.Proofs.Coercion.Harvest
import TypedInputs.Proofs.Coercion.Trail
import TypedInputs.Proofs.Diagnostics.Accounts

namespace TypedInputs

open Diagnostics EventBus

/-- An input whose argument failed. -/
def Coerced.isFailed : Coerced → Bool
  | .failed _ => true
  | .absent | .typed .. | .passed .. => false

/-- The report that an input of an action is left out, because an argument with a shown form is no
literal of the input's type for a reason. -/
def Report.of (uid : String) (input : Input) (shown reason : String) : Report where
  notice := ⟨"coerce.input", "invalid_literal", uid, .object
    [("action", .text uid), ("input", .text input.name), ("value", .text shown),
     ("declared_type", .text input.type), ("reason", .text reason)]⟩
  record := ⟨.warning, "actioninputs.coercion.engine", uid,
    "Action " ++ uid ++ " input parameter '" ++ input.name ++ "': converting value " ++ shown ++
      " into type " ++ input.type ++ " failed (" ++ reason ++ ")! Input parameter is ignored."⟩

namespace Diagnostics

variable {d : Diagnostics} {bus : EventBus}

/-- **A failure adds one report,** when warnings are kept and the bus has room. -/
theorem accounts_reported {f : CoercionFailure} {shown : String}
    (hshown : f.value.shown = .ok shown) (hlevel : d.log.threshold ≤ .warning)
    (hbus : d.activeBus? = some bus) (hroom : bus.queue.length < bus.capacity) :
    Accounts d bus [⟨f.notice shown, ⟨.warning, Coercion.logger, d.uid, f.warning shown⟩⟩]
      (f.reported d) (bus.publish (f.notice shown)).settle := by
  have hlogger : isPackageLogger Coercion.logger = true := by decide
  unfold CoercionFailure.reported
  rw [hshown]
  exact accounts_report (keeps_of_threshold_le hlogger (by decide) hlevel _ _) hbus hroom _

end Diagnostics

namespace Coercion

/-- The inputs whose arguments failed. -/
def failing (coerced : Input → Coerced) (inputs : List Input) : List Input :=
  inputs.filter fun input => (coerced input).isFailed

theorem failing_cons_of_failed {coerced : Input → Coerced} {input : Input} {f : CoercionFailure}
    (h : coerced input = .failed f) (rest : List Input) :
    failing coerced (input :: rest) = input :: failing coerced rest :=
  List.filter_cons_of_pos (by rw [h]; rfl)

theorem failing_cons_of_not_failed {coerced : Input → Coerced} {input : Input}
    (h : (coerced input).isFailed = false) (rest : List Input) :
    failing coerced (input :: rest) = failing coerced rest :=
  List.filter_cons_of_neg (by rw [h]; exact Bool.false_ne_true)

/-- A report says why the argument of an input failed. -/
def Explains (uid : String) (fields : List (String × Value)) (coerced : Input → Coerced)
    (input : Input) (report : Report) : Prop :=
  ∃ failure shown, coerced input = .failed failure ∧
    (argumentOf fields input).shown = .ok shown ∧ report = .of uid input shown failure.reason

/-- The report of a failure of an input. -/
theorem report_eq (uid : String) (input : Input) (raw : Value) (fault : LiteralFault)
    (shown : String) :
    let f : CoercionFailure := ⟨uid, input.name, raw, input.declaredType.identifier, fault⟩
    (⟨f.notice shown, ⟨.warning, logger, uid, f.warning shown⟩⟩ : Report) =
      .of uid input shown fault.message := by
  simp only [identifier_declaredType]
  rfl

section

variable [Zone.Directory] {uid : String} {fields : List (String × Value)} {inputs : List Input}
  {coerced : Input → Coerced}

/-- Each argument on its own is coerced to what is said. -/
def CoercedEach (uid : String) (fields : List (String × Value)) (coerced : Input → Coerced)
    (inputs : List Input) : Prop :=
  ∀ input ∈ inputs, ∃ fate, fateOf input.declaredType (argumentOf fields input) = .ok fate ∧
    coerced input = fate.coerced input (argumentOf fields input) uid

/-- **What an input adds whose argument failed:** its report. -/
theorem exists_accounts_failure {d : Diagnostics} {bus : EventBus} {input : Input}
    {fault : LiteralFault} (huid : d.uid = uid)
    (hfate : fateOf input.declaredType (argumentOf fields input) = .ok (.failed fault))
    (hlevel : d.log.threshold ≤ .warning) (hbus : d.activeBus? = some bus)
    (hroom : bus.queue.length < bus.capacity) :
    ∃ shown bus', (argumentOf fields input).shown = .ok shown ∧
      Accounts d bus [.of uid input shown fault.message]
        (((Fate.failed fault).coerced input (argumentOf fields input) uid).reported d) bus' := by
  obtain ⟨shown, hshown⟩ := exists_shown_of_fateOf_failed hfate
  have hreported := accounts_reported
    (f := ⟨uid, input.name, argumentOf fields input, input.declaredType.identifier, fault⟩)
    hshown hlevel hbus hroom
  rw [huid, report_eq] at hreported
  exact ⟨shown, _, hshown, hreported⟩

/-- **What inputs add one after the other:** one report for each whose argument failed. -/
theorem exists_accounts_trail {d : Diagnostics} {bus : EventBus}
    (heach : CoercedEach uid fields coerced inputs) (huid : d.uid = uid)
    (hlevel : d.log.threshold ≤ .warning) (hbus : d.activeBus? = some bus)
    (hroom : bus.queue.length + (failing coerced inputs).length ≤ bus.capacity) :
    ∃ reports bus', List.Forall₂ (Explains uid fields coerced) (failing coerced inputs) reports ∧
      Accounts d bus reports (trail uid fields inputs d) bus' := by
  induction inputs generalizing d bus with
  | nil => exact ⟨[], bus, .nil, accounts_nil hbus⟩
  | cons input rest ih =>
    obtain ⟨fate, hfate, hcoerced⟩ := heach input List.mem_cons_self
    have hrest : CoercedEach uid fields coerced rest :=
      fun later hlater => heach later (List.mem_cons_of_mem _ hlater)
    rw [trail, hfate]
    cases fate with
    | failed fault =>
      rw [failing_cons_of_failed hcoerced] at hroom ⊢
      rw [List.length_cons] at hroom
      obtain ⟨shown, first, hshown, hfirst⟩ :=
        exists_accounts_failure huid hfate hlevel hbus (by omega)
      have hlevel' := hlevel
      rw [← hfirst.threshold] at hlevel'
      -- The queue is longer by one notice at most, and there is one failure less to come.
      have hroom' : first.queue.length + (failing coerced rest).length ≤ first.capacity := by
        have hqueue := hfirst.takes.length_queue_le
        rw [List.map_singleton, List.length_singleton] at hqueue
        rw [hfirst.takes.capacity]
        omega
      obtain ⟨reports, bus', hexplains, hlater⟩ :=
        ih hrest (hfirst.uid.trans huid) hlevel' hfirst.active hroom'
      exact ⟨_, bus', .cons ⟨_, shown, hcoerced, hshown, rfl⟩ hexplains, hfirst.trans hlater⟩
    | absent | typed | passed =>
      have hfailed : (coerced input).isFailed = false := by
        rw [hcoerced]
        rfl
      rw [failing_cons_of_not_failed hfailed] at hroom ⊢
      exact ih hrest huid hlevel hbus hroom

/-- Coercing each argument on its own gives what is said. -/
theorem coercedEach_of_coerceOne {d : Diagnostics} (huid : uid ≠ "")
    (h : ∀ input ∈ inputs,
      ((coerceOne input (argumentOf fields input) uid).run d).1 = .ok (coerced input)) :
    CoercedEach uid fields coerced inputs := by
  intro input hinput
  obtain ⟨fate, hfate, hcoerced⟩ := coerceOne_eq_ok.1 (h input hinput)
  rw [if_neg huid] at hcoerced
  exact ⟨fate, hfate, hcoerced⟩

/-- From inputs that were all coerced nothing escapes. -/
theorem CoercedEach.noneEscapes (h : CoercedEach uid fields coerced inputs) :
    NoneEscapes fields inputs := by
  intro input hinput
  obtain ⟨fate, hfate, -⟩ := h input hinput
  rw [Option.eq_none_iff_forall_ne_some]
  intro e hescape
  rw [fateOf_eq_error.2 hescape] at hfate
  cases hfate

/-- The value that an input yields is that of what came of it. -/
theorem CoercedEach.valueOf_eq (h : CoercedEach uid fields coerced inputs) {input : Input}
    (hinput : input ∈ inputs) : valueOf fields input = (coerced input).value? := by
  obtain ⟨fate, hfate, hcoerced⟩ := h input hinput
  rw [Coercion.valueOf_eq hfate, hcoerced, Fate.value?_coerced]

/-- The inputs yield the values of what came of them. -/
theorem CoercedEach.yields_eq (h : CoercedEach uid fields coerced inputs) :
    yields fields inputs = entriesOf Input.name (fun input => (coerced input).value?) inputs :=
  List.filterMap_congr fun input hinput => by rw [h.valueOf_eq hinput]

/-- An input that gets a value has an argument. -/
theorem CoercedEach.argument_ne_null (h : CoercedEach uid fields coerced inputs) {input : Input}
    (hinput : input ∈ inputs) {v : Value} (hvalue : (coerced input).value? = some v) :
    argumentOf fields input ≠ .null := by
  intro hnull
  rw [← h.valueOf_eq hinput, valueOf, hnull] at hvalue
  cases hvalue

end

/-- **Coercing all arguments loses nothing in silence and reports nothing twice.** Where each
argument on its own is coerced to something, warnings are kept and the bus has room, there is a
result. A name has the value of the last input with the name whose argument became one; the names
are those of the inputs with such an argument, in the order in which they come first. Each input
whose argument failed, and no other, has one event on the bus and one warning in the log, in the
order of the inputs; the other records are made afterwards and help to find faults. -/
theorem coerceAll_accounts [Zone.Directory] {uid : String} {inputs : List Input}
    {fields : List (String × Value)} {coerced : Input → Coerced} {d : Diagnostics} {bus : EventBus}
    (huid : uid ≠ "")
    (hcoerced : ∀ input ∈ inputs,
      ((coerceOne input (argumentOf fields input) uid).run d).1 = .ok (coerced input))
    (hlevel : d.log.threshold ≤ .warning) (hbus : d.activeBus? = some bus)
    (hroom : bus.queue.length + (failing coerced inputs).length ≤ bus.capacity) :
    ∃ r d', (coerceAll uid inputs (.object fields)).run d = (.ok r, d') ∧
      (∀ name v, field? r name = some v ↔ ∃ before input after,
        inputs = before ++ input :: after ∧ input.name = name ∧
          argumentOf fields input ≠ .null ∧ (coerced input).value? = some v ∧
          ∀ later ∈ after, later.name = name → (coerced later).value? = none) ∧
      r.map Prod.fst =
        ((inputs.filter fun input => (coerced input).value?.isSome).map Input.name).eraseDups ∧
      (∀ name ∈ r.map Prod.fst, name ∈ inputs.map Input.name) ∧
      ∃ reports bus' remarks,
        List.Forall₂ (Explains uid fields coerced) (failing coerced inputs) reports ∧
        d'.activeBus? = some bus' ∧ Takes bus (reports.map Report.notice) bus' ∧
        d'.log.records = d.log.records ++ reports.map Report.record ++ remarks ∧
        ∀ remark ∈ remarks, remark.severity = .debug := by
  have heach := coercedEach_of_coerceOne huid hcoerced
  obtain ⟨reports, bus', hexplains, haccounts⟩ :=
    exists_accounts_trail (d := { d with uid }) heach rfl hlevel hbus hroom
  obtain ⟨remarks, hremarks, hleft⟩ := remarks_coerceAll huid inputs fields d
  have hresult : (coerceAll uid inputs (.object fields)).result d = .ok _ :=
    coerceAll_eq_ok.2 ⟨heach.noneEscapes, rfl⟩
  rw [heach.yields_eq] at hresult
  have hnames : (putFields [] (entriesOf Input.name (fun input => (coerced input).value?)
      inputs)).map Prod.fst =
        ((inputs.filter fun input => (coerced input).value?.isSome).map Input.name).eraseDups := by
    rw [map_fst_putFields, map_fst_entriesOf]
  have hrun := Reporting.run_eq (coerceAll uid inputs (.object fields)) d
  rw [hresult, hleft] at hrun
  refine ⟨_, _, hrun, fun name v => ?_, hnames, fun name hname => ?_,
    reports, bus', remarks, hexplains, haccounts.active, haccounts.takes, ?_, hremarks⟩
  · rw [field?_putFields_entriesOf_eq_some]
    constructor
    · rintro ⟨before, input, after, rfl, hname, hvalue, hlater⟩
      exact ⟨before, input, after, rfl, hname, heach.argument_ne_null (by simp) hvalue, hvalue,
        hlater⟩
    · rintro ⟨before, input, after, hsplit, hname, -, hvalue, hlater⟩
      exact ⟨before, input, after, hsplit, hname, hvalue, hlater⟩
  · rw [hnames, List.mem_eraseDups] at hname
    exact List.map_subset Input.name (List.filter_subset_self _) hname
  · exact congrArg (· ++ remarks) haccounts.records

/-- Inputs of which two share a name. -/
def dialInputs : List Input :=
  [byteLevel, { byteLevel with type := "int" }, modeInput]

/-- Arguments of which one is null and one is not declared. -/
def dialArguments : List (String × Value) :=
  [("other", .text "x"), ("level", .text "300"), ("mode", .null)]

/-- What becomes of the arguments. -/
def dialed (input : Input) : Coerced :=
  if input.name = "mode" then .absent
  else if input.type = "byte" then
    .failed ⟨"dim", "level", .text "300", "byte", .outOfRange 8⟩
  else .typed .int (.int 300)

/-- A bus with room for one event. -/
def dialBus : EventBus := .create [.memory] 1

/-- Diagnostics with warnings and the bus. -/
def dialDiagnostics : Diagnostics :=
  { Diagnostics.ofLevel .warning with bus := some dialBus, route := .bus }

set_option maxRecDepth 20000 in
/-- A value of a name stands although an argument of the name failed, and the failure is
reported. -/
theorem coerceAll_accounts_dial :
    (∀ input ∈ dialInputs,
      ((coerceOne input (argumentOf dialArguments input) "dim").run dialDiagnostics).1 =
        .ok (dialed input)) ∧
      dialDiagnostics.log.threshold ≤ .warning ∧ dialDiagnostics.activeBus? = some dialBus ∧
      dialBus.queue.length + (failing dialed dialInputs).length ≤ dialBus.capacity ∧
      ∃ r d', (coerceAll "dim" dialInputs (.object dialArguments)).run dialDiagnostics =
          (.ok r, d') ∧
        field? r "level" = some (.int 300) ∧ r.map Prod.fst = ["level"] ∧
        ∃ reports bus',
          List.Forall₂ (Explains "dim" dialArguments dialed) [byteLevel] reports ∧
          d'.activeBus? = some bus' ∧ Takes dialBus (reports.map Report.notice) bus' := by
  have hcoerced : ∀ input ∈ dialInputs,
      ((coerceOne input (argumentOf dialArguments input) "dim").run dialDiagnostics).1 =
        .ok (dialed input) := by
    simp only [dialInputs, List.forall_mem_cons]
    exact ⟨rfl, rfl, rfl, by simp⟩
  have hlevel : dialDiagnostics.log.threshold ≤ .warning := by decide
  have hroom : dialBus.queue.length + (failing dialed dialInputs).length ≤ dialBus.capacity := by
    decide
  obtain ⟨r, d', hrun, hvalue, hnames, -, reports, bus', remarks, hexplains, hactive, htakes, -, -⟩ :=
    coerceAll_accounts (by decide) hcoerced hlevel rfl hroom
  refine ⟨hcoerced, hlevel, rfl, hroom, r, d', hrun, ?_, hnames, reports, bus', hexplains, hactive,
    htakes⟩
  exact (hvalue "level" (.int 300)).2
    ⟨[byteLevel], _, _, rfl, rfl, by simp [argumentOf, dialArguments, field?, byteLevel], rfl,
      by simp [modeInput]⟩

end Coercion
end TypedInputs
