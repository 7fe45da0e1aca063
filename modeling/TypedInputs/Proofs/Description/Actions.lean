/-
# Descriptions of actions

An action is described in full when all of its inputs can be described (`Action.IsDescribable`), and
otherwise without parameters. A description restores the uid in force and leaves at most the report of
one input, under the uid of the action (`run_describeAction`). So a list of actions has one description
for each, and the bus takes one notice for each action that is not described in full, in their order
(`run_describeActions`, `takes_reportedActions`).
-/

import TypedInputs.Proofs.Description.Derivation

namespace TypedInputs

open Diagnostics EventBus

/-- An action whose inputs can all be described. -/
def Action.IsDescribable (action : Action) : Prop := ∀ input ∈ action.inputs, input.IsDescribable

instance : DecidablePred Action.IsDescribable :=
  fun action => inferInstanceAs (Decidable (∀ input ∈ action.inputs, input.IsDescribable))

namespace Description

variable {ε : Type} {d : Diagnostics}

/-- The parameters of inputs that can all be described. -/
def allParameters? (inputs : List Input) : Option (List Parameter) :=
  match firstUndescribed? inputs with
  | none => some (inputs.filterMap Input.parameter?)
  | some _ => none

/-- Inputs have all of their parameters or none. -/
theorem result_describeInputs (inputs : List Input) (d : Diagnostics) :
    (describeInputs inputs : Reporting ε _).result d = .ok (allParameters? inputs) := by
  rw [Reporting.result_eq, run_describeInputs, allParameters?]
  cases firstUndescribed? inputs <;> rfl

/-- The description of an action. -/
def described (action : Action) : ActionDescription :=
  ⟨action.uid, action.label, action.description, action.inputs, allParameters? action.inputs,
    action.outputs⟩

/-- An action that can be described is configurable, and no other. -/
theorem isConfigurable_described {action : Action} :
    (described action).isConfigurable = true ↔ action.IsDescribable := by
  rw [Action.IsDescribable, ← firstUndescribed?_eq_none]
  show (allParameters? action.inputs).isSome = true ↔ _
  unfold allParameters?
  cases firstUndescribed? action.inputs <;> simp

/-- A description that says of its action what there is to say. -/
structure DescribesAction (action : Action) (view : ActionDescription) : Prop where
  uid : view.uid = action.uid
  label : view.label = action.label
  description : view.description = action.description
  inputs : view.inputs = action.inputs
  outputs : view.outputs = action.outputs
  configurable : view.isConfigurable = true ↔ action.IsDescribable
  /-- The parameters are what the inputs are described by, in whatever diagnostics. -/
  parameters : ∀ d : Diagnostics,
    ((describeInputs action.inputs : Reporting Empty _).run d).1 = .ok view.parameters
  /-- Every input has its parameter, or there are none at all. -/
  complete : ∀ parameters, view.parameters = some parameters →
    List.Forall₂ Describes action.inputs parameters

/-- The description of an action has all that a description should have. -/
theorem describesAction_described (action : Action) : DescribesAction action (described action) where
  uid := rfl
  label := rfl
  description := rfl
  inputs := rfl
  outputs := rfl
  configurable := isConfigurable_described
  parameters d := result_describeInputs action.inputs d
  complete parameters h := by
    have hall : action.IsDescribable := isConfigurable_described.1 (Option.isSome_of_mem h)
    have hfirst : firstUndescribed? action.inputs = none := firstUndescribed?_eq_none.2 hall
    change allParameters? action.inputs = some parameters at h
    rw [allParameters?, hfirst] at h
    obtain rfl := Option.some.inj h
    exact (forall₂_parameters hall).imp fun _ _ => describes_of_parameter?

/-- The diagnostics after an action was described. -/
def reportedAction (action : Action) (d : Diagnostics) : Diagnostics :=
  match firstUndescribed? action.inputs with
  | none => d
  | some input =>
    { (reported input.unsupported { d with uid := action.uid }).record .debug actionLogger
        ("Action " ++ action.uid ++ " has inputs without a UI representation") with uid := d.uid }

/-- **The description of an action** restores the uid in force. -/
theorem run_describeAction (action : Action) (d : Diagnostics) :
    (describeAction action : Reporting ε _).run d =
      (.ok (described action), reportedAction action d) := by
  have hinputs := run_describeInputs (ε := ε) action.inputs { d with uid := action.uid }
  rw [describeAction, Reporting.run_withUid action.uid_ne]
  unfold described allParameters? reportedAction
  cases hfirst : firstUndescribed? action.inputs with
  | none | some input =>
    rw [hfirst] at hinputs
    rw [Reporting.run_bind_of_ok hinputs]
    rfl

/-- The diagnostics after actions were described one after the other. -/
def reportedActions (actions : List Action) (d : Diagnostics) : Diagnostics :=
  actions.foldl (fun d action => reportedAction action d) d

theorem reportedActions_cons (action : Action) (rest : List Action) (d : Diagnostics) :
    reportedActions (action :: rest) d = reportedActions rest (reportedAction action d) := rfl

/-- The description of an action restores the uid in force. -/
theorem uid_reportedAction (action : Action) (d : Diagnostics) :
    (reportedAction action d).uid = d.uid := by
  unfold reportedAction
  split <;> rfl

/-- Descriptions restore the uid in force. -/
theorem uid_reportedActions (actions : List Action) (d : Diagnostics) :
    (reportedActions actions d).uid = d.uid := by
  induction actions generalizing d with
  | nil => rfl
  | cons action rest ih => rw [reportedActions_cons, ih, uid_reportedAction]

/-- **The descriptions of actions,** one after the other. -/
theorem run_describeActions (actions : List Action) (d : Diagnostics) :
    (describeActions actions : Reporting ε _).run d =
      (.ok (actions.map described), reportedActions actions d) := by
  unfold describeActions
  induction actions generalizing d with
  | nil => rfl
  | cons action rest ih =>
    rw [List.mapM_cons, Reporting.run_bind_of_ok (run_describeAction action d),
      Reporting.run_bind_of_ok (ih _)]
    rfl

/-! ### What the bus takes -/

/-- The notice that an action is not described in full, about its first input that cannot be. -/
def IsNoticeOf (action : Action) (n : Notice) : Prop :=
  ∃ before input after, action.inputs = before ++ input :: after ∧
    (∀ earlier ∈ before, earlier.IsDescribable) ∧ ¬input.IsDescribable ∧
    n = (reportOf action.uid input).notice

/-- **An action leaves its notice on the bus if it is not described in full.** -/
theorem takes_reportedAction {bus : EventBus} (action : Action) (hbus : d.activeBus? = some bus)
    (hroom : ¬action.IsDescribable → bus.queue.length < bus.capacity) :
    ∃ bus' notices, (reportedAction action d).activeBus? = some bus' ∧ Takes bus notices bus' ∧
      List.Forall₂ IsNoticeOf ([action].filter fun a => ¬a.IsDescribable) notices := by
  unfold reportedAction
  cases hfirst : firstUndescribed? action.inputs with
  | none =>
    have hall : action.IsDescribable := firstUndescribed?_eq_none.1 hfirst
    exact ⟨bus, [], hbus, takes_nil bus, by simp [hall]⟩
  | some input =>
    obtain ⟨hinput, before, after, hinputs, hbefore⟩ := firstUndescribed?_eq_some.1 hfirst
    have hnot : ¬action.IsDescribable := fun hall => hinput (hall input (by simp [hinputs]))
    have hactive : ({ d with uid := action.uid }.record .info inputLogger
        input.unsupported.reason).activeBus? = some bus := hbus
    obtain ⟨hactive', -, -⟩ := notify_spec hactive (input.unsupported.notice action.uid)
    refine ⟨_, [_], hactive', takes_publish (hroom hnot) _, ?_⟩
    rw [List.filter_cons_of_pos (by simpa using hnot), List.filter_nil]
    exact .cons ⟨before, input, after, hinputs, hbefore, hinput, rfl⟩ .nil

/-- **The bus takes one notice for each action that is not described in full,** in their order. -/
theorem takes_reportedActions (actions : List Action) {bus : EventBus}
    (hbus : d.activeBus? = some bus)
    (hroom : bus.queue.length + (actions.filter fun a => ¬a.IsDescribable).length ≤ bus.capacity) :
    ∃ bus' notices, (reportedActions actions d).activeBus? = some bus' ∧ Takes bus notices bus' ∧
      List.Forall₂ IsNoticeOf (actions.filter fun a => ¬a.IsDescribable) notices := by
  induction actions generalizing d bus with
  | nil => exact ⟨bus, [], hbus, takes_nil bus, .nil⟩
  | cons action rest ih =>
    -- The notices of the first action, of which there is one at most, stand in front of the others.
    rw [show action :: rest = [action] ++ rest from rfl, List.filter_append, List.length_append]
      at hroom
    obtain ⟨bus', notices, hbus', htakes, hnotices⟩ := takes_reportedAction action hbus
      fun hnot => by
        rw [List.filter_cons_of_pos (by simpa using hnot)] at hroom
        simp only [List.filter_nil, List.length_singleton] at hroom
        omega
    have hlength := htakes.length_queue_le
    rw [← hnotices.length_eq] at hlength
    obtain ⟨bus'', later, hbus'', htakes', hlater⟩ := ih hbus' (by rw [htakes.capacity]; omega)
    refine ⟨bus'', notices ++ later, hbus'', htakes.trans htakes', ?_⟩
    rw [show action :: rest = [action] ++ rest from rfl, List.filter_append]
    exact List.rel_append hnotices hlater

end Description
end TypedInputs
