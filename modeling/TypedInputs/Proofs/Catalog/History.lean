/-
# The registry and its history

What happened to a registry is the list of the actions that were registered and of the times when it
was cleared. The registry holds what this history says (`Holds`): under each uid the action that was
registered last since the registry was cleared (`latest?`).

| operation | what happens |
| --- | --- |
| `register` | the action is registered, unless it is refused |
| `registerCatalog` | the catalog is loaded, then its actions are registered up to the first refused |
| `get`, `tryGet`, `all` | nothing |
| `clear` | the registry is cleared |

What an operation answers is determined by the history (`Holds.conforms`). One operation keeps the
registry at what its history says (`Holds.perform`), and therefore any number of them does
(`Holds.performAll`).
-/

import TypedInputs.Proofs.Catalog.Registration

namespace TypedInputs
namespace Catalog

open Diagnostics

/-! ### Histories -/

/-- What happens to a registry. -/
inductive Happening where
  | registered (action : Action)
  | cleared

/-- The action that was registered last under a uid since the registry was cleared. The latest happening
comes first. -/
def latest? : List Happening → String → Option Action
  | [], _ => none
  | .cleared :: _, _ => none
  | .registered action :: earlier, uid =>
    if action.uid = uid then some action else latest? earlier uid

/-- A registry that holds what its history says. -/
structure Holds (r : Registry) (h : List Happening) : Prop where
  uid_eq : ∀ entry ∈ r.entries, entry.1 = entry.2.uid
  get?_eq : ∀ uid, r.get? uid = latest? h uid

/-- The history after actions were registered one after the other, up to the first whose uid is taken
and that may not overwrite. -/
def registerEach (overwrite : Bool) : List Action → List Happening → List Happening
  | [], h => h
  | action :: rest, h =>
    if overwrite = false ∧ (latest? h action.uid).isSome then h
    else registerEach overwrite rest (.registered action :: h)

variable {r r' : Registry} {h : List Happening} {action : Action} {overwrite : Bool}

/-- The empty registry holds the empty history. -/
theorem holds_empty : Holds .empty [] :=
  ⟨fun _ hentry => absurd hentry List.not_mem_nil, fun _ => rfl⟩

/-- A registry that was cleared holds its history. -/
theorem Holds.clear (h : List Happening) : Holds .empty (.cleared :: h) :=
  ⟨fun _ hentry => absurd hentry List.not_mem_nil, fun _ => rfl⟩

/-- **One action put.** -/
theorem Holds.insert (hholds : Holds r h) (action : Action) :
    Holds (r.insert action) (.registered action :: h) where
  uid_eq entry hentry := by
    rcases mem_of_mem_setField hentry with rfl | hold
    · rfl
    · exact hholds.uid_eq entry hold
  get?_eq uid := by
    by_cases huid : action.uid = uid
    · subst huid
      rw [Registry.get?_insert_self, latest?, if_pos rfl]
    · rw [Registry.get?_insert_of_ne r (Ne.symm huid), latest?, if_neg huid, hholds.get?_eq]

/-- An action is refused when it may not overwrite and the history has its uid. -/
theorem Holds.refuses_iff (hholds : Holds r h) :
    r.Refuses overwrite action ↔ overwrite = false ∧ (latest? h action.uid).isSome := by
  rw [Registry.Refuses, hholds.get?_eq]

/-- **Actions put one after the other.** -/
theorem Holds.registers {actions : List Action} {refusal : Option RegistryFault}
    (hregisters : Registry.Registers overwrite r actions refusal r') (hholds : Holds r h) :
    Holds r' (registerEach overwrite actions h) := by
  induction hregisters generalizing h with
  | done r => exact hholds
  | @next r r' r'' action rest refusal hfirst hrest ih =>
    obtain ⟨hnot, rfl⟩ := Registry.register_eq_ok.1 hfirst
    rw [registerEach, if_neg (mt hholds.refuses_iff.2 hnot)]
    exact ih (hholds.insert action)
  | @refused r action rest fault hfirst =>
    obtain ⟨hrefuses, -⟩ := Registry.register_eq_error.1 hfirst
    rw [registerEach, if_pos (hholds.refuses_iff.1 hrefuses)]
    exact hholds

/-! ### The list of all actions -/

/-- Under a uid stands an action with this uid. -/
theorem Holds.uid_of_get? (hholds : Holds r h) {uid : String} (hget : r.get? uid = some action) :
    action.uid = uid :=
  (hholds.uid_eq _ (mem_of_field?_eq_some hget)).symm

/-- Every uid that is listed has its action. -/
theorem Holds.exists_get? (hholds : Holds r h) {uid : String} (huid : uid ∈ r.uids) :
    ∃ action, r.get? uid = some action ∧ action.uid = uid := by
  rw [Registry.uids, TextSet.mem_toList_ofList] at huid
  obtain ⟨action, hget⟩ := Option.ne_none_iff_exists'.1 fun hnone => field?_eq_none.1 hnone huid
  exact ⟨action, hget, hholds.uid_of_get? hget⟩

/-- The actions are listed by the uids that they are held under, which are theirs. -/
theorem Holds.map_uid_actions (hholds : Holds r h) : r.actions.map Action.uid = r.uids := by
  have heach : ∀ uids : List String, (∀ uid ∈ uids, uid ∈ r.uids) →
      (uids.filterMap r.get?).map Action.uid = uids := by
    intro uids huids
    induction uids with
    | nil => rfl
    | cons uid rest ih =>
      obtain ⟨action, hget, huid⟩ := hholds.exists_get? (huids uid List.mem_cons_self)
      rw [List.filterMap_cons_some hget, List.map_cons, huid,
        ih fun later hlater => huids later (List.mem_cons_of_mem _ hlater)]
  exact heach r.uids fun _ huid => huid

/-- The actions are listed by ascending uids, each uid once. -/
theorem Holds.pairwise_actions (hholds : Holds r h) :
    (r.actions.map Action.uid).Pairwise (· < ·) := by
  rw [hholds.map_uid_actions]
  exact (TextSet.ofList _).ascending

/-- The actions that are listed are those that the history has under their own uids. -/
theorem Holds.mem_actions (hholds : Holds r h) :
    action ∈ r.actions ↔ latest? h action.uid = some action := by
  rw [Registry.actions, List.mem_filterMap, ← hholds.get?_eq]
  constructor
  · rintro ⟨uid, -, hget⟩
    rwa [hholds.uid_of_get? hget]
  · intro hget
    refine ⟨action.uid, ?_, hget⟩
    rw [Registry.uids, TextSet.mem_toList_ofList]
    exact List.mem_map_of_mem (mem_of_field?_eq_some hget)

/-! ### Operations -/

/-- What can be done with a registry. -/
inductive Operation where
  | register (action : Action) (overwrite : Bool)
  | registerCatalog (files : Files) (path : Option String) (data : Value) (overwrite : Bool)
  | get (uid : String)
  | tryGet (uid : String)
  | all
  | clear

/-- What an operation that succeeds answers. -/
inductive Reply where
  | done
  | action (action : Action)
  | perhaps (action : Option Action)
  | actions (actions : List Action)

/-- What an operation answers, and the registry that it leaves. -/
abbrev Outcome := Except RegistrationFault Reply × Registry

variable [YamlLibrary]

/-- An operation performed. -/
def Operation.perform (r : Registry) : Operation → StateM Diagnostics Outcome
  | .register action overwrite =>
    match r.register action overwrite with
    | .ok registered => return (.ok .done, registered)
    | .error fault => return (.error (.registry fault), r)
  | .registerCatalog files path data overwrite => do
    let (result, left) ← Catalog.register files path data overwrite r
    return (result.map .actions, left)
  | .get uid => return ((r.get uid).mapError .registry |>.map .action, r)
  | .tryGet uid => return (.ok (.perhaps (r.get? uid)), r)
  | .all => return (.ok (.actions r.actions), r)
  | .clear => return (.ok .done, .empty)

/-- The history after an operation. -/
def Operation.record (h : List Happening) : Operation → List Happening
  | .register action overwrite => registerEach overwrite [action] h
  | .registerCatalog files path data overwrite =>
    match loaded files path data with
    | .ok actions => registerEach overwrite actions h
    | .error _ => h
  | .get _ | .tryGet _ | .all => h
  | .clear => .cleared :: h

/-- The registry and the diagnostics after operations were performed one after the other. -/
def performAll (ops : List Operation) (r : Registry) : StateM Diagnostics Registry :=
  ops.foldlM (fun r op => Prod.snd <$> op.perform r) r

/-- The history of operations on a registry that was empty. -/
def historyOf (ops : List Operation) : List Happening := ops.foldl Operation.record []

/-- What is expected of an operation on a registry with a history: its answer and the registry that it
leaves. -/
def Conforms (h : List Happening) (r : Registry) (op : Operation) (outcome : Outcome) : Prop :=
  match op with
  | .register action overwrite =>
    if overwrite = false ∧ (latest? h action.uid).isSome then
      outcome = (.error (.registry (.taken action.uid)), r)
    else outcome = (.ok .done, r.insert action)
  | .registerCatalog files path data overwrite =>
    match loaded files path data with
    | .error fault => outcome = (.error (.catalog fault), r)
    | .ok actions => ∃ refusal, Registry.Registers overwrite r actions refusal outcome.2 ∧
        outcome.1 = refusal.elim (.ok (.actions actions)) (fun fault => .error (.registry fault)) ∧
        (refusal.isSome ↔ overwrite = false ∧
          (¬(actions.map Action.uid).Nodup ∨ ∃ a ∈ actions, (latest? h a.uid).isSome))
  | .get uid =>
    outcome = ((latest? h uid).elim (.error (.registry (.absent uid))) fun a => .ok (.action a), r)
  | .tryGet uid => outcome = (.ok (.perhaps (latest? h uid)), r)
  | .all => ∃ actions, outcome = (.ok (.actions actions), r) ∧
      (actions.map Action.uid).Pairwise (· < ·) ∧ ∀ a, a ∈ actions ↔ latest? h a.uid = some a
  | .clear => outcome = (.ok .done, .empty)

/-- Registering a catalog, with the actions that it is loaded to. -/
theorem perform_registerCatalog (files : Files) (path : Option String) (data : Value)
    (overwrite : Bool) (r : Registry) (d : Diagnostics) :
    (((Operation.registerCatalog files path data overwrite).perform r).run d).1 =
      match loaded files path data with
      | .error fault => (.error (.catalog fault), r)
      | .ok actions =>
        ((r.registerAll overwrite actions).1.elim (.ok (.actions actions))
          fun fault => .error (.registry fault), (r.registerAll overwrite actions).2) := by
  have hregister := register_run files path data overwrite r d
  show (Except.map Reply.actions ((register files path data overwrite r).run d).1.1,
    ((register files path data overwrite r).run d).1.2) = _
  rw [hregister]
  cases loaded files path data with
  | error fault => rfl
  | ok actions =>
    dsimp only
    rcases r.registerAll overwrite actions with ⟨_ | fault, left⟩ <;> rfl

/-- Registering an action, with what is known of its uid. -/
theorem perform_register (action : Action) (overwrite : Bool) (r : Registry) (d : Diagnostics) :
    (((Operation.register action overwrite).perform r).run d).1 =
      if r.Refuses overwrite action then (.error (.registry (.taken action.uid)), r)
      else (.ok .done, r.insert action) := by
  unfold Operation.perform
  dsimp only
  split_ifs with hrefuses
  · rw [Registry.register_of_refuses hrefuses]
    rfl
  · rw [Registry.register_of_not_refuses hrefuses]
    rfl

/-- **What an operation answers** is determined by the history of the registry. -/
theorem Holds.conforms (hholds : Holds r h) (op : Operation) (d : Diagnostics) :
    Conforms h r op ((op.perform r).run d).1 := by
  cases op with
  | register action overwrite =>
    rw [perform_register]
    unfold Conforms
    simp only [hholds.refuses_iff]
    split_ifs <;> rfl
  | registerCatalog files path data overwrite =>
    rw [perform_registerCatalog]
    dsimp only [Conforms]
    cases loaded files path data with
    | error fault => exact rfl
    | ok actions =>
      have hregisters := Registry.registers_registerAll r overwrite actions
      simp only [← hholds.get?_eq]
      exact ⟨_, hregisters, rfl, hregisters.isSome_iff⟩
  | get uid =>
    show (((r.get uid).mapError RegistrationFault.registry).map Reply.action, r) = _
    rw [← hholds.get?_eq, Registry.get]
    cases r.get? uid <;> rfl
  | tryGet uid =>
    show (Except.ok (Reply.perhaps (r.get? uid)), r) = _
    rw [hholds.get?_eq]
  | all => exact ⟨r.actions, rfl, hholds.pairwise_actions, fun a => hholds.mem_actions⟩
  | clear => exact rfl

/-- **One operation** keeps the registry at what its history says. -/
theorem Holds.perform (hholds : Holds r h) (op : Operation) (d : Diagnostics) :
    Holds ((op.perform r).run d).1.2 (op.record h) := by
  cases op with
  | register action overwrite =>
    rw [perform_register]
    unfold Operation.record registerEach
    simp only [hholds.refuses_iff]
    split_ifs
    · exact hholds
    · exact hholds.insert action
  | registerCatalog files path data overwrite =>
    rw [perform_registerCatalog]
    dsimp only [Operation.record]
    cases loaded files path data with
    | error fault => exact hholds
    | ok actions => exact hholds.registers (Registry.registers_registerAll r overwrite actions)
  | get uid | tryGet uid | all => exact hholds
  | clear => exact .clear h

/-- Any number of operations do. -/
theorem Holds.performAll (hholds : Holds r h) (ops : List Operation) (d : Diagnostics) :
    Holds ((performAll ops r).run d).1 (ops.foldl Operation.record h) := by
  induction ops generalizing r h d with
  | nil => exact hholds
  | cons op rest ih => exact ih (hholds.perform op d) ((op.perform r).run d).2

/-- **The registry refines its history.** After any operations on a registry that was empty, each action
is held under its own uid, and under each uid the one that was registered last since the registry was
cleared. Every further operation answers what the history says, and the registry then holds what the
longer history says. -/
theorem registry_refines_history (ops : List Operation) (d : Diagnostics) :
    Holds ((performAll ops .empty).run d).1 (historyOf ops) ∧
      ∀ (op : Operation) (d' : Diagnostics),
        Conforms (historyOf ops) ((performAll ops .empty).run d).1 op
            ((op.perform ((performAll ops .empty).run d).1).run d').1 ∧
          Holds ((op.perform ((performAll ops .empty).run d).1).run d').1.2
            (historyOf (ops ++ [op])) := by
  have hholds := holds_empty.performAll ops d
  refine ⟨hholds, fun op d' => ⟨hholds.conforms op d', ?_⟩⟩
  rw [historyOf, List.foldl_append]
  exact hholds.perform op d'

end Catalog
end TypedInputs
