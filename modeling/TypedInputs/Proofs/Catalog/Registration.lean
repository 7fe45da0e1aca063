/-
# Registering actions

A uid that an action is registered under has this action afterwards, and every other uid has what it
had (`get?_insert_self`, `get?_insert_of_ne`). Actions are registered one after the other up to the
first that is refused (`Registers`); one is refused exactly when nothing may be overwritten and a uid
is taken or comes twice (`Registers.isSome_iff`).

A catalog that does not load leaves the registry as it is. One that loads and is then refused leaves
behind it what came before the refusal, in addition to all that was registered (`register_failed`).
So a registration that fails as a whole may have changed the registry (`register_not_atomic`).
-/

import TypedInputs.Catalog.Yaml
import TypedInputs.Proofs.Fields
import TypedInputs.Proofs.Reporting

namespace TypedInputs
namespace Catalog

open Diagnostics

namespace Registry

variable {r r' r'' : Registry} {action : Action} {actions rest : List Action} {overwrite : Bool}

/-! ### One action -/

/-- An action is held under its uid once it is inserted. -/
theorem get?_insert_self (r : Registry) (action : Action) :
    (r.insert action).get? action.uid = some action :=
  field?_setField_self ..

/-- Inserting an action leaves what is held under other uids. -/
theorem get?_insert_of_ne (r : Registry) {uid : String} (h : uid ≠ action.uid) :
    (r.insert action).get? uid = r.get? uid :=
  field?_setField_of_ne _ _ h

/-- The uids that are held are the one that was inserted and those before. -/
theorem isSome_get?_insert (r : Registry) (action : Action) (uid : String) :
    ((r.insert action).get? uid).isSome ↔ uid = action.uid ∨ (r.get? uid).isSome := by
  by_cases h : uid = action.uid
  · subst h
    simp [get?_insert_self]
  · simp [get?_insert_of_ne r h, h]

/-- An action is refused when it may not overwrite and its uid is taken. -/
def Refuses (r : Registry) (overwrite : Bool) (action : Action) : Prop :=
  overwrite = false ∧ (r.get? action.uid).isSome

instance : Decidable (r.Refuses overwrite action) := inferInstanceAs (Decidable (_ ∧ _))

theorem register_of_refuses (h : r.Refuses overwrite action) :
    r.register action overwrite = .error (.taken action.uid) := by
  rw [register, if_pos (by simp [h.1, h.2])]

theorem register_of_not_refuses (h : ¬r.Refuses overwrite action) :
    r.register action overwrite = .ok (r.insert action) := by
  rw [register, if_neg fun hrefuses => h (by simpa [Refuses] using hrefuses)]

/-- **What an action that is registered changes:** it is put, and nothing forbade it. -/
theorem register_eq_ok :
    r.register action overwrite = .ok r' ↔ ¬r.Refuses overwrite action ∧ r' = r.insert action := by
  by_cases h : r.Refuses overwrite action
  · simp [register_of_refuses h, h]
  · simp [register_of_not_refuses h, h, eq_comm]

/-- **Why an action is refused:** its uid is taken, and it may not overwrite. -/
theorem register_eq_error {fault : RegistryFault} :
    r.register action overwrite = .error fault ↔
      r.Refuses overwrite action ∧ fault = .taken action.uid := by
  by_cases h : r.Refuses overwrite action
  · simp [register_of_refuses h, h, eq_comm]
  · simp [register_of_not_refuses h, h]

/-! ### Actions one after the other -/

/-- Actions registered one after the other: the first that is refused ends it. -/
inductive Registers (overwrite : Bool) :
    Registry → List Action → Option RegistryFault → Registry → Prop
  | done (r : Registry) : Registers overwrite r [] none r
  | next {r r' r'' : Registry} {action : Action} {rest : List Action}
      {refusal : Option RegistryFault} (hfirst : r.register action overwrite = .ok r')
      (hrest : Registers overwrite r' rest refusal r'') :
      Registers overwrite r (action :: rest) refusal r''
  | refused {r : Registry} {action : Action} {rest : List Action} {fault : RegistryFault}
      (hfirst : r.register action overwrite = .error fault) :
      Registers overwrite r (action :: rest) (some fault) r

/-- Registering actions one after the other is a run of registrations that ends with the first
refusal. -/
theorem registers_registerAll (r : Registry) (overwrite : Bool) (actions : List Action) :
    Registers overwrite r actions (r.registerAll overwrite actions).1
      (r.registerAll overwrite actions).2 := by
  induction actions generalizing r with
  | nil => exact .done r
  | cons action rest ih =>
    rw [registerAll]
    cases hfirst : r.register action overwrite with
    | ok registered => exact .next hfirst (ih registered)
    | error fault => exact .refused hfirst

/-- **Something is refused** exactly when nothing may be overwritten and a uid is taken before or comes
twice. -/
theorem Registers.isSome_iff {refusal : Option RegistryFault}
    (h : Registers overwrite r actions refusal r') :
    refusal.isSome ↔ overwrite = false ∧
      (¬(actions.map Action.uid).Nodup ∨ ∃ action ∈ actions, (r.get? action.uid).isSome) := by
  induction h with
  | done r => simp
  | @refused r action rest fault hfirst =>
    have hrefuses := (register_eq_error.1 hfirst).1
    exact iff_of_true rfl ⟨hrefuses.1, .inr ⟨action, List.mem_cons_self, hrefuses.2⟩⟩
  | @next r r' r'' action rest refusal hfirst hrest ih =>
    obtain ⟨hnot, rfl⟩ := register_eq_ok.1 hfirst
    rw [ih]
    refine and_congr_right fun hoverwrite => ?_
    have hfree : ¬(r.get? action.uid).isSome := fun htaken => hnot ⟨hoverwrite, htaken⟩
    simp only [isSome_get?_insert, List.map_cons, List.nodup_cons, List.mem_map, List.mem_cons,
      exists_eq_or_imp, hfree, Bool.false_eq_true, false_or]
    constructor
    · rintro (hrepeated | ⟨later, hlater, huid | htaken⟩)
      · exact .inl fun hnodup => hrepeated hnodup.2
      · exact .inl fun hnodup => hnodup.1 ⟨later, hlater, huid⟩
      · exact .inr ⟨later, hlater, htaken⟩
    · rintro (hrepeated | ⟨later, hlater, htaken⟩)
      · by_cases hnodup : (rest.map Action.uid).Nodup
        · obtain ⟨later, hlater, huid⟩ := not_not.1 fun hnew => hrepeated ⟨hnew, hnodup⟩
          exact .inr ⟨later, hlater, .inl huid⟩
        · exact .inl hnodup
      · exact .inr ⟨later, hlater, .inr htaken⟩

/-- **What a refusal leaves:** the entries that were there, and behind them those of the actions before
the refused one, whose uids are all new. -/
theorem Registers.of_refused {fault : RegistryFault}
    (h : Registers overwrite r actions (some fault) r') :
    overwrite = false ∧ ∃ before refused after, actions = before ++ refused :: after ∧
      fault = .taken refused.uid ∧
      r'.entries = r.entries ++ before.map (fun action => (action.uid, action)) ∧
      (before.map Action.uid).Nodup ∧ (∀ action ∈ before, r.get? action.uid = none) ∧
      (r'.get? refused.uid).isSome := by
  generalize hrefusal : some fault = refusal at h
  induction h with
  | done r => cases hrefusal
  | @refused r action rest fault' hfirst =>
    obtain rfl := Option.some.inj hrefusal
    obtain ⟨hrefuses, hfault⟩ := register_eq_error.1 hfirst
    exact ⟨hrefuses.1, [], action, rest, rfl, hfault, (List.append_nil _).symm, .nil, by simp,
      hrefuses.2⟩
  | @next r r' r'' action rest refusal hfirst hrest ih =>
    obtain ⟨hoverwrite, before, refused, after, rfl, hfault, hentries, hnodup, hfree, htaken⟩ :=
      ih hrefusal
    obtain ⟨hnot, rfl⟩ := register_eq_ok.1 hfirst
    have hnew : r.get? action.uid = none :=
      Option.not_isSome_iff_eq_none.1 fun hsome => hnot ⟨hoverwrite, hsome⟩
    -- The uids behind are free after the first action was put, so they differ from its uid.
    have hlater : ∀ later ∈ before, later.uid ≠ action.uid ∧ r.get? later.uid = none := by
      intro later hmem
      have hnone := hfree later hmem
      have hne : later.uid ≠ action.uid := fun huid => by
        rw [huid, get?_insert_self] at hnone
        cases hnone
      exact ⟨hne, by rwa [get?_insert_of_ne r hne] at hnone⟩
    refine ⟨hoverwrite, action :: before, refused, after, rfl, hfault, ?_, ?_, ?_, htaken⟩
    · have hput : (r.insert action).entries = r.entries ++ [(action.uid, action)] :=
        setField_of_not_mem (field?_eq_none.1 hnew) action
      rw [hentries, hput, List.append_assoc]
      rfl
    · refine List.nodup_cons.2 ⟨fun hmem => ?_, hnodup⟩
      obtain ⟨later, hmem, huid⟩ := List.mem_map.1 hmem
      exact (hlater later hmem).1 huid
    · intro first hmem
      rcases List.mem_cons.1 hmem with rfl | hmem
      · exact hnew
      · exact (hlater first hmem).2

end Registry

/-! ### Catalogs -/

section

variable [YamlLibrary]

/-- What a catalog is loaded to. -/
def loaded (files : Files) (path : Option String) (data : Value) :
    Except CatalogFault (List Action) :=
  match data, path with
  | .null, some path => readFile files path >>= ofData
  | .null, none => .error .nothingGiven
  | data, _ => ofData data

/-- Loading a catalog depends on the files and the data alone. -/
theorem result_load (files : Files) (path : Option String) (data : Value) (d : Diagnostics) :
    (load files path data).result d = loaded files path data := by
  cases data with
  | null =>
    cases path with
    | none => rfl
    | some path =>
      simp only [load, loaded]
      cases readFile files path <;> rfl
  | _ => rfl

/-- **Registering a catalog** is loading it and registering its actions one after the other. -/
theorem register_run (files : Files) (path : Option String) (data : Value) (overwrite : Bool)
    (r : Registry) (d : Diagnostics) :
    ((register files path data overwrite r).run d).1 = match loaded files path data with
      | .error fault => (.error (.catalog fault), r)
      | .ok actions => match r.registerAll overwrite actions with
        | (some fault, left) => (.error (.registry fault), left)
        | (none, left) => (.ok actions, left) := by
  have hbind : ∀ {α β : Type} (work : StateM Diagnostics α) (next : α → StateM Diagnostics β),
      (work >>= next).run d = (next (work.run d).1).run (work.run d).2 := fun _ _ => rfl
  have hload : StateT.run (load files path data).run d =
      (loaded files path data, (load files path data).left d) := by
    rw [← result_load files path data d]
    rfl
  unfold register
  rw [hbind, hload]
  cases loaded files path data with
  | error fault => rfl
  | ok actions =>
    dsimp only
    rcases r.registerAll overwrite actions with ⟨_ | fault, left⟩ <;> rfl

/-- **What a failed registration of a catalog leaves.** When the catalog does not load, the registry is
as it was. When it loads, only a uid that is taken ends the registration, and nothing may be overwritten
then. All that was registered is still there, and behind it stand the actions of the catalog that came
before the refused one, each under its uid, which was free; there is nothing else. -/
theorem register_failed {files : Files} {path : Option String} {data : Value} {overwrite : Bool}
    {r left : Registry} {d : Diagnostics} {fault : RegistrationFault}
    (h : ((register files path data overwrite r).run d).1 = (.error fault, left)) :
    (∀ cause, fault = .catalog cause → left = r) ∧
    ∀ refusal, fault = .registry refusal → overwrite = false ∧ ∃ before refused after,
      ((load files path data).run d).1 = .ok (before ++ refused :: after) ∧
        refusal = .taken refused.uid ∧
        left.entries = r.entries ++ before.map (fun action => (action.uid, action)) ∧
        (before.map Action.uid).Nodup ∧ (∀ action ∈ before, r.get? action.uid = none) ∧
        (left.get? refused.uid).isSome ∧
        ∀ uid action, r.get? uid = some action → left.get? uid = some action := by
  rw [register_run] at h
  rw [← Reporting.result_eq, result_load]
  cases hloaded : loaded files path data with
  | error cause =>
    rw [hloaded] at h
    obtain ⟨hfault, rfl⟩ := Prod.mk.inj h
    obtain rfl := Except.error.inj hfault
    exact ⟨fun _ _ => rfl, fun _ hregistry => nomatch hregistry⟩
  | ok actions =>
    have hregisters := Registry.registers_registerAll r overwrite actions
    rw [hloaded] at h
    dsimp only at h
    rcases hrun : r.registerAll overwrite actions with ⟨_ | refusal, after⟩
    · rw [hrun] at h
      cases h
    · rw [hrun] at h hregisters
      obtain ⟨hfault, rfl⟩ := Prod.mk.inj h
      obtain rfl := Except.error.inj hfault
      obtain ⟨hoverwrite, before, refused, later, rfl, rfl, hentries, hnodup, hfree, htaken⟩ :=
        hregisters.of_refused
      refine ⟨fun _ hcatalog => (nomatch hcatalog), fun _ hregistry => ?_⟩
      obtain rfl := RegistrationFault.registry.inj hregistry
      refine ⟨hoverwrite, before, refused, later, rfl, rfl, hentries, hnodup, hfree, htaken,
        fun uid action hheld => ?_⟩
      rw [Registry.get?, hentries, field?_append, show field? r.entries uid = _ from hheld]
      rfl

end

/-- An action of which only the uid is known. -/
def plainAction (uid : String) (huid : uid ≠ "") : Action :=
  ⟨uid, none, none, .visible, TextSet.empty, [], [], huid, .nil⟩

/-- A folder without files. -/
def noFiles : Files := fun _ => .missing

/-- A catalog of a fan, a lamp and a shade. -/
def homeCatalog : Value :=
  .list [.object [("uid", .text "fan.setSpeed")], .object [("uid", .text "lamp.dim")],
    .object [("uid", .text "shade.move")]]

/-- The action of the fan. -/
def fanAction : Action := plainAction "fan.setSpeed" (by decide)

/-- A registry that holds the lamp. -/
def lampRegistry : Registry := Registry.empty.insert (plainAction "lamp.dim" (by decide))

/-- The fan is registered before the lamp is refused, and the shade is not. -/
theorem register_failed_home :
    ((register noFiles none homeCatalog false lampRegistry).run (.ofLevel .debug)).1 =
        (.error (.registry (.taken "lamp.dim")), lampRegistry.insert fanAction) ∧
      ∃ before refused after,
        ((load noFiles none homeCatalog).run (.ofLevel .debug)).1 =
            .ok (before ++ refused :: after) ∧
          refused.uid = "lamp.dim" ∧
          (lampRegistry.insert fanAction).entries =
            lampRegistry.entries ++ before.map (fun action => (action.uid, action)) := by
  have hrun : ((register noFiles none homeCatalog false lampRegistry).run (.ofLevel .debug)).1 =
      (.error (.registry (.taken "lamp.dim")), lampRegistry.insert fanAction) := rfl
  obtain ⟨-, hrefused⟩ := register_failed hrun
  obtain ⟨-, before, refused, after, hload, huid, hentries, -⟩ := hrefused _ rfl
  exact ⟨hrun, before, refused, after, hload, (RegistryFault.taken.inj huid).symm, hentries⟩

/-- A catalog that lists the fan twice. -/
def fanTwice : Value :=
  .list [.object [("uid", .text "fan.setSpeed")], .object [("uid", .text "fan.setSpeed")]]

/-- A registration that fails may have changed the registry: of a catalog that lists a uid twice, the
first action stays. -/
theorem register_not_atomic :
    ¬∀ (files : Files) (path : Option String) (data : Value) (overwrite : Bool)
      (r left : Registry) (d : Diagnostics) (fault : RegistrationFault),
      ((register files path data overwrite r).run d).1 = (.error fault, left) →
        ∀ uid, left.get? uid = r.get? uid := by
  intro hatomic
  have hrun : ((register noFiles none fanTwice false .empty).run (.ofLevel .debug)).1 =
      (.error (.registry (.taken "fan.setSpeed")), Registry.empty.insert fanAction) := rfl
  have hsame := hatomic _ _ _ _ _ _ _ _ hrun fanAction.uid
  rw [Registry.get?_insert_self] at hsame
  cases hsame

end Catalog
end TypedInputs
