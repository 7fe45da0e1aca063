/-
# The registry

The registry holds actions, each under a uid. Registering an action whose uid is taken is refused
unless it may overwrite, and then the new action takes the place of the old one. Actions are listed
by uid, in ascending order.

| operation | the uid is free | the uid is taken |
| --- | --- | --- |
| `register`, not overwriting | puts the action | is refused |
| `register`, overwriting | puts the action | puts the action |
| `get?` | nothing | the action |
| `get` | is refused | the action |
-/

import TypedInputs.Action

namespace TypedInputs
namespace Catalog

/-- Actions with the uids that they are held under. A uid stands once, at the place where it came
first. -/
structure Registry where
  entries : List (String × Action)
  nodup_uids : (entries.map Prod.fst).Nodup

/-- Why the registry refuses. -/
inductive RegistryFault where
  | taken (uid : String)
  | absent (uid : String)
deriving Repr, DecidableEq

/-- How a refusal is reported. -/
def RegistryFault.message : RegistryFault → String
  | .taken uid => "Action type already registered for uid=" ++ Text.quoted uid
  | .absent uid => "No action type registered for uid=" ++ Text.quoted uid

namespace Registry

/-- The registry without actions. -/
def empty : Registry := ⟨[], by simp⟩

/-- The action held under a uid. -/
def get? (r : Registry) (uid : String) : Option Action := field? r.entries uid

/-- The action held under a uid, which must be there. -/
def get (r : Registry) (uid : String) : Except RegistryFault Action :=
  match r.get? uid with
  | some action => .ok action
  | none => .error (.absent uid)

/-- The uids under which actions are held, in ascending order. -/
def uids (r : Registry) : List String := (TextSet.ofList (r.entries.map Prod.fst)).toList

/-- All actions, in the order of the uids that they are held under. -/
def actions (r : Registry) : List Action := r.uids.filterMap r.get?

/-- The registry with an action under its uid. -/
def insert (r : Registry) (action : Action) : Registry :=
  ⟨setField action.uid action r.entries, nodup_names_setField r.nodup_uids action.uid action⟩

/-- An action registered. -/
def register (r : Registry) (action : Action) (overwrite : Bool) : Except RegistryFault Registry :=
  if !overwrite && (r.get? action.uid).isSome then .error (.taken action.uid)
  else .ok (r.insert action)

/-- Actions registered one after the other, up to the first that is refused. -/
def registerAll (r : Registry) (overwrite : Bool) : List Action → Option RegistryFault × Registry
  | [] => (none, r)
  | action :: rest =>
    match r.register action overwrite with
    | .ok registered => registered.registerAll overwrite rest
    | .error fault => (some fault, r)

end Registry
end Catalog
end TypedInputs
