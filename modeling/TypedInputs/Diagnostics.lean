/-
# Diagnostics

The engines report to the diagnostics of the session they work in: records to its log and notices to
its event bus. The session also knows the uid of the action that is being processed, `-` when there
is none; every record has it.

Reporting never fails and never changes what the engines compute. A notice is lost when there is no
bus, or when something that cannot be published to stands in the bus's place.

A uid is put in force with a token, which restores the uid that was in force before. A token works
once, and only where it was made.
-/

import TypedInputs.Diagnostics.EventBus
import TypedInputs.Diagnostics.Log

namespace TypedInputs

open Diagnostics

/-- Where notices of the engines go. -/
inductive Diagnostics.Route where
  /-- nowhere -/
  | off
  /-- to the bus -/
  | bus
  /-- to something that fails on every notice -/
  | failing
deriving Repr, DecidableEq

/-- The diagnostics of a session. -/
structure Diagnostics where
  uid : String
  log : Log
  bus : Option EventBus
  route : Route

namespace Diagnostics

/-- The uid when no action is being processed. -/
def noAction : String := "-"

/-- Diagnostics at a level, with no bus. -/
def ofLevel (level : Severity) : Diagnostics :=
  ⟨noAction, ⟨level, [.contextual], []⟩, none, .off⟩

/-- What restores a uid. -/
structure Token where
  replaced : String
  /-- made in another context, where alone it works -/
  foreign : Bool
  spent : Bool
deriving Repr, DecidableEq

/-- A uid put in force. The empty uid changes nothing and makes no token. -/
def push (d : Diagnostics) (uid : String) : Option Token × Diagnostics :=
  if uid = "" then (none, d) else (some ⟨d.uid, false, false⟩, { d with uid })

/-- A token that was made by putting a uid in force in a copy of the context. -/
def pushInCopy (d : Diagnostics) (uid : String) : Option Token :=
  (d.push uid).1.map fun token => { token with foreign := true }

/-- The uid that a token restores, and the token afterwards; `none` when the token is spent. -/
def reset (d : Diagnostics) (token : Token) : Option (Token × Diagnostics) :=
  if token.spent then none
  else if token.foreign then some (token, d)
  else some ({ token with spent := true }, { d with uid := token.replaced })

/-- The uid restored, if a token was made. -/
def restore (d : Diagnostics) (token : Option Token) : Diagnostics :=
  match token.bind d.reset with
  | some (_, restored) => restored
  | none => d

/-- The diagnostics after a record was made. -/
def record (d : Diagnostics) (severity : Severity) (logger message : String) : Diagnostics :=
  { d with log := d.log.add ⟨severity, logger, d.uid, message⟩ }

/-- The diagnostics after a notice was published to the bus, whose worker then catches up. -/
def publish (d : Diagnostics) (n : Notice) : Diagnostics :=
  { d with bus := d.bus.map fun bus => (bus.publish n).settle }

/-- The diagnostics after the engines published a notice. -/
def notify (d : Diagnostics) (n : Notice) : Diagnostics :=
  match d.route with
  | .bus => d.publish n
  | .off | .failing => d

/-- The bus that the engines publish to. -/
def activeBus? (d : Diagnostics) : Option EventBus :=
  match d.route with
  | .bus => d.bus
  | .off | .failing => none

/-- A new bus in the place of the old one, which is shut down; the engines no longer publish to
it. -/
def replaceBus (d : Diagnostics) (bus : EventBus) : Diagnostics :=
  { d with
    bus := some bus
    route := match d.route with | .bus => .off | route => route }

end Diagnostics

/-- Work that reports to diagnostics and may fail. -/
abbrev Reporting (ε α : Type) := ExceptT ε (StateM Diagnostics) α

namespace Reporting

/-- A record made. -/
def record {ε : Type} (severity : Severity) (logger message : String) : Reporting ε Unit :=
  modify fun d => d.record severity logger message

/-- A notice published. -/
def notify {ε : Type} (n : Notice) : Reporting ε Unit := modify fun d => d.notify n

/-- Work with a uid in force, which is restored however the work ends. -/
def withUid {ε α : Type} (uid : String) (work : Reporting ε α) : Reporting ε α :=
  fun d =>
    let (token, entered) := d.push uid
    let (result, left) := work entered
    (result, left.restore token)

end Reporting
end TypedInputs
