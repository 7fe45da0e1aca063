/-
# Diagnostic events

An event says that an input was left out: at which stage, with what status, for which action. Its
number is its place among all events of its bus, from 1.
-/

import TypedInputs.Shown

namespace TypedInputs
namespace Diagnostics

/-- What an event is about, before it has a number. -/
structure Notice where
  stage : String
  status : String
  uid : String
  details : Value

/-- A numbered event. -/
structure Event extends Notice where
  number : Nat

/-- The version of the form that events have. -/
def schemaVersion : String := "1.0"

/-- An event on one line. Details that are empty are left out. -/
def Event.line (e : Event) : Except KindFault String :=
  let head := "action=" ++ e.uid ++ " | " ++ e.stage ++ " " ++ e.status
  if e.details.isTruthy then e.details.plain.map fun details => head ++ " | details=" ++ details
  else .ok head

end Diagnostics
end TypedInputs
