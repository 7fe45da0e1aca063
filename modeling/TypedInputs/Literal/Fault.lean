/-
# What can be wrong with a literal

`LiteralFault` lists the reasons for which a text or a number is no value of a type, with the words
in which each is reported. A literal can also be well formed and have no value, when finding it in
its time zone leaves the calendar; that is `beyondCalendar`, and a missing grammar or rule is
`noRule`.
-/

import TypedInputs.DeclaredType
import TypedInputs.Shown

namespace TypedInputs

open Number Calendar

/-- The least and the greatest integer of a signed width in bits. -/
def signedBounds (bits : Nat) : Int × Int := (-(Nat.pow 2 (bits - 1)), Nat.pow 2 (bits - 1) - 1)

/-- The reasons for which a text or a number is no value of a type. -/
inductive LiteralFault where
  | notInteger
  | outOfRange (bits : Nat)
  | tooManyDigits (count : Nat)
  | notFloating
  | notBoolean
  | notInForm (form : String)
  | field (fault : FieldFault)
  | invalidOffset (written : String)
  | offsetOutOfRange (written : String)
  | unknownZone (name : String)
  | number (fault : NumberFault)
  | beyondDouble
deriving Repr, DecidableEq

/-- How a literal fault is reported. -/
def LiteralFault.message : LiteralFault → String
  | .notInteger => "not an integer literal"
  | .outOfRange bits =>
    let (low, high) := signedBounds bits
    "value out of range [" ++ toString low ++ ", " ++ toString high ++ "]"
  | .tooManyDigits count => Text.tooManyDigitsMessage count
  | .notFloating => "not a floating point literal"
  | .notBoolean => "not a boolean literal"
  | .notInForm form => "expected " ++ form
  | .field fault => fault.message
  | .invalidOffset written => "invalid offset " ++ Text.quoted written
  | .offsetOutOfRange written => "offset " ++ Text.quoted written ++ " out of range"
  | .unknownZone name => "unknown time zone " ++ Text.quoted name
  | .number fault => fault.message
  | .beyondDouble => "number out of floating point range"

/-- A value that is no literal of a declared type. -/
structure InvalidLiteral where
  value : Value
  declaredType : String
  fault : LiteralFault

namespace InvalidLiteral

/-- The reason alone. -/
def reason (e : InvalidLiteral) : String := e.fault.message

/-- The full report: value, type, reason and details. -/
def message (e : InvalidLiteral) : Except KindFault String :=
  e.value.shown.map fun value =>
    withDetails
      ("Converting value " ++ value ++ " into type " ++ e.declaredType ++ " failed: " ++ e.reason)
      [("declared_type", Text.quoted e.declaredType)]

end InvalidLiteral

/-- Why a literal has no value. -/
inductive LiteralError where
  | noRule (tag : TypeTag)
  | invalid (literal : InvalidLiteral)
  | beyondCalendar

/-- What is said of a date that the calendar does not have. -/
def beyondCalendarMessage : String := "date value out of range"

end TypedInputs
