/-
# Literals of declared types

`Literal.parse` reads a text as a value of a declared type, `Literal.narrow` takes a number of the
wire to it, and `Literal.format` writes a value of a type back in its canonical text, which is a
literal of the type again.
-/

import TypedInputs.Literal.Calendar
import TypedInputs.Literal.Number

namespace TypedInputs
namespace Literal

open Number Calendar

variable [Zone.Directory]

/-- The value that a text writes in the grammar of a tag. -/
def parseTag (tag : TypeTag) (text : String) : Except (TypeTag ⊕ ZonedFault) Value :=
  let chars := text.toList
  let plain {α : Type} (result : Except LiteralFault α) (build : α → Value) :
      Except (TypeTag ⊕ ZonedFault) Value :=
    match result with
    | .ok v => .ok (build v)
    | .error fault => .error (.inr (.literal fault))
  match tag with
  | .bool => plain (parseBoolean chars) .bool
  | .byte => plain (parseIntegral 8 chars) .int
  | .short => plain (parseIntegral 16 chars) .int
  | .int => plain (parseIntegral 32 chars) .int
  | .long => plain (parseIntegral 64 chars) .int
  | .float => plain (parseSingle chars) .float
  | .double => plain (parseDouble chars) .float
  | .decimalText => plain ((Decimal.parse text).mapError .number) .decimal
  | .date => plain (parseDate chars) .date
  | .time => plain (parseTime chars) .time
  | .dateTime => plain (parseDateTime chars) .dateTime
  | .zonedDateTime =>
    match parseZoned chars with
    | .ok t => .ok (.zoned t)
    | .error fault => .error (.inr fault)
  | .quantity => plain ((Quantity.parse text).mapError .number) .quantity
  | .string | .unsupported => .error (.inl tag)

/-- The value of a declared type that a text writes. -/
def parse (declared : DeclaredType) (text : String) : Except LiteralError Value :=
  match parseTag declared.tag text with
  | .ok v => .ok v
  | .error (.inl tag) => .error (.noRule tag)
  | .error (.inr .beyondCalendar) => .error .beyondCalendar
  | .error (.inr (.literal fault)) => .error (.invalid ⟨.text text, declared.identifier, fault⟩)

/-- The value of a declared type that a number narrows to. -/
def narrow (declared : DeclaredType) (x : Double) : Except LiteralError Value :=
  let invalid (fault : NumberFault) : LiteralError :=
    .invalid ⟨.float x, declared.identifier, .number fault⟩
  match declared.tag with
  | .byte => .ok (.int (truncateToWidth 8 x))
  | .short => .ok (.int (truncateToWidth 16 x))
  | .int => .ok (.int (truncateToWidth 32 x))
  | .long => .ok (.int (truncateToWidth 64 x))
  | .float => .ok (.float x.toSingle)
  | .double => .ok (.float x)
  | .decimalText => ((Decimal.parse x.text).mapError invalid).map .decimal
  | .quantity => ((Quantity.ofDouble x "").mapError invalid).map .quantity
  | tag => .error (.noRule tag)

/-- The canonical text of a double. -/
def formatDouble : Double → String
  | .nan => "NaN"
  | .infinite negative => if negative then "-Infinity" else "Infinity"
  | x => x.text

/-- The text of a date or time as the standard form has it; other kinds have none. -/
def isoText : Value → Except KindFault String
  | .date d => .ok d.text
  | .time t => .ok t.text
  | .dateTime t => .ok t.text
  | .zoned t => .ok t.text
  | v => .error (.noAttribute v.kind "isoformat")

/-- The name of the zone that a date or time is in; dates alone are in none. -/
def zoneText : Value → Except KindFault String
  | .zoned t => .ok ((t.zone.map fun name => "[" ++ name ++ "]").getD "")
  | .time _ | .dateTime _ => .ok ""
  | v => .error (.noAttribute v.kind "tzinfo")

/-- The canonical text of a value of a tag. -/
def format (tag : TypeTag) (v : Value) : Except KindFault String :=
  match tag with
  | .bool => .ok (if v.isTruthy then "true" else "false")
  | .float | .double => v.toDouble.map formatDouble
  | .date | .time | .dateTime => isoText v
  | .zonedDateTime => do
    let text ← isoText v
    let zone ← zoneText v
    .ok (text ++ zone)
  | _ => v.plain

/-- Equality of values of a type: numbers by value, so that NaN differs from itself, and zoned times
by instant. -/
def equals : Value → Value → Bool
  | .bool a, .bool b => a == b
  | .int a, .int b => a == b
  | .float a, .float b => a.equals b
  | .text a, .text b => a == b
  | .decimal a, .decimal b => a.equals b
  | .quantity a, .quantity b => a.equals b
  | .date a, .date b => a == b
  | .time a, .time b => a == b
  | .dateTime a, .dateTime b => a == b
  | .zoned a, .zoned b => a.equals b
  | _, _ => false

end Literal
end TypedInputs
