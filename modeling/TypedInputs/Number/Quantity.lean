/-
# Quantities

A quantity is a decimal with a unit symbol; without a unit it is dimensionless. A unit symbol holds
no blanks and does not start with a digit, a sign or a point.

A text is a quantity when, trimmed, it is a decimal literal, maybe followed by blanks and a unit.
There can be more than one way to cut it, since an `e` starts an exponent or a unit; the first cut
in the order of preference of `Text.Pattern.numeral` counts: `1e5` is a dimensionless 1E+5, but
`1e5.3`, where no unit can follow the exponent, is 1 with the unit `e5.3`. No other cut is tried
when the exponent of this decimal is out of reach: then the text is no quantity.

The text of a quantity is the text of its decimal, and after one space the unit.
-/

import TypedInputs.Number.Decimal
import TypedInputs.Text.Pattern

namespace TypedInputs
namespace Number

/-- A decimal with a unit symbol, which is empty for a dimensionless quantity. -/
structure Quantity where
  value : Decimal
  unit : String
deriving Repr, DecidableEq

namespace Quantity

/-- A character that may start a unit symbol. -/
def startsUnit (c : Char) : Bool :=
  !Text.isBlank c && !Text.isDigit c && c != '+' && c != '-' && c != '.'

/-- A unit symbol. -/
def isUnit : List Char → Bool
  | [] => false
  | c :: rest => startsUnit c && rest.all fun d => !Text.isBlank d

/-- The unit in what follows a decimal, if it can follow one. -/
def unitOf? : List Char → Option (List Char)
  | [] => some []
  | rest =>
    let unit := rest.dropWhile Text.isBlank
    if isUnit unit then some unit else none

/-- The first cut of a text into a decimal literal and what may follow it. -/
def firstCut? (text : List Char) : Option (List Char × List Char) :=
  Text.Pattern.numeral.find?
    (fun rest => (unitOf? rest).map fun unit => (text.take (text.length - rest.length), unit)) text

/-- The quantity that a text writes, or why there is none. -/
def parse (text : String) : Except NumberFault Quantity :=
  match firstCut? (Text.trim text.toList) with
  | some (value, unit) => (Decimal.parse (String.ofList value)).map (⟨·, String.ofList unit⟩)
  | none => .error (.notQuantity text)

/-- A number with a unit: the decimal is the number's shortest text. -/
def ofDouble (number : Double) (unit : String) : Except NumberFault Quantity :=
  (Decimal.parse number.text).map (⟨·, unit⟩)

/-- A quantity without a unit. -/
def isDimensionless (q : Quantity) : Bool := q.unit.isEmpty

/-- The canonical text. -/
def text (q : Quantity) : String :=
  if q.isDimensionless then q.value.text else q.value.text ++ " " ++ q.unit

/-- Equality of quantities: equal values of the same unit. -/
def equals (a b : Quantity) : Bool := a.value.equals b.value && a.unit == b.unit

end Quantity
end Number
end TypedInputs
