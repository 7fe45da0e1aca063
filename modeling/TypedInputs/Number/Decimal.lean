/-
# Exact decimal numbers

A decimal is a sign, a coefficient and an exponent, and stands for `± coefficient · 10 ^ exponent`.
The three are kept as written: `1.50` and `1.5` are two decimals with equal values, and a zero has a
sign and an exponent too.

A literal is a numeral with blanks around it at most. It is read exactly, whatever its length,
and refused when its exponent is out of reach: the adjusted exponent, which belongs to the first
digit, may be `maxAdjusted` at most, and the exponent itself `minExponent` at least.

The text of a decimal is positional when the exponent is not positive and the first digit stands at
`10 ^ -6` or above; otherwise it is scientific, `d.ddE±n`, where the exponent has no leading zeros.
-/

import TypedInputs.Text.Blank
import TypedInputs.Text.Quoted
import TypedInputs.Number.Shortest

namespace TypedInputs
namespace Number

/-- Why a text is no decimal or no quantity. -/
inductive NumberFault where
  | notDecimal (text : String)
  | notQuantity (text : String)
deriving Repr, DecidableEq

/-- How a number fault is reported. -/
def NumberFault.message : NumberFault → String
  | .notDecimal text => "not a decimal literal: " ++ Text.quoted text
  | .notQuantity text => "not a quantity literal: " ++ Text.quoted text

/-- A decimal number as it is written. -/
structure Decimal where
  negative : Bool
  coefficient : Nat
  exponent : Int
deriving Repr, DecidableEq

namespace Decimal

/-- The greatest adjusted exponent of a decimal. -/
def maxAdjusted : Int := 999999999999999999

/-- The least exponent of a decimal. -/
def minExponent : Int := -1999999999999999997

/-- The exponent of the first digit. -/
def adjusted (d : Decimal) : Int := d.exponent + decimalLength d.coefficient - 1

/-- The exponents that a decimal may have. -/
def InReach (d : Decimal) : Prop := d.adjusted ≤ maxAdjusted ∧ minExponent ≤ d.exponent

instance (d : Decimal) : Decidable d.InReach := inferInstanceAs (Decidable (_ ∧ _))

/-- A numeral as a decimal. -/
def ofNumeral (n : Text.Numeral) : Decimal := ⟨n.negative, n.coefficient, n.scale⟩

/-- The decimal that a literal writes. -/
def ofChars? (text : List Char) : Option Decimal :=
  match Text.Numeral.ofText? (Text.trim text) with
  | some n => if (ofNumeral n).InReach then some (ofNumeral n) else none
  | none => none

/-- The decimal that a literal writes, or why there is none. -/
def parse (text : String) : Except NumberFault Decimal :=
  match ofChars? text.toList with
  | some d => .ok d
  | none => .error (.notDecimal text)

/-- The digits of the coefficient. -/
def digits (d : Decimal) : List Char := Nat.toDigits 10 d.coefficient

/-- The exponent of a scientific text. -/
def exponentText (e : Int) : List Char :=
  'E' :: (if e < 0 then '-' else '+') :: Nat.toDigits 10 e.natAbs

/-- Where the point stands, counted from the first digit. -/
def point (d : Decimal) : Int := d.exponent + d.digits.length

/-- The digits with a point among them or in front of them. -/
def positionalText (d : Decimal) : List Char :=
  if d.exponent = 0 then d.digits
  else if d.point ≤ 0 then '0' :: '.' :: List.replicate (-d.point).toNat '0' ++ d.digits
  else d.digits.take d.point.toNat ++ '.' :: d.digits.drop d.point.toNat

/-- The digits with a point after the first one, and an exponent unless it is zero. -/
def scientificText (d : Decimal) : List Char :=
  let exponent := if d.point = 1 then [] else exponentText (d.point - 1)
  match d.digits with
  | [] => []
  | [first] => first :: exponent
  | first :: rest => first :: '.' :: rest ++ exponent

/-- The digits with a point and, where they need it, an exponent. -/
def magnitudeText (d : Decimal) : List Char :=
  if d.exponent ≤ 0 ∧ -6 < d.point then d.positionalText else d.scientificText

/-- The canonical text. -/
def toChars (d : Decimal) : List Char := Double.signText d.negative ++ d.magnitudeText

/-- The canonical text. -/
def text (d : Decimal) : String := String.ofList d.toChars

/-- A coefficient without its trailing zeros, each of which raises the exponent. -/
def strip (coefficient : Nat) (exponent : Int) : Nat × Int :=
  if h : coefficient ≠ 0 ∧ coefficient % 10 = 0 then strip (coefficient / 10) (exponent + 1)
  else (coefficient, exponent)
termination_by coefficient
decreasing_by omega

/-- Equality of values: the signs of zeros, and zeros at the end of a coefficient, do not count. -/
def equals (a b : Decimal) : Bool :=
  if a.coefficient = 0 ∨ b.coefficient = 0 then a.coefficient == b.coefficient
  else a.negative == b.negative && strip a.coefficient a.exponent == strip b.coefficient b.exponent

/-- Less by magnitude. Where the first digits stand at one place, the exponents are no farther apart
than the lengths of the coefficients. -/
def magnitudeLess (a b : Decimal) : Bool :=
  if a.coefficient = 0 ∨ b.coefficient = 0 then a.coefficient < b.coefficient
  else if a.adjusted = b.adjusted then
    let least := min a.exponent b.exponent
    a.coefficient * Nat.pow 10 (a.exponent - least).toNat <
      b.coefficient * Nat.pow 10 (b.exponent - least).toNat
  else a.adjusted < b.adjusted

/-- Less by value. -/
def less (a b : Decimal) : Bool :=
  match a.negative, b.negative with
  | false, false => a.magnitudeLess b
  | true, true => b.magnitudeLess a
  | true, false => a.coefficient != 0 || b.coefficient != 0
  | false, true => false

/-- The exact value of a finite double. -/
def ofMagnitude (negative : Bool) (x : Magnitude binary64) : Decimal :=
  ⟨negative, (Double.exactDigits x).digits, (Double.exactDigits x).exponent⟩

/-- The nearest double. -/
def toDouble (d : Decimal) : Double := Double.ofDecimal d.negative d.coefficient d.exponent

end Decimal
end Number
end TypedInputs
