/-
# Truth values and numbers as literals

| type | literal |
| --- | --- |
| truth value | `true` or `false` in any ASCII case |
| integer | a sign and digits, maybe one final line feed; the value within the width |
| floating point | trimmed: a sign and `NaN`, `Infinity` or a numeral with one of the suffixes `f`, `F`, `d`, `D` or none |

A number of the wire is narrowed: for the integral types it is cut toward zero and kept within 32
bits, or 64 bits for the widest, and the narrow types take the low bits of that. NaN becomes 0.
-/

import TypedInputs.Literal.Fault

namespace TypedInputs
namespace Literal

open Number

/-- The truth value that a text writes. -/
def parseBoolean (text : List Char) : Except LiteralFault Bool :=
  let lower := text.map Char.toLower
  if lower = ['t', 'r', 'u', 'e'] then .ok true
  else if lower = ['f', 'a', 'l', 's', 'e'] then .ok false
  else .error .notBoolean

/-- The integer of a width in bits that a text writes. -/
def parseIntegral (bits : Nat) (text : List Char) : Except LiteralFault Int :=
  match Text.readInteger text with
  | some (written, rest) =>
    if !Text.isLineEnd rest then .error .notInteger
    else if Text.maxIntegerDigits < written.digits.length then
      .error (.tooManyDigits written.digits.length)
    else if (signedBounds bits).1 ≤ written.value ∧ written.value ≤ (signedBounds bits).2 then
      .ok written.value
    else .error (.outOfRange bits)
  | none => .error .notInteger

/-- The suffixes of a floating point literal. -/
def isFloatingSuffix : List Char → Bool
  | [] | ['f'] | ['F'] | ['d'] | ['D'] => true
  | _ => false

/-- The double that a text writes. -/
def parseDouble (text : List Char) : Except LiteralFault Double :=
  let body := Text.trim text
  let (negative, unsigned) := Text.readSign body
  if unsigned = ['N', 'a', 'N'] then .ok .nan
  else if unsigned = ['I', 'n', 'f', 'i', 'n', 'i', 't', 'y'] then .ok (.infinite negative)
  else
    match Text.Numeral.read body with
    | some (n, rest) =>
      if isFloatingSuffix rest then .ok (Double.ofNumeral n) else .error .notFloating
    | none => .error .notFloating

/-- The single precision number that a text writes: the double nearest to the text, rounded once
more. -/
def parseSingle (text : List Char) : Except LiteralFault Double :=
  (parseDouble text).map Double.toSingle

/-- The bits within which a number is kept before the low bits are taken. -/
def saturationBits (bits : Nat) : Nat := if bits = 64 then 64 else 32

/-- An integer moved to the nearest one of a width. -/
def saturate (bits : Nat) (n : Int) : Int :=
  min (max n (signedBounds bits).1) (signedBounds bits).2

/-- The integer of a width with the same low bits. -/
def wrap (bits : Nat) (n : Int) : Int := n.bmod (Nat.pow 2 bits)

/-- A number as an integer of a width. -/
def truncateToWidth (bits : Nat) : Double → Int
  | .nan => 0
  | .infinite negative =>
    let (low, high) := signedBounds (saturationBits bits)
    wrap bits (if negative then low else high)
  | .finite negative x =>
    wrap bits (saturate (saturationBits bits) (Double.signed negative (Double.truncateMagnitude x)))

/-- A number as an integer of the width of a tag. NaN is 0 for every tag. -/
def truncateForTag? (tag : TypeTag) (x : Double) : Option Int :=
  if x = .nan then some 0 else tag.width?.map (truncateToWidth · x)

end Literal
end TypedInputs
