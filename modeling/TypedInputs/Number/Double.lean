/-
# Double precision numbers

`Double` is the set of double precision values: one NaN, two infinities, and the finite numbers by
sign and canonical magnitude, so that zero has two signs. Two doubles are the same value exactly
when they are equal as terms; `equals` is the comparison of arithmetic, in which a NaN differs from
itself and the two zeros agree.

| function | takes | gives |
| --- | --- | --- |
| `ofRatio` | an exact magnitude and a sign | the nearest double |
| `ofDecimal` | `c · 10 ^ k` and a sign | the nearest double |
| `ofInt?` | an integer | the nearest double, nothing beyond the range |
| `toSingle` | a double | the nearest single precision number, as a double |
| `truncate` | a finite double | the integer toward zero |
-/

import TypedInputs.Number.BinaryFormat
import TypedInputs.Text.Numeral

namespace TypedInputs
namespace Number

/-- A double precision value. -/
inductive Double where
  | nan
  | infinite (negative : Bool)
  | finite (negative : Bool) (magnitude : Magnitude binary64)
deriving DecidableEq

namespace Double

/-- The double nearest to a ratio with a sign, an infinity beyond the greatest double. -/
def ofRatio (negative : Bool) (r : Ratio) : Double :=
  match binary64.round r with
  | some x => .finite negative x
  | none => .infinite negative

/-- The zero with a sign. -/
def zero (negative : Bool) : Double := ofRatio negative (Ratio.ofNat 0)

/-- Decimal exponents above this one belong to numbers beyond the greatest double, and magnitudes
below ten to its negative round to zero. -/
def decimalReach : Nat := 400

/-- The double nearest to `coefficient · 10 ^ exponent` with a sign. Exponents so great or so small
that they alone decide the answer are never raised to a power. -/
def ofDecimal (negative : Bool) (coefficient : Nat) (exponent : Int) : Double :=
  if coefficient = 0 then zero negative
  else if decimalReach < exponent then .infinite negative
  else if exponent < -(coefficient.log2 + decimalReach : Int) then zero negative
  else ofRatio negative ((Ratio.ofNat coefficient).scaleTen exponent)

/-- The double nearest to a numeral. -/
def ofNumeral (n : Text.Numeral) : Double := ofDecimal n.negative n.coefficient n.scale

/-- The double nearest to an integer, `none` when it is beyond the greatest double. -/
def ofInt? (n : Int) : Option Double :=
  (binary64.round (Ratio.ofNat n.natAbs)).map (.finite (n < 0))

/-- The nearest single precision number, an infinity beyond the greatest one. -/
def toSingle : Double → Double
  | .finite negative x =>
    match binary32.round x.toRatio with
    | some y => ofRatio negative y.toRatio
    | none => .infinite negative
  | x => x

/-- Arithmetic equality: false for NaN, true for the two zeros. -/
def equals : Double → Double → Bool
  | .nan, _ | _, .nan => false
  | .finite s x, .finite t y => x == y && (s == t || x.mantissa == 0)
  | .infinite s, .infinite t => s == t
  | _, _ => false

/-- A sign put on a natural number. -/
def signed (negative : Bool) (n : Nat) : Int := if negative then -(n : Int) else n

/-- The integer next to a finite magnitude in the direction of zero. -/
def truncateMagnitude (x : Magnitude binary64) : Nat := x.toRatio.num / x.toRatio.den

/-- A number that is not zero; NaN and the infinities are not. -/
def isNonzero : Double → Bool
  | .finite _ x => x.mantissa != 0
  | _ => true

end Double
end Number
end TypedInputs
