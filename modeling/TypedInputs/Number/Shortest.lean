/-
# The shortest decimal text of a double

A finite double is written with the fewest significant digits that read back as the same double; of
the two grid points of that many digits around it the nearer one is taken, and of two equally near
ones the even one. Seventeen digits are always enough; `exactDigits`, which reads back by its
exactness alone, stands behind the search so that what is written reads back whatever the search
finds.

The digits `d₁d₂…dₙ` with the point at `p` stand for `0.d₁d₂…dₙ · 10 ^ p`.

| where the point is | text |
| --- | --- |
| `-4 < p ≤ 0` | `0.` zeros digits |
| `0 < p < n` | digits, point, digits |
| `n ≤ p ≤ 16` | digits zeros `.0` |
| elsewhere | `d₁.d₂…dₙe±XX`, the exponent `p - 1` with a sign and two digits at least |

NaN is `nan` and the infinities are `inf` and `-inf`.
-/

import TypedInputs.Number.Double

namespace TypedInputs
namespace Number

/-- The decimal number `digits · 10 ^ exponent`. -/
structure ScaledNat where
  digits : Nat
  exponent : Int
deriving Repr, DecidableEq

/-- How many digits a number has. -/
def decimalLength (n : Nat) : Nat := (Nat.toDigits 10 n).length

/-- The greatest `e` with `10 ^ e ≤ r`, for a ratio `r` that is not zero. -/
def Ratio.floorLog10 (r : Ratio) : Int :=
  if r.den ≤ r.num then (decimalLength (r.num / r.den) : Int) - 1
  else -(decimalLength ((r.den - 1) / r.num) : Int)

/-- The multiples of `10 ^ exponent` just below and just above a ratio, the nearer one first. -/
def Ratio.neighbours (r : Ratio) (exponent : Int) : List ScaledNat :=
  let scaled := r.scaleTen (-exponent)
  let below := scaled.num / scaled.den
  if scaled.nearest = below then [⟨below, exponent⟩, ⟨below + 1, exponent⟩]
  else [⟨below + 1, exponent⟩, ⟨below, exponent⟩]

namespace Double

/-- The most significant digits that the shortest text can need. -/
def maxSignificantDigits : Nat := 17

/-- A magnitude as an exact decimal number. -/
def exactDigits (x : Magnitude binary64) : ScaledNat :=
  if 0 ≤ x.exponent then ⟨x.mantissa * Nat.pow 2 x.exponent.toNat, 0⟩
  else ⟨x.mantissa * Nat.pow 5 (-x.exponent).toNat, x.exponent⟩

/-- Whether a decimal number reads back as the magnitude. -/
def readsBack (x : Magnitude binary64) (n : ScaledNat) : Bool :=
  ofDecimal false n.digits n.exponent == .finite false x

/-- The decimal number with the fewest digits that reads back as a magnitude that is not zero. -/
def shortest (x : Magnitude binary64) : ScaledNat :=
  let leading := x.toRatio.floorLog10
  let grids := (List.range maxSignificantDigits).flatMap fun n : Nat =>
    x.toRatio.neighbours (leading - n)
  (grids.find? (readsBack x)).getD (exactDigits x)

/-- The greatest point position that is still written without an exponent. -/
def maxPositionalPoint : Int := 16

/-- The greatest point position below zero that is written with an exponent. -/
def minPositionalPoint : Int := -4

/-- An exponent with its sign and at least two digits. -/
def exponentText (e : Int) : List Char :=
  (if e < 0 then '-' else '+') :: Text.padded 2 e.natAbs

/-- Significant digits with a decimal point at `point`. -/
def layout (digits : List Char) (point : Int) : List Char :=
  if point ≤ minPositionalPoint ∨ maxPositionalPoint < point then
    match digits with
    | [] => []
    | [d] => d :: 'e' :: exponentText (point - 1)
    | d :: ds => d :: '.' :: ds ++ 'e' :: exponentText (point - 1)
  else if point ≤ 0 then '0' :: '.' :: List.replicate (-point).toNat '0' ++ digits
  else if digits.length ≤ point then
    digits ++ List.replicate (point.toNat - digits.length) '0' ++ ['.', '0']
  else digits.take point.toNat ++ '.' :: digits.drop point.toNat

/-- A text without the zeros at its end. -/
def dropTrailingZeros (digits : List Char) : List Char :=
  (digits.reverse.dropWhile (· == '0')).reverse

/-- The text of a finite magnitude. -/
def magnitudeText (x : Magnitude binary64) : List Char :=
  if x.mantissa = 0 then ['0', '.', '0']
  else
    let n := shortest x
    let digits := Nat.toDigits 10 n.digits
    layout (dropTrailingZeros digits) (n.exponent + digits.length)

/-- The sign of a text. -/
def signText (negative : Bool) : List Char := if negative then ['-'] else []

/-- The shortest text that reads back as the double. -/
def toChars : Double → List Char
  | .nan => ['n', 'a', 'n']
  | .infinite negative => signText negative ++ ['i', 'n', 'f']
  | .finite negative x => signText negative ++ magnitudeText x

/-- The shortest text that reads back as the double. -/
def text (x : Double) : String := String.ofList x.toChars

end Double
end Number
end TypedInputs
