/-
# Rounding to a binary floating point format

A format keeps the numbers `m · 2 ^ q` with `m < 2 ^ precision` and
`minExponent ≤ q ≤ maxExponent`. Each of them has one canonical pair `(m, q)`: its `m` has all
`precision` bits, or `q` is the least exponent.

| format | precision | least exponent | greatest exponent |
| --- | ---: | ---: | ---: |
| `binary64` | 53 | -1074 | 971 |
| `binary32` | 24 | -149 | 104 |

`round` takes any nonnegative ratio to the nearest number of the format, a ratio in the middle
between two of them to the one with the even `m`, and answers `none` when the result would need an
exponent above the greatest. All arithmetic is exact.
-/

namespace TypedInputs
namespace Number

/-- A binary floating point format. -/
structure BinaryFormat where
  precision : Nat
  minExponent : Int
  maxExponent : Int

/-- Double precision. -/
def binary64 : BinaryFormat := ⟨53, -1074, 971⟩

/-- Single precision. -/
def binary32 : BinaryFormat := ⟨24, -149, 104⟩

/-- The canonical pair of a number of the format. -/
def BinaryFormat.Canonical (f : BinaryFormat) (m : Nat) (q : Int) : Prop :=
  m < Nat.pow 2 f.precision ∧ f.minExponent ≤ q ∧ q ≤ f.maxExponent ∧
    (Nat.pow 2 (f.precision - 1) ≤ m ∨ q = f.minExponent)

instance (f : BinaryFormat) (m : Nat) (q : Int) : Decidable (f.Canonical m q) :=
  inferInstanceAs (Decidable (_ ∧ _ ∧ _ ∧ _))

/-- A nonnegative number of a format, `mantissa · 2 ^ exponent`. -/
structure Magnitude (f : BinaryFormat) where
  mantissa : Nat
  exponent : Int
  canonical : f.Canonical mantissa exponent
deriving DecidableEq

/-- A nonnegative rational number as a quotient; the denominator is not zero. -/
structure Ratio where
  num : Nat
  den : Nat
  den_pos : 0 < den

namespace Ratio

/-- A natural number. -/
def ofNat (n : Nat) : Ratio := ⟨n, 1, Nat.one_pos⟩

/-- The ratio times `base ^ k`. -/
def scale (r : Ratio) (base : Nat) (k : Int) (hb : 0 < base) : Ratio :=
  if 0 ≤ k then ⟨r.num * base.pow k.toNat, r.den, r.den_pos⟩
  else ⟨r.num, r.den * base.pow (-k).toNat, Nat.mul_pos r.den_pos (Nat.pow_pos hb)⟩

/-- The ratio times `2 ^ k`. -/
def scaleTwo (r : Ratio) (k : Int) : Ratio := r.scale 2 k (by decide)

/-- The ratio times `10 ^ k`. -/
def scaleTen (r : Ratio) (k : Int) : Ratio := r.scale 10 k (by decide)

/-- The greatest `e` with `2 ^ e ≤ r`, for a ratio `r` that is not zero. -/
def floorLog2 (r : Ratio) : Int :=
  let e : Int := r.num.log2 - r.den.log2
  let scaled := r.scaleTwo (-e)
  if scaled.den ≤ scaled.num then e else e - 1

/-- The nearest natural number; of two equally near ones the even one. -/
def nearest (r : Ratio) : Nat :=
  let below := r.num / r.den
  let rest := r.num % r.den
  if 2 * rest < r.den then below
  else if r.den < 2 * rest then below + 1
  else below + below % 2

end Ratio

namespace Magnitude

/-- The exact value. -/
def toRatio {f : BinaryFormat} (x : Magnitude f) : Ratio :=
  (Ratio.ofNat x.mantissa).scaleTwo x.exponent

end Magnitude

/-- The number of the format that is nearest to a ratio, a tie going to the even mantissa; `none`
when it is beyond the greatest number. -/
def BinaryFormat.round (f : BinaryFormat) (r : Ratio) : Option (Magnitude f) :=
  let q := if r.num = 0 then f.minExponent
    else max f.minExponent (r.floorLog2 - (f.precision - 1 : Nat))
  let m := (r.scaleTwo (-q)).nearest
  let (m, q) := if m = Nat.pow 2 f.precision then (Nat.pow 2 (f.precision - 1), q + 1) else (m, q)
  if h : f.Canonical m q then some ⟨m, q, h⟩ else none

end Number
end TypedInputs
