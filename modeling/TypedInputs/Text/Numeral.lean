/-
# Integers and numerals as they are written

| text | grammar |
| --- | --- |
| integer | an optional sign and digits |
| numeral | an optional sign; digits with an optional point and more digits, or a point and digits; an optional exponent: `e` or `E` and an integer |

Reading is greedy and says what is left over: each grammar takes as many characters as it can, and
the caller decides what may follow. An `e` without an exponent's digits behind it is left over.

An integer has a text only up to `maxIntegerDigits` digits, in both directions. Leading zeros
count, the sign does not.
-/

import TypedInputs.Text.Digit

namespace TypedInputs
namespace Text

/-- The most digits that an integer's text may have. -/
def maxIntegerDigits : Nat := 4300

/-- What is said of an integer that is too long to be read. -/
def tooManyDigitsMessage (count : Nat) : String :=
  "Exceeds the limit (4300 digits) for integer string conversion: value has " ++ toString count ++
    " digits; use sys.set_int_max_str_digits() to increase the limit"

/-- What is said of an integer that is too long to be written. -/
def integerTooLongMessage : String :=
  "Exceeds the limit (4300 digits) for integer string conversion; " ++
    "use sys.set_int_max_str_digits() to increase the limit"

/-- The text of an integer, `none` when it has more than `maxIntegerDigits` digits. -/
def integerText? (n : Int) : Option String :=
  if n.natAbs < Nat.pow 10 maxIntegerDigits then some (toString n) else none

/-- A sign and what follows it; no sign is a plus. -/
def readSign : List Char → Bool × List Char
  | '+' :: rest => (false, rest)
  | '-' :: rest => (true, rest)
  | rest => (false, rest)

/-- An integer as it is written: whether it has a minus, and its digits. -/
structure SignedDigits where
  negative : Bool
  digits : List Nat
deriving Repr, DecidableEq

/-- The integer that is written. -/
def SignedDigits.value (s : SignedDigits) : Int :=
  if s.negative then -(ofDigits s.digits : Int) else ofDigits s.digits

/-- An integer at the start of a text, and what follows it. -/
def readInteger (text : List Char) : Option (SignedDigits × List Char) :=
  let (negative, rest) := readSign text
  match spanDigits rest with
  | ([], _) => none
  | (d :: ds, tail) => some (⟨negative, d :: ds⟩, tail)

/-- A numeral as it is written: its sign, the digits before and after the point and the exponent. -/
structure Numeral where
  negative : Bool
  whole : List Nat
  fraction : List Nat
  exponent : Int
deriving Repr, DecidableEq

namespace Numeral

/-- All digits as one number. -/
def coefficient (n : Numeral) : Nat := ofDigits (n.whole ++ n.fraction)

/-- The power of ten that `coefficient` counts: the numeral's magnitude is
`coefficient · 10 ^ scale`. -/
def scale (n : Numeral) : Int := n.exponent - n.fraction.length

/-- The digits around the point, and what follows them. -/
def readMantissa (text : List Char) : Option ((List Nat × List Nat) × List Char) :=
  match spanDigits text with
  | ([], '.' :: rest) =>
    match spanDigits rest with
    | ([], _) => none
    | (fraction, tail) => some (([], fraction), tail)
  | ([], _) => none
  | (whole, '.' :: rest) => some ((whole, (spanDigits rest).1), (spanDigits rest).2)
  | (whole, rest) => some ((whole, []), rest)

/-- An exponent, and what follows it; `0` and the whole text when none stands there. -/
def readExponent (text : List Char) : Int × List Char :=
  match text with
  | 'e' :: rest | 'E' :: rest =>
    match readInteger rest with
    | some (written, tail) => (written.value, tail)
    | none => (0, text)
  | _ => (0, text)

/-- A numeral at the start of a text, and what follows it. -/
def read (text : List Char) : Option (Numeral × List Char) :=
  let (negative, rest) := readSign text
  match readMantissa rest with
  | some ((whole, fraction), tail) =>
    let (exponent, tail) := readExponent tail
    some (⟨negative, whole, fraction, exponent⟩, tail)
  | none => none

/-- The numeral that is the whole of a text. -/
def ofText? (text : List Char) : Option Numeral :=
  match read text with
  | some (n, []) => some n
  | _ => none

end Numeral
end Text
end TypedInputs
