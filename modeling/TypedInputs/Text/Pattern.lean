/-
# Patterns with an order of preference

A pattern takes characters from the front of a text, and `find?` hands what is left to a function
that answers or refuses. A pattern may have more than one way to take characters, and the ways have
an order: a run is taken as long as possible first, an optional part is taken rather than left out,
and the first of two alternatives comes before the second. A later way is tried only when what
follows was refused after all earlier ones, so the first answer is the one that counts.

| pattern | takes |
| --- | --- |
| `one p` | one character of a class |
| `many p` | a run of characters of a class, which may be empty |
| `optional a` | what `a` takes, or nothing |
| `either a b` | what `a` takes, or what `b` takes |
| `andThen a b` | what `a` takes and what `b` takes behind it |

`numeral` is the pattern of the numerals of `Text.Numeral`.
-/

import TypedInputs.Text.Numeral

namespace TypedInputs
namespace Text

/-- A pattern of characters. -/
inductive Pattern where
  | one (p : Char → Bool)
  | many (p : Char → Bool)
  | optional (a : Pattern)
  | either (a b : Pattern)
  | andThen (a b : Pattern)

namespace Pattern

variable {α : Type}

/-- The first answer behind a run of characters of a class, the longest run first. -/
def findMany? (p : Char → Bool) (next : List Char → Option α) : List Char → Option α
  | [] => next []
  | c :: rest => if p c then (findMany? p next rest).or (next (c :: rest)) else next (c :: rest)

/-- The first answer that `next` gives to what a pattern leaves of a text. -/
def find? : Pattern → (List Char → Option α) → List Char → Option α
  | one _, _, [] => none
  | one p, next, c :: rest => if p c then next rest else none
  | many p, next, text => findMany? p next text
  | optional a, next, text => (a.find? next text).or (next text)
  | either a b, next, text => (a.find? next text).or (b.find? next text)
  | andThen a b, next, text => a.find? (b.find? next) text

/-- A sign, maybe left out. -/
def sign : Pattern := optional (one fun c => c == '+' || c == '-')

/-- One digit or more. -/
def digits : Pattern := andThen (one isDigit) (many isDigit)

/-- The point of a numeral. -/
def point : Pattern := one (· == '.')

/-- A point and maybe digits, both maybe left out. -/
def fraction : Pattern := optional (andThen point (many isDigit))

/-- Digits and a fraction, or a point and digits. -/
def mantissa : Pattern := either (andThen digits fraction) (andThen point digits)

/-- A mark, a sign and digits, maybe left out. -/
def exponent : Pattern :=
  optional (andThen (one fun c => c == 'e' || c == 'E') (andThen sign digits))

/-- A numeral. -/
def numeral : Pattern := andThen sign (andThen mantissa exponent)

end Pattern
end Text
end TypedInputs
