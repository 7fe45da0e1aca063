/-
# Quoted texts

Messages quote the texts they speak of. The quotes are single, unless the text holds a single
quote and no double one; then they are double. Inside, a backslash and the surrounding quote are
escaped by a backslash, line feed, carriage return and tab are written `\n`, `\r` and `\t`, and any
other character that is not printable is written by its code point in two, four or eight
hexadecimal digits: `\x00`, `\u200b`, `\U000e0001`.
-/

import TypedInputs.Text.Printable

namespace TypedInputs
namespace Text

/-- The single quote. -/
def singleQuote : Char := '\x27'

/-- The double quote. -/
def doubleQuote : Char := '\x22'

/-- A backslash. -/
def backslash : Char := '\x5c'

/-- A number in lower case hexadecimal digits, padded with zeros to `width`. -/
def hexPadded (width n : Nat) : List Char := (Nat.toDigits 16 n).leftpad width '0'

/-- One character inside quotes. -/
def escapeChar (quote c : Char) : List Char :=
  if c = quote ∨ c = backslash then [backslash, c]
  else if c = '\n' then [backslash, 'n']
  else if c = '\r' then [backslash, 'r']
  else if c = '\t' then [backslash, 't']
  else if isPrintable c then [c]
  else if c.toNat < 0x100 then backslash :: 'x' :: hexPadded 2 c.toNat
  else if c.toNat < 0x10000 then backslash :: 'u' :: hexPadded 4 c.toNat
  else backslash :: 'U' :: hexPadded 8 c.toNat

/-- The quote that surrounds a text. -/
def quoteFor (text : List Char) : Char :=
  if singleQuote ∈ text ∧ doubleQuote ∉ text then doubleQuote else singleQuote

/-- A text in quotes, as messages show it. -/
def quoted (text : String) : String :=
  let chars := text.toList
  let quote := quoteFor chars
  String.ofList (quote :: (chars.flatMap (escapeChar quote) ++ [quote]))

end Text
end TypedInputs
