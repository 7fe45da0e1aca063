/-
# Writing JSON

A list or object has each item on a line of its own, two columns further in than the brackets
around it; an empty one stands on one line. Characters above U+001F are written as they are, except
quote and backslash. Doubles have their shortest text, and the three that are no numbers are `NaN`,
`Infinity` and `-Infinity`.

Only values of the wire have a JSON text.
-/

import TypedInputs.Shown

namespace TypedInputs
namespace Json

open Number

/-- One character of a text in quotes. -/
def escapeChar (c : Char) : List Char :=
  if c = Text.doubleQuote ∨ c = Text.backslash then [Text.backslash, c]
  else if c = '\n' then [Text.backslash, 'n']
  else if c = '\r' then [Text.backslash, 'r']
  else if c = '\t' then [Text.backslash, 't']
  else if c = '\x08' then [Text.backslash, 'b']
  else if c = '\x0c' then [Text.backslash, 'f']
  else if c < ' ' then Text.backslash :: 'u' :: Text.hexPadded 4 c.toNat
  else [c]

/-- A text in quotes. -/
def textLiteral (s : String) : String :=
  String.ofList (Text.doubleQuote :: (s.toList.flatMap escapeChar ++ [Text.doubleQuote]))

/-- The text of a double. -/
def doubleLiteral : Double → String
  | .nan => "NaN"
  | .infinite negative => if negative then "-Infinity" else "Infinity"
  | x => x.text

/-- A new line at a depth of brackets. -/
def newLine (depth : Nat) : String := String.ofList ('\n' :: List.replicate (2 * depth) ' ')

/-- Items inside brackets that stand at a depth. -/
def block (opening : String) (depth : Nat) (items : List String) (closing : String) : String :=
  if items.isEmpty then opening ++ closing
  else
    opening ++ newLine (depth + 1) ++ String.intercalate ("," ++ newLine (depth + 1)) items ++
      newLine depth ++ closing

mutual

/-- The JSON text of a value at a depth of brackets. -/
def writeAt (depth : Nat) : Value → Except KindFault String
  | .null => .ok "null"
  | .bool b => .ok (if b then "true" else "false")
  | .int n => (Text.integerText? n).elim (.error .integerTooLong) .ok
  | .float x => .ok (doubleLiteral x)
  | .text s => .ok (textLiteral s)
  | .list items => (writeItems (depth + 1) items).map fun parts => block "[" depth parts "]"
  | .object fields =>
    (writeFields (depth + 1) fields).map fun parts => block "\x7b" depth parts "\x7d"
  | v => .error (.notJson v.kind)

/-- The JSON texts of items. -/
def writeItems (depth : Nat) : List Value → Except KindFault (List String)
  | [] => .ok []
  | v :: rest => do
    let first ← writeAt depth v
    let others ← writeItems depth rest
    .ok (first :: others)

/-- The JSON texts of fields. -/
def writeFields (depth : Nat) : List (String × Value) → Except KindFault (List String)
  | [] => .ok []
  | (name, v) :: rest => do
    let first ← writeAt depth v
    let others ← writeFields depth rest
    .ok ((textLiteral name ++ ": " ++ first) :: others)

end

/-- The JSON text of a value. -/
def write (v : Value) : Except KindFault String := writeAt 0 v

end Json
end TypedInputs
