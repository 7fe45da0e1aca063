/-
# Blanks

A blank is a character that Unicode counts as white space, or one of the four separators
U+001C to U+001F. Texts are trimmed of blanks on both sides before a floating point number, a
decimal or a quantity is read; the zero width space U+200B is no blank.

A text that is read whole ends at its last character, or just before one final line feed:
`isLineEnd` is that rule.
-/

namespace TypedInputs
namespace Text

/-- A character that trimming removes and that may stand between a number and its unit. -/
def isBlank (c : Char) : Bool :=
  let n := c.toNat
  (9 ≤ n && n ≤ 13) || (28 ≤ n && n ≤ 32) || n == 0x85 || n == 0xa0 || n == 0x1680 ||
  (0x2000 ≤ n && n ≤ 0x200a) || n == 0x2028 || n == 0x2029 || n == 0x202f || n == 0x205f ||
  n == 0x3000

/-- The text without the blanks at its end. -/
def trimEnd : List Char → List Char
  | [] => []
  | c :: rest =>
    match trimEnd rest with
    | [] => if isBlank c then [] else [c]
    | kept => c :: kept

/-- The text without the blanks at both ends. -/
def trim (text : List Char) : List Char := trimEnd (text.dropWhile isBlank)

/-- What may follow a grammar that reads a whole text: nothing, or one final line feed. -/
def isLineEnd : List Char → Bool
  | [] => true
  | [c] => c == '\n'
  | _ => false

/-- A line ends at the end of a text or before one last line feed. -/
theorem isLineEnd_iff {text : List Char} : isLineEnd text = true ↔ text = [] ∨ text = ['\n'] := by
  match text with
  | [] => simp [isLineEnd]
  | [c] => simp [isLineEnd]
  | _ :: _ :: _ => simp [isLineEnd]

/-- Trimming the end is dropping blanks from the reversed text. -/
theorem trimEnd_eq_reverse_dropWhile (text : List Char) :
    trimEnd text = (text.reverse.dropWhile isBlank).reverse := by
  induction text with
  | nil => rfl
  | cons c rest ih =>
    rw [trimEnd, ih, List.reverse_cons, List.dropWhile_append]
    cases h : rest.reverse.dropWhile isBlank with
    | nil => cases hc : isBlank c <;> simp [hc]
    | cons d tail => simp

end Text
end TypedInputs
