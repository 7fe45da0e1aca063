/-
# Divided texts

A text is divided at every occurrence of a separator. There is one part more than there are
separators, parts may be empty, and joined by the separator they are the text again.
-/

namespace TypedInputs
namespace Text

/-- The parts of a text between the occurrences of a separator. -/
def divide (separator : Char) : List Char → List (List Char)
  | [] => [[]]
  | c :: rest =>
    if c = separator then [] :: divide separator rest
    else (divide separator rest).modifyHead (c :: ·)

/-- There is one part more than there are separators. -/
theorem length_divide (separator : Char) (text : List Char) :
    (divide separator text).length = text.count separator + 1 := by
  induction text with
  | nil => rfl
  | cons c rest ih =>
    by_cases h : c = separator
    · simp [divide, h, ih]
    · simp [divide, h, ih, List.count_cons_of_ne h]

/-- The parts joined by the separator are the text. -/
theorem flatten_intersperse_divide (separator : Char) (text : List Char) :
    ((divide separator text).intersperse [separator]).flatten = text := by
  induction text with
  | nil => rfl
  | cons c rest ih =>
    have hlength := length_divide separator rest
    cases hparts : divide separator rest with
    | nil => simp [hparts] at hlength
    | cons part parts =>
      rw [hparts] at ih
      by_cases h : c = separator
      · simp [divide, h, hparts, ih]
      · cases parts <;> simpa [divide, h, hparts] using ih

end Text
end TypedInputs
