/-
# Sets of texts

A set of texts is kept as a list in strictly ascending order by code points, so that equal sets are
equal terms and every list of names that is reported has one order.
-/

namespace TypedInputs

/-- A set of texts. -/
structure TextSet where
  toList : List String
  ascending : toList.Pairwise (· < ·)
deriving DecidableEq

namespace TextSet

/-- A text put into an ascending list, unless it is there. -/
def insertText (s : String) : List String → List String
  | [] => [s]
  | t :: rest =>
    if s < t then s :: t :: rest else if s = t then t :: rest else t :: insertText s rest

/-- A text is inserted into a set and all others stay. -/
theorem mem_insertText {s u : String} {texts : List String} :
    u ∈ insertText s texts ↔ u = s ∨ u ∈ texts := by
  induction texts with
  | nil => simp [insertText]
  | cons t rest ih =>
    by_cases hlt : s < t
    · simp [insertText, hlt]
    · by_cases heq : s = t
      · subst heq
        simp [insertText]
      · simp only [insertText, hlt, heq, if_false, List.mem_cons, ih]
        exact or_left_comm

theorem lt_of_not_lt_of_ne {s t : String} (hlt : ¬s < t) (hne : s ≠ t) : t < s :=
  Decidable.byContradiction fun h =>
    hne (String.le_antisymm (String.not_lt.1 h) (String.not_lt.1 hlt))

/-- Inserting a text keeps the order, and each text once. -/
theorem pairwise_insertText {s : String} {texts : List String} (h : texts.Pairwise (· < ·)) :
    (insertText s texts).Pairwise (· < ·) := by
  induction texts with
  | nil => simp [insertText]
  | cons t rest ih =>
    obtain ⟨hhead, htail⟩ := List.pairwise_cons.1 h
    by_cases hlt : s < t
    · simp only [insertText, hlt, if_true]
      refine List.pairwise_cons.2 ⟨fun u hu => ?_, h⟩
      rcases List.mem_cons.1 hu with rfl | hu
      · exact hlt
      · exact String.lt_trans hlt (hhead u hu)
    · by_cases heq : s = t
      · simpa [insertText, hlt, heq, String.lt_irrefl] using h
      · simp only [insertText, hlt, heq, if_false]
        refine List.pairwise_cons.2 ⟨fun u hu => ?_, ih htail⟩
        rcases mem_insertText.1 hu with rfl | hu
        · exact lt_of_not_lt_of_ne hlt heq
        · exact hhead u hu

/-- The set without texts. -/
def empty : TextSet := ⟨[], .nil⟩

/-- A set with one more text. -/
def insert (s : String) (set : TextSet) : TextSet :=
  ⟨insertText s set.toList, pairwise_insertText set.ascending⟩

/-- The set of the texts in a list. -/
def ofList (texts : List String) : TextSet := texts.foldr insert empty

@[simp] theorem mem_toList_insert {s u : String} {set : TextSet} :
    u ∈ (set.insert s).toList ↔ u = s ∨ u ∈ set.toList :=
  mem_insertText

/-- A set has the texts that it is made of. -/
@[simp] theorem mem_toList_ofList {u : String} {texts : List String} :
    u ∈ (ofList texts).toList ↔ u ∈ texts := by
  induction texts with
  | nil => simp [ofList, empty]
  | cons s rest ih => simpa [ofList] using or_congr_right ih

end TextSet
end TypedInputs
