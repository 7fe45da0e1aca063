/-
# Members that are texts

The members of an object are its names, and names are texts. Texts have an order and a shown form,
so the members that no input declares can be sorted and shown (`Value.exists_undeclared`).
-/

import TypedInputs.Arguments

namespace TypedInputs
namespace Value

/-- A value that is a text. -/
def IsText (v : Value) : Prop := ∃ s, v = .text s

/-- Among texts a text finds its place, and all of them are texts again. -/
theorem exists_insertMember {v : Value} (hv : IsText v) {values : List Value}
    (h : ∀ w ∈ values, IsText w) :
    ∃ sorted, insertMember v values = .ok sorted ∧ ∀ w ∈ sorted, IsText w := by
  obtain ⟨s, rfl⟩ := hv
  induction values with
  | nil => exact ⟨[.text s], rfl, by simp [IsText]⟩
  | cons w rest ih =>
    obtain ⟨t, rfl⟩ := h w List.mem_cons_self
    obtain ⟨sorted, hsorted, htexts⟩ := ih fun w hw => h w (List.mem_cons_of_mem _ hw)
    by_cases hst : s < t
    · refine ⟨.text s :: .text t :: rest, ?_, ?_⟩
      · simp only [insertMember, precedes, decide_eq_true hst]
        rfl
      · rintro w (_ | ⟨_, hw⟩)
        · exact ⟨s, rfl⟩
        · exact h w hw
    · refine ⟨.text t :: sorted, ?_, ?_⟩
      · simp only [insertMember, precedes, decide_eq_false hst, hsorted]
        rfl
      · rintro w (_ | ⟨_, hw⟩)
        · exact ⟨t, rfl⟩
        · exact htexts w hw

/-- Texts can always be sorted. -/
theorem exists_sortMembers {values : List Value} (h : ∀ w ∈ values, IsText w) :
    ∃ sorted, sortMembers values = .ok sorted ∧ ∀ w ∈ sorted, IsText w := by
  unfold sortMembers
  induction values with
  | nil => exact ⟨[], rfl, by simp⟩
  | cons v rest ih =>
    obtain ⟨sorted, hsorted, htexts⟩ := ih fun w hw => h w (List.mem_cons_of_mem _ hw)
    obtain ⟨inserted, hinserted, htexts'⟩ := exists_insertMember (h v List.mem_cons_self) htexts
    exact ⟨inserted, by rw [List.foldrM_cons, hsorted]; exact hinserted, htexts'⟩

/-- Texts can always be shown. -/
theorem exists_shownItems {values : List Value} (h : ∀ w ∈ values, IsText w) :
    ∃ parts, shownItems values = .ok parts := by
  induction values with
  | nil => exact ⟨[], by rw [shownItems]⟩
  | cons v rest ih =>
    obtain ⟨s, rfl⟩ := h v List.mem_cons_self
    obtain ⟨parts, hparts⟩ := ih fun w hw => h w (List.mem_cons_of_mem _ hw)
    exact ⟨Text.quoted s :: parts, by rw [shownItems, shown, hparts]; rfl⟩

/-- The names of an object are texts. -/
theorem exists_members (fields : List (String × Value)) :
    ∃ values, (object fields).members = .ok values ∧ ∀ w ∈ values, IsText w := by
  refine ⟨_, rfl, fun w hw => ?_⟩
  obtain ⟨entry, -, rfl⟩ := List.mem_map.1 hw
  exact ⟨_, rfl⟩

/-- **The undeclared members of an object can be sorted and shown.** -/
theorem exists_undeclared (fields : List (String × Value)) (names : List String) :
    ∃ values text, (object fields).undeclared names = .ok values ∧
      (list values).shown = .ok text := by
  obtain ⟨values, hvalues, hmembers⟩ := exists_members fields
  have hundeclared : ∀ w ∈ values.filter (fun v => !isDeclared names v), IsText w :=
    fun w hw => hmembers w (List.mem_filter.1 hw).1
  obtain ⟨sorted, hsorted, htexts⟩ := exists_sortMembers hundeclared
  obtain ⟨parts, hparts⟩ := exists_shownItems htexts
  refine ⟨sorted, bracketed "[" parts "]", ?_, by rw [shown, hparts]; rfl⟩
  rw [undeclared, hvalues]
  exact hsorted

end Value
end TypedInputs
