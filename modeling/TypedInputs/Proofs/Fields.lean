/-
# Fields put one after the other

A field that is put goes to the place that its name has, or to the end when the name is new. So after
entries were put one after the other (`putFields`), the names stand in the order in which they came
first (`map_fst_putFields`), and each name has the value that came last (`field?_putFields`). When
no name comes twice, what was put is what is there (`putFields_of_nodup`).

Often the entries belong to items, such as the inputs of an action, of which each has a name and some
have a value (`entriesOf`).
-/

import Mathlib.Data.List.Induction
import TypedInputs.Value

namespace TypedInputs

variable {α ι : Type}

/-! ### One field -/

/-- A field with a new name is put at the end. -/
theorem setField_of_not_mem {name : String} {fields : List (String × α)}
    (h : name ∉ fields.map Prod.fst) (v : α) : setField name v fields = fields ++ [(name, v)] := by
  induction fields with
  | nil => rfl
  | cons entry rest ih =>
    obtain ⟨n, w⟩ := entry
    rw [List.map_cons, List.mem_cons, not_or] at h
    rw [setField_cons_of_ne (Ne.symm h.1), ih h.2, List.cons_append]

/-- Setting a field that is there keeps the names and their order. -/
theorem map_fst_setField_of_mem {name : String} {fields : List (String × α)}
    (h : name ∈ fields.map Prod.fst) (v : α) :
    (setField name v fields).map Prod.fst = fields.map Prod.fst := by
  induction fields with
  | nil => exact absurd h List.not_mem_nil
  | cons entry rest ih =>
    obtain ⟨n, w⟩ := entry
    by_cases hn : n = name
    · rw [setField_cons_of_eq hn, List.map_cons, List.map_cons]
    · have hrest := (List.mem_cons.1 h).resolve_left (Ne.symm hn)
      rw [setField_cons_of_ne hn, List.map_cons, ih hrest, List.map_cons]

theorem field?_cons_self (name : String) (v : α) (rest : List (String × α)) :
    field? ((name, v) :: rest) name = some v := by
  simp [field?]

theorem field?_cons_of_ne {n name : String} (h : n ≠ name) (v : α) (rest : List (String × α)) :
    field? ((n, v) :: rest) name = field? rest name := by
  rw [field?, List.find?_cons_of_neg (by simpa using h), field?]

/-- A name that no field has is not found. -/
theorem field?_eq_none {fields : List (String × α)} {name : String} :
    field? fields name = none ↔ name ∉ fields.map Prod.fst := by
  rw [field?, Option.map_eq_none_iff, List.find?_eq_none, List.mem_map]
  simp only [beq_iff_eq, not_exists, not_and]

/-- What is found under a name is a field with this name. -/
theorem mem_of_field?_eq_some {fields : List (String × α)} {name : String} {v : α}
    (h : field? fields name = some v) : (name, v) ∈ fields := by
  obtain ⟨entry, hentry, rfl⟩ := Option.map_eq_some_iff.1 h
  have hname : entry.1 = name := by simpa using List.find?_some hentry
  exact hname ▸ List.mem_of_find?_eq_some hentry

/-- The first entry with a name counts. -/
theorem field?_append (fields later : List (String × α)) (name : String) :
    field? (fields ++ later) name = (field? fields name).or (field? later name) := by
  rw [field?, List.find?_append, Option.map_or, field?, field?]

/-! ### Fields one after the other -/

/-- The fields with entries put among them, one after the other. -/
def putFields (fields entries : List (String × α)) : List (String × α) :=
  entries.foldl (fun acc entry => setField entry.1 entry.2 acc) fields

theorem putFields_cons (fields : List (String × α)) (entry : String × α)
    (rest : List (String × α)) :
    putFields fields (entry :: rest) = putFields (setField entry.1 entry.2 fields) rest := rfl

/-- The last field that is put is set after all others. -/
theorem putFields_concat (fields entries : List (String × α)) (entry : String × α) :
    putFields fields (entries ++ [entry]) =
      setField entry.1 entry.2 (putFields fields entries) := by
  rw [putFields, List.foldl_append]
  rfl

/-- **The names stand in the order in which they came first.** -/
theorem map_fst_putFields (entries : List (String × α)) :
    (putFields [] entries).map Prod.fst = (entries.map Prod.fst).eraseDups := by
  induction entries using List.reverseRecOn with
  | nil => rfl
  | append_singleton entries entry ih =>
    rw [putFields_concat, List.map_append, List.eraseDups_append]
    by_cases hmem : entry.1 ∈ entries.map Prod.fst
    · have hput : entry.1 ∈ (putFields [] entries).map Prod.fst := by
        rw [ih]
        exact List.mem_eraseDups.2 hmem
      have hold : ([entry].map Prod.fst).removeAll (entries.map Prod.fst) = [] := by
        simpa [List.removeAll] using hmem
      rw [map_fst_setField_of_mem hput, ih, hold]
      exact (List.append_nil _).symm
    · have hput : entry.1 ∉ (putFields [] entries).map Prod.fst := by
        rw [ih]
        exact fun h => hmem (List.mem_eraseDups.1 h)
      have hnew : ([entry].map Prod.fst).removeAll (entries.map Prod.fst) = [entry.1] := by
        simpa [List.removeAll] using hmem
      rw [setField_of_not_mem hput, List.map_append, ih, hnew]
      rfl

/-- **Each name has the value that came last.** -/
theorem field?_putFields (fields entries : List (String × α)) (name : String) :
    field? (putFields fields entries) name =
      (field? entries.reverse name).or (field? fields name) := by
  induction entries using List.reverseRecOn with
  | nil => rfl
  | append_singleton entries entry ih =>
    rw [putFields_concat, List.reverse_append, List.reverse_singleton, List.singleton_append]
    by_cases hname : entry.1 = name
    · subst hname
      rw [field?_setField_self, field?, List.find?_cons_of_pos (by simp)]
      rfl
    · rw [field?_setField_of_ne _ _ (Ne.symm hname), ih]
      conv_rhs => rw [field?, List.find?_cons_of_neg (by simpa using hname)]
      rfl

/-- **Entries of which no two share a name are put as they are.** -/
theorem putFields_of_nodup {entries : List (String × α)}
    (h : (entries.map Prod.fst).Nodup) : putFields [] entries = entries := by
  induction entries using List.reverseRecOn with
  | nil => rfl
  | append_singleton entries entry ih =>
    rw [List.map_append, List.map_singleton, List.nodup_append] at h
    have hnew : entry.1 ∉ entries.map Prod.fst := fun hmem =>
      h.2.2 _ hmem _ (List.mem_singleton_self _) rfl
    rw [putFields_concat, ih h.1, setField_of_not_mem hnew]

/-! ### Entries of items -/

/-- **An item is found by its name,** when no other item has the name. -/
theorem find?_name {items : List ι} {name : ι → String} {item : ι} (hmem : item ∈ items)
    (honly : ∀ other ∈ items, name other = name item → other = item) :
    items.find? (fun other => name other == name item) = some item := by
  cases hfound : items.find? fun other => name other == name item with
  | none => simpa using List.find?_eq_none.1 hfound item hmem
  | some other =>
    have hname : name other = name item := by simpa using List.find?_some hfound
    rw [honly other (List.mem_of_find?_eq_some hfound) hname]

/-- The entries of items that have names, and some of which have a value. -/
def entriesOf (name : ι → String) (value? : ι → Option α) (items : List ι) : List (String × α) :=
  items.filterMap fun item => (value? item).map fun v => (name item, v)

variable {name : ι → String} {value? : ι → Option α}

theorem entriesOf_cons_of_none {item : ι} (h : value? item = none) (rest : List ι) :
    entriesOf name value? (item :: rest) = entriesOf name value? rest := by
  rw [entriesOf, List.filterMap_cons_none (by rw [h]; rfl), entriesOf]

theorem entriesOf_cons_of_some {item : ι} {v : α} (h : value? item = some v) (rest : List ι) :
    entriesOf name value? (item :: rest) = (name item, v) :: entriesOf name value? rest := by
  rw [entriesOf, List.filterMap_cons_some (by rw [h]; rfl), entriesOf]

/-- The names of the entries are those of the items that have a value, in their order. -/
theorem map_fst_entriesOf (items : List ι) :
    (entriesOf name value? items).map Prod.fst =
      (items.filter fun item => (value? item).isSome).map name := by
  induction items with
  | nil => rfl
  | cons item rest ih =>
    cases hvalue : value? item with
    | none =>
      rw [entriesOf_cons_of_none hvalue, ih, List.filter_cons_of_neg (by rw [hvalue]; simp)]
    | some v =>
      rw [entriesOf_cons_of_some hvalue, List.map_cons, ih,
        List.filter_cons_of_pos (by rw [hvalue]; rfl), List.map_cons]

/-- Entries of items with different names have different names. -/
theorem nodup_map_fst_entriesOf {items : List ι} (h : (items.map name).Nodup) :
    ((entriesOf name value? items).map Prod.fst).Nodup := by
  rw [map_fst_entriesOf]
  exact h.sublist (List.filter_sublist.map name)

/-- The value of a name is that of the first item with the name that has one. -/
theorem field?_entriesOf (items : List ι) (n : String) :
    field? (entriesOf name value? items) n =
      items.findSome? fun item => if name item = n then value? item else none := by
  induction items with
  | nil => rfl
  | cons item rest ih =>
    rw [List.findSome?_cons]
    cases hvalue : value? item with
    | none => rw [entriesOf_cons_of_none hvalue, ih, ite_self]
    | some v =>
      rw [entriesOf_cons_of_some hvalue, field?]
      by_cases hname : name item = n
      · rw [List.find?_cons_of_pos (by simpa using hname), if_pos hname]
        rfl
      · rw [List.find?_cons_of_neg (by simpa using hname), if_neg hname]
        exact ih

/-- **Of items of which no two share a name, each has the value of its name.** -/
theorem field?_entriesOf_of_nodup {items : List ι} (hnodup : (items.map name).Nodup) {item : ι}
    (h : item ∈ items) : field? (entriesOf name value? items) (name item) = value? item := by
  rw [field?_entriesOf]
  induction items with
  | nil => exact absurd h List.not_mem_nil
  | cons first rest ih =>
    rw [List.map_cons, List.nodup_cons] at hnodup
    rw [List.findSome?_cons]
    rcases List.mem_cons.1 h with rfl | hrest
    · rw [if_pos rfl]
      cases value? item with
      | some v => rfl
      | none =>
        refine List.findSome?_eq_none_iff.2 fun later hlater => if_neg fun hsame => ?_
        exact hnodup.1 (hsame ▸ List.mem_map_of_mem hlater)
    · have hne : name first ≠ name item := fun hsame =>
        hnodup.1 (hsame ▸ List.mem_map_of_mem hrest)
      rw [if_neg hne]
      exact ih hnodup.2 hrest

/-- **Of items whose entries are put one after the other, the last one with a value counts.** -/
theorem field?_putFields_entriesOf (items : List ι) (n : String) :
    field? (putFields [] (entriesOf name value? items)) n =
      items.reverse.findSome? fun item => if name item = n then value? item else none := by
  have hreverse : (entriesOf name value? items).reverse = entriesOf name value? items.reverse :=
    List.filterMap_reverse.symm
  rw [field?_putFields, hreverse, field?_entriesOf]
  exact Option.or_none

/-- The last item with a name that has a value. -/
theorem field?_putFields_entriesOf_eq_some {items : List ι} {n : String} {v : α} :
    field? (putFields [] (entriesOf name value? items)) n = some v ↔
      ∃ before item after, items = before ++ item :: after ∧ name item = n ∧
        value? item = some v ∧ ∀ later ∈ after, name later = n → value? later = none := by
  rw [field?_putFields_entriesOf, List.findSome?_eq_some_iff]
  constructor
  · rintro ⟨after, item, before, hsplit, hitem, hlater⟩
    have hname : name item = n := by
      by_contra hne
      rw [if_neg hne] at hitem
      cases hitem
    refine ⟨before.reverse, item, after.reverse, ?_, hname, by rwa [if_pos hname] at hitem, ?_⟩
    · rw [List.reverse_eq_iff.1 hsplit]
      simp
    · intro later hmem hsame
      have hnone := hlater later (List.mem_reverse.1 hmem)
      rwa [if_pos hsame] at hnone
  · rintro ⟨before, item, after, rfl, rfl, hvalue, hlater⟩
    refine ⟨after.reverse, item, before.reverse, by simp, by rw [if_pos rfl, hvalue], ?_⟩
    intro later hmem
    split_ifs with hsame
    · exact hlater later (List.mem_reverse.1 hmem) hsame
    · rfl

end TypedInputs
