/-
# Data that passes its checks

A list passes when each item does (`itemsFrom_of_forall₂`), a list of texts is the set of its members in
whatever order (`textSet_ofTexts`), and a text that names a value is read as this value
(`oneOf_name`). A field that is there has the value that its check takes it for
(`required_of_field?`, `withDefault_of_field?`), and one that is not has its default.
-/

import Mathlib.Data.List.Forall2
import TypedInputs.Action
import TypedInputs.Proofs.Fields

namespace TypedInputs

/-- **Sets with the same texts are equal.** -/
theorem TextSet.eq_of_mem_iff {a b : TextSet} (h : ∀ s, s ∈ a.toList ↔ s ∈ b.toList) : a = b := by
  have hnodup : ∀ set : TextSet, set.toList.Nodup := by
    intro set
    refine set.ascending.imp ?_
    rintro s t hlt rfl
    exact String.lt_irrefl s hlt
  have hperm : a.toList.Perm b.toList :=
    (List.perm_ext_iff_of_nodup (hnodup a) (hnodup b)).2 h
  have hlist : a.toList = b.toList :=
    hperm.eq_of_pairwise (fun s t _ _ hst hts => absurd (String.lt_trans hst hts)
      (String.lt_irrefl s)) a.ascending b.ascending
  obtain ⟨texts, hascending⟩ := a
  obtain rfl := hlist
  rfl

/-- Of texts that differ from each other none is repeated. -/
theorem repeated_eq_nil_of_nodup {texts : List String} (h : texts.Nodup) : repeated texts = [] := by
  induction texts with
  | nil => rfl
  | cons s rest ih =>
    obtain ⟨hs, hrest⟩ := List.nodup_cons.1 h
    rw [repeated, if_neg hs, ih hrest]

namespace Check

variable {α : Type} {check : Check α}

theorem text_text (s : String) : text (.text s) = .valid s := rfl

theorem textOrNull_text (s : String) : textOrNull (.text s) = .valid s := rfl

theorem flag_bool (b : Bool) : flag (.bool b) = .valid b := rfl

theorem nonEmptyText_text {s : String} (h : s ≠ "") :
    nonEmptyText (.text s) = .valid ⟨s, h⟩ :=
  dif_pos h

theorem orNull_text (s : Option String) : orNull text (.ofText? s) = .valid s := by
  cases s <;> rfl

/-- **A list passes when each of its items does.** -/
theorem itemsFrom_of_forall₂ {items : List Value} {values : List α}
    (h : List.Forall₂ (fun v a => check v = .valid a) items values) (i : Nat) :
    itemsFrom check i items = .valid values := by
  induction h generalizing i with
  | nil => rfl
  | cons hfirst _ ih =>
    rw [itemsFrom, hfirst, ih]
    rfl

/-- **A list of texts is the set of its members.** -/
theorem textSet_ofTexts {texts : List String} {set : TextSet}
    (h : ∀ s, s ∈ texts ↔ s ∈ set.toList) : textSet (.ofTexts texts) = .valid set := by
  have htexts : List.Forall₂ (fun v s => text v = .valid s) (texts.map .text) texts :=
    List.forall₂_map_left_iff.2 (List.forall₂_same.2 fun _ _ => rfl)
  have hset : TextSet.ofList texts = set := TextSet.eq_of_mem_iff fun s => by
    rw [TextSet.mem_toList_ofList, h]
  show (itemsFrom text 0 (texts.map .text)).map TextSet.ofList = .valid set
  rw [itemsFrom_of_forall₂ htexts, ← hset]
  rfl

/-- **A text that names a value is read as the value,** when no other has the name. -/
theorem oneOf_name {all : List α} {name : α → String} {a : α} (hmem : a ∈ all)
    (honly : ∀ b ∈ all, name b = name a → b = a) : oneOf all name (.text (name a)) = .valid a := by
  simp only [oneOf, find?_name hmem honly]

theorem visibility_name (v : Visibility) :
    oneOf Visibility.all Visibility.name (.text v.name) = .valid v :=
  oneOf_name (by cases v <;> decide) (by cases v <;> decide)

theorem category_name (c : Category) :
    oneOf Category.all Category.name (.text c.name) = .valid c :=
  oneOf_name (by cases c <;> decide) (by cases c <;> decide)

theorem context_name (c : Context) :
    oneOf Context.all Context.name (.text c.name) = .valid c :=
  oneOf_name (by cases c <;> decide) (by cases c <;> decide)

/-- A context is read back from its name, and none from null. -/
theorem orNull_context (c : Option Context) :
    orNull (oneOf Context.all Context.name) (.ofText? (c.map Context.name)) = .valid c := by
  cases c with
  | none => rfl
  | some c =>
    show (oneOf Context.all Context.name (.text c.name)).map some = .valid (some c)
    rw [context_name]
    rfl

end Check

namespace FieldName

variable {α : Type} {check : Check α} {fields : List (String × Value)} {v : Value} {a absent : α}

/-- **A field that must be there** and is there under its name on the wire. -/
theorem required_of_field? (name : FieldName) (h : field? fields name.wire = some v)
    (hcheck : check v = .valid a) : name.required check fields = .valid a := by
  rw [required, lookUp, h]
  show (check v).within _ = _
  rw [hcheck]
  rfl

/-- **A field that may be absent** and is there under its name on the wire. -/
theorem withDefault_of_field? (name : FieldName) (h : field? fields name.wire = some v)
    (hcheck : check v = .valid a) : name.withDefault absent check fields = .valid a := by
  rw [withDefault, lookUp, h]
  show (check v).within _ = _
  rw [hcheck]
  rfl

/-- A field of one word that is absent. -/
theorem withDefault_of_absent {s : String} (h : field? fields s = none) :
    (word s).withDefault absent check fields = .valid absent := by
  have hwire : field? fields (word s).wire = none := h
  have hplain : field? fields (word s).plain = none := h
  rw [withDefault, lookUp, hwire, hplain]
  rfl

end FieldName
end TypedInputs
