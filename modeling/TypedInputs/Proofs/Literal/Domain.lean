/-
# The values of a tag

`Inhabits` says which values a tag has. Texts and numbers are two ways to them, and both end there:
what is parsed for a declared type is a value of its tag (`inhabits_of_parse`), and so is what a
number narrows to (`inhabits_of_narrow`).

| tag | values |
| --- | --- |
| integral | the integers of the width |
| `float` | the doubles that narrowing to single precision leaves alone |
| `decimalText` | the decimals with an exponent in reach |
| `quantity` | such a decimal and a unit, which is empty or a symbol |
| other | all values of the kind |
-/

import TypedInputs.Literal
import TypedInputs.Proofs.Number.Double
import TypedInputs.Proofs.Number.Quantity

namespace TypedInputs
namespace Literal

open Number Calendar

/-- The integers of a signed width in bits. -/
def InWidth (bits : Nat) (n : Int) : Prop := (signedBounds bits).1 ≤ n ∧ n ≤ (signedBounds bits).2

instance (bits : Nat) (n : Int) : Decidable (InWidth bits n) := inferInstanceAs (Decidable (_ ∧ _))

/-- The values of a tag. -/
inductive Inhabits : TypeTag → Value → Prop
  | bool (b : Bool) : Inhabits .bool (.bool b)
  | integral {tag : TypeTag} {bits : Nat} {n : Int} (hwidth : tag.width? = some bits)
      (h : InWidth bits n) : Inhabits tag (.int n)
  | float {x : Double} (h : x.toSingle = x) : Inhabits .float (.float x)
  | double (x : Double) : Inhabits .double (.float x)
  | decimal {d : Decimal} (h : d.InReach) : Inhabits .decimalText (.decimal d)
  | date (d : Date) : Inhabits .date (.date d)
  | time (t : TimeOfDay) : Inhabits .time (.time t)
  | dateTime (t : DateTime) : Inhabits .dateTime (.dateTime t)
  | zoned (t : ZonedDateTime) : Inhabits .zonedDateTime (.zoned t)
  | quantity {q : Quantity} (h : q.IsProper) : Inhabits .quantity (.quantity q)

/-- Integral types have between one and 64 bits. -/
theorem le_of_width? {tag : TypeTag} {bits : Nat} (h : tag.width? = some bits) :
    1 ≤ bits ∧ bits ≤ 64 := by
  cases tag <;> simp only [TypeTag.width?, Option.some.injEq, reduceCtorEq] at h <;> omega

/-! ### Numbers -/

/-- The bounds of a width, as powers of two. -/
theorem inWidth_iff {bits : Nat} {n : Int} :
    InWidth bits n ↔ -(2 ^ (bits - 1) : Nat) ≤ n ∧ n < (2 ^ (bits - 1) : Nat) := by
  unfold InWidth signedBounds
  simp only [Nat.pow_eq]
  omega

/-- **The low bits of an integer are an integer of the width.** -/
theorem inWidth_wrap {bits : Nat} (h : 1 ≤ bits) (n : Int) : InWidth bits (wrap bits n) := by
  have hpow : 2 ^ bits = 2 * 2 ^ (bits - 1) := by
    rw [← Nat.pow_succ', Nat.succ_eq_add_one, Nat.sub_add_cancel h]
  have hpos := Nat.two_pow_pos (bits - 1)
  rw [inWidth_iff, wrap, Nat.pow_eq, hpow]
  have hlow := Int.le_bmod (x := n) (m := 2 * 2 ^ (bits - 1)) (by omega)
  have hhigh := Int.bmod_lt (x := n) (m := 2 * 2 ^ (bits - 1)) (by omega)
  omega

/-- What is truncated to a width is in it. -/
theorem inWidth_truncateToWidth {bits : Nat} (h : 1 ≤ bits) (x : Double) :
    InWidth bits (truncateToWidth bits x) := by
  cases x with
  | nan =>
    have := Nat.two_pow_pos (bits - 1)
    rw [truncateToWidth, inWidth_iff]
    omega
  | infinite negative => exact inWidth_wrap h _
  | finite negative x => exact inWidth_wrap h _

/-- An integer that is read is in its width. -/
theorem inWidth_of_parseIntegral {bits : Nat} {text : List Char} {n : Int}
    (h : parseIntegral bits text = .ok n) : InWidth bits n := by
  unfold parseIntegral at h
  split at h
  · split_ifs at h with _ _ hbounds
    obtain rfl := Except.ok.inj h
    exact hbounds
  · cases h

/-- A number that was read for single precision is one of single precision. -/
theorem toSingle_of_parseSingle {text : List Char} {x : Double} (h : parseSingle text = .ok x) :
    x.toSingle = x := by
  unfold parseSingle at h
  cases hparse : parseDouble text with
  | error fault =>
    rw [hparse] at h
    cases h
  | ok y =>
    rw [hparse] at h
    obtain rfl := Except.ok.inj h
    exact y.toSingle_toSingle

/-- Mapping the error changes no result. -/
theorem mapError_eq_ok {ε δ α : Type} {f : ε → δ} {result : Except ε α} {a : α} :
    result.mapError f = .ok a ↔ result = .ok a := by
  cases result <;> simp [Except.mapError]

/-- A value built from what is read in a grammar. -/
def built {α : Type} (result : Except LiteralFault α) (build : α → Value) :
    Except (TypeTag ⊕ ZonedFault) Value :=
  match result with
  | .ok a => .ok (build a)
  | .error fault => .error (.inr (.literal fault))

/-- A value is built from a result, when there is one. -/
theorem built_eq_ok {α : Type} {result : Except LiteralFault α} {build : α → Value} {v : Value} :
    built result build = .ok v ↔ ∃ a, result = .ok a ∧ build a = v := by
  cases result <;> simp [built]

/-- A double is narrowed to an integral type by truncation, and this never fails. -/
theorem narrow_integral {declared : DeclaredType} {bits : Nat}
    (h : declared.tag.width? = some bits) (x : Double) :
    narrow declared x = .ok (.int (truncateToWidth bits x)) := by
  unfold narrow
  generalize declared.tag = tag at h
  cases tag <;> cases h <;> rfl

/-- **What a number narrows to is a value of the tag.** -/
theorem inhabits_of_narrow {declared : DeclaredType} {x : Double} {v : Value}
    (h : narrow declared x = .ok v) : Inhabits declared.tag v := by
  cases hwidth : declared.tag.width? with
  | some bits =>
    rw [narrow_integral hwidth] at h
    obtain rfl := Except.ok.inj h
    exact .integral hwidth (inWidth_truncateToWidth (le_of_width? hwidth).1 x)
  | none =>
    unfold narrow at h
    generalize declared.tag = tag at h hwidth ⊢
    cases tag with
    | byte | short | int | long => cases hwidth
    | float =>
      obtain rfl := Except.ok.inj h
      exact .float x.toSingle_toSingle
    | double =>
      obtain rfl := Except.ok.inj h
      exact .double x
    | decimalText =>
      cases hparse : Decimal.parse x.text with
      | error fault =>
        rw [hparse] at h
        cases h
      | ok d =>
        rw [hparse] at h
        obtain rfl := Except.ok.inj h
        exact .decimal (Decimal.inReach_of_parse hparse)
    | quantity =>
      cases hparse : Quantity.ofDouble x "" with
      | error fault =>
        rw [hparse] at h
        cases h
      | ok q =>
        rw [hparse] at h
        obtain rfl := Except.ok.inj h
        exact .quantity (Quantity.isProper_of_ofDouble hparse)
    | bool | string | date | time | dateTime | zonedDateTime | unsupported => cases h

/-! ### Texts -/

variable [Zone.Directory]

/-- A text is read for a type as its tag reads it. -/
theorem parse_eq_ok {declared : DeclaredType} {text : String} {v : Value} :
    parse declared text = .ok v ↔ parseTag declared.tag text = .ok v := by
  unfold parse
  split <;> simp_all

/-- Every integral type reads its texts in its width. -/
theorem parseTag_integral {tag : TypeTag} {bits : Nat} (h : tag.width? = some bits)
    (text : String) : parseTag tag text = built (parseIntegral bits text.toList) .int := by
  cases tag <;> cases h <;> rfl

theorem parseTag_float (text : String) :
    parseTag .float text = built (parseSingle text.toList) .float := rfl

theorem parseTag_double (text : String) :
    parseTag .double text = built (parseDouble text.toList) .float := rfl

theorem parseTag_decimalText (text : String) :
    parseTag .decimalText text = built ((Decimal.parse text).mapError .number) .decimal := rfl

theorem parseTag_date (text : String) :
    parseTag .date text = built (parseDate text.toList) .date := rfl

theorem parseTag_time (text : String) :
    parseTag .time text = built (parseTime text.toList) .time := rfl

theorem parseTag_dateTime (text : String) :
    parseTag .dateTime text = built (parseDateTime text.toList) .dateTime := rfl

theorem parseTag_quantity (text : String) :
    parseTag .quantity text = built ((Quantity.parse text).mapError .number) .quantity := rfl

/-- **What a text writes is a value of the tag.** -/
theorem inhabits_of_parse {declared : DeclaredType} {text : String} {v : Value}
    (h : parse declared text = .ok v) : Inhabits declared.tag v := by
  rw [parse_eq_ok] at h
  generalize declared.tag = tag at h ⊢
  cases hwidth : tag.width? with
  | some bits =>
    rw [parseTag_integral hwidth] at h
    obtain ⟨n, hn, rfl⟩ := built_eq_ok.1 h
    exact .integral hwidth (inWidth_of_parseIntegral hn)
  | none =>
    unfold parseTag at h
    cases tag with
    | byte | short | int | long => cases hwidth
    | bool =>
      obtain ⟨b, -, rfl⟩ := built_eq_ok.1 h
      exact .bool b
    | float =>
      obtain ⟨x, hx, rfl⟩ := built_eq_ok.1 h
      exact .float (toSingle_of_parseSingle hx)
    | double =>
      obtain ⟨x, -, rfl⟩ := built_eq_ok.1 h
      exact .double x
    | decimalText =>
      obtain ⟨d, hd, rfl⟩ := built_eq_ok.1 h
      exact .decimal (Decimal.inReach_of_parse (mapError_eq_ok.1 hd))
    | date =>
      obtain ⟨d, -, rfl⟩ := built_eq_ok.1 h
      exact .date d
    | time =>
      obtain ⟨t, -, rfl⟩ := built_eq_ok.1 h
      exact .time t
    | dateTime =>
      obtain ⟨t, -, rfl⟩ := built_eq_ok.1 h
      exact .dateTime t
    | zonedDateTime =>
      simp only at h
      split at h
      · obtain rfl := Except.ok.inj h
        exact .zoned _
      · cases h
    | quantity =>
      obtain ⟨q, hq, rfl⟩ := built_eq_ok.1 h
      exact .quantity (Quantity.isProper_of_parse (mapError_eq_ok.1 hq))
    | string | unsupported => cases h

end Literal
end TypedInputs
