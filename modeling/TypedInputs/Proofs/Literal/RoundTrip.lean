/-
# Canonical text is a literal

Every value of a tag has a canonical text, and for every tag but one this text is a literal of the
type again, with the same value (`roundTrips_of_inhabits`). The exception are dates with a zone, of
which the stable ones come back (`roundTrips_of_isStable`).

Nothing is compared up to rounding or representation: decimals keep sign, coefficient and exponent,
times their microseconds, doubles the sign of zero, and NaN comes back as NaN.
-/

import Mathlib
import TypedInputs.Proofs.Literal.Floating
import TypedInputs.Proofs.Literal.Integers
import TypedInputs.Proofs.Literal.Zoned

namespace TypedInputs
namespace Literal

open Number Calendar Text

/-! ### Integers -/

/-- An integer is written as its sign and the digits of its magnitude. -/
theorem toList_toString (n : Int) :
    (toString n).toList = Double.signText (decide (n < 0)) ++ Nat.toDigits 10 n.natAbs := by
  cases n with
  | ofNat m => simp [toString, Int.repr, Nat.repr, Double.signText]
  | negSucc m => simp [toString, Int.repr, Nat.repr, Double.signText]

/-- An integer within the limit on digits has a text. -/
theorem integerText?_of_lt {n : Int} (h : n.natAbs < 10 ^ maxIntegerDigits) :
    integerText? n = some (toString n) := by
  rw [integerText?, Nat.pow_eq, if_pos h]

/-- An integer beyond the limit on digits has no text. -/
theorem integerText?_of_le {n : Int} (h : 10 ^ maxIntegerDigits ≤ n.natAbs) :
    integerText? n = none := by
  rw [integerText?, Nat.pow_eq, if_neg (Nat.not_lt.2 h)]

/-- The text of an integer is in the grammar of integers, with its value and its digits. -/
theorem isInteger_toString (n : Int) :
    ∃ written, IsInteger (toString n).toList written ∧ written.value = n ∧
      written.digits.length = (Nat.toDigits 10 n.natAbs).length := by
  refine ⟨⟨decide (n < 0), decimalDigits n.natAbs⟩, ?_, ?_, ?_⟩
  · rw [toList_toString]
    exact .mk (Double.isSign_signText _) (spells_toDigits _) Nat.toDigits_ne_nil
  · simp only [SignedDigits.value, ofDigits_decimalDigits, decide_eq_true_eq]
    split_ifs <;> omega
  · exact (spells_toDigits _).length_eq.symm

/-- **An integer is read back from its text** when it is of the width. -/
theorem parseIntegral_toString {bits : Nat} {n : Int} (h : n.natAbs < 10 ^ maxIntegerDigits) :
    parseIntegral bits (toString n).toList =
      if InWidth bits n then .ok n else .error (.outOfRange bits) := by
  obtain ⟨written, hwritten, rfl, hdigits⟩ := isInteger_toString n
  have hline : IsIntegerLine (toString written.value).toList written := ⟨_, .inl rfl, hwritten⟩
  have hshort := length_toDigits_le (by decide) h
  rw [hline.parseIntegral_eq, if_neg (by omega)]

/-! ### Values of a tag -/

/-- An integer of one of the widths has few enough digits to be written. -/
theorem natAbs_lt_of_inWidth {tag : TypeTag} {bits : Nat} (hwidth : tag.width? = some bits)
    {n : Int} (h : InWidth bits n) : n.natAbs < 10 ^ maxIntegerDigits := by
  have hbits := (le_of_width? hwidth).2
  have hpow : 2 ^ (bits - 1) ≤ 2 ^ 63 := Nat.pow_le_pow_right Nat.two_pos (by omega)
  have hlong : 10 ^ 20 ≤ 10 ^ maxIntegerDigits := Nat.pow_le_pow_right (by decide) (by decide)
  rw [inWidth_iff] at h
  generalize 10 ^ maxIntegerDigits = limit at *
  omega

/-- All integral types are formatted alike. -/
theorem format_integral {tag : TypeTag} {bits : Nat} (h : tag.width? = some bits) (n : Int) :
    format tag (.int n) = (integerText? n).elim (.error .integerTooLong) .ok := by
  cases tag <;> cases h <;> rfl

/-- The text of a date with a zone. -/
theorem format_zoned (t : ZonedDateTime) :
    format .zonedDateTime (.zoned t) = .ok (String.ofList (t.toChars ++ zoneChars t.zone)) := by
  show Except.ok (t.text ++ (t.zone.map fun name => "[" ++ name ++ "]").getD "") = _
  refine congrArg Except.ok (String.toList_inj.1 ?_)
  rw [String.toList_append, String.toList_ofList, ZonedDateTime.text, String.toList_ofList]
  cases t.zone with
  | none => rfl
  | some name => simp [zoneChars]

/-- **Every value of a tag has a canonical text.** -/
theorem exists_format_of_inhabits {tag : TypeTag} {v : Value} (h : Inhabits tag v) :
    ∃ text, format tag v = .ok text := by
  cases h with
  | integral hwidth h =>
    rw [format_integral hwidth, integerText?_of_lt (natAbs_lt_of_inWidth hwidth h)]
    exact ⟨_, rfl⟩
  | zoned t => exact ⟨_, format_zoned t⟩
  | bool | float | double | decimal | date | time | dateTime | quantity => exact ⟨_, rfl⟩

section

variable [Zone.Directory]

/-- A value whose canonical text is a literal of the type with this value. -/
def RoundTrips (declared : DeclaredType) (v : Value) : Prop :=
  ∃ text, format declared.tag v = .ok text ∧ parse declared text = .ok v

/-- **The canonical text of a value is a literal with this value,** except for dates with a zone. -/
theorem roundTrips_of_inhabits {declared : DeclaredType} {v : Value}
    (h : Inhabits declared.tag v) (hzone : declared.tag ≠ .zonedDateTime) :
    RoundTrips declared v := by
  obtain ⟨identifier, tag, primitive⟩ := declared
  unfold RoundTrips
  simp only [parse_eq_ok] at h hzone ⊢
  cases h with
  | bool b => cases b <;> exact ⟨_, rfl, rfl⟩
  | @integral _ bits n hwidth h =>
    have hlength := natAbs_lt_of_inWidth hwidth h
    refine ⟨toString n, ?_, ?_⟩
    · rw [format_integral hwidth, integerText?_of_lt hlength]
      rfl
    · rw [parseTag_integral hwidth, parseIntegral_toString hlength, if_pos h]
      rfl
  | @float x h =>
    refine ⟨formatDouble x, rfl, ?_⟩
    rw [parseTag_float, parseSingle, parseDouble_formatDouble]
    exact congrArg (fun y => Except.ok (Value.float y)) h
  | double x =>
    refine ⟨formatDouble x, rfl, ?_⟩
    rw [parseTag_double, parseDouble_formatDouble]
    rfl
  | @decimal d h =>
    refine ⟨d.text, rfl, ?_⟩
    rw [parseTag_decimalText, Decimal.parse_text_of_inReach h]
    rfl
  | date d =>
    refine ⟨d.text, rfl, ?_⟩
    rw [parseTag_date, Date.text, String.toList_ofList, parseDate_toChars]
    rfl
  | time t =>
    refine ⟨t.text, rfl, ?_⟩
    rw [parseTag_time, TimeOfDay.text, String.toList_ofList, parseTime_toChars]
    rfl
  | dateTime t =>
    refine ⟨t.text, rfl, ?_⟩
    rw [parseTag_dateTime, DateTime.text, String.toList_ofList, parseDateTime_toChars]
    rfl
  | zoned t => exact absurd rfl hzone
  | @quantity q h =>
    refine ⟨q.text, rfl, ?_⟩
    rw [parseTag_quantity, Quantity.parse_text_of_isProper h]
    rfl

/-- **The canonical text of a stable date with a zone is a literal with this value.** -/
theorem roundTrips_of_isStable {declared : DeclaredType} (htag : declared.tag = .zonedDateTime)
    {t : ZonedDateTime} (h : IsStable t) : RoundTrips declared (.zoned t) := by
  unfold RoundTrips
  rw [htag]
  refine ⟨_, format_zoned t, ?_⟩
  rw [parse_eq_ok, htag]
  simp only [parseTag, String.toList_ofList, ZonedDateTime.toChars,
    parseZoned_chars t.wall h.natAbs_offset_le h.isBracketable, h.atOffset_eq]

/-- What a steady text writes comes back. -/
theorem roundTrips_of_parse {declared : DeclaredType} {text : String} {v : Value}
    (hsteady : declared.tag = .zonedDateTime → IsSteady text)
    (h : parse declared text = .ok v) : RoundTrips declared v := by
  by_cases htag : declared.tag = .zonedDateTime
  · rw [parse_eq_ok, htag] at h
    simp only [parseTag] at h
    split at h
    · rename_i t ht
      obtain rfl := Except.ok.inj h
      exact roundTrips_of_isStable htag (isStable_of_parseZoned (hsteady htag) ht)
    · cases h
  · exact roundTrips_of_inhabits (inhabits_of_parse h) htag

end

/-! ### The round trips -/

/-- The tags whose grammars write every value exactly. -/
def IsExact : TypeTag → Prop
  | .bool | .byte | .short | .int | .long | .decimalText | .date | .time | .dateTime
  | .quantity => True
  | .float | .double | .string | .zonedDateTime | .unsupported => False

/-- **Canonical text round-trips for the exact grammars.** A value that a text writes or that a
number narrows to has a canonical text, this text is a literal with this very value, and what it is
read as has the same canonical text again. -/
theorem parse_format_exact [Zone.Directory] {declared : DeclaredType} {v : Value}
    (htag : IsExact declared.tag)
    (h : (∃ text, parse declared text = .ok v) ∨ ∃ x, narrow declared x = .ok v) :
    ∃ text, format declared.tag v = .ok text ∧ parse declared text = .ok v ∧
      ∀ w, parse declared text = .ok w → format declared.tag w = .ok text := by
  have hinhabits : Inhabits declared.tag v := by
    rcases h with ⟨text, htext⟩ | ⟨x, hx⟩
    · exact inhabits_of_parse htext
    · exact inhabits_of_narrow hx
  have hzone : declared.tag ≠ .zonedDateTime := fun heq => by rwa [heq] at htag
  obtain ⟨text, hformat, hparse⟩ := roundTrips_of_inhabits hinhabits hzone
  refine ⟨text, hformat, hparse, fun w hw => ?_⟩
  rw [hparse] at hw
  rwa [← Except.ok.inj hw]

/-- The coefficient of a quantity keeps its zero at the end. -/
theorem parse_format_exact_quantity :
    IsExact (DeclaredType.ofIdentifier "QuantityType").tag ∧
      parse (.ofIdentifier "QuantityType") " -1.50e3 kWh" =
        .ok (.quantity ⟨⟨true, 150, 1⟩, "kWh"⟩) ∧
      ∃ text, format .quantity (.quantity ⟨⟨true, 150, 1⟩, "kWh"⟩) = .ok text ∧
        parse (.ofIdentifier "QuantityType") text = .ok (.quantity ⟨⟨true, 150, 1⟩, "kWh"⟩) := by
  have hparse : parse (.ofIdentifier "QuantityType") " -1.50e3 kWh" =
      .ok (.quantity ⟨⟨true, 150, 1⟩, "kWh"⟩) := rfl
  obtain ⟨text, hformat, hagain, -⟩ :=
    @parse_format_exact _ (.ofIdentifier "QuantityType") _ trivial (.inl ⟨_, hparse⟩)
  exact ⟨trivial, hparse, text, hformat, hagain⟩

/-- The values of a floating point type are the doubles in its precision. -/
theorem exists_of_inhabits_floating {tag : TypeTag} {v : Value} (htag : IsFloatingTag tag)
    (h : Inhabits tag v) :
    ∃ x, v = .float x ∧ inPrecision tag x = x ∧ format tag v = .ok (formatDouble x) := by
  rcases htag with rfl | rfl
  · cases h with
    | integral hwidth => cases hwidth
    | @float x h => exact ⟨x, rfl, h, rfl⟩
  · cases h with
    | integral hwidth => cases hwidth
    | double x => exact ⟨x, rfl, rfl, rfl⟩

/-- **Floating point values survive their canonical text.** A value that a text writes or that a
number narrows to is a double in the precision of the type. Its canonical text is that of the double,
which is read back from it, and in the precision of the type it is this very double once more. -/
theorem parse_format_floating [Zone.Directory] {declared : DeclaredType} {v : Value}
    (htag : IsFloatingTag declared.tag)
    (h : (∃ text, parse declared text = .ok v) ∨ ∃ x, narrow declared x = .ok v) :
    ∃ x, v = .float x ∧ format declared.tag v = .ok (formatDouble x) ∧
      parse declared (formatDouble x) = .ok v ∧ parseDouble (formatDouble x).toList = .ok x ∧
        inPrecision declared.tag x = x := by
  have hinhabits : Inhabits declared.tag v :=
    h.elim (fun ⟨_, htext⟩ => inhabits_of_parse htext) fun ⟨_, hx⟩ => inhabits_of_narrow hx
  obtain ⟨x, rfl, hprecise, hformat⟩ := exists_of_inhabits_floating htag hinhabits
  have hread := parseDouble_formatDouble x
  refine ⟨x, rfl, hformat, ?_, hread, hprecise⟩
  rw [parse_of_isFloatingTag htag, hread]
  simp only [hprecise]

/-- A number between zero and the least one of single precision narrows once and for all. -/
theorem parse_format_floating_least :
    IsFloatingTag (DeclaredType.ofIdentifier "float").tag ∧
      parse (.ofIdentifier "float") "-1e-45f" =
        .ok (.float (Double.ofNumeral ⟨true, [1], [], -45⟩).toSingle) ∧
      parse (.ofIdentifier "float")
          (formatDouble (Double.ofNumeral ⟨true, [1], [], -45⟩).toSingle) =
        .ok (.float (Double.ofNumeral ⟨true, [1], [], -45⟩).toSingle) := by
  have htag : IsFloatingTag (DeclaredType.ofIdentifier "float").tag := .inl rfl
  have hparse : parse (.ofIdentifier "float") "-1e-45f" =
      .ok (.float (Double.ofNumeral ⟨true, [1], [], -45⟩).toSingle) := rfl
  obtain ⟨x, hx, -, hagain, -⟩ := parse_format_floating htag (.inl ⟨_, hparse⟩)
  rw [← Value.float.inj hx] at hagain
  exact ⟨htag, hparse, hagain⟩

/-- **Dates with a zone round-trip.** A date that a text writes has a canonical text, and this text
is a literal with the same wall clock to the microsecond, the same offset and the same zone name, if
the zone that the first text names has at most one transition within three days of its date. -/
theorem parse_format_zoned [Zone.Directory] {declared : DeclaredType} {text : String} {v : Value}
    (htag : declared.tag = .zonedDateTime) (hsteady : IsSteady text)
    (h : parse declared text = .ok v) :
    ∃ again, format .zonedDateTime v = .ok again ∧ parse declared again = .ok v := by
  have hround := roundTrips_of_parse (fun _ => hsteady) h
  rwa [RoundTrips, htag] at hround

/-- A date in a gap, moved by half an hour. -/
def movedDate : ZonedDateTime :=
  ⟨⟨⟨2018, 5, 5, by decide⟩, ⟨0, 15, 0, 0, by decide⟩⟩, 32400, some "Asia/Pyongyang"⟩

set_option maxRecDepth 20000 in
/-- The date of a text in a gap was moved and stays where it is. -/
theorem parse_format_zoned_gap :
    IsSteady "2018-05-04T23:45:00+08:30[asia/pyongyang]" ∧
      parse (.ofIdentifier "ZonedDateTime") "2018-05-04T23:45:00+08:30[asia/pyongyang]" =
        .ok (.zoned movedDate) ∧
      ∃ again, format .zonedDateTime (.zoned movedDate) = .ok again ∧
        parse (.ofIdentifier "ZonedDateTime") again = .ok (.zoned movedDate) := by
  have hsteady : IsSteady "2018-05-04T23:45:00+08:30[asia/pyongyang]" := by decide +kernel
  have hparse : parse (.ofIdentifier "ZonedDateTime")
      "2018-05-04T23:45:00+08:30[asia/pyongyang]" = .ok (.zoned movedDate) := by cbv
  exact ⟨hsteady, hparse, parse_format_zoned rfl hsteady hparse⟩

end Literal
end TypedInputs
