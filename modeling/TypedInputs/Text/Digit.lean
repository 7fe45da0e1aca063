/-
# Decimal digits

A decimal digit is any character of the Unicode category `Nd`: besides `0` to `9` the
Arabic-Indic, Devanagari, fullwidth, mathematical and other digits. They come in runs of ten
consecutive code points, so the whole category is given by the list of its zeros.

| function | reads |
| --- | --- |
| `digitValue?` | one character |
| `spanDigits` | the longest run of digits, maybe empty |
| `takeDigits n` | exactly `n` digits, or nothing |

Digits are kept as their values, most significant first; `ofDigits` is the number they write and
`Nat.toDigits 10` writes it back.
-/

namespace TypedInputs
namespace Text

/-- The zero of each run of ten decimal digits, in ascending order. -/
def digitZeros : List Nat :=
  [0x30, 0x660, 0x6f0, 0x7c0, 0x966, 0x9e6, 0xa66, 0xae6, 0xb66, 0xbe6, 0xc66, 0xce6, 0xd66,
   0xde6, 0xe50, 0xed0, 0xf20, 0x1040, 0x1090, 0x17e0, 0x1810, 0x1946, 0x19d0, 0x1a80, 0x1a90,
   0x1b50, 0x1bb0, 0x1c40, 0x1c50, 0xa620, 0xa8d0, 0xa900, 0xa9d0, 0xa9f0, 0xaa50, 0xabf0,
   0xff10, 0x104a0, 0x10d30, 0x11066, 0x110f0, 0x11136, 0x111d0, 0x112f0, 0x11450, 0x114d0,
   0x11650, 0x116c0, 0x11730, 0x118e0, 0x11950, 0x11c50, 0x11d50, 0x11da0, 0x16a60, 0x16ac0,
   0x16b50, 0x1d7ce, 0x1d7d8, 0x1d7e2, 0x1d7ec, 0x1d7f6, 0x1e140, 0x1e2f0, 0x1e950, 0x1fbf0]

/-- The value of a decimal digit, `none` for any other character. -/
def digitValue? (c : Char) : Option Nat :=
  (digitZeros.find? fun first => decide (first ≤ c.toNat ∧ c.toNat < first + 10)).map (c.toNat - ·)

/-- A character of the category `Nd`. -/
def isDigit (c : Char) : Bool := (digitValue? c).isSome

/-- The value of a digit is below ten. -/
theorem digitValue?_lt {c : Char} {d : Nat} (h : digitValue? c = some d) : d < 10 := by
  unfold digitValue? at h
  obtain ⟨first, hf, rfl⟩ := Option.map_eq_some_iff.1 h
  have := List.find?_some hf
  simp at this
  omega

/-- The number that digit values write, most significant first. -/
def ofDigits (digits : List Nat) : Nat := digits.foldl (10 * · + ·) 0

@[simp] theorem ofDigits_nil : ofDigits [] = 0 := rfl

/-- One more digit makes ten times as much and itself. -/
theorem ofDigits_concat (digits : List Nat) (d : Nat) :
    ofDigits (digits ++ [d]) = 10 * ofDigits digits + d := by
  simp [ofDigits]

/-- The longest run of digits at the start of a text, and what follows it. -/
def spanDigits : List Char → List Nat × List Char
  | [] => ([], [])
  | c :: rest =>
    match digitValue? c with
    | some d => (d :: (spanDigits rest).1, (spanDigits rest).2)
    | none => ([], c :: rest)

/-- Exactly `n` digits at the start of a text, and what follows them. -/
def takeDigits : Nat → List Char → Option (List Nat × List Char)
  | 0, rest => some ([], rest)
  | _ + 1, [] => none
  | n + 1, c :: rest =>
    match digitValue? c with
    | some d => (takeDigits n rest).map fun (digits, tail) => (d :: digits, tail)
    | none => none

/-- As many digits are taken as are asked for. -/
theorem length_of_takeDigits {n : Nat} {text rest : List Char} {digits : List Nat}
    (h : takeDigits n text = some (digits, rest)) : digits.length = n := by
  induction n generalizing text digits with
  | zero => simp [takeDigits] at h; simp [← h.1]
  | succ n ih =>
    cases text with
    | nil => simp [takeDigits] at h
    | cons c text =>
      simp only [takeDigits] at h
      split at h
      · obtain ⟨⟨ds, tail⟩, hd, he⟩ := Option.map_eq_some_iff.1 h
        cases he
        simp [ih hd]
      · simp at h

/-- `n` in ASCII digits, padded with zeros on the left to `width` characters. -/
def padded (width n : Nat) : List Char := (Nat.toDigits 10 n).leftpad width '0'

end Text
end TypedInputs
