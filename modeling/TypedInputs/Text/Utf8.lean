/-
# Texts in UTF-8

A file holds bytes, and the text in it is written in UTF-8. The first byte of a character says how
many bytes follow it, each from 0x80 to 0xbf. The bounds of the next one are closer where a character
could be written shorter or would be none.

Bytes that are no text are refused at the first place, counted from 0, where no character can be read,
with the reason and the bytes there: the first one and those that follow it as they should.
-/

import TypedInputs.Text.Quoted

namespace TypedInputs
namespace Text

/-- The bytes of a text. -/
def encode (s : String) : List UInt8 := s.toList.flatMap String.utf8EncodeChar

/-- Why no character can be read. -/
inductive Utf8Complaint where
  | invalidStart
  | invalidContinuation
  | unexpectedEnd
deriving Repr, DecidableEq

/-- How a complaint is reported. -/
def Utf8Complaint.message : Utf8Complaint → String
  | .invalidStart => "invalid start byte"
  | .invalidContinuation => "invalid continuation byte"
  | .unexpectedEnd => "unexpected end of data"

/-- Bytes that are no character, and the place of the first of them. -/
structure Utf8Fault where
  bytes : List UInt8
  start : Nat
  complaint : Utf8Complaint
deriving Repr, DecidableEq

/-- How a fault is reported: one byte by itself, more by their places. -/
def Utf8Fault.message (e : Utf8Fault) : String :=
  let what :=
    match e.bytes with
    | [byte] =>
      "byte 0x" ++ String.ofList (hexPadded 2 byte.toNat) ++ " in position " ++ toString e.start
    | bytes =>
      "bytes in position " ++ toString e.start ++ "-" ++ toString (e.start + bytes.length - 1)
  "'utf-8' codec can't decode " ++ what ++ ": " ++ e.complaint.message

/-- The bounds of a byte that follows. -/
def followerBounds : Nat × Nat := (0x80, 0xbf)

/-- The bounds of the second of three bytes. Lower ones would write what two bytes do, higher ones a half
of a pair. -/
def secondOfThree (first : Nat) : Nat × Nat :=
  (if first = 0xe0 then 0xa0 else 0x80, if first = 0xed then 0x9f else 0xbf)

/-- The bounds of the second of four bytes. Lower ones would write what three bytes do, higher ones more
than the last code point. -/
def secondOfFour (first : Nat) : Nat × Nat :=
  (if first = 0xf0 then 0x90 else 0x80, if first = 0xf4 then 0x8f else 0xbf)

/-- The bounds of the bytes that follow a first one, if a character starts with it. -/
def followers? (first : Nat) : Option (List (Nat × Nat)) :=
  if first < 0x80 then some []
  else if first < 0xc2 then none
  else if first < 0xe0 then some [followerBounds]
  else if first < 0xf0 then some [secondOfThree first, followerBounds]
  else if first < 0xf5 then some [secondOfFour first, followerBounds, followerBounds]
  else none

/-- The bytes that follow, and the rest. A complaint comes with those that were read before it. -/
def readFollowers : List (Nat × Nat) → List UInt8 →
    Except (List UInt8 × Utf8Complaint) (List UInt8 × List UInt8)
  | [], rest => .ok ([], rest)
  | _ :: _, [] => .error ([], .unexpectedEnd)
  | (low, high) :: bounds, byte :: rest =>
    if low ≤ byte.toNat ∧ byte.toNat ≤ high then
      match readFollowers bounds rest with
      | .ok (read, tail) => .ok (byte :: read, tail)
      | .error (read, complaint) => .error (byte :: read, complaint)
    else .error ([], .invalidContinuation)

/-- The part of a code point that the first byte holds when `n` bytes follow. -/
def leadValue : Nat → Nat → Nat
  | 0, first => first
  | 1, first => first % 32
  | 2, first => first % 16
  | _, first => first % 8

/-- The code point that a first byte and the bytes that follow it write. -/
def codeOfBytes (first : Nat) (followers : List UInt8) : Nat :=
  followers.foldl (fun code byte => 64 * code + byte.toNat % 64) (leadValue followers.length first)

/-- The character that starts with a byte, and what follows it. -/
def readChar (first : UInt8) (rest : List UInt8) :
    Except (List UInt8 × Utf8Complaint) (Char × List UInt8) :=
  match followers? first.toNat with
  | none => .error ([first], .invalidStart)
  | some bounds =>
    match readFollowers bounds rest with
    | .ok (read, tail) => .ok (Char.ofNat (codeOfBytes first.toNat read), tail)
    | .error (read, complaint) => .error (first :: read, complaint)

/-- What is read and what is left are the bytes. -/
theorem append_eq_of_readFollowers {bounds : List (Nat × Nat)} {rest read tail : List UInt8}
    (h : readFollowers bounds rest = .ok (read, tail)) : read ++ tail = rest := by
  induction bounds generalizing rest read with
  | nil =>
    obtain ⟨rfl, rfl⟩ := Prod.mk.inj (Except.ok.inj h)
    rfl
  | cons bound bounds ih =>
    cases rest with
    | nil => cases h
    | cons byte rest =>
      rw [readFollowers] at h
      split at h
      · split at h
        · next hread =>
          obtain ⟨rfl, rfl⟩ := Prod.mk.inj (Except.ok.inj h)
          rw [List.cons_append, ih hread]
        · cases h
      · cases h

/-- Reading a character leaves less than there was. -/
theorem length_le_of_readChar {first : UInt8} {rest tail : List UInt8} {c : Char}
    (h : readChar first rest = .ok (c, tail)) : tail.length ≤ rest.length := by
  unfold readChar at h
  split at h
  · cases h
  · split at h
    · next hread =>
      obtain ⟨-, rfl⟩ := Prod.mk.inj (Except.ok.inj h)
      rw [← append_eq_of_readFollowers hread, List.length_append]
      omega
    · cases h

/-- The characters of bytes, of which the first stands at `place`. -/
def decodeFrom (place : Nat) : List UInt8 → Except Utf8Fault (List Char)
  | [] => .ok []
  | first :: rest =>
    match h : readChar first rest with
    | .ok (c, tail) =>
      (decodeFrom (place + (rest.length + 1 - tail.length)) tail).map (c :: ·)
    | .error (bytes, complaint) => .error ⟨bytes, place, complaint⟩
termination_by bytes => bytes.length
decreasing_by
  have := length_le_of_readChar h
  simp only [List.length_cons]
  omega

/-- The text of bytes. -/
def decode (bytes : List UInt8) : Except Utf8Fault String :=
  (decodeFrom 0 bytes).map String.ofList

end Text
end TypedInputs
