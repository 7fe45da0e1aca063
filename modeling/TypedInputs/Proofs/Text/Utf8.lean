/-
# Texts in UTF-8 are read back

A character is stored in one to four bytes, laid out by its code point (`layout`). What reads a character
reads exactly these bytes: it finds the character in front of whatever follows
(`exists_readChar_utf8EncodeChar`), and what it has read are the bytes of the character that it found
(`cons_eq_of_readChar`). So bytes decode to a text exactly when they are its bytes (`decode_eq_ok_iff`).
A fault stands behind a text that is right (`exists_of_decode_eq_error`).
-/

import Mathlib.Data.List.Basic
import Mathlib.Tactic.SplitIfs
import TypedInputs.Text.Utf8

namespace TypedInputs
namespace Text

/-! ### One character -/

/-- The bytes of the character with a code point. -/
def layout (n : Nat) : List Nat :=
  if n < 0x80 then [n]
  else if n < 0x800 then [n / 64 + 0xc0, n % 64 + 0x80]
  else if n < 0x10000 then [n / 4096 + 0xe0, n / 64 % 64 + 0x80, n % 64 + 0x80]
  else [n / 262144 + 0xf0, n / 4096 % 64 + 0x80, n / 64 % 64 + 0x80, n % 64 + 0x80]

/-- A character is stored in the layout of its code point. -/
theorem map_toNat_utf8EncodeChar (c : Char) :
    (String.utf8EncodeChar c).map UInt8.toNat = layout c.toNat := by
  have hvalid : c.toNat < 0xd800 ∨ 0xdfff < c.toNat ∧ c.toNat < 0x110000 := c.valid
  have hc : c.val.toNat = c.toNat := rfl
  rw [String.utf8EncodeChar.eq_1, hc, layout]
  split_ifs <;> first | omega | (simp; omega)

/-- Bytes in the layout of a code point are those of its character. -/
theorem eq_utf8EncodeChar {n : Nat} {bytes : List UInt8} (hvalid : n.isValidChar)
    (h : bytes.map UInt8.toNat = layout n) : bytes = String.utf8EncodeChar (Char.ofNat n) := by
  have hn : (Char.ofNat n).toNat = n := by
    rw [Char.ofNat, dif_pos hvalid]
    rfl
  rw [← hn, ← map_toNat_utf8EncodeChar] at h
  exact List.map_injective_iff.2 (fun _ _ => UInt8.toNat_inj.1) h

/-- A byte between its bounds is read. -/
theorem readFollowers_cons {bound : Nat × Nat} {bounds : List (Nat × Nat)} {byte : UInt8}
    {rest read tail : List UInt8} (hbound : bound.1 ≤ byte.toNat ∧ byte.toNat ≤ bound.2)
    (h : readFollowers bounds rest = .ok (read, tail)) :
    readFollowers (bound :: bounds) (byte :: rest) = .ok (byte :: read, tail) := by
  rw [readFollowers, if_pos hbound, h]

/-- A byte that was read is between its bounds. -/
theorem exists_of_readFollowers_cons {bound : Nat × Nat} {bounds : List (Nat × Nat)}
    {rest read tail : List UInt8} (h : readFollowers (bound :: bounds) rest = .ok (read, tail)) :
    ∃ byte rest' read', rest = byte :: rest' ∧ read = byte :: read' ∧
      (bound.1 ≤ byte.toNat ∧ byte.toNat ≤ bound.2) ∧
      readFollowers bounds rest' = .ok (read', tail) := by
  cases rest with
  | nil => cases h
  | cons byte rest =>
    rw [readFollowers] at h
    split at h
    · next hbound =>
      split at h
      · next hread =>
        obtain ⟨rfl, rfl⟩ := Prod.mk.inj (Except.ok.inj h)
        exact ⟨byte, rest, _, rfl, rfl, hbound, hread⟩
      · cases h
    · cases h

/-- Two bytes write five bits and six. -/
theorem codeOfBytes_two (first : Nat) (second : UInt8) :
    codeOfBytes first [second] = 64 * (first % 32) + second.toNat % 64 := rfl

/-- Three bytes write four bits and six each. -/
theorem codeOfBytes_three (first : Nat) (second third : UInt8) :
    codeOfBytes first [second, third] =
      64 * (64 * (first % 16) + second.toNat % 64) + third.toNat % 64 := rfl

/-- Four bytes write three bits and six each. -/
theorem codeOfBytes_four (first : Nat) (second third fourth : UInt8) :
    codeOfBytes first [second, third, fourth] =
      64 * (64 * (64 * (first % 8) + second.toNat % 64) + third.toNat % 64) +
        fourth.toNat % 64 := rfl

/-- What the second of three bytes may be. -/
theorem secondOfThree_iff {first second : Nat} :
    (secondOfThree first).1 ≤ second ∧ second ≤ (secondOfThree first).2 ↔
      (0x80 ≤ second ∧ second ≤ 0xbf) ∧ (first = 0xe0 → 0xa0 ≤ second) ∧
        (first = 0xed → second ≤ 0x9f) := by
  dsimp only [secondOfThree]
  split_ifs <;> omega

/-- What the second of four bytes may be. -/
theorem secondOfFour_iff {first second : Nat} :
    (secondOfFour first).1 ≤ second ∧ second ≤ (secondOfFour first).2 ↔
      (0x80 ≤ second ∧ second ≤ 0xbf) ∧ (first = 0xf0 → 0x90 ≤ second) ∧
        (first = 0xf4 → second ≤ 0x8f) := by
  dsimp only [secondOfFour]
  split_ifs <;> omega

/-- A character is read from a first byte and the bytes between the bounds that it sets. -/
theorem readChar_eq_ok_iff {first : UInt8} {rest tail : List UInt8} {c : Char} :
    readChar first rest = .ok (c, tail) ↔ ∃ bounds read, followers? first.toNat = some bounds ∧
      readFollowers bounds rest = .ok (read, tail) ∧ Char.ofNat (codeOfBytes first.toNat read) = c := by
  unfold readChar
  cases hbounds : followers? first.toNat with
  | none => simp
  | some bounds =>
    rcases hread : readFollowers bounds rest with ⟨read, complaint⟩ | ⟨read, rest⟩
    · simp [hread]
    · simp [hread, and_comm]

/-- **A character is read from its bytes,** whatever follows them. -/
theorem exists_readChar_utf8EncodeChar (c : Char) (rest : List UInt8) :
    ∃ first followers, String.utf8EncodeChar c = first :: followers ∧
      readChar first (followers ++ rest) = .ok (c, rest) := by
  have hvalid : c.toNat < 0xd800 ∨ 0xdfff < c.toNat ∧ c.toNat < 0x110000 := c.valid
  have hlayout := map_toNat_utf8EncodeChar c
  have hnil : readFollowers [] rest = .ok ([], rest) := rfl
  have hchar : ∀ n, n = c.toNat → Char.ofNat n = c := fun n hn => by rw [hn, Char.ofNat_toNat]
  unfold layout at hlayout
  -- One case for each length. The bounds of the code point give those of the bytes.
  split_ifs at hlayout with h1 h2 h3
  · obtain ⟨first, _, hc, hfirst, hlast⟩ := List.map_eq_cons_iff.1 hlayout
    obtain rfl := List.map_eq_nil_iff.1 hlast
    refine ⟨first, [], hc, readChar_eq_ok_iff.2 ⟨[], [], ?_, hnil, hchar _ hfirst⟩⟩
    rw [followers?, if_pos (by omega)]
  · obtain ⟨first, _, hc, hfirst, hrest⟩ := List.map_eq_cons_iff.1 hlayout
    obtain ⟨second, _, rfl, hsecond, hlast⟩ := List.map_eq_cons_iff.1 hrest
    obtain rfl := List.map_eq_nil_iff.1 hlast
    refine ⟨first, [second], hc, readChar_eq_ok_iff.2 ⟨[followerBounds], [second], ?_,
      readFollowers_cons ?_ hnil, hchar _ ?_⟩⟩
    · rw [followers?, if_neg (by omega), if_neg (by omega), if_pos (by omega)]
    · dsimp only [followerBounds]
      omega
    · rw [codeOfBytes_two]
      omega
  · obtain ⟨first, _, hc, hfirst, hrest⟩ := List.map_eq_cons_iff.1 hlayout
    obtain ⟨second, _, rfl, hsecond, hrest⟩ := List.map_eq_cons_iff.1 hrest
    obtain ⟨third, _, rfl, hthird, hlast⟩ := List.map_eq_cons_iff.1 hrest
    obtain rfl := List.map_eq_nil_iff.1 hlast
    refine ⟨first, [second, third], hc, readChar_eq_ok_iff.2
      ⟨[secondOfThree first.toNat, followerBounds], [second, third], ?_,
        readFollowers_cons ?_ (readFollowers_cons ?_ hnil), hchar _ ?_⟩⟩
    · rw [followers?, if_neg (by omega), if_neg (by omega), if_neg (by omega), if_pos (by omega)]
    · exact secondOfThree_iff.2 (by omega)
    · dsimp only [followerBounds]
      omega
    · rw [codeOfBytes_three]
      omega
  · obtain ⟨first, _, hc, hfirst, hrest⟩ := List.map_eq_cons_iff.1 hlayout
    obtain ⟨second, _, rfl, hsecond, hrest⟩ := List.map_eq_cons_iff.1 hrest
    obtain ⟨third, _, rfl, hthird, hrest⟩ := List.map_eq_cons_iff.1 hrest
    obtain ⟨fourth, _, rfl, hfourth, hlast⟩ := List.map_eq_cons_iff.1 hrest
    obtain rfl := List.map_eq_nil_iff.1 hlast
    refine ⟨first, [second, third, fourth], hc, readChar_eq_ok_iff.2
      ⟨[secondOfFour first.toNat, followerBounds, followerBounds], [second, third, fourth], ?_,
        readFollowers_cons ?_ (readFollowers_cons ?_ (readFollowers_cons ?_ hnil)), hchar _ ?_⟩⟩
    · rw [followers?, if_neg (by omega), if_neg (by omega), if_neg (by omega), if_neg (by omega),
        if_pos (by omega)]
    · exact secondOfFour_iff.2 (by omega)
    · dsimp only [followerBounds]
      omega
    · dsimp only [followerBounds]
      omega
    · rw [codeOfBytes_four]
      omega

/-- **What is read is laid out** by the code point that it writes, which is one of a character. -/
theorem layout_codeOfBytes {first : UInt8} {bounds : List (Nat × Nat)} {rest read tail : List UInt8}
    (hbounds : followers? first.toNat = some bounds)
    (hread : readFollowers bounds rest = .ok (read, tail)) :
    (codeOfBytes first.toNat read).isValidChar ∧
      (first :: read).map UInt8.toNat = layout (codeOfBytes first.toNat read) := by
  have hfirst := first.toNat_lt
  unfold followers? at hbounds
  -- The closer bounds of a second byte keep the code point out of the shorter layouts and the halves.
  split_ifs at hbounds with h1 h2 h3 h4 h5
  · obtain rfl := Option.some.inj hbounds
    obtain ⟨rfl, -⟩ := Prod.mk.inj (Except.ok.inj hread)
    have hcode : codeOfBytes first.toNat [] = first.toNat := rfl
    rw [hcode]
    refine ⟨.inl (by omega), ?_⟩
    rw [layout, if_pos h1]
    rfl
  · obtain rfl := Option.some.inj hbounds
    obtain ⟨second, rest, read, rfl, rfl, hsecond, hread⟩ := exists_of_readFollowers_cons hread
    obtain ⟨rfl, -⟩ := Prod.mk.inj (Except.ok.inj hread)
    dsimp only [followerBounds] at hsecond
    rw [codeOfBytes_two]
    refine ⟨.inl (by omega), ?_⟩
    rw [layout, if_neg (by omega), if_pos (by omega)]
    simp only [List.map_cons, List.map_nil, List.cons.injEq, and_true]
    omega
  · obtain rfl := Option.some.inj hbounds
    obtain ⟨second, rest, read, rfl, rfl, hsecond, hread⟩ := exists_of_readFollowers_cons hread
    obtain ⟨third, rest, read, rfl, rfl, hthird, hread⟩ := exists_of_readFollowers_cons hread
    obtain ⟨rfl, -⟩ := Prod.mk.inj (Except.ok.inj hread)
    dsimp only [followerBounds] at hthird
    have hsecond := secondOfThree_iff.1 hsecond
    rw [codeOfBytes_three, Nat.isValidChar]
    refine ⟨by omega, ?_⟩
    rw [layout, if_neg (by omega), if_neg (by omega), if_pos (by omega)]
    simp only [List.map_cons, List.map_nil, List.cons.injEq, and_true]
    omega
  · obtain rfl := Option.some.inj hbounds
    obtain ⟨second, rest, read, rfl, rfl, hsecond, hread⟩ := exists_of_readFollowers_cons hread
    obtain ⟨third, rest, read, rfl, rfl, hthird, hread⟩ := exists_of_readFollowers_cons hread
    obtain ⟨fourth, rest, read, rfl, rfl, hfourth, hread⟩ := exists_of_readFollowers_cons hread
    obtain ⟨rfl, -⟩ := Prod.mk.inj (Except.ok.inj hread)
    dsimp only [followerBounds] at hthird hfourth
    have hsecond := secondOfFour_iff.1 hsecond
    rw [codeOfBytes_four, Nat.isValidChar]
    refine ⟨by omega, ?_⟩
    rw [layout, if_neg (by omega), if_neg (by omega), if_neg (by omega)]
    simp only [List.map_cons, List.map_nil, List.cons.injEq, and_true]
    omega

/-- **What is read are the bytes of the character that is found.** -/
theorem cons_eq_of_readChar {first : UInt8} {rest tail : List UInt8} {c : Char}
    (h : readChar first rest = .ok (c, tail)) : first :: rest = String.utf8EncodeChar c ++ tail := by
  obtain ⟨bounds, read, hbounds, hread, rfl⟩ := readChar_eq_ok_iff.1 h
  obtain ⟨hvalid, hlayout⟩ := layout_codeOfBytes hbounds hread
  rw [← eq_utf8EncodeChar hvalid hlayout, List.cons_append, append_eq_of_readFollowers hread]

/-- The followers that were right before a complaint stand at the start of the bytes. -/
theorem prefix_of_readFollowers {bounds : List (Nat × Nat)} {rest read : List UInt8}
    {complaint : Utf8Complaint} (h : readFollowers bounds rest = .error (read, complaint)) :
    read <+: rest := by
  induction bounds generalizing rest read with
  | nil => cases h
  | cons bound bounds ih =>
    cases rest with
    | nil =>
      obtain ⟨rfl, -⟩ := Prod.mk.inj (Except.error.inj h)
      exact List.nil_prefix
    | cons byte rest =>
      rw [readFollowers] at h
      split at h
      · split at h
        · cases h
        · next hread =>
          obtain ⟨rfl, rfl⟩ := Prod.mk.inj (Except.error.inj h)
          exact List.cons_prefix_cons.2 ⟨rfl, ih hread⟩
      · obtain ⟨rfl, -⟩ := Prod.mk.inj (Except.error.inj h)
        exact List.nil_prefix

/-- Where no character is read, the first byte and what was right behind it are refused. -/
theorem prefix_of_readChar {first : UInt8} {rest bytes : List UInt8} {complaint : Utf8Complaint}
    (h : readChar first rest = .error (bytes, complaint)) : bytes ≠ [] ∧ bytes <+: first :: rest := by
  unfold readChar at h
  split at h
  · obtain ⟨rfl, -⟩ := Prod.mk.inj (Except.error.inj h)
    exact ⟨List.cons_ne_nil _ _, List.cons_prefix_cons.2 ⟨rfl, List.nil_prefix⟩⟩
  · split at h
    · cases h
    · next hread =>
      obtain ⟨rfl, -⟩ := Prod.mk.inj (Except.error.inj h)
      exact ⟨List.cons_ne_nil _ _, List.cons_prefix_cons.2 ⟨rfl, prefix_of_readFollowers hread⟩⟩

/-! ### Texts -/

/-- Behind a character that is read, decoding goes on at the place that follows. -/
theorem decodeFrom_of_readChar {place : Nat} {first : UInt8} {rest tail : List UInt8} {c : Char}
    (h : readChar first rest = .ok (c, tail)) : decodeFrom place (first :: rest) =
      (decodeFrom (place + (rest.length + 1 - tail.length)) tail).map (c :: ·) := by
  rw [decodeFrom]
  split
  · next hread =>
    obtain ⟨rfl, rfl⟩ := Prod.mk.inj (Except.ok.inj (hread.symm.trans h))
    rfl
  · next hread => cases hread.symm.trans h

/-- Where no character is read, decoding ends. -/
theorem decodeFrom_of_readChar_error {place : Nat} {first : UInt8} {rest bytes : List UInt8}
    {complaint : Utf8Complaint} (h : readChar first rest = .error (bytes, complaint)) :
    decodeFrom place (first :: rest) = .error ⟨bytes, place, complaint⟩ := by
  rw [decodeFrom]
  split
  · next hread => cases hread.symm.trans h
  · next hread =>
    obtain ⟨rfl, rfl⟩ := Prod.mk.inj (Except.error.inj (hread.symm.trans h))
    rfl

/-- The bytes of characters are decoded to them, one character after the other. -/
theorem decodeFrom_flatMap (text : List Char) (place : Nat) :
    decodeFrom place (text.flatMap String.utf8EncodeChar) = .ok text := by
  induction text generalizing place with
  | nil => rw [List.flatMap_nil, decodeFrom]
  | cons c text ih =>
    obtain ⟨first, followers, hc, hread⟩ :=
      exists_readChar_utf8EncodeChar c (text.flatMap String.utf8EncodeChar)
    rw [List.flatMap_cons, hc, List.cons_append, decodeFrom_of_readChar hread, ih]
    rfl

/-- Bytes that decode to characters are theirs. -/
theorem eq_flatMap_of_decodeFrom {place : Nat} {bytes : List UInt8} {text : List Char}
    (h : decodeFrom place bytes = .ok text) : bytes = text.flatMap String.utf8EncodeChar := by
  induction place, bytes using decodeFrom.induct generalizing text with
  | case1 place =>
    rw [decodeFrom] at h
    obtain rfl := Except.ok.inj h
    rfl
  | case2 place first rest c tail hread ih =>
    rw [decodeFrom_of_readChar hread] at h
    cases htext : decodeFrom (place + (rest.length + 1 - tail.length)) tail with
    | error e =>
      rw [htext] at h
      cases h
    | ok text =>
      rw [htext] at h
      obtain rfl := Except.ok.inj h
      rw [cons_eq_of_readChar hread, ih htext, List.flatMap_cons]
  | case3 place first rest bytes complaint hread =>
    rw [decodeFrom_of_readChar_error hread] at h
    cases h

/-- A fault in bytes stands behind the characters that were read. -/
theorem exists_of_decodeFrom_eq_error {place : Nat} {bytes : List UInt8} {e : Utf8Fault}
    (h : decodeFrom place bytes = .error e) : ∃ text : List Char,
      text.flatMap String.utf8EncodeChar ++ e.bytes <+: bytes ∧ e.bytes ≠ [] ∧
        e.start = place + (text.flatMap String.utf8EncodeChar).length := by
  induction place, bytes using decodeFrom.induct with
  | case1 place =>
    rw [decodeFrom] at h
    cases h
  | case2 place first rest c tail hread ih =>
    rw [decodeFrom_of_readChar hread] at h
    cases htext : decodeFrom (place + (rest.length + 1 - tail.length)) tail with
    | ok text =>
      rw [htext] at h
      cases h
    | error fault =>
      rw [htext] at h
      obtain rfl := Except.error.inj h
      obtain ⟨text, hprefix, hne, hstart⟩ := ih htext
      have hbytes := cons_eq_of_readChar hread
      have hlength := congrArg List.length hbytes
      simp only [List.length_cons, List.length_append] at hlength
      refine ⟨c :: text, ?_, hne, ?_⟩
      · rw [hbytes, List.flatMap_cons, List.append_assoc]
        exact (List.prefix_append_right_inj _).2 hprefix
      · rw [hstart, List.flatMap_cons, List.length_append]
        omega
  | case3 place first rest bytes complaint hread =>
    rw [decodeFrom_of_readChar_error hread] at h
    obtain rfl := Except.error.inj h
    obtain ⟨hne, hprefix⟩ := prefix_of_readChar hread
    exact ⟨[], hprefix, hne, rfl⟩

/-- **Bytes decode to a text exactly when they are its bytes.** -/
theorem decode_eq_ok_iff {bytes : List UInt8} {s : String} :
    decode bytes = .ok s ↔ bytes = encode s := by
  unfold decode encode
  constructor
  · intro h
    cases htext : decodeFrom 0 bytes with
    | error e =>
      rw [htext] at h
      cases h
    | ok text =>
      rw [htext] at h
      obtain rfl := Except.ok.inj h
      rw [String.toList_ofList]
      exact eq_flatMap_of_decodeFrom htext
  · rintro rfl
    rw [decodeFrom_flatMap]
    exact congrArg Except.ok String.ofList_toList

/-- A text is read from its bytes. -/
theorem decode_encode (s : String) : decode (encode s) = .ok s := decode_eq_ok_iff.2 rfl

/-- **A fault stands right behind a text:** bytes that are none are those of a text up to the place of
the fault, where the bytes stand that are refused. -/
theorem exists_of_decode_eq_error {bytes : List UInt8} {e : Utf8Fault}
    (h : decode bytes = .error e) :
    ∃ s, encode s ++ e.bytes <+: bytes ∧ e.bytes ≠ [] ∧ e.start = (encode s).length := by
  unfold decode at h
  cases hfault : decodeFrom 0 bytes with
  | ok text =>
    rw [hfault] at h
    cases h
  | error fault =>
    rw [hfault] at h
    obtain rfl := Except.error.inj h
    obtain ⟨text, hprefix, hne, hstart⟩ := exists_of_decodeFrom_eq_error hfault
    refine ⟨String.ofList text, ?_, hne, ?_⟩
    · rwa [encode, String.toList_ofList]
    · rw [encode, String.toList_ofList, hstart, Nat.zero_add]

end Text
end TypedInputs
