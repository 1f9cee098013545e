import Mathlib.Tactic.SplitIfs
import SqlDesk.Text.Utf8

/-!
# Reading back what was encoded

The reader takes the encoding of a character in one step, whatever follows it: the first byte tells
how many there are, and the second one is in the range that the first one allows. So a text is read
back from its encoding, with no replacement characters.
-/

namespace SqlDesk.Text

/-! ## Bytes -/

theorem toList_loop_eq (bs : ByteArray) (i : Nat) (r : List UInt8) :
    ByteArray.toList.loop bs i r = r.reverse ++ bs.data.toList.drop i := by
  fun_induction ByteArray.toList.loop bs i r with
  | case1 i r h ih =>
    have hi : i < bs.data.toList.length := by simpa using h
    have hget : bs.get! i = bs.data.toList[i] := by
      show bs.data[i]! = _
      rw [getElem!_pos bs.data i (by simpa using hi)]
      rfl
    rw [ih, List.drop_eq_getElem_cons hi, hget]
    simp
  | case2 i r h =>
    have hi : bs.data.toList.length ≤ i := by simpa using h
    rw [List.drop_eq_nil_of_le hi, List.append_nil]

/-- A text is encoded character by character. -/
theorem encode_eq_flatMap (s : String) : encode s = s.toList.flatMap String.utf8EncodeChar := by
  have hbytes : s.toUTF8 = (s.toList.flatMap String.utf8EncodeChar).toByteArray :=
    String.utf8Encode_toList.symm
  unfold encode ByteArray.toList
  rw [hbytes, toList_loop_eq, List.toList_data_toByteArray]
  rfl

/-! ## One character -/

theorem toNat_byte {n : Nat} (h : n < 0x100) : (UInt8.ofNat n).toNat = n :=
  UInt8.toNat_ofNat_of_lt' h

theorem continueChar_succ {range : Nat × Nat} {acc got want n : Nat} {bs : List UInt8}
    (hlow : range.1 ≤ n) (hhigh : n ≤ range.2) (hn : n < 0x100) :
    continueChar range acc got (want + 1) (UInt8.ofNat n :: bs) =
      continueChar (0x80, 0xBF) (acc * 64 + (n - 0x80)) (got + 1) want bs := by
  rw [continueChar, toNat_byte hn, if_pos (by simp [hlow, hhigh])]

/-- A code point is no surrogate. -/
theorem codePoint_cases (c : Char) :
    c.toNat < 0xD800 ∨ 0xE000 ≤ c.toNat ∧ c.toNat < 0x110000 := by
  rcases c.valid with h | ⟨hlow, hhigh⟩
  · exact .inl h
  · exact .inr ⟨hlow, hhigh⟩

theorem utf8EncodeChar_eq (c : Char) : String.utf8EncodeChar c =
    let v := c.toNat
    if v ≤ 0x7F then [.ofNat v]
    else if v ≤ 0x7FF then [.ofNat (v / 64 % 32 + 0xC0), .ofNat (v % 64 + 0x80)]
    else if v ≤ 0xFFFF then
      [.ofNat (v / 4096 % 16 + 0xE0), .ofNat (v / 64 % 64 + 0x80), .ofNat (v % 64 + 0x80)]
    else
      [.ofNat (v / 262144 % 8 + 0xF0), .ofNat (v / 4096 % 64 + 0x80), .ofNat (v / 64 % 64 + 0x80),
        .ofNat (v % 64 + 0x80)] := rfl

/-- The second of three bytes is in the range that the first one allows. -/
theorem secondRange_three {v : Nat} (hlow : 0x7FF < v) (hhigh : v ≤ 0xFFFF)
    (hrange : v < 0xD800 ∨ 0xE000 ≤ v ∧ v < 0x110000) :
    (secondRange (v / 4096 % 16 + 0xE0)).1 ≤ v / 64 % 64 + 0x80 ∧
      v / 64 % 64 + 0x80 ≤ (secondRange (v / 4096 % 16 + 0xE0)).2 := by
  unfold secondRange
  simp only [beq_iff_eq]
  split_ifs <;> dsimp only <;> omega

/-- The second of four bytes is in the range that the first one allows. -/
theorem secondRange_four {v : Nat} (hlow : 0xFFFF < v) (hhigh : v < 0x110000) :
    (secondRange (v / 262144 % 8 + 0xF0)).1 ≤ v / 4096 % 64 + 0x80 ∧
      v / 4096 % 64 + 0x80 ≤ (secondRange (v / 262144 % 8 + 0xF0)).2 := by
  unfold secondRange
  simp only [beq_iff_eq]
  split_ifs <;> dsimp only <;> omega

/-- Bytes after the second one may be any continuation bytes. -/
theorem continueChar_rest {acc got want n : Nat} {bs : List UInt8} (hn : n < 64) :
    continueChar (0x80, 0xBF) acc got (want + 1) (UInt8.ofNat (n + 0x80) :: bs) =
      continueChar (0x80, 0xBF) (acc * 64 + n) (got + 1) want bs := by
  rw [continueChar_succ (Nat.le_add_left _ _) (by dsimp only; omega) (by omega),
    Nat.add_sub_cancel]

/-- The encoding of a character is read in one step. -/
theorem readChar_encoded (c : Char) (rest : List UInt8) :
    ∃ b bs, String.utf8EncodeChar c = b :: bs ∧
      readChar b (bs ++ rest) = .char c (bs.length + 1) := by
  have hrange := codePoint_cases c
  have hback : Char.ofNat c.toNat = c := Char.ofNat_toNat c
  rw [utf8EncodeChar_eq]
  generalize c.toNat = v at hrange hback ⊢
  dsimp only
  unfold readChar
  -- one case for each length: the code is put together again from its digits in base 64
  split_ifs
  · have hlength : sequenceLength v = 1 := by
      unfold sequenceLength
      rw [if_pos (by omega)]
    refine ⟨_, _, rfl, ?_⟩
    rw [toNat_byte (by omega), hlength]
    exact congrArg (Utf8Step.char · 1) hback
  · have hlength : sequenceLength (v / 64 % 32 + 0xC0) = 2 := by
      unfold sequenceLength
      split_ifs <;> omega
    have hsecond : secondRange (v / 64 % 32 + 0xC0) = (0x80, 0xBF) := by
      unfold secondRange
      simp only [beq_iff_eq]
      split_ifs <;> first | rfl | omega
    have hvalue : (v / 64 % 32 + 0xC0 - 0xC0) * 64 + v % 64 = v := by omega
    refine ⟨_, _, rfl, ?_⟩
    rw [toNat_byte (by omega), hlength, hsecond]
    show continueChar (0x80, 0xBF) (v / 64 % 32 + 0xC0 - 0xC0) 1 1 (_ :: rest) = _
    rw [continueChar_rest (by omega), continueChar, hvalue, hback]
    rfl
  · have hlength : sequenceLength (v / 4096 % 16 + 0xE0) = 3 := by
      unfold sequenceLength
      split_ifs <;> omega
    obtain ⟨hlow, hhigh⟩ := secondRange_three (by omega) (by omega) hrange
    have hvalue : ((v / 4096 % 16 + 0xE0 - 0xE0) * 64 + (v / 64 % 64 + 0x80 - 0x80)) * 64 + v % 64 =
        v := by omega
    refine ⟨_, _, rfl, ?_⟩
    rw [toNat_byte (by omega), hlength]
    show continueChar _ (v / 4096 % 16 + 0xE0 - 0xE0) 1 2 (_ :: _ :: rest) = _
    rw [continueChar_succ hlow hhigh (by omega), continueChar_rest (by omega), continueChar, hvalue,
      hback]
    rfl
  · have hlength : sequenceLength (v / 262144 % 8 + 0xF0) = 4 := by
      unfold sequenceLength
      split_ifs <;> omega
    obtain ⟨hlow, hhigh⟩ := secondRange_four (v := v) (by omega) (by omega)
    have hvalue : (((v / 262144 % 8 + 0xF0 - 0xF0) * 64 + (v / 4096 % 64 + 0x80 - 0x80)) * 64 +
        v / 64 % 64) * 64 + v % 64 = v := by omega
    refine ⟨_, _, rfl, ?_⟩
    rw [toNat_byte (by omega), hlength]
    show continueChar _ (v / 262144 % 8 + 0xF0 - 0xF0) 1 3 (_ :: _ :: _ :: rest) = _
    rw [continueChar_succ hlow hhigh (by omega), continueChar_rest (by omega),
      continueChar_rest (by omega), continueChar, hvalue, hback]
    rfl

/-! ## Texts -/

theorem decodeFrom_encoded (patch : Option Char) (cs : List Char) {fuel : Nat} (pos : Nat)
    (hfuel : (cs.flatMap String.utf8EncodeChar).length ≤ fuel) :
    decodeFrom patch fuel pos (cs.flatMap String.utf8EncodeChar) = .ok cs := by
  induction cs generalizing fuel pos with
  | nil => cases fuel <;> rfl
  | cons c cs ih =>
    rw [List.flatMap_cons] at hfuel ⊢
    obtain ⟨b, bs, hbytes, hread⟩ := readChar_encoded c (cs.flatMap String.utf8EncodeChar)
    rw [hbytes, List.cons_append, List.length_cons, List.length_append] at hfuel
    obtain ⟨fuel, rfl⟩ : ∃ k, fuel = k + 1 := ⟨fuel - 1, by omega⟩
    rw [hbytes, List.cons_append, decodeFrom, hread]
    dsimp only
    rw [Nat.add_sub_cancel, List.drop_left, ih _ (by omega)]
    rfl

/-- A text is read back from its encoding. -/
theorem decodeLossy_encode (s : String) : decodeLossy (encode s) = s := by
  unfold decodeLossy
  rw [encode_eq_flatMap, decodeFrom_encoded _ _ _ (Nat.le_refl _)]
  exact String.ofList_toList

end SqlDesk.Text
