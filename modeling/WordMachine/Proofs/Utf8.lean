import WordMachine.Text.Utf8

/-!
# Reading UTF-8 gives back what was written

`Text.Utf8.decode?_encode`: decoding the bytes of any sequence of characters gives the sequence
back, so the bytes `encode` writes are always well-formed UTF-8. The proof goes one character at
a time (`decode?_encodeChar_append`): each of the four lengths of an encoding has a lemma that
reads its lead byte and continuation bytes back (`decode?_one` to `decode?_four`, stated on the
bytes' values), and the arithmetic that the bytes of a character satisfy those lemmas and add up
to its code point is left to `omega`. That a scalar value is never a surrogate is what keeps the
three-byte form away from the bytes `decode?` refuses after `0xED`.

`encodeChar_ne_lineFeed` says that only a line feed is written with the byte `10`: every byte of
a longer form is at least `0x80`. Input is split into lines at that byte, so a line of encoded
text is the encoding of a line of characters.
-/

namespace WordMachine.Text.Utf8

/-- A number below `256` is kept by the conversion to a byte. -/
theorem toNat_toUInt8 {n : Nat} (h : n < 256) : n.toUInt8.toNat = n := by
  simp [Nat.toUInt8, Nat.mod_eq_of_lt h]

/-- A byte inside a range, read on values. -/
theorem inRange_eq_true {b lo hi : UInt8} (h : lo.toNat ≤ b.toNat ∧ b.toNat ≤ hi.toNat) :
    (lo ≤ b && b ≤ hi) = true := by
  simp only [Bool.and_eq_true, decide_eq_true_eq, UInt8.le_iff_toNat_le]
  exact h

/-- A byte outside a range, read on values. -/
theorem inRange_eq_false {b lo hi : UInt8} (h : b.toNat < lo.toNat ∨ hi.toNat < b.toNat) :
    (lo ≤ b && b ≤ hi) = false := by
  simp only [Bool.and_eq_false_iff, decide_eq_false_iff_not, UInt8.le_iff_toNat_le]
  omega

/-- A continuation byte, read on its value. -/
theorem isContinuation_eq_true {b : UInt8} (h : 0x80 ≤ b.toNat ∧ b.toNat ≤ 0xBF) :
    isContinuation b = true :=
  inRange_eq_true h

/-- Choosing between two bytes by a byte's identity, read on values. -/
theorem toNat_ite_eq (b k x y : UInt8) :
    (if b = k then x else y).toNat = if b.toNat = k.toNat then x.toNat else y.toNat := by
  by_cases h : b = k
  · simp [h]
  · simp [h, UInt8.toNat_inj]

section Forms

variable (rest : List UInt8)

/-- A byte below `0x80` is a character of its own. -/
theorem decode?_one {b0 : UInt8} (h0 : b0.toNat < 0x80) :
    decode? (b0 :: rest) = (decode? rest).map (Char.ofNat b0.toNat :: ·) := by
  have hb : b0 < 0x80 := UInt8.lt_iff_toNat_lt.mpr h0
  rw [decode?.eq_def]
  simp only [if_pos hb]

/-- A lead byte `0xC2` to `0xDF` and a continuation byte make a character. -/
theorem decode?_two {b0 b1 : UInt8} (h0 : 0xC2 ≤ b0.toNat ∧ b0.toNat ≤ 0xDF)
    (h1 : 0x80 ≤ b1.toNat ∧ b1.toNat ≤ 0xBF) :
    decode? (b0 :: b1 :: rest) =
      (decode? rest).map (Char.ofNat ((b0.toNat - 0xC0) * 64 + (b1.toNat - 0x80)) :: ·) := by
  have hn : ¬ b0 < 0x80 := by
    simp only [UInt8.lt_iff_toNat_lt, UInt8.reduceToNat]
    omega
  have hl : (0xC2 ≤ b0 && b0 ≤ 0xDF) = true := inRange_eq_true h0
  rw [decode?.eq_def]
  simp only [if_neg hn, if_pos hl, if_pos (isContinuation_eq_true h1)]
  rfl

/-- A lead byte `0xE0` to `0xEF` and two continuation bytes make a character; after `0xE0` the
first continuation is at least `0xA0` (no overlong form), after `0xED` at most `0x9F` (no
surrogate). -/
theorem decode?_three {b0 b1 b2 : UInt8} (h0 : 0xE0 ≤ b0.toNat ∧ b0.toNat ≤ 0xEF)
    (h1 : (if b0.toNat = 0xE0 then 0xA0 else 0x80) ≤ b1.toNat ∧
      b1.toNat ≤ (if b0.toNat = 0xED then 0x9F else 0xBF))
    (h2 : 0x80 ≤ b2.toNat ∧ b2.toNat ≤ 0xBF) :
    decode? (b0 :: b1 :: b2 :: rest) =
      (decode? rest).map (Char.ofNat ((b0.toNat - 0xE0) * 4096 + (b1.toNat - 0x80) * 64 +
        (b2.toNat - 0x80)) :: ·) := by
  have hn : ¬ b0 < 0x80 := by
    simp only [UInt8.lt_iff_toNat_lt, UInt8.reduceToNat]
    omega
  have hn2 : (0xC2 ≤ b0 && b0 ≤ 0xDF) = false :=
    inRange_eq_false (by simp only [UInt8.reduceToNat]; omega)
  have hl : (0xE0 ≤ b0 && b0 ≤ 0xEF) = true := inRange_eq_true h0
  have hc : (decide ((if b0 = 0xE0 then 0xA0 else 0x80 : UInt8) ≤ b1) &&
      decide (b1 ≤ (if b0 = 0xED then 0x9F else 0xBF : UInt8)) && isContinuation b2) = true := by
    simp only [Bool.and_eq_true, decide_eq_true_eq, UInt8.le_iff_toNat_le, toNat_ite_eq,
      UInt8.reduceToNat, isContinuation_eq_true h2, and_true]
    exact h1
  rw [decode?.eq_def]
  simp only [if_neg hn, hn2, if_pos hl, Bool.false_eq_true, if_false]
  rw [if_pos hc]
  rfl

/-- A lead byte `0xF0` to `0xF4` and three continuation bytes make a character; after `0xF0` the
first continuation is at least `0x90` (no overlong form), after `0xF4` at most `0x8F` (nothing
above `U+10FFFF`). -/
theorem decode?_four {b0 b1 b2 b3 : UInt8} (h0 : 0xF0 ≤ b0.toNat ∧ b0.toNat ≤ 0xF4)
    (h1 : (if b0.toNat = 0xF0 then 0x90 else 0x80) ≤ b1.toNat ∧
      b1.toNat ≤ (if b0.toNat = 0xF4 then 0x8F else 0xBF))
    (h2 : 0x80 ≤ b2.toNat ∧ b2.toNat ≤ 0xBF) (h3 : 0x80 ≤ b3.toNat ∧ b3.toNat ≤ 0xBF) :
    decode? (b0 :: b1 :: b2 :: b3 :: rest) =
      (decode? rest).map (Char.ofNat ((b0.toNat - 0xF0) * 262144 + (b1.toNat - 0x80) * 4096 +
        (b2.toNat - 0x80) * 64 + (b3.toNat - 0x80)) :: ·) := by
  have hn : ¬ b0 < 0x80 := by
    simp only [UInt8.lt_iff_toNat_lt, UInt8.reduceToNat]
    omega
  have hn2 : (0xC2 ≤ b0 && b0 ≤ 0xDF) = false :=
    inRange_eq_false (by simp only [UInt8.reduceToNat]; omega)
  have hn3 : (0xE0 ≤ b0 && b0 ≤ 0xEF) = false :=
    inRange_eq_false (by simp only [UInt8.reduceToNat]; omega)
  have hl : (0xF0 ≤ b0 && b0 ≤ 0xF4) = true := inRange_eq_true h0
  have hc : (decide ((if b0 = 0xF0 then 0x90 else 0x80 : UInt8) ≤ b1) &&
      decide (b1 ≤ (if b0 = 0xF4 then 0x8F else 0xBF : UInt8)) && isContinuation b2 &&
      isContinuation b3) = true := by
    simp only [Bool.and_eq_true, decide_eq_true_eq, UInt8.le_iff_toNat_le, toNat_ite_eq,
      UInt8.reduceToNat, isContinuation_eq_true h2, isContinuation_eq_true h3, and_true]
    exact h1
  rw [decode?.eq_def]
  simp only [if_neg hn, hn2, hn3, if_pos hl, Bool.false_eq_true, if_false]
  rw [if_pos hc]
  rfl

end Forms

/-- **One character reads back.** The bytes of a character, followed by any bytes, read as that
character followed by what the rest reads as. -/
theorem decode?_encodeChar_append (c : Char) (rest : List UInt8) :
    decode? (encodeChar c ++ rest) = (decode? rest).map (c :: ·) := by
  -- the code point is a scalar value: below `0x110000` and no surrogate
  have hvalid : c.toNat < 0xD800 ∨ (0xDFFF < c.toNat ∧ c.toNat < 0x110000) := c.valid
  have hc : Char.ofNat c.toNat = c := Char.ofNat_toNat c
  -- one case per length of the encoding, each byte's value computed first
  by_cases h1 : c.toNat < 0x80
  · simp only [encodeChar, if_pos h1, List.cons_append, List.nil_append]
    rw [decode?_one rest (by rw [toNat_toUInt8 (by omega)]; exact h1), toNat_toUInt8 (by omega), hc]
  by_cases h2 : c.toNat < 0x800
  · simp only [encodeChar, if_neg h1, if_pos h2, List.cons_append, List.nil_append]
    have e0 := toNat_toUInt8 (show 0xC0 + c.toNat / 64 < 256 by omega)
    have e1 := toNat_toUInt8 (show 0x80 + c.toNat % 64 < 256 by omega)
    rw [decode?_two rest (by omega) (by omega), e0, e1,
      show (0xC0 + c.toNat / 64 - 0xC0) * 64 + (0x80 + c.toNat % 64 - 0x80) = c.toNat by omega, hc]
  by_cases h3 : c.toNat < 0x10000
  · simp only [encodeChar, if_neg h1, if_neg h2, if_pos h3, List.cons_append, List.nil_append]
    have e0 := toNat_toUInt8 (show 0xE0 + c.toNat / 4096 < 256 by omega)
    have e1 := toNat_toUInt8 (show 0x80 + c.toNat / 64 % 64 < 256 by omega)
    have e2 := toNat_toUInt8 (show 0x80 + c.toNat % 64 < 256 by omega)
    rw [decode?_three rest (by omega) (by rw [e0, e1]; constructor <;> split <;> omega)
        (by omega), e0, e1, e2,
      show (0xE0 + c.toNat / 4096 - 0xE0) * 4096 + (0x80 + c.toNat / 64 % 64 - 0x80) * 64 +
        (0x80 + c.toNat % 64 - 0x80) = c.toNat by omega, hc]
  · simp only [encodeChar, if_neg h1, if_neg h2, if_neg h3, List.cons_append, List.nil_append]
    have e0 := toNat_toUInt8 (show 0xF0 + c.toNat / 262144 < 256 by omega)
    have e1 := toNat_toUInt8 (show 0x80 + c.toNat / 4096 % 64 < 256 by omega)
    have e2 := toNat_toUInt8 (show 0x80 + c.toNat / 64 % 64 < 256 by omega)
    have e3 := toNat_toUInt8 (show 0x80 + c.toNat % 64 < 256 by omega)
    rw [decode?_four rest (by omega) (by rw [e0, e1]; constructor <;> split <;> omega)
        (by omega) (by omega), e0, e1, e2, e3,
      show (0xF0 + c.toNat / 262144 - 0xF0) * 262144 + (0x80 + c.toNat / 4096 % 64 - 0x80) * 4096 +
        (0x80 + c.toNat / 64 % 64 - 0x80) * 64 + (0x80 + c.toNat % 64 - 0x80) = c.toNat by omega,
      hc]

@[simp] theorem encode_nil : encode [] = [] := rfl

@[simp] theorem encode_cons (c : Char) (cs : List Char) :
    encode (c :: cs) = encodeChar c ++ encode cs :=
  List.flatMap_cons

@[simp] theorem encode_append (cs ds : List Char) : encode (cs ++ ds) = encode cs ++ encode ds :=
  List.flatMap_append

theorem encodeChar_ne_nil (c : Char) : encodeChar c ≠ [] := by
  dsimp only [encodeChar]
  split
  · exact List.cons_ne_nil _ _
  split
  · exact List.cons_ne_nil _ _
  split <;> exact List.cons_ne_nil _ _

/-- **Reading gives back what was written.** The bytes of any sequence of characters are
well-formed UTF-8 and read as that sequence. -/
theorem decode?_encode (cs : List Char) : decode? (encode cs) = some cs := by
  induction cs with
  | nil => rfl
  | cons c cs ih =>
    rw [encode_cons, decode?_encodeChar_append, ih]
    rfl

/-- A byte of a character's encoding is the code point itself or at least `0x80`. -/
theorem toNat_of_mem_encodeChar {c : Char} {b : UInt8} (hb : b ∈ encodeChar c) :
    b.toNat = c.toNat ∨ 0x80 ≤ b.toNat := by
  have hvalid : c.toNat < 0xD800 ∨ (0xDFFF < c.toNat ∧ c.toNat < 0x110000) := c.valid
  by_cases h1 : c.toNat < 0x80
  · simp only [encodeChar, if_pos h1, List.mem_singleton] at hb
    subst hb
    exact .inl (toNat_toUInt8 (by omega))
  by_cases h2 : c.toNat < 0x800
  · simp only [encodeChar, if_neg h1, if_pos h2, List.mem_cons, List.not_mem_nil, or_false] at hb
    rcases hb with rfl | rfl <;> rw [toNat_toUInt8 (by omega)] <;> omega
  by_cases h3 : c.toNat < 0x10000
  · simp only [encodeChar, if_neg h1, if_neg h2, if_pos h3, List.mem_cons, List.not_mem_nil,
      or_false] at hb
    rcases hb with rfl | rfl | rfl <;> rw [toNat_toUInt8 (by omega)] <;> omega
  · simp only [encodeChar, if_neg h1, if_neg h2, if_neg h3, List.mem_cons, List.not_mem_nil,
      or_false] at hb
    rcases hb with rfl | rfl | rfl | rfl <;> rw [toNat_toUInt8 (by omega)] <;> omega

/-- Only a line feed is written with the byte `10`. -/
theorem encodeChar_ne_lineFeed {c : Char} (hc : c ≠ '\n') : ∀ b ∈ encodeChar c, b ≠ 10 := by
  have hne : c.toNat ≠ 10 := fun h => hc (Char.ext (UInt32.toNat_inj.mp h))
  rintro b hb rfl
  rcases toNat_of_mem_encodeChar hb with h | h <;> simp only [UInt8.reduceToNat] at h <;> omega

/-- A line feed is the single byte `10`. -/
theorem encodeChar_lineFeed : encodeChar '\n' = [10] := rfl

end WordMachine.Text.Utf8
