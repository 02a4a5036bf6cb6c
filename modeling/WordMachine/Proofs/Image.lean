import WordMachine.Image
import WordMachine.Machine.Basic

/-!
# Program images are their words, low byte first

An image is read two bytes to a word, the low byte first; an image of an odd number of bytes is
refused with its length. Loading turns the words into memory, padded with zeros to the `32768`
words of the address space when asked, and a computer starts on that memory from address `0`.

* `Image.toNat_ofBytes` is the value of one word, `lo + 256 * hi`; `toNat_getD_wordsOfBytes`
  reads it at every position of an image.
* `Image.wordsOfBytes_encodeWords` and `Image.encodeWords_wordsOfBytes` say that reading and
  writing images are inverse, the second for every image of an even length;
  `Image.decodeWords_encodeWords` adds that a written image is never refused.
* `Image.load_words` is what loading gives; `Image.load_reads_words_little_endian` puts it all
  together.
-/

namespace WordMachine

/-- Padding extends the words with zeros and keeps those there. -/
theorem Memory.toList_padTo (m : Memory) (n : Nat) :
    (m.padTo n).words.toList = m.words.toList ++ List.replicate (n - m.size) 0 := by
  simp [Memory.padTo, Memory.size]

namespace Image

/-- The word of two bytes, low byte first, is the low byte plus `256` times the high one. -/
theorem toNat_ofBytes (lo hi : UInt8) :
    (lo.toUInt16 ||| (hi.toUInt16 <<< 8)).toNat = lo.toNat + 256 * hi.toNat := by
  have hlo := lo.toNat_lt
  have hhi := hi.toNat_lt
  rw [UInt16.toNat_or, UInt16.toNat_shiftLeft, UInt8.toNat_toUInt16, UInt8.toNat_toUInt16]
  simp only [UInt16.reduceToNat, Nat.reduceMod]
  -- the high byte shifted stays below `2^16`, and the low byte fills the bits it leaves clear
  rw [Nat.mod_eq_of_lt (by rw [Nat.shiftLeft_eq]; omega), Nat.or_comm,
    ← Nat.shiftLeft_add_eq_or_of_lt (show lo.toNat < 2 ^ 8 by omega), Nat.shiftLeft_eq]
  omega

/-- The high byte of a word is its value divided by `256`. -/
theorem toNat_highByte (w : Word) : (w >>> 8).toUInt8.toNat = w.toNat / 256 := by
  have := w.toNat_lt
  simp only [UInt16.toNat_toUInt8, UInt16.toNat_shiftRight, Nat.shiftRight_eq_div_pow,
    UInt16.reduceToNat, Nat.reduceMod, Nat.reducePow]
  omega

@[simp] theorem encodeWords_nil : encodeWords [] = [] := rfl

@[simp] theorem encodeWords_cons (w : Word) (ws : List Word) :
    encodeWords (w :: ws) = w.toUInt8 :: (w >>> 8).toUInt8 :: encodeWords ws := rfl

/-- Each word is written as two bytes. -/
@[simp] theorem length_encodeWords (ws : List Word) : (encodeWords ws).length = 2 * ws.length := by
  induction ws with
  | nil => rfl
  | cons w ws ih =>
    rw [encodeWords_cons, List.length_cons, List.length_cons, ih, List.length_cons]
    omega

/-- An image of `n` bytes holds `n / 2` words. -/
theorem length_wordsOfBytes : ∀ bs : List UInt8, (wordsOfBytes bs).length = bs.length / 2
  | [] => rfl
  | [_] => by simp [wordsOfBytes]
  | _ :: _ :: rest => by
    simp only [wordsOfBytes, List.length_cons, length_wordsOfBytes rest]
    omega

/-- The word at position `i` of an image is made of the bytes at `2 i` and `2 i + 1`, the low
byte first. -/
theorem toNat_getD_wordsOfBytes : ∀ (bs : List UInt8) (i : Nat), i < bs.length / 2 →
    ((wordsOfBytes bs).getD i 0).toNat =
      (bs.getD (2 * i) 0).toNat + 256 * (bs.getD (2 * i + 1) 0).toNat
  | [], _, h => absurd h (by simp)
  | [_], _, h => absurd h (by simp)
  | lo :: hi :: _, 0, _ => toNat_ofBytes lo hi
  | _ :: _ :: rest, i + 1, h => by
    -- past the first word, the positions are those of the rest of the image
    have hrest : i < rest.length / 2 := by simp at h; omega
    have ih := toNat_getD_wordsOfBytes rest i hrest
    simp only [wordsOfBytes, List.getD_cons_succ, show 2 * (i + 1) = 2 * i + 1 + 1 by omega]
    exact ih

/-- Reading the bytes written for words gives the words back. -/
theorem wordsOfBytes_encodeWords : ∀ ws : List Word, wordsOfBytes (encodeWords ws) = ws
  | [] => rfl
  | w :: ws => by
    have hw : (w.toUInt8.toUInt16 ||| ((w >>> 8).toUInt8.toUInt16 <<< 8)) = w := by
      apply UInt16.toNat_inj.mp
      rw [toNat_ofBytes, toNat_highByte, UInt16.toNat_toUInt8]
      omega
    rw [encodeWords_cons, wordsOfBytes, hw, wordsOfBytes_encodeWords ws]

/-- Writing the words read from an image of an even length gives the image back. -/
theorem encodeWords_wordsOfBytes :
    ∀ bs : List UInt8, bs.length % 2 = 0 → encodeWords (wordsOfBytes bs) = bs
  | [], _ => rfl
  | [_], h => absurd h (by simp)
  | lo :: hi :: rest, h => by
    have hrest : rest.length % 2 = 0 := by simp at h; omega
    have hlo := lo.toNat_lt
    have hlow : (lo.toUInt16 ||| (hi.toUInt16 <<< 8)).toUInt8 = lo := by
      apply UInt8.toNat_inj.mp
      rw [UInt16.toNat_toUInt8, toNat_ofBytes]
      omega
    have hhigh : ((lo.toUInt16 ||| (hi.toUInt16 <<< 8)) >>> 8).toUInt8 = hi := by
      apply UInt8.toNat_inj.mp
      rw [toNat_highByte, toNat_ofBytes]
      omega
    rw [wordsOfBytes, encodeWords_cons, hlow, hhigh, encodeWords_wordsOfBytes rest hrest]

/-- An image is refused exactly when its length is odd, and the refusal gives that length. -/
theorem decodeWords_eq_error_iff (bs : List UInt8) :
    decodeWords bs = .error (.oddLength bs.length) ↔ bs.length % 2 = 1 := by
  unfold decodeWords
  split
  · exact ⟨fun _ => ‹_›, fun _ => rfl⟩
  · exact ⟨nofun, fun h => absurd h ‹_›⟩

theorem decodeWords_of_even {bs : List UInt8} (h : bs.length % 2 = 0) :
    decodeWords bs = .ok (wordsOfBytes bs) := by
  unfold decodeWords
  rw [if_neg (by omega)]

/-- The image written for any words is read back as those words. -/
theorem decodeWords_encodeWords (ws : List Word) : decodeWords (encodeWords ws) = .ok ws := by
  have heven : (encodeWords ws).length % 2 = 0 := by
    rw [length_encodeWords]
    omega
  rw [decodeWords_of_even heven, wordsOfBytes_encodeWords]

/-- Loading the bytes read gives the memory of the image's words, padded when asked. -/
theorem load_words (bs : List UInt8) (o : LoadOptions) :
    (load (.ok bs) o).1 = (decodeWords bs).map fun ws =>
      if o.padToAddressSpace then (⟨ws.toArray⟩ : Memory).padTo addressSpace
      else ⟨ws.toArray⟩ := by
  unfold load
  simp only
  cases h : decodeWords bs with
  | error e => rfl
  | ok ws => rfl

/-- **Images are their words, low byte first.** An image is refused, with its length, exactly when
that length is odd; otherwise it is read as half as many words, each the byte at `2 i` plus `256`
times the byte at `2 i + 1`, and writing those words gives the image back. Reading the bytes
written for any words gives those words. Loading gives the memory of the words, followed, when
padding is asked for, by zeros up to `32768` words (never cut, and unchanged when it has that many
already), and a computer starts on it from address `0` with zero registers, an empty stack and no
instruction executed. -/
theorem load_reads_words_little_endian (bs : List UInt8) (ws : List Word) (o : LoadOptions) :
    (decodeWords bs = .error (.oddLength bs.length) ↔ bs.length % 2 = 1) ∧
    (bs.length % 2 = 0 → ∃ vs, decodeWords bs = .ok vs ∧ vs.length = bs.length / 2 ∧
      (∀ i < bs.length / 2,
        (vs.getD i 0).toNat = (bs.getD (2 * i) 0).toNat + 256 * (bs.getD (2 * i + 1) 0).toNat) ∧
      encodeWords vs = bs) ∧
    decodeWords (encodeWords ws) = .ok ws ∧
    (load (.ok bs) o).1.map (·.words.toList) = (decodeWords bs).map (fun vs =>
      if o.padToAddressSpace then vs ++ List.replicate (32768 - vs.length) 0 else vs) ∧
    (load (.ok bs) o).1.map Computer.ofMemory = (load (.ok bs) o).1.map fun m =>
      { memory := m, registers := .zero, stack := [], pc := 0, cycles := 0,
        traceFailed := false } := by
  refine ⟨decodeWords_eq_error_iff bs, fun heven => ?_, decodeWords_encodeWords ws, ?_, rfl⟩
  · exact ⟨wordsOfBytes bs, decodeWords_of_even heven, length_wordsOfBytes bs,
      toNat_getD_wordsOfBytes bs, encodeWords_wordsOfBytes bs heven⟩
  · rw [load_words]
    cases decodeWords bs with
    | error e => rfl
    | ok vs =>
      -- padding appends `32768 - n` zeros, none when the memory has that many words already
      have hwords : (if o.padToAddressSpace then (⟨vs.toArray⟩ : Memory).padTo addressSpace
          else ⟨vs.toArray⟩).words.toList =
            if o.padToAddressSpace then vs ++ List.replicate (32768 - vs.length) 0 else vs := by
        by_cases hpad : o.padToAddressSpace
        · simp [hpad, Memory.toList_padTo, Memory.size, addressSpace]
        · simp [hpad]
      exact congrArg Except.ok hwords

/-- An image of four words, two of them above fifteen bits. -/
def imageSample : List UInt8 := [0x13, 0x00, 0x41, 0x00, 0x00, 0x80, 0xff, 0xff]

theorem load_reads_words_little_endian_sample :
    imageSample.length % 2 = 0 ∧ ∃ vs, decodeWords imageSample = .ok vs ∧
      vs.length = imageSample.length / 2 ∧
      (∀ i < imageSample.length / 2, (vs.getD i 0).toNat =
        (imageSample.getD (2 * i) 0).toNat + 256 * (imageSample.getD (2 * i + 1) 0).toNat) ∧
      encodeWords vs = imageSample :=
  ⟨by decide,
    (load_reads_words_little_endian imageSample [19, 65, 32768, 65535] {}).2.1 (by decide)⟩

example : decodeWords imageSample = .ok [19, 65, 32768, 65535] := by rfl

end Image

end WordMachine
