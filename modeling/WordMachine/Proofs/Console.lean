import WordMachine.Console
import WordMachine.Proofs.Utf8

/-!
# What the console writes, it reads back

A word written by `out` goes to the output as the UTF-8 bytes of the character it numbers, or of
`U+FFFD` when it numbers none. Fed back as input, those bytes are read one character at a time,
a line at a time, and `in` hands each character out as its code point when that fits in fifteen
bits and refuses it otherwise.

* `Console.writeWords_accepting`: on an accepting output every write succeeds, and the output
  grows by the encodings of the characters written, whatever the line feeds flush.
* `Console.Holds c q` says that `c` has exactly the characters `q` left to read: the rest of its
  current line, then what its input encodes. `Console.readChar_holds_cons` and
  `Console.readChar_holds_nil` are the step lemmas: a read hands out the first of them
  (`Console.charResult`) and leaves the others, or, with nothing left, reports the input
  exhausted. The line a read fetches is one of the lines `q` splits into (`takeLine_encode`),
  and it decodes because encoded text does (`Text.Utf8.decode?_encode`).
* `Console.readResults_of_holds` is the run lemma, and `Console.written_words_read_back` the
  round trip: reading back what a sequence of writes produced gives, in order, each word that
  fits in fifteen bits and a refusal of the character written for each other word, and then
  the input exhausted.
-/

namespace WordMachine

/-- Bytes with no line feed among them stay on the line they start. -/
theorem takeLine_append_of_ne {bs : List UInt8} (h : ∀ b ∈ bs, b ≠ 10) (rest : List UInt8) :
    takeLine (bs ++ rest) = (bs ++ (takeLine rest).1, (takeLine rest).2) := by
  induction bs with
  | nil => rfl
  | cons b bs ih =>
    rw [List.cons_append, takeLine, if_neg (h b (List.mem_cons_self ..)),
      ih fun x hx => h x (List.mem_cons_of_mem b hx)]
    rfl

/-- The first line of encoded text is the encoding of the first line of the characters: they
split into a line, which is not empty when they are not, and the rest. -/
theorem takeLine_encode (cs : List Char) :
    ∃ line rest, cs = line ++ rest ∧ (cs ≠ [] → line ≠ []) ∧
      takeLine (Text.Utf8.encode cs) = (Text.Utf8.encode line, Text.Utf8.encode rest) := by
  induction cs with
  | nil => exact ⟨[], [], rfl, fun h => absurd rfl h, rfl⟩
  | cons c cs ih =>
    by_cases hc : c = '\n'
    · -- a line feed ends the line
      subst hc
      refine ⟨['\n'], cs, rfl, fun _ => List.cons_ne_nil _ _, ?_⟩
      simp only [Text.Utf8.encode_cons, Text.Utf8.encodeChar_lineFeed, Text.Utf8.encode_nil]
      rfl
    · obtain ⟨line, rest, rfl, -, hline⟩ := ih
      refine ⟨c :: line, rest, rfl, fun _ => List.cons_ne_nil _ _, ?_⟩
      rw [Text.Utf8.encode_cons, takeLine_append_of_ne (Text.Utf8.encodeChar_ne_lineFeed hc), hline,
        Text.Utf8.encode_cons]

/-- The code point of the character written for a word: the word itself when it numbers a
Unicode scalar value, else that of `U+FFFD`. -/
theorem Word.toNat_toChar (v : Word) :
    v.toChar.toNat = if v.toNat.isValidChar then v.toNat else 0xFFFD := by
  unfold Word.toChar
  split
  · rename_i h
    rw [Char.ofNat, dif_pos h]
    rfl
  · rfl

/-- The character written for a word above `32767`: the one it numbers, or `U+FFFD` for a
surrogate. -/
theorem Word.toChar_of_large (v : Word) (hv : 32767 < v.toNat) :
    v.toChar = if 0xD800 ≤ v.toNat ∧ v.toNat ≤ 0xDFFF then '�' else Char.ofNat v.toNat := by
  have hlt := v.toNat_lt
  unfold Word.toChar
  by_cases hs : 0xD800 ≤ v.toNat ∧ v.toNat ≤ 0xDFFF
  · have hvalid : ¬ v.toNat.isValidChar := by simp only [Nat.isValidChar]; omega
    rw [if_neg hvalid, if_pos hs]
  · have hvalid : v.toNat.isValidChar := by simp only [Nat.isValidChar]; omega
    rw [if_pos hvalid, if_neg hs]

namespace Console

/-- A flush changes only how many of the accepted bytes reached the device. -/
theorem settle_frame (c : Console) : ∃ delivered, c.settle = { c with delivered } := by
  unfold settle
  split
  · exact ⟨_, rfl⟩
  · exact ⟨c.delivered, rfl⟩

@[simp] theorem settle_stream (c : Console) : c.settle.stream = c.stream := by
  obtain ⟨_, h⟩ := settle_frame c
  rw [h]

@[simp] theorem settle_written (c : Console) : c.settle.written = c.written := by
  obtain ⟨_, h⟩ := settle_frame c
  rw [h]

@[simp] theorem settle_input (c : Console) : c.settle.input = c.input := by
  obtain ⟨_, h⟩ := settle_frame c
  rw [h]

@[simp] theorem settle_pending (c : Console) : c.settle.pending = c.pending := by
  obtain ⟨_, h⟩ := settle_frame c
  rw [h]

theorem flush_accepting {c : Console} (hc : c.stream = .accepting) : c.flush = .ok () := by
  unfold flush
  rw [hc]

/-- Making room in the buffer keeps the stream. -/
theorem ite_settle_stream (p : Prop) [Decidable p] (c : Console) :
    (if p then c.settle else c).stream = c.stream := by
  split <;> simp

/-- Making room in the buffer keeps the bytes accepted. -/
theorem ite_settle_written (p : Prop) [Decidable p] (c : Console) :
    (if p then c.settle else c).written = c.written := by
  split <;> simp

/-- On an accepting output a write succeeds, keeps the output accepting, and appends the bytes of
the character written for the word; a line feed's flush and a full buffer only hand bytes on. -/
theorem writeChar_accepting {c : Console} (hc : c.stream = .accepting) (v : Word) :
    (c.writeChar v).1 = .ok () ∧ (c.writeChar v).2.stream = .accepting ∧
      (c.writeChar v).2.written = c.written ++ (Text.Utf8.encodeChar v.toChar).toArray := by
  unfold writeChar
  rw [hc]
  dsimp only
  -- a line feed also flushes, which an accepting stream allows
  by_cases hnl : v.toChar = '\n' <;> simp [hnl, hc, flush, ite_settle_stream, ite_settle_written]

/-- Writes words one by one, each on the console the write before left: the result of each write,
and the console after the last. -/
def writeWords : Console → List Word → List (Except Fault Unit) × Console
  | c, [] => ([], c)
  | c, v :: vs =>
    let written := c.writeChar v
    let rest := written.2.writeWords vs
    (written.1 :: rest.1, rest.2)

/-- On an accepting output every write of a sequence succeeds, and the output grows by the
encoding of the characters written. -/
theorem writeWords_accepting {c : Console} (hc : c.stream = .accepting) (vs : List Word) :
    (c.writeWords vs).1 = List.replicate vs.length (.ok ()) ∧
      (c.writeWords vs).2.written = c.written ++ (Text.Utf8.encode (vs.map Word.toChar)).toArray := by
  -- induction on the words, from the console each write leaves
  induction vs generalizing c with
  | nil => simp [writeWords]
  | cons v vs ih =>
    obtain ⟨hok, hstream, hwritten⟩ := writeChar_accepting hc v
    obtain ⟨hoks, hrest⟩ := ih hstream
    refine ⟨by simp only [writeWords, hok, hoks, List.length_cons, List.replicate_succ], ?_⟩
    simp [writeWords, hrest, hwritten, Array.append_assoc]

/-- What a read hands out for a character: its code point when that fits in fifteen bits, else a
refusal naming the character. -/
def charResult (ch : Char) : Except Fault Word :=
  if ch.toNat ≤ 32767 then .ok ch.toNat.toUInt16 else .error (.invalidInput ch)

/-- The console's output accepts, and `q` is what is left to read: the rest of the current line,
then the characters that the input encodes. -/
def Holds (c : Console) (q : List Char) : Prop :=
  c.stream = .accepting ∧ ∃ r, c.input = Text.Utf8.encode r ∧ q = c.pending ++ r

/-- Handing out a pending character. -/
theorem takePending_cons {c : Console} {ch : Char} {rest : List Char}
    (h : c.pending = ch :: rest) (line : Option (List Char)) :
    (c.takePending line).result = charResult ch ∧
      (c.takePending line).console = { c with pending := rest } := by
  unfold takePending charResult
  rw [h]
  dsimp only
  split <;> exact ⟨rfl, rfl⟩

/-- A read with characters pending hands out the next of them. -/
theorem readChar_pending {c : Console} {ch : Char} {rest : List Char} (hp : c.pending = ch :: rest) :
    c.readChar = c.takePending none := by
  unfold readChar
  rw [hp]

/-- A read with nothing pending, on an accepting output, flushes and fetches the next line of
input; when the line decodes, it hands out the line's first character. -/
theorem readChar_fetch {c : Console} {bytes rest : List UInt8} {chars : List Char}
    (hp : c.pending = []) (hs : c.stream = .accepting) (hne : c.input ≠ [])
    (hline : takeLine c.input = (bytes, rest)) (hdec : Text.Utf8.decode? bytes = some chars) :
    c.readChar =
      { c.settle with input := rest, pending := chars }.takePending (some (Text.trimEnd chars)) := by
  obtain ⟨b, bs, hbs⟩ := List.exists_cons_of_ne_nil hne
  unfold readChar
  rw [hp]
  simp only [flush_accepting hs, settle_input]
  rw [hbs]
  simp only
  rw [← hbs, hline]
  simp only [hdec]

/-- A read with nothing pending and no input left, on an accepting output, reports the input
exhausted. -/
theorem readChar_exhausted {c : Console} (hp : c.pending = []) (hs : c.stream = .accepting)
    (hin : c.input = []) :
    c.readChar = { result := .error .inputExhausted, console := c.settle } := by
  unfold readChar
  rw [hp]
  simp only [flush_accepting hs, settle_input]
  rw [hin]

section Read

variable {c : Console} {ch : Char} {q : List Char}

/-- **A read hands out the next character.** From a console with `ch` and then `q` left to read,
a read hands out `ch` as `charResult` says, and leaves `q` to read. When the current line is used
up, it fetches the next line of the input, which decodes, and hands out its first character. -/
theorem readChar_holds_cons (h : c.Holds (ch :: q)) :
    c.readChar.result = charResult ch ∧ c.readChar.console.Holds q := by
  obtain ⟨hs, r, hinput, hq⟩ := h
  cases hp : c.pending with
  | cons p ps =>
    -- the current line still has characters
    rw [hp, List.cons_append] at hq
    obtain ⟨rfl, rfl⟩ := List.cons.inj hq
    obtain ⟨hres, hcon⟩ := takePending_cons hp none
    rw [readChar_pending hp]
    exact ⟨hres, by rw [hcon]; exact ⟨hs, r, hinput, rfl⟩⟩
  | nil =>
    -- the line is used up: the next one is fetched from the input, and it decodes
    rw [hp, List.nil_append] at hq
    subst hq
    obtain ⟨line, rest, hsplit, hne, hline⟩ := takeLine_encode (ch :: q)
    obtain ⟨l, ls, rfl⟩ := List.exists_cons_of_ne_nil (hne (List.cons_ne_nil _ _))
    rw [List.cons_append] at hsplit
    obtain ⟨rfl, rfl⟩ := List.cons.inj hsplit
    have hnonempty : c.input ≠ [] := by
      rw [hinput, Text.Utf8.encode_cons]
      exact List.append_ne_nil_of_left_ne_nil (Text.Utf8.encodeChar_ne_nil ch) _
    rw [readChar_fetch hp hs hnonempty (hinput ▸ hline) (Text.Utf8.decode?_encode (ch :: ls))]
    obtain ⟨hres, hcon⟩ := takePending_cons
      (show ({ c.settle with input := Text.Utf8.encode rest, pending := ch :: ls } : Console).pending
        = ch :: ls from rfl) (some (Text.trimEnd (ch :: ls)))
    exact ⟨hres, by rw [hcon]; exact ⟨by simp [hs], rest, rfl, rfl⟩⟩

/-- With nothing left to read, a read reports the input exhausted and leaves nothing to read. -/
theorem readChar_holds_nil (h : c.Holds []) :
    c.readChar.result = .error .inputExhausted ∧ c.readChar.console.Holds [] := by
  obtain ⟨hs, r, hinput, hq⟩ := h
  obtain ⟨hp, rfl⟩ := List.append_eq_nil_iff.mp hq.symm
  rw [readChar_exhausted hp hs (by rw [hinput, Text.Utf8.encode_nil])]
  exact ⟨rfl, by simp [hs], [], by simp [hinput], by simp [hp]⟩

end Read

/-- Reads `n` times in a row, each from where the read before left the console: the results. -/
def readResults : Nat → Console → List (Except Fault Word)
  | 0, _ => []
  | n + 1, c => c.readChar.result :: readResults n c.readChar.console

/-- **The run lemma.** From a console with `q` left to read, reads hand out the characters of `q`
in order, then report the input exhausted, however many more times they are made. -/
theorem readResults_of_holds {c : Console} {q : List Char} (h : c.Holds q) (k : Nat) :
    readResults (q.length + k) c =
      q.map charResult ++ List.replicate k (.error .inputExhausted) := by
  -- induction on what is left to read, then on the reads past its end
  induction q generalizing c with
  | nil =>
    induction k generalizing c with
    | zero => rfl
    | succ k ih =>
      obtain ⟨hres, hnext⟩ := readChar_holds_nil h
      simp only [List.length_nil, Nat.zero_add] at ih ⊢
      rw [readResults, hres, ih hnext]
      rfl
  | cons ch q ih =>
    obtain ⟨hres, hnext⟩ := readChar_holds_cons h
    rw [List.length_cons, show q.length + 1 + k = (q.length + k) + 1 by omega, readResults, hres,
      ih hnext]
    rfl

/-- What reading back the character written for a word gives: the word itself when it is at
most `32767`, and otherwise a refusal of the character written. -/
theorem charResult_toChar (v : Word) :
    charResult v.toChar = if v.toNat ≤ 32767 then .ok v else .error (.invalidInput v.toChar) := by
  have hv := v.toNat_lt
  unfold charResult
  rw [Word.toNat_toChar]
  by_cases hsmall : v.toNat ≤ 32767
  · have hvalid : v.toNat.isValidChar := by simp only [Nat.isValidChar]; omega
    simp [hsmall, hvalid]
  · by_cases hvalid : v.toNat.isValidChar <;> simp [hsmall, hvalid]

/-- **What the console writes, it reads back.** Write words one by one to an accepting output,
then feed the bytes those writes produced to a fresh console. Every write succeeds; the bytes are
well-formed UTF-8, the encoding of the characters written; and reads hand out, in order, each
word at most `32767` as it is and a refusal of the character written for each other word (the
character it numbers, or `U+FFFD` for a surrogate), and then report the input exhausted, however
many more reads are made. -/
theorem written_words_read_back (c : Console) (hc : c.stream = .accepting) (vs : List Word)
    (k : Nat) :
    (c.writeWords vs).1 = List.replicate vs.length (.ok ()) ∧
    Text.Utf8.decode? ((c.writeWords vs).2.written.toList.drop c.written.size) =
      some (vs.map Word.toChar) ∧
    (Console.ofInput ((c.writeWords vs).2.written.toList.drop c.written.size)).readResults
        (vs.length + k) =
      vs.map (fun v => if v.toNat ≤ 32767 then .ok v else
        .error (.invalidInput
          (if 0xD800 ≤ v.toNat ∧ v.toNat ≤ 0xDFFF then '�' else Char.ofNat v.toNat))) ++
        List.replicate k (.error .inputExhausted) := by
  obtain ⟨hoks, hwritten⟩ := writeWords_accepting hc vs
  -- the bytes produced are the encoding of the characters written
  have hbytes : (c.writeWords vs).2.written.toList.drop c.written.size =
      Text.Utf8.encode (vs.map Word.toChar) := by
    rw [hwritten, Array.toList_append, List.drop_left' (Array.length_toList ..)]
  have hholds : (Console.ofInput (Text.Utf8.encode (vs.map Word.toChar))).Holds
      (vs.map Word.toChar) := ⟨rfl, vs.map Word.toChar, rfl, rfl⟩
  refine ⟨hoks, by rw [hbytes, Text.Utf8.decode?_encode], ?_⟩
  have hreads := readResults_of_holds hholds k
  rw [List.length_map] at hreads
  rw [hbytes, hreads, List.map_map]
  congr 1
  apply List.map_congr_left
  intro v _
  simp only [Function.comp, charResult_toChar]
  by_cases hsmall : v.toNat ≤ 32767
  · simp [hsmall]
  · simp [hsmall, Word.toChar_of_large v (by omega)]

/-- A console whose output accepts everything. -/
def echoSample : Console := Console.ofInput []

theorem written_words_read_back_sample :
    echoSample.stream = .accepting ∧
    (echoSample.writeWords [104, 10, 55296, 40000]).1 = List.replicate 4 (.ok ()) ∧
    Text.Utf8.decode? ((echoSample.writeWords [104, 10, 55296, 40000]).2.written.toList.drop
        echoSample.written.size) = some ([104, 10, 55296, 40000].map Word.toChar) ∧
    (Console.ofInput ((echoSample.writeWords [104, 10, 55296, 40000]).2.written.toList.drop
        echoSample.written.size)).readResults (4 + 1) =
      [104, 10, 55296, 40000].map (fun v : Word => if v.toNat ≤ 32767 then .ok v else
        .error (.invalidInput
          (if 0xD800 ≤ v.toNat ∧ v.toNat ≤ 0xDFFF then '�' else Char.ofNat v.toNat))) ++
        List.replicate 1 (.error .inputExhausted) :=
  ⟨rfl, written_words_read_back echoSample rfl [104, 10, 55296, 40000] 1⟩

end Console

end WordMachine
