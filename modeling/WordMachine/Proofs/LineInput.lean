import WordMachine.Proofs.Console

/-!
# Reading input a line at a time

`in` hands out one character per read, but the console takes its input from the input stream a
whole line at a time, line feed included, and only when the line before is used up. This module
says what any number of reads gives, for every input and every state of the console, as long as
the output works.

* `splitLines` cuts a byte string into its lines, each ending after its line feed, the last one
  possibly with none; `splitLines_eq_takeLine` says the console's own line fetch takes them off
  one at a time.
* `Console.lineResults` is what the reads of one line give: each character as `charResult` says,
  or one failure for a line that is not well-formed UTF-8. `Console.upcoming` lists what the reads
  of a console give, in order: the rest of its current line, then each line of its input.
* `Console.readChar_upcoming` is the step lemma: a read hands out the first of them and leaves the
  others, or, with none left, reports the input exhausted. `Console.readResults_eq_upcoming` is the
  run lemma, and `Console.reads_follow_lines` the whole statement, with what a read that has to
  fetch a line does to the output: it flushes it first, and when that fails it fails and consumes
  nothing.
-/

namespace WordMachine

/-- The lines of a byte string, each ending after its line feed; the last may have none. -/
def splitLines : List UInt8 → List (List UInt8)
  | [] => []
  | b :: rest =>
    if b = 10 then [b] :: splitLines rest
    else match splitLines rest with
      | [] => [[b]]
      | l :: ls => (b :: l) :: ls

@[simp] theorem splitLines_nil : splitLines [] = [] := rfl

/-- A byte other than a line feed stays on the line it starts. -/
theorem takeLine_cons_of_ne {b : UInt8} (hb : b ≠ 10) (rest : List UInt8) :
    takeLine (b :: rest) = (b :: (takeLine rest).1, (takeLine rest).2) := by
  simp [takeLine, hb]

/-- The line the console fetches from a non-empty input is its first line, and the lines of what
is left are the others. -/
theorem splitLines_eq_takeLine {bs : List UInt8} (h : bs ≠ []) :
    splitLines bs = (takeLine bs).1 :: splitLines (takeLine bs).2 := by
  induction bs with
  | nil => exact absurd rfl h
  | cons b rest ih =>
    by_cases hb : b = 10
    · simp [splitLines, takeLine, hb]
    · cases rest with
      | nil => simp [splitLines, takeLine, hb]
      | cons b' rest' =>
        -- the byte joins the first line of the rest
        rw [splitLines, if_neg hb, ih (List.cons_ne_nil _ _), takeLine_cons_of_ne hb]

/-- The lines of a byte string put back together give the byte string. -/
theorem flatten_splitLines (bs : List UInt8) : (splitLines bs).flatten = bs := by
  induction bs with
  | nil => rfl
  | cons b rest ih =>
    by_cases hb : b = 10
    · simp [splitLines, hb, ih]
    · rw [splitLines, if_neg hb]
      split
      · rename_i hnil
        rw [hnil, List.flatten_nil] at ih
        simp [ih]
      · rename_i l ls hcons
        rw [hcons, List.flatten_cons] at ih
        simp [ih]

/-- The line fetched from a non-empty input is not empty. -/
theorem takeLine_fst_ne_nil {bs : List UInt8} (h : bs ≠ []) : (takeLine bs).1 ≠ [] := by
  obtain ⟨b, rest, rfl⟩ := List.exists_cons_of_ne_nil h
  by_cases hb : b = 10
  · simp [takeLine, hb]
  · simp [takeLine_cons_of_ne hb]

/-- A non-empty byte string never decodes to no characters: every branch of the decoder either
fails or puts a character in front of what the rest decodes to. -/
theorem Text.Utf8.decode?_cons_ne_some_nil (b : UInt8) (bs : List UInt8) :
    Text.Utf8.decode? (b :: bs) ≠ some [] := by
  intro h
  rw [Text.Utf8.decode?.eq_def] at h
  simp only at h
  repeat' split at h
  all_goals simp_all

namespace Console

/-- What reading one line of input gives: each of its characters as `charResult` says, or one
failure for the whole line when it is not well-formed UTF-8. -/
def lineResults (line : List UInt8) : List (Except Fault Word) :=
  match Text.Utf8.decode? line with
  | some chars => chars.map charResult
  | none => [.error (.io .invalidUtf8)]

/-- What the reads of a console give, in order, before the input is exhausted: the rest of its
current line, then each line of its input. -/
def upcoming (c : Console) : List (Except Fault Word) :=
  c.pending.map charResult ++ (splitLines c.input).flatMap lineResults

/-- On an accepting output a flush hands every accepted byte on. -/
theorem settle_of_accepting {c : Console} (hs : c.stream = .accepting) :
    c.settle = { c with delivered := c.written.size } := by
  unfold settle
  rw [hs]

/-- A read with nothing pending, on an accepting output, fetches a line that does not decode:
it fails and drops the line. -/
theorem readChar_fetch_invalid {c : Console} (hp : c.pending = []) (hs : c.stream = .accepting)
    (hne : c.input ≠ []) (hdec : Text.Utf8.decode? (takeLine c.input).1 = none) :
    c.readChar = { result := .error (.io .invalidUtf8),
                   console := { c.settle with input := (takeLine c.input).2 } } := by
  obtain ⟨b, bs, hbs⟩ := List.exists_cons_of_ne_nil hne
  unfold readChar
  rw [hp]
  simp only [flush_accepting hs, settle_input]
  rw [hbs]
  simp only
  rw [← hbs]
  simp only [hdec]

/-- **What a read with nothing pending can do**, on an accepting output: it flushes, then reports
the input exhausted when there is none, drops a line that does not decode, or hands out the first
character of a line that does and keeps the others pending. -/
theorem readChar_fetch_cases {c : Console} (hp : c.pending = []) (hs : c.stream = .accepting) :
    (c.input = [] ∧ c.readChar = { result := .error .inputExhausted, console := c.settle }) ∨
    (c.input ≠ [] ∧ Text.Utf8.decode? (takeLine c.input).1 = none ∧
      c.readChar =
        { result := .error (.io .invalidUtf8),
          console := { c.settle with input := (takeLine c.input).2 } }) ∨
    (∃ ch chars, c.input ≠ [] ∧
      Text.Utf8.decode? (takeLine c.input).1 = some (ch :: chars) ∧
      c.readChar.result = charResult ch ∧
      c.readChar.console = { c.settle with input := (takeLine c.input).2, pending := chars }) := by
  by_cases hin : c.input = []
  · exact .inl ⟨hin, readChar_exhausted hp hs hin⟩
  cases hdec : Text.Utf8.decode? (takeLine c.input).1 with
  | none => exact .inr (.inl ⟨hin, rfl, readChar_fetch_invalid hp hs hin hdec⟩)
  | some chars =>
    -- the line is not empty, so neither are its characters
    obtain ⟨b, bs, hline⟩ := List.exists_cons_of_ne_nil (takeLine_fst_ne_nil hin)
    obtain ⟨ch, rest, rfl⟩ := List.exists_cons_of_ne_nil fun hnil =>
      Text.Utf8.decode?_cons_ne_some_nil b bs (hline ▸ hnil ▸ hdec)
    rw [readChar_fetch hp hs hin rfl hdec]
    have hpending :
        ({ c.settle with input := (takeLine c.input).2, pending := ch :: rest } : Console).pending =
          ch :: rest := rfl
    obtain ⟨hres, hcon⟩ := takePending_cons hpending (some (Text.trimEnd (ch :: rest)))
    exact .inr (.inr ⟨ch, rest, hin, rfl, hres, hcon⟩)

/-- A line that decodes to characters is read as those characters. -/
theorem lineResults_of_decode {line : List UInt8} {chars : List Char}
    (hdec : Text.Utf8.decode? line = some chars) : lineResults line = chars.map charResult := by
  simp [lineResults, hdec]

/-- **A read hands out what comes next.** On an accepting output, a read hands out the first of the
results still to come and leaves the others to come, the output still accepting; with none to
come it reports the input exhausted and none are left. -/
theorem readChar_upcoming {c : Console} (hs : c.stream = .accepting) :
    c.readChar.console.stream = .accepting ∧
      (c.upcoming = c.readChar.result :: c.readChar.console.upcoming ∨
        c.upcoming = [] ∧ c.readChar.result = .error .inputExhausted ∧
          c.readChar.console.upcoming = []) := by
  cases hp : c.pending with
  | cons ch rest =>
    -- the current line still has characters
    obtain ⟨hres, hcon⟩ := takePending_cons hp none
    rw [readChar_pending hp, hres, hcon]
    exact ⟨hs, .inl (by simp [upcoming, hp])⟩
  | nil =>
    rcases readChar_fetch_cases hp hs with ⟨hin, hread⟩ | ⟨hin, hdec, hread⟩ |
        ⟨ch, chars, hin, hdec, hres, hcon⟩
    · -- no input left
      rw [hread]
      have hnone : c.upcoming = [] := by simp [upcoming, hp, hin]
      exact ⟨by simp [hs], .inr ⟨hnone, rfl, by simp [upcoming, hp, hin]⟩⟩
    · -- a line that does not decode gives one failure
      rw [hread]
      refine ⟨by simp [hs], .inl ?_⟩
      simp [upcoming, hp, splitLines_eq_takeLine hin, lineResults, hdec]
    · -- a line that decodes gives its characters
      rw [hres, hcon]
      refine ⟨by simp [hs], .inl ?_⟩
      simp [upcoming, hp, splitLines_eq_takeLine hin, lineResults_of_decode hdec]

/-- **The run lemma.** On an accepting output, `n` reads give the first `n` of the results to
come, then report the input exhausted for as many reads as are left. -/
theorem readResults_eq_upcoming {c : Console} (hs : c.stream = .accepting) (n : Nat) :
    readResults n c =
      c.upcoming.take n ++ List.replicate (n - c.upcoming.length) (.error .inputExhausted) := by
  -- induction on the number of reads, from the console each read leaves
  induction n generalizing c with
  | zero => simp [readResults]
  | succ n ih =>
    obtain ⟨hs', hnext⟩ := readChar_upcoming hs
    rw [readResults, ih hs']
    rcases hnext with hcons | ⟨hnil, hres, hnil'⟩
    · rw [hcons]
      simp [Nat.succ_sub_succ]
    · rw [hnil, hres, hnil']
      simp [List.replicate_succ]

/-- A read that has to fetch a line flushes the output first: on an accepting output, every byte
accepted so far has been handed on once it is done, and nothing was written. -/
theorem readChar_flushes {c : Console} (hp : c.pending = []) (hs : c.stream = .accepting) :
    c.readChar.console.delivered = c.written.size ∧ c.readChar.console.written = c.written := by
  rcases readChar_fetch_cases hp hs with
    ⟨-, hread⟩ | ⟨-, -, hread⟩ | ⟨_, _, -, -, -, hcon⟩
  · rw [hread, settle_of_accepting hs]
    exact ⟨rfl, rfl⟩
  · rw [hread, settle_of_accepting hs]
    exact ⟨rfl, rfl⟩
  · rw [hcon, settle_of_accepting hs]
    exact ⟨rfl, rfl⟩

/-- The flush an output that is not accepting refuses. -/
theorem flush_of_ne_accepting {c : Console} (hs : c.stream ≠ .accepting) :
    c.flush = .error (.io .flushRefused) := by
  unfold flush
  cases h : c.stream with
  | accepting => exact absurd h hs
  | closed => rfl
  | refusingFlush => rfl

/-- A read that has to fetch a line, when the output refuses the flush before it, fails with the
flush's error and consumes nothing. -/
theorem readChar_flush_refused {c : Console} (hp : c.pending = []) (hs : c.stream ≠ .accepting) :
    c.readChar = { result := .error (.io .flushRefused), console := c } := by
  unfold readChar
  rw [hp]
  simp only [flush_of_ne_accepting hs]

/-- **Reads follow the lines of the input.** On an accepting output, `n` reads in a row give the
first `n` of: the characters still pending on the current line, then, line after line of the
input, each character of a line that is well-formed UTF-8 (its code point when that fits in
fifteen bits, else a refusal naming it) or one failure for a line that is not, then the input
exhausted on every later read. A read that has to fetch a line flushes the output first; when the
output refuses that flush, the read fails and consumes nothing. -/
theorem reads_follow_lines (c : Console) (n : Nat) :
    (c.stream = .accepting →
      readResults n c = (c.pending.map charResult ++ (splitLines c.input).flatMap lineResults ++
        List.replicate n (.error .inputExhausted : Except Fault Word)).take n) ∧
    (c.pending = [] → c.stream = .accepting →
      c.readChar.console.delivered = c.written.size ∧ c.readChar.console.written = c.written) ∧
    (c.pending = [] → c.stream ≠ .accepting →
      c.readChar.result = .error (.io .flushRefused) ∧ c.readChar.console = c) := by
  refine ⟨fun hs => ?_, readChar_flushes, fun hp hs => ?_⟩
  · -- what is still to come, then the input exhausted forever, cut at `n`
    have htake :
        (c.upcoming ++ List.replicate n (.error .inputExhausted : Except Fault Word)).take n =
          c.upcoming.take n ++ List.replicate (n - c.upcoming.length) (.error .inputExhausted) := by
      rw [List.take_append, List.take_replicate]
      congr 2
      omega
    rw [readResults_eq_upcoming hs n, ← htake]
    rfl
  · rw [readChar_flush_refused hp hs]
    exact ⟨rfl, rfl⟩

/-- A console that reads a line, a line that is not UTF-8, and an unterminated line holding a
character beyond fifteen bits, `😀b`. -/
def lineSample : Console :=
  Console.ofInput [97, 10, 0xFF, 10, 0xF0, 0x9F, 0x98, 0x80, 98]

theorem reads_follow_lines_sample :
    (lineSample.stream = .accepting ∧
      readResults 7 lineSample = (lineSample.pending.map charResult ++
        (splitLines lineSample.input).flatMap lineResults ++
        List.replicate 7 (.error .inputExhausted : Except Fault Word)).take 7) ∧
    (lineSample.pending = [] ∧ lineSample.stream = .accepting ∧
      lineSample.readChar.console.delivered = lineSample.written.size ∧
      lineSample.readChar.console.written = lineSample.written) ∧
    ({ lineSample with stream := .closed }.pending = [] ∧
      { lineSample with stream := .closed }.stream ≠ .accepting ∧
      { lineSample with stream := .closed }.readChar.result = .error (.io .flushRefused) ∧
      { lineSample with stream := .closed }.readChar.console =
        { lineSample with stream := .closed }) :=
  ⟨⟨rfl, (reads_follow_lines lineSample 7).1 rfl⟩,
    ⟨rfl, rfl, (reads_follow_lines lineSample 7).2.1 rfl rfl⟩,
    ⟨rfl, nofun, (reads_follow_lines { lineSample with stream := .closed } 0).2.2 rfl nofun⟩⟩

/- The sample's reads: the line that is not UTF-8 fails once, whole, and the character beyond
fifteen bits is refused and consumed. -/
example : readResults 7 lineSample =
    [.ok 97, .ok 10, .error (.io .invalidUtf8), .error (.invalidInput '😀'), .ok 98,
      .error .inputExhausted, .error .inputExhausted] := by
  rfl

end Console

end WordMachine
