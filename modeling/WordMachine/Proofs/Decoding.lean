import WordMachine.Instruction.Decode

/-!
# Decoding reads an instruction's fields in order

The words of an instruction are fields: the first is the opcode, and each operand is a
destination, which must name a register, or a source, which may also be a literal. An opcode's
fields are a table (`Opcode.fields`), and the `j`-th word of the instruction at `a` is read at
`slotAddress a j`, which wraps from `65535` to `0`.

`Instruction.decode` is a hand-written match over the 22 opcodes. This module proves that it reads
exactly what the table says, field after field, stopping at the first word that does not fit
(`Instruction.decode_reads_fields`):

* it succeeds exactly when every slot of the instruction lies in memory and holds a word its
  field accepts;
* then the instruction's encoding is exactly those words, its opcode is the first word's, and
  the address after it is `a` plus its width, modulo `2^16`;
* otherwise the fault is the one the first failing slot raises: an access past the end of memory
  at that slot's address, an unknown opcode at `a`, or an invalid destination or operand word.

The table is read by a generic loop, `Memory.readFields`; the proof shows once that the hand
written match computes the same words and faults (`Instruction.decode_map_encode`), and then
reads the three facts off the loop by induction over the list of fields.
-/

namespace WordMachine

/-- What a word of an instruction must hold, by its place in the instruction. -/
inductive Instruction.Field where
  /-- The first word: an opcode number, `0` to `21`. -/
  | opcode
  /-- A register the instruction writes: one of the eight register names. -/
  | destination
  /-- A value the instruction reads: a literal below `32768` or a register name. -/
  | source
  deriving DecidableEq, Repr

namespace Instruction.Field

/-- The words a field accepts. -/
def accepts : Field → Word → Bool
  | opcode, w => w.toNat ≤ 21
  | destination, w => 32768 ≤ w.toNat && w.toNat ≤ 32775
  | source, w => w.toNat ≤ 32775

/-- The fault raised by a word that the field rejects, in the instruction at `address`. -/
def fault (address : Address) : Field → Word → Fault
  | opcode, w => .unknownOpcode w address
  | destination, w => .decode (.invalidDestination w)
  | source, w => .decode (.invalidOperand w)

end Instruction.Field

open Instruction (Field)

namespace Opcode

/-- The fields of an opcode's operands, in the order of their words. -/
def operandFields : Opcode → List Field
  | halt | ret | noop => []
  | push | jmp | call | out => [.source]
  | pop | input => [.destination]
  | set | not | rmem => [.destination, .source]
  | jt | jf | wmem => [.source, .source]
  | eq | gt | add | mult | mod | and | or => [.destination, .source, .source]

/-- The fields of an instruction with this opcode: the opcode itself, then its operands. -/
def fields (op : Opcode) : List Field := .opcode :: op.operandFields

/-- An instruction has one field per word. -/
theorem length_fields (op : Opcode) : op.fields.length = 1 + op.arity := by
  cases op <;> rfl

/-- The words that name an opcode are its number. -/
theorem ofWord?_eq_some_iff {w : Word} {op : Opcode} : ofWord? w = some op ↔ w = op.toWord := by
  constructor
  · intro h
    obtain ⟨hn, rfl⟩ := List.getElem?_eq_some_iff.mp h
    have hlt : w.toNat < 22 := by simpa [all] using hn
    have key : ∀ n (h : n < 22), (all.get ⟨n, by simp [all]; omega⟩).toWord.toNat = n := by
      decide
    exact UInt16.toNat_inj.mp (key w.toNat hlt).symm
  · rintro rfl
    exact ofWord?_toWord op

/-- A word names no opcode exactly when it is above `21`. -/
theorem ofWord?_eq_none_iff {w : Word} : ofWord? w = none ↔ 21 < w.toNat := by
  simp only [ofWord?, List.getElem?_eq_none_iff, all, List.length_cons, List.length_nil]
  omega

end Opcode

/-- The address of the `j`-th word of the instruction at `a`; it wraps from `65535` to `0`. -/
def slotAddress (a : Address) (j : Nat) : Address := a + j.toUInt16

theorem toNat_slotAddress (a : Address) (j : Nat) :
    (slotAddress a j).toNat = (a.toNat + j) % 65536 := by
  simp [slotAddress, UInt16.toNat_add]

namespace Memory

/-- The word at an address, if the address is below the memory's length. -/
def wordAt? (m : Memory) (a : Address) : Option Word := m.words[a.toNat]?

/-- The `j`-th slot of the instruction at `a` lies in memory and holds a word that `f` accepts. -/
def Fits (m : Memory) (a : Address) (j : Nat) (f : Field) : Prop :=
  ∃ w, m.wordAt? (slotAddress a j) = some w ∧ f.accepts w

/-- The fault that the `j`-th slot of the instruction at `a` raises when it does not fit `f`. -/
def slotFault (m : Memory) (a : Address) (j : Nat) (f : Field) : Fault :=
  match m.wordAt? (slotAddress a j) with
  | none => .memory (.outOfBounds (slotAddress a j))
  | some w => f.fault a w

/-- The fields the instruction at `a` is read against: its opcode's, once the first word names
an opcode, and else the opcode field alone, which that word fails. -/
def fieldsAt (m : Memory) (a : Address) : List Field :=
  match (m.wordAt? a).bind Opcode.ofWord? with
  | some op => op.fields
  | none => [.opcode]

/-- Reads the `j`-th slot of the instruction at `a` as field `f`. -/
def readSlot (m : Memory) (a : Address) (j : Nat) (f : Field) : Except Fault Word :=
  match m.wordAt? (slotAddress a j) with
  | none => .error (.memory (.outOfBounds (slotAddress a j)))
  | some w => if f.accepts w then .ok w else .error (f.fault a w)

/-- Reads the given fields from the `j`-th slot of the instruction at `a` on, one slot each,
stopping at the first that does not fit. -/
def readFields (m : Memory) (a : Address) : Nat → List Field → Except Fault (List Word)
  | _, [] => pure []
  | j, f :: fs => do
    let w ← m.readSlot a j f
    let ws ← m.readFields a (j + 1) fs
    pure (w :: ws)

theorem fetch_eq (m : Memory) (a : Address) :
    m.fetch a = match m.wordAt? a with
      | some w => pure w
      | none => .error (.memory (.outOfBounds a)) := by
  unfold fetch read wordAt?
  by_cases h : a.toNat < m.words.size
  · rw [dif_pos h, getElem?_pos m.words a.toNat h]
    rfl
  · rw [dif_neg h, getElem?_neg m.words a.toNat h]
    rfl

theorem readSlot_eq_ok_iff {m : Memory} {a : Address} {j : Nat} {f : Field} {w : Word} :
    m.readSlot a j f = .ok w ↔ m.wordAt? (slotAddress a j) = some w ∧ f.accepts w := by
  unfold readSlot
  cases m.wordAt? (slotAddress a j) with
  | none => simp
  | some v => by_cases hv : f.accepts v <;> simp [hv] <;> grind

theorem readSlot_eq_error_iff {m : Memory} {a : Address} {j : Nat} {f : Field} {e : Fault} :
    m.readSlot a j f = .error e ↔ ¬ m.Fits a j f ∧ e = m.slotFault a j f := by
  unfold readSlot Fits slotFault
  cases m.wordAt? (slotAddress a j) with
  | none =>
    simp only [Except.error.injEq, reduceCtorEq, false_and, exists_false, not_false_eq_true,
      true_and]
    exact eq_comm
  | some v =>
    by_cases hv : f.accepts v
    · simp [hv]
    · simp only [hv, Bool.false_eq_true, if_false, Except.error.injEq, Option.some.injEq,
        exists_eq_left', not_false_eq_true, true_and]
      exact eq_comm

theorem readFields_cons_of_ok {m : Memory} {a : Address} {j : Nat} {f : Field} {w : Word}
    (fs : List Field) (hs : m.readSlot a j f = .ok w) :
    m.readFields a j (f :: fs) = (w :: ·) <$> m.readFields a (j + 1) fs := by
  simp only [readFields, hs]
  rfl

theorem readFields_cons_of_error {m : Memory} {a : Address} {j : Nat} {f : Field} {e : Fault}
    (fs : List Field) (hs : m.readSlot a j f = .error e) :
    m.readFields a j (f :: fs) = .error e := by
  simp only [readFields, hs]
  rfl

/-- A property of every field of a list, by position, is one of its head and one of its tail. -/
theorem forall_fields_cons {P : Nat → Field → Prop} {f : Field} {fs : List Field} :
    (∀ k (h : k < (f :: fs).length), P k (f :: fs)[k]) ↔
      P 0 f ∧ ∀ k (h : k < fs.length), P (k + 1) fs[k] := by
  constructor
  · intro h
    exact ⟨h 0 (by simp), fun k hk => h (k + 1) (by simp; omega)⟩
  · rintro ⟨h0, hs⟩ k hk
    cases k with
    | zero => exact h0
    | succ k => exact hs k (by simpa using hk)

/-- The fields are read exactly when every slot fits its field. -/
theorem readFields_isOk_iff (m : Memory) (a : Address) (fs : List Field) (j : Nat) :
    (∃ ws, m.readFields a j fs = .ok ws) ↔ ∀ k (h : k < fs.length), m.Fits a (j + k) fs[k] := by
  induction fs generalizing j with
  | nil => exact ⟨fun _ k h => absurd h (by simp), fun _ => ⟨[], rfl⟩⟩
  | cons f fs ih =>
    rw [forall_fields_cons, Nat.add_zero]
    cases hs : m.readSlot a j f with
    | error e =>
      have hnot := (readSlot_eq_error_iff.mp hs).1
      rw [readFields_cons_of_error fs hs]
      constructor
      · rintro ⟨_, h⟩
        cases h
      · intro h
        exact absurd h.1 hnot
    | ok w =>
      have hfit : m.Fits a j f := ⟨w, readSlot_eq_ok_iff.mp hs⟩
      -- the tail's slots are numbered from `j + 1`
      have hshift : (∀ k (h : k < fs.length), m.Fits a (j + (k + 1)) fs[k]) ↔
          ∀ k (h : k < fs.length), m.Fits a (j + 1 + k) fs[k] := by
        simp only [Nat.add_assoc, Nat.add_comm 1]
      rw [readFields_cons_of_ok fs hs, hshift, ← ih (j + 1)]
      constructor
      · rintro ⟨ws, h⟩
        cases hr : m.readFields a (j + 1) fs with
        | error e => rw [hr] at h; cases h
        | ok ws' => exact ⟨hfit, ws', rfl⟩
      · rintro ⟨-, ws, h⟩
        exact ⟨w :: ws, by rw [h]; rfl⟩

/-- The words read are those of the slots, one per field. -/
theorem readFields_eq_ok {m : Memory} {a : Address} {fs : List Field} {j : Nat} {ws : List Word}
    (h : m.readFields a j fs = .ok ws) :
    (List.range fs.length).map (fun k => m.wordAt? (slotAddress a (j + k))) = ws.map some := by
  induction fs generalizing j ws with
  | nil => cases h; rfl
  | cons f fs ih =>
    cases hs : m.readSlot a j f with
    | error e => rw [readFields_cons_of_error fs hs] at h; cases h
    | ok w =>
      rw [readFields_cons_of_ok fs hs] at h
      cases hr : m.readFields a (j + 1) fs with
      | error e => rw [hr] at h; cases h
      | ok ws' =>
        rw [hr] at h
        cases h
        have hhead := (readSlot_eq_ok_iff.mp hs).1
        have htail := ih hr
        simp only [List.length_cons, List.range_succ_eq_map, List.map_cons, List.map_map,
          Nat.add_zero, hhead, List.cons.injEq, true_and]
        rw [← htail]
        congr 1
        funext k
        simp only [Function.comp, Nat.succ_eq_add_one, Nat.add_assoc, Nat.add_comm 1]

/-- A failed read stops at the first slot that does not fit its field, with that slot's fault. -/
theorem readFields_eq_error {m : Memory} {a : Address} {fs : List Field} {j : Nat} {e : Fault}
    (h : m.readFields a j fs = .error e) :
    ∃ k, ∃ hk : k < fs.length, (∀ k' (hk' : k' < k), m.Fits a (j + k') fs[k']) ∧
      ¬ m.Fits a (j + k) fs[k] ∧ e = m.slotFault a (j + k) fs[k] := by
  induction fs generalizing j with
  | nil => cases h
  | cons f fs ih =>
    cases hs : m.readSlot a j f with
    | error e' =>
      rw [readFields_cons_of_error fs hs] at h
      cases h
      obtain ⟨hnot, rfl⟩ := readSlot_eq_error_iff.mp hs
      exact ⟨0, by simp, fun k' hk' => absurd hk' (Nat.not_lt_zero k'), hnot, rfl⟩
    | ok w =>
      have hfit : m.Fits a j f := ⟨w, readSlot_eq_ok_iff.mp hs⟩
      rw [readFields_cons_of_ok fs hs] at h
      cases hr : m.readFields a (j + 1) fs with
      | ok ws => rw [hr] at h; cases h
      | error e' =>
        rw [hr] at h
        cases h
        obtain ⟨k, hk, hbefore, hnot, rfl⟩ := ih hr
        -- the failing slot of the tail is slot `k + 1` of the whole list
        have hshift : j + 1 + k = j + (k + 1) := by omega
        refine ⟨k + 1, by simpa using hk, fun k' hk' => ?_, by simpa [hshift] using hnot,
          by simp [hshift]⟩
        cases k' with
        | zero => exact hfit
        | succ k' =>
          have := hbefore k' (by omega)
          simpa [Nat.add_assoc, Nat.add_comm 1] using this

end Memory

/-! ## The hand-written decoder reads the table -/

/-- Mapping the result commutes with mapping the error. -/
theorem Except.map_mapError {ε ε' α β : Type} (f : α → β) (g : ε → ε') (x : Except ε α) :
    f <$> x.mapError g = (f <$> x).mapError g := by
  cases x <;> rfl

/-- A source word reads back as itself exactly when it is at most the last register name. -/
theorem Operand.encode_map_decode (w : Word) :
    Operand.encode <$> Operand.decode w =
      if w.toNat ≤ 32775 then .ok w else .error (.invalidOperand w) := by
  unfold Operand.decode
  by_cases hw : w ≤ Word.maxValue
  · have : w.toNat ≤ 32775 := by
      simp only [Word.maxValue, UInt16.le_iff_toNat_le] at hw
      simp at hw
      omega
    simp [hw, this, Functor.map, Except.map, Operand.encode]
  · cases hr : Reg.ofEncoding? w with
    | some r =>
      obtain rfl := Reg.ofEncoding?_eq_some_iff.mp hr
      have : r.encoding.toNat ≤ 32775 := by
        have := Reg.encoding_toNat r
        have := r.index.isLt
        omega
      simp [hw, this, Functor.map, Except.map, Operand.encode]
    | none =>
      -- a word above the literals that names no register is above the last register name
      have : ¬ w.toNat ≤ 32775 := by
        simp only [Reg.ofEncoding?] at hr
        simp only [Word.maxValue, UInt16.le_iff_toNat_le] at hw
        simp at hw
        split at hr
        · cases hr
        · omega
      simp [hw, this, Functor.map, Except.map]

/-- A destination word reads back as itself exactly when it is a register name. -/
theorem Reg.encoding_map_decodeDestination (w : Word) :
    Reg.encoding <$> Operand.decodeDestination w =
      if 32768 ≤ w.toNat ∧ w.toNat ≤ 32775 then .ok w else .error (.invalidDestination w) := by
  unfold Operand.decodeDestination
  cases hr : Reg.ofEncoding? w with
  | some r =>
    obtain rfl := Reg.ofEncoding?_eq_some_iff.mp hr
    have : 32768 ≤ r.encoding.toNat ∧ r.encoding.toNat ≤ 32775 := by
      have := Reg.encoding_toNat r
      have := r.index.isLt
      omega
    simp [this, Functor.map, Except.map]
  | none =>
    have : ¬ (32768 ≤ w.toNat ∧ w.toNat ≤ 32775) := by
      simp only [Reg.ofEncoding?] at hr
      split at hr
      · cases hr
      · omega
    simp [this, Functor.map, Except.map]

namespace Memory

/-- Fetching a destination reads its slot as a destination field. -/
theorem readSlot_destination (m : Memory) (a : Address) (j : Nat) :
    m.readSlot a j .destination = Reg.encoding <$> m.fetchDestination (slotAddress a j) := by
  unfold readSlot fetchDestination
  rw [fetch_eq]
  cases m.wordAt? (slotAddress a j) with
  | none => rfl
  | some w =>
    show _ = Reg.encoding <$> (Operand.decodeDestination w).mapError Fault.decode
    rw [Except.map_mapError, Reg.encoding_map_decodeDestination]
    simp only [Field.accepts, Field.fault, Bool.and_eq_true, decide_eq_true_eq]
    split <;> rfl

/-- Fetching a source reads its slot as a source field. -/
theorem readSlot_source (m : Memory) (a : Address) (j : Nat) :
    m.readSlot a j .source = Operand.encode <$> m.fetchSource (slotAddress a j) := by
  unfold readSlot fetchSource
  rw [fetch_eq]
  cases m.wordAt? (slotAddress a j) with
  | none => rfl
  | some w =>
    show _ = Operand.encode <$> (Operand.decode w).mapError Fault.decode
    rw [Except.map_mapError, Operand.encode_map_decode]
    simp only [Field.accepts, Field.fault, decide_eq_true_eq]
    split <;> rfl

/-- The first word of an instruction, when it names an opcode, is read as the opcode field. -/
theorem readSlot_opcode {m : Memory} {a : Address} {w : Word} {op : Opcode}
    (hw : m.wordAt? a = some w) (hop : Opcode.ofWord? w = some op) :
    m.readSlot a 0 .opcode = pure w := by
  have hne : Opcode.ofWord? w ≠ none := by
    rw [hop]
    exact Option.some_ne_none op
  have : w.toNat ≤ 21 := by
    have := mt Opcode.ofWord?_eq_none_iff.mpr hne
    omega
  simp [readSlot, slotAddress, hw, Field.accepts, this]
  rfl

end Memory

namespace Instruction

/-- **The decoder reads the table.** Decoding gives the same words and the same faults as reading
the fields of the instruction at `a` one slot after the other; the address after the instruction
is `a` plus the number of words read. -/
theorem decode_map_encode (m : Memory) (a : Address) :
    (fun p : Instruction × Address => (p.1.encode, p.2)) <$> decode m a =
      (fun ws => (ws, slotAddress a ws.length)) <$> m.readFields a 0 (m.fieldsAt a) := by
  unfold decode Memory.fieldsAt
  rw [Memory.fetch_eq]
  cases hw : m.wordAt? a with
  | none =>
    simp [Memory.readFields, Memory.readSlot, slotAddress, hw]
    rfl
  | some w =>
    cases hop : Opcode.ofWord? w with
    | none =>
      have : ¬ w.toNat ≤ 21 := by
        have := Opcode.ofWord?_eq_none_iff.mp hop
        omega
      simp [Memory.readFields, Memory.readSlot, slotAddress, hw, hop, Field.accepts, Field.fault,
        this]
      rfl
    | some op =>
      simp only [pure_bind, Option.bind_some, hop]
      rw [Opcode.fields, Memory.readFields, Memory.readSlot_opcode hw hop, pure_bind,
        Opcode.ofWord?_eq_some_iff.mp hop]
      -- one chain of fetches per opcode, against the same chain of slot reads
      cases op <;>
        simp [Memory.readFields, Memory.readSlot_source, Memory.readSlot_destination,
          Opcode.operandFields, slotAddress, encode, slots, opcode, Slot.encode, UInt16.add_assoc]

/-- An instruction has as many words as its width. -/
theorem length_encode (i : Instruction) : i.encode.length = i.width := by
  simp only [encode, width, List.length_cons, List.length_map, length_slots]
  omega

/-- A result either holds a value or an error. -/
theorem isOk_iff_forall_ne_error {β : Type} (x : Except Fault β) :
    (∃ r, x = .ok r) ↔ ∀ e, x ≠ .error e := by
  cases x <;> simp

/-- Decoding fails exactly when reading the fields does, with the same fault. -/
theorem decode_eq_error_iff {m : Memory} {a : Address} {e : Fault} :
    decode m a = .error e ↔ m.readFields a 0 (m.fieldsAt a) = .error e := by
  have hb := decode_map_encode m a
  cases hd : decode m a with
  | error e' =>
    cases hr : m.readFields a 0 (m.fieldsAt a) with
    | error e'' =>
      rw [hd, hr] at hb
      cases hb
      simp
    | ok ws =>
      rw [hd, hr] at hb
      cases hb
  | ok p =>
    cases hr : m.readFields a 0 (m.fieldsAt a) with
    | error e'' =>
      rw [hd, hr] at hb
      cases hb
    | ok ws => simp

/-- A decoded instruction is the words its fields read, and the next address follows them. -/
theorem readFields_of_decode_eq_ok {m : Memory} {a : Address} {i : Instruction} {next : Address}
    (h : decode m a = .ok (i, next)) :
    m.readFields a 0 (m.fieldsAt a) = .ok i.encode ∧ next = slotAddress a i.width := by
  have hb := decode_map_encode m a
  rw [h] at hb
  cases hr : m.readFields a 0 (m.fieldsAt a) with
  | error e =>
    rw [hr] at hb
    cases hb
  | ok ws =>
    rw [hr] at hb
    simp only [Functor.map, Except.map, Except.ok.injEq, Prod.mk.injEq] at hb
    obtain ⟨rfl, rfl⟩ := hb
    exact ⟨rfl, by rw [length_encode]⟩

/-- **Decoding follows the field table.** The instruction at `a` decodes exactly when each of
its slots lies in memory and holds a word its field accepts; then its words are the encoding of
the instruction, its first word names the instruction's opcode, and the next address is `a`
plus the width, modulo `2^16`. A failure is the fault of the first slot that does not fit. -/
theorem decode_reads_fields (m : Memory) (a : Address) :
    ((∃ r, decode m a = .ok r) ↔
        ∀ j (h : j < (m.fieldsAt a).length), m.Fits a j (m.fieldsAt a)[j]) ∧
    (∀ i next, decode m a = .ok (i, next) →
        (m.wordAt? a).bind Opcode.ofWord? = some i.opcode ∧
        (List.range i.width).map (fun j => m.wordAt? (slotAddress a j)) = i.encode.map some ∧
        next.toNat = (a.toNat + i.width) % 65536) ∧
    (∀ e, decode m a = .error e →
        ∃ j, ∃ h : j < (m.fieldsAt a).length,
          (∀ k (hk : k < j), m.Fits a k (m.fieldsAt a)[k]) ∧
          ¬ m.Fits a j (m.fieldsAt a)[j] ∧ e = m.slotFault a j (m.fieldsAt a)[j]) := by
  refine ⟨?_, ?_, ?_⟩
  · rw [isOk_iff_forall_ne_error]
    simp only [ne_eq, decode_eq_error_iff, ← isOk_iff_forall_ne_error,
      Memory.readFields_isOk_iff, Nat.zero_add]
  · intro i next h
    obtain ⟨hr, rfl⟩ := readFields_of_decode_eq_ok h
    have hwords := Memory.readFields_eq_ok hr
    have hlen : (m.fieldsAt a).length = i.width := by
      simpa [length_encode] using congrArg List.length hwords
    simp only [Nat.zero_add, hlen] at hwords
    -- the first word read is the opcode's number
    have hfirst : m.wordAt? a = some i.opcode.toWord := by
      have h0 := congrArg (·[0]?) hwords
      have hpos : 0 < i.width := by simp only [width]; omega
      simpa [hpos, slotAddress, encode] using h0
    refine ⟨by simp [hfirst, Opcode.ofWord?_toWord], hwords, toNat_slotAddress a i.width⟩
  · intro e h
    simpa using Memory.readFields_eq_error (decode_eq_error_iff.mp h)

end Instruction

end WordMachine
