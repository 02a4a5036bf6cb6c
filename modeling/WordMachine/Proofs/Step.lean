import WordMachine.Machine.Step
import WordMachine.Proofs.Semantics

/-!
# One step against the table

A step of the machine decodes the instruction at the program counter, moves the counter past it,
executes it, and on success counts it and reports it to the trace sink. This module compares that
with the reference semantics of `WordMachine.Proofs.Semantics`:

* `Machine.execute_cases` says once what `execute` can do: a success is a row of the table
  (`Exec`), and a failure leaves the computer as it was and is one of the faults the table lists
  (`Instruction.Faults`); neither touches the trace sink or its failed flag.
* `Machine.step_ok_follows_table`: a step that succeeds is a `Step` of the reference semantics,
  for every state and console.
* `Machine.step_error_exactly_on_faults`: a step fails exactly when the instruction does not
  decode or faults, and a failed step leaves the computer (its counter on the faulting
  instruction, its count of cycles, its trace flag) and the trace sink as they were.

The step itself is taken apart by `step_of_decode_error`, `step_of_execute_error` and
`step_of_execute_ok`, one lemma for each way it can go; `step_fst_of_decode_ok` says that once
the instruction decodes, the step reports what `execute` reported.
-/

namespace WordMachine

/-- The complement `not` writes is 32767 less the low 15 bits of its operand. -/
theorem Word.complement_eq_ofNat (x : Word) :
    Word.complement x = .ofNat (32767 - x.toNat % 32768) := by
  apply UInt16.toNat_inj.mp
  have hx := x.toNat_lt
  simp only [Word.complement, Word.maxValue, UInt16.toNat_and, UInt16.toNat_not, UInt16.toNat_ofNat']
  rw [show (UInt16.toNat 0x7FFF) = 2 ^ 15 - 1 from rfl, Nat.and_two_pow_sub_one_eq_mod]
  simp only [UInt16.size] at *
  omega

namespace Memory

theorem read_eq_ok_iff {m : Memory} {a : Address} {w : Word} :
    m.read a = .ok w ↔ m.words[a.toNat]? = some w := by
  unfold read
  by_cases h : a.toNat < m.words.size
  · simp [h]
  · simp [h]

theorem read_eq_error_iff {m : Memory} {a : Address} {e : MemoryError} :
    m.read a = .error e ↔ m.size ≤ a.toNat ∧ e = .outOfBounds a := by
  unfold read size
  by_cases h : a.toNat < m.words.size
  · simp only [h, dite_true, reduceCtorEq, false_iff, not_and]
    intro h'
    omega
  · simp only [h, dite_false, Except.error.injEq]
    constructor
    · rintro rfl
      exact ⟨by omega, rfl⟩
    · rintro ⟨-, rfl⟩
      rfl

theorem write_eq_ok_iff {m m' : Memory} {a : Address} {v : Word} :
    m.write a v = .ok m' ↔ ∃ h : a.toNat < m.words.size, m' = ⟨m.words.set a.toNat v h⟩ := by
  unfold write
  by_cases h : a.toNat < m.words.size
  · simp [h, eq_comm]
  · simp [h]

theorem size_le_of_write_eq_error {m : Memory} {a : Address} {v : Word} {e : MemoryError}
    (h : m.write a v = .error e) : m.size ≤ a.toNat := by
  unfold write at h
  split at h
  · cases h
  · simp only [size]
    omega

end Memory

namespace Machine

@[simp] theorem emit_computer (m : Machine) (e : Diagnostic.Event) :
    (m.emit e).computer = m.computer := rfl

@[simp] theorem emit_console (m : Machine) (e : Diagnostic.Event) :
    (m.emit e).console = m.console := rfl

@[simp] theorem emit_sink (m : Machine) (e : Diagnostic.Event) : (m.emit e).sink = m.sink := rfl

@[simp] theorem withComputer_computer (m : Machine) (f : Computer → Computer) :
    (m.withComputer f).computer = f m.computer := rfl

@[simp] theorem withComputer_console (m : Machine) (f : Computer → Computer) :
    (m.withComputer f).console = m.console := rfl

@[simp] theorem withComputer_sink (m : Machine) (f : Computer → Computer) :
    (m.withComputer f).sink = m.sink := rfl

@[simp] theorem noteFlush_computer (m : Machine) (before : Nat) :
    (m.noteFlush before).computer = m.computer := by
  unfold noteFlush
  split <;> rfl

@[simp] theorem noteFlush_console (m : Machine) (before : Nat) :
    (m.noteFlush before).console = m.console := by
  unfold noteFlush
  split <;> rfl

/-- **What executing an instruction can do.** A success is a row of the table, read against the
machine's state and console; a failure is one of the faults the table lists and leaves the
computer as it was. Either way the trace sink and its failed flag are untouched. -/
theorem execute_cases {m m' : Machine} {i : Instruction} {r : Except Fault (Option Termination)}
    (h : m.execute i = (r, m')) :
    m'.sink = m.sink ∧ m'.computer.traceFailed = m.computer.traceFailed ∧
    match r with
    | .ok t => Exec i m.computer.core m.console t m'.computer.core m'.console
    | .error _ => m'.computer = m.computer ∧ i.Faults m.computer.core m.console := by
  cases i with
  | halt => cases h; exact ⟨rfl, rfl, .halt⟩
  | set r a => cases h; exact ⟨rfl, rfl, .set⟩
  | push a => cases h; exact ⟨rfl, rfl, .push⟩
  | pop r =>
    cases hs : m.computer.stack with
    | nil =>
      simp only [execute, hs, Prod.mk.injEq] at h
      obtain ⟨rfl, rfl⟩ := h
      exact ⟨rfl, rfl, .popEmpty hs⟩
    | cons x rest =>
      simp only [execute, hs, Prod.mk.injEq] at h
      obtain ⟨rfl, rfl⟩ := h
      exact ⟨rfl, rfl, .pop hs⟩
  | eq r a b => cases h; exact ⟨rfl, rfl, .eq⟩
  | gt r a b => cases h; exact ⟨rfl, rfl, .gt⟩
  | jmp a => cases h; exact ⟨rfl, rfl, .jmp⟩
  | jt t a =>
    by_cases ht : t.resolve m.computer.registers = 0
    · simp only [execute, ht, ne_eq, not_true_eq_false, if_false, Prod.mk.injEq] at h
      obtain ⟨rfl, rfl⟩ := h
      exact ⟨rfl, rfl, .jtSkipped ht⟩
    · simp only [execute, ht, ne_eq, not_false_eq_true, if_true, Prod.mk.injEq] at h
      obtain ⟨rfl, rfl⟩ := h
      exact ⟨rfl, rfl, .jtTaken ht⟩
  | jf t a =>
    by_cases ht : t.resolve m.computer.registers = 0
    · simp only [execute, ht, if_true, Prod.mk.injEq] at h
      obtain ⟨rfl, rfl⟩ := h
      exact ⟨rfl, rfl, .jfTaken ht⟩
    · simp only [execute, ht, if_false, Prod.mk.injEq] at h
      obtain ⟨rfl, rfl⟩ := h
      exact ⟨rfl, rfl, .jfSkipped ht⟩
  | add r a b => cases h; exact ⟨rfl, rfl, .add⟩
  | mult r a b => cases h; exact ⟨rfl, rfl, .mult⟩
  | mod r a b =>
    by_cases hb : b.resolve m.computer.registers = 0
    · simp only [execute, hb, if_true, Prod.mk.injEq] at h
      obtain ⟨rfl, rfl⟩ := h
      exact ⟨rfl, rfl, rfl, hb⟩
    · simp only [execute, hb, if_false, Prod.mk.injEq] at h
      obtain ⟨rfl, rfl⟩ := h
      exact ⟨rfl, rfl, .mod hb⟩
  | and r a b => cases h; exact ⟨rfl, rfl, .and⟩
  | or r a b => cases h; exact ⟨rfl, rfl, .or⟩
  | not r a =>
    simp only [execute, Word.complement_eq_ofNat, Prod.mk.injEq] at h
    obtain ⟨rfl, rfl⟩ := h
    exact ⟨rfl, rfl, .not⟩
  | rmem r a =>
    cases hr : m.computer.memory.read (a.resolve m.computer.registers) with
    | ok w =>
      simp only [execute, hr, Prod.mk.injEq] at h
      obtain ⟨rfl, rfl⟩ := h
      exact ⟨rfl, rfl, .rmem (Memory.read_eq_ok_iff.mp hr)⟩
    | error e =>
      simp only [execute, hr, Prod.mk.injEq] at h
      obtain ⟨rfl, rfl⟩ := h
      exact ⟨rfl, rfl, rfl, (Memory.read_eq_error_iff.mp hr).1⟩
  | wmem a b =>
    cases hw : m.computer.memory.write (a.resolve m.computer.registers)
        (b.resolve m.computer.registers) with
    | ok mem =>
      simp only [execute, hw, Prod.mk.injEq] at h
      obtain ⟨rfl, rfl⟩ := h
      obtain ⟨hlt, rfl⟩ := Memory.write_eq_ok_iff.mp hw
      refine ⟨rfl, rfl, .wmem ?_⟩
      exact hlt
    | error e =>
      simp only [execute, hw, Prod.mk.injEq] at h
      obtain ⟨rfl, rfl⟩ := h
      exact ⟨rfl, rfl, rfl, Memory.size_le_of_write_eq_error hw⟩
  | call a => cases h; exact ⟨rfl, rfl, .call⟩
  | ret =>
    cases hs : m.computer.stack with
    | nil =>
      simp only [execute, hs, Prod.mk.injEq] at h
      obtain ⟨rfl, rfl⟩ := h
      exact ⟨rfl, rfl, .retEmpty hs⟩
    | cons x rest =>
      simp only [execute, hs, Prod.mk.injEq] at h
      obtain ⟨rfl, rfl⟩ := h
      exact ⟨rfl, rfl, .ret hs⟩
  | out a =>
    cases hw : m.console.writeChar (a.resolve m.computer.registers) with
    | mk r' con' =>
      cases r' with
      | ok u =>
        simp only [execute, hw, Prod.mk.injEq] at h
        obtain ⟨rfl, rfl⟩ := h
        exact ⟨rfl, rfl, .out hw⟩
      | error e =>
        simp only [execute, hw, Prod.mk.injEq] at h
        obtain ⟨rfl, rfl⟩ := h
        exact ⟨rfl, rfl, rfl, e, congrArg Prod.fst hw⟩
  | input r =>
    -- the line a read fetched is only reported, so both cases of it end alike
    cases hl : m.console.readChar.line <;> cases hr : m.console.readChar.result with
    | ok w =>
      simp only [execute, hr, hl, Prod.mk.injEq] at h
      obtain ⟨rfl, rfl⟩ := h
      exact ⟨rfl, rfl, .input hr⟩
    | error e =>
      simp only [execute, hr, hl, Prod.mk.injEq] at h
      obtain ⟨rfl, rfl⟩ := h
      exact ⟨rfl, rfl, rfl, e, hr⟩
  | noop => cases h; exact ⟨rfl, rfl, .noop⟩

/-- An instruction fails exactly when the table says it faults. -/
theorem execute_error_iff (m : Machine) (i : Instruction) :
    (∃ e, (m.execute i).1 = .error e) ↔ i.Faults m.computer.core m.console := by
  cases hx : m.execute i with
  | mk r m' =>
    obtain ⟨-, -, h⟩ := execute_cases hx
    cases r with
    | error e => exact ⟨fun _ => h.2, fun _ => ⟨e, rfl⟩⟩
    | ok t =>
      constructor
      · rintro ⟨_, he⟩
        cases he
      · intro hf
        exact absurd hf h.not_faults

/-- The machine as a step hands it to `execute`: the counter moved past the instruction. -/
def enter (m : Machine) (i : Instruction) (next : Address) : Machine :=
  (m.withComputer fun c => { c with pc := next }).emit (.executing m.computer.pc i)

section Step

variable {m m₂ : Machine} {i : Instruction} {next : Address} {e : Fault}

/-- A step at an instruction that does not decode fails and changes nothing. -/
theorem step_of_decode_error (hd : Instruction.decode m.computer.memory m.computer.pc = .error e) :
    m.step = (.error e, m) := by
  unfold step
  simp only [hd]

/-- A step whose instruction fails puts the counter back on the instruction. -/
theorem step_of_execute_error (hd : Instruction.decode m.computer.memory m.computer.pc = .ok (i, next))
    (hx : (m.enter i next).execute i = (.error e, m₂)) :
    m.step = (.error e, m₂.withComputer fun c => { c with pc := m.computer.pc }) := by
  unfold step
  simp only [hd]
  unfold enter at hx
  rw [hx]

/-- A step whose instruction succeeds counts it; reporting it to the trace sink changes neither the
state instructions act on nor the console. -/
theorem step_of_execute_ok {t : Option Termination}
    (hd : Instruction.decode m.computer.memory m.computer.pc = .ok (i, next))
    (hx : (m.enter i next).execute i = (.ok t, m₂)) :
    m.step.1 = .ok t ∧ m.step.2.console = m₂.console ∧
      m.step.2.computer.core = { m₂.computer.core with cycles := m₂.computer.cycles + 1 } := by
  unfold step
  unfold enter at hx
  simp only [hd, hx]
  -- the trace sink is handed a record only when it is enabled and has not failed
  split
  · exact ⟨rfl, rfl, rfl⟩
  · split <;> simp <;> rfl

/-- **A step that succeeds follows the table.** For every machine, whenever a step succeeds, its
result, the state instructions act on and the console after it are those of a `Step` of the
reference semantics, from the machine's state and console. -/
theorem step_ok_follows_table {m m' : Machine} {t : Option Termination}
    (h : m.step = (.ok t, m')) : Step m.computer.core m.console t m'.computer.core m'.console := by
  cases hd : Instruction.decode m.computer.memory m.computer.pc with
  | error e =>
    rw [step_of_decode_error hd] at h
    cases h
  | ok p =>
    obtain ⟨i, next⟩ := p
    cases hx : (m.enter i next).execute i with
    | mk r m₂ =>
      cases r with
      | error e =>
        rw [step_of_execute_error hd hx] at h
        cases h
      | ok t' =>
        obtain ⟨hres, hcon, hcore⟩ := step_of_execute_ok hd hx
        simp only [h] at hres hcon hcore
        cases hres
        obtain ⟨-, -, hexec⟩ := execute_cases hx
        -- `execute` ran on the machine with its counter past the instruction, and counted nothing
        have hcycles : m₂.computer.cycles = m.computer.cycles := hexec.cycles_eq
        rw [hcon, hcore, hcycles]
        exact .mk hd hexec

/-- A machine about to add 4 to register 1, which holds 65535, into register 0; the trace sink is
off. -/
def addSample : Machine :=
  { computer := { memory := ⟨#[9, 32768, 32769, 4]⟩, registers := Registers.zero.set ⟨1⟩ 65535 }
    console := Console.ofInput []
    sink := TraceSink.off }

theorem step_ok_follows_table_add :
    addSample.step.1 = .ok none ∧
      Step addSample.computer.core addSample.console none
        addSample.step.2.computer.core addSample.step.2.console :=
  ⟨rfl, step_ok_follows_table (show addSample.step = (.ok none, addSample.step.2) from rfl)⟩

/-- Once the instruction decodes, a step reports what executing it reported. -/
theorem step_fst_of_decode_ok (hd : Instruction.decode m.computer.memory m.computer.pc = .ok (i, next)) :
    m.step.1 = ((m.enter i next).execute i).1 := by
  cases hx : (m.enter i next).execute i with
  | mk r m₂ =>
    cases r with
    | error e => rw [step_of_execute_error hd hx]
    | ok t => exact (step_of_execute_ok hd hx).1

/-- **A step fails exactly on a fault, and then changes nothing.** For every machine, a step fails
exactly when the instruction at the program counter does not decode, or decodes to an instruction
that the table says faults. A failed step leaves the computer as it was (its counter on the
faulting instruction, its count of cycles, its trace flag, its registers, stack and memory) and
the trace sink too; only the console may have changed. -/
theorem step_error_exactly_on_faults (m : Machine) :
    ((∃ e, m.step.1 = .error e) ↔
      (∃ e, Instruction.decode m.computer.memory m.computer.pc = .error e) ∨
      ∃ i next, Instruction.decode m.computer.memory m.computer.pc = .ok (i, next) ∧
        i.Faults m.computer.core m.console) ∧
    ∀ e, m.step.1 = .error e → m.step.2.computer = m.computer ∧ m.step.2.sink = m.sink := by
  cases hd : Instruction.decode m.computer.memory m.computer.pc with
  | error e =>
    rw [step_of_decode_error hd]
    exact ⟨⟨fun _ => .inl ⟨e, rfl⟩, fun _ => ⟨e, rfl⟩⟩, fun _ _ => ⟨rfl, rfl⟩⟩
  | ok p =>
    obtain ⟨i, next⟩ := p
    -- only the decoded instruction can fault
    have hdecoded : ((∃ e, (Except.ok (i, next) : Except Fault _) = .error e) ∨
        ∃ i' next', (Except.ok (i, next) : Except Fault _) = .ok (i', next') ∧
          i'.Faults m.computer.core m.console) ↔ i.Faults m.computer.core m.console := by
      simp
    -- and it faults exactly when executing it fails, wherever the counter stands
    have hfaults : (∃ e, m.step.1 = .error e) ↔ i.Faults m.computer.core m.console := by
      rw [step_fst_of_decode_ok hd, execute_error_iff]
      exact Instruction.faults_setPc i m.computer.core m.console next
    refine ⟨hfaults.trans hdecoded.symm, fun e he => ?_⟩
    cases hx : (m.enter i next).execute i with
    | mk r m₂ =>
      obtain ⟨hsink, -, h⟩ := execute_cases hx
      cases r with
      | error e' =>
        rw [step_of_execute_error hd hx]
        refine ⟨?_, hsink⟩
        -- the counter goes back to the instruction, and nothing else had changed
        simp only [withComputer_computer, h.1]
        rfl
      | ok t =>
        rw [step_fst_of_decode_ok hd, hx] at he
        cases he

/-- A step either fails and leaves the computer as it was, or carries out the instruction that
decodes at the program counter as a row of the table says, from the counter past it, and counts
it. -/
theorem step_cases (m : Machine) :
    m.step.2.computer = m.computer ∨
    ∃ i next t s' con', Instruction.decode m.computer.memory m.computer.pc = .ok (i, next) ∧
      Exec i { m.computer.core with pc := next } m.console t s' con' ∧
      m.step.2.computer.core = { s' with cycles := m.computer.cycles + 1 } := by
  cases hs : m.step with
  | mk r m' =>
    cases r with
    | error e =>
      have hsame := ((step_error_exactly_on_faults m).2 e (by rw [hs])).1
      rw [hs] at hsame
      exact .inl hsame
    | ok t =>
      obtain ⟨i, next, s', hd, hexec, hcore⟩ := (step_ok_follows_table hs).inv
      exact .inr ⟨i, next, t, s', _, hd, hexec, hcore⟩

end Step

end Machine

end WordMachine
