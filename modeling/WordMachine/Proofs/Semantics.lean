import WordMachine.Machine.Basic
import WordMachine.Instruction.Decode

/-!
# The instruction set's table

A reference semantics for the machine, written from the instruction set's table and not from the
step function: `Exec` has one rule per row (two where a row has two outcomes), and `Step` fetches,
decodes, executes and counts. The state is `Core`, the part of a computer that instructions act
on; the console is carried beside it, since `in` reads it and `out` writes it.

`Exec` is stated for a state whose program counter already points after the instruction: that is
the address `call` pushes, and the one every instruction but a jump, `call` and `ret` leaves in
place. Every source operand is read against the registers before the instruction, so a
destination that is also a source is read first and written last.

`Instruction.Faults` lists the instructions that cannot be carried out: `mod` by zero, `rmem` and
`wmem` outside memory, and `out` or `in` when the console fails. `Exec` has no rule for them, and
`Exec.not_faults` says so.
-/

namespace WordMachine

/-- The part of a computer that instructions act on. -/
structure Core where
  /-- Code and data. -/
  memory : Memory
  /-- The eight registers. -/
  registers : Registers
  /-- The stack, top first. -/
  stack : List Word
  /-- The program counter. -/
  pc : Address
  /-- The number of instructions executed. -/
  cycles : Nat

/-- The value a source operand stands for, against the registers of the state. -/
def Core.value (s : Core) (o : Operand) : Word := o.resolve s.registers

/-- The part of a computer that instructions act on. -/
def Computer.core (c : Computer) : Core := ⟨c.memory, c.registers, c.stack, c.pc, c.cycles⟩

/-- What an instruction does, row by row of the table: the result it stops with (`some` once the
program stopped), the state after it and the console after it. -/
inductive Exec : Instruction → Core → Console → Option Termination → Core → Console → Prop
  | halt : Exec .halt s con (some .halted) s con
  | set : Exec (.set r a) s con none { s with registers := s.registers.set r (s.value a) } con
  | push : Exec (.push a) s con none { s with stack := s.value a :: s.stack } con
  | pop : s.stack = x :: rest →
      Exec (.pop r) s con none { s with registers := s.registers.set r x, stack := rest } con
  | popEmpty : s.stack = [] → Exec (.pop r) s con (some .stackExhausted) s con
  | eq : Exec (.eq r a b) s con none
      { s with registers := s.registers.set r (if s.value a = s.value b then 1 else 0) } con
  | gt : Exec (.gt r a b) s con none
      { s with registers := s.registers.set r (if s.value a > s.value b then 1 else 0) } con
  | jmp : Exec (.jmp a) s con none { s with pc := s.value a } con
  | jtTaken : s.value t ≠ 0 → Exec (.jt t a) s con none { s with pc := s.value a } con
  | jtSkipped : s.value t = 0 → Exec (.jt t a) s con none s con
  | jfTaken : s.value t = 0 → Exec (.jf t a) s con none { s with pc := s.value a } con
  | jfSkipped : s.value t ≠ 0 → Exec (.jf t a) s con none s con
  | add : Exec (.add r a b) s con none
      { s with registers :=
          s.registers.set r (.ofNat (((s.value a).toNat + (s.value b).toNat) % 32768)) } con
  | mult : Exec (.mult r a b) s con none
      { s with registers :=
          s.registers.set r (.ofNat (((s.value a).toNat * (s.value b).toNat) % 32768)) } con
  | mod : s.value b ≠ 0 →
      Exec (.mod r a b) s con none
        { s with registers := s.registers.set r (s.value a % s.value b) } con
  | and : Exec (.and r a b) s con none
      { s with registers := s.registers.set r (s.value a &&& s.value b) } con
  | or : Exec (.or r a b) s con none
      { s with registers := s.registers.set r (s.value a ||| s.value b) } con
  | not : Exec (.not r a) s con none
      { s with registers := s.registers.set r (.ofNat (32767 - (s.value a).toNat % 32768)) } con
  | rmem : s.memory.words[(s.value a).toNat]? = some w →
      Exec (.rmem r a) s con none { s with registers := s.registers.set r w } con
  | wmem (h : (s.value a).toNat < s.memory.words.size) :
      Exec (.wmem a b) s con none
        { s with memory := ⟨s.memory.words.set (s.value a).toNat (s.value b) h⟩ } con
  | call : Exec (.call a) s con none { s with stack := s.pc :: s.stack, pc := s.value a } con
  | ret : s.stack = x :: rest → Exec .ret s con none { s with stack := rest, pc := x } con
  | retEmpty : s.stack = [] → Exec .ret s con (some .stackExhausted) s con
  | out : con.writeChar (s.value a) = (.ok (), con') → Exec (.out a) s con none s con'
  | input : con.readChar.result = .ok w →
      Exec (.input r) s con none { s with registers := s.registers.set r w } con.readChar.console
  | noop : Exec .noop s con none s con

/-- One step: decode the instruction at the program counter, move the counter past it, carry the
instruction out, and count it. -/
inductive Step : Core → Console → Option Termination → Core → Console → Prop
  | mk : Instruction.decode s.memory s.pc = .ok (i, next) →
      Exec i { s with pc := next } con t s' con' →
      Step s con t { s' with cycles := s.cycles + 1 } con'

/-- A step is the decoded instruction carried out from the counter past it, then counted. -/
theorem Step.inv {s s₂ : Core} {con con₂ : Console} {t : Option Termination}
    (h : Step s con t s₂ con₂) :
    ∃ i next s', Instruction.decode s.memory s.pc = .ok (i, next) ∧
      Exec i { s with pc := next } con t s' con₂ ∧ s₂ = { s' with cycles := s.cycles + 1 } := by
  cases h with
  | mk hd hexec => exact ⟨_, _, _, hd, hexec, rfl⟩

/-- The instructions that cannot be carried out in a state with a console: `mod` by zero, `rmem`
and `wmem` at an address outside memory, `out` when the console fails to write, and `in` when it
fails to read. -/
def Instruction.Faults (s : Core) (con : Console) : Instruction → Prop
  | .mod _ _ b => s.value b = 0
  | .rmem _ a | .wmem a _ => s.memory.size ≤ (s.value a).toNat
  | .out a => ∃ e, (con.writeChar (s.value a)).1 = .error e
  | .input _ => ∃ e, con.readChar.result = .error e
  | _ => False

/-- An instruction that faults has no effect in the table. -/
theorem Exec.not_faults {i : Instruction} {s s' : Core} {con con' : Console}
    {t : Option Termination} (h : Exec i s con t s' con') : ¬ i.Faults s con := by
  cases h with
  | mod hb => exact hb
  | rmem hw =>
    simp only [Instruction.Faults, Memory.size, Nat.not_le]
    exact (List.getElem?_eq_some_iff.mp (by simpa using hw)).1
  | wmem h => simpa [Instruction.Faults, Memory.size] using h
  | out hw => simp [Instruction.Faults, hw]
  | input hr => simp [Instruction.Faults, hr]
  | _ => simp [Instruction.Faults]

/-- No instruction of the table changes the count of executed instructions; `Step` counts. -/
theorem Exec.cycles_eq {i : Instruction} {s s' : Core} {con con' : Console}
    {t : Option Termination} (h : Exec i s con t s' con') : s'.cycles = s.cycles := by
  cases h <;> rfl

/-- Whether an instruction faults does not depend on the program counter. -/
theorem Instruction.faults_setPc (i : Instruction) (s : Core) (con : Console) (p : Address) :
    i.Faults { s with pc := p } con ↔ i.Faults s con := by
  cases i <;> rfl

/-- The table gives each instruction at most one effect. -/
theorem Exec.deterministic {i : Instruction} {s s₁ s₂ : Core} {con con₁ con₂ : Console}
    {t₁ t₂ : Option Termination} (h₁ : Exec i s con t₁ s₁ con₁) (h₂ : Exec i s con t₂ s₂ con₂) :
    t₁ = t₂ ∧ s₁ = s₂ ∧ con₁ = con₂ := by
  cases h₁ <;> cases h₂ <;> simp_all

end WordMachine
