import WordMachine.Proofs.Step
import WordMachine.Proofs.Decoding
import WordMachine.Proofs.Run

/-!
# Calls and returns

`call` pushes the address after itself and jumps; `ret` pops an address and jumps to it. Nothing
else the machine does reaches below the top of the stack:

* `Machine.step_stackMove`: a step leaves the stack as it was, pushes one word or pops one
  (`StackMove`), whatever the instruction and whether or not it faults;
* `Machine.step_popped`: a step that pops is a `pop`, which puts the word in its destination, or
  a `ret`, which jumps to it;
* `Machine.step_call`: a `call` at `a` pushes `a + 2`, the address after its two words.

Everything else follows from these three. Over any sequence of steps (`Machine.Stepping`: the
console and the trace sink may change between two steps), `Machine.frame_kept` is the run lemma:
a frame at the bottom of the stack stays there until a step pops its top word.
`Machine.call_frame_kept_until_return` puts them together: after a `call` at `a` from a stack of
height `h`, the bottom `h + 1` words are `a + 2` over the stack the call found until the first
step that brings the stack back to height `h`, and that step is a `ret` to `a + 2` or a `pop` of
`a + 2`, whatever pushes, pops, calls, returns and faults come in between.
-/

namespace WordMachine

/-- How one step can change the stack, top first: keep it, push one word, or pop one. -/
inductive StackMove : List Word → List Word → Prop
  | keep : StackMove st st
  | push (x : Word) : StackMove st (x :: st)
  | pop (x : Word) : StackMove (x :: st) st

namespace StackMove

variable {st st' : List Word}

/-- A move keeps a frame at the bottom of the stack unless it pops the frame's top word. -/
theorem suffix {B : List Word} (hmv : StackMove st st') (hB : B <:+ st)
    (hne : st'.length + 1 ≠ B.length) : B <:+ st' := by
  cases hmv with
  | keep => exact hB
  | push x => exact hB.trans (List.suffix_cons x _)
  | pop x =>
    rcases List.suffix_cons_iff.mp hB with rfl | hB'
    · simp at hne
    · exact hB'

/-- A move that brings the stack down to the height under a frame pops the frame's top word and
leaves what was under it. -/
theorem pop_frame {x : Word} {below : List Word} (hmv : StackMove st st')
    (hB : x :: below <:+ st) (hlen : st'.length = below.length) :
    st = x :: below ∧ st' = below := by
  have hle := hB.length_le
  cases hmv with
  | keep =>
    simp only [List.length_cons] at hle
    omega
  | push y =>
    simp only [List.length_cons] at hle hlen
    omega
  | pop y =>
    have heq := hB.eq_of_length (by simp [hlen])
    obtain ⟨rfl, rfl⟩ := List.cons.inj heq
    exact ⟨rfl, rfl⟩

end StackMove

section Table

variable {i : Instruction} {s s' : Core} {con con' : Console} {t : Option Termination}

/-- Every row of the table keeps the stack, pushes one word or pops one. -/
theorem Exec.stackMove (h : Exec i s con t s' con') : StackMove s.stack s'.stack := by
  cases h with
  | push => exact .push _
  | pop hs => rw [hs]; exact .pop _
  | call => exact .push _
  | ret hs => rw [hs]; exact .pop _
  | _ => exact .keep

/-- A row that pops the stack is a `ret`, which jumps to the popped word, or a `pop`, which puts
it in its destination. -/
theorem Exec.popped {x : Word} (h : Exec i s con t s' con') (hpop : s.stack = x :: s'.stack) :
    (i = .ret ∧ s'.pc = x) ∨ ∃ r, i = .pop r ∧ s'.registers.get r = x := by
  -- every other row keeps or grows the stack, which a pop would shorten
  have hshort := congrArg List.length hpop
  cases h with
  | pop hs =>
    rw [hs] at hpop
    obtain ⟨rfl, -⟩ := List.cons.inj hpop
    exact .inr ⟨_, rfl, Registers.get_set_self _ _ _⟩
  | ret hs =>
    rw [hs] at hpop
    obtain ⟨rfl, -⟩ := List.cons.inj hpop
    exact .inl ⟨rfl, rfl⟩
  | _ => simp at hshort <;> omega

end Table

namespace Machine

/-- No step reaches below the top of the stack: it keeps the stack, pushes one word or pops one. -/
theorem step_stackMove (m : Machine) : StackMove m.computer.stack m.step.2.computer.stack := by
  rcases step_cases m with hsame | ⟨i, next, t, s', con', -, hexec, hcore⟩
  · rw [hsame]
    exact .keep
  · rw [show m.step.2.computer.stack = s'.stack from congrArg Core.stack hcore]
    exact hexec.stackMove

/-- A step that pops the stack is a `ret`, which jumps to the popped word, or a `pop`, which puts
it in its destination register. -/
theorem step_popped (m : Machine) {x : Word} (hpop : m.computer.stack = x :: m.step.2.computer.stack) :
    (∃ next, Instruction.decode m.computer.memory m.computer.pc = .ok (.ret, next) ∧
        m.step.2.computer.pc = x) ∨
      ∃ r next, Instruction.decode m.computer.memory m.computer.pc = .ok (.pop r, next) ∧
        m.step.2.computer.registers.get r = x := by
  rcases step_cases m with hsame | ⟨i, next, t, s', con', hd, hexec, hcore⟩
  · rw [hsame] at hpop
    exact absurd hpop.symm (List.cons_ne_self x _)
  · have hpc : m.step.2.computer.pc = s'.pc := congrArg Core.pc hcore
    have hregs : m.step.2.computer.registers = s'.registers := congrArg Core.registers hcore
    rw [show m.step.2.computer.stack = s'.stack from congrArg Core.stack hcore] at hpop
    rcases hexec.popped hpop with ⟨rfl, hx⟩ | ⟨r, rfl, hx⟩
    · exact .inl ⟨next, hd, hpc.trans hx⟩
    · exact .inr ⟨r, next, hd, by rw [hregs, hx]⟩

/-- A `call` at `a` pushes `a + 2`, the address after its two words; it wraps at `2^16`. -/
theorem step_call {m : Machine} {o : Operand} {next : Address}
    (hd : Instruction.decode m.computer.memory m.computer.pc = .ok (.call o, next)) :
    m.step.2.computer.stack = (m.computer.pc + 2) :: m.computer.stack := by
  have hnext : next = m.computer.pc + 2 := (Instruction.readFields_of_decode_eq_ok hd).2
  obtain ⟨-, -, hcore⟩ := step_of_execute_ok hd rfl
  rw [show m.step.2.computer.stack = _ from congrArg Core.stack hcore, ← hnext]
  rfl

/-- A sequence of machines in which each computer is the one that the step of the machine before
left. The console and the trace sink a step is handed may be any: they do not reach the stack. -/
def Stepping (ms : Nat → Machine) : Prop :=
  ∀ n, (ms (n + 1)).computer = (ms n).step.2.computer

/-- The machines a machine's own steps lead to are such a sequence. -/
theorem stepping_afterSteps (m : Machine) : Stepping m.afterSteps := fun n => by
  rw [afterSteps_succ']

/-- None of the machines after the `k`-th, up to the `j`-th, has a stack of height `h`. -/
def HeightAvoids (ms : Nat → Machine) (k j h : Nat) : Prop :=
  ∀ i, k < i → i ≤ j → (ms i).computer.stack.length ≠ h

section Run

variable {ms : Nat → Machine}

/-- Consecutive machines of a sequence of steps are one stack move apart. -/
theorem Stepping.stackMove (hms : Stepping ms) (n : Nat) :
    StackMove (ms n).computer.stack (ms (n + 1)).computer.stack := by
  rw [hms n]
  exact step_stackMove (ms n)

/-- **The run lemma.** A frame at the bottom of the stack stays there over any number of steps
none of which pops its top word. -/
theorem frame_kept (hms : Stepping ms) {B : List Word} {n : Nat} (hB : B <:+ (ms n).computer.stack)
    (d : Nat) (hne : ∀ i, n < i → i ≤ n + d → (ms i).computer.stack.length + 1 ≠ B.length) :
    B <:+ (ms (n + d)).computer.stack := by
  -- induction on the steps taken, the frame staying at the bottom after each
  induction d with
  | zero => exact hB
  | succ d ih =>
    have hkept := ih fun i h1 h2 => hne i h1 (by omega)
    exact (hms.stackMove (n + d)).suffix hkept (hne (n + d + 1) (by omega) (Nat.le_refl _))

/-- **A call's frame stays until it returns.** In any sequence of steps, let the `k`-th execute a
`call` at address `a` on the stack `below`. In every later machine before the first step that
brings the stack back to the height of `below`, the bottom words of the stack are `a + 2` over
`below` (`a + 2` wraps at `2^16`). That first step leaves exactly `below`, and it is a `ret`, which
sets the program counter to `a + 2`, or a `pop`, which puts `a + 2` in its destination register. -/
theorem call_frame_kept_until_return (hms : Stepping ms) {k : Nat} {a : Address}
    {below : List Word} {o : Operand} {next : Address} (hpc : (ms k).computer.pc = a)
    (hst : (ms k).computer.stack = below)
    (hcall : Instruction.decode (ms k).computer.memory a = .ok (.call o, next)) :
    (∀ j, k < j → HeightAvoids ms k j below.length →
      (a + 2) :: below <:+ (ms j).computer.stack) ∧
    (∀ j, k < j → HeightAvoids ms k j below.length →
      (ms (j + 1)).computer.stack.length = below.length →
      (ms (j + 1)).computer.stack = below ∧
      ((∃ next', Instruction.decode (ms j).computer.memory (ms j).computer.pc = .ok (.ret, next') ∧
          (ms (j + 1)).computer.pc.toNat = (a.toNat + 2) % 65536) ∨
        ∃ r next', Instruction.decode (ms j).computer.memory (ms j).computer.pc = .ok (.pop r, next') ∧
          ((ms (j + 1)).computer.registers.get r).toNat = (a.toNat + 2) % 65536)) := by
  -- the call's own step leaves the frame on top of `below`
  have hcalled : (ms (k + 1)).computer.stack = (a + 2) :: below := by
    rw [hms k, step_call (hpc ▸ hcall), hpc, hst]
  have hkept : ∀ j, k < j → HeightAvoids ms k j below.length →
      (a + 2) :: below <:+ (ms j).computer.stack := by
    intro j hkj hne
    obtain ⟨d, rfl⟩ : ∃ d, j = k + 1 + d := ⟨j - (k + 1), by omega⟩
    refine frame_kept hms (hcalled ▸ List.suffix_refl _) d fun i h1 h2 => ?_
    simpa using hne i (by omega) h2
  refine ⟨hkept, fun j hkj hne hback => ?_⟩
  -- the step that brings the stack back pops the frame's top word, `a + 2`
  obtain ⟨hbefore, hafter⟩ := (hms.stackMove j).pop_frame (hkept j hkj hne) hback
  have hpop : (ms j).computer.stack = (a + 2) :: (ms j).step.2.computer.stack := by
    rw [hbefore, ← hms j, hafter]
  have hret : (a + 2).toNat = (a.toNat + 2) % 65536 := by simp [UInt16.toNat_add]
  refine ⟨hafter, ?_⟩
  rcases step_popped (ms j) hpop with ⟨next', hd, hjump⟩ | ⟨r, next', hd, hput⟩
  · exact .inl ⟨next', hd, by rw [hms j, hjump, hret]⟩
  · exact .inr ⟨r, next', hd, by rw [hms j, hput, hret]⟩

end Run

/-- A machine about to call a routine at `4` that pushes `9`, pops it into `r0` and returns to
the `halt` at `2`. -/
def callSample : Machine :=
  { computer := { memory := ⟨#[17, 4, 0, 0, 2, 9, 3, 32768, 18]⟩ }
    console := Console.ofInput []
    sink := TraceSink.off }

theorem call_frame_kept_until_return_sample :
    Stepping callSample.afterSteps ∧
    Instruction.decode callSample.computer.memory 0 = .ok (.call (.literal 4), 2) ∧
    (∀ j, 0 < j → HeightAvoids callSample.afterSteps 0 j 0 →
      [(0 : Address) + 2] <:+ (callSample.afterSteps j).computer.stack) ∧
    (∀ j, 0 < j → HeightAvoids callSample.afterSteps 0 j 0 →
      (callSample.afterSteps (j + 1)).computer.stack.length = 0 →
      (callSample.afterSteps (j + 1)).computer.stack = [] ∧
      ((∃ next', Instruction.decode (callSample.afterSteps j).computer.memory
            (callSample.afterSteps j).computer.pc = .ok (.ret, next') ∧
          (callSample.afterSteps (j + 1)).computer.pc.toNat = ((0 : Address).toNat + 2) % 65536) ∨
        ∃ r next', Instruction.decode (callSample.afterSteps j).computer.memory
            (callSample.afterSteps j).computer.pc = .ok (.pop r, next') ∧
          ((callSample.afterSteps (j + 1)).computer.registers.get r).toNat =
            ((0 : Address).toNat + 2) % 65536)) :=
  ⟨stepping_afterSteps callSample, rfl,
    call_frame_kept_until_return (stepping_afterSteps callSample) rfl
      (show (callSample.afterSteps 0).computer.stack = [] from rfl) rfl⟩

end Machine

end WordMachine
