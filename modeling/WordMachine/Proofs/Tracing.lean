import Mathlib
import WordMachine.Proofs.Step
import WordMachine.Proofs.Run
import WordMachine.Session

/-!
# Trace records follow the steps that succeed

A computer is driven by steps, by the flush that ends a run, and by changes to its program
counter, registers, memory and stack made from outside. `Machine.Drives m R m'` says that such a
sequence leads from `m` to `m'`, and lists in `R`, oldest first, the record of each step that
succeeded: where its instruction started, its operation, its operands with the values source
registers held before it ran, and the registers after it.

* `TraceSink.offer` is what one step does to the sink: a sink that is off or has failed is not
  handed the record; otherwise it is, and a refusal marks it failed. `Machine.step_trace` says a
  step that succeeds does exactly this with its own record, and counts one cycle.
* `Machine.Drives.trace` is the run lemma: the cycles grow by the number of records, and the sink
  and its failed flag are what offering the records one by one makes of them. A step that faults
  counts nothing and offers nothing.
* `TraceDevice.budget?` is how many records a device accepts before it fails for good (`⊤` when
  it never fails). `TraceSink.offerAll_budget` counts the calls of a sink with a budget `N`: one
  per record until the one refused, so `min (records) (N + 1)`, made with the records in order.
* `Machine.trace_records_follow_steps` puts them together for a computer as it is loaded, and
  `Session.apply_drives` says that every action of a session drives its machine in this way.
-/

namespace WordMachine

/-- How many records a device accepts before it fails for good: `⊤` when it never fails, and
`none` when that depends on what the records hold (a full buffer refuses a record that does not
fit and may take a smaller one after). -/
def TraceDevice.budget? : TraceDevice → Option ℕ∞
  | .reliable => some ⊤
  | .failingAfter n _ => some n
  | .bufferedFull _ _ => none
  | .buffered _ => some ⊤

/-- The machine a run leaves, whether it finished or reached its step limit. -/
def RunOutcome.machine : RunOutcome → Machine
  | .finished _ m => m
  | .unfinished m => m

namespace TraceSink

/-- Offers a record to a sink, given whether it has failed: a sink that is off or has failed is
not handed it; otherwise it is, and the flag says whether the sink refused it. -/
def offer (s : TraceSink) (failed : Bool) (r : TraceRecord) : TraceSink × Bool :=
  if !failed && s.enabled then
    match s.record r with
    | (none, s') => (s', false)
    | (some _, s') => (s', true)
  else (s, failed)

/-- Offers records one after the other, from a sink and its failed flag. -/
def offerAll (p : TraceSink × Bool) (R : List TraceRecord) : TraceSink × Bool :=
  R.foldl (fun p r => p.1.offer p.2 r) p

@[simp] theorem offerAll_nil (p : TraceSink × Bool) : offerAll p [] = p := rfl

theorem offerAll_cons (p : TraceSink × Bool) (r : TraceRecord) (R : List TraceRecord) :
    offerAll p (r :: R) = offerAll (p.1.offer p.2 r) R := rfl

/-- A failed sink is handed nothing more. -/
theorem offerAll_failed (s : TraceSink) (R : List TraceRecord) : offerAll (s, true) R = (s, true) := by
  induction R with
  | nil => rfl
  | cons r R ih => rw [offerAll_cons, offer, if_neg (by simp)]; exact ih

/-- A sink that is off is handed nothing. -/
theorem offerAll_off {s : TraceSink} (hoff : s.enabled = false) (failed : Bool)
    (R : List TraceRecord) : offerAll (s, failed) R = (s, failed) := by
  induction R with
  | nil => rfl
  | cons r R ih => rw [offerAll_cons, offer, if_neg (by simp [hoff])]; exact ih

section Record

variable (s : TraceSink) (r : TraceRecord)

/-- Handing a record to a sink counts the call, whether it accepts the record or not, and changes
nothing else but what the sink holds. -/
theorem record_frame : ∃ lines bytes delivered,
    (s.record r).2 = { s with calls := s.calls + 1, lines, bytes, delivered } := by
  dsimp only [record]
  split
  · exact ⟨_, _, _, rfl⟩
  · split <;> exact ⟨_, _, _, rfl⟩
  · split <;> exact ⟨_, _, _, rfl⟩
  · exact ⟨_, _, _, rfl⟩

@[simp] theorem record_calls : (s.record r).2.calls = s.calls + 1 := by
  obtain ⟨_, _, _, h⟩ := record_frame s r
  rw [h]

@[simp] theorem record_enabled : (s.record r).2.enabled = s.enabled := by
  obtain ⟨_, _, _, h⟩ := record_frame s r
  rw [h]

@[simp] theorem record_device : (s.record r).2.device = s.device := by
  obtain ⟨_, _, _, h⟩ := record_frame s r
  rw [h]

/-- A device with a budget accepts a record exactly while the calls so far are within it. -/
theorem record_eq_none_iff {N : ℕ∞} (hN : s.device.budget? = some N) :
    (s.record r).1 = none ↔ (s.calls : ℕ∞) < N := by
  unfold record
  cases hd : s.device with
  | reliable =>
    rw [hd] at hN
    cases hN
    simp
  | failingAfter n e =>
    rw [hd] at hN
    cases hN
    by_cases h : s.calls < n <;> simp [h]
  | bufferedFull capacity e =>
    rw [hd] at hN
    cases hN
  | buffered capacity =>
    rw [hd] at hN
    cases hN
    simp

end Record

/-- Hands records to a sink one by one, as its record calls do. -/
def recordAll (s : TraceSink) (R : List TraceRecord) : TraceSink :=
  R.foldl (fun s r => (s.record r).2) s

/-- **Counting the record calls.** Offered records one by one, an enabled sink whose device
accepts `N` records in all and that has not yet failed is handed them in order until it refuses
one: after the records `R` it has been called `min (calls + |R|) (N + 1)` times, and it is the sink
that those first calls made of it. -/
theorem offerAll_budget {N : ℕ∞} (R : List TraceRecord) :
    ∀ s : TraceSink, s.enabled = true → s.device.budget? = some N → (s.calls : ℕ∞) ≤ N →
      ((offerAll (s, false) R).1.calls : ℕ∞) = min ((s.calls + R.length : ℕ) : ℕ∞) (N + 1) ∧
      (offerAll (s, false) R).1 =
        s.recordAll (R.take ((offerAll (s, false) R).1.calls - s.calls)) := by
  -- induction on the records, the sink accepting each until the first it refuses
  induction R with
  | nil =>
    intro s _ _ hle
    refine ⟨?_, by simp [recordAll]⟩
    simp only [offerAll_nil, List.length_nil, Nat.add_zero]
    exact (min_eq_left (hle.trans le_self_add)).symm
  | cons r R ih =>
    intro s hen hN hle
    rw [offerAll_cons, offer, if_pos (by simp [hen])]
    cases hr : s.record r with
    | mk e s' =>
      have hcalls : s'.calls = s.calls + 1 := by rw [← record_calls s r, hr]
      cases e with
      | none =>
        -- accepted: the sink is still within its budget, and the rest goes on from it
        have hlt : (s.calls : ℕ∞) < N := (record_eq_none_iff s r hN).mp (by rw [hr])
        have hen' : s'.enabled = true := by rw [← hen, ← record_enabled s r, hr]
        have hN' : s'.device.budget? = some N := by rw [← hN, ← record_device s r, hr]
        have hle' : (s'.calls : ℕ∞) ≤ N := by
          rw [hcalls]
          push_cast
          exact Order.add_one_le_of_lt hlt
        obtain ⟨hcount, hsink⟩ := ih s' hen' hN' hle'
        simp only
        refine ⟨by rw [hcount, hcalls, List.length_cons, Nat.add_assoc, Nat.add_comm 1], ?_⟩
        -- the calls made past `s'` are one fewer than past `s`
        have hmore : s'.calls ≤ (offerAll (s', false) R).1.calls := by
          have : (s'.calls : ℕ∞) ≤ (offerAll (s', false) R).1.calls := by
            rw [hcount]
            exact le_min (Nat.cast_le.mpr (Nat.le_add_right _ _)) (hle'.trans le_self_add)
          exact_mod_cast this
        rw [show (offerAll (s', false) R).1.calls - s.calls =
            (offerAll (s', false) R).1.calls - s'.calls + 1 by omega, List.take_succ_cons]
        simp only [recordAll, List.foldl_cons, hr] at hsink ⊢
        exact hsink
      | some e =>
        -- refused: the budget is exactly the calls so far, and nothing more is handed over
        have hge : ¬ (s.calls : ℕ∞) < N := fun h => by
          have := (record_eq_none_iff s r hN).mpr h
          rw [hr] at this
          cases this
        have hN : N = s.calls := (le_antisymm hle (not_lt.mp hge)).symm
        subst hN
        simp only [offerAll_failed, hcalls]
        refine ⟨?_, ?_⟩
        · rw [← Nat.cast_succ, min_eq_right (Nat.cast_le.mpr (by simp only [List.length_cons]; omega))]
        · simp [recordAll, hr]

end TraceSink

namespace Machine

@[simp] theorem noteFlush_sink (m : Machine) (before : Nat) :
    (m.noteFlush before).sink = m.sink := by
  unfold noteFlush
  split <;> rfl

/-- What a step does to the trace once its instruction was carried out: the registers and count
are those after the instruction, one more cycle, and the sink is offered the record. -/
theorem step_trace_of_execute_ok {m m₂ : Machine} {i : Instruction} {next : Address}
    {t : Option Termination} (hd : Instruction.decode m.computer.memory m.computer.pc = .ok (i, next))
    (hx : (m.enter i next).execute i = (.ok t, m₂)) :
    m.step.2.computer.registers = m₂.computer.registers ∧
    m.step.2.computer.cycles = m₂.computer.cycles + 1 ∧
    (m.step.2.sink, m.step.2.computer.traceFailed) =
      m.sink.offer m.computer.traceFailed
        ⟨m.computer.pc, i.opcode, i.tracedOperands m.computer.registers, m₂.computer.registers⟩ := by
  obtain ⟨hsink, hflag, -⟩ := execute_cases hx
  simp only [enter, emit_sink, withComputer_sink, emit_computer, withComputer_computer] at hsink hflag
  unfold step
  unfold enter at hx
  simp only [hd, hx, withComputer_sink, withComputer_computer]
  unfold TraceSink.offer
  -- the record is built only for a sink that is on and has not failed
  by_cases hlive : (!m.computer.traceFailed && m.sink.enabled) = true
  · have hnotfailed : m.computer.traceFailed = false := by simp_all
    simp only [hlive, if_true, hsink]
    cases hr : m.sink.record
        ⟨m.computer.pc, i.opcode, i.tracedOperands m.computer.registers, m₂.computer.registers⟩ with
    | mk e s' => cases e <;> simp [hflag, hnotfailed]
  · simp only [hlive, if_false, Bool.false_eq_true]
    simp [hsink, hflag]

/-- **A step that succeeds offers its record.** It counts one cycle, and offers the sink the record
of its instruction: where it started, its operation, its operands with the values source
registers held before it ran, and the registers after it. -/
theorem step_trace {m : Machine} {i : Instruction} {next : Address} {t : Option Termination}
    (hd : Instruction.decode m.computer.memory m.computer.pc = .ok (i, next))
    (hok : m.step.1 = .ok t) :
    m.step.2.computer.cycles = m.computer.cycles + 1 ∧
    (m.step.2.sink, m.step.2.computer.traceFailed) =
      m.sink.offer m.computer.traceFailed
        ⟨m.computer.pc, i.opcode, i.tracedOperands m.computer.registers,
          m.step.2.computer.registers⟩ := by
  cases hx : (m.enter i next).execute i with
  | mk r m₂ =>
    cases r with
    | error e =>
      rw [step_of_execute_error hd hx] at hok
      cases hok
    | ok t' =>
      obtain ⟨hregs, hcycles, htrace⟩ := step_trace_of_execute_ok hd hx
      obtain ⟨-, -, hexec⟩ := execute_cases hx
      -- the instruction itself counts nothing
      have hsame : m₂.computer.cycles = m.computer.cycles := hexec.cycles_eq
      rw [hregs, hcycles, hsame]
      exact ⟨rfl, htrace⟩

/-- What happens to a machine: `Drives m R m'` when steps, the flushes that end runs, and changes
made from outside to the program counter, registers, memory and stack lead from `m` to `m'`; `R`
lists, oldest first, the record of each step that succeeded. -/
inductive Drives : Machine → List TraceRecord → Machine → Prop
  /-- Nothing more happens. -/
  | done (m : Machine) : Drives m [] m
  /-- A step that succeeds, with the record of its instruction. -/
  | executed {m m' : Machine} {R : List TraceRecord} {i : Instruction} {next : Address}
      {t : Option Termination} (hd : Instruction.decode m.computer.memory m.computer.pc = .ok (i, next))
      (hok : m.step.1 = .ok t) (rest : Drives m.step.2 R m') :
      Drives m (⟨m.computer.pc, i.opcode, i.tracedOperands m.computer.registers,
        m.step.2.computer.registers⟩ :: R) m'
  /-- A step that faults. -/
  | faulted {m m' : Machine} {R : List TraceRecord} {e : Fault} (hf : m.step.1 = .error e)
      (rest : Drives m.step.2 R m') : Drives m R m'
  /-- The flush that ends a run, which reports `r`. -/
  | finished {m m' : Machine} {R : List TraceRecord} (r : Except Fault Termination)
      (rest : Drives (m.finish r).2 R m') : Drives m R m'
  /-- The program counter, registers, memory and stack changed from outside. -/
  | changed {m m' : Machine} {R : List TraceRecord} (pc : Address) (registers : Registers)
      (memory : Memory) (stack : List Word)
      (rest : Drives (m.withComputer fun c =>
        { c with pc := pc, registers := registers, memory := memory, stack := stack }) R m') :
      Drives m R m'

/-- **The run lemma.** Along a machine's history the cycles grow by the number of steps that
succeeded, and the sink and its failed flag are what offering their records one by one makes of
them; steps that fault, flushes and changes from outside leave both alone. -/
theorem Drives.trace {m m' : Machine} {R : List TraceRecord} (h : Drives m R m') :
    m'.computer.cycles = m.computer.cycles + R.length ∧
    (m'.sink, m'.computer.traceFailed) =
      TraceSink.offerAll (m.sink, m.computer.traceFailed) R := by
  induction h with
  | done m => exact ⟨rfl, rfl⟩
  | executed hd hok _ ih =>
    obtain ⟨hcycles, hoffer⟩ := step_trace hd hok
    obtain ⟨ihcycles, ihsink⟩ := ih
    refine ⟨by rw [ihcycles, hcycles, List.length_cons]; omega, ?_⟩
    rw [TraceSink.offerAll_cons, ← hoffer]
    exact ihsink
  | faulted hf _ ih =>
    obtain ⟨hcomputer, hsink⟩ := (step_error_exactly_on_faults _).2 _ hf
    rw [hcomputer, hsink] at ih
    exact ih
  | finished r _ ih =>
    obtain ⟨-, hcomputer, hsink, -⟩ := finish_spec _ r
    rw [hcomputer, hsink] at ih
    exact ih
  | changed pc registers memory stack _ ih => exact ih

/-- **Trace records follow the steps that succeeded.** Load a program into a computer and give it a
sink whose device accepts `N` records in all (`⊤` when it never fails) and has not been called
yet. Whatever steps, runs and changes from outside follow, the computer has counted as many
cycles as steps succeeded, and a sink that is on has been called `min cycles (N + 1)` times, with
the records of those steps in order: the `k`-th call carried where the `k`-th step that succeeded
started, its operation, its operands with the values source registers held before it ran, and the
registers after it. A sink that is off is never called. Steps that fault are never recorded. -/
theorem trace_records_follow_steps (memory : Memory) (console : Console) (sink : TraceSink)
    {N : ℕ∞} (hfresh : sink.calls = 0) (hN : sink.device.budget? = some N)
    {R : List TraceRecord} {m : Machine}
    (h : Drives { computer := .ofMemory memory, console, sink } R m) :
    m.computer.cycles = R.length ∧
    (m.sink.calls : ℕ∞) = (if sink.enabled then min (R.length : ℕ∞) (N + 1) else 0) ∧
    m.sink = sink.recordAll (R.take m.sink.calls) := by
  obtain ⟨hcycles, hoffer⟩ := h.trace
  have hsink : m.sink = (TraceSink.offerAll (sink, false) R).1 := congrArg Prod.fst hoffer
  refine ⟨by simpa [Computer.ofMemory] using hcycles, ?_⟩
  cases hen : sink.enabled with
  | false =>
    -- a sink that is off is never handed a record
    rw [TraceSink.offerAll_off hen] at hsink
    rw [hsink, hfresh]
    exact ⟨by simp, by simp [TraceSink.recordAll]⟩
  | true =>
    obtain ⟨hcount, hcalls⟩ := TraceSink.offerAll_budget R sink hen hN (by simp [hfresh])
    rw [hfresh, Nat.zero_add] at hcount
    rw [hfresh, Nat.sub_zero, ← hsink] at hcalls
    rw [hsink] at hcalls ⊢
    exact ⟨by simpa using hcount, hcalls⟩

/-- A loaded program that writes `A` and `B` and halts, traced to a device that accepts one
record. -/
def traceSample : Machine :=
  { computer := .ofMemory ⟨#[19, 65, 19, 66, 0]⟩, console := Console.ofInput [],
    sink := TraceSink.text (.failingAfter 1 .noSpace) }

/-- The records of its three steps. -/
def traceSampleRecords : List TraceRecord :=
  [⟨0, .out, [.literal 65], .zero⟩, ⟨2, .out, [.literal 66], .zero⟩, ⟨4, .halt, [], .zero⟩]

/-- Where its run ends. -/
def traceSampleEnd : Machine := (traceSample.step.2.step.2.step.2.finish (.ok .halted)).2

theorem trace_records_follow_steps_sample :
    (TraceSink.text (.failingAfter 1 .noSpace)).calls = 0 ∧
    (TraceSink.text (.failingAfter 1 .noSpace)).device.budget? = some 1 ∧
    Drives traceSample traceSampleRecords traceSampleEnd ∧
    (traceSampleEnd.computer.cycles = traceSampleRecords.length ∧
      (traceSampleEnd.sink.calls : ℕ∞) =
        (if (TraceSink.text (.failingAfter 1 .noSpace)).enabled then
          min (traceSampleRecords.length : ℕ∞) (1 + 1) else 0) ∧
      traceSampleEnd.sink = (TraceSink.text (.failingAfter 1 .noSpace)).recordAll
        (traceSampleRecords.take traceSampleEnd.sink.calls)) := by
  have hrun : Drives traceSample traceSampleRecords traceSampleEnd :=
    .executed (show Instruction.decode traceSample.computer.memory 0 = .ok (.out (.literal 65), 2)
        from rfl) (show traceSample.step.1 = .ok none from rfl) <|
      .executed (show Instruction.decode traceSample.step.2.computer.memory 2 =
          .ok (.out (.literal 66), 4) from rfl) (show traceSample.step.2.step.1 = .ok none from rfl) <|
        .executed (show Instruction.decode traceSample.step.2.step.2.computer.memory 4 =
            .ok (.halt, 5) from rfl)
          (show traceSample.step.2.step.2.step.1 = .ok (some .halted) from rfl) <|
          .finished _ (.done _)
  exact ⟨rfl, rfl, hrun, trace_records_follow_steps _ _ _ rfl rfl hrun⟩

/-- A machine's history goes on from where another one ends. -/
theorem Drives.trans {m₁ m₂ m₃ : Machine} {R₁ R₂ : List TraceRecord} (h₁ : Drives m₁ R₁ m₂)
    (h₂ : Drives m₂ R₂ m₃) : Drives m₁ (R₁ ++ R₂) m₃ := by
  induction h₁ with
  | done m => exact h₂
  | executed hd hok _ ih => exact .executed hd hok (ih h₂)
  | faulted hf _ ih => exact .faulted hf (ih h₂)
  | finished r _ ih => exact .finished r (ih h₂)
  | changed pc registers memory stack _ ih => exact .changed pc registers memory stack (ih h₂)

/-- Any step can start a history: one that succeeds adds its record, one that faults adds
nothing. -/
theorem Drives.of_step {m m' m'' : Machine} {o : Except Fault (Option Termination)}
    {R : List TraceRecord} (hs : m.step = (o, m')) (h : Drives m' R m'') : ∃ R', Drives m R' m'' := by
  have h' : Drives m.step.2 R m'' := by rw [hs]; exact h
  cases ho : m.step.1 with
  | error e => exact ⟨R, .faulted ho h'⟩
  | ok t =>
    -- a step that succeeds decoded an instruction
    cases hd : Instruction.decode m.computer.memory m.computer.pc with
    | error e =>
      rw [step_of_decode_error hd] at ho
      cases ho
    | ok p =>
      obtain ⟨i, next⟩ := p
      exact ⟨_, .executed hd ho h'⟩

/-- Stepping up to `n` times drives the machine. -/
theorem stepUpTo_drives (n : Nat) (m : Machine) : ∃ R, Drives m R (m.stepUpTo n).2 := by
  -- induction on the steps allowed, from the machine each step leaves
  induction n generalizing m with
  | zero => exact ⟨[], .done m⟩
  | succ n ih =>
    cases hs : m.step with
    | mk r m' =>
      rcases r with e | _ | t <;> simp only [stepUpTo, hs]
      · -- a fault ends the steps
        exact Drives.of_step hs (.done m')
      · obtain ⟨R, hR⟩ := ih m'
        exact Drives.of_step hs hR
      · -- so does a termination
        exact Drives.of_step hs (.done m')

/-- A run drives the machine, whether it finishes or stops at its step limit. -/
theorem runFor_drives (fuel : Nat) (m : Machine) : ∃ R, Drives m R (m.runFor fuel).machine := by
  -- induction on the fuel, from the machine each step leaves
  induction fuel generalizing m with
  | zero => exact ⟨[], .done m⟩
  | succ fuel ih =>
    cases hs : m.step with
    | mk r m' =>
      rcases r with e | _ | t <;> simp only [runFor, hs, RunOutcome.machine]
      · -- a fault ends the run with its flush
        exact Drives.of_step hs (.finished _ (.done _))
      · obtain ⟨R, hR⟩ := ih m'
        exact Drives.of_step hs hR
      · -- so does a termination
        exact Drives.of_step hs (.finished _ (.done _))

end Machine

namespace Session

/-- **A session only drives its machine.** Every action of a session steps, runs, or changes the
program counter, a register, a memory word or the stack from outside, or leaves the machine as it
was. -/
theorem apply_drives (s : Session) (a : Action) : ∃ R, Machine.Drives s.machine R (s.apply a).2.machine := by
  have keep : Machine.Drives s.machine [] s.machine := .done _
  cases a with
  | step n =>
    obtain ⟨R, hR⟩ := Machine.stepUpTo_drives n s.machine
    refine ⟨R, ?_⟩
    dsimp only [apply]
    cases h : s.machine.stepUpTo n with
    | mk o m' =>
      rw [h] at hR
      cases o <;> exact hR
  | run =>
    obtain ⟨R, hR⟩ := Machine.runFor_drives s.limit s.machine
    refine ⟨R, ?_⟩
    dsimp only [apply, runLimited]
    cases h : s.machine.runFor s.limit with
    | finished r m' => rw [h] at hR; exact hR
    | unfinished m' => rw [h] at hR; exact hR
  | setRegister r v =>
    exact ⟨[], .changed s.machine.computer.pc (s.machine.computer.registers.set r v)
      s.machine.computer.memory s.machine.computer.stack (.done _)⟩
  | setPc a =>
    exact ⟨[], .changed a s.machine.computer.registers s.machine.computer.memory
      s.machine.computer.stack (.done _)⟩
  | poke a v =>
    dsimp only [apply]
    cases h : s.machine.computer.memory.write a v with
    | ok mem =>
      exact ⟨[], .changed s.machine.computer.pc s.machine.computer.registers mem
        s.machine.computer.stack (.done _)⟩
    | error e => exact ⟨[], keep⟩
  | peek a =>
    dsimp only [apply]
    cases s.machine.computer.memory.read a <;> exact ⟨[], keep⟩
  | push v =>
    exact ⟨[], .changed s.machine.computer.pc s.machine.computer.registers
      s.machine.computer.memory (v :: s.machine.computer.stack) (.done _)⟩
  | pop =>
    dsimp only [apply]
    cases h : s.machine.computer.stack with
    | nil => exact ⟨[], keep⟩
    | cons x rest =>
      exact ⟨[], .changed s.machine.computer.pc s.machine.computer.registers
        s.machine.computer.memory rest (.done _)⟩
  | flush =>
    dsimp only [apply]
    cases s.machine.console.flush <;> exact ⟨[], keep⟩
  | decode => exact ⟨[], keep⟩

end Session

end WordMachine
