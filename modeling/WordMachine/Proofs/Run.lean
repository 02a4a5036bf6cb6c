import Mathlib.Logic.Function.Iterate
import WordMachine.Machine.Run

/-!
# A run is its steps, then one flush

A run steps until a step terminates or faults, then flushes the console once and reports. This
module compares `Machine.runFor` with the sequence of single steps from the same machine:

* `Machine.afterSteps m n` is the machine after `n` steps, each taken from where the one before
  left it, whatever it returned.
* `Machine.runFor_of_goes` is the run lemma: over steps that go on, a run is the same run from
  the machine they lead to.
* `Machine.finish_spec` says what the end of a run does: a fault of the last step wins over a
  failed flush, a failed flush over the step's termination, and the flush is the only change.
* `Machine.runFor_steps_then_flushes` puts them together: when the first `n` steps go on and
  the next one stops, a run with room for them takes exactly those steps and then flushes; one
  with less room stops after its fuel; and a machine whose steps never stop never finishes.
-/

namespace WordMachine

/-- A flush that fails leaves nothing to hand on: only an accepting stream settles. -/
theorem Console.settle_of_flush_error {c : Console} {e : Fault}
    (h : c.flush = .error e) : c.settle = c := by
  unfold Console.flush at h
  unfold Console.settle
  cases hs : c.stream with
  | accepting => rw [hs] at h; cases h
  | closed => rfl
  | refusingFlush => rfl

namespace Machine

/-- The machine after `n` steps, each taken from where the one before left it. -/
def afterSteps (m : Machine) (n : Nat) : Machine := (fun m : Machine => m.step.2)^[n] m

@[simp] theorem afterSteps_zero (m : Machine) : m.afterSteps 0 = m := rfl

theorem afterSteps_succ (m : Machine) (n : Nat) : m.afterSteps (n + 1) = m.step.2.afterSteps n :=
  Function.iterate_succ_apply _ n m

theorem afterSteps_succ' (m : Machine) (n : Nat) :
    m.afterSteps (n + 1) = (m.afterSteps n).step.2 :=
  Function.iterate_succ_apply' _ n m

@[simp] theorem runFor_zero (m : Machine) : m.runFor 0 = .unfinished m := rfl

section Run

variable {m : Machine} {fuel : Nat}

/-- A step that goes on costs one unit of fuel and leaves the rest of the run to the machine
it leads to. -/
theorem runFor_succ_of_goes (h : m.step.1 = .ok none) :
    m.runFor (fuel + 1) = m.step.2.runFor fuel := by
  rw [runFor]
  cases hs : m.step with
  | mk r m' =>
    rw [hs] at h
    cases h
    rfl

/-- A step that terminates with `t` (`r = .ok t`) or faults with `e` (`r = .error e`) ends the
run, which then finishes from the machine the step left. -/
theorem runFor_succ_of_stops {r : Except Fault Termination} (h : m.step.1 = r.map some) :
    m.runFor (fuel + 1) = .finished (m.step.2.finish r).1 (m.step.2.finish r).2 := by
  rw [runFor]
  cases hs : m.step with
  | mk r' m' =>
    rw [hs] at h
    cases r with
    | error e => cases h; rfl
    | ok t => cases h; rfl

/-- **The run lemma.** Over `n` steps that all go on, a run with `n` more units of fuel is the
same run from the machine after those steps. -/
theorem runFor_of_goes {n : Nat} (h : ∀ k < n, (m.afterSteps k).step.1 = .ok none) :
    m.runFor (n + fuel) = (m.afterSteps n).runFor fuel := by
  -- induction on the steps that go on, each time from the machine the last one left
  induction n generalizing m with
  | zero => simp
  | succ n ih =>
    have hfirst : m.step.1 = .ok none := h 0 (Nat.succ_pos n)
    have hrest : ∀ k < n, (m.step.2.afterSteps k).step.1 = .ok none := by
      intro k hk
      rw [← afterSteps_succ]
      exact h (k + 1) (by omega)
    rw [show n + 1 + fuel = (n + fuel) + 1 by omega, runFor_succ_of_goes hfirst, ih hrest,
      afterSteps_succ]

end Run

/-- **What the end of a run does.** It reports a fault of the last step whatever the flush
returned; otherwise the flush's failure if it failed; otherwise the termination. It flushes the
console once and changes neither the computer nor the trace sink. -/
theorem finish_spec (m : Machine) (r : Except Fault Termination) :
    (m.finish r).1 = r.bind (fun t => m.console.flush.map fun _ => t) ∧
    (m.finish r).2.computer = m.computer ∧ (m.finish r).2.sink = m.sink ∧
    (m.finish r).2.console = m.console.settle := by
  unfold finish
  cases hf : m.console.flush with
  | ok u =>
    cases r with
    | error e => exact ⟨rfl, rfl, rfl, rfl⟩
    | ok t => exact ⟨rfl, rfl, rfl, rfl⟩
  | error e =>
    have hsettle := Console.settle_of_flush_error hf
    cases r with
    | error e' => exact ⟨rfl, rfl, rfl, hsettle.symm⟩
    | ok t => exact ⟨rfl, rfl, rfl, hsettle.symm⟩

/-- **A run is its steps, then one flush.** For every machine: when the first `n` steps go on
and the next one stops with `r` (a termination or a fault), a run with fuel for at most `n`
steps takes them and stops unfinished, and a run with fuel for more takes exactly the `n + 1`
steps and then finishes. It then reports the fault of the last step whatever the flush returned,
otherwise the flush's failure, otherwise the termination; its computer and trace sink are those
the steps left, and its console theirs flushed once. When no step ever stops, no run finishes:
each one ends unfinished after all its fuel. -/
theorem runFor_steps_then_flushes (m : Machine) :
    (∀ n (r : Except Fault Termination),
      (∀ k < n, (m.afterSteps k).step.1 = .ok none) → (m.afterSteps n).step.1 = r.map some →
      ∀ fuel,
        (fuel ≤ n → m.runFor fuel = .unfinished (m.afterSteps fuel)) ∧
        (n < fuel → ∃ m', m.runFor fuel =
            .finished (r.bind fun t => (m.afterSteps (n + 1)).console.flush.map fun _ => t) m' ∧
          m'.computer = (m.afterSteps (n + 1)).computer ∧ m'.sink = (m.afterSteps (n + 1)).sink ∧
          m'.console = (m.afterSteps (n + 1)).console.settle)) ∧
    ((∀ k, (m.afterSteps k).step.1 = .ok none) →
      ∀ fuel, m.runFor fuel = .unfinished (m.afterSteps fuel)) := by
  refine ⟨fun n r hgo hstop fuel => ⟨fun hle => ?_, fun hlt => ?_⟩, fun hall fuel => ?_⟩
  · -- the fuel runs out on steps that go on
    have hrun : m.runFor (fuel + 0) = (m.afterSteps fuel).runFor 0 :=
      runFor_of_goes fun k hk => hgo k (by omega)
    simpa using hrun
  · -- the steps that go on, then the one that stops, then the flush
    obtain ⟨d, rfl⟩ : ∃ d, fuel = n + (d + 1) := ⟨fuel - n - 1, by omega⟩
    rw [runFor_of_goes hgo, runFor_succ_of_stops hstop, afterSteps_succ']
    obtain ⟨hres, hcomputer, hsink, hconsole⟩ := finish_spec (m.afterSteps n).step.2 r
    exact ⟨_, by rw [hres], hcomputer, hsink, hconsole⟩
  · have hrun : m.runFor (fuel + 0) = (m.afterSteps fuel).runFor 0 :=
      runFor_of_goes fun k _ => hall k
    simpa using hrun

/-- A machine that writes `A` to a console whose stream refuses flushes, then halts. -/
def refusedSample : Machine :=
  { computer := { memory := ⟨#[19, 65, 0]⟩ }
    console := Console.ofInput [] .refusingFlush
    sink := TraceSink.off }

theorem runFor_steps_then_flushes_refused :
    (∀ k < 1, (refusedSample.afterSteps k).step.1 = .ok none) ∧
      (refusedSample.afterSteps 1).step.1 = (Except.ok .halted : Except Fault Termination).map some ∧
      ∃ m', refusedSample.runFor 2 =
          .finished ((Except.ok .halted : Except Fault Termination).bind fun t =>
            (refusedSample.afterSteps 2).console.flush.map fun _ => t) m' ∧
        m'.computer = (refusedSample.afterSteps 2).computer ∧
        m'.sink = (refusedSample.afterSteps 2).sink ∧
        m'.console = (refusedSample.afterSteps 2).console.settle := by
  have hgo : ∀ k < 1, (refusedSample.afterSteps k).step.1 = .ok none := by
    intro k hk
    obtain rfl : k = 0 := by omega
    rfl
  have hstop : (refusedSample.afterSteps 1).step.1 =
      (Except.ok .halted : Except Fault Termination).map some := rfl
  exact ⟨hgo, hstop, ((runFor_steps_then_flushes refusedSample).1 1 _ hgo hstop 2).2 (by omega)⟩

end Machine

end WordMachine
