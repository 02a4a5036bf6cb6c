import WordMachine.Machine.Step

/-!
# Runs

A run steps until the program terminates or faults, then flushes the console once. A fault
wins over a failed flush; a failed flush turns a termination into a fault.

`runFor fuel` takes at most `fuel` steps: it ends `finished` when the program stopped within
them, and `unfinished` with the machine after exactly `fuel` steps otherwise. A program that
never stops is `unfinished` for every fuel.
-/

namespace WordMachine

/-- How a run with a limited number of steps ended. -/
inductive RunOutcome where
  /-- The program stopped within the limit; the console was flushed. -/
  | finished (result : Except Fault Termination) (machine : Machine)
  /-- The limit was reached; the machine after exactly that many steps. -/
  | unfinished (machine : Machine)

namespace Machine

/-- The end of a run: flush the console and report the outcome. -/
def finish (m : Machine) (r : Except Fault Termination) : Except Fault Termination × Machine :=
  let flushed := m.console.flush
  let m := match flushed with
    | .ok () => { m with console := m.console.settle }
    | .error _ => m
  match r, flushed with
  | .error e, _ => (.error e, m)
  | .ok _, .error e => (.error e, m)
  | .ok t, .ok () => (.ok t, m.emit (.stopped t m.computer.cycles))

/-- Runs for at most `fuel` steps. -/
def runFor : Nat → Machine → RunOutcome
  | 0, m => .unfinished m
  | fuel + 1, m =>
    match m.step with
    | (.ok none, m') => runFor fuel m'
    | (.ok (some t), m') =>
      let (r, m'') := m'.finish (.ok t)
      .finished r m''
    | (.error e, m') =>
      let (r, m'') := m'.finish (.error e)
      .finished r m''

/-- Steps at most `n` times, stopping after the first step that terminates or faults; the
result is that step's, or `none` when every step went on. -/
def stepUpTo : Nat → Machine → Option (Except Fault Termination) × Machine
  | 0, m => (none, m)
  | n + 1, m =>
    match m.step with
    | (.ok none, m') => stepUpTo n m'
    | (.ok (some t), m') => (some (.ok t), m')
    | (.error e, m') => (some (.error e), m')

end Machine

end WordMachine
