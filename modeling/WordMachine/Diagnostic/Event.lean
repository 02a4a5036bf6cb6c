import WordMachine.Instruction.Basic
import WordMachine.Fault

/-!
# Diagnostic events

While it loads and runs a program the machine reports what it does as events, each with a
level of detail and the part of the machine that reports it. Events do not affect a run; a
command line turns them into log lines.
-/

namespace WordMachine.Diagnostic

/-- Levels of detail, from the most to the least severe. -/
inductive Level where
  | error | warn | info | debug | trace
  deriving DecidableEq, Repr

/-- The level's rank: `1` for errors up to `5` for the finest detail. -/
def Level.rank : Level → Nat
  | .error => 1 | .warn => 2 | .info => 3 | .debug => 4 | .trace => 5

/-- The part of the machine that reports an event. -/
inductive Component where
  /-- Reading program images. -/
  | loader
  /-- The fetch-execute cycle. -/
  | processor
  /-- The effects of single instructions. -/
  | instructions
  /-- The console. -/
  | console
  deriving DecidableEq, Repr

/-- Something the machine reports. -/
inductive Event where
  /-- An image of so many bytes was read. -/
  | imageRead (bytes : Nat)
  /-- An image of so many words was loaded into a memory of so many words. -/
  | imageLoaded (words memory : Nat)
  /-- The instruction at an address is about to be executed. -/
  | executing (address : Address) (instruction : Instruction)
  /-- Control moves to an address by a jump or call. -/
  | jumping (target : Address)
  /-- A value was pushed by `push`. -/
  | pushed (value : Word)
  /-- A value was popped by `pop`. -/
  | popped (value : Word)
  /-- `add` computed a sum. -/
  | summed (a b result : Word)
  /-- `mult` computed a product. -/
  | multiplied (a b result : Word)
  /-- `mod` computed a remainder. -/
  | divided (a b result : Word)
  /-- `ret` returns to an address. -/
  | returning (target : Address)
  /-- A line of input was fetched (shown without its trailing blanks). -/
  | lineRead (line : String)
  /-- The trace sink failed and is not used any more. -/
  | traceDisabled (error : IoError)
  /-- A run stopped normally after so many instructions. -/
  | stopped (termination : Termination) (cycles : Nat)

namespace Event

/-- The level of an event. -/
def level : Event → Level
  | .imageLoaded .. | .stopped .. => .info
  | .traceDisabled _ => .warn
  | _ => .debug

/-- The part of the machine that reports an event. -/
def component : Event → Component
  | .imageRead _ | .imageLoaded .. => .loader
  | .executing .. | .jumping _ | .traceDisabled _ | .stopped .. => .processor
  | .pushed _ | .popped _ | .summed .. | .multiplied .. | .divided .. | .returning _ =>
    .instructions
  | .lineRead _ => .console

end Event

end WordMachine.Diagnostic
