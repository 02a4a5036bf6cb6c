import WordMachine.Memory
import WordMachine.Register
import WordMachine.Console
import WordMachine.Trace
import WordMachine.Diagnostic.Event

/-!
# The machine's state

A computer is its memory, registers, stack, program counter and count of executed
instructions, and whether its trace sink has failed. The machine adds what surrounds the
computer: its console, its trace sink, and the diagnostic events reported so far.
-/

namespace WordMachine

/-- The processor's state. -/
structure Computer where
  /-- Code and data. -/
  memory : Memory
  /-- The eight registers. -/
  registers : Registers := .zero
  /-- The stack, top first. -/
  stack : List Word := []
  /-- The address of the next instruction. -/
  pc : Address := 0
  /-- The number of instructions executed. -/
  cycles : Nat := 0
  /-- Set once the trace sink failed; it is not handed records any more. -/
  traceFailed : Bool := false

namespace Computer

/-- A computer about to run the program in the given memory from address `0`. -/
def ofMemory (memory : Memory) : Computer := { memory }

/-- The state in brief: pc, registers and stack height, the memory elided. -/
def summary (c : Computer) : String :=
  "Computer \x7b pc: " ++ toString c.pc.toNat ++ ", registers: Registers([" ++
    ", ".intercalate (c.registers.toList.map Word.render) ++ "]), stack: " ++
    toString c.stack.length ++ " words, memory: [...] \x7d"

end Computer

/-- A moment when the trace sink sent bytes on to its device: how many trace bytes had reached
the device then, and how many console bytes had reached the console's device and how many
events had been reported by then. -/
structure TraceFlush where
  /-- Trace bytes on the device. -/
  trace : Nat
  /-- Console bytes on the console's device. -/
  console : Nat
  /-- Events reported. -/
  events : Nat
  deriving DecidableEq, Repr

/-- A computer with its console, its trace sink and the events reported so far. -/
structure Machine where
  /-- The processor. -/
  computer : Computer
  /-- Where `in` reads and `out` writes. -/
  console : Console
  /-- Where executed instructions are reported. -/
  sink : TraceSink
  /-- Diagnostic events, oldest first. -/
  events : Array Diagnostic.Event := #[]
  /-- The moments the trace sink sent bytes on, oldest first. -/
  flushes : Array TraceFlush := #[]

namespace Machine

/-- Reports an event. -/
def emit (m : Machine) (e : Diagnostic.Event) : Machine := { m with events := m.events.push e }

/-- Notes a moment when the trace sink sent bytes on, given how many it had sent before. -/
def noteFlush (m : Machine) (before : Nat) : Machine :=
  if before < m.sink.delivered then
    { m with flushes := m.flushes.push ⟨m.sink.delivered, m.console.delivered, m.events.size⟩ }
  else m

/-- The machine with its computer changed. -/
def withComputer (m : Machine) (f : Computer → Computer) : Machine :=
  { m with computer := f m.computer }

end Machine

end WordMachine
