import WordMachine.Machine.Run
import WordMachine.Trace

/-!
# Sessions

A session drives one machine through a list of actions: steps, bounded runs, and direct
changes to registers, program counter, memory and stack. After each action it reports the
machine's state: registers, stack, the memory words that differ from the loaded image, and the
output and trace lines produced since the previous report.
-/

namespace WordMachine

/-- What the instruction at an address decodes to, with its operands' values. -/
structure Decoding where
  /-- The instruction. -/
  instruction : Instruction
  /-- The address after it. -/
  next : Address
  /-- Its operands, source registers with their values. -/
  operands : List TracedOperand

/-- Decodes the instruction at an address and reads its operands against the registers. -/
def Instruction.inspect (m : Memory) (address : Address) (rs : Registers) :
    Except Fault Decoding :=
  (Instruction.decode m address).map fun (i, next) =>
    { instruction := i, next, operands := i.tracedOperands rs }

/-- One action on a machine. -/
inductive Action where
  /-- Step up to `n` times, stopping at the first termination or fault. -/
  | step (n : Nat)
  /-- Run within the session's step limit. -/
  | run
  /-- Change a register. -/
  | setRegister (reg : Reg) (value : Word)
  /-- Change the program counter. -/
  | setPc (address : Address)
  /-- Change a memory word. -/
  | poke (address : Address) (value : Word)
  /-- Read a memory word. -/
  | peek (address : Address)
  /-- Push a word on the stack. -/
  | push (value : Word)
  /-- Pop the top of the stack. -/
  | pop
  /-- Flush the console. -/
  | flush
  /-- Decode the instruction at the program counter. -/
  | decode

/-- The answer to an action. -/
inductive Reply where
  /-- Nothing to report. -/
  | done
  /-- The program stopped, normally or by a fault. -/
  | stopped (result : Except Fault Termination)
  /-- A run reached the step limit. -/
  | stepLimit (limit : Nat)
  /-- A word read, if there was one. -/
  | value (word : Option Word)
  /-- The action failed. -/
  | failed (fault : Fault)
  /-- The instruction at the program counter. -/
  | decoded (result : Except Fault Decoding)

/-- The state of a machine as a report shows it. -/
structure Snapshot where
  pc : Nat
  cycles : Nat
  registers : List Nat
  /-- Bottom first. -/
  stack : List Nat
  memoryLength : Nat
  /-- `(address, word)` for each word that differs from the loaded image. -/
  memoryChanges : List (Nat × Nat)
  /-- Output since the previous report. -/
  output : String
  /-- Trace lines since the previous report, when the sink is enabled. -/
  trace : Option (List String)
  /-- Records handed to the sink so far. -/
  traceRecords : Nat
  /-- The computer in brief. -/
  summary : String

/-- A machine with its loaded image and the marks of what was already reported. -/
structure Session where
  machine : Machine
  /-- The memory just after loading. -/
  loaded : Memory
  /-- The most steps a run may take. -/
  limit : Nat
  /-- Output bytes already reported. -/
  outputShown : Nat := 0
  /-- Trace lines already reported. -/
  traceShown : Nat := 0

namespace Session

/-- A session over a freshly loaded memory. -/
def start (memory : Memory) (console : Console) (sink : TraceSink) (limit : Nat) : Session :=
  { machine := { computer := .ofMemory memory, console, sink }, loaded := memory, limit }

/-- Runs within the step limit. -/
def runLimited (m : Machine) (limit : Nat) : Reply × Machine :=
  match m.runFor limit with
  | .finished r m' => (.stopped r, m')
  | .unfinished m' => (.stepLimit limit, m')

/-- Applies one action. -/
def apply (s : Session) (a : Action) : Reply × Session :=
  let m := s.machine
  let c := m.computer
  let put := fun (m' : Machine) => { s with machine := m' }
  let change := fun (f : Computer → Computer) => put (m.withComputer f)
  match a with
  | .step n =>
    match m.stepUpTo n with
    | (none, m') => (.done, put m')
    | (some r, m') => (.stopped r, put m')
  | .run => let (r, m') := runLimited m s.limit; (r, put m')
  | .setRegister r v => (.done, change fun c => { c with registers := c.registers.set r v })
  | .setPc a => (.done, change fun c => { c with pc := a })
  | .poke a v =>
    match c.memory.write a v with
    | .ok mem => (.done, change fun c => { c with memory := mem })
    | .error e => (.failed (.memory e), s)
  | .peek a =>
    match c.memory.read a with
    | .ok w => (.value (some w), s)
    | .error e => (.failed (.memory e), s)
  | .push v => (.done, change fun c => { c with stack := v :: c.stack })
  | .pop =>
    match c.stack with
    | [] => (.value none, s)
    | x :: rest => (.value (some x), change fun c => { c with stack := rest })
  | .flush =>
    match m.console.flush with
    | .ok () => (.done, s)
    | .error e => (.failed e, s)
  | .decode => (.decoded (Instruction.inspect c.memory c.pc c.registers), s)

/-- Reports the state and marks its output and trace lines as reported. -/
def snapshot (s : Session) : Snapshot × Session :=
  let m := s.machine
  let c := m.computer
  let written := m.console.written
  let fresh := (written.toList.drop s.outputShown)
  let lines := m.sink.lines
  let snap : Snapshot := {
    pc := c.pc.toNat
    cycles := c.cycles
    registers := c.registers.toList.map UInt16.toNat
    stack := c.stack.reverse.map UInt16.toNat
    memoryLength := c.memory.size
    memoryChanges := (c.memory.changesFrom s.loaded).map fun (i, w) => (i, w.toNat)
    output := String.ofList ((Text.Utf8.decode? fresh).getD [])
    trace := if m.sink.enabled then some (lines.toList.drop s.traceShown) else none
    traceRecords := m.sink.calls
    summary := c.summary }
  (snap, { s with outputShown := written.size, traceShown := lines.size })

end Session

end WordMachine
