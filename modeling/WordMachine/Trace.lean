import WordMachine.Instruction.Basic
import WordMachine.IoError
import WordMachine.Text.Utf8

/-!
# Execution traces

Each executed instruction can be reported to a trace sink as a record: its address, its
operation, its operands with the values that source registers held before it ran, and the
registers after it. `TraceRecord.render` writes a record as one line:
`[  addr] mnem a, r1(5), 7 | r0=.. r1=.. ... r7=..`, the address right-aligned in five
characters and the mnemonic left-aligned in four.

A sink that is not enabled is never handed a record. An enabled sink may fail a record; what it
accepted is kept in order.

A record reaches the sink's device in pieces, as a formatter writes it: each literal, each
number and each padding space on its own (`TraceRecord.pieces`). In front of a device there may
be a buffer, which sends what it holds on when a piece would overflow it; `TraceSink.delivered`
counts the bytes sent on, which tells when the trace shows up on a device that other writers
share.
-/

namespace WordMachine

/-- An operand as it stood when the instruction started. -/
inductive TracedOperand where
  /-- A literal value. -/
  | literal (value : Word)
  /-- A source register and the value it held. -/
  | register (reg : Reg) (value : Word)
  /-- A destination register. -/
  | destination (reg : Reg)
  deriving DecidableEq, Repr

/-- A literal in decimal, a source register as `rN(value)`, a destination as `rN`. -/
def TracedOperand.render : TracedOperand → String
  | .literal v => v.render
  | .register r v => r.render ++ "(" ++ v.render ++ ")"
  | .destination r => r.render

/-- The operands of an instruction with the values of its source registers. -/
def Instruction.tracedOperands (i : Instruction) (rs : Registers) : List TracedOperand :=
  i.slots.map fun
    | .destination r => .destination r
    | .source (.literal v) => .literal v
    | .source (.register r) => .register r (rs.get r)

/-- One executed instruction. -/
structure TraceRecord where
  /-- Where the instruction starts. -/
  address : Address
  /-- Its operation. -/
  opcode : Opcode
  /-- Its operands as they stood before it ran. -/
  operands : List TracedOperand
  /-- The registers after it ran. -/
  registers : Registers

/-- The operands of a record: the first after a space, the others after `", "`. -/
def TraceRecord.operandsText : List TracedOperand → String
  | [] => ""
  | o :: os => " " ++ o.render ++ String.join (os.map fun o => ", " ++ o.render)

/-- The line of a record, without its line feed. -/
def TraceRecord.render (r : TraceRecord) : String :=
  "[" ++ padLeft 5 (toString r.address.toNat) ++ "] " ++ padRight 4 r.opcode.mnemonic ++
    TraceRecord.operandsText r.operands ++ " | " ++ r.registers.render

/-- A register as the formatter writes it: the letter, then the number. -/
def Reg.pieces (r : Reg) : List String := ["r", toString r.index.val]

/-- An operand as the formatter writes it. -/
def TracedOperand.pieces : TracedOperand → List String
  | .literal v => [v.render]
  | .register r v => r.pieces ++ ["(", v.render, ")"]
  | .destination r => r.pieces

/-- The register file as the formatter writes it. -/
def Registers.pieces (rs : Registers) : List String :=
  Reg.all.flatMap fun r =>
    (if r.index.val = 0 then [] else [" "]) ++ r.pieces ++ ["=", (rs.get r).render]

/-- The pieces of a record's line and its line feed, in the order they are written: the
padding of the address and of the mnemonic goes one space at a time. -/
def TraceRecord.pieces (r : TraceRecord) : List String :=
  let address := toString r.address.toNat
  let mnemonic := r.opcode.mnemonic
  let operands := (r.operands.zipIdx.flatMap fun (o, i) => (if i = 0 then " " else ", ") :: o.pieces)
  ["["] ++ List.replicate (5 - address.length) " " ++ [address, "] ", mnemonic] ++
    List.replicate (4 - mnemonic.length) " " ++ operands ++ [" | "] ++ r.registers.pieces ++ ["\n"]

/-- Passes pieces of the given sizes through a buffer of `capacity` bytes, starting from the
bytes it holds and the bytes it sent on: a piece that would overflow the buffer first sends
what it holds on, and a piece as large as the buffer goes straight through. -/
def bufferPieces (capacity : Nat) : Nat × Nat → List Nat → Nat × Nat
  | state, [] => state
  | (held, sent), n :: ns =>
    let (held, sent) := if held + n > capacity then (0, sent + held) else (held, sent)
    let state := if n ≥ capacity then (held, sent + n) else (held + n, sent)
    bufferPieces capacity state ns

/-- How the device behind an enabled sink answers. -/
inductive TraceDevice where
  /-- Accepts every record. -/
  | reliable
  /-- Accepts the first `n` records and fails every later one. -/
  | failingAfter (n : Nat) (error : IoError)
  /-- A buffer of `capacity` bytes in front of a device that takes nothing: a record is
  accepted while all bytes written so far fit in the buffer. -/
  | bufferedFull (capacity : Nat) (error : IoError)
  /-- A buffer of `capacity` bytes in front of a device that takes everything. -/
  | buffered (capacity : Nat)
  deriving DecidableEq, Repr

/-- A trace sink and what it has received. -/
structure TraceSink where
  /-- A sink that is not enabled is never handed a record. -/
  enabled : Bool
  /-- How the sink answers records. -/
  device : TraceDevice
  /-- The lines accepted, oldest first. -/
  lines : Array String := #[]
  /-- The number of records handed to the sink. -/
  calls : Nat := 0
  /-- The bytes accepted, line feeds included. -/
  bytes : Nat := 0
  /-- The accepted bytes that reached the device; the others wait in its buffer. -/
  delivered : Nat := 0
  deriving Repr

namespace TraceSink

/-- The sink that takes no records. -/
def off : TraceSink := { enabled := false, device := .reliable }

/-- A sink that writes one line of text per record to the given device. -/
def text (device : TraceDevice := .reliable) : TraceSink := { enabled := true, device }

/-- Hands a record to the sink; the error is the device's, if it refused it. -/
def record (s : TraceSink) (r : TraceRecord) : Option IoError × TraceSink :=
  let line := r.render
  let size := (Text.Utf8.encode line.toList).length + 1
  let called := { s with calls := s.calls + 1 }
  let accepted := { called with lines := s.lines.push line, bytes := s.bytes + size }
  match s.device with
  | .reliable => (none, accepted)
  | .failingAfter n e => if s.calls < n then (none, accepted) else (some e, called)
  | .bufferedFull capacity e =>
    if s.bytes + size ≤ capacity then (none, accepted) else (some e, called)
  | .buffered capacity =>
    let sizes := r.pieces.map String.utf8ByteSize
    let (_, sent) := bufferPieces capacity (s.bytes - s.delivered, s.delivered) sizes
    (none, { accepted with delivered := sent })

/-- The failure of the final flush, which sends on whatever the buffer holds: a full device
refuses it. -/
def finish (s : TraceSink) : Option IoError :=
  match s.device with
  | .bufferedFull _ e => if s.calls > 0 then some e else none
  | _ => none

/-- The text the sink accepted, one line per record. -/
def contents (s : TraceSink) : String :=
  String.join (s.lines.toList.map (· ++ "\n"))

end TraceSink

end WordMachine
