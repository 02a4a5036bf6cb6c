import WordMachine.Instruction.Basic
import WordMachine.Memory
import WordMachine.Fault

/-!
# Decoding

An instruction is read word by word from its address: the opcode, then each operand in order,
each fetched at the address after the previous one, wrapping from `65535` to `0`. The first
failure wins: a fetch past the end of memory, an opcode word above `21`, or a malformed operand,
in the order of the words. On success the address after the last word comes with the
instruction.
-/

namespace WordMachine

namespace Memory

/-- The word at an address, as a fault of the machine when the address is outside memory. -/
def fetch (m : Memory) (a : Address) : Except Fault Word :=
  (m.read a).mapError Fault.memory

/-- Fetches and reads a source operand. -/
def fetchSource (m : Memory) (a : Address) : Except Fault Operand := do
  let w ← m.fetch a
  (Operand.decode w).mapError Fault.decode

/-- Fetches and reads a destination operand. -/
def fetchDestination (m : Memory) (a : Address) : Except Fault Reg := do
  let w ← m.fetch a
  (Operand.decodeDestination w).mapError Fault.decode

end Memory

namespace Instruction

/-- Reads the instruction at an address, with the address that follows it. -/
def decode (m : Memory) (address : Address) : Except Fault (Instruction × Address) := do
  let w ← m.fetch address
  let some op := Opcode.ofWord? w | throw (.unknownOpcode w address)
  let a1 := address + 1
  let a2 := a1 + 1
  let a3 := a2 + 1
  let a4 := a3 + 1
  match op with
  | .halt => pure (.halt, a1)
  | .set => do
    let r ← m.fetchDestination a1; let a ← m.fetchSource a2; pure (.set r a, a3)
  | .push => do let a ← m.fetchSource a1; pure (.push a, a2)
  | .pop => do let r ← m.fetchDestination a1; pure (.pop r, a2)
  | .eq => do
    let r ← m.fetchDestination a1; let a ← m.fetchSource a2; let b ← m.fetchSource a3
    pure (.eq r a b, a4)
  | .gt => do
    let r ← m.fetchDestination a1; let a ← m.fetchSource a2; let b ← m.fetchSource a3
    pure (.gt r a b, a4)
  | .jmp => do let a ← m.fetchSource a1; pure (.jmp a, a2)
  | .jt => do let a ← m.fetchSource a1; let b ← m.fetchSource a2; pure (.jt a b, a3)
  | .jf => do let a ← m.fetchSource a1; let b ← m.fetchSource a2; pure (.jf a b, a3)
  | .add => do
    let r ← m.fetchDestination a1; let a ← m.fetchSource a2; let b ← m.fetchSource a3
    pure (.add r a b, a4)
  | .mult => do
    let r ← m.fetchDestination a1; let a ← m.fetchSource a2; let b ← m.fetchSource a3
    pure (.mult r a b, a4)
  | .mod => do
    let r ← m.fetchDestination a1; let a ← m.fetchSource a2; let b ← m.fetchSource a3
    pure (.mod r a b, a4)
  | .and => do
    let r ← m.fetchDestination a1; let a ← m.fetchSource a2; let b ← m.fetchSource a3
    pure (.and r a b, a4)
  | .or => do
    let r ← m.fetchDestination a1; let a ← m.fetchSource a2; let b ← m.fetchSource a3
    pure (.or r a b, a4)
  | .not => do
    let r ← m.fetchDestination a1; let a ← m.fetchSource a2; pure (.not r a, a3)
  | .rmem => do
    let r ← m.fetchDestination a1; let a ← m.fetchSource a2; pure (.rmem r a, a3)
  | .wmem => do let a ← m.fetchSource a1; let b ← m.fetchSource a2; pure (.wmem a b, a3)
  | .call => do let a ← m.fetchSource a1; pure (.call a, a2)
  | .ret => pure (.ret, a1)
  | .out => do let a ← m.fetchSource a1; pure (.out a, a2)
  | .input => do let r ← m.fetchDestination a1; pure (.input r, a2)
  | .noop => pure (.noop, a1)

end Instruction

end WordMachine
