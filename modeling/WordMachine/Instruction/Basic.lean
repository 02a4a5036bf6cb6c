import WordMachine.Operand

/-!
# Instructions

The instruction set has 22 operations, numbered `0` to `21` in the order of `Opcode`. An
instruction is its opcode word followed by its operands; a destination operand must name a
register, every other operand is a literal or a register.

`Instruction.render` is the assembly text. Each operation has a text of its own
(`Instruction.format`): the mnemonic padded to four characters, a space, and the operands
separated by `", "`. `Instruction.encode` writes the words of an instruction, and
`Instruction.width` counts them; decoding (`Instruction.decode`) reads them back.
-/

namespace WordMachine

/-- The 22 operations, in the order of their numbers. -/
inductive Opcode where
  | halt | set | push | pop | eq | gt | jmp | jt | jf | add | mult | mod | and | or | not
  | rmem | wmem | call | ret | out | input | noop
  deriving DecidableEq, Repr

namespace Opcode

/-- All operations, in the order of their numbers. -/
def all : List Opcode :=
  [halt, set, push, pop, eq, gt, jmp, jt, jf, add, mult, mod, and, or, not,
    rmem, wmem, call, ret, out, input, noop]

/-- The operation that a word numbers, if the word is below `22`. -/
def ofWord? (w : Word) : Option Opcode := all[w.toNat]?

/-- The number of an operation. -/
def toWord : Opcode → Word
  | halt => 0 | set => 1 | push => 2 | pop => 3 | eq => 4 | gt => 5 | jmp => 6 | jt => 7
  | jf => 8 | add => 9 | mult => 10 | mod => 11 | and => 12 | or => 13 | not => 14
  | rmem => 15 | wmem => 16 | call => 17 | ret => 18 | out => 19 | input => 20 | noop => 21

/-- The lowercase name of an operation. -/
def mnemonic : Opcode → String
  | halt => "halt" | set => "set" | push => "push" | pop => "pop" | eq => "eq" | gt => "gt"
  | jmp => "jmp" | jt => "jt" | jf => "jf" | add => "add" | mult => "mult" | mod => "mod"
  | and => "and" | or => "or" | not => "not" | rmem => "rmem" | wmem => "wmem"
  | call => "call" | ret => "ret" | out => "out" | input => "in" | noop => "noop"

/-- The number of operands an operation takes. -/
def arity : Opcode → Nat
  | halt | ret | noop => 0
  | push | pop | jmp | call | out | input => 1
  | set | jt | jf | not | rmem | wmem => 2
  | eq | gt | add | mult | mod | and | or => 3

theorem ofWord?_toWord (o : Opcode) : ofWord? o.toWord = some o := by
  cases o <;> rfl

end Opcode

/-- A decoded instruction. Destinations are registers; other operands are literals or
registers. -/
inductive Instruction where
  /-- Stop the program. -/
  | halt
  /-- Copy a value into a register. -/
  | set (dst : Reg) (a : Operand)
  /-- Push a value on the stack. -/
  | push (a : Operand)
  /-- Pop the top of the stack into a register. -/
  | pop (dst : Reg)
  /-- `1` into the destination if the two values are equal, else `0`. -/
  | eq (dst : Reg) (a b : Operand)
  /-- `1` into the destination if the first value is greater, else `0`. -/
  | gt (dst : Reg) (a b : Operand)
  /-- Jump to an address. -/
  | jmp (target : Operand)
  /-- Jump if the test value is not zero. -/
  | jt (test target : Operand)
  /-- Jump if the test value is zero. -/
  | jf (test target : Operand)
  /-- Sum modulo `2^15`. -/
  | add (dst : Reg) (a b : Operand)
  /-- Product modulo `2^15`. -/
  | mult (dst : Reg) (a b : Operand)
  /-- Remainder of the division. -/
  | mod (dst : Reg) (a b : Operand)
  /-- Bitwise and. -/
  | and (dst : Reg) (a b : Operand)
  /-- Bitwise or. -/
  | or (dst : Reg) (a b : Operand)
  /-- Fifteen-bit complement. -/
  | not (dst : Reg) (a : Operand)
  /-- Read the memory word at an address into a register. -/
  | rmem (dst : Reg) (address : Operand)
  /-- Write a value to memory; the address comes first. -/
  | wmem (address value : Operand)
  /-- Push the address of the next instruction and jump. -/
  | call (target : Operand)
  /-- Pop an address and jump to it. -/
  | ret
  /-- Write the character with the given code point. -/
  | out (a : Operand)
  /-- Read a character into a register. -/
  | input (dst : Reg)
  /-- Do nothing. -/
  | noop
  deriving DecidableEq, Repr

/-- One operand of an instruction, in the order of the instruction's words. -/
inductive Slot where
  /-- A register written by the instruction. -/
  | destination (reg : Reg)
  /-- A value read by the instruction. -/
  | source (operand : Operand)
  deriving DecidableEq, Repr

namespace Slot

/-- The word that stands for a slot in the instruction stream. -/
def encode : Slot → Word
  | .destination r => r.encoding
  | .source o => o.encode

end Slot

namespace Instruction

/-- The operation of an instruction. -/
def opcode : Instruction → Opcode
  | halt => .halt | set .. => .set | push _ => .push | pop _ => .pop | eq .. => .eq
  | gt .. => .gt | jmp _ => .jmp | jt .. => .jt | jf .. => .jf | add .. => .add
  | mult .. => .mult | mod .. => .mod | and .. => .and | or .. => .or | not .. => .not
  | rmem .. => .rmem | wmem .. => .wmem | call _ => .call | ret => .ret | out _ => .out
  | input _ => .input | noop => .noop

/-- The operands of an instruction, in the order of its words. -/
def slots : Instruction → List Slot
  | halt | ret | noop => []
  | push a | jmp a | call a | out a => [.source a]
  | pop r | input r => [.destination r]
  | set r a | not r a | rmem r a => [.destination r, .source a]
  | jt a b | jf a b | wmem a b => [.source a, .source b]
  | eq r a b | gt r a b | add r a b | mult r a b | mod r a b | and r a b | or r a b =>
    [.destination r, .source a, .source b]

/-- The words of an instruction: its opcode number, then its operands. -/
def encode (i : Instruction) : List Word := i.opcode.toWord :: i.slots.map Slot.encode

/-- The number of words of an instruction. -/
def width (i : Instruction) : Nat := 1 + i.opcode.arity

/-- The assembly text of an instruction, with each destination written by `dst` and each other
operand by `src`. Every operation has a text of its own: its mnemonic, padded by hand to four
characters and followed by a space when operands come after it, then the operands separated by
`", "`. -/
def format (dst : Reg → String) (src : Operand → String) : Instruction → String
  | halt => "halt"
  | set r a => "set  " ++ dst r ++ ", " ++ src a
  | push a => "push " ++ src a
  | pop r => "pop  " ++ dst r
  | eq r a b => "eq   " ++ dst r ++ ", " ++ src a ++ ", " ++ src b
  | gt r a b => "gt   " ++ dst r ++ ", " ++ src a ++ ", " ++ src b
  | jmp a => "jmp  " ++ src a
  | jt a b => "jt   " ++ src a ++ ", " ++ src b
  | jf a b => "jf   " ++ src a ++ ", " ++ src b
  | add r a b => "add  " ++ dst r ++ ", " ++ src a ++ ", " ++ src b
  | mult r a b => "mult " ++ dst r ++ ", " ++ src a ++ ", " ++ src b
  | mod r a b => "mod  " ++ dst r ++ ", " ++ src a ++ ", " ++ src b
  | and r a b => "and  " ++ dst r ++ ", " ++ src a ++ ", " ++ src b
  | or r a b => "or   " ++ dst r ++ ", " ++ src a ++ ", " ++ src b
  | not r a => "not  " ++ dst r ++ ", " ++ src a
  | rmem r a => "rmem " ++ dst r ++ ", " ++ src a
  | wmem a b => "wmem " ++ src a ++ ", " ++ src b
  | call a => "call " ++ src a
  | ret => "ret"
  | out a => "out  " ++ src a
  | input r => "in   " ++ dst r
  | noop => "noop"

/-- The assembly text: registers by their names, literals in decimal. -/
def render (i : Instruction) : String := i.format Reg.render Operand.render

theorem length_slots (i : Instruction) : i.slots.length = i.opcode.arity := by
  cases i <;> rfl

end Instruction

end WordMachine
