import WordMachine.Operand
import WordMachine.Memory
import WordMachine.IoError
import WordMachine.Text.Escape

/-!
# Faults and terminations

A program stops in one of two ways. It *terminates* on a `halt`, or when `pop` or `ret` find
the stack empty; it *faults* on anything the machine cannot carry out. A fault carries its
cause, and `Fault.message` its text; `Fault.causes` lists the texts of the errors it wraps,
innermost last, as a report of the whole chain shows them.
-/

namespace WordMachine

/-- How a program stopped without a fault. -/
inductive Termination where
  /-- A `halt` instruction was executed. -/
  | halted
  /-- `pop` or `ret` found the stack empty. -/
  | stackExhausted
  deriving DecidableEq, Repr

/-- The text of a termination. -/
def Termination.render : Termination → String
  | .halted => "halted"
  | .stackExhausted => "stack exhausted"

/-- Why the machine could not carry out an instruction. -/
inductive Fault where
  /-- An operand word of the instruction is malformed. -/
  | decode (error : DecodeError)
  /-- The first word of the instruction is no opcode. -/
  | unknownOpcode (opcode : Word) (address : Address)
  /-- An access outside memory, by the fetch or by the instruction. -/
  | memory (error : MemoryError)
  /-- `mod` by zero. -/
  | divisionByZero
  /-- `in` found no more input. -/
  | inputExhausted
  /-- `in` read a character whose code point does not fit in fifteen bits. -/
  | invalidInput (character : Char)
  /-- The console's input or output failed. -/
  | io (error : IoError)
  deriving DecidableEq, Repr

namespace Fault

/-- The text of a fault. -/
def message : Fault → String
  | .decode e => "decode error: " ++ e.message
  | .unknownOpcode o a => s!"unknown opcode {o.toNat} at address {a.toNat}"
  | .memory e => "invalid memory access (" ++ e.message ++ ")"
  | .divisionByZero => "division by zero"
  | .inputExhausted => "input exhausted"
  | .invalidInput c => "character " ++ Text.quoteChar c ++ " does not fit in a word"
  | .io e => "I/O error: " ++ e.message

/-- The texts of the errors that a fault wraps, outermost first. -/
def causes : Fault → List String
  | .decode e => [e.message]
  | .memory e => [e.message]
  | .io e => [e.message]
  | _ => []

end Fault

end WordMachine
