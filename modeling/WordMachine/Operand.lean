import WordMachine.Register

/-!
# Operands

An operand word below `32768` is a literal and stands for itself; one of the eight register
encodings stands for that register's content; any other word is no operand. A destination
must name a register: a literal cannot be assigned to.

`Operand.decode` and `Operand.encode` are inverse on well-formed operands (`decode_encode`), and
`decodeDestination_encoding` reads a register's encoding back as that register. The exact
condition under which a word decodes is `Operand.encode_map_decode`, with the instruction
decoder's proofs.
-/

namespace WordMachine

/-- Why an operand word could not be decoded. -/
inductive DecodeError where
  /-- The word is neither a literal nor a register encoding. -/
  | invalidOperand (word : Word)
  /-- The word does not name a register, where a destination is required. -/
  | invalidDestination (word : Word)
  deriving DecidableEq, Repr

/-- The text of a decoding failure. -/
def DecodeError.message : DecodeError → String
  | .invalidOperand w => s!"invalid operand encoding {w.toNat}"
  | .invalidDestination w => s!"invalid destination encoding {w.toNat}, expected a register"

/-- An instruction operand: a value written in the instruction, or a register read. -/
inductive Operand where
  | literal (value : Word)
  | register (reg : Reg)
  deriving DecidableEq, Repr

namespace Operand

/-- Reads an operand word: a literal below `32768`, else one of the eight register names. -/
def decode (w : Word) : Except DecodeError Operand :=
  if w ≤ Word.maxValue then .ok (.literal w)
  else match Reg.ofEncoding? w with
    | some r => .ok (.register r)
    | none => .error (.invalidOperand w)

/-- Reads a destination word, which must name a register. -/
def decodeDestination (w : Word) : Except DecodeError Reg :=
  match Reg.ofEncoding? w with
  | some r => .ok r
  | none => .error (.invalidDestination w)

/-- The word that stands for an operand in the instruction stream. -/
def encode : Operand → Word
  | .literal v => v
  | .register r => r.encoding

/-- The value an operand stands for, against the given register contents. -/
def resolve (rs : Registers) : Operand → Word
  | .literal v => v
  | .register r => rs.get r

/-- A literal is written in decimal, a register by its name. -/
def render : Operand → String
  | .literal v => v.render
  | .register r => r.render

/-- An operand is well formed when a literal is below `32768`. -/
def WellFormed : Operand → Prop
  | .literal v => v.toNat ≤ 32767
  | .register _ => True

theorem decode_encode (o : Operand) (h : o.WellFormed) : decode o.encode = .ok o := by
  cases o with
  | literal v =>
    simp only [WellFormed] at h
    have : v ≤ Word.maxValue := by
      simp only [Word.maxValue, UInt16.le_iff_toNat_le]; simpa using h
    simp [decode, encode, this]
  | register r =>
    have h1 := Reg.encoding_toNat r
    have : ¬ r.encoding ≤ Word.maxValue := by
      simp only [Word.maxValue, UInt16.le_iff_toNat_le, h1]; simp; omega
    simp [decode, encode, this, Reg.ofEncoding?_encoding]

theorem decodeDestination_encoding (r : Reg) : decodeDestination r.encoding = .ok r := by
  simp [decodeDestination, Reg.ofEncoding?_encoding]

end Operand

end WordMachine
