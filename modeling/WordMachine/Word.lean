/-!
# Words and addresses

The machine stores sixteen-bit words but computes with fifteen: every arithmetic result is
reduced modulo `2^15`, and a value above `32767` can only come from memory or from outside.
Addresses are sixteen-bit as well, so stepping past `65535` wraps to `0`.

The arithmetic is stated on natural numbers (`Word.addMod`, `Word.mulMod`), so that its laws
read as the table of the instruction set: the sum and the product of two words are taken over
the integers and then reduced. `Word.addMod_eq_widened` and `Word.mulMod_eq_widened` say this is
the instructions' own computation, which widens both words to 32 bits, where neither the sum
nor the product of two sixteen-bit words can wrap.
-/

namespace WordMachine

/-- A memory cell, register or stack entry: sixteen bits of storage. -/
abbrev Word := UInt16

/-- A position in memory. The fetch of an instruction's words wraps at `65536`. -/
abbrev Address := UInt16

namespace Word

/-- Results of arithmetic are reduced modulo this number, `2^15`. -/
def modulus : Nat := 32768

/-- The largest value a computation can produce. -/
def maxValue : Word := 0x7FFF

/-- Sum of two words over the integers, reduced modulo `2^15`. -/
def addMod (a b : Word) : Word := ((a.toNat + b.toNat) % modulus).toUInt16

/-- Product of two words over the integers, reduced modulo `2^15`. -/
def mulMod (a b : Word) : Word := ((a.toNat * b.toNat) % modulus).toUInt16

/-- The fifteen-bit complement: every bit of the low fifteen flipped, the top bit cleared. -/
def complement (a : Word) : Word := (~~~a) &&& maxValue

/-- Decimal text of a word. -/
def render (a : Word) : String := toString a.toNat

theorem addMod_toNat (a b : Word) : (addMod a b).toNat = (a.toNat + b.toNat) % modulus := by
  have h : (a.toNat + b.toNat) % modulus < 65536 := by
    have := Nat.mod_lt (a.toNat + b.toNat) (show 0 < modulus by decide)
    simp only [modulus] at *
    omega
  simp [addMod, Nat.toUInt16, Nat.mod_eq_of_lt h]

theorem mulMod_toNat (a b : Word) : (mulMod a b).toNat = (a.toNat * b.toNat) % modulus := by
  have h : (a.toNat * b.toNat) % modulus < 65536 := by
    have := Nat.mod_lt (a.toNat * b.toNat) (show 0 < modulus by decide)
    simp only [modulus] at *
    omega
  simp [mulMod, Nat.toUInt16, Nat.mod_eq_of_lt h]

/-- Two words added in 32 bits, as the instructions widen them, do not wrap. -/
theorem toNat_add_toUInt32 (a b : Word) :
    (a.toUInt32 + b.toUInt32).toNat = a.toNat + b.toNat := by
  have ha := a.toNat_lt
  have hb := b.toNat_lt
  rw [UInt32.toNat_add, UInt16.toNat_toUInt32, UInt16.toNat_toUInt32]
  exact Nat.mod_eq_of_lt (by omega)

/-- Two words multiplied in 32 bits do not wrap either: `65535 * 65535 < 2^32`. -/
theorem toNat_mul_toUInt32 (a b : Word) :
    (a.toUInt32 * b.toUInt32).toNat = a.toNat * b.toNat := by
  have hprod : a.toNat * b.toNat ≤ 65535 * 65535 :=
    Nat.mul_le_mul (by have := a.toNat_lt; omega) (by have := b.toNat_lt; omega)
  rw [UInt32.toNat_mul, UInt16.toNat_toUInt32, UInt16.toNat_toUInt32]
  exact Nat.mod_eq_of_lt (by omega)

/-- The sum is the instructions' own: both words widened to 32 bits, added, reduced modulo
`2^15` and narrowed back. -/
theorem addMod_eq_widened (a b : Word) :
    addMod a b = ((a.toUInt32 + b.toUInt32) % 32768).toUInt16 := by
  apply UInt16.toNat_inj.mp
  rw [addMod_toNat, UInt32.toNat_toUInt16, UInt32.toNat_mod, toNat_add_toUInt32]
  simp only [modulus, UInt32.reduceToNat]
  omega

/-- The product is the instructions' own, computed the same way. -/
theorem mulMod_eq_widened (a b : Word) :
    mulMod a b = ((a.toUInt32 * b.toUInt32) % 32768).toUInt16 := by
  apply UInt16.toNat_inj.mp
  rw [mulMod_toNat, UInt32.toNat_toUInt16, UInt32.toNat_mod, toNat_mul_toUInt32]
  simp only [modulus, UInt32.reduceToNat]
  omega

end Word

/-- Right-aligns a text in a field of `width` characters, padding with spaces. -/
def padLeft (width : Nat) (s : String) : String :=
  String.ofList (List.replicate (width - s.length) ' ') ++ s

/-- Left-aligns a text in a field of `width` characters, padding with spaces. -/
def padRight (width : Nat) (s : String) : String :=
  s ++ String.ofList (List.replicate (width - s.length) ' ')

end WordMachine
