import WordMachine.Word

/-!
# Registers

The machine has eight general-purpose registers `r0` to `r7`. In the instruction stream a
register is named by the word `32768 + n`, just above the largest literal, so one operand word
is either a literal or a register name. `Reg.ofEncoding?` reads such a name back, and
`ofEncoding?_encoding` says that it reads back every register's own encoding.

A register file holds a full sixteen-bit word per register: a value above `32767` reaches a
register only from memory (`rmem`), from the stack, or from outside the machine.
-/

namespace WordMachine

/-- One of the eight general-purpose registers. -/
structure Reg where
  /-- The register's number, `0` to `7`. -/
  index : Fin 8
  deriving DecidableEq, Repr

namespace Reg

/-- The first register encoding; it is also the first word that is no literal. -/
def base : Word := 32768

/-- The operand word that names this register. -/
def encoding (r : Reg) : Word := base + r.index.val.toUInt16

/-- The register that a word names, if the word is one of the eight register encodings. -/
def ofEncoding? (w : Word) : Option Reg :=
  if h : 32768 ≤ w.toNat ∧ w.toNat < 32776 then some ⟨⟨w.toNat - 32768, by omega⟩⟩ else none

/-- A register is written `r` followed by its number. -/
def render (r : Reg) : String := "r" ++ toString r.index.val

/-- All eight registers, in order. -/
def all : List Reg := (List.finRange 8).map Reg.mk

theorem encoding_toNat (r : Reg) : r.encoding.toNat = 32768 + r.index.val := by
  have key : ∀ i : Fin 8, (base + i.val.toUInt16).toNat = 32768 + i.val := by decide
  exact key r.index

theorem ofEncoding?_encoding (r : Reg) : ofEncoding? r.encoding = some r := by
  have key : ∀ i : Fin 8, ofEncoding? (Reg.mk i).encoding = some ⟨i⟩ := by decide
  exact key r.index

theorem ofEncoding?_eq_some_iff {w : Word} {r : Reg} :
    ofEncoding? w = some r ↔ w = r.encoding := by
  constructor
  · intro hw
    unfold ofEncoding? at hw
    split at hw
    · rename_i h
      injection hw with hw
      subst hw
      apply UInt16.toNat_inj.mp
      rw [encoding_toNat]
      simp only
      omega
    · cases hw
  · rintro rfl
    exact ofEncoding?_encoding r

end Reg

/-- The eight registers' contents. -/
structure Registers where
  /-- The word held by each register, `r0` first. -/
  words : Vector Word 8
  deriving DecidableEq, Repr

namespace Registers

/-- Every register holds zero. -/
def zero : Registers := ⟨Vector.replicate 8 0⟩

/-- The word held by a register. -/
def get (rs : Registers) (r : Reg) : Word := rs.words[r.index]

/-- The registers with one of them replaced. -/
def set (rs : Registers) (r : Reg) (v : Word) : Registers := ⟨rs.words.set r.index v⟩

/-- The eight words, `r0` first. -/
def toList (rs : Registers) : List Word := rs.words.toList

/-- The register file written `r0=a r1=b ... r7=h`. -/
def render (rs : Registers) : String :=
  " ".intercalate (Reg.all.map fun r => r.render ++ "=" ++ (rs.get r).render)

@[simp] theorem get_set_self (rs : Registers) (r : Reg) (v : Word) : (rs.set r v).get r = v := by
  simp [get, set]

@[simp] theorem get_set_of_ne (rs : Registers) {r s : Reg} (h : r ≠ s) (v : Word) :
    (rs.set r v).get s = rs.get s := by
  have : r.index.val ≠ s.index.val := fun e => h (by cases r; cases s; simp_all [Fin.ext_iff])
  simp [get, set, this]

@[simp] theorem get_zero (r : Reg) : zero.get r = 0 := by
  simp [get, zero]

end Registers

end WordMachine
