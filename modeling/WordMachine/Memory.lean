import WordMachine.Word

/-!
# Memory

Code and data share one array of words. Its length is fixed when a program is loaded and never
changes afterwards; an access at or past the end is an error, never a wrap or a growth.
`read_write_self` and `read_write_of_ne` say what a write does to later reads.
-/

namespace WordMachine

/-- Why a memory access failed. -/
inductive MemoryError where
  /-- The address is at or past the end of memory. -/
  | outOfBounds (address : Address)
  deriving DecidableEq, Repr

/-- The text of a memory failure. -/
def MemoryError.message : MemoryError → String
  | .outOfBounds a => s!"address {a.toNat} is out of bounds"

/-- The machine's memory: a fixed-length array of words. -/
structure Memory where
  /-- The words, address `0` first. -/
  words : Array Word
  deriving Repr

namespace Memory

/-- Number of words. -/
def size (m : Memory) : Nat := m.words.size

/-- The word at an address inside memory. -/
def read (m : Memory) (a : Address) : Except MemoryError Word :=
  if h : a.toNat < m.words.size then .ok m.words[a.toNat] else .error (.outOfBounds a)

/-- Memory with the word at an address inside it replaced. -/
def write (m : Memory) (a : Address) (v : Word) : Except MemoryError Memory :=
  if h : a.toNat < m.words.size then .ok ⟨m.words.set a.toNat v h⟩ else .error (.outOfBounds a)

/-- Memory extended with zeros to at least `n` words; it never shrinks. -/
def padTo (m : Memory) (n : Nat) : Memory :=
  ⟨m.words ++ Array.replicate (n - m.words.size) 0⟩

/-- The pairs `(address, word)` where two memories of the same contents up to their common
length differ, in ascending address order; words past the end of `base` count as changes. -/
def changesFrom (m base : Memory) : List (Nat × Word) :=
  (List.range m.words.size).filterMap fun i =>
    match m.words[i]?, base.words[i]? with
    | some v, some w => if v = w then none else some (i, v)
    | some v, none => some (i, v)
    | none, _ => none

/-- The words with trailing zeros removed. -/
def trimmed (m : Memory) : List Word :=
  (m.words.toList.reverse.dropWhile (· = 0)).reverse

theorem read_write_self {m m' : Memory} {a : Address} {v : Word} (h : m.write a v = .ok m') :
    m'.read a = .ok v := by
  simp only [write] at h
  split at h
  · cases h; simp_all [read]
  · cases h

theorem read_write_of_ne {m m' : Memory} {a b : Address} {v : Word} (h : m.write a v = .ok m')
    (hne : a ≠ b) : m'.read b = m.read b := by
  simp only [write] at h
  split at h
  · cases h
    have : a.toNat ≠ b.toNat := fun e => hne (UInt16.toNat_inj.mp e)
    simp only [read, Array.size_set]
    split
    · rw [Array.getElem_set_ne _ _ (by omega)]
    · rfl
  · cases h

theorem size_write {m m' : Memory} {a : Address} {v : Word} (h : m.write a v = .ok m') :
    m'.size = m.size := by
  simp only [write] at h
  split at h
  · cases h; simp [size]
  · cases h

theorem size_padTo (m : Memory) (n : Nat) : (m.padTo n).size = max m.size n := by
  simp only [padTo, size, Array.size_append, Array.size_replicate]
  omega

end Memory

end WordMachine
