import WordMachine.Instruction.Decode

/-!
# Listings

A listing walks memory from a start address, decoding one instruction after the other. A word
that does not start a valid instruction is listed as data and the walk resumes right after it.
The walk ends at the end of memory, and it never wraps around the address space: it stops when
the next address would not be above the current one.
-/

namespace WordMachine

/-- One entry of a listing. -/
inductive Listing.Entry where
  /-- An instruction that starts at an address. -/
  | instruction (address : Address) (instruction : Instruction)
  /-- A word that does not start a valid instruction. -/
  | data (address : Address) (word : Word)

namespace Listing

/-- An entry written as its address right-aligned in five characters, a colon and the
instruction or `.word` with the value. -/
def Entry.render : Entry → String
  | .instruction a i => padLeft 5 (toString a.toNat) ++ ": " ++ i.render
  | .data a w => padLeft 5 (toString a.toNat) ++ ": .word " ++ w.render

/-- The entry at an address inside memory, with the address where the walk goes on, if it
goes on at all. -/
def entryAt (m : Memory) (current : Address) (w : Word) : Entry × Option Address :=
  match Instruction.decode m current with
  | .ok (i, next) => (.instruction current i, some next)
  | .error _ => (.data current w, if current.toNat < 65535 then some (current + 1) else none)

/-- The listing of memory from an address. -/
def disassemble (m : Memory) (current : Address) : List Entry :=
  match m.read current with
  | .error _ => []
  | .ok w =>
    match entryAt m current w with
    | (entry, some next) =>
      if current < next then entry :: disassemble m next else [entry]
    | (entry, none) => [entry]
termination_by 65536 - current.toNat
decreasing_by
  have h1 := UInt16.lt_iff_toNat_lt.mp ‹current < next›
  have h2 := next.toNat_lt
  omega

end Listing

end WordMachine
