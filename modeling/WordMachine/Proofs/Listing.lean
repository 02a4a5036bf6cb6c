import WordMachine.Listing
import WordMachine.Proofs.Decoding

/-!
# Listings walk memory without gaps, overlaps or wrap-around

A listing from address `s` is pinned down by `Listing.Walk`, stated on natural-number addresses
and not through the walk's own code: it is empty exactly when the address is past the end of
memory or of the address space (`min size 65536`); otherwise it starts with the entry for that
address (`Entry.Decoded`: the instruction that decodes there, or the word there as data) and goes
on with a walk from the address right after that entry (`Entry.width` words on). So consecutive
entries leave no gap and do not overlap, every address lies in memory, and the listing ends after
an entry exactly when the entry reaches `min size 65536`: it never wraps around to `0`.

`Listing.disassemble_walks` says that the listing is the one walk from `s`, and that it is empty
exactly when `s` is past the end of memory. The proof unfolds the walk one entry at a time
(`disassemble_eq_cons`), where the only arithmetic is that the next address is above the current
one exactly when the entry ends before `65536` (`lt_add_toUInt16_iff`).
-/

namespace WordMachine

namespace Listing

namespace Entry

/-- The address an entry is listed at. -/
def address : Entry → Address
  | .instruction a _ => a
  | .data a _ => a

/-- The number of words an entry covers: an instruction's width, one word of data. -/
def width : Entry → Nat
  | .instruction _ i => i.width
  | .data _ _ => 1

/-- An entry says what its address decodes to: the instruction, or, when no instruction decodes
there, the word at the address. -/
def Decoded (m : Memory) : Entry → Prop
  | .instruction a i => ∃ next, Instruction.decode m a = .ok (i, next)
  | .data a w => (∀ i next, Instruction.decode m a ≠ .ok (i, next)) ∧ m.read a = .ok w

theorem width_pos (e : Entry) : 0 < e.width := by
  cases e <;> simp only [width, Instruction.width] <;> omega

theorem width_le (e : Entry) : e.width ≤ 4 := by
  cases e with
  | instruction a i =>
    have harity : i.opcode.arity ≤ 3 := by cases i.opcode <;> decide
    simp only [width, Instruction.width]
    omega
  | data a w => simp [width]

/-- Each address has one entry that says what it decodes to. -/
theorem Decoded.unique {m : Memory} {e e' : Entry} (h : e.Decoded m) (h' : e'.Decoded m)
    (ha : e.address = e'.address) : e = e' := by
  cases e with
  | instruction a i =>
    cases e' with
    | instruction a' i' =>
      obtain ⟨next, hd⟩ := h
      obtain ⟨next', hd'⟩ := h'
      cases ha
      rw [hd] at hd'
      cases hd'
      rfl
    | data a' w' =>
      obtain ⟨next, hd⟩ := h
      cases ha
      exact absurd hd (h'.1 i next)
  | data a w =>
    cases e' with
    | instruction a' i' =>
      obtain ⟨next', hd'⟩ := h'
      cases ha
      exact absurd hd' (h.1 i' next')
    | data a' w' =>
      obtain ⟨-, hw⟩ := h
      obtain ⟨-, hw'⟩ := h'
      cases ha
      rw [hw] at hw'
      cases hw'
      rfl

end Entry

/-- A walk of memory from the natural-number address `a`: empty exactly when `a` is at or past the
end of memory or of the address space, and otherwise the entry for `a` followed by a walk from
the address right after that entry. -/
def Walk (m : Memory) : Nat → List Entry → Prop
  | a, [] => min m.size 65536 ≤ a
  | a, e :: rest =>
    e.address.toNat = a ∧ a < min m.size 65536 ∧ e.Decoded m ∧ Walk m (a + e.width) rest

/-- There is at most one walk from an address. -/
theorem Walk.unique {m : Memory} {a : Nat} {L L' : List Entry} (h : Walk m a L)
    (h' : Walk m a L') : L = L' := by
  -- induction on the first walk, the address moving past each entry
  induction L generalizing a L' with
  | nil =>
    cases L' with
    | nil => rfl
    | cons e' rest' =>
      obtain ⟨-, hlt, -⟩ := h'
      simp only [Walk] at h
      omega
  | cons e rest ih =>
    obtain ⟨ha, hlt, hdec, hrest⟩ := h
    cases L' with
    | nil =>
      simp only [Walk] at h'
      omega
    | cons e' rest' =>
      obtain ⟨ha', -, hdec', hrest'⟩ := h'
      have he : e = e' := hdec.unique hdec' (UInt16.toNat_inj.mp (ha.trans ha'.symm))
      subst he
      rw [ih hrest hrest']

/-- Moving `w` words on from `a`, for `0 < w ≤ 65536`, lands above `a` exactly when it does not
wrap past `65535`. -/
theorem lt_add_toUInt16_iff (a : Address) (w : Nat) (h0 : 0 < w) (h1 : w < 65536) :
    a < a + w.toUInt16 ↔ a.toNat + w < 65536 := by
  have ha := a.toNat_lt
  have hw : w.toUInt16.toNat = w := by simp [Nat.toUInt16, Nat.mod_eq_of_lt h1]
  rw [UInt16.lt_iff_toNat_lt, UInt16.toNat_add, hw]
  simp only [Nat.reducePow] at ha ⊢
  by_cases hfit : a.toNat + w < 65536
  · rw [Nat.mod_eq_of_lt (by omega)]
    omega
  · -- past `65535` the address wraps to at most `a`
    rw [Nat.mod_eq_sub_mod (by omega), Nat.mod_eq_of_lt (by omega)]
    omega

/-- A word inside memory is listed with the entry that says what its address decodes to; the
walk goes on at the address right after that entry unless that address wraps around. -/
theorem disassemble_eq_cons {m : Memory} {a : Address} {w : Word} (hw : m.read a = .ok w) :
    ∃ e, e.address = a ∧ e.Decoded m ∧
      disassemble m a =
        e :: if a.toNat + e.width < 65536 then disassemble m (a + e.width.toUInt16) else [] := by
  cases hd : Instruction.decode m a with
  | ok p =>
    obtain ⟨i, next⟩ := p
    have hnext : next = a + i.width.toUInt16 := (Instruction.readFields_of_decode_eq_ok hd).2
    have hcont : a < next ↔ a.toNat + i.width < 65536 := by
      rw [hnext]
      exact lt_add_toUInt16_iff a _ (Entry.width_pos (.instruction a i))
        (by have := Entry.width_le (.instruction a i); simp only [Entry.width] at this; omega)
    refine ⟨.instruction a i, rfl, ⟨next, hd⟩, ?_⟩
    rw [disassemble]
    simp only [hw, entryAt, hd, Entry.width, ← hnext]
    by_cases hlt : a < next
    · simp only [hlt, if_true, hcont.mp hlt]
    · simp only [hlt, if_false, mt hcont.mpr hlt]
  | error e =>
    refine ⟨.data a w, rfl, ⟨fun i next h => (by rw [hd] at h; cases h), hw⟩, ?_⟩
    rw [disassemble]
    simp only [hw, entryAt, hd, Entry.width]
    by_cases hlt : a.toNat < 65535
    · have hup : a < a + 1 := (lt_add_toUInt16_iff a 1 (by omega) (by omega)).mpr (by omega)
      simp only [hlt, if_true, hup, show a.toNat + 1 < 65536 by omega]
      rfl
    · simp only [hlt, if_false, show ¬ a.toNat + 1 < 65536 by omega]

/-- Past the end of memory there is nothing to list. -/
theorem disassemble_eq_nil {m : Memory} {a : Address} (h : m.size ≤ a.toNat) :
    disassemble m a = [] := by
  have hread : m.read a = .error (.outOfBounds a) := by
    unfold Memory.read
    rw [dif_neg (by simp only [Memory.size] at h; omega)]
  rw [disassemble]
  simp only [hread]

/-- The listing from an address is a walk from it. -/
theorem walk_disassemble (m : Memory) (a : Address) : Walk m a.toNat (disassemble m a) := by
  -- induction on the room left in the address space, which each entry shrinks
  induction h : 65536 - a.toNat using Nat.strongRecOn generalizing a with
  | _ n ih =>
    by_cases hend : m.size ≤ a.toNat
    · rw [disassemble_eq_nil hend]
      show min m.size 65536 ≤ a.toNat
      omega
    · have hin : a.toNat < m.words.size := by simp only [Memory.size] at hend; omega
      have hread : m.read a = .ok m.words[a.toNat] := by simp [Memory.read, hin]
      obtain ⟨e, ha, hdec, heq⟩ := disassemble_eq_cons hread
      rw [heq]
      have hroom := a.toNat_lt
      refine ⟨by rw [ha], by simp only [Memory.size] at hend ⊢; omega, hdec, ?_⟩
      by_cases hcont : a.toNat + e.width < 65536
      · -- the next entry starts inside the address space, with less room after it
        have hnext : (a + e.width.toUInt16).toNat = a.toNat + e.width := by
          have := Entry.width_le e
          simp [UInt16.toNat_add, Nat.toUInt16, Nat.mod_eq_of_lt (show e.width < 65536 by omega),
            Nat.mod_eq_of_lt hcont]
        simp only [hcont, if_true]
        have hwalk := ih (65536 - (a + e.width.toUInt16).toNat)
          (by have := Entry.width_pos e; omega) (a + e.width.toUInt16) rfl
        rwa [hnext] at hwalk
      · simp only [hcont, if_false]
        show min m.size 65536 ≤ a.toNat + e.width
        omega

/-- **A listing walks memory.** The listing of memory from `s` is the one walk from `s`: its
entries say what their addresses decode to, the first is at `s` and each next one right after the
one before, all lie below the end of memory and of the address space, and it ends after an entry
exactly when that entry reaches one of the two ends, so it never wraps around. It is empty
exactly when `s` is past the end of memory. -/
theorem disassemble_walks (m : Memory) (s : Address) :
    (∀ L, Walk m s.toNat L ↔ disassemble m s = L) ∧ (disassemble m s = [] ↔ m.size ≤ s.toNat) := by
  refine ⟨fun L => ⟨fun h => Walk.unique (walk_disassemble m s) h, ?_⟩, ⟨fun h => ?_, ?_⟩⟩
  · rintro rfl
    exact walk_disassemble m s
  · have hwalk := walk_disassemble m s
    rw [h] at hwalk
    have := s.toNat_lt
    simp only [Walk] at hwalk
    omega
  · exact disassemble_eq_nil

end Listing

end WordMachine
