import WordMachine.Trace

/-!
# A trace line shows its instruction

The trace writes a record as one line: the address in brackets, right-aligned in five
characters, then the mnemonic left-aligned in four and the operands, the first after a space and
the others after `", "`, then the registers after `" | "`. The assembly text has a text of its
own for each of the 22 operations (`Instruction.format`), its mnemonic padded by hand. The trace
line of an executed instruction holds that text, with each source register followed by the value
it held before the instruction ran, because every hand-padded text is laid out as the trace's
writer lays out any record.

They differ for one instruction only. An instruction without operands is written as its bare
mnemonic, while the trace pads every mnemonic: `halt` and `noop` have four letters already, but
`ret` is traced as `"ret "`.

* `Instruction.format_of_slots_ne_nil` checks the hand-padded texts, operation by operation: each
  is the mnemonic padded to four characters, a space, and the operands separated by `", "`.
* `TraceRecord.operandsText_eq` and `Instruction.render_tracedOperands` bring the trace's operands
  to the same form, with `Operand.renderValued` writing a register with its value, and
  `trace_line_shows_instruction` is the statement for a whole line.
-/

/-- A separated list is its first item, then each other item after the separator. -/
theorem String.intercalate_cons_eq_join (sep x : String) (xs : List String) :
    sep.intercalate (x :: xs) = x ++ String.join (xs.map (sep ++ ·)) := by
  induction xs generalizing x with
  | nil => simp
  | cons y ys ih =>
    rw [String.intercalate_cons_cons, ih y]
    simp [String.append_assoc]

namespace WordMachine

/-- The register file is written `rN=value` for each register in order, separated by spaces. -/
theorem Registers.render_eq_values (rs : Registers) :
    rs.render = " ".intercalate
      (rs.toList.zipIdx.map fun (v, n) => "r" ++ toString n ++ "=" ++ toString v.toNat) := by
  unfold Registers.render
  congr 1
  apply List.ext_getElem
  · simp [Reg.all, Registers.toList]
  · intro i _ _
    simp [Reg.all, Registers.toList, Reg.render, Registers.get, Word.render]

/-- An operand as a trace shows it: a register followed by the value it held. -/
def Operand.renderValued (rs : Registers) : Operand → String
  | .literal v => v.render
  | .register r => r.render ++ "(" ++ (rs.get r).render ++ ")"

/-- A slot written by `dst` when it is a destination and by `src` otherwise. -/
def Slot.text (dst : Reg → String) (src : Operand → String) : Slot → String
  | .destination r => dst r
  | .source o => src o

namespace Instruction

/-- The instructions without operands. -/
theorem slots_eq_nil_iff {i : Instruction} :
    i.slots = [] ↔ i = .halt ∨ i = .ret ∨ i = .noop := by
  cases i <;> simp [slots]

/-- **The texts of the operations follow one rule.** Each of the texts of an instruction with
operands is its mnemonic padded to four characters, a space, and its operands in the order of
its words, separated by `", "`. -/
theorem format_of_slots_ne_nil {i : Instruction} (h : i.slots ≠ []) (dst : Reg → String)
    (src : Operand → String) :
    i.format dst src = padRight 4 i.opcode.mnemonic ++ " " ++
      ", ".intercalate (i.slots.map (Slot.text dst src)) := by
  -- one case per operation; once both sides lay out the operands alike, `congr` is left with the
  -- operation's hand-padded head against its padded mnemonic and a space, and evaluates both
  cases i <;> simp only [slots, ne_eq, not_true_eq_false] at h <;> unfold format <;>
    simp only [slots, opcode, Opcode.mnemonic, List.map_cons, List.map_nil, Slot.text,
      String.intercalate_cons_cons, String.intercalate_singleton, ← String.append_assoc] <;>
    congr

/-- The trace writes the operands of an instruction as the slots they come from, a source
register with its value. -/
theorem render_tracedOperands (i : Instruction) (rs : Registers) :
    (i.tracedOperands rs).map TracedOperand.render =
      i.slots.map (Slot.text Reg.render (Operand.renderValued rs)) := by
  unfold tracedOperands
  rw [List.map_map]
  apply List.map_congr_left
  intro s _
  rcases s with r | (v | r) <;> rfl

end Instruction

/-- The operands of a record: nothing when there are none, else a space and the operands separated
by `", "`. -/
theorem TraceRecord.operandsText_eq (os : List TracedOperand) :
    TraceRecord.operandsText os =
      if os = [] then "" else " " ++ ", ".intercalate (os.map TracedOperand.render) := by
  cases os with
  | nil => rfl
  | cons o os =>
    rw [if_neg (List.cons_ne_nil _ _), List.map_cons, String.intercalate_cons_eq_join,
      TraceRecord.operandsText, List.map_map]
    rfl

/-- The mnemonic and operands of a trace line: the assembly text with source registers showing
their values, except that `ret` is padded to four characters. -/
theorem mnemonic_operandsText (i : Instruction) (rs : Registers) :
    padRight 4 i.opcode.mnemonic ++ TraceRecord.operandsText (i.tracedOperands rs) =
      if i = .ret then "ret " else i.format Reg.render (Operand.renderValued rs) := by
  by_cases hs : i.slots = []
  · -- no operands: the bare mnemonic, which only `ret` is too short to fill
    rcases Instruction.slots_eq_nil_iff.mp hs with rfl | rfl | rfl <;> rfl
  · have hret : i ≠ .ret := fun h => hs (Instruction.slots_eq_nil_iff.mpr (.inr (.inl h)))
    have hops : i.tracedOperands rs ≠ [] := by
      simpa [Instruction.tracedOperands] using hs
    rw [if_neg hret, Instruction.format_of_slots_ne_nil hs, TraceRecord.operandsText_eq,
      if_neg hops, Instruction.render_tracedOperands, String.append_assoc]

/-- **A trace line shows its instruction.** The line a text trace writes for an executed
instruction `i` at address `a`, with the registers `r` before it ran and `r'` after, is `[`, the
address right-aligned in five characters, `] `, the assembly text of `i` with each source register
`rN` written `rN(value)` with its value in `r` (for `ret`, `"ret "` instead of `"ret"`), then
`" | "`, each register `rN=value` of `r'` in order separated by spaces, and a line feed. -/
theorem trace_line_shows_instruction (i : Instruction) (a : Address) (r r' : Registers) :
    ((TraceSink.text).record ⟨a, i.opcode, i.tracedOperands r, r'⟩).2.contents =
      "[" ++ padLeft 5 (toString a.toNat) ++ "] " ++
        (if i = .ret then "ret " else i.format Reg.render (Operand.renderValued r)) ++ " | " ++
        " ".intercalate
          (r'.toList.zipIdx.map fun (v, n) => "r" ++ toString n ++ "=" ++ toString v.toNat) ++
        "\n" := by
  have hline : ((TraceSink.text).record ⟨a, i.opcode, i.tracedOperands r, r'⟩).2.contents =
      TraceRecord.render ⟨a, i.opcode, i.tracedOperands r, r'⟩ ++ "\n" := by
    simp [TraceSink.text, TraceSink.record, TraceSink.contents]
  rw [hline, TraceRecord.render, ← mnemonic_operandsText, Registers.render_eq_values]
  simp only [String.append_assoc]

/- `add r0, r1, 4` with `r1 = 3`, leaving `r0 = 7`; and `ret`, whose mnemonic the trace pads. -/
example :
    ((TraceSink.text).record ⟨1234, .add,
      (Instruction.add ⟨0⟩ (.register ⟨1⟩) (.literal 4)).tracedOperands
        (Registers.zero.set ⟨1⟩ 3),
      (Registers.zero.set ⟨1⟩ 3).set ⟨0⟩ 7⟩).2.contents =
      "[ 1234] add  r0, r1(3), 4 | r0=7 r1=3 r2=0 r3=0 r4=0 r5=0 r6=0 r7=0\n" := by
  decide

example :
    ((TraceSink.text).record
      ⟨7, .ret, Instruction.ret.tracedOperands .zero, .zero⟩).2.contents =
      "[    7] ret  | r0=0 r1=0 r2=0 r3=0 r4=0 r5=0 r6=0 r7=0\n" := by
  decide

end WordMachine
