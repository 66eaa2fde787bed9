import Bytecode.Proofs.Growth

/-!
# Loops

A loop is emitted with the distance from its own end back to the offset where it starts, and it is
decoded by counting that distance back from its end. `Emit.loop_lands` says that the two cancel for
every chunk and every start, and when there is no such distance.
-/

namespace Bytecode

/-- The later chunk has one more instruction, three bytes of the line at the end of the code, which
jumps back to the start, and it still does so after any operations. -/
structure Chunk.LoopsTo (chunk later : Chunk) (start line : Nat) : Prop where
  adds : ∃ bytes, bytes.length = 3 ∧ chunk.Adds later bytes (List.replicate 3 line) []
  decodes : ∃ instruction distance, distance + start = chunk.length + 3
    ∧ instruction = ⟨chunk.length, .loop, .jump distance start⟩
    ∧ instruction.nextOffset = later.length
    ∧ ∀ more, (later.operate more).decode chunk.length = .ok instruction

namespace Instruction

/-- A loop that starts at or before its own offset lands there. -/
theorem lands_jumpOver_loop {offset start : Nat} (known : start ≤ offset) :
  (jumpOver offset .loop (offset + 3 - start)).Lands
  := by
  rw [jumpOver_loop known]
  rintro distance target - ⟨⟩
  rw [nextOffset, Instruction.length]
  simp [Op.shape, Shape.length]

end Instruction

namespace Emit

/-- A loop that is emitted is decoded as a jump back to its start. -/
theorem Extends.loopsTo {operation : Emit Unit} {chunk : Chunk} {start line : Nat}
    (known : start ≤ chunk.length)
    (extended : operation.Extends chunk () none
      (.jumpOver chunk.length .loop (chunk.length + 3 - start)) line) :
  chunk.LoopsTo
    (chunk.extend none (.jumpOver chunk.length .loop (chunk.length + 3 - start)) line) start line
  where
  adds := by
    have adds := chunk.adds_extend none
      (.jumpOver chunk.length .loop (chunk.length + 3 - start)) line
    exact ⟨_, rfl, adds⟩
  decodes := by
    have decoded := extended.decode_eq (Instruction.lands_jumpOver_loop known)
    have stop := extended.length_extend
    refine ⟨_, chunk.length + 3 - start, ?_, Instruction.jumpOver_loop known, stop.symm, ?_⟩
    · apply Nat.sub_add_cancel
      omega
    · intro more
      obtain ⟨_, _, adds⟩ := Chunk.adds_operate _ more
      apply adds.grows.decode_eq_ok decoded

/-- A loop is refused if its start lies behind the code, or if the distance from the end of the
loop back to its start does not fit two bytes. Every other loop is emitted, and it lands on its
start. -/
theorem loop_lands (start line : Nat) (chunk : Chunk) :
  ((loop start line).run chunk = .error (.loopTargetOutOfRange start chunk.length) chunk
      ↔ chunk.length < start)
    ∧ ((loop start line).run chunk
        = .error (.operandOverflow (.distance .loop) (chunk.length + 3 - start) 65535) chunk
      ↔ start ≤ chunk.length ∧ 65535 < chunk.length + 3 - start)
    ∧ ((∃ later, (loop start line).run chunk = .ok () later ∧ chunk.LoopsTo later start line)
      ↔ start ≤ chunk.length ∧ chunk.length + 3 - start ≤ 65535)
  := by
  rcases loop_outcomes start line chunk with
    ⟨behind, run⟩ | ⟨known, long, run⟩ | ⟨known, short, extended⟩
  · simp [run, behind, Nat.not_le_of_lt behind]
  · rw [maxDistance] at run long
    simp [run, known, long, Nat.not_lt_of_le known, Nat.not_le_of_lt long]
  · have lands := extended.loopsTo known
    rw [maxDistance] at short
    simp only [extended.run_eq, known, short, Nat.not_lt_of_le known, Nat.not_lt_of_le short]
    simp [lands]

end Emit

end Bytecode
