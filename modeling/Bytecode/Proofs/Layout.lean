import Bytecode.Proofs.Emission

/-!
# Layouts

`Chunk.Holds` says that the code of a chunk is laid out from given instructions, each of one
source line. It holds of the empty chunk, and extending a chunk by an instruction extends its
layout by that instruction. The walk over a chunk gives the instructions of its layout back,
up to the first one that jumps back beyond the start of the code, and every byte has the line
of its instruction.
-/

namespace Bytecode

open Instruction

/-- An instruction and the source line it comes from. -/
structure Entry where
  line : Nat
  instruction : Instruction

/-- The code of the chunk is made of the instructions of the entries, and every byte is of the
line of its entry. -/
structure Chunk.Holds (chunk : Chunk) (entries : List Entry) : Prop where
  code_eq : chunk.code.toList = (entries.map Entry.instruction).flatMap encode
  spans : Spans 0 (entries.map Entry.instruction) chunk.length
  fits : ∀ entry ∈ entries, entry.instruction.Fits chunk.constants
  lines_eq :
    chunk.lines.toList
      = entries.flatMap fun entry => List.replicate entry.instruction.length entry.line
  tracked : chunk.Tracked

/-! ### Pools that grow -/

theorem getElem?_of_isPrefix {α : Type} {items later : Array α}
    (grows : items.toList <+: later.toList) {index : Nat} {item : α}
    (found : items[index]? = some item) :
  later[index]? = some item
  := by
  obtain ⟨added, later_eq⟩ := grows
  rw [← Array.getElem?_toList] at found ⊢
  obtain ⟨in_range, -⟩ := List.getElem?_eq_some_iff.mp found
  rw [← later_eq, List.getElem?_append_left in_range, found]

/-- What fits a pool fits every pool that extends it. -/
theorem Operand.Fits.mono {pool later : Array Value} (grows : pool.toList <+: later.toList)
    {stop : Nat} {shape : Shape} {operand : Operand} (fits : operand.Fits pool stop shape) :
  operand.Fits later stop shape
  := by
  cases fits with
  | empty => apply Operand.Fits.empty
  | byte value => apply Operand.Fits.byte
  | constant refers narrow found =>
    apply Operand.Fits.constant refers narrow (getElem?_of_isPrefix grows found)
  | forward narrow => apply Operand.Fits.forward narrow
  | backward narrow => apply Operand.Fits.backward narrow

theorem Instruction.Fits.mono {pool later : Array Value} (grows : pool.toList <+: later.toList)
    {instruction : Instruction} (fits : instruction.Fits pool) :
  instruction.Fits later
  := Operand.Fits.mono grows fits

namespace Chunk

/-! ### Layouts of chunks that grow -/

theorem Holds.empty (width : IndexWidth) :
  (Chunk.empty width).Holds []
  where
  code_eq := rfl
  spans := rfl
  fits := by simp
  lines_eq := rfl
  tracked := ⟨LineTable.Valid.empty, rfl⟩

theorem Holds.pushConstant {chunk : Chunk} {entries : List Entry} (holds : chunk.Holds entries)
    (value : Value) :
  (chunk.pushConstant value).Holds entries
  where
  code_eq := holds.code_eq
  spans := holds.spans
  fits := by
    intro entry member
    apply (holds.fits entry member).mono
    simp [Chunk.pushConstant]
  lines_eq := holds.lines_eq
  tracked := ⟨holds.tracked.valid, holds.tracked.length_eq⟩

/-- Extending a chunk by an instruction at its end extends the layout. -/
theorem Holds.extend {chunk : Chunk} {entries : List Entry} (holds : chunk.Holds entries)
    {constant : Option Value} {instruction : Instruction} {line : Nat}
    (offset : instruction.offset = chunk.length)
    (fits : instruction.Fits (chunk.extend constant instruction line).constants) :
  (chunk.extend constant instruction line).Holds (entries ++ [⟨line, instruction⟩])
  where
  code_eq := by
    rw [toList_code_extend, holds.code_eq]
    simp
  spans := by
    rw [List.map_append]
    apply holds.spans.append
    use offset
    rw [length_extend, length_encode fits, nextOffset, offset]
    rfl
  fits := by
    intro entry member
    rcases List.mem_append.mp member with old | new
    · apply (holds.fits entry old).mono
      rw [constants_extend]
      apply List.prefix_append
    · obtain rfl := List.mem_singleton.mp new
      exact fits
  lines_eq := by
    rw [toList_lines_extend, holds.lines_eq, length_encode fits]
    simp
  tracked := holds.tracked.extend constant instruction line

/-! ### Reading a layout -/

/-- Where an entry of a layout starts: the code before it is that of the entries before it. -/
theorem Holds.split {chunk : Chunk} {before after : List Entry} {entry : Entry}
    (holds : chunk.Holds (before ++ entry :: after)) :
  Spans 0 (before.map Entry.instruction) entry.instruction.offset
    ∧ Spans entry.instruction.nextOffset (after.map Entry.instruction) chunk.length
    ∧ entry.instruction.encode <+: chunk.code.toList.drop entry.instruction.offset
  := by
  have spans := holds.spans
  rw [List.map_append, List.map_cons] at spans
  obtain ⟨middle, first, rfl, second⟩ := spans.of_append
  have fits : ∀ instruction ∈ before.map Entry.instruction,
      instruction.Fits chunk.constants := by
    rw [List.forall_mem_map]
    intro other member
    apply holds.fits other (List.mem_append_left _ member)
  have length : ((before.map Entry.instruction).flatMap encode).length
      = entry.instruction.offset := by
    rw [length_flatMap_encode fits, first.stop_eq, Nat.zero_add]
  use first, second
  rw [holds.code_eq, List.map_append, List.flatMap_append, ← length, List.drop_left,
    List.map_cons, List.flatMap_cons]
  apply List.prefix_append

/-- When every instruction of the layout lands, the walk gives the instructions of the
layout. -/
theorem Holds.walk_eq {chunk : Chunk} {entries : List Entry} (holds : chunk.Holds entries)
    (lands : ∀ entry ∈ entries, entry.instruction.Lands) :
  chunk.walk = (entries.map Entry.instruction).map .ok
  := by
  have code : chunk.code.toList.drop 0 = (entries.map Entry.instruction).flatMap encode ++ [] := by
    rw [List.append_nil, List.drop_zero, holds.code_eq]
  rw [walk, walkFrom_of_spans holds.spans _ _ code, walkFrom_length, List.append_nil]
  · apply List.forall_mem_map.mpr holds.fits
  · apply List.forall_mem_map.mpr lands

/-- The walk ends at the first instruction of the layout that does not land. -/
theorem Holds.walk_eq_of_not_lands {chunk : Chunk} {before after : List Entry} {entry : Entry}
    (holds : chunk.Holds (before ++ entry :: after))
    (lands : ∀ entry ∈ before, entry.instruction.Lands) (beyond : ¬ entry.instruction.Lands) :
  ∃ distance target, entry.instruction.operand = .jump distance target
    ∧ chunk.walk = (before.map Entry.instruction).map .ok
      ++ [.error (.jumpOutOfRange entry.instruction.offset distance)]
  := by
  obtain ⟨first, second, found⟩ := holds.split
  have fits := holds.fits entry (by simp)
  obtain ⟨distance, target, -, operand, -, failed⟩ := decode_of_not_lands fits beyond found
  have inside := offset_lt_length fits found
  have code : chunk.code.toList.drop 0
      = (before.map Entry.instruction).flatMap encode
        ++ ((entry :: after).map Entry.instruction).flatMap encode := by
    rw [List.drop_zero, holds.code_eq, List.map_append, List.flatMap_append]
  use distance, target, operand
  rw [walk, walkFrom_of_spans first _ _ code, walkFrom_of_decode_eq_error inside failed]
  · rw [List.forall_mem_map]
    intro other member
    apply holds.fits other (List.mem_append_left _ member)
  · apply List.forall_mem_map.mpr lands

/-- Every byte of an instruction of the layout has the line of its entry. -/
theorem Holds.lineAt_eq {chunk : Chunk} {before after : List Entry} {entry : Entry}
    (holds : chunk.Holds (before ++ entry :: after)) {offset : Nat}
    (from_start : entry.instruction.offset ≤ offset)
    (before_end : offset < entry.instruction.nextOffset) :
  chunk.lineAt offset = some entry.line
  := by
  obtain ⟨first, -, -⟩ := holds.split
  have length :
      (before.flatMap fun entry => List.replicate entry.instruction.length entry.line).length
        = entry.instruction.offset := by
    rw [first.stop_eq, Nat.zero_add, List.length_flatMap, List.map_map]
    simp [Function.comp_def]
  rw [nextOffset] at before_end
  rw [holds.tracked.lineAt_eq, holds.lines_eq, List.flatMap_append, List.flatMap_cons,
    List.getElem?_append_right (by omega),
    List.getElem?_append_left (by rw [List.length_replicate]; omega),
    List.getElem?_replicate, if_pos (by omega)]

end Chunk

end Bytecode
