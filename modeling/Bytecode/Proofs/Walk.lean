import Bytecode.Proofs.Decoding
import Mathlib.Algebra.Ring.Nat

/-!
# Walks

A walk reads instructions that lie one after another, `Instruction.Spans`.

* `Chunk.walk_reads_code` is about the walk over any code at all: it is a list of
  instructions and at most one error after them, and the bytes of the instructions are the
  code up to the error or to its end.
* `Chunk.walkFrom_of_spans` is about code that holds the bytes of given instructions: the
  walk gives these instructions.
-/

namespace Bytecode

namespace Instruction

/-- The instructions lie one after another: the first starts at `start`, each other one
starts where the one before it ends, and the last ends at `stop`. Without instructions,
`start` is `stop`. -/
def Spans (start : Nat) : List Instruction → Nat → Prop
  | [], stop => start = stop
  | instruction :: rest, stop =>
    instruction.offset = start ∧ Spans instruction.nextOffset rest stop

theorem Spans.append {start middle stop : Nat} {first second : List Instruction}
    (before : Spans start first middle) (after : Spans middle second stop) :
  Spans start (first ++ second) stop
  := by
  induction first generalizing start with
  | nil =>
    obtain rfl := before
    exact after
  | cons instruction rest ih =>
    obtain ⟨offset, before⟩ := before
    exact ⟨offset, ih before⟩

theorem Spans.of_append {start stop : Nat} {first second : List Instruction}
    (spans : Spans start (first ++ second) stop) :
  ∃ middle, Spans start first middle ∧ Spans middle second stop
  := by
  induction first generalizing start with
  | nil => exact ⟨start, rfl, spans⟩
  | cons instruction rest ih =>
    obtain ⟨offset, spans⟩ := spans
    obtain ⟨middle, before, after⟩ := ih spans
    exact ⟨middle, ⟨offset, before⟩, after⟩

/-- Instructions that lie one after another end after the sum of their lengths. -/
theorem Spans.stop_eq {start stop : Nat} {instructions : List Instruction}
    (spans : Spans start instructions stop) :
  stop = start + (instructions.map length).sum
  := by
  induction instructions generalizing start with
  | nil =>
    obtain rfl := spans
    rfl
  | cons instruction rest ih =>
    obtain ⟨rfl, spans⟩ := spans
    rw [ih spans, List.map_cons, List.sum_cons, nextOffset, Nat.add_assoc]

/-- An instruction starts after the sum of the lengths of the instructions before it. -/
theorem Spans.offset_eq {stop : Nat} {instructions : List Instruction}
    (spans : Spans 0 instructions stop) {index : Nat} {instruction : Instruction}
    (found : instructions[index]? = some instruction) :
  instruction.offset = ((instructions.take index).map length).sum
  := by
  obtain ⟨in_range, rfl⟩ := List.getElem?_eq_some_iff.mp found
  rw [← List.take_append_drop index instructions, List.drop_eq_getElem_cons in_range] at spans
  obtain ⟨middle, before, rfl, -⟩ := spans.of_append
  rw [before.stop_eq, Nat.zero_add]

/-- The number of bytes of an instruction that fits is its length. -/
theorem length_encode {pool : Array Value} {instruction : Instruction}
    (fits : instruction.Fits pool) :
  instruction.encode.length = instruction.length
  := by
  rw [encode, List.length_cons]
  apply Chunk.length_operandBytes fits

theorem length_flatMap_encode {pool : Array Value} {instructions : List Instruction}
    (fits : ∀ instruction ∈ instructions, instruction.Fits pool) :
  (instructions.flatMap encode).length = (instructions.map length).sum
  := by
  rw [List.length_flatMap]
  congr 1
  apply List.map_congr_left
  intro instruction member
  apply length_encode (fits instruction member)

end Instruction

namespace Chunk

open Instruction

/-! ### Code of any kind -/

/-- Every error is about the offset that was to be decoded. -/
theorem offset_of_decode_eq_error {chunk : Chunk} {offset : Nat} {error : DecodeError}
    (failed : chunk.decode offset = .error error) :
  error.offset = offset
  := by
  rcases decode_cases chunk offset with
    ⟨-, result⟩ | ⟨_, -, -, result⟩ | ⟨_, -, -, result⟩ | ⟨op, bytes, rest, -, -, result⟩
  · rw [result] at failed
    obtain rfl := Except.error.inj failed
    rfl
  · rw [result] at failed
    obtain rfl := Except.error.inj failed
    rfl
  · rw [result] at failed
    obtain rfl := Except.error.inj failed
    rfl
  · rw [result] at failed
    cases resolved : chunk.resolve offset op.shape bytes with
    | ok operand =>
      rw [resolved] at failed
      cases failed
    | error reason =>
      rw [resolved] at failed
      obtain rfl := Except.error.inj failed
      apply offset_of_resolve_eq_error resolved

/-- After the bytes of an instruction the code goes on where the instruction ends. -/
theorem drop_eq_encode_append {chunk : Chunk} {instruction : Instruction}
    (fits : instruction.Fits chunk.constants)
    (found : instruction.encode <+: chunk.code.toList.drop instruction.offset) :
  chunk.code.toList.drop instruction.offset
    = instruction.encode ++ chunk.code.toList.drop instruction.nextOffset
  := by
  obtain ⟨rest, code⟩ := found
  have later : chunk.code.toList.drop instruction.nextOffset = rest := by
    rw [nextOffset, ← List.drop_drop, ← code, ← length_encode fits, List.drop_left]
  rw [later, code]

/-- An instruction whose bytes are found ends within the code. -/
theorem nextOffset_le_length {chunk : Chunk} {instruction : Instruction}
    (fits : instruction.Fits chunk.constants)
    (found : instruction.encode <+: chunk.code.toList.drop instruction.offset) :
  instruction.nextOffset ≤ chunk.length
  := by
  have bound := found.length_le
  have positive := instruction.op.shape.length_pos
  rw [length_encode fits, List.length_drop, Array.length_toList] at bound
  rw [nextOffset, Chunk.length]
  rw [Instruction.length] at *
  omega

/-- An instruction whose bytes are found starts within the code. -/
theorem offset_lt_length {chunk : Chunk} {instruction : Instruction}
    (fits : instruction.Fits chunk.constants)
    (found : instruction.encode <+: chunk.code.toList.drop instruction.offset) :
  instruction.offset < chunk.length
  := by
  have positive := instruction.op.shape.length_pos
  have stop := nextOffset_le_length fits found
  rw [nextOffset, Instruction.length] at stop
  omega

/-- What the walk from an offset gives. The instructions are read one after another, up to
an error or to the end of the code, and their bytes make up the code between. -/
theorem walkFrom_reads_code (chunk : Chunk) {offset : Nat} (inside : offset ≤ chunk.length) :
  ∃ (instructions : List Instruction) (failure : Option DecodeError),
    chunk.walkFrom offset = instructions.map .ok ++ failure.toList.map .error
    ∧ (chunk.walkFrom offset).length ≤ chunk.length - offset
    ∧ Spans offset instructions (failure.elim chunk.length DecodeError.offset)
    ∧ (∀ instruction ∈ instructions, chunk.decode instruction.offset = .ok instruction)
    ∧ (∀ error ∈ failure, error.offset < chunk.length
      ∧ chunk.decode error.offset = .error error)
    ∧ chunk.code.toList.drop offset
      = instructions.flatMap encode
        ++ chunk.code.toList.drop (failure.elim chunk.length DecodeError.offset)
  := by
  -- The recursion goes on where the instruction ends, which lies within the code.
  fun_induction walkFrom chunk offset with
  | case1 offset more instruction decoded ih =>
    obtain ⟨rfl, fits, lands, found⟩ := decode_eq_ok_iff.mp decoded
    obtain ⟨instructions, failure, items, count, spans, reads, fails, code⟩ :=
      ih (nextOffset_le_length fits found)
    have positive := instruction.op.shape.length_pos
    use instruction :: instructions, failure
    refine ⟨?_, ?_, ⟨rfl, spans⟩, ?_, fails, ?_⟩
    · rw [items, List.map_cons, List.cons_append]
    · rw [Instruction.length] at *
      rw [List.length_cons]
      omega
    · intro other member
      rcases List.mem_cons.mp member with rfl | later
      · exact decoded
      · apply reads other later
    · rw [drop_eq_encode_append fits found, List.flatMap_cons, List.append_assoc, ← code]
      rfl
  | case2 offset more error failed =>
    obtain rfl := offset_of_decode_eq_error failed
    use [], some error
    refine ⟨rfl, ?_, rfl, ?_, ?_, rfl⟩
    · rw [List.length_singleton]
      omega
    · simp
    · rintro _ ⟨⟩
      exact ⟨more, failed⟩
  | case3 offset done =>
    obtain rfl : offset = chunk.length := by omega
    use [], none
    refine ⟨rfl, ?_, rfl, ?_, ?_, rfl⟩
    · simp
    · simp
    · simp

/-- The walk over any code. It gives instructions, one after another from the start of the
code, and then at most one error. It ends at the error or at the end of the code, every item
is what is decoded at its place, and the bytes of the instructions are the code before the
end of the walk, so that no byte is left out or read twice. -/
theorem walk_reads_code (chunk : Chunk) :
  ∃ (instructions : List Instruction) (failure : Option DecodeError),
    chunk.walk = instructions.map .ok ++ failure.toList.map .error
    ∧ chunk.walk.length ≤ chunk.length
    ∧ Spans 0 instructions (failure.elim chunk.length DecodeError.offset)
    ∧ (∀ instruction ∈ instructions, chunk.decode instruction.offset = .ok instruction)
    ∧ (∀ error ∈ failure, error.offset < chunk.length
      ∧ chunk.decode error.offset = .error error)
    ∧ instructions.flatMap encode
      = chunk.code.toList.take (failure.elim chunk.length DecodeError.offset)
  := by
  obtain ⟨instructions, failure, items, count, spans, reads, fails, code⟩ :=
    chunk.walkFrom_reads_code (Nat.zero_le _)
  have fits : ∀ instruction ∈ instructions, instruction.Fits chunk.constants := by
    intro instruction member
    obtain ⟨-, fits, -⟩ := decode_eq_ok_iff.mp (reads instruction member)
    exact fits
  have length : (instructions.flatMap encode).length
      = failure.elim chunk.length DecodeError.offset := by
    rw [length_flatMap_encode fits, spans.stop_eq, Nat.zero_add]
  use instructions, failure, items, count, spans, reads, fails
  rw [List.drop_zero] at code
  rw [code, ← length, List.take_left]

/-! ### Code that holds given instructions -/

theorem walkFrom_of_decode_eq_ok {chunk : Chunk} {offset : Nat} {instruction : Instruction}
    (decoded : chunk.decode offset = .ok instruction) :
  chunk.walkFrom offset = .ok instruction :: chunk.walkFrom instruction.nextOffset
  := by
  obtain ⟨rfl, fits, -, found⟩ := decode_eq_ok_iff.mp decoded
  rw [walkFrom, if_pos (offset_lt_length fits found), decoded]
  rfl

theorem walkFrom_of_decode_eq_error {chunk : Chunk} {offset : Nat} {error : DecodeError}
    (inside : offset < chunk.length) (failed : chunk.decode offset = .error error) :
  chunk.walkFrom offset = [.error error]
  := by
  rw [walkFrom, if_pos inside, failed]

theorem walkFrom_length (chunk : Chunk) :
  chunk.walkFrom chunk.length = []
  := by
  rw [walkFrom, if_neg (Nat.lt_irrefl _)]

/-- Where instructions that lie one after another are decoded, the walk gives these
instructions and goes on behind them. -/
theorem walkFrom_of_decode {chunk : Chunk} {instructions : List Instruction} {start stop : Nat}
    (spans : Spans start instructions stop)
    (reads : ∀ instruction ∈ instructions, chunk.decode instruction.offset = .ok instruction) :
  chunk.walkFrom start = instructions.map .ok ++ chunk.walkFrom stop
  := by
  induction instructions generalizing start with
  | nil =>
    obtain rfl := spans
    rfl
  | cons instruction rest ih =>
    obtain ⟨rfl, spans⟩ := spans
    rw [List.forall_mem_cons] at reads
    rw [walkFrom_of_decode_eq_ok reads.1, ih spans reads.2]
    rfl

/-- Where the code holds the bytes of instructions that fit and land, the walk gives these
instructions and goes on behind them. -/
theorem walkFrom_of_spans {chunk : Chunk} {instructions : List Instruction} {start stop : Nat}
    {rest : List UInt8} (spans : Spans start instructions stop)
    (fits : ∀ instruction ∈ instructions, instruction.Fits chunk.constants)
    (lands : ∀ instruction ∈ instructions, instruction.Lands)
    (code : chunk.code.toList.drop start = instructions.flatMap encode ++ rest) :
  chunk.walkFrom start = instructions.map .ok ++ chunk.walkFrom stop
  := by
  induction instructions generalizing start with
  | nil =>
    obtain rfl := spans
    rfl
  | cons instruction instructions ih =>
    obtain ⟨rfl, spans⟩ := spans
    have fits_first := fits instruction List.mem_cons_self
    have lands_first := lands instruction List.mem_cons_self
    rw [List.flatMap_cons, List.append_assoc] at code
    have found : instruction.encode <+: chunk.code.toList.drop instruction.offset :=
      ⟨_, code.symm⟩
    have decoded := decode_eq_ok_iff.mpr ⟨rfl, fits_first, lands_first, found⟩
    rw [drop_eq_encode_append fits_first found] at code
    rw [walkFrom_of_decode_eq_ok decoded, List.map_cons, List.cons_append,
      ih spans _ _ (List.append_cancel_left code)]
    · intro other member
      apply fits other (List.mem_cons_of_mem _ member)
    · intro other member
      apply lands other (List.mem_cons_of_mem _ member)

end Chunk

end Bytecode
