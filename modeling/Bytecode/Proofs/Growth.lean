import Bytecode.Proofs.Operations

/-!
# Chunks that grow

A chunk grows when bytes and constants are appended to it, `Chunk.Grows`. What is decoded at
an offset then stays the same, unless the code ended within the instruction or the pool had no
constant at its index: `Chunk.Grows.decode_cases`. So a walk that met no error is the beginning
of every later walk. `Chunk.keeps_operate` gathers what stays the same under all operations.
-/

namespace Bytecode

namespace Chunk

open Instruction

/-- The code and the pool of the chunk are the beginnings of those of the later one. -/
structure Grows (chunk later : Chunk) : Prop where
  code_isPrefix : chunk.code.toList <+: later.code.toList
  constants_isPrefix : chunk.constants.toList <+: later.constants.toList

theorem Adds.grows {chunk later : Chunk} {bytes : List UInt8} {lines : List Nat}
    {constants : List Value} (adds : chunk.Adds later bytes lines constants) :
  chunk.Grows later
  where
  code_isPrefix := ⟨bytes, adds.code_eq.symm⟩
  constants_isPrefix := ⟨constants, adds.constants_eq.symm⟩

namespace Grows

variable {chunk later : Chunk} (grows : chunk.Grows later)

include grows

theorem byteAt_eq {offset : Nat} (inside : offset < chunk.length) :
  later.byteAt offset = chunk.byteAt offset
  := by
  have found : chunk.byteAt offset = some chunk.code[offset] := Array.getElem?_eq_getElem inside
  rw [found]
  apply getElem?_of_isPrefix grows.code_isPrefix found

theorem constantAt_eq {index : Nat} (inside : index < chunk.poolSize) :
  later.constantAt index = chunk.constantAt index
  := by
  have found : chunk.constantAt index = some chunk.constants[index] :=
    Array.getElem?_eq_getElem inside
  rw [found]
  apply getElem?_of_isPrefix grows.constants_isPrefix found

/-! ### Decoding -/

/-- Operand bytes keep their meaning, unless the pool has no constant at their index. -/
theorem resolve_cases (offset : Nat) (shape : Shape) (bytes : List UInt8) :
  later.resolve offset shape bytes = chunk.resolve offset shape bytes
    ∨ chunk.resolve offset shape bytes
      = .error (.constantIndexOutOfRange offset (BigEndian.value bytes) chunk.poolSize)
  := by
  have constant (refers : shape.referencesConstant = true) :
      later.resolve offset shape bytes = chunk.resolve offset shape bytes
        ∨ chunk.resolve offset shape bytes
          = .error (.constantIndexOutOfRange offset (BigEndian.value bytes) chunk.poolSize) := by
    rw [resolve_of_refers refers, resolve_of_refers refers]
    by_cases known : BigEndian.value bytes < chunk.poolSize
    · left
      rw [grows.constantAt_eq known, constantAt, Array.getElem?_eq_getElem known]
    · right
      rw [constantAt, Array.getElem?_eq_none (Nat.le_of_not_lt known)]
  cases shape with
  | simple => exact .inl rfl
  | byte => exact .inl rfl
  | constant => exact constant rfl
  | constantLong => exact constant rfl
  | jumpForward => exact .inl rfl
  | jumpBackward => exact .inl rfl

/-- What is decoded at an offset is final, unless the code ended within the instruction or the
pool had no constant at its index. -/
theorem decode_cases (offset : Nat) :
  later.decode offset = chunk.decode offset
    ∨ (∃ needed available, chunk.decode offset = .error (.truncated offset needed available))
    ∨ ∃ index poolSize,
      chunk.decode offset = .error (.constantIndexOutOfRange offset index poolSize)
  := by
  rcases chunk.decode_cases offset with
    ⟨-, result⟩ | ⟨byte, found, unknown, result⟩ | ⟨_, -, -, result⟩
      | ⟨op, bytes, rest, code, length, result⟩
  · exact .inr (.inl ⟨_, _, result⟩)
  · left
    rw [result]
    apply decode_of_unknown _ unknown
    apply getElem?_of_isPrefix grows.code_isPrefix found
  · exact .inr (.inl ⟨_, _, result⟩)
  · obtain ⟨added, code_eq⟩ := grows.code_isPrefix
    have code_later : ∃ rest,
        later.code.toList.drop offset = op.toByte :: (bytes ++ rest) := by
      rw [← code_eq, List.drop_append, code, List.cons_append, List.append_assoc]
      exact ⟨_, rfl⟩
    obtain ⟨rest, code_later⟩ := code_later
    have result_later := decode_of_bytes code_later length
    rcases grows.resolve_cases offset op.shape bytes with same | missing
    · left
      rw [result, result_later, same]
    · right
      right
      rw [result, missing]
      exact ⟨_, _, rfl⟩

/-- What is decoded stays the same, if it is none of the two errors that may go away. -/
theorem decode_eq {offset : Nat}
    (complete : ∀ needed available,
      chunk.decode offset ≠ .error (.truncated offset needed available))
    (known : ∀ index poolSize,
      chunk.decode offset ≠ .error (.constantIndexOutOfRange offset index poolSize)) :
  later.decode offset = chunk.decode offset
  := by
  rcases grows.decode_cases offset with same | ⟨_, _, failed⟩ | ⟨_, _, failed⟩
  · exact same
  · apply absurd failed (complete _ _)
  · apply absurd failed (known _ _)

theorem decode_eq_ok {offset : Nat} {instruction : Instruction}
    (decoded : chunk.decode offset = .ok instruction) :
  later.decode offset = .ok instruction
  := by
  rw [grows.decode_eq, decoded]
  · simp [decoded]
  · simp [decoded]

/-- A walk without error is the beginning of the walk over the later chunk. -/
theorem walk_isPrefix (clean : ∀ error, .error error ∉ chunk.walk) :
  chunk.walk <+: later.walk
  := by
  obtain ⟨instructions, failure, items, -, spans, reads, -, -⟩ :=
    chunk.walkFrom_reads_code (Nat.zero_le _)
  have none_failed : failure = none := by
    apply Option.eq_none_iff_forall_ne_some.mpr
    rintro error rfl
    apply clean error
    rw [walk, items]
    simp
  subst none_failed
  have reads_later : ∀ instruction ∈ instructions,
      later.decode instruction.offset = .ok instruction := by
    intro instruction member
    apply grows.decode_eq_ok (reads instruction member)
  use later.walkFrom chunk.length
  rw [walk, items, walk, walkFrom_of_decode spans reads_later]
  simp

end Grows

/-! ### Operations -/

/-- What was read of the chunk is read of the later one, too. Only what could not be decoded
because the code or the pool was too short may change. -/
structure Keeps (chunk later : Chunk) : Prop where
  code_isPrefix : chunk.code.toList <+: later.code.toList
  constants_isPrefix : chunk.constants.toList <+: later.constants.toList
  byteAt_eq : ∀ offset < chunk.length, later.byteAt offset = chunk.byteAt offset
  lineAt_eq : ∀ offset < chunk.length, later.lineAt offset = chunk.lineAt offset
  constantAt_eq : ∀ index < chunk.poolSize, later.constantAt index = chunk.constantAt index
  decode_eq_ok : ∀ offset instruction,
    chunk.decode offset = .ok instruction → later.decode offset = .ok instruction
  decode_eq_unknownOpcode : ∀ offset place byte,
    chunk.decode offset = .error (.unknownOpcode place byte) →
      later.decode offset = .error (.unknownOpcode place byte)
  decode_eq_jumpOutOfRange : ∀ offset place distance,
    chunk.decode offset = .error (.jumpOutOfRange place distance) →
      later.decode offset = .error (.jumpOutOfRange place distance)
  walk_isPrefix : (∀ error, .error error ∉ chunk.walk) → chunk.walk <+: later.walk

/-- The lines of the bytes stay the same when more bytes are added. -/
theorem Adds.lineAt_eq {chunk later : Chunk} {bytes : List UInt8} {lines : List Nat}
    {constants : List Value} (adds : chunk.Adds later bytes lines constants)
    (tracked : chunk.Tracked) {offset : Nat} (inside : offset < chunk.length) :
  later.lineAt offset = chunk.lineAt offset
  := by
  rw [← tracked.length_eq] at inside
  rw [(adds.tracked tracked).lineAt_eq, adds.lines_eq, List.getElem?_append_left inside,
    tracked.lineAt_eq]

/-- Operations on a chunk that was built by operations change nothing that was read of it. -/
theorem keeps_operate (width : IndexWidth) (operations more : List Operation) :
  (build width operations).Keeps ((build width operations).operate more)
  := by
  obtain ⟨bytes, constants, adds⟩ := (build width operations).adds_operate more
  have grows := adds.grows
  constructor
  · exact grows.code_isPrefix
  · exact grows.constants_isPrefix
  · intro offset inside
    apply grows.byteAt_eq inside
  · intro offset inside
    apply adds.lineAt_eq (tracked_build width operations) inside
  · intro index inside
    apply grows.constantAt_eq inside
  · intro offset instruction
    apply grows.decode_eq_ok
  · intro offset place byte failed
    rw [grows.decode_eq, failed]
    · simp [failed]
    · simp [failed]
  · intro offset place distance failed
    rw [grows.decode_eq, failed]
    · simp [failed]
    · simp [failed]
  · exact grows.walk_isPrefix

end Chunk

end Bytecode
