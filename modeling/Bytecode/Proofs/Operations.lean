import Bytecode.Proofs.History

/-!
# Operations on chunks

Beside the calls of `Call`, a byte can be put at the end of the code as it is. A chunk is
reached from the empty one by a list of such operations, `Chunk.build`; its code can be any
bytes at all, and its bytes can be of any lines.

`Chunk.Adds` says what a later chunk has more than an earlier one. Every operation only adds,
`Operation.adds_apply`, and so does every list of operations, `Chunk.adds_operate`.
`Chunk.lines_record` is what follows for the line table: it stands for the list of the lines
with which the bytes were appended.
-/

namespace Bytecode

/-- What can be done to a chunk. -/
inductive Operation where
  /-- Puts a byte of a source line at the end of the code. -/
  | raw (byte : UInt8) (line : Nat)
  /-- Makes a call, which may fail. -/
  | make (call : Call)
  deriving DecidableEq

namespace Operation

/-- The chunk after an operation. -/
def apply (chunk : Chunk) : Operation → Chunk
  | raw byte line => chunk.appendByte byte line
  | make call => chunk.perform [call]

/-- The source line of the bytes that an operation appends. -/
def line? : Operation → Option Nat
  | raw _ line => some line
  | make call => call.line?

/-- The lines with which an operation appends bytes: its own line, once for each byte by which
the code gets longer. -/
def appendedLines (chunk : Chunk) (operation : Operation) : List Nat :=
  let count := (operation.apply chunk).length - chunk.length
  operation.line?.elim [] (List.replicate count)

end Operation

namespace Chunk

/-- The chunk after operations, one after another. -/
def operate (chunk : Chunk) (operations : List Operation) : Chunk :=
  operations.foldl Operation.apply chunk

/-- The chunk that operations build from nothing. -/
def build (width : IndexWidth) (operations : List Operation) : Chunk :=
  (Chunk.empty width).operate operations

/-- The lines with which operations append bytes to a chunk, in the order of the bytes. -/
def appendedLines (chunk : Chunk) : List Operation → List Nat
  | [] => []
  | operation :: rest =>
    operation.appendedLines chunk ++ (operation.apply chunk).appendedLines rest

/-! ### What is added to a chunk -/

/-- The later chunk is the earlier one with more bytes, which are of given lines, and more
constants. -/
structure Adds (chunk later : Chunk) (bytes : List UInt8) (lines : List Nat)
    (constants : List Value) : Prop where
  code_eq : later.code.toList = chunk.code.toList ++ bytes
  lines_eq : later.lines.toList = chunk.lines.toList ++ lines
  constants_eq : later.constants.toList = chunk.constants.toList ++ constants
  length_eq : lines.length = bytes.length
  valid : chunk.lines.Valid → later.lines.Valid

theorem Adds.refl (chunk : Chunk) :
  chunk.Adds chunk [] [] []
  where
  code_eq := by simp
  lines_eq := by simp
  constants_eq := by simp
  length_eq := rfl
  valid := id

theorem Adds.trans {chunk middle later : Chunk} {bytes bytes' : List UInt8}
    {lines lines' : List Nat} {constants constants' : List Value}
    (first : chunk.Adds middle bytes lines constants)
    (second : middle.Adds later bytes' lines' constants') :
  chunk.Adds later (bytes ++ bytes') (lines ++ lines') (constants ++ constants')
  where
  code_eq := by rw [second.code_eq, first.code_eq, List.append_assoc]
  lines_eq := by rw [second.lines_eq, first.lines_eq, List.append_assoc]
  constants_eq := by rw [second.constants_eq, first.constants_eq, List.append_assoc]
  length_eq := by
    rw [List.length_append, List.length_append, first.length_eq, second.length_eq]
  valid := second.valid ∘ first.valid

theorem adds_appendByte (chunk : Chunk) (byte : UInt8) (line : Nat) :
  chunk.Adds (chunk.appendByte byte line) [byte] [line] []
  where
  code_eq := by simp [appendByte]
  lines_eq := by simp [appendByte]
  constants_eq := by simp [appendByte]
  length_eq := rfl
  valid := fun valid => valid.push line

theorem adds_pushConstant (chunk : Chunk) (value : Value) :
  chunk.Adds (chunk.pushConstant value) [] [] [value]
  where
  code_eq := by simp [pushConstant]
  lines_eq := by simp [pushConstant]
  constants_eq := by simp [pushConstant]
  length_eq := rfl
  valid := id

theorem adds_extend (chunk : Chunk) (constant : Option Value) (instruction : Instruction)
    (line : Nat) :
  chunk.Adds (chunk.extend constant instruction line) instruction.encode
    (List.replicate instruction.encode.length line) constant.toList
  where
  code_eq := chunk.toList_code_extend constant instruction line
  lines_eq := chunk.toList_lines_extend constant instruction line
  constants_eq := chunk.constants_extend constant instruction line
  length_eq := List.length_replicate
  valid := valid_lines_extend constant instruction line

/-- The code of the later chunk is longer by the bytes that are added. -/
theorem Adds.length_later {chunk later : Chunk} {bytes : List UInt8} {lines : List Nat}
    {constants : List Value} (adds : chunk.Adds later bytes lines constants) :
  later.length = chunk.length + bytes.length
  := by
  rw [Chunk.length, Chunk.length, ← Array.length_toList, adds.code_eq, List.length_append,
    Array.length_toList]

/-- A chunk with a line for every byte still has one when bytes and their lines are added. -/
theorem Adds.tracked {chunk later : Chunk} {bytes : List UInt8} {lines : List Nat}
    {constants : List Value} (adds : chunk.Adds later bytes lines constants)
    (tracked : chunk.Tracked) :
  later.Tracked
  where
  valid := adds.valid tracked.valid
  length_eq := by
    rw [adds.lines_eq, List.length_append, tracked.length_eq, adds.length_eq, adds.length_later]

end Chunk

/-! ### One operation -/

/-- Bytes that an operation appends, all of its own line, are what its appended lines count. -/
theorem Operation.appendedLines_eq {chunk : Chunk} {operation : Operation} {line : Nat}
    {bytes : List UInt8} {lines : List Nat} {constants : List Value}
    (own : operation.line? = some line)
    (adds : chunk.Adds (operation.apply chunk) bytes lines constants) :
  operation.appendedLines chunk = List.replicate bytes.length line
  := by
  rw [appendedLines, own, adds.length_later, Nat.add_sub_cancel_left]
  rfl

/-- An operation only adds to a chunk, and all the bytes it adds are of its own line. -/
theorem Operation.adds_apply (operation : Operation) (chunk : Chunk) :
  ∃ bytes constants,
    chunk.Adds (operation.apply chunk) bytes (operation.appendedLines chunk) constants
  := by
  cases operation with
  | raw byte line =>
    have adds := chunk.adds_appendByte byte line
    use [byte], []
    rw [appendedLines_eq rfl adds]
    exact adds
  | make call =>
    rcases call.make_cases chunk with
      ⟨error, run⟩ | ⟨value, rfl, run⟩
        | ⟨result, constant, instruction, line, -, extended, -, own⟩
    · have unchanged : apply chunk (.make call) = chunk := by
        rw [apply, Chunk.perform, run]
        rfl
      have none_added : appendedLines chunk (.make call) = [] := by
        rw [appendedLines, unchanged, Nat.sub_self]
        cases line? (.make call) with
        | none => rfl
        | some line => rfl
      use [], []
      rw [none_added, unchanged]
      apply Chunk.Adds.refl
    · have pushed : apply chunk (.make (.poolEntry value)) = chunk.pushConstant value := by
        rw [apply, Chunk.perform, run]
        rfl
      use [], [value]
      rw [pushed]
      apply Chunk.adds_pushConstant
    · have applied : apply chunk (.make call) = chunk.extend constant instruction line := by
        rw [apply, Chunk.perform, extended.run_eq]
        rfl
      have own_line : line? (.make call) = some line := own
      have adds := chunk.adds_extend constant instruction line
      rw [← applied] at adds
      use instruction.encode, constant.toList
      rw [appendedLines_eq own_line adds]
      exact adds

/-! ### All operations -/

namespace Chunk

/-- Operations only add to a chunk, and every byte they add is of the line with which it was
appended. -/
theorem adds_operate (chunk : Chunk) (operations : List Operation) :
  ∃ bytes constants,
    chunk.Adds (chunk.operate operations) bytes (chunk.appendedLines operations) constants
  := by
  induction operations generalizing chunk with
  | nil => exact ⟨[], [], .refl chunk⟩
  | cons operation rest ih =>
    obtain ⟨bytes, constants, first⟩ := operation.adds_apply chunk
    obtain ⟨bytes', constants', others⟩ := ih (operation.apply chunk)
    exact ⟨_, _, first.trans others⟩

theorem tracked_empty (width : IndexWidth) :
  (Chunk.empty width).Tracked
  := (Holds.empty width).tracked

/-- A chunk that is built by operations has a line for every byte. -/
theorem tracked_build (width : IndexWidth) (operations : List Operation) :
  (build width operations).Tracked
  := by
  obtain ⟨bytes, constants, adds⟩ := (Chunk.empty width).adds_operate operations
  apply adds.tracked (tracked_empty width)

theorem toList_lines_build (width : IndexWidth) (operations : List Operation) :
  (build width operations).lines.toList = (Chunk.empty width).appendedLines operations
  := by
  obtain ⟨bytes, constants, adds⟩ := (Chunk.empty width).adds_operate operations
  apply adds.lines_eq

/-- A line table stands for the list of the lines that were recorded in it. In a chunk that is
built by operations this is the list of the lines with which the bytes of the code were
appended, and the line of an offset is looked up there. -/
theorem lines_record :
  (∀ lines, (LineTable.ofLines lines).Records lines)
    ∧ ∀ width operations,
      (build width operations).lines.Records ((Chunk.empty width).appendedLines operations)
      ∧ (build width operations).lines.length = (build width operations).code.size
      ∧ ((Chunk.empty width).appendedLines operations).length
        = (build width operations).length
      ∧ ∀ offset, (build width operations).lineAt offset
        = ((Chunk.empty width).appendedLines operations)[offset]?
  := by
  use LineTable.records_ofLines
  intro width operations
  have tracked := tracked_build width operations
  have records := tracked.valid.records
  have total := tracked.length_eq
  rw [toList_lines_build] at records total
  refine ⟨records, records.length_eq.trans total, total, ?_⟩
  intro offset
  rw [tracked.lineAt_eq, toList_lines_build]

end Chunk

end Bytecode
