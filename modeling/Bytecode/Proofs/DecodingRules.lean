import Bytecode.Proofs.Walk
import Mathlib.Data.List.Basic

/-!
# The rules of decoding

`Chunk.Decodes` lists, one rule for each outcome, what is decoded at an offset of any code over
any pool: the end of the code, a byte that stands for no opcode, an instruction that is cut off,
an index that is not in the pool, a jump back beyond the start of the code, or an instruction of
one of the shapes. The rules exclude each other by what they ask of the code, so the order of
the checks can be read off them.

`Chunk.decode_meets_rules` says that decoding follows exactly these rules. As they only speak of
the bytes of one instruction and of the constant it refers to, nothing else matters to what is
decoded at an offset, `Chunk.Decodes.congr`.
-/

namespace Bytecode

/-- The number of bytes of the longest instructions. -/
def Shape.maxLength : Nat := 4

theorem Shape.length_le_maxLength (shape : Shape) :
  shape.length ≤ maxLength
  := by
  cases shape <;> decide

namespace Chunk

/-! ### Operands as numbers -/

/-- The byte at an offset as a number, zero where there is none. -/
def digitAt (chunk : Chunk) (offset : Nat) : Nat :=
  (chunk.byteAt offset).elim 0 UInt8.toNat

/-- The number that stands as operand of an instruction of a shape at an offset, with the most
significant byte first. -/
def operandAt (chunk : Chunk) (offset : Nat) : Shape → Nat
  | .simple => 0
  | .byte => chunk.digitAt (offset + 1)
  | .constant => chunk.digitAt (offset + 1)
  | .constantLong =>
    65536 * chunk.digitAt (offset + 1) + 256 * chunk.digitAt (offset + 2)
      + chunk.digitAt (offset + 3)
  | .jumpForward => 256 * chunk.digitAt (offset + 1) + chunk.digitAt (offset + 2)
  | .jumpBackward => 256 * chunk.digitAt (offset + 1) + chunk.digitAt (offset + 2)

/-! ### The rules -/

/-- The opcode is found at the offset, and the code goes on to the end of its instruction. -/
structure HasWhole (chunk : Chunk) (offset : Nat) (op : Op) : Prop where
  found : chunk.byteAt offset = some op.toByte
  long : offset + op.shape.length ≤ chunk.length

/-- What is decoded at an offset, by what is found there. -/
inductive Decodes (chunk : Chunk) (offset : Nat) : Except DecodeError Instruction → Prop
  /-- The offset does not lie in the code. -/
  | outside (beyond : chunk.length ≤ offset) :
      Decodes chunk offset (.error (.truncated offset 1 0))
  /-- The byte stands for no opcode. -/
  | unknown {byte : UInt8} (found : chunk.byteAt offset = some byte)
      (nameless : ∀ op : Op, op.toByte ≠ byte) :
      Decodes chunk offset (.error (.unknownOpcode offset byte))
  /-- The code ends before the instruction does. -/
  | cutOff {op : Op} (found : chunk.byteAt offset = some op.toByte)
      (short : chunk.length < offset + op.shape.length) :
      Decodes chunk offset
        (.error (.truncated offset op.shape.length (chunk.length - offset)))
  /-- The index is not in the pool. -/
  | noConstant {op : Op} (whole : chunk.HasWhole offset op)
      (refers : op.shape.referencesConstant = true)
      (missing : chunk.poolSize ≤ chunk.operandAt offset op.shape) :
      Decodes chunk offset
        (.error
          (.constantIndexOutOfRange offset (chunk.operandAt offset op.shape) chunk.poolSize))
  /-- The jump back is longer than the code up to the end of the instruction. -/
  | tooFar {op : Op} (whole : chunk.HasWhole offset op) (shape : op.shape = .jumpBackward)
      (beyond : offset + op.shape.length < chunk.operandAt offset op.shape) :
      Decodes chunk offset (.error (.jumpOutOfRange offset (chunk.operandAt offset op.shape)))
  | simple {op : Op} (whole : chunk.HasWhole offset op) (shape : op.shape = .simple) :
      Decodes chunk offset (.ok ⟨offset, op, .empty⟩)
  | byte {op : Op} {value : UInt8} (whole : chunk.HasWhole offset op) (shape : op.shape = .byte)
      (operand : chunk.byteAt (offset + 1) = some value) :
      Decodes chunk offset (.ok ⟨offset, op, .byte value⟩)
  | constant {op : Op} {value : Value} (whole : chunk.HasWhole offset op)
      (refers : op.shape.referencesConstant = true)
      (found : chunk.constantAt (chunk.operandAt offset op.shape) = some value) :
      Decodes chunk offset
        (.ok ⟨offset, op, .constant (chunk.operandAt offset op.shape) value.text⟩)
  | forward {op : Op} (whole : chunk.HasWhole offset op) (shape : op.shape = .jumpForward) :
      Decodes chunk offset
        (.ok
          ⟨offset, op,
            .jump (chunk.operandAt offset op.shape)
              (offset + op.shape.length + chunk.operandAt offset op.shape)⟩)
  | backward {op : Op} (whole : chunk.HasWhole offset op) (shape : op.shape = .jumpBackward)
      (lands : chunk.operandAt offset op.shape ≤ offset + op.shape.length) :
      Decodes chunk offset
        (.ok
          ⟨offset, op,
            .jump (chunk.operandAt offset op.shape)
              (offset + op.shape.length - chunk.operandAt offset op.shape)⟩)

/-! ### Operand bytes -/

theorem byteAt_add (chunk : Chunk) (offset distance : Nat) :
  chunk.byteAt (offset + distance) = (chunk.code.toList.drop offset)[distance]?
  := by
  rw [byteAt, List.getElem?_drop, Array.getElem?_toList]

/-- The operand of an instruction is the number that its operand bytes stand for. -/
theorem operandAt_eq {chunk : Chunk} {offset : Nat} {first : UInt8} {shape : Shape}
    {bytes rest : List UInt8}
    (code : chunk.code.toList.drop offset = first :: (bytes ++ rest))
    (length : bytes.length + 1 = shape.length) :
  chunk.operandAt offset shape = BigEndian.value bytes
  := by
  have digit (distance : Nat) :
      chunk.digitAt (offset + (distance + 1))
        = (bytes ++ rest)[distance]?.elim 0 UInt8.toNat := by
    rw [digitAt, byteAt_add, code, List.getElem?_cons_succ]
  have one := digit 0
  have two := digit 1
  have three := digit 2
  cases shape with
  | simple =>
    obtain rfl := List.length_eq_zero_iff.mp (Nat.succ.inj length)
    rfl
  | byte =>
    obtain ⟨_, rfl⟩ := List.length_eq_one_iff.mp (Nat.succ.inj length)
    simpa [operandAt, BigEndian.value] using one
  | constant =>
    obtain ⟨_, rfl⟩ := List.length_eq_one_iff.mp (Nat.succ.inj length)
    simpa [operandAt, BigEndian.value] using one
  | constantLong =>
    obtain ⟨_, _, _, rfl⟩ := List.length_eq_three.mp (Nat.succ.inj length)
    simp only [operandAt, one, two, three]
    simp [BigEndian.value]
    omega
  | jumpForward =>
    obtain ⟨_, _, rfl⟩ := List.length_eq_two.mp (Nat.succ.inj length)
    simp only [operandAt, one, two]
    simp [BigEndian.value]
  | jumpBackward =>
    obtain ⟨_, _, rfl⟩ := List.length_eq_two.mp (Nat.succ.inj length)
    simp only [operandAt, one, two]
    simp [BigEndian.value]

/-- Where a whole instruction is found, it is decoded from its operand bytes, which stand for its
operand. -/
theorem HasWhole.decode_eq {chunk : Chunk} {offset : Nat} {op : Op}
    (whole : chunk.HasWhole offset op) :
  ∃ bytes, BigEndian.value bytes = chunk.operandAt offset op.shape
    ∧ chunk.decode offset
      = (chunk.resolve offset op.shape bytes).map (Instruction.mk offset op)
  := by
  obtain ⟨bytes, rest, code, length⟩ := exists_operand_bytes whole.found whole.long
  use bytes
  constructor
  · symm
    apply operandAt_eq code length
  · apply decode_of_bytes code length

/-! ### Following the rules -/

/-- What the rules say is decoded. -/
theorem Decodes.decode_eq {chunk : Chunk} {offset : Nat}
    {result : Except DecodeError Instruction} (decodes : chunk.Decodes offset result) :
  chunk.decode offset = result
  := by
  cases decodes with
  | outside beyond => apply decode_of_beyond beyond
  | unknown found nameless =>
    apply decode_of_unknown found
    apply Option.eq_none_iff_forall_ne_some.mpr
    intro op known
    apply nameless op (Op.toByte_of_ofByte? known)
  | cutOff found short => apply decode_of_short found short
  | noConstant whole refers missing =>
    obtain ⟨bytes, number, decoded⟩ := whole.decode_eq
    rw [decoded, resolve_of_refers refers, number, constantAt, Array.getElem?_eq_none missing]
    rfl
  | tooFar whole shape beyond =>
    obtain ⟨bytes, number, decoded⟩ := whole.decode_eq
    rw [← number] at beyond
    rw [decoded, ← number]
    rw [shape] at beyond ⊢
    rw [resolve, if_neg (Nat.not_le_of_lt beyond)]
    rfl
  | simple whole shape =>
    obtain ⟨bytes, -, decoded⟩ := whole.decode_eq
    rw [decoded, shape]
    rfl
  | @byte _ value whole shape operand =>
    obtain ⟨bytes, number, decoded⟩ := whole.decode_eq
    rw [shape, operandAt, digitAt, operand, Option.elim_some] at number
    rw [decoded, shape, resolve, number, UInt8.ofNat_toNat]
    rfl
  | constant whole refers found =>
    obtain ⟨bytes, number, decoded⟩ := whole.decode_eq
    rw [decoded, resolve_of_refers refers, number, found]
    rfl
  | forward whole shape =>
    obtain ⟨bytes, number, decoded⟩ := whole.decode_eq
    rw [decoded, ← number, shape]
    rfl
  | backward whole shape lands =>
    obtain ⟨bytes, number, decoded⟩ := whole.decode_eq
    rw [← number] at lands
    rw [decoded, ← number]
    rw [shape] at lands ⊢
    rw [resolve, if_pos lands]
    rfl

/-- Where a whole instruction is found, one of the rules for its shape applies. -/
theorem HasWhole.exists_decodes {chunk : Chunk} {offset : Nat} {op : Op}
    (whole : chunk.HasWhole offset op) :
  ∃ result, chunk.Decodes offset result
  := by
  have constant (refers : op.shape.referencesConstant = true) :
      ∃ result, chunk.Decodes offset result := by
    by_cases known : chunk.operandAt offset op.shape < chunk.poolSize
    · exact ⟨_, .constant whole refers (Array.getElem?_eq_getElem known)⟩
    · exact ⟨_, .noConstant whole refers (Nat.le_of_not_lt known)⟩
  cases shape : op.shape with
  | simple => exact ⟨_, .simple whole shape⟩
  | byte =>
    have inside : offset + 1 < chunk.length := by
      have long := whole.long
      rw [shape] at long
      apply long
    exact ⟨_, .byte whole shape (Array.getElem?_eq_getElem inside)⟩
  | constant =>
    apply constant
    rw [shape]
    rfl
  | constantLong =>
    apply constant
    rw [shape]
    rfl
  | jumpForward => exact ⟨_, .forward whole shape⟩
  | jumpBackward =>
    by_cases lands : chunk.operandAt offset op.shape ≤ offset + op.shape.length
    · exact ⟨_, .backward whole shape lands⟩
    · exact ⟨_, .tooFar whole shape (Nat.lt_of_not_le lands)⟩

/-- One of the rules applies at every offset. -/
theorem exists_decodes (chunk : Chunk) (offset : Nat) :
  ∃ result, chunk.Decodes offset result
  := by
  cases found : chunk.byteAt offset with
  | none => exact ⟨_, .outside (Array.getElem?_eq_none_iff.mp found)⟩
  | some byte =>
    by_cases known : ∃ op : Op, op.toByte = byte
    · obtain ⟨op, rfl⟩ := known
      by_cases long : offset + op.shape.length ≤ chunk.length
      · apply HasWhole.exists_decodes ⟨found, long⟩
      · exact ⟨_, .cutOff found (Nat.lt_of_not_le long)⟩
    · exact ⟨_, .unknown found (not_exists.mp known)⟩

theorem decode_eq_iff {chunk : Chunk} {offset : Nat} {result : Except DecodeError Instruction} :
  chunk.decode offset = result ↔ chunk.Decodes offset result
  := by
  constructor
  · rintro rfl
    obtain ⟨result, decodes⟩ := chunk.exists_decodes offset
    rw [decodes.decode_eq]
    apply decodes
  · apply Decodes.decode_eq

/-! ### What the rules look at -/

/-- The chunks have the same bytes at the offset, as far as an instruction can reach, pools of the
same size, and the same text for the constant that the instruction refers to, if it does. -/
structure AgreesAt (chunk other : Chunk) (offset : Nat) : Prop where
  byteAt_eq : ∀ distance < Shape.maxLength,
    other.byteAt (offset + distance) = chunk.byteAt (offset + distance)
  poolSize_eq : other.poolSize = chunk.poolSize
  text_eq : ∀ op : Op, chunk.byteAt offset = some op.toByte →
    op.shape.referencesConstant = true →
    (other.constantAt (chunk.operandAt offset op.shape)).map Value.text
      = (chunk.constantAt (chunk.operandAt offset op.shape)).map Value.text

namespace AgreesAt

variable {chunk other : Chunk} {offset : Nat} (agrees : chunk.AgreesAt other offset)

include agrees

theorem byteAt_offset_eq :
  other.byteAt offset = chunk.byteAt offset
  := agrees.byteAt_eq 0 (by decide)

theorem operandAt_eq (shape : Shape) :
  other.operandAt offset shape = chunk.operandAt offset shape
  := by
  have one := agrees.byteAt_eq 1 (by decide)
  have two := agrees.byteAt_eq 2 (by decide)
  have three := agrees.byteAt_eq 3 (by decide)
  cases shape <;> simp only [operandAt, digitAt, one, two, three]

/-- Up to the reach of an instruction, the codes end at the same place. -/
theorem length_le_iff (distance : Nat) (near : distance < Shape.maxLength) :
  other.length ≤ offset + distance ↔ chunk.length ≤ offset + distance
  := by
  have same := agrees.byteAt_eq distance near
  rw [byteAt, byteAt] at same
  rw [length, length, ← Array.getElem?_eq_none_iff, ← Array.getElem?_eq_none_iff, same]

theorem hasWhole {op : Op} (whole : chunk.HasWhole offset op) :
  other.HasWhole offset op
  where
  found := by rw [agrees.byteAt_offset_eq, whole.found]
  long := by
    have positive := op.shape.length_pos
    have bound := op.shape.length_le_maxLength
    have ends := agrees.length_le_iff (op.shape.length - 1) (by omega)
    have long := whole.long
    omega

/-- Codes that end within the reach of an instruction have the same length. -/
theorem length_eq {distance : Nat} (near : distance ≤ Shape.maxLength)
    (inside : offset < chunk.length) (short : chunk.length < offset + distance) :
  other.length = chunk.length
  := by
  have at_end := agrees.length_le_iff (chunk.length - offset) (by omega)
  have before_end := agrees.length_le_iff (chunk.length - offset - 1) (by omega)
  omega

end AgreesAt

/-- The rules do not look at anything but the bytes of one instruction, the size of the pool and
the text of the constant that the instruction refers to. -/
theorem Decodes.congr {chunk other : Chunk} {offset : Nat}
    (agrees : chunk.AgreesAt other offset) {result : Except DecodeError Instruction}
    (decodes : chunk.Decodes offset result) :
  other.Decodes offset result
  := by
  cases decodes with
  | outside beyond =>
    apply Decodes.outside
    apply (agrees.length_le_iff 0 (by decide)).mpr beyond
  | unknown found nameless =>
    apply Decodes.unknown _ nameless
    rw [agrees.byteAt_offset_eq, found]
  | @cutOff op found short =>
    obtain ⟨inside, -⟩ := Array.getElem?_eq_some_iff.mp found
    have same := agrees.length_eq op.shape.length_le_maxLength inside short
    rw [← same] at short ⊢
    apply Decodes.cutOff _ short
    rw [agrees.byteAt_offset_eq, found]
  | noConstant whole refers missing =>
    rw [← agrees.operandAt_eq, ← agrees.poolSize_eq] at missing ⊢
    apply Decodes.noConstant (agrees.hasWhole whole) refers missing
  | tooFar whole shape beyond =>
    rw [← agrees.operandAt_eq] at beyond ⊢
    apply Decodes.tooFar (agrees.hasWhole whole) shape beyond
  | simple whole shape => apply Decodes.simple (agrees.hasWhole whole) shape
  | byte whole shape operand =>
    apply Decodes.byte (agrees.hasWhole whole) shape
    rw [agrees.byteAt_eq 1 (by decide), operand]
  | @constant op value whole refers found =>
    have texts := agrees.text_eq op whole.found refers
    rw [found] at texts
    obtain ⟨value', found', text_eq⟩ := Option.map_eq_some_iff.mp texts
    rw [← agrees.operandAt_eq] at found' ⊢
    rw [← text_eq]
    apply Decodes.constant (agrees.hasWhole whole) refers found'
  | forward whole shape =>
    rw [← agrees.operandAt_eq]
    apply Decodes.forward (agrees.hasWhole whole) shape
  | backward whole shape lands =>
    rw [← agrees.operandAt_eq] at lands ⊢
    apply Decodes.backward (agrees.hasWhole whole) shape lands

/-! ### Decoding -/

/-- What is missing of an instruction is always more than what there is. -/
theorem Decodes.available_lt {chunk : Chunk} {offset place needed available : Nat}
    (decodes : chunk.Decodes offset (.error (.truncated place needed available))) :
  available < needed
  := by
  cases decodes with
  | outside beyond => apply Nat.zero_lt_one
  | cutOff found short =>
    obtain ⟨inside, -⟩ := Array.getElem?_eq_some_iff.mp found
    apply Nat.sub_lt_left_of_lt_add (Nat.le_of_lt inside) short

/-- Decoding follows the rules on every code and pool and at every offset. An error is about the
offset itself, and it never reports as much code as is needed. An instruction starts at the offset
and ends within the code. Chunks that agree on what the instruction consists of and refers to
decode to the same. -/
theorem decode_meets_rules (chunk : Chunk) (offset : Nat) :
  (∀ result, chunk.decode offset = result ↔ chunk.Decodes offset result)
    ∧ (∀ error, chunk.decode offset = .error error → error.offset = offset)
    ∧ (∀ place needed available,
      chunk.decode offset = .error (.truncated place needed available) → available < needed)
    ∧ (∀ instruction, chunk.decode offset = .ok instruction →
      instruction.offset = offset
      ∧ instruction.nextOffset = offset + instruction.op.shape.length
      ∧ instruction.nextOffset ≤ chunk.length)
    ∧ ∀ other, chunk.AgreesAt other offset → other.decode offset = chunk.decode offset
  := by
  refine ⟨?_, ?_, ?_, ?_, ?_⟩
  · intro result
    apply decode_eq_iff
  · intro error failed
    apply offset_of_decode_eq_error failed
  · intro place needed available failed
    apply Decodes.available_lt (decode_eq_iff.mp failed)
  · intro instruction decoded
    obtain ⟨rfl, fits, -, found⟩ := decode_eq_ok_iff.mp decoded
    use rfl, rfl
    apply nextOffset_le_length fits found
  · intro other agrees
    apply decode_eq_iff.mpr
    apply Decodes.congr agrees
    apply decode_eq_iff.mp rfl

end Chunk

end Bytecode
