import Bytecode.Instruction
import Bytecode.Proofs.Cursor
import Mathlib.Data.List.Induction

/-!
# Decoding

`Chunk.decode` at an offset in closed form. The opcode tells how many operand bytes follow
it, and `Chunk.resolve` gives the operand that these bytes stand for.

* `Chunk.decode_cases` lists what can be found at an offset and what is decoded from it.
* `Chunk.decode_eq_ok_iff` says that an instruction is decoded exactly where its bytes are
  found, when its operand fits the pool and its jump lands in the code.
-/

namespace Bytecode

/-! ### Digits -/

namespace BigEndian

theorem value_lt (digits : List UInt8) :
  value digits < Nat.pow 256 digits.length
  := by
  induction digits using List.reverseRecOn with
  | nil => decide
  | append_singleton digits digit ih =>
    have bound := digit.toNat_lt
    rw [value_append_singleton, List.length_append]
    simp only [List.length_singleton, Nat.pow_succ, Nat.pow_eq] at ih ⊢
    omega

/-- The digits of the number that digits stand for are these digits. -/
theorem bytes_value (digits : List UInt8) :
  bytes digits.length (value digits) = digits
  := by
  induction digits using List.reverseRecOn with
  | nil => rfl
  | append_singleton digits digit ih =>
    have bound := digit.toNat_lt
    have high : (256 * value digits + digit.toNat) / 256 = value digits := by omega
    have low : UInt8.ofNat (256 * value digits + digit.toNat) = digit := by
      apply UInt8.toNat_inj.mp
      rw [UInt8.toNat_ofNat']
      omega
    rw [List.length_append, List.length_singleton, bytes, value_append_singleton, high, low, ih]

end BigEndian

/-! ### Shapes -/

namespace Shape

theorem eq_of_isJump {shape : Shape} (jumps : shape.isJump = true) :
  shape = .jumpForward ∨ shape = .jumpBackward
  := by
  cases shape <;> simp [isJump] at jumps ⊢

theorem eq_of_referencesConstant {shape : Shape} (refers : shape.referencesConstant = true) :
  shape = .constant ∨ shape = .constantLong
  := by
  cases shape <;> simp [referencesConstant] at refers ⊢

end Shape

/-- Only loops jump back. -/
theorem Op.eq_loop_of_shape {op : Op} (backward : op.shape = .jumpBackward) :
  op = .loop
  := by
  revert backward
  cases op <;> decide

theorem Op.eq_constantLong_of_shape {op : Op} (long : op.shape = .constantLong) :
  op = .constantLong
  := by
  revert long
  cases op <;> decide

/-! ### Operands -/

/-- The operand that fits an instruction of a shape that ends at `stop`: an index is in the
pool and in the width of the shape, and a jump is counted from the end of the instruction. -/
inductive Operand.Fits (pool : Array Value) (stop : Nat) : Shape → Operand → Prop
  | empty : Fits pool stop .simple .empty
  | byte (value : UInt8) : Fits pool stop .byte (.byte value)
  | constant {shape : Shape} {index : Nat} {value : Value}
      (refers : shape.referencesConstant = true)
      (narrow : index < Nat.pow 256 (shape.length - 1))
      (found : pool[index]? = some value) :
      Fits pool stop shape (.constant index value.text)
  | forward {distance : Nat} (narrow : distance < Nat.pow 256 2) :
      Fits pool stop .jumpForward (.jump distance (stop + distance))
  | backward {distance : Nat} (narrow : distance < Nat.pow 256 2) :
      Fits pool stop .jumpBackward (.jump distance (stop - distance))

namespace Instruction

/-- The operand of the instruction fits its shape and its place. -/
def Fits (pool : Array Value) (instruction : Instruction) : Prop :=
  instruction.operand.Fits pool instruction.nextOffset instruction.op.shape

/-- The instruction does not jump back beyond the start of the code. -/
def Lands (instruction : Instruction) : Prop :=
  ∀ distance target, instruction.op.shape = .jumpBackward →
    instruction.operand = .jump distance target → distance ≤ instruction.nextOffset

end Instruction

namespace Chunk

/-- The operand that operand bytes stand for in the instruction at an offset. -/
def resolve (chunk : Chunk) (offset : Nat) (shape : Shape) (bytes : List UInt8) :
    Except DecodeError Operand :=
  let number := BigEndian.value bytes
  let stop := offset + shape.length
  match shape with
  | .simple => .ok .empty
  | .byte => .ok (.byte (UInt8.ofNat number))
  | .constant | .constantLong =>
    match chunk.constantAt number with
    | some value => .ok (.constant number value.text)
    | none => .error (.constantIndexOutOfRange offset number chunk.poolSize)
  | .jumpForward => .ok (.jump number (stop + number))
  | .jumpBackward =>
    if number ≤ stop then .ok (.jump number (stop - number))
    else .error (.jumpOutOfRange offset number)

theorem run_constantOperand (chunk : Chunk) (offset index : Nat) (cursor : Cursor) :
  (chunk.constantOperand offset index).run cursor =
    match chunk.constantAt index with
    | some value => .ok (.constant index value.text) cursor
    | none => .error (.constantIndexOutOfRange offset index chunk.poolSize) cursor
  := by
  rw [constantOperand]
  cases chunk.constantAt index with
  | none => rfl
  | some value => rfl

/-- Where the operand bytes of an instruction are found, reading its operand resolves them,
and leaves the cursor somewhere. -/
theorem run_readOperand {chunk : Chunk} {offset : Nat} {shape : Shape} {bytes rest : List UInt8}
    (op : Option Op) (operand : chunk.code.toList.drop (offset + 1) = bytes ++ rest)
    (length : bytes.length + 1 = shape.length) :
  ∃ cursor, (chunk.readOperand offset shape).run ⟨offset + 1, offset, op⟩ =
    match chunk.resolve offset shape bytes with
    | .ok operand => .ok operand cursor
    | .error error => .error error cursor
  := by
  have read (count : Nat) (positive : 0 < count) (width : count + 1 = shape.length) :
      (Cursor.readNat chunk.code count).run ⟨offset + 1, offset, op⟩
        = .ok (BigEndian.value bytes) ⟨offset + shape.length, offset, op⟩ := by
    obtain rfl : bytes.length = count := by omega
    rw [Cursor.run_readNat_of_drop (List.length_pos_iff.mp positive) operand]
    simp only [← width, Nat.add_comm, Nat.add_left_comm]
  cases shape with
  | simple =>
    use ⟨offset + 1, offset, op⟩
    rfl
  | byte =>
    use ⟨offset + 2, offset, op⟩
    rw [readOperand, EStateM.run_bind, Cursor.readByte, EStateM.run_bind,
      read 1 (by decide) rfl]
    rfl
  | constant =>
    use ⟨offset + 2, offset, op⟩
    rw [readOperand, EStateM.run_bind, read 1 (by decide) rfl]
    simp only [run_constantOperand, resolve]
    cases chunk.constantAt (BigEndian.value bytes) with
    | none => rfl
    | some value => rfl
  | constantLong =>
    use ⟨offset + 4, offset, op⟩
    rw [readOperand, EStateM.run_bind, read 3 (by decide) rfl]
    simp only [run_constantOperand, resolve]
    cases chunk.constantAt (BigEndian.value bytes) with
    | none => rfl
    | some value => rfl
  | jumpForward =>
    use ⟨offset + 3 + BigEndian.value bytes, offset, op⟩
    rw [readOperand, EStateM.run_bind, read 2 (by decide) rfl]
    rfl
  | jumpBackward =>
    rw [readOperand, EStateM.run_bind, read 2 (by decide) rfl]
    simp only [EStateM.run_bind, Cursor.run_jumpBack, resolve]
    by_cases lands : BigEndian.value bytes ≤ offset + Shape.jumpBackward.length
    · use ⟨offset + 3 - BigEndian.value bytes, offset, op⟩
      rw [if_pos lands, if_pos lands]
      rfl
    · use ⟨offset + 3, offset, op⟩
      rw [if_neg lands, if_neg lands]
      rfl

/-- Where the opcode and the operand bytes of an instruction are found, the operand decides
what is decoded. -/
theorem decode_of_bytes {chunk : Chunk} {offset : Nat} {op : Op} {bytes rest : List UInt8}
    (code : chunk.code.toList.drop offset = op.toByte :: (bytes ++ rest))
    (length : bytes.length + 1 = op.shape.length) :
  chunk.decode offset = (chunk.resolve offset op.shape bytes).map (Instruction.mk offset op)
  := by
  have first : chunk.code[offset]? = some op.toByte := by
    rw [← Array.getElem?_toList, ← List.head?_drop, code, List.head?_cons]
  have operand : chunk.code.toList.drop (offset + 1) = bytes ++ rest := by
    rw [← List.tail_drop, code, List.tail_cons]
  obtain ⟨cursor, read⟩ := run_readOperand (some op) operand length
  rw [decode, EStateM.run_bind, Cursor.run_nextOp]
  simp only [Cursor.atOffset, first, Op.ofByte?_toByte, EStateM.run_bind, read]
  cases chunk.resolve offset op.shape bytes with
  | ok operand => rfl
  | error error => rfl

/-- Where the code ends within an instruction, reading its operand fails. -/
theorem run_readOperand_of_short {chunk : Chunk} {offset : Nat} {op : Op}
    (inside : offset < chunk.length) (short : chunk.length < offset + op.shape.length) :
  (chunk.readOperand offset op.shape).run ⟨offset + 1, offset, some op⟩ =
    .error (.truncated offset op.shape.length (chunk.length - offset))
      ⟨offset + 1, offset, some op⟩
  := by
  have fails (count : Nat) (width : count + 1 = op.shape.length) :
      (Cursor.readNat chunk.code count).run ⟨offset + 1, offset, some op⟩
        = .error (.truncated offset op.shape.length (chunk.length - offset))
            ⟨offset + 1, offset, some op⟩ := by
    have beyond : ¬ offset + 1 + count ≤ chunk.code.size := by
      have : chunk.code.size < offset + op.shape.length := short
      omega
    rw [Cursor.run_readNat, if_neg beyond]
    rfl
  -- The length of the instruction stays that of its opcode while the reader follows the shape.
  generalize shape_eq : op.shape = shape at *
  cases shape with
  | simple =>
    simp only [Shape.length] at short
    omega
  | byte =>
    rw [readOperand, EStateM.run_bind, Cursor.readByte, EStateM.run_bind, fails 1 rfl]
  | constant => rw [readOperand, EStateM.run_bind, fails 1 rfl]
  | constantLong => rw [readOperand, EStateM.run_bind, fails 3 rfl]
  | jumpForward => rw [readOperand, EStateM.run_bind, fails 2 rfl]
  | jumpBackward => rw [readOperand, EStateM.run_bind, fails 2 rfl]

/-- Where a byte is found that stands for no opcode, it is reported. -/
theorem decode_of_unknown {chunk : Chunk} {offset : Nat} {byte : UInt8}
    (found : chunk.byteAt offset = some byte) (unknown : Op.ofByte? byte = none) :
  chunk.decode offset = .error (.unknownOpcode offset byte)
  := by
  rw [byteAt] at found
  rw [decode, EStateM.run_bind, Cursor.run_nextOp]
  simp only [Cursor.atOffset, found, unknown]

/-- Where the code has ended, there is nothing to decode. -/
theorem decode_of_beyond {chunk : Chunk} {offset : Nat} (beyond : chunk.length ≤ offset) :
  chunk.decode offset = .error (.truncated offset 1 0)
  := by
  have none_found := Array.getElem?_eq_none beyond
  rw [decode, EStateM.run_bind, Cursor.run_nextOp]
  simp only [Cursor.atOffset, none_found]

/-- Where an opcode is found and the code ends within its instruction, this is reported. -/
theorem decode_of_short {chunk : Chunk} {offset : Nat} {op : Op}
    (found : chunk.byteAt offset = some op.toByte)
    (short : chunk.length < offset + op.shape.length) :
  chunk.decode offset
    = .error (.truncated offset op.shape.length (chunk.length - offset))
  := by
  obtain ⟨inside, -⟩ := Array.getElem?_eq_some_iff.mp found
  rw [byteAt] at found
  rw [decode, EStateM.run_bind, Cursor.run_nextOp]
  simp only [Cursor.atOffset, found, Op.ofByte?_toByte, EStateM.run_bind,
    run_readOperand_of_short inside short]

/-- Where an opcode is found and the code goes on long enough, its operand bytes follow. -/
theorem exists_operand_bytes {chunk : Chunk} {offset : Nat} {op : Op}
    (found : chunk.code[offset]? = some op.toByte)
    (long : offset + op.shape.length ≤ chunk.length) :
  ∃ bytes rest, chunk.code.toList.drop offset = op.toByte :: (bytes ++ rest)
    ∧ bytes.length + 1 = op.shape.length
  := by
  obtain ⟨tail, code⟩ : ∃ tail, chunk.code.toList.drop offset = op.toByte :: tail := by
    rw [← Array.getElem?_toList, ← List.head?_drop] at found
    apply List.head?_eq_some_iff.mp found
  have total := congrArg List.length code
  rw [List.length_drop, Array.length_toList, List.length_cons] at total
  use tail.take (op.shape.length - 1), tail.drop (op.shape.length - 1)
  constructor
  · rw [List.take_append_drop, code]
  · have positive := op.shape.length_pos
    rw [Chunk.length] at long
    rw [List.length_take]
    omega

/-- What can be found at an offset: the end of the code, a byte that stands for no opcode, an
instruction that is cut off, or the bytes of an instruction. -/
theorem decode_cases (chunk : Chunk) (offset : Nat) :
  (chunk.length ≤ offset ∧ chunk.decode offset = .error (.truncated offset 1 0))
    ∨ (∃ byte, chunk.byteAt offset = some byte ∧ Op.ofByte? byte = none
      ∧ chunk.decode offset = .error (.unknownOpcode offset byte))
    ∨ (∃ op : Op, chunk.byteAt offset = some op.toByte
      ∧ chunk.length < offset + op.shape.length
      ∧ chunk.decode offset
        = .error (.truncated offset op.shape.length (chunk.length - offset)))
    ∨ (∃ (op : Op) (bytes rest : List UInt8),
      chunk.code.toList.drop offset = op.toByte :: (bytes ++ rest)
      ∧ bytes.length + 1 = op.shape.length
      ∧ chunk.decode offset
        = (chunk.resolve offset op.shape bytes).map (Instruction.mk offset op))
  := by
  cases found : chunk.code[offset]? with
  | none =>
    left
    have beyond := Array.getElem?_eq_none_iff.mp found
    use beyond
    apply decode_of_beyond beyond
  | some byte =>
    right
    cases known : Op.ofByte? byte with
    | none =>
      left
      use byte, found, known
      apply decode_of_unknown found known
    | some op =>
      right
      obtain rfl := Op.toByte_of_ofByte? known
      by_cases short : chunk.length < offset + op.shape.length
      · left
        use op, found, short
        apply decode_of_short found short
      · right
        obtain ⟨bytes, rest, code, length⟩ := exists_operand_bytes found (Nat.le_of_not_lt short)
        use op, bytes, rest, code, length
        apply decode_of_bytes code length

/-! ### Instructions and their bytes -/

/-- The operand bytes of an operand that fits are as many as its shape says. -/
theorem length_operandBytes {pool : Array Value} {stop : Nat} {shape : Shape} {operand : Operand}
    (fits : operand.Fits pool stop shape) :
  (Instruction.operandBytes shape operand).length + 1 = shape.length
  := by
  cases fits with
  | empty => rfl
  | byte value => rfl
  | constant refers narrow found =>
    have positive := shape.length_pos
    rw [Instruction.operandBytes, BigEndian.length_bytes]
    omega
  | forward narrow => rfl
  | backward narrow => rfl

/-- The bytes of a pool index resolve to the constant at that index. -/
theorem resolve_of_refers {shape : Shape} (refers : shape.referencesConstant = true)
    (chunk : Chunk) (offset : Nat) (bytes : List UInt8) :
  chunk.resolve offset shape bytes =
    match chunk.constantAt (BigEndian.value bytes) with
    | some value => .ok (.constant (BigEndian.value bytes) value.text)
    | none =>
      .error (.constantIndexOutOfRange offset (BigEndian.value bytes) chunk.poolSize)
  := by
  rcases Shape.eq_of_referencesConstant refers with rfl | rfl
  · rfl
  · rfl

/-- The bytes of an operand that fits resolve to this operand, if its jump lands. -/
theorem resolve_operandBytes {chunk : Chunk} {offset : Nat} {shape : Shape} {operand : Operand}
    (fits : operand.Fits chunk.constants (offset + shape.length) shape)
    (lands : ∀ distance target, shape = .jumpBackward → operand = .jump distance target →
      distance ≤ offset + shape.length) :
  chunk.resolve offset shape (Instruction.operandBytes shape operand) = .ok operand
  := by
  cases fits with
  | empty => rfl
  | byte value =>
    simp [resolve, Instruction.operandBytes, BigEndian.value]
  | @constant shape index value refers narrow found =>
    rw [resolve_of_refers refers, Instruction.operandBytes, BigEndian.value_bytes narrow,
      constantAt, found]
  | forward narrow =>
    simp [resolve, Instruction.operandBytes, BigEndian.value_bytes narrow]
  | backward narrow =>
    simp [resolve, Instruction.operandBytes, BigEndian.value_bytes narrow,
      lands _ _ rfl rfl]

/-- The bytes of a jump back beyond the start of the code resolve to an error. -/
theorem resolve_of_not_lands {chunk : Chunk} {offset distance target : Nat}
    (narrow : distance < Nat.pow 256 2)
    (beyond : ¬ distance ≤ offset + Shape.jumpBackward.length) :
  chunk.resolve offset .jumpBackward
      (Instruction.operandBytes .jumpBackward (.jump distance target))
    = .error (.jumpOutOfRange offset distance)
  := by
  simp [resolve, Instruction.operandBytes, BigEndian.value_bytes narrow, beyond]

theorem offset_of_resolve_eq_error {chunk : Chunk} {offset : Nat} {shape : Shape}
    {bytes : List UInt8} {error : DecodeError}
    (failed : chunk.resolve offset shape bytes = .error error) :
  error.offset = offset
  := by
  have constant (refers : shape.referencesConstant = true) : error.offset = offset := by
    rw [resolve_of_refers refers] at failed
    cases found : chunk.constantAt (BigEndian.value bytes) with
    | none =>
      rw [found] at failed
      obtain rfl := Except.error.inj failed
      rfl
    | some value =>
      rw [found] at failed
      cases failed
  cases shape with
  | simple => cases failed
  | byte => cases failed
  | constant => exact constant rfl
  | constantLong => exact constant rfl
  | jumpForward => cases failed
  | jumpBackward =>
    simp only [resolve] at failed
    by_cases lands : BigEndian.value bytes ≤ offset + Shape.jumpBackward.length
    · rw [if_pos lands] at failed
      cases failed
    · rw [if_neg lands] at failed
      obtain rfl := Except.error.inj failed
      rfl

/-- What operand bytes resolve to fits, lands, and has these bytes. -/
theorem fits_of_resolve {chunk : Chunk} {offset : Nat} {shape : Shape} {bytes : List UInt8}
    {operand : Operand} (length : bytes.length + 1 = shape.length)
    (resolved : chunk.resolve offset shape bytes = .ok operand) :
  operand.Fits chunk.constants (offset + shape.length) shape
    ∧ (∀ distance target, shape = .jumpBackward → operand = .jump distance target →
      distance ≤ offset + shape.length)
    ∧ Instruction.operandBytes shape operand = bytes
  := by
  have digits := BigEndian.bytes_value bytes
  have bound := BigEndian.value_lt bytes
  have count : bytes.length = shape.length - 1 := by omega
  rw [count] at digits bound
  have constant (refers : shape.referencesConstant = true) :
      operand.Fits chunk.constants (offset + shape.length) shape
        ∧ Instruction.operandBytes shape operand = bytes := by
    rw [resolve_of_refers refers] at resolved
    cases found : chunk.constantAt (BigEndian.value bytes) with
    | none =>
      rw [found] at resolved
      cases resolved
    | some value =>
      rw [found] at resolved
      obtain rfl := Except.ok.inj resolved
      exact ⟨.constant refers bound found, digits⟩
  cases shape with
  | simple =>
    obtain rfl := Except.ok.inj resolved
    obtain rfl := List.length_eq_zero_iff.mp count
    refine ⟨.empty, by simp, rfl⟩
  | byte =>
    obtain rfl := Except.ok.inj resolved
    refine ⟨.byte _, by simp, digits⟩
  | constant =>
    obtain ⟨fits, bytes_eq⟩ := constant rfl
    refine ⟨fits, by simp, bytes_eq⟩
  | constantLong =>
    obtain ⟨fits, bytes_eq⟩ := constant rfl
    refine ⟨fits, by simp, bytes_eq⟩
  | jumpForward =>
    obtain rfl := Except.ok.inj resolved
    refine ⟨.forward bound, by simp, digits⟩
  | jumpBackward =>
    simp only [resolve] at resolved
    by_cases lands : BigEndian.value bytes ≤ offset + Shape.jumpBackward.length
    · rw [if_pos lands] at resolved
      obtain rfl := Except.ok.inj resolved
      refine ⟨.backward bound, ?_, digits⟩
      rintro _ _ - ⟨⟩
      exact lands
    · rw [if_neg lands] at resolved
      cases resolved

/-- Where the bytes of an instruction are found, its operand bytes are resolved. -/
theorem decode_of_encode {chunk : Chunk} {instruction : Instruction}
    (fits : instruction.Fits chunk.constants)
    (found : instruction.encode <+: chunk.code.toList.drop instruction.offset) :
  chunk.decode instruction.offset
    = (chunk.resolve instruction.offset instruction.op.shape
        (Instruction.operandBytes instruction.op.shape instruction.operand)).map
      (Instruction.mk instruction.offset instruction.op)
  := by
  obtain ⟨rest, code⟩ := found
  symm at code
  rw [Instruction.encode, List.cons_append] at code
  apply decode_of_bytes code (length_operandBytes fits)

/-- An instruction is decoded exactly where its bytes are found, when it fits and lands. -/
theorem decode_eq_ok_iff {chunk : Chunk} {offset : Nat} {instruction : Instruction} :
  chunk.decode offset = .ok instruction
    ↔ instruction.offset = offset ∧ instruction.Fits chunk.constants ∧ instruction.Lands
      ∧ instruction.encode <+: chunk.code.toList.drop offset
  := by
  constructor
  · intro decoded
    rcases decode_cases chunk offset with
      ⟨-, failed⟩ | ⟨_, -, -, failed⟩ | ⟨_, -, -, failed⟩ | ⟨op, bytes, rest, code, length, result⟩
    · rw [failed] at decoded
      cases decoded
    · rw [failed] at decoded
      cases decoded
    · rw [failed] at decoded
      cases decoded
    · rw [result] at decoded
      cases resolved : chunk.resolve offset op.shape bytes with
      | error error =>
        rw [resolved] at decoded
        cases decoded
      | ok operand =>
        rw [resolved] at decoded
        obtain rfl := Except.ok.inj decoded
        obtain ⟨fits, lands, bytes_eq⟩ := fits_of_resolve length resolved
        refine ⟨rfl, fits, lands, rest, ?_⟩
        rw [Instruction.encode, bytes_eq, code, List.cons_append]
  · rintro ⟨rfl, fits, lands, found⟩
    rw [decode_of_encode fits found, resolve_operandBytes fits lands]
    rfl

/-- Where the bytes of a jump back beyond the start of the code are found, nothing is
decoded. -/
theorem decode_of_not_lands {chunk : Chunk} {instruction : Instruction}
    (fits : instruction.Fits chunk.constants) (beyond : ¬ instruction.Lands)
    (found : instruction.encode <+: chunk.code.toList.drop instruction.offset) :
  ∃ distance target, instruction.op.shape = .jumpBackward
    ∧ instruction.operand = .jump distance target
    ∧ instruction.nextOffset < distance
    ∧ chunk.decode instruction.offset
      = .error (.jumpOutOfRange instruction.offset distance)
  := by
  simp only [Instruction.Lands, not_forall, Nat.not_le] at beyond
  obtain ⟨distance, target, backward, jump, too_far⟩ := beyond
  have narrow : distance < Nat.pow 256 2 := by
    rw [Instruction.Fits, jump, backward] at fits
    cases fits with
    | backward narrow => exact narrow
  use distance, target, backward, jump, too_far
  rw [decode_of_encode fits found, jump, backward, resolve_of_not_lands narrow]
  · rfl
  · rw [Instruction.nextOffset, Instruction.length, backward] at too_far
    omega

end Chunk

end Bytecode
