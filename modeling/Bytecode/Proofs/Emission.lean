import Bytecode.Emit
import Bytecode.Proofs.LineTable
import Bytecode.Proofs.Walk

/-!
# Emission

What the operations that extend a chunk do, as equations on `EStateM.run`. An operation that
fails gives the chunk back as it was, `Emit.Fails`. One that succeeds and emits code adds the
bytes of one instruction and, for some, the constant it refers to, `Emit.Extends`.
-/

namespace Bytecode

/-! ### Appending to a chunk -/

namespace Chunk

theorem appendBytes_cons (chunk : Chunk) (byte : UInt8) (bytes : List UInt8) (line : Nat) :
  chunk.appendBytes (byte :: bytes) line = (chunk.appendByte byte line).appendBytes bytes line
  := rfl

@[simp]
theorem toList_code_appendBytes (chunk : Chunk) (bytes : List UInt8) (line : Nat) :
  (chunk.appendBytes bytes line).code.toList = chunk.code.toList ++ bytes
  := by
  induction bytes generalizing chunk with
  | nil => simp [appendBytes]
  | cons byte bytes ih => simp [appendBytes_cons, ih, appendByte]

@[simp]
theorem toList_lines_appendBytes (chunk : Chunk) (bytes : List UInt8) (line : Nat) :
  (chunk.appendBytes bytes line).lines.toList
    = chunk.lines.toList ++ List.replicate bytes.length line
  := by
  induction bytes generalizing chunk with
  | nil => simp [appendBytes]
  | cons byte bytes ih => simp [appendBytes_cons, ih, appendByte, List.replicate_succ]

@[simp]
theorem constants_appendBytes (chunk : Chunk) (bytes : List UInt8) (line : Nat) :
  (chunk.appendBytes bytes line).constants = chunk.constants
  := by
  induction bytes generalizing chunk with
  | nil => rfl
  | cons byte bytes ih => rw [appendBytes_cons, ih, appendByte]

@[simp]
theorem indexWidth_appendBytes (chunk : Chunk) (bytes : List UInt8) (line : Nat) :
  (chunk.appendBytes bytes line).indexWidth = chunk.indexWidth
  := by
  induction bytes generalizing chunk with
  | nil => rfl
  | cons byte bytes ih => rw [appendBytes_cons, ih, appendByte]

theorem valid_lines_appendBytes {chunk : Chunk} (valid : chunk.lines.Valid)
    (bytes : List UInt8) (line : Nat) :
  (chunk.appendBytes bytes line).lines.Valid
  := by
  induction bytes generalizing chunk with
  | nil => exact valid
  | cons byte bytes ih =>
    rw [appendBytes_cons]
    apply ih
    apply valid.push

@[simp]
theorem length_appendBytes (chunk : Chunk) (bytes : List UInt8) (line : Nat) :
  (chunk.appendBytes bytes line).length = chunk.length + bytes.length
  := by
  rw [Chunk.length, Chunk.length, ← Array.length_toList, toList_code_appendBytes,
    List.length_append, Array.length_toList]

theorem getElem?_constants_pushConstant (chunk : Chunk) (value : Value) :
  (chunk.pushConstant value).constants[chunk.poolSize]? = some value
  := by
  simp [pushConstant, poolSize]

end Chunk

/-! ### Instructions that are emitted -/

namespace Instruction

/-- The instruction at an offset that loads the constant at an index, in the shorter form if
the index fits one byte. -/
def load (offset index : Nat) (value : Value) : Instruction :=
  { offset
    op := if index < Emit.byteLimit then .constant else .constantLong
    operand := .constant index value.text }

/-- The instruction at an offset that jumps over a distance. -/
def jumpOver (offset : Nat) (op : Op) (distance : Nat) : Instruction :=
  let stop := offset + op.shape.length
  { offset
    op
    operand :=
      .jump distance (if op.shape = .jumpForward then stop + distance else stop - distance) }

/-- A jump back over the distance from its own end to a start lands on the start. -/
theorem jumpOver_loop {offset start : Nat} (known : start ≤ offset) :
  jumpOver offset .loop (offset + 3 - start) = ⟨offset, .loop, .jump (offset + 3 - start) start⟩
  := by
  have target : offset + 3 - (offset + 3 - start) = start := by omega
  simp [jumpOver, Op.shape, Shape.length, target]

theorem fits_simple {op : Op} (shape : op.shape = .simple) (pool : Array Value) (offset : Nat) :
  Fits pool ⟨offset, op, .empty⟩
  := by
  rw [Fits, shape]
  apply Operand.Fits.empty

theorem fits_byte {op : Op} (shape : op.shape = .byte) (pool : Array Value) (offset : Nat)
    (operand : UInt8) :
  Fits pool ⟨offset, op, .byte operand⟩
  := by
  rw [Fits, shape]
  apply Operand.Fits.byte

theorem fits_constant {op : Op} (shape : op.shape = .constant) {pool : Array Value}
    {index : Nat} {value : Value} (narrow : index < Emit.byteLimit)
    (found : pool[index]? = some value) (offset : Nat) :
  Fits pool ⟨offset, op, .constant index value.text⟩
  := by
  rw [Fits, shape]
  apply Operand.Fits.constant rfl narrow found

theorem fits_load {pool : Array Value} {index : Nat} {value : Value}
    (narrow : index < IndexWidth.wide.poolLimit) (found : pool[index]? = some value)
    (offset : Nat) :
  (load offset index value).Fits pool
  := by
  by_cases short : index < Emit.byteLimit
  · rw [load, if_pos short]
    apply fits_constant rfl short found
  · rw [load, if_neg short]
    apply Operand.Fits.constant rfl narrow found

theorem fits_jumpOver {op : Op} (jumps : op.shape.isJump = true) {distance : Nat}
    (narrow : distance ≤ Emit.maxDistance) (pool : Array Value) (offset : Nat) :
  (jumpOver offset op distance).Fits pool
  := by
  have bound : distance < Nat.pow 256 2 := Nat.lt_succ_of_le narrow
  rw [jumpOver, Fits, nextOffset, Instruction.length]
  rcases Shape.eq_of_isJump jumps with shape | shape
  · rw [shape]
    apply Operand.Fits.forward bound
  · rw [shape]
    apply Operand.Fits.backward bound

end Instruction

/-- The chunk with one more instruction and, if there is one, one more constant. -/
def Chunk.extend (chunk : Chunk) (constant : Option Value) (instruction : Instruction)
    (line : Nat) : Chunk :=
  (constant.elim chunk chunk.pushConstant).appendBytes instruction.encode line

namespace Chunk

variable (chunk : Chunk) (constant : Option Value) (instruction : Instruction) (line : Nat)

@[simp]
theorem toList_code_extend :
  (chunk.extend constant instruction line).code.toList
    = chunk.code.toList ++ instruction.encode
  := by
  cases constant with
  | none => apply toList_code_appendBytes
  | some value => apply toList_code_appendBytes

/-- The code that is new is that of the instruction. -/
theorem drop_code_extend :
  (chunk.extend constant instruction line).code.toList.drop chunk.length = instruction.encode
  := by
  rw [toList_code_extend, length, ← Array.length_toList, List.drop_left]

@[simp]
theorem toList_lines_extend :
  (chunk.extend constant instruction line).lines.toList
    = chunk.lines.toList ++ List.replicate instruction.encode.length line
  := by
  cases constant with
  | none => apply toList_lines_appendBytes
  | some value => apply toList_lines_appendBytes

@[simp]
theorem constants_extend :
  (chunk.extend constant instruction line).constants.toList
    = chunk.constants.toList ++ constant.toList
  := by
  cases constant with
  | none => simp [extend]
  | some value => simp [extend, pushConstant]

theorem poolSize_extend :
  (chunk.extend constant instruction line).poolSize = chunk.poolSize + constant.toList.length
  := by
  rw [poolSize, poolSize, ← Array.length_toList, constants_extend, List.length_append,
    Array.length_toList]

theorem constants_extend_none :
  (chunk.extend none instruction line).constants = chunk.constants
  := chunk.constants_appendBytes instruction.encode line

theorem getElem?_constants_extend (value : Value) :
  (chunk.extend (some value) instruction line).constants[chunk.poolSize]? = some value
  := by
  rw [extend, constants_appendBytes]
  apply getElem?_constants_pushConstant

@[simp]
theorem indexWidth_extend :
  (chunk.extend constant instruction line).indexWidth = chunk.indexWidth
  := by
  cases constant with
  | none => apply indexWidth_appendBytes
  | some value => apply indexWidth_appendBytes

@[simp]
theorem length_extend :
  (chunk.extend constant instruction line).length = chunk.length + instruction.encode.length
  := by
  cases constant with
  | none => apply length_appendBytes
  | some value => apply length_appendBytes

variable {chunk} in
theorem valid_lines_extend (valid : chunk.lines.Valid) :
  (chunk.extend constant instruction line).lines.Valid
  := by
  cases constant with
  | none => apply valid_lines_appendBytes valid
  | some value =>
    have same : (chunk.pushConstant value).lines.Valid := valid
    apply valid_lines_appendBytes same

end Chunk

/-- The line table of the chunk is valid and has one line for every byte. -/
structure Chunk.Tracked (chunk : Chunk) : Prop where
  valid : chunk.lines.Valid
  length_eq : chunk.lines.toList.length = chunk.length

/-- In a tracked chunk the line of an offset is looked up in the list of lines. -/
theorem Chunk.Tracked.lineAt_eq {chunk : Chunk} (tracked : chunk.Tracked) (offset : Nat) :
  chunk.lineAt offset = chunk.lines.toList[offset]?
  := by
  rw [lineAt]
  by_cases inside : offset < chunk.length
  · rw [if_pos inside, tracked.valid.lineAt_eq]
  · rw [if_neg inside, List.getElem?_eq_none]
    rw [tracked.length_eq]
    omega

theorem Chunk.Tracked.extend {chunk : Chunk} (tracked : chunk.Tracked)
    (constant : Option Value) (instruction : Instruction) (line : Nat) :
  (chunk.extend constant instruction line).Tracked
  where
  valid := valid_lines_extend constant instruction line tracked.valid
  length_eq := by simp [tracked.length_eq]

/-- The bytes that an extension of a chunk adds are of the line it is given. -/
theorem Chunk.Tracked.lineAt_extend {chunk : Chunk} (tracked : chunk.Tracked)
    (constant : Option Value) (instruction : Instruction) (line : Nat) {offset : Nat}
    (beyond : chunk.length ≤ offset)
    (inside : offset < (chunk.extend constant instruction line).length) :
  (chunk.extend constant instruction line).lineAt offset = some line
  := by
  rw [length_extend] at inside
  rw [← tracked.length_eq] at beyond inside
  rw [(tracked.extend constant instruction line).lineAt_eq, toList_lines_extend,
    List.getElem?_append_right beyond, List.getElem?_replicate, if_pos (by omega)]

/-! ### Running the operations -/

namespace Emit

theorem run_poolEntry (value : Value) (chunk : Chunk) :
  (poolEntry value).run chunk =
    if chunk.indexWidth.poolLimit ≤ chunk.poolSize then
      .error (.operandOverflow .poolIndex chunk.poolSize chunk.indexWidth.poolLimit) chunk
    else
      .ok chunk.poolSize (chunk.pushConstant value)
  := by
  rw [poolEntry, EStateM.run_bind, EStateM.run_get]
  dsimp only
  rw [EStateM.run_bind, EStateM.run_get]
  dsimp only
  split <;> rfl

theorem run_simple (op : Op) (line : Nat) (chunk : Chunk) :
  (simple op line).run chunk =
    if op.shape = .simple then
      .ok () (chunk.extend none ⟨chunk.length, op, .empty⟩ line)
    else
      .error (.operandMismatch op) chunk
  := by
  rw [simple]
  split <;> rfl

theorem run_withByte (op : Op) (operand : UInt8) (line : Nat) (chunk : Chunk) :
  (withByte op operand line).run chunk =
    match op.shape with
    | .byte => .ok () (chunk.extend none ⟨chunk.length, op, .byte operand⟩ line)
    | .constant =>
      match chunk.constantAt operand.toNat with
      | some value =>
        .ok () (chunk.extend none ⟨chunk.length, op, .constant operand.toNat value.text⟩ line)
      | none => .error (.constantIndexOutOfRange operand.toNat chunk.poolSize) chunk
    | _ => .error (.operandMismatch op) chunk
  := by
  have bytes_eq : [operand] = BigEndian.bytes 1 operand.toNat := by simp [BigEndian.bytes]
  rw [withByte, EStateM.run_bind, EStateM.run_get]
  dsimp only
  cases shape : op.shape with
  | byte => rfl
  | constant =>
    dsimp only
    by_cases known : operand.toNat < chunk.poolSize
    · have found : chunk.constantAt operand.toNat = some chunk.constants[operand.toNat] :=
        Array.getElem?_eq_getElem known
      rw [if_pos known, found, bytes_eq]
      simp only [Chunk.extend, Instruction.encode, shape]
      rfl
    · have missing : chunk.constantAt operand.toNat = none :=
        Array.getElem?_eq_none (Nat.le_of_not_lt known)
      rw [if_neg known, missing]
      rfl
  | simple => rfl
  | constantLong => rfl
  | jumpForward => rfl
  | jumpBackward => rfl

theorem run_constant (value : Value) (line : Nat) (chunk : Chunk) :
  (constant value line).run chunk =
    if chunk.indexWidth.poolLimit ≤ chunk.poolSize then
      .error (.operandOverflow .poolIndex chunk.poolSize chunk.indexWidth.poolLimit) chunk
    else
      .ok chunk.poolSize
        (chunk.extend (some value) (.load chunk.length chunk.poolSize value) line)
  := by
  rw [constant, EStateM.run_bind, run_poolEntry]
  by_cases full : chunk.indexWidth.poolLimit ≤ chunk.poolSize
  · rw [if_pos full, if_pos full]
  · rw [if_neg full, if_neg full]
    simp only [Chunk.extend, Instruction.load]
    by_cases short : chunk.poolSize < byteLimit
    · rw [if_pos short, if_pos short]
      rfl
    · rw [if_neg short, if_neg short]
      rfl

/-- Every width has room for the indexes of one byte. -/
theorem byteLimit_le_poolLimit (width : IndexWidth) :
  byteLimit ≤ width.poolLimit
  := by
  cases width with
  | byte => decide
  | wide => decide

theorem poolLimit_le_wide (width : IndexWidth) :
  width.poolLimit ≤ IndexWidth.wide.poolLimit
  := by
  cases width with
  | byte => decide
  | wide => decide

/-- A name is put into the pool only if its index fits one byte, and then the instruction
that refers to it is emitted too. -/
theorem run_global {op : Op} (shape : op.shape = .constant) (name : Value) (line : Nat)
    (chunk : Chunk) :
  (global op name line).run chunk =
    if chunk.poolSize < byteLimit then
      .ok () (chunk.extend (some name)
        ⟨chunk.length, op, .constant chunk.poolSize name.text⟩ line)
    else
      .error (.operandOverflow .nameIndex chunk.poolSize byteLimit) chunk
  := by
  rw [global, EStateM.run_bind, EStateM.run_get]
  dsimp only
  by_cases short : chunk.poolSize < byteLimit
  -- An index of one byte has room in every pool, so neither step after the check can fail.
  · have room : ¬ chunk.indexWidth.poolLimit ≤ chunk.poolSize := by
      have := byteLimit_le_poolLimit chunk.indexWidth
      omega
    have index : (UInt8.ofNat chunk.poolSize).toNat = chunk.poolSize :=
      UInt8.toNat_ofNat_of_lt short
    rw [if_pos short, if_pos short, EStateM.run_bind, run_poolEntry, if_neg room]
    dsimp only
    rw [run_withByte, shape, index, Chunk.constantAt, chunk.getElem?_constants_pushConstant]
    rfl
  · rw [if_neg short, if_neg short]
    rfl

theorem run_jump (op : Op) (distance line : Nat) (chunk : Chunk) :
  (jump op distance line).run chunk =
    if !op.shape.isJump then
      .error (.operandMismatch op) chunk
    else if distance ≤ maxDistance then
      .ok () (chunk.extend none (.jumpOver chunk.length op distance) line)
    else
      .error (.operandOverflow (.distance op) distance maxDistance) chunk
  := by
  rw [jump]
  split
  · rfl
  · split <;> rfl

theorem run_loop (start line : Nat) (chunk : Chunk) :
  (loop start line).run chunk =
    if start ≤ chunk.length then
      (jump .loop (chunk.length + Op.loop.shape.length - start) line).run chunk
    else
      .error (.loopTargetOutOfRange start chunk.length) chunk
  := by
  rw [loop, EStateM.run_bind, EStateM.run_get]
  dsimp only
  split <;> rfl

/-! ### The two outcomes of an operation -/

variable {α β : Type}

/-- The operation fails and gives the chunk back as it was. -/
def Fails (operation : Emit α) (chunk : Chunk) : Prop :=
  ∃ error, operation.run chunk = .error error chunk

/-- The operation gives `result` and extends the chunk by an instruction that fits there and,
if there is one, by a constant. -/
structure Extends (operation : Emit α) (chunk : Chunk) (result : α) (constant : Option Value)
    (instruction : Instruction) (line : Nat) : Prop where
  run_eq : operation.run chunk = .ok result (chunk.extend constant instruction line)
  offset_eq : instruction.offset = chunk.length
  fits : instruction.Fits (chunk.extend constant instruction line).constants

theorem Fails.bind {operation : Emit α} {chunk : Chunk} (fails : operation.Fails chunk)
    (next : α → Emit β) :
  (operation >>= next).Fails chunk
  := by
  obtain ⟨error, run⟩ := fails
  use error
  rw [EStateM.run_bind, run]

theorem Extends.bind_pure {operation : Emit α} {chunk : Chunk} {result : α}
    {constant : Option Value} {instruction : Instruction} {line : Nat}
    (extended : operation.Extends chunk result constant instruction line) (f : α → β) :
  (operation >>= fun a => pure (f a)).Extends chunk (f result) constant instruction line
  where
  run_eq := by
    rw [EStateM.run_bind, extended.run_eq]
    rfl
  offset_eq := extended.offset_eq
  fits := extended.fits

/-- The chunk ends with the instruction that was emitted. -/
theorem Extends.length_extend {operation : Emit α} {chunk : Chunk} {result : α}
    {constant : Option Value} {instruction : Instruction} {line : Nat}
    (extended : operation.Extends chunk result constant instruction line) :
  (chunk.extend constant instruction line).length = instruction.nextOffset
  := by
  rw [Chunk.length_extend, Instruction.length_encode extended.fits, Instruction.nextOffset,
    extended.offset_eq]

/-- The instruction that was emitted is decoded where the chunk ended before, unless it jumps back
beyond the start of the code. -/
theorem Extends.decode_eq {operation : Emit α} {chunk : Chunk} {result : α}
    {constant : Option Value} {instruction : Instruction} {line : Nat}
    (extended : operation.Extends chunk result constant instruction line)
    (lands : instruction.Lands) :
  (chunk.extend constant instruction line).decode chunk.length = .ok instruction
  := by
  rw [Chunk.decode_eq_ok_iff]
  refine ⟨extended.offset_eq, extended.fits, lands, ?_⟩
  have added := Chunk.drop_code_extend chunk constant instruction line
  exact ⟨[], (List.append_nil _).trans added.symm⟩

theorem simple_cases (op : Op) (line : Nat) (chunk : Chunk) :
  (simple op line).Fails chunk
    ∨ op.shape = .simple
      ∧ (simple op line).Extends chunk () none ⟨chunk.length, op, .empty⟩ line
  := by
  have run := run_simple op line chunk
  by_cases shape : op.shape = .simple
  · right
    rw [if_pos shape] at run
    exact ⟨shape, run, rfl, Instruction.fits_simple shape _ _⟩
  · left
    rw [if_neg shape] at run
    exact ⟨_, run⟩

theorem withByte_cases (op : Op) (operand : UInt8) (line : Nat) (chunk : Chunk) :
  (withByte op operand line).Fails chunk
    ∨ (op.shape = .byte
      ∧ (withByte op operand line).Extends chunk () none
        ⟨chunk.length, op, .byte operand⟩ line)
    ∨ (op.shape = .constant ∧ ∃ value, chunk.constants[operand.toNat]? = some value
      ∧ (withByte op operand line).Extends chunk () none
        ⟨chunk.length, op, .constant operand.toNat value.text⟩ line)
  := by
  have run := run_withByte op operand line chunk
  cases shape : op.shape with
  | byte =>
    rw [shape] at run
    right
    left
    exact ⟨rfl, run, rfl, Instruction.fits_byte shape _ _ _⟩
  | constant =>
    rw [shape] at run
    cases found : chunk.constantAt operand.toNat with
    | none =>
      rw [found] at run
      left
      exact ⟨_, run⟩
    | some value =>
      rw [found] at run
      right
      right
      refine ⟨rfl, value, found, run, rfl, ?_⟩
      rw [Chunk.constants_extend_none]
      apply Instruction.fits_constant shape operand.toNat_lt found
  | simple =>
    rw [shape] at run
    exact .inl ⟨_, run⟩
  | constantLong =>
    rw [shape] at run
    exact .inl ⟨_, run⟩
  | jumpForward =>
    rw [shape] at run
    exact .inl ⟨_, run⟩
  | jumpBackward =>
    rw [shape] at run
    exact .inl ⟨_, run⟩

theorem constant_cases (value : Value) (line : Nat) (chunk : Chunk) :
  (constant value line).Fails chunk
    ∨ (constant value line).Extends chunk chunk.poolSize (some value)
      (.load chunk.length chunk.poolSize value) line
  := by
  have run := run_constant value line chunk
  by_cases full : chunk.indexWidth.poolLimit ≤ chunk.poolSize
  · left
    rw [if_pos full] at run
    exact ⟨_, run⟩
  · right
    rw [if_neg full] at run
    refine ⟨run, rfl, ?_⟩
    apply Instruction.fits_load _ (chunk.getElem?_constants_extend _ _ _)
    have := poolLimit_le_wide chunk.indexWidth
    omega

theorem global_cases {op : Op} (shape : op.shape = .constant) (name : Value) (line : Nat)
    (chunk : Chunk) :
  (global op name line).Fails chunk
    ∨ (global op name line).Extends chunk () (some name)
      ⟨chunk.length, op, .constant chunk.poolSize name.text⟩ line
  := by
  have run := run_global shape name line chunk
  by_cases short : chunk.poolSize < byteLimit
  · right
    rw [if_pos short] at run
    refine ⟨run, rfl, ?_⟩
    apply Instruction.fits_constant shape short (chunk.getElem?_constants_extend _ _ _)
  · left
    rw [if_neg short] at run
    exact ⟨_, run⟩

theorem jump_cases (op : Op) (distance line : Nat) (chunk : Chunk) :
  (jump op distance line).Fails chunk
    ∨ op.shape.isJump = true
      ∧ (jump op distance line).Extends chunk () none
        (.jumpOver chunk.length op distance) line
  := by
  have run := run_jump op distance line chunk
  cases jumps : op.shape.isJump with
  | false =>
    left
    rw [jumps] at run
    exact ⟨_, run⟩
  | true =>
    rw [jumps] at run
    by_cases narrow : distance ≤ maxDistance
    · right
      refine ⟨rfl, ?_, rfl, Instruction.fits_jumpOver jumps narrow _ _⟩
      simpa [narrow] using run
    · left
      rw [if_neg narrow] at run
      exact ⟨_, run⟩

/-- A loop has three outcomes: its start lies behind the code, the distance back to its start does
not fit two bytes, or it is emitted. -/
theorem loop_outcomes (start line : Nat) (chunk : Chunk) :
  (chunk.length < start
      ∧ (loop start line).run chunk = .error (.loopTargetOutOfRange start chunk.length) chunk)
    ∨ (start ≤ chunk.length ∧ maxDistance < chunk.length + 3 - start
      ∧ (loop start line).run chunk
        = .error (.operandOverflow (.distance .loop) (chunk.length + 3 - start) maxDistance) chunk)
    ∨ (start ≤ chunk.length ∧ chunk.length + 3 - start ≤ maxDistance
      ∧ (loop start line).Extends chunk () none
        (.jumpOver chunk.length .loop (chunk.length + 3 - start)) line)
  := by
  have run := run_loop start line chunk
  have jump_run := run_jump .loop (chunk.length + 3 - start) line chunk
  rw [if_neg (by decide)] at jump_run
  by_cases known : start ≤ chunk.length
  · right
    rw [if_pos known] at run
    replace run := run.trans jump_run
    by_cases short : chunk.length + 3 - start ≤ maxDistance
    · right
      rw [if_pos short] at run
      exact ⟨known, short, run, rfl, Instruction.fits_jumpOver rfl short _ _⟩
    · left
      rw [if_neg short] at run
      exact ⟨known, Nat.lt_of_not_le short, run⟩
  · left
    rw [if_neg known] at run
    exact ⟨Nat.lt_of_not_le known, run⟩

theorem loop_cases (start line : Nat) (chunk : Chunk) :
  (loop start line).Fails chunk
    ∨ start ≤ chunk.length
      ∧ (loop start line).Extends chunk () none
        (.jumpOver chunk.length .loop (chunk.length + 3 - start)) line
  := by
  rcases loop_outcomes start line chunk with ⟨-, run⟩ | ⟨-, -, run⟩ | ⟨known, -, extended⟩
  · exact .inl ⟨_, run⟩
  · exact .inl ⟨_, run⟩
  · exact .inr ⟨known, extended⟩

end Emit

end Bytecode
