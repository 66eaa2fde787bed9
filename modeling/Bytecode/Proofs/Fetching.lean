import Bytecode.Proofs.CursorRuns
import Bytecode.Proofs.DecodingRules

/-!
# Fetching instructions

A walk decodes every instruction with a cursor of its own. `Chunk.fetchAll` goes over the code with
a single cursor instead, which reads an opcode and then the number that stands as its operand, and
does not jump. It neither looks up constants nor follows jumps, so it does not notice what is wrong
with an index or a distance.

`Chunk.fetchAll_follows_walk` says that it sees the instructions of the walk all the same. What the
cursor remembers of an instruction does not matter to the next one: `Cursor.fetch` is described by
the position of the cursor alone.
-/

namespace Bytecode

/-- The width of the number that stands as operand, if there is one. -/
def Shape.operandWidth? : Shape → Option Cursor.Width
  | simple => none
  | byte => some .one
  | constant => some .one
  | constantLong => some .three
  | jumpForward => some .two
  | jumpBackward => some .two

theorem Shape.exists_operandWidth {shape : Shape} (refers : shape.referencesConstant = true) :
  ∃ width, shape.operandWidth? = some width
  := by
  rcases eq_of_referencesConstant refers with rfl | rfl
  · exact ⟨.one, rfl⟩
  · exact ⟨.three, rfl⟩

theorem Shape.length_eq (shape : Shape) :
  shape.length = 1 + shape.operandWidth?.elim 0 Cursor.Width.count
  := by
  cases shape <;> rfl

namespace Cursor

/-! ### One instruction -/

/-- Reads an opcode and the number that stands as its operand. -/
def fetch (code : Array UInt8) : Reading (Op × Option Nat) := do
  let op ← nextOp code
  match op.shape.operandWidth? with
  | none => return (op, none)
  | some width => return (op, some (← readNumber code width))

theorem run_fetch_of_unknown {code : Array UInt8} {cursor : Cursor} {byte : UInt8}
    (found : code[cursor.position]? = some byte) (nameless : ∀ op : Op, op.toByte ≠ byte) :
  (fetch code).run cursor = .error (.unknownOpcode cursor.position byte) cursor.begin
  := by
  have unknown : Op.ofByte? byte = none := by
    apply Option.eq_none_iff_forall_ne_some.mpr
    intro op known
    apply nameless op (Op.toByte_of_ofByte? known)
  rw [fetch, EStateM.run_bind, run_nextOp, found]
  simp only [unknown]

/-- Where an opcode stands, fetching goes on with its operand. -/
theorem run_fetch_of_found {code : Array UInt8} {cursor : Cursor} {op : Op}
    (found : code[cursor.position]? = some op.toByte) :
  (fetch code).run cursor =
    if cursor.position + op.shape.length ≤ code.size then
      .ok
        (op, op.shape.operandWidth?.map fun width =>
          BigEndian.value
            (code.extract (cursor.position + 1) (cursor.position + 1 + width.count)).toList)
        { position := cursor.position + op.shape.length
          start := cursor.position
          op := some op }
    else
      .error (.truncated cursor.position op.shape.length (code.size - cursor.position))
        { position := cursor.position + 1, start := cursor.position, op := some op }
  := by
  obtain ⟨inside, -⟩ := Array.getElem?_eq_some_iff.mp found
  have length := op.shape.length_eq
  rw [fetch, EStateM.run_bind, run_nextOp, found]
  simp only [Op.ofByte?_toByte]
  cases width_eq : op.shape.operandWidth? with
  | none =>
    rw [width_eq, Option.elim_none] at length
    rw [length, Nat.add_zero, if_pos (Nat.succ_le_of_lt inside)]
    rfl
  | some width =>
    rw [width_eq, Option.elim_some] at length
    simp only [EStateM.run_bind, run_readNumber]
    rw [length, ← Nat.add_assoc]
    by_cases room : cursor.position + 1 + width.count ≤ code.size
    · rw [if_pos room, if_pos room]
      rfl
    · rw [if_neg room, if_neg room, needed]
      simp only [length]

/-- Fetching an instruction moves the cursor on. -/
theorem position_lt_of_run_fetch {code : Array UInt8} {cursor next : Cursor}
    {fetched : Op × Option Nat} (ran : (fetch code).run cursor = .ok fetched next) :
  cursor.position < next.position
  := by
  cases found : code[cursor.position]? with
  | none =>
    rw [fetch, EStateM.run_bind, run_nextOp, found] at ran
    cases ran
  | some byte =>
    by_cases known : ∃ op : Op, op.toByte = byte
    · obtain ⟨op, rfl⟩ := known
      have positive := op.shape.length_pos
      rw [run_fetch_of_found found] at ran
      by_cases room : cursor.position + op.shape.length ≤ code.size
      · rw [if_pos room] at ran
        obtain ⟨-, rfl⟩ := EStateM.Result.ok.inj ran
        dsimp only
        omega
      · rw [if_neg room] at ran
        cases ran
    · rw [run_fetch_of_unknown found (not_exists.mp known)] at ran
      cases ran

/-- An instruction as a cursor fetches it. -/
structure Fetched where
  /-- Where the cursor began the instruction. -/
  offset : Nat
  op : Op
  /-- The number that stands as operand. -/
  operand : Option Nat
  /-- Where the cursor stood afterwards. -/
  stop : Nat
  deriving DecidableEq

/-- What a cursor fetches, and how that ends: with an error, or with the cursor at the end of the
code. -/
structure Fetching where
  items : List Fetched
  ending : Except DecodeError Cursor

/-- What is fetched when some items come before the others. -/
def Fetching.after (later : Fetching) (items : List Fetched) : Fetching where
  items := items ++ later.items
  ending := later.ending

/-- Fetches instructions up to the end of the code or the first error. -/
def fetchFrom (code : Array UInt8) (cursor : Cursor) : Fetching :=
  if cursor.isAtEnd code then
    { items := [], ending := .ok cursor }
  else
    match ran : (fetch code).run cursor with
    | .error error _ => { items := [], ending := .error error }
    | .ok (op, operand) next =>
      have := position_lt_of_run_fetch ran
      (fetchFrom code next).after [⟨cursor.position, op, operand, next.position⟩]
termination_by code.size - cursor.position
decreasing_by
  simp_all only [isAtEnd, decide_eq_true_eq]
  omega

theorem fetchFrom_of_end {code : Array UInt8} {cursor : Cursor}
    (at_end : code.size ≤ cursor.position) :
  fetchFrom code cursor = { items := [], ending := .ok cursor }
  := by
  rw [fetchFrom, isAtEnd, if_pos (decide_eq_true at_end)]

theorem fetchFrom_of_error {code : Array UInt8} {cursor after : Cursor} {error : DecodeError}
    (inside : cursor.position < code.size)
    (failed : (fetch code).run cursor = .error error after) :
  fetchFrom code cursor = { items := [], ending := .error error }
  := by
  rw [fetchFrom, if_neg (by simpa [isAtEnd] using inside)]
  split
  · next ran =>
    rw [failed] at ran
    obtain ⟨rfl, -⟩ := EStateM.Result.error.inj ran
    rfl
  · next ran =>
    rw [failed] at ran
    cases ran

theorem fetchFrom_of_ok {code : Array UInt8} {cursor next : Cursor} {op : Op}
    {operand : Option Nat} (inside : cursor.position < code.size)
    (fetched : (fetch code).run cursor = .ok (op, operand) next) :
  fetchFrom code cursor
    = (fetchFrom code next).after [⟨cursor.position, op, operand, next.position⟩]
  := by
  rw [fetchFrom, if_neg (by simpa [isAtEnd] using inside)]
  split
  · next ran =>
    rw [fetched] at ran
    cases ran
  · next ran =>
    rw [fetched] at ran
    cases ran
    rfl

end Cursor

/-! ### Instructions of the walk -/

/-- The number that stands as operand, if there is one. -/
def Operand.number? : Operand → Option Nat
  | empty => none
  | byte value => some value.toNat
  | constant index _ => some index
  | jump distance _ => some distance

/-- An instruction, without the text of its constant and the target of its jump. -/
def Instruction.fetched (instruction : Instruction) : Cursor.Fetched where
  offset := instruction.offset
  op := instruction.op
  operand := instruction.operand.number?
  stop := instruction.nextOffset

namespace Chunk

open Cursor (Fetched Fetching)

/-- Fetches the instructions of a chunk with one cursor. -/
def fetchAll (chunk : Chunk) : Fetching :=
  Cursor.fetchFrom chunk.code (Cursor.atOffset 0)

/-- How the cursor goes on where the walk of the instructions ends. -/
inductive EndsAs (chunk : Chunk) : Option DecodeError → Fetching → Prop
  /-- The cursor has reached the end of the code with the walk. -/
  | atEnd {cursor : Cursor} (at_end : cursor.isAtEnd chunk.code = true)
      (position_eq : cursor.position = chunk.length) :
      EndsAs chunk none { items := [], ending := .ok cursor }
  /-- The cursor fails with the same error. -/
  | unknown {offset : Nat} {byte : UInt8} :
      EndsAs chunk (some (.unknownOpcode offset byte))
        { items := [], ending := .error (.unknownOpcode offset byte) }
  | truncated {offset needed available : Nat} :
      EndsAs chunk (some (.truncated offset needed available))
        { items := [], ending := .error (.truncated offset needed available) }
  /-- The cursor fetches an instruction that refers to the missing constant, and goes on. -/
  | noConstant {offset index poolSize : Nat} {op : Op} {later : Fetching}
      (found : chunk.byteAt offset = some op.toByte)
      (refers : op.shape.referencesConstant = true) :
      EndsAs chunk (some (.constantIndexOutOfRange offset index poolSize))
        (later.after [⟨offset, op, some index, offset + op.shape.length⟩])
  /-- The cursor fetches the jump, and goes on. -/
  | tooFar {offset distance : Nat} {op : Op} {later : Fetching}
      (found : chunk.byteAt offset = some op.toByte) (shape : op.shape = .jumpBackward) :
      EndsAs chunk (some (.jumpOutOfRange offset distance))
        (later.after [⟨offset, op, some distance, offset + op.shape.length⟩])

/-- What is fetched where the instruction of an opcode stands. -/
def fetchedAt (chunk : Chunk) (offset : Nat) (op : Op) : Fetched where
  offset := offset
  op := op
  operand := op.shape.operandWidth?.map fun _ => chunk.operandAt offset op.shape
  stop := offset + op.shape.length

theorem fetchedAt_of_width {op : Op} {width : Cursor.Width}
    (width_eq : op.shape.operandWidth? = some width) (chunk : Chunk) (offset : Nat) :
  chunk.fetchedAt offset op
    = ⟨offset, op, some (chunk.operandAt offset op.shape), offset + op.shape.length⟩
  := by
  rw [fetchedAt, width_eq, Option.map_some]

/-- The bytes of the operand stand for the number that is the operand. -/
theorem HasWhole.value_extract {chunk : Chunk} {offset : Nat} {op : Op}
    (whole : chunk.HasWhole offset op) {width : Cursor.Width}
    (width_eq : op.shape.operandWidth? = some width) :
  BigEndian.value (chunk.code.extract (offset + 1) (offset + 1 + width.count)).toList
    = chunk.operandAt offset op.shape
  := by
  obtain ⟨bytes, rest, code, length⟩ := exists_operand_bytes whole.found whole.long
  have operand : chunk.code.toList.drop (offset + 1) = bytes ++ rest := by
    rw [← List.tail_drop, code, List.tail_cons]
  have count := op.shape.length_eq
  rw [width_eq, Option.elim_some, ← length, Nat.add_comm 1] at count
  rw [← Nat.succ.inj count, Cursor.extract_of_drop operand, operandAt_eq code length]

/-- An instruction that stands as a whole before a cursor is fetched, whatever the cursor
remembers. -/
theorem HasWhole.exists_fetchFrom {chunk : Chunk} {cursor : Cursor} {op : Op}
    (whole : chunk.HasWhole cursor.position op) :
  ∃ next : Cursor, next.position = cursor.position + op.shape.length
    ∧ Cursor.fetchFrom chunk.code cursor
      = (Cursor.fetchFrom chunk.code next).after [chunk.fetchedAt cursor.position op]
  := by
  obtain ⟨inside, -⟩ := Array.getElem?_eq_some_iff.mp whole.found
  have long : cursor.position + op.shape.length ≤ chunk.code.size := whole.long
  have fetched := Cursor.run_fetch_of_found whole.found
  rw [if_pos long] at fetched
  use { position := cursor.position + op.shape.length, start := cursor.position, op := some op }, rfl
  rw [Cursor.fetchFrom_of_ok inside fetched, fetchedAt]
  cases width_eq : op.shape.operandWidth? with
  | none => rfl
  | some width => rw [Option.map_some, Option.map_some, whole.value_extract width_eq]

/-- What is decoded stands there as a whole, with the number that stands there as its operand. -/
theorem Decodes.of_ok {chunk : Chunk} {offset : Nat} {instruction : Instruction}
    (decodes : chunk.Decodes offset (.ok instruction)) :
  chunk.HasWhole offset instruction.op
    ∧ instruction.offset = offset
    ∧ instruction.operand.number?
      = instruction.op.shape.operandWidth?.map fun _ =>
        chunk.operandAt offset instruction.op.shape
  := by
  cases decodes with
  | simple whole shape =>
    use whole, rfl
    rw [shape]
    rfl
  | byte whole shape operand =>
    use whole, rfl
    rw [shape, operandAt, digitAt, operand]
    rfl
  | constant whole refers found =>
    use whole, rfl
    rcases Shape.eq_of_referencesConstant refers with shape | shape
    · rw [shape]
      rfl
    · rw [shape]
      rfl
  | forward whole shape =>
    use whole, rfl
    rw [shape]
    rfl
  | backward whole shape lands =>
    use whole, rfl
    rw [shape]
    rfl

/-- Where an instruction is decoded, the cursor fetches it and goes on behind it. -/
theorem exists_fetchFrom_of_decode {chunk : Chunk} {cursor : Cursor} {instruction : Instruction}
    (decoded : chunk.decode cursor.position = .ok instruction) :
  ∃ next : Cursor, next.position = cursor.position + instruction.length
    ∧ Cursor.fetchFrom chunk.code cursor
      = (Cursor.fetchFrom chunk.code next).after [instruction.fetched]
  := by
  obtain ⟨whole, offset_eq, number_eq⟩ := (decode_eq_iff.mp decoded).of_ok
  obtain ⟨next, position_eq, fetched⟩ := whole.exists_fetchFrom
  use next, position_eq
  rw [fetched, fetchedAt, Instruction.fetched, Instruction.nextOffset, Instruction.length,
    offset_eq, number_eq]

/-- Where nothing is decoded, the cursor fails as well, or it fetches what is wrong. -/
theorem endsAs_of_decode_eq_error {chunk : Chunk} {cursor : Cursor} {error : DecodeError}
    (inside : cursor.position < chunk.length)
    (failed : chunk.decode cursor.position = .error error) :
  chunk.EndsAs (some error) (Cursor.fetchFrom chunk.code cursor)
  := by
  cases decode_eq_iff.mp failed with
  | outside beyond => exact absurd inside (Nat.not_lt_of_le beyond)
  | unknown found nameless =>
    rw [Cursor.fetchFrom_of_error inside (Cursor.run_fetch_of_unknown found nameless)]
    exact .unknown
  | cutOff found short =>
    have beyond : ¬ cursor.position + _ ≤ chunk.code.size := Nat.not_le_of_lt short
    have fails := Cursor.run_fetch_of_found found
    rw [if_neg beyond] at fails
    rw [Cursor.fetchFrom_of_error inside fails]
    exact .truncated
  | noConstant whole refers missing =>
    obtain ⟨width, width_eq⟩ := Shape.exists_operandWidth refers
    obtain ⟨next, -, fetched⟩ := whole.exists_fetchFrom
    rw [fetched, fetchedAt_of_width width_eq]
    exact .noConstant whole.found refers
  | @tooFar op whole shape beyond =>
    have width_eq : op.shape.operandWidth? = some .two := by
      rw [shape]
      rfl
    obtain ⟨next, -, fetched⟩ := whole.exists_fetchFrom
    rw [fetched, fetchedAt_of_width width_eq]
    exact .tooFar whole.found shape

/-- A cursor that stands where a walk starts follows it. -/
theorem fetchFrom_follows_walkFrom {chunk : Chunk} {offset : Nat} {cursor : Cursor}
    (inside : offset ≤ chunk.length) (position_eq : cursor.position = offset) :
  ∃ (instructions : List Instruction) (failure : Option DecodeError) (rest : Fetching),
    chunk.walkFrom offset = instructions.map .ok ++ failure.toList.map .error
    ∧ Cursor.fetchFrom chunk.code cursor = rest.after (instructions.map Instruction.fetched)
    ∧ chunk.EndsAs failure rest
  := by
  -- The walk goes on with a fresh cursor, and the cursor with what it remembers, so the induction
  -- is on the walk for every cursor that stands at the offset.
  fun_induction walkFrom chunk offset generalizing cursor with
  | case1 offset more instruction decoded ih =>
    obtain rfl := position_eq
    obtain ⟨whole, -⟩ := (decode_eq_iff.mp decoded).of_ok
    obtain ⟨next, next_eq, fetched⟩ := exists_fetchFrom_of_decode decoded
    obtain ⟨instructions, failure, rest, items, fetched_later, ends⟩ :=
      ih whole.long next_eq
    use instruction :: instructions, failure, rest
    refine ⟨?_, ?_, ends⟩
    · rw [items, List.map_cons, List.cons_append]
    · rw [fetched, fetched_later]
      rfl
  | case2 offset more error failed =>
    obtain rfl := position_eq
    use [], some error, Cursor.fetchFrom chunk.code cursor, rfl, rfl
    exact endsAs_of_decode_eq_error more failed
  | case3 offset done =>
    obtain rfl := position_eq
    have at_end : chunk.code.size ≤ cursor.position := Nat.le_of_not_lt done
    use [], none, Cursor.fetchFrom chunk.code cursor, rfl, rfl
    rw [Cursor.fetchFrom_of_end at_end]
    exact .atEnd (decide_eq_true at_end) (Nat.le_antisymm inside at_end)

/-- One cursor that fetches instruction after instruction sees what the walk sees. For every
instruction of the walk it fetches the same opcode and operand at the same offset and stands behind
the instruction then. Where the walk ends, the cursor is at the end of the code, or it fails with the
same error, or it has read the index or the distance that the error is about. -/
theorem fetchAll_follows_walk (chunk : Chunk) :
  ∃ (instructions : List Instruction) (failure : Option DecodeError) (rest : Fetching),
    chunk.walk = instructions.map .ok ++ failure.toList.map .error
    ∧ chunk.fetchAll = rest.after (instructions.map Instruction.fetched)
    ∧ chunk.EndsAs failure rest
  := fetchFrom_follows_walkFrom (Nat.zero_le _) rfl

/-- A walk ends at a loop that is too long, while the cursor reads it and goes on. -/
example :
  let chunk : Chunk := { code := #[0x17, 0x00, 0x09, 0x02] }
  chunk.walk = [.error (.jumpOutOfRange 0 9)]
    ∧ chunk.fetchAll.items = [⟨0, .loop, some 9, 3⟩, ⟨3, .pushNil, none, 4⟩]
  := by
  constructor
  · cbv
  · cbv

end Chunk

end Bytecode
