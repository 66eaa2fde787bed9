import Bytecode.Assembly.Assembler
import Bytecode.Proofs.History

/-!
# Assembling a line

* `Assembly.Statement.Reads` gives the operands that each opcode takes, and
  `Assembly.Statement.make_eq_ok_iff` says that exactly these are read.
* `Assembly.assembleLine_cases` gives the three outcomes of a line: it fails, or it holds no
  statement, or it extends the chunk by the instruction of its statement.
* `Assembly.failure_changes_nothing` says that failing calls and failing lines leave the whole
  chunk as it was, and that a line adds no more than one instruction and one constant.
-/

namespace Bytecode.Assembly

namespace Statement

/-- `Reads op operand statement` says that the opcode, written with this operand, is the
statement. -/
inductive Reads (op : Op) : Option (List Char) → Statement → Prop
  | simple (shape : op.shape = .simple) : Reads op none (.simple op)
  | byte {text : List Char} {n : Nat} (shape : op.shape = .byte)
      (number : Text.readNat? text = some n) (small : n < byteBound) :
      Reads op (some text) (.byte op (UInt8.ofNat n))
  | constant {text : List Char} {value : Value} (loads : op = .constant ∨ op = .constantLong)
      (literal : readLiteral? text = some value) :
      Reads op (some text) (.constant value)
  | global {text : List Char} (shape : op.shape = .constant) (other : op ≠ .constant) :
      Reads op (some text) (.global op (readName text))
  | jump {text : List Char} {distance : Nat} (jumps : op.shape.isJump = true)
      (number : Text.readNat? text = some distance) (small : distance < wordBound) :
      Reads op (some text) (.jump op distance)

theorem readBelow?_eq_some_iff {bound n : Nat} {text : List Char} :
  readBelow? bound text = some n ↔ Text.readNat? text = some n ∧ n < bound
  := by
  simp [readBelow?, Option.filter_eq_some_iff]

/-- The operands that an opcode with an operand takes. -/
theorem readOperand?_eq_some_iff {op : Op} {text : List Char} {statement : Statement} :
  readOperand? op text = some statement ↔ Reads op (some text) statement
  := by
  constructor
  · intro read
    rw [readOperand?] at read
    cases shape : op.shape with
    | simple =>
      rw [shape] at read
      cases read
    | byte =>
      rw [shape] at read
      obtain ⟨n, below, rfl⟩ := Option.map_eq_some_iff.mp read
      obtain ⟨number, small⟩ := readBelow?_eq_some_iff.mp below
      exact .byte shape number small
    | constant =>
      rw [shape] at read
      dsimp only at read
      by_cases loads : op = .constant
      · rw [if_pos loads] at read
        obtain ⟨value, literal, rfl⟩ := Option.map_eq_some_iff.mp read
        exact .constant (.inl loads) literal
      · rw [if_neg loads] at read
        obtain rfl := Option.some.inj read
        exact .global shape loads
    | constantLong =>
      rw [shape] at read
      obtain ⟨value, literal, rfl⟩ := Option.map_eq_some_iff.mp read
      exact .constant (.inr (Op.eq_constantLong_of_shape shape)) literal
    | jumpForward =>
      rw [shape] at read
      obtain ⟨distance, below, rfl⟩ := Option.map_eq_some_iff.mp read
      obtain ⟨number, small⟩ := readBelow?_eq_some_iff.mp below
      exact .jump (by rw [shape]; rfl) number small
    | jumpBackward =>
      rw [shape] at read
      obtain ⟨distance, below, rfl⟩ := Option.map_eq_some_iff.mp read
      obtain ⟨number, small⟩ := readBelow?_eq_some_iff.mp below
      exact .jump (by rw [shape]; rfl) number small
  · intro reads
    rw [readOperand?]
    cases reads with
    | byte shape number small =>
      rw [shape]
      simp [readBelow?_eq_some_iff.mpr ⟨number, small⟩]
    | constant loads literal =>
      rcases loads with rfl | rfl
      · simp [Op.shape, literal]
      · simp [Op.shape, literal]
    | global shape other =>
      rw [shape]
      simp [other]
    | jump jumps number small =>
      have below := readBelow?_eq_some_iff.mpr ⟨number, small⟩
      rcases Shape.eq_of_isJump jumps with shape | shape
      · rw [shape]
        simp [below]
      · rw [shape]
        simp [below]

/-- No operand is read for an opcode that takes none. -/
theorem readOperand?_of_simple {op : Op} (shape : op.shape = .simple) (text : List Char) :
  readOperand? op text = none
  := by
  rw [readOperand?, shape]

/-- The statements that are made of an opcode and an operand. -/
theorem make_eq_ok_iff {op : Op} {operand : Option (List Char)} {statement : Statement} :
  make op operand = .ok statement ↔ Reads op operand statement
  := by
  cases operand with
  | none =>
    rw [make]
    constructor
    · intro made
      split at made
      · next shape =>
        cases made
        exact .simple shape
      · cases made
    · intro reads
      cases reads with
      | simple shape => rw [if_pos shape]
  | some text =>
    rw [make, ← readOperand?_eq_some_iff]
    by_cases shape : op.shape = .simple
    · simp [shape, readOperand?_of_simple shape]
    · rw [if_neg shape]
      cases readOperand? op text with
      | none => simp
      | some other => simp

/-! ### Emitting a statement -/

/-- The constant that a statement puts into the pool. -/
def constant? : Statement → Option Value
  | constant value => some value
  | global _ name => some name
  | _ => none

/-- The instruction of a statement, at an offset, when the next constant of the pool gets the
given index. -/
def instruction (offset index : Nat) : Statement → Instruction
  | simple op => ⟨offset, op, .empty⟩
  | byte op operand => ⟨offset, op, .byte operand⟩
  | constant value => .load offset index value
  | global op name => ⟨offset, op, .constant index name.text⟩
  | jump op distance => .jumpOver offset op distance

/-- Emitting a statement fails and gives the chunk back, or extends the chunk by the
instruction and the constant of the statement. -/
theorem emit_cases {op : Op} {operand : Option (List Char)} {statement : Statement}
    (reads : Reads op operand statement) (line : Nat) (chunk : Chunk) :
  (statement.emit line).Fails chunk
    ∨ (statement.emit line).Extends chunk () statement.constant?
      (statement.instruction chunk.length chunk.poolSize) line
  := by
  cases reads with
  | simple shape =>
    rcases Emit.simple_cases op line chunk with fails | ⟨-, extended⟩
    · left
      exact fails
    · right
      exact extended
  | byte shape number small =>
    rcases Emit.withByte_cases op _ line chunk with fails | ⟨-, extended⟩ | ⟨refers, -⟩
    · left
      exact fails
    · right
      exact extended
    · rw [shape] at refers
      cases refers
  | constant loads literal =>
    rcases Emit.constant_cases _ line chunk with fails | extended
    · left
      apply fails.bind
    · right
      apply extended.bind_pure
  | global shape other => apply Emit.global_cases shape
  | jump jumps number small =>
    rcases Emit.jump_cases op _ line chunk with fails | ⟨-, extended⟩
    · left
      exact fails
    · right
      exact extended

/-! ### Reading a line -/

theorem read_eq_none_iff {line : List Char} :
  read line = .ok none ↔ splitLine line = none
  := by
  rw [read]
  cases splitLine line with
  | none => simp
  | some parts =>
    obtain ⟨name, operand⟩ := parts
    cases known : Op.ofMnemonic? name with
    | none => simp [known]
    | some op =>
      cases made : make op operand with
      | error fault => simp [Except.map, known, made]
      | ok statement => simp [Except.map, known, made]

/-- The statement of a line is that of its name and its operand. -/
theorem read_eq_some_iff {line : List Char} {statement : Statement} :
  read line = .ok (some statement)
    ↔ ∃ name operand op, splitLine line = some (name, operand)
      ∧ Op.ofMnemonic? name = some op ∧ Reads op operand statement
  := by
  simp only [← make_eq_ok_iff]
  rw [read]
  cases splitLine line with
  | none => simp
  | some parts =>
    obtain ⟨name, operand⟩ := parts
    cases known : Op.ofMnemonic? name with
    | none => simp [known]
    | some op =>
      cases made : make op operand with
      | error fault => simp [Except.map, known, made]
      | ok other => simp [Except.map, known, made]

end Statement

/-- A line fails and gives the chunk back, or it holds no statement and changes nothing, or it
extends the chunk by the instruction and the constant of its statement. -/
theorem assembleLine_cases (text : String) (line : Nat) (chunk : Chunk) :
  (∃ error, (assembleLine text line).run chunk = .error error chunk)
    ∨ (splitLine text.toList = none ∧ (assembleLine text line).run chunk = .ok none chunk)
    ∨ ∃ name operand op statement, splitLine text.toList = some (name, operand)
      ∧ Op.ofMnemonic? name = some op ∧ Statement.Reads op operand statement
      ∧ (statement.emit line).Extends chunk () statement.constant?
        (statement.instruction chunk.length chunk.poolSize) line
      ∧ (assembleLine text line).run chunk = .ok (some chunk.length)
        (chunk.extend statement.constant? (statement.instruction chunk.length chunk.poolSize)
          line)
  := by
  rw [assembleLine]
  cases read : Statement.read text.toList with
  | error fault =>
    left
    exact ⟨_, rfl⟩
  | ok found =>
    cases found with
    | none =>
      right
      left
      exact ⟨Statement.read_eq_none_iff.mp read, rfl⟩
    | some statement =>
      obtain ⟨name, operand, op, split, known, reads⟩ := Statement.read_eq_some_iff.mp read
      dsimp only
      rw [EStateM.run_bind, EStateM.run_get]
      dsimp only
      rw [EStateM.run_bind, EStateM.run_adaptExcept]
      rcases Statement.emit_cases reads line chunk with ⟨error, run⟩ | extended
      · left
        rw [run]
        exact ⟨_, rfl⟩
      · right
        right
        use name, operand, op, statement, split, known, reads, extended
        rw [extended.run_eq]
        rfl

/-! ### Failing and growing -/

/-- The later chunk has one instruction more, whose bytes are all of one line, and at most one
constant more. -/
structure Gains (chunk later : Chunk) (op : Op) (operand : List UInt8) (line : Nat) : Prop where
  length_eq : operand.length + 1 = op.shape.length
  code_eq : later.code.toList = chunk.code.toList ++ op.toByte :: operand
  lines_eq : later.lines.toList = chunk.lines.toList ++ List.replicate op.shape.length line
  lineAt_eq :
    chunk.Tracked → ∀ offset, chunk.length ≤ offset → offset < later.length →
      later.lineAt offset = some line
  constants_eq :
    ∃ constant : Option Value,
      later.constants.toList = chunk.constants.toList ++ constant.toList
  indexWidth_eq : later.indexWidth = chunk.indexWidth

theorem gains_extend {chunk : Chunk} {constant : Option Value} {instruction : Instruction}
    {line : Nat}
    (fits : instruction.Fits (chunk.extend constant instruction line).constants) :
  Gains chunk (chunk.extend constant instruction line) instruction.op
    (Instruction.operandBytes instruction.op.shape instruction.operand) line
  where
  length_eq := Instruction.length_encode fits
  code_eq := by
    rw [Chunk.toList_code_extend]
    rfl
  lines_eq := by
    rw [Chunk.toList_lines_extend, Instruction.length_encode fits]
    rfl
  lineAt_eq := by
    intro tracked offset beyond inside
    apply tracked.lineAt_extend _ _ _ beyond inside
  constants_eq := ⟨constant, Chunk.constants_extend _ _ _ _⟩
  indexWidth_eq := Chunk.indexWidth_extend _ _ _ _

/-- Failing calls and failing lines leave the chunk as it was, and so do lines without a
statement. Every other line adds one instruction, at the end of the code, and no more than one
constant. -/
theorem failure_changes_nothing (chunk : Chunk) :
  (∀ (call : Call) error after, call.make.run chunk = .error error after → after = chunk)
    ∧ ∀ text line,
      (∀ error after, (assembleLine text line).run chunk = .error error after → after = chunk)
      ∧ (∀ after, (assembleLine text line).run chunk = .ok none after → after = chunk)
      ∧ ∀ offset after, (assembleLine text line).run chunk = .ok (some offset) after →
        offset = chunk.length ∧ ∃ op operand, Gains chunk after op operand line
  := by
  constructor
  · intro call error after run
    rcases call.make_cases chunk with
      ⟨_, failed⟩ | ⟨_, -, pushed⟩ | ⟨_, _, _, _, -, extended, -⟩
    · rw [failed] at run
      cases run
      rfl
    · rw [pushed] at run
      cases run
    · rw [extended.run_eq] at run
      cases run
  · intro text line
    rcases assembleLine_cases text line chunk with
      ⟨_, result⟩ | ⟨-, result⟩ | ⟨_, _, _, _, -, -, -, extended, result⟩
    · simp [result]
    · simp [result]
    · have gains := gains_extend extended.fits
      simp only [result]
      refine ⟨?_, ?_, ?_⟩
      · intro error after run
        cases run
      · intro after run
        cases run
      · intro offset after run
        cases run
        exact ⟨rfl, _, _, gains⟩

end Bytecode.Assembly
