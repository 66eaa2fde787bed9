import Bytecode.Proofs.Scanning
import Bytecode.Proofs.Verdict

/-!
# The grammar of a line

Which lines are assembled, said without the reader. `Assembly.Takes` gives the operands that an
opcode takes and `Assembly.Refuses` gives those that it does not take, each with its fault. The
two cover all operands, `Assembly.takes_or_refuses`. `Assembly.assembleLine_iff_grammar` says
that exactly the lines of this grammar are assembled and which fault each other line has.
-/

namespace Bytecode

namespace Op

/-- The opcodes that load a constant. -/
def loads : List Op := [constant, constantLong]

/-- The opcodes on globals. -/
def globals : List Op := [defineGlobal, getGlobal, setGlobal]

/-- The opcodes that jump. -/
def jumps : List Op := [jump, jumpIfFalse, loop]

theorem kinds (op : Op) :
  op.shape = .simple ∨ op.shape = .byte ∨ op ∈ loads ∨ op ∈ globals ∨ op ∈ jumps
  := by
  cases op <;> decide

theorem isJump_of_mem_jumps {op : Op} (jumping : op ∈ jumps) :
  op.shape.isJump = true
  := by
  revert jumping
  cases op <;> decide

theorem eq_of_mem_loads {op : Op} (loading : op ∈ loads) :
  op = .constant ∨ op = .constantLong
  := by
  revert loading
  cases op <;> decide

theorem shape_of_mem_globals {op : Op} (global : op ∈ globals) :
  op.shape = .constant ∧ op ≠ .constant
  := by
  revert global
  cases op <;> decide

theorem shape_ne_simple {op : Op}
    (operand : op.shape = .byte ∨ op ∈ loads ∨ op ∈ globals ∨ op ∈ jumps) :
  op.shape ≠ .simple
  := by
  revert operand
  cases op <;> decide

end Op

namespace Assembly

open Text (Numeral)

/-- The opcode takes the operand, where the pool has this size and its indexes this width. -/
inductive Takes (op : Op) (poolSize : Nat) (width : IndexWidth) : Option (List Char) → Prop
  | simple (shape : op.shape = .simple) : Takes op poolSize width none
  | byte {text : List Char} {n : Nat} (shape : op.shape = .byte) (number : Numeral text n)
      (small : n ≤ 255) :
      Takes op poolSize width (some text)
  | constant {text : List Char} (loading : op ∈ Op.loads) (literal : Literal text)
      (room : poolSize < width.poolLimit) :
      Takes op poolSize width (some text)
  | global {text : List Char} (global : op ∈ Op.globals) (room : poolSize < 256) :
      Takes op poolSize width (some text)
  | jump {text : List Char} {n : Nat} (jumping : op ∈ Op.jumps) (number : Numeral text n)
      (short : n ≤ 65535) :
      Takes op poolSize width (some text)

/-- The opcode does not take the operand, and this is the fault. -/
inductive Refuses (op : Op) (poolSize : Nat) (width : IndexWidth) :
    Option (List Char) → Fault → Prop
  | missing (shape : op.shape ≠ .simple) :
      Refuses op poolSize width none (.missingOperand op)
  | unexpected {text : List Char} (shape : op.shape = .simple) :
      Refuses op poolSize width (some text) (.unexpectedOperand op)
  | noByte {text : List Char} (shape : op.shape = .byte) (bad : ∀ n, Numeral text n → 255 < n) :
      Refuses op poolSize width (some text) (.badOperand op (String.ofList text))
  | noLiteral {text : List Char} (loading : op ∈ Op.loads) (bad : ¬ Literal text) :
      Refuses op poolSize width (some text) (.badOperand op (String.ofList text))
  | noDistance {text : List Char} (jumping : op ∈ Op.jumps)
      (bad : ∀ n, Numeral text n → wordBound ≤ n) :
      Refuses op poolSize width (some text) (.badOperand op (String.ofList text))
  | poolFull {text : List Char} (loading : op ∈ Op.loads) (literal : Literal text)
      (full : width.poolLimit ≤ poolSize) :
      Refuses op poolSize width (some text)
        (.chunk (.operandOverflow .poolIndex poolSize width.poolLimit))
  | namesFull {text : List Char} (global : op ∈ Op.globals) (full : 256 ≤ poolSize) :
      Refuses op poolSize width (some text)
        (.chunk (.operandOverflow .nameIndex poolSize 256))
  | tooFar {text : List Char} {n : Nat} (jumping : op ∈ Op.jumps) (number : Numeral text n)
      (long : 65535 < n) (word : n < wordBound) :
      Refuses op poolSize width (some text)
        (.chunk (.operandOverflow (.distance op) n 65535))

/-- Every opcode takes an operand or refuses it. -/
theorem takes_or_refuses (op : Op) (poolSize : Nat) (width : IndexWidth)
    (operand : Option (List Char)) :
  Takes op poolSize width operand ∨ ∃ fault, Refuses op poolSize width operand fault
  := by
  cases operand with
  | none =>
    by_cases shape : op.shape = .simple
    · left
      exact .simple shape
    · right
      exact ⟨_, .missing shape⟩
  | some text =>
    rcases op.kinds with shape | shape | loading | global | jumping
    · right
      exact ⟨_, .unexpected shape⟩
    · by_cases number : ∃ n, Numeral text n ∧ n ≤ 255
      · obtain ⟨n, number, small⟩ := number
        left
        exact .byte shape number small
      · right
        exact ⟨_, .noByte shape (by simpa using number)⟩
    · by_cases literal : Literal text
      · by_cases room : poolSize < width.poolLimit
        · left
          exact .constant loading literal room
        · right
          exact ⟨_, .poolFull loading literal (Nat.le_of_not_lt room)⟩
      · right
        exact ⟨_, .noLiteral loading literal⟩
    · by_cases room : poolSize < 256
      · left
        exact .global global room
      · right
        exact ⟨_, .namesFull global (Nat.le_of_not_lt room)⟩
    · by_cases number : ∃ n, Numeral text n ∧ n < wordBound
      · obtain ⟨n, number, word⟩ := number
        by_cases short : n ≤ 65535
        · left
          exact .jump jumping number short
        · right
          exact ⟨_, .tooFar jumping number (Nat.lt_of_not_le short) word⟩
      · right
        exact ⟨_, .noDistance jumping (by simpa using number)⟩

/-! ### Operands that are taken and refused -/

/-- An operand that is taken is read as a statement that has no obstacle. -/
theorem Takes.exists_reads {op : Op} {poolSize : Nat} {width : IndexWidth}
    {operand : Option (List Char)} (takes : Takes op poolSize width operand) :
  ∃ statement, Statement.Reads op operand statement
    ∧ statement.obstacle? poolSize width = none
  := by
  cases takes with
  | simple shape => exact ⟨_, .simple shape, rfl⟩
  | byte shape number small =>
    exact ⟨_, .byte shape (Text.readNat?_eq_some_iff.mpr number) (Nat.lt_succ_of_le small), rfl⟩
  | constant loading literal room =>
    obtain ⟨value, read⟩ := literal.exists_value
    use .constant value, .constant (Op.eq_of_mem_loads loading) read
    rw [Statement.obstacle?, if_neg (Nat.not_le_of_lt room)]
  | @global text global room =>
    obtain ⟨shape, other⟩ := Op.shape_of_mem_globals global
    use .global op (readName text), .global shape other
    apply if_pos room
  | @jump text n jumping number short =>
    have read := Text.readNat?_eq_some_iff.mpr number
    have word : n < wordBound := Nat.lt_of_le_of_lt short (by decide)
    use .jump op n, .jump (Op.isJump_of_mem_jumps jumping) read word
    apply if_pos short

/-- An operand of which no statement is read is a bad operand. -/
theorem make_eq_badOperand {op : Op} {text : List Char} (shape : op.shape ≠ .simple)
    (unread : ∀ statement, ¬ Statement.Reads op (some text) statement) :
  Statement.make op (some text) = .error (.badOperand op (String.ofList text))
  := by
  rw [Statement.make, if_neg shape]
  cases read : readOperand? op text with
  | none => rfl
  | some statement => exact absurd (Statement.readOperand?_eq_some_iff.mp read) (unread statement)

/-- An operand that is refused makes no statement, or one that has an obstacle. -/
theorem Refuses.make_or_obstacle? {op : Op} {poolSize : Nat} {width : IndexWidth}
    {operand : Option (List Char)} {fault : Fault}
    (refuses : Refuses op poolSize width operand fault) :
  Statement.make op operand = .error fault
    ∨ ∃ statement error, Statement.Reads op operand statement
      ∧ statement.obstacle? poolSize width = some error ∧ fault = .chunk error
  := by
  cases refuses with
  | missing shape =>
    left
    rw [Statement.make, if_neg shape]
  | unexpected shape =>
    left
    rw [Statement.make, if_pos shape]
  | noByte shape bad =>
    left
    apply make_eq_badOperand (Op.shape_ne_simple (.inl shape))
    intro statement reads
    cases reads with
    | byte _ number small =>
      have large := bad _ (Text.readNat?_eq_some_iff.mp number)
      exact absurd small (Nat.not_lt_of_le large)
    | constant loads literal => rcases loads with rfl | rfl <;> cases shape
    | global shape' other =>
      rw [shape] at shape'
      cases shape'
    | jump jumps number small =>
      rw [shape] at jumps
      cases jumps
  | noLiteral loading bad =>
    left
    apply make_eq_badOperand (Op.shape_ne_simple (.inr (.inl loading)))
    intro statement reads
    have unread {value : Value} (literal : readLiteral? _ = some value) : False :=
      bad (isSome_readLiteral?_iff.mp (Option.isSome_of_eq_some literal))
    rcases Op.eq_of_mem_loads loading with rfl | rfl
    · cases reads with
      | byte shape number small => cases shape
      | constant loads literal => exact unread literal
      | global shape other => exact other rfl
      | jump jumps number small => cases jumps
    · cases reads with
      | byte shape number small => cases shape
      | constant loads literal => exact unread literal
      | global shape other => cases shape
      | jump jumps number small => cases jumps
  | noDistance jumping bad =>
    left
    apply make_eq_badOperand (Op.shape_ne_simple (.inr (.inr (.inr jumping))))
    have jumps := Op.isJump_of_mem_jumps jumping
    intro statement reads
    cases reads with
    | byte shape number small =>
      rw [shape] at jumps
      cases jumps
    | constant loads literal => rcases loads with rfl | rfl <;> cases jumps
    | global shape other =>
      rw [shape] at jumps
      cases jumps
    | jump _ number small =>
      have large := bad _ (Text.readNat?_eq_some_iff.mp number)
      exact absurd small (Nat.not_lt_of_le large)
  | poolFull loading literal full =>
    right
    obtain ⟨value, read⟩ := literal.exists_value
    use .constant value, .operandOverflow .poolIndex poolSize width.poolLimit
    exact ⟨.constant (Op.eq_of_mem_loads loading) read, if_pos full, rfl⟩
  | @namesFull text global full =>
    right
    obtain ⟨shape, other⟩ := Op.shape_of_mem_globals global
    use .global op (readName text), .operandOverflow .nameIndex poolSize 256
    exact ⟨.global shape other, if_neg (Nat.not_lt_of_le full), rfl⟩
  | @tooFar text n jumping number long word =>
    right
    use .jump op n, .operandOverflow (.distance op) n 65535
    refine ⟨?_, if_neg (Nat.not_le_of_lt long), rfl⟩
    exact .jump (Op.isJump_of_mem_jumps jumping) (Text.readNat?_eq_some_iff.mpr number) word

/-! ### The verdict on a line -/

section

variable {line name : List Char} {operand : Option (List Char)} {op : Op} {poolSize : Nat}
  {width : IndexWidth} (layout : splitLine line = some (name, operand))
  (known : Op.ofMnemonic? name = some op)

include layout known

theorem verdict_of_takes (takes : Takes op poolSize width operand) :
  ∃ statement, verdict poolSize width line = .ok (some statement)
  := by
  obtain ⟨statement, reads, free⟩ := takes.exists_reads
  use statement
  apply verdict_eq_some_iff.mpr
  exact ⟨Statement.read_eq_some_iff.mpr ⟨name, operand, op, layout, known, reads⟩, free⟩

theorem verdict_of_refuses {fault : Fault} (refuses : Refuses op poolSize width operand fault) :
  verdict poolSize width line = .error fault
  := by
  rcases refuses.make_or_obstacle? with made | ⟨statement, error, reads, blocked, rfl⟩
  · have read : Statement.read line = .error fault := by
      rw [Statement.read, layout]
      dsimp only
      rw [known]
      dsimp only
      rw [made]
      rfl
    rw [verdict, read]
  · have read := Statement.read_eq_some_iff.mpr ⟨name, operand, op, layout, known, reads⟩
    rw [verdict, read]
    dsimp only
    rw [blocked]

end

theorem verdict_of_blank {line : List Char} (layout : splitLine line = none) (poolSize : Nat)
    (width : IndexWidth) :
  verdict poolSize width line = .ok none
  := by
  rw [verdict, Statement.read_eq_none_iff.mpr layout]

theorem verdict_of_unknown {line name : List Char} {operand : Option (List Char)}
    (layout : splitLine line = some (name, operand)) (unknown : Op.ofMnemonic? name = none)
    (poolSize : Nat) (width : IndexWidth) :
  verdict poolSize width line = .error (.unknownMnemonic (String.ofList name))
  := by
  have read : Statement.read line = .error (.unknownMnemonic (String.ofList name)) := by
    rw [Statement.read, layout]
    dsimp only
    rw [unknown]
  rw [verdict, read]

/-- The fault of a line with a name and an operand: no opcode has the name, or the opcode that has
it refuses the operand. -/
inductive Faulty (poolSize : Nat) (width : IndexWidth) (name : List Char)
    (operand : Option (List Char)) : Fault → Prop
  | unknown (nameless : ∀ op : Op, ¬ op.Named name) :
      Faulty poolSize width name operand (.unknownMnemonic (String.ofList name))
  | refused {op : Op} {fault : Fault} (named : op.Named name)
      (refuses : Refuses op poolSize width operand fault) :
      Faulty poolSize width name operand fault

theorem verdict_of_faulty {line name : List Char} {operand : Option (List Char)}
    {poolSize : Nat} {width : IndexWidth} {fault : Fault}
    (layout : splitLine line = some (name, operand))
    (faulty : Faulty poolSize width name operand fault) :
  verdict poolSize width line = .error fault
  := by
  cases faulty with
  | unknown nameless =>
    apply verdict_of_unknown layout
    apply Option.eq_none_iff_forall_ne_some.mpr
    intro op known
    exact nameless op (Op.ofMnemonic?_eq_some_iff.mp known)
  | refused named refuses =>
    apply verdict_of_refuses layout (Op.ofMnemonic?_eq_some_iff.mpr named) refuses

/-- A name and an operand are taken by an opcode, or they have a fault. -/
theorem takes_or_faulty (poolSize : Nat) (width : IndexWidth) (name : List Char)
    (operand : Option (List Char)) :
  (∃ op : Op, op.Named name ∧ Takes op poolSize width operand)
    ∨ ∃ fault, Faulty poolSize width name operand fault
  := by
  by_cases named : ∃ op : Op, op.Named name
  · obtain ⟨op, named⟩ := named
    rcases takes_or_refuses op poolSize width operand with takes | ⟨fault, refuses⟩
    · left
      exact ⟨op, named, takes⟩
    · right
      exact ⟨fault, .refused named refuses⟩
  · right
    exact ⟨_, .unknown (not_exists.mp named)⟩

/-- What there is on a line: nothing, or an operand that is taken, or a fault. -/
theorem verdict_cases (poolSize : Nat) (width : IndexWidth) (line : List Char) :
  (splitLine line = none ∧ verdict poolSize width line = .ok none)
    ∨ (∃ name operand op statement, splitLine line = some (name, operand) ∧ op.Named name
      ∧ Takes op poolSize width operand ∧ verdict poolSize width line = .ok (some statement))
    ∨ ∃ name operand fault, splitLine line = some (name, operand)
      ∧ Faulty poolSize width name operand fault ∧ verdict poolSize width line = .error fault
  := by
  cases layout : splitLine line with
  | none =>
    left
    exact ⟨rfl, verdict_of_blank layout poolSize width⟩
  | some parts =>
    obtain ⟨name, operand⟩ := parts
    right
    rcases takes_or_faulty poolSize width name operand with ⟨op, named, takes⟩ | ⟨fault, faulty⟩
    · left
      obtain ⟨statement, found⟩ :=
        verdict_of_takes layout (Op.ofMnemonic?_eq_some_iff.mpr named) takes
      exact ⟨name, operand, op, statement, rfl, named, takes, found⟩
    · right
      exact ⟨name, operand, fault, rfl, faulty, verdict_of_faulty layout faulty⟩

section

variable {poolSize : Nat} {width : IndexWidth} {line : List Char}

theorem verdict_eq_none_iff :
  verdict poolSize width line = .ok none ↔ splitLine line = none
  := by
  constructor
  · intro found
    rcases verdict_cases poolSize width line with
      ⟨layout, -⟩ | ⟨_, _, _, _, -, -, -, other⟩ | ⟨_, _, _, -, -, other⟩
    · exact layout
    · rw [other] at found
      cases found
    · rw [other] at found
      cases found
  · intro layout
    apply verdict_of_blank layout

theorem exists_verdict_eq_some_iff :
  (∃ statement, verdict poolSize width line = .ok (some statement))
    ↔ ∃ name operand op, splitLine line = some (name, operand) ∧ op.Named name
      ∧ Takes op poolSize width operand
  := by
  constructor
  · rintro ⟨statement, found⟩
    rcases verdict_cases poolSize width line with
      ⟨-, other⟩ | ⟨name, operand, op, _, layout, named, takes, -⟩ | ⟨_, _, _, -, -, other⟩
    · rw [other] at found
      cases found
    · exact ⟨name, operand, op, layout, named, takes⟩
    · rw [other] at found
      cases found
  · rintro ⟨name, operand, op, layout, named, takes⟩
    apply verdict_of_takes layout (Op.ofMnemonic?_eq_some_iff.mpr named) takes

theorem verdict_eq_error_iff {fault : Fault} :
  verdict poolSize width line = .error fault
    ↔ ∃ name operand, splitLine line = some (name, operand)
      ∧ Faulty poolSize width name operand fault
  := by
  constructor
  · intro found
    rcases verdict_cases poolSize width line with
      ⟨-, other⟩ | ⟨_, _, _, _, -, -, -, other⟩ | ⟨name, operand, fault', layout, faulty, ruled⟩
    · rw [other] at found
      cases found
    · rw [other] at found
      cases found
    · obtain rfl := Except.error.inj (found.symm.trans ruled)
      exact ⟨name, operand, layout, faulty⟩
  · rintro ⟨name, operand, layout, faulty⟩
    apply verdict_of_faulty layout faulty

end

/-! ### All lines -/

/-- A line is laid out in one way, as nothing or as a name and perhaps an operand, which is then
not empty, and at most one opcode has the name. The line is passed over exactly if it is laid out
as nothing, it is assembled exactly if an opcode has the name and takes the operand, and else it
is refused with the fault that the name and the operand have. -/
theorem assembleLine_iff_grammar (text : String) (line : Nat) (chunk : Chunk) :
  ∃ layout, (∀ other, Layout text.toList other ↔ other = layout)
    ∧ (∀ name operand, layout = some (name, some operand) → operand ≠ [])
    ∧ (∀ name (op other : Op), op.Named name → other.Named name → op = other)
    ∧ ((∃ after, (assembleLine text line).run chunk = .ok none after) ↔ layout = none)
    ∧ ((∃ offset after, (assembleLine text line).run chunk = .ok (some offset) after)
      ↔ ∃ name operand op, layout = some (name, operand) ∧ op.Named name
        ∧ Takes op chunk.poolSize chunk.indexWidth operand)
    ∧ ∀ error, (∃ after, (assembleLine text line).run chunk = .error error after)
      ↔ error.line = line ∧ ∃ name operand, layout = some (name, operand)
        ∧ Faulty chunk.poolSize chunk.indexWidth name operand error.fault
  := by
  have blank := @verdict_eq_none_iff chunk.poolSize chunk.indexWidth text.toList
  use splitLine text.toList
  rw [← blank, ← exists_verdict_eq_some_iff, run_assembleLine]
  simp only [← verdict_eq_error_iff]
  refine ⟨?_, ?_, ?_, ?_⟩
  · intro other
    rw [← splitLine_eq_iff, eq_comm]
  · intro name operand layout
    apply (splitLine_eq_iff.mp layout).operand_ne_nil
  · intro name op other named named'
    rw [← Op.ofMnemonic?_eq_some_iff] at named named'
    exact Option.some.inj (named.symm.trans named')
  · cases verdict chunk.poolSize chunk.indexWidth text.toList with
    | error fault =>
      refine ⟨by simp, by simp, ?_⟩
      rintro ⟨number, other⟩
      simp [eq_comm]
    | ok found =>
      cases found with
      | none => simp
      | some statement => simp

end Assembly

end Bytecode
