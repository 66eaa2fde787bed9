import Bytecode.Proofs.Grammar

/-!
# The two widths

Assembling with narrow indexes is a restriction of assembling with wide ones. The width matters at
one place only: a line that loads a constant when the pool is full for the narrow width,
`Assembly.verdict_wide_cases`. `Assembly.assemble_restricts` compares the two results for a whole
source text.
-/

namespace Bytecode

/-! ### Chunks of another width -/

namespace Chunk

/-- The chunk with another index width. -/
def withWidth (chunk : Chunk) (width : IndexWidth) : Chunk :=
  { chunk with indexWidth := width }

theorem withWidth_withWidth {chunk : Chunk} {width : IndexWidth}
    (width_eq : chunk.indexWidth = width) (other : IndexWidth) :
  (chunk.withWidth other).withWidth width = chunk
  := by
  rw [← width_eq]
  rfl

theorem withWidth_appendBytes (chunk : Chunk) (width : IndexWidth) (bytes : List UInt8)
    (line : Nat) :
  (chunk.appendBytes bytes line).withWidth width
    = (chunk.withWidth width).appendBytes bytes line
  := by
  induction bytes generalizing chunk with
  | nil => rfl
  | cons byte bytes ih =>
    rw [appendBytes_cons, ih]
    rfl

theorem withWidth_extend (chunk : Chunk) (width : IndexWidth) (constant : Option Value)
    (instruction : Instruction) (line : Nat) :
  (chunk.extend constant instruction line).withWidth width
    = (chunk.withWidth width).extend constant instruction line
  := by
  rw [extend, withWidth_appendBytes]
  cases constant with
  | none => rfl
  | some value => rfl

/-- The pool of the chunk is not larger than its width allows. -/
def Bounded (chunk : Chunk) : Prop :=
  chunk.poolSize ≤ chunk.indexWidth.poolLimit

end Chunk

namespace Assembly

theorem withWidth_absorb (line : Nat) (chunk : Chunk) (found : Option Statement)
    (width : IndexWidth) :
  (absorb line chunk found).withWidth width = absorb line (chunk.withWidth width) found
  := by
  cases found with
  | none => rfl
  | some statement => apply Chunk.withWidth_extend

@[simp]
theorem indexWidth_absorb (line : Nat) (chunk : Chunk) (found : Option Statement) :
  (absorb line chunk found).indexWidth = chunk.indexWidth
  := by
  cases found with
  | none => rfl
  | some statement => apply Chunk.indexWidth_extend

/-! ### The bound on the pool -/

/-- Only a statement for which the pool has room adds a constant. -/
theorem Statement.poolSize_lt {statement : Statement} {poolSize : Nat} {width : IndexWidth}
    (free : statement.obstacle? poolSize width = none) {value : Value}
    (adds : statement.constant? = some value) :
  poolSize < width.poolLimit
  := by
  cases statement with
  | simple op => cases adds
  | byte op operand => cases adds
  | constant value =>
    rw [obstacle?] at free
    by_contra full
    rw [if_pos (Nat.le_of_not_lt full)] at free
    cases free
  | global op name =>
    rw [obstacle?] at free
    apply Nat.lt_of_lt_of_le _ (Emit.byteLimit_le_poolLimit width)
    by_contra full
    rw [if_neg full] at free
    cases free
  | jump op distance => cases adds

/-- A line that is assembled keeps the bound on the pool. -/
theorem bounded_absorb {chunk : Chunk} (bounded : chunk.Bounded) {text : List Char}
    {found : Option Statement}
    (passed : verdict chunk.poolSize chunk.indexWidth text = .ok found) (line : Nat) :
  (absorb line chunk found).Bounded
  := by
  cases found with
  | none => exact bounded
  | some statement =>
    obtain ⟨-, free⟩ := verdict_eq_some_iff.mp passed
    rw [Chunk.Bounded, indexWidth_absorb, absorb, Option.elim_some, Statement.place,
      Chunk.poolSize_extend]
    cases adds : statement.constant? with
    | none => exact bounded
    | some value => exact Statement.poolSize_lt free adds

/-- Lines that are assembled keep the width and the bound on the pool. -/
theorem bounded_assembleLines {texts : List String} {first : Nat} {chunk after : Chunk}
    (run : (assembleLines texts first).run chunk = .ok () after) (bounded : chunk.Bounded) :
  after.Bounded ∧ after.indexWidth = chunk.indexWidth
  := by
  induction texts generalizing first chunk with
  | nil =>
    cases run
    exact ⟨bounded, rfl⟩
  | cons text rest ih =>
    obtain ⟨found, passed, run⟩ := verdict_of_run_cons run
    obtain ⟨bounded, width_eq⟩ := ih run (bounded_absorb bounded passed first)
    use bounded
    rw [width_eq, indexWidth_absorb]

/-! ### One line in two widths -/

/-- The line loads a constant: it has the name of an opcode that does so, and a literal. -/
def Loads (line : List Char) : Prop :=
  ∃ name operand op, Layout line (some (name, some operand)) ∧ op.Named name ∧ op ∈ Op.loads
    ∧ Literal operand

theorem loads_of_read {line : List Char} {value : Value}
    (read : Statement.read line = .ok (some (.constant value))) :
  Loads line
  := by
  obtain ⟨name, operand, op, split, known, reads⟩ := Statement.read_eq_some_iff.mp read
  cases reads with
  | @constant text _ loads literal =>
    use name, text, op, splitLine_eq_iff.mp split, Op.ofMnemonic?_eq_some_iff.mp known
    refine ⟨?_, isSome_readLiteral?_iff.mp (Option.isSome_of_eq_some literal)⟩
    rcases loads with rfl | rfl
    · decide
    · decide

/-- Whether a constant is loaded depends on the room in the pool. -/
theorem Loads.verdict_eq {line : List Char} (loads : Loads line) (poolSize : Nat)
    (width : IndexWidth) :
  (poolSize < width.poolLimit
      ∧ ∃ value, verdict poolSize width line = .ok (some (.constant value)))
    ∨ (width.poolLimit ≤ poolSize ∧ verdict poolSize width line
      = .error (.chunk (.operandOverflow .poolIndex poolSize width.poolLimit)))
  := by
  obtain ⟨name, operand, op, layout, named, loading, literal⟩ := loads
  have split := splitLine_eq_iff.mpr layout
  have known := Op.ofMnemonic?_eq_some_iff.mpr named
  by_cases room : poolSize < width.poolLimit
  · left
    use room
    obtain ⟨value, value_eq⟩ := literal.exists_value
    use value
    apply verdict_eq_some_iff.mpr
    constructor
    · apply Statement.read_eq_some_iff.mpr
      use name, some operand, op, split, known
      exact .constant (Op.eq_of_mem_loads loading) value_eq
    · rw [Statement.obstacle?, if_neg (Nat.not_le_of_lt room)]
  · right
    have full := Nat.le_of_not_lt room
    exact ⟨full, verdict_of_refuses split known (.poolFull loading literal full)⟩

/-- The width matters only where a constant is loaded into a pool that is full for narrow
indexes. -/
theorem verdict_wide_cases (poolSize : Nat) (line : List Char) :
  verdict poolSize .wide line = verdict poolSize .byte line
    ∨ (Loads line ∧ 256 ≤ poolSize)
  := by
  rw [verdict, verdict]
  cases read : Statement.read line with
  | error fault => exact .inl rfl
  | ok found =>
    cases found with
    | none => exact .inl rfl
    | some statement =>
      cases statement with
      | simple op => exact .inl rfl
      | byte op operand => exact .inl rfl
      | constant value =>
        by_cases full : 256 ≤ poolSize
        · right
          exact ⟨loads_of_read read, full⟩
        · left
          have narrow : ¬ IndexWidth.byte.poolLimit ≤ poolSize := full
          have wide : ¬ IndexWidth.wide.poolLimit ≤ poolSize := by
            intro full_wide
            exact full (Nat.le_trans (by decide) full_wide)
          dsimp only [Statement.obstacle?]
          rw [if_neg narrow, if_neg wide]
      | global op name => exact .inl rfl
      | jump op distance => exact .inl rfl

/-- What is found with narrow indexes is found with wide ones. -/
theorem verdict_wide_of_byte {poolSize : Nat} {line : List Char} {found : Option Statement}
    (passed : verdict poolSize .byte line = .ok found) :
  verdict poolSize .wide line = .ok found
  := by
  rcases verdict_wide_cases poolSize line with same | ⟨loads, full⟩
  · rw [same, passed]
  · rcases loads.verdict_eq poolSize .byte with ⟨room, -⟩ | ⟨-, refused⟩
    · exact absurd room (Nat.not_lt_of_le full)
    · rw [refused] at passed
      cases passed

/-! ### Many lines in two widths -/

/-- Lines that are assembled with narrow indexes are assembled with wide ones, too, to the same
code, lines and constants. -/
theorem run_assembleLines_wide {texts : List String} {first : Nat} {chunk after : Chunk}
    (narrow : chunk.indexWidth = .byte)
    (run : (assembleLines texts first).run chunk = .ok () after) :
  (assembleLines texts first).run (chunk.withWidth .wide) = .ok () (after.withWidth .wide)
  := by
  induction texts generalizing first chunk with
  | nil =>
    cases run
    rfl
  | cons text rest ih =>
    obtain ⟨found, passed, run⟩ := verdict_of_run_cons run
    rw [narrow] at passed
    have passed_wide : verdict (chunk.withWidth .wide).poolSize
        (chunk.withWidth .wide).indexWidth text.toList = .ok found :=
      verdict_wide_of_byte passed
    rw [run_assembleLines_cons, passed_wide]
    dsimp only
    rw [← withWidth_absorb]
    apply ih _ run
    rw [indexWidth_absorb, narrow]

/-- The line of this number is the first that cannot be assembled with narrow indexes, since it
loads a constant when the pool has 256 entries. -/
def Overfills (source : String) (number : Nat) : Prop :=
  ∃ before text rest chunk, sourceLines source = before ++ text :: rest
    ∧ number = before.length + 1
    ∧ (assembleLines before 1).run (Chunk.empty .byte) = .ok () chunk
    ∧ chunk.poolSize = 256 ∧ Loads text.toList

/-- Lines that cannot all be assembled have an error on one of them. -/
theorem first_le_line {texts : List String} {first : Nat} {chunk after : Chunk}
    {error : AssemblyError} (run : (assembleLines texts first).run chunk = .error error after) :
  first ≤ error.line
  := by
  obtain ⟨before, _, _, -, -, number, -⟩ := exists_failing_line run
  rw [number]
  apply Nat.le_add_right

theorem poolSize_le_of_assembleLines {texts : List String} {first : Nat} {chunk after : Chunk}
    (run : (assembleLines texts first).run chunk = .ok () after) :
  chunk.poolSize ≤ after.poolSize
  := by
  obtain ⟨_, _, _, adds⟩ := adds_assembleLines run
  have grown := adds.grows.constants_isPrefix.length_le
  rw [Array.length_toList, Array.length_toList] at grown
  exact grown

section

variable {source text : String} {before rest : List String} {chunk : Chunk}
  (lines_eq : sourceLines source = before ++ text :: rest)
  (assembled : (assembleLines before 1).run (Chunk.empty .byte) = .ok () chunk)

include lines_eq assembled

/-- Whether a line overfills the pool is seen on the chunk of the lines before it. -/
theorem overfills_iff :
  Overfills source (1 + before.length) ↔ chunk.poolSize = 256 ∧ Loads text.toList
  := by
  constructor
  · rintro ⟨before', text', rest', chunk', lines_eq', number, assembled', full, loads⟩
    have length_eq : before.length = before'.length := by omega
    rw [lines_eq] at lines_eq'
    obtain ⟨rfl, tail_eq⟩ := List.append_inj lines_eq' length_eq
    obtain ⟨rfl, rfl⟩ := List.cons.inj tail_eq
    rw [assembled] at assembled'
    cases assembled'
    exact ⟨full, loads⟩
  · rintro ⟨full, loads⟩
    use before, text, rest, chunk, lines_eq, Nat.add_comm _ _

/-- With wide indexes assembling goes on after a line that overfills the pool for narrow ones. -/
theorem run_assembleLines_past (full : chunk.poolSize = 256) (loads : Loads text.toList) :
  ∃ value, (assembleLines (sourceLines source) 1).run (Chunk.empty .wide)
    = (assembleLines rest (1 + before.length + 1)).run
      (absorb (1 + before.length) (chunk.withWidth .wide) (some (.constant value)))
  := by
  have assembled_wide := run_assembleLines_wide rfl assembled
  rcases loads.verdict_eq chunk.poolSize .wide with ⟨-, value, passed⟩ | ⟨none_left, -⟩
  · use value
    have passed_wide : verdict (chunk.withWidth .wide).poolSize
        (chunk.withWidth .wide).indexWidth text.toList = .ok (some (.constant value)) := passed
    rw [lines_eq, run_assembleLines_append]
    rw [show Chunk.empty .wide = (Chunk.empty .byte).withWidth .wide from rfl, assembled_wide]
    dsimp only
    rw [run_assembleLines_cons, passed_wide]
  · rw [full] at none_left
    exact absurd none_left (by decide)

end

/-- A source text that cannot be assembled with narrow indexes has the same error with wide ones,
or else a line that overfills the pool. In that case wide indexes lead past this line, to a later
error or to more than 256 constants. -/
theorem assemble_error_cases {source : String} {error : AssemblyError}
    (narrow : assemble source .byte = .error error) :
  (assemble source .wide = .error error ∧ ¬ Overfills source error.line)
    ∨ (Overfills source error.line
      ∧ error.fault = .chunk (.operandOverflow .poolIndex 256 256)
      ∧ (∀ other, assemble source .wide = .error other → error.line < other.line)
      ∧ ∀ chunk, assemble source .wide = .ok chunk → 256 < chunk.poolSize)
  := by
  obtain ⟨chunk, run⟩ := assemble_eq_error_iff.mp narrow
  obtain ⟨before, text, rest, lines_eq, assembled, number, faulty⟩ := exists_failing_line run
  obtain ⟨bounded, width_eq⟩ := bounded_assembleLines assembled (Nat.zero_le _)
  replace width_eq : chunk.indexWidth = .byte := width_eq
  rw [width_eq] at faulty
  rw [number, overfills_iff lines_eq assembled]
  -- Both widths assemble the lines before the failing one, so its verdict decides.
  rcases verdict_wide_cases chunk.poolSize text.toList with same | ⟨loads, full⟩
  · left
    constructor
    · apply assemble_eq_error_iff.mpr
      use chunk.withWidth .wide
      have assembled_wide := run_assembleLines_wide rfl assembled
      have faulty_wide : verdict (chunk.withWidth .wide).poolSize
          (chunk.withWidth .wide).indexWidth text.toList = .error error.fault :=
        same.trans faulty
      rw [lines_eq]
      apply (run_assembleLines_of_failing_line assembled_wide faulty_wide).trans
      rw [← number]
    · rintro ⟨full, loads⟩
      rw [full] at same faulty
      rcases loads.verdict_eq 256 .wide with ⟨-, _, passed⟩ | ⟨none_left, -⟩
      · rw [same, faulty] at passed
        cases passed
      · exact absurd none_left (by decide)
  · right
    have exactly : chunk.poolSize = 256 := by
      rw [Chunk.Bounded, width_eq] at bounded
      exact Nat.le_antisymm bounded full
    obtain ⟨value, past⟩ := run_assembleLines_past lines_eq assembled exactly loads
    refine ⟨⟨exactly, loads⟩, ?_, ?_, ?_⟩
    · rw [exactly] at faulty
      rcases loads.verdict_eq 256 .byte with ⟨room, -⟩ | ⟨-, refused⟩
      · exact absurd room (by decide)
      · exact Except.error.inj (faulty.symm.trans refused)
    · intro other wide
      obtain ⟨after, run_wide⟩ := assemble_eq_error_iff.mp wide
      rw [past] at run_wide
      exact first_le_line run_wide
    · intro after wide
      have run_wide := assemble_eq_ok_iff.mp wide
      rw [past] at run_wide
      apply Nat.lt_of_lt_of_le _ (poolSize_le_of_assembleLines run_wide)
      rw [absorb, Option.elim_some, Statement.place, Chunk.poolSize_extend]
      exact Nat.lt_succ_of_le full

/-- A source text that is assembled with narrow indexes is assembled with wide ones to the same
code, lines and constants, and conversely if there are at most 256 constants. One that is not
assembled with narrow indexes has the same error with wide ones, unless the line of the error
loads a constant when the pool has 256 entries, and then this is the error. -/
theorem assemble_restricts (source : String) :
  (∀ chunk, assemble source .byte = .ok chunk →
      assemble source .wide = .ok (chunk.withWidth .wide))
    ∧ (∀ error, assemble source .byte = .error error →
      (assemble source .wide = .error error ↔ ¬ Overfills source error.line)
      ∧ (Overfills source error.line →
        error.fault = .chunk (.operandOverflow .poolIndex 256 256)))
    ∧ ∀ chunk, assemble source .wide = .ok chunk → chunk.poolSize ≤ 256 →
      assemble source .byte = .ok (chunk.withWidth .byte)
  := by
  have widen : ∀ chunk, assemble source .byte = .ok chunk →
      assemble source .wide = .ok (chunk.withWidth .wide) := by
    intro chunk narrow
    apply assemble_eq_ok_iff.mpr
    apply run_assembleLines_wide rfl (assemble_eq_ok_iff.mp narrow)
  refine ⟨widen, ?_, ?_⟩
  · intro error narrow
    rcases assemble_error_cases narrow with ⟨same, fits⟩ | ⟨overfills, fault_eq, later, -⟩
    · exact ⟨iff_of_true same fits, fun overfills => absurd overfills fits⟩
    · refine ⟨iff_of_false ?_ (not_not_intro overfills), fun _ => fault_eq⟩
      intro same
      exact Nat.lt_irrefl _ (later error same)
  · intro chunk wide small
    cases narrow : assemble source .byte with
    | ok other =>
      have run := assemble_eq_ok_iff.mp narrow
      obtain ⟨-, width_eq⟩ := bounded_assembleLines run (Nat.zero_le _)
      obtain rfl := Except.ok.inj ((widen other narrow).symm.trans wide)
      apply congrArg Except.ok
      symm
      apply Chunk.withWidth_withWidth width_eq
    | error error =>
      rcases assemble_error_cases narrow with ⟨same, -⟩ | ⟨-, -, -, large⟩
      · rw [wide] at same
        cases same
      · exact absurd (large chunk wide) (Nat.not_lt_of_le small)

end Assembly

end Bytecode
