import Bytecode.Proofs.Growth
import Bytecode.Proofs.Source

/-!
# The verdict on a line

What comes of a line depends on the chunk only through the size of its pool and the width of its
indexes, `Assembly.verdict`. A line that is accepted adds its statement to the chunk,
`Assembly.absorb`, and any other line changes nothing. `Assembly.run_assembleLine` and
`Assembly.run_assembleLines_cons` say this of one line and of many.
-/

namespace Bytecode.Assembly

/-! ### One statement -/

namespace Statement

/-- Why a statement cannot be emitted into a chunk, given the size of its pool and the width of
its indexes. -/
def obstacle? (poolSize : Nat) (width : IndexWidth) : Statement → Option ChunkError
  | simple _ => none
  | byte _ _ => none
  | constant _ =>
    if width.poolLimit ≤ poolSize then
      some (.operandOverflow .poolIndex poolSize width.poolLimit)
    else
      none
  | global _ _ =>
    if poolSize < Emit.byteLimit then
      none
    else
      some (.operandOverflow .nameIndex poolSize Emit.byteLimit)
  | jump op distance =>
    if distance ≤ Emit.maxDistance then
      none
    else
      some (.operandOverflow (.distance op) distance Emit.maxDistance)

/-- The chunk with the instruction and the constant of a statement. -/
def place (line : Nat) (chunk : Chunk) (statement : Statement) : Chunk :=
  chunk.extend statement.constant? (statement.instruction chunk.length chunk.poolSize) line

/-- A statement that was read is placed in the chunk, unless there is an obstacle. -/
theorem run_emit {op : Op} {operand : Option (List Char)} {statement : Statement}
    (reads : Reads op operand statement) (line : Nat) (chunk : Chunk) :
  (statement.emit line).run chunk =
    match statement.obstacle? chunk.poolSize chunk.indexWidth with
    | some error => .error error chunk
    | none => .ok () (statement.place line chunk)
  := by
  cases reads with
  | simple shape =>
    rw [emit, Emit.run_simple, if_pos shape]
    rfl
  | byte shape number small =>
    rw [emit, Emit.run_withByte, shape]
    rfl
  | constant loads literal =>
    rw [emit, EStateM.run_bind, Emit.run_constant, obstacle?]
    by_cases full : chunk.indexWidth.poolLimit ≤ chunk.poolSize
    · rw [if_pos full, if_pos full]
    · rw [if_neg full, if_neg full]
      rfl
  | global shape other =>
    rw [emit, Emit.run_global shape, obstacle?]
    by_cases short : chunk.poolSize < Emit.byteLimit
    · rw [if_pos short, if_pos short]
      rfl
    · rw [if_neg short, if_neg short]
  | @jump _ distance jumps number small =>
    rw [emit, Emit.run_jump, jumps, if_neg (by decide), obstacle?]
    by_cases short : distance ≤ Emit.maxDistance
    · rw [if_pos short, if_pos short]
      rfl
    · rw [if_neg short, if_neg short]

/-- A statement without an obstacle extends the chunk. -/
theorem extends_of_obstacle? {op : Op} {operand : Option (List Char)} {statement : Statement}
    (reads : Reads op operand statement) (line : Nat) {chunk : Chunk}
    (free : statement.obstacle? chunk.poolSize chunk.indexWidth = none) :
  (statement.emit line).Extends chunk () statement.constant?
    (statement.instruction chunk.length chunk.poolSize) line
  := by
  have run := run_emit reads line chunk
  rw [free] at run
  rcases emit_cases reads line chunk with ⟨error, failed⟩ | extended
  · rw [failed] at run
    cases run
  · exact extended

end Statement

/-! ### One line -/

/-- What is found on a line: a fault, or nothing, or a statement without an obstacle. -/
def verdict (poolSize : Nat) (width : IndexWidth) (line : List Char) :
    Except Fault (Option Statement) :=
  match Statement.read line with
  | .error fault => .error fault
  | .ok none => .ok none
  | .ok (some statement) =>
    match statement.obstacle? poolSize width with
    | some error => .error (.chunk error)
    | none => .ok (some statement)

/-- The chunk with what was found on a line. -/
def absorb (line : Nat) (chunk : Chunk) (found : Option Statement) : Chunk :=
  found.elim chunk (Statement.place line chunk)

/-- A line with a fault gives the chunk back, and any other line adds what is found on it. -/
theorem run_assembleLine (text : String) (line : Nat) (chunk : Chunk) :
  (assembleLine text line).run chunk =
    match verdict chunk.poolSize chunk.indexWidth text.toList with
    | .error fault => .error ⟨line, fault⟩ chunk
    | .ok found => .ok (found.map fun _ => chunk.length) (absorb line chunk found)
  := by
  rw [assembleLine, verdict]
  cases read : Statement.read text.toList with
  | error fault => rfl
  | ok found =>
    cases found with
    | none => rfl
    | some statement =>
      obtain ⟨name, operand, op, -, -, reads⟩ := Statement.read_eq_some_iff.mp read
      dsimp only
      rw [EStateM.run_bind, EStateM.run_get]
      dsimp only
      rw [EStateM.run_bind, EStateM.run_adaptExcept, Statement.run_emit reads]
      cases statement.obstacle? chunk.poolSize chunk.indexWidth with
      | none => rfl
      | some error => rfl

/-- A statement is found on a line if it is read there and has no obstacle. -/
theorem verdict_eq_some_iff {poolSize : Nat} {width : IndexWidth} {line : List Char}
    {statement : Statement} :
  verdict poolSize width line = .ok (some statement)
    ↔ Statement.read line = .ok (some statement) ∧ statement.obstacle? poolSize width = none
  := by
  constructor
  · fun_cases verdict poolSize width line with
    | case1 fault read =>
      intro found
      cases found
    | case2 read =>
      intro found
      cases found
    | case3 other read error blocked =>
      intro found
      cases found
    | case4 other read free =>
      intro found
      obtain rfl := Option.some.inj (Except.ok.inj found)
      exact ⟨read, free⟩
  · rintro ⟨read, free⟩
    rw [verdict, read]
    dsimp only
    rw [free]

theorem extends_of_verdict {text : List Char} {chunk : Chunk} {statement : Statement}
    (found : verdict chunk.poolSize chunk.indexWidth text = .ok (some statement)) (line : Nat) :
  (statement.emit line).Extends chunk () statement.constant?
    (statement.instruction chunk.length chunk.poolSize) line
  := by
  obtain ⟨read, free⟩ := verdict_eq_some_iff.mp found
  obtain ⟨name, operand, op, -, -, reads⟩ := Statement.read_eq_some_iff.mp read
  apply Statement.extends_of_obstacle? reads line free

/-! ### Many lines -/

theorem run_assembleLines_cons (text : String) (rest : List String) (first : Nat)
    (chunk : Chunk) :
  (assembleLines (text :: rest) first).run chunk =
    match verdict chunk.poolSize chunk.indexWidth text.toList with
    | .error fault => .error ⟨first, fault⟩ chunk
    | .ok found => (assembleLines rest (first + 1)).run (absorb first chunk found)
  := by
  rw [assembleLines, EStateM.run_bind, run_assembleLine]
  cases verdict chunk.poolSize chunk.indexWidth text.toList with
  | error fault => rfl
  | ok found => rfl

/-- Where lines are assembled, so is the first of them, and then the others. -/
theorem verdict_of_run_cons {text : String} {rest : List String} {first : Nat}
    {chunk after : Chunk} (run : (assembleLines (text :: rest) first).run chunk = .ok () after) :
  ∃ found, verdict chunk.poolSize chunk.indexWidth text.toList = .ok found
    ∧ (assembleLines rest (first + 1)).run (absorb first chunk found) = .ok () after
  := by
  rw [run_assembleLines_cons] at run
  cases passed : verdict chunk.poolSize chunk.indexWidth text.toList with
  | error fault =>
    rw [passed] at run
    cases run
  | ok found =>
    rw [passed] at run
    exact ⟨found, rfl, run⟩

/-- Lines are assembled one part after the other. -/
theorem run_assembleLines_append (texts more : List String) (first : Nat) (chunk : Chunk) :
  (assembleLines (texts ++ more) first).run chunk =
    match (assembleLines texts first).run chunk with
    | .ok _ middle => (assembleLines more (first + texts.length)).run middle
    | .error error middle => .error error middle
  := by
  induction texts generalizing first chunk with
  | nil => rfl
  | cons text rest ih =>
    rw [List.cons_append, run_assembleLines_cons, run_assembleLines_cons]
    cases verdict chunk.poolSize chunk.indexWidth text.toList with
    | error fault => rfl
    | ok found =>
      dsimp only
      rw [ih, List.length_cons, Nat.add_assoc, Nat.add_comm 1]

theorem adds_absorb (line : Nat) (chunk : Chunk) (found : Option Statement) :
  ∃ bytes lines constants, chunk.Adds (absorb line chunk found) bytes lines constants
  := by
  cases found with
  | none => exact ⟨[], [], [], .refl chunk⟩
  | some statement => exact ⟨_, _, _, chunk.adds_extend _ _ _⟩

/-- Lines that are assembled only add to the chunk. -/
theorem adds_assembleLines {texts : List String} {first : Nat} {chunk after : Chunk}
    (run : (assembleLines texts first).run chunk = .ok () after) :
  ∃ bytes lines constants, chunk.Adds after bytes lines constants
  := by
  induction texts generalizing first chunk with
  | nil =>
    cases run
    exact ⟨[], [], [], .refl _⟩
  | cons text rest ih =>
    obtain ⟨found, -, run⟩ := verdict_of_run_cons run
    obtain ⟨_, _, _, first_adds⟩ := adds_absorb first chunk found
    obtain ⟨_, _, _, rest_adds⟩ := ih run
    exact ⟨_, _, _, first_adds.trans rest_adds⟩

/-- Lines that cannot all be assembled have a first one with a fault. The lines before it are
assembled, and the error has its number and its fault. -/
theorem exists_failing_line {texts : List String} {first : Nat} {chunk after : Chunk}
    {error : AssemblyError} (run : (assembleLines texts first).run chunk = .error error after) :
  ∃ before text rest, texts = before ++ text :: rest
    ∧ (assembleLines before first).run chunk = .ok () after
    ∧ error.line = first + before.length
    ∧ verdict after.poolSize after.indexWidth text.toList = .error error.fault
  := by
  induction texts generalizing first chunk with
  | nil => cases run
  | cons text rest ih =>
    rw [run_assembleLines_cons] at run
    cases found : verdict chunk.poolSize chunk.indexWidth text.toList with
    | error fault =>
      rw [found] at run
      cases run
      exact ⟨[], text, rest, rfl, rfl, rfl, found⟩
    | ok statement =>
      rw [found] at run
      obtain ⟨before, failing, later, rfl, assembled, number, faulty⟩ := ih run
      use text :: before, failing, later, rfl
      rw [run_assembleLines_cons, found]
      refine ⟨assembled, ?_, faulty⟩
      rw [number, List.length_cons]
      omega

/-- Where the lines before a line are assembled and the line has a fault, this is the error. -/
theorem run_assembleLines_of_failing_line {before rest : List String} {text : String}
    {first : Nat} {chunk after : Chunk} {fault : Fault}
    (assembled : (assembleLines before first).run chunk = .ok () after)
    (faulty : verdict after.poolSize after.indexWidth text.toList = .error fault) :
  (assembleLines (before ++ text :: rest) first).run chunk
    = .error ⟨first + before.length, fault⟩ after
  := by
  rw [run_assembleLines_append, assembled]
  dsimp only
  rw [run_assembleLines_cons, faulty]

/-! ### Source texts -/

theorem assemble_eq_ok_iff {source : String} {width : IndexWidth} {chunk : Chunk} :
  assemble source width = .ok chunk
    ↔ (assembleLines (sourceLines source) 1).run (Chunk.empty width) = .ok () chunk
  := by
  rw [assemble]
  cases (assembleLines (sourceLines source) 1).run (Chunk.empty width) with
  | ok _ after => simp
  | error error after => simp

theorem assemble_eq_error_iff {source : String} {width : IndexWidth} {error : AssemblyError} :
  assemble source width = .error error
    ↔ ∃ after, (assembleLines (sourceLines source) 1).run (Chunk.empty width) = .error error after
  := by
  rw [assemble]
  cases (assembleLines (sourceLines source) 1).run (Chunk.empty width) with
  | ok _ after => simp
  | error error' after => simp

end Bytecode.Assembly
