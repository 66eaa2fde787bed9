import Bytecode.Proofs.Assembly

/-!
# Chunks of source texts

A source text is assembled line by line. `Assembly.Assembles` says that a chunk is laid out
from lines of source, each with its instruction, and that the pool holds the constants of
these lines in order. Every line that is assembled keeps this. `Assembly.walk_assemble` is
what follows for a whole source text: the walk over its chunk gives its lines back.
-/

namespace Bytecode

/-- The pool index of an operand. -/
def Operand.index? : Operand → Option Nat
  | constant index _ => some index
  | _ => none

namespace Assembly

/-- A line of source that holds a statement: its number, its first word and the rest. -/
structure SourceLine where
  number : Nat
  name : List Char
  operand : Option (List Char)
  deriving DecidableEq

namespace SourceLine

/-- The statement line of a text, unless the text is blank when its comment is removed. -/
def ofText? (number : Nat) (text : String) : Option SourceLine :=
  (splitLine text.toList).map fun parts => ⟨number, parts.1, parts.2⟩

/-- The opcode that a line names. -/
def op? (line : SourceLine) : Option Op :=
  Op.ofMnemonic? line.name

/-- The literal or the name of a global that a line is written with. -/
def constant? (line : SourceLine) : Option Value :=
  if line.op?.any fun op => op.shape.referencesConstant then line.operand.map readName else none

/-- The distance that a line jumps back. -/
def backDistance? (line : SourceLine) : Option Nat :=
  if line.op? = some .loop then line.operand.bind Text.readNat? else none

/-- The instruction is the one that the line asks for, at its offset and with some index if it
refers to a constant. -/
def Denotes (line : SourceLine) (instruction : Instruction) : Prop :=
  ∃ op statement index, line.op? = some op ∧ Statement.Reads op line.operand statement
    ∧ instruction = statement.instruction instruction.offset index

end SourceLine

/-- The statement lines among texts, which are numbered from `first` on. -/
def statementLines (first : Nat) : List String → List SourceLine
  | [] => []
  | text :: rest => (SourceLine.ofText? first text).toList ++ statementLines (first + 1) rest

/-- A line of source and its instruction. -/
structure Placement where
  line : SourceLine
  instruction : Instruction

/-- The line does not jump back by more than the code up to the end of its instruction. -/
def Placement.Reaches (placement : Placement) : Prop :=
  ∀ distance, placement.line.backDistance? = some distance →
    distance ≤ placement.instruction.nextOffset

def Placement.entry (placement : Placement) : Entry :=
  ⟨placement.line.number, placement.instruction⟩

/-- The chunk is laid out from lines of source, and its pool is made of their constants. -/
structure Assembles (chunk : Chunk) (placements : List Placement) : Prop where
  holds : chunk.Holds (placements.map Placement.entry)
  denotes : ∀ placement ∈ placements, placement.line.Denotes placement.instruction
  constants_eq :
    chunk.constants.toList = placements.filterMap fun placement => placement.line.constant?
  indexes_eq :
    placements.filterMap (fun placement => placement.instruction.operand.index?)
      = List.range chunk.poolSize

/-! ### One line -/

/-- The constant of a statement is what is written as its operand. -/
theorem Statement.Reads.constant?_eq {op : Op} {operand : Option (List Char)}
    {statement : Statement} (reads : Reads op operand statement) :
  statement.constant?
    = if op.shape.referencesConstant then operand.map readName else none
  := by
  cases reads with
  | simple shape => simp [shape, Statement.constant?, Shape.referencesConstant]
  | byte shape number small => simp [shape, Statement.constant?, Shape.referencesConstant]
  | constant loads literal =>
    have refers : op.shape.referencesConstant = true := by
      rcases loads with rfl | rfl
      · rfl
      · rfl
    simp [refers, Statement.constant?, readName, literal]
  | global shape other => simp [shape, Statement.constant?, Shape.referencesConstant]
  | jump jumps number small =>
    rcases Shape.eq_of_isJump jumps with shape | shape
    · simp [shape, Statement.constant?, Shape.referencesConstant]
    · simp [shape, Statement.constant?, Shape.referencesConstant]

/-- An instruction refers to the constant of its statement. -/
theorem Statement.index?_instruction (statement : Statement) (offset index : Nat) :
  (statement.instruction offset index).operand.index?
    = statement.constant?.map fun _ => index
  := by
  cases statement with
  | simple op => rfl
  | byte op operand => rfl
  | constant value => rfl
  | global op name => rfl
  | jump op distance => rfl

/-- A statement of a jump back is made of its distance. -/
theorem Statement.Reads.of_loop {operand : Option (List Char)} {statement : Statement}
    (reads : Reads .loop operand statement) :
  ∃ distance, operand.bind Text.readNat? = some distance ∧ statement = .jump .loop distance
  := by
  cases reads with
  | simple shape => cases shape
  | byte shape number small => cases shape
  | constant loads literal =>
    rcases loads with loads | loads
    · cases loads
    · cases loads
  | global shape other => cases shape
  | jump jumps number small => exact ⟨_, number, rfl⟩

/-- Only a statement that is written as a jump back becomes one. -/
theorem Statement.Reads.eq_loop {op : Op} {operand : Option (List Char)} {statement : Statement}
    (reads : Reads op operand statement) {offset index : Nat}
    (loops : (statement.instruction offset index).op = .loop) :
  op = .loop
  := by
  cases reads with
  | simple shape => exact loops
  | byte shape number small => exact loops
  | constant loads literal =>
    rw [Statement.instruction, Instruction.load] at loops
    split at loops
    · cases loops
    · cases loops
  | global shape other => exact loops
  | jump jumps number small => exact loops

namespace SourceLine

theorem constant?_eq {line : SourceLine} {op : Op} (known : line.op? = some op)
    {statement : Statement} (reads : Statement.Reads op line.operand statement) :
  line.constant? = statement.constant?
  := by
  rw [constant?, known, Option.any_some, reads.constant?_eq]

variable {line : SourceLine} {instruction : Instruction}

theorem Denotes.of_loop (denotes : line.Denotes instruction) (loops : line.op? = some .loop) :
  ∃ distance, line.backDistance? = some distance
    ∧ instruction = .jumpOver instruction.offset .loop distance
  := by
  obtain ⟨op, statement, index, known, reads, instruction_eq⟩ := denotes
  obtain rfl : Op.loop = op := Option.some.inj (loops.symm.trans known)
  obtain ⟨distance, written, rfl⟩ := reads.of_loop
  use distance
  rw [backDistance?, if_pos loops]
  exact ⟨written, instruction_eq⟩

theorem Denotes.op?_of_loop (denotes : line.Denotes instruction)
    (loops : instruction.op = .loop) :
  line.op? = some .loop
  := by
  obtain ⟨op, statement, index, known, reads, instruction_eq⟩ := denotes
  rw [instruction_eq] at loops
  rw [known, reads.eq_loop loops]

/-- A line with a distance back denotes a jump back over that distance. -/
theorem Denotes.of_backDistance? (denotes : line.Denotes instruction) {distance : Nat}
    (written : line.backDistance? = some distance) :
  instruction = .jumpOver instruction.offset .loop distance
  := by
  have loops : line.op? = some .loop := by
    by_contra other
    rw [backDistance?, if_neg other] at written
    cases written
  obtain ⟨jumped, read, instruction_eq⟩ := denotes.of_loop loops
  obtain rfl : distance = jumped := Option.some.inj (written.symm.trans read)
  exact instruction_eq

/-- The instruction of a line lands exactly if the line does not jump back too far. -/
theorem Denotes.lands_iff (denotes : line.Denotes instruction) :
  instruction.Lands ↔ Placement.Reaches ⟨line, instruction⟩
  := by
  constructor
  · intro lands distance written
    have instruction_eq := denotes.of_backDistance? written
    apply lands distance
    · rw [instruction_eq]
      rfl
    · rw [instruction_eq]
      rfl
  · intro reaches distance target backward operand
    have loops := denotes.op?_of_loop (Op.eq_loop_of_shape backward)
    obtain ⟨jumped, read, instruction_eq⟩ := denotes.of_loop loops
    rw [instruction_eq] at operand
    cases operand
    apply reaches _ read

end SourceLine

/-! ### All lines -/

namespace Assembles

theorem empty (width : IndexWidth) :
  Assembles (Chunk.empty width) []
  where
  holds := Chunk.Holds.empty width
  denotes := by simp
  constants_eq := rfl
  indexes_eq := rfl

variable {chunk : Chunk} {placements : List Placement}

/-- A statement that is emitted places its line at the end of the code. -/
theorem extend (assembles : Assembles chunk placements) (line : SourceLine) {op : Op}
    {statement : Statement} (known : line.op? = some op)
    (reads : Statement.Reads op line.operand statement)
    (extended : (statement.emit line.number).Extends chunk () statement.constant?
      (statement.instruction chunk.length chunk.poolSize) line.number) :
  Assembles
    (chunk.extend statement.constant? (statement.instruction chunk.length chunk.poolSize)
      line.number)
    (placements ++ [⟨line, statement.instruction chunk.length chunk.poolSize⟩])
  where
  holds := by
    rw [List.map_append]
    apply assembles.holds.extend extended.offset_eq extended.fits
  denotes := by
    intro placement member
    rcases List.mem_append.mp member with old | new
    · apply assembles.denotes placement old
    · obtain rfl := List.mem_singleton.mp new
      use op, statement, chunk.poolSize, known, reads
      rw [extended.offset_eq]
  constants_eq := by
    rw [Chunk.constants_extend, assembles.constants_eq, List.filterMap_append,
      ← SourceLine.constant?_eq known reads]
    cases written : line.constant? with
    | none => simp [written]
    | some value => simp [written]
  indexes_eq := by
    rw [List.filterMap_append, assembles.indexes_eq, Chunk.poolSize_extend]
    cases written : statement.constant? with
    | none => simp [Statement.index?_instruction, written]
    | some value => simp [Statement.index?_instruction, written, List.range_succ]

/-- A line that is assembled is placed if it holds a statement. -/
theorem assembleLine (assembles : Assembles chunk placements) {text : String} {number : Nat}
    {result : Option Nat} {after : Chunk}
    (run : (assembleLine text number).run chunk = .ok result after) :
  ∃ added, Assembles after (placements ++ added)
    ∧ added.map Placement.line = (SourceLine.ofText? number text).toList
  := by
  rcases assembleLine_cases text number chunk with
    ⟨_, failed⟩ | ⟨blank, same⟩ | ⟨name, operand, op, statement, split, known, reads, extended, grown⟩
  · rw [failed] at run
    cases run
  · rw [same] at run
    cases run
    use []
    rw [List.append_nil]
    use assembles
    simp [SourceLine.ofText?, blank]
  · rw [grown] at run
    cases run
    use [⟨⟨number, name, operand⟩, statement.instruction chunk.length chunk.poolSize⟩]
    use assembles.extend ⟨number, name, operand⟩ known reads extended
    simp [SourceLine.ofText?, split]

/-- Lines that are assembled one after another are placed in order. -/
theorem assembleLines (assembles : Assembles chunk placements) {texts : List String}
    {first : Nat} {after : Chunk}
    (run : (assembleLines texts first).run chunk = .ok () after) :
  ∃ added, Assembles after (placements ++ added)
    ∧ added.map Placement.line = statementLines first texts
  := by
  induction texts generalizing chunk placements first with
  | nil =>
    cases run
    use []
    rw [List.append_nil]
    exact ⟨assembles, rfl⟩
  | cons text rest ih =>
    rw [Assembly.assembleLines, EStateM.run_bind] at run
    cases line_run : (Assembly.assembleLine text first).run chunk with
    | error error middle =>
      rw [line_run] at run
      cases run
    | ok result middle =>
      rw [line_run] at run
      obtain ⟨line, assembles, line_eq⟩ := assembles.assembleLine line_run
      obtain ⟨lines, assembles, lines_eq⟩ := ih assembles run
      use line ++ lines
      rw [← List.append_assoc, List.map_append, line_eq, lines_eq]
      exact ⟨assembles, rfl⟩

/-- Every byte of the instruction of a line has the number of the line. -/
theorem lineAt_eq (assembles : Assembles chunk placements) {placement : Placement}
    (member : placement ∈ placements) {offset : Nat}
    (from_start : placement.instruction.offset ≤ offset)
    (before_end : offset < placement.instruction.nextOffset) :
  chunk.lineAt offset = some placement.line.number
  := by
  obtain ⟨before, after, rfl⟩ := List.append_of_mem member
  have holds := assembles.holds
  rw [List.map_append, List.map_cons] at holds
  apply holds.lineAt_eq from_start before_end

theorem lands (assembles : Assembles chunk placements) {placement : Placement}
    (member : placement ∈ placements) (reaches : placement.Reaches) :
  placement.instruction.Lands
  := (assembles.denotes placement member).lands_iff.mpr reaches

/-- When no line jumps back too far, the walk gives the instructions of all lines. -/
theorem walk_eq (assembles : Assembles chunk placements)
    (reach : ∀ placement ∈ placements, placement.Reaches) :
  chunk.walk = placements.map fun placement => .ok placement.instruction
  := by
  rw [assembles.holds.walk_eq]
  · simp [Function.comp_def, Placement.entry]
  · rw [List.forall_mem_map]
    intro placement member
    apply assembles.lands member (reach placement member)

/-- The walk ends at the first line that jumps back too far. -/
theorem walk_eq_of_too_far {before after : List Placement} {placement : Placement}
    (assembles : Assembles chunk (before ++ placement :: after))
    (reach : ∀ earlier ∈ before, earlier.Reaches) {distance : Nat}
    (written : placement.line.backDistance? = some distance)
    (too_far : placement.instruction.nextOffset < distance) :
  chunk.walk = (before.map fun earlier => .ok earlier.instruction)
    ++ [.error (.jumpOutOfRange placement.instruction.offset distance)]
  := by
  have holds := assembles.holds
  rw [List.map_append, List.map_cons] at holds
  have denotes := assembles.denotes placement (by simp)
  have beyond : ¬ placement.instruction.Lands := by
    intro lands
    have reaches := denotes.lands_iff.mp lands distance written
    exact Nat.not_lt_of_le reaches too_far
  have lands : ∀ entry ∈ before.map Placement.entry, entry.instruction.Lands := by
    rw [List.forall_mem_map]
    intro earlier member
    apply assembles.lands (List.mem_append_left _ member) (reach earlier member)
  obtain ⟨jumped, target, operand, walk_eq⟩ := holds.walk_eq_of_not_lands lands beyond
  obtain rfl : distance = jumped := by
    rw [Placement.entry, denotes.of_backDistance? written] at operand
    cases operand
    rfl
  rw [walk_eq, List.map_map, List.map_map]
  rfl

end Assembles

/-- The chunk of a source text is made of its statement lines, in order. Each line denotes one
instruction, whose bytes are all of that line, the pool holds the constants of the lines, and
these are referred to one after another. The walk gives the instructions back, all of them or
those before the first line that jumps back beyond the start of the code. -/
theorem walk_assemble {source : String} {width : IndexWidth} {chunk : Chunk}
    (assembled : assemble source width = .ok chunk) :
  ∃ placements : List Placement,
    placements.map Placement.line = statementLines 1 (sourceLines source)
    ∧ Instruction.Spans 0 (placements.map Placement.instruction) chunk.length
    ∧ (∀ placement ∈ placements, placement.line.Denotes placement.instruction
      ∧ ∀ offset, placement.instruction.offset ≤ offset →
        offset < placement.instruction.nextOffset →
        chunk.lineAt offset = some placement.line.number)
    ∧ chunk.constants.toList
      = (statementLines 1 (sourceLines source)).filterMap SourceLine.constant?
    ∧ placements.filterMap (fun placement => placement.instruction.operand.index?)
      = List.range chunk.poolSize
    ∧ ((∀ placement ∈ placements, placement.Reaches) →
      chunk.walk = placements.map fun placement => .ok placement.instruction)
    ∧ ∀ before placement after distance, placements = before ++ placement :: after →
      (∀ earlier ∈ before, earlier.Reaches) →
      placement.line.backDistance? = some distance →
      placement.instruction.nextOffset < distance →
      chunk.walk = (before.map fun earlier => .ok earlier.instruction)
        ++ [.error (.jumpOutOfRange placement.instruction.offset distance)]
  := by
  rw [assemble] at assembled
  split at assembled
  · next run =>
    cases assembled
    obtain ⟨placements, assembles, lines_eq⟩ := (Assembles.empty width).assembleLines run
    rw [List.nil_append] at assembles
    have spans := assembles.holds.spans
    rw [List.map_map] at spans
    refine ⟨placements, lines_eq, spans, ?_, ?_, assembles.indexes_eq, assembles.walk_eq, ?_⟩
    · intro placement member
      use assembles.denotes placement member
      intro offset from_start before_end
      apply assembles.lineAt_eq member from_start before_end
    · rw [assembles.constants_eq, ← lines_eq, List.filterMap_map]
      rfl
    · rintro before placement after distance rfl reach written too_far
      apply assembles.walk_eq_of_too_far reach written too_far
  · cases assembled

/-- A source text with a comment, an empty line, a semicolon in a string, a global, and jumps
in both directions. -/
def countdown : String :=
  "; counts down\nconstant \"n; m\"\ndefine_global total\n\n  get_local 1 ; the counter\n"
    ++ "jump_if_false 4\npop\nloop 5\nreturn\n"

def countdownChunk : Chunk where
  code := #[0, 0, 8, 1, 6, 1, 22, 0, 4, 5, 23, 0, 5, 25]
  lines :=
    { runs := #[⟨2, 2⟩, ⟨2, 3⟩, ⟨2, 5⟩, ⟨3, 6⟩, ⟨1, 7⟩, ⟨3, 8⟩, ⟨1, 9⟩]
      ends := #[2, 4, 6, 9, 10, 13, 14] }
  constants := #[.str "n; m", .str "total"]

theorem walk_assemble_countdown :
  assemble countdown .byte = .ok countdownChunk
    ∧ ∃ placements : List Placement,
      placements.map Placement.line = statementLines 1 (sourceLines countdown)
      ∧ Instruction.Spans 0 (placements.map Placement.instruction) countdownChunk.length
      ∧ (∀ placement ∈ placements, placement.line.Denotes placement.instruction
        ∧ ∀ offset, placement.instruction.offset ≤ offset →
          offset < placement.instruction.nextOffset →
          countdownChunk.lineAt offset = some placement.line.number)
      ∧ countdownChunk.constants.toList
        = (statementLines 1 (sourceLines countdown)).filterMap SourceLine.constant?
      ∧ placements.filterMap (fun placement => placement.instruction.operand.index?)
        = List.range countdownChunk.poolSize
      ∧ ((∀ placement ∈ placements, placement.Reaches) →
        countdownChunk.walk = placements.map fun placement => .ok placement.instruction)
      ∧ ∀ before placement after distance, placements = before ++ placement :: after →
        (∀ earlier ∈ before, earlier.Reaches) →
        placement.line.backDistance? = some distance →
        placement.instruction.nextOffset < distance →
        countdownChunk.walk = (before.map fun earlier => .ok earlier.instruction)
          ++ [.error (.jumpOutOfRange placement.instruction.offset distance)]
  := by
  have assembled : assemble countdown .byte = .ok countdownChunk := by
    decide +kernel
  exact ⟨assembled, walk_assemble assembled⟩

end Assembly

end Bytecode
