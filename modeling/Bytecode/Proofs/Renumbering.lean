import Bytecode.Proofs.Spelling

/-!
# Renumbered lines

Lines without a statement can be put between the lines of a source text, `Assembly.Spreads`. The
lines then have other numbers, and nothing else changes: the two texts are assembled to chunks
that differ in the numbers of lines only, `Assembly.Renumbered`, or they have the same fault on the
same line. This is carried from line to line by `Assembly.Spreads.matches_runs`, and
`Assembly.assemble_spread` states it for source texts.
-/

namespace Bytecode.Assembly

/-! ### Lines that are put in -/

theorem Blank.verdict_eq {line : String} (blank : Blank line) (poolSize : Nat)
    (width : IndexWidth) :
  verdict poolSize width line.toList = .ok none
  := by
  apply verdict_of_blank (blank_iff.mp blank)

/-- The later lines are the given lines with blank lines put in anywhere. The given lines are
numbered from `first` on and the later ones from `start` on, and `renumber` takes the number of
each given line to its number among the later ones. -/
inductive Spreads (renumber : Nat → Nat) : Nat → Nat → List String → List String → Prop
  | nil (first start : Nat) : Spreads renumber first start [] []
  | insert {first start : Nat} {line : String} {lines later : List String} (blank : Blank line)
      (rest : Spreads renumber first (start + 1) lines later) :
      Spreads renumber first start lines (line :: later)
  | keep {first start : Nat} {line : String} {lines later : List String}
      (number : renumber first = start)
      (rest : Spreads renumber (first + 1) (start + 1) lines later) :
      Spreads renumber first start (line :: lines) (line :: later)

variable {renumber : Nat → Nat}

theorem Spreads.start_le {first start : Nat} {lines later : List String}
    (spreads : Spreads renumber first start lines later) {number : Nat}
    (from_first : first ≤ number) (to_last : number < first + lines.length) :
  start ≤ renumber number
  := by
  induction spreads with
  | nil first start =>
    rw [List.length_nil] at to_last
    omega
  | insert blank rest ih =>
    apply Nat.le_of_succ_le
    apply ih from_first to_last
  | @keep first start line lines later same rest ih =>
    rcases Nat.eq_or_lt_of_le from_first with rfl | after_first
    · apply Nat.le_of_eq same.symm
    · apply Nat.le_of_succ_le
      apply ih after_first
      rw [List.length_cons] at to_last
      omega

/-- The lines keep their order. -/
theorem Spreads.increasing {first start : Nat} {lines later : List String}
    (spreads : Spreads renumber first start lines later) {number next : Nat}
    (from_first : first ≤ number) (before : number < next)
    (to_last : next < first + lines.length) :
  renumber number < renumber next
  := by
  induction spreads with
  | nil first start =>
    rw [List.length_nil] at to_last
    omega
  | insert blank rest ih => apply ih from_first to_last
  | @keep first start line lines later same rest ih =>
    rw [List.length_cons] at to_last
    rcases Nat.eq_or_lt_of_le from_first with rfl | after_first
    · rw [same]
      apply rest.start_le before
      omega
    · apply ih after_first
      omega

/-! ### Chunks that differ in lines -/

/-- The later chunk has the code and the constants of the given one, and each byte has the new
number of its line. -/
structure Renumbered (renumber : Nat → Nat) (chunk later : Chunk) : Prop where
  code_eq : later.code = chunk.code
  constants_eq : later.constants = chunk.constants
  indexWidth_eq : later.indexWidth = chunk.indexWidth
  lines_eq : later.lines.toList = chunk.lines.toList.map renumber
  tracked : chunk.Tracked
  tracked_later : later.Tracked

namespace Renumbered

theorem empty (renumber : Nat → Nat) (width : IndexWidth) :
  Renumbered renumber (Chunk.empty width) (Chunk.empty width)
  where
  code_eq := rfl
  constants_eq := rfl
  indexWidth_eq := rfl
  lines_eq := rfl
  tracked := Chunk.tracked_empty width
  tracked_later := Chunk.tracked_empty width

variable {chunk later : Chunk} (renumbered : Renumbered renumber chunk later)

include renumbered

theorem length_eq :
  later.length = chunk.length
  := by
  rw [Chunk.length, Chunk.length, renumbered.code_eq]

theorem poolSize_eq :
  later.poolSize = chunk.poolSize
  := by
  rw [Chunk.poolSize, Chunk.poolSize, renumbered.constants_eq]

theorem lineAt_eq (offset : Nat) :
  later.lineAt offset = (chunk.lineAt offset).map renumber
  := by
  rw [renumbered.tracked_later.lineAt_eq, renumbered.tracked.lineAt_eq, renumbered.lines_eq,
    List.getElem?_map]

/-- An instruction is added to both chunks, each time with the number of its line there. -/
theorem extend (constant : Option Value) (instruction : Instruction) (line : Nat) :
  Renumbered renumber (chunk.extend constant instruction line)
    (later.extend constant instruction (renumber line))
  where
  code_eq := by
    apply Array.toList_inj.mp
    rw [Chunk.toList_code_extend, Chunk.toList_code_extend, renumbered.code_eq]
  constants_eq := by
    apply Array.toList_inj.mp
    rw [Chunk.constants_extend, Chunk.constants_extend, renumbered.constants_eq]
  indexWidth_eq := by
    rw [Chunk.indexWidth_extend, Chunk.indexWidth_extend, renumbered.indexWidth_eq]
  lines_eq := by
    rw [Chunk.toList_lines_extend, Chunk.toList_lines_extend, renumbered.lines_eq,
      List.map_append, List.map_replicate]
  tracked := renumbered.tracked.extend constant instruction line
  tracked_later := renumbered.tracked_later.extend constant instruction (renumber line)

/-- What is found on a line is added to both chunks, each time with the number of the line there. -/
theorem absorb (line : Nat) (found : Option Statement) :
  Renumbered renumber (absorb line chunk found) (absorb (renumber line) later found)
  := by
  cases found with
  | none => apply renumbered
  | some statement =>
    rw [Assembly.absorb, Assembly.absorb, Option.elim_some, Option.elim_some, Statement.place,
      Statement.place, renumbered.length_eq, renumbered.poolSize_eq]
    apply renumbered.extend

end Renumbered

/-! ### Two runs -/

/-- Two runs end in the same way: with chunks that differ in lines only, or with the same fault,
each time on the line of its own number. -/
inductive Matches (renumber : Nat → Nat) :
    EStateM.Result AssemblyError Chunk Unit → EStateM.Result AssemblyError Chunk Unit → Prop
  | ok {chunk later : Chunk} (renumbered : Renumbered renumber chunk later) :
      Matches renumber (.ok () chunk) (.ok () later)
  | error {line : Nat} {fault : Fault} {chunk later : Chunk} :
      Matches renumber (.error ⟨line, fault⟩ chunk) (.error ⟨renumber line, fault⟩ later)

/-- Lines and the same lines with blank ones put in are assembled in the same way. -/
theorem Spreads.matches_runs {first start : Nat} {lines lines' : List String}
    (spreads : Spreads renumber first start lines lines') {chunk later : Chunk}
    (renumbered : Renumbered renumber chunk later) :
  Matches renumber ((assembleLines lines first).run chunk)
    ((assembleLines lines' start).run later)
  := by
  induction spreads generalizing chunk later with
  | nil first start => apply Matches.ok renumbered
  | insert blank rest ih =>
    rw [run_assembleLines_cons, blank.verdict_eq]
    apply ih renumbered
  | @keep first _ line lines lines' number rest ih =>
    obtain rfl := number
    rw [run_assembleLines_cons, run_assembleLines_cons, renumbered.poolSize_eq,
      renumbered.indexWidth_eq]
    cases verdict chunk.poolSize chunk.indexWidth line.toList with
    | error fault => apply Matches.error
    | ok found => apply ih (renumbered.absorb first found)

/-- Lines without a statement that are put into a source text anywhere do not matter but for the
numbers of the other lines. Both texts are assembled or none. In the first case the chunks have the
same code and the same constants, and the line of each byte is the same line with its new number.
In the other case the fault is the same and on the same line, with its new number. -/
theorem assemble_spread {source later : String}
    (spreads : Spreads renumber 1 1 (sourceLines source) (sourceLines later))
    (width : IndexWidth) :
  ((∃ chunk, assemble source width = .ok chunk) ↔ ∃ chunk, assemble later width = .ok chunk)
    ∧ (∀ chunk chunk', assemble source width = .ok chunk → assemble later width = .ok chunk' →
      chunk'.code = chunk.code ∧ chunk'.constants = chunk.constants
      ∧ ∀ offset, chunk'.lineAt offset = (chunk.lineAt offset).map renumber)
    ∧ (∀ error error', assemble source width = .error error →
      assemble later width = .error error' →
      error'.fault = error.fault ∧ error'.line = renumber error.line)
    ∧ ∀ number next, 1 ≤ number → number < next → next ≤ (sourceLines source).length →
      renumber number < renumber next
  := by
  have both := spreads.matches_runs (Renumbered.empty renumber width)
  rw [assemble, assemble]
  generalize (assembleLines (sourceLines source) 1).run (Chunk.empty width) = run at *
  generalize (assembleLines (sourceLines later) 1).run (Chunk.empty width) = run' at *
  refine ⟨?_, ?_, ?_, ?_⟩
  · cases both with
    | ok renumbered => simp
    | error => simp
  · intro chunk chunk' assembled assembled'
    cases both with
    | ok renumbered =>
      cases assembled
      cases assembled'
      use renumbered.code_eq, renumbered.constants_eq
      apply renumbered.lineAt_eq
    | error => cases assembled
  · intro error error' failed failed'
    cases both with
    | ok renumbered => cases failed
    | error =>
      cases failed
      cases failed'
      exact ⟨rfl, rfl⟩
  · intro number next from_first before to_last
    apply spreads.increasing from_first before
    omega

/-- Two statements with an empty line between them. -/
def denseSource : String :=
  "constant \"a; b\"\n\nloop 5"

/-- The same with a comment and blanks in front, a comment with quotes and semicolons in between,
and blanks at the end. -/
def sparseSource : String :=
  "; begin\n \t\nconstant \"a; b\"\r\n\n  ;; \"more; \nloop 5\n  \n"

/-- The numbers of the lines of the first text in the second. -/
def sparseNumber (number : Nat) : Nat :=
  if number < 3 then number + 2 else 6

theorem assemble_spread_sparse :
  Spreads sparseNumber 1 1 (sourceLines denseSource) (sourceLines sparseSource)
    ∧ ((∃ chunk, assemble denseSource .wide = .ok chunk)
      ↔ ∃ chunk, assemble sparseSource .wide = .ok chunk)
    ∧ (∀ chunk chunk', assemble denseSource .wide = .ok chunk →
      assemble sparseSource .wide = .ok chunk' →
      chunk'.code = chunk.code ∧ chunk'.constants = chunk.constants
      ∧ ∀ offset, chunk'.lineAt offset = (chunk.lineAt offset).map sparseNumber)
    ∧ (∀ error error', assemble denseSource .wide = .error error →
      assemble sparseSource .wide = .error error' →
      error'.fault = error.fault ∧ error'.line = sparseNumber error.line)
    ∧ ∀ number next, 1 ≤ number → number < next → next ≤ (sourceLines denseSource).length →
      sparseNumber number < sparseNumber next
  := by
  have lines_eq : sourceLines denseSource = ["constant \"a; b\"", "", "loop 5"] := by
    decide +kernel
  have later_eq : sourceLines sparseSource
      = ["; begin", " \t", "constant \"a; b\"", "", "  ;; \"more; ", "loop 5", "  "] := by
    decide +kernel
  have spreads : Spreads sparseNumber 1 1 (sourceLines denseSource) (sourceLines sparseSource) := by
    rw [lines_eq, later_eq]
    apply Spreads.insert (by decide +kernel)
    apply Spreads.insert (by decide +kernel)
    apply Spreads.keep rfl
    apply Spreads.keep rfl
    apply Spreads.insert (by decide +kernel)
    apply Spreads.keep rfl
    apply Spreads.insert (by decide +kernel)
    apply Spreads.nil
  exact ⟨spreads, assemble_spread spreads .wide⟩

end Bytecode.Assembly
