import Bytecode.Proofs.Agreement
import Bytecode.Proofs.SourceColumn
import Bytecode.Proofs.Spelling

/-!
# Runs on files

How a run on a file ends, `Program.Outcome`. All lines are assembled and the whole chunk is listed,
or there is a first line that is not assembled and nothing is listed, or the listing is broken off
at a jump back beyond the start of the code. `Program.Outcome.Arises` says which of them it is for a
source text, and `Program.runFile_presents` that the run then shows it: by its exit status, on
standard output and on standard error. `Program.Outcome.Lists` and `Program.Outcome.Reports` say
which lines these are, with all texts written out but those of instructions and faults. Source lines
are numbered in increasing order, so that every line of the listing shows the number of its source
line, `Assembly.Lays.shown_instructionLines`.
-/

namespace Bytecode

/-! ### The numbers of lines -/

namespace Assembly

/-- The statement lines have the numbers of the lines that are not blank. -/
theorem number_statementLines (first : Nat) (texts : List String) :
  (statementLines first texts).map SourceLine.number
    = ((texts.zipIdx first).filter fun line => ¬ Blank line.1).map Prod.snd
  := by
  induction texts generalizing first with
  | nil => rfl
  | cons text rest ih =>
    rw [statementLines, List.map_append, ih, List.zipIdx_cons]
    by_cases blank : Blank text
    · rw [List.filter_cons_of_neg (by simpa using blank), SourceLine.ofText?, blank_iff.mp blank]
      rfl
    · rw [List.filter_cons_of_pos (by simpa using blank), List.map_cons]
      rw [blank_iff, ← ne_eq, Option.ne_none_iff_exists'] at blank
      obtain ⟨parts, layout⟩ := blank
      rw [SourceLine.ofText?, layout]
      rfl

/-- The numbers of the statement lines increase. -/
theorem pairwise_statementLines (first : Nat) (texts : List String) :
  ((statementLines first texts).map SourceLine.number).Pairwise (· < ·)
  := by
  have numbers : ((texts.zipIdx first).map Prod.snd).Pairwise (· < ·) := by
    rw [List.zipIdx_map_snd]
    exact List.pairwise_lt_range'
  rw [number_statementLines]
  apply List.Pairwise.sublist _ numbers
  apply List.filter_sublist.map

/-- The text is a line of a listing with the offset of an instruction, the number of its source line
and the text of the instruction. -/
def Placement.ShownBy (placement : Placement) (text : String) : Prop :=
  ∃ offset number,
    Text.InColumn '0' placement.instruction.offset offset
    ∧ Text.InColumn ' ' placement.line.number number
    ∧ text = offset ++ " " ++ number ++ " " ++ placement.instruction.text

/-- Every line of a listing shows the number of its source line, if no two instructions have the
same one. -/
theorem shown_instructionLines {chunk : Chunk} {placements : List Placement}
    {previous : Option Nat}
    (lines : ∀ placement ∈ placements,
      chunk.lineAt placement.instruction.offset = some placement.line.number)
    (distinct : (previous.toList ++ placements.map fun placement => placement.line.number).Nodup) :
  List.Forall₂ Placement.ShownBy placements
    (chunk.instructionLines previous (placements.map Placement.instruction))
  := by
  induction placements generalizing previous with
  | nil => apply List.Forall₂.nil
  | cons placement rest ih =>
    obtain ⟨line, lines⟩ := List.forall_mem_cons.mp lines
    have fresh : previous ≠ some placement.line.number := by
      rintro rfl
      simp at distinct
    rw [List.map_cons, Chunk.instructionLines_cons, line, Listing.line_eq]
    apply List.Forall₂.cons
    · exact ⟨_, _, Text.inColumn_padLeft _ _, Listing.inColumn_mark_iff.mpr fresh, rfl⟩
    · apply ih lines
      apply List.Nodup.sublist _ distinct
      apply List.sublist_append_right

/-- A line is not assembled if there is a fault on it. The error has the number of the line. -/
theorem run_assembleLine_eq_error_iff {text : String} {line : Nat} {chunk after : Chunk}
    {error : AssemblyError} :
  (assembleLine text line).run chunk = .error error after
    ↔ verdict chunk.poolSize chunk.indexWidth text.toList = .error error.fault
      ∧ error.line = line ∧ after = chunk
  := by
  rw [run_assembleLine]
  constructor
  · cases verdict chunk.poolSize chunk.indexWidth text.toList with
    | error fault =>
      rintro ⟨⟩
      exact ⟨rfl, rfl, rfl⟩
    | ok found => rintro ⟨⟩
  · rintro ⟨faulty, rfl, rfl⟩
    rw [faulty]

/-- The source text is assembled to the chunk, which is laid out from its statement lines, each
with its instruction. -/
structure Lays (source : String) (width : IndexWidth) (chunk : Chunk)
    (placements : List Placement) : Prop where
  run_eq : (assembleLines (sourceLines source) 1).run (Chunk.empty width) = .ok () chunk
  assembles : Assembles chunk placements
  lines_eq : placements.map Placement.line = statementLines 1 (sourceLines source)

theorem Assembles.lineAt_offset {chunk : Chunk} {placements : List Placement}
    (assembles : Assembles chunk placements) {placement : Placement}
    (member : placement ∈ placements) :
  chunk.lineAt placement.instruction.offset = some placement.line.number
  := by
  apply assembles.lineAt_eq member (Nat.le_refl _)
  apply Nat.lt_add_of_pos_right
  apply Shape.length_pos

namespace Lays

variable {source : String} {width : IndexWidth} {chunk : Chunk} {placements : List Placement}

theorem of_run
    (run_eq : (assembleLines (sourceLines source) 1).run (Chunk.empty width) = .ok () chunk) :
  ∃ placements, Lays source width chunk placements
  := by
  obtain ⟨placements, assembles, lines_eq⟩ := (Assembles.empty width).assembleLines run_eq
  exact ⟨placements, run_eq, assembles, lines_eq⟩

theorem number_eq (lays : Lays source width chunk placements) :
  (placements.map fun placement => placement.line.number)
    = (statementLines 1 (sourceLines source)).map SourceLine.number
  := by
  rw [← lays.lines_eq, List.map_map]
  rfl

/-- The instructions of lines at the beginning are listed with the numbers of these lines. -/
theorem shown_instructionLines {before later : List Placement}
    (lays : Lays source width chunk (before ++ later)) :
  List.Forall₂ Placement.ShownBy before
    (chunk.instructionLines none (before.map Placement.instruction))
  := by
  apply Assembly.shown_instructionLines
  · intro placement member
    apply lays.assembles.lineAt_offset (List.mem_append_left _ member)
  · have increasing := pairwise_statementLines 1 (sourceLines source)
    rw [← lays.number_eq, List.map_append] at increasing
    apply List.Nodup.sublist (List.sublist_append_left _ _)
    apply increasing.imp
    intro number next
    apply Nat.ne_of_lt

end Lays

end Assembly

/-! ### Outcomes -/

/-- The lines on standard error. -/
def Output.errors (output : List Output) : List String :=
  output.filterMap fun
    | .err line => some line
    | _ => none

namespace Output

theorem shows_text (lines : List String) :
  Shows [.out (Listing.joined lines)] lines
  where
  no_err := by simp
  stdout_eq := by simp [stdout, outText]

variable {output : List Output} {lines : List String} (shows : Shows output lines)

include shows

theorem Shows.errors_eq :
  errors output = []
  := by
  apply List.filterMap_eq_nil_iff.mpr
  intro piece member
  cases piece with
  | out text => rfl
  | log event => rfl
  | err line => exact absurd member (shows.no_err line)

/-- A line on standard error at the end is the only one there. -/
theorem Shows.append_err (line : String) :
  stdout (output ++ [.err line]) = Listing.joined lines
    ∧ errors (output ++ [.err line]) = [line]
  := by
  constructor
  · rw [← shows.stdout_eq, stdout, stdout, List.map_append, String.join_append]
    apply String.append_empty
  · rw [errors, List.filterMap_append, ← errors, shows.errors_eq]
    rfl

end Output

theorem ChunkError.shows_events (error : ChunkError) :
  Output.Shows error.events []
  := by
  fun_cases events error with
  | case1 size limit => apply Output.Shows.log
  | case2 op distance limit => apply Output.Shows.log
  | case3 error => apply Output.Shows.lines []

/-- The cause of an error in assembling is logged and not shown. -/
theorem Assembly.AssemblyError.shows_events (error : AssemblyError) :
  Output.Shows error.events []
  := by
  fun_cases events error with
  | case1 cause fault => apply cause.shows_events
  | case2 fault => apply Output.Shows.lines []

/-- A listing that is broken off is logged and not shown. -/
theorem ListingError.shows_events (error : ListingError) (name : String) :
  Output.Shows (error.events name) []
  := by
  fun_cases events name error with
  | case1 error => apply Output.Shows.log
  | case2 => apply Output.Shows.lines []

namespace Program

open Assembly (Placement Fault Lays assembleLine assembleLines)

/-- How a run on a file ends. -/
inductive Outcome where
  /-- The chunk of these lines is listed. -/
  | listed (placements : List Placement)
  /-- The line of this number is not assembled. -/
  | refused (number : Nat) (fault : Fault)
  /-- Only these lines are listed. The instruction after them, at this offset, jumps back over this
  distance, which is too far. -/
  | brokenOff (placements : List Placement) (offset distance : Nat)

namespace Outcome

/-- The outcome is that of a run on the source text. -/
inductive Arises (source : String) (width : IndexWidth) : Outcome → Prop
  | listed {chunk : Chunk} {placements : List Placement}
      (lays : Lays source width chunk placements)
      (reach : ∀ placement ∈ placements, placement.Reaches) :
      Arises source width (.listed placements)
  | refused {before rest : List String} {text : String} {chunk after : Chunk}
      {error : Assembly.AssemblyError} (split : sourceLines source = before ++ text :: rest)
      (assembled : (assembleLines before 1).run (Chunk.empty width) = .ok () chunk)
      (failed : (assembleLine text (before.length + 1)).run chunk = .error error after) :
      Arises source width (.refused (before.length + 1) error.fault)
  | brokenOff {chunk : Chunk} {before later : List Placement} {placement : Placement}
      {distance : Nat} (lays : Lays source width chunk (before ++ placement :: later))
      (reach : ∀ earlier ∈ before, earlier.Reaches)
      (written : placement.line.backDistance? = some distance)
      (too_far : placement.instruction.nextOffset < distance) :
      Arises source width (.brokenOff before placement.instruction.offset distance)

/-- The exit status that an outcome asks for. -/
def exitCode : Outcome → Nat
  | listed _ => 0
  | refused _ _ => 65
  | brokenOff _ _ _ => 65

/-- The text is the one that an outcome asks for on standard output. -/
inductive Lists (name : String) : Outcome → String → Prop
  | listed {placements : List Placement} {lines : List String}
      (shown : List.Forall₂ Placement.ShownBy placements lines) :
      Lists name (.listed placements) (Listing.joined (("== " ++ name ++ " ==") :: lines))
  | refused (number : Nat) (fault : Fault) : Lists name (.refused number fault) ""
  | brokenOff {placements : List Placement} {lines : List String} (offset distance : Nat)
      (shown : List.Forall₂ Placement.ShownBy placements lines) :
      Lists name (.brokenOff placements offset distance)
        (Listing.joined (("== " ++ name ++ " ==") :: lines))

/-- The lines are those that an outcome asks for on standard error. -/
inductive Reports (file : String) : Outcome → List String → Prop
  | listed (placements : List Placement) : Reports file (.listed placements) []
  | refused (number : Nat) (fault : Fault) :
      Reports file (.refused number fault)
        [file ++ ": [line " ++ number.repr ++ "] " ++ fault.message]
  | brokenOff {offset : Nat} {column : String} (placements : List Placement) (distance : Nat)
      (digits : Text.InColumn '0' offset column) :
      Reports file (.brokenOff placements offset distance)
        [file ++ ": decode error at " ++ column ++ ": jump distance " ++ distance.repr
          ++ " lands before the start of the chunk"]

/-- A line that is not assembled is reported by the text of its error. -/
theorem reports_message (file : String) (error : Assembly.AssemblyError) :
  (refused error.line error.fault).Reports file [file ++ ": " ++ error.message]
  := by
  have text : file ++ ": " ++ error.message
      = file ++ ": [line " ++ error.line.repr ++ "] " ++ error.fault.message := by
    apply String.toList_inj.mp
    simp [Assembly.AssemblyError.message, Text.decimal]
  rw [text]
  apply Reports.refused

/-- A jump beyond the start of the code is reported by the text of its error. -/
theorem reports_jumpOutOfRange (file : String) (placements : List Placement)
    (offset distance : Nat) :
  (brokenOff placements offset distance).Reports file
    [file ++ ": " ++ ListingError.message (.decode (.jumpOutOfRange offset distance))]
  := by
  have message : ListingError.message (.decode (.jumpOutOfRange offset distance))
      = "decode error at " ++ (Text.offset offset ++ ": " ++ ("jump distance " ++ distance.repr
        ++ " lands before the start of the chunk")) := rfl
  have text : file ++ ": " ++ ListingError.message (.decode (.jumpOutOfRange offset distance))
      = file ++ ": decode error at " ++ Text.offset offset ++ ": jump distance " ++ distance.repr
        ++ " lands before the start of the chunk" := by
    rw [message]
    apply String.toList_inj.mp
    simp
  rw [text]
  apply Reports.brokenOff
  apply Text.inColumn_padLeft

end Outcome

/-- The report is that of a run on a file with this outcome. -/
structure Report.Presents (report : Report) (file name : String) (outcome : Outcome) : Prop where
  exitCode_eq : report.exitCode = outcome.exitCode
  lists : outcome.Lists name (Output.stdout report.output)
  reports : outcome.Reports file (Output.errors report.output)

/-- A report presents an outcome if it shows the text of the outcome and then its only error. -/
theorem Report.presents_append_err {output : List Output} {lines : List String}
    {file name line : String} {outcome : Outcome} (shows : Output.Shows output lines)
    (lists : outcome.Lists name (Listing.joined lines)) (reports : outcome.Reports file [line]) :
  Report.Presents ⟨output ++ [.err line], outcome.exitCode⟩ file name outcome
  := by
  obtain ⟨stdout_eq, errors_eq⟩ := shows.append_err line
  constructor
  · rfl
  · rw [stdout_eq]
    apply lists
  · rw [errors_eq]
    apply reports

/-- A line that jumps back too far has a distance that is too large. -/
theorem exists_distance {placement : Placement} (beyond : ¬ placement.Reaches) :
  ∃ distance, placement.line.backDistance? = some distance
    ∧ placement.instruction.nextOffset < distance
  := by
  simpa [Placement.Reaches] using beyond

open Classical in
/-- Every run has an outcome. -/
theorem Outcome.exists_arises (source : String) (width : IndexWidth) :
  ∃ outcome, Arises source width outcome
  := by
  cases run_eq : (assembleLines (sourceLines source) 1).run (Chunk.empty width) with
  | ok _ chunk =>
    obtain ⟨placements, lays⟩ := Lays.of_run run_eq
    cases first : placements.find? fun placement => ¬ placement.Reaches with
    | none =>
      use .listed placements
      apply Arises.listed lays
      simpa using first
    | some placement =>
      rw [List.find?_eq_some_iff_append] at first
      obtain ⟨beyond, before, later, rfl, reach⟩ := first
      obtain ⟨distance, written, too_far⟩ := exists_distance (of_decide_eq_true beyond)
      use .brokenOff before placement.instruction.offset distance
      apply Arises.brokenOff lays _ written too_far
      simpa using reach
  | error error after =>
    obtain ⟨before, text, rest, split, assembled, number, faulty⟩ :=
      Assembly.exists_failing_line run_eq
    use .refused (before.length + 1) error.fault
    apply Arises.refused split assembled
    apply Assembly.run_assembleLine_eq_error_iff.mpr
    rw [Nat.add_comm] at number
    exact ⟨faulty, number, rfl⟩

/-! ### Reports -/

theorem shows_failure (message error file : String) :
  Output.Shows [failure message error file] []
  := .log _

theorem shows_assembled (file : String) (chunk : Chunk) :
  Output.Shows [assembled file chunk] []
  := .log _

/-- Where the walk ends with an error, the listing is broken off there and the error is shown. -/
theorem showListing_of_error {chunk : Chunk} {instructions : List Instruction}
    {error : DecodeError} (items : chunk.walk = instructions.map .ok ++ [.error error])
    (file name : String) :
  ∃ output, Output.Shows output (Listing.header name :: chunk.instructionLines none instructions)
    ∧ showListing file name chunk
      = ⟨output ++ [.err (file ++ ": " ++ ListingError.message (.decode error))], 65⟩
  := by
  have shows := ((Output.shows_text
    (Listing.header name :: chunk.instructionLines none instructions)).append
    (ListingError.shows_events (.decode error) name)).append
    (shows_failure "Disassembly failed" (ListingError.message (.decode error)) file)
  rw [List.append_nil, List.append_nil] at shows
  refine ⟨_, shows, ?_⟩
  have offers : (chunk.writeListing name).Offers
      (Listing.joined (Listing.header name :: chunk.instructionLines none instructions)).toUTF8
      (.error (.decode error)) :=
    @Chunk.offers_writeListing _ _ (some error) items name
  rw [showListing, offers.run_unlimited]
  dsimp only [Writing.result]
  rw [textOf, fromUTF8?_toUTF8, Option.getD_some]
  rfl

section

variable {source : String} {width : IndexWidth}

theorem presents_listed {chunk : Chunk} {placements : List Placement}
    (lays : Lays source width chunk placements)
    (reach : ∀ placement ∈ placements, placement.Reaches) (file name : String) :
  (runFile file name width (.ok source)).Presents file name (.listed placements)
  := by
  have assembled := Assembly.assemble_eq_ok_iff.mpr lays.run_eq
  have items : chunk.walk = (placements.map Placement.instruction).map .ok
      ++ (none : Option DecodeError).toList.map .error := by
    rw [lays.assembles.walk_eq reach, List.map_map, Option.toList_none, List.map_nil,
      List.append_nil]
    rfl
  have shows := shows_runFile assembled (Chunk.listing_eq items name) file
  rw [← List.append_nil placements] at lays
  constructor
  · exact shows.exitCode_eq
  · rw [shows.output.stdout_eq]
    exact .listed lays.shown_instructionLines
  · rw [shows.output.errors_eq]
    apply Outcome.Reports.listed

theorem presents_refused {error : Assembly.AssemblyError}
    (failed : Assembly.assemble source width = .error error) (file name : String) :
  (runFile file name width (.ok source)).Presents file name (.refused error.line error.fault)
  := by
  have shows := error.shows_events.append
    (shows_failure "Assembly failed" error.message file)
  have presents := Report.presents_append_err shows (@Outcome.Lists.refused name _ _)
    (Outcome.reports_message file error)
  rw [List.append_assoc] at presents
  rw [runFile, runSource, failed]
  exact presents

theorem presents_brokenOff {chunk : Chunk} {before later : List Placement}
    {placement : Placement} {distance : Nat}
    (lays : Lays source width chunk (before ++ placement :: later))
    (reach : ∀ earlier ∈ before, earlier.Reaches)
    (written : placement.line.backDistance? = some distance)
    (too_far : placement.instruction.nextOffset < distance) (file name : String) :
  (runFile file name width (.ok source)).Presents file name
    (.brokenOff before placement.instruction.offset distance)
  := by
  have items : chunk.walk = (before.map Placement.instruction).map .ok
      ++ [.error (.jumpOutOfRange placement.instruction.offset distance)] := by
    rw [lays.assembles.walk_eq_of_too_far reach written too_far, List.map_map]
    rfl
  obtain ⟨output, shows, shown⟩ := showListing_of_error items file name
  have presents := Report.presents_append_err ((shows_assembled file chunk).append shows)
    (.brokenOff placement.instruction.offset distance lays.shown_instructionLines)
    (Outcome.reports_jumpOutOfRange file before placement.instruction.offset distance)
  rw [runFile, runSource, Assembly.assemble_eq_ok_iff.mpr lays.run_eq]
  dsimp only
  rw [shown]
  exact presents

/-- A run shows its outcome. -/
theorem Outcome.Arises.presents {outcome : Outcome} (arises : outcome.Arises source width)
    (file name : String) :
  (runFile file name width (.ok source)).Presents file name outcome
  := by
  cases arises with
  | listed lays reach => apply presents_listed lays reach
  | @refused before rest text chunk after error split assembled failed =>
    obtain ⟨faulty, number, -⟩ := Assembly.run_assembleLine_eq_error_iff.mp failed
    have run_eq := @Assembly.run_assembleLines_of_failing_line _ rest _ _ _ _ _ assembled faulty
    rw [← split, Nat.add_comm] at run_eq
    apply presents_refused (Assembly.assemble_eq_error_iff.mpr ⟨chunk, run_eq⟩)
  | brokenOff lays reach written too_far => apply presents_brokenOff lays reach written too_far

end

/-- A run on a file that can be read has an outcome and shows it, by its exit status, which is 0 or
65, on standard output and on standard error. The exit status is 0 exactly if all lines are
assembled and no line jumps back beyond the start of the code. The lines of the listing are then
those of the source text that are not blank. -/
theorem runFile_presents (file name : String) (width : IndexWidth) (source : String) :
  (∃ outcome : Outcome, outcome.Arises source width)
    ∧ (∀ outcome : Outcome, outcome.Arises source width →
      (runFile file name width (.ok source)).Presents file name outcome)
    ∧ ((runFile file name width (.ok source)).exitCode = 0
      ∨ (runFile file name width (.ok source)).exitCode = 65)
    ∧ ((runFile file name width (.ok source)).exitCode = 0
      ↔ ∃ placements, (Outcome.listed placements).Arises source width)
    ∧ ∀ placements, (Outcome.listed placements).Arises source width →
      (placements.map fun placement => placement.line.number)
        = (((sourceLines source).zipIdx 1).filter fun line =>
          ¬ Assembly.Blank line.1).map Prod.snd
  := by
  obtain ⟨outcome, arises⟩ := Outcome.exists_arises source width
  have presents := arises.presents file name
  refine ⟨⟨outcome, arises⟩, ?_, ?_, ?_, ?_⟩
  · intro other arises'
    apply arises'.presents
  · rw [presents.exitCode_eq]
    cases outcome with
    | listed placements => exact .inl rfl
    | refused number fault => exact .inr rfl
    | brokenOff placements offset distance => exact .inr rfl
  · constructor
    · intro success
      rw [presents.exitCode_eq] at success
      cases outcome with
      | listed placements => exact ⟨placements, arises⟩
      | refused number fault => cases success
      | brokenOff placements offset distance => cases success
    · rintro ⟨placements, arises'⟩
      rw [(arises'.presents file name).exitCode_eq]
      rfl
  · intro placements arises'
    cases arises' with
    | listed lays reach =>
      rw [lays.number_eq]
      apply Assembly.number_statementLines

end Program

end Bytecode
