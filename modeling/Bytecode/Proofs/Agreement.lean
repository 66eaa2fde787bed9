import Bytecode.Program
import Bytecode.Proofs.Session
import Bytecode.Proofs.Streaming

/-!
# Sessions and files

A session on the lines of a source text and a run on a file with that text agree. The lines of
texts that are joined by line feeds are these texts, `sourceLines_intercalate`. No line that is
assembled is a command, `Command.read_of_verdict`. What is decoded right after an instruction is
added is decoded in the finished chunk, too, `Chunk.Grows.walkFrom_of_encode`, so that a session
shows the instructions of the finished chunk one by one, `Session.run_assembled_lines`.
`Program.session_agrees_with_file` is the result for the whole program.
-/

namespace Bytecode

/-! ### The lines of a joined text -/

namespace Text

variable {α : Type} [BEq α] [LawfulBEq α] {feed ret : α}

/-- A text without a line feed goes into the line that has been begun. -/
theorem linesFrom_append {text : List α} (plain : feed ∉ text) (current rest : List α) :
  linesFrom feed ret current (text ++ rest)
    = linesFrom feed ret (text.reverse ++ current) rest
  := by
  induction text generalizing current with
  | nil => rfl
  | cons c text ih =>
    obtain ⟨other, plain⟩ := List.ne_and_not_mem_of_not_mem_cons plain
    rw [List.cons_append, linesFrom, if_neg (by simpa using Ne.symm other), ih plain,
      List.reverse_cons, List.append_assoc]
    rfl

theorem dropReturn_of_not_mem {line : List α} (plain : ret ∉ line) :
  dropReturn ret line = line
  := by
  apply if_neg
  intro ends
  apply plain
  apply List.mem_of_getLast?
  exact eq_of_beq ends

end Text

/-- The text has no line ending in it. -/
def Plain (line : String) : Prop :=
  '\n' ∉ line.toList ∧ '\r' ∉ line.toList

instance (line : String) : Decidable (Plain line) :=
  inferInstanceAs (Decidable (_ ∧ _))

theorem sourceLines_cons {line : String} (plain : Plain line) (rest : String) :
  sourceLines (line ++ "\n" ++ rest) = line :: sourceLines rest
  := by
  have text_eq : (line ++ "\n" ++ rest).toList = line.toList ++ '\n' :: rest.toList := by
    simp
  rw [sourceLines, text_eq, Text.lines, Text.linesFrom_append plain.1, Text.linesFrom,
    if_pos (beq_self_eq_true _), List.append_nil, List.reverse_reverse,
    Text.dropReturn_of_not_mem plain.2, List.map_cons, String.ofList_toList]
  rfl

theorem sourceLines_of_plain {line : String} (plain : Plain line) :
  sourceLines line = if line = "" then [] else [line]
  := by
  have read : Text.linesFrom '\n' '\r' [] (line.toList ++ [])
      = Text.linesFrom '\n' '\r' (line.toList.reverse ++ []) [] :=
    Text.linesFrom_append plain.1 [] []
  rw [List.append_nil, List.append_nil] at read
  rw [sourceLines, Text.lines, read, Text.linesFrom, List.isEmpty_reverse, List.reverse_reverse]
  by_cases empty : line = ""
  · rw [if_pos empty, empty]
    rfl
  · rw [if_neg empty, if_neg (by simpa using empty), List.map_singleton, String.ofList_toList]

/-- The lines of texts that are joined by line feeds are these texts, but an empty text at the
end is no line. -/
theorem sourceLines_intercalate {lines : List String} (plain : ∀ line ∈ lines, Plain line) :
  sourceLines ("\n".intercalate lines) = lines
    ∨ sourceLines ("\n".intercalate lines) ++ [""] = lines
  := by
  induction lines with
  | nil => exact .inl rfl
  | cons line rest ih =>
    obtain ⟨plain_line, plain_rest⟩ := List.forall_mem_cons.mp plain
    cases rest with
    | nil =>
      rw [String.intercalate_singleton, sourceLines_of_plain plain_line]
      by_cases empty : line = ""
      · right
        rw [if_pos empty, empty]
        rfl
      · left
        rw [if_neg empty]
    | cons next rest =>
      rw [String.intercalate_cons_cons, sourceLines_cons plain_line]
      rcases ih plain_rest with same | ended
      · left
        rw [same]
      · right
        rw [List.cons_append, ended]

namespace Assembly

/-- Texts that are joined and assembled are assembled one by one. -/
theorem run_assembleLines_of_assemble {lines : List String}
    (plain : ∀ line ∈ lines, Plain line) {width : IndexWidth} {chunk : Chunk}
    (assembled : assemble ("\n".intercalate lines) width = .ok chunk) :
  (assembleLines lines 1).run (Chunk.empty width) = .ok () chunk
  := by
  have run := assemble_eq_ok_iff.mp assembled
  rcases sourceLines_intercalate plain with same | ended
  · rw [same] at run
    exact run
  · rw [← ended, run_assembleLines_append, run]
    rfl

end Assembly

/-! ### Decoding as the chunk grows -/

namespace Chunk.Grows

variable {chunk later : Chunk} (grows : chunk.Grows later)

include grows

theorem length_le :
  chunk.length ≤ later.length
  := by
  have shorter := grows.code_isPrefix.length_le
  rw [Array.length_toList, Array.length_toList] at shorter
  exact shorter

/-- An instruction whose bytes are there is decoded now and later, or it jumps back too far and
is never decoded. -/
theorem decode_of_encode {instruction : Instruction} (fits : instruction.Fits chunk.constants)
    (found : instruction.encode <+: chunk.code.toList.drop instruction.offset) :
  (chunk.decode instruction.offset = .ok instruction
      ∧ later.decode instruction.offset = .ok instruction)
    ∨ ∃ error, later.decode instruction.offset = .error error
  := by
  by_cases lands : instruction.Lands
  · left
    have decoded := decode_eq_ok_iff.mpr ⟨rfl, fits, lands, found⟩
    exact ⟨decoded, grows.decode_eq_ok decoded⟩
  · right
    obtain ⟨distance, _, -, -, -, failed⟩ := decode_of_not_lands fits lands found
    rw [grows.decode_eq, failed]
    · exact ⟨_, rfl⟩
    · simp [failed]
    · simp [failed]

/-- Where the walk over the later chunk goes on without error behind the bytes of an instruction
at the end of the code, it first gives this instruction, which is already decoded now. -/
theorem walkFrom_of_encode {instruction : Instruction} (fits : instruction.Fits chunk.constants)
    (found : chunk.code.toList.drop instruction.offset = instruction.encode)
    {instructions : List Instruction}
    (walked : later.walkFrom instruction.offset = instructions.map .ok) :
  ∃ rest, instructions = instruction :: rest
    ∧ chunk.decode instruction.offset = .ok instruction
    ∧ later.walkFrom chunk.length = rest.map .ok
  := by
  have bytes : instruction.encode <+: chunk.code.toList.drop instruction.offset :=
    ⟨[], by rw [found, List.append_nil]⟩
  have inside := offset_lt_length fits bytes
  have stop : instruction.nextOffset = chunk.length := by
    have size := congrArg List.length found
    rw [List.length_drop, Array.length_toList, Instruction.length_encode fits] at size
    rw [Instruction.nextOffset, ← size]
    exact Nat.add_sub_cancel' (Nat.le_of_lt inside)
  rcases grows.decode_of_encode fits bytes with ⟨decoded, final⟩ | ⟨error, failed⟩
  · rw [walkFrom_of_decode_eq_ok final, stop] at walked
    cases instructions with
    | nil => cases walked
    | cons first rest =>
      obtain ⟨same, walked_rest⟩ := List.cons.inj walked
      obtain rfl := Except.ok.inj same
      exact ⟨rest, rfl, decoded, walked_rest⟩
  · rw [walkFrom_of_decode_eq_error (Nat.lt_of_lt_of_le inside grows.length_le) failed] at walked
    cases instructions with
    | nil => cases walked
    | cons first rest => cases walked

end Chunk.Grows

/-! ### Lines that are assembled -/

/-- A word without blanks, semicolons and quotes is the name on a line that trims to it. -/
theorem Trims.splitLine_eq {line word : String} (trims : Trims line word)
    (nonempty : word.toList ≠ []) (no_blank : ∀ c ∈ word.toList, Text.isBlank c = false)
    (no_comment : ';' ∉ word.toList) :
  Assembly.splitLine line.toList = some (word.toList, none)
  := by
  have kept : ';' ∉ line.toList := by
    obtain ⟨before, after, line_eq, blank_before, blank_after⟩ := trims.between
    rw [line_eq, List.mem_append, List.mem_append]
    rintro (member | member | member)
    · exact absurd (blank_before _ member) (by decide)
    · exact no_comment member
    · exact absurd (blank_after _ member) (by decide)
  apply Assembly.splitLine_eq_iff.mpr
  refine .statement ⟨?_, .inl rfl⟩ trims nonempty (.bare no_blank)
  intro before after cut
  apply absurd _ kept
  rw [cut]
  simp

/-- No command is a statement. -/
theorem Command.faulty_words :
  ∀ word ∈ words, word.toList ≠ [] ∧ word.toList.all (!Text.isBlank ·) = true
    ∧ ';' ∉ word.toList ∧ Op.ofMnemonic? word.toList = none
  := by
  decide +kernel

/-- No line that is assembled is a command. -/
theorem Assembly.not_trims_of_verdict {line : String} {poolSize : Nat} {width : IndexWidth}
    {found : Option Statement} (passed : verdict poolSize width line.toList = .ok found) :
  ∀ word ∈ Command.words, ¬ Trims line word
  := by
  intro word member trims
  obtain ⟨nonempty, one_word, no_comment, unknown⟩ := Command.faulty_words word member
  have no_blank : ∀ c ∈ word.toList, Text.isBlank c = false := by
    simpa using one_word
  have layout := trims.splitLine_eq nonempty no_blank no_comment
  rw [verdict_of_unknown layout unknown] at passed
  cases passed

/-- No line that is assembled is taken for a command. -/
theorem Command.read_of_verdict {line : String} {poolSize : Nat} {width : IndexWidth}
    {found : Option Assembly.Statement}
    (passed : Assembly.verdict poolSize width line.toList = .ok found) :
  read line = .assemble line
  := by
  have plain := Assembly.not_trims_of_verdict passed
  rcases read_cases line with
    ⟨word | word, -⟩ | ⟨word, -⟩ | ⟨word, -⟩ | ⟨-, command⟩
  · exact absurd word (plain _ (by decide))
  · exact absurd word (plain _ (by decide))
  · exact absurd word (plain _ (by decide))
  · exact absurd word (plain _ (by decide))
  · exact command

/-! ### What is shown -/

/-- The output has these lines on standard output, and nothing else but log events. -/
structure Output.Shows (output : List Output) (lines : List String) : Prop where
  no_err : ∀ message, .err message ∉ output
  stdout_eq : Output.stdout output = Listing.joined lines

namespace Output.Shows

theorem append {output output' : List Output} {lines lines' : List String}
    (shows : Shows output lines) (shows' : Shows output' lines') :
  Shows (output ++ output') (lines ++ lines')
  where
  no_err := by
    intro message member
    rcases List.mem_append.mp member with first | second
    · exact shows.no_err message first
    · exact shows'.no_err message second
  stdout_eq := by
    have first := shows.stdout_eq
    have second := shows'.stdout_eq
    rw [stdout, Listing.joined] at first second
    rw [stdout, Listing.joined, List.map_append, List.map_append, String.join_append,
      String.join_append, first, second]

theorem log (event : Log.Event) :
  Shows [.log event] []
  where
  no_err := by simp
  stdout_eq := rfl

theorem lines (texts : List String) :
  Shows (texts.map Output.line) texts
  where
  no_err := by simp [Output.line]
  stdout_eq := by
    rw [stdout, Listing.joined, List.map_map]
    rfl

end Output.Shows

/-- The line that shows an instruction when it is added. -/
def Instruction.shown (instruction : Instruction) : String :=
  Text.offset instruction.offset ++ " " ++ instruction.text

theorem Session.echo_eq {chunk : Chunk} {offset : Nat} {instruction : Instruction}
    (decoded : chunk.decode offset = .ok instruction) :
  echo chunk offset = .line instruction.shown
  := by
  obtain ⟨rfl, -⟩ := Chunk.decode_eq_ok_iff.mp decoded
  rw [echo, decoded]
  rfl

namespace Session

open Assembly (Statement assembleLines absorb verdict)

theorem step_of_verdict {line : String} {session : Session} {found : Option Statement}
    (passed : verdict session.chunk.poolSize session.chunk.indexWidth line.toList = .ok found)
    (name : String) :
  session.step name line
    = (found.elim [] fun statement =>
        [echo (statement.place (session.lineCount + 1) session.chunk) session.chunk.length],
      some ⟨absorb (session.lineCount + 1) session.chunk found, session.lineCount + 1⟩)
  := by
  have entered := session.enter_counted line
  rw [counted] at entered
  rw [step, Command.read_of_verdict passed]
  dsimp only
  rw [entered, assembled, passed]
  cases found with
  | none => rfl
  | some statement => rfl

theorem shows_request :
  Output.Shows [request] []
  := .log _

/-- What a line adds is shown as the walk over the finished chunk gives it. -/
theorem shows_absorbed {text : List Char} {chunk final : Chunk} {found : Option Statement}
    (passed : verdict chunk.poolSize chunk.indexWidth text = .ok found) {number : Nat}
    (grows : (absorb number chunk found).Grows final) {instructions : List Instruction}
    (walked : final.walkFrom chunk.length = instructions.map .ok) :
  ∃ added rest, instructions = added ++ rest
    ∧ Output.Shows
      (found.elim [] fun statement => [echo (statement.place number chunk) chunk.length])
      (added.map Instruction.shown)
    ∧ final.walkFrom (absorb number chunk found).length = rest.map .ok
  := by
  cases found with
  | none => exact ⟨[], instructions, rfl, .lines [], walked⟩
  | some statement =>
    replace grows : (statement.place number chunk).Grows final := grows
    obtain ⟨-, offset_eq, fits⟩ := Assembly.extends_of_verdict passed number
    replace fits : (statement.instruction chunk.length chunk.poolSize).Fits
        (statement.place number chunk).constants := fits
    have found : (statement.place number chunk).code.toList.drop chunk.length
        = (statement.instruction chunk.length chunk.poolSize).encode := by
      apply Chunk.drop_code_extend
    generalize statement.instruction chunk.length chunk.poolSize = instruction at *
    rw [← offset_eq] at walked found
    obtain ⟨rest, rfl, decoded, walked_rest⟩ := grows.walkFrom_of_encode fits found walked
    use [instruction], rest, rfl
    rw [← offset_eq, Option.elim_some, echo_eq decoded]
    exact ⟨.lines [instruction.shown], walked_rest⟩

/-- A session on lines that are assembled shows the instructions that they add, as they are in the
finished chunk. -/
theorem run_assembled_lines (name : String) {lines : List String} {session : Session}
    {final : Chunk}
    (run_eq : (assembleLines lines (session.lineCount + 1)).run session.chunk = .ok () final)
    {instructions : List Instruction}
    (walked : final.walkFrom session.chunk.length = instructions.map .ok)
    (later : List (Option String)) :
  ∃ output, Output.Shows output (instructions.map Instruction.shown)
    ∧ run name session (lines.map some ++ later)
      = (output ++ (run name ⟨final, session.lineCount + lines.length⟩ later).1,
        (run name ⟨final, session.lineCount + lines.length⟩ later).2)
  := by
  -- The walk over the finished chunk starts where the code of the session ends, so each line
  -- takes its instruction from the front of the walk.
  induction lines generalizing session instructions with
  | nil =>
    cases run_eq
    rw [Chunk.walkFrom_length] at walked
    obtain rfl := List.map_eq_nil_iff.mp walked.symm
    exact ⟨[], .lines [], rfl⟩
  | cons line rest ih =>
    obtain ⟨found, passed, run_eq⟩ := Assembly.verdict_of_run_cons run_eq
    obtain ⟨_, _, _, adds⟩ := Assembly.adds_assembleLines run_eq
    obtain ⟨added, others, rfl, shows_line, walked_rest⟩ :=
      shows_absorbed passed adds.grows walked
    obtain ⟨output, shows_rest, run_rest⟩ :=
      @ih ⟨absorb (session.lineCount + 1) session.chunk found, session.lineCount + 1⟩
        run_eq _ walked_rest
    have shows_all := (shows_request.append shows_line).append shows_rest
    rw [List.nil_append, ← List.map_append] at shows_all
    refine ⟨_, shows_all, ?_⟩
    rw [List.map_cons, List.cons_append, run_cons (step_of_verdict passed name), run_rest,
      List.length_cons, Nat.add_assoc, Nat.add_comm 1, ← List.append_assoc]
    rfl

end Session

/-- A sink without a limit takes all bytes that are offered. -/
theorem Writing.Offers.run_unlimited {program : Writing Nat} {bytes : ByteArray}
    {ending : Except ListingError Nat} (offers : program.Offers bytes ending) :
  program.run {} = result { written := bytes } ending
  := by
  have taken : Sink.accept {} bytes = { written := bytes } :=
    congrArg (Sink.mk · none) ByteArray.empty_append
  rw [offers, taken]
  rfl

/-- Every line of a listing but the first has the offset, the source line and the text of its
instruction. -/
theorem Chunk.getElem?_instructionLines (chunk : Chunk) (previous : Option Nat)
    {instructions : List Instruction} {index : Nat} {instruction : Instruction}
    (found : instructions[index]? = some instruction) :
  ∃ before, (chunk.instructionLines previous instructions)[index]?
    = some (Text.offset instruction.offset ++ " "
      ++ Listing.mark (chunk.lineAt instruction.offset) before ++ " " ++ instruction.text)
  := by
  obtain ⟨before, earlier⟩ := chunk.exists_before previous found
  use before
  rw [← Listing.line_eq]
  apply chunk.getElem?_instructionLines_of_before found earlier

namespace Program

open Assembly (assemble assembleLine)

/-- The run ends normally and shows these lines. -/
structure Report.Shows (report : Report) (lines : List String) : Prop where
  exitCode_eq : report.exitCode = 0
  output : Output.Shows report.output lines

theorem fromUTF8?_toUTF8 (text : String) :
  String.fromUTF8? text.toUTF8 = some text
  := dif_pos text.isValidUTF8

/-- A listing that can be made is written as a whole. -/
theorem showListing_eq {chunk : Chunk} {name : String} {listing : List String}
    (listed : chunk.listing name = .ok listing) (file : String) :
  showListing file name chunk = ⟨[.out (Listing.joined listing)], 0⟩
  := by
  obtain ⟨instructions, walked, rfl, -⟩ := Chunk.of_listing_eq_ok listed
  have items : chunk.walk
      = instructions.map .ok ++ (none : Option DecodeError).toList.map .error := by
    rw [walked, Option.toList_none, List.map_nil, List.append_nil]
  have run := (Chunk.offers_writeListing items name).run_unlimited
  rw [showListing, run, Option.elim_none]
  dsimp only [Writing.result]
  rw [textOf, fromUTF8?_toUTF8, Option.getD_some]

theorem shows_runFile {source : String} {width : IndexWidth} {chunk : Chunk} {name : String}
    {listing : List String} (assembled : assemble source width = .ok chunk)
    (listed : chunk.listing name = .ok listing) (file : String) :
  (runFile file name width (.ok source)).Shows listing
  := by
  rw [runFile, runSource, assembled]
  dsimp only
  rw [showListing_eq listed]
  constructor
  · rfl
  · constructor
    · intro message
      simp [Program.assembled]
    · simp [Output.stdout, Output.outText, Program.assembled]

/-- A session on lines that are assembled and then on a line that lists the chunk shows the
instructions and then the listing. -/
theorem shows_runSession {lines : List String} {width : IndexWidth} {chunk : Chunk}
    {name : String} {listing : List String}
    (run : (Assembly.assembleLines lines 1).run (Chunk.empty width) = .ok () chunk)
    (listed : chunk.listing name = .ok listing) {instructions : List Instruction}
    (walked : chunk.walk = instructions.map .ok) :
  (runSession name width ((lines ++ [":dump"]).map some)).Shows
    (instructions.map Instruction.shown ++ listing)
  := by
  have walked_all : chunk.walkFrom (Chunk.empty width).length = instructions.map .ok := walked
  obtain ⟨output, shows, run_eq⟩ :=
    @Session.run_assembled_lines name lines (Session.start width) chunk run instructions walked_all
      [some ":dump"]
  have dumps : Trims ":dump" ":dump" := by
    decide +kernel
  have dumped : Session.dump name chunk = listing.map Output.line := by
    rw [Session.dump, listed]
  rw [List.map_append, List.map_singleton, runSession, run_eq,
    Session.run_cons (Session.step_of_dump dumps name _)]
  dsimp only
  rw [dumped]
  have shows_dump := (Session.shows_request.append (.lines listing)).append Session.shows_request
  rw [List.nil_append, List.append_nil] at shows_dump
  exact ⟨rfl, shows.append shows_dump⟩

/-- Where the lines of a source text are assembled and can be listed, a session on these lines and
then on a line that lists the chunk ends normally. It shows each instruction as the listing does,
without the source line, and then the listing, which is what a run on a file with the source text
shows. No line that is assembled is taken for a command. -/
theorem session_agrees_with_file {lines : List String} (plain : ∀ line ∈ lines, Plain line)
    {width : IndexWidth} {chunk : Chunk} {name : String} {listing : List String}
    (assembled : assemble ("\n".intercalate lines) width = .ok chunk)
    (listed : chunk.listing name = .ok listing) :
  ∃ instructions : List Instruction, chunk.walk = instructions.map .ok
    ∧ listing.length = instructions.length + 1
    ∧ (∀ index instruction, instructions[index]? = some instruction →
      ∃ before, listing[index + 1]?
        = some (Text.offset instruction.offset ++ " "
          ++ Listing.mark (chunk.lineAt instruction.offset) before ++ " " ++ instruction.text))
    ∧ (runSession name width ((lines ++ [":dump"]).map some)).Shows
      (instructions.map (fun instruction =>
        Text.offset instruction.offset ++ " " ++ instruction.text) ++ listing)
    ∧ (∀ file, (runFile file name width (.ok ("\n".intercalate lines))).Shows listing)
    ∧ ∀ text number before result after,
      (assembleLine text number).run before = .ok result after →
      Command.read text = .assemble text
  := by
  obtain ⟨instructions, walked, listing_eq, -⟩ := Chunk.of_listing_eq_ok listed
  use instructions, walked
  refine ⟨?_, ?_, ?_, ?_, ?_⟩
  · rw [listing_eq, List.length_cons, Chunk.length_instructionLines]
  · intro index instruction found
    rw [listing_eq, List.getElem?_cons_succ]
    apply chunk.getElem?_instructionLines none found
  · have run := Assembly.run_assembleLines_of_assemble plain assembled
    apply shows_runSession run listed walked
  · intro file
    apply shows_runFile assembled listed
  · intro text number before result after run
    rw [Assembly.run_assembleLine] at run
    cases passed : Assembly.verdict before.poolSize before.indexWidth text.toList with
    | error fault =>
      rw [passed] at run
      cases run
    | ok found => apply Command.read_of_verdict passed

/-- Lines with a comment, a semicolon in a string, a jump back, an empty line in between and one at
the end. -/
def sampleLines : List String :=
  ["constant \"n; m\"", "", "  OP_JUMP_IF_FALSE 4 ; skip", "loop 5", "return", ""]

def sampleChunk : Chunk where
  code := #[0, 0, 22, 0, 4, 23, 0, 5, 25]
  lines := { runs := #[⟨2, 1⟩, ⟨3, 3⟩, ⟨3, 4⟩, ⟨1, 5⟩], ends := #[2, 5, 8, 9] }
  constants := #[.str "n; m"]
  indexWidth := .wide

def sampleListing : List String :=
  [ "== demo ==",
    "0000    1 OP_CONSTANT         0 'n; m'",
    "0002    3 OP_JUMP_IF_FALSE    4 -> 9",
    "0005    4 OP_LOOP             5 -> 3",
    "0008    5 OP_RETURN" ]

theorem session_agrees_with_file_sample :
  (∀ line ∈ sampleLines, Plain line)
    ∧ assemble ("\n".intercalate sampleLines) .wide = .ok sampleChunk
    ∧ sampleChunk.listing "demo" = .ok sampleListing
    ∧ ∃ instructions : List Instruction, sampleChunk.walk = instructions.map .ok
      ∧ sampleListing.length = instructions.length + 1
      ∧ (∀ index instruction, instructions[index]? = some instruction →
        ∃ before, sampleListing[index + 1]?
          = some (Text.offset instruction.offset ++ " "
            ++ Listing.mark (sampleChunk.lineAt instruction.offset) before ++ " "
            ++ instruction.text))
      ∧ (runSession "demo" .wide ((sampleLines ++ [":dump"]).map some)).Shows
        (instructions.map (fun instruction =>
          Text.offset instruction.offset ++ " " ++ instruction.text) ++ sampleListing)
      ∧ (∀ file, (runFile file "demo" .wide (.ok ("\n".intercalate sampleLines))).Shows
        sampleListing)
      ∧ ∀ text number before result after,
        (assembleLine text number).run before = .ok result after →
        Command.read text = .assemble text
  := by
  have plain : ∀ line ∈ sampleLines, Plain line := by
    decide +kernel
  have assembled : assemble ("\n".intercalate sampleLines) .wide = .ok sampleChunk := by
    decide +kernel
  have listed : sampleChunk.listing "demo" = .ok sampleListing := by
    decide +kernel
  exact ⟨plain, assembled, listed, session_agrees_with_file plain assembled listed⟩

end Program

end Bytecode
