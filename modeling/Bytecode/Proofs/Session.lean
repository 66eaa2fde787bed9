import Bytecode.Proofs.Scanning
import Bytecode.Proofs.Widths
import Bytecode.Session

/-!
# Sessions

A session takes lines one by one. `Session.step_cases` gives what a line can do: end the session,
start it again, list the chunk, or be assembled. Lines that only list the chunk change nothing but
the count of lines, so that two sessions on the same other lines go the same way,
`Session.matches_turns`. `Session.reset_restarts_and_dump_observes` puts together what resetting
and listing do.
-/

namespace Bytecode

/-! ### Commands -/

/-- The line is this word, with blanks around it. -/
def Trims (line word : String) : Prop :=
  Text.Trimmed line.toList word.toList

theorem trims_iff {line word : String} :
  Trims line word ↔ String.ofList (Text.trim line.toList) = word
  := by
  rw [Trims, ← Text.trim_eq_iff, ← String.toList_inj, String.toList_ofList]

instance (line word : String) : Decidable (Trims line word) :=
  decidable_of_iff _ trims_iff.symm

theorem Trims.unique {line word other : String} (trims : Trims line word)
    (trims' : Trims line other) :
  word = other
  := by
  rw [trims_iff] at trims trims'
  rw [← trims, ← trims']

namespace Command

/-- The words that are commands. -/
def words : List String := ["exit", ":q", ":dump", ":reset"]

/-- What each of these words asks for. Any other line is assembled. -/
theorem read_cases (line : String) :
  ((Trims line "exit" ∨ Trims line ":q") ∧ read line = .exit)
    ∨ (Trims line ":dump" ∧ read line = .dump)
    ∨ (Trims line ":reset" ∧ read line = .reset)
    ∨ ((∀ word ∈ words, ¬ Trims line word)
      ∧ read line = .assemble line)
  := by
  simp only [trims_iff]
  fun_cases read line with
  | case1 word => exact .inl ⟨.inl word, rfl⟩
  | case2 word => exact .inl ⟨.inr word, rfl⟩
  | case3 word => exact .inr (.inl ⟨word, rfl⟩)
  | case4 word => exact .inr (.inr (.inl ⟨word, rfl⟩))
  | case5 not_exit not_quit not_dump not_reset =>
    right
    right
    right
    refine ⟨?_, rfl⟩
    simp only [words, List.forall_mem_cons]
    exact ⟨not_exit, not_quit, not_dump, not_reset, List.forall_mem_nil _⟩

end Command

namespace Session

open Assembly (Statement verdict)

/-! ### One line -/

/-- The session after one more line. -/
def counted (session : Session) : Session :=
  { session with lineCount := session.lineCount + 1 }

/-- What comes of a line that is assembled depends on the verdict on it. -/
def assembled (session : Session) (line : String) : List Output × Session :=
  match verdict session.chunk.poolSize session.chunk.indexWidth line.toList with
  | .error fault => (rejection ⟨session.lineCount + 1, fault⟩, session.counted)
  | .ok none => ([], session.counted)
  | .ok (some statement) =>
    let chunk := statement.place (session.lineCount + 1) session.chunk
    ([echo chunk session.chunk.length], { chunk, lineCount := session.lineCount + 1 })

theorem enter_counted (session : Session) (line : String) :
  session.counted.enter line = session.assembled line
  := by
  rw [enter, Assembly.run_assembleLine, assembled, counted]
  cases verdict session.chunk.poolSize session.chunk.indexWidth line.toList with
  | error fault => rfl
  | ok found =>
    cases found with
    | none => rfl
    | some statement => rfl

/-- What a line does to sessions. -/
theorem step_cases (name line : String) :
  ((Trims line "exit" ∨ Trims line ":q") ∧ ∀ session, step name session line = ([], none))
    ∨ (Trims line ":dump" ∧ ∀ session,
      step name session line = (dump name session.chunk, some session.counted))
    ∨ (Trims line ":reset" ∧ ∀ session,
      step name session line = ([], some (start session.chunk.indexWidth)))
    ∨ ((∀ word ∈ Command.words, ¬ Trims line word) ∧ ∀ session,
      step name session line = ((session.assembled line).1, some (session.assembled line).2))
  := by
  rcases Command.read_cases line with
    ⟨word, command⟩ | ⟨word, command⟩ | ⟨word, command⟩ | ⟨words, command⟩
  · left
    use word
    intro session
    rw [step, command]
  · right
    left
    use word
    intro session
    rw [step, command]
    rfl
  · right
    right
    left
    use word
    intro session
    rw [step, command]
  · right
    right
    right
    use words
    intro session
    rw [step, command, ← enter_counted]
    rfl

theorem step_of_dump {line : String} (dumps : Trims line ":dump") (name : String)
    (session : Session) :
  session.step name line = (dump name session.chunk, some session.counted)
  := by
  rcases step_cases name line with
    ⟨word | word, -⟩ | ⟨-, step_eq⟩ | ⟨word, -⟩ | ⟨words, -⟩
  · exact absurd (dumps.unique word) (by decide)
  · exact absurd (dumps.unique word) (by decide)
  · apply step_eq
  · exact absurd (dumps.unique word) (by decide)
  · exact absurd dumps (words _ (by decide))

theorem step_of_reset {line : String} (resets : Trims line ":reset") (name : String)
    (session : Session) :
  session.step name line = ([], some (start session.chunk.indexWidth))
  := by
  rcases step_cases name line with
    ⟨word | word, -⟩ | ⟨word, -⟩ | ⟨-, step_eq⟩ | ⟨words, -⟩
  · exact absurd (resets.unique word) (by decide)
  · exact absurd (resets.unique word) (by decide)
  · exact absurd (resets.unique word) (by decide)
  · apply step_eq
  · exact absurd resets (words _ (by decide))

@[simp]
theorem indexWidth_assembled (session : Session) (line : String) :
  (session.assembled line).2.chunk.indexWidth = session.chunk.indexWidth
  := by
  rw [assembled]
  cases verdict session.chunk.poolSize session.chunk.indexWidth line.toList with
  | error fault => rfl
  | ok found =>
    cases found with
    | none => rfl
    | some statement => apply Chunk.indexWidth_extend

/-- A session goes on after every line that does not end it, with the same index width. -/
theorem step_of_not_exit {line : String} (stays : ¬ Trims line "exit" ∧ ¬ Trims line ":q")
    (name : String) (session : Session) :
  ∃ output next, session.step name line = (output, some next)
    ∧ next.chunk.indexWidth = session.chunk.indexWidth
  := by
  rcases step_cases name line with
    ⟨word | word, -⟩ | ⟨-, step_eq⟩ | ⟨-, step_eq⟩ | ⟨-, step_eq⟩
  · exact absurd word stays.1
  · exact absurd word stays.2
  · exact ⟨_, _, step_eq session, rfl⟩
  · exact ⟨_, _, step_eq session, rfl⟩
  · exact ⟨_, _, step_eq session, indexWidth_assembled session line⟩

/-! ### Resetting -/

theorem run_cons {name line : String} {session next : Session} {output : List Output}
    (step_eq : session.step name line = (output, some next)) (later : List (Option String)) :
  run name session (some line :: later)
    = (request :: output ++ (run name next later).1, (run name next later).2)
  := by
  rw [run, step_eq]

/-- What follows a reset does not depend on what was before it. -/
theorem run_append_reset {before : List String} {reset : String}
    (stay : ∀ line ∈ before, ¬ Trims line "exit" ∧ ¬ Trims line ":q")
    (resets : Trims reset ":reset") (name : String) (session : Session)
    (later : List (Option String)) :
  run name session (before.map some ++ some reset :: later)
    = ((run name session (before.map some)).1
        ++ (run name (start session.chunk.indexWidth) later).1,
      (run name (start session.chunk.indexWidth) later).2)
  := by
  induction before generalizing session with
  | nil =>
    apply run_cons (step_of_reset resets name session)
  | cons line rest ih =>
    obtain ⟨stays, stay⟩ := List.forall_mem_cons.mp stay
    obtain ⟨output, next, step_eq, width_eq⟩ := step_of_not_exit stays name session
    rw [List.map_cons, List.cons_append, run_cons step_eq, run_cons step_eq, ih stay next,
      width_eq, List.append_assoc]

/-! ### Listing -/

/-- A line that a session takes: the session before it, the line, its output and, unless the
session ends, the session after it. -/
structure Turn where
  before : Session
  line : String
  output : List Output
  after : Option Session

/-- The number of the line. -/
def Turn.number (turn : Turn) : Nat :=
  turn.before.lineCount + 1

/-- The turn of a session on a line. -/
def turn (name : String) (session : Session) (line : String) : Turn where
  before := session
  line := line
  output := (session.step name line).1
  after := (session.step name line).2

/-- The lines that a session takes, one after another, until it ends. -/
def turns (name : String) : Session → List String → List Turn
  | _, [] => []
  | session, line :: rest =>
    session.turn name line ::
      match (session.step name line).2 with
      | none => []
      | some next => turns name next rest

/-- The numbers of lines, counted again from one after a reset. -/
def numbers (count : Nat) : List String → List Nat
  | [] => []
  | line :: rest =>
    (count + 1) :: numbers (if Trims line ":reset" then 0 else count + 1) rest

/-- Whether the line does more than list the chunk. -/
def Turn.acts (turn : Turn) : Bool :=
  !Trims turn.line ":dump"

/-- The chunks of two sessions are the same but for their lines. -/
structure Alike (session other : Session) : Prop where
  code_eq : session.chunk.code = other.chunk.code
  constants_eq : session.chunk.constants = other.chunk.constants
  indexWidth_eq : session.chunk.indexWidth = other.chunk.indexWidth

/-- All bytes that are added by the turn have the number of its line. -/
def Turn.Adds (turn : Turn) (count : Nat) : Prop :=
  ∀ after ∈ turn.after, after.chunk.lines.toList
    = turn.before.chunk.lines.toList ++ List.replicate count turn.number

/-- Two turns of sessions on the same line go the same way, each with its own number: they show
the same, unless they complain of the same fault, and they add the same to the chunk. -/
structure Turn.Matches (turn other : Turn) : Prop where
  line_eq : turn.line = other.line
  output :
    turn.output = other.output
      ∨ ∃ fault, turn.output = rejection ⟨turn.number, fault⟩
        ∧ other.output = rejection ⟨other.number, fault⟩
  after : Option.Rel Alike turn.after other.after
  lines :
    (∃ count, turn.Adds count ∧ other.Adds count)
      ∨ ∃ width, turn.after = some (start width) ∧ other.after = some (start width)

theorem Turn.Adds.of_some {turn : Turn} {next : Session} {count : Nat}
    (goes_on : turn.after = some next)
    (lines_eq : next.chunk.lines.toList
      = turn.before.chunk.lines.toList ++ List.replicate count turn.number) :
  turn.Adds count
  := by
  intro after member
  rw [goes_on] at member
  obtain rfl := Option.some.inj member
  exact lines_eq

namespace Alike

theorem refl (session : Session) :
  session.Alike session
  where
  code_eq := rfl
  constants_eq := rfl
  indexWidth_eq := rfl

variable {session other : Session} (alike : session.Alike other)

include alike

theorem poolSize_eq :
  session.chunk.poolSize = other.chunk.poolSize
  := by
  rw [Chunk.poolSize, Chunk.poolSize, alike.constants_eq]

theorem length_eq :
  session.chunk.length = other.chunk.length
  := by
  rw [Chunk.length, Chunk.length, alike.code_eq]

/-- What is shown of an instruction does not depend on lines. -/
theorem echo_eq (offset : Nat) :
  echo session.chunk offset = echo other.chunk offset
  := by
  obtain ⟨code_eq, constants_eq, -⟩ := alike
  obtain ⟨⟨code, lines, constants, width⟩, count⟩ := session
  obtain ⟨⟨code', lines', constants', width'⟩, count'⟩ := other
  cases code_eq
  cases constants_eq
  rfl

/-- A statement is placed in the same way in both sessions, each time with its own line. -/
theorem place (statement : Statement) (line line' count count' : Nat) :
  Alike ⟨statement.place line session.chunk, count⟩ ⟨statement.place line' other.chunk, count'⟩
  where
  code_eq := by
    apply Array.toList_inj.mp
    rw [Statement.place, Statement.place, Chunk.toList_code_extend, Chunk.toList_code_extend,
      alike.code_eq, alike.length_eq, alike.poolSize_eq]
  constants_eq := by
    apply Array.toList_inj.mp
    rw [Statement.place, Statement.place, Chunk.constants_extend, Chunk.constants_extend,
      alike.constants_eq]
  indexWidth_eq := by
    rw [Statement.place, Statement.place, Chunk.indexWidth_extend, Chunk.indexWidth_extend,
      alike.indexWidth_eq]

/-- A line that leaves both chunks as they are. -/
theorem unchanged (line : String) {output output' : List Output}
    (shown : output = output'
      ∨ ∃ fault, output = rejection ⟨session.lineCount + 1, fault⟩
        ∧ output' = rejection ⟨other.lineCount + 1, fault⟩) :
  Turn.Matches ⟨session, line, output, some session.counted⟩
    ⟨other, line, output', some other.counted⟩
  where
  line_eq := rfl
  output := shown
  after := .some ⟨alike.code_eq, alike.constants_eq, alike.indexWidth_eq⟩
  lines := by
    left
    use 0
    constructor
    · apply Turn.Adds.of_some rfl
      apply (List.append_nil _).symm
    · apply Turn.Adds.of_some rfl
      apply (List.append_nil _).symm

/-- A line that is assembled in both sessions. -/
theorem assembled (line : String) :
  Turn.Matches ⟨session, line, (session.assembled line).1, some (session.assembled line).2⟩
    ⟨other, line, (other.assembled line).1, some (other.assembled line).2⟩
  := by
  rw [Session.assembled, Session.assembled, ← alike.poolSize_eq, ← alike.indexWidth_eq]
  cases verdict session.chunk.poolSize session.chunk.indexWidth line.toList with
  | error fault =>
    apply alike.unchanged
    exact .inr ⟨fault, rfl, rfl⟩
  | ok found =>
    cases found with
    | none =>
      apply alike.unchanged
      exact .inl rfl
    | some statement =>
      have placed := alike.place statement (session.lineCount + 1) (other.lineCount + 1)
        (session.lineCount + 1) (other.lineCount + 1)
      constructor
      · rfl
      · left
        dsimp only
        rw [placed.echo_eq, alike.length_eq]
      · exact .some placed
      · left
        use (statement.instruction session.chunk.length session.chunk.poolSize).encode.length
        constructor
        · apply Turn.Adds.of_some rfl
          apply Chunk.toList_lines_extend
        · rw [alike.length_eq, alike.poolSize_eq]
          apply Turn.Adds.of_some rfl
          apply Chunk.toList_lines_extend

/-- A line that does more than list the chunk goes the same way in both sessions. -/
theorem turn (name : String) {line : String} (acts : ¬ Trims line ":dump") :
  (session.turn name line).Matches (other.turn name line)
  := by
  rw [Session.turn, Session.turn]
  rcases step_cases name line with
    ⟨-, step_eq⟩ | ⟨word, -⟩ | ⟨-, step_eq⟩ | ⟨-, step_eq⟩
  · rw [step_eq, step_eq]
    constructor
    · rfl
    · exact .inl rfl
    · exact .none
    · exact .inl ⟨0, by simp [Turn.Adds], by simp [Turn.Adds]⟩
  · exact absurd word acts
  · rw [step_eq, step_eq, alike.indexWidth_eq]
    constructor
    · rfl
    · exact .inl rfl
    · exact .some (.refl _)
    · exact .inr ⟨_, rfl, rfl⟩
  · rw [step_eq, step_eq]
    apply alike.assembled

end Alike

/-- A line that lists the chunk is passed over, and the session is as it was but for the count. -/
theorem filter_turns_of_dump {line : String} (dumps : Trims line ":dump") (name : String)
    (session : Session) (rest : List String) :
  (turns name session (line :: rest)).filter Turn.acts
    = (turns name session.counted rest).filter Turn.acts
  := by
  have passed : (session.turn name line).acts = false := by
    simp [Turn.acts, turn, dumps]
  rw [turns, List.filter_cons_of_neg (by simp [passed]), step_of_dump dumps]

theorem Alike.counted_left {session other : Session} (alike : session.Alike other) :
  session.counted.Alike other
  := ⟨alike.code_eq, alike.constants_eq, alike.indexWidth_eq⟩

theorem Alike.counted_right {session other : Session} (alike : session.Alike other) :
  session.Alike other.counted
  := ⟨alike.code_eq, alike.constants_eq, alike.indexWidth_eq⟩

/-- Where all lines list the chunk, there is nothing but listing. -/
theorem filter_turns_of_dumps (name : String) {lines : List String}
    (dumps : lines.filter (!Trims · ":dump") = []) (session : Session) :
  (turns name session lines).filter Turn.acts = []
  := by
  induction lines generalizing session with
  | nil => rfl
  | cons line rest ih =>
    by_cases dumps' : Trims line ":dump"
    · rw [filter_turns_of_dump dumps']
      apply ih
      rw [← dumps, List.filter_cons_of_neg (by simpa using dumps')]
    · rw [List.filter_cons_of_pos (by simpa using dumps')] at dumps
      cases dumps

theorem filter_turns_of_acts {line : String} (acts : ¬ Trims line ":dump") (name : String)
    (session : Session) (rest : List String) :
  (turns name session (line :: rest)).filter Turn.acts
    = session.turn name line ::
      ((session.turn name line).after.elim [] fun next =>
        (turns name next rest).filter Turn.acts)
  := by
  rw [turns, List.filter_cons_of_pos (by simp [Turn.acts, turn, acts]), turn]
  dsimp only
  cases (session.step name line).2 with
  | none => rfl
  | some next => rfl

/-- Sessions that are alike go the same way on lines that are the same but for lines that list the
chunk. -/
theorem matches_turns (name : String) {lines lines' : List String}
    (same : lines.filter (!Trims · ":dump") = lines'.filter (!Trims · ":dump"))
    {session other : Session} (alike : session.Alike other) :
  List.Forall₂ Turn.Matches ((turns name session lines).filter Turn.acts)
    ((turns name other lines').filter Turn.acts)
  := by
  induction lines generalizing lines' session other with
  | nil =>
    rw [filter_turns_of_dumps name same.symm]
    exact .nil
  | cons line rest ih =>
    by_cases dumps : Trims line ":dump"
    · rw [filter_turns_of_dump dumps]
      apply ih _ alike.counted_left
      rw [← same, List.filter_cons_of_neg (by simpa using dumps)]
    · rw [List.filter_cons_of_pos (by simpa using dumps)] at same
      -- The other lines begin with some that list the chunk, up to the same line.
      induction lines' generalizing other with
      | nil => cases same
      | cons line' rest' ih' =>
        by_cases dumps' : Trims line' ":dump"
        · rw [filter_turns_of_dump dumps']
          apply ih' _ alike.counted_right
          rw [same, List.filter_cons_of_neg (by simpa using dumps')]
        · rw [List.filter_cons_of_pos (by simpa using dumps')] at same
          obtain ⟨rfl, same_rest⟩ := List.cons.inj same
          rw [filter_turns_of_acts dumps, filter_turns_of_acts dumps]
          have turned := alike.turn name dumps
          refine .cons turned ?_
          have after := turned.after
          generalize (session.turn name line).after = next at after ⊢
          generalize (other.turn name line).after = next' at after ⊢
          cases after with
          | none => exact .nil
          | some alike' => exact ih same_rest alike'

/-- The output of a run is that of its turns, each after a request. Another request meets the end
of the lines, unless the session has ended. -/
theorem run_eq_turns (name : String) (session : Session) (lines : List String) :
  run name session (lines.map some)
    = ((turns name session lines).flatMap (fun turn => request :: turn.output)
        ++ (if (turns name session lines).any (·.after.isNone) then [] else [request]),
      .finished)
  := by
  induction lines generalizing session with
  | nil => rfl
  | cons line rest ih =>
    rw [List.map_cons, run, turns, List.flatMap_cons, List.any_cons, turn]
    cases step_eq : session.step name line with
    | mk output after =>
      cases after with
      | none => simp
      | some next => simp [ih next]

theorem lineCount_assembled (session : Session) (line : String) :
  (session.assembled line).2.lineCount = session.lineCount + 1
  := by
  rw [assembled]
  cases verdict session.chunk.poolSize session.chunk.indexWidth line.toList with
  | error fault => rfl
  | ok found =>
    cases found with
    | none => rfl
    | some statement => rfl

/-- The lines that a session takes are numbered one after another. -/
theorem numbers_turns (name : String) (session : Session) (lines : List String) :
  (turns name session lines).map Turn.number <+: numbers session.lineCount lines
  := by
  induction lines generalizing session with
  | nil => apply List.prefix_refl
  | cons line rest ih =>
    rw [turns, numbers, List.map_cons]
    apply (List.prefix_cons_inj _).mpr
    rcases step_cases name line with
      ⟨-, step_eq⟩ | ⟨word, step_eq⟩ | ⟨word, step_eq⟩ | ⟨words, step_eq⟩
    · rw [step_eq]
      apply List.nil_prefix
    · rw [step_eq, if_neg (fun word' => absurd (word.unique word') (by decide))]
      apply ih
    · rw [step_eq, if_pos word]
      apply ih
    · rw [step_eq, if_neg (words _ (by decide)), ← lineCount_assembled session line]
      apply ih

/-! ### Both -/

/-- A reset starts the session again: the output of lines that do not end the session, a reset and
more lines is that of the lines before the reset and then that of a new session on the lines after
it. Listing the chunk leaves the chunk as it is and counts as one line. So lines that list the
chunk do not matter to the other lines: these go the same way with or without them, only that each
has its own number, and these numbers count all lines since the last reset. -/
theorem reset_restarts_and_dump_observes (name : String) :
  (∀ (width : IndexWidth) (before : List String) (reset : String) (later : List (Option String)),
      (∀ line ∈ before, ¬ Trims line "exit" ∧ ¬ Trims line ":q") → Trims reset ":reset" →
      run name (start width) (before.map some ++ some reset :: later)
        = ((run name (start width) (before.map some)).1 ++ (run name (start width) later).1,
          (run name (start width) later).2))
    ∧ (∀ (session : Session) (line : String), Trims line ":dump" →
      session.step name line
        = (dump name session.chunk,
          some ⟨session.chunk, session.lineCount + 1⟩))
    ∧ (∀ (session : Session) (lines lines' : List String),
      lines.filter (!Trims · ":dump") = lines'.filter (!Trims · ":dump") →
      List.Forall₂ Turn.Matches ((turns name session lines).filter Turn.acts)
        ((turns name session lines').filter Turn.acts))
    ∧ ∀ (session : Session) (lines : List String),
      (turns name session lines).map Turn.number <+: numbers session.lineCount lines
      ∧ run name session (lines.map some)
        = ((turns name session lines).flatMap (fun turn => request :: turn.output)
            ++ (if (turns name session lines).any (·.after.isNone) then [] else [request]),
          .finished)
  := by
  refine ⟨?_, ?_, ?_, ?_⟩
  · intro width before reset later stay resets
    apply run_append_reset stay resets
  · intro session line dumps
    apply step_of_dump dumps
  · intro session lines lines' same
    apply matches_turns name same (.refl session)
  · intro session lines
    exact ⟨numbers_turns name session lines, run_eq_turns name session lines⟩

end Session

end Bytecode
