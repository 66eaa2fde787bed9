import Bytecode.Proofs.Cursor

/-!
# Runs of a cursor

A cursor takes actions one after another, and it goes on after an action that fails.
`Cursor.trace` keeps, for every action of such a run, the cursor before it, what comes of it and the
cursor after it.

`Cursor.Step.Follows` lists what an action can do, and all else is read off this list:

* `Cursor.Step.Checked` is what a single action checks.
* `Cursor.Remembers` is what the cursor remembers of the actions before. It is kept along every run,
  `Cursor.remembers_trace`.
* `Cursor.run_checks_bounds` puts both together. It says which offset an error is about, and when
  there is less code left than is needed. The cursor may have jumped anywhere.
-/

namespace Bytecode.Cursor

/-! ### Bytes in a row -/

/-- Reads single bytes, one after another. -/
def readBytes (code : Array UInt8) : Nat → Reading (List UInt8)
  | 0 => return []
  | count + 1 => return (← readByte code) :: (← readBytes code count)

/-- Where there is room for some bytes, they can be read one by one. -/
theorem run_readBytes_of_room {code : Array UInt8} {count : Nat} {cursor : Cursor}
    (room : cursor.position + count ≤ code.size) :
  (readBytes code count).run cursor
    = .ok (code.extract cursor.position (cursor.position + count)).toList
        { cursor with position := cursor.position + count }
  := by
  induction count generalizing cursor with
  | zero => simp [readBytes]
  | succ count ih =>
    have inside : cursor.position < code.size := by omega
    have rest : cursor.position + 1 + count ≤ code.size := by omega
    rw [readBytes, EStateM.run_bind, run_readByte, Array.getElem?_eq_getElem inside]
    dsimp only
    rw [EStateM.run_bind, ih rest, extract_succ inside, Nat.add_right_comm]
    rfl

/-- Where there is no room for some bytes, one of them cannot be read. -/
theorem run_readBytes_of_short {code : Array UInt8} {count : Nat} {cursor : Cursor}
    (positive : 0 < count) (short : code.size < cursor.position + count) :
  ∃ error after, (readBytes code count).run cursor = .error error after
  := by
  induction count generalizing cursor with
  | zero => cases positive
  | succ count ih =>
    rw [readBytes, EStateM.run_bind, run_readByte]
    by_cases inside : cursor.position < code.size
    · have fails : ∃ error after,
          (readBytes code count).run { cursor with position := cursor.position + 1 }
            = .error error after := by
        apply ih
        · omega
        · dsimp only
          omega
      obtain ⟨error, after, failed⟩ := fails
      rw [Array.getElem?_eq_getElem inside]
      dsimp only
      rw [EStateM.run_bind, failed]
      exact ⟨error, after, rfl⟩
    · rw [Array.getElem?_eq_none (Nat.le_of_not_lt inside)]
      exact ⟨_, _, rfl⟩

/-! ### Numbers -/

/-- How many bytes a number is read from. -/
inductive Width where
  | one
  | two
  | three
  deriving DecidableEq

/-- The number of bytes. -/
def Width.count : Width → Nat
  | one => 1
  | two => 2
  | three => 3

theorem Width.count_pos (width : Width) :
  0 < width.count
  := by
  cases width <;> decide

/-- Reads a number of a width. -/
def readNumber (code : Array UInt8) : Width → Reading Nat
  | .one => return (← readByte code).toNat
  | .two => readNat code 2
  | .three => readNat code 3

/-- A number is read where there is room for its bytes. -/
theorem run_readNumber (code : Array UInt8) (width : Width) (cursor : Cursor) :
  (readNumber code width).run cursor =
    if cursor.position + width.count ≤ code.size then
      .ok (BigEndian.value (code.extract cursor.position (cursor.position + width.count)).toList)
        { cursor with position := cursor.position + width.count }
    else
      .error (.truncated cursor.start (cursor.needed width.count) (code.size - cursor.start)) cursor
  := by
  cases width with
  | two => apply run_readNat
  | three => apply run_readNat
  | one =>
    rw [readNumber, EStateM.run_bind, run_readByte, Width.count]
    by_cases inside : cursor.position < code.size
    · rw [if_pos (Nat.succ_le_of_lt inside), Array.getElem?_eq_getElem inside,
        extract_succ inside 0]
      simp [BigEndian.value]
    · have at_end := Nat.le_of_not_lt inside
      rw [if_neg (Nat.not_le_of_lt (Nat.lt_succ_of_le at_end)), Array.getElem?_eq_none at_end]

/-! ### Actions -/

/-- What a cursor can be asked to do. -/
inductive Action where
  /-- To begin the next instruction. -/
  | nextOp
  /-- To read a number. -/
  | read (width : Width)
  | jump (distance : Nat)
  | jumpBack (distance : Nat)
  deriving DecidableEq

/-- What an action gives. -/
inductive Answer where
  | op (op : Op)
  | number (n : Nat)
  /-- The cursor has moved. -/
  | moved
  deriving DecidableEq

/-- The program of an action. -/
def Action.program (code : Array UInt8) : Action → Reading Answer
  | nextOp => return .op (← Cursor.nextOp code)
  | read width => return .number (← readNumber code width)
  | jump distance => do
    Cursor.jump distance
    return .moved
  | jumpBack distance => do
    Cursor.jumpBack distance
    return .moved

/-- Where an action that succeeds moves a cursor from a position. -/
def Action.destination (position : Nat) : Action → Nat
  | nextOp => position + 1
  | read width => position + width.count
  | jump distance => position + distance
  | jumpBack distance => position - distance

/-- An action, with the cursors before and after it and what comes of it. -/
structure Step where
  action : Action
  before : Cursor
  outcome : Except DecodeError Answer
  after : Cursor

/-- The step of a cursor that takes an action. -/
def Action.step (code : Array UInt8) (action : Action) (cursor : Cursor) : Step :=
  match (action.program code).run cursor with
  | .ok answer after => ⟨action, cursor, .ok answer, after⟩
  | .error error after => ⟨action, cursor, .error error, after⟩

/-- The steps of a cursor that takes actions one after another, whether they fail or not. -/
def trace (code : Array UInt8) (cursor : Cursor) : List Action → List Step
  | [] => []
  | action :: rest =>
    action.step code cursor :: trace code (action.step code cursor).after rest

/-- What an action can do. -/
inductive Step.Follows (code : Array UInt8) : Step → Prop
  | begins {cursor : Cursor} {op : Op} (found : code[cursor.position]? = some op.toByte) :
      Follows code ⟨.nextOp, cursor, .ok (.op op),
        { position := cursor.position + 1, start := cursor.position, op := some op }⟩
  /-- There is no byte left. -/
  | ended {cursor : Cursor} (at_end : code.size ≤ cursor.position) :
      Follows code ⟨.nextOp, cursor, .error (.truncated cursor.position 1 0), cursor.begin⟩
  | unknown {cursor : Cursor} {byte : UInt8} (found : code[cursor.position]? = some byte)
      (nameless : ∀ op : Op, op.toByte ≠ byte) :
      Follows code ⟨.nextOp, cursor, .error (.unknownOpcode cursor.position byte), cursor.begin⟩
  | reads {cursor : Cursor} {width : Width}
      (room : cursor.position + width.count ≤ code.size) :
      Follows code ⟨.read width, cursor,
        .ok (.number
          (BigEndian.value
            (code.extract cursor.position (cursor.position + width.count)).toList)),
        { cursor with position := cursor.position + width.count }⟩
  /-- There are not enough bytes left. -/
  | short {cursor : Cursor} {width : Width}
      (beyond : code.size < cursor.position + width.count) :
      Follows code ⟨.read width, cursor,
        .error (.truncated cursor.start (cursor.needed width.count) (code.size - cursor.start)),
        cursor⟩
  | jumps {cursor : Cursor} {distance : Nat} :
      Follows code ⟨.jump distance, cursor, .ok .moved,
        { cursor with position := cursor.position + distance }⟩
  | jumpsBack {cursor : Cursor} {distance : Nat} (inside : distance ≤ cursor.position) :
      Follows code ⟨.jumpBack distance, cursor, .ok .moved,
        { cursor with position := cursor.position - distance }⟩
  /-- The jump would leave the code at its start. -/
  | tooFar {cursor : Cursor} {distance : Nat} (beyond : cursor.position < distance) :
      Follows code ⟨.jumpBack distance, cursor, .error (.jumpOutOfRange cursor.start distance),
        cursor⟩

@[simp]
theorem before_step (code : Array UInt8) (action : Action) (cursor : Cursor) :
  (action.step code cursor).before = cursor
  := by
  rw [Action.step]
  cases (action.program code).run cursor <;> rfl

theorem follows_step (code : Array UInt8) (action : Action) (cursor : Cursor) :
  (action.step code cursor).Follows code
  := by
  cases action with
  | nextOp =>
    simp only [Action.step, Action.program, EStateM.run_bind, run_nextOp]
    cases found : code[cursor.position]? with
    | none => exact .ended (Array.getElem?_eq_none_iff.mp found)
    | some byte =>
      cases known : Op.ofByte? byte with
      | none =>
        simp only [known]
        apply Step.Follows.unknown found
        rintro op rfl
        rw [Op.ofByte?_toByte] at known
        cases known
      | some op =>
        simp only [known]
        obtain rfl := Op.toByte_of_ofByte? known
        exact .begins found
  | read width =>
    simp only [Action.step, Action.program, EStateM.run_bind, run_readNumber]
    by_cases room : cursor.position + width.count ≤ code.size
    · rw [if_pos room]
      exact .reads room
    · rw [if_neg room]
      exact .short (Nat.lt_of_not_le room)
  | jump distance => exact .jumps
  | jumpBack distance =>
    simp only [Action.step, Action.program, EStateM.run_bind, run_jumpBack]
    by_cases inside : distance ≤ cursor.position
    · rw [if_pos inside]
      exact .jumpsBack inside
    · rw [if_neg inside]
      exact .tooFar (Nat.lt_of_not_le inside)

/-! ### What an action checks -/

/-- What an action checks, and what it does by that. -/
structure Step.Checked (code : Array UInt8) (step : Step) : Prop where
  /-- An action that fails leaves the cursor where it stands. -/
  stays : ∀ error, step.outcome = .error error → step.after.position = step.before.position
  moves : ∀ answer, step.outcome = .ok answer →
    step.after.position = step.action.destination step.before.position
  /-- An opcode is read exactly where its byte stands. -/
  begins_iff : step.action = .nextOp → ∀ op,
    (step.outcome = .ok (.op op) ↔ code[step.before.position]? = some op.toByte)
  /-- A read succeeds exactly if its bytes lie in the code. -/
  reads_iff : ∀ width, step.action = .read width →
    ((∃ answer, step.outcome = .ok answer) ↔ step.before.position + width.count ≤ code.size)
  /-- A read gives the number that its bytes stand for. -/
  reads : ∀ width answer, step.action = .read width → step.outcome = .ok answer →
    answer = .number
      (BigEndian.value
        (code.extract step.before.position (step.before.position + width.count)).toList)
  /-- A read succeeds exactly if so many single bytes can be read in a row. It gives the number
  that they stand for, and leaves the cursor as they do. -/
  reads_bytes_iff : ∀ width number after, step.action = .read width →
    ((step.outcome = .ok (.number number) ∧ step.after = after)
      ↔ ∃ bytes, (readBytes code width.count).run step.before = .ok bytes after
        ∧ number = BigEndian.value bytes)
  /-- A jump back fails exactly if it is longer than the code before the cursor. -/
  jumpsBack_iff : ∀ distance, step.action = .jumpBack distance →
    ((∃ error, step.outcome = .error error) ↔ step.before.position < distance)

namespace Step.Follows

variable {code : Array UInt8} {step : Step}

/-- What comes of beginning an instruction. -/
theorem outcome_eq_op_iff (follows : step.Follows code) (action : step.action = .nextOp)
    (op : Op) :
  step.outcome = .ok (.op op) ↔ code[step.before.position]? = some op.toByte
  := by
  cases follows with
  | begins found =>
    rw [found]
    constructor
    · rintro ⟨⟩
      rfl
    · intro same
      have names := congrArg Op.ofByte? (Option.some.inj same)
      rw [Op.ofByte?_toByte, Op.ofByte?_toByte] at names
      obtain rfl := Option.some.inj names
      rfl
  | ended at_end =>
    rw [Array.getElem?_eq_none at_end]
    constructor <;> rintro ⟨⟩
  | unknown found nameless =>
    rw [found]
    constructor
    · rintro ⟨⟩
    · intro same
      exact absurd (Option.some.inj same).symm (nameless op)
  | _ => cases action

/-- What comes of a read. -/
theorem of_read (follows : step.Follows code) {width : Width} (action : step.action = .read width) :
  (step.before.position + width.count ≤ code.size
      ∧ step.outcome = .ok (.number
        (BigEndian.value
          (code.extract step.before.position (step.before.position + width.count)).toList))
      ∧ step.after = { step.before with position := step.before.position + width.count })
    ∨ (code.size < step.before.position + width.count
      ∧ ∃ error, step.outcome = .error error)
  := by
  cases follows with
  | reads room =>
    obtain rfl := Action.read.inj action
    exact .inl ⟨room, rfl, rfl⟩
  | short beyond =>
    obtain rfl := Action.read.inj action
    exact .inr ⟨beyond, _, rfl⟩
  | _ => cases action

/-- What comes of a jump back. -/
theorem exists_error_iff (follows : step.Follows code) {distance : Nat}
    (action : step.action = .jumpBack distance) :
  (∃ error, step.outcome = .error error) ↔ step.before.position < distance
  := by
  cases follows with
  | jumpsBack inside =>
    obtain rfl := Action.jumpBack.inj action
    simp [Nat.not_lt_of_le inside]
  | tooFar beyond =>
    obtain rfl := Action.jumpBack.inj action
    simp [beyond]
  | _ => cases action

theorem of_ok (follows : step.Follows code) {answer : Answer}
    (given : step.outcome = .ok answer) :
  step.after.position = step.action.destination step.before.position
  := by
  cases follows with
  | begins found => rfl
  | reads room => rfl
  | jumps => rfl
  | jumpsBack inside => rfl
  | _ => cases given

/-- A step that fails does not move, and its error is about the instruction that was begun last. -/
theorem of_error (follows : step.Follows code) {error : DecodeError}
    (failed : step.outcome = .error error) :
  step.after.position = step.before.position ∧ error.offset = step.after.start
  := by
  cases follows with
  | ended at_end =>
    obtain rfl := Except.error.inj failed
    exact ⟨rfl, rfl⟩
  | unknown found nameless =>
    obtain rfl := Except.error.inj failed
    exact ⟨rfl, rfl⟩
  | short beyond =>
    obtain rfl := Except.error.inj failed
    exact ⟨rfl, rfl⟩
  | tooFar beyond =>
    obtain rfl := Except.error.inj failed
    exact ⟨rfl, rfl⟩
  | _ => cases failed

/-- A number is read exactly where its bytes can be read one by one. -/
theorem outcome_eq_number_iff (follows : step.Follows code) {width : Width}
    (action : step.action = .read width) (number : Nat) (after : Cursor) :
  step.outcome = .ok (.number number) ∧ step.after = after
    ↔ ∃ bytes, (readBytes code width.count).run step.before = .ok bytes after
      ∧ number = BigEndian.value bytes
  := by
  rcases follows.of_read action with ⟨room, outcome, stop⟩ | ⟨beyond, error, outcome⟩
  · rw [run_readBytes_of_room room, outcome, stop]
    constructor
    · rintro ⟨⟨⟩, rfl⟩
      exact ⟨_, rfl, rfl⟩
    · rintro ⟨_, ⟨⟩, rfl⟩
      exact ⟨rfl, rfl⟩
  · obtain ⟨_, _, failed⟩ := run_readBytes_of_short width.count_pos beyond
    rw [failed, outcome]
    constructor
    · rintro ⟨⟨⟩, _⟩
    · rintro ⟨_, ⟨⟩, _⟩

theorem checked (follows : step.Follows code) :
  step.Checked code
  where
  stays error failed := (follows.of_error failed).1
  moves answer given := follows.of_ok given
  begins_iff action op := follows.outcome_eq_op_iff action op
  reads_iff width action := by
    rcases follows.of_read action with ⟨room, outcome, -⟩ | ⟨beyond, error, outcome⟩
    · simp [outcome, room]
    · simp [outcome, Nat.not_le_of_lt beyond]
  reads width answer action given := by
    rcases follows.of_read action with ⟨-, outcome, -⟩ | ⟨-, error, outcome⟩
    · rw [outcome] at given
      symm
      apply Except.ok.inj given
    · rw [outcome] at given
      cases given
  reads_bytes_iff width number after action := follows.outcome_eq_number_iff action number after
  jumpsBack_iff distance action := follows.exists_error_iff action

end Step.Follows

/-! ### Too little code -/

/-- A read that fails needs more code than there is from the start of the instruction on, unless an
opcode was read whose instruction lies in the code as a whole. -/
theorem lt_needed_iff {cursor : Cursor} {size count : Nat} (positive : 0 < count)
    (beyond : size < cursor.position + count) :
  size - cursor.start < cursor.needed count
    ↔ ∀ op, cursor.op = some op → size < cursor.start + op.shape.length
  := by
  rw [needed]
  cases cursor.op with
  | none =>
    simp only [reduceCtorEq, false_implies, implies_true, iff_true]
    omega
  | some op =>
    have length_pos := op.shape.length_pos
    simp only [Option.some.injEq, forall_eq']
    omega

/-- What is reported where there is too little code. -/
theorem Step.Follows.of_truncated {code : Array UInt8} {step : Step} (follows : step.Follows code)
    {place needed available : Nat}
    (failed : step.outcome = .error (.truncated place needed available)) :
  available = code.size - place
    ∧ code.size < step.action.destination step.before.position
    ∧ (available < needed
      ↔ ∀ op, step.after.op = some op → code.size < place + op.shape.length)
  := by
  cases follows with
  | ended at_end =>
    cases failed
    refine ⟨?_, Nat.lt_succ_of_le at_end, ?_⟩
    · symm
      apply Nat.sub_eq_zero_of_le at_end
    · simp [begin, atOffset]
  | short beyond =>
    cases failed
    exact ⟨rfl, beyond, lt_needed_iff (Width.count_pos _) beyond⟩
  | _ => cases failed

/-! ### What a cursor remembers -/

/-- The latest step that was to begin an instruction. -/
def latest? (steps : List Step) : Option Step :=
  (steps.filter fun step => step.action = .nextOp).getLast?

/-- Where the latest step that was to begin an instruction stood. Without such a step it is where
the steps start. -/
def startAfter (offset : Nat) (steps : List Step) : Nat :=
  (latest? steps).elim offset fun step => step.before.position

/-- The opcode that a step has read. -/
def Step.op? (step : Step) : Option Op :=
  match step.outcome with
  | .ok (.op op) => some op
  | _ => none

/-- The opcode that the latest step that was to begin an instruction has read. -/
def opAfter (steps : List Step) : Option Op :=
  (latest? steps).bind Step.op?

theorem latest?_append (steps : List Step) (step : Step) :
  latest? (steps ++ [step]) = if step.action = .nextOp then some step else latest? steps
  := by
  rw [latest?, latest?, List.filter_append]
  by_cases begins : step.action = .nextOp
  · simp [begins]
  · simp [begins]

/-- The cursor remembers the start and the opcode of the instruction that was begun last. -/
structure Remembers (offset : Nat) (steps : List Step) (cursor : Cursor) : Prop where
  start_eq : cursor.start = startAfter offset steps
  op_eq : cursor.op = opAfter steps

theorem remembers_atOffset (offset : Nat) :
  Remembers offset [] (atOffset offset)
  := ⟨rfl, rfl⟩

/-- Every step keeps what the cursor remembers up to date. -/
theorem Step.Follows.remembers {code : Array UInt8} {step : Step} (follows : step.Follows code)
    {offset : Nat} {steps : List Step} (remembers : Remembers offset steps step.before) :
  Remembers offset (steps ++ [step]) step.after
  := by
  obtain ⟨start_eq, op_eq⟩ := remembers
  rw [startAfter] at start_eq
  rw [opAfter] at op_eq
  constructor
  · rw [startAfter, latest?_append]
    cases follows with
    | begins found => rfl
    | ended at_end => rfl
    | unknown found nameless => rfl
    | reads room => exact start_eq
    | short beyond => exact start_eq
    | jumps => exact start_eq
    | jumpsBack inside => exact start_eq
    | tooFar beyond => exact start_eq
  · rw [opAfter, latest?_append]
    cases follows with
    | begins found => rfl
    | ended at_end => rfl
    | unknown found nameless => rfl
    | reads room => exact op_eq
    | short beyond => exact op_eq
    | jumps => exact op_eq
    | jumpsBack inside => exact op_eq
    | tooFar beyond => exact op_eq

/-- In a run every step is one that an action can do, and the cursor after it remembers the steps so
far. -/
theorem remembers_trace {code : Array UInt8} {offset : Nat} {history : List Step} {cursor : Cursor}
    (remembers : Remembers offset history cursor) {actions : List Action}
    {earlier later : List Step} {step : Step}
    (ran : trace code cursor actions = earlier ++ step :: later) :
  step.Follows code ∧ Remembers offset (history ++ earlier ++ [step]) step.after
  := by
  -- The steps up to the cursor grow along the induction, as it remembers the latest of them.
  induction actions generalizing history cursor earlier with
  | nil => cases earlier <;> cases ran
  | cons action rest ih =>
    have follows := follows_step code action cursor
    have next : Remembers offset (history ++ [action.step code cursor])
        (action.step code cursor).after := by
      apply follows.remembers
      rw [before_step]
      exact remembers
    cases earlier with
    | nil =>
      obtain ⟨rfl, -⟩ := List.cons.inj ran
      rw [List.append_nil]
      exact ⟨follows, next⟩
    | cons first earlier =>
      obtain ⟨rfl, ran_on⟩ := List.cons.inj ran
      simpa only [List.append_assoc, List.singleton_append] using ih next ran_on

/-! ### Runs -/

/-- In a run of a cursor every step checks the bounds of the code, and every error is about the
place where the latest step to begin an instruction stood, or where the run started. Where too
little code is left, it is less than what is needed, unless an opcode was read whose instruction
lies in the code as a whole; so it is less for every read that stays within the instruction. -/
theorem run_checks_bounds {code : Array UInt8} {offset : Nat} {actions : List Action}
    {earlier later : List Step} {step : Step}
    (ran : trace code (atOffset offset) actions = earlier ++ step :: later) :
  step.Checked code
    ∧ (∀ error, step.outcome = .error error →
      error.offset = startAfter offset (earlier ++ [step]))
    ∧ ∀ place needed available, step.outcome = .error (.truncated place needed available) →
      available = code.size - place
      ∧ (available < needed
        ↔ ∀ op, opAfter (earlier ++ [step]) = some op → code.size < place + op.shape.length)
      ∧ ((∀ op, opAfter (earlier ++ [step]) = some op →
          step.action.destination step.before.position ≤ place + op.shape.length) →
        available < needed)
  := by
  obtain ⟨follows, remembers⟩ := remembers_trace (remembers_atOffset offset) ran
  rw [List.nil_append] at remembers
  refine ⟨follows.checked, ?_, ?_⟩
  · intro error failed
    obtain ⟨-, offset_eq⟩ := follows.of_error failed
    rw [offset_eq, remembers.start_eq]
  · intro place needed available failed
    obtain ⟨available_eq, beyond, less_iff⟩ := follows.of_truncated failed
    rw [remembers.op_eq] at less_iff
    refine ⟨available_eq, less_iff, ?_⟩
    intro within
    apply less_iff.mpr
    intro op found
    apply Nat.lt_of_lt_of_le beyond (within op found)

/-- Before a read that fails within a loop: the opcodes of two instructions, and a jump that is too
far. -/
def cutOffEarlier : List Step :=
  [ ⟨.nextOp, ⟨0, 0, none⟩, .ok (.op .pushNil), ⟨1, 0, some .pushNil⟩⟩,
    ⟨.nextOp, ⟨1, 0, some .pushNil⟩, .ok (.op .loop), ⟨2, 1, some .loop⟩⟩,
    ⟨.jumpBack 3, ⟨2, 1, some .loop⟩, .error (.jumpOutOfRange 1 3), ⟨2, 1, some .loop⟩⟩ ]

def cutOffRead : Step :=
  ⟨.read .two, ⟨2, 1, some .loop⟩, .error (.truncated 1 3 2), ⟨2, 1, some .loop⟩⟩

/-- After it the last byte is read, and there is no further instruction. -/
def cutOffLater : List Step :=
  [ ⟨.read .one, ⟨2, 1, some .loop⟩, .ok (.number 7), ⟨3, 1, some .loop⟩⟩,
    ⟨.nextOp, ⟨3, 1, some .loop⟩, .error (.truncated 3 1 0), ⟨3, 3, none⟩⟩ ]

theorem run_checks_bounds_cutOff :
  trace #[0x02, 0x17, 0x07] (atOffset 0)
      [.nextOp, .nextOp, .jumpBack 3, .read .two, .read .one, .nextOp]
      = cutOffEarlier ++ cutOffRead :: cutOffLater
    ∧ cutOffRead.Checked #[0x02, 0x17, 0x07]
    ∧ (∀ error, cutOffRead.outcome = .error error →
      error.offset = startAfter 0 (cutOffEarlier ++ [cutOffRead]))
    ∧ ∀ place needed available,
      cutOffRead.outcome = .error (.truncated place needed available) →
      available = 3 - place
      ∧ (available < needed
        ↔ ∀ op, opAfter (cutOffEarlier ++ [cutOffRead]) = some op → 3 < place + op.shape.length)
      ∧ ((∀ op, opAfter (cutOffEarlier ++ [cutOffRead]) = some op →
          cutOffRead.action.destination cutOffRead.before.position ≤ place + op.shape.length) →
        available < needed)
  := by
  have ran : trace #[0x02, 0x17, 0x07] (atOffset 0)
      [.nextOp, .nextOp, .jumpBack 3, .read .two, .read .one, .nextOp]
      = cutOffEarlier ++ cutOffRead :: cutOffLater := rfl
  exact ⟨ran, run_checks_bounds ran⟩

end Bytecode.Cursor
