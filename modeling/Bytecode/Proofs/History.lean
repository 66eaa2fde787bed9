import Bytecode.Proofs.Layout

/-!
# Histories of calls

A chunk is built by calls of the operations of `Emit`, made one after another. Calls that
fail are ignored. The successful calls that emit code are the history of the chunk, and
`Chunk.walk_perform` says that the walk over the chunk gives the history back: one
instruction for each of these calls, at the place where the call was made and with the
opcode and the operand it asked for.
-/

namespace Bytecode

/-- The calls that extend a chunk. -/
inductive Call where
  | poolEntry (value : Value)
  | simple (op : Op) (line : Nat)
  | withByte (op : Op) (operand : UInt8) (line : Nat)
  | constant (value : Value) (line : Nat)
  | jump (op : Op) (distance line : Nat)
  | loop (start line : Nat)
  deriving DecidableEq

namespace Call

/-- Makes a call. A call that puts a constant into the pool gives its index. -/
def make : Call → Emit (Option Nat)
  | poolEntry value => return some (← Emit.poolEntry value)
  | simple op line => do
    Emit.simple op line
    return none
  | withByte op operand line => do
    Emit.withByte op operand line
    return none
  | constant value line => return some (← Emit.constant value line)
  | jump op distance line => do
    Emit.jump op distance line
    return none
  | loop start line => do
    Emit.loop start line
    return none

/-- Whether a call emits code. -/
def emits : Call → Bool
  | poolEntry _ => false
  | _ => true

/-- The source line of the code that a call emits. -/
def line? : Call → Option Nat
  | poolEntry _ => none
  | simple _ line => some line
  | withByte _ _ line => some line
  | constant _ line => some line
  | jump _ _ line => some line
  | loop _ line => some line

/-- `call.Asks pool offset result instruction` says that a call made at an offset asks for the
instruction, when the call gives `result` and the constants are those of `pool`. -/
inductive Asks (pool : Array Value) (offset : Nat) : Call → Option Nat → Instruction → Prop
  | simple (op : Op) (line : Nat) :
      Asks pool offset (.simple op line) none ⟨offset, op, .empty⟩
  | byte {op : Op} (shape : op.shape = .byte) (operand : UInt8) (line : Nat) :
      Asks pool offset (.withByte op operand line) none ⟨offset, op, .byte operand⟩
  | index {op : Op} (shape : op.shape = .constant) {operand : UInt8} {value : Value}
      (found : pool[operand.toNat]? = some value) (line : Nat) :
      Asks pool offset (.withByte op operand line) none
        ⟨offset, op, .constant operand.toNat value.text⟩
  | constant {index : Nat} {value : Value} (found : pool[index]? = some value) (line : Nat) :
      Asks pool offset (.constant value line) (some index)
        ⟨offset, if index < 256 then .constant else .constantLong, .constant index value.text⟩
  | forward {op : Op} (shape : op.shape = .jumpForward) (distance line : Nat) :
      Asks pool offset (.jump op distance line) none
        ⟨offset, op, .jump distance (offset + 3 + distance)⟩
  | backward {op : Op} (shape : op.shape = .jumpBackward) (distance line : Nat) :
      Asks pool offset (.jump op distance line) none
        ⟨offset, op, .jump distance (offset + 3 - distance)⟩
  | loop (start line : Nat) :
      Asks pool offset (.loop start line) none
        ⟨offset, .loop, .jump (offset + 3 - start) start⟩

/-! ### One call -/

theorem asks_jump {op : Op} (jumps : op.shape.isJump = true) (pool : Array Value)
    (offset distance line : Nat) :
  Asks pool offset (.jump op distance line) none (.jumpOver offset op distance)
  := by
  rw [Instruction.jumpOver]
  rcases Shape.eq_of_isJump jumps with shape | shape
  · rw [shape]
    apply Asks.forward shape
  · rw [shape]
    apply Asks.backward shape

theorem asks_loop {offset start : Nat} (known : start ≤ offset) (pool : Array Value)
    (line : Nat) :
  Asks pool offset (.loop start line) none (.jumpOver offset .loop (offset + 3 - start))
  := by
  rw [Instruction.jumpOver_loop known]
  apply Asks.loop

/-- A call fails and gives the chunk back, or puts a constant into the pool, or extends the
chunk by the instruction it asks for, on its own line. -/
theorem make_cases (call : Call) (chunk : Chunk) :
  call.make.Fails chunk
    ∨ (∃ value, call = .poolEntry value
      ∧ call.make.run chunk = .ok (some chunk.poolSize) (chunk.pushConstant value))
    ∨ (∃ result constant instruction line, call.emits = true
      ∧ call.make.Extends chunk result constant instruction line
      ∧ call.Asks (chunk.extend constant instruction line).constants chunk.length result
        instruction
      ∧ call.line? = some line)
  := by
  cases call with
  | poolEntry value =>
    have run := Emit.run_poolEntry value chunk
    rw [make]
    by_cases full : chunk.indexWidth.poolLimit ≤ chunk.poolSize
    · left
      rw [if_pos full] at run
      apply Emit.Fails.bind ⟨_, run⟩
    · right
      left
      rw [if_neg full] at run
      use value, rfl
      rw [EStateM.run_bind, run]
      rfl
  | simple op line =>
    rw [make]
    rcases Emit.simple_cases op line chunk with fails | ⟨-, extended⟩
    · left
      apply fails.bind
    · right
      right
      use none, none, ⟨chunk.length, op, .empty⟩, line, rfl, extended.bind_pure _
      exact ⟨.simple op line, rfl⟩
  | withByte op operand line =>
    rw [make]
    rcases Emit.withByte_cases op operand line chunk with
      fails | ⟨shape, extended⟩ | ⟨shape, value, found, extended⟩
    · left
      apply fails.bind
    · right
      right
      use none, none, ⟨chunk.length, op, .byte operand⟩, line, rfl, extended.bind_pure _
      exact ⟨.byte shape operand line, rfl⟩
    · right
      right
      use none, none, ⟨chunk.length, op, .constant operand.toNat value.text⟩, line, rfl,
        extended.bind_pure _
      rw [Chunk.constants_extend_none]
      exact ⟨.index shape found line, rfl⟩
  | constant value line =>
    rw [make]
    rcases Emit.constant_cases value line chunk with fails | extended
    · left
      apply fails.bind
    · right
      right
      use some chunk.poolSize, some value, .load chunk.length chunk.poolSize value, line, rfl,
        extended.bind_pure _
      exact ⟨.constant (chunk.getElem?_constants_extend _ _ _) line, rfl⟩
  | jump op distance line =>
    rw [make]
    rcases Emit.jump_cases op distance line chunk with fails | ⟨jumps, extended⟩
    · left
      apply fails.bind
    · right
      right
      use none, none, .jumpOver chunk.length op distance, line, rfl, extended.bind_pure _
      exact ⟨asks_jump jumps _ _ _ _, rfl⟩
  | loop start line =>
    rw [make]
    rcases Emit.loop_cases start line chunk with fails | ⟨known, extended⟩
    · left
      apply fails.bind
    · right
      right
      use none, none, .jumpOver chunk.length .loop (chunk.length + 3 - start), line, rfl,
        extended.bind_pure _
      exact ⟨asks_loop known _ _, rfl⟩

/-- What a call asks for stays the same when the pool grows. -/
theorem Asks.mono {pool later : Array Value} (grows : pool.toList <+: later.toList)
    {offset : Nat} {call : Call} {result : Option Nat} {instruction : Instruction}
    (asks : call.Asks pool offset result instruction) :
  call.Asks later offset result instruction
  := by
  cases asks with
  | simple op line => apply Asks.simple
  | byte shape operand line => apply Asks.byte shape
  | index shape found line => apply Asks.index shape (getElem?_of_isPrefix grows found)
  | constant found line => apply Asks.constant (getElem?_of_isPrefix grows found)
  | forward shape distance line => apply Asks.forward shape
  | backward shape distance line => apply Asks.backward shape
  | loop start line => apply Asks.loop

/-- What a call asks for lands, unless it is a jump back of a given distance that is too
long. -/
theorem Asks.lands {pool : Array Value} {offset : Nat} {call : Call} {result : Option Nat}
    {instruction : Instruction} (asks : call.Asks pool offset result instruction)
    (reaches : ∀ distance line, call = .jump .loop distance line →
      distance ≤ instruction.nextOffset) :
  instruction.Lands
  := by
  intro distance target backward operand
  cases asks with
  | simple op line => cases operand
  | byte shape value line => cases operand
  | index shape found line => cases operand
  | constant found line => cases operand
  | forward shape _ line =>
    rw [shape] at backward
    cases backward
  | backward shape _ line =>
    cases operand
    obtain rfl := Op.eq_loop_of_shape shape
    apply reaches distance line rfl
  | loop start line =>
    cases operand
    apply Nat.sub_le

end Call

/-- A call that succeeded: the chunk before it, what it gave, and the chunk after it. -/
structure Success where
  before : Chunk
  call : Call
  result : Option Nat
  after : Chunk

/-- Whether the call is not a jump back of a given distance that is longer than the code
after it. -/
def Success.reaches (success : Success) : Bool :=
  match success.call with
  | .jump .loop distance _ => distance ≤ success.after.length
  | _ => true

/-- The entry holds what the call asks for, and ends where the code ended after the call. -/
structure Success.Yields (pool : Array Value) (success : Success) (entry : Entry) : Prop where
  asks : success.call.Asks pool success.before.length success.result entry.instruction
  stop_eq : success.after.length = entry.instruction.nextOffset

theorem Success.Yields.lands {pool : Array Value} {success : Success} {entry : Entry}
    (yields : success.Yields pool entry) (reaches : success.reaches = true) :
  entry.instruction.Lands
  := by
  apply yields.asks.lands
  intro distance line call_eq
  rw [Success.reaches, call_eq] at reaches
  rw [← yields.stop_eq]
  exact of_decide_eq_true reaches

namespace Chunk

/-- The chunk after calls, made one after another. -/
def perform (chunk : Chunk) : List Call → Chunk
  | [] => chunk
  | call :: rest =>
    match call.make.run chunk with
    | .ok _ after => after.perform rest
    | .error _ after => after.perform rest

/-- The successful ones of calls, made one after another. -/
def successes (chunk : Chunk) : List Call → List Success
  | [] => []
  | call :: rest =>
    match call.make.run chunk with
    | .ok result after => ⟨chunk, call, result, after⟩ :: after.successes rest
    | .error _ after => after.successes rest

/-- The successful ones of calls that emit code. -/
def emissions (chunk : Chunk) (calls : List Call) : List Success :=
  (chunk.successes calls).filter fun success => success.call.emits

/-! ### All calls -/

/-- The pool only grows. -/
theorem constants_isPrefix_perform (chunk : Chunk) (calls : List Call) :
  chunk.constants.toList <+: (chunk.perform calls).constants.toList
  := by
  induction calls generalizing chunk with
  | nil => apply List.prefix_rfl
  | cons call rest ih =>
    rcases call.make_cases chunk with
      ⟨error, run⟩ | ⟨value, -, run⟩ | ⟨result, constant, instruction, line, -, extended, -⟩
    · rw [perform, run]
      apply ih
    · rw [perform, run]
      apply List.IsPrefix.trans _ (ih _)
      simp [pushConstant]
    · rw [perform, extended.run_eq]
      apply List.IsPrefix.trans _ (ih _)
      rw [constants_extend]
      apply List.prefix_append

/-- Calls extend the layout of a chunk by one entry for each emission. -/
theorem Holds.perform {chunk : Chunk} {entries : List Entry} (holds : chunk.Holds entries)
    (calls : List Call) :
  ∃ added, (chunk.perform calls).Holds (entries ++ added)
    ∧ List.Forall₂ (Success.Yields (chunk.perform calls).constants) (chunk.emissions calls) added
  := by
  induction calls generalizing chunk entries with
  | nil =>
    use []
    rw [List.append_nil]
    exact ⟨holds, .nil⟩
  | cons call rest ih =>
    rcases call.make_cases chunk with
      ⟨error, run⟩ | ⟨value, rfl, run⟩
        | ⟨result, constant, instruction, line, emits, extended, asks, -⟩
    · obtain ⟨added, holds, emitted⟩ := ih holds
      use added
      rw [Chunk.perform, emissions, successes, run]
      exact ⟨holds, emitted⟩
    · obtain ⟨added, holds, emitted⟩ := ih (holds.pushConstant value)
      use added
      rw [Chunk.perform, emissions, successes, run]
      exact ⟨holds, emitted⟩
    · obtain ⟨added, holds, emitted⟩ := ih (holds.extend extended.offset_eq extended.fits)
      use ⟨line, instruction⟩ :: added
      rw [Chunk.perform, emissions, successes, extended.run_eq]
      dsimp only
      rw [List.filter_cons_of_pos (by simpa using emits)]
      constructor
      · rw [← List.append_cons] at holds
        exact holds
      -- The call was made with a shorter pool than the one that the walk reads.
      · apply List.Forall₂.cons _ emitted
        exact ⟨asks.mono (constants_isPrefix_perform _ rest), extended.length_extend⟩

theorem lands_of_emitted {pool : Array Value} {emissions : List Success} {entries : List Entry}
    (emitted : List.Forall₂ (Success.Yields pool) emissions entries)
    (reach : ∀ emission ∈ emissions, emission.reaches = true) :
  ∀ entry ∈ entries, entry.instruction.Lands
  := by
  induction emitted with
  | nil => simp
  | cons yields emitted ih =>
    rw [List.forall_mem_cons] at reach ⊢
    exact ⟨yields.lands reach.1, ih reach.2⟩

/-- The walk over a chunk that was built by calls gives their emissions back. There is one
instruction for each emission, it is what the call asks for, and it lies at the offset where
the code ended before the call, which is the sum of the lengths of the instructions before
it. -/
theorem walk_perform (width : IndexWidth) (calls : List Call)
    (reach : ∀ success ∈ (Chunk.empty width).successes calls, success.reaches = true) :
  ∃ instructions,
    ((Chunk.empty width).perform calls).walk = instructions.map .ok
    ∧ List.Forall₂
      (fun emission instruction =>
        emission.call.Asks ((Chunk.empty width).perform calls).constants
          emission.before.length emission.result instruction)
      ((Chunk.empty width).emissions calls) instructions
    ∧ ∀ index instruction, instructions[index]? = some instruction →
      instruction.offset = ((instructions.take index).map Instruction.length).sum
  := by
  obtain ⟨entries, holds, emitted⟩ := (Holds.empty width).perform calls
  rw [List.nil_append] at holds
  have lands : ∀ entry ∈ entries, entry.instruction.Lands := by
    apply lands_of_emitted emitted
    intro emission member
    apply reach emission (List.mem_of_mem_filter member)
  use entries.map Entry.instruction, holds.walk_eq lands
  constructor
  · rw [List.forall₂_map_right_iff]
    apply emitted.imp
    intro emission entry yields
    exact yields.asks
  · intro index instruction found
    apply holds.spans.offset_eq found

/-- Calls of every kind. The second fails, since its distance is too long, and the fourth one
fails, since the pool has no constant at its index. -/
def mixedCalls : List Call :=
  [ .constant (.bool true) 1, .jump .jump 70000 1, .poolEntry .nil, .withByte .getGlobal 2 2,
    .withByte .getGlobal 1 2, .withByte .call 3 2, .simple .pop 3, .jump .jumpIfFalse 4 3,
    .loop 2 4, .jump .loop 15 5 ]

theorem walk_perform_mixedCalls :
  (∀ success ∈ (Chunk.empty .byte).successes mixedCalls, success.reaches = true)
    ∧ ∃ instructions,
      ((Chunk.empty .byte).perform mixedCalls).walk = instructions.map .ok
      ∧ List.Forall₂
        (fun emission instruction =>
          emission.call.Asks ((Chunk.empty .byte).perform mixedCalls).constants
            emission.before.length emission.result instruction)
        ((Chunk.empty .byte).emissions mixedCalls) instructions
      ∧ ∀ index instruction, instructions[index]? = some instruction →
        instruction.offset = ((instructions.take index).map Instruction.length).sum
  := by
  have reach : ∀ success ∈ (Chunk.empty .byte).successes mixedCalls,
      success.reaches = true := by
    decide
  exact ⟨reach, walk_perform .byte mixedCalls reach⟩

end Chunk

end Bytecode
