import Bytecode.Listing
import Bytecode.Proofs.Columns
import Bytecode.Proofs.Operations
import Mathlib.Data.List.Defs

/-!
# Listings

The lines of a listing are those of the instructions of the walk, each shown with its own source
line and that of the instruction before it, `Chunk.instructionLines`.

`Chunk.listing_injective` says that a listing loses nothing: from its lines one can read off the
code, the instructions with their operands and texts, and the source line of each instruction.
-/

namespace Bytecode

open Text (Stops stops_nil stops_cons)

/-! ### The text of an instruction -/

/-- What follows the mnemonic in the text of an instruction, with a gap of blanks before the
operand if there is one. -/
def Operand.tail (gap : Nat) : Operand → List Char
  | empty => []
  | byte value => List.replicate (gap + 1) ' ' ++ (Text.column value.toNat).toList
  | constant index text =>
    List.replicate (gap + 1) ' '
      ++ ((Text.column index).toList ++ ' ' :: '\'' :: (text.toList ++ ['\'']))
  | jump distance target =>
    List.replicate (gap + 1) ' '
      ++ ((Text.column distance).toList ++ ' ' :: '-' :: '>' :: ' ' :: (Text.decimal target).toList)

theorem Instruction.toList_text (instruction : Instruction) :
  instruction.text.toList
    = instruction.op.mnemonic.toList
      ++ instruction.operand.tail (mnemonicWidth - instruction.op.mnemonic.length)
  := by
  obtain ⟨offset, op, operand⟩ := instruction
  cases operand with
  | empty => simp [text, Operand.tail]
  | byte value => simp [text, Operand.tail, Text.padRight, Text.fill, List.replicate_succ']
  | constant index text =>
    simp [Instruction.text, Operand.tail, Text.padRight, Text.fill, List.replicate_succ']
  | jump distance target =>
    simp [text, Operand.tail, Text.padRight, Text.fill, List.replicate_succ']

/-- After a mnemonic comes a blank or nothing. -/
theorem Operand.stops_tail (gap : Nat) (operand : Operand) :
  Stops (fun c => c != ' ') (operand.tail gap)
  := by
  cases operand with
  | empty => apply stops_nil
  | byte value => apply stops_cons rfl
  | constant index text => apply stops_cons rfl
  | jump distance target => apply stops_cons rfl

/-- An operand that fits a shape and a place is known by its text. -/
theorem Operand.Fits.eq_of_tail {pool pool' : Array Value} {stop gap : Nat} {shape : Shape}
    {operand operand' : Operand} (fits : operand.Fits pool stop shape)
    (fits' : operand'.Fits pool' stop shape) (same : operand.tail gap = operand'.tail gap) :
  operand = operand'
  := by
  cases fits with
  | empty =>
    cases fits' with
    | empty => rfl
    | constant refers => cases refers
  | byte value =>
    cases fits' with
    | byte value' =>
      have columns := List.append_cancel_left same
      rw [← List.append_nil (Text.column value.toNat).toList,
        ← List.append_nil (Text.column value'.toNat).toList] at columns
      obtain ⟨values, -⟩ := Text.column_append_inj (stops_nil _) (stops_nil _) columns
      rw [UInt8.toNat_inj.mp values]
    | constant refers => cases refers
  | constant refers =>
    cases fits' with
    | constant =>
      obtain ⟨rfl, quoted⟩ := Text.column_append_inj (stops_cons rfl) (stops_cons rfl)
        (List.append_cancel_left same)
      have texts := List.tail_eq_of_cons_eq (List.tail_eq_of_cons_eq quoted)
      rw [String.toList_inj.mp (List.append_cancel_right texts)]
    | _ => cases refers
  | forward =>
    cases fits' with
    | forward =>
      obtain ⟨rfl, -⟩ := Text.column_append_inj (stops_cons rfl) (stops_cons rfl)
        (List.append_cancel_left same)
      rfl
    | constant refers => cases refers
  | backward =>
    cases fits' with
    | backward =>
      obtain ⟨rfl, -⟩ := Text.column_append_inj (stops_cons rfl) (stops_cons rfl)
        (List.append_cancel_left same)
      rfl
    | constant refers => cases refers

/-- Instructions that fit at one offset are equal when their texts are. -/
theorem Instruction.Fits.eq_of_text {pool pool' : Array Value} {instruction other : Instruction}
    (fits : instruction.Fits pool) (fits' : other.Fits pool')
    (offsets : instruction.offset = other.offset) (same : instruction.text = other.text) :
  instruction = other
  := by
  have texts := congrArg String.toList same
  rw [toList_text, toList_text] at texts
  obtain ⟨ops, tails⟩ := Op.mnemonic_append_inj (Operand.stops_tail _ _) (Operand.stops_tail _ _)
    texts
  obtain ⟨offset, op, operand⟩ := instruction
  obtain ⟨_, _, operand'⟩ := other
  obtain rfl := offsets
  obtain rfl := ops
  obtain rfl : operand = operand' := Operand.Fits.eq_of_tail fits fits' tails
  rfl

/-! ### The line of an instruction -/

namespace Listing

/-- What a line shows in the column of source lines: the source line of the instruction, or a
bar if it is that of the instruction before it. -/
def mark (source previous : Option Nat) : String :=
  match source with
  | some number => if previous = some number then "   |" else Text.column number
  | none => "   |"

theorem line_eq (instruction : Instruction) (source previous : Option Nat) :
  line instruction source previous
    = Text.offset instruction.offset ++ " " ++ mark source previous ++ " " ++ instruction.text
  := by
  have bar : Text.offset instruction.offset ++ "    | " ++ instruction.text
      = Text.offset instruction.offset ++ " " ++ "   |" ++ " " ++ instruction.text := by
    apply String.toList_inj.mp
    simp
  cases source with
  | none => exact bar
  | some number =>
    rw [line, mark]
    by_cases repeated : previous = some number
    · rw [if_pos repeated, if_pos repeated, bar]
    · rw [if_neg repeated, if_neg repeated]

theorem toList_line (instruction : Instruction) (source previous : Option Nat) :
  (line instruction source previous).toList
    = (Text.offset instruction.offset).toList
      ++ ' ' :: ((mark source previous).toList ++ ' ' :: instruction.text.toList)
  := by
  rw [line_eq]
  simp

/-- What a line shows and the source line of the instruction before it tell the source line. -/
theorem mark_append_inj {number number' : Nat} {previous : Option Nat} {rest rest' : List Char}
    (same : (mark (some number) previous).toList ++ ' ' :: rest
      = (mark (some number') previous).toList ++ ' ' :: rest') :
  number = number' ∧ rest = rest'
  := by
  have bar : "   |".toList = List.replicate 3 ' ' ++ ['|'] := rfl
  rw [mark, mark] at same
  by_cases repeated : previous = some number
  · rw [if_pos repeated] at same
    by_cases repeated' : previous = some number'
    · rw [if_pos repeated'] at same
      have rests := List.append_cancel_left same
      rw [repeated] at repeated'
      exact ⟨Option.some.inj repeated', List.tail_eq_of_cons_eq rests⟩
    · rw [if_neg repeated', bar, List.append_assoc] at same
      apply absurd same.symm
      apply Text.column_append_ne rfl rfl
  · rw [if_neg repeated] at same
    by_cases repeated' : previous = some number'
    · rw [if_pos repeated', bar, List.append_assoc] at same
      apply absurd same
      apply Text.column_append_ne rfl rfl
    · rw [if_neg repeated'] at same
      obtain ⟨numbers, rests⟩ := Text.column_append_inj (stops_cons rfl) (stops_cons rfl) same
      exact ⟨numbers, List.tail_eq_of_cons_eq rests⟩

/-- A line and the source line of the instruction before it tell the offset, the source line and
the text of the instruction. -/
theorem line_inj {instruction other : Instruction} {number number' : Nat} {previous : Option Nat}
    (same : line instruction (some number) previous = line other (some number') previous) :
  instruction.offset = other.offset ∧ number = number' ∧ instruction.text = other.text
  := by
  have lists := congrArg String.toList same
  rw [toList_line, toList_line] at lists
  obtain ⟨offsets, marks⟩ := Text.offset_append_inj (stops_cons rfl) (stops_cons rfl) lists
  obtain ⟨numbers, texts⟩ := mark_append_inj (List.tail_eq_of_cons_eq marks)
  exact ⟨offsets, numbers, String.toList_inj.mp texts⟩

end Listing

/-! ### The lines of a listing -/

namespace Chunk

open Instruction

/-- The source lines of instructions. -/
def sources (chunk : Chunk) (instructions : List Instruction) : List (Option Nat) :=
  instructions.map fun instruction => chunk.lineAt instruction.offset

/-- The lines of instructions, each with its own source line and that of the instruction before
it. The first of them comes after an instruction of the source line `previous`. -/
def instructionLines (chunk : Chunk) (previous : Option Nat) (instructions : List Instruction) :
    List String :=
  List.zipWith3 Listing.line instructions (chunk.sources instructions)
    (previous :: chunk.sources instructions)

theorem instructionLines_cons (chunk : Chunk) (previous : Option Nat) (instruction : Instruction)
    (rest : List Instruction) :
  chunk.instructionLines previous (instruction :: rest)
    = Listing.line instruction (chunk.lineAt instruction.offset) previous
      :: chunk.instructionLines (chunk.lineAt instruction.offset) rest
  := rfl

theorem length_instructionLines (chunk : Chunk) (previous : Option Nat)
    (instructions : List Instruction) :
  (chunk.instructionLines previous instructions).length = instructions.length
  := by
  induction instructions generalizing previous with
  | nil => rfl
  | cons instruction rest ih =>
    rw [instructionLines_cons, List.length_cons, List.length_cons, ih]

theorem exists_before (chunk : Chunk) (previous : Option Nat) {instructions : List Instruction}
    {index : Nat} {instruction : Instruction} (found : instructions[index]? = some instruction) :
  ∃ before, (previous :: chunk.sources instructions)[index]? = some before
  := by
  obtain ⟨inside, -⟩ := List.getElem?_eq_some_iff.mp found
  have earlier : index < (previous :: chunk.sources instructions).length := by
    rw [List.length_cons, sources, List.length_map]
    omega
  exact ⟨_, List.getElem?_eq_getElem earlier⟩

/-- The line of an instruction shows its own source line next to that of the instruction before
it. -/
theorem getElem?_instructionLines_of_before (chunk : Chunk) {previous before : Option Nat}
    {instructions : List Instruction} {index : Nat} {instruction : Instruction}
    (found : instructions[index]? = some instruction)
    (earlier : (previous :: chunk.sources instructions)[index]? = some before) :
  (chunk.instructionLines previous instructions)[index]?
    = some (Listing.line instruction (chunk.lineAt instruction.offset) before)
  := by
  induction instructions generalizing previous index with
  | nil => cases found
  | cons first rest ih =>
    rw [instructionLines_cons]
    cases index with
    | zero =>
      obtain rfl := Option.some.inj found
      obtain rfl := Option.some.inj earlier
      rfl
    | succ index => exact ih found earlier

/-- The lines of a walk are those of its instructions, unless it ends in an error. -/
theorem listingLines_eq (chunk : Chunk) (instructions : List Instruction)
    (failure : Option DecodeError) (previous : Option Nat) :
  chunk.listingLines (instructions.map .ok ++ failure.toList.map .error) previous
    = failure.elim (.ok (chunk.instructionLines previous instructions)) .error
  := by
  induction instructions generalizing previous with
  | nil =>
    cases failure with
    | none => rfl
    | some error => rfl
  | cons instruction rest ih =>
    rw [List.map_cons, List.cons_append, listingLines, ih]
    cases failure with
    | none => rfl
    | some error => rfl

theorem listing_eq {chunk : Chunk} {instructions : List Instruction}
    {failure : Option DecodeError}
    (items : chunk.walk = instructions.map .ok ++ failure.toList.map .error) (name : String) :
  chunk.listing name
    = failure.elim (.ok (Listing.header name :: chunk.instructionLines none instructions)) .error
  := by
  rw [listing, items, listingLines_eq]
  cases failure with
  | none => rfl
  | some error => rfl

/-- A listing that succeeds is the header and the lines of instructions whose bytes make up the
whole code. -/
theorem of_listing_eq_ok {chunk : Chunk} {name : String} {lines : List String}
    (listed : chunk.listing name = .ok lines) :
  ∃ instructions, chunk.walk = instructions.map .ok
    ∧ lines = Listing.header name :: chunk.instructionLines none instructions
    ∧ (∀ instruction ∈ instructions, chunk.decode instruction.offset = .ok instruction)
    ∧ chunk.code.toList = instructions.flatMap encode
  := by
  obtain ⟨instructions, failure, items, -, -, reads, -, code⟩ :=
    chunk.walkFrom_reads_code (Nat.zero_le _)
  have walked : chunk.walk = instructions.map .ok ++ failure.toList.map .error := items
  rw [listing_eq walked] at listed
  cases failure with
  | some error => cases listed
  | none =>
    obtain rfl := Except.ok.inj listed
    use instructions
    refine ⟨?_, rfl, reads, ?_⟩
    · rw [walked]
      apply List.append_nil
    · rw [List.drop_zero] at code
      rw [code]
      simp [Chunk.length]

/-- In a tracked chunk every instruction that is decoded has a source line. -/
theorem Tracked.exists_lineAt {chunk : Chunk} (tracked : chunk.Tracked)
    {instruction : Instruction} (decoded : chunk.decode instruction.offset = .ok instruction) :
  ∃ number, chunk.lineAt instruction.offset = some number
  := by
  obtain ⟨-, fits, -, found⟩ := decode_eq_ok_iff.mp decoded
  have inside := offset_lt_length fits found
  rw [← tracked.length_eq] at inside
  rw [tracked.lineAt_eq]
  exact ⟨_, List.getElem?_eq_getElem inside⟩

/-- The lines of instructions tell the instructions and their source lines. -/
theorem eq_of_instructionLines {chunk other : Chunk} (tracked : chunk.Tracked)
    (tracked' : other.Tracked) {instructions instructions' : List Instruction}
    {previous : Option Nat}
    (reads : ∀ instruction ∈ instructions, chunk.decode instruction.offset = .ok instruction)
    (reads' : ∀ instruction ∈ instructions', other.decode instruction.offset = .ok instruction)
    (same : chunk.instructionLines previous instructions
      = other.instructionLines previous instructions') :
  instructions = instructions'
    ∧ ∀ instruction ∈ instructions,
      chunk.lineAt instruction.offset = other.lineAt instruction.offset
  := by
  -- The source line of each instruction is known once that of the one before it is.
  induction instructions generalizing instructions' previous with
  | nil =>
    cases instructions' with
    | nil => simp
    | cons instruction' rest' => cases same
  | cons instruction rest ih =>
    cases instructions' with
    | nil => cases same
    | cons instruction' rest' =>
      rw [List.forall_mem_cons] at reads reads'
      obtain ⟨number, source⟩ := tracked.exists_lineAt reads.1
      obtain ⟨number', source'⟩ := tracked'.exists_lineAt reads'.1
      rw [instructionLines_cons, instructionLines_cons, source, source'] at same
      obtain ⟨first, later⟩ := List.cons_eq_cons.mp same
      obtain ⟨offsets, rfl, texts⟩ := Listing.line_inj first
      obtain ⟨-, fits, -, -⟩ := decode_eq_ok_iff.mp reads.1
      obtain ⟨-, fits', -, -⟩ := decode_eq_ok_iff.mp reads'.1
      obtain rfl := fits.eq_of_text fits' offsets texts
      obtain ⟨rfl, sources⟩ := ih reads.2 reads'.2 later
      rw [List.forall_mem_cons]
      exact ⟨rfl, source.trans source'.symm, sources⟩

/-- A listing loses nothing. Two chunks that are built by operations and have the same listing
have the same code, the same walk, with all offsets, opcodes, operands, targets and texts of
constants, and the same source line for each instruction. -/
theorem listing_injective {width width' : IndexWidth} {operations operations' : List Operation}
    {name : String} {lines : List String}
    (listed : (build width operations).listing name = .ok lines)
    (listed' : (build width' operations').listing name = .ok lines) :
  (build width operations).code = (build width' operations').code
    ∧ (build width operations).walk = (build width' operations').walk
    ∧ ∀ instruction, .ok instruction ∈ (build width operations).walk →
      (build width operations).lineAt instruction.offset
        = (build width' operations').lineAt instruction.offset
  := by
  obtain ⟨instructions, walked, rfl, reads, code⟩ := of_listing_eq_ok listed
  obtain ⟨instructions', walked', same, reads', code'⟩ := of_listing_eq_ok listed'
  obtain ⟨rfl, sources⟩ := eq_of_instructionLines (tracked_build width operations)
    (tracked_build width' operations') reads reads' (List.tail_eq_of_cons_eq same)
  refine ⟨?_, ?_, ?_⟩
  · apply Array.toList_inj.mp
    rw [code, code']
  · rw [walked, walked']
  · intro instruction member
    apply sources
    rw [walked] at member
    simpa using member

/-- Calls that emit three instructions. -/
def emittedOperations : List Operation :=
  [.make (.constant .nil 3), .make (.jump .jump 0 3), .make (.simple .ret 1)]

/-- The same code byte by byte, with other lines for the operand bytes, after a constant of
another kind that has the same text. -/
def rawOperations : List Operation :=
  [ .make (.poolEntry (.str "nil")), .raw 0x00 3, .raw 0x00 9, .raw 0x15 3, .raw 0x00 0,
    .raw 0x00 0, .raw 0x19 1 ]

def sharedLines : List String :=
  [ "== nil ==", "0000    3 OP_CONSTANT         0 'nil'", "0002    | OP_JUMP             0 -> 5",
    "0005    1 OP_RETURN" ]

theorem listing_injective_sharedLines :
  (build .byte emittedOperations).listing "nil" = .ok sharedLines
    ∧ (build .wide rawOperations).listing "nil" = .ok sharedLines
    ∧ (build .byte emittedOperations).code = (build .wide rawOperations).code
    ∧ (build .byte emittedOperations).walk = (build .wide rawOperations).walk
    ∧ ∀ instruction, .ok instruction ∈ (build .byte emittedOperations).walk →
      (build .byte emittedOperations).lineAt instruction.offset
        = (build .wide rawOperations).lineAt instruction.offset
  := by
  have listed : (build .byte emittedOperations).listing "nil" = .ok sharedLines := by
    decide +kernel
  have listed' : (build .wide rawOperations).listing "nil" = .ok sharedLines := by
    decide +kernel
  exact ⟨listed, listed', listing_injective listed listed'⟩

end Chunk

end Bytecode
