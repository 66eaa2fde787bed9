import Bytecode.Proofs.Listing
import Bytecode.Proofs.Literals

/-!
# The column of source lines

A listing shows the source line of an instruction only where it is another one than that of the
instruction before. `Listing.carry` reads the lines of a listing from top to bottom and keeps the
number that was shown last. `Chunk.listing_shows_changes` says what each line shows, and that this
reader finds the source line of every instruction.
-/

namespace Bytecode

open Text (Stops stops_cons)

/-! ### Numbers in columns -/

namespace Text

/-- The text is the number in decimal digits, with as many `c` in front as a column of four
characters has room for. -/
structure InColumn (c : Char) (n : Nat) (text : String) : Prop where
  digits_eq : ∃ count, text.toList = List.replicate count c ++ Nat.toDigits 10 n
  width_eq : text.length = max 4 (Nat.toDigits 10 n).length

theorem inColumn_padLeft (c : Char) (n : Nat) :
  InColumn c n (padLeft 4 c (decimal n))
  where
  digits_eq := by
    rw [toList_padLeft, toList_decimal]
    exact ⟨_, rfl⟩
  width_eq := by
    rw [← String.length_toList, toList_padLeft, List.length_append, List.length_replicate,
      ← String.length_toList, toList_decimal]
    omega

theorem isDigit_of_mem_offset {n : Nat} {c : Char} (member : c ∈ (offset n).toList) :
  c.isDigit = true
  := by
  rw [offset, toList_padLeft] at member
  rcases List.mem_append.mp member with zero | digit
  · rw [List.eq_of_mem_replicate zero]
    rfl
  · apply isDigit_of_mem_decimal digit

/-- A bar is not a number. -/
theorem not_inColumn_bar (c : Char) (n : Nat) :
  ¬ InColumn c n "   |"
  := by
  rintro ⟨⟨count, split⟩, -⟩
  have last := congrArg List.getLast? split
  rw [List.getLast?_append_of_ne_nil _ (Nat.toDigits_ne_nil)] at last
  have digit : '|' ∈ Nat.toDigits 10 n := List.mem_of_getLast? last.symm
  rw [← toList_decimal] at digit
  cases isDigit_of_mem_decimal digit

/-- The number at the front of a text, if there is one. -/
def frontNumber? (text : List Char) : Option Nat :=
  let digits := text.takeWhile Char.isDigit
  if digits.isEmpty then none else some (Nat.ofDigitChars 10 digits 0)

theorem frontNumber?_decimal {n : Nat} {rest : List Char} (stops : Stops Char.isDigit rest) :
  frontNumber? ((decimal n).toList ++ rest) = some n
  := by
  obtain ⟨digit, digits, split, -⟩ := decimal_eq_cons n
  have nonempty : ¬ (decimal n).toList.isEmpty = true := by simp [split]
  rw [frontNumber?, takeWhile_append_of_stops (fun _ => isDigit_of_mem_decimal) stops,
    if_neg nonempty]
  apply congrArg some (ofDigitChars_zeros_decimal 0 n)

end Text

namespace Listing

/-! ### Reading the column -/

/-- The source line that a line of a listing shows after the offset, if it shows one. -/
def shown? (line : String) : Option Nat :=
  Text.frontNumber? ((line.toList.dropWhile Char.isDigit).dropWhile (· == ' '))

/-- The source lines that are read from lines of a listing. A line that shows none has the last one
that was shown. -/
def carry (last : Option Nat) : List String → List (Option Nat)
  | [] => []
  | line :: rest =>
    let source := (shown? line).or last
    source :: carry source rest

/-- What a line shows is found behind the blanks that follow the offset. -/
theorem shown?_line_eq {instruction : Instruction} {source before : Option Nat} {count : Nat}
    {column : List Char} (filled : (mark source before).toList = List.replicate count ' ' ++ column)
    (stops : Stops (· == ' ') (column ++ ' ' :: instruction.text.toList)) :
  shown? (line instruction source before)
    = Text.frontNumber? (column ++ ' ' :: instruction.text.toList)
  := by
  have all : ∀ c ∈ List.replicate (count + 1) ' ', (c == ' ') = true := by simp
  have behind : ' ' :: ((mark source before).toList ++ ' ' :: instruction.text.toList)
      = List.replicate (count + 1) ' ' ++ (column ++ ' ' :: instruction.text.toList) := by
    rw [filled, List.append_assoc]
    rfl
  rw [shown?, toList_line, Text.dropWhile_append_of_stops (fun _ => Text.isDigit_of_mem_offset)
    (stops_cons rfl), behind, Text.dropWhile_append_of_stops all stops]

/-- A line shows the source line of its instruction if it is another one than that of the
instruction before. -/
theorem shown?_line (instruction : Instruction) (number : Nat) (before : Option Nat) :
  shown? (line instruction (some number) before)
    = if before = some number then none else some number
  := by
  by_cases repeated : before = some number
  · have filled : (mark (some number) before).toList = List.replicate 3 ' ' ++ ['|'] := by
      rw [mark, if_pos repeated]
      rfl
    rw [shown?_line_eq filled (stops_cons rfl), if_pos repeated]
    rfl
  · have filled : (mark (some number) before).toList
        = List.replicate (4 - (Text.decimal number).length) ' ' ++ (Text.decimal number).toList := by
      rw [mark, if_neg repeated, Text.column, Text.toList_padLeft]
    rw [shown?_line_eq filled (Text.stops_decimal _ _), if_neg repeated]
    apply Text.frontNumber?_decimal (stops_cons rfl)

theorem inColumn_mark_iff {number : Nat} {before : Option Nat} :
  Text.InColumn ' ' number (mark (some number) before) ↔ before ≠ some number
  := by
  rw [mark]
  by_cases repeated : before = some number
  · simp [repeated, Text.not_inColumn_bar]
  · rw [if_neg repeated]
    exact iff_of_true (Text.inColumn_padLeft _ _) repeated

theorem mark_eq_bar_iff {number : Nat} {before : Option Nat} :
  mark (some number) before = "   |" ↔ before = some number
  := by
  rw [mark]
  by_cases repeated : before = some number
  · rw [if_pos repeated]
    exact iff_of_true rfl repeated
  · rw [if_neg repeated]
    apply iff_of_false _ repeated
    intro bar
    have column := Text.inColumn_padLeft ' ' number
    rw [← Text.column, bar] at column
    apply Text.not_inColumn_bar _ _ column

/-- Carried on from the source line before, the lines of instructions give the source lines of the
instructions. -/
theorem carry_instructionLines {chunk : Chunk} {instructions : List Instruction}
    (known : ∀ instruction ∈ instructions, ∃ number, chunk.lineAt instruction.offset = some number)
    (previous : Option Nat) :
  carry previous (chunk.instructionLines previous instructions) = chunk.sources instructions
  := by
  induction instructions generalizing previous with
  | nil => rfl
  | cons instruction rest ih =>
    obtain ⟨⟨number, source⟩, known⟩ := List.forall_mem_cons.mp known
    have read : (shown? (line instruction (some number) previous)).or previous = some number := by
      rw [shown?_line]
      by_cases repeated : previous = some number
      · rw [if_pos repeated, Option.none_or, repeated]
      · rw [if_neg repeated, Option.some_or]
    rw [Chunk.instructionLines_cons, carry, source, read, ih known, Chunk.sources, Chunk.sources,
      List.map_cons, source]

end Listing

namespace Chunk

/-! ### Changes -/

/-- The source line at an index is the first, or it is another one than that before it. -/
def ChangesAt (sources : List (Option Nat)) (index : Nat) : Prop :=
  index = 0 ∨ sources[index - 1]? ≠ sources[index]?

instance (sources : List (Option Nat)) (index : Nat) : Decidable (ChangesAt sources index) :=
  inferInstanceAs (Decidable (_ ∨ _))

theorem changesAt_iff {sources : List (Option Nat)} {index : Nat} {source before : Option Nat}
    (found : sources[index]? = some source) (earlier : (none :: sources)[index]? = some before)
    (known : source ≠ none) :
  ChangesAt sources index ↔ before ≠ source
  := by
  rw [ChangesAt]
  cases index with
  | zero =>
    obtain rfl := Option.some.inj earlier
    simp [known.symm]
  | succ index =>
    rw [List.getElem?_cons_succ] at earlier
    simp [found, earlier]

/-- A listing has one line for each instruction after its header. The line of an instruction begins
with the offset. Then it shows the source line if it is another one than that of the instruction
before, and else a bar. The source lines of all instructions can be read off the lines. -/
theorem listing_shows_changes {width : IndexWidth} {operations : List Operation} {name : String}
    {lines : List String} (listed : (build width operations).listing name = .ok lines) :
  ∃ instructions : List Instruction,
    (build width operations).walk = instructions.map .ok
    ∧ lines.length = (build width operations).walk.length + 1
    ∧ (∀ index instruction, instructions[index]? = some instruction →
      ∃ source offset mark,
        (build width operations).lineAt instruction.offset = some source
        ∧ lines[index + 1]? = some (offset ++ " " ++ mark ++ " " ++ instruction.text)
        ∧ Text.InColumn '0' instruction.offset offset
        ∧ (Text.InColumn ' ' source mark
          ↔ ChangesAt ((build width operations).sources instructions) index)
        ∧ (mark = "   |" ↔ ¬ ChangesAt ((build width operations).sources instructions) index))
    ∧ Listing.carry none lines.tail = (build width operations).sources instructions
  := by
  obtain ⟨instructions, walked, rfl, reads, -⟩ := of_listing_eq_ok listed
  have tracked := tracked_build width operations
  generalize build width operations = chunk at *
  have known : ∀ instruction ∈ instructions,
      ∃ number, chunk.lineAt instruction.offset = some number := by
    intro instruction member
    apply tracked.exists_lineAt (reads instruction member)
  refine ⟨instructions, walked, ?_, ?_, Listing.carry_instructionLines known none⟩
  · rw [walked, List.length_cons, length_instructionLines, List.length_map]
  · intro index instruction found
    obtain ⟨number, source⟩ := known instruction (List.mem_of_getElem? found)
    obtain ⟨before, earlier⟩ := chunk.exists_before none found
    have changes : ChangesAt (chunk.sources instructions) index ↔ before ≠ some number := by
      apply changesAt_iff _ earlier (Option.some_ne_none number)
      rw [sources, List.getElem?_map, found, Option.map_some, source]
    refine ⟨number, Text.offset instruction.offset, Listing.mark (some number) before, source, ?_,
      Text.inColumn_padLeft _ _, ?_, ?_⟩
    · rw [List.getElem?_cons_succ, chunk.getElem?_instructionLines_of_before found earlier, source,
        Listing.line_eq]
    · rw [changes, Listing.inColumn_mark_iff]
    · rw [changes, Listing.mark_eq_bar_iff, not_not]

/-- Instructions of other lines than those before them, one of them with an operand byte of another
line than its opcode, and one on a line whose number is wider than the column. -/
def straddledOperations : List Operation :=
  [ .make (.poolEntry .nil), .raw 0x00 0, .raw 0x00 7, .make (.simple .pop 7),
    .make (.jump .jump 0 7), .make (.simple .ret 12345), .make (.simple .ret 0) ]

def straddledLines : List String :=
  [ "== mixed ==", "0000    0 OP_CONSTANT         0 'nil'", "0002    7 OP_POP",
    "0003    | OP_JUMP             0 -> 6", "0006 12345 OP_RETURN", "0007    0 OP_RETURN" ]

theorem listing_shows_changes_straddledLines :
  (build .byte straddledOperations).listing "mixed" = .ok straddledLines
    ∧ ∃ instructions : List Instruction,
      (build .byte straddledOperations).walk = instructions.map .ok
      ∧ straddledLines.length = (build .byte straddledOperations).walk.length + 1
      ∧ (∀ index instruction, instructions[index]? = some instruction →
        ∃ source offset mark,
          (build .byte straddledOperations).lineAt instruction.offset = some source
          ∧ straddledLines[index + 1]? = some (offset ++ " " ++ mark ++ " " ++ instruction.text)
          ∧ Text.InColumn '0' instruction.offset offset
          ∧ (Text.InColumn ' ' source mark
            ↔ ChangesAt ((build .byte straddledOperations).sources instructions) index)
          ∧ (mark = "   |"
            ↔ ¬ ChangesAt ((build .byte straddledOperations).sources instructions) index))
      ∧ Listing.carry none straddledLines.tail
        = (build .byte straddledOperations).sources instructions
  := by
  have listed : (build .byte straddledOperations).listing "mixed" = .ok straddledLines := by
    decide +kernel
  exact ⟨listed, listing_shows_changes listed⟩

end Chunk

end Bytecode
