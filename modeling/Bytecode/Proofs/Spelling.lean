import Bytecode.Proofs.Grammar

/-!
# Ways of writing a line

One statement can be written in many ways: `Assembly.Writes` says which lines write an opcode and
an operand. The name is in either case and with or without its mark, there are blanks of any kind
around the parts, and a comment may follow that says anything, unless the operand leaves a string
open. `Assembly.Writes.layout` says that the parts are found again, and
`Assembly.assembleLine_eq_of_writes` that nothing but the parts matters. Lines that write nothing,
`Assembly.Blank`, are laid out as nothing.
-/

namespace Bytecode

/-! ### Characters -/

namespace Text

/-- The text has no other characters than blanks. -/
def Blanks (text : List Char) : Prop :=
  ∀ c ∈ text, isBlank c = true

instance (text : List Char) : Decidable (Blanks text) :=
  decidable_of_iff (text.all isBlank = true) List.all_eq_true

theorem Blanks.not_mem {text : List Char} (blanks : Blanks text) {c : Char}
    (visible : isBlank c = false) :
  c ∉ text
  := by
  intro member
  rw [blanks c member] at visible
  cases visible

/-- The text has no semicolons and no quotes. -/
structure Unmarked (text : List Char) : Prop where
  no_semicolon : ';' ∉ text
  no_quote : '"' ∉ text

theorem Blanks.unmarked {text : List Char} (blanks : Blanks text) :
  Unmarked text
  where
  no_semicolon := blanks.not_mem (by decide)
  no_quote := blanks.not_mem (by decide)

theorem Unmarked.count_quote {text : List Char} (unmarked : Unmarked text) :
  text.count '"' = 0
  := List.count_eq_zero_of_not_mem unmarked.no_quote

/-- The character is not blank, and it begins neither a comment nor a string. -/
def Inert (c : Char) : Prop :=
  isBlank c = false ∧ c ≠ ';' ∧ c ≠ '"'

instance (c : Char) : Decidable (Inert c) :=
  inferInstanceAs (Decidable (_ ∧ _))

/-- The characters from the digits to the letters are inert, but for the semicolon. -/
theorem inert_of_toNat {c : Char} (above : 48 ≤ c.toNat) (below : c.toNat ≤ 122)
    (other : c ≠ ';') :
  Inert c
  := by
  refine ⟨?_, other, ?_⟩
  · simp [isBlank, inRanges, blankRanges]
    omega
  · rintro rfl
    exact absurd above (by decide)

end Text

open Text (Stops Trimmed Blanks Unmarked Inert isBlank)

namespace Op

theorem inert_of_mem_mnemonic (op : Op) :
  ∀ c ∈ op.mnemonic.toList, Inert c
  := by
  have all_inert : op.mnemonic.toList.all (fun c => decide (Inert c)) = true := by
    cases op <;> rfl
  simpa using all_inert

theorem word_ne_nil (op : Op) :
  op.word.toList ≠ []
  := by
  cases op <;> decide

section

variable {op : Op} {name : List Char} (named : op.Named name)

include named

theorem Named.toUpper_mem {c : Char} (member : c ∈ name) :
  c.toUpper ∈ op.mnemonic.toList
  := by
  have upper : c.toUpper ∈ name.map Char.toUpper := List.mem_map_of_mem member
  rcases named with same | same
  · rw [same] at upper
    rw [mnemonic, String.toList_append]
    apply List.mem_append_right _ upper
  · rw [same] at upper
    exact upper

/-- The characters of a name are inert in either case. -/
theorem Named.inert {c : Char} (member : c ∈ name) :
  Inert c
  := by
  by_cases lower : 'a'.val ≤ c.val ∧ c.val ≤ 'z'.val
  · have above : 97 ≤ c.toNat := lower.1
    apply Text.inert_of_toNat (Nat.le_trans (by decide) above) lower.2
    rintro rfl
    exact absurd above (by decide)
  · have kept : c.toUpper = c := dif_neg lower
    rw [← kept]
    apply op.inert_of_mem_mnemonic _ (named.toUpper_mem member)

theorem Named.unmarked :
  Unmarked name
  where
  no_semicolon := by
    intro member
    apply (named.inert member).2.1 rfl
  no_quote := by
    intro member
    apply (named.inert member).2.2 rfl

theorem Named.ne_nil :
  name ≠ []
  := by
  rintro rfl
  rcases named with same | same
  · apply op.word_ne_nil same.symm
  · rw [mnemonic, String.toList_append] at same
    apply op.word_ne_nil (List.append_eq_nil_iff.mp same.symm).2

theorem Named.stops (rest : List Char) :
  Stops isBlank (name ++ rest)
  := by
  intro c member
  rw [List.head?_append_of_ne_nil _ named.ne_nil] at member
  apply (named.inert (List.mem_of_mem_head? member)).1

end

end Op

namespace Assembly

/-! ### Texts on a line -/

/-- Every semicolon of the text stands in a string: it has an odd number of quotes before it. -/
def Guarded (text : List Char) : Prop :=
  ∀ before after, text = before ++ ';' :: after → before.count '"' % 2 = 1

theorem guarded_of_not_mem {text : List Char} (absent : ';' ∉ text) :
  Guarded text
  := by
  rintro before after rfl
  exact absurd List.mem_append_cons_self absent

theorem Guarded.prepend {text before : List Char} (guarded : Guarded text)
    (unmarked : Unmarked before) :
  Guarded (before ++ text)
  := by
  intro front after split
  rcases List.append_eq_append_iff.mp split with ⟨middle, rfl, rest⟩ | ⟨middle, rfl, rest⟩
  · rw [List.count_append, unmarked.count_quote, Nat.zero_add]
    apply guarded middle after rest
  · cases middle with
    | nil => exact absurd (guarded [] after rest.symm) (by decide)
    | cons c middle =>
      obtain rfl := List.head_eq_of_cons_eq rest
      exact absurd List.mem_append_cons_self unmarked.no_semicolon

theorem Guarded.append {text after : List Char} (guarded : Guarded text) (absent : ';' ∉ after) :
  Guarded (text ++ after)
  := by
  intro before back split
  rcases List.append_eq_append_iff.mp split with ⟨middle, rfl, rest⟩ | ⟨middle, rfl, rest⟩
  · rw [rest] at absent
    exact absurd List.mem_append_cons_self absent
  · cases middle with
    | nil =>
      rw [List.nil_append] at rest
      rw [← rest] at absent
      exact absurd List.mem_cons_self absent
    | cons c middle =>
      obtain rfl := List.head_eq_of_cons_eq rest
      apply guarded before middle rfl

/-- In a guarded text there is no comment to be cut off. -/
theorem guarded_iff {text : List Char} :
  Guarded text ↔ dropComment false text = text
  := by
  constructor
  · intro guarded
    apply (uncommented_dropComment text).unique
    exact ⟨guarded, .inl rfl⟩
  · intro whole
    have in_string := (uncommented_dropComment text).in_string
    rw [whole] at in_string
    exact in_string

instance (text : List Char) : Decidable (Guarded text) :=
  decidable_of_iff _ guarded_iff.symm

/-- What may come at the end of a line after this number of quotes: nothing, or a comment, which
says anything, if no string is open. -/
inductive Ending (quotes : Nat) : List Char → Prop
  | nothing : Ending quotes []
  | comment (closed : quotes % 2 = 0) (remark : List Char) : Ending quotes (';' :: remark)

theorem Ending.uncommented {text ending : List Char} (ends : Ending (text.count '"') ending)
    (guarded : Guarded text) :
  Uncommented (text ++ ending) text
  := by
  constructor
  · exact guarded
  · cases ends with
    | nothing =>
      left
      rw [List.append_nil]
    | comment closed remark =>
      right
      exact ⟨remark, rfl, closed⟩

/-- The text can stand between blanks on a line: it is not empty, has no blanks at its ends, and
has semicolons only in strings. -/
structure Writable (text : List Char) : Prop where
  nonempty : text ≠ []
  stops_front : Stops isBlank text
  stops_back : Stops isBlank text.reverse
  guarded : Guarded text

/-- A word of inert characters can stand on a line. -/
theorem writable_of_inert {text : List Char} (nonempty : text ≠ [])
    (inert : ∀ c ∈ text, Inert c) :
  Writable text
  where
  nonempty := nonempty
  stops_front := by
    intro c member
    apply (inert c (List.mem_of_mem_head? member)).1
  stops_back := by
    intro c member
    apply (inert c (List.mem_reverse.mp (List.mem_of_mem_head? member))).1
  guarded := by
    apply guarded_of_not_mem
    intro member
    apply (inert _ member).2.1 rfl

section

variable {before text after ending : List Char} (blank_before : Blanks before)
  (blank_after : Blanks after)

include blank_before blank_after

theorem count_quote_between_blanks :
  (before ++ (text ++ after)).count '"' = text.count '"'
  := by
  rw [List.count_append, List.count_append, blank_before.unmarked.count_quote,
    blank_after.unmarked.count_quote, Nat.zero_add, Nat.add_zero]

theorem Guarded.between_blanks (guarded : Guarded text) :
  Guarded (before ++ (text ++ after))
  := by
  apply (guarded.append blank_after.unmarked.no_semicolon).prepend blank_before.unmarked

/-- Text between blanks, perhaps with a comment after it, is found again. -/
theorem Writable.layout (writable : Writable text) (ends : Ending (text.count '"') ending)
    {name : List Char} {operand : Option (List Char)} (splits : Splits text name operand) :
  Layout (before ++ (text ++ (after ++ ending))) (some (name, operand))
  := by
  rw [← List.append_assoc text, ← List.append_assoc before]
  rw [← count_quote_between_blanks blank_before blank_after] at ends
  have guarded := writable.guarded.between_blanks blank_before blank_after
  apply Layout.statement (ends.uncommented guarded) _ writable.nonempty splits
  constructor
  · exact ⟨before, after, rfl, blank_before, blank_after⟩
  · exact writable.stops_front
  · exact writable.stops_back

end

/-! ### Lines without a statement -/

/-- The line has blanks only, perhaps with a comment after them. -/
def Blank (line : String) : Prop :=
  ∃ before ending, line.toList = before ++ ending ∧ Blanks before ∧ Ending 0 ending

/-- The lines without a statement are those that have blanks only, perhaps with a comment after
them. -/
theorem blank_iff {line : String} :
  Blank line ↔ splitLine line.toList = none
  := by
  constructor
  · rintro ⟨before, ending, split, blank_before, ends⟩
    have guarded : Guarded before := guarded_of_not_mem blank_before.unmarked.no_semicolon
    rw [← blank_before.unmarked.count_quote] at ends
    rw [splitLine_eq_iff, split]
    apply Layout.blank (ends.uncommented guarded)
    constructor
    · exact ⟨before, [], (List.append_nil _).symm, blank_before, List.forall_mem_nil _⟩
    · apply Text.stops_nil
    · apply Text.stops_nil
  · intro none
    cases splitLine_eq_iff.mp none with
    | @blank kept uncommented trimmed =>
      obtain ⟨before, after, rfl, blank_before, blank_after⟩ := trimmed.between
      have blanks : Blanks (before ++ ([] ++ after)) := by
        intro c member
        rcases List.mem_append.mp member with member | member
        · apply blank_before c member
        · apply blank_after c member
      use before ++ ([] ++ after)
      rcases uncommented.ends with whole | ⟨remark, cut, -⟩
      · use []
        rw [List.append_nil]
        exact ⟨whole.symm, blanks, .nothing⟩
      · use ';' :: remark
        exact ⟨cut, blanks, .comment rfl remark⟩

instance (line : String) : Decidable (Blank line) :=
  decidable_of_iff _ blank_iff.symm

/-! ### Lines with a statement -/

/-- The line writes the opcode and, if there is one, the operand: a name of the opcode, then
blanks and the operand, with any blanks before and after, and perhaps a comment at the end. -/
inductive Writes (op : Op) : Option (List Char) → List Char → Prop
  | bare {before name after ending : List Char} (blank_before : Blanks before)
      (named : op.Named name) (blank_after : Blanks after) (ends : Ending 0 ending) :
      Writes op none (before ++ (name ++ (after ++ ending)))
  | pair {before name gap text after ending : List Char} (blank_before : Blanks before)
      (named : op.Named name) (blank_gap : Blanks gap) (apart : gap ≠ [])
      (writable : Writable text) (blank_after : Blanks after)
      (ends : Ending (text.count '"') ending) :
      Writes op (some text) (before ++ (name ++ (gap ++ text) ++ (after ++ ending)))

section

variable {op : Op} {name : List Char} (named : op.Named name)

include named

theorem writable_of_named :
  Writable name
  := writable_of_inert named.ne_nil fun _ => named.inert

/-- A name, blanks and an operand make a text that can stand on a line. -/
theorem writable_pair {gap text : List Char} (blank_gap : Blanks gap) (writable : Writable text) :
  Writable (name ++ (gap ++ text))
  := by
  constructor
  · apply List.append_ne_nil_of_left_ne_nil named.ne_nil
  · apply named.stops
  · rw [← List.append_assoc, List.reverse_append]
    intro c member
    rw [List.head?_append_of_ne_nil _ (by simpa using writable.nonempty)] at member
    apply writable.stops_back c member
  · apply (writable.guarded.prepend blank_gap.unmarked).prepend named.unmarked

theorem splits_bare :
  Splits name name none
  := by
  apply Splits.bare
  intro c member
  apply (named.inert member).1

theorem splits_pair {gap text : List Char} (blank_gap : Blanks gap) (apart : gap ≠ [])
    (writable : Writable text) :
  Splits (name ++ (gap ++ text)) name (some text)
  := by
  obtain ⟨c, gap, rfl⟩ := List.exists_cons_of_ne_nil apart
  obtain ⟨blank, blank_gap⟩ := List.forall_mem_cons.mp blank_gap
  have word : ∀ c ∈ name, isBlank c = false := by
    intro c member
    apply (named.inert member).1
  apply Splits.pair rfl word blank
  constructor
  · use gap, []
    rw [List.append_nil]
    exact ⟨rfl, blank_gap, List.forall_mem_nil _⟩
  · exact writable.stops_front
  · exact writable.stops_back

end

/-- A name, one space and an operand, perhaps with blanks and a comment after them, are a way of
writing the two. -/
theorem writes_spaced {op : Op} {name text blanks ending : List Char} (named : op.Named name)
    (writable : Writable text) (blank : Blanks blanks) (ends : Ending (text.count '"') ending) :
  Writes op (some text) (name ++ ' ' :: (text ++ (blanks ++ ending)))
  := by
  have spaced : name ++ ' ' :: (text ++ (blanks ++ ending))
      = [] ++ (name ++ ([' '] ++ text) ++ (blanks ++ ending)) := by
    simp
  rw [spaced]
  apply Writes.pair
  · apply List.forall_mem_nil
  · exact named
  · decide
  · decide
  · exact writable
  · exact blank
  · exact ends

/-- The parts of a line are found again in every way of writing it. -/
theorem Writes.layout {op : Op} {operand : Option (List Char)} {line : List Char}
    (writes : Writes op operand line) :
  ∃ name, op.Named name ∧ Layout line (some (name, operand))
  := by
  cases writes with
  | @bare before name after ending blank_before named blank_after ends =>
    use name, named
    rw [← named.unmarked.count_quote] at ends
    apply (writable_of_named named).layout blank_before blank_after ends (splits_bare named)
  | @pair before name gap text after ending blank_before named blank_gap apart writable
      blank_after ends =>
    use name, named
    have quotes : (name ++ (gap ++ text)).count '"' = text.count '"' := by
      rw [List.count_append, List.count_append, named.unmarked.count_quote,
        blank_gap.unmarked.count_quote, Nat.zero_add, Nat.zero_add]
    rw [← quotes] at ends
    apply (writable_pair named blank_gap writable).layout blank_before blank_after ends
    apply splits_pair named blank_gap apart writable

theorem Writes.read_eq {op : Op} {operand : Option (List Char)} {line : List Char}
    (writes : Writes op operand line) :
  Statement.read line = (Statement.make op operand).map some
  := by
  obtain ⟨name, named, layout⟩ := writes.layout
  rw [Statement.read, splitLine_eq_iff.mpr layout]
  dsimp only
  rw [Op.ofMnemonic?_eq_some_iff.mpr named]

/-- A line that writes a statement without an obstacle is assembled to it. -/
theorem Writes.run_eq {op : Op} {operand : Option (List Char)} {line : String}
    (writes : Writes op operand line.toList) {statement : Statement}
    (reads : Statement.Reads op operand statement) {chunk : Chunk}
    (free : statement.obstacle? chunk.poolSize chunk.indexWidth = none) (number : Nat) :
  (assembleLine line number).run chunk = .ok (some chunk.length) (statement.place number chunk)
  := by
  have read : Statement.read line.toList = .ok (some statement) := by
    rw [writes.read_eq, Statement.make_eq_ok_iff.mpr reads]
    rfl
  rw [run_assembleLine, verdict_eq_some_iff.mpr ⟨read, free⟩]
  rfl

/-- A line that writes no statement is refused. -/
theorem Writes.run_eq_error {op : Op} {operand : Option (List Char)} {line : String}
    (writes : Writes op operand line.toList) {fault : Fault}
    (made : Statement.make op operand = .error fault) (number : Nat) (chunk : Chunk) :
  (assembleLine line number).run chunk = .error ⟨number, fault⟩ chunk
  := by
  have read : Statement.read line.toList = .error fault := by
    rw [writes.read_eq, made]
    rfl
  rw [run_assembleLine, verdict, read]

/-- The line has no fault exactly if the opcode takes the operand. -/
theorem Writes.verdict_iff {op : Op} {operand : Option (List Char)} {line : List Char}
    (writes : Writes op operand line) {poolSize : Nat} {width : IndexWidth} :
  (∃ statement, verdict poolSize width line = .ok (some statement))
    ↔ Takes op poolSize width operand
  := by
  obtain ⟨name, named, layout⟩ := writes.layout
  rw [← splitLine_eq_iff] at layout
  rw [← Op.ofMnemonic?_eq_some_iff] at named
  constructor
  · rintro ⟨statement, found⟩
    rcases takes_or_refuses op poolSize width operand with takes | ⟨fault, refuses⟩
    · exact takes
    · rw [verdict_of_refuses layout named refuses] at found
      cases found
  · apply verdict_of_takes layout named

/-- A line has the same result however its opcode and its operand are written, and it is assembled
exactly if the opcode takes the operand. -/
theorem assembleLine_eq_of_writes {op : Op} {operand : Option (List Char)} {line other : String}
    (writes : Writes op operand line.toList) (writes' : Writes op operand other.toList)
    (number : Nat) (chunk : Chunk) :
  (assembleLine line number).run chunk = (assembleLine other number).run chunk
    ∧ ((∃ after, (assembleLine line number).run chunk = .ok (some chunk.length) after)
      ↔ Takes op chunk.poolSize chunk.indexWidth operand)
  := by
  constructor
  · rw [assembleLine, assembleLine, writes.read_eq, writes'.read_eq]
  · rw [← writes.verdict_iff, run_assembleLine]
    cases verdict chunk.poolSize chunk.indexWidth line.toList with
    | error fault => simp
    | ok found =>
      cases found with
      | none => simp
      | some statement => simp

/-- A statement that is written plainly. -/
def plainLine : String :=
  "constant \"a; b\""

/-- The same statement in mixed case, with the mark, among blanks of several kinds, and with a
comment that opens a string. -/
def ornateLine : String :=
  "\u00a0 \tOp_cOnStAnT\u2003 \"a; b\"  ;; say \"hi"

theorem assembleLine_eq_of_writes_ornate :
  Writes .constant (some "\"a; b\"".toList) plainLine.toList
    ∧ Writes .constant (some "\"a; b\"".toList) ornateLine.toList
    ∧ (assembleLine plainLine 3).run (Chunk.empty .byte)
      = (assembleLine ornateLine 3).run (Chunk.empty .byte)
    ∧ ((∃ after, (assembleLine plainLine 3).run (Chunk.empty .byte)
        = .ok (some (Chunk.empty .byte).length) after)
      ↔ Takes .constant (Chunk.empty .byte).poolSize (Chunk.empty .byte).indexWidth
        (some "\"a; b\"".toList))
  := by
  have writable : Writable "\"a; b\"".toList := by
    constructor
    · decide
    · apply Text.stops_cons
      decide
    · apply Text.stops_cons
      decide
    · decide
  have writes : Writes .constant (some "\"a; b\"".toList) plainLine.toList := by
    have line_eq : plainLine.toList
        = [] ++ ("constant".toList ++ ([' '] ++ "\"a; b\"".toList) ++ ([] ++ [])) := by
      decide
    rw [line_eq]
    apply Writes.pair
    · decide
    · left
      decide
    · decide
    · decide
    · exact writable
    · decide
    · apply Ending.nothing
  have writes' : Writes .constant (some "\"a; b\"".toList) ornateLine.toList := by
    have line_eq : ornateLine.toList
        = "\u00a0 \t".toList ++ ("Op_cOnStAnT".toList ++ ("\u2003 ".toList ++ "\"a; b\"".toList)
          ++ ("  ".toList ++ ";; say \"hi".toList)) := by
      decide
    rw [line_eq]
    apply Writes.pair
    · decide
    · right
      decide
    · decide
    · decide
    · exact writable
    · decide
    · apply Ending.comment
      decide
  exact ⟨writes, writes', assembleLine_eq_of_writes writes writes' 3 (Chunk.empty .byte)⟩

end Assembly

end Bytecode
