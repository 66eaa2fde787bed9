import Bytecode.Assembly.Statement
import Bytecode.Proofs.Literals

/-!
# Scanning a line

How the parts of a line of source are found, each as a relation between a text and its parts.
A comment is cut off, `Assembly.Uncommented`, then the blanks at both ends, `Text.Trimmed`, and
what is left is cut into a name and an operand, `Assembly.Splits`. `Assembly.Layout` puts these
together, and `Assembly.splitLine_eq_iff` says that every line has one layout.
`Op.ofMnemonic?_eq_some_iff` says which names an opcode has.
-/

namespace Bytecode

/-! ### Blanks -/

namespace Text

theorem Stops.of_append {p : Char → Bool} {text rest : List Char} (stops : Stops p (text ++ rest)) :
  Stops p text
  := by
  intro c member
  apply stops c
  rw [List.head?_append, Option.mem_def.mp member]
  rfl

/-- The inner text is what is left of a text without the blanks at both ends. -/
structure Trimmed (text inner : List Char) : Prop where
  between : ∃ before after, text = before ++ (inner ++ after)
    ∧ (∀ c ∈ before, isBlank c = true) ∧ ∀ c ∈ after, isBlank c = true
  stops_front : Stops isBlank inner
  stops_back : Stops isBlank inner.reverse

theorem trimmed_trim (text : List Char) :
  Trimmed text (trim text)
  := by
  have back : trimStart text
      = trim text ++ ((trimStart text).reverse.takeWhile isBlank).reverse := by
    apply List.reverse_inj.mp
    rw [trim, trimEnd, List.reverse_append, List.reverse_reverse, List.reverse_reverse,
      List.takeWhile_append_dropWhile]
  constructor
  · use text.takeWhile isBlank, ((trimStart text).reverse.takeWhile isBlank).reverse
    refine ⟨?_, fun _ => List.mem_takeWhile_imp, ?_⟩
    · rw [← back, trimStart, List.takeWhile_append_dropWhile]
    · intro c member
      apply List.mem_takeWhile_imp (List.mem_reverse.mp member)
  · have front : Stops isBlank (trimStart text) := stops_dropWhile isBlank text
    rw [back] at front
    exact front.of_append
  · rw [trim, trimEnd, List.reverse_reverse]
    apply stops_dropWhile

theorem Trimmed.trim_eq {text inner : List Char} (trimmed : Trimmed text inner) :
  trim text = inner
  := by
  obtain ⟨before, after, rfl, blank_before, blank_after⟩ := trimmed.between
  have blank_reverse : ∀ c ∈ after.reverse, isBlank c = true := by
    intro c member
    apply blank_after c (List.mem_reverse.mp member)
  rw [trim, trimStart, List.dropWhile_append_of_pos blank_before]
  cases inner with
  | nil =>
    rw [List.nil_append, List.dropWhile_eq_nil_iff.mpr blank_after]
    rfl
  | cons c inner =>
    have stops : Stops isBlank (c :: inner ++ after) := stops_cons (trimmed.stops_front c rfl)
    have kept : (c :: inner ++ after).dropWhile isBlank = c :: inner ++ after :=
      dropWhile_append_of_stops (List.forall_mem_nil _) stops
    rw [kept, trimEnd, List.reverse_append,
      dropWhile_append_of_stops blank_reverse trimmed.stops_back, List.reverse_reverse]

/-- A text is trimmed in one way only. -/
theorem trim_eq_iff {text inner : List Char} :
  trim text = inner ↔ Trimmed text inner
  := by
  constructor
  · rintro rfl
    apply trimmed_trim
  · apply Trimmed.trim_eq

end Text

open Text (Stops Trimmed isBlank)

namespace Assembly

/-! ### Comments -/

/-- The kept text is the line up to its first semicolon that has an even number of quotes before
it, or the whole line if it has none. -/
structure Uncommented (line kept : List Char) : Prop where
  in_string : ∀ before after, kept = before ++ ';' :: after → before.count '"' % 2 = 1
  ends : kept = line ∨ ∃ comment, line = kept ++ ';' :: comment ∧ kept.count '"' % 2 = 0

/-- The number of quotes in a text up to evenness. Where the text begins inside a string, that
counts like a quote in front of it. -/
def parity (inString : Bool) (text : List Char) : Nat :=
  (text.count '"' + inString.toNat) % 2

theorem parity_cons (inString : Bool) (c : Char) (text : List Char) :
  parity inString (c :: text) = parity (if c = '"' then !inString else inString) text
  := by
  rw [parity, parity, List.count_cons]
  by_cases quote : c = '"'
  · rw [if_pos quote, if_pos (by simpa using quote)]
    cases inString with
    | false => rfl
    | true =>
      rw [Bool.not_true, Bool.toNat_true, Bool.toNat_false]
      omega
  · rw [if_neg quote, if_neg (by simpa using quote), Nat.add_zero]

/-- What is kept of a line has semicolons only in strings, and it is the whole line or ends at a
semicolon outside of strings. -/
theorem dropComment_cuts (inString : Bool) (line : List Char) :
  (∀ before after, dropComment inString line = before ++ ';' :: after →
    parity inString before = 1)
    ∧ (dropComment inString line = line
      ∨ ∃ comment, line = dropComment inString line ++ ';' :: comment
        ∧ parity inString (dropComment inString line) = 0)
  := by
  induction line generalizing inString with
  | nil => simp [dropComment]
  | cons c rest ih =>
    rw [dropComment]
    by_cases cut : (c = ';' && !inString) = true
    · rw [if_pos cut]
      rw [Bool.and_eq_true, decide_eq_true_eq, Bool.not_eq_true'] at cut
      obtain ⟨rfl, rfl⟩ := cut
      constructor
      · simp
      · right
        exact ⟨rest, rfl, rfl⟩
    · rw [if_neg cut]
      obtain ⟨in_string, ends⟩ := ih (if c = '"' then !inString else inString)
      constructor
      · intro before after split
        cases before with
        | nil =>
          obtain rfl := List.head_eq_of_cons_eq split
          cases inString with
          | false => exact absurd rfl cut
          | true => rfl
        | cons d before =>
          obtain ⟨rfl, later⟩ := List.cons_eq_cons.mp split
          rw [parity_cons]
          apply in_string before after later
      · rcases ends with whole | ⟨comment, split, even⟩
        · left
          rw [whole]
        · right
          use comment
          rw [parity_cons]
          refine ⟨?_, even⟩
          rw [List.cons_append, ← split]

theorem uncommented_dropComment (line : List Char) :
  Uncommented line (dropComment false line)
  := by
  obtain ⟨in_string, ends⟩ := dropComment_cuts false line
  exact ⟨in_string, ends⟩

theorem Uncommented.isPrefix {line kept : List Char} (uncommented : Uncommented line kept) :
  kept <+: line
  := by
  rcases uncommented.ends with rfl | ⟨comment, rfl, -⟩
  · apply List.prefix_rfl
  · apply List.prefix_append

theorem Uncommented.length_le {line kept other : List Char} (uncommented : Uncommented line kept)
    (uncommented' : Uncommented line other) :
  other.length ≤ kept.length
  := by
  -- A longer kept text would hold the semicolon that ends the shorter one.
  by_contra longer
  rw [Nat.not_le] at longer
  rcases uncommented.ends with rfl | ⟨comment, cut, even⟩
  · have shorter := uncommented'.isPrefix.length_le
    omega
  · obtain ⟨rest, split⟩ : ∃ rest, other = kept ++ ';' :: rest := by
      obtain ⟨tail, whole⟩ := uncommented'.isPrefix
      rw [cut, List.append_eq_append_iff] at whole
      rcases whole with ⟨more, rfl, -⟩ | ⟨more, rfl, rest⟩
      · rw [List.length_append] at longer
        omega
      · cases more with
        | nil =>
          rw [List.append_nil] at longer
          omega
        | cons c more =>
          obtain rfl := List.head_eq_of_cons_eq rest
          exact ⟨more, rfl⟩
    have odd := uncommented'.in_string kept rest split
    omega

theorem Uncommented.unique {line kept other : List Char} (uncommented : Uncommented line kept)
    (uncommented' : Uncommented line other) :
  kept = other
  := by
  apply List.IsPrefix.eq_of_length_le
  · apply List.prefix_of_prefix_length_le uncommented.isPrefix uncommented'.isPrefix
    apply uncommented'.length_le uncommented
  · apply uncommented.length_le uncommented'

/-! ### Names and operands -/

/-- The name is the text before the first blank, and the operand is what comes after that blank,
without the blanks around it. A text without a blank has no operand. -/
inductive Splits (text : List Char) : List Char → Option (List Char) → Prop
  | bare (word : ∀ c ∈ text, isBlank c = false) : Splits text text none
  | pair {name rest operand : List Char} {c : Char} (cut : text = name ++ c :: rest)
      (word : ∀ c ∈ name, isBlank c = false) (blank : isBlank c = true)
      (trimmed : Trimmed rest operand) :
      Splits text name (some operand)

theorem splits_iff {text name : List Char} {operand : Option (List Char)} :
  Splits text name operand
    ↔ name = (Text.splitWord text).1 ∧ operand = (Text.splitWord text).2.map Text.trim
  := by
  rw [Text.splitWord]
  constructor
  · intro splits
    cases splits with
    | bare word =>
      have all : ∀ c ∈ text, (!isBlank c) = true := by
        intro c member
        rw [word c member, Bool.not_false]
      rw [List.takeWhile_eq_self_iff.mpr all, List.dropWhile_eq_nil_iff.mpr all]
      exact ⟨rfl, rfl⟩
    | @pair _ rest _ c cut word blank trimmed =>
      have all : ∀ c ∈ name, (!isBlank c) = true := by
        intro c member
        rw [word c member, Bool.not_false]
      have stops : Stops (fun c => !isBlank c) (c :: rest) := by
        apply Text.stops_cons
        rw [blank, Bool.not_true]
      rw [cut, Text.takeWhile_append_of_stops all stops, Text.dropWhile_append_of_stops all stops]
      rw [List.tail?_cons, Option.map_some, trimmed.trim_eq]
      exact ⟨rfl, rfl⟩
  · rintro ⟨rfl, rfl⟩
    have word : ∀ c ∈ text.takeWhile (fun c => !isBlank c), isBlank c = false := by
      intro c member
      simpa using List.mem_takeWhile_imp member
    have whole : text.takeWhile (fun c => !isBlank c) ++ text.dropWhile (fun c => !isBlank c)
        = text := List.takeWhile_append_dropWhile
    have stops := Text.stops_dropWhile (fun c => !isBlank c) text
    cases rest : text.dropWhile (fun c => !isBlank c) with
    | nil =>
      rw [rest, List.append_nil] at whole
      rw [whole] at word ⊢
      exact .bare word
    | cons c rest' =>
      rw [rest] at whole stops
      apply Splits.pair whole.symm word _ (Text.trimmed_trim rest')
      simpa using stops c rfl

/-- The layout of a line: nothing if only blanks are left when its comment is cut off, else a
name and perhaps an operand. -/
inductive Layout (line : List Char) : Option (List Char × Option (List Char)) → Prop
  | blank {kept : List Char} (uncommented : Uncommented line kept) (trimmed : Trimmed kept []) :
      Layout line none
  | statement {kept text name : List Char} {operand : Option (List Char)}
      (uncommented : Uncommented line kept) (trimmed : Trimmed kept text) (nonempty : text ≠ [])
      (splits : Splits text name operand) :
      Layout line (some (name, operand))

/-- Every line has one layout. -/
theorem splitLine_eq_iff {line : List Char} {layout : Option (List Char × Option (List Char))} :
  splitLine line = layout ↔ Layout line layout
  := by
  have uncommented := uncommented_dropComment line
  have trimmed := Text.trimmed_trim (dropComment false line)
  constructor
  · rintro rfl
    rw [splitLine]
    by_cases empty : significant line = []
    · rw [if_pos (List.isEmpty_iff.mpr empty)]
      rw [← significant, empty] at trimmed
      exact .blank uncommented trimmed
    · rw [if_neg (by simpa using empty)]
      exact .statement uncommented trimmed empty (splits_iff.mpr ⟨rfl, rfl⟩)
  · intro layout
    cases layout with
    | blank uncommented' trimmed' =>
      rw [splitLine, significant, uncommented.unique uncommented', trimmed'.trim_eq]
      rfl
    | statement uncommented' trimmed' nonempty splits =>
      rw [splitLine, significant, uncommented.unique uncommented', trimmed'.trim_eq,
        if_neg (by simpa using nonempty)]
      obtain ⟨rfl, rfl⟩ := splits_iff.mp splits
      rfl

/-- An operand is not empty. -/
theorem Layout.operand_ne_nil {line name operand : List Char}
    (layout : Layout line (some (name, some operand))) :
  operand ≠ []
  := by
  rintro rfl
  cases layout with
  | statement uncommented trimmed nonempty splits =>
    cases splits with
    | @pair _ rest _ c cut word blank inner =>
      obtain ⟨before, after, rfl, blank_before, blank_after⟩ := inner.between
      have stops := trimmed.stops_back
      rw [cut, List.reverse_append] at stops
      cases ends : (c :: (before ++ ([] ++ after))).reverse with
      | nil => simp at ends
      | cons last rest =>
        have member : last ∈ c :: (before ++ after) := by
          rw [← List.mem_reverse, ← List.nil_append after, ends]
          apply List.mem_cons_self
        have blank_last : isBlank last = true := by
          rcases List.mem_cons.mp member with rfl | member
          · exact blank
          · rcases List.mem_append.mp member with member | member
            · apply blank_before last member
            · apply blank_after last member
        rw [ends] at stops
        rw [stops last rfl] at blank_last
        cases blank_last

end Assembly

/-! ### Mnemonics -/

/-- The opcode has the name: in capitals it is the mnemonic of the opcode, with or without the
mark in front. -/
def Op.Named (op : Op) (name : List Char) : Prop :=
  name.map Char.toUpper = op.word.toList ∨ name.map Char.toUpper = op.mnemonic.toList

theorem Op.isPrefixOf_word (op : Op) :
  mark.isPrefixOf op.word.toList = false
  := by
  cases op <;> rfl

/-- A name without its mark is the word of an opcode if the opcode has the name. No word begins
with the mark itself. -/
theorem Op.dropMark_eq_iff {name : List Char} {op : Op} :
  dropMark (name.map Char.toUpper) = op.word.toList ↔ op.Named name
  := by
  rw [Named, mnemonic, String.toList_append]
  generalize name.map Char.toUpper = upper
  have unmarked := op.isPrefixOf_word
  rw [dropMark]
  by_cases marked : mark.isPrefixOf upper = true
  · rw [if_pos marked]
    obtain ⟨rest, rfl⟩ := List.isPrefixOf_iff_prefix.mp marked
    rw [List.drop_left]
    constructor
    · rintro rfl
      right
      rfl
    · rintro (same | same)
      · rw [same, unmarked] at marked
        cases marked
      · apply List.append_cancel_left same
  · rw [if_neg marked]
    constructor
    · intro same
      left
      exact same
    · rintro (same | rfl)
      · exact same
      · exact absurd (List.isPrefixOf_iff_prefix.mpr (List.prefix_append _ _)) marked

/-- The opcode of a name is the one that has the name. -/
theorem Op.ofMnemonic?_eq_some_iff {name : List Char} {op : Op} :
  ofMnemonic? name = some op ↔ op.Named name
  := by
  rw [← dropMark_eq_iff]
  constructor
  · intro found
    have word := List.find?_some found
    exact (beq_iff_eq.mp word).symm
  · intro dropped
    cases found : ofMnemonic? name with
    | none =>
      have missing := List.find?_eq_none.mp found op op.mem_all
      rw [dropped] at missing
      exact absurd (beq_self_eq_true _) missing
    | some other =>
      have word := List.find?_some found
      rw [dropped, beq_iff_eq, String.toList_inj] at word
      have same : other.mnemonic = op.mnemonic := by
        rw [mnemonic, mnemonic, word]
      rw [mnemonic_injective same]

end Bytecode
