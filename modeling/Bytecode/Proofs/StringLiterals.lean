import Bytecode.Proofs.Spelling

/-!
# String literals

A string is written between double quotes, without escapes. What the line stores is cut out twice:
a comment begins at the first semicolon with an even number of quotes before it on the line, and the
literal goes from its first quote to its last one. `Assembly.Quotable` says when the two agree on
the string, and `Assembly.stores_string_iff_quotable` that exactly these strings are stored and
shown as they are.
-/

namespace Bytecode

open Text (Stops Blanks isBlank)

/-- A text is cut where its last blanks begin. -/
theorem Text.exists_blanks_at_end (text : List Char) :
  ∃ word blanks, text = word ++ blanks ∧ Blanks blanks ∧ Stops isBlank word.reverse
  := by
  use trimEnd text, (text.reverse.takeWhile isBlank).reverse
  refine ⟨?_, ?_, ?_⟩
  · apply List.reverse_inj.mp
    rw [trimEnd, List.reverse_append, List.reverse_reverse, List.reverse_reverse,
      List.takeWhile_append_dropWhile]
  · intro c member
    apply List.mem_takeWhile_imp (List.mem_reverse.mp member)
  · rw [trimEnd, List.reverse_reverse]
    apply stops_dropWhile

namespace Assembly

/-! ### Semicolons between quotes -/

/-- No semicolon begins a comment when the text stands after a quote: each has an even number of
quotes before it in the text. -/
def Quotable (text : List Char) : Prop :=
  ∀ before after, text = before ++ ';' :: after → before.count '"' % 2 = 0

theorem guarded_cons_quote_iff {text : List Char} :
  Guarded ('"' :: text) ↔ Quotable text
  := by
  constructor
  · rintro guarded before after rfl
    have odd := guarded ('"' :: before) after rfl
    rw [List.count_cons_self] at odd
    omega
  · intro quotable before after split
    cases before with
    | nil => cases split
    | cons c before =>
      obtain ⟨rfl, rest⟩ := List.cons_eq_cons.mp split
      have even := quotable before after rest
      rw [List.count_cons_self]
      omega

instance (text : List Char) : Decidable (Quotable text) :=
  decidable_of_iff _ guarded_cons_quote_iff

theorem Quotable.of_append {text rest : List Char} (quotable : Quotable (text ++ rest)) :
  Quotable text
  := by
  rintro before after rfl
  apply quotable before (after ++ rest)
  rw [List.append_assoc, List.cons_append]

theorem Quotable.append_quote {text : List Char} (quotable : Quotable text) :
  Quotable (text ++ ['"'])
  := by
  rw [← guarded_cons_quote_iff] at quotable ⊢
  apply quotable.append (by decide)

/-- The comment begins at the first semicolon with an odd number of quotes before it. -/
theorem exists_comment_of_not_quotable {text : List Char} (cut : ¬ Quotable text) :
  ∃ kept comment, text = kept ++ ';' :: comment ∧ Quotable kept ∧ kept.count '"' % 2 = 1
  := by
  -- after the quote in front of the text, the search for the comment begins inside a string
  obtain ⟨in_string, ends⟩ := dropComment_cuts true text
  have quotable : Quotable (dropComment true text) := by
    intro before after split
    have odd := in_string before after split
    rw [parity, Bool.toNat_true] at odd
    omega
  rcases ends with whole | ⟨comment, split, even⟩
  · rw [whole] at quotable
    exact absurd quotable cut
  · rw [parity, Bool.toNat_true] at even
    refine ⟨_, comment, split, quotable, ?_⟩
    omega

/-- A text that begins with a quote can stand on a line if no semicolon behind that quote begins a
comment. -/
theorem writable_cons_quote {text : List Char} (quotable : Quotable text)
    (stops : Stops isBlank text.reverse) :
  Writable ('"' :: text)
  where
  nonempty := List.cons_ne_nil _ _
  stops_front := Text.stops_cons (by decide)
  stops_back := by
    rw [List.reverse_cons]
    cases ends : text.reverse with
    | nil => apply Text.stops_cons (by decide)
    | cons c rest =>
      rw [ends] at stops
      apply Text.stops_cons (stops c rfl)
  guarded := guarded_cons_quote_iff.mpr quotable

theorem stops_quote_back (text : List Char) :
  Stops isBlank (text ++ ['"']).reverse
  := by
  rw [List.reverse_append]
  apply Text.stops_cons
  decide

/-! ### Reading between quotes -/

/-- What begins with a quote is no number. -/
theorem not_written_cons_quote (text : List Char) :
  ¬ Binary64.Written ('"' :: text)
  := by
  intro written
  rcases written.front with sign | digit | point | named
  · cases sign
  · cases digit
  · cases point
  · simp [Binary64.words] at named

/-- What begins with a quote is a string or nothing. -/
theorem readLiteral?_cons_quote (text : List Char) :
  readLiteral? ('"' :: text) = (readQuoted? ('"' :: text)).map .str
  := by
  have unread : Binary64.read? ('"' :: text) = none := by
    rw [← Option.not_isSome_iff_eq_none, Binary64.isSome_read?_iff]
    apply not_written_cons_quote
  rw [readLiteral?, if_neg (by simp), if_neg (by simp), if_neg (by simp), unread]
  cases readQuoted? ('"' :: text) with
  | none => rfl
  | some inner => rfl

theorem readLiteral?_quoted (inner : String) :
  readLiteral? ('"' :: (inner.toList ++ ['"'])) = some (.str inner)
  := by
  rw [readLiteral?_cons_quote, readQuoted?_eq_some_iff.mpr rfl, Option.map_some]

/-- A text that begins with a quote but does not end with another one is no literal. -/
theorem readLiteral?_cons_quote_cases (text : List Char) :
  readLiteral? ('"' :: text) = none
    ∨ ∃ inner : String, text = inner.toList ++ ['"']
      ∧ readLiteral? ('"' :: text) = some (.str inner)
  := by
  rw [readLiteral?_cons_quote]
  cases read : readQuoted? ('"' :: text) with
  | none =>
    left
    rfl
  | some inner =>
    right
    exact ⟨inner, List.tail_eq_of_cons_eq (readQuoted?_eq_some_iff.mp read), rfl⟩

/-! ### Lines that load a string -/

/-- The line that loads the text between quotes. -/
def loadLine (text : String) : String :=
  "constant \"" ++ text ++ "\""

/-- The line is assembled to an instruction, and a constant is put at the end of the pool. -/
structure Pushes (line : String) (number : Nat) (chunk : Chunk) (value : Value)
    (after : Chunk) : Prop where
  run_eq : (assembleLine line number).run chunk = .ok (some chunk.length) after
  constants_eq : after.constants = chunk.constants.push value

/-- Lines that have the same result put the same constant into the pool. -/
theorem Pushes.unique {line line' : String} {number number' : Nat} {chunk after after' : Chunk}
    {value value' : Value} (pushes : Pushes line number chunk value after)
    (pushes' : Pushes line' number' chunk value' after')
    (same : (assembleLine line number).run chunk = (assembleLine line' number').run chunk) :
  value = value'
  := by
  rw [pushes.run_eq, pushes'.run_eq] at same
  cases same
  apply Array.push_inj_right.mp
  rw [← pushes.constants_eq, ← pushes'.constants_eq]

/-- The line is assembled to one instruction that loads the string, and the text of the instruction
shows the string between single quotes. -/
def Stores (line : String) (number : Nat) (chunk : Chunk) (text : String) : Prop :=
  ∃ after, Pushes line number chunk (.str text) after
    ∧ ∃ op ∈ Op.loads, after.describe chunk.length
      = .ok
        (Text.padRight 16 op.mnemonic ++ " " ++ Text.column chunk.poolSize ++ " '" ++ text ++ "'",
          after.length)

theorem Stores.unique {line text other : String} {number : Nat} {chunk : Chunk}
    (stores : Stores line number chunk text) (stores' : Stores line number chunk other) :
  text = other
  := by
  obtain ⟨after, pushes, -⟩ := stores
  obtain ⟨after', pushes', -⟩ := stores'
  apply Value.str.inj (pushes.unique pushes' rfl)

/-- Where a line that loads a string is cut into a literal, blanks and a comment, it writes the
literal. -/
theorem writes_loadLine {text : String} {word blanks ending : List Char}
    (cut : text.toList ++ ['"'] = word ++ (blanks ++ ending)) (quotable : Quotable word)
    (stops : Stops isBlank word.reverse) (blank : Blanks blanks)
    (ends : Ending (('"' :: word).count '"') ending) :
  Writes .constant (some ('"' :: word)) (loadLine text).toList
  := by
  have line_eq : (loadLine text).toList
      = "constant".toList ++ ' ' :: ('"' :: word ++ (blanks ++ ending)) := by
    rw [List.cons_append, ← cut]
    simp [loadLine]
  rw [line_eq]
  apply writes_spaced
  · left
    decide
  · apply writable_cons_quote quotable stops
  · exact blank
  · exact ends

/-- A string whose semicolons are not taken for comments is written as a whole. -/
theorem writes_of_quotable {text : String} (quotable : Quotable text.toList) :
  Writes .constant (some ('"' :: (text.toList ++ ['"']))) (loadLine text).toList
  := by
  have whole : text.toList ++ ['"'] = (text.toList ++ ['"']) ++ ([] ++ []) := by
    rw [List.append_nil, List.append_nil]
  apply writes_loadLine whole quotable.append_quote
  · apply stops_quote_back
  · apply List.forall_mem_nil
  · apply Ending.nothing

/-- Of any other string only a part before a semicolon is written, with one quote in front of it. -/
theorem writes_of_not_quotable {text : String} (cut : ¬ Quotable text.toList) :
  ∃ word, word <+: text.toList ∧ Writes .constant (some ('"' :: word)) (loadLine text).toList
  := by
  obtain ⟨kept, comment, split, quotable, odd⟩ := exists_comment_of_not_quotable cut
  obtain ⟨word, blanks, rfl, blank, stops⟩ := Text.exists_blanks_at_end kept
  rw [List.count_append, blank.unmarked.count_quote, Nat.add_zero] at odd
  use word
  constructor
  · rw [split, List.append_assoc]
    apply List.prefix_append
  · have cut : text.toList ++ ['"'] = word ++ (blanks ++ ';' :: (comment ++ ['"'])) := by
      rw [split]
      simp
    apply writes_loadLine cut quotable.of_append stops blank
    apply Ending.comment
    rw [List.count_cons_self]
    omega

/-- The opcode of an instruction that loads a constant is one of those that load constants. -/
theorem op_load_mem (offset index : Nat) (value : Value) :
  (Instruction.load offset index value).op ∈ Op.loads
  := by
  rw [Instruction.load]
  dsimp only
  split <;> decide

/-- A line that writes a string is assembled to it, if there is room in the pool. -/
theorem stores_of_writes {line text : String} {chunk : Chunk}
    (writes : Writes .constant (some ('"' :: (text.toList ++ ['"']))) line.toList)
    (room : chunk.poolSize < chunk.indexWidth.poolLimit) (number : Nat) :
  Stores line number chunk text
  := by
  have reads : Statement.Reads .constant (some ('"' :: (text.toList ++ ['"'])))
      (.constant (.str text)) := .constant (.inl rfl) (readLiteral?_quoted text)
  have free : (Statement.constant (.str text)).obstacle? chunk.poolSize chunk.indexWidth = none :=
    if_neg (Nat.not_le_of_lt room)
  have extended := Statement.extends_of_obstacle? reads number free
  have lands : (Instruction.load chunk.length chunk.poolSize (.str text)).Lands := by
    rintro distance target - ⟨⟩
  refine ⟨_, ⟨writes.run_eq reads free number, ?_⟩, _,
    op_load_mem chunk.length chunk.poolSize (.str text), ?_⟩
  · apply Chunk.constants_appendBytes
  · rw [Chunk.describe, Statement.place, extended.decode_eq lands, extended.length_extend]
    rfl

/-! ### Which strings are stored -/

/-- A line that writes a beginning of a string, after a quote, either fails or stores something
shorter. -/
theorem fails_or_stores_shorter {line : String} {text word : List Char}
    (writes : Writes .constant (some ('"' :: word)) line.toList) (begins : word <+: text)
    {chunk : Chunk} (room : chunk.poolSize < chunk.indexWidth.poolLimit) (number : Nat) :
  (∃ fault, (assembleLine line number).run chunk = .error ⟨number, fault⟩ chunk)
    ∨ ∃ shorter : String, shorter.toList ++ ['"'] <+: text ∧ Stores line number chunk shorter
  := by
  rcases readLiteral?_cons_quote_cases word with unread | ⟨inner, rfl, -⟩
  · left
    use .badOperand .constant (String.ofList ('"' :: word))
    apply writes.run_eq_error
    apply make_eq_badOperand (by decide)
    intro statement reads
    cases reads with
    | constant loads literal =>
      rw [unread] at literal
      cases literal
    | byte shape number small => cases shape
    | global shape other => exact other rfl
    | jump jumps number small => cases jumps
  · right
    exact ⟨inner, begins, stores_of_writes writes room number⟩

/-- A string is stored and shown as it is exactly if each of its semicolons has an even number of
quotes before it. Of any other string the line stores a shorter beginning, cut off at a quote, or
it fails. -/
theorem stores_string_iff_quotable (text : String) (number : Nat) (chunk : Chunk)
    (room : chunk.poolSize < chunk.indexWidth.poolLimit) :
  (Stores (loadLine text) number chunk text ↔ Quotable text.toList)
    ∧ ∀ before after, text.toList = before ++ ';' :: after → before.count '"' % 2 = 1 →
      (∃ fault, (assembleLine (loadLine text) number).run chunk = .error ⟨number, fault⟩ chunk)
        ∨ ∃ shorter : String, shorter.length < text.length
          ∧ shorter.toList ++ ['"'] <+: text.toList
          ∧ Stores (loadLine text) number chunk shorter
  := by
  have shortens : ¬ Quotable text.toList →
      (∃ fault, (assembleLine (loadLine text) number).run chunk = .error ⟨number, fault⟩ chunk)
        ∨ ∃ shorter : String, shorter.length < text.length
          ∧ shorter.toList ++ ['"'] <+: text.toList
          ∧ Stores (loadLine text) number chunk shorter := by
    intro cut
    obtain ⟨word, begins, writes⟩ := writes_of_not_quotable cut
    rcases fails_or_stores_shorter writes begins room number with fails | ⟨shorter, front, stores⟩
    · left
      exact fails
    · right
      refine ⟨shorter, ?_, front, stores⟩
      have bound := front.length_le
      simp only [List.length_append, List.length_singleton, String.length_toList] at bound
      omega
  refine ⟨⟨?_, ?_⟩, ?_⟩
  · intro stores
    by_contra cut
    rcases shortens cut with ⟨fault, failed⟩ | ⟨shorter, less, -, stores'⟩
    · obtain ⟨after, ⟨run, -⟩, -⟩ := stores
      rw [failed] at run
      cases run
    · rw [stores.unique stores'] at less
      exact absurd less (Nat.lt_irrefl _)
  · intro quotable
    apply stores_of_writes (writes_of_quotable quotable) room
  · intro before after split odd
    apply shortens
    intro quotable
    have even := quotable before after split
    omega

/-- The first string closes its quotes before the semicolon, the second one does not. -/
theorem stores_string_iff_quotable_say :
  (Chunk.empty .byte).poolSize < (Chunk.empty .byte).indexWidth.poolLimit
    ∧ Stores (loadLine " say \"hi\"; \n") 4 (Chunk.empty .byte) " say \"hi\"; \n"
    ∧ ¬ Stores (loadLine "say \"; bye") 4 (Chunk.empty .byte) "say \"; bye"
    ∧ ((∃ fault, (assembleLine (loadLine "say \"; bye") 4).run (Chunk.empty .byte)
        = .error ⟨4, fault⟩ (Chunk.empty .byte))
      ∨ ∃ shorter : String, shorter.length < "say \"; bye".length
        ∧ shorter.toList ++ ['"'] <+: "say \"; bye".toList
        ∧ Stores (loadLine "say \"; bye") 4 (Chunk.empty .byte) shorter)
  := by
  have room : (Chunk.empty .byte).poolSize < (Chunk.empty .byte).indexWidth.poolLimit := by decide
  obtain ⟨whole, -⟩ := stores_string_iff_quotable " say \"hi\"; \n" 4 _ room
  obtain ⟨kept, cut⟩ := stores_string_iff_quotable "say \"; bye" 4 _ room
  refine ⟨room, whole.mpr (by decide), ?_, ?_⟩
  · rw [kept]
    decide
  · apply cut "say \"".toList " bye".toList
    · decide
    · decide

end Assembly

end Bytecode
