import Bytecode.Proofs.StringLiterals

/-!
# Names of globals

The name of a global is written bare or between quotes. A bare name is read as a literal first, and
the reader of numbers knows words too: `inf`, `infinity` and `nan`, in either case, are numbers when
they are bare. `Assembly.global_bare_eq_quoted_iff` says that every other identifier names the same
global either way.
-/

namespace Bytecode

open Text (Inert)

/-! ### Letters and digits -/

namespace Text

theorem toNat_of_isAlpha {c : Char} (letter : c.isAlpha = true) :
  65 ≤ c.toNat ∧ c.toNat ≤ 122
  := by
  rcases Bool.or_eq_true_iff.mp letter with upper | lower
  · obtain ⟨above, below⟩ := of_decide_eq_true upper
    have last : c.toNat ≤ 90 := below
    exact ⟨above, Nat.le_trans last (by decide)⟩
  · obtain ⟨above, below⟩ := Bool.and_eq_true_iff.mp lower
    have first : 97 ≤ c.toNat := of_decide_eq_true above
    exact ⟨Nat.le_trans (by decide) first, of_decide_eq_true below⟩

theorem toNat_of_isDigit {c : Char} (digit : c.isDigit = true) :
  48 ≤ c.toNat ∧ c.toNat ≤ 57
  := by
  obtain ⟨above, below⟩ := Bool.and_eq_true_iff.mp digit
  exact ⟨of_decide_eq_true above, of_decide_eq_true below⟩

/-- The characters of words are inert. -/
theorem inert_of_isAlphanum {c : Char} (word : c.isAlphanum = true ∨ c = '_') :
  Inert c
  := by
  have bounds : 48 ≤ c.toNat ∧ c.toNat ≤ 122 := by
    rcases word with word | rfl
    · rcases Bool.or_eq_true_iff.mp word with letter | digit
      · have ends := toNat_of_isAlpha letter
        omega
      · have ends := toNat_of_isDigit digit
        omega
    · decide
  apply inert_of_toNat bounds.1 bounds.2
  rintro rfl
  exact absurd word (by decide)

end Text

namespace Assembly

/-! ### Identifiers -/

/-- A letter or an underscore, and then letters, digits and underscores. -/
inductive Identifier : List Char → Prop
  | word {first : Char} {rest : List Char} (front : first.isAlpha = true ∨ first = '_')
      (others : ∀ c ∈ rest, c.isAlphanum = true ∨ c = '_') :
      Identifier (first :: rest)

theorem identifier_cons_iff {first : Char} {rest : List Char} :
  Identifier (first :: rest) ↔ (first.isAlpha = true ∨ first = '_')
    ∧ rest.all (fun c => c.isAlphanum || c == '_') = true
  := by
  simp only [List.all_eq_true, Bool.or_eq_true, beq_iff_eq]
  constructor
  · rintro ⟨front, others⟩
    exact ⟨front, others⟩
  · rintro ⟨front, others⟩
    exact .word front others

instance : (name : List Char) → Decidable (Identifier name)
  | [] => isFalse nofun
  | _ :: _ => decidable_of_iff _ identifier_cons_iff.symm

/-- The bare identifier is a number. -/
def NamesNumber (name : List Char) : Prop :=
  name.map Char.toLower ∈ Binary64.words

instance (name : List Char) : Decidable (NamesNumber name) :=
  inferInstanceAs (Decidable (_ ∈ _))

namespace Identifier

variable {name : List Char} (identifier : Identifier name)

include identifier

theorem ne_nil :
  name ≠ []
  := by
  cases identifier with
  | word => apply List.cons_ne_nil

theorem inert :
  ∀ c ∈ name, Inert c
  := by
  cases identifier with
  | word front others =>
    rw [List.forall_mem_cons]
    constructor
    · apply Text.inert_of_isAlphanum
      apply front.imp_left
      intro letter
      exact Bool.or_eq_true_iff.mpr (.inl letter)
    · intro c member
      apply Text.inert_of_isAlphanum (others c member)

/-- An identifier does not begin like a decimal. -/
theorem written_iff :
  Binary64.Written name ↔ NamesNumber name
  := by
  constructor
  · intro written
    cases identifier with
    | @word first rest front others =>
      have late : 65 ≤ first.toNat := by
        rcases front with letter | rfl
        · exact (Text.toNat_of_isAlpha letter).1
        · decide
      rcases written.front with sign | digit | rfl | named
      · simp [Text.isSign] at sign
        rcases sign with rfl | rfl
        · exact absurd late (by decide)
        · exact absurd late (by decide)
      · rw [Text.isDigit, Bool.and_eq_true, decide_eq_true_eq, decide_eq_true_eq] at digit
        have early : first.toNat ≤ 57 := digit.2
        omega
      · exact absurd late (by decide)
      · exact named
  · intro named
    exact ⟨[], name, rfl, .inl rfl, .word named⟩

/-- An identifier that is no keyword is read as a number or not at all. -/
theorem readLiteral?_eq (no_keyword : name ∉ keywords) :
  readLiteral? name = (Binary64.read? name).map .number
  := by
  have unquoted : readQuoted? name = none := by
    rw [Option.eq_none_iff_forall_not_mem]
    intro inner quoted
    rw [readQuoted?_eq_some_iff.mp quoted] at identifier
    cases (identifier.inert '"' List.mem_cons_self).2.2 rfl
  rw [keywords, List.mem_cons, List.mem_cons, List.mem_singleton, not_or, not_or] at no_keyword
  obtain ⟨no_nil, no_true, no_false⟩ := no_keyword
  rw [readLiteral?, if_neg no_nil, if_neg no_true, if_neg no_false, unquoted]

/-- A bare identifier that is no keyword names itself, or else it is a number. -/
theorem readName_cases (no_keyword : name ∉ keywords) :
  (¬ NamesNumber name ∧ readName name = .str (String.ofList name))
    ∨ (NamesNumber name ∧ ∃ number, readName name = .number number)
  := by
  rw [readName, identifier.readLiteral?_eq no_keyword, ← identifier.written_iff,
    ← Binary64.isSome_read?_iff]
  cases Binary64.read? name with
  | none =>
    left
    exact ⟨Bool.false_ne_true, rfl⟩
  | some number =>
    right
    exact ⟨rfl, number, rfl⟩

/-- Between quotes, every identifier can stand on a line. -/
theorem writable_quoted :
  Writable ('"' :: (name ++ ['"']))
  := by
  have quotable : Quotable name := by
    rintro before after rfl
    cases (identifier.inert ';' List.mem_append_cons_self).2.1 rfl
  apply writable_cons_quote quotable.append_quote (stops_quote_back name)

end Identifier

/-! ### Lines on globals -/

/-- The line is assembled to an instruction on the global with the name. -/
def Names (line : String) (number : Nat) (op : Op) (chunk : Chunk) (name : Value) : Prop :=
  ∃ after, Pushes line number chunk name after
    ∧ after.decode chunk.length = .ok ⟨chunk.length, op, .constant chunk.poolSize name.text⟩

/-- A line that writes an opcode on globals and an operand is assembled to the instruction of this
opcode on the global that the operand names. -/
theorem run_of_writes_global {op : Op} (global : op ∈ Op.globals) {operand : List Char}
    {line : String} (writes : Writes op (some operand) line.toList) {chunk : Chunk}
    (room : chunk.poolSize < 256) (number : Nat) :
  (assembleLine line number).run chunk
      = .ok (some chunk.length) ((Statement.global op (readName operand)).place number chunk)
    ∧ Names line number op chunk (readName operand)
  := by
  obtain ⟨shape, other⟩ := Op.shape_of_mem_globals global
  have reads : Statement.Reads op (some operand) (.global op (readName operand)) :=
    .global shape other
  have free : (Statement.global op (readName operand)).obstacle? chunk.poolSize chunk.indexWidth
      = none := if_pos room
  have run := writes.run_eq reads free number
  have extended := Statement.extends_of_obstacle? reads number free
  refine ⟨run, _, ⟨run, ?_⟩, ?_⟩
  · apply Chunk.constants_appendBytes
  · apply extended.decode_eq
    intro distance target backward
    rw [Statement.instruction, shape] at backward
    cases backward

theorem writes_line {op : Op} {word : String} (named : op.Named word.toList) {operand : String}
    (writable : Writable operand.toList) :
  Writes op (some operand.toList) (word ++ " " ++ operand).toList
  := by
  have line_eq : (word ++ " " ++ operand).toList
      = word.toList ++ ' ' :: (operand.toList ++ ([] ++ [])) := by
    simp
  rw [line_eq]
  apply writes_spaced named writable
  · apply List.forall_mem_nil
  · apply Ending.nothing

/-- An identifier between quotes names itself. Without quotes it comes to the same, unless it is one
of the words for numbers: then the line names a number. -/
theorem global_bare_eq_quoted_iff {op : Op} (global : op ∈ Op.globals) {word : String}
    (named : op.Named word.toList) {name : String} (identifier : Identifier name.toList)
    (no_keyword : name.toList ∉ keywords) {chunk : Chunk} (room : chunk.poolSize < 256)
    (number : Nat) :
  Names (word ++ " " ++ ("\"" ++ name ++ "\"")) number op chunk (.str name)
    ∧ ((assembleLine (word ++ " " ++ name) number).run chunk
        = (assembleLine (word ++ " " ++ ("\"" ++ name ++ "\"")) number).run chunk
      ↔ ¬ NamesNumber name.toList)
    ∧ (NamesNumber name.toList →
      ∃ value, Names (word ++ " " ++ name) number op chunk (.number value))
  := by
  have quoted_eq : ("\"" ++ name ++ "\"").toList = '"' :: (name.toList ++ ['"']) := by simp
  have writable : Writable ("\"" ++ name ++ "\"").toList := by
    rw [quoted_eq]
    exact identifier.writable_quoted
  have reads : readName ("\"" ++ name ++ "\"").toList = .str name := by
    rw [readName, quoted_eq, readLiteral?_quoted, Option.getD_some]
  obtain ⟨run, names⟩ := run_of_writes_global global
    (writes_line named (writable_of_inert identifier.ne_nil identifier.inert)) room number
  obtain ⟨run', names'⟩ := run_of_writes_global global (writes_line named writable) room number
  rw [reads] at run' names'
  use names'
  rcases identifier.readName_cases no_keyword with ⟨unnamed, bare⟩ | ⟨counted, value, bare⟩
  · rw [String.ofList_toList] at bare
    constructor
    · rw [run, run', bare]
      exact iff_of_true rfl unnamed
    · intro counted
      exact absurd counted unnamed
  · rw [bare] at names
    constructor
    · apply iff_of_false _ (not_not.mpr counted)
      -- the pools would end with a number and a string at once
      intro same
      obtain ⟨after, pushes, -⟩ := names
      obtain ⟨after', pushes', -⟩ := names'
      cases pushes.unique pushes' same
    · intro
      exact ⟨value, names⟩

theorem global_bare_eq_quoted_iff_answer :
  Op.getGlobal ∈ Op.globals ∧ Op.getGlobal.Named "get_global".toList
    ∧ Identifier "answer".toList ∧ "answer".toList ∉ keywords ∧ (Chunk.empty .byte).poolSize < 256
    ∧ Names ("get_global" ++ " " ++ ("\"" ++ "answer" ++ "\"")) 2 .getGlobal (Chunk.empty .byte)
      (.str "answer")
    ∧ ((assembleLine ("get_global" ++ " " ++ "answer") 2).run (Chunk.empty .byte)
        = (assembleLine ("get_global" ++ " " ++ ("\"" ++ "answer" ++ "\"")) 2).run
          (Chunk.empty .byte)
      ↔ ¬ NamesNumber "answer".toList)
    ∧ (NamesNumber "answer".toList →
      ∃ value, Names ("get_global" ++ " " ++ "answer") 2 .getGlobal (Chunk.empty .byte)
        (.number value))
  := by
  have global : Op.getGlobal ∈ Op.globals := by decide
  have named : Op.getGlobal.Named "get_global".toList := by
    left
    decide
  have identifier : Identifier "answer".toList := by decide
  have no_keyword : "answer".toList ∉ keywords := by decide
  have room : (Chunk.empty .byte).poolSize < 256 := by decide
  exact ⟨global, named, identifier, no_keyword, room,
    global_bare_eq_quoted_iff global named identifier no_keyword room 2⟩

/-- A global with the name `inf` is another one with quotes than without them. -/
theorem global_bare_ne_quoted_inf :
  Op.defineGlobal ∈ Op.globals ∧ Op.defineGlobal.Named "define_global".toList
    ∧ Identifier "inf".toList ∧ "inf".toList ∉ keywords ∧ (Chunk.empty .byte).poolSize < 256
    ∧ Names "define_global \"inf\"" 1 .defineGlobal (Chunk.empty .byte) (.str "inf")
    ∧ Names "define_global inf" 1 .defineGlobal (Chunk.empty .byte)
      (.number (Binary64.infinity false))
    ∧ (assembleLine "define_global inf" 1).run (Chunk.empty .byte)
      ≠ (assembleLine "define_global \"inf\"" 1).run (Chunk.empty .byte)
  := by
  have named : Op.defineGlobal.Named "define_global".toList := by
    left
    decide
  have identifier : Identifier "inf".toList := by decide
  have room : (Chunk.empty .byte).poolSize < 256 := by decide
  have writes : Writes .defineGlobal (some "inf".toList) "define_global inf".toList :=
    writes_line named (writable_of_inert identifier.ne_nil identifier.inert)
  have writes' : Writes .defineGlobal (some "\"inf\"".toList) "define_global \"inf\"".toList :=
    writes_line named identifier.writable_quoted
  obtain ⟨-, names⟩ := run_of_writes_global (by decide) writes room 1
  obtain ⟨-, names'⟩ := run_of_writes_global (by decide) writes' room 1
  have reads : readName "inf".toList = .number (Binary64.infinity false) := by decide
  have reads' : readName "\"inf\"".toList = .str "inf" := by decide
  rw [reads] at names
  rw [reads'] at names'
  refine ⟨by decide, named, identifier, by decide, room, names', names, ?_⟩
  intro same
  obtain ⟨after, pushes, -⟩ := names
  obtain ⟨after', pushes', -⟩ := names'
  cases pushes.unique pushes' same

end Assembly

end Bytecode
