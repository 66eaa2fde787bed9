import Bytecode.Assembly.Literal
import Bytecode.Proofs.Columns
import Mathlib.Data.List.TakeDrop
import Mathlib.Data.List.TakeWhile

/-!
# Numbers and literals

The texts that are read as numbers and as literals, as grammars beside the readers.

* `Text.Numeral` gives the whole numbers, and `Text.readNat?_eq_some_iff` says that exactly
  these are read, each with its value.
* `Binary64.Written` gives the floating point numbers, and `Binary64.isSome_read?_iff` says
  that exactly these are read.
* `Assembly.Literal` gives the literals, and `Assembly.isSome_readLiteral?_iff` says that
  exactly these are read.
-/

namespace Bytecode

namespace Text

/-- What stops a class of characters is left when a word of that class is dropped. -/
theorem dropWhile_append_of_stops {p : Char → Bool} {word rest : List Char}
    (all : ∀ c ∈ word, p c = true) (stops : Stops p rest) :
  (word ++ rest).dropWhile p = rest
  := by
  rw [List.dropWhile_append_of_pos all]
  cases rest with
  | nil => rfl
  | cons c rest =>
    have other := stops c rfl
    rw [List.dropWhile_cons_of_neg (by simp [other])]

theorem stops_dropWhile (p : Char → Bool) (text : List Char) :
  Stops p (text.dropWhile p)
  := by
  intro c member
  have first := List.head?_dropWhile_not p text
  rw [Option.mem_def.mp member] at first
  exact first

theorem span_append_of_stops {p : Char → Bool} {word rest : List Char}
    (all : ∀ c ∈ word, p c = true) (stops : Stops p rest) :
  (word ++ rest).span p = (word, rest)
  := by
  rw [List.span_eq_takeWhile_dropWhile, takeWhile_append_of_stops all stops,
    dropWhile_append_of_stops all stops]

/-! ### Whole numbers -/

/-- One or more digits. -/
structure Digits (text : List Char) : Prop where
  nonempty : text ≠ []
  all : ∀ c ∈ text, isDigit c = true

/-- A whole number as it is written: digits, after an optional plus sign. -/
def Numeral (text : List Char) (n : Nat) : Prop :=
  ∃ digits, (text = digits ∨ text = '+' :: digits) ∧ Digits digits
    ∧ Nat.ofDigitChars 10 digits 0 = n

theorem readDigits?_eq_some_iff {text : List Char} {n : Nat} :
  readDigits? text = some n ↔ Digits text ∧ Nat.ofDigitChars 10 text 0 = n
  := by
  have digits : Digits text ↔ (!text.isEmpty && text.all isDigit) = true := by
    rw [Bool.and_eq_true, List.all_eq_true, Bool.not_eq_true', List.isEmpty_eq_false_iff]
    exact ⟨fun h => ⟨h.nonempty, h.all⟩, fun h => ⟨h.1, h.2⟩⟩
  rw [readDigits?, digits]
  by_cases written : (!text.isEmpty && text.all isDigit) = true
  · rw [if_pos written, Option.some_inj]
    exact ⟨fun value => ⟨written, value⟩, And.right⟩
  · rw [if_neg written]
    constructor
    · intro read
      cases read
    · intro read
      exact absurd read.1 written

theorem isSome_readDigits?_iff {text : List Char} :
  (readDigits? text).isSome = true ↔ Digits text
  := by
  rw [Option.isSome_iff_exists]
  constructor
  · rintro ⟨n, read⟩
    exact (readDigits?_eq_some_iff.mp read).1
  · intro digits
    exact ⟨_, readDigits?_eq_some_iff.mpr ⟨digits, rfl⟩⟩

theorem Digits.dropPlus_eq {text : List Char} (digits : Digits text) :
  dropPlus text = text
  := by
  fun_cases dropPlus text with
  | case1 rest =>
    have digit := digits.all '+' List.mem_cons_self
    cases digit
  | case2 => rfl

theorem eq_or_eq_dropPlus (text : List Char) :
  text = dropPlus text ∨ text = '+' :: dropPlus text
  := by
  fun_cases dropPlus text with
  | case1 rest =>
    right
    rfl
  | case2 =>
    left
    rfl

/-- Exactly the whole numbers are read, each with its value. -/
theorem readNat?_eq_some_iff {text : List Char} {n : Nat} :
  readNat? text = some n ↔ Numeral text n
  := by
  rw [readNat?, readDigits?_eq_some_iff]
  constructor
  · rintro ⟨digits, value⟩
    exact ⟨dropPlus text, eq_or_eq_dropPlus text, digits, value⟩
  · rintro ⟨digits, rfl | rfl, all, value⟩
    · rw [all.dropPlus_eq]
      exact ⟨all, value⟩
    · exact ⟨all, value⟩

/-! ### Decimals -/

/-- An optional sign. -/
def Sign (text : List Char) : Prop :=
  text = [] ∨ text = ['+'] ∨ text = ['-']

/-- Whether a character is a sign. -/
def isSign (c : Char) : Bool :=
  c == '+' || c == '-'

theorem isSign_of_isDigit {c : Char} (digit : isDigit c = true) :
  isSign c = false
  := by
  rw [isSign, Bool.or_eq_false_iff, beq_eq_false_iff_ne, beq_eq_false_iff_ne]
  constructor
  · rintro rfl
    cases digit
  · rintro rfl
    cases digit

theorem Digits.stops_isSign {text : List Char} (digits : Digits text) :
  Stops isSign text
  := by
  intro c member
  apply isSign_of_isDigit
  apply digits.all c (List.mem_of_mem_head? member)

/-- A sign is split off what does not begin with one. -/
theorem splitSign_append {sign rest : List Char} (signed : Sign sign)
    (stops : Stops isSign rest) :
  (splitSign (sign ++ rest)).2 = rest
  := by
  rcases signed with rfl | rfl | rfl
  · rw [List.nil_append]
    fun_cases splitSign rest with
    | case1 rest => cases stops '+' rfl
    | case2 rest => cases stops '-' rfl
    | case3 => rfl
  · rfl
  · rfl

theorem exists_sign (text : List Char) :
  ∃ sign, Sign sign ∧ text = sign ++ (splitSign text).2
  := by
  fun_cases splitSign text with
  | case1 rest => exact ⟨['+'], .inr (.inl rfl), rfl⟩
  | case2 rest => exact ⟨['-'], .inr (.inr rfl), rfl⟩
  | case3 => exact ⟨[], .inl rfl, rfl⟩

/-- The exponent of a decimal, which may be absent. -/
inductive Exponent : List Char → Prop
  | absent : Exponent []
  | present {mark : Char} {sign digits : List Char} (marked : mark = 'e' ∨ mark = 'E')
      (signed : Sign sign) (written : Digits digits) :
      Exponent (mark :: (sign ++ digits))

/-- The digits of a decimal: at least one, with or without a decimal point among them. -/
inductive Mantissa : List Char → Prop
  | whole {digits : List Char} (written : Digits digits) : Mantissa digits
  | point {whole fraction : List Char} (written : Digits (whole ++ fraction)) :
      Mantissa (whole ++ '.' :: fraction)

/-- After its mark, an exponent is read if its digits are. -/
theorem isSome_readExponent?_cons {mark : Char} (marked : mark = 'e' ∨ mark = 'E')
    (rest : List Char) :
  (readExponent? (mark :: rest)).isSome = (readDigits? (splitSign rest).2).isSome
  := by
  rw [readExponent?, if_pos (by simpa using marked)]
  cases digits : readDigits? (splitSign rest).2 with
  | none => simp [digits]
  | some n => simp [digits]

theorem isSome_readExponent?_iff {text : List Char} :
  (readExponent? text).isSome = true ↔ Exponent text
  := by
  constructor
  · intro read
    cases text with
    | nil => exact .absent
    | cons mark rest =>
      by_cases marked : mark = 'e' ∨ mark = 'E'
      · obtain ⟨sign, signed, split⟩ := exists_sign rest
        rw [isSome_readExponent?_cons marked, isSome_readDigits?_iff] at read
        rw [split]
        apply Exponent.present marked signed read
      · rw [readExponent?, if_neg (by simpa using marked)] at read
        cases read
  · intro exponent
    cases exponent with
    | absent => rfl
    | present marked signed written =>
      rw [isSome_readExponent?_cons marked, splitSign_append signed written.stops_isSign,
        isSome_readDigits?_iff]
      exact written

theorem Exponent.stops_isDigit {text : List Char} (exponent : Exponent text) :
  Stops isDigit text
  := by
  cases exponent with
  | absent => apply stops_nil
  | present marked =>
    apply stops_cons
    rcases marked with rfl | rfl
    · rfl
    · rfl

theorem Exponent.splitFraction_eq {text : List Char} (exponent : Exponent text) :
  splitFraction text = ([], text)
  := by
  cases exponent with
  | absent => rfl
  | present marked =>
    rcases marked with rfl | rfl
    · rfl
    · rfl

/-- The digits of a decimal begin with a digit or with the decimal point. -/
theorem Mantissa.front {text : List Char} (mantissa : Mantissa text) :
  ∃ c rest, text = c :: rest ∧ (isDigit c = true ∨ c = '.')
  := by
  cases mantissa with
  | whole written =>
    obtain ⟨c, rest, rfl⟩ := List.exists_cons_of_ne_nil written.nonempty
    exact ⟨c, rest, rfl, .inl (written.all c List.mem_cons_self)⟩
  | @point whole fraction written =>
    cases whole with
    | nil => exact ⟨'.', fraction, rfl, .inr rfl⟩
    | cons c whole => exact ⟨c, _, rfl, .inl (written.all c List.mem_cons_self)⟩

/-- The digits of a decimal do not begin with a sign. -/
theorem Mantissa.stops_isSign {text : List Char} (mantissa : Mantissa text) (rest : List Char) :
  Stops isSign (text ++ rest)
  := by
  obtain ⟨c, others, rfl, digit | rfl⟩ := mantissa.front
  · apply stops_cons (isSign_of_isDigit digit)
  · apply stops_cons rfl

end Text

open Text

/-- Exactly the digits of a decimal with an exponent after them are read. -/
theorem Decimal.isSome_read?_iff {text : List Char} :
  (Decimal.read? text).isSome = true
    ↔ ∃ mantissa exponent, text = mantissa ++ exponent ∧ Mantissa mantissa ∧ Exponent exponent
  := by
  constructor
  · intro read
    have cut : text = text.takeWhile isDigit ++ text.dropWhile isDigit :=
      List.takeWhile_append_dropWhile.symm
    have whole : ∀ c ∈ text.takeWhile isDigit, isDigit c = true := fun _ =>
      List.mem_takeWhile_imp
    rw [Decimal.read?, List.span_eq_takeWhile_dropWhile] at read
    generalize text.takeWhile isDigit = before at *
    generalize text.dropWhile isDigit = after at *
    dsimp only at read
    split at read
    · cases read
    · next some_digit =>
      rw [Option.isSome_map, isSome_readExponent?_iff] at read
      revert some_digit read
      fun_cases splitFraction after with
      | case1 rest =>
        intro some_digit read
        rw [List.span_eq_takeWhile_dropWhile] at some_digit read
        use before ++ '.' :: rest.takeWhile isDigit, rest.dropWhile isDigit
        refine ⟨?_, ?_, read⟩
        · rw [cut, List.append_assoc, List.cons_append, List.takeWhile_append_dropWhile]
        · apply Mantissa.point
          constructor
          · simpa using some_digit
          · rw [List.forall_mem_append]
            exact ⟨whole, fun _ => List.mem_takeWhile_imp⟩
      | case2 =>
        intro some_digit read
        use before, after, cut
        refine ⟨.whole ⟨?_, whole⟩, read⟩
        simpa using some_digit
  · rintro ⟨mantissa, exponent, rfl, written, exponent_written⟩
    have exponent_read := isSome_readExponent?_iff.mpr exponent_written
    cases written with
    | whole digits =>
      rw [Decimal.read?, span_append_of_stops digits.all exponent_written.stops_isDigit]
      dsimp only
      rw [exponent_written.splitFraction_eq, if_neg (by simp [digits.nonempty]),
        Option.isSome_map]
      exact exponent_read
    | @point whole fraction digits =>
      obtain ⟨all_whole, all_fraction⟩ := List.forall_mem_append.mp digits.all
      have point_stops : Stops isDigit ('.' :: (fraction ++ exponent)) := stops_cons rfl
      have fraction_split : splitFraction ('.' :: (fraction ++ exponent)) = (fraction, exponent) :=
        span_append_of_stops all_fraction exponent_written.stops_isDigit
      rw [List.append_assoc, List.cons_append, Decimal.read?,
        span_append_of_stops all_whole point_stops]
      dsimp only
      rw [fraction_split, if_neg (by simpa using digits.nonempty), Option.isSome_map]
      exact exponent_read

/-! ### Floating point numbers -/

namespace Binary64

/-- The words for an infinity and for a value that is not a number. -/
def words : List (List Char) :=
  ["inf".toList, "infinity".toList, "nan".toList]

/-- An unsigned floating point number as it is written: one of the words, in either case, or a
decimal. -/
inductive Magnitude : List Char → Prop
  | word {text : List Char} (named : text.map Char.toLower ∈ words) : Magnitude text
  | decimal {mantissa exponent : List Char} (written : Mantissa mantissa)
      (exponent_written : Exponent exponent) :
      Magnitude (mantissa ++ exponent)

/-- A floating point number as it is written: a magnitude after an optional sign. -/
def Written (text : List Char) : Prop :=
  ∃ sign magnitude, text = sign ++ magnitude ∧ Sign sign ∧ Magnitude magnitude

theorem isSome_readCode?_of_mem_words {text : List Char}
    (named : text.map Char.toLower ∈ words) :
  (readCode? text).isSome = true
  := by
  rw [readCode?]
  generalize text.map Char.toLower = word at *
  rw [words, List.mem_cons, List.mem_cons, List.mem_singleton] at named
  rcases named with rfl | rfl | rfl
  · rfl
  · rfl
  · rfl

theorem isSome_readCode?_of_not_mem_words {text : List Char}
    (unnamed : text.map Char.toLower ∉ words) :
  (readCode? text).isSome = (Decimal.read? text).isSome
  := by
  rw [readCode?]
  rw [words, List.mem_cons, List.mem_cons, List.mem_singleton, not_or, not_or] at unnamed
  obtain ⟨no_inf, no_infinity, no_nan⟩ := unnamed
  rw [decide_eq_false no_inf, decide_eq_false no_infinity, Bool.or_false, if_neg Bool.false_ne_true,
    if_neg no_nan, Option.isSome_map]

theorem isSome_readCode?_iff {text : List Char} :
  (readCode? text).isSome = true ↔ Magnitude text
  := by
  by_cases named : text.map Char.toLower ∈ words
  · exact ⟨fun _ => .word named, fun _ => isSome_readCode?_of_mem_words named⟩
  · rw [isSome_readCode?_of_not_mem_words named, Decimal.isSome_read?_iff]
    constructor
    · rintro ⟨mantissa, exponent, rfl, written, exponent_written⟩
      exact .decimal written exponent_written
    · intro magnitude
      cases magnitude with
      | word written => exact absurd written named
      | decimal written exponent_written => exact ⟨_, _, rfl, written, exponent_written⟩

/-- A magnitude does not begin with a sign. -/
theorem Magnitude.stops_isSign {text : List Char} (magnitude : Magnitude text) :
  Stops isSign text
  := by
  cases magnitude with
  | word named =>
    intro c member
    obtain ⟨rest, rfl⟩ := List.head?_eq_some_iff.mp member
    rw [isSign, Bool.or_eq_false_iff, beq_eq_false_iff_ne, beq_eq_false_iff_ne]
    constructor
    · rintro rfl
      simp [words] at named
    · rintro rfl
      simp [words] at named
  | decimal written => apply written.stops_isSign

/-- A floating point number begins with a sign, a digit or a decimal point, or it is one of the
words. -/
theorem Written.front {c : Char} {rest : List Char} (written : Written (c :: rest)) :
  isSign c = true ∨ isDigit c = true ∨ c = '.' ∨ (c :: rest).map Char.toLower ∈ words
  := by
  obtain ⟨sign, magnitude, split, signed, magnitude_written⟩ := written
  rcases signed with rfl | rfl | rfl
  · rw [List.nil_append] at split
    subst split
    right
    generalize text_eq : c :: rest = text at *
    cases magnitude_written with
    | word named =>
      right
      right
      exact named
    | decimal mantissa exponent =>
      obtain ⟨first, others, rfl, digit | point⟩ := mantissa.front
      · obtain rfl := List.head_eq_of_cons_eq text_eq
        exact .inl digit
      · obtain rfl := List.head_eq_of_cons_eq text_eq
        exact .inr (.inl point)
  · left
    obtain rfl := List.head_eq_of_cons_eq split
    rfl
  · left
    obtain rfl := List.head_eq_of_cons_eq split
    rfl

/-- Exactly the floating point numbers are read. -/
theorem isSome_read?_iff {text : List Char} :
  (read? text).isSome = true ↔ Written text
  := by
  rw [read?, Option.isSome_map, isSome_readCode?_iff]
  constructor
  · intro magnitude
    obtain ⟨sign, signed, split⟩ := exists_sign text
    exact ⟨sign, _, split, signed, magnitude⟩
  · rintro ⟨sign, magnitude, rfl, signed, written⟩
    rw [splitSign_append signed written.stops_isSign]
    exact written

end Binary64

/-! ### Literals -/

namespace Assembly

/-- The keywords among the literals. -/
def keywords : List (List Char) :=
  ["nil".toList, "true".toList, "false".toList]

/-- A literal as it is written: a keyword, a text between double quotes, or a number. -/
inductive Literal : List Char → Prop
  | keyword {text : List Char} (named : text ∈ keywords) : Literal text
  | quoted (inner : List Char) : Literal ('"' :: (inner ++ ['"']))
  | number {text : List Char} (written : Binary64.Written text) : Literal text

theorem readQuoted?_eq_some_iff {text : List Char} {inner : String} :
  readQuoted? text = some inner ↔ text = '"' :: (inner.toList ++ ['"'])
  := by
  constructor
  · intro read
    revert read
    fun_cases readQuoted? text with
    | case1 rest closed =>
      intro read
      obtain ⟨front, rfl⟩ := List.getLast?_eq_some_iff.mp closed
      obtain rfl := Option.some.inj read
      simp
    | case2 rest open_ =>
      intro read
      cases read
    | case3 =>
      intro read
      cases read
  · rintro rfl
    rw [readQuoted?, if_pos (by simp), List.dropLast_concat, String.ofList_toList]

/-- A literal is read if it is a keyword, or if a string or a number is read. -/
theorem isSome_readLiteral?_iff_or {text : List Char} :
  (readLiteral? text).isSome = true
    ↔ text ∈ keywords ∨ (∃ inner, readQuoted? text = some inner)
      ∨ (Binary64.read? text).isSome = true
  := by
  fun_cases readLiteral? text with
  | case1 keyword => simp [keywords, keyword]
  | case2 _ keyword => simp [keywords, keyword]
  | case3 _ _ keyword => simp [keywords, keyword]
  | case4 _ _ _ inner quoted => simp [quoted]
  | case5 no_nil no_true no_false unquoted =>
    have no_keyword : text ∉ keywords := by
      rw [keywords, List.mem_cons, List.mem_cons, List.mem_singleton]
      exact not_or.mpr ⟨no_nil, not_or.mpr ⟨no_true, no_false⟩⟩
    simp [no_keyword, unquoted]

/-- Exactly the literals are read. -/
theorem isSome_readLiteral?_iff {text : List Char} :
  (readLiteral? text).isSome = true ↔ Literal text
  := by
  rw [isSome_readLiteral?_iff_or, Binary64.isSome_read?_iff]
  simp only [readQuoted?_eq_some_iff]
  constructor
  · rintro (named | ⟨inner, rfl⟩ | written)
    · exact .keyword named
    · exact .quoted _
    · exact .number written
  · intro literal
    cases literal with
    | keyword named =>
      left
      exact named
    | quoted inner =>
      right
      left
      use String.ofList inner
      rw [String.toList_ofList]
    | number written =>
      right
      right
      exact written

theorem Literal.exists_value {text : List Char} (literal : Literal text) :
  ∃ value, readLiteral? text = some value
  := Option.isSome_iff_exists.mp (isSome_readLiteral?_iff.mpr literal)

end Assembly

end Bytecode
