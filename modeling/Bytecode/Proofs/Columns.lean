import Bytecode.Op
import Bytecode.Text.Columns
import Mathlib.Data.List.Nodup
import Mathlib.Tactic.Common

/-!
# Reading columns back

A text that is set in a column is read back from the front of any longer text, if what follows
it does not go on like it, `Text.Stops`. This holds of numbers, whatever they are padded with
and also when they are wider than their column, and of mnemonics.
-/

namespace Bytecode

namespace Text

/-- The text does not begin with a character of the class. -/
def Stops (p : Char → Bool) (rest : List Char) : Prop :=
  ∀ c ∈ rest.head?, p c = false

theorem stops_nil (p : Char → Bool) :
  Stops p []
  := by
  simp [Stops]

theorem stops_cons {p : Char → Bool} {c : Char} {rest : List Char} (other : p c = false) :
  Stops p (c :: rest)
  := by
  simpa [Stops] using other

theorem takeWhile_append_of_stops {p : Char → Bool} {word rest : List Char}
    (all : ∀ c ∈ word, p c = true) (stops : Stops p rest) :
  (word ++ rest).takeWhile p = word
  := by
  rw [List.takeWhile_append_of_pos all]
  cases rest with
  | nil => simp
  | cons c rest =>
    have other := stops c rfl
    rw [List.takeWhile_cons_of_neg (by simp [other]), List.append_nil]

/-- Two texts that begin with words of one class and do not go on with it are cut at the same
place. -/
theorem append_inj_of_stops {p : Char → Bool} {word word' rest rest' : List Char}
    (all : ∀ c ∈ word, p c = true) (stops : Stops p rest)
    (all' : ∀ c ∈ word', p c = true) (stops' : Stops p rest')
    (same : word ++ rest = word' ++ rest') :
  word = word' ∧ rest = rest'
  := by
  have words : word = word' := by
    rw [← takeWhile_append_of_stops all stops, same, takeWhile_append_of_stops all' stops']
  subst words
  exact ⟨rfl, List.append_cancel_left same⟩

/-! ### Numbers -/

theorem toList_padLeft (width : Nat) (c : Char) (text : String) :
  (padLeft width c text).toList = List.replicate (width - text.length) c ++ text.toList
  := by
  simp [padLeft, fill]

theorem toList_decimal (n : Nat) :
  (decimal n).toList = Nat.toDigits 10 n
  := Nat.toList_repr

theorem isDigit_of_mem_decimal {n : Nat} {c : Char} (member : c ∈ (decimal n).toList) :
  c.isDigit = true
  := by
  rw [toList_decimal] at member
  apply Nat.isDigit_of_mem_toDigits (by decide) (by decide) member

theorem ofDigitChars_zeros_decimal (zeros n : Nat) :
  Nat.ofDigitChars 10 (List.replicate zeros '0' ++ (decimal n).toList) 0 = n
  := by
  rw [toList_decimal, Nat.ofDigitChars_append, Nat.ofDigitChars_replicate_zero, Nat.mul_zero,
    Nat.ofDigitChars_ten_toDigits]

/-- A number is known by its digits, also with zeros in front of them. -/
theorem eq_of_zeros_decimal {zeros zeros' m n : Nat}
    (same : List.replicate zeros '0' ++ (decimal m).toList
      = List.replicate zeros' '0' ++ (decimal n).toList) :
  m = n
  := by
  rw [← ofDigitChars_zeros_decimal zeros m, same, ofDigitChars_zeros_decimal]

theorem decimal_append_inj {m n : Nat} {rest rest' : List Char}
    (stops : Stops Char.isDigit rest) (stops' : Stops Char.isDigit rest')
    (same : (decimal m).toList ++ rest = (decimal n).toList ++ rest') :
  m = n ∧ rest = rest'
  := by
  obtain ⟨digits, rests⟩ := append_inj_of_stops (fun _ => isDigit_of_mem_decimal) stops
    (fun _ => isDigit_of_mem_decimal) stops' same
  have unpadded : List.replicate 0 '0' ++ (decimal m).toList
      = List.replicate 0 '0' ++ (decimal n).toList := by
    rw [digits]
  exact ⟨eq_of_zeros_decimal unpadded, rests⟩

theorem decimal_eq_cons (n : Nat) :
  ∃ digit digits, (decimal n).toList = digit :: digits ∧ digit.isDigit = true
  := by
  obtain ⟨digit, digits, split⟩ : ∃ digit digits, (decimal n).toList = digit :: digits := by
    apply List.exists_cons_of_ne_nil
    rw [toList_decimal]
    apply Nat.toDigits_ne_nil
  use digit, digits, split
  apply isDigit_of_mem_decimal
  rw [split]
  apply List.mem_cons_self

/-- The digits of a number do not begin with a blank. -/
theorem stops_decimal (n : Nat) (rest : List Char) :
  Stops (fun c => c == ' ') ((decimal n).toList ++ rest)
  := by
  obtain ⟨digit, digits, split, is_digit⟩ := decimal_eq_cons n
  rw [split]
  apply stops_cons
  apply beq_false_of_ne
  rintro rfl
  cases is_digit

/-- A column of blanks and a number is read back. -/
theorem column_append_inj {m n : Nat} {rest rest' : List Char}
    (stops : Stops Char.isDigit rest) (stops' : Stops Char.isDigit rest')
    (same : (column m).toList ++ rest = (column n).toList ++ rest') :
  m = n ∧ rest = rest'
  := by
  rw [column, column, toList_padLeft, toList_padLeft, List.append_assoc, List.append_assoc] at same
  obtain ⟨-, numbers⟩ := append_inj_of_stops (by simp) (stops_decimal m rest) (by simp)
    (stops_decimal n rest') same
  apply decimal_append_inj stops stops' numbers

/-- A number in a column is no sign at the end of a column. -/
theorem column_append_ne {n width : Nat} {sign : Char} {rest rest' : List Char}
    (blank : (sign == ' ') = false) (no_digit : sign.isDigit = false) :
  (column n).toList ++ rest ≠ List.replicate width ' ' ++ sign :: rest'
  := by
  intro same
  rw [column, toList_padLeft, List.append_assoc] at same
  obtain ⟨-, rests⟩ := append_inj_of_stops (by simp) (stops_decimal n rest) (by simp)
    (stops_cons blank) same
  obtain ⟨digit, digits, split, is_digit⟩ := decimal_eq_cons n
  rw [split, List.cons_append] at rests
  obtain rfl := List.head_eq_of_cons_eq rests
  rw [no_digit] at is_digit
  cases is_digit

/-- An offset is read back. -/
theorem offset_append_inj {m n : Nat} {rest rest' : List Char}
    (stops : Stops Char.isDigit rest) (stops' : Stops Char.isDigit rest')
    (same : (offset m).toList ++ rest = (offset n).toList ++ rest') :
  m = n ∧ rest = rest'
  := by
  have all (k count : Nat) :
      ∀ c ∈ List.replicate count '0' ++ (decimal k).toList, c.isDigit = true := by
    intro c member
    rcases List.mem_append.mp member with zero | digit
    · rw [List.eq_of_mem_replicate zero]
      rfl
    · apply isDigit_of_mem_decimal digit
  rw [offset, offset, toList_padLeft, toList_padLeft] at same
  obtain ⟨digits, rests⟩ := append_inj_of_stops (all m _) stops (all n _) stops' same
  exact ⟨eq_of_zeros_decimal digits, rests⟩

end Text

/-! ### Mnemonics -/

theorem Op.nodup_words :
  (all.map word).Nodup
  := by
  decide

theorem Op.mnemonic_injective {op other : Op} (same : op.mnemonic = other.mnemonic) :
  op = other
  := by
  have words : op.word = other.word := by
    have lists := congrArg String.toList same
    rw [mnemonic, mnemonic, String.toList_append, String.toList_append] at lists
    apply String.toList_inj.mp (List.append_cancel_left lists)
  apply List.inj_on_of_nodup_map nodup_words op.mem_all other.mem_all words

theorem Op.ne_blank_of_mem_mnemonic (op : Op) :
  ∀ c ∈ op.mnemonic.toList, (c != ' ') = true
  := by
  have none_blank : op.mnemonic.toList.all (fun c => c != ' ') = true := by
    cases op <;> rfl
  exact List.all_eq_true.mp none_blank

/-- A mnemonic is read back, if it is followed by a blank or by nothing. -/
theorem Op.mnemonic_append_inj {op other : Op} {rest rest' : List Char}
    (stops : Text.Stops (fun c => c != ' ') rest) (stops' : Text.Stops (fun c => c != ' ') rest')
    (same : op.mnemonic.toList ++ rest = other.mnemonic.toList ++ rest') :
  op = other ∧ rest = rest'
  := by
  obtain ⟨names, rests⟩ := Text.append_inj_of_stops op.ne_blank_of_mem_mnemonic stops
    other.ne_blank_of_mem_mnemonic stops' same
  use mnemonic_injective (String.toList_inj.mp names), rests

end Bytecode
