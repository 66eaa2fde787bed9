/-!
# Big-endian numerals

Operands wider than a byte are written in base 256 with the most significant byte first.
-/

namespace Bytecode.BigEndian

/-- The lowest `count` digits of a number in base 256, most significant first. -/
def bytes : Nat → Nat → List UInt8
  | 0, _ => []
  | count + 1, n => bytes count (n / 256) ++ [UInt8.ofNat n]

/-- The number that a sequence of digits in base 256 stands for. -/
def value (digits : List UInt8) : Nat :=
  digits.foldl (fun n digit => 256 * n + digit.toNat) 0

@[simp]
theorem length_bytes (count n : Nat) :
  (bytes count n).length = count
  := by
  induction count generalizing n with
  | zero => rfl
  | succ count ih => simp [bytes, ih]

theorem value_append_singleton (digits : List UInt8) (digit : UInt8) :
  value (digits ++ [digit]) = 256 * value digits + digit.toNat
  := by
  simp [value, List.foldl_append]

/-- A number that fits is read back. -/
theorem value_bytes {count n : Nat} (h : n < Nat.pow 256 count) :
  value (bytes count n) = n
  := by
  induction count generalizing n with
  | zero =>
    have zero : n = 0 := Nat.lt_one_iff.mp h
    simp [bytes, value, zero]
  | succ count ih =>
    have fits : n / 256 < Nat.pow 256 count := by
      apply Nat.div_lt_of_lt_mul
      rw [Nat.mul_comm]
      exact h
    rw [bytes, value_append_singleton, ih fits]
    simp only [UInt8.toNat_ofNat']
    omega

end Bytecode.BigEndian
