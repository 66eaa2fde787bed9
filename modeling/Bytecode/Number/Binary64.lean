/-!
# Binary floating point numbers

A `Binary64` is the 64-bit word of an IEEE 754 double. Its lower 63 bits are its code: the
codes of the finite numbers run through the magnitudes in increasing order, the code of
infinity follows, and the codes after that are not numbers. Every finite magnitude is a
whole number of units of `2 ^ (-1074)`, so arithmetic on it is exact in `Nat`.
-/

namespace Bytecode

/-- A double, as its 64-bit word. -/
structure Binary64 where
  bits : UInt64
  deriving DecidableEq

namespace Binary64

/-- The number of fraction bits. -/
def fractionBits : Nat := 52

/-- The number of fractions, that is, of codes with the same exponent. -/
def fractionCount : Nat := 1 <<< fractionBits

/-- The word with only the sign bit set. -/
def signBit : Nat := 1 <<< 63

/-- One in units of `2 ^ (-1074)`. -/
def one : Nat := 1 <<< 1074

/-- The code of infinity. -/
def infinityCode : Nat := 2047 * fractionCount

/-- The code of the canonical value that is not a number. -/
def quietCode : Nat := infinityCode + fractionCount / 2

/-- The word with the given sign and code. -/
def ofCode (negative : Bool) (code : Nat) : Binary64 :=
  ⟨UInt64.ofNat (if negative then signBit + code else code)⟩

/-- Whether the sign bit is set. -/
def isNegative (x : Binary64) : Bool :=
  signBit ≤ x.bits.toNat

/-- The word without its sign. -/
def code (x : Binary64) : Nat :=
  x.bits.toNat % signBit

/-- Whether the word is not a number. -/
def isNaN (x : Binary64) : Bool :=
  infinityCode < x.code

/-- Whether the word is an infinity of either sign. -/
def isInfinite (x : Binary64) : Bool :=
  x.code == infinityCode

/-- Equality of numbers: what is not a number differs from everything, and the two zeros
are equal. -/
def equal (x y : Binary64) : Bool :=
  !x.isNaN && !y.isNaN && (x.bits == y.bits || (x.code == 0 && y.code == 0))

/-! ### Finite magnitudes -/

/-- How often the spacing of the smallest numbers doubles before that of a finite code. -/
def scale (code : Nat) : Nat :=
  code / fractionCount - 1

/-- The significand of a finite code, as a whole number. -/
def significand (code : Nat) : Nat :=
  code - scale code * fractionCount

/-- The magnitude of a finite code in units of `2 ^ (-1074)`. -/
def units (code : Nat) : Nat :=
  significand code <<< scale code

/-! ### Rounding -/

/-- The quotient rounded to the nearest whole number, a half to the even one. -/
def roundDiv (num den : Nat) : Nat :=
  let quotient := num / den
  let rest := num % den
  if 2 * rest < den then quotient
  else if den < 2 * rest then quotient + 1
  else quotient + quotient % 2

/-- The code of the magnitude nearest to `num / den`, a tie going to the even significand.
What is too large is infinite. -/
def codeOfRatio (num den : Nat) : Nat :=
  let scaled := num * one
  let doublings := Nat.log2 (scaled / den) - fractionBits
  let rounded := roundDiv scaled (den <<< doublings)
  min (doublings * fractionCount + rounded) infinityCode

/-- The number nearest to an integer. -/
def ofInt (n : Int) : Binary64 :=
  ofCode (n < 0) (codeOfRatio n.natAbs 1)

/-- Infinity with the given sign. -/
def infinity (negative : Bool) : Binary64 :=
  ofCode negative infinityCode

end Binary64

end Bytecode
