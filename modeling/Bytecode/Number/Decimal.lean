import Bytecode.Number.Binary64
import Bytecode.Text.Columns

/-!
# Decimal numbers

A `Decimal` is a whole number of units of a power of ten. It is what is read from a text
before rounding to a `Binary64` and what is chosen before writing a `Binary64` as text.
-/

namespace Bytecode

/-- The number `digits * 10 ^ exponent`. -/
structure Decimal where
  digits : Nat
  exponent : Int
  deriving DecidableEq

namespace Decimal

/-- The number of decimal digits of a whole number, none for zero. -/
def digitCount (n : Nat) : Nat :=
  if n = 0 then 0 else (Nat.toDigits 10 n).length

/-- A power of ten. -/
def power (exponent : Nat) : Nat :=
  Nat.pow 10 exponent

/-- The decimal as a fraction: numerator and denominator. -/
def ratio (d : Decimal) : Nat × Nat :=
  if 0 ≤ d.exponent then
    (d.digits * power d.exponent.toNat, 1)
  else
    (d.digits, power (-d.exponent).toNat)

/-- Decimals with a nonzero digit in front at or above this power of ten are infinite as
doubles, and those below its inverse are zero. -/
def reach : Int := 400

/-- The code of the double nearest to a decimal. The two outer cases only avoid powers of ten
that are far out of range. -/
def toCode (d : Decimal) : Nat :=
  let top := digitCount d.digits + d.exponent
  if d.digits = 0 then 0
  else if reach < top then Binary64.infinityCode
  else if top < -reach then 0
  else Binary64.codeOfRatio d.ratio.1 d.ratio.2

/-- Drops at most `fuel` zeros from the end of the digits. -/
def dropZeros : Nat → Decimal → Decimal
  | 0, d => d
  | fuel + 1, d =>
    if d.digits % 10 = 0 then dropZeros fuel ⟨d.digits / 10, d.exponent + 1⟩ else d

/-- The decimal with as few digits as possible. -/
def trim (d : Decimal) : Decimal :=
  dropZeros (digitCount d.digits) d

/-- Writes a decimal without an exponent: zeros fill the places between the digits and the
decimal point, and there is no point when there is nothing after it. -/
def positional (d : Decimal) : String :=
  let text := Nat.toDigits 10 d.digits
  let places := (-d.exponent).toNat
  if places = 0 then
    String.ofList text ++ Text.fill d.exponent.toNat '0'
  else if places < text.length then
    let whole := text.length - places
    String.ofList (text.take whole) ++ "." ++ String.ofList (text.drop whole)
  else
    "0." ++ Text.fill (places - text.length) '0' ++ String.ofList text

end Decimal

end Bytecode
