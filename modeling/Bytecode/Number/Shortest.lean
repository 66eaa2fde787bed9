import Bytecode.Number.Decimal

/-!
# The shortest decimal of a double

The decimals that round to a finite double form an interval. `Binary64.shortest` is a
decimal of that interval with the fewest digits and, among those, the one nearest to the
double. When two are equally near, it is the larger one.

The search tries one digit, two digits and so on. For each number of digits it looks only at
the two neighbours of the double among the decimals with that many digits: if any of these
decimals is in the interval, so is one of the neighbours.
-/

namespace Bytecode.Binary64

/-- The decimals that round to a finite double, as numerators over a common denominator:
`low` and `high` are the ends, `value` is the double itself, and `closed` says whether the
ends belong to the interval. -/
structure Interval where
  low : Nat
  value : Nat
  high : Nat
  closed : Bool

/-- The denominator of all intervals. -/
def Interval.denominator : Nat := 4 * one

/-- The interval of a finite nonzero code. The spacing below a power of two is half of that
above it, except at the smallest powers. Ends are rounded to even significands. -/
def interval (code : Nat) : Interval :=
  let half := 2 <<< scale code
  let below := if significand code = fractionCount ∧ 0 < scale code then half / 2 else half
  let value := 4 * units code
  { low := value - below
    value := value
    high := value + half
    closed := code % 2 == 0 }

/-- Whether a point lies in an interval whose numerators are multiplied by `factor`. -/
def Interval.contains (i : Interval) (factor point : Nat) : Bool :=
  if i.closed then
    i.low * factor ≤ point && point ≤ i.high * factor
  else
    i.low * factor < point && point < i.high * factor

/-- The decimal of the grid `10 ^ exponent` that lies in the interval and is nearest to the
value, if there is one. -/
def Interval.onGrid (i : Interval) (exponent : Int) : Option Decimal :=
  let factor := Decimal.power (-exponent).toNat
  let step := denominator * Decimal.power exponent.toNat
  let lower := i.value * factor / step
  let rest := i.value * factor % step
  let takesLower := i.contains factor (lower * step)
  let takesUpper := i.contains factor ((lower + 1) * step)
  if takesLower && (!takesUpper || 2 * rest < step) then
    some ⟨lower, exponent⟩
  else if takesUpper then
    some ⟨lower + 1, exponent⟩
  else
    none

/-- The exponent of the leading digit of the value of an interval. -/
def Interval.leading (i : Interval) : Int :=
  if denominator ≤ i.value then
    (Decimal.digitCount (i.value / denominator) : Int) - 1
  else
    -(Decimal.digitCount ((denominator - 1) / i.value) : Int)

/-- The number of digits that always suffice. -/
def digitsNeeded : Nat := 17

/-- The shortest decimal that reads back as a finite nonzero code. -/
def shortest (code : Nat) : Decimal :=
  let i := interval code
  let found := (List.range digitsNeeded).findSome? fun (n : Nat) => i.onGrid (i.leading - n)
  (found.getD ⟨0, 0⟩).trim

/-- Writes a number: the shortest decimal that reads back as it, without an exponent. -/
def text (x : Binary64) : String :=
  if x.isNaN then
    "NaN"
  else
    let sign := if x.isNegative then "-" else ""
    if x.isInfinite then sign ++ "inf"
    else if x.code = 0 then sign ++ "0"
    else sign ++ (shortest x.code).positional

end Bytecode.Binary64
