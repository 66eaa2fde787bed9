import Bytecode.Number.Decimal

/-!
# Reading numbers

`readNat?` reads a whole number: digits with an optional plus sign. `Binary64.read?` reads a
floating point number: an optional sign, then an infinity, or a value that is not a number,
or digits with an optional decimal point and an optional exponent. A number is rounded to
the nearest double, a tie going to the even significand.
-/

namespace Bytecode

namespace Text

/-- Whether a character is an ASCII digit. -/
def isDigit (c : Char) : Bool :=
  '0' ≤ c && c ≤ '9'

/-- The number that a sequence of digits stands for. -/
def digitsValue (digits : List Char) : Nat :=
  digits.foldl (fun n c => 10 * n + (c.toNat - '0'.toNat)) 0

/-- Reads one or more digits and nothing else. -/
def readDigits? (text : List Char) : Option Nat :=
  if !text.isEmpty && text.all isDigit then some (digitsValue text) else none

/-- Removes a plus sign in front. -/
def dropPlus : List Char → List Char
  | '+' :: rest => rest
  | text => text

/-- Reads a whole number with an optional plus sign. -/
def readNat? (text : List Char) : Option Nat :=
  readDigits? (dropPlus text)

/-- Removes a sign in front and says whether it was a minus. -/
def splitSign : List Char → Bool × List Char
  | '+' :: rest => (false, rest)
  | '-' :: rest => (true, rest)
  | text => (false, text)

/-- Reads the rest of a number after its digits: nothing, or an exponent. -/
def readExponent? : List Char → Option Int
  | [] => some 0
  | c :: rest =>
    if c = 'e' || c = 'E' then
      let (negative, digits) := splitSign rest
      (readDigits? digits).map fun n => if negative then -(n : Int) else n
    else
      none

/-- Splits off the digits after a decimal point, if there is one. -/
def splitFraction : List Char → List Char × List Char
  | '.' :: rest => rest.span isDigit
  | text => ([], text)

end Text

/-- Reads an unsigned decimal: digits, of which a decimal point may split off some or all,
and an optional exponent. There is at least one digit before the exponent. -/
def Decimal.read? (text : List Char) : Option Decimal :=
  let (whole, afterWhole) := text.span Text.isDigit
  let (fraction, rest) := Text.splitFraction afterWhole
  if whole.isEmpty && fraction.isEmpty then
    none
  else
    (Text.readExponent? rest).map fun exponent =>
      ⟨Text.digitsValue (whole ++ fraction), exponent - fraction.length⟩

/-- Reads an unsigned magnitude as a code. The words for infinity and for a value that is
not a number may be in either case. -/
def Binary64.readCode? (text : List Char) : Option Nat :=
  let word := text.map Char.toLower
  if word = "inf".toList || word = "infinity".toList then some infinityCode
  else if word = "nan".toList then some quietCode
  else (Decimal.read? text).map Decimal.toCode

/-- Reads a floating point number. -/
def Binary64.read? (text : List Char) : Option Binary64 :=
  let (negative, magnitude) := Text.splitSign text
  (readCode? magnitude).map (ofCode negative)

end Bytecode
