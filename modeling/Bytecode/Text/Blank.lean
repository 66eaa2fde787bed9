import Bytecode.Text.Ranges

/-!
# Blank characters

The blank characters are those with the Unicode property `White_Space`. `trim` removes them
from both ends of a text and `splitWord` cuts a text at the first of them.
-/

namespace Bytecode.Text

/-- The characters with the property `White_Space`, as ranges of code points. -/
def blankRanges : List (Nat × Nat) :=
  [ (0x0009, 0x000d), (0x0020, 0x0020), (0x0085, 0x0085), (0x00a0, 0x00a0),
    (0x1680, 0x1680), (0x2000, 0x200a), (0x2028, 0x2029), (0x202f, 0x202f),
    (0x205f, 0x205f), (0x3000, 0x3000) ]

/-- Whether a character is blank. -/
def isBlank (c : Char) : Bool :=
  inRanges blankRanges c

/-- Removes the blanks in front. -/
def trimStart (text : List Char) : List Char :=
  text.dropWhile isBlank

/-- Removes the blanks at the end. -/
def trimEnd (text : List Char) : List Char :=
  (text.reverse.dropWhile isBlank).reverse

/-- Removes the blanks at both ends. -/
def trim (text : List Char) : List Char :=
  trimEnd (trimStart text)

/-- The part of a text before its first blank and, if there is a blank, the part after it. -/
def splitWord (text : List Char) : List Char × Option (List Char) :=
  (text.takeWhile (fun c => !isBlank c), (text.dropWhile (fun c => !isBlank c)).tail?)

end Bytecode.Text
