/-!
# Columns

Numbers and words are set in columns: padded to a least width, and left as they are when
they are already wider.
-/

namespace Bytecode.Text

/-- The text made of `count` copies of a character. -/
def fill (count : Nat) (c : Char) : String :=
  String.ofList (List.replicate count c)

/-- Sets a text at the right edge of a column, with `c` in front of it. -/
def padLeft (width : Nat) (c : Char) (text : String) : String :=
  fill (width - text.length) c ++ text

/-- Sets a text at the left edge of a column, with blanks after it. -/
def padRight (width : Nat) (text : String) : String :=
  text ++ fill (width - text.length) ' '

/-- A number in decimal digits. -/
def decimal (n : Nat) : String :=
  n.repr

/-- A code offset: at least four digits, with zeros in front. -/
def offset (n : Nat) : String :=
  padLeft 4 '0' (decimal n)

/-- A number in a column of width four. -/
def column (n : Nat) : String :=
  padLeft 4 ' ' (decimal n)

/-- A byte in two hexadecimal digits. -/
def hexByte (byte : UInt8) : String :=
  padLeft 2 '0' (String.ofList (Nat.toDigits 16 byte.toNat))

end Bytecode.Text
