import Bytecode.Text.Unprintable

/-!
# Quoted text

Two ways to write a text between double quotes so that it stays on one line: `quoted`, in
which every unprintable character is escaped, and `jsonQuoted`, in which only what JSON
requires is escaped.
-/

namespace Bytecode.Text

/-- A number in hexadecimal digits. -/
def hexadecimal (n : Nat) : List Char :=
  Nat.toDigits 16 n

/-- A character of a quoted text. -/
def quotedChar (c : Char) : List Char :=
  if c = '"' then ['\\', '"']
  else if c = '\\' then ['\\', '\\']
  else if c = '\n' then ['\\', 'n']
  else if c = '\r' then ['\\', 'r']
  else if c = '\t' then ['\\', 't']
  else if c.toNat = 0 then ['\\', '0']
  else if isUnprintable c then "\\u\x7b".toList ++ hexadecimal c.toNat ++ "\x7d".toList
  else [c]

/-- A text between quotes, with unprintable characters as escapes. -/
def quoted (text : String) : String :=
  "\"" ++ String.ofList (text.toList.flatMap quotedChar) ++ "\""

/-- A character of a JSON string. -/
def jsonChar (c : Char) : List Char :=
  if c = '"' then ['\\', '"']
  else if c = '\\' then ['\\', '\\']
  else if c = '\n' then ['\\', 'n']
  else if c = '\r' then ['\\', 'r']
  else if c = '\t' then ['\\', 't']
  else if c.toNat < 16 then "\\u000".toList ++ hexadecimal c.toNat
  else if c.toNat < 32 then "\\u00".toList ++ hexadecimal c.toNat
  else [c]

/-- A text as a JSON string. -/
def jsonQuoted (text : String) : String :=
  "\"" ++ String.ofList (text.toList.flatMap jsonChar) ++ "\""

end Bytecode.Text
