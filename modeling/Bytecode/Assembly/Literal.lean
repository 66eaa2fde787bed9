import Bytecode.Number.Reader
import Bytecode.Value

/-!
# Literals

The texts that stand for values in assembly source: the three keywords, strings between
double quotes, and numbers. There are no escapes in strings: all between the first and the
last quote is the string.
-/

namespace Bytecode.Assembly

/-- The text between two double quotes. -/
def readQuoted? : List Char → Option String
  | '"' :: rest =>
    if rest.getLast? = some '"' then some (String.ofList rest.dropLast) else none
  | _ => none

/-- Reads a literal. -/
def readLiteral? (text : List Char) : Option Value :=
  if text = "nil".toList then some .nil
  else if text = "true".toList then some (.bool true)
  else if text = "false".toList then some (.bool false)
  else
    match readQuoted? text with
    | some s => some (.str s)
    | none => (Binary64.read? text).map .number

end Bytecode.Assembly
