import Bytecode.Number.Shortest

/-!
# Values

The literal values that a constant pool holds, and the text each is shown as.
-/

namespace Bytecode

/-- A literal value. -/
inductive Value where
  | nil
  | bool (value : Bool)
  | number (value : Binary64)
  | str (value : String)
  deriving DecidableEq

namespace Value

/-- The number nearest to an integer. -/
def ofInt (n : Int) : Value :=
  number (Binary64.ofInt n)

/-- The text of a value. A string is shown as it is, without quotes. -/
def text : Value → String
  | nil => "nil"
  | bool true => "true"
  | bool false => "false"
  | number x => x.text
  | str s => s

/-- Equality of values: numbers compare as numbers, and values of different kinds differ. -/
def equal : Value → Value → Bool
  | nil, nil => true
  | bool a, bool b => a == b
  | number a, number b => a.equal b
  | str a, str b => a == b
  | _, _ => false

end Value

end Bytecode
