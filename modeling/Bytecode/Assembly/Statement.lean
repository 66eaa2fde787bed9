import Bytecode.Assembly.Literal
import Bytecode.Emit
import Bytecode.Text.Blank

/-!
# Statements

A line of assembly source holds at most one statement: a mnemonic and, after blanks, an
operand. A semicolon starts a comment unless it stands in a string, that is, after an odd
number of double quotes. `Statement.read` reads a line.
-/

namespace Bytecode.Assembly

/-- What is wrong with a line. -/
inductive Fault where
  | unknownMnemonic (name : String)
  | missingOperand (op : Op)
  | unexpectedOperand (op : Op)
  | badOperand (op : Op) (text : String)
  /-- The statement cannot be added to the chunk. -/
  | chunk (error : ChunkError)
  deriving DecidableEq

/-- The text of a fault. -/
def Fault.message : Fault → String
  | unknownMnemonic name => "unknown mnemonic '" ++ name ++ "'"
  | missingOperand op => op.mnemonic ++ " expects an operand"
  | unexpectedOperand op => op.mnemonic ++ " takes no operand"
  | badOperand op text => "'" ++ text ++ "' is not a valid operand for " ++ op.mnemonic
  | chunk error => error.message

/-! ### The layout of a line -/

/-- Removes the comment. `inString` says whether the text begins inside a string. -/
def dropComment (inString : Bool) : List Char → List Char
  | [] => []
  | c :: rest =>
    if c = ';' && !inString then
      []
    else
      c :: dropComment (if c = '"' then !inString else inString) rest

/-- The part of a line that is not comment and not blank at either end. -/
def significant (line : List Char) : List Char :=
  Text.trim (dropComment false line)

/-- The name and the operand of a line, or nothing if the line has no statement. -/
def splitLine (line : List Char) : Option (List Char × Option (List Char)) :=
  let text := significant line
  if text.isEmpty then
    none
  else
    let (name, rest) := Text.splitWord text
    some (name, rest.map Text.trim)

/-! ### Reading a statement -/

/-- A statement: what a line adds to a chunk. -/
inductive Statement where
  /-- An instruction without operand. -/
  | simple (op : Op)
  /-- An instruction with a byte as operand. -/
  | byte (op : Op) (operand : UInt8)
  /-- The loading of a constant. -/
  | constant (value : Value)
  /-- An instruction on the global of a name. -/
  | global (op : Op) (name : Value)
  /-- A jump over a distance. -/
  | jump (op : Op) (distance : Nat)
  deriving DecidableEq

/-- The number of values of a byte. -/
def byteBound : Nat := 0x100

/-- The bound on distances in source text, that of a machine word. Longer distances are
refused when they are read, shorter ones that do not fit when they are emitted. -/
def wordBound : Nat := 0x10000000000000000

/-- Reads a whole number below a bound. -/
def readBelow? (bound : Nat) (text : List Char) : Option Nat :=
  (Text.readNat? text).filter (· < bound)

/-- The value of the operand of an instruction on a global: a literal, or else the text
itself as a name. -/
def readName (text : List Char) : Value :=
  (readLiteral? text).getD (.str (String.ofList text))

/-- Reads the operand of an opcode, if the opcode takes this operand. -/
def readOperand? (op : Op) (text : List Char) : Option Statement :=
  match op.shape with
  | .simple => none
  | .byte => (readBelow? byteBound text).map fun n => .byte op (UInt8.ofNat n)
  | .constant =>
    if op = .constant then (readLiteral? text).map .constant
    else some (.global op (readName text))
  | .constantLong => (readLiteral? text).map .constant
  | .jumpForward => (readBelow? wordBound text).map (.jump op)
  | .jumpBackward => (readBelow? wordBound text).map (.jump op)

/-- The statement of an opcode and an operand. -/
def Statement.make (op : Op) : Option (List Char) → Except Fault Statement
  | none => if op.shape = .simple then .ok (.simple op) else .error (.missingOperand op)
  | some text =>
    if op.shape = .simple then
      .error (.unexpectedOperand op)
    else
      match readOperand? op text with
      | some statement => .ok statement
      | none => .error (.badOperand op (String.ofList text))

/-- Reads a line. A line without a statement gives nothing. -/
def Statement.read (line : List Char) : Except Fault (Option Statement) :=
  match splitLine line with
  | none => .ok none
  | some (name, operand) =>
    match Op.ofMnemonic? name with
    | none => .error (.unknownMnemonic (String.ofList name))
    | some op => (make op operand).map some

/-- Emits a statement. -/
def Statement.emit (line : Nat) : Statement → Emit Unit
  | simple op => Emit.simple op line
  | byte op operand => Emit.withByte op operand line
  | constant value => do let _ ← Emit.constant value line
  | global op name => Emit.global op name line
  | jump op distance => Emit.jump op distance line

end Bytecode.Assembly
