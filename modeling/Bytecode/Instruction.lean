import Bytecode.Chunk
import Bytecode.Cursor

/-!
# Instructions

`Chunk.decode` reads the instruction at an offset, and `Chunk.walk` reads one instruction
after another from the start of the code up to its end or the first error.
`Instruction.encode` gives the bytes of an instruction back.
-/

namespace Bytecode

/-- The operand of a decoded instruction. -/
inductive Operand where
  | empty
  | byte (value : UInt8)
  /-- A pool index and the text of the constant there. -/
  | constant (index : Nat) (text : String)
  /-- A distance and the offset where the jump lands. -/
  | jump (distance target : Nat)
  deriving DecidableEq

/-- A decoded instruction. -/
structure Instruction where
  offset : Nat
  op : Op
  operand : Operand
  deriving DecidableEq

namespace Instruction

/-- The number of bytes of the instruction. -/
def length (instruction : Instruction) : Nat :=
  instruction.op.shape.length

/-- The offset right after the instruction. -/
def nextOffset (instruction : Instruction) : Nat :=
  instruction.offset + instruction.length

/-- The width of the column for mnemonics that are followed by an operand. -/
def mnemonicWidth : Nat := 16

/-- The text of an instruction. -/
def text (instruction : Instruction) : String :=
  let name := instruction.op.mnemonic
  let head (n : Nat) := Text.padRight mnemonicWidth name ++ " " ++ Text.column n
  match instruction.operand with
  | .empty => name
  | .byte value => head value.toNat
  | .constant index text => head index ++ " '" ++ text ++ "'"
  | .jump distance target => head distance ++ " -> " ++ Text.decimal target

/-- The operand bytes of an instruction, laid out as its shape says. -/
def operandBytes (shape : Shape) : Operand → List UInt8
  | .empty => []
  | .byte value => [value]
  | .constant index _ => BigEndian.bytes (shape.length - 1) index
  | .jump distance _ => BigEndian.bytes 2 distance

/-- The bytes of an instruction. -/
def encode (instruction : Instruction) : List UInt8 :=
  instruction.op.toByte :: operandBytes instruction.op.shape instruction.operand

end Instruction

namespace Chunk

/-- The operand that refers to the constant at an index. -/
def constantOperand (chunk : Chunk) (offset index : Nat) : Reading Operand :=
  match chunk.constantAt index with
  | some value => return .constant index value.text
  | none => throw (.constantIndexOutOfRange offset index chunk.poolSize)

/-- Reads the operand of the instruction at an offset. -/
def readOperand (chunk : Chunk) (offset : Nat) : Shape → Reading Operand
  | .simple => return .empty
  | .byte => return .byte (← Cursor.readByte chunk.code)
  | .constant => do chunk.constantOperand offset (← Cursor.readNat chunk.code 1)
  | .constantLong => do chunk.constantOperand offset (← Cursor.readNat chunk.code 3)
  | .jumpForward => do
    let distance ← Cursor.readNat chunk.code 2
    Cursor.jump distance
    return .jump distance (← get).position
  | .jumpBackward => do
    let distance ← Cursor.readNat chunk.code 2
    Cursor.jumpBack distance
    return .jump distance (← get).position

/-- Decodes the instruction at an offset. -/
def decode (chunk : Chunk) (offset : Nat) : Except DecodeError Instruction :=
  let program : Reading Instruction := do
    let op ← Cursor.nextOp chunk.code
    let operand ← chunk.readOperand offset op.shape
    return { offset, op, operand }
  match program.run (Cursor.atOffset offset) with
  | .ok instruction _ => .ok instruction
  | .error error _ => .error error

/-- The text of the instruction at an offset, and the offset right after it. -/
def describe (chunk : Chunk) (offset : Nat) : Except DecodeError (String × Nat) :=
  (chunk.decode offset).map fun instruction => (instruction.text, instruction.nextOffset)

/-- The instructions from an offset on. The first error ends the walk, since the length of
what cannot be decoded is not known. -/
def walkFrom (chunk : Chunk) (offset : Nat) : List (Except DecodeError Instruction) :=
  if offset < chunk.length then
    match chunk.decode offset with
    | .ok instruction => .ok instruction :: chunk.walkFrom (offset + instruction.length)
    | .error error => [.error error]
  else
    []
termination_by chunk.length - offset
decreasing_by
  have positive := Shape.length_pos instruction.op.shape
  simp only [Instruction.length]
  omega

/-- The instructions of a chunk. -/
def walk (chunk : Chunk) : List (Except DecodeError Instruction) :=
  chunk.walkFrom 0

end Chunk

end Bytecode
