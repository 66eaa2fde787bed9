import Bytecode.BigEndian
import Bytecode.Chunk
import Bytecode.Op

/-!
# Emitting instructions

The operations that extend a chunk by a constant or by an instruction. Each checks its
operand first and fails with a `ChunkError` if the operand cannot be encoded. An operation
is a program over a chunk, and its result holds a chunk also when it fails.
-/

namespace Bytecode

/-- The operands that have a limited width. -/
inductive OperandField where
  /-- The index of the next pool entry. -/
  | poolIndex
  /-- The index of the name of a global, always in one byte. -/
  | nameIndex
  /-- The distance of a jump. -/
  | distance (op : Op)
  deriving DecidableEq

/-- Why a chunk cannot be extended. -/
inductive ChunkError where
  /-- An operand does not fit its width. Which one it is only selects the event that is logged, and
  the text of the error does not depend on it. -/
  | operandOverflow (operand : OperandField) (value limit : Nat)
  /-- The opcode does not take an operand of this kind. -/
  | operandMismatch (op : Op)
  /-- The pool has no constant at this index. -/
  | constantIndexOutOfRange (index poolSize : Nat)
  /-- A loop would start behind the code. -/
  | loopTargetOutOfRange (target length : Nat)
  deriving DecidableEq

/-- The text of an error. -/
def ChunkError.message : ChunkError → String
  | operandOverflow _ value limit =>
    "operand " ++ Text.decimal value ++ " does not fit the encoding (limit "
      ++ Text.decimal limit ++ ")"
  | operandMismatch op =>
    op.mnemonic ++ " has " ++ op.shape.name ++ " shape and cannot take this operand"
  | constantIndexOutOfRange index poolSize =>
    "constant index " ++ Text.decimal index ++ " out of range (pool holds "
      ++ Text.decimal poolSize ++ ")"
  | loopTargetOutOfRange target length =>
    "loop start " ++ Text.decimal target ++ " is past the end of the chunk ("
      ++ Text.decimal length ++ " bytes)"

/-- Programs that extend a chunk. -/
abbrev Emit := EStateM ChunkError Chunk

namespace Emit

/-- The largest distance of a jump. -/
def maxDistance : Nat := 65535

/-- The number of indexes of one byte. -/
def byteLimit : Nat := 256

/-- Appends code bytes of one source line. -/
def bytes (bytes : List UInt8) (line : Nat) : Emit Unit :=
  modify fun chunk => chunk.appendBytes bytes line

/-- Appends a constant to the pool and gives its index. -/
def poolEntry (value : Value) : Emit Nat := do
  let index := (← get).poolSize
  let limit := (← get).indexWidth.poolLimit
  if limit ≤ index then
    throw (.operandOverflow .poolIndex index limit)
  else
    modify fun chunk => chunk.pushConstant value
    return index

/-- Emits an instruction without operand. -/
def simple (op : Op) (line : Nat) : Emit Unit :=
  if op.shape = .simple then
    bytes [op.toByte] line
  else
    throw (.operandMismatch op)

/-- Emits an instruction with a one-byte operand. A pool index must be in the pool. -/
def withByte (op : Op) (operand : UInt8) (line : Nat) : Emit Unit := do
  let poolSize := (← get).poolSize
  match op.shape with
  | .byte => bytes [op.toByte, operand] line
  | .constant =>
    if operand.toNat < poolSize then
      bytes [op.toByte, operand] line
    else
      throw (.constantIndexOutOfRange operand.toNat poolSize)
  | _ => throw (.operandMismatch op)

/-- Appends a constant to the pool and emits the instruction that loads it, in the shorter
form if the index fits one byte. Gives the index. -/
def constant (value : Value) (line : Nat) : Emit Nat := do
  let index ← poolEntry value
  if index < byteLimit then
    bytes (Op.constant.toByte :: BigEndian.bytes 1 index) line
  else
    bytes (Op.constantLong.toByte :: BigEndian.bytes 3 index) line
  return index

/-- Appends the name of a global to the pool and emits an instruction on that global. -/
def global (op : Op) (name : Value) (line : Nat) : Emit Unit := do
  let index := (← get).poolSize
  if index < byteLimit then
    let _ ← poolEntry name
    withByte op (UInt8.ofNat index) line
  else
    throw (.operandOverflow .nameIndex index byteLimit)

/-- Emits a jump over a distance. -/
def jump (op : Op) (distance line : Nat) : Emit Unit :=
  if !op.shape.isJump then
    throw (.operandMismatch op)
  else if distance ≤ maxDistance then
    bytes (op.toByte :: BigEndian.bytes 2 distance) line
  else
    throw (.operandOverflow (.distance op) distance maxDistance)

/-- Emits a jump back to an offset at or before the end of the code. -/
def loop (start line : Nat) : Emit Unit := do
  let length := (← get).length
  if start ≤ length then
    jump .loop (length + Op.loop.shape.length - start) line
  else
    throw (.loopTargetOutOfRange start length)

end Emit

end Bytecode
