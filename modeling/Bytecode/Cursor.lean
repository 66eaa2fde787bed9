import Bytecode.BigEndian
import Bytecode.Op
import Bytecode.Text.Columns

/-!
# Cursors

A cursor reads code from an offset on: opcodes, operands of a given number of bytes, and
jumps. It remembers where the current instruction starts and its opcode, for errors only.
Every operation checks its bounds and reads all of its bytes or none.
-/

namespace Bytecode

/-- Why an instruction cannot be decoded. Each error holds the offset of the instruction. -/
inductive DecodeError where
  /-- The byte stands for no opcode. -/
  | unknownOpcode (offset : Nat) (byte : UInt8)
  /-- The code ends within the instruction. -/
  | truncated (offset needed available : Nat)
  /-- The pool has no constant at this index. -/
  | constantIndexOutOfRange (offset index poolSize : Nat)
  /-- The jump would leave the code at its start. -/
  | jumpOutOfRange (offset distance : Nat)
  deriving DecidableEq

/-- The offset of the instruction that cannot be decoded. -/
def DecodeError.offset : DecodeError → Nat
  | unknownOpcode offset _ => offset
  | truncated offset _ _ => offset
  | constantIndexOutOfRange offset _ _ => offset
  | jumpOutOfRange offset _ => offset

/-- What is wrong with the instruction, without its offset. -/
def DecodeError.cause : DecodeError → String
  | unknownOpcode _ byte => "unknown opcode 0x" ++ Text.hexByte byte
  | truncated _ needed available =>
    "instruction needs " ++ Text.decimal needed ++ " bytes but only "
      ++ Text.decimal available ++ " remain"
  | constantIndexOutOfRange _ index poolSize =>
    "constant index " ++ Text.decimal index ++ " out of range (pool holds "
      ++ Text.decimal poolSize ++ ")"
  | jumpOutOfRange _ distance =>
    "jump distance " ++ Text.decimal distance ++ " lands before the start of the chunk"

/-- The text of an error. -/
def DecodeError.message (error : DecodeError) : String :=
  Text.offset error.offset ++ ": " ++ error.cause

/-- A position in code. -/
structure Cursor where
  /-- The offset of the next byte. -/
  position : Nat
  /-- The offset at which the current instruction starts. -/
  start : Nat
  /-- The opcode of the current instruction, once it is read. -/
  op : Option Op
  deriving DecidableEq

/-- Programs that move a cursor. -/
abbrev Reading := EStateM DecodeError Cursor

namespace Cursor

/-- The cursor at an offset, before any opcode is read. -/
def atOffset (offset : Nat) : Cursor :=
  { position := offset, start := offset, op := none }

/-- Whether no byte is left. -/
def isAtEnd (cursor : Cursor) (code : Array UInt8) : Bool :=
  code.size ≤ cursor.position

/-- The cursor at the start of the next instruction. -/
def begin (cursor : Cursor) : Cursor :=
  atOffset cursor.position

/-- The number of bytes of the current instruction. Without an opcode it is the bytes passed
so far and the `count` bytes to be read. -/
def needed (cursor : Cursor) (count : Nat) : Nat :=
  match cursor.op with
  | some op => op.shape.length
  | none => cursor.position - cursor.start + count

/-- Begins the next instruction and reads its opcode. -/
def nextOp (code : Array UInt8) : Reading Op := do
  modify begin
  let cursor ← get
  match code[cursor.position]? with
  | none => throw (.truncated cursor.position 1 0)
  | some byte =>
    match Op.ofByte? byte with
    | none => throw (.unknownOpcode cursor.position byte)
    | some op =>
      set { cursor with position := cursor.position + 1, op := some op }
      return op

/-- Reads bytes, all or none. -/
def take (code : Array UInt8) (count : Nat) : Reading (List UInt8) := do
  let cursor ← get
  let stop := cursor.position + count
  if stop ≤ code.size then
    set { cursor with position := stop }
    return (code.extract cursor.position stop).toList
  else
    throw (.truncated cursor.start (cursor.needed count) (code.size - cursor.start))

/-- Reads a big-endian number. -/
def readNat (code : Array UInt8) (count : Nat) : Reading Nat :=
  return BigEndian.value (← take code count)

/-- Reads one byte. -/
def readByte (code : Array UInt8) : Reading UInt8 :=
  return UInt8.ofNat (← readNat code 1)

/-- Moves forward. -/
def jump (distance : Nat) : Reading Unit :=
  modify fun cursor => { cursor with position := cursor.position + distance }

/-- Moves backward, unless that would leave the code at its start. -/
def jumpBack (distance : Nat) : Reading Unit := do
  let cursor ← get
  if distance ≤ cursor.position then
    set { cursor with position := cursor.position - distance }
  else
    throw (.jumpOutOfRange cursor.start distance)

end Cursor

end Bytecode
