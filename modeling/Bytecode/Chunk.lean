import Bytecode.LineTable
import Bytecode.Value

/-!
# Chunks

A chunk is a sequence of code bytes with the source line of each and a pool of constants.
Chunks only grow: bytes and constants are appended and never changed.
-/

namespace Bytecode

/-- How wide the pool indexes of a chunk may be. -/
inductive IndexWidth where
  /-- One byte. -/
  | byte
  /-- Three bytes. -/
  | wide
  deriving DecidableEq, Inhabited

/-- The number of constants that indexes of a width can tell apart. -/
def IndexWidth.poolLimit : IndexWidth → Nat
  | byte => 0x100
  | wide => 0x1000000

/-- A sequence of code bytes with its lines and constants. -/
structure Chunk where
  code : Array UInt8 := #[]
  lines : LineTable := {}
  constants : Array Value := #[]
  indexWidth : IndexWidth := .byte
  deriving DecidableEq

namespace Chunk

/-- A chunk without code and constants. -/
def empty (width : IndexWidth) : Chunk :=
  { indexWidth := width }

/-- The number of code bytes. -/
def length (chunk : Chunk) : Nat :=
  chunk.code.size

/-- The number of constants. -/
def poolSize (chunk : Chunk) : Nat :=
  chunk.constants.size

/-- The code byte at an offset. -/
def byteAt (chunk : Chunk) (offset : Nat) : Option UInt8 :=
  chunk.code[offset]?

/-- The constant at an index. -/
def constantAt (chunk : Chunk) (index : Nat) : Option Value :=
  chunk.constants[index]?

/-- The source line of the code byte at an offset. -/
def lineAt (chunk : Chunk) (offset : Nat) : Option Nat :=
  if offset < chunk.length then chunk.lines.lineAt offset else none

/-- Appends one code byte of a source line. -/
def appendByte (chunk : Chunk) (byte : UInt8) (line : Nat) : Chunk :=
  { chunk with code := chunk.code.push byte, lines := chunk.lines.push line }

/-- Appends code bytes of one source line. -/
def appendBytes (chunk : Chunk) (bytes : List UInt8) (line : Nat) : Chunk :=
  bytes.foldl (fun chunk byte => chunk.appendByte byte line) chunk

/-- Appends a constant. -/
def pushConstant (chunk : Chunk) (value : Value) : Chunk :=
  { chunk with constants := chunk.constants.push value }

end Chunk

end Bytecode
