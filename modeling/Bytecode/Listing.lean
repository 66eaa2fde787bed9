import Bytecode.Instruction

/-!
# Listings

A listing is a header and one line per instruction. An instruction shows its source line
only when it differs from the source line of the instruction before it.

`Chunk.listing` collects the lines. `Chunk.writeListing` writes them one by one to a sink,
which may have room for a limited number of bytes; what was written before a failure stays
in the sink.
-/

namespace Bytecode

namespace Listing

/-- The first line of a listing. -/
def header (name : String) : String :=
  "== " ++ name ++ " =="

/-- The line of an instruction, given its own source line and that of the instruction before
it. -/
def line (instruction : Instruction) (source previous : Option Nat) : String :=
  let offset := Text.offset instruction.offset
  match source with
  | some number =>
    if previous = some number then
      offset ++ "    | " ++ instruction.text
    else
      offset ++ " " ++ Text.column number ++ " " ++ instruction.text
  | none => offset ++ "    | " ++ instruction.text

end Listing

/-! ### Collecting -/

/-- The lines of the items of a walk, unless one of them is an error. -/
def Chunk.listingLines (chunk : Chunk) :
    List (Except DecodeError Instruction) → Option Nat → Except DecodeError (List String)
  | [], _ => .ok []
  | .error error :: _, _ => .error error
  | .ok instruction :: rest, previous =>
    let source := chunk.lineAt instruction.offset
    match chunk.listingLines rest source with
    | .ok lines => .ok (Listing.line instruction source previous :: lines)
    | .error error => .error error

/-- The lines of the listing of a chunk. -/
def Chunk.listing (chunk : Chunk) (name : String) : Except DecodeError (List String) :=
  match chunk.listingLines chunk.walk none with
  | .ok lines => .ok (Listing.header name :: lines)
  | .error error => .error error

/-- The listing of a chunk as one text, without a line feed at the end. -/
def Chunk.disassemble (chunk : Chunk) (name : String) : Except DecodeError String :=
  match chunk.listing name with
  | .ok lines => .ok ("\n".intercalate lines)
  | .error error => .error error

/-! ### Writing -/

/-- What takes the bytes of a text. -/
structure Sink where
  /-- The bytes taken so far. -/
  written : ByteArray := .empty
  /-- How many more bytes there is room for. A sink without this takes everything. -/
  room : Option Nat := none

/-- Why a listing could not be written to its end. -/
inductive ListingError where
  | decode (error : DecodeError)
  | sinkFull
  deriving DecidableEq

namespace ListingError

/-- The text of the error behind this one. -/
def source : ListingError → String
  | decode error => error.message
  | sinkFull => "sink full"

/-- The text of an error. -/
def message : ListingError → String
  | decode error => "decode error at " ++ error.message
  | sinkFull => "failed to write disassembly: " ++ source sinkFull

/-- The exit status that an error asks for. -/
def exitCode : ListingError → Nat
  | decode _ => 65
  | sinkFull => 74

end ListingError

/-- Programs that write to a sink. -/
abbrev Writing := EStateM ListingError Sink

/-- Writes a text. If there is no room for all of it, the sink takes what fits. -/
def Sink.write (text : String) : Writing Unit := do
  let sink ← get
  match sink.room with
  | none => set { sink with written := sink.written ++ text.toUTF8 }
  | some room =>
    if text.utf8ByteSize ≤ room then
      set { written := sink.written ++ text.toUTF8, room := some (room - text.utf8ByteSize) : Sink }
    else
      set { written := sink.written ++ text.toUTF8.extract 0 room, room := some 0 : Sink }
      throw .sinkFull

/-- Writes a text and a line feed. -/
def Sink.writeLine (text : String) : Writing Unit :=
  Sink.write (text ++ "\n")

/-- Writes the lines of the items of a walk and gives the number of instructions written, on
top of `count`. -/
def Chunk.writeLines (chunk : Chunk) :
    List (Except DecodeError Instruction) → Option Nat → Nat → Writing Nat
  | [], _, count => return count
  | .error error :: _, _, _ => throw (.decode error)
  | .ok instruction :: rest, previous, count => do
    let source := chunk.lineAt instruction.offset
    Sink.writeLine (Listing.line instruction source previous)
    chunk.writeLines rest source (count + 1)

/-- Writes the listing of a chunk and gives the number of instructions written. -/
def Chunk.writeListing (chunk : Chunk) (name : String) : Writing Nat := do
  Sink.writeLine (Listing.header name)
  chunk.writeLines chunk.walk none 0

end Bytecode
