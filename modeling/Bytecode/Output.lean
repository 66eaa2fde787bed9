import Bytecode.Assembly.Assembler
import Bytecode.Listing
import Bytecode.Log

/-!
# Output

What a run puts out, in order: text on standard output, lines on standard error, and log
events. Errors that a log should trace give events of their own.
-/

namespace Bytecode

/-- A piece of output. -/
inductive Output where
  /-- Text on standard output. -/
  | out (text : String)
  /-- A line on standard error. -/
  | err (line : String)
  /-- A log event. -/
  | log (event : Log.Event)
  deriving DecidableEq

namespace Output

/-- A line on standard output. -/
def line (text : String) : Output :=
  out (text ++ "\n")

/-- What a piece of output adds to standard output. -/
def outText : Output → String
  | out text => text
  | _ => ""

/-- The text on standard output. -/
def stdout (output : List Output) : String :=
  String.join (output.map outText)

/-- Whether a piece of output appears under some settings. -/
def isShown (settings : Log.Settings) : Output → Bool
  | log event => settings.shows event
  | _ => true

end Output

/-- The event of an error in extending a chunk, if it has one. -/
def ChunkError.events : ChunkError → List Output
  | operandOverflow .poolIndex size limit =>
    [ .log
      { level := .debug
        message := "Constant pool full"
        fields := [("pool_size", .number size), ("limit", .number limit)] } ]
  | operandOverflow (.distance op) distance _ =>
    [ .log
      { level := .debug
        message := "Jump too far"
        fields := [("op", .text op.mnemonic), ("distance", .number distance)] } ]
  | _ => []

/-- The event of the cause of an assembly error, if it has one. -/
def Assembly.AssemblyError.events (error : AssemblyError) : List Output :=
  match error.fault with
  | .chunk cause => cause.events
  | _ => []

/-- The event of a listing that was broken off, if it has one. -/
def ListingError.events (name : String) : ListingError → List Output
  | decode error =>
    [ .log
      { level := .debug
        message := "Disassembly aborted"
        fields :=
          [ ("chunk", .text name), ("offset", .number error.offset),
            ("error", .text error.message) ] } ]
  | sinkFull => []

end Bytecode
