import Bytecode.Assembly.Statement
import Bytecode.Text.Lines

/-!
# Assembling

`assembleLine` adds the statement of one line to a chunk, and `assemble` makes a chunk from
a whole source text. Assembling stops at the first line with a fault.
-/

namespace Bytecode.Assembly

/-- A fault and the number of the line it is on. -/
structure AssemblyError where
  line : Nat
  fault : Fault
  deriving DecidableEq

/-- The text of an error. -/
def AssemblyError.message (error : AssemblyError) : String :=
  "[line " ++ Text.decimal error.line ++ "] " ++ error.fault.message

/-- The exit status that an error asks for. -/
def AssemblyError.exitCode (_ : AssemblyError) : Nat := 65

/-- Programs that assemble into a chunk. -/
abbrev Assembling := EStateM AssemblyError Chunk

/-- Adds the statement of a line and gives the offset of its instruction, if there is one. -/
def assembleLine (text : String) (line : Nat) : Assembling (Option Nat) :=
  match Statement.read text.toList with
  | .error fault => throw ⟨line, fault⟩
  | .ok none => return none
  | .ok (some statement) => do
    let offset := (← get).length
    EStateM.adaptExcept (fun error => ⟨line, .chunk error⟩) (statement.emit line)
    return some offset

/-- Adds the statements of lines, which are numbered from `first` on. Numbers are never wrapped, so
they are those of a 32-bit count as long as they stay below `2 ^ 32`. -/
def assembleLines : List String → Nat → Assembling Unit
  | [], _ => return ()
  | text :: rest, first => do
    let _ ← assembleLine text first
    assembleLines rest (first + 1)

/-- The chunk of a source text, whose lines are numbered from one. -/
def assemble (source : String) (width : IndexWidth) : Except AssemblyError Chunk :=
  match (assembleLines (sourceLines source) 1).run (Chunk.empty width) with
  | .ok _ chunk => .ok chunk
  | .error error _ => .error error

end Bytecode.Assembly
