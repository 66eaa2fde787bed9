import Bytecode.Output

/-!
# Sessions

A session reads lines and assembles them one by one into a running chunk, showing each
instruction as it is decoded again. A few lines are commands instead: they list the chunk,
start again with an empty one, or end the session. Lines are counted from one, commands
included, and the count is the source line of an instruction.
-/

namespace Bytecode

/-- What a line of a session asks for. -/
inductive Command where
  | exit
  | dump
  | reset
  /-- Anything else is assembled. -/
  | assemble (text : String)
  deriving DecidableEq

/-- The command of a line. -/
def Command.read (line : String) : Command :=
  match String.ofList (Text.trim line.toList) with
  | "exit" => exit
  | ":q" => exit
  | ":dump" => dump
  | ":reset" => reset
  | _ => assemble line

/-- The state of a session. -/
structure Session where
  /-- What has been assembled so far. -/
  chunk : Chunk
  /-- How many lines have been read. -/
  lineCount : Nat
  deriving DecidableEq

namespace Session

/-- A new session. -/
def start (width : IndexWidth) : Session :=
  { chunk := Chunk.empty width, lineCount := 0 }

/-- A message about an error. -/
def complaint (message : String) : Output :=
  .err ("Error: " ++ message)

/-- The output of a listing. -/
def dump (name : String) (chunk : Chunk) : List Output :=
  match chunk.listing name with
  | .ok lines => lines.map Output.line
  | .error error => [complaint error.message]

/-- The output that shows the instruction at an offset. -/
def echo (chunk : Chunk) (offset : Nat) : Output :=
  match chunk.decode offset with
  | .ok instruction => .line (Text.offset offset ++ " " ++ instruction.text)
  | .error error => complaint error.message

/-- The output for a line that cannot be assembled. -/
def rejection (error : Assembly.AssemblyError) : List Output :=
  error.events ++
    [ .log
        { level := .warn
          message := "Assembly rejected"
          fields := [("line", .number error.line), ("error", .text error.message)] },
      complaint error.message ]

/-- Assembles a line. -/
def enter (session : Session) (text : String) : List Output × Session :=
  let lineCount := session.lineCount
  match (Assembly.assembleLine text lineCount).run session.chunk with
  | .ok (some offset) chunk => ([echo chunk offset], { chunk, lineCount })
  | .ok none chunk => ([], { chunk, lineCount })
  | .error error chunk => (rejection error, { chunk, lineCount })

/-- Takes one line: its output and, unless the session ends, the session after it. The count of
lines is never wrapped, so it is that of a 32-bit counter as long as it stays below `2 ^ 32`. -/
def step (name : String) (session : Session) (line : String) : List Output × Option Session :=
  let counted := { session with lineCount := session.lineCount + 1 }
  match Command.read line with
  | .exit => ([], none)
  | .reset => ([], some (start session.chunk.indexWidth))
  | .dump => (dump name session.chunk, some counted)
  | .assemble text =>
    let (output, next) := counted.enter text
    (output, some next)

/-- How a session ends. -/
inductive Ending where
  /-- By a command or at the end of the input. -/
  | finished
  /-- At a line that is not UTF-8. -/
  | unreadable
  deriving DecidableEq

/-- The event of asking for a line of input that does not come from a terminal. -/
def request : Output :=
  .log { level := .debug, message := "stdin is not a tty" }

/-- Takes lines up to the end of the session. A line that is not UTF-8 is `none`. -/
def run (name : String) : Session → List (Option String) → List Output × Ending
  | _, [] => ([request], .finished)
  | _, none :: _ => ([request], .unreadable)
  | session, some line :: rest =>
    match session.step name line with
    | (output, none) => (request :: output, .finished)
    | (output, some next) =>
      let (later, ending) := run name next rest
      (request :: output ++ later, ending)

end Session

end Bytecode
