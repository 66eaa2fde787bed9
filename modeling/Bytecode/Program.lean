import Bytecode.CommandLine
import Bytecode.Folder
import Bytecode.Session

/-!
# The program

`Program.runFile` assembles a listing and writes its disassembly; `Program.runSession` holds
a session on an input stream; `Program.run` is the whole program on its arguments, the
working directory and the input.
-/

namespace Bytecode.Program

open Bytecode.CommandLine (Options Request)

/-- The name of the program. -/
def title : String := "laivm"

/-- The version of the program. -/
def version : String := "0.1.0"

/-- The exit status for arguments that make no sense. -/
def usageExit : Nat := 2

/-- The exit status when a listing cannot be read. -/
def noInputExit : Nat := 66

/-- The exit status when the input of a session cannot be read. -/
def inputErrorExit : Nat := 74

/-- The exit status when the log file cannot be opened. -/
def logErrorExit : Nat := 1

/-- Output and an exit status. -/
structure Report where
  output : List Output
  exitCode : Nat
  deriving DecidableEq

/-! ### A listing in a file -/

/-- The event of a failure over a file. -/
def failure (message error file : String) : Output :=
  .log { level := .error, message, fields := [("error", .text error), ("file", .text file)] }

/-- The event of a listing that was assembled. -/
def assembled (file : String) (chunk : Chunk) : Output :=
  .log
    { level := .info
      message := "Assembled listing"
      fields :=
        [ ("file", .text file), ("bytes", .number chunk.length),
          ("constants", .number chunk.poolSize) ] }

/-- The text that a sink has taken. -/
def textOf (sink : Sink) : Output :=
  .out ((String.fromUTF8? sink.written).getD "")

/-- Writes the disassembly of a chunk to standard output. -/
def showListing (file name : String) (chunk : Chunk) : Report :=
  match (chunk.writeListing name).run {} with
  | .ok _ sink => { output := [textOf sink], exitCode := 0 }
  | .error error sink =>
    { output :=
        textOf sink :: error.events name ++
          [ failure "Disassembly failed" error.message file,
            .err (file ++ ": " ++ error.message) ]
      exitCode := error.exitCode }

/-- Assembles a source text and writes its disassembly. -/
def runSource (file name : String) (width : IndexWidth) (source : String) : Report :=
  match Assembly.assemble source width with
  | .error error =>
    { output :=
        error.events ++
          [failure "Assembly failed" error.message file, .err (file ++ ": " ++ error.message)]
      exitCode := error.exitCode }
  | .ok chunk =>
    let report := showListing file name chunk
    { report with output := assembled file chunk :: report.output }

/-- Assembles a listing, given what reading its file gave, and writes its disassembly. -/
def runFile (file name : String) (width : IndexWidth) (contents : Except FileError String) :
    Report :=
  match contents with
  | .error error =>
    { output :=
        [ failure "Could not read listing" error.message file,
          .err ("Could not read " ++ file ++ ": " ++ error.message) ]
      exitCode := noInputExit }
  | .ok source => runSource file name width source

/-! ### A session -/

/-- Holds a session on the lines of an input. -/
def runSession (name : String) (width : IndexWidth) (lines : List (Option String)) : Report :=
  match Session.run name (Session.start width) lines with
  | (output, .finished) => { output, exitCode := 0 }
  | (output, .unreadable) =>
    let reason := FileError.notText.message
    { output :=
        output ++
          [ .log { level := .error, message := "REPL failed", fields := [("error", .text reason)] },
            .err ("Readline error: " ++ reason) ]
      exitCode := inputErrorExit }

/-! ### The whole program -/

/-- What a run works on. -/
inductive Source where
  /-- A file and what reading it gave. -/
  | file (path : String) (contents : Except FileError String)
  /-- The lines of an input. -/
  | input (lines : List (Option String))

/-- The contents of a file as text. -/
def decodeText (contents : Except FileError ByteArray) : Except FileError String :=
  match contents with
  | .error error => .error error
  | .ok bytes =>
    match String.fromUTF8? bytes with
    | some text => .ok text
    | none => .error .notText

/-- The event of a run that begins. -/
def starting : Output :=
  .log { level := .info, message := title ++ " starting", fields := [("version", .text version)] }

/-- A run on its options, once its log file is open and its source is at hand. -/
def runOptions (options : Options) (source : Source) : Report :=
  let report := match source with
    | .file path contents =>
      runFile path (options.name.getD (Path.title path)) options.indexWidth contents
    | .input lines => runSession (options.name.getD "repl") options.indexWidth lines
  { report with output := (starting :: report.output).filter (Output.isShown options.log) }

/-- A run whose log file cannot be opened. -/
def logFailure (error : FileError) : Report :=
  { output := [.err ("FATAL: Failed to initialize logging system: " ++ error.message)]
    exitCode := logErrorExit }

/-- How the program is used. -/
def usage : String :=
  "Usage: " ++ title ++ " [OPTIONS] [FILE]"

/-- A run that only shows the version. -/
def showVersion : Report :=
  { output := [.line (title ++ " " ++ version)], exitCode := 0 }

/-- A run that only shows how the program is used. -/
def showHelp : Report :=
  { output := [.line usage], exitCode := 0 }

/-- A run with arguments that make no sense. -/
def usageFailure : Report :=
  { output := [.err usage], exitCode := usageExit }

/-- Opens the log file, if one is asked for. -/
def openLog (options : Options) : Folder.Filing Unit :=
  match options.log.file with
  | some path => Folder.openLog path
  | none => return ()

/-- The source of a run: its file or else its input. -/
def sourceOf (options : Options) (folder : Folder) (input : ByteArray) : Source :=
  match options.file with
  | some path => .file path (decodeText (folder.read path))
  | none => .input (inputLines input)

/-- The program: its report and the working directory after it. -/
def run (arguments : List String) (folder : Folder) (input : ByteArray) : Report × Folder :=
  match CommandLine.read arguments with
  | none => (usageFailure, folder)
  | some .version => (showVersion, folder)
  | some .help => (showHelp, folder)
  | some (.run options) =>
    match (openLog options).run folder with
    | .error error folder => (logFailure error, folder)
    | .ok _ folder => (runOptions options (sourceOf options folder input), folder)

end Bytecode.Program
