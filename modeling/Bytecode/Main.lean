import Bytecode.Program

/-!
# Running the program

Reads what a run needs from the system, runs the program and writes its report.
-/

namespace Bytecode.Main

/-- The error of the system as an error of a file. Some calls give its code negated. -/
def fileError : IO.Error → FileError
  | .noFileOrDirectory .. => .notFound
  | .alreadyExists .. => .alreadyExists
  | .inappropriateType _ code _ => if code = 21 then .isDirectory else .notDirectory
  | error@(.invalidArgument _ code _) =>
    if code = 36 || 0 - code = 36 then .nameTooLong else .other error.toString
  | error => .other error.toString

/-- Runs an action and catches its error. -/
def attempt {α : Type} (action : IO α) : IO (Except FileError α) := do
  try
    return .ok (← action)
  catch error =>
    return .error (fileError error)

/-- Opens the log file. -/
def openLog (path : String) : IO (Except FileError Unit) := do
  let upper := "/".intercalate ((Path.steps path).dropLast)
  let parent := (if Path.isAbsolute path then "/" else "./") ++ upper
  match ← attempt (IO.FS.createDirAll parent) with
  | .error error => return .error error
  | .ok _ =>
    match Path.fileName? path with
    | none => return .error .noFileName
    | some name =>
      attempt do
        let _ ← IO.FS.Handle.mk (parent ++ "/" ++ name) .append

/-- Writes a report and gives its exit status. -/
def write (format : Log.Format) (report : Program.Report) : IO UInt32 := do
  let stdout ← IO.getStdout
  let stderr ← IO.getStderr
  for piece in report.output do
    match piece with
    | .out text => stdout.putStr text
    | .err line => stderr.putStrLn line
    | .log event => stderr.putStrLn (event.line format)
  stdout.flush
  stderr.flush
  return UInt32.ofNat report.exitCode

/-- Runs the program on options. -/
def runOptions (options : CommandLine.Options) : IO UInt32 := do
  let ready ← match options.log.file with
    | none => pure (.ok ())
    | some path => openLog path
  match ready with
  | .error error => write options.log.format (Program.logFailure error)
  | .ok _ =>
    let source ← match options.file with
      | some path =>
        pure (.file path (Program.decodeText (← attempt (IO.FS.readBinFile path))))
      | none => pure (.input (inputLines (← (← IO.getStdin).readBinToEnd)))
    write options.log.format (Program.runOptions options source)

end Bytecode.Main

def main (arguments : List String) : IO UInt32 := do
  match Bytecode.CommandLine.read arguments with
  | none => Bytecode.Main.write .text Bytecode.Program.usageFailure
  | some .version => Bytecode.Main.write .text Bytecode.Program.showVersion
  | some .help => Bytecode.Main.write .text Bytecode.Program.showHelp
  | some (.run options) => Bytecode.Main.runOptions options
