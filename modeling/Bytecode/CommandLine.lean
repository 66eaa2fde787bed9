import Bytecode.Chunk
import Bytecode.Log

/-!
# The command line

Arguments are read from left to right. Each option may be given once; its value follows an
equals sign or is the next argument. A next argument that starts with a dash is not taken as
a value, a single dash excepted. After two dashes every argument is a file.
-/

namespace Bytecode.CommandLine

/-- What a run is asked to do. -/
structure Options where
  /-- The listing to assemble. Without it a session reads standard input. -/
  file : Option String := none
  /-- The name in the header of listings. -/
  name : Option String := none
  indexWidth : IndexWidth := .byte
  log : Log.Settings := {}
  deriving DecidableEq

/-- What the arguments ask for. -/
inductive Request where
  | run (options : Options)
  | version
  | help
  deriving DecidableEq

/-- The options read so far. An option that was not given is `none`. -/
structure Draft where
  file : Option String := none
  name : Option String := none
  indexWidth : Option IndexWidth := none
  logLevel : Option Log.Level := none
  logConsole : Bool := false
  logFile : Option String := none
  logFormat : Option Log.Format := none

/-- The options, with defaults for those that were not given. -/
def Draft.options (draft : Draft) : Options :=
  { file := draft.file
    name := draft.name
    indexWidth := draft.indexWidth.getD .byte
    log :=
      { level := draft.logLevel.getD .warn
        console := draft.logConsole
        file := draft.logFile
        format := draft.logFormat.getD .text } }

/-- The index width of a name. -/
def indexWidth? (name : String) : Option IndexWidth :=
  if name = "byte" then some .byte
  else if name = "wide" then some .wide
  else none

/-- A path, which must not be empty. -/
def path? (text : String) : Option String :=
  if text.isEmpty then none else some text

/-- Gives a value to an option that has none yet. -/
def assign {α : Type} (current new : Option α) : Option (Option α) :=
  match current, new with
  | none, some value => some (some value)
  | _, _ => none

/-- Adds a file. -/
def Draft.addFile (draft : Draft) (text : String) : Option Draft :=
  (assign draft.file (path? text)).map fun file => { draft with file := file }

/-- Adds an option with a value. -/
def Draft.addOption (draft : Draft) (option value : String) : Option Draft :=
  match option with
  | "name" => (assign draft.name (some value)).map fun name => { draft with name := name }
  | "index-width" =>
    (assign draft.indexWidth (indexWidth? value)).map fun width =>
      { draft with indexWidth := width }
  | "log-level" =>
    (assign draft.logLevel (Log.Level.ofName? value)).map fun level =>
      { draft with logLevel := level }
  | "log-file" =>
    (assign draft.logFile (path? value)).map fun file => { draft with logFile := file }
  | "log-format" =>
    (assign draft.logFormat (Log.Format.ofName? value)).map fun format =>
      { draft with logFormat := format }
  | _ => none

/-- What an argument is. -/
inductive Argument where
  | file (text : String)
  /-- Two dashes. -/
  | separator
  /-- An option by its long name, and the value after an equals sign. -/
  | long (option : String) (value : Option String)
  /-- Options by their letters. -/
  | short (letters : List Char)

/-- The kind of an argument. -/
def Argument.read (text : String) : Argument :=
  match text.toList with
  | ['-', '-'] => separator
  | '-' :: '-' :: rest =>
    let option := String.ofList (rest.takeWhile (· != '='))
    long option (((rest.dropWhile (· != '=')).tail?).map String.ofList)
  | '-' :: c :: rest => short (c :: rest)
  | _ => file text

/-- Whether an argument can be the value of the option before it. -/
def isValue (text : String) : Bool :=
  match Argument.read text with
  | .file _ => true
  | _ => false

/-- Adds files only. -/
def readFiles : List String → Draft → Option Request
  | [], draft => some (.run draft.options)
  | text :: rest, draft =>
    match draft.addFile text with
    | some draft => readFiles rest draft
    | none => none

/-- Reads arguments on top of those read so far. -/
def readFrom : List String → Draft → Option Request
  | [], draft => some (.run draft.options)
  | text :: rest, draft =>
    match Argument.read text with
    | .separator => readFiles rest draft
    | .file text =>
      match draft.addFile text with
      | some draft => readFrom rest draft
      | none => none
    | .short letters =>
      match letters.head? with
      | some 'V' => some .version
      | some 'h' => some .help
      | _ => none
    | .long "version" value => if value.isNone then some .version else none
    | .long "help" value => if value.isNone then some .help else none
    | .long "log-console" value =>
      if value.isNone && !draft.logConsole then
        readFrom rest { draft with logConsole := true }
      else
        none
    | .long option (some value) =>
      match draft.addOption option value with
      | some draft => readFrom rest draft
      | none => none
    | .long option none =>
      match rest with
      | [] => none
      | value :: rest =>
        if isValue value then
          match draft.addOption option value with
          | some draft => readFrom rest draft
          | none => none
        else
          none

/-- Reads the arguments of a run. Arguments that make no sense give nothing. -/
def read (arguments : List String) : Option Request :=
  readFrom arguments {}

end Bytecode.CommandLine
