import Bytecode.Text.Columns
import Bytecode.Text.Quoted

/-!
# Log events

An event has a level, a message and named fields. The settings say which levels are shown
and whether events are written as text or as JSON.
-/

namespace Bytecode.Log

/-- How serious an event is. -/
inductive Level where
  | debug
  | info
  | warn
  | error
  deriving DecidableEq

/-- How events are written. -/
inductive Format where
  | text
  | json
  deriving DecidableEq

/-- The place of a level in the order from the least serious to the most. -/
def Level.rank : Level → Nat
  | debug => 0
  | info => 1
  | warn => 2
  | error => 3

/-- The name of a level in settings. -/
def Level.name : Level → String
  | debug => "debug"
  | info => "info"
  | warn => "warn"
  | error => "error"

/-- The name of a level in front of an event. -/
def Level.label (level : Level) : String :=
  String.ofList (level.name.toList.map Char.toUpper)

/-- The level of a name. -/
def Level.ofName? (name : String) : Option Level :=
  [debug, info, warn, error].find? fun level => level.name == name

/-- The name of a format in settings. -/
def Format.name : Format → String
  | text => "text"
  | json => "json"

/-- The format of a name. -/
def Format.ofName? (name : String) : Option Format :=
  [text, json].find? fun format => format.name == name

/-! ### Settings -/

/-- Why a setting cannot be read. -/
inductive SettingError where
  | level (text : String)
  | format (text : String)
  deriving DecidableEq

/-- The text of an error. -/
def SettingError.message : SettingError → String
  | level text => "Invalid log level: " ++ text
  | format text => "Invalid log format: " ++ text

/-- A name in lower case. Only ASCII letters change: no name has a letter that is the lower
case of another character. -/
def lowerCase (name : String) : String :=
  String.ofList (name.toList.map Char.toLower)

/-- Reads a level, in either case. -/
def Level.read (text : String) : Except SettingError Level :=
  match ofName? (lowerCase text) with
  | some level => .ok level
  | none => .error (.level text)

/-- Reads a format, in either case. -/
def Format.read (text : String) : Except SettingError Format :=
  match ofName? (lowerCase text) with
  | some format => .ok format
  | none => .error (.format text)

/-- What becomes of events. -/
structure Settings where
  /-- The least serious level shown. -/
  level : Level := .warn
  /-- Whether events are written to standard error. -/
  console : Bool := false
  /-- The file that events are written to. -/
  file : Option String := none
  format : Format := .text
  deriving DecidableEq

/-! ### Events -/

/-- The value of a field. -/
inductive Field where
  | text (value : String)
  | number (value : Nat)
  deriving DecidableEq

/-- Something worth noting. -/
structure Event where
  level : Level
  message : String
  fields : List (String × Field) := []
  deriving DecidableEq

/-- Whether an event reaches standard error. -/
def Settings.shows (settings : Settings) (event : Event) : Bool :=
  settings.console && settings.level.rank ≤ event.level.rank

/-- The value of a field after its name. -/
def Field.toText : Field → String
  | text value => Text.quoted value
  | number value => Text.decimal value

/-- The value of a field in JSON. -/
def Field.toJson : Field → String
  | text value => Text.jsonQuoted value
  | number value => Text.decimal value

/-- An event as text: the message, then each field as name and value. -/
def Event.toText (event : Event) : String :=
  event.fields.foldl
    (fun text field => text ++ " " ++ field.1 ++ "=" ++ field.2.toText) event.message

/-- An event in JSON, with the message as the first field. -/
def Event.toJson (event : Event) : String :=
  let fields := ("message", Field.text event.message) :: event.fields
  let members := fields.map fun field => Text.jsonQuoted field.1 ++ ":" ++ field.2.toJson
  "\x7b\"level\":" ++ Text.jsonQuoted event.level.label ++ ",\"fields\":\x7b"
    ++ ",".intercalate members ++ "\x7d\x7d"

/-- The line that shows an event. -/
def Event.line (event : Event) : Format → String
  | .text => event.level.label ++ " " ++ event.toText
  | .json => event.toJson

end Bytecode.Log
