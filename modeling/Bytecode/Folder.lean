/-!
# Folders

A `Folder` is the working directory of a program run: the files in it and in the folders
below it. What lies above is not known, except that it is a folder; nothing can be found
there, and what is put there leaves no trace.

Paths are texts with slashes. An empty name and a single dot stay where they are, and two
dots go up; each of them needs a folder to start from. A name has at most 255 bytes and a
path at most 4095.
-/

namespace Bytecode

/-- Why a file cannot be used. -/
inductive FileError where
  | notFound
  | alreadyExists
  | notDirectory
  | isDirectory
  | nameTooLong
  | notText
  | noFileName
  /-- Any other reason that the system gives. -/
  | other (text : String)
  deriving DecidableEq

/-- The text of an error. -/
def FileError.message : FileError → String
  | notFound => "No such file or directory (os error 2)"
  | alreadyExists => "File exists (os error 17)"
  | notDirectory => "Not a directory (os error 20)"
  | isDirectory => "Is a directory (os error 21)"
  | nameTooLong => "File name too long (os error 36)"
  | notText => "stream did not contain valid UTF-8"
  | noFileName => "log file path has no file name"
  | other text => text

namespace Path

/-- Whether a path starts at the root. -/
def isAbsolute (path : String) : Bool :=
  path.toList.head? == some '/'

/-- The most bytes that a name can have. -/
def nameLimit : Nat := 255

/-- The most bytes that a path can have. -/
def limit : Nat := 4095

/-- The names between the slashes of a path, empty ones included. -/
def names (path : String) : List String :=
  path.splitOn "/"

/-- Whether a name stays where it is. -/
def stays (name : String) : Bool :=
  name == "" || name == "."

/-- The names of a path that lead somewhere. -/
def steps (path : String) : List String :=
  (names path).filter fun name => !stays name

/-- A path up to its last step, without the names that stay at its end. -/
def parent (path : String) : String :=
  "/".intercalate
    ((((names path).reverse.dropWhile stays).drop 1).dropWhile stays).reverse

/-- The name of the file that a path leads to. -/
def fileName? (path : String) : Option String :=
  (steps path).getLast?.filter fun name => name != ".."

/-- A file name without its last dot and what follows it. A name that starts with its last
dot is kept. -/
def stem (name : String) : String :=
  let beforeDot := (name.toList.reverse.dropWhile (· != '.')).drop 1
  if beforeDot.isEmpty then name else String.ofList beforeDot.reverse

/-- The name that a listing of a file gets: the file name without its extension, or the
path itself if it leads to no file name. -/
def title (path : String) : String :=
  ((fileName? path).map stem).getD path

end Path

/-- The files and folders below a working directory. -/
structure Folder where
  /-- The files, each with the names that lead to it. -/
  files : List (List String × ByteArray) := []
  /-- The folders that are there without a file in them. -/
  folders : List (List String) := []

/-- Where a path leads. -/
inductive Place where
  /-- A file or folder below the working directory, by the names that lead to it. -/
  | below (names : List String)
  /-- A folder above it. -/
  | above

namespace Folder

/-- The contents of a file. -/
def file? (folder : Folder) (names : List String) : Option ByteArray :=
  folder.files.lookup names

/-- Whether names lead to a folder. -/
def isFolder (folder : Folder) (names : List String) : Bool :=
  names.isEmpty || folder.folders.contains names ||
    folder.files.any fun file => names.isPrefixOf file.1 && names != file.1

/-- Whether a place is a folder. -/
def isFolderAt (folder : Folder) : Place → Bool
  | .below names => folder.isFolder names
  | .above => true

/-- Follows one name of a path. That it starts from a folder is checked first, then how
long it is. -/
def follow (folder : Folder) (place : Place) (name : String) : Except FileError Place :=
  if !folder.isFolderAt place then
    .error .notDirectory
  else if Path.stays name then
    .ok place
  else if Path.nameLimit < name.utf8ByteSize then
    .error .nameTooLong
  else
    match place with
    | .above => if name = ".." then .ok .above else .error .notFound
    | .below names =>
      if name = ".." then
        .ok (if names.isEmpty then .above else .below names.dropLast)
      else
        let next := names ++ [name]
        if folder.isFolder next || (folder.file? next).isSome then .ok (.below next)
        else .error .notFound

/-- The place where a path starts. -/
def origin (path : String) : Place :=
  if Path.isAbsolute path then .above else .below []

/-- Follows the names of a path. -/
def followAll (folder : Folder) (start : Place) (names : List String) :
    Except FileError Place :=
  names.foldlM folder.follow start

/-- Reads the file at a path. A path that is too long is not followed at all. -/
def read (folder : Folder) (path : String) : Except FileError ByteArray := do
  if Path.limit < path.utf8ByteSize then
    throw .nameTooLong
  let place ← folder.followAll (origin path) (Path.names path)
  if folder.isFolderAt place then
    throw .isDirectory
  else
    match place with
    | .above => throw .isDirectory
    | .below names => return (folder.file? names).getD .empty

/-- Whether a path leads to a file. -/
def hasFile (folder : Folder) (path : String) : Bool :=
  match folder.read path with
  | .ok _ => true
  | .error _ => false

/-- Makes the folder `name` at a place, which must not hold anything of that name. -/
def makeFolder (folder : Folder) (place : Place) (name : String) : Except FileError Folder :=
  match folder.follow place name with
  | .ok _ => .error .alreadyExists
  | .error .notFound =>
    match place with
    | .above => .ok folder
    | .below names => .ok { folder with folders := (names ++ [name]) :: folder.folders }
  | .error error => .error error

/-- Makes the folder that a path leads to. The names come in reverse. -/
def makeFolderAt (folder : Folder) (start : Place) (name : String) (upper : List String) :
    Except FileError Folder := do
  let place ← folder.followAll start upper.reverse
  folder.makeFolder place name

/-- Whether names lead to a folder. -/
def leadsToFolder (folder : Folder) (start : Place) (names : List String) : Bool :=
  match folder.followAll start names with
  | .ok place => folder.isFolderAt place
  | .error _ => false

/-- Programs that change a folder. What they did before an error stays. -/
abbrev Filing := EStateM FileError Folder

/-- Makes a folder that may be there already, and first the folder it is in if that is
missing. The names come in reverse. -/
def makeFolders (start : Place) : List String → Filing Unit
  | [] => return ()
  | name :: upper => do
    match (← get).makeFolderAt start name upper with
    | .ok made => set made
    | .error error =>
      if error = .notFound then
        makeFolders start upper
        match (← get).makeFolderAt start name upper with
        | .ok made => set made
        | .error error =>
          if !(← get).leadsToFolder start (name :: upper).reverse then
            throw error
      else if !(← get).leadsToFolder start (name :: upper).reverse then
        throw error

/-- Puts an empty file at a place, unless something of that name is there. -/
def touch (folder : Folder) (place : Place) (name : String) : Folder :=
  match folder.follow place name, place with
  | .error .notFound, .below names =>
    { folder with files := (names ++ [name], .empty) :: folder.files }
  | _, _ => folder

/-- Opens the log file at a path: makes the folder it is in and then the file. -/
def openLog (path : String) : Filing Unit := do
  if Path.limit < (Path.parent path).utf8ByteSize then
    throw .nameTooLong
  let start := origin path
  let upper := (Path.steps path).reverse.drop 1
  makeFolders start upper
  match Path.fileName? path with
  | none => throw .noFileName
  | some name =>
    match (← get).followAll start upper.reverse with
    | .error error => throw error
    | .ok place => modify fun folder => folder.touch place name

end Folder

end Bytecode
