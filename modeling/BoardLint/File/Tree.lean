import BoardLint.File.Path
import BoardLint.KeyMap

set_option autoImplicit false

/-! # File trees

The files and directories that a run sees, with the working directory and the home directory. A
location is the list of names from the root; relative paths start at the working directory. -/

namespace BoardLint

/-- Why a file cannot be read or written. -/
inductive FileError where
  | missing
  | notDirectory
  | isDirectory
  | notText
deriving DecidableEq, Repr

/-- The message of an error. -/
def FileError.message : FileError → String
  | .missing => "No such file or directory (os error 2)"
  | .notDirectory => "Not a directory (os error 20)"
  | .isDirectory => "Is a directory (os error 21)"
  | .notText => "stream did not contain valid UTF-8"

/-- What a file holds: a text, or bytes that are no text. -/
inductive FileContent where
  | text (value : String)
  | binary
deriving DecidableEq, Repr

/-- A tree of files. The keys are locations with slashes between the names. -/
structure FileTree where
  files : KeyMap FileContent
  /-- The directories other than the root. -/
  directories : KeyMap Unit
  working : List String
  home : Option (List String)

namespace FileTree

/-- A location as a key. -/
def key (location : List String) : String := "/".intercalate location

/-- Whether a location is a directory. -/
def hasDirectory (t : FileTree) (location : List String) : Bool :=
  location.isEmpty || (t.directories.get? (key location)).isSome

/-- The file at a location. -/
def fileAt? (t : FileTree) (location : List String) : Option FileContent :=
  t.files.get? (key location)

/-! ## Paths -/

/-- The location that pieces of a path lead to. Everything on the way has to be a directory. -/
def follow (t : FileTree) (location : List String) : List String → Except FileError (List String)
  | [] => .ok location
  | piece :: rest =>
    if t.hasDirectory location then
      if piece.isEmpty || piece == "." then t.follow location rest
      else if piece == ".." then t.follow location.dropLast rest
      else t.follow (location ++ [piece]) rest
    else if (t.fileAt? location).isSome then .error .notDirectory
    else .error .missing

/-- The location that a path denotes. -/
def locate (t : FileTree) (path : String) : Except FileError (List String) :=
  if path.isEmpty then .error .missing
  else t.follow (if Path.isAbsolute path then [] else t.working) (Path.pieces path)

/-- Whether a path is a directory. -/
def isDirectory (t : FileTree) (path : String) : Bool :=
  match t.locate path with
  | .ok location => t.hasDirectory location
  | .error _ => false

/-- Whether a path is a file. -/
def isFile (t : FileTree) (path : String) : Bool :=
  match t.locate path with
  | .ok location => !t.hasDirectory location && (t.fileAt? location).isSome
  | .error _ => false

/-- Whether a path is a file or a directory. -/
def isThere (t : FileTree) (path : String) : Bool := t.isFile path || t.isDirectory path

/-- The names in a directory. -/
def namesIn (t : FileTree) (path : String) : List String :=
  match t.locate path with
  | .error _ => []
  | .ok location =>
    let start := (location.flatMap fun name => name.toList ++ ['/'])
    let name? (k : String) : Option String := do
      let rest ← Text.after? start k.toList
      if rest.isEmpty || rest.contains '/' then none else some (String.ofList rest)
    (t.directories.keys ++ t.files.keys).filterMap name?

/-! ## Reading and writing -/

/-- The content of a file. -/
def read (t : FileTree) (path : String) : Except FileError FileContent := do
  let location ← t.locate path
  if t.hasDirectory location then .error .isDirectory
  else
    match t.fileAt? location with
    | some content => .ok content
    | none => .error .missing

/-- The text of a file. -/
def readText (t : FileTree) (path : String) : Except FileError String := do
  match ← t.read path with
  | .text s => .ok s
  | .binary => .error .notText

/-- Writes a file whose directory is there. -/
def write (t : FileTree) (path : String) (content : FileContent) : Except FileError FileTree := do
  let location ← t.locate path
  if t.hasDirectory location then .error .isDirectory
  else if t.hasDirectory location.dropLast then
    .ok { t with files := t.files.insert (key location) content }
  else if (t.fileAt? location.dropLast).isSome then .error .notDirectory
  else .error .missing

/-! ## Building -/

/-- The tree with a directory and those around it. -/
def addDirectory (t : FileTree) (location : List String) : FileTree :=
  let outer := (List.range location.length).map fun n => location.take (n + 1)
  { t with directories := outer.foldl (fun m l => m.insert (key l) ()) t.directories }

/-- The tree with a file and the directories around it. -/
def addFile (t : FileTree) (location : List String) (content : FileContent) : FileTree :=
  let t := t.addDirectory location.dropLast
  { t with files := t.files.insert (key location) content }

/-- The tree without a file; its directory stays. -/
def removeFile (t : FileTree) (location : List String) : FileTree :=
  let kept := t.files.entries.filter fun (k, _) => k != key location
  { t with files := .ofList kept }

/-- A tree with a working directory and nothing in it. -/
def start (working : List String) (home : Option (List String)) : FileTree :=
  let t : FileTree := ⟨.empty, .empty, working, home⟩
  (t.addDirectory working).addDirectory (home.getD [])

end FileTree

end BoardLint
