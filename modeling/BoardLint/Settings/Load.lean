import BoardLint.File.Tree
import BoardLint.Settings.Document

set_option autoImplicit false

/-! # Loading settings

Settings from a file of a tree, or from the files that are looked for when none is given. -/

namespace BoardLint.Settings

/-- Why settings cannot be loaded. -/
inductive LoadError where
  | file (cause : FileError)
  | document (cause : ReadError)
deriving DecidableEq, Repr

/-- The message of an error about the ending of a file. -/
def ReadError.detail : ReadError → String
  | .badYaml => "*"
  | .badJson => "*"
  | .unknownEnding ending => "Unknown config file format: " ++ ending

/-- The message of an error. -/
def LoadError.message : LoadError → String
  | .file cause => "IO error: " ++ cause.message
  | .document .badYaml => "YAML parse error: " ++ ReadError.badYaml.detail
  | .document .badJson => "JSON parse error: " ++ ReadError.badJson.detail
  | .document cause => "Invalid configuration: " ++ cause.detail

/-- The cause of an error in a file, told after the error itself. -/
def LoadError.cause? : LoadError → Option String
  | .file cause => some cause.message
  | .document .badYaml => some ReadError.badYaml.detail
  | .document .badJson => some ReadError.badJson.detail
  | .document _ => none

/-- The settings of a file. -/
def load (t : FileTree) (path : String) : Except LoadError Settings :=
  match t.readText path with
  | .error e => .error (.file e)
  | .ok text =>
    match ofText (Path.ending path) text with
    | .ok s => .ok s
    | .error e => .error (.document e)

/-- The names of the files that are looked for. -/
def defaultNames : List String := [".dashlint.yaml", ".dashlint.yml", ".dashlint.json"]

/-- The paths that are looked for: in the working directory, then in the home directory. -/
def defaultPaths (t : FileTree) : List String :=
  let home := (t.home.map fun location => defaultNames.map fun name =>
    "/" ++ FileTree.key (location ++ [name])).getD []
  defaultNames ++ home

/-- The settings of the first file that is there, or the initial ones. -/
def loadDefault (t : FileTree) : Except LoadError Settings :=
  match (defaultPaths t).find? t.isThere with
  | some path => load t path
  | none => .ok initial

end BoardLint.Settings
