import BoardLint.Glob.Exclusion
import BoardLint.Glob.PathPattern
import BoardLint.Settings.Basic

set_option autoImplicit false

/-! # Finding the files

The files that a run is about: directories are searched with the patterns of the settings, and
anything else is a file or a pattern. Excluded files are left out. -/

namespace BoardLint

/-- Why the files cannot be found. -/
inductive DiscoveryError where
  | badPattern (pattern : String)
deriving DecidableEq, Repr

/-- The message of an error. -/
def DiscoveryError.message : DiscoveryError → String
  | .badPattern pattern => "Invalid pattern '" ++ pattern ++ "'"

namespace Discovery

/-- The files that a pattern lists. -/
def expand (t : FileTree) (pattern : String) : Except DiscoveryError (List String) :=
  match Glob.PathPattern.parse? pattern with
  | some p => .ok (p.files t)
  | none => .error (.badPattern pattern)

/-- The files of one argument. -/
def ofPath (t : FileTree) (included : List String) (path : String) :
    Except DiscoveryError (List String) :=
  if t.isDirectory path then do
    let lists ← included.mapM fun pattern => expand t (Path.join path pattern)
    .ok lists.flatten
  else if t.isFile path then .ok [path]
  else expand t path

/-- The pattern that excludes files. -/
def exclusion (pattern : String) : Except DiscoveryError Glob.Exclusion :=
  match Glob.Exclusion.parse? pattern with
  | some e => .ok e
  | none => .error (.badPattern pattern)

/-- The patterns that exclude files. They are searched for together, so one that cannot be searched
    for spoils them all. -/
def exclusions (patterns : List String) : Except DiscoveryError (List Glob.Exclusion) := do
  let all ← patterns.mapM exclusion
  if all.all (·.isSearchable) then .ok all else .error (.badPattern (", ".intercalate patterns))

/-- The files of several arguments, in order and each once. -/
def files (t : FileTree) (s : FileSettings) (paths : List String) :
    Except DiscoveryError (List String) := do
  let exclusions ← exclusions s.excluded
  let lists ← paths.mapM (ofPath t s.included)
  .ok (Path.sorted (lists.flatten.filter fun path =>
    !exclusions.any fun e => e.excludes path))

end Discovery

end BoardLint
