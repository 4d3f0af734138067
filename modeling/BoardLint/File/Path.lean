import BoardLint.Text.Basic

set_option autoImplicit false

/-! # Paths

Paths as texts with slashes. A path denotes the list of its parts; single dots inside it and
repeated slashes denote nothing. Paths are ordered part by part, so that everything in a directory
stands together. -/

namespace BoardLint.Path

/-- A part of a path. -/
inductive Part where
  | root
  | current
  | parent
  | name (text : String)
deriving DecidableEq, Repr

/-- The pieces of a path between its slashes. -/
def pieces (path : String) : List String :=
  (path.toList.splitOn '/').map String.ofList

/-- Whether a path begins at the root. -/
def isAbsolute (path : String) : Bool := path.toList.head? == some '/'

/-- The part that a piece denotes inside a path. -/
def partOf? (piece : String) : Option Part :=
  if piece.isEmpty || piece == "." then none
  else if piece == ".." then some .parent
  else some (.name piece)

/-- The parts of a path. A single dot counts only at the beginning. -/
def parts (path : String) : List Part :=
  let inner := (pieces path).filterMap partOf?
  if isAbsolute path then .root :: inner
  else if (pieces path).head? == some "." then .current :: inner
  else inner

/-! ## Order -/

/-- The place of a part in the order of parts, and its name. -/
def Part.key : Part → Nat × String
  | .root => (0, "")
  | .current => (1, "")
  | .parent => (2, "")
  | .name text => (3, text)

/-- Whether a part comes before or with another. -/
def Part.le (a b : Part) : Bool :=
  if a.key.1 == b.key.1 then a.key.2 ≤ b.key.2 else a.key.1 < b.key.1

/-- Whether a list of parts comes before or with another. -/
def partsLe : List Part → List Part → Bool
  | [], _ => true
  | _ :: _, [] => false
  | a :: as, b :: bs => if a == b then partsLe as bs else a.le b

/-- Whether a path comes before or with another. -/
def le (a b : String) : Bool := partsLe (parts a) (parts b)

/-- Drops each path that denotes the same as the one in front of it. -/
def dedup : List String → List String
  | [] => []
  | [p] => [p]
  | p :: q :: rest =>
    if parts p == parts q then dedup (p :: rest) else p :: dedup (q :: rest)
termination_by paths => paths.length

/-- The paths in order, each once. -/
def sorted (paths : List String) : List String := dedup (paths.mergeSort le)

/-! ## Parts of paths -/

/-- Drops the pieces at the end that denote nothing; the first piece stays. -/
def dropSilent (reversed : List String) : List String :=
  match reversed with
  | [] => []
  | [piece] => [piece]
  | piece :: rest => if (partOf? piece).isNone then dropSilent rest else reversed

/-- The directory of a path, empty for a path of one part. -/
def parent (path : String) : String :=
  let kept := (dropSilent ((dropSilent (pieces path).reverse).drop 1)).reverse
  let text := "/".intercalate kept
  if isAbsolute path && text.isEmpty then "/" else text

/-- The name at the end of a path. -/
def fileName? (path : String) : Option String :=
  match (parts path).getLast? with
  | some (.name text) => some text
  | _ => none

/-- The text after the last dot of the name, empty when there is none or nothing in front of it. -/
def ending (path : String) : String :=
  let name := ((fileName? path).getD "").toList
  let last := (name.reverse.takeWhile (· != '.')).reverse
  if last.length + 1 < name.length then String.ofList last else ""

/-- A path inside a directory; a path from the root stays as it is. -/
def join (directory path : String) : String :=
  if isAbsolute path || directory.isEmpty then path
  else if directory.toList.getLast? == some '/' then directory ++ path
  else directory ++ "/" ++ path

end BoardLint.Path
