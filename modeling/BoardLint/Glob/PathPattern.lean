import BoardLint.File.Tree

set_option autoImplicit false

/-! # Patterns that list files

A pattern such as `a/**/*.json` lists the files of a tree. Between slashes, a star stands for any
characters of a name, a question mark for one, and brackets for one of a set. Two stars stand alone
and for any directories. -/

namespace BoardLint.Glob

/-- An element of a pattern for names. -/
inductive NameToken where
  | char (c : Char)
  | anyChar
  | anyText
  | oneOf (negated : Bool) (ranges : List (Char × Char))
deriving DecidableEq, Repr

/-- What stands between two slashes of a pattern. -/
inductive Segment where
  /-- Any directories. -/
  | anywhere
  | name (tokens : List NameToken)
deriving DecidableEq, Repr

/-! ## Reading -/

/-- The ranges of a set; a hyphen between two characters makes a range of them. -/
def ranges : List Char → List (Char × Char)
  | a :: '-' :: b :: rest => (a, b) :: ranges rest
  | a :: rest => (a, a) :: ranges rest
  | [] => []

/-- A set after its opening bracket, and the rest. The first character belongs to the set whatever
    it is. -/
def set? (text : List Char) : Option (NameToken × List Char) :=
  let (negated, body) := match text with
    | '!' :: rest => (true, rest)
    | _ => (false, text)
  match body with
  | [] => none
  | first :: rest =>
    let (inner, close) := rest.span (· != ']')
    match close with
    | [] => none
    | _ :: rest => some (.oneOf negated (ranges (first :: inner)), rest)

/-- The tokens of a pattern for names, in which no two stars stand together. -/
def nameTokens? : Nat → List Char → Option (List NameToken)
  | _, [] => some []
  | 0, _ :: _ => none
  | fuel + 1, c :: rest =>
    if c == '?' then (nameTokens? fuel rest).map (.anyChar :: ·)
    else if c == '*' then
      if rest.head? == some '*' then none else (nameTokens? fuel rest).map (.anyText :: ·)
    else if c == '[' then do
      let (token, rest) ← set? rest
      (nameTokens? fuel rest).map (token :: ·)
    else (nameTokens? fuel rest).map (.char c :: ·)

/-- The segment of a text between slashes. -/
def segment? (text : String) : Option Segment :=
  if text == "**" then some .anywhere
  else (nameTokens? text.length text.toList).map .name

/-- The pieces of a pattern, without the one after a slash at the end. -/
def patternPieces (text : List Char) : List String :=
  let pieces := text.splitOn '/'
  ((if pieces.getLast? == some [] then pieces.dropLast else pieces)).map String.ofList

/-- A pattern that lists files. -/
structure PathPattern where
  absolute : Bool
  segments : List Segment
  /-- Whether only directories are listed, because a slash ends the pattern. -/
  directories : Bool
deriving DecidableEq, Repr

/-- The pattern of a text. -/
def PathPattern.parse? (text : String) : Option PathPattern := do
  let chars := text.toList
  let absolute := Path.isAbsolute text
  let body := chars.dropWhile (· == '/')
  let segments ← (patternPieces body).mapM segment?
  some ⟨absolute, if body.isEmpty then [.name []] else segments, chars.getLast? == some '/'⟩

/-! ## Names -/

/-- Whether a character is in one of the ranges. -/
def inSet (ranges : List (Char × Char)) (c : Char) : Bool :=
  ranges.any fun (low, high) => low ≤ c && c ≤ high

/-- Whether tokens describe a name. -/
def matchesName : List NameToken → List Char → Bool
  | [], text => text.isEmpty
  | .char c :: rest, text =>
    match text with
    | d :: text => c == d && matchesName rest text
    | [] => false
  | .anyChar :: rest, text =>
    match text with
    | _ :: text => matchesName rest text
    | [] => false
  | .oneOf negated ranges :: rest, text =>
    match text with
    | d :: text => (inSet ranges d != negated) && matchesName rest text
    | [] => false
  | .anyText :: rest, text => (Text.suffixes text).any fun tail => matchesName rest tail

/-- The text of tokens that are all characters. -/
def literal? (tokens : List NameToken) : Option String :=
  let char? : NameToken → Option Char
    | .char c => some c
    | _ => none
  (tokens.mapM char?).map String.ofList

/-! ## Listing -/

/-- The path of a name in a directory, without a single dot in front. -/
def childPath (directory name : String) : String :=
  if Path.parts directory == [.current] then name else Path.join directory name

/-- The segments after those for any directories at the beginning. -/
def dropAnywhere : List Segment → List Segment
  | .anywhere :: rest => dropAnywhere rest
  | segments => segments

mutual

/-- The paths under a directory that segments describe. -/
def listUnder (t : FileTree) : Nat → List Segment → String → List String
  | 0, _, _ => []
  | _, [], _ => []
  | fuel + 1, .anywhere :: rest, path =>
    (t.namesIn path).flatMap fun name =>
      listAt t fuel (.anywhere :: dropAnywhere rest) (childPath path name)
  | fuel + 1, .name tokens :: rest, path =>
    let goOn (path : String) : List String :=
      if rest.isEmpty then [path] else listUnder t fuel rest path
    match literal? tokens with
    | some name =>
      let next := childPath path name
      let isThere := if name == "." || name == ".." then t.isDirectory path else t.isThere next
      if isThere then goOn next else []
    | none =>
      let inside := (t.namesIn path).flatMap fun name =>
        listAt t fuel (.name tokens :: rest) (childPath path name)
      let dots := [".", ".."].filter fun dots =>
        tokens.head? == some (.char '.') && t.isDirectory path && matchesName tokens dots.toList
      inside ++ dots.flatMap fun dots => goOn (Path.join path dots)

/-- The paths at a path and under it that segments describe, the first of which is for its name. -/
def listAt (t : FileTree) : Nat → List Segment → String → List String
  | 0, _, _ => []
  | _, [], _ => []
  | fuel + 1, .anywhere :: rest, path =>
    let rest := dropAnywhere rest
    let here := if rest.isEmpty then
        if t.isDirectory path then [path] else []
      else listAt t fuel rest path
    if t.isDirectory path then listUnder t fuel (.anywhere :: rest) path ++ here else here
  | fuel + 1, .name tokens :: rest, path =>
    if matchesName tokens ((Path.fileName? path).getD "").toList then
      if rest.isEmpty then [path] else listUnder t fuel rest path
    else []

end

/-- The files of a tree that a pattern lists. Every step takes a segment or goes one directory down,
    which bounds the fuel. -/
def PathPattern.files (p : PathPattern) (t : FileTree) : List String :=
  let fuel := 2 * (p.segments.length + 1) * (t.directories.entries.length + 3)
  let found := listUnder t fuel p.segments (if p.absolute then "/" else ".")
  if p.directories then [] else found.filter t.isFile

end BoardLint.Glob
