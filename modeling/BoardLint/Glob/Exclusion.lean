import BoardLint.Text.Basic

set_option autoImplicit false

/-! # Patterns that exclude files

A pattern such as `**/vendor/**` is matched against a whole path, byte by byte. A star and a
question mark also stand for slashes here, and braces enclose alternatives. -/

namespace BoardLint.Glob

/-- An element of a pattern for paths. -/
inductive PathToken where
  | byte (b : UInt8)
  | anyByte
  | anyBytes
  /-- Any directories at the beginning, `**/`. -/
  | leading
  /-- Everything in a directory, `/**` at the end. -/
  | trailing
  /-- A slash, or any directories between two, `/**/`. -/
  | between
  | oneOf (negated : Bool) (ranges : List (UInt8 × UInt8))
  | either (branches : List (List PathToken))
deriving Repr

/-! ## Reading -/

/-- The bytes of a character. -/
def bytesOf (c : Char) : List UInt8 := (String.singleton c).toUTF8.toList

/-- A range of characters as ranges of bytes: the bytes of its ends, where the last byte of the
    first and the first byte of the second are joined. -/
def byteRanges (low high : Char) : List (UInt8 × UInt8) :=
  let single (b : UInt8) : UInt8 × UInt8 := (b, b)
  if low == high then (bytesOf low).map single
  else
    let front := bytesOf low
    let back := bytesOf high
    front.dropLast.map single ++ [(front.getLast?.getD 0, back.headD 0)] ++
      (back.drop 1).map single

/-- What is known while a set is read. -/
structure SetState where
  /-- The ranges so far, the latest first. -/
  ranges : List (Char × Char)
  first : Bool
  /-- Whether a hyphen waits for the end of a range. -/
  open' : Bool

/-- Reads a set after its opening bracket up to its closing one. -/
def setRanges? : SetState → List Char → Option (List (Char × Char) × List Char)
  | _, [] => none
  | s, c :: rest =>
    let extend : Option SetState :=
      match s.ranges with
      | (low, _) :: more => if c < low then none else some ⟨(low, c) :: more, false, false⟩
      | [] => none
    if c == ']' && !s.first then
      let ranges := if s.open' then ('-', '-') :: s.ranges else s.ranges
      some (ranges.reverse, rest)
    else if s.first then setRanges? ⟨[(c, c)], false, false⟩ rest
    else if s.open' then
      match extend with
      | some s => setRanges? s rest
      | none => none
    else if c == '-' then setRanges? { s with open' := true } rest
    else setRanges? ⟨(c, c) :: s.ranges, false, false⟩ rest

/-- A set after its opening bracket, and the rest. -/
def pathSet? (text : List Char) : Option (PathToken × List Char) := do
  let (negated, body) := match text with
    | '!' :: rest => (true, rest)
    | '^' :: rest => (true, rest)
    | _ => (false, text)
  let (ranges, rest) ← setRanges? ⟨[], true, false⟩ body
  some (.oneOf negated (ranges.flatMap fun (low, high) => byteRanges low high), rest)

/-- The branches of groups that are being read: the branch at the end of the innermost group, its
    earlier branches, and the groups around it, all with the latest first. -/
structure Branches where
  current : List PathToken
  earlier : List (List PathToken)
  outer : List (List PathToken × List (List PathToken))

namespace Branches

/-- Adds a token to the innermost branch. -/
def push (b : Branches) (t : PathToken) : Branches := { b with current := t :: b.current }

/-- Opens a group. -/
def enter (b : Branches) : Branches := ⟨[], [], (b.current, b.earlier) :: b.outer⟩

/-- Begins the next branch of the innermost group. -/
def next (b : Branches) : Branches := ⟨[], b.current.reverse :: b.earlier, b.outer⟩

/-- Closes the innermost group. -/
def leave? (b : Branches) : Option Branches :=
  match b.outer with
  | [] => none
  | (current, earlier) :: outer =>
    let group := (b.current.reverse :: b.earlier).reverse
    some ⟨.either group :: current, earlier, outer⟩

/-- Whether a group is open. -/
def isOpen (b : Branches) : Bool := !b.outer.isEmpty

end Branches

/-- Whether two stars after a character and before the rest stand for directories inside a pattern,
    and whether they end it. -/
def stars? (inGroup : Bool) (before : Option Char) (rest : List Char) : Option Bool :=
  let begins := before == some '/' || (inGroup && (before == some ',' || before == some '\x7b'))
  if !begins then none
  else
    match rest with
    | [] => some true
    | '/' :: _ => some false
    | c :: _ => if inGroup && (c == ',' || c == '\x7d') then some true else none

/-- Puts the token of two stars in place of the slash before them. -/
def putStars (b : Branches) (ends : Bool) : Branches :=
  match b.current with
  | .leading :: _ => b
  | .trailing :: _ => b
  | _ :: more => { b with current := (if ends then .trailing else .between) :: more }
  | [] => b

/-- Reads a pattern. `before` is the character in front of the rest. -/
def readTokens? : Nat → Option Char → Branches → List Char → Option (List PathToken)
  | _, _, b, [] => if b.isOpen then none else some b.current.reverse
  | 0, _, _, _ :: _ => none
  | fuel + 1, before, b, c :: rest =>
    if c == '?' then readTokens? fuel (some c) (b.push .anyByte) rest
    else if c == '*' then
      match rest with
      | '*' :: rest =>
        if b.current.isEmpty then
          match rest with
          | [] => readTokens? fuel (some '*') (b.push .leading) []
          | '/' :: rest => readTokens? fuel (some '/') (b.push .leading) rest
          | _ => readTokens? fuel (some '*') ((b.push .anyBytes).push .anyBytes) rest
        else
          match stars? b.isOpen before rest with
          | none => readTokens? fuel (some '*') ((b.push .anyBytes).push .anyBytes) rest
          | some true => readTokens? fuel (some '*') (putStars b true) rest
          | some false => readTokens? fuel (some '/') (putStars b false) (rest.drop 1)
      | _ => readTokens? fuel (some c) (b.push .anyBytes) rest
    else if c == '[' then do
      let (token, rest) ← pathSet? rest
      readTokens? fuel (some ']') (b.push token) rest
    else if c == '\x7b' then readTokens? fuel (some c) b.enter rest
    else if c == '\x7d' then do
      let b ← b.leave?
      readTokens? fuel (some c) b rest
    else if c == ',' && b.isOpen then readTokens? fuel (some c) b.next rest
    else if c == '\\' then
      match rest with
      | [] => none
      | d :: rest =>
        readTokens? fuel (some d) ((bytesOf d).foldl (fun b x => b.push (.byte x)) b) rest
    else readTokens? fuel (some c) ((bytesOf c).foldl (fun b x => b.push (.byte x)) b) rest

/-- A pattern that excludes files. -/
structure Exclusion where
  tokens : List PathToken
deriving Repr

/-- The pattern of a text. -/
def Exclusion.parse? (text : String) : Option Exclusion :=
  (readTokens? text.length none ⟨[], [], []⟩ text.toList).map Exclusion.mk

/-! ## Matching -/

/-- The slash. -/
def slash : UInt8 := 0x2F

/-- What is left after each slash. -/
def afterSlashes (path : List UInt8) : List (List UInt8) :=
  (Text.suffixes path).filterMap fun
    | b :: rest => if b == slash then some rest else none
    | [] => none

/-- The rests without repetition. Two rests of one path are equal if their lengths are. -/
def distinct (rests : List (List UInt8)) : List (List UInt8) :=
  (rests.mergeSort fun a b => b.length ≤ a.length).eraseReps

mutual

/-- Whether a token is a group of branches without any text. -/
def isVoid : PathToken → Bool
  | .either branches => areVoid branches
  | _ => false

/-- Whether all branches of a group are without any text. -/
def areVoid : List (List PathToken) → Bool
  | [] => true
  | branch :: rest => allVoid branch && areVoid rest

/-- Whether all tokens of a branch are without any text. -/
def allVoid : List PathToken → Bool
  | [] => true
  | t :: rest => isVoid t && allVoid rest

end

/-! ## Nesting -/

/-- How many parts in a row a token stands for. -/
def PathToken.parts : PathToken → Nat
  | .trailing => 2
  | .either branches => if areVoid branches then 0 else 1
  | _ => 1

mutual

/-- How deep the parts of a token are nested: a group, its choice, a row of parts and a repetition
    count one each. -/
def PathToken.depth : PathToken → Nat
  | .byte _ => 0
  | .anyByte => 0
  | .anyBytes => 1
  | .leading => 4
  | .trailing => 1
  | .between => 4
  | .oneOf _ ranges => if ranges.length ≤ 1 then 1 else 2
  | .either branches =>
    let choice := if (branches.filter fun b => !allVoid b).length ≤ 1 then 0 else 1
    if areVoid branches then 0 else 1 + choice + depthOfBranches branches

/-- How deep the parts of any branch are nested. -/
def depthOfBranches : List (List PathToken) → Nat
  | [] => 0
  | branch :: more =>
    let row := if (branch.map PathToken.parts).sum ≤ 1 then 0 else 1
    max (row + depthOfAll branch) (depthOfBranches more)

/-- How deep the parts of any token are nested. -/
def depthOfAll : List PathToken → Nat
  | [] => 0
  | t :: rest => max t.depth (depthOfAll rest)

end

/-- The most that the parts of a pattern may be nested. -/
def maxDepth : Nat := 250

/-- Whether a pattern is nested no deeper than a search for it allows. The whole pattern is a row of
    parts between anchors. -/
def Exclusion.isSearchable (e : Exclusion) : Bool := 1 + depthOfAll e.tokens ≤ maxDepth

/-! ## Rests -/

mutual

/-- What a token can leave of a path. -/
def restsOf (path : List UInt8) : PathToken → List (List UInt8)
  | .byte b =>
    match path with
    | c :: rest => if b == c then [rest] else []
    | [] => []
  | .anyByte => if path.isEmpty then [] else [path.drop 1]
  | .anyBytes => Text.suffixes path
  | .leading => path :: afterSlashes path
  | .trailing => if path.head? == some slash then Text.suffixes (path.drop 1) else []
  | .between => if path.head? == some slash then path.drop 1 :: afterSlashes (path.drop 1) else []
  | .oneOf negated ranges =>
    match path with
    | c :: rest =>
      if (ranges.any fun (low, high) => low ≤ c && c ≤ high) != negated then [rest] else []
    | [] => []
  | .either branches => if areVoid branches then [path] else restsOfBranches path branches

/-- What the branches of a group can leave of a path; those without any text do not count. -/
def restsOfBranches (path : List UInt8) : List (List PathToken) → List (List UInt8)
  | [] => []
  | branch :: more =>
    (if allVoid branch then [] else restsOfAll [path] branch) ++ restsOfBranches path more

/-- What several tokens can leave of several paths. -/
def restsOfAll (paths : List (List UInt8)) : List PathToken → List (List UInt8)
  | [] => paths
  | t :: rest => restsOfAll (distinct (paths.flatMap fun path => restsOf path t)) rest

end

/-- Whether a pattern excludes a path. Two stars alone exclude every path. -/
def Exclusion.excludes (e : Exclusion) (path : String) : Bool :=
  match e.tokens with
  | [.leading] => true
  | tokens => (restsOfAll [path.toUTF8.toList] tokens).any (·.isEmpty)

end BoardLint.Glob
