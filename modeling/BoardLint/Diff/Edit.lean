set_option autoImplicit false

/-! # Edit scripts

How one list of lines becomes another: lines are kept, removed and added. Of all scripts, one that
keeps as many lines as possible is made, unless the lists are too long for that. -/

namespace BoardLint.Diff

/-- What becomes of a line. -/
inductive Edit where
  | keep (line : String)
  | remove (line : String)
  | add (line : String)
deriving DecidableEq, Repr

namespace Edit

/-- The line of the first list that an edit is about. -/
def old? : Edit → Option String
  | .keep line => some line
  | .remove line => some line
  | .add _ => none

/-- The line of the second list that an edit is about. -/
def new? : Edit → Option String
  | .keep line => some line
  | .remove _ => none
  | .add line => some line

/-- Whether an edit changes something. -/
def isChange : Edit → Bool
  | .keep _ => false
  | _ => true

/-- An edit as a line of a diff. -/
def text : Edit → String
  | .keep line => " " ++ line ++ "\n"
  | .remove line => "-" ++ line ++ "\n"
  | .add line => "+" ++ line ++ "\n"

end Edit

/-! ## The best script -/

/-- A script and how many lines it keeps. -/
structure Script where
  kept : Nat
  edits : List Edit
deriving DecidableEq, Repr

namespace Script

/-- The script without edits. -/
def empty : Script := ⟨0, []⟩

/-- The script for lists that begin with `a` and `b`, from the scripts for their tails: for both,
    for the first list's tail, and for the second's. A line is removed rather than added when both
    keep as many. -/
def extend (a b : String) (both first second : Script) : Script :=
  if a == b then ⟨both.kept + 1, .keep a :: both.edits⟩
  else if first.kept ≥ second.kept then ⟨first.kept, .remove a :: first.edits⟩
  else ⟨second.kept, .add b :: second.edits⟩

/-- The scripts from the empty list to every suffix of a list. -/
def additions : List String → List Script
  | [] => [empty]
  | b :: bs =>
    let rest := additions bs
    ⟨0, .add b :: (rest.headD empty).edits⟩ :: rest

/-- The scripts from a list that begins with `a` to every suffix of another, from those of its
    tail. -/
def row (a : String) : List String → List Script → List Script
  | [], below => [⟨0, .remove a :: (below.headD empty).edits⟩]
  | b :: bs, below =>
    let rest := row a bs below.tail
    extend a b (below.tail.headD empty) (below.headD empty) (rest.headD empty) :: rest

/-- The scripts from a list to every suffix of another, the whole of it first. -/
def toSuffixes (old new : List String) : List Script :=
  old.foldr (fun a below => row a new below) (additions new)

/-- A script that keeps as many lines as possible. -/
def best (old new : List String) : Script := (toSuffixes old new).headD empty

end Script

/-! ## Whole scripts -/

/-- How many lines two lists have in common at the beginning. -/
def commonLength : List String → List String → Nat
  | a :: as, b :: bs => if a == b then commonLength as bs + 1 else 0
  | _, _ => 0

/-- The greatest number of pairs of lines that are compared. -/
def maxCells : Nat := 4000000

/-- The edits between lists without common lines at either end. Lists that are too long are replaced
    as a whole. -/
def middleEdits (old new : List String) : List Edit :=
  if old.length * new.length > maxCells then old.map .remove ++ new.map .add
  else (Script.best old new).edits

/-- The edits that turn a list of lines into another. Common lines at both ends are kept. -/
def edits (old new : List String) : List Edit :=
  let front := commonLength old new
  let oldRest := old.drop front
  let newRest := new.drop front
  let back := commonLength oldRest.reverse newRest.reverse
  (old.take front).map .keep ++
    middleEdits (oldRest.take (oldRest.length - back)) (newRest.take (newRest.length - back)) ++
    (oldRest.drop (oldRest.length - back)).map .keep

end BoardLint.Diff
