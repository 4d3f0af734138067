import BoardLint.Diff.Edit
import BoardLint.Text.Basic

set_option autoImplicit false

/-! # Unified diffs

A unified diff shows the changes between two texts in hunks, with unchanged lines around them. -/

namespace BoardLint.Diff

/-- How many unchanged lines are shown around a change. -/
def contextLines : Nat := 3

/-- A stretch of an edit script. -/
structure Span where
  start : Nat
  stop : Nat
deriving DecidableEq, Repr

/-- The stretch around a change. -/
def Span.around (count i : Nat) : Span := ⟨i - contextLines, min (i + contextLines + 1) count⟩

/-- Appends a stretch, joined with the last one when they touch. -/
def addSpan (spans : List Span) (s : Span) : List Span :=
  match spans.getLast? with
  | some last =>
    if s.start ≤ last.stop then spans.dropLast ++ [⟨last.start, s.stop⟩] else spans ++ [s]
  | none => [s]

/-- The stretches of an edit script that are shown. -/
def spans (script : List Edit) : List Span :=
  let changed := script.zipIdx.filterMap fun (e, i) => if e.isChange then some i else none
  changed.foldl (fun done i => addSpan done (Span.around script.length i)) []

/-- A stretch of edits and the numbers of its first lines in both texts. -/
structure Hunk where
  oldStart : Nat
  newStart : Nat
  edits : List Edit
deriving DecidableEq, Repr

namespace Hunk

/-- How many lines of the old text a hunk covers. -/
def oldLength (h : Hunk) : Nat := (h.edits.filterMap Edit.old?).length

/-- How many lines of the new text a hunk covers. -/
def newLength (h : Hunk) : Nat := (h.edits.filterMap Edit.new?).length

/-- The hunk of a stretch. -/
def ofSpan (script : List Edit) (s : Span) : Hunk :=
  let before := script.take s.start
  ⟨1 + (before.filterMap Edit.old?).length, 1 + (before.filterMap Edit.new?).length,
    (script.take s.stop).drop s.start⟩

/-- A hunk as text. -/
def text (h : Hunk) : String :=
  "@@ -" ++ toString h.oldStart ++ "," ++ toString h.oldLength ++
    " +" ++ toString h.newStart ++ "," ++ toString h.newLength ++ " @@\n" ++
    String.join (h.edits.map Edit.text)

end Hunk

/-- The hunks between two lists of lines. -/
def hunks (old new : List String) : List Hunk :=
  let script := edits old new
  (spans script).map (Hunk.ofSpan script)

/-- The unified diff of two texts of a file, empty when their lines are the same. -/
def unified (path old new : String) : String :=
  match hunks (Text.lines old) (Text.lines new) with
  | [] => ""
  | hs => "--- a/" ++ path ++ "\n+++ b/" ++ path ++ "\n" ++ String.join (hs.map Hunk.text)

end BoardLint.Diff
