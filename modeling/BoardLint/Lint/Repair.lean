import BoardLint.Diff.Unified
import BoardLint.Lint.Run

set_option autoImplicit false

/-! # Repairing files

Makes the repairs of a run and writes the repaired dashboards to their files, or only shows what
would change. -/

namespace BoardLint

/-- What becomes of repaired dashboards. -/
inductive RepairMode where
  | write
  | dryRun
  | diff
deriving DecidableEq, Repr

/-- The outcome of repairing files. -/
structure RepairReport where
  /-- How many files were changed, or would be. -/
  modified : Nat
  /-- How many repairs were made. -/
  applied : Nat
  errors : List String
  /-- The diffs by path, in order of the paths. -/
  diffs : List (String × String)
deriving DecidableEq, Repr

namespace RepairReport

/-- The outcome before anything was done. -/
def empty : RepairReport := ⟨0, 0, [], []⟩

/-- The outcome with a diff, which takes the place of an earlier one of the same path. -/
def addDiff (r : RepairReport) (path diff : String) : RepairReport :=
  let others := r.diffs.filter fun (p, _) => Path.parts p != Path.parts path
  let same := (r.diffs.find? fun (p, _) => Path.parts p == Path.parts path).map (·.1)
  { r with diffs := (others ++ [(same.getD path, diff)]).mergeSort fun a b => Path.le a.1 b.1 }

/-- All diffs as one text. -/
def joined (r : RepairReport) : String := String.join (r.diffs.map (·.2))

end RepairReport

namespace Repair

/-- What a mode does with the new text of a file. -/
def persist (mode : RepairMode) (t : FileTree) (path text : String) (r : RepairReport) :
    Except FileError (FileTree × RepairReport) :=
  match mode with
  | .write => (t.write path (.text text)).map fun t => (t, r)
  | .dryRun => .ok (t, r)
  | .diff => do
    let old ← t.readText path
    let diff := Diff.unified path old text
    .ok (t, if diff.isEmpty then r else r.addDiff path diff)

/-- Persists a dashboard with a number of repairs. -/
def persistDashboard (mode : RepairMode) (t : FileTree) (r : RepairReport) (d : Dashboard)
    (count : Nat) : FileTree × RepairReport :=
  let r := { r with applied := r.applied + count }
  match d.source with
  | none =>
    (t, { r with errors := r.errors ++ ["dashboard '" ++ d.title ++ "' has no source file"] })
  | some path =>
    match persist mode t path (d.toText ++ "\n") r with
    | .ok (t, r) => (t, { r with modified := r.modified + 1 })
    | .error e => (t, { r with errors := r.errors ++ [path ++ ": " ++ e.message] })

/-- Persists the dashboard at a position with a number of repairs. -/
def persistAt (mode : RepairMode) (ds : List Dashboard) (done : FileTree × RepairReport)
    (repairs : Nat × Nat) : FileTree × RepairReport :=
  match ds[repairs.1]? with
  | some d => persistDashboard mode done.1 done.2 d repairs.2
  | none => done

/-- Makes all pending repairs of a run and persists the dashboards that were repaired. -/
def apply (mode : RepairMode) (t : FileTree) (run : LintRun) :
    FileTree × LintRun × RepairReport :=
  let (run, counts) := run.autoFix
  let (t, r) := counts.foldl (persistAt mode run.dashboards) (t, RepairReport.empty)
  (t, run, r)

end Repair

end BoardLint
