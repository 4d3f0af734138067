import BoardLint.Dashboard.Document
import BoardLint.Finding.Collection
import BoardLint.Lint.Discovery
import BoardLint.Rule.Basic
import BoardLint.Settings.Document

set_option autoImplicit false

/-! # Runs

A run finds the files, loads the dashboards, checks them by rules and applies the overrides of the
project and of their directories. A file that cannot be loaded is a finding of its own. -/

namespace BoardLint

/-- Why a dashboard cannot be loaded. -/
inductive LoadError where
  | file (cause : FileError)
  | document (cause : Dashboard.ReadError)
deriving DecidableEq, Repr

/-- The message of an error. -/
def LoadError.message : LoadError → String
  | .file cause => "IO error: " ++ cause.message
  | .document .malformed => "JSON parse error: " ++ Dashboard.ReadError.malformed.detail
  | .document cause => "Invalid dashboard: " ++ cause.detail

/-- A file that cannot be loaded. -/
structure LoadFailure where
  path : String
  error : LoadError
deriving DecidableEq, Repr

/-- What a run made. -/
structure LintRun where
  dashboards : List Dashboard
  failures : List LoadFailure
  findings : Findings

namespace LintRun

/-- A run that made nothing. -/
def empty : LintRun := ⟨[], [], .empty⟩

/-- The rule of the findings on files that cannot be loaded. -/
def loadRule : String := "dashboard-load"

/-! ## Loading -/

/-- Loads the dashboard of a file. -/
def load (t : FileTree) (path : String) : Except LoadFailure Dashboard :=
  let failed (error : LoadError) : Except LoadFailure Dashboard := .error ⟨path, error⟩
  match t.read path with
  | .error e => failed (.file e)
  | .ok .binary => failed (.document .malformed)
  | .ok (.text s) =>
    match Dashboard.ofText s with
    | .error e => failed (.document e)
    | .ok d => .ok { d with unit := Path.parent path, source := some path }

/-- The dashboards that could be loaded. -/
def loaded (results : List (Except LoadFailure Dashboard)) : List Dashboard :=
  results.filterMap Except.toOption

/-- The files that could not be loaded. -/
def failed (results : List (Except LoadFailure Dashboard)) : List LoadFailure :=
  results.filterMap fun
    | .ok _ => none
    | .error f => some f

/-! ## Overrides -/

/-- The overrides in a directory. A file that is missing or malformed has none. -/
def unitOverrides (t : FileTree) (directory : String) : OverrideFile :=
  match t.readText (Path.join directory ".lint") with
  | .ok text => (OverrideFile.ofYaml? text).getD .empty
  | .error _ => .empty

/-- The overrides of the project and of the directories of dashboards. -/
def cascade (t : FileTree) (s : Settings) (ds : List Dashboard) : Cascade :=
  ds.foldl
    (fun c d => match d.source with
      | some path => c.addNewUnit d.unit (unitOverrides t (Path.parent path))
      | none => c)
    s.cascade

/-! ## Linting -/

/-- The findings of rules on dashboards under overrides. -/
def lint (rules : RuleSet) (ds : List Dashboard) (c : Cascade) : Findings :=
  (Findings.ofList (RuleSet.lintAll rules ds)).configure c

/-- The finding on a file that cannot be loaded. -/
def failureFinding (index : Nat) (f : LoadFailure) : Finding :=
  .new loadRule "Dashboard files must be valid JSON dashboards"
    ⟨index, f.path, Path.parent f.path⟩
    (.error ("could not be loaded: " ++ f.error.message))

/-- Finds, loads and checks dashboards. -/
def ofPaths (t : FileTree) (s : Settings) (rules : RuleSet) (paths : List String) :
    Except DiscoveryError LintRun := do
  let files ← Discovery.files t s.files paths
  let results := files.map (load t)
  let ds := loaded results
  let failures := failed results
  let findings := lint rules ds (cascade t s ds)
  let indexed := failures.zipIdx ds.length
  .ok ⟨ds, failures, indexed.foldl (fun fs (f, i) => fs.add (failureFinding i f)) findings⟩

/-! ## Repairs -/

/-- Makes the pending repairs of dashboards from a position on. Returns the findings, the dashboards
    and, for each dashboard with repairs, how many were made. -/
def repairFrom (fs : Findings) (index : Nat) :
    List Dashboard → Findings × List Dashboard × List (Nat × Nat)
  | [] => (fs, [], [])
  | d :: rest =>
    let (fs, d, count) := fs.autoFix index d
    let (fs, rest, counts) := repairFrom fs (index + 1) rest
    (fs, d :: rest, if count == 0 then counts else (index, count) :: counts)

/-- Makes all pending repairs. -/
def autoFix (run : LintRun) : LintRun × List (Nat × Nat) :=
  let (findings, dashboards, counts) := repairFrom run.findings 0 run.dashboards
  ({ run with findings := findings, dashboards := dashboards }, counts)

end LintRun

end BoardLint
