import BoardLint.Override.Cascade

set_option autoImplicit false

/-! # The findings of a run

Findings in the order in which they were made, and the overrides that hold for them. Every finding
has the effective diagnostic that the overrides give it. -/

namespace BoardLint

/-- How many findings there are of each severity, and how many can be repaired. -/
structure Summary where
  successes : Nat
  excluded : Nat
  warnings : Nat
  errors : Nat
  fixed : Nat
  fixable : Nat
deriving DecidableEq, Repr

/-- The findings of a run. -/
structure Findings where
  list : List Finding
  overrides : Option Cascade

namespace Findings

/-- No findings. -/
def empty : Findings := ⟨[], none⟩

/-- The findings with one more, to which the overrides apply. -/
def add (fs : Findings) (f : Finding) : Findings :=
  let f := match fs.overrides with
    | some c => c.apply f
    | none => f
  { fs with list := fs.list ++ [f] }

/-- New findings without overrides. -/
def ofList (list : List Finding) : Findings := ⟨list, none⟩

/-- The findings under new overrides. -/
def configure (fs : Findings) (c : Cascade) : Findings := ⟨fs.list.map c.apply, some c⟩

/-! ## Views -/

/-- The greatest effective severity. -/
def maximum (fs : Findings) : Severity := Severity.maximum (fs.list.map Finding.severity)

/-- The findings by rule, those of each rule in order of the titles of their dashboards. -/
def byRule (fs : Findings) : List (String × List Finding) :=
  (groupBy (·.rule) fs.list).entries.map fun (rule, group) =>
    (rule, group.mergeSort fun a b => a.dashboard.title ≤ b.dashboard.title)

/-- The findings by the directory of their dashboards. -/
def byUnit (fs : Findings) : List (String × List Finding) :=
  (groupBy (·.dashboard.unit) fs.list).entries

/-- How many repairs are to be made. -/
def pendingCount (fs : Findings) : Nat := fs.list.countP Finding.isPending

/-- How many findings have one of the given severities. -/
def countOf (fs : Findings) (severities : List Severity) : Nat :=
  fs.list.countP fun f => severities.contains f.severity

/-- How many findings there are of each severity. -/
def summary (fs : Findings) : Summary where
  successes := fs.countOf [.success, .quiet]
  excluded := fs.countOf [.exclude]
  warnings := fs.countOf [.warning]
  errors := fs.countOf [.error]
  fixed := fs.countOf [.fixed]
  fixable := fs.pendingCount

/-! ## Repairs -/

/-- The outcome of repairs on a dashboard. -/
structure Repaired where
  list : List Finding
  dashboard : Dashboard
  count : Nat

/-- Makes the pending repair of a finding; the flag tells whether it was made. -/
def repairOne (f : Finding) (d : Dashboard) : Finding × Dashboard × Bool :=
  match if f.isPending then f.raw.fix.bind fun fix => f.repair? fix d else none with
  | some d => (f.repaired, d, true)
  | none => (f, d, false)

/-- Makes the pending repairs among findings on the dashboard at a position, from the front. -/
def repairAll (index : Nat) (d : Dashboard) : List Finding → Repaired
  | [] => ⟨[], d, 0⟩
  | f :: rest =>
    if f.dashboard.index == index then
      let (f, d, made) := repairOne f d
      let after := repairAll index d rest
      ⟨f :: after.list, after.dashboard, if made then after.count + 1 else after.count⟩
    else
      let after := repairAll index d rest
      { after with list := f :: after.list }

/-- Makes the pending repairs of the dashboard at a position. Returns the findings, the dashboard
    and how many repairs were made. -/
def autoFix (fs : Findings) (index : Nat) (d : Dashboard) : Findings × Dashboard × Nat :=
  let after := repairAll index d fs.list
  ({ fs with list := after.list }, after.dashboard, after.count)

end Findings

end BoardLint
