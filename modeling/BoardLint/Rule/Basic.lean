import BoardLint.Finding.Basic
import BoardLint.Settings.Basic

set_option autoImplicit false

/-! # Rules

A rule checks one kind of part of a dashboard. Running rules over a dashboard gives the findings in
a fixed order: those on the dashboard, those on each panel and its targets, and those on its
template variables. A rule that reports nothing about a part has passed there, and that is a finding
too. -/

namespace BoardLint

namespace Rule

/-- How settled a rule is. -/
inductive Stability where
  | stable
  | experimental
  /-- The rule takes part only when it is asked for. -/
  | preview
  | deprecated
deriving DecidableEq, Repr, Inhabited

/-- The name of a stability. -/
def Stability.name : Stability → String
  | .stable => "stable"
  | .experimental => "experimental"
  | .preview => "preview"
  | .deprecated => "deprecated"

/-- What a rule checks, and how. -/
inductive Check where
  | dashboard (check : Dashboard → List Diagnostic)
  | panel (check : Dashboard → Panel → List Diagnostic)
  | target (check : Dashboard → Panel → Target → List Diagnostic)
  | template (check : Dashboard → Template → List Diagnostic)

/-- The kind of part that is checked. -/
def Check.kind : Check → String
  | .dashboard _ => "dashboard"
  | .panel _ => "panel"
  | .target _ => "target"
  | .template _ => "template"

end Rule

/-- A rule. -/
structure Rule where
  id : String
  /-- One line, the heading of the rule in reports. -/
  description : String
  stability : Rule.Stability
  /-- Whether its findings can be repaired. -/
  fixable : Bool
  /-- Why the rule is there. -/
  rationale : Option String
  check : Rule.Check

namespace Rule

/-- A settled rule whose findings cannot be repaired. -/
def new (id description : String) (check : Check) : Rule :=
  ⟨id, description, .stable, false, none, check⟩

/-- The outcomes of a check: what it reports, or that it passed. -/
def outcomes (reported : List Diagnostic) : List Diagnostic :=
  if reported.isEmpty then [.success] else reported

/-! ## Findings -/

section Findings

variable (place : DashboardPlace) (d : Dashboard) (r : Rule)

/-- The finding of a diagnostic of a rule. -/
def finding (raw : Diagnostic) : Finding := Finding.new r.id r.description place raw

/-- The findings on a dashboard. -/
def onDashboard : List Finding :=
  match r.check with
  | .dashboard check => (outcomes (check d)).map (r.finding place)
  | _ => []

/-- The findings on the panel at a position. -/
def onPanel (p : Panel) (i : Nat) : List Finding :=
  match r.check with
  | .panel check => (outcomes (check d p)).map fun raw => (r.finding place raw).atPanel i p
  | _ => []

/-- The findings on a target of the panel at a position. -/
def onTarget (p : Panel) (i : Nat) (t : Target) : List Finding :=
  match r.check with
  | .target check =>
    (outcomes (check d p t)).map fun raw => ((r.finding place raw).atPanel i p).atTarget t.idx
  | _ => []

/-- The findings on the template variable at a position. -/
def onTemplate (t : Template) (i : Nat) : List Finding :=
  match r.check with
  | .template check => (outcomes (check d t)).map fun raw => (r.finding place raw).atTemplate i t
  | _ => []

end Findings

end Rule

/-- Rules in the order in which they are reported. -/
abbrev RuleSet := List Rule

namespace RuleSet

/-- The first rule with an identifier. -/
def get? (rules : RuleSet) (id : String) : Option Rule := rules.find? fun r => r.id == id

/-- The rules that the settings let take part. A preview rule has to be enabled by name, unless all
    previews are. -/
def filtered (rules : RuleSet) (s : RuleSettings) : RuleSet :=
  rules.filter fun r =>
    s.isEnabled r.id && (r.stability != .preview || s.preview || s.enabled.contains r.id)

/-- The findings on a panel and its targets. -/
def lintPanel (rules : RuleSet) (place : DashboardPlace) (d : Dashboard) (p : Panel) (i : Nat) :
    List Finding :=
  rules.flatMap (fun r => r.onPanel place d p i) ++
    p.targets.flatMap fun t => rules.flatMap fun r => r.onTarget place d p i t

/-- The findings on the dashboard at a position. -/
def lintDashboard (rules : RuleSet) (index : Nat) (d : Dashboard) : List Finding :=
  let place : DashboardPlace := ⟨index, d.title, d.unit⟩
  rules.flatMap (fun r => r.onDashboard place d) ++
    (d.allPanels.zipIdx.flatMap fun (p, i) => lintPanel rules place d p i) ++
    d.templates.zipIdx.flatMap fun (t, i) => rules.flatMap fun r => r.onTemplate place d t i

/-- The findings on several dashboards, in order. -/
def lintAll (rules : RuleSet) (ds : List Dashboard) : List Finding :=
  ds.zipIdx.flatMap fun (d, i) => lintDashboard rules i d

end RuleSet

end BoardLint
