import BoardLint.Finding.Diagnostic

set_option autoImplicit false

/-! # Findings

A diagnostic together with the rule that made it and the place where it was found. The raw
diagnostic is the one of the rule; the effective one is what overrides and repairs made of it. -/

namespace BoardLint

/-- The dashboard of a finding, by its position in the run. -/
structure DashboardPlace where
  index : Nat
  title : String
  unit : String
deriving DecidableEq, Repr

/-- The panel of a finding, by its position among all panels of the dashboard. -/
structure PanelPlace where
  index : Nat
  id : Option Int
  title : String
deriving DecidableEq, Repr

/-- The template variable of a finding, by its position in the dashboard. -/
structure TemplatePlace where
  index : Nat
  name : String
deriving DecidableEq, Repr

/-- A diagnostic and where it was found. -/
structure Finding where
  rule : String
  description : String
  raw : Diagnostic
  effective : Diagnostic
  /-- Whether the repair was made. -/
  fixed : Bool
  dashboard : DashboardPlace
  panel : Option PanelPlace
  /-- The position of the target in its panel. -/
  target : Option Nat
  template : Option TemplatePlace

namespace Finding

/-- A new finding, whose effective diagnostic is the raw one. -/
def new (rule description : String) (place : DashboardPlace) (raw : Diagnostic) : Finding :=
  ⟨rule, description, raw, raw, false, place, none, none, none⟩

/-- The finding at a panel. -/
def atPanel (f : Finding) (index : Nat) (p : Panel) : Finding :=
  { f with panel := some ⟨index, p.id, p.title⟩ }

/-- The finding at a target of its panel. -/
def atTarget (f : Finding) (index : Nat) : Finding := { f with target := some index }

/-- The finding at a template variable. -/
def atTemplate (f : Finding) (index : Nat) (t : Template) : Finding :=
  { f with template := some ⟨index, t.name⟩ }

/-- The effective severity. -/
def severity (f : Finding) : Severity := f.effective.severity

/-- Whether there is a repair that was not made yet. -/
def isFixable (f : Finding) : Bool := f.raw.fix.isSome && !f.fixed

/-- Whether the repair is to be made. -/
def isPending (f : Finding) : Bool := f.isFixable && f.severity.isActionable

/-- Where the finding is, in words. -/
def location (f : Finding) : String :=
  let panel := (f.panel.map fun p => ", panel '" ++ p.title ++ "'").getD ""
  let target := (f.target.map fun i => ", target idx '" ++ toString i ++ "'").getD ""
  let template := (f.template.map fun t => ", template '" ++ t.name ++ "'").getD ""
  "Dashboard '" ++ f.dashboard.title ++ "'" ++ panel ++ target ++ template

/-- The effective message after the location. -/
def message (f : Finding) : String := f.location ++ " " ++ f.effective.message

/-! ## Repairs -/

/-- Makes a repair at the place of a finding; none if the place does not exist. -/
def repair? (f : Finding) (fix : Fix) (d : Dashboard) : Option Dashboard :=
  match fix with
  | .dashboard apply => some (apply d)
  | .panel apply => do
    let place ← f.panel
    let (d, _) ← d.updatePanel? place.index fun p => (apply p, ())
    some d
  | .target apply => do
    let place ← f.panel
    let i ← f.target
    let (d, found) ← d.updatePanel? place.index fun p =>
      match p.targets[i]? with
      | some t => ({ p with targets := p.targets.set i (apply d.templates t) }, true)
      | none => (p, false)
    if found then some d else none
  | .template apply => do
    let place ← f.template
    let t ← d.templates[place.index]?
    some { d with templating :=
      { d.templating with list := d.templates.set place.index (apply t) } }

/-- The finding after its repair. -/
def repaired (f : Finding) : Finding :=
  { f with fixed := true, effective := { f.effective with severity := .fixed } }

end Finding

end BoardLint
