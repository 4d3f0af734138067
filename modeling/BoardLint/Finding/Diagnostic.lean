import BoardLint.Dashboard.Basic
import BoardLint.Finding.Severity

set_option autoImplicit false

/-! # Diagnostics

The outcome of a check on a part of a dashboard, and how the part can be repaired. -/

namespace BoardLint

/-- A repair of the part that a diagnostic is about. A repair of a target sees the template
    variables of its dashboard. -/
inductive Fix where
  | dashboard (apply : Dashboard → Dashboard)
  | panel (apply : Panel → Panel)
  | target (apply : List Template → Target → Target)
  | template (apply : Template → Template)

/-- What a repair changes. -/
def Fix.scope : Fix → String
  | .dashboard _ => "dashboard"
  | .panel _ => "panel"
  | .target _ => "target"
  | .template _ => "template"

/-- The outcome of a check. -/
structure Diagnostic where
  severity : Severity
  message : String
  fix : Option Fix

namespace Diagnostic

/-- The outcome of a check that passed. -/
def success : Diagnostic := ⟨.success, "OK", none⟩

/-- A problem. -/
def error (message : String) : Diagnostic := ⟨.error, message, none⟩

/-- A diagnostic with a repair. -/
def withFix (d : Diagnostic) (fix : Fix) : Diagnostic := { d with fix := some fix }

/-- At most one problem. -/
def ofProblem (problem : Option String) : List Diagnostic := (problem.map error).toList

end Diagnostic

end BoardLint
