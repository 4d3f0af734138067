import BoardLint.Text.Basic

set_option autoImplicit false

/-! # Severities

How bad the outcome of a check is. The order is the one of the constructors, and the severity of a
run is the greatest of its outcomes. -/

namespace BoardLint

/-- The severity of an outcome. -/
inductive Severity where
  /-- The check passed. -/
  | success
  /-- An override excluded the outcome. -/
  | exclude
  /-- A passed check that is not reported. -/
  | quiet
  /-- An advice, or an error that an override made a warning. -/
  | warning
  /-- A definite problem. -/
  | error
  /-- A problem that was repaired. -/
  | fixed
deriving DecidableEq, Repr, Inhabited

namespace Severity

/-- The place of a severity in the order. -/
def rank : Severity → Nat
  | .success => 0
  | .exclude => 1
  | .quiet => 2
  | .warning => 3
  | .error => 4
  | .fixed => 5

/-- The greater of two severities. -/
def max (a b : Severity) : Severity := if a.rank ≤ b.rank then b else a

/-- The greatest severity of a list, success when it is empty. -/
def maximum (xs : List Severity) : Severity := xs.foldl max .success

/-- Whether an outcome of the severity is there to be repaired. -/
def isActionable : Severity → Bool
  | .warning => true
  | .error => true
  | _ => false

/-- The name of a severity. -/
def name : Severity → String
  | .success => "success"
  | .exclude => "exclude"
  | .quiet => "quiet"
  | .warning => "warning"
  | .error => "error"
  | .fixed => "fixed"

/-- The sign of a severity in reports. -/
def symbol : Severity → String
  | .success => "✔️"
  | .exclude => "➖"
  | .quiet => ""
  | .warning => "⚠️"
  | .error => "❌"
  | .fixed => "🔧"

/-- The severity with a name, in any case and with some short forms. -/
def ofText? (s : String) : Option Severity :=
  match Text.lowered s with
  | "success" => some .success
  | "ok" => some .success
  | "exclude" => some .exclude
  | "excluded" => some .exclude
  | "quiet" => some .quiet
  | "warning" => some .warning
  | "warn" => some .warning
  | "error" => some .error
  | "err" => some .error
  | "fixed" => some .fixed
  | _ => none

end Severity

end BoardLint
