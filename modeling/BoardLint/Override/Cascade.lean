import BoardLint.Override.Basic

set_option autoImplicit false

/-! # Overrides of a run

The overrides of the project together with those of each directory. A directory has the overrides of
the project and its own. -/

namespace BoardLint

/-- The overrides of a project and of its directories. -/
structure Cascade where
  base : OverrideFile
  /-- The overrides of each directory, those of the project included. -/
  units : KeyMap OverrideFile
  /-- Whether passed checks are reported. -/
  verbose : Bool
deriving Repr, Inhabited

namespace Cascade

/-- The overrides of a project without directories. -/
def new (base : OverrideFile) (verbose : Bool) : Cascade := ⟨base, .empty, verbose⟩

/-- Gives a directory its overrides. -/
def addUnit (c : Cascade) (unit : String) (file : OverrideFile) : Cascade :=
  { c with units := c.units.insert unit (c.base.merge file) }

/-- Gives a directory its overrides unless it has some already. -/
def addNewUnit (c : Cascade) (unit : String) (file : OverrideFile) : Cascade :=
  if (c.units.get? unit).isSome then c else c.addUnit unit file

/-- The overrides that hold for a directory. -/
def fileFor (c : Cascade) (unit : String) : OverrideFile := (c.units.get? unit).getD c.base

/-- What the overrides make of a diagnostic of a finding. -/
def effective (c : Cascade) (f : Finding) : Diagnostic :=
  let file := c.fileFor f.dashboard.unit
  let result :=
    if file.exclusions.covers f then
      { f.raw with severity := .exclude, message := f.raw.message ++ " (Excluded)" }
    else if file.warnings.covers f then { f.raw with severity := .warning }
    else f.raw
  let result :=
    if !c.verbose && result.severity == .success then { result with severity := .quiet } else result
  if f.fixed then { result with severity := .fixed } else result

/-- The finding with its effective diagnostic, which depends on the raw one only, so that a second
    time changes nothing. -/
def apply (c : Cascade) (f : Finding) : Finding := { f with effective := c.effective f }

end Cascade

end BoardLint
