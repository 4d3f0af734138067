import BoardLint.Json.Printer
import BoardLint.Report.Basic
import BoardLint.Settings.Basic

set_option autoImplicit false

/-! # Reports as documents

The report on findings as JSON, and the report of a form. -/

namespace BoardLint.Report

/-- A finding as JSON. -/
def findingJson (f : Finding) : Json :=
  let optional (key : String) (value : Option Json) : Json.Members :=
    (value.map fun v => (key, v)).toList
  .obj ([("rule", .str f.rule), ("severity", .str f.severity.name),
      ("message", .str f.effective.message), ("dashboard", .str f.dashboard.title),
      ("unit", .str f.dashboard.unit)] ++
    optional "panel" (f.panel.map fun p => .str p.title) ++
    optional "panel_id" ((f.panel.bind (·.id)).map Json.ofInt) ++
    optional "target_idx" (f.target.map Json.ofNat) ++
    optional "template" (f.template.map fun t => .str t.name) ++
    [("fixable", .bool f.isFixable)])

/-- The findings that are listed as JSON. -/
def listed (fs : Findings) : List Finding := fs.list.filter fun f => f.severity != .quiet

/-- The summary of findings as JSON. -/
def summaryJson (fs : Findings) : Json :=
  let s := fs.summary
  .obj [("maximum_severity", .str fs.maximum.name), ("successes", Json.ofNat s.successes),
    ("excluded", Json.ofNat s.excluded), ("warnings", Json.ofNat s.warnings),
    ("errors", Json.ofNat s.errors), ("fixed", Json.ofNat s.fixed),
    ("fixable", Json.ofNat s.fixable)]

/-- The report as JSON. -/
def toJson (fs : Findings) : Json :=
  .obj [("results", .arr ((listed fs).map findingJson)), ("summary", summaryJson fs)]

/-- The report of a form. -/
def write (form : ReportForm) (o : Options) (fs : Findings) : String :=
  match form with
  | .text => byRule o true fs
  | .grouped => byUnit o fs
  | .json => (toJson fs).pretty

/-- One finding in a report of a form. -/
def writeFinding (form : ReportForm) (o : Options) (f : Finding) : String :=
  match form with
  | .text => ruleLine o f
  | .grouped => unitLine o f
  | .json => (findingJson f).pretty

end BoardLint.Report
