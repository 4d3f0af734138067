import BoardLint.Finding.Collection
import BoardLint.Report.Style

set_option autoImplicit false

/-! # Reports

Reports on findings for a reader: by rule, or by directory. Findings that are quiet are not
reported, and excluded ones only if all is to be shown. -/

namespace BoardLint.Report

/-- How a report is made. -/
structure Options where
  colored : Bool
  /-- Whether excluded findings are shown. -/
  verbose : Bool
deriving DecidableEq, Repr

/-- Whether a finding is reported. -/
def isReported (verbose : Bool) (f : Finding) : Bool :=
  match f.severity with
  | .quiet => false
  | .exclude => verbose
  | _ => true

/-- The style of a severity. -/
def styleOf? : Severity → Option Style
  | .error => some .red
  | .warning => some .yellow
  | .fixed => some .green
  | .exclude => some .dimmed
  | .success => none
  | .quiet => none

/-- A line with the sign of a severity. -/
def severityLine (o : Options) (s : Severity) (text : String) : String :=
  let line := "[" ++ s.symbol ++ "] " ++ text
  match styleOf? s with
  | some style => style.paint o.colored line
  | none => line

/-! ## The summary -/

/-- A number of things. -/
def counted (n : Nat) (word : String) : String :=
  toString n ++ " " ++ word ++ if n == 1 then "" else "s"

/-- The part of a summary for a number, left out when it is zero. -/
def part (n : Nat) (text : String) : List String := if n == 0 then [] else [text]

/-- How many dashboards the findings are about. -/
def dashboardCount (fs : Findings) : Nat :=
  (fs.list.map (·.dashboard.index)).eraseDups.length

/-- The counts of a summary that are not zero. -/
def countParts (o : Options) (s : Summary) : List String :=
  part s.errors (Style.red.paint o.colored (counted s.errors "error")) ++
    part s.warnings (Style.yellow.paint o.colored (counted s.warnings "warning")) ++
    part s.excluded (toString s.excluded ++ " excluded") ++
    part s.fixed (Style.green.paint o.colored (toString s.fixed ++ " fixed")) ++
    part s.fixable (toString s.fixable ++ " fixable with --fix")

/-- The line that sums a report up. -/
def summaryLine (o : Options) (fs : Findings) : String :=
  let parts := countParts o fs.summary
  counted (dashboardCount fs) "dashboard" ++ ": " ++
    ", ".intercalate (if parts.isEmpty then ["no problems"] else parts)

/-! ## By rule -/

/-- A finding in a report by rule. -/
def ruleLine (o : Options) (f : Finding) : String := severityLine o f.severity f.message

/-- The part of a report on one rule: its description and its findings. -/
def ruleSection (o : Options) (group : List Finding) : String :=
  match group.filter (isReported o.verbose) with
  | [] => ""
  | first :: rest =>
    Style.bold.paint o.colored first.description ++ "\n" ++
      String.join ((first :: rest).map fun f => ruleLine o f ++ "\n")

/-- The report by rule, with or without a summary. -/
def byRule (o : Options) (summary : Bool) (fs : Findings) : String :=
  let body := String.join (fs.byRule.map fun (_, group) => ruleSection o group)
  if summary then body ++ (if body.isEmpty then "" else "\n") ++ summaryLine o fs ++ "\n" else body

/-! ## By directory -/

/-- A finding in a report by directory, with its rule. -/
def unitLine (o : Options) (f : Finding) : String :=
  severityLine o f.severity (f.message ++ " (" ++ Style.dimmed.paint o.colored f.rule ++ ")")

/-- The part of a report on one directory. -/
def unitSection (o : Options) (unit : String) (group : List Finding) : String :=
  match group.filter (isReported o.verbose) with
  | [] => ""
  | shown =>
    Style.underline.paint o.colored (if unit.isEmpty then "." else unit) ++ "\n" ++
      String.join (shown.map fun f => "  " ++ unitLine o f ++ "\n") ++ "\n"

/-- The report by directory. -/
def byUnit (o : Options) (fs : Findings) : String :=
  String.join (fs.byUnit.map fun (unit, group) => unitSection o unit group) ++
    summaryLine o fs ++ "\n"

end BoardLint.Report
