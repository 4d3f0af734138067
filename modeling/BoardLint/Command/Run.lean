import BoardLint.Command.Arguments
import BoardLint.Lint.Repair
import BoardLint.Report.Document
import BoardLint.Rule.Catalogue
import BoardLint.Settings.Load

set_option autoImplicit false

/-! # The command

What the command prints, which status it ends with, and what it writes, as a function of its
arguments and of the files it sees. -/

namespace BoardLint.Command

/-- What a command prints and leaves behind. -/
structure Output where
  status : Nat
  stdout : String
  stderr : String
  tree : FileTree

/-! ## Rules -/

/-- All rules, previews included. -/
def catalogue : RuleSet := RuleSet.ofSettings { RuleSettings.initial with preview := true }

/-- The marks of a rule in the list of rules. -/
def marks (r : Rule) : String :=
  let stability := match r.stability with
    | .stable => ""
    | s => " [" ++ s.name ++ "]"
  stability ++ if r.fixable then " [fixable]" else ""

/-- The list of rules. -/
def listRules : String :=
  let line (r : Rule) : String :=
    "  " ++ r.id ++ " (" ++ r.check.kind ++ ")" ++ marks r ++ "\n    " ++ r.description ++ "\n"
  "Available rules (" ++ toString catalogue.length ++ " rules)\n" ++
    String.join (catalogue.map line)

/-- What there is to know about a rule. -/
def explain (r : Rule) : String :=
  let rationale := match r.rationale with
    | some text => "\n  Rationale\n  " ++ text ++ "\n"
    | none => ""
  "Rule Details\n\n  ID: " ++ r.id ++ "\n  Applies to: " ++ r.check.kind ++ "\n  Stability: " ++
    r.stability.name ++ "\n  Auto-fix: " ++ (if r.fixable then "yes" else "no") ++
    "\n\n  Description\n  " ++ r.description ++ "\n" ++ rationale

/-! ## Settings -/

/-- The settings that a command line leads to. A default file that cannot be read is ignored. -/
def settings (t : FileTree) (a : Arguments) : Except String Settings := do
  let base : Settings ← match a.config with
    | some path =>
      match Settings.load t path with
      | .ok s => .ok s
      | .error e =>
        let cause := (e.cause?.map fun c => ": " ++ c).getD ""
        .error ("failed to load config " ++ path ++ ": " ++ e.message ++ cause)
    | none => .ok ((Settings.loadDefault t).toOption.getD .initial)
  let verbose := if a.verbose then some true else none
  let s := base.adjust ⟨a.format, verbose, a.jobs, a.disable, a.select⟩
  let output := if a.byDashboard then { s.output with format := .grouped } else s.output
  .ok { s with output := output, rules := { s.rules with preview := a.preview || s.rules.preview } }

/-- Whether output is coloured. -/
def isColored (terminal : Bool) (a : Arguments) (mode : ColorMode) : Bool :=
  !a.noColor && match mode with
    | .always => true
    | .never => false
    | .auto => terminal

/-! ## Repairs -/

/-- What becomes of repairs, if they are asked for. -/
def repairMode? (a : Arguments) : Option RepairMode :=
  if a.diff then some .diff
  else if a.dryRun then some .dryRun
  else if a.fix then some .write
  else none

/-- The line that tells about repairs. -/
def repairLine (mode : RepairMode) (r : RepairReport) : String :=
  toString r.applied ++ (if r.applied == 1 then " fix" else " fixes") ++ " applied to " ++
    toString r.modified ++ (if r.modified == 1 then " dashboard" else " dashboards") ++
    (if mode == .write then "" else " (dry run)") ++ "\n"

/-- An error as it is told. -/
def errorLine (colored : Bool) (message : String) : String :=
  Style.boldRed.paint colored "error" ++ ": " ++ message ++ "\n"

/-- The output of a command that failed. -/
def failed (t : FileTree) (colored : Bool) (message : String) : Output :=
  ⟨2, "", errorLine colored message, t⟩

/-- A run after its repairs, and what was told about them. -/
structure Repaired where
  tree : FileTree
  run : LintRun
  stdout : String
  stderr : String

/-- Makes the repairs of a run if they are asked for. -/
def repair (colored : Bool) (mode : Option RepairMode) (t : FileTree) (run : LintRun) : Repaired :=
  match mode with
  | none => ⟨t, run, "", ""⟩
  | some mode =>
    let (t, run, r) := Repair.apply mode t run
    let told := String.join (r.errors.map (errorLine colored))
    if mode == .diff then ⟨t, run, r.joined, told⟩ else ⟨t, run, "", told ++ repairLine mode r⟩

/-- Checks dashboards, repairs them if that is asked for, and reports. -/
def lint (t : FileTree) (terminal : Bool) (a : Arguments) (s : Settings) : Output :=
  let colored := isColored terminal a s.output.color
  let paths := if a.paths.isEmpty then ["."] else a.paths
  match LintRun.ofPaths t s (RuleSet.ofSettings s.rules) paths with
  | .error e => failed t colored e.message
  | .ok run =>
    if run.dashboards.isEmpty && run.failures.isEmpty then failed t colored "no dashboards found"
    else
      let done := repair colored (repairMode? a) t run
      let findings := done.run.findings
      let report := Report.write s.output.format ⟨colored, s.output.verbose⟩ findings
      let threshold := if a.strict then Severity.warning else .error
      let status := if threshold.rank ≤ findings.maximum.rank then 1 else 0
      ⟨status, done.stdout ++ report, done.stderr, done.tree⟩

/-- Runs a command line. -/
def runArguments (t : FileTree) (terminal : Bool) (a : Arguments) : Output :=
  match settings t a with
  | .error message => failed t false message
  | .ok s =>
    if a.listRules then ⟨0, listRules, "", t⟩
    else
      match a.explain with
      | none => lint t terminal a s
      | some id =>
        match RuleSet.get? catalogue id with
        | some r => ⟨0, explain r, "", t⟩
        | none =>
          failed t false ("rule '" ++ id ++
            "' not found, use --list-rules to see all available rules")

/-- The name and version of the command. -/
def versionLine : String := "dashlint 0.1.0\n"

/-- How the command is used. -/
def usageLine : String := "Usage: dashlint [OPTIONS] [PATHS]...\n"

/-- Runs the command on its arguments. `terminal` tells whether its output goes to a terminal. -/
def run (t : FileTree) (terminal : Bool) (args : List String) : Output :=
  match Arguments.read args with
  | .usage => ⟨2, "", usageLine, t⟩
  | .version => ⟨0, versionLine, "", t⟩
  | .help => ⟨0, usageLine, "", t⟩
  | .run a => runArguments t terminal a

end BoardLint.Command
