import BoardLint.Override.Cascade
import BoardLint.Query.Matcher

set_option autoImplicit false

/-! # Settings of a project

What a project can configure: how a run is made, how it is reported, which files and which rules
take part, and overrides for the whole project. -/

namespace BoardLint

/-- The form of a report. -/
inductive ReportForm where
  /-- Findings by rule. -/
  | text
  /-- Findings by directory. -/
  | grouped
  | json
deriving DecidableEq, Repr, Inhabited

namespace ReportForm

/-- The name of a form. -/
def name : ReportForm → String
  | .text => "text"
  | .grouped => "grouped"
  | .json => "json"

/-- The form with a name. -/
def ofName? (s : String) : Option ReportForm :=
  if s == "text" then some .text
  else if s == "grouped" then some .grouped
  else if s == "json" then some .json
  else none

/-- The form with a name in any case. -/
def ofText? (s : String) : Option ReportForm := ofName? (Text.lowered s)

/-- The message for a text that is no form. -/
def unknownMessage (s : String) : String := "Unknown output format: " ++ s

end ReportForm

/-- When a report is coloured. -/
inductive ColorMode where
  | auto
  | always
  | never
deriving DecidableEq, Repr, Inhabited

namespace ColorMode

/-- The name of a mode. -/
def name : ColorMode → String
  | .auto => "auto"
  | .always => "always"
  | .never => "never"

/-- The mode with a name. -/
def ofName? (s : String) : Option ColorMode :=
  if s == "auto" then some .auto
  else if s == "always" then some .always
  else if s == "never" then some .never
  else none

/-- The mode with a name in any case. -/
def ofText? (s : String) : Option ColorMode := ofName? (Text.lowered s)

/-- The message for a text that is no mode. -/
def unknownMessage (s : String) : String := "Unknown color mode: " ++ s

end ColorMode

/-! ## Sections -/

/-- How a run is made. -/
structure EngineSettings where
  parallel : Bool
  /-- The number of jobs, zero for as many as there are processors. -/
  jobs : UInt64
deriving DecidableEq, Repr, Inhabited

/-- How a run is reported. -/
structure OutputSettings where
  format : ReportForm
  color : ColorMode
  /-- Whether passed checks are reported. -/
  verbose : Bool
deriving DecidableEq, Repr, Inhabited

/-- Patterns of the files that take part and of those that do not. -/
structure FileSettings where
  included : List String
  excluded : List String
deriving DecidableEq, Repr

/-- Which rules take part, and what some of them require. -/
structure RuleSettings where
  disabled : List String
  /-- The rules that take part; all when it is empty. -/
  enabled : List String
  requiredMatchers : List Matcher
  requiredVariables : List String
  /-- Whether preview rules take part. -/
  preview : Bool
deriving DecidableEq, Repr, Inhabited

/-- The settings of a project. -/
structure Settings where
  engine : EngineSettings
  output : OutputSettings
  files : FileSettings
  rules : RuleSettings
  overrides : OverrideFile
deriving DecidableEq, Repr

namespace EngineSettings

/-- The engine of a project that does not configure it. -/
def initial : EngineSettings := ⟨false, 0⟩

/-- The settings of `base` where `other` does not change them. -/
def merge (base other : EngineSettings) : EngineSettings :=
  ⟨other.parallel, if other.jobs == 0 then base.jobs else other.jobs⟩

end EngineSettings

namespace OutputSettings

/-- The output of a project that does not configure it. -/
def initial : OutputSettings := ⟨.text, .auto, false⟩

/-- The settings of `base` where `other` does not change them. -/
def merge (base other : OutputSettings) : OutputSettings where
  format := if other.format == .text then base.format else other.format
  color := if other.color == .auto then base.color else other.color
  verbose := base.verbose || other.verbose

end OutputSettings

namespace FileSettings

/-- The files of a project that does not configure them. -/
def initial : FileSettings :=
  ⟨["**/*.json"], ["**/node_modules/**", "**/vendor/**", "**/.git/**"]⟩

/-- The patterns of both. -/
def merge (base other : FileSettings) : FileSettings :=
  ⟨base.included ++ other.included, base.excluded ++ other.excluded⟩

end FileSettings

instance : Inhabited FileSettings := ⟨FileSettings.initial⟩

namespace RuleSettings

/-- The rules of a project that does not configure them. -/
def initial : RuleSettings := ⟨[], [], [], [], false⟩

/-- Whether a rule takes part: it is not disabled, and it is enabled unless all are. -/
def isEnabled (s : RuleSettings) (rule : String) : Bool :=
  !s.disabled.contains rule && (s.enabled.isEmpty || s.enabled.contains rule)

/-- Appends the names that are not in a list yet. -/
def addNames (names new : List String) : List String :=
  new.foldl (fun done name => if done.contains name then done else done ++ [name]) names

/-- The settings of `base` with those of `other` added or put in their place. -/
def merge (base other : RuleSettings) : RuleSettings where
  disabled := base.disabled ++ other.disabled
  enabled := if other.enabled.isEmpty then base.enabled else other.enabled
  requiredMatchers := base.requiredMatchers ++ other.requiredMatchers
  requiredVariables := addNames base.requiredVariables other.requiredVariables
  preview := base.preview || other.preview

end RuleSettings

namespace Settings

/-- The settings of a project that configures nothing. -/
def initial : Settings := ⟨.initial, .initial, .initial, .initial, .empty⟩

instance : Inhabited Settings := ⟨initial⟩

/-- The settings of `base` with those of `other` on top. -/
def merge (base other : Settings) : Settings :=
  ⟨base.engine.merge other.engine, base.output.merge other.output, base.files.merge other.files,
    base.rules.merge other.rules, base.overrides.merge other.overrides⟩

/-- What a command line can change. -/
structure Adjustment where
  format : Option ReportForm
  verbose : Option Bool
  jobs : Option UInt64
  disabled : Option (List String)
  enabled : Option (List String)
deriving DecidableEq, Repr, Inhabited

/-- The settings with an adjustment. More than one job makes the run parallel. -/
def adjust (s : Settings) (a : Adjustment) : Settings where
  engine := match a.jobs with
    | some jobs => ⟨jobs != 1, jobs⟩
    | none => s.engine
  output := { s.output with
    format := a.format.getD s.output.format
    verbose := a.verbose.getD s.output.verbose }
  files := s.files
  rules := { s.rules with
    disabled := s.rules.disabled ++ a.disabled.getD []
    enabled := a.enabled.getD s.rules.enabled }
  overrides := s.overrides

/-- The overrides of the project, without those of directories. -/
def cascade (s : Settings) : Cascade := Cascade.new s.overrides s.output.verbose

end Settings

end BoardLint
