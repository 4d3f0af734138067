import BoardLint.Rule.Datasource
import BoardLint.Rule.Presentation
import BoardLint.Rule.RequiredMatcher
import BoardLint.Rule.RequiredVariable
import BoardLint.Rule.TemplateQuery

set_option autoImplicit false

/-! # The rules

All rules in the order in which they are reported. -/

namespace BoardLint.RuleSet

/-- All rules, with what the settings require of them. -/
def all (s : RuleSettings) : RuleSet :=
  [.templateDatasource, .templateJob, .templateInstance, .requiredVariables s, .uneditable,
    .refreshInterval, .timeWindow, .timeRefresh, .panelDatasource, .titleDescription, .hasTargets,
    .validQuery, .rateInterval, .targetJob, .targetInstance, .requiredMatchers s,
    .counterAggregation, .histogramQuantile, .templateQuery, .reloadOnTimeChange, .templateUsed]

/-- The rules that the settings let take part. -/
def ofSettings (s : RuleSettings) : RuleSet := filtered (all s) s

end BoardLint.RuleSet
