import BoardLint.Rule.Basic
import BoardLint.Variable.Reference

set_option autoImplicit false

/-! # Rules on required template variables

A Prometheus dashboard lets its reader choose the job and the instance, and any other variable that
the settings require: each by a template variable that selects several values of a query. -/

namespace BoardLint.Rule

/-- The references that a variable of the dashboard should have as its datasource, none when it has
    one of them. -/
def expectedDatasources (d : Dashboard) (datasource : String) : List String :=
  let uses (name : String) : Bool :=
    datasource == "$" ++ name || datasource == "$\x7b" ++ name ++ "\x7d"
  match d.datasourceTemplates.length with
  | 1 => if uses "datasource" then [] else ["$datasource"]
  | 2 =>
    if uses "prometheus_datasource" || uses "loki_datasource" then []
    else ["$prometheus_datasource", "$loki_datasource"]
  | _ => []

/-- What is wrong with a required template variable. -/
def variableProblem? (d : Dashboard) (name : String) : Option String :=
  match d.template? name with
  | none => some ("is missing the " ++ name ++ " template")
  | some t =>
    let expected := expectedDatasources d t.datasourceName
    let allValue := t.allValue.getD ""
    if !expected.isEmpty then
      some (name ++ " template should use datasource " ++ " or ".intercalate expected ++
        ", is currently '" ++ t.datasourceName ++ "'")
    else if t.kind != "query" then
      some (name ++ " template should be a Prometheus query, is currently '" ++ t.kind ++ "'")
    else if t.label != name then
      some (name ++ " template should be labelled '" ++ name ++ "', is currently '" ++ t.label ++
        "'")
    else if !t.multi then some (name ++ " template should be a multi select")
    else if allValue != ".+" then
      some (name ++ " template allValue should be '.+', is currently '" ++ allValue ++ "'")
    else none

/-- The problems with required template variables of a Prometheus dashboard. -/
def variableProblems (names : List String) (d : Dashboard) : List Diagnostic :=
  if d.isPrometheus then (names.filterMap (variableProblem? d)).map .error else []

/-- A dashboard has a template variable for a label. -/
def requiredTemplate (label : String) : Rule :=
  new ("template-" ++ label ++ "-rule")
    ("Checks that the dashboard has a templated " ++ label ++ ".")
    (.dashboard (variableProblems [label]))

/-- A dashboard has a template variable for the job. -/
def templateJob : Rule := requiredTemplate "job"

/-- A dashboard has a template variable for the instance. -/
def templateInstance : Rule := requiredTemplate "instance"

/-- The variables that the settings require, by name or as the value of a matcher, in order. -/
def requiredNames (s : RuleSettings) : List String :=
  let values := s.requiredMatchers.filterMap fun m => Text.after? ['$'] m.value.toList
  let names := s.requiredVariables ++ values.map String.ofList
  (KeyMap.ofList (names.map fun name => (name, ()))).keys

/-- A dashboard has the template variables that the settings require. -/
def requiredVariables (s : RuleSettings) : Rule :=
  { new "template-required-variables-rule"
      ("Checks that the dashboard has a template variable for required variables or matchers " ++
        "that use variables")
      (.dashboard (variableProblems (requiredNames s))) with
    stability := .experimental }

end BoardLint.Rule
