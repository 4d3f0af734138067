import BoardLint.Rule.Basic

set_option autoImplicit false

/-! # Rules on datasources

A dashboard is not bound to one datasource: it has a template variable that chooses the datasource,
or two when it shows metrics and logs, and its panels use them. -/

namespace BoardLint.Rule

/-! ## The variable that chooses the datasource -/

/-- What is wrong with the only variable that chooses a datasource. -/
def singleProblem? (t : Template) : Option String :=
  if t.name != "datasource" then
    some ("templated datasource variable named '" ++ t.name ++ "', should be named 'datasource'")
  else if t.label != "Data Source" then
    some ("templated datasource variable labeled '" ++ t.label ++
      "', should be labeled 'Data Source'")
  else if t.queryText != "prometheus" && t.queryText != "loki" then
    some ("templated datasource variable query is '" ++ t.queryText ++
      "', should be 'prometheus' or 'loki'")
  else none

/-- What is wrong with one of two variables that choose a datasource of a kind. -/
def namedProblem? (kind title : String) (t : Template) : Option String :=
  let name := kind ++ "_datasource"
  let label := title ++ " Data Source"
  if t.name != name then
    some ("templated datasource variable named '" ++ t.name ++ "', should be named '" ++ name ++
      "'")
  else if t.label != label then
    some ("templated datasource variable labeled '" ++ t.label ++ "', should be labeled '" ++
      label ++ "'")
  else none

/-- What is wrong with two variables that choose a datasource. -/
def pairProblem? (a b : Template) : Option String :=
  let (logs, metrics) := if b.queryText < a.queryText then (b, a) else (a, b)
  if logs.queryText != "loki" || metrics.queryText != "prometheus" then
    some "with 2 templated datasources should have 'prometheus' and 'loki' types"
  else
    (namedProblem? "loki" "Loki" logs).or (namedProblem? "prometheus" "Prometheus" metrics)

/-- What is wrong with the variables that choose a datasource. -/
def datasourceProblem? : List Template → Option String
  | [t] => singleProblem? t
  | [a, b] => pairProblem? a b
  | ts => some ("has " ++ toString ts.length ++ " templated datasources, should be 1 or 2")

/-- A dashboard chooses its datasource by a template variable. -/
def templateDatasource : Rule :=
  { new "template-datasource-rule" "Checks that the dashboard has a templated datasource."
      (.dashboard fun d => Diagnostic.ofProblem (datasourceProblem? d.datasourceTemplates)) with
    rationale := some ("Panels should not be bound to a concrete datasource. A single templated " ++
      "datasource is named 'datasource'; dashboards mixing metrics and logs use " ++
      "'prometheus_datasource' and 'loki_datasource'.") }

/-! ## The datasource of a panel -/

/-- Whether a name refers to a variable: a dollar sign and at least one character on its line. -/
def isTemplated (name : String) : Bool :=
  match name.toList with
  | '$' :: c :: _ => c != '\n'
  | _ => false

/-- The kinds of panels whose datasource has to be chosen by a variable. -/
def datasourcePanels : List String := ["singlestat", "graph", "table", "timeseries"]

/-- A panel uses the datasource of a template variable. -/
def panelDatasource : Rule :=
  new "panel-datasource-rule" "Checks that each panel uses the templated datasource."
    (.panel fun _ p =>
      let name := (p.datasource.map Datasource.name).getD ""
      if !datasourcePanels.contains p.kind || isTemplated name then []
      else [.error ("does not use templates datasource, uses '" ++ name ++ "'")])

end BoardLint.Rule
