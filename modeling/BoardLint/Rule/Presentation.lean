import BoardLint.Rule.Basic

set_option autoImplicit false

/-! # Rules on presentation

How a dashboard presents itself: it cannot be edited in place, it opens with the last hour and a
refresh of five minutes, and its panels are titled, described and not empty. -/

namespace BoardLint.Rule

/-! ## The dashboard -/

/-- A dashboard cannot be edited. -/
def uneditable : Rule :=
  { new "uneditable-dashboard" "Checks that the dashboard is not editable."
      (.dashboard fun d =>
        if d.isEditable then
          [(Diagnostic.error "is editable, it should be set to 'editable: false'").withFix
            (.dashboard fun d => { d with editable := some false })]
        else []) with
    fixable := true }

/-- What is wrong with the refresh interval. -/
def refreshProblem? (d : Dashboard) : Option String :=
  if d.refreshInterval == "5m" then none
  else some ("should have a default refresh interval of '5m', current it is: '" ++
    d.refreshInterval ++ "'")

/-- What is wrong with the time window. -/
def windowProblem? (d : Dashboard) : Option String :=
  let start := d.timeBound "from"
  let stop := d.timeBound "to"
  if start == "now-1h" && stop == "now" then none
  else some ("should have a default time interval of From: 'now-1h' To: 'now', " ++
    "currently it is From: '" ++ start ++ "' To: '" ++ stop ++ "'")

/-- A dashboard refreshes every five minutes. -/
def refreshInterval : Rule :=
  { new "panel-refresh-interval-rule"
      "Checks that each panel has an appropriate refresh interval."
      (.dashboard fun d => Diagnostic.ofProblem (refreshProblem? d)) with
    stability := .preview }

/-- A dashboard shows the last hour. -/
def timeWindow : Rule :=
  { new "panel-time-interval-rule"
      "Checks that each panel has an appropriate time window interval."
      (.dashboard fun d => Diagnostic.ofProblem (windowProblem? d)) with
    stability := .preview }

/-- A dashboard shows the last hour and refreshes every five minutes; the window is told first. -/
def timeRefresh : Rule :=
  { new "panel-time-refresh-rule"
      "Checks that each panel has an appropriate time window and refresh interval."
      (.dashboard fun d =>
        Diagnostic.ofProblem ((windowProblem? d).or (refreshProblem? d))) with
    stability := .preview }

/-! ## Panels -/

/-- The kinds of panels that show the result of queries. -/
def contentPanels : List String := ["stat", "singlestat", "graph", "table", "timeseries", "gauge"]

/-- A panel has a title and a description. -/
def titleDescription : Rule :=
  new "panel-title-description-rule" "Checks that each panel has a title and description."
    (.panel fun _ p =>
      if !contentPanels.contains p.kind || (!p.title.isEmpty && !p.description.isEmpty) then []
      else
        let id := (p.id.map toString).getD ""
        [.error ("with id '" ++ id ++ "' has missing title or description, currently has title '" ++
          p.title ++ "' and description: '" ++ p.description ++ "'")])

/-- A panel has targets. -/
def hasTargets : Rule :=
  new "panel-no-targets-rule" "Checks that each panel has at least one target."
    (.panel fun _ p =>
      if contentPanels.contains p.kind && p.targets.isEmpty then [.error "has no targets"] else [])

end BoardLint.Rule
