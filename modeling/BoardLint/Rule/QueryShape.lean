import BoardLint.Rule.Basic
import BoardLint.Variable.Expansion

set_option autoImplicit false

/-! # Rules on the shape of queries

Whether the query of a target is one, and whether it treats rates, counters and histograms as they
have to be treated. Variables are expanded before a query is read. A query that cannot be read is
reported once, by `validQuery`, and passes the other rules. -/

namespace BoardLint.Rule

/-- The message that a query is invalid for a reason. -/
def invalidQuery (expr reason : String) : String :=
  "invalid PromQL query '" ++ expr ++ "': " ++ reason

/-- The query of a target, if it can be read. -/
def query? (d : Dashboard) (t : Target) : Option ExpandedQuery :=
  (ExpandedQuery.parse t.expr d.templates).toOption

/-- The query of a target of a Prometheus dashboard, if it can be read. -/
def prometheusQuery? (d : Dashboard) (t : Target) : Option ExpandedQuery :=
  if d.isPrometheus then query? d t else none

/-- A target has a valid query. -/
def validQuery : Rule :=
  new "target-promql-rule" "Checks that each target uses a valid PromQL query."
    (.target fun d p t =>
      if d.isPrometheus && p.hasQueries then
        match ExpandedQuery.parse t.expr d.templates with
        | .ok _ => []
        | .error e => [.error (invalidQuery t.expr e.message)]
      else [])

/-! ## Rates -/

/-- Whether the expression directly around a visited one calls one of the given functions. -/
def isDirectlyIn (names : List String) (v : Expr.Visit) : Bool :=
  (v.path.getLast?.bind Expr.callName?).any fun name => names.contains name

/-- Whether a visited expression is a range directly under a rate that is not the rate interval. -/
def isFixedRate (q : ExpandedQuery) (v : Expr.Visit) : Bool :=
  match v.expr with
  | .matrix _ range => !q.isRateInterval range && isDirectlyIn ["rate", "irate"] v
  | _ => false

/-- A rate is taken over the rate interval. -/
def rateInterval : Rule :=
  { new "target-rate-interval-rule" "Checks that each target uses $__rate_interval."
      (.target fun d p t =>
        match prometheusQuery? d t with
        | some q =>
          if p.hasQueries && q.expr.walk.any (isFixedRate q) then
            [.error (invalidQuery t.expr "should use $__rate_interval")]
          else []
        | none => []) with
    rationale := some ("$__rate_interval is at least four scrape intervals long, so rate() and " ++
      "irate() always see enough samples regardless of the dashboard resolution.") }

/-! ## Counters and histograms -/

/-- Whether a visited expression is a selector of a metric whose name has an ending. -/
def selectsEnding (ending : String) (v : Expr.Visit) : Bool :=
  (v.expr.selector?.bind Selector.metricName?).any fun name => Text.endsIn ending name

/-- Whether a visited expression is a range. -/
def isRange (v : Expr.Visit) : Bool :=
  match v.expr with
  | .matrix .. => true
  | _ => false

/-- Whether a visited expression selects a counter outside of a range directly under a rate. -/
def isBareCounter (v : Expr.Visit) : Bool :=
  selectsEnding "_total" v && !(isRange v && isDirectlyIn ["rate", "irate", "increase"] v)

/-- Whether a visited expression selects buckets outside of a quantile. -/
def isBareBucket (v : Expr.Visit) : Bool :=
  selectsEnding "_bucket" v && !v.path.any fun e => e.callName? == some "histogram_quantile"

/-- The text of the first visited expression that is an offence, with its variables put back. -/
def firstOffence? (d : Dashboard) (t : Target) (isOffence : Expr.Visit → Bool) : Option String := do
  let q ← query? d t
  let v ← q.expr.walk.find? isOffence
  some (q.revert v.expr)

/-- A counter is aggregated by a rate. -/
def counterAggregation : Rule :=
  new "target-counter-agg-rule"
    "Checks that any counter metric (ending in _total) is aggregated with rate, irate, or increase."
    (.target fun d _ t => Diagnostic.ofProblem ((firstOffence? d t isBareCounter).map fun text =>
      "counter metric '" ++ text ++ "' is not aggregated with rate, irate, or increase"))

/-- A histogram is used by a quantile. -/
def histogramQuantile : Rule :=
  new "target-histogram-rule"
    "Checks that any bucket metric (ending in _bucket) is calculated with histogram."
    (.target fun d _ t => Diagnostic.ofProblem ((firstOffence? d t isBareBucket).map fun text =>
      "histogram metric '" ++ text ++ "' is not calculated in a histogram function"))

end BoardLint.Rule
