import BoardLint.Rule.QueryShape

set_option autoImplicit false

/-! # Rules on required matchers

Every selector of a Prometheus query has a matcher for the job, one for the instance, and those that
the settings require. A repair sets the matcher on every selector of the query. -/

namespace BoardLint.Rule

/-- What one matcher of the required label makes of the problem that was known before. -/
def matcherProblem? (required : Matcher) (known : Option String) (m : Matcher) : Option String :=
  let told (is should : String) : Option String :=
    some (required.name ++ " selector is " ++ is ++ ", not " ++ should)
  if m.value != required.value then told m.value required.value
  else if m.op != required.op then told m.op.text required.op.text
  else known

/-- Why the matchers of a selector do not have the required one. Of several wrong matchers the last
    one is told, and of a wrong value and a wrong operator the value. -/
def missing? (matchers : List Matcher) (required : Matcher) : Option String :=
  let same := matchers.filter fun m => m.name == required.name
  if same.contains required then none
  else same.foldl (matcherProblem? required) (some (required.name ++ " selector not found"))

/-- Sets a matcher on every selector of a target. A query that cannot be read and a regular
    expression that is none leave the target as it is. -/
def setMatcher (required : Matcher) (templates : List Template) (t : Target) : Target :=
  match ExpandedQuery.parse t.expr templates with
  | .error _ => t
  | .ok q =>
    match q.expr.setMatcher? required with
    | some expr => { t with expr := { q with expr := expr }.render }
    | none => t

/-- The problems of a target with required matchers, matcher by matcher and selector by selector. -/
def matcherProblems (required : List Matcher) (d : Dashboard) (t : Target) : List Diagnostic :=
  match prometheusQuery? d t with
  | none => []
  | some q =>
    required.flatMap fun m =>
      (q.expr.selectors.filterMap fun s => missing? s.labelMatchers m).map fun problem =>
        (Diagnostic.error (invalidQuery t.expr problem)).withFix (.target (setMatcher m))

/-- A selector has a matcher for a label with the variable of its name. -/
def labelMatcher (label : String) : Rule :=
  { new ("target-" ++ label ++ "-rule")
      ("Checks that every PromQL query has a " ++ label ++ " matcher.")
      (.target fun d _ t => matcherProblems [⟨label, .regex, "$" ++ label⟩] d t) with
    fixable := true }

/-- A selector has a matcher for the job. -/
def targetJob : Rule := labelMatcher "job"

/-- A selector has a matcher for the instance. -/
def targetInstance : Rule := labelMatcher "instance"

/-- A selector has the matchers that the settings require. -/
def requiredMatchers (s : RuleSettings) : Rule :=
  { new "target-required-matchers-rule" "Checks that target PromQL query has the required matchers"
      (.target fun d _ t => matcherProblems s.requiredMatchers d t) with
    stability := .experimental
    fixable := true }

end BoardLint.Rule
