import BoardLint.Proofs.Dashboard.Frame
import BoardLint.Proofs.Rule.Dispatch
import BoardLint.Rule.Catalogue

set_option autoImplicit false

/-! # The repairs of the rules

Of all rules five report repairs, and `Rule.Mends` lists them with the identifiers of the rules.
That no rule reports any other repair (`RuleSet.repairsOnly_mends`) is put together from what the
outcomes of checks are made of: problems without a repair, choices between outcomes, and these. -/

namespace BoardLint

namespace Diagnostic

/-- All repairs that are reported are allowed. -/
def RepairsOnly (allowed : Fix → Prop) (reported : List Diagnostic) : Prop :=
  ∀ raw ∈ reported, ∀ fix, raw.fix = some fix → allowed fix

section RepairsOnly

variable {allowed : Fix → Prop}

theorem repairsOnly_nil : RepairsOnly allowed [] := List.forall_mem_nil _

theorem repairsOnly_map_error (messages : List String) :
    RepairsOnly allowed (messages.map error) := by
  intro raw hraw fix hfix
  obtain ⟨message, -, rfl⟩ := List.mem_map.mp hraw
  exact absurd hfix (by simp [error])

theorem repairsOnly_error (message : String) : RepairsOnly allowed [error message] :=
  repairsOnly_map_error [message]

theorem repairsOnly_ofProblem (problem : Option String) :
    RepairsOnly allowed (ofProblem problem) := by
  cases problem with
  | none => exact repairsOnly_nil
  | some message => exact repairsOnly_error message

theorem repairsOnly_withFix {fix : Fix} (h : allowed fix) (raw : Diagnostic) :
    RepairsOnly allowed [raw.withFix fix] := by
  intro raw' hraw fix' hfix
  rw [List.mem_singleton.mp hraw] at hfix
  exact Option.some.inj hfix ▸ h

theorem repairsOnly_ite {c : Prop} [Decidable c] {reported others : List Diagnostic}
    (h : RepairsOnly allowed reported) (hothers : RepairsOnly allowed others) :
    RepairsOnly allowed (if c then reported else others) := by
  split
  · exact h
  · exact hothers

end RepairsOnly

end Diagnostic

namespace Rule

open Diagnostic

/-- All repairs that the check reports on any part are allowed. -/
def Check.RepairsOnly (allowed : Fix → Prop) : Check → Prop
  | .dashboard check => ∀ d, Diagnostic.RepairsOnly allowed (check d)
  | .panel check => ∀ d p, Diagnostic.RepairsOnly allowed (check d p)
  | .target check => ∀ d p t, Diagnostic.RepairsOnly allowed (check d p t)
  | .template check => ∀ d t, Diagnostic.RepairsOnly allowed (check d t)

/-- The rules that set matchers on the queries of targets. -/
def matcherRules : List String :=
  ["target-job-rule", "target-instance-rule", "target-required-matchers-rule"]

/-- The matcher of a label with the variable of its name. -/
def variableMatcher (label : String) : Matcher := ⟨label, .regex, "$" ++ label⟩

/-- The matchers that a rule requires of a query, by its identifier. -/
def requiredBy (s : RuleSettings) (id : String) : List Matcher :=
  if id = "target-job-rule" then [variableMatcher "job"]
  else if id = "target-instance-rule" then [variableMatcher "instance"]
  else if id = "target-required-matchers-rule" then s.requiredMatchers
  else []

/-- The repairs that rules make, by the identifiers of the rules, where a rule sets the matchers
    that it may set. -/
inductive Mends (maySet : String → Matcher → Prop) : String → Fix → Prop
  | editable : Mends maySet "uneditable-dashboard"
      (.dashboard fun d => { d with editable := some false })
  | refresh : Mends maySet "template-on-time-change-reload-rule"
      (.template fun t => { t with refresh := some onTimeChange })
  | query {id : String} {m : Matcher} (hid : id ∈ matcherRules) (hm : maySet id m) :
      Mends maySet id (.target (setMatcher m))

/-- Setting a matcher changes nothing of a target but its query. -/
theorem frame_setMatcher (m : Matcher) (templates : List Template) (t : Target) :
    (setMatcher m templates t).frame = t.frame := by
  unfold setMatcher
  split
  · rfl
  · split <;> rfl

theorem repairsOnly_variableProblems {allowed : Fix → Prop} (names : List String) (d : Dashboard) :
    Diagnostic.RepairsOnly allowed (variableProblems names d) :=
  repairsOnly_ite (repairsOnly_map_error _) repairsOnly_nil

theorem repairsOnly_matcherProblems {maySet : String → Matcher → Prop} {id : String}
    (hid : id ∈ matcherRules) {required : List Matcher} (hset : ∀ m ∈ required, maySet id m)
    (d : Dashboard) (t : Target) :
    Diagnostic.RepairsOnly (Mends maySet id) (matcherProblems required d t) := by
  unfold matcherProblems
  cases prometheusQuery? d t with
  | none => exact repairsOnly_nil
  | some q =>
      intro raw hraw fix hfix
      obtain ⟨m, hm, hraw⟩ := List.mem_flatMap.mp hraw
      obtain ⟨problem, -, rfl⟩ := List.mem_map.mp hraw
      exact Option.some.inj hfix ▸ .query hid (hset m hm)

theorem repairsOnly_validQuery {allowed : Fix → Prop} : validQuery.check.RepairsOnly allowed := by
  intro d p t
  refine repairsOnly_ite ?_ repairsOnly_nil
  cases ExpandedQuery.parse t.expr d.templates with
  | ok q => exact repairsOnly_nil
  | error e => exact repairsOnly_error _

theorem repairsOnly_rateInterval {allowed : Fix → Prop} :
    rateInterval.check.RepairsOnly allowed := by
  intro d p t
  dsimp only [rateInterval, new]
  split
  · exact repairsOnly_ite (repairsOnly_error _) repairsOnly_nil
  · exact repairsOnly_nil

end Rule

namespace RuleSet

open Diagnostic

/-- Every rule makes its own repairs only, with the matchers that it requires. -/
theorem repairsOnly_mends (s : RuleSettings) : ∀ r ∈ all s,
    r.check.RepairsOnly (Rule.Mends (fun id m => m ∈ Rule.requiredBy s id) r.id) := by
  have hjob : Rule.targetJob.id ∈ Rule.matcherRules := by decide
  have hinstance : Rule.targetInstance.id ∈ Rule.matcherRules := by decide
  have hrequired : (Rule.requiredMatchers s).id ∈ Rule.matcherRules := by
    show "target-required-matchers-rule" ∈ Rule.matcherRules
    decide
  simp only [all, List.forall_mem_cons]
  -- one entry for each rule: on dashboards, on panels, on targets and on template variables
  exact ⟨fun _ => repairsOnly_ofProblem _, Rule.repairsOnly_variableProblems _,
    Rule.repairsOnly_variableProblems _, Rule.repairsOnly_variableProblems _,
    fun _ => repairsOnly_ite (repairsOnly_withFix .editable _) repairsOnly_nil,
    fun _ => repairsOnly_ofProblem _, fun _ => repairsOnly_ofProblem _,
    fun _ => repairsOnly_ofProblem _,
    fun _ _ => repairsOnly_ite repairsOnly_nil (repairsOnly_error _),
    fun _ _ => repairsOnly_ite repairsOnly_nil (repairsOnly_error _),
    fun _ _ => repairsOnly_ite (repairsOnly_error _) repairsOnly_nil,
    Rule.repairsOnly_validQuery, Rule.repairsOnly_rateInterval,
    fun d _ t => Rule.repairsOnly_matcherProblems hjob (fun _ hm => hm) d t,
    fun d _ t => Rule.repairsOnly_matcherProblems hinstance (fun _ hm => hm) d t,
    fun d _ t => Rule.repairsOnly_matcherProblems hrequired (fun _ hm => hm) d t,
    fun _ _ _ => repairsOnly_ofProblem _, fun _ _ _ => repairsOnly_ofProblem _,
    fun _ _ => repairsOnly_ite (repairsOnly_ofProblem _) repairsOnly_nil,
    fun _ _ => repairsOnly_ite repairsOnly_nil (repairsOnly_withFix .refresh _),
    fun _ _ => repairsOnly_ite repairsOnly_nil (repairsOnly_error _),
    List.forall_mem_nil _⟩

end RuleSet

namespace Site

variable {d : Dashboard} {site : Site} {r : Rule} {allowed : Fix → Prop}

theorem repairsOnly_of_reported? {reported : List Diagnostic}
    (hcheck : r.check.RepairsOnly allowed) (h : site.reported? d r = some reported) :
    Diagnostic.RepairsOnly allowed reported := by
  -- nothing is reported unless the check is one for the kind of the part
  cases site <;> cases hr : r.check <;>
    simp only [reported?, hr, reduceCtorEq, Option.some.injEq] at h <;> rw [hr] at hcheck <;>
    subst h
  case dashboard.dashboard => exact hcheck d
  case panel.panel p _ => exact hcheck d p
  case target.target p _ t _ => exact hcheck d p t
  case template.template t _ => exact hcheck d t

/-- The repair of a finding is one that its rule reports: a check that passed has none. -/
theorem allowed_of_mem_findings {place : DashboardPlace} {f : Finding} {fix : Fix}
    (hcheck : r.check.RepairsOnly allowed) (h : f ∈ site.findings place d r)
    (hfix : f.raw.fix = some fix) : allowed fix := by
  unfold findings at h
  split at h
  · exact absurd h List.not_mem_nil
  · rw [List.mem_singleton.mp h] at hfix
    exact absurd hfix (by simp [finding, Diagnostic.success])
  · next hreported =>
      obtain ⟨raw, hraw, rfl⟩ := List.mem_map.mp h
      exact repairsOnly_of_reported? hcheck hreported raw hraw fix hfix

end Site

end BoardLint
