import BoardLint.Proofs.Query.RequiredMatchers
import BoardLint.Proofs.Query.Visits
import BoardLint.Proofs.Rule.QueryShape

set_option autoImplicit false

/-! # Rules that a set matcher leaves alone

Setting a required matcher changes the selectors of a query, and the rules on the shape of queries
read selectors too: their metrics, which may be given by a matcher. Still no such rule can see the
change, as long as the matcher is not for the name of the metric. A walk through the changed query
comes to the same places, and what it shows there looks alike to these rules (`Visit.Alike`). So
their verdicts stay (`Rule.verdicts_setMatcher`). -/

namespace BoardLint

/-! ## Names of metrics -/

namespace Selector

theorem name_setMatcher (r : Matcher) (s : Selector) : (s.setMatcher r).name = s.name := by
  have hrest := withoutMatchers_setMatcher r s
  simp only [withoutMatchers, Selector.mk.injEq] at hrest
  exact hrest.1

/-- A matcher for another label does not change the name of the metric. -/
theorem metricName?_setMatcher {r : Matcher} (hname : r.name ≠ Matcher.metricLabel)
    (s : Selector) : (s.setMatcher r).metricName? = s.metricName? := by
  -- the matcher that names a metric is among those for other labels, which all stay
  have hothers : ∀ ms : List Matcher,
      (ms.find? fun m => m.name == Matcher.metricLabel && m.op == .equal) =
        (ms.filter fun m => m.name ∉ [r.name]).find? fun m =>
          m.name == Matcher.metricLabel && m.op == .equal := by
    intro ms
    rw [List.find?_filter]
    congr 1
    funext m
    by_cases hm : m.name = Matcher.metricLabel
    · simp [hm, hname.symm, beq_eq_decide]
    · simp [hm]
  unfold metricName?
  rw [name_setMatcher, hothers, filter_matchers_setMatcher (List.mem_singleton_self r.name),
    ← hothers]

end Selector

/-! ## Walks through a changed query -/

namespace Expr

/-- The range of a selector that has one. -/
def rangeOf? : Expr → Option Duration
  | .matrix _ range => some range
  | _ => none

theorem eq_vector_of_selector? {e : Expr} {s : Selector} (hs : e.selector? = some s)
    (hrange : e.rangeOf? = none) : e = .vector s := by
  cases e <;> simp_all [selector?, rangeOf?]

/-- The visit of the same place after a change of the selectors. -/
def Visit.mapSelectors (f : Selector → Selector) (v : Visit) : Visit :=
  ⟨v.path.map (Expr.mapSelectors f), v.expr.mapSelectors f⟩

variable (f : Selector → Selector)

theorem kind_head (e : Expr) : e.head.kind = e.kind := by cases e <;> rfl

theorem callName?_head (e : Expr) : e.head.callName? = e.callName? := by cases e <;> rfl

theorem rangeOf?_head (e : Expr) : e.head.rangeOf? = e.rangeOf? := by cases e <;> rfl

/-- What can be read off the head of an expression stays. -/
theorem read_mapSelectors {β : Type} {read : Expr → β} (hread : ∀ e : Expr, read e.head = read e)
    (e : Expr) : read (e.mapSelectors f) = read e := by
  rw [← hread, head_mapSelectors, hread]

theorem at?_mapSelectors (e : Expr) (a : Place) :
    (e.mapSelectors f).at? a = (e.at? a).map (Expr.mapSelectors f) := by
  induction a generalizing e with
  | nil => rfl
  | cons i rest ih =>
      rw [at?, at?, children_mapSelectors, List.getElem?_map]
      cases e.children[i]? with
      | none => rfl
      | some part => exact ih part

/-- A walk through the changed query shows the changed visits, in the same order. -/
theorem walk_mapSelectors (e : Expr) :
    (e.mapSelectors f).walk = e.walk.map (Visit.mapSelectors f) := by
  induction e using children_induction with
  | parts e ih =>
      rw [walk_eq, walk_eq e, children_mapSelectors, List.map_cons, List.map_flatMap,
        List.flatMap_map]
      congr 1
      refine List.flatMap_congr fun part hpart => ?_
      rw [ih part hpart, List.map_map, List.map_map]
      rfl

theorem Visit.IsAt.mapSelectors {e : Expr} {a : Place} {v : Visit} (h : v.IsAt e a) :
    (v.mapSelectors f).IsAt (e.mapSelectors f) a where
  expr := by
    rw [at?_mapSelectors, h.expr]
    rfl
  length := by rw [Visit.mapSelectors, List.length_map, h.length]
  path := by
    intro k hk
    rw [Visit.mapSelectors, List.getElem?_map, h.path k hk, at?_mapSelectors]

/-- The places of a query stay. -/
theorem Shows.mapSelectors {e : Expr} {places : List Place} (h : Shows e places e.walk) :
    Shows (e.mapSelectors f) places (e.mapSelectors f).walk where
  increasing := h.increasing
  complete := by
    intro a
    rw [h.complete, at?_mapSelectors, Option.isSome_map]
  shown := by
    rw [walk_mapSelectors, List.forall₂_map_right_iff]
    exact h.shown.imp fun _ _ hv => hv.mapSelectors f

/-- Two visits look alike to a rule on the shape of queries: the expressions are of one kind, with
    the same range and the same metric, and so are the kinds and the functions around them. -/
structure Visit.Alike (v v' : Visit) : Prop where
  kind : v'.expr.kind = v.expr.kind
  range : v'.expr.rangeOf? = v.expr.rangeOf?
  metric : v'.expr.selector?.bind Selector.metricName? = v.expr.selector?.bind Selector.metricName?
  kinds : v'.path.map Expr.kind = v.path.map Expr.kind
  calls : v'.path.map callName? = v.path.map callName?

theorem Visit.alike_mapSelectors {f : Selector → Selector}
    (hmetric : ∀ s, (f s).metricName? = s.metricName?) (v : Visit) :
    v.Alike (v.mapSelectors f) where
  kind := read_mapSelectors f kind_head v.expr
  range := read_mapSelectors f rangeOf?_head v.expr
  metric := by
    rw [Visit.mapSelectors, selector?_mapSelectors]
    cases v.expr.selector? with
    | none => rfl
    | some s => exact hmetric s
  kinds := by
    rw [Visit.mapSelectors, List.map_map]
    exact List.map_congr_left fun e _ => read_mapSelectors f kind_head e
  calls := by
    rw [Visit.mapSelectors, List.map_map]
    exact List.map_congr_left fun e _ => read_mapSelectors f callName?_head e

end Expr

/-! ## Verdicts -/

namespace Rule

open BoardLint.Expr

section Alike

variable {v v' : Visit}

theorem isDirectlyIn_of_alike (h : v.Alike v') (names : List String) :
    isDirectlyIn names v' = isDirectlyIn names v := by
  have hcall : ∀ w : Visit,
      w.path.getLast?.bind callName? = (w.path.map callName?).getLast?.join := by
    intro w
    rw [List.getLast?_map]
    cases w.path.getLast? <;> rfl
  rw [isDirectlyIn, isDirectlyIn, hcall, hcall, h.calls]

theorem isRange_eq (v : Visit) : isRange v = v.expr.rangeOf?.isSome := by
  unfold isRange
  cases v.expr <;> rfl

theorem isFixedRate_eq (q : ExpandedQuery) (v : Visit) : isFixedRate q v =
    v.expr.rangeOf?.any fun range =>
      !q.isRateInterval range && isDirectlyIn ["rate", "irate"] v := by
  unfold isFixedRate
  cases v.expr <;> rfl

theorem isFixedRate_of_alike {q q' : ExpandedQuery}
    (hinterval : ∀ range, q'.isRateInterval range = q.isRateInterval range) (h : v.Alike v') :
    isFixedRate q' v' = isFixedRate q v := by
  simp only [isFixedRate_eq, h.range, isDirectlyIn_of_alike h, hinterval]

theorem isBareCounter_of_alike (h : v.Alike v') : isBareCounter v' = isBareCounter v := by
  simp only [isBareCounter, selectsEnding, isRange_eq, h.metric, h.range, isDirectlyIn_of_alike h]

theorem isBareBucket_of_alike (h : v.Alike v') : isBareBucket v' = isBareBucket v := by
  have hcalls : ∀ w : Visit, (w.path.any fun e => e.callName? == some "histogram_quantile") =
      (w.path.map callName?).any (· == some "histogram_quantile") := by
    intro w
    rw [List.any_map]
    rfl
  simp only [isBareBucket, selectsEnding, h.metric, hcalls, h.calls]

/-- If two walks look alike and so do the verdicts on what looks alike, then the verdicts on the
    walks are the same at every step. -/
theorem map_eq_of_alike {β : Type} {verdict verdict' : Visit → β} {visits visits' : List Visit}
    (hverdict : ∀ v v', Visit.Alike v v' → verdict' v' = verdict v)
    (h : List.Forall₂ Visit.Alike visits visits') :
    visits'.map verdict' = visits.map verdict := by
  induction h with
  | nil => rfl
  | cons hfirst _ ih => rw [List.map_cons, List.map_cons, hverdict _ _ hfirst, ih]

end Alike

end Rule

/-! ## The rate interval -/

theorem ExpandedQuery.grows_of_parse {text : String} {templates : List Template}
    {q : ExpandedQuery} (h : ExpandedQuery.parse text templates = .ok q) :
    Table.initial.Grows q.table := by
  unfold parse at h
  split at h
  · exact absurd h (by simp)
  · next table hregister =>
      have hgrows := (Table.register?_grows hregister).trans (Table.substitute_grows text.toList)
      split at h
      · exact absurd h (by simp)
      · next expanded hsubstitute =>
          rw [hsubstitute] at hgrows
          split at h
          · obtain rfl := Except.ok.inj h
            exact hgrows
          · exact absurd h (by simp)

/-- All queries agree on what the rate interval is, since it has its placeholders from the
    beginning. -/
theorem ExpandedQuery.isRateInterval_eq {q q' : ExpandedQuery} (h : Table.initial.Grows q.table)
    (h' : Table.initial.Grows q'.table) (range : Duration) :
    q'.isRateInterval range = q.isRateInterval range := by
  rw [Bool.eq_iff_iff, Rule.isRateInterval_iff, Rule.isRateInterval_iff]
  refine exists_congr fun v => and_congr_right fun hv => ?_
  obtain ⟨p, hp⟩ := Table.initial_knows (g := ("__rate_interval", .timeRange)) List.mem_cons_self hv
  rw [h.placeholder? Table.initial_consistent hp, h'.placeholder? Table.initial_consistent hp]

namespace Rule

open BoardLint.Expr

section Targets

variable {d : Dashboard} {t : Target} {q : ExpandedQuery}

theorem firstOffence?_eq_none_iff (hq : query? d t = some q) {isOffence : Visit → Bool} :
    firstOffence? d t isOffence = none ↔ true ∉ q.expr.walk.map isOffence := by
  rw [firstOffence?_eq hq, Option.map_eq_none_iff, List.find?_eq_none, List.mem_map]
  simp

theorem ofProblem_map_eq_nil_iff {problem : Option String} {message : String → String} :
    Diagnostic.ofProblem (problem.map message) = [] ↔ problem = none := by
  cases problem <;> simp [Diagnostic.ofProblem]

/-- A rule reports something at a part of a dashboard. -/
def Reports (rule : Rule) (d : Dashboard) (site : Site) : Prop :=
  ∃ first rest, site.reported? d rule = some (first :: rest)

theorem reports_iff {rule : Rule} {site : Site} {reported : List Diagnostic}
    (h : site.reported? d rule = some reported) : rule.Reports d site ↔ reported ≠ [] := by
  rw [Reports, h]
  cases reported <;> simp

theorem reports_rateInterval_iff (hq : query? d t = some q) {i j : Nat} {p : Panel} :
    rateInterval.Reports d (.target i p j t) ↔ d.isPrometheus = true ∧ p.hasQueries = true ∧
      true ∈ q.expr.walk.map (isFixedRate q) := by
  have hany : q.expr.walk.any (isFixedRate q) = true ↔ true ∈ q.expr.walk.map (isFixedRate q) := by
    rw [List.any_eq_true, List.mem_map]
  rw [reports_iff rfl, ← hany]
  by_cases hprometheus : d.isPrometheus = true
  · by_cases hqueries : p.hasQueries = true
    · by_cases hfixed : q.expr.walk.any (isFixedRate q) = true <;>
        simp [prometheusQuery?, hq, hprometheus, hqueries, hfixed]
    · simp [prometheusQuery?, hq, hprometheus, hqueries]
  · simp [prometheusQuery?, hprometheus]

/-- A rule that asks for the first offence of a walk reports exactly if there is one. -/
theorem reports_firstOffence_iff (hq : query? d t = some q) {rule : Rule} {site : Site}
    {isOffence : Visit → Bool} {message : String → String}
    (h : site.reported? d rule =
      some (Diagnostic.ofProblem ((firstOffence? d t isOffence).map message))) :
    rule.Reports d site ↔ true ∈ q.expr.walk.map isOffence := by
  rw [reports_iff h, ne_eq, ofProblem_map_eq_nil_iff, firstOffence?_eq_none_iff hq, not_not]

theorem reports_counterAggregation_iff (hq : query? d t = some q) {i j : Nat} {p : Panel} :
    counterAggregation.Reports d (.target i p j t) ↔ true ∈ q.expr.walk.map isBareCounter :=
  reports_firstOffence_iff hq rfl

theorem reports_histogramQuantile_iff (hq : query? d t = some q) {i j : Nat} {p : Panel} :
    histogramQuantile.Reports d (.target i p j t) ↔ true ∈ q.expr.walk.map isBareBucket :=
  reports_firstOffence_iff hq rfl

end Targets

/-- **A set matcher does not disturb the rules on the shape of queries.** Let a matcher for any
    label but the name of the metric be set on every selector of a query. A walk through the query
    comes to the same places as before; the expressions there and those around them are of the same
    kinds and call the same functions; every selector keeps its metric and every range its length.
    So the rules on rates, counters and histograms find an offence exactly where they did, and they
    report on a target with the changed query exactly if they reported before. -/
theorem verdicts_setMatcher {r : Matcher} (hname : r.name ≠ Matcher.metricLabel)
    (hset : r.isSettable = true) (e : Expr) :
    ∃ e', e.setMatcher? r = some e' ∧
      (∃ places, Shows e places e.walk ∧ Shows e' places e'.walk) ∧
      List.Forall₂ Visit.Alike e.walk e'.walk ∧
      e'.selectors.map Selector.metricName? = e.selectors.map Selector.metricName? ∧
      (∀ q, e'.walk.map (isFixedRate q) = e.walk.map (isFixedRate q)) ∧
      e'.walk.map isBareCounter = e.walk.map isBareCounter ∧
      e'.walk.map isBareBucket = e.walk.map isBareBucket ∧
      ∀ (d : Dashboard) (i j : Nat) (p : Panel) (t t' : Target) (q q' : ExpandedQuery),
        ExpandedQuery.parse t.expr d.templates = .ok q →
        ExpandedQuery.parse t'.expr d.templates = .ok q' → q.expr = e → q'.expr = e' →
        ∀ rule ∈ [rateInterval, counterAggregation, histogramQuantile],
          (rule.Reports d (.target i p j t') ↔ rule.Reports d (.target i p j t)) := by
  have hmetric := Selector.metricName?_setMatcher hname
  obtain ⟨places, hplaces⟩ := walk_shows e
  have halike : List.Forall₂ Visit.Alike e.walk (e.mapSelectors (Selector.setMatcher r)).walk := by
    rw [walk_mapSelectors, List.forall₂_map_right_iff]
    exact List.forall₂_same.mpr fun v _ => Visit.alike_mapSelectors hmetric v
  have hcounters := map_eq_of_alike (fun _ _ => isBareCounter_of_alike) halike
  have hbuckets := map_eq_of_alike (fun _ _ => isBareBucket_of_alike) halike
  refine ⟨e.mapSelectors (Selector.setMatcher r), ?_, ⟨places, hplaces, hplaces.mapSelectors _⟩,
    halike, ?_, fun q => map_eq_of_alike (fun _ _ => isFixedRate_of_alike fun _ => rfl) halike,
    hcounters, hbuckets, ?_⟩
  · exact setMatcher?_of_isSettable hset e
  · rw [selectors_mapSelectors, List.map_map]
    exact List.map_congr_left fun s _ => hmetric s
  · rintro d i j p t t' q q' hparse hparse' rfl hexpr rule hrule
    have hq := query?_eq_some_iff.mpr hparse
    have hq' := query?_eq_some_iff.mpr hparse'
    have hinterval := ExpandedQuery.isRateInterval_eq (ExpandedQuery.grows_of_parse hparse)
      (ExpandedQuery.grows_of_parse hparse')
    have hrates := map_eq_of_alike (fun _ _ => isFixedRate_of_alike hinterval) halike
    simp only [List.mem_cons, List.not_mem_nil, or_false] at hrule
    rcases hrule with rfl | rfl | rfl
    · rw [reports_rateInterval_iff hq, reports_rateInterval_iff hq', hexpr, hrates]
    · rw [reports_counterAggregation_iff hq, reports_counterAggregation_iff hq', hexpr, hcounters]
    · rw [reports_histogramQuantile_iff hq, reports_histogramQuantile_iff hq', hexpr, hbuckets]

/-- A counter that is named by a matcher is still found when another matcher is set beside it. -/
theorem verdicts_setMatcher_named :
    let job : Matcher := ⟨"job", .equal, "node"⟩
    let t : Target := { (default : Target) with expr := "\x7b__name__=\"a_total\"\x7d" }
    let t' : Target := { (default : Target) with
      expr := "\x7b__name__=\"a_total\",job=\"node\"\x7d" }
    ∃ q q', ExpandedQuery.parse t.expr (default : Dashboard).templates = .ok q ∧
      ExpandedQuery.parse t'.expr (default : Dashboard).templates = .ok q' ∧
      job.name ≠ Matcher.metricLabel ∧ job.isSettable = true ∧
      q.expr.setMatcher? job = some q'.expr ∧
      counterAggregation.Reports default (.target 0 default 0 t) ∧
      counterAggregation.Reports default (.target 0 default 0 t') := by
  intro job t t'
  have hsame : ∀ table : Table, table.substitute "\x7b__name__=\"a_total\"\x7d".toList =
      (table, .ok "\x7b__name__=\"a_total\"\x7d".toList) := fun _ => rfl
  have hsame' : ∀ table : Table,
      table.substitute "\x7b__name__=\"a_total\",job=\"node\"\x7d".toList =
        (table, .ok "\x7b__name__=\"a_total\",job=\"node\"\x7d".toList) := fun _ => rfl
  let named (ms : List Matcher) : Selector :=
    ⟨none, ⟨"__name__", .equal, "a_total"⟩ :: ms, [], none, none⟩
  have hshape : ((Query.parse? t.expr).map fun e => (e.selector?, e.rangeOf?)) =
      some (some (named []), none) := by decide +kernel
  have hshape' : ((Query.parse? t'.expr).map fun e => (e.selector?, e.rangeOf?)) =
      some (some (named [job]), none) := by decide +kernel
  obtain ⟨e, hparse, he⟩ := Option.map_eq_some_iff.mp hshape
  obtain ⟨e', hparse', he'⟩ := Option.map_eq_some_iff.mp hshape'
  obtain rfl := eq_vector_of_selector? (Prod.mk.inj he).1 (Prod.mk.inj he).2
  obtain rfl := eq_vector_of_selector? (Prod.mk.inj he').1 (Prod.mk.inj he').2
  obtain ⟨table, -, hq⟩ : ∃ table : Table, table.Consistent ∧
      ExpandedQuery.parse t.expr (default : Dashboard).templates = .ok ⟨table, t.expr.toList, _⟩ :=
    ExpandedQuery.parse_of_unchanged (by decide) hsame hparse
  obtain ⟨table', -, hq'⟩ : ∃ table : Table, table.Consistent ∧
      ExpandedQuery.parse t'.expr (default : Dashboard).templates =
        .ok ⟨table, t'.expr.toList, _⟩ :=
    ExpandedQuery.parse_of_unchanged (by decide) hsame' hparse'
  have hname : job.name ≠ Matcher.metricLabel := by decide
  have hsettable : job.isSettable = true := by decide +kernel
  obtain ⟨changed, hset, -, -, -, -, -, -, hreports⟩ :=
    verdicts_setMatcher hname hsettable (.vector (named []))
  have hchanged : (Expr.vector (named [])).setMatcher? job = some (.vector (named [job])) := rfl
  obtain rfl := Option.some.inj (hset.symm.trans hchanged)
  have hbare : true ∈ (Expr.vector (named [])).walk.map isBareCounter := by decide +kernel
  have hreported : counterAggregation.Reports default (.target 0 default 0 t) :=
    (reports_counterAggregation_iff (query?_eq_some_iff.mpr hq)).mpr hbare
  exact ⟨_, _, hq, hq', hname, hsettable, hchanged, hreported,
    (hreports _ _ _ _ _ _ _ _ hq hq' rfl rfl counterAggregation (by simp)).mpr hreported⟩

end Rule

end BoardLint
