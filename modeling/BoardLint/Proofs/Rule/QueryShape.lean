import BoardLint.Proofs.Query.Places
import BoardLint.Proofs.Rule.Dispatch
import BoardLint.Proofs.Rule.MatcherRepair

set_option autoImplicit false

/-! # What the rules on the shape of queries decide

The rules on rates, counters and histograms look at a query by walking through it. Here is what they
decide in terms of the places of the query: which expression stands where, and what stands around
it. A rule reports exactly if there is an offending place, and the text that it quotes is that of
the first one (`Rule.queryShape_decided`). -/

namespace BoardLint

theorem Text.endsIn_iff {ending s : String} :
    Text.endsIn ending s = true ↔ ending.toList <:+ s.toList := by
  rw [Text.endsIn, Option.isSome_iff_exists]
  exact exists_congr fun front => Text.before?_eq_some_iff.trans eq_comm

/-! ## Offending places -/

namespace Expr

/-- One of the given functions is called at a place. -/
def CallsAt (e : Expr) (names : List String) (a : Place) : Prop :=
  ∃ f args, e.at? a = some (.call f args) ∧ f ∈ names

/-- One of the given functions is called directly around a place. -/
def CallsAround (e : Expr) (names : List String) (a : Place) : Prop :=
  ∃ around i, a = around ++ [i] ∧ e.CallsAt names around

/-- A selector, of a range or not, of a metric whose name has an ending stands at a place. -/
def SelectsAt (e : Expr) (ending : String) (a : Place) : Prop :=
  ∃ x s name, e.at? a = some x ∧ x.selector? = some s ∧ s.metricName? = some name ∧
    ending.toList <:+ name.toList

/-- A range of a length stands at a place. -/
def RangesAt (e : Expr) (range : Duration) (a : Place) : Prop :=
  ∃ s, e.at? a = some (.matrix s range)

/-- Buckets are selected at a place, and no quantile is called anywhere around it. -/
def BareBucket (e : Expr) (a : Place) : Prop :=
  e.SelectsAt "_bucket" a ∧ ∀ k < a.length, ¬ e.CallsAt ["histogram_quantile"] (a.take k)

/-- A counter is selected at a place, and it is no range directly under a rate. -/
def BareCounter (e : Expr) (a : Place) : Prop :=
  e.SelectsAt "_total" a ∧
    ¬ ((∃ range, e.RangesAt range a) ∧ e.CallsAround ["rate", "irate", "increase"] a)

end Expr

/-- The length of time that stands for the rate interval in a query, in one of its spellings. -/
def ExpandedQuery.RateInterval (q : ExpandedQuery) (range : Duration) : Prop :=
  ∃ reference ∈ Variable.spellings "__rate_interval", ∃ n,
    q.table.placeholder? reference.toList = some (.seconds n) ∧ range = Duration.ofSeconds n

/-- A range directly under a rate stands at a place, and it is not the rate interval. -/
def ExpandedQuery.FixedRate (q : ExpandedQuery) (a : Expr.Place) : Prop :=
  ∃ range, q.expr.RangesAt range a ∧ q.expr.CallsAround ["rate", "irate"] a ∧
    ¬ q.RateInterval range

/-! ## What a visit tells of its place -/

section Visits

open BoardLint.Expr

variable {e : Expr} {a : Place} {v : Visit}

theorem Expr.callName?_eq_some_iff {x : Expr} {f : String} :
    x.callName? = some f ↔ ∃ args, x = .call f args := by
  cases x <;> simp [callName?, eq_comm]

/-- What is directly around a place stands last on the path of its visit. -/
theorem Expr.Visit.IsAt.getLast?_path (hv : v.IsAt e a) {x : Expr} :
    v.path.getLast? = some x ↔ ∃ around i, a = around ++ [i] ∧ e.at? around = some x := by
  rcases List.eq_nil_or_concat a with rfl | ⟨around, i, rfl⟩
  · have hpath : v.path = [] := List.eq_nil_of_length_eq_zero hv.length
    simp [hpath]
  · have hpath := hv.path around.length (by simp)
    rw [List.concat_eq_append, List.take_left' rfl] at hpath
    have hlength : v.path.length - 1 = around.length := by
      rw [hv.length]
      simp
    rw [List.getLast?_eq_getElem?, hlength, hpath]
    simp

theorem Expr.Visit.IsAt.mem_path (hv : v.IsAt e a) {x : Expr} :
    x ∈ v.path ↔ ∃ k < a.length, e.at? (a.take k) = some x := by
  rw [List.mem_iff_getElem?]
  refine exists_congr fun k => ?_
  by_cases hk : k < a.length
  · rw [hv.path k hk]
    exact (and_iff_right hk).symm
  · rw [List.getElem?_eq_none (by rw [hv.length]; omega)]
    simp [hk]

namespace Rule

theorem isDirectlyIn_iff (hv : v.IsAt e a) {names : List String} :
    isDirectlyIn names v = true ↔ e.CallsAround names a := by
  simp only [isDirectlyIn, Option.any_eq_true, Option.bind_eq_some_iff, hv.getLast?_path,
    callName?_eq_some_iff, List.contains_iff_mem]
  constructor
  · rintro ⟨f, ⟨_, ⟨around, i, ha, hat⟩, args, rfl⟩, hf⟩
    exact ⟨around, i, ha, f, args, hat, hf⟩
  · rintro ⟨around, i, ha, f, args, hat, hf⟩
    exact ⟨f, ⟨_, ⟨around, i, ha, hat⟩, args, rfl⟩, hf⟩

theorem selectsEnding_iff (hv : v.IsAt e a) {ending : String} :
    selectsEnding ending v = true ↔ e.SelectsAt ending a := by
  simp only [selectsEnding, Option.any_eq_true, Option.bind_eq_some_iff, Text.endsIn_iff]
  constructor
  · rintro ⟨name, ⟨s, hs, hname⟩, hending⟩
    exact ⟨v.expr, s, name, hv.expr, hs, hname, hending⟩
  · rintro ⟨x, s, name, hx, hs, hname, hending⟩
    obtain rfl := Option.some.inj (hv.expr.symm.trans hx)
    exact ⟨name, ⟨s, hs, hname⟩, hending⟩

theorem isRange_iff (hv : v.IsAt e a) : isRange v = true ↔ ∃ range, e.RangesAt range a := by
  unfold isRange
  simp only [RangesAt, hv.expr, Option.some.injEq]
  split
  · next s range hexpr => exact iff_of_true rfl ⟨range, s, hexpr⟩
  · next hexpr =>
      refine iff_of_false Bool.false_ne_true ?_
      rintro ⟨range, s, hrange⟩
      exact hexpr s range hrange

theorem isBareBucket_iff (hv : v.IsAt e a) : isBareBucket v = true ↔ e.BareBucket a := by
  have hpath : (v.path.any fun x => x.callName? == some "histogram_quantile") = true ↔
      ∃ k < a.length, e.CallsAt ["histogram_quantile"] (a.take k) := by
    simp only [List.any_eq_true, hv.mem_path, beq_iff_eq, callName?_eq_some_iff, CallsAt,
      List.mem_singleton]
    constructor
    · rintro ⟨_, ⟨k, hk, hat⟩, args, rfl⟩
      exact ⟨k, hk, _, args, hat, rfl⟩
    · rintro ⟨k, hk, _, args, hat, rfl⟩
      exact ⟨_, ⟨k, hk, hat⟩, args, rfl⟩
  rw [isBareBucket, Bool.and_eq_true, selectsEnding_iff hv, Bool.not_eq_true', ← Bool.not_eq_true,
    hpath, BareBucket]
  simp only [not_exists, not_and]

theorem isBareCounter_iff (hv : v.IsAt e a) : isBareCounter v = true ↔ e.BareCounter a := by
  rw [isBareCounter, Bool.and_eq_true, selectsEnding_iff hv, Bool.not_eq_true', ← Bool.not_eq_true,
    Bool.and_eq_true, isRange_iff hv, isDirectlyIn_iff hv, BareCounter]

theorem isRateInterval_iff {q : ExpandedQuery} {range : Duration} :
    q.isRateInterval range = true ↔ q.RateInterval range := by
  rw [ExpandedQuery.isRateInterval, List.any_eq_true]
  refine exists_congr fun reference => and_congr_right fun _ => ?_
  cases q.table.placeholder? reference.toList with
  | none => simp
  | some p =>
      cases p with
      | seconds n =>
          rw [beq_iff_eq]
          exact ⟨fun h => ⟨n, rfl, h.symm⟩, fun ⟨_, hn, h⟩ => by cases hn; exact h.symm⟩
      | instant n => simp
      | word name counter => simp

theorem isFixedRate_iff {q : ExpandedQuery} (hv : v.IsAt q.expr a) :
    isFixedRate q v = true ↔ q.FixedRate a := by
  unfold isFixedRate
  simp only [ExpandedQuery.FixedRate, RangesAt, hv.expr, Option.some.injEq]
  split
  · next s range hexpr =>
      rw [Bool.and_eq_true, Bool.not_eq_true', ← Bool.not_eq_true, isRateInterval_iff,
        isDirectlyIn_iff hv]
      constructor
      · rintro ⟨hrange, hcalls⟩
        exact ⟨range, ⟨s, hexpr⟩, hcalls, hrange⟩
      · rintro ⟨range', ⟨s', hexpr'⟩, hcalls, hrange⟩
        obtain ⟨-, rfl⟩ := Expr.matrix.inj (hexpr.symm.trans hexpr')
        exact ⟨hrange, hcalls⟩
  · next hexpr =>
      refine iff_of_false Bool.false_ne_true ?_
      rintro ⟨range, ⟨s, hrange⟩, -⟩
      exact hexpr s range hrange

end Rule

end Visits

/-! ## What is reported -/

namespace Rule

open BoardLint.Expr

/-- What is reported of a query is whether there are offending places, and if there are, the text of
    the first one. -/
structure QuotesFirst (q : ExpandedQuery) (Offends : Place → Prop) (message : String → String)
    (reported : List Diagnostic) : Prop where
  silent : reported = [] ↔ ∀ a, ¬ Offends a
  quoted : ∀ a, Offends a → ∃ first x, Offends first ∧ (∀ b, Place.Before b first → ¬ Offends b) ∧
    q.expr.at? first = some x ∧ reported = [.error (message (q.revert x))]

theorem query?_eq_some_iff {d : Dashboard} {t : Target} {q : ExpandedQuery} :
    query? d t = some q ↔ ExpandedQuery.parse t.expr d.templates = .ok q := by
  unfold query?
  cases ExpandedQuery.parse t.expr d.templates <;> simp [Except.toOption]

theorem firstOffence?_eq {d : Dashboard} {t : Target} {q : ExpandedQuery}
    (hq : query? d t = some q) (isOffence : Visit → Bool) :
    firstOffence? d t isOffence =
      (q.expr.walk.find? isOffence).map fun v => q.revert v.expr := by
  rw [firstOffence?, hq]
  show (q.expr.walk.find? isOffence).bind (fun v => some (q.revert v.expr)) = _
  cases q.expr.walk.find? isOffence <;> rfl

/-- A rule that asks for the first offence of a walk quotes the first offending place. -/
theorem quotesFirst_of_iff {d : Dashboard} {t : Target} {q : ExpandedQuery}
    (hq : query? d t = some q) {isOffence : Visit → Bool} {Offends : Place → Prop}
    (hiff : ∀ a v, v.IsAt q.expr a → (isOffence v = true ↔ Offends a))
    (hplace : ∀ a, Offends a → ∃ x, q.expr.at? a = some x) (message : String → String) :
    QuotesFirst q Offends message
      (Diagnostic.ofProblem ((firstOffence? d t isOffence).map message)) := by
  have hvisit : ∀ a, Offends a → ∃ v : Visit, v.IsAt q.expr a ∧ isOffence v = true := by
    intro a ha
    obtain ⟨x, hx⟩ := hplace a ha
    obtain ⟨v, hv, -⟩ := exists_isAt hx
    exact ⟨v, hv, (hiff a v hv).mpr ha⟩
  rw [firstOffence?_eq hq]
  cases hfind : q.expr.walk.find? isOffence with
  | none =>
      have hnone : ∀ a, ¬ Offends a := by
        intro a ha
        obtain ⟨v, hv, hoffends⟩ := hvisit a ha
        rw [find?_walk_eq_none.mp hfind a v hv] at hoffends
        exact Bool.false_ne_true hoffends
      exact ⟨iff_of_true rfl hnone, fun a ha => absurd ha (hnone a)⟩
  | some v =>
      obtain ⟨first, hv, hoffends, hearlier⟩ := find?_walk_eq_some hfind
      have hfirst := (hiff first v hv).mp hoffends
      refine ⟨iff_of_false (List.cons_ne_nil _ _) fun h => h first hfirst, fun _ _ => ?_⟩
      refine ⟨first, v.expr, hfirst, fun b hb hoffends => ?_, hv.expr, rfl⟩
      obtain ⟨w, hw, hoffends⟩ := hvisit b hoffends
      rw [hearlier b w hb hw] at hoffends
      exact Bool.false_ne_true hoffends

theorem exists_at?_of_selectsAt {e : Expr} {ending : String} {a : Place}
    (h : e.SelectsAt ending a) : ∃ x, e.at? a = some x := by
  obtain ⟨x, -, -, hx, -⟩ := h
  exact ⟨x, hx⟩

section Targets

variable {d : Dashboard} {t : Target} {q : ExpandedQuery}

/-- A walk comes to an offending place exactly if there is one. -/
theorem any_isFixedRate_iff : q.expr.walk.any (isFixedRate q) = true ↔ ∃ a, q.FixedRate a := by
  simp only [List.any_eq_true, mem_walk_iff]
  constructor
  · rintro ⟨v, ⟨a, hv⟩, hfixed⟩
    exact ⟨a, (isFixedRate_iff hv).mp hfixed⟩
  · rintro ⟨a, range, ⟨s, hx⟩, hfixed⟩
    obtain ⟨v, hv, -⟩ := exists_isAt hx
    exact ⟨v, ⟨a, hv⟩, (isFixedRate_iff hv).mpr ⟨range, ⟨s, hx⟩, hfixed⟩⟩

theorem reported?_rateInterval (hq : query? d t = some q) {p : Panel}
    (hprometheus : d.isPrometheus = true) (hqueries : p.hasQueries = true) (i j : Nat) :
    (Site.target i p j t).reported? d rateInterval =
      some (if q.expr.walk.any (isFixedRate q) then
        [.error (invalidQuery t.expr "should use $__rate_interval")] else []) := by
  simp only [Site.reported?, rateInterval, new, prometheusQuery?, hprometheus, if_true, hq,
    hqueries, Bool.true_and]

/-- **The rules on the shape of queries decide conditions on places.** A walk shows every place of
    an expression once and in order, with what stands around it. So of a query that can be read, the
    rules on histograms and on counters report exactly if buckets or counters are selected at an
    offending place, and they quote the first such place; the rule on rates reports exactly if there
    is a range directly under a rate that is not the rate interval. -/
theorem queryShape_decided (h : ExpandedQuery.parse t.expr d.templates = .ok q) (p : Panel)
    (i j : Nat) :
    (∀ e : Expr, ∃ places, e.Shows places e.walk) ∧
    (∃ reported, (Site.target i p j t).reported? d histogramQuantile = some reported ∧
      QuotesFirst q q.expr.BareBucket (fun text =>
        "histogram metric '" ++ text ++ "' is not calculated in a histogram function") reported) ∧
    (∃ reported, (Site.target i p j t).reported? d counterAggregation = some reported ∧
      QuotesFirst q q.expr.BareCounter (fun text =>
        "counter metric '" ++ text ++ "' is not aggregated with rate, irate, or increase")
        reported) ∧
    (d.isPrometheus = true → p.hasQueries = true →
      ∃ reported, (Site.target i p j t).reported? d rateInterval = some reported ∧
        (reported = [] ↔ ∀ a, ¬ q.FixedRate a) ∧
        ((∃ a, q.FixedRate a) →
          reported = [.error (invalidQuery t.expr "should use $__rate_interval")])) := by
  have hq := query?_eq_some_iff.mpr h
  refine ⟨walk_shows, ⟨_, rfl, ?_⟩, ⟨_, rfl, ?_⟩, fun hprometheus hqueries =>
    ⟨_, reported?_rateInterval hq hprometheus hqueries i j, ?_⟩⟩
  · exact quotesFirst_of_iff hq (fun _ _ => isBareBucket_iff)
      (fun _ ha => exists_at?_of_selectsAt ha.1) _
  · exact quotesFirst_of_iff hq (fun _ _ => isBareCounter_iff)
      (fun _ ha => exists_at?_of_selectsAt ha.1) _
  · by_cases hfixed : ∃ a, q.FixedRate a
    · rw [if_pos (any_isFixedRate_iff.mpr hfixed)]
      exact ⟨iff_of_false (List.cons_ne_nil _ _) (not_forall_not.mpr hfixed), fun _ => rfl⟩
    · rw [if_neg (mt any_isFixedRate_iff.mp hfixed)]
      exact ⟨iff_of_true rfl (not_exists.mp hfixed), fun h => absurd h hfixed⟩

end Targets

/-- A quantile on the left does not excuse the buckets on the right, and those are quoted. -/
theorem queryShape_decided_sibling :
    let t : Target := { (default : Target) with
      expr := "histogram_quantile(0.9, a_bucket) + b_bucket" }
    ∃ q, ExpandedQuery.parse t.expr (default : Dashboard).templates = .ok q ∧
      q.expr.CallsAt ["histogram_quantile"] [0] ∧ q.expr.BareBucket [1] ∧
      (Site.target 0 default 0 t).reported? default histogramQuantile = some [.error
        "histogram metric 'b_bucket' is not calculated in a histogram function"] := by
  intro t
  have hsame : ∀ table : Table,
      table.substitute "histogram_quantile(0.9, a_bucket) + b_bucket".toList =
        (table, .ok "histogram_quantile(0.9, a_bucket) + b_bucket".toList) := fun _ => rfl
  have hshape : ((Query.parse? t.expr).map fun e => ((e.at? []).bind callName?,
      (e.at? [0]).bind callName?, ((e.at? [1]).bind selector?).bind Selector.metricName?,
      (e.walk.filter isBareBucket).map (·.expr.chars))) =
      some (none, some "histogram_quantile", some "b_bucket", ["b_bucket".toList]) := by
    decide +kernel
  obtain ⟨e, hparse, hshape⟩ := Option.map_eq_some_iff.mp hshape
  simp only [Prod.mk.injEq, Option.bind_eq_some_iff] at hshape
  obtain ⟨hroot, ⟨x, hx, hcall⟩, ⟨s, ⟨y, hy, hs⟩, hname⟩, hbuckets⟩ := hshape
  obtain ⟨table, hconsistent, hq⟩ : ∃ table : Table, table.Consistent ∧
      ExpandedQuery.parse t.expr (default : Dashboard).templates =
        .ok ⟨table, t.expr.toList, e⟩ :=
    ExpandedQuery.parse_of_unchanged (by decide) hsame hparse
  have hbare : e.BareBucket [1] := by
    refine ⟨⟨y, s, _, hy, hs, hname, by decide⟩, ?_⟩
    rintro k hk ⟨f, args, hat, -⟩
    obtain rfl : k = 0 := by simpa using hk
    rw [List.take_zero] at hat
    rw [hat] at hroot
    exact absurd hroot (by simp [callName?])
  refine ⟨_, hq, ?_, hbare, ?_⟩
  · obtain ⟨args, rfl⟩ := callName?_eq_some_iff.mp hcall
    exact ⟨_, args, hx, List.mem_singleton_self _⟩
  · obtain ⟨-, ⟨reported, hreported, -, hquoted⟩, -⟩ := queryShape_decided hq default 0 0
    obtain ⟨first, z, hfirst, -, hz, rfl⟩ := hquoted [1] hbare
    rw [hreported]
    obtain ⟨v, hv, rfl⟩ := exists_isAt hz
    have hmem : v.expr.chars ∈ (e.walk.filter isBareBucket).map (·.expr.chars) :=
      List.mem_map_of_mem (List.mem_filter.mpr
        ⟨mem_walk_iff.mpr ⟨first, hv⟩, (isBareBucket_iff hv).mpr hfirst⟩)
    rw [hbuckets, List.mem_singleton] at hmem
    have hrevert : table.revert "b_bucket".toList = "b_bucket".toList :=
      hconsistent.revert_eq_self (by decide +kernel)
    simp only [ExpandedQuery.revert, hmem, hrevert]
    rfl

end Rule

end BoardLint
