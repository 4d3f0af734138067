import BoardLint.Proofs.Dashboard.Frame
import BoardLint.Proofs.Query.Parallel
import BoardLint.Proofs.Query.RequiredMatchers
import BoardLint.Proofs.Rule.Repairs
import BoardLint.Proofs.Variable.Recognition

set_option autoImplicit false

/-! # Repairing the matchers of a target

A repair sets a matcher on the query of a target, prints the query, puts its variables back and
leaves it to the next reader to find the matcher there. The reader does find it if printed queries
are read as what was printed and written ones expand to what was printed
(`ExpandedQuery.IsFaithful`): then it sees the matchers that were set, in whatever order they were
printed (`ExpandedQuery.IsFaithful.exists_selector`). So the repair of a matcher makes the query
carry it, repairs of other labels keep it, and a target that carries all required matchers passes
the check. -/

namespace BoardLint

/-! ## What a query depends on

Repairs change when template variables are read again, which no query depends on. -/

section Templates

variable {templates templates' : List Template}

theorem Table.classify_frame (t : Table) (templates : List Template) (aliases : Nat)
    (template : Template) : t.classify (templates.map Template.frame) aliases template.frame =
      t.classify templates aliases template := by
  -- the step sees the chosen value only
  have hstep (follow : List Char → ValueKind) (x : Template) :
      t.classifyWith follow x.frame = t.classifyWith follow x := rfl
  induction aliases generalizing template with
  | zero => exact hstep _ template
  | succ aliases ih =>
      rw [classify, classify, hstep]
      congr 1
      funext name
      rw [List.find?_map]
      have hname : ((fun other : Template => other.name.toList == name) ∘ Template.frame) =
          fun other => other.name.toList == name := rfl
      rw [hname]
      cases templates.find? fun other => other.name.toList == name with
      | none => rfl
      | some other => exact ih other

theorem Table.register?_frame (t : Table) (templates : List Template) :
    t.register? (templates.map Template.frame) = t.register? templates := by
  unfold register?
  rw [List.filter_map, List.foldlM_map]
  simp only [Table.classify_frame]
  rfl

theorem ExpandedQuery.parse_congr (h : templates'.map Template.frame = templates.map Template.frame)
    (text : String) : parse text templates' = parse text templates := by
  unfold parse
  rw [← Table.register?_frame _ templates', h, Table.register?_frame]

theorem Rule.setMatcher_congr (h : templates'.map Template.frame = templates.map Template.frame)
    (m : Matcher) (t : Target) : setMatcher m templates' t = setMatcher m templates t := by
  unfold setMatcher
  rw [ExpandedQuery.parse_congr h]

/-- Setting a matcher depends on the query of a target only. -/
theorem Rule.setMatcher_idx (m : Matcher) (templates : List Template) (t : Target) (idx : Nat) :
    setMatcher m templates { t with idx := idx } =
      { setMatcher m templates t with idx := idx } := by
  unfold setMatcher
  cases ExpandedQuery.parse t.expr templates with
  | error e => rfl
  | ok q => cases h : q.expr.setMatcher? m <;> simp [h]

theorem Dashboard.isPrometheus_of_frame {d d' : Dashboard} (h : d'.frame = d.frame) :
    d'.isPrometheus = d.isPrometheus := by
  have hframe (d : Dashboard) : d.frame.isPrometheus = d.isPrometheus := by
    have hkind : (d.templates.map Template.frame).filter (fun t => t.kind == "datasource") =
        d.datasourceTemplates.map Template.frame := List.filter_map
    unfold isPrometheus
    rw [show d.frame.datasourceTemplates = d.datasourceTemplates.map Template.frame from hkind,
      List.head?_map]
    cases d.datasourceTemplates.head? <;> rfl
  rw [← hframe d', h, hframe]

end Templates

/-! ## What a repair writes -/

section Writes

variable {templates : List Template} {table table' : Table} {text : String}

theorem ExpandedQuery.parse_eq_ok {expanded : List Char} {e : Expr}
    (hregister : Table.initial.register? templates = some table)
    (hexpanded : table.substitute text.toList = (table', .ok expanded))
    (hparse : Query.parse? (String.ofList expanded) = some e) :
    parse text templates = .ok ⟨table', expanded, e⟩ := by
  rw [parse, hregister]
  dsimp only
  rw [hexpanded]
  dsimp only
  rw [hparse]

/-- A query that expansion leaves as it is is read as it stands. -/
theorem ExpandedQuery.parse_of_unchanged {e : Expr} (hroom : 3 * templates.length ≤ 9944)
    (hsame : ∀ t : Table, t.substitute text.toList = (t, .ok text.toList))
    (hparse : Query.parse? text = some e) : ∃ table : Table, table.Consistent ∧
      ExpandedQuery.parse text templates = .ok ⟨table, text.toList, e⟩ := by
  obtain ⟨table, hregister, hconsistent⟩ := Table.exists_register? hroom
  refine ⟨table, hconsistent, parse_eq_ok hregister (hsame table) ?_⟩
  rw [String.ofList_toList, hparse]

theorem Rule.setMatcher_eq {t : Target} {m : Matcher} {q : ExpandedQuery} {e : Expr}
    (hq : ExpandedQuery.parse t.expr templates = .ok q) (hset : q.expr.setMatcher? m = some e) :
    setMatcher m templates t = { t with expr := q.revert e } := by
  rw [setMatcher, hq]
  dsimp only
  rw [hset]
  rfl

end Writes

namespace Table

/-- Every reference among pieces is inside double quotes. -/
def Copied (quotes : Quotes) : List Variable.Piece → Prop
  | [] => True
  | .char c :: rest => Copied (quotes.step c) rest
  | .token token :: rest => quotes.inside = true ∧ Copied (token.foldl Quotes.step quotes) rest

instance Copied.decidable :
    (quotes : Quotes) → (pieces : List Variable.Piece) → Decidable (Copied quotes pieces)
  | _, [] => inferInstanceAs (Decidable True)
  | quotes, .char c :: rest => Copied.decidable (quotes.step c) rest
  | quotes, .token token :: rest =>
    have := Copied.decidable (token.foldl Quotes.step quotes) rest
    inferInstanceAs
      (Decidable (quotes.inside = true ∧ Copied (token.foldl Quotes.step quotes) rest))

/-- Pieces with references inside double quotes only are copied by every table. -/
theorem substituteFrom_copied (t : Table) {out : List Char} {quotes : Quotes}
    {pieces rest : List Variable.Piece} (h : Copied quotes pieces) :
    t.substituteFrom out quotes (pieces ++ rest) =
      t.substituteFrom ((pieces.flatMap Variable.Piece.chars).reverse ++ out)
        ((pieces.flatMap Variable.Piece.chars).foldl Quotes.step quotes) rest := by
  induction pieces generalizing out quotes with
  | nil => rfl
  | cons piece pieces ih =>
      cases piece with
      | char c =>
          rw [List.cons_append, substituteFrom, ih h]
          simp [Variable.Piece.chars]
      | token token =>
          rw [List.cons_append, substituteFrom]
          simp only [h.1, if_true]
          rw [ih h.2]
          simp [Variable.Piece.chars]

/-- A text with references inside double quotes only is its own expansion. -/
theorem substitute_of_copied (t : Table) {text : List Char}
    (h : Copied Quotes.start (Variable.pieces text)) : t.substitute text = (t, .ok text) := by
  rw [substitute, ← List.append_nil (Variable.pieces text), substituteFrom_copied t h,
    Variable.flatMap_chars_pieces, List.append_nil, substituteFrom, List.reverse_reverse]

end Table

/-- Plain matchers are printed in one order, whatever the order in which they were set. -/
theorem writeMatchers_eq_of_perm {matchers sorted : List Matcher} (hperm : matchers.Perm sorted)
    (hsorted : (sorted.map Matcher.write).Pairwise (· ≤ ·)) :
    writeMatchers matchers = (String.intercalate "," (sorted.map Matcher.write)).toList := by
  have hsame : (matchers.map Matcher.write).mergeSort (fun a b => a ≤ b) =
      sorted.map Matcher.write := by
    refine List.Perm.eq_of_pairwise (fun a b _ _ => String.le_antisymm) ?_ hsorted ?_
    · refine (List.pairwise_mergeSort ?_ ?_ _).imp fun h => of_decide_eq_true h
      · intro a b c hab hbc
        exact decide_eq_true (String.le_trans (of_decide_eq_true hab) (of_decide_eq_true hbc))
      · intro a b
        simpa using String.le_total a b
    · exact (List.mergeSort_perm _ _).trans (hperm.map _)
  rw [writeMatchers, hsame]

/-! ## Matchers of one selector -/

namespace Selector

variable {s : Selector} {m r : Matcher}

theorem mem_labelMatchers_iff : m ∈ s.labelMatchers ↔ m ∈ s.matchers ∨
    (∀ known ∈ s.matchers, known.name ≠ Matcher.metricLabel) ∧
      ∃ name, s.name = some name ∧ m = ⟨Matcher.metricLabel, .equal, name⟩ := by
  unfold labelMatchers
  cases s.name with
  | none => simp
  | some name =>
      by_cases hknown : s.matchers.any fun m => m.name == Matcher.metricLabel
      · have hsome : ¬ ∀ known ∈ s.matchers, known.name ≠ Matcher.metricLabel := by
          simpa using hknown
        simp [hknown, hsome]
      · have hnone : ∀ known ∈ s.matchers, known.name ≠ Matcher.metricLabel := by
          simpa using hknown
        dsimp only
        rw [if_neg hknown, List.mem_append, List.mem_singleton]
        exact or_congr_right ⟨fun hm => ⟨hnone, name, rfl, hm⟩,
          fun ⟨_, name', hname, hm⟩ => hm.trans (by rw [Option.some.inj hname])⟩

/-- Setting a matcher keeps those of other labels, the name of the metric among them, and of course
    the matcher itself. -/
theorem mem_labelMatchers_setMatcher (h : m ∈ s.labelMatchers) (hname : r.name = m.name → r = m) :
    m ∈ (s.setMatcher r).labelMatchers := by
  cases hset : r.isSettable with
  | false =>
      rw [setMatcher_of_not_isSettable hset]
      exact h
  | true =>
      by_cases hsame : r = m
      · rw [hsame]
        exact mem_labelMatchers (setMatcher_has s (hsame ▸ hset)).1
      · have hother : r.name ≠ m.name := fun heq => hsame (hname heq)
        rcases mem_labelMatchers_iff.mp h with hm | ⟨hnone, name, hs, rfl⟩
        · exact mem_labelMatchers ((mem_matchers_setMatcher hset).mpr (Or.inr ⟨hm, hother.symm⟩))
        · refine mem_labelMatchers_iff.mpr (Or.inr ⟨fun known hknown => ?_, name, ?_, rfl⟩)
          · rcases (mem_matchers_setMatcher hset).mp hknown with rfl | ⟨hknown, -⟩
            · exact hother
            · exact hnone known hknown
          · exact (congrArg Selector.name (withoutMatchers_setMatcher r s)).trans hs

/-- The same choice of series, with the matchers in any order. -/
def Reordered (s s' : Selector) : Prop := s'.name = s.name ∧ s'.matchers.Perm s.matchers

/-- A matcher whose value does not change is still there when the values of all matchers change and
    their order. -/
theorem mem_labelMatchers_of_mapValue {f : List Char → List Char} {s' : Selector}
    (hname : s'.name = s.name) (hmatchers : s'.matchers.Perm (s.matchers.map (Matcher.mapValue f)))
    (hm : m.mapValue f = m) (h : m ∈ s.labelMatchers) : m ∈ s'.labelMatchers := by
  rcases mem_labelMatchers_iff.mp h with hmem | ⟨hnone, name, hs, rfl⟩
  · refine mem_labelMatchers (hmatchers.mem_iff.mpr ?_)
    exact List.mem_map.mpr ⟨m, hmem, hm⟩
  · refine mem_labelMatchers_iff.mpr (Or.inr ⟨fun known hknown => ?_, name, hname.trans hs, rfl⟩)
    obtain ⟨known', hknown', rfl⟩ := List.mem_map.mp (hmatchers.mem_iff.mp hknown)
    exact hnone known' hknown'

end Selector

/-! ## Reading back -/

/-- What is printed of a query is read with the same matchers, in whatever order. -/
def Expr.PrintsBack (e : Expr) : Prop :=
  ∃ e', Query.parse? e.write = some e' ∧ List.Forall₂ Selector.Reordered e.selectors e'.selectors

theorem Selector.exists_reordered {ss ss' : List Selector}
    (h : List.Forall₂ Selector.Reordered ss ss') {s' : Selector} (hs' : s' ∈ ss') :
    ∃ s ∈ ss, s.Reordered s' := by
  induction h with
  | nil => exact absurd hs' List.not_mem_nil
  | cons hsame _ ih =>
      rcases List.mem_cons.mp hs' with rfl | hs'
      · exact ⟨_, List.mem_cons_self, hsame⟩
      · obtain ⟨s, hs, hsame⟩ := ih hs'
        exact ⟨s, List.mem_cons_of_mem _ hs, hsame⟩

namespace ExpandedQuery

variable {templates : List Template} {text : String} {q q' : ExpandedQuery} {e : Expr}

/-- What is written of a query in the place of another is read as what was printed. The query prints
    back, and the text with its variables expands to what was printed, but for the spelling of
    quantities and for the variables that were put into strings. Nothing is asked of a text that
    cannot be read at all. -/
def IsFaithful (templates : List Template) (q : ExpandedQuery) (e : Expr) : Prop :=
  ∀ q', parse (q.revert e) templates = .ok q' →
    e.PrintsBack ∧ Query.Respelled q.table.revert .start e.chars q'.text

theorem parse?_of_parse (h : parse text templates = .ok q) :
    Query.parse? (String.ofList q.text) = some q.expr := by
  unfold parse at h
  split at h
  · cases h
  · split at h
    · cases h
    · split at h
      · next hparse =>
          cases h
          exact hparse
      · cases h

/-- What is read of a written query are the selectors that were printed, each with its matchers in
    some order and with their values as they were written. -/
theorem IsFaithful.exists_selector (h : q.IsFaithful templates e)
    (hq' : parse (q.revert e) templates = .ok q') {s' : Selector} (hs' : s' ∈ q'.expr.selectors) :
    ∃ s ∈ e.selectors, s'.name = s.name ∧
      s'.matchers.Perm (s.matchers.map (Matcher.mapValue q.table.revert)) := by
  obtain ⟨⟨e', hprinted, hselectors⟩, hrespelled⟩ := h q' hq'
  have halike : e'.Alike q.table.revert q'.expr := hrespelled.alike hprinted (parse?_of_parse hq')
  have hchoice : s'.timeless ∈ e'.choices.map (Selector.mapValues q.table.revert) := by
    rw [← halike]
    exact List.mem_map_of_mem hs'
  obtain ⟨choice, hmem, heq⟩ := List.mem_map.mp hchoice
  obtain ⟨s₁, hs₁, rfl⟩ := List.mem_map.mp hmem
  obtain ⟨s, hs, hname, hmatchers⟩ := Selector.exists_reordered hselectors hs₁
  refine ⟨s, hs, ?_, ?_⟩
  · exact (congrArg Selector.name heq).symm.trans hname
  · have hvalues : s'.matchers = s₁.matchers.map (Matcher.mapValue q.table.revert) :=
      (congrArg Selector.matchers heq).symm
    rw [hvalues]
    exact hmatchers.map _

end ExpandedQuery

namespace Rule

/-- Nothing is missing exactly if the required matcher is there. -/
theorem missing?_eq_none_iff {matchers : List Matcher} {required : Matcher} :
    missing? matchers required = none ↔ required ∈ matchers := by
  have hfold (same : List Matcher) (known : String) :
      (same.foldl (matcherProblem? required) (some known)).isSome = true := by
    induction same generalizing known with
    | nil => rfl
    | cons m rest ih =>
        rw [List.foldl_cons, matcherProblem?]
        split
        · exact ih _
        · split
          · exact ih _
          · exact ih _
  unfold missing?
  dsimp only
  split
  · next hsame =>
      exact iff_of_true rfl (List.mem_filter.mp (List.contains_iff_mem.mp hsame)).1
  · next hsame =>
      refine iff_of_false (fun hnone => ?_) fun hmem => hsame ?_
      · exact absurd (hfold _ _) (by rw [hnone]; exact Bool.noConfusion)
      · exact List.contains_iff_mem.mpr (List.mem_filter.mpr ⟨hmem, beq_self_eq_true _⟩)

/-! ## Matchers of a target -/

/-- Every selector of the query of a target has a matcher. A query that cannot be read has no
    selectors. -/
def Carries (templates : List Template) (t : Target) (m : Matcher) : Prop :=
  ∀ q, ExpandedQuery.parse t.expr templates = .ok q → ∀ s ∈ q.expr.selectors, m ∈ s.labelMatchers

/-- The query of a target is read again as it is written when a matcher is set. -/
def Rereads (templates : List Template) (t : Target) (m : Matcher) : Prop :=
  ∀ q e, ExpandedQuery.parse t.expr templates = .ok q → q.expr.setMatcher? m = some e →
    q.IsFaithful templates e

/-- No variable of a target is put into the value of a matcher. -/
def Spares (templates : List Template) (t : Target) (m : Matcher) : Prop :=
  ∀ q, ExpandedQuery.parse t.expr templates = .ok q →
    q.table.revert m.value.toList = m.value.toList

section Target

variable {templates : List Template} {t : Target} {m r : Matcher}

/-- A matcher either cannot be set and the target stays, or the query is written with it. -/
theorem setMatcher_cases (hread : Rereads templates t r) {q' : ExpandedQuery}
    (hq' : ExpandedQuery.parse (setMatcher r templates t).expr templates = .ok q') :
    ∃ q, ExpandedQuery.parse t.expr templates = .ok q ∧
      (r.isSettable = false ∧ q' = q ∨
        ∀ s' ∈ q'.expr.selectors, ∃ s ∈ q.expr.selectors, s'.name = (s.setMatcher r).name ∧
          s'.matchers.Perm
            ((s.setMatcher r).matchers.map (Matcher.mapValue q.table.revert))) := by
  cases hq : ExpandedQuery.parse t.expr templates with
  | error e =>
      have hsame : setMatcher r templates t = t := by rw [setMatcher, hq]
      rw [hsame, hq] at hq'
      cases hq'
  | ok q =>
      refine ⟨q, rfl, ?_⟩
      rcases q.expr.setMatcher?_cases r with ⟨hnot, hset⟩ | hset
      · have hsame : setMatcher r templates t = t := by
          rw [setMatcher, hq]
          dsimp only
          rw [hset]
        rw [hsame, hq] at hq'
        exact Or.inl ⟨hnot, (Except.ok.inj hq').symm⟩
      · rw [setMatcher_eq hq hset] at hq'
        refine Or.inr fun s' hs' => ?_
        obtain ⟨s, hs, hsame⟩ := (hread q _ hq hset).exists_selector hq' hs'
        rw [Expr.selectors_mapSelectors] at hs
        obtain ⟨s₀, hs₀, rfl⟩ := List.mem_map.mp hs
        exact ⟨s₀, hs₀, hsame⟩

theorem mapValue_of_spares {q : ExpandedQuery} (h : Spares templates t m)
    (hq : ExpandedQuery.parse t.expr templates = .ok q) : m.mapValue q.table.revert = m := by
  rw [Matcher.mapValue, h q hq, String.ofList_toList]

theorem Rereads.carries (hread : Rereads templates t m) (hspares : Spares templates t m)
    (hset : m.isSettable = true) : Carries templates (setMatcher m templates t) m := by
  intro q' hq' s' hs'
  obtain ⟨q, hq, ⟨hnot, -⟩ | hselectors⟩ := setMatcher_cases hread hq'
  · exact absurd (hset.symm.trans hnot) (by simp)
  · obtain ⟨s, -, hname, hmatchers⟩ := hselectors s' hs'
    exact Selector.mem_labelMatchers_of_mapValue hname hmatchers (mapValue_of_spares hspares hq)
      (Selector.mem_labelMatchers (Selector.setMatcher_has s hset).1)

/-- A matcher that the target carries stays when another is set, unless both are for one label. -/
theorem Carries.setMatcher (h : Carries templates t m) (hread : Rereads templates t r)
    (hspares : Spares templates t m) (hname : r.name = m.name → r = m) :
    Carries templates (setMatcher r templates t) m := by
  intro q' hq' s' hs'
  obtain ⟨q, hq, ⟨hnot, rfl⟩ | hselectors⟩ := setMatcher_cases hread hq'
  · exact h q' hq s' hs'
  · obtain ⟨s, hs, hsname, hmatchers⟩ := hselectors s' hs'
    refine Selector.mem_labelMatchers_of_mapValue hsname hmatchers (mapValue_of_spares hspares hq)
      ?_
    exact Selector.mem_labelMatchers_setMatcher (h q hq s hs) hname

end Target

/-! ## Several matchers, one after another -/

/-- The target after pending matchers were set, one after another. -/
inductive Rewritten (templates : List Template) (pending : Matcher → Prop) (t : Target) :
    Target → Prop
  | refl : Rewritten templates pending t t
  | set {t' : Target} {m : Matcher} (h : Rewritten templates pending t t') (hm : pending m) :
      Rewritten templates pending t (setMatcher m templates t')

/-- Required matchers stay on a target while the pending ones are set: those that are missing can be
    set, no other matcher is pending for the label of a required one, and in whatever order the
    pending matchers are set, what is written is read again and no variable is put into the value of
    a required matcher. -/
structure Mendable (templates : List Template) (required : List Matcher) (pending : Matcher → Prop)
    (t : Target) : Prop where
  settable : ∀ m ∈ required, ¬ Carries templates t m → m.isSettable = true
  agree : ∀ m ∈ required, ∀ r, pending r → r.name = m.name → r = m
  rereads : ∀ t', Rewritten templates pending t t' → ∀ r, pending r → Rereads templates t' r
  spares : ∀ t', Rewritten templates pending t t' → ∀ m ∈ required, Spares templates t' m

namespace Mendable

variable {templates : List Template} {required : List Matcher} {pending : Matcher → Prop}
  {t t' : Target} {m r : Matcher}

theorem carries (h : Mendable templates required pending t)
    (ht' : Rewritten templates pending t t') (hm : m ∈ required) (hpending : pending m)
    (hmissing : ¬ Carries templates t m) : Carries templates (setMatcher m templates t') m :=
  (h.rereads t' ht' m hpending).carries (h.spares t' ht' m hm) (h.settable m hm hmissing)

theorem keeps (h : Mendable templates required pending t)
    (ht' : Rewritten templates pending t t') (hm : m ∈ required) (hr : pending r)
    (hcarries : Carries templates t' m) : Carries templates (setMatcher r templates t') m :=
  hcarries.setMatcher (h.rereads t' ht' r hr) (h.spares t' ht' m hm) (h.agree m hm r hr)

end Mendable

/-! ## The check -/

section Check

variable {required : List Matcher} {d : Dashboard} {t : Target}

theorem prometheusQuery?_eq_some {q : ExpandedQuery} (h : prometheusQuery? d t = some q) :
    ExpandedQuery.parse t.expr d.templates = .ok q := by
  unfold prometheusQuery? query? at h
  split at h
  · cases hparse : ExpandedQuery.parse t.expr d.templates with
    | error e =>
        rw [hparse] at h
        cases h
    | ok q' =>
        rw [hparse] at h
        cases h
        rfl
  · cases h

/-- What is reported: for each required matcher and each selector that misses it an error, whose
    repair sets the matcher. -/
theorem mem_matcherProblems {raw : Diagnostic} : raw ∈ matcherProblems required d t ↔
    ∃ q, prometheusQuery? d t = some q ∧ ∃ m ∈ required, ∃ s ∈ q.expr.selectors, ∃ problem,
      missing? s.labelMatchers m = some problem ∧
      raw = (Diagnostic.error (invalidQuery t.expr problem)).withFix (.target (setMatcher m)) := by
  unfold matcherProblems
  cases prometheusQuery? d t with
  | none => simp
  | some q =>
      simp only [List.mem_flatMap, List.mem_map, List.mem_filterMap, Option.some.injEq]
      constructor
      · rintro ⟨m, hm, problem, ⟨s, hs, hmissing⟩, rfl⟩
        exact ⟨q, rfl, m, hm, s, hs, problem, hmissing, rfl⟩
      · rintro ⟨_, rfl, m, hm, s, hs, problem, hmissing, rfl⟩
        exact ⟨m, hm, problem, ⟨s, hs, hmissing⟩, rfl⟩

theorem matcherProblems_eq_nil (h : ∀ m ∈ required, Carries d.templates t m) :
    matcherProblems required d t = [] := by
  refine List.eq_nil_iff_forall_not_mem.mpr fun raw hraw => ?_
  obtain ⟨q, hq, m, hm, s, hs, problem, hmissing, -⟩ := mem_matcherProblems.mp hraw
  rw [missing?_eq_none_iff.mpr (h m hm q (prometheusQuery?_eq_some hq) s hs)] at hmissing
  cases hmissing

/-- If anything is reported, then so is every required matcher that the target does not carry. -/
theorem exists_mem_matcherProblems {raw : Diagnostic} (hraw : raw ∈ matcherProblems required d t)
    {m : Matcher} (hm : m ∈ required) (hmissing : ¬ Carries d.templates t m) :
    ∃ raw' ∈ matcherProblems required d t, raw'.severity = raw.severity ∧
      raw'.fix = some (.target (setMatcher m)) := by
  obtain ⟨q, hq, m', -, s', -, problem', -, rfl⟩ := mem_matcherProblems.mp hraw
  simp only [Carries, not_forall] at hmissing
  obtain ⟨q', hq', s, hs, hnot⟩ := hmissing
  obtain rfl : q = q' := by
    rw [prometheusQuery?_eq_some hq] at hq'
    exact Except.ok.inj hq'
  obtain ⟨problem, hproblem⟩ :=
    Option.ne_none_iff_exists'.mp fun hnone => hnot (missing?_eq_none_iff.mp hnone)
  exact ⟨_, mem_matcherProblems.mpr ⟨q, hq, m, hm, s, hs, problem, hproblem, rfl⟩, rfl, rfl⟩

end Check

end Rule

/-! ## The rate of a metric

A query that stays mendable while the usual matchers are set on it, in any order: it names the
interval of the server, which is printed as a canonical duration and put back as a variable, and the
values of its matchers are variables inside strings, which stay as they are. -/

namespace RateQuery

/-- The matchers that the usual settings require, in the order in which they are printed. -/
def usual : List Matcher := [Rule.variableMatcher "instance", Rule.variableMatcher "job"]

/-- A metric with matchers. -/
def selector (ms : List Matcher) : Selector := ⟨some "up", ms, [], none, none⟩

/-- Its rate over the interval of the server. -/
def expr (ms : List Matcher) : Expr :=
  .call "rate" [.matrix (selector ms) (Duration.ofSeconds 11277964)]

/-- The text of the metric with its matchers as they stand. -/
def selectorText (ms : List Matcher) : List Char :=
  "up".toList ++ if ms.isEmpty then [] else
    '\x7b' :: (String.intercalate "," (ms.map Matcher.write)).toList ++ ['\x7d']

/-- The text of the rate up to its range. -/
def front (ms : List Matcher) : List Char := "rate(".toList ++ selectorText ms ++ ['[']

/-- The text of the rate. -/
def text (range : String) (ms : List Matcher) : List Char :=
  front ms ++ (range.toList ++ [']', ')'])

section Printed

variable {ms sorted : List Matcher}

theorem base_selector (hperm : ms.Perm sorted)
    (hsorted : (sorted.map Matcher.write).Pairwise (· ≤ ·)) :
    (selector ms).base = selectorText sorted := by
  have hempty : ms.isEmpty = sorted.isEmpty := by
    rw [Bool.eq_iff_iff, List.isEmpty_iff, List.isEmpty_iff, ← List.length_eq_zero_iff,
      hperm.length_eq, List.length_eq_zero_iff]
  simp only [Selector.base, selector, writeMatchers_eq_of_perm hperm hsorted, hempty,
    List.isEmpty_nil, Bool.and_true, if_true, Option.getD_some, selectorText]

theorem chars_duration : (Duration.ofSeconds 11277964).chars = "130d12h46m4s".toList := by
  decide +kernel

/-- The rate is printed with its matchers in order and with a canonical range. -/
theorem chars_expr (hperm : ms.Perm sorted) (h : sorted ∈ usual.sublists) :
    (expr ms).chars = text "130d12h46m4s" sorted := by
  have hsorted : ∀ ms ∈ usual.sublists, (ms.map Matcher.write).Pairwise (· ≤ ·) := by
    decide +kernel
  have hchars (d : Duration) : (Expr.call "rate" [.matrix (selector ms) d]).chars =
      "rate".toList ++ '(' :: ((selector ms).base ++ '[' :: d.chars ++ [']']) ++ [')'] := rfl
  show (Expr.call "rate" [.matrix (selector ms) _]).chars =
    "rate(".toList ++ selectorText sorted ++ ['['] ++ _
  rw [hchars, base_selector hperm (hsorted sorted h), chars_duration]
  simp

end Printed

/-- The parts of a rate. -/
def parts? : Expr → Option (Selector × Duration)
  | .call "rate" [.matrix s d] => some (s, d)
  | _ => none

theorem eq_of_parts? {e : Expr} {s : Selector} {d : Duration} (h : parts? e = some (s, d)) :
    e = .call "rate" [.matrix s d] := by
  unfold parts? at h
  split at h
  · cases h
    rfl
  · cases h

theorem parse?_text {range : String} (hrange : range ∈ ["11277964s", "130d12h46m4s"])
    {ms : List Matcher} (h : ms ∈ usual.sublists) :
    Query.parse? (String.ofList (text range ms)) = some (expr ms) := by
  have hread : ∀ range ∈ ["11277964s", "130d12h46m4s"], ∀ ms ∈ usual.sublists,
      (Query.parse? (String.ofList (text range ms))).bind parts? =
        some (selector ms, Duration.ofSeconds 11277964) := by
    decide +kernel
  obtain ⟨e, he, hparts⟩ := Option.bind_eq_some_iff.mp (hread range hrange ms h)
  rw [he, eq_of_parts? hparts]
  rfl

/-- A usual matcher that is set joins the others. -/
theorem exists_setMatcher {ms : List Matcher} (h : ms ∈ usual.sublists) {r : Matcher}
    (hr : r ∈ usual) : ∃ sorted ∈ usual.sublists, ∃ ms', ms'.Perm sorted ∧
      (expr ms).setMatcher? r = some (expr ms') := by
  have hset : ∀ ms ∈ usual.sublists, ∀ r ∈ usual, ∃ sorted ∈ usual.sublists,
      ((selector ms).setMatcher r).matchers.Perm sorted ∧
      (selector ms).setMatcher r = selector ((selector ms).setMatcher r).matchers := by
    decide +kernel
  have hsettable : ∀ r ∈ usual, r.isSettable = true := by decide +kernel
  obtain ⟨sorted, hsorted, hperm, hselector⟩ := hset ms h r hr
  refine ⟨sorted, hsorted, _, hperm, ?_⟩
  rw [Expr.setMatcher?_of_isSettable (hsettable r hr)]
  exact congrArg (fun s => some (Expr.call "rate" [.matrix s (Duration.ofSeconds 11277964)]))
    hselector

section Table

variable {table : Table} {ms : List Matcher}

/-- The interval of the server is expanded to a number of seconds. -/
theorem substitute_text
    (hrate : table.placeholder? "$__rate_interval".toList = some (.seconds 11277964))
    (h : ms ∈ usual.sublists) :
    table.substitute (text "$__rate_interval" ms) = (table, .ok (text "11277964s" ms)) := by
  have hpieces : ∀ ms ∈ usual.sublists, Variable.pieces (text "$__rate_interval" ms) =
      Variable.pieces (front ms) ++
        [.token "$__rate_interval".toList, .char ']', .char ')'] := by
    decide +kernel
  have hfront : ∀ ms ∈ usual.sublists,
      Table.Copied Quotes.start (Variable.pieces (front ms)) ∧
      ((front ms).foldl Quotes.step Quotes.start).inside = false ∧
      expectsDuration (front ms) = true := by
    decide +kernel
  obtain ⟨hcopied, houtside, hexpects⟩ := hfront ms h
  have hok : table.ofToken "$__rate_interval".toList = .ok (.seconds 11277964, table) :=
    Table.ofToken_eq_ok.mpr ⟨.text, rfl, Table.assign?_of_placeholder? hrate⟩
  have hunit : unitAfter (front ms) (.seconds 11277964) [.char ']', .char ')'] = ['s'] := by
    simp [unitAfter, hexpects, continuesWord, Placeholder.kind]
  rw [Table.substitute, hpieces ms h, Table.substituteFrom_copied table hcopied,
    Variable.flatMap_chars_pieces]
  simp only [Table.substituteFrom, houtside, hok, List.append_nil, List.reverse_reverse, hunit]
  simp [Placeholder.chars]
  rfl

variable (ht : table.Consistent)
include ht

/-- The canonical duration of the interval is put back as the variable. -/
theorem revert_text
    (hrate : table.placeholder? "$__rate_interval".toList = some (.seconds 11277964))
    (h : ms ∈ usual.sublists) :
    table.revert (text "130d12h46m4s" ms) = text "$__rate_interval" ms := by
  let range : List Part :=
    [.placed "$__rate_interval".toList "130d12h46m4s".toList, .copied ']', .copied ')']
  have hclear : ∀ ms ∈ usual.sublists, Part.AtCopies (fun tail => tail.take 2 ∉ Placeholder.leads)
      ((front ms).map .copied ++ [.placed "$__rate_interval".toList "130d12h46m4s".toList,
        .copied ']', .copied ')']) := by
    decide +kernel
  have hends : Placeholder.StopsWord [']', ')'] := by
    intro c hc
    obtain rfl := Option.some.inj hc
    decide +kernel
  have hfirst : Table.firstMatch? ("130d12h46m4s".toList ++ [']', ')']) table.patterns =
      some ("$__rate_interval".toList, [']', ')']) :=
    chars_duration ▸ ht.firstMatch?_duration (ht.placeholder?_eq_some_iff.mp hrate) hends
  have hresolved : table.Resolved ((front ms).map .copied ++ range) := by
    refine Table.Resolved.copied_append ((hclear ms h).imp fun _ => ht.beginsNoForm) fun hrest => ?_
    exact ⟨by decide, hfirst, hrest.1, hrest.2.1, trivial⟩
  have htext : Part.text ((front ms).map .copied ++ range) = text "130d12h46m4s" ms :=
    Part.text_copied_append ..
  rw [← htext, Table.revert, Table.revertFrom_of_resolved hresolved (Nat.le_refl _),
    Part.sources_copied_append]
  rfl

/-- The variables of the usual matchers have no placeholders in strings. -/
theorem revert_value {m : Matcher} (hm : m ∈ usual) :
    table.revert m.value.toList = m.value.toList := by
  have hclear : ∀ m ∈ usual, ∀ tail ∈ m.value.toList.tails,
      tail.take 2 ∉ Placeholder.leads := by
    decide +kernel
  exact ht.revert_eq_self (hclear m hm)

/-- What was printed and what is expanded of it again differ in the spelling of the range. -/
theorem respelled_text (h : ms ∈ usual.sublists) : Query.Respelled table.revert .start
    (text "130d12h46m4s" ms) (text "11277964s" ms) := by
  have hrange {k : Query.Edge} (hk : k.fresh = true) : Query.Respelled table.revert k
      ("130d12h46m4s".toList ++ [']', ')']) ("11277964s".toList ++ [']', ')']) := by
    have hcanonical : Query.IsQuantity ("130".toList ++ 'd' :: "12h46m4s".toList) :=
      .of_all (by decide) (by decide) (by decide) (by decide)
    have hseconds : Query.IsQuantity ("11277964".toList ++ ['s']) :=
      .of_all (by decide) (by decide) (by decide) (by decide)
    have hends : Query.EndsQuantity [']', ')'] := by
      intro c hc
      obtain rfl := Option.some.inj hc
      decide
    exact .quantity hk hcanonical hseconds hends hends (.chars [']', ')'] (by decide) .nil)
  have hvalue {m : Matcher} (hm : m ∈ usual) {k : Query.Edge} {u u' : List Char}
      (h : Query.Respelled table.revert ⟨true, k.bracket⟩ u u') : Query.Respelled table.revert k
        ('"' :: (m.value.toList ++ '"' :: u)) ('"' :: (m.value.toList ++ '"' :: u')) := by
    have hplain : ∀ m ∈ usual, m.value.toList.all (fun c => c != '"' && c != '\\') = true := by
      decide
    exact .string_self (.of_plain (hplain m hm)) (revert_value ht hm) h
  have hinstance : Rule.variableMatcher "instance" ∈ usual := List.mem_cons_self
  have hjob : Rule.variableMatcher "job" ∈ usual := List.mem_cons_of_mem _ List.mem_cons_self
  have hsublists : usual.sublists = [[], [Rule.variableMatcher "instance"],
      [Rule.variableMatcher "job"], usual] := by decide +kernel
  simp only [hsublists, List.mem_cons, List.not_mem_nil, or_false] at h
  rcases h with rfl | rfl | rfl | rfl
  · exact .chars "rate(up[".toList (by decide) (hrange rfl)
  · refine .chars "rate(up\x7binstance=~".toList (by decide) (hvalue hinstance ?_)
    exact .chars "\x7d[".toList (by decide) (hrange rfl)
  · refine .chars "rate(up\x7bjob=~".toList (by decide) (hvalue hjob ?_)
    exact .chars "\x7d[".toList (by decide) (hrange rfl)
  · refine .chars "rate(up\x7binstance=~".toList (by decide) (hvalue hinstance ?_)
    refine .chars ",job=~".toList (by decide) (hvalue hjob ?_)
    exact .chars "\x7d[".toList (by decide) (hrange rfl)

end Table

/-- A target with the rate, and with some of the usual matchers on it. -/
def IsQueryOf (t : Target) (ms : List Matcher) : Prop :=
  t.expr = String.ofList (text "$__rate_interval" ms)

section Target

variable {templates : List Template} {table : Table} {t : Target} {ms : List Matcher} {r : Matcher}

/-- The variables of the templates take their places beside the interval of the server. -/
theorem placeholder?_rateInterval (htable : Table.initial.register? templates = some table) :
    table.placeholder? "$__rate_interval".toList = some (.seconds 11277964) :=
  (Table.register?_grows htable).placeholder? Table.initial_consistent
    Table.initial_placeholder?_rateInterval

theorem IsQueryOf.parse (ht : IsQueryOf t ms) (h : ms ∈ usual.sublists)
    (htable : Table.initial.register? templates = some table) :
    ExpandedQuery.parse t.expr templates = .ok ⟨table, text "11277964s" ms, expr ms⟩ := by
  refine ExpandedQuery.parse_eq_ok htable ?_ (parse?_text (by decide) h)
  rw [ht, String.toList_ofList]
  exact substitute_text (placeholder?_rateInterval htable) h

variable (ht : IsQueryOf t ms) (h : ms ∈ usual.sublists)
  (htable : Table.initial.register? templates = some table) (hconsistent : table.Consistent)
include htable hconsistent

/-- The rate is written with its matchers in order and with the variable for its range. -/
theorem revert_expr {ms' sorted : List Matcher} (hperm : ms'.Perm sorted)
    (hsorted : sorted ∈ usual.sublists) {q : ExpandedQuery} (hq : q.table = table) :
    q.revert (expr ms') = String.ofList (text "$__rate_interval" sorted) := by
  rw [ExpandedQuery.revert, hq, chars_expr hperm hsorted,
    revert_text hconsistent (placeholder?_rateInterval htable) hsorted]

include ht h

theorem IsQueryOf.setMatcher (hr : r ∈ usual) :
    ∃ sorted ∈ usual.sublists, IsQueryOf (Rule.setMatcher r templates t) sorted := by
  obtain ⟨sorted, hsorted, ms', hperm, hset⟩ := exists_setMatcher h hr
  refine ⟨sorted, hsorted, ?_⟩
  rw [Rule.setMatcher_eq (ht.parse h htable) hset]
  exact revert_expr htable hconsistent hperm hsorted rfl

theorem IsQueryOf.rereads (hr : r ∈ usual) : Rule.Rereads templates t r := by
  intro q e hq hset q' hq'
  obtain rfl := Except.ok.inj ((ht.parse h htable).symm.trans hq)
  obtain ⟨sorted, hsorted, ms', hperm, hset'⟩ := exists_setMatcher h hr
  obtain rfl := Option.some.inj (hset'.symm.trans hset)
  let q : ExpandedQuery := ⟨table, text "11277964s" ms, expr ms⟩
  have hagain : IsQueryOf { t with expr := q.revert (expr ms') } sorted :=
    revert_expr htable hconsistent hperm hsorted rfl
  obtain rfl := Except.ok.inj ((hagain.parse hsorted htable).symm.trans hq')
  have hchars := chars_expr hperm hsorted
  refine ⟨⟨expr sorted, ?_, ?_⟩, ?_⟩
  · rw [Expr.write, hchars]
    exact parse?_text (by decide) hsorted
  · exact .cons ⟨rfl, hperm.symm⟩ .nil
  · rw [hchars]
    exact respelled_text hconsistent hsorted

theorem IsQueryOf.spares (hr : r ∈ usual) : Rule.Spares templates t r := by
  intro q hq
  obtain rfl := Except.ok.inj ((ht.parse h htable).symm.trans hq)
  exact revert_value hconsistent hr

/-- Usual matchers may be set on the rate in any order. -/
theorem IsQueryOf.mendable {required : List Matcher} {pending : Matcher → Prop}
    (hrequired : ∀ m ∈ required, m ∈ usual) (hpending : ∀ m, pending m → m ∈ usual) :
    Rule.Mendable templates required pending t := by
  have hrewritten : ∀ t', Rule.Rewritten templates pending t t' →
      ∃ ms ∈ usual.sublists, IsQueryOf t' ms := by
    intro t' ht'
    induction ht' with
    | refl => exact ⟨ms, h, ht⟩
    | set _ hm ih =>
        obtain ⟨ms', h', ht'⟩ := ih
        exact ht'.setMatcher h' htable hconsistent (hpending _ hm)
  have hsettable : ∀ m ∈ usual, m.isSettable = true := by decide +kernel
  have hagree : ∀ m ∈ usual, ∀ r ∈ usual, r.name = m.name → r = m := by decide
  refine ⟨fun m hm _ => hsettable m (hrequired m hm),
    fun m hm r hr => hagree m (hrequired m hm) r (hpending r hr), fun t' ht' r hr => ?_,
    fun t' ht' m hm => ?_⟩
  · obtain ⟨ms', h', hquery⟩ := hrewritten t' ht'
    exact hquery.rereads h' htable hconsistent (hpending r hr)
  · obtain ⟨ms', h', hquery⟩ := hrewritten t' ht'
    exact hquery.spares h' htable hconsistent (hrequired m hm)

end Target

end RateQuery

end BoardLint
