import BoardLint.Proofs.Query.Selectors
import BoardLint.Rule.RequiredMatcher
import Mathlib.Data.List.Nodup

set_option autoImplicit false

/-! # Setting required matchers

A repair sets one required matcher on every selector of a query. Several repairs are made one after
another, some of them more than once. With different labels they do not disturb each other: in the
end every selector has every required matcher, and nothing else has changed. -/

namespace BoardLint

namespace Selector

/-! ## One matcher on one selector -/

/-- The selector has a matcher and no other for its label. -/
def Has (s : Selector) (r : Matcher) : Prop :=
  r ∈ s.matchers ∧ ∀ m ∈ s.matchers, m.name = r.name → m = r

/-- What a selector has besides its plain matchers. -/
def withoutMatchers (s : Selector) : Selector := { s with matchers := [] }

section SetMatcher

variable {s : Selector} {r : Matcher}

theorem setMatcher_of_not_isSettable (h : r.isSettable = false) : s.setMatcher r = s := by
  simp [setMatcher, h]

/-- The matchers after one was set: it, and the former ones for other labels. -/
theorem mem_matchers_setMatcher (h : r.isSettable = true) {m : Matcher} :
    m ∈ (s.setMatcher r).matchers ↔ m = r ∨ m ∈ s.matchers ∧ m.name ≠ r.name := by
  unfold setMatcher
  rw [if_neg (by simp [h])]
  split
  · next hany =>
      obtain ⟨known, hknown, hname⟩ := List.any_eq_true.mp hany
      simp only [List.mem_map]
      constructor
      · rintro ⟨old, hold, rfl⟩
        split
        · exact Or.inl rfl
        · next hne => exact Or.inr ⟨hold, by simpa using hne⟩
      · rintro (rfl | ⟨hm, hne⟩)
        · exact ⟨known, hknown, if_pos hname⟩
        · exact ⟨m, hm, if_neg (by simpa using hne)⟩
  · next hnone =>
      have hothers : ∀ m ∈ s.matchers, m.name ≠ r.name := by simpa using hnone
      simp only [List.mem_append, List.mem_singleton]
      constructor
      · rintro (hm | rfl)
        · exact Or.inr ⟨hm, hothers m hm⟩
        · exact Or.inl rfl
      · rintro (rfl | ⟨hm, -⟩)
        · exact Or.inr rfl
        · exact Or.inl hm

theorem setMatcher_has (s : Selector) (h : r.isSettable = true) : (s.setMatcher r).Has r := by
  refine ⟨(mem_matchers_setMatcher h).mpr (Or.inl rfl), fun m hm hname => ?_⟩
  rcases (mem_matchers_setMatcher h).mp hm with rfl | ⟨-, hne⟩
  · rfl
  · exact absurd hname hne

/-- Setting a matcher that the selector has changes nothing. -/
theorem Has.setMatcher_eq (h : s.Has r) : s.setMatcher r = s := by
  cases hset : r.isSettable with
  | false => exact setMatcher_of_not_isSettable hset
  | true =>
      have hany : (s.matchers.any fun m => m.name == r.name) = true :=
        List.any_eq_true.mpr ⟨r, h.1, beq_self_eq_true _⟩
      have hmap : s.matchers.map (fun m => if m.name == r.name then r else m) = s.matchers := by
        refine (List.map_congr_left fun m hm => ?_).trans (List.map_id _)
        split
        · next hname => exact (h.2 m hm (by simpa using hname)).symm
        · rfl
      rw [setMatcher, if_neg (by simp [hset]), if_pos hany, hmap]

/-- Setting a matcher for another label keeps a matcher. -/
theorem Has.setMatcher (h : s.Has r) {other : Matcher} (hne : other.name ≠ r.name) :
    (s.setMatcher other).Has r := by
  cases hset : other.isSettable with
  | false =>
      rw [setMatcher_of_not_isSettable hset]
      exact h
  | true =>
      refine ⟨(mem_matchers_setMatcher hset).mpr (Or.inr ⟨h.1, hne.symm⟩), fun m hm hname => ?_⟩
      rcases (mem_matchers_setMatcher hset).mp hm with rfl | ⟨hm, -⟩
      · exact absurd hname hne
      · exact h.2 m hm hname

/-- Matchers for other labels stay as they are and where they are. -/
theorem filter_matchers_setMatcher {names : List String} (h : r.name ∈ names) (s : Selector) :
    (s.setMatcher r).matchers.filter (fun m => m.name ∉ names) =
      s.matchers.filter fun m => m.name ∉ names := by
  unfold setMatcher
  split
  · rfl
  · split
    · simp only
      induction s.matchers with
      | nil => rfl
      | cons m rest ih =>
          rw [List.map_cons, List.filter_cons, List.filter_cons, ih]
          by_cases hname : m.name = r.name
          · simp [hname, h]
          · simp [hname]
    · simp [List.filter_append, h]

theorem withoutMatchers_setMatcher (r : Matcher) (s : Selector) :
    (s.setMatcher r).withoutMatchers = s.withoutMatchers := by
  unfold setMatcher
  split
  · rfl
  · split <;> rfl

theorem mem_labelMatchers {m : Matcher} (h : m ∈ s.matchers) : m ∈ s.labelMatchers := by
  unfold labelMatchers
  split
  · split
    · exact h
    · exact List.mem_append_left _ h
  · exact h

/-- A selector that has a matcher misses nothing of it, although the check also sees the name of the
    metric as a matcher. -/
theorem Has.missing?_eq_none (h : s.Has r) : Rule.missing? s.labelMatchers r = none := by
  have hmem : r ∈ s.labelMatchers.filter fun m => m.name == r.name :=
    List.mem_filter.mpr ⟨mem_labelMatchers h.1, beq_self_eq_true _⟩
  simp only [Rule.missing?]
  rw [if_pos (List.contains_iff_mem.mpr hmem)]

end SetMatcher

/-! ## Several matchers on one selector -/

/-- Sets matchers one after another. -/
def setMatchers (rs : List Matcher) (s : Selector) : Selector :=
  rs.foldl (fun s r => s.setMatcher r) s

section SetMatchers

variable {s : Selector} {r : Matcher} {rs : List Matcher}

theorem Has.setMatchers (h : s.Has r) (hrs : ∀ a ∈ rs, a.name = r.name → a = r) :
    (s.setMatchers rs).Has r := by
  induction rs generalizing s with
  | nil => exact h
  | cons a rest ih =>
      obtain ⟨ha, hrest⟩ := List.forall_mem_cons.mp hrs
      refine ih (s := s.setMatcher a) ?_ hrest
      by_cases hname : a.name = r.name
      · rw [ha hname, h.setMatcher_eq]
        exact h
      · exact h.setMatcher hname

/-- A matcher that is set, and whose label no other has, is there in the end. -/
theorem setMatchers_has (hmem : r ∈ rs) (hset : r.isSettable = true)
    (hrs : ∀ a ∈ rs, a.name = r.name → a = r) (s : Selector) : (s.setMatchers rs).Has r := by
  induction rs generalizing s with
  | nil => exact absurd hmem List.not_mem_nil
  | cons a rest ih =>
      obtain ⟨-, hrest⟩ := List.forall_mem_cons.mp hrs
      -- from the step that sets the matcher on, the others keep it
      rcases List.mem_cons.mp hmem with rfl | hmem
      · exact (setMatcher_has s hset).setMatchers hrest
      · exact ih hmem hrest (s.setMatcher a)

theorem filter_matchers_setMatchers {names : List String} (h : ∀ a ∈ rs, a.name ∈ names)
    (s : Selector) : (s.setMatchers rs).matchers.filter (fun m => m.name ∉ names) =
      s.matchers.filter fun m => m.name ∉ names := by
  induction rs generalizing s with
  | nil => rfl
  | cons a rest ih =>
      obtain ⟨ha, hrest⟩ := List.forall_mem_cons.mp h
      exact (ih hrest (s.setMatcher a)).trans (filter_matchers_setMatcher ha s)

theorem withoutMatchers_setMatchers (rs : List Matcher) (s : Selector) :
    (s.setMatchers rs).withoutMatchers = s.withoutMatchers := by
  induction rs generalizing s with
  | nil => rfl
  | cons a rest ih => exact (ih (s.setMatcher a)).trans (withoutMatchers_setMatcher a s)

end SetMatchers

end Selector

/-! ## Matchers on every selector of a query -/

namespace Expr

/-- Sets matchers on every selector of a query, one after another. -/
def setMatchers (rs : List Matcher) (e : Expr) : Expr :=
  rs.foldl (fun e r => e.mapSelectors (Selector.setMatcher r)) e

/-- One pass over the query for each matcher is one pass for all of them. -/
theorem setMatchers_eq (rs : List Matcher) (e : Expr) :
    e.setMatchers rs = e.mapSelectors (Selector.setMatchers rs) := by
  induction rs generalizing e with
  | nil => exact (mapSelectors_id e).symm
  | cons r rest ih =>
      show (e.mapSelectors (Selector.setMatcher r)).setMatchers rest = _
      rw [ih, mapSelectors_mapSelectors]
      rfl

theorem setMatcher?_of_isSettable {r : Matcher} (h : r.isSettable = true) (e : Expr) :
    e.setMatcher? r = some (e.mapSelectors (Selector.setMatcher r)) := by
  rw [setMatcher?, h, Bool.or_true, if_pos rfl]

/-- A matcher is refused only if it cannot be set. -/
theorem setMatcher?_cases (r : Matcher) (e : Expr) : r.isSettable = false ∧ e.setMatcher? r = none ∨
    e.setMatcher? r = some (e.mapSelectors (Selector.setMatcher r)) := by
  cases hr : r.isSettable with
  | true => exact Or.inr (setMatcher?_of_isSettable hr e)
  | false =>
      rw [setMatcher?, hr, Bool.or_false]
      split
      · exact Or.inr rfl
      · exact Or.inl ⟨rfl, rfl⟩

theorem foldlM_setMatcher? {rs : List Matcher} (h : ∀ r ∈ rs, r.isSettable = true) (e : Expr) :
    rs.foldlM (fun e r => e.setMatcher? r) e = some (e.setMatchers rs) := by
  induction rs generalizing e with
  | nil => rfl
  | cons r rest ih =>
      obtain ⟨hr, hrest⟩ := List.forall_mem_cons.mp h
      rw [List.foldlM_cons, setMatcher?_of_isSettable hr]
      exact ih hrest _

/-- **Setting required matchers makes every selector have them, and does nothing else.** The
    matchers have different labels and can be set; they are set in any order, each once or more. In
    the end no check misses one of them, setting one of them again changes nothing, and matchers for
    other labels and everything outside the matchers are as before. A matcher that cannot be set
    changes no selector. -/
theorem setMatchers_complete {required rs : List Matcher}
    (hnames : (required.map (·.name)).Nodup) (hsettable : ∀ r ∈ required, r.isSettable = true)
    (hrs : ∀ r, r ∈ rs ↔ r ∈ required) (e : Expr) :
    rs.foldlM (fun e r => e.setMatcher? r) e = some (e.setMatchers rs) ∧
    (∀ s ∈ (e.setMatchers rs).selectors, ∀ r ∈ required,
      Rule.missing? s.labelMatchers r = none) ∧
    ((e.setMatchers rs).selectors.map fun s =>
        s.matchers.filter fun m => m.name ∉ required.map (·.name)) =
      (e.selectors.map fun s => s.matchers.filter fun m => m.name ∉ required.map (·.name)) ∧
    (e.setMatchers rs).mapSelectors Selector.withoutMatchers =
      e.mapSelectors Selector.withoutMatchers ∧
    (∀ r ∈ required, (e.setMatchers rs).mapSelectors (Selector.setMatcher r) = e.setMatchers rs) ∧
    ∀ r, r.isSettable = false → (∀ s : Selector, s.setMatcher r = s) ∧
      e.mapSelectors (Selector.setMatcher r) = e ∧ ∀ e', e.setMatcher? r = some e' → e' = e := by
  have hsame : ∀ r ∈ required, ∀ a ∈ rs, a.name = r.name → a = r := fun r hr a ha hname =>
    List.inj_on_of_nodup_map hnames ((hrs a).mp ha) hr hname
  have hselectors : (e.setMatchers rs).selectors = e.selectors.map (Selector.setMatchers rs) := by
    rw [setMatchers_eq, selectors_mapSelectors]
  have hhas : ∀ s ∈ (e.setMatchers rs).selectors, ∀ r ∈ required, s.Has r := by
    intro s hs r hr
    rw [hselectors] at hs
    obtain ⟨before, -, rfl⟩ := List.mem_map.mp hs
    exact Selector.setMatchers_has ((hrs r).mpr hr) (hsettable r hr) (hsame r hr) before
  refine ⟨foldlM_setMatcher? (fun r hr => hsettable r ((hrs r).mp hr)) e,
    fun s hs r hr => (hhas s hs r hr).missing?_eq_none, ?_, ?_, ?_, ?_⟩
  · rw [hselectors, List.map_map]
    refine List.map_congr_left fun s _ => ?_
    exact Selector.filter_matchers_setMatchers
      (fun a ha => List.mem_map_of_mem ((hrs a).mp ha)) s
  · rw [setMatchers_eq, mapSelectors_mapSelectors]
    exact mapSelectors_congr fun s _ => Selector.withoutMatchers_setMatchers rs s
  · exact fun r hr => mapSelectors_eq_self fun s hs => (hhas s hs r hr).setMatcher_eq
  · intro r hr
    have hself : e.mapSelectors (Selector.setMatcher r) = e :=
      mapSelectors_eq_self fun s _ => Selector.setMatcher_of_not_isSettable hr
    refine ⟨fun s => Selector.setMatcher_of_not_isSettable hr, hself, fun e' he' => ?_⟩
    simp only [setMatcher?, hself] at he'
    split at he'
    · exact (Option.some.inj he').symm
    · exact absurd he' (by simp)

/-- A wrong job, a job that stands twice, a metric named by a required matcher, and a repair that is
    made twice. -/
theorem setMatchers_complete_job :
    let job : Matcher := ⟨"job", .regex, "$job"⟩
    let metric : Matcher := ⟨"__name__", .equal, "up"⟩
    let zone : Matcher := ⟨"zone", .notEqual, "a"⟩
    let e := Expr.binary .add ⟨false, none, none⟩
      (.vector ⟨some "up", [⟨"job", .equal, "api"⟩, zone, job], [], none, none⟩)
      (.call "rate" [.matrix ⟨none, [], [], none, none⟩ ⟨300000⟩])
    let applied := e.setMatchers [job, metric, job]
    applied.selectors.map (·.matchers) = [[job, zone, job, metric], [job, metric]] ∧
      (∀ s ∈ applied.selectors, ∀ r ∈ [metric, job], Rule.missing? s.labelMatchers r = none) ∧
      applied.mapSelectors (Selector.setMatcher job) = applied := by
  intro job metric zone e applied
  have hnames : ([metric, job].map (·.name)).Nodup := by decide +kernel
  have hsettable : ∀ r ∈ [metric, job], r.isSettable = true := by decide +kernel
  have hrs : ∀ r, r ∈ [job, metric, job] ↔ r ∈ [metric, job] := by simp [or_comm]
  obtain ⟨-, hmissing, -, -, hagain, -⟩ := setMatchers_complete hnames hsettable hrs e
  exact ⟨by decide +kernel, hmissing, hagain job (by simp)⟩

end Expr

end BoardLint
