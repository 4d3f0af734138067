import BoardLint.Proofs.Lint.Untouched
import BoardLint.Proofs.Override.Coverage
import BoardLint.Proofs.Rule.MatcherRepair

set_option autoImplicit false

/-! # What was fixed passes

A finding counts as fixed once its repair was made, and other repairs follow. What a repair has
reached is kept by the later ones (`Findings.repairAll_reaches`): a dashboard that cannot be edited
stays so, a template variable that is read again in time stays so, and a matcher stays on a query as
long as what is written is read back. Then the check that made the finding passes on the repaired
dashboard. -/

namespace BoardLint

/-! ## Sweeps that reach a goal -/

namespace Findings

variable {index : Nat} {list : List Finding}

/-- What each pending repair keeps, a sweep keeps. -/
theorem repairAll_keeps (Inv : Dashboard → Prop)
    (hstep : ∀ f ∈ list, f.isPendingAt index = true → ∀ fix d d',
      f.raw.fix = some fix → f.Repairs d fix d' → Inv d → Inv d') {d : Dashboard} (h : Inv d) :
    Inv (repairAll index d list).dashboard := by
  induction list generalizing d with
  | nil => exact h
  | cons f rest ih =>
      obtain ⟨hf, hrest⟩ := List.forall_mem_cons.mp hstep
      rw [repairAll_cons]
      rcases sweepOne_cases index f d with ⟨fix, d', hpending, hfix, hrepair, hone⟩ | ⟨-, hone⟩
      · simp only [hone]
        exact ih hrest (hf hpending fix d d' hfix (Finding.repair?_eq_some hrepair) h)
      · simp only [hone]
        exact ih hrest h

/-- What the repair of one pending finding reaches and later repairs keep, a sweep that misses
    nothing reaches. -/
theorem repairAll_reaches (Inv Goal : Dashboard → Prop)
    (hstep : ∀ f ∈ list, f.isPendingAt index = true → ∀ fix d d',
      f.raw.fix = some fix → f.Repairs d fix d' → Inv d → Inv d' ∧ (Goal d → Goal d'))
    {g : Finding} (hg : g ∈ list) (hpending : g.isPendingAt index = true)
    (hgoal : ∀ fix d d', g.raw.fix = some fix → g.Repairs d fix d' → Inv d → Goal d')
    {d : Dashboard} (hready : Ready index d list) (h : Inv d) :
    Goal (repairAll index d list).dashboard := by
  induction list generalizing d with
  | nil => exact absurd hg List.not_mem_nil
  | cons f rest ih =>
      obtain ⟨hf, hrest⟩ := List.forall_mem_cons.mp hstep
      obtain ⟨hfready, hrestready⟩ := List.forall_mem_cons.mp hready
      rw [repairAll_cons]
      rcases sweepOne_cases index f d with ⟨fix, d', hp, hfix, hrepair, hone⟩ | ⟨hnone, hone⟩
      · have hrepairs := Finding.repair?_eq_some hrepair
        have hinv := (hf hp fix d d' hfix hrepairs h).1
        simp only [hone]
        rcases List.mem_cons.mp hg with rfl | hg
        · -- from here on the goal is kept along with the invariant
          have hboth : Inv d' ∧ Goal d' := ⟨hinv, hgoal fix d d' hfix hrepairs h⟩
          refine (repairAll_keeps (fun d => Inv d ∧ Goal d) ?_ hboth).2
          intro f hmem hp fix d d' hfix hrepairs hboth
          obtain ⟨hinv', hkeep⟩ := hrest f hmem hp fix d d' hfix hrepairs hboth.1
          exact ⟨hinv', hkeep hboth.2⟩
        · have hkeeps := (hfready (Finding.isPendingAt_iff.mp hp).1 fix hfix).2
          exact ih hrest hg (Ready.of_shape hrestready (hrepairs.shape_eq hkeeps)) hinv
      · simp only [hone]
        rcases List.mem_cons.mp hg with rfl | hg
        · -- a pending repair that has its place is made
          obtain ⟨hindex, hp⟩ := Finding.isPendingAt_iff.mp hpending
          obtain ⟨fix, hfix⟩ := Finding.exists_fix_of_isPending hp
          obtain ⟨d', hd'⟩ := (hfready hindex fix hfix).1.exists_repair?
          rw [hnone hpending fix hfix] at hd'
          cases hd'
        · exact ih hrest hg hrestready h

end Findings

/-! ## The rules that repair -/

namespace RuleSet

theorem nodup_ids (s : RuleSettings) : ((all s).map (·.id)).Nodup := by
  have hids : (all s).map (·.id) = (all default).map (·.id) := rfl
  rw [hids]
  decide +kernel

theorem eq_of_id_eq {s : RuleSettings} {r r' : Rule} (hr : r ∈ all s) (hr' : r' ∈ all s)
    (h : r.id = r'.id) : r = r' :=
  List.inj_on_of_nodup_map (nodup_ids s) hr hr' h

theorem check_of_mem_matcherRules {s : RuleSettings} {r : Rule} (hr : r ∈ all s)
    (hid : r.id ∈ Rule.matcherRules) :
    r.check = .target fun d _ t => Rule.matcherProblems (Rule.requiredBy s r.id) d t := by
  have hjob : Rule.targetJob ∈ all s := by simp [all]
  have hinstance : Rule.targetInstance ∈ all s := by simp [all]
  have hrequired : Rule.requiredMatchers s ∈ all s := by simp [all]
  simp only [Rule.matcherRules, List.mem_cons, List.not_mem_nil, or_false] at hid
  rcases hid with hid | hid | hid
  · rw [eq_of_id_eq hr hjob hid]
    rfl
  · rw [eq_of_id_eq hr hinstance hid]
    rfl
  · rw [eq_of_id_eq hr hrequired hid]
    rfl

end RuleSet

/-! ## Back to the check -/

/-- The part of a dashboard that is at the positions of a finding. -/
def Finding.site? (f : Finding) (d : Dashboard) : Option Site :=
  match f.panel, f.target, f.template with
  | some place, some j, _ => do
    let p ← d.allPanels[place.index]?
    let t ← p.targets[j]?
    some (.target place.index p j t)
  | some place, none, _ => d.allPanels[place.index]?.map (.panel place.index)
  | none, _, some place => d.templates[place.index]?.map (.template place.index)
  | none, _, none => some .dashboard

namespace Site

variable {d : Dashboard} {site : Site} {r : Rule} {reported : List Diagnostic}

/-- A finding with a repair was reported. -/
theorem exists_reported? {place : DashboardPlace} {f : Finding} {fix : Fix}
    (h : f ∈ site.findings place d r) (hfix : f.raw.fix = some fix) :
    ∃ reported, site.reported? d r = some reported ∧ f.raw ∈ reported := by
  unfold findings at h
  split at h
  · exact absurd h List.not_mem_nil
  · rw [List.mem_singleton.mp h] at hfix
    exact absurd hfix (by simp [finding, Diagnostic.success])
  · next hreported =>
      obtain ⟨raw, hraw, rfl⟩ := List.mem_map.mp h
      exact ⟨_, hreported, hraw⟩

theorem finding_mem_findings (place : DashboardPlace) (h : site.reported? d r = some reported)
    {raw : Diagnostic} (hraw : raw ∈ reported) :
    site.finding place r raw ∈ site.findings place d r := by
  cases reported with
  | nil => exact absurd hraw List.not_mem_nil
  | cons first more =>
      rw [findings, h]
      exact List.mem_map_of_mem hraw

theorem eq_dashboard_of_reported? {check : Dashboard → List Diagnostic}
    (hcheck : r.check = .dashboard check) (h : site.reported? d r = some reported) :
    site = .dashboard ∧ reported = check d := by
  cases site <;> simp_all [reported?]

theorem exists_template_of_reported? {check : Dashboard → Template → List Diagnostic}
    (hcheck : r.check = .template check) (h : site.reported? d r = some reported) :
    ∃ i t, site = .template i t ∧ reported = check d t := by
  cases site <;> simp_all [reported?]

theorem exists_target_of_reported? {check : Dashboard → Panel → Target → List Diagnostic}
    (hcheck : r.check = .target check) (h : site.reported? d r = some reported) :
    ∃ i p j t, site = .target i p j t ∧ reported = check d p t := by
  cases site <;> simp_all [reported?]

end Site

/-! ## One repair -/

section Repair

variable {maySet : String → Matcher → Prop} {f : Finding} {fix : Fix} {d d' : Dashboard}

theorem Dashboard.Replaced.target?_self {i j : Nat} {p : Panel} {t t' : Target}
    (h : d.Replaced i p { p with targets := p.targets.set j t' } d')
    (ht : p.targets[j]? = some t) : d.target? i j = some { t with idx := j } ∧
      d'.target? i j = some { t' with idx := j } := by
  rw [Dashboard.target?, Dashboard.target?, h.getElem?_allPanels, h.symm.getElem?_allPanels,
    Option.bind_some, Option.bind_some, Panel.getElem?_targets_reindexed,
    Panel.getElem?_targets_reindexed, ht,
    List.getElem?_set_self (List.getElem?_eq_some_iff.mp ht).1]
  exact ⟨rfl, rfl⟩

/-- The finding is about the target at a position, and its repair sets a matcher there. -/
def Finding.SetsAt (f : Finding) (k l : Nat) (m : Matcher) : Prop :=
  (f.panel.map fun place => place.index) = some k ∧ f.target = some l ∧
    f.raw.fix = some (.target (Rule.setMatcher m))

/-- A repair leaves a target as it is or sets a matcher on it. -/
theorem Finding.Repairs.target?_cases (h : f.Repairs d fix d') (hfix : f.raw.fix = some fix)
    (hmends : Rule.Mends maySet f.rule fix) (k l : Nat) : d'.target? k l = d.target? k l ∨
      ∃ m, maySet f.rule m ∧ f.SetsAt k l m ∧ ∃ t, d.target? k l = some t ∧
        d'.target? k l = some (Rule.setMatcher m d.templates t) := by
  generalize hrule : f.rule = id at hmends
  cases hmends with
  | editable =>
      cases h
      exact Or.inl rfl
  | refresh =>
      cases h
      exact Or.inl rfl
  | query hid hm =>
      cases h with
      | @target place j p t _ _ hplace hj ht h =>
          by_cases hhere : place.index = k ∧ j = l
          · obtain ⟨rfl, rfl⟩ := hhere
            obtain ⟨hbefore, hafter⟩ := h.target?_self ht
            refine Or.inr ⟨_, hm, ⟨by rw [hplace]; rfl, hj, hfix⟩, _, hbefore, hafter.trans ?_⟩
            exact congrArg some (Rule.setMatcher_idx _ d.templates t j).symm
          · exact Or.inl (h.target?_eq hhere)

theorem Finding.Repairs.editable_keeps (h : f.Repairs d fix d')
    (hmends : Rule.Mends maySet f.rule fix) (heditable : d.editable = some false) :
    d'.editable = some false := by
  generalize hrule : f.rule = id at hmends
  cases hmends with
  | editable =>
      cases h
      rfl
  | refresh =>
      cases h
      exact heditable
  | query hid hm =>
      cases h with
      | target _ _ _ _ h => exact h.editable_eq.trans heditable

/-- The template variable at a position is read again when the time window changes. -/
def Dashboard.Reloads (d : Dashboard) (k : Nat) : Prop :=
  ∃ t, d.templates[k]? = some t ∧ t.refresh = some Rule.onTimeChange

theorem Finding.Repairs.reloads_keeps {k : Nat} (h : f.Repairs d fix d')
    (hmends : Rule.Mends maySet f.rule fix) (hreloads : d.Reloads k) : d'.Reloads k := by
  obtain ⟨t, ht, hrefresh⟩ := hreloads
  generalize hrule : f.rule = id at hmends
  cases hmends with
  | editable =>
      cases h
      exact ⟨t, ht, hrefresh⟩
  | refresh =>
      cases h with
      | @template place t' _ hplace ht' =>
          by_cases hk : place.index = k
          · subst hk
            exact ⟨_, List.getElem?_set_self (List.getElem?_eq_some_iff.mp ht').1, rfl⟩
          · exact ⟨t, (List.getElem?_set_ne hk).trans ht, hrefresh⟩
  | query hid hm =>
      cases h with
      | target _ _ _ _ h => exact ⟨t, by rw [h.templates_eq, ht], hrefresh⟩

end Repair

/-! ## Runs -/

/-- A finding with a repair comes from a check that reported it, on a part of the dashboard. -/
theorem RuleSet.exists_reported?_of_mem {rules : RuleSet} {i : Nat} {d : Dashboard} {f : Finding}
    {fix : Fix} (h : f ∈ rules.lintDashboard i d) (hfix : f.raw.fix = some fix) :
    ∃ (site : Site) (r : Rule) (reported : List Diagnostic) (raw : Diagnostic), site.IsIn d ∧
      r ∈ rules ∧ site.reported? d r = some reported ∧ raw ∈ reported ∧ raw.fix = some fix ∧
      f = site.finding ⟨i, d.title, d.unit⟩ r raw := by
  obtain ⟨site, hin, r, hr, hmem, heq⟩ := exists_site_of_mem h
  obtain ⟨reported, hreported, hraw⟩ := Site.exists_reported? hmem hfix
  exact ⟨site, r, reported, f.raw, hin, hr, hreported, hraw, hfix, heq⟩

/-- The repairs of rules are for parts of the kind that is checked, and keep shapes. -/
theorem RuleSet.carries_of_mem {s : RuleSettings} {i : Nat} {d : Dashboard} {f : Finding}
    {fix : Fix} (h : f ∈ (ofSettings s).lintDashboard i d) (hfix : f.raw.fix = some fix) :
    f.Carries fix ∧ fix.KeepsShape := by
  obtain ⟨site, r, reported, raw, -, hr, hreported, hraw, hfix, rfl⟩ :=
    exists_reported?_of_mem h hfix
  have hall := (List.mem_filter.mp hr).1
  have hmends :=
    Site.repairsOnly_of_reported? (repairsOnly_mends s r hall) hreported raw hraw fix hfix
  generalize hid : r.id = id at hmends
  cases hmends with
  | editable => exact ⟨trivial, fun _ => rfl⟩
  | refresh =>
      obtain rfl := eq_of_id_eq hall (show Rule.reloadOnTimeChange ∈ all s by simp [all]) hid
      obtain ⟨k, t, rfl, -⟩ := Site.exists_template_of_reported? rfl hreported
      exact ⟨rfl, trivial⟩
  | query hmem hm =>
      have hcheck := check_of_mem_matcherRules hall (hid ▸ hmem)
      obtain ⟨k, p, j, t, rfl, -⟩ := Site.exists_target_of_reported? hcheck hreported
      exact ⟨rfl, trivial⟩

namespace LintRun

section Lint

variable {s : RuleSettings} {ds : List Dashboard} {c : Cascade} {f : Finding} {fix : Fix}

theorem ready_of_getElem? {i : Nat} {d : Dashboard} (hd : ds[i]? = some d) :
    Findings.Ready i d (lint (RuleSet.ofSettings s) ds c).list := by
  refine lint_ready (fun g hg fix hfix => ?_) hd
  obtain ⟨⟨d', j⟩, -, hg⟩ := List.mem_flatMap.mp hg
  exact RuleSet.carries_of_mem hg hfix

theorem finding_mem_lint {rules : RuleSet} {i : Nat} {d : Dashboard} {site : Site} {r : Rule}
    {reported : List Diagnostic} {raw : Diagnostic} (hd : ds[i]? = some d) (hin : site.IsIn d)
    (hr : r ∈ rules) (hreported : site.reported? d r = some reported) (hraw : raw ∈ reported) :
    c.apply (site.finding ⟨i, d.title, d.unit⟩ r raw) ∈ (lint rules ds c).list := by
  refine mem_lint_iff.mpr ⟨i, d, _, hd, ?_, rfl⟩
  rw [Site.lintDashboard_eq]
  refine List.mem_flatMap.mpr ⟨site, Site.mem_sites_iff.mpr hin, List.mem_flatMap.mpr ⟨r, hr, ?_⟩⟩
  exact Site.finding_mem_findings _ hreported hraw

/-- The findings after repairs: those that were pending count as fixed. -/
theorem autoFix_findings (s : RuleSettings) (ds : List Dashboard) (c : Cascade)
    (failures : List LoadFailure) :
    let run : LintRun := ⟨ds, failures, lint (RuleSet.ofSettings s) ds c⟩
    run.autoFix.1.findings.list =
      run.findings.list.map fun f => if f.isPending then f.repaired else f := by
  intro run
  exact findings_autoFix (fun i d hd => ready_of_getElem? hd) fun f hf _ => index_lt_of_mem_lint hf

theorem repaired_mem_autoFix (failures : List LoadFailure)
    (h : f ∈ (lint (RuleSet.ofSettings s) ds c).list) (hpending : f.isPending = true) :
    f.repaired ∈ (LintRun.autoFix
      ⟨ds, failures, lint (RuleSet.ofSettings s) ds c⟩).1.findings.list := by
  rw [autoFix_findings]
  exact List.mem_map.mpr ⟨f, h, if_pos hpending⟩

/-- A finding that counts as fixed was pending before. -/
theorem exists_pending_of_fixed {failures : List LoadFailure}
    (h : f ∈ (LintRun.autoFix
      ⟨ds, failures, lint (RuleSet.ofSettings s) ds c⟩).1.findings.list) (hfixed : f.fixed = true) :
    ∃ g ∈ (lint (RuleSet.ofSettings s) ds c).list, g.isPending = true ∧ f = g.repaired := by
  rw [autoFix_findings] at h
  obtain ⟨g, hg, rfl⟩ := List.mem_map.mp h
  by_cases hpending : g.isPending = true
  · exact ⟨g, hg, hpending, if_pos hpending⟩
  · rw [if_neg hpending] at hfixed
    obtain ⟨i, d, g', -, hg', rfl⟩ := mem_lint_iff.mp hg
    obtain ⟨site, -, r, -, -, heq⟩ := RuleSet.exists_site_of_mem hg'
    rw [heq] at hfixed
    cases hfixed

/-- Two diagnostics of one check on one part are pending together. -/
theorem isPending_of_same {c : Cascade} {site : Site} {r : Rule} {place : DashboardPlace}
    {raw raw' : Diagnostic} (hseverity : raw'.severity = raw.severity) (hfix : raw'.fix.isSome)
    (h : (c.apply (site.finding place r raw)).isPending = true) :
    (c.apply (site.finding place r raw')).isPending = true := by
  have hsame : (c.apply (site.finding place r raw')).severity =
      (c.apply (site.finding place r raw)).severity := by
    have hcovers (o : Overrides) :
        o.covers (site.finding place r raw') = o.covers (site.finding place r raw) := rfl
    have hraw : (site.finding place r raw').raw.severity =
        (site.finding place r raw).raw.severity := hseverity
    simp only [Finding.severity, Cascade.apply, Cascade.effective_eq, hcovers, hraw]
    rfl
  rw [Finding.isPending, Bool.and_eq_true] at h ⊢
  rw [hsame]
  exact ⟨by simpa [Finding.isFixable, Cascade.apply, Site.finding] using hfix, h.2⟩

end Lint

section Passes

variable {s : RuleSettings} {ds : List Dashboard} {c : Cascade} {i : Nat} {d : Dashboard}
  {g : Finding}

/-- The dashboard at a position after the repairs of a run. -/
def repairedAt (s : RuleSettings) (ds : List Dashboard) (c : Cascade) (i : Nat) (d : Dashboard) :
    Dashboard :=
  (Findings.repairAll i d (lint (RuleSet.ofSettings s) ds c).list).dashboard

theorem repairedAt_editable (hd : ds[i]? = some d)
    (hg : g ∈ (lint (RuleSet.ofSettings s) ds c).list) (hpending : g.isPendingAt i = true)
    (hrule : g.rule = "uneditable-dashboard") : (repairedAt s ds c i d).editable = some false := by
  refine Findings.repairAll_reaches (fun _ => True) (fun d => d.editable = some false)
    ?_ hg hpending ?_ (ready_of_getElem? hd) trivial
  · intro f hf _ fix d d' hfix hrepairs _
    exact ⟨trivial, hrepairs.editable_keeps (mends_of_mem_lint hf hfix)⟩
  · intro fix d d' hfix hrepairs _
    have hmends := mends_of_mem_lint hg hfix
    generalize hid : g.rule = id at hmends
    cases hmends with
    | editable =>
        cases hrepairs
        rfl
    | refresh => exact absurd (hid.symm.trans hrule) (by decide)
    | query hmem hm => exact absurd (hid.symm.trans hrule ▸ hmem) (by decide)

theorem repairedAt_reloads (hd : ds[i]? = some d)
    (hg : g ∈ (lint (RuleSet.ofSettings s) ds c).list) (hpending : g.isPendingAt i = true)
    (hrule : g.rule = "template-on-time-change-reload-rule") {place : TemplatePlace}
    (hplace : g.template = some place) : (repairedAt s ds c i d).Reloads place.index := by
  refine Findings.repairAll_reaches (fun _ => True) (fun d => d.Reloads place.index)
    ?_ hg hpending ?_ (ready_of_getElem? hd) trivial
  · intro f hf _ fix d d' hfix hrepairs _
    exact ⟨trivial, hrepairs.reloads_keeps (mends_of_mem_lint hf hfix)⟩
  · intro fix d d' hfix hrepairs _
    have hmends := mends_of_mem_lint hg hfix
    generalize hid : g.rule = id at hmends
    cases hmends with
    | editable => exact absurd (hid.symm.trans hrule) (by decide)
    | refresh =>
        cases hrepairs with
        | template _ hplace' ht =>
            obtain rfl := Option.some.inj (hplace.symm.trans hplace')
            exact ⟨_, List.getElem?_set_self (List.getElem?_eq_some_iff.mp ht).1, rfl⟩
    | query hmem hm => exact absurd (hid.symm.trans hrule ▸ hmem) (by decide)

/-- A pending repair of a run sets a matcher that its rule requires on the target at a position of a
    dashboard. -/
def Pending (s : RuleSettings) (ds : List Dashboard) (c : Cascade) (i k l : Nat) (m : Matcher) :
    Prop :=
  ∃ f ∈ (lint (RuleSet.ofSettings s) ds c).list, f.isPendingAt i = true ∧
    m ∈ Rule.requiredBy s f.rule ∧ f.SetsAt k l m

/-- What repairs keep of the dashboard around a target: the frame, and that its query has come from
    the one that was there by setting matchers that were pending. -/
def Around (pending : Matcher → Prop) (d : Dashboard) (k l : Nat) (t : Target) (d' : Dashboard) :
    Prop :=
  d'.frame = d.frame ∧ ∃ t', d'.target? k l = some t' ∧ Rule.Rewritten d.templates pending t t'

/-- The target at a position carries a matcher, if it is there. -/
def CarriesAt (d : Dashboard) (k l : Nat) (m : Matcher) (d' : Dashboard) : Prop :=
  ∀ t, d'.target? k l = some t → Rule.Carries d.templates t m

section Target

variable {required : List Matcher} {pending : Matcher → Prop} {k l : Nat} {t : Target} {m : Matcher}

theorem Around.map_frame_templates {e : Dashboard} (h : Around pending d k l t e) :
    e.templates.map Template.frame = d.templates.map Template.frame :=
  congrArg Dashboard.templates h.1

section Step

variable {f : Finding} {fix : Fix} {e e' : Dashboard}
  (hf : f ∈ (lint (RuleSet.ofSettings s) ds c).list) (hfix : f.raw.fix = some fix)
  (hpending : ∀ m ∈ Rule.requiredBy s f.rule, f.SetsAt k l m → pending m)
  (hrepairs : f.Repairs e fix e')
  (h : Around pending d k l t e)
include hf hfix hpending hrepairs h

/-- One repair keeps what is around a target. -/
theorem Around.step : Around pending d k l t e' := by
  have htemplates := h.map_frame_templates
  obtain ⟨hframe, t', ht', hrewritten⟩ := h
  have hmends := mends_of_mem_lint hf hfix
  have hframe' : e'.frame = d.frame :=
    (Dashboard.RevisedBy.of_repairs (List.mem_singleton_self f) hmends hrepairs).frame.trans hframe
  rcases hrepairs.target?_cases hfix hmends k l with hsame | ⟨r, hr, hat, t₁, ht₁, hset⟩
  · exact ⟨hframe', t', hsame.trans ht', hrewritten⟩
  · obtain rfl := Option.some.inj (ht'.symm.trans ht₁)
    rw [Rule.setMatcher_congr htemplates] at hset
    exact ⟨hframe', _, hset, hrewritten.set (hpending r hr hat)⟩

/-- One repair keeps the required matchers that a target carries. -/
theorem CarriesAt.step (hmend : Rule.Mendable d.templates required pending t) (hm : m ∈ required)
    (hcarries : CarriesAt d k l m e) : CarriesAt d k l m e' := by
  have htemplates := h.map_frame_templates
  obtain ⟨-, t', ht', hrewritten⟩ := h
  intro t₂ ht₂
  rcases hrepairs.target?_cases hfix (mends_of_mem_lint hf hfix) k l with
    hsame | ⟨r, hr, hat, t₁, ht₁, hset⟩
  · exact hcarries t₂ (hsame.symm.trans ht₂)
  · obtain rfl := Option.some.inj (ht'.symm.trans ht₁)
    obtain rfl := Option.some.inj (hset.symm.trans ht₂)
    rw [Rule.setMatcher_congr htemplates]
    exact hmend.keeps hrewritten hm (hpending r hr hat) (hcarries t' ht')

end Step

/-- What a run sets on a target is pending there. -/
theorem pending_of_setsAt {f : Finding} (hf : f ∈ (lint (RuleSet.ofSettings s) ds c).list)
    (hpending : f.isPendingAt i = true) (m : Matcher) (hm : m ∈ Rule.requiredBy s f.rule)
    (h : f.SetsAt k l m) : Pending s ds c i k l m :=
  ⟨f, hf, hpending, hm, h⟩

theorem repairedAt_around (ht : d.target? k l = some t) :
    Around (Pending s ds c i k l) d k l t (repairedAt s ds c i d) := by
  refine Findings.repairAll_keeps (Around (Pending s ds c i k l) d k l t) ?_ ⟨rfl, t, ht, .refl⟩
  exact fun f hf hp fix e e' hfix hrepairs h => h.step hf hfix (pending_of_setsAt hf hp) hrepairs

section Mendable

variable (ht : d.target? k l = some t) (hm : m ∈ required)
  (hmend : Rule.Mendable d.templates required (Pending s ds c i k l) t)
include ht hm hmend

/-- A required matcher that was carried before is carried after the repairs. -/
theorem repairedAt_carriesAt (hcarries : Rule.Carries d.templates t m) :
    CarriesAt d k l m (repairedAt s ds c i d) := by
  refine (Findings.repairAll_keeps
    (fun e => Around (Pending s ds c i k l) d k l t e ∧ CarriesAt d k l m e) ?_
    ⟨⟨rfl, t, ht, .refl⟩, fun t' ht' => Option.some.inj (ht.symm.trans ht') ▸ hcarries⟩).2
  intro f hf hp fix e e' hfix hrepairs h
  exact ⟨h.1.step hf hfix (pending_of_setsAt hf hp) hrepairs,
    CarriesAt.step hf hfix (pending_of_setsAt hf hp) hrepairs h.1 hmend hm h.2⟩

/-- A required matcher that was missing and that a pending finding sets on the target is carried
    after the repairs. -/
theorem repairedAt_carriesAt_of_missing (hd : ds[i]? = some d)
    (hmissing : ¬ Rule.Carries d.templates t m) (hpending : Pending s ds c i k l m) :
    CarriesAt d k l m (repairedAt s ds c i d) := by
  obtain ⟨g, hg, hgpending, -, hplace, hl, hfix⟩ := id hpending
  refine Findings.repairAll_reaches (Around (Pending s ds c i k l) d k l t) (CarriesAt d k l m)
    ?_ hg hgpending ?_ (ready_of_getElem? hd) ⟨rfl, t, ht, .refl⟩
  · intro f hf hp fix e e' hfix hrepairs h
    exact ⟨h.step hf hfix (pending_of_setsAt hf hp) hrepairs,
      CarriesAt.step hf hfix (pending_of_setsAt hf hp) hrepairs h hmend hm⟩
  · intro fix e e' hfix' hrepairs h
    have htemplates := h.map_frame_templates
    obtain ⟨-, t', ht', hrewritten⟩ := h
    obtain rfl := Option.some.inj (hfix.symm.trans hfix')
    cases hrepairs with
    | @target place j p t₁ _ _ hplace' hj ht₁ hreplaced =>
        rw [hplace', Option.map_some, Option.some.injEq] at hplace
        obtain rfl := Option.some.inj (hl.symm.trans hj)
        subst hplace
        obtain ⟨hbefore, hafter⟩ := hreplaced.target?_self ht₁
        obtain rfl := Option.some.inj (ht'.symm.trans hbefore)
        intro t₂ ht₂
        obtain rfl := Option.some.inj (hafter.symm.trans ht₂)
        rw [← Rule.setMatcher_idx, Rule.setMatcher_congr htemplates]
        exact hmend.carries hrewritten hm hpending hmissing

end Mendable

end Target

/-! ## The checks after the repairs -/

theorem getElem?_autoFix_dashboards (failures : List LoadFailure) (hd : ds[i]? = some d) :
    (LintRun.autoFix ⟨ds, failures, lint (RuleSet.ofSettings s) ds c⟩).1.dashboards[i]? =
      some (repairedAt s ds c i d) :=
  getElem?_autoFix hd

variable {site : Site} {r : Rule} {raw : Diagnostic} {reported : List Diagnostic}

/-- After the repairs of a run, a target that was reported by a rule on matchers passes. -/
theorem matcherProblems_repairedAt {k l : Nat} {p : Panel} {t t' : Target}
    (hd : ds[i]? = some d) (hin : (Site.target k p l t).IsIn d) (hr : r ∈ RuleSet.ofSettings s)
    (hid : r.id ∈ Rule.matcherRules)
    (hraw : raw ∈ Rule.matcherProblems (Rule.requiredBy s r.id) d t)
    (hpending : (c.apply
      ((Site.target k p l t).finding ⟨i, d.title, d.unit⟩ r raw)).isPending = true)
    (hmend : Rule.Mendable d.templates (Rule.requiredBy s r.id) (Pending s ds c i k l) t)
    (ht' : (repairedAt s ds c i d).target? k l = some t') :
    Rule.matcherProblems (Rule.requiredBy s r.id) (repairedAt s ds c i d) t' = [] := by
  have ht : d.target? k l = some t := by
    rw [Dashboard.target?, hin.1]
    exact hin.2
  have hreported : (Site.target k p l t).reported? d r =
      some (Rule.matcherProblems (Rule.requiredBy s r.id) d t) := by
    rw [Site.reported?, RuleSet.check_of_mem_matcherRules (List.mem_filter.mp hr).1 hid]
  refine Rule.matcherProblems_eq_nil fun m hm => ?_
  have hcarries : CarriesAt d k l m (repairedAt s ds c i d) := by
    by_cases hbefore : Rule.Carries d.templates t m
    · exact repairedAt_carriesAt ht hm hmend hbefore
    · -- the matcher was missing, so it has a finding of its own, pending like the given one
      obtain ⟨raw', hraw', hseverity, hfix⟩ := Rule.exists_mem_matcherProblems hraw hm hbefore
      refine repairedAt_carriesAt_of_missing ht hm hmend hd hbefore
        ⟨_, finding_mem_lint hd hin hr hreported hraw', ?_, hm, rfl, rfl, hfix⟩
      refine Finding.isPendingAt_iff.mpr ⟨rfl, isPending_of_same hseverity ?_ hpending⟩
      rw [hfix]
      rfl
  have haround : Around (Pending s ds c i k l) d k l t (repairedAt s ds c i d) :=
    repairedAt_around ht
  intro q hq
  rw [ExpandedQuery.parse_congr haround.map_frame_templates] at hq
  exact hcarries t' ht' q hq

end Passes

/-- **What was fixed passes.** Under any settings and overrides, for every finding of a run that
    counts as fixed after the repairs, the rule that made it takes part, its part is still there,
    and the rule reports nothing of it on the repaired dashboard. For the rules that set matchers
    this needs that what they require stays on the query of the target once it is set: what is
    missing can be set, no other matcher is pending for the same label, and the query can be printed
    and its variables put back at every step. -/
theorem autoFix_passes (s : RuleSettings) (ds : List Dashboard) (c : Cascade)
    (failures : List LoadFailure) :
    let run : LintRun := ⟨ds, failures, lint (RuleSet.ofSettings s) ds c⟩
    ∀ f ∈ run.autoFix.1.findings.list, f.fixed = true →
      ∃ d d' r site, ds[f.dashboard.index]? = some d ∧
        run.autoFix.1.dashboards[f.dashboard.index]? = some d' ∧
        r ∈ RuleSet.ofSettings s ∧ r.id = f.rule ∧ f.site? d' = some site ∧
        ((f.rule ∈ Rule.matcherRules → ∀ k p l t, f.site? d = some (.target k p l t) →
          Rule.Mendable d.templates (Rule.requiredBy s f.rule)
            (Pending s ds c f.dashboard.index k l) t) → site.reported? d' r = some []) := by
  intro run f hf hfixed
  obtain ⟨g, hg, hpending, rfl⟩ := exists_pending_of_fixed hf hfixed
  obtain ⟨fix, hfix⟩ := Finding.exists_fix_of_isPending hpending
  obtain ⟨i, d, g, hd, hmem, rfl⟩ := mem_lint_iff.mp hg
  obtain ⟨site, r, reported, raw, hin, hr, hreported, hraw, hrawfix, rfl⟩ :=
    RuleSet.exists_reported?_of_mem hmem hfix
  have hall := (List.mem_filter.mp hr).1
  have hmends := Site.repairsOnly_of_reported? (RuleSet.repairsOnly_mends s r hall) hreported raw
    hraw fix hrawfix
  have hpendingAt := Finding.isPendingAt_iff.mpr ⟨rfl, hpending⟩
  refine ⟨d, repairedAt s ds c i d, r, ?_⟩
  generalize hid : r.id = id at hmends
  cases hmends with
  | editable =>
      obtain rfl := RuleSet.eq_of_id_eq hall
        (show Rule.uneditable ∈ RuleSet.all s by simp [RuleSet.all]) hid
      obtain ⟨rfl, -⟩ := Site.eq_dashboard_of_reported? rfl hreported
      have heditable := repairedAt_editable hd hg hpendingAt rfl
      refine ⟨.dashboard, hd, getElem?_autoFix_dashboards failures hd, hr, rfl, rfl, fun _ => ?_⟩
      have hchecked : (repairedAt s ds c i d).isEditable = false := by
        rw [Dashboard.isEditable, heditable]
        rfl
      simp [Site.reported?, Rule.uneditable, Rule.new, hchecked]
  | refresh =>
      obtain rfl := RuleSet.eq_of_id_eq hall
        (show Rule.reloadOnTimeChange ∈ RuleSet.all s by simp [RuleSet.all]) hid
      obtain ⟨k, t, rfl, -⟩ := Site.exists_template_of_reported? rfl hreported
      obtain ⟨t', ht', hrefresh⟩ := repairedAt_reloads hd hg hpendingAt rfl rfl
      refine ⟨.template k t', hd, getElem?_autoFix_dashboards failures hd, hr, rfl, ?_, fun _ => ?_⟩
      · exact congrArg (Option.map (Site.template k)) ht'
      · simp [Site.reported?, Rule.reloadOnTimeChange, Rule.new, hrefresh]
  | query hmem hm =>
      have hmatcher : r.id ∈ Rule.matcherRules := hid ▸ hmem
      have hcheck := RuleSet.check_of_mem_matcherRules hall hmatcher
      obtain ⟨k, p, l, t, rfl, rfl⟩ := Site.exists_target_of_reported? hcheck hreported
      have ht : d.target? k l = some t := by
        rw [Dashboard.target?, hin.1]
        exact hin.2
      have haround : Around (Pending s ds c i k l) d k l t (repairedAt s ds c i d) :=
        repairedAt_around ht
      obtain ⟨-, t', ht', -⟩ := haround
      obtain ⟨p', hp', htargets⟩ := Option.bind_eq_some_iff.mp ht'
      refine ⟨.target k p' l t', hd, getElem?_autoFix_dashboards failures hd, hr, hid.symm, ?_, ?_⟩
      · simp [Finding.site?, Finding.repaired, Cascade.apply, Site.finding, Site.panel?,
          Site.target?, hp', htargets]
      · intro hmendable
        have hsite : ((c.apply ((Site.target k p l t).finding ⟨i, d.title, d.unit⟩ r
            raw)).repaired).site? d = some (.target k p l t) := by
          simp [Finding.site?, Finding.repaired, Cascade.apply, Site.finding, Site.panel?,
            Site.target?, hin.1, hin.2]
        have hmend := hmendable hmatcher k p l t hsite
        rw [Site.reported?, hcheck]
        exact congrArg some (matcherProblems_repairedAt hd hin hr hmatcher hraw hpending hmend ht')

/-! ## Runs on one query -/

/-- A Prometheus dashboard with one query. -/
def withQuery (expr : String) : Dashboard :=
  let datasource : Template := { (default : Template) with
    name := "datasource", kind := "datasource", query := some (.str "prometheus") }
  let p : Panel := { (default : Panel) with
    title := "load", targets := [{ (default : Target) with expr := expr }] }
  { (default : Dashboard) with
    title := "Home", templating := ⟨[datasource], []⟩, panels := [p] }

/-- A run on one query without overrides. -/
def runOn (s : RuleSettings) (expr : String) : LintRun :=
  ⟨[withQuery expr], [], lint (RuleSet.ofSettings s) [withQuery expr] (Cascade.new .empty false)⟩

/-- A finding of a rule counts as fixed after the repairs of a run on one query, and then the rule
    reports something, or nothing, of the same part of the repaired dashboard. -/
def FixedAndThen (s : RuleSettings) (expr id : String) (reports : List Diagnostic → Prop) : Prop :=
  ∃ f ∈ (runOn s expr).autoFix.1.findings.list, f.fixed = true ∧ f.rule = id ∧
    ∃ d' r site reported, (runOn s expr).autoFix.1.dashboards[0]? = some d' ∧
      r ∈ RuleSet.ofSettings s ∧ r.id = f.rule ∧ f.site? d' = some site ∧
      site.reported? d' r = some reported ∧ reports reported

section RunOn

variable {s : RuleSettings} {text : String}

theorem mem_usual_of_requiredBy (hs : s.requiredMatchers = []) {id : String} {m : Matcher}
    (h : m ∈ Rule.requiredBy s id) : m ∈ RateQuery.usual := by
  unfold Rule.requiredBy at h
  split at h
  · exact List.mem_cons_of_mem _ h
  · split at h
    · rw [List.mem_singleton.mp h]
      exact List.mem_cons_self
    · rw [hs, ite_self] at h
      cases h

/-- Without matchers of their own, the settings let usual matchers be set only. -/
theorem mem_usual_of_pending (hs : s.requiredMatchers = []) {ds : List Dashboard} {c : Cascade}
    {i k l : Nat} {m : Matcher} (h : Pending s ds c i k l m) : m ∈ RateQuery.usual := by
  obtain ⟨f, -, -, hrequired, -⟩ := h
  exact mem_usual_of_requiredBy hs hrequired

/-- A required matcher that a selector does not have is reported, on a dashboard like the one in
    which the query stands. -/
theorem exists_mem_matcherProblems_of_frame {required : List Matcher} {m : Matcher}
    (hm : m ∈ required) {q : ExpandedQuery}
    (hq : ExpandedQuery.parse text (withQuery text).templates = .ok q) {choice : Selector}
    (hchoice : choice ∈ q.expr.selectors) (hmissing : m ∉ choice.labelMatchers) {d : Dashboard}
    {t : Target} (hframe : d.frame = (withQuery text).frame) (ht : t.expr = text) :
    ∃ problem, (Diagnostic.error (Rule.invalidQuery t.expr problem)).withFix
      (.target (Rule.setMatcher m)) ∈ Rule.matcherProblems required d t := by
  have hquery : Rule.prometheusQuery? d t = some q := by
    have hprometheus : d.isPrometheus = true := Dashboard.isPrometheus_of_frame hframe
    have htemplates : d.templates.map Template.frame =
        (withQuery text).templates.map Template.frame := congrArg Dashboard.templates hframe
    rw [Rule.prometheusQuery?, hprometheus, if_pos rfl, Rule.query?, ht,
      ExpandedQuery.parse_congr htemplates, hq]
    rfl
  obtain ⟨problem, hproblem⟩ : ∃ problem, Rule.missing? choice.labelMatchers m = some problem :=
    Option.ne_none_iff_exists'.mp fun hnone => hmissing (Rule.missing?_eq_none_iff.mp hnone)
  exact ⟨problem, Rule.mem_matcherProblems.mpr
    ⟨q, hquery, m, hm, choice, hchoice, problem, hproblem, rfl⟩⟩

/-- A required matcher that a selector does not have makes a finding that counts as fixed after the
    repairs. -/
theorem exists_fixed {r : Rule} (hr : r ∈ RuleSet.ofSettings s) (hid : r.id ∈ Rule.matcherRules)
    {m : Matcher} (hm : m ∈ Rule.requiredBy s r.id) {q : ExpandedQuery}
    (hq : ExpandedQuery.parse text (withQuery text).templates = .ok q) {choice : Selector}
    (hchoice : choice ∈ q.expr.selectors) (hmissing : m ∉ choice.labelMatchers) :
    ∃ f ∈ (runOn s text).autoFix.1.findings.list, f.fixed = true ∧ f.rule = r.id ∧
      f.dashboard.index = 0 ∧ ∀ d, f.site? d = d.allPanels[0]?.bind fun p =>
        p.targets[0]?.bind fun t => some (.target 0 p 0 t) := by
  let t : Target := { (default : Target) with expr := text }
  let p : Panel := { (default : Panel) with title := "load", targets := [t] }
  have hin : (Site.target 0 p 0 t).IsIn (withQuery text) := ⟨rfl, rfl⟩
  have hreported : (Site.target 0 p 0 t).reported? (withQuery text) r =
      some (Rule.matcherProblems (Rule.requiredBy s r.id) (withQuery text) t) := by
    rw [Site.reported?, RuleSet.check_of_mem_matcherRules (List.mem_filter.mp hr).1 hid]
  obtain ⟨problem, hraw⟩ :=
    exists_mem_matcherProblems_of_frame (t := t) hm hq hchoice hmissing rfl rfl
  have hlint := finding_mem_lint (c := Cascade.new .empty false)
    (show [withQuery text][0]? = some (withQuery text) from rfl) hin hr hreported hraw
  exact ⟨_, repaired_mem_autoFix [] hlint rfl, rfl, rfl, rfl, fun d => rfl⟩

end RunOn

/-- Under the default settings the rules on the job and on the instance both set their matcher on
    one query, and then both find it there. -/
theorem autoFix_passes_rate :
    FixedAndThen default "rate(up[$__rate_interval])" "target-job-rule" (· = []) ∧
      FixedAndThen default "rate(up[$__rate_interval])" "target-instance-rule" (· = []) := by
  let text := "rate(up[$__rate_interval])"
  let t : Target := { (default : Target) with expr := text }
  obtain ⟨table, htable, hconsistent⟩ :=
    Table.exists_register? (show 3 * (withQuery text).templates.length ≤ 9944 by decide)
  have ht : RateQuery.IsQueryOf t [] :=
    show text = String.ofList (RateQuery.text "$__rate_interval" []) by decide
  have hq := ht.parse (by decide +kernel) htable
  have hpasses (r : Rule) (hr : r ∈ RuleSet.ofSettings default) (hid : r.id ∈ Rule.matcherRules)
      (m : Matcher) (hm : m ∈ Rule.requiredBy default r.id)
      (hmissing : m ∉ (RateQuery.selector []).labelMatchers) :
      FixedAndThen default text r.id (· = []) := by
    obtain ⟨f, hf, hfixed, hrule, hindex, hsite⟩ :=
      exists_fixed hr hid hm hq List.mem_cons_self hmissing
    obtain ⟨d, d', r', site, hd, hd', hr', hid', hsite', hreports⟩ :=
      autoFix_passes default [withQuery text] (Cascade.new .empty false) [] f hf hfixed
    rw [hindex] at hd hd'
    obtain rfl : withQuery text = d := Option.some.inj hd
    refine ⟨f, hf, hfixed, hrule, d', r', site, [], hd', hr', hid', hsite',
      hreports fun _ k p l t' ht' => ?_, rfl⟩
    rw [hsite] at ht'
    obtain ⟨-, -, -, rfl⟩ := Site.target.inj (Option.some.inj ht')
    exact ht.mendable (by decide +kernel) htable hconsistent
      (fun m => mem_usual_of_requiredBy rfl) fun m => mem_usual_of_pending rfl
  exact ⟨hpasses .targetJob (List.mem_filter.mpr ⟨by simp [RuleSet.all], by decide +kernel⟩)
      (by decide) (Rule.variableMatcher "job") (by decide) (by decide),
    hpasses .targetInstance (List.mem_filter.mpr ⟨by simp [RuleSet.all], by decide +kernel⟩)
      (by decide) (Rule.variableMatcher "instance") (by decide) (by decide)⟩

/-- A query of alternatives. -/
def alternatives : Target := { (default : Target) with expr := "up\x7ba=\"x\" or c=\"y\"\x7d" }

section Alternatives

variable {templates : List Template} (hroom : 3 * templates.length ≤ 9944)
include hroom

/-- Matchers beside alternatives are read and set, and they are not printed. -/
theorem exists_parse_alternatives : ∃ q : ExpandedQuery, q.table.Consistent ∧
    ExpandedQuery.parse alternatives.expr templates = .ok q ∧
    q.expr.selectors.map Selector.labelMatchers = [[⟨"__name__", .equal, "up"⟩]] ∧
    ∀ m ∈ RateQuery.usual, (q.expr.mapSelectors (Selector.setMatcher m)).chars =
      alternatives.expr.toList := by
  have hread : (Query.parse? alternatives.expr).map (fun e =>
      (e.selectors.map Selector.labelMatchers,
        RateQuery.usual.map fun m => (e.mapSelectors (Selector.setMatcher m)).chars)) =
      some ([[⟨"__name__", .equal, "up"⟩]],
        RateQuery.usual.map fun _ => alternatives.expr.toList) := by
    decide +kernel
  obtain ⟨e, hparse, hparts⟩ := Option.map_eq_some_iff.mp hread
  obtain ⟨hlabels, hprinted⟩ := Prod.mk.inj hparts
  obtain ⟨table, hconsistent, hq⟩ := ExpandedQuery.parse_of_unchanged hroom
    (fun table => table.substitute_of_copied (by decide)) hparse
  exact ⟨_, hconsistent, hq, hlabels, List.map_inj_left.mp hprinted⟩

theorem setMatcher_alternatives {m : Matcher} (hm : m ∈ RateQuery.usual) :
    Rule.setMatcher m templates alternatives = alternatives := by
  have hsettable : ∀ m ∈ RateQuery.usual, m.isSettable = true := by decide +kernel
  obtain ⟨q, hconsistent, hq, -, hprinted⟩ := exists_parse_alternatives hroom
  rw [Rule.setMatcher_eq hq (Expr.setMatcher?_of_isSettable (hsettable m hm) q.expr),
    ExpandedQuery.revert, hprinted m hm, hconsistent.revert_eq_self (by decide +kernel),
    String.ofList_toList]

theorem rewritten_alternatives {pending : Matcher → Prop}
    (hpending : ∀ m, pending m → m ∈ RateQuery.usual) {t' : Target}
    (h : Rule.Rewritten templates pending alternatives t') : t' = alternatives := by
  induction h with
  | refl => rfl
  | set _ hm ih => rw [ih, setMatcher_alternatives hroom (hpending _ hm)]

end Alternatives

/-- Only the rule on jobs takes part. -/
def jobsOnly : RuleSettings := ⟨[], ["target-job-rule"], [], [], false⟩

/-- Beside alternatives the job is set and not printed. The finding counts as fixed, and the rule
    reports the same again. -/
theorem autoFix_alternatives_reported_again :
    FixedAndThen jobsOnly "up\x7ba=\"x\" or c=\"y\"\x7d" "target-job-rule" (· ≠ []) := by
  let d := withQuery alternatives.expr
  have hroom : 3 * d.templates.length ≤ 9944 := by decide
  have hr : Rule.targetJob ∈ RuleSet.ofSettings jobsOnly :=
    List.mem_filter.mpr ⟨by simp [RuleSet.all], by decide +kernel⟩
  have hjob : Rule.variableMatcher "job" ∈ Rule.requiredBy jobsOnly "target-job-rule" := by decide
  obtain ⟨q, -, hq, hlabels, -⟩ := exists_parse_alternatives hroom
  obtain ⟨choice, hchoice, hchoiceLabels⟩ := List.mem_map.mp
    (hlabels ▸ List.mem_singleton_self _ : _ ∈ q.expr.selectors.map Selector.labelMatchers)
  have hmissing : Rule.variableMatcher "job" ∉ choice.labelMatchers := by
    rw [hchoiceLabels]
    decide
  obtain ⟨f, hf, hfixed, hrule, -, hsite⟩ :=
    exists_fixed hr (by decide) hjob hq hchoice hmissing
  have haround : Around (Pending jobsOnly [d] (Cascade.new .empty false) 0 0 0) d 0 0 alternatives
      (repairedAt jobsOnly [d] (Cascade.new .empty false) 0 d) := repairedAt_around rfl
  obtain ⟨hframe, t', ht', hrewritten⟩ := haround
  obtain rfl := rewritten_alternatives hroom (fun m => mem_usual_of_pending rfl) hrewritten
  obtain ⟨p', hp', htarget⟩ := Option.bind_eq_some_iff.mp ht'
  obtain ⟨problem, hraw⟩ :=
    exists_mem_matcherProblems_of_frame hjob hq hchoice hmissing hframe rfl
  have hsite' : f.site? (repairedAt jobsOnly [d] (Cascade.new .empty false) 0 d) =
      some (.target 0 p' 0 alternatives) := by
    rw [hsite, hp', Option.bind_some, htarget, Option.bind_some]
  exact ⟨f, hf, hfixed, hrule, _, .targetJob, .target 0 p' 0 alternatives, _,
    getElem?_autoFix_dashboards [] rfl, hr, hrule.symm, hsite', rfl, List.ne_nil_of_mem hraw⟩

end LintRun

end BoardLint
