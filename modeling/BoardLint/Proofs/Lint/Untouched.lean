import BoardLint.Proofs.Dashboard.Frame
import BoardLint.Proofs.Lint.AutoFix
import BoardLint.Proofs.Rule.Repairs

set_option autoImplicit false

/-! # What repairs leave alone

The repairs of the rules change three kinds of fields, each only where a finding of a certain rule
asks for it. `Dashboard.RevisedBy` says this of a dashboard before and after repairs. One repair of
a rule is such a revision, revisions follow one another, and so a whole sweep is one. -/

namespace BoardLint

namespace Finding

/-- The finding asks for a dashboard that cannot be edited. -/
def MendsDashboard (f : Finding) : Prop := f.rule = "uneditable-dashboard"

/-- The finding asks for another time when the template variable at a position is read. -/
def MendsTemplate (f : Finding) (i : Nat) : Prop :=
  f.rule = "template-on-time-change-reload-rule" ∧ f.template.map (·.index) = some i

/-- The finding asks for another query of the target at a position of the panel at a position. -/
def MendsTarget (f : Finding) (i j : Nat) : Prop :=
  f.rule ∈ Rule.matcherRules ∧ f.panel.map (·.index) = some i ∧ f.target = some j

end Finding

/-- The findings on the dashboard at a position that are there to be repaired. -/
def Findings.actionableOn (fs : Findings) (index : Nat) : List Finding :=
  fs.list.filter fun f => f.dashboard.index == index && f.severity.isActionable

namespace Dashboard

/-- The target at a position of the panel at a position. -/
def target? (d : Dashboard) (i j : Nat) : Option Target :=
  d.allPanels[i]?.bind fun p => p.targets[j]?

theorem target?_eq (d : Dashboard) (i j : Nat) :
    d.target? i j = (d.allPanels.map (·.targets))[i]?.bind fun targets => targets[j]? := by
  rw [target?, List.getElem?_map, Option.bind_map]
  rfl

/-- A target that is set on a panel leaves the targets at all other positions. -/
theorem Replaced.target?_eq {d d' : Dashboard} {i j k l : Nat} {p : Panel} {t : Target}
    (h : d.Replaced i p { p with targets := p.targets.set j t } d') (hne : ¬ (i = k ∧ j = l)) :
    d'.target? k l = d.target? k l := by
  rw [Dashboard.target?_eq, Dashboard.target?_eq,
    h.map_allPanels (g := (·.targets)) (fun _ _ => rfl) rfl]
  by_cases hk : i = k
  · subst hk
    have hp : (d.allPanels.map (·.targets))[i]? = some p.reindexed.targets := by
      rw [List.getElem?_map, h.getElem?_allPanels]
      rfl
    have hl : j ≠ l := fun hl => hne ⟨rfl, hl⟩
    rw [List.getElem?_set_self (List.getElem?_eq_some_iff.mp hp).1, hp, Option.bind_some,
      Option.bind_some, Panel.getElem?_targets_reindexed, Panel.getElem?_targets_reindexed,
      List.getElem?_set_ne hl]
  · rw [List.getElem?_set_ne hk]

/-! ## Revisions -/

/-- The dashboard `d'` is `d` after repairs of some of the findings. The frame stays, and so does
    every part that no finding asks to repair. -/
structure RevisedBy (fs : List Finding) (d d' : Dashboard) : Prop where
  frame : d'.frame = d.frame
  editable : (∀ f ∈ fs, ¬ f.MendsDashboard) → d'.editable = d.editable
  template : ∀ i, (∀ f ∈ fs, ¬ f.MendsTemplate i) → d'.templates[i]? = d.templates[i]?
  target : ∀ i j, (∀ f ∈ fs, ¬ f.MendsTarget i j) → d'.target? i j = d.target? i j

namespace RevisedBy

variable {fs : List Finding} {d d' d'' : Dashboard}

theorem refl (fs : List Finding) (d : Dashboard) : RevisedBy fs d d where
  frame := rfl
  editable _ := rfl
  template _ _ := rfl
  target _ _ _ := rfl

theorem trans (h : RevisedBy fs d d') (h' : RevisedBy fs d' d'') : RevisedBy fs d d'' where
  frame := h'.frame.trans h.frame
  editable hnone := (h'.editable hnone).trans (h.editable hnone)
  template i hnone := (h'.template i hnone).trans (h.template i hnone)
  target i j hnone := (h'.target i j hnone).trans (h.target i j hnone)

/-! ## Parts that stay -/

theorem targets_eq (h : RevisedBy fs d d') {i : Nat} (hnone : ∀ f ∈ fs, ∀ j, ¬ f.MendsTarget i j) :
    (d'.allPanels.map (·.targets))[i]? = (d.allPanels.map (·.targets))[i]? := by
  have htarget : ∀ j, d'.target? i j = d.target? i j :=
    fun j => h.target i j fun f hf => hnone f hf j
  have hlength : (d'.allPanels.map (·.targets)).length = (d.allPanels.map (·.targets)).length := by
    simpa using congrArg List.length (map_frame_allPanels h.frame)
  simp only [target?_eq] at htarget
  by_cases hi : i < (d.allPanels.map (·.targets)).length
  · rw [List.getElem?_eq_getElem hi, List.getElem?_eq_getElem (hlength ▸ hi)] at htarget ⊢
    exact congrArg some (List.ext_getElem? htarget)
  · rw [List.getElem?_eq_none (by omega), List.getElem?_eq_none (by omega)]

/-- A panel stays with all panels inside it if no finding asks to repair a target in them. -/
theorem panel_eq (h : RevisedBy fs d d') {k : Nat} {p : Panel} (hp : d.allPanels[k]? = some p)
    (hnone : ∀ f ∈ fs, ∀ n < p.flatten.length, ∀ j, ¬ f.MendsTarget (k + n) j) :
    d'.allPanels[k]? = some p := by
  have hframe : (d'.allPanels.map Panel.frame)[k]? = some p.frame := by
    rw [map_frame_allPanels h.frame, List.getElem?_map, hp]
    rfl
  rw [List.getElem?_map, Option.map_eq_some_iff] at hframe
  obtain ⟨p', hp', hframe⟩ := hframe
  -- the panels inside follow in the list of all panels, so their targets are known by position
  have hlength := Panel.length_flatten_of_frame hframe
  have htargets : p'.flatten.map (·.targets) = p.flatten.map (·.targets) := by
    refine List.ext_getElem? fun n => ?_
    by_cases hn : n < p.flatten.length
    · rw [List.getElem?_map, List.getElem?_map, ← getElem?_allPanels_add hp hn,
        ← getElem?_allPanels_add hp' (hlength ▸ hn), ← List.getElem?_map, ← List.getElem?_map]
      exact h.targets_eq fun f hf => hnone f hf n hn
    · rw [List.getElem?_eq_none (by rw [List.length_map]; omega),
        List.getElem?_eq_none (by rw [List.length_map]; omega)]
  rw [hp', Panel.eq_of_frame_eq hframe htargets]

/-- A dashboard stays if no finding asks to repair a part of it. -/
theorem eq_self (h : RevisedBy fs d d') (hnone : ∀ f ∈ fs, ¬ f.MendsDashboard ∧
    (∀ i, ¬ f.MendsTemplate i) ∧ ∀ i j, ¬ f.MendsTarget i j) : d' = d := by
  refine eq_of_frame_eq h.frame (h.editable fun f hf => (hnone f hf).1) ?_ ?_
  · exact List.ext_getElem? fun i => h.template i fun f hf => (hnone f hf).2.1 i
  · exact List.ext_getElem? fun i => h.targets_eq fun f hf => (hnone f hf).2.2 i

/-! ## Repairs -/

/-- The repair of a rule at the place of a finding is a revision by that finding. -/
theorem of_repairs {maySet : String → Matcher → Prop} {f : Finding} {fix : Fix} (hf : f ∈ fs)
    (hmends : Rule.Mends maySet f.rule fix) (h : f.Repairs d fix d') : RevisedBy fs d d' := by
  -- the finding itself is the one that each changed part needs
  generalize hrule : f.rule = id at hmends
  cases hmends with
  | editable =>
      cases h
      exact ⟨rfl, fun hnone => absurd hrule (hnone f hf), fun _ _ => rfl, fun _ _ _ => rfl⟩
  | refresh =>
      cases h with
      | @template place t _ hplace ht =>
          refine ⟨frame_set_template ht rfl, fun _ => rfl, fun i hnone => ?_, fun _ _ _ => rfl⟩
          have hne : place.index ≠ i := by
            rintro rfl
            exact hnone f hf ⟨hrule, by rw [hplace]; rfl⟩
          exact List.getElem?_set_ne hne
  | @query _ m hid _ =>
      cases h with
      | @target place j p t _ _ hplace hj ht h =>
          have hframe := Panel.frame_set_target ht (Rule.frame_setMatcher m d.templates t)
          refine ⟨h.frame_eq hframe, fun _ => h.editable_eq, fun i _ => by rw [h.templates_eq],
            fun i k hnone => h.target?_eq ?_⟩
          rintro ⟨rfl, rfl⟩
          exact hnone f hf ⟨hrule ▸ hid, by rw [hplace]; rfl, hj⟩

end RevisedBy

end Dashboard

/-! ## Sweeps and runs -/

/-- A sweep over findings with repairs of rules is a revision by those that are pending. -/
theorem Findings.repairAll_revisedBy {maySet : String → Matcher → Prop} {index : Nat}
    {fs list : List Finding} (hpending : ∀ f ∈ list, f.isPendingAt index = true → f ∈ fs)
    (hmends : ∀ f ∈ list, ∀ fix, f.raw.fix = some fix → Rule.Mends maySet f.rule fix)
    (d : Dashboard) :
    d.RevisedBy fs (repairAll index d list).dashboard := by
  induction list generalizing d with
  | nil => exact .refl fs d
  | cons f rest ih =>
      obtain ⟨hf, hrest⟩ := List.forall_mem_cons.mp hpending
      obtain ⟨hfix, hfixes⟩ := List.forall_mem_cons.mp hmends
      rw [repairAll_cons]
      rcases sweepOne_cases index f d with ⟨fix, d', hp, hsome, hrepair, hone⟩ | ⟨-, hone⟩
      · simp only [hone]
        exact (Dashboard.RevisedBy.of_repairs (hf hp) (hfix fix hsome)
          (Finding.repair?_eq_some hrepair)).trans (ih hrest hfixes d')
      · simp only [hone]
        exact ih hrest hfixes d

namespace LintRun

theorem mends_of_mem_lint {s : RuleSettings} {ds : List Dashboard} {c : Cascade} {f : Finding}
    {fix : Fix} (h : f ∈ (lint (RuleSet.ofSettings s) ds c).list) (hfix : f.raw.fix = some fix) :
    Rule.Mends (fun id m => m ∈ Rule.requiredBy s id) f.rule fix := by
  obtain ⟨i, d, g, -, hg, rfl⟩ := mem_lint_iff.mp h
  obtain ⟨site, -, r, hr, hmem, heq⟩ := RuleSet.exists_site_of_mem hg
  have hrule : g.rule = r.id := by rw [heq]; rfl
  have honly := RuleSet.repairsOnly_mends s r (List.mem_filter.mp hr).1
  -- overrides change neither the rule nor the repair
  show Rule.Mends _ g.rule fix
  rw [hrule]
  exact Site.allowed_of_mem_findings honly hmem hfix

/-- **Repairs touch nothing else.** Under any settings and overrides, a dashboard after the repairs
    of a run is what it was, except that it may no longer be editable, its template variables may be
    read again at another time, and its targets may have other queries: each only if the run has a
    finding of a rule that asks for it, on that very part, which is not excluded. A panel, with all
    panels inside it, is identical if there is none on their targets, and the whole dashboard if
    there is none at all. -/
theorem autoFix_revisedBy (s : RuleSettings) (ds : List Dashboard) (c : Cascade)
    (failures : List LoadFailure) :
    let run : LintRun := ⟨ds, failures, lint (RuleSet.ofSettings s) ds c⟩
    run.autoFix.1.dashboards.length = ds.length ∧
    ∀ i d, ds[i]? = some d → ∃ d', run.autoFix.1.dashboards[i]? = some d' ∧
      let fs := run.findings.actionableOn i
      d.RevisedBy fs d' ∧
      (∀ k p, d.allPanels[k]? = some p →
        (∀ f ∈ fs, ∀ n < p.flatten.length, ∀ j, ¬ f.MendsTarget (k + n) j) →
        d'.allPanels[k]? = some p) ∧
      ((∀ f ∈ fs, ¬ f.MendsDashboard ∧ (∀ k, ¬ f.MendsTemplate k) ∧ ∀ k j, ¬ f.MendsTarget k j) →
        d' = d) := by
  intro run
  have hafter : run.autoFix.1.dashboards =
      ds.zipIdx.map fun x => (Findings.repairAll x.2 x.1 run.findings.list).dashboard :=
    repairFrom_dashboards run.findings 0 ds
  refine ⟨by rw [hafter, List.length_map, List.length_zipIdx], fun i d hd => ?_⟩
  refine ⟨(Findings.repairAll i d run.findings.list).dashboard, getElem?_autoFix hd, ?_⟩
  intro fs
  have hpending : ∀ f ∈ run.findings.list, f.isPendingAt i = true → f ∈ fs := by
    intro f hf hpending
    obtain ⟨hindex, hp⟩ := Finding.isPendingAt_iff.mp hpending
    rw [Finding.isPending, Bool.and_eq_true] at hp
    exact List.mem_filter.mpr ⟨hf, by simp [hindex, hp.2]⟩
  have hrevised : d.RevisedBy fs (Findings.repairAll i d run.findings.list).dashboard :=
    Findings.repairAll_revisedBy hpending (fun f hf fix => mends_of_mem_lint hf) d
  exact ⟨hrevised, fun k p => hrevised.panel_eq, hrevised.eq_self⟩

/-- Of two template variables that are not read again in time, overrides exclude the second. It
    stays as it is, and so does the panel, while the dashboard and the first variable are
    repaired. -/
theorem autoFix_revisedBy_excluded :
    let t : Template := { (default : Template) with kind := "query" }
    let job : Template := { t with name := "job" }
    let pod : Template := { t with name := "pod" }
    let target : Target := { (default : Target) with expr := "up" }
    let p : Panel := { (default : Panel) with title := "load", targets := [target] }
    let d : Dashboard := { (default : Dashboard) with
      title := "Home", editable := some true, templating := ⟨[job, pod], []⟩, panels := [p] }
    let reload := "template-on-time-change-reload-rule"
    let s : RuleSettings :=
      ⟨[], ["uneditable-dashboard", reload, "target-job-rule"], [], [], false⟩
    let c := Cascade.new (OverrideFile.empty.addExclusion reload
      ⟨none, none, none, none, some "pod"⟩) false
    let run : LintRun := ⟨[d], [], lint (RuleSet.ofSettings s) [d] c⟩
    let fs := run.findings.actionableOn 0
    run.autoFix.1.dashboards.map (fun d => (d.editable, d.templates.map (·.refresh))) =
      [(some false, [some 2, none])] ∧
    (∀ f ∈ fs, ¬ f.MendsTemplate 1) ∧
    (∀ f ∈ fs, ∀ n < p.flatten.length, ∀ j, ¬ f.MendsTarget (0 + n) j) ∧
    ∃ d', run.autoFix.1.dashboards[0]? = some d' ∧ d.RevisedBy fs d' ∧
      d'.templates[1]? = some pod ∧ d'.allPanels[0]? = some p := by
  intro t job pod target p d reload s c run fs
  have hafter : run.autoFix.1.dashboards.map (fun d => (d.editable, d.templates.map (·.refresh))) =
      [(some false, [some 2, none])] := by decide +revert +kernel
  have hparts : ∀ f ∈ fs, f.template.map (·.index) ≠ some 1 ∧ f.target = none := by
    decide +revert +kernel
  have hpod : ∀ f ∈ fs, ¬ f.MendsTemplate 1 := fun f hf hmends => (hparts f hf).1 hmends.2
  have hload : ∀ f ∈ fs, ∀ n < p.flatten.length, ∀ j, ¬ f.MendsTarget (0 + n) j := by
    rintro f hf n - j ⟨-, -, hj⟩
    rw [(hparts f hf).2] at hj
    exact absurd hj (by simp)
  obtain ⟨-, hall⟩ := autoFix_revisedBy s [d] c []
  obtain ⟨d', hd', hrevised, hpanel, -⟩ := hall 0 d rfl
  exact ⟨hafter, hpod, hload, d', hd', hrevised, hrevised.template 1 hpod, hpanel 0 p rfl hload⟩

end LintRun

end BoardLint
