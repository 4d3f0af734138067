import BoardLint.Lint.Run
import BoardLint.Proofs.Finding.Sweep
import BoardLint.Proofs.Rule.Dispatch

set_option autoImplicit false

/-! # Repairs of a run

The findings of all dashboards of a run are one list, and the dashboards are repaired one after
another, each by a sweep through the whole list. Positions in findings were taken before the first
repair. As long as repairs keep shapes they stay right, so every pending repair is made once and a
second time there is nothing left to do. -/

namespace BoardLint

open Findings (repairAll Ready swept repairEach?)

namespace Findings

/-- A sweep sees the findings of later dashboards as they were before the sweeps of earlier ones. -/
theorem repairAll_later {index : Nat} {rest : List Dashboard} {x : Dashboard × Nat}
    (hx : x ∈ rest.zipIdx (index + 1)) (d : Dashboard) (list : List Finding) :
    (repairAll x.2 x.1 (repairAll index d list).list).dashboard =
        (repairAll x.2 x.1 list).dashboard ∧
      (repairAll x.2 x.1 (repairAll index d list).list).count = (repairAll x.2 x.1 list).count :=
  repairAll_repairAll (Nat.ne_of_gt (List.le_snd_of_mem_zipIdx hx)) x.1 d list

/-- A sweep leaves findings ready for the sweeps of other dashboards. -/
theorem Ready.map_swept {i index : Nat} {d : Dashboard} {list : List Finding}
    (h : Ready i d list) (hne : i ≠ index) : Ready i d (list.map (swept index)) := by
  intro f hf hindex fix hfix
  obtain ⟨g, hg, rfl⟩ := List.mem_map.mp hf
  have hg' : swept index g = g := by
    rw [swept, if_neg]
    intro hpending
    rw [swept, if_pos hpending] at hindex
    exact hne (hindex.symm.trans (Finding.isPendingAt_iff.mp hpending).1)
  rw [hg'] at hindex hfix ⊢
  exact h g hg hindex fix hfix

end Findings

namespace LintRun

/-! ## Dashboard by dashboard -/

/-- Each dashboard becomes what a sweep over the findings as they were makes of it. -/
theorem repairFrom_dashboards (fs : Findings) (index : Nat) (ds : List Dashboard) :
    (repairFrom fs index ds).2.1 =
      (ds.zipIdx index).map fun x => (repairAll x.2 x.1 fs.list).dashboard := by
  induction ds generalizing fs index with
  | nil => rfl
  | cons d rest ih =>
      simp only [repairFrom, Findings.autoFix, List.zipIdx_cons, List.map_cons, ih]
      congr 1
      exact List.map_congr_left fun x hx => (Findings.repairAll_later hx d fs.list).1

/-- The repairs made on a dashboard are counted unless there are none. -/
theorem repairFrom_counts (fs : Findings) (index : Nat) (ds : List Dashboard) :
    (repairFrom fs index ds).2.2 =
      ((ds.zipIdx index).map fun x => (x.2, (repairAll x.2 x.1 fs.list).count)).filter
        fun count => count.2 != 0 := by
  induction ds generalizing fs index with
  | nil => rfl
  | cons d rest ih =>
      have hrest : (rest.zipIdx (index + 1)).map
            (fun x => (x.2, (repairAll x.2 x.1 (repairAll index d fs.list).list).count)) =
          (rest.zipIdx (index + 1)).map fun x => (x.2, (repairAll x.2 x.1 fs.list).count) :=
        List.map_congr_left fun x hx => by rw [(Findings.repairAll_later hx d fs.list).2]
      simp only [repairFrom, Findings.autoFix, List.zipIdx_cons, List.map_cons, ih, hrest,
        List.filter_cons]
      by_cases hcount : (repairAll index d fs.list).count = 0 <;> simp [hcount]

/-- The finding after sweeps for the dashboards from one position up to another. -/
def sweptBetween (first last : Nat) (f : Finding) : Finding :=
  if first ≤ f.dashboard.index ∧ f.dashboard.index < last ∧ f.isPending then f.repaired else f

theorem sweptBetween_swept {first last : Nat} (h : first < last) (f : Finding) :
    sweptBetween (first + 1) last (swept first f) = sweptBetween first last f := by
  by_cases hpending : f.isPendingAt first = true
  · obtain ⟨hindex, hp⟩ := Finding.isPendingAt_iff.mp hpending
    rw [swept, if_pos hpending, sweptBetween, if_neg (by simp [Finding.isPending_repaired]),
      sweptBetween, if_pos ⟨by omega, by omega, hp⟩]
  · have hiff : (first + 1 ≤ f.dashboard.index ∧ f.dashboard.index < last ∧ f.isPending = true) ↔
        first ≤ f.dashboard.index ∧ f.dashboard.index < last ∧ f.isPending = true := by
      rw [Finding.isPendingAt_iff] at hpending
      constructor
      · rintro ⟨hfirst, hrest⟩
        exact ⟨by omega, hrest⟩
      · rintro ⟨hfirst, hlast, hp⟩
        have : f.dashboard.index ≠ first := fun hindex => hpending ⟨hindex, hp⟩
        exact ⟨by omega, hlast, hp⟩
    rw [swept, if_neg hpending, sweptBetween, sweptBetween, if_congr hiff rfl rfl]

theorem repairFrom_findings {fs : Findings} {index last : Nat} {ds : List Dashboard}
    (hlast : index + ds.length = last) (h : ∀ x ∈ ds.zipIdx index, Ready x.2 x.1 fs.list) :
    (repairFrom fs index ds).1 = { fs with list := fs.list.map (sweptBetween index last) } := by
  induction ds generalizing fs index with
  | nil =>
      have hnone : ∀ f : Finding, sweptBetween index last f = f := by
        intro f
        rw [List.length_nil] at hlast
        rw [sweptBetween, if_neg]
        omega
      rw [List.map_congr_left fun f _ => hnone f, List.map_id']
      rfl
  | cons d rest ih =>
      rw [List.length_cons] at hlast
      rw [List.zipIdx_cons] at h
      obtain ⟨hd, hrest⟩ := List.forall_mem_cons.mp h
      have hready : ∀ x ∈ rest.zipIdx (index + 1), Ready x.2 x.1 (fs.list.map (swept index)) :=
        fun x hx => (hrest x hx).map_swept (Nat.ne_of_gt (List.le_snd_of_mem_zipIdx hx))
      have hafter : ({ fs with list := (repairAll index d fs.list).list } : Findings) =
          { fs with list := fs.list.map (swept index) } := by
        rw [hd.repairAll_eq.1]
      simp only [repairFrom, Findings.autoFix]
      rw [hafter, ih (by omega) hready, List.map_map]
      congr 1
      exact List.map_congr_left fun f _ => sweptBetween_swept (by omega) f

/-- Without pending repairs there is nothing to do. -/
theorem repairFrom_of_not_isPending {fs : Findings} (h : ∀ f ∈ fs.list, f.isPending = false)
    (index : Nat) (ds : List Dashboard) : repairFrom fs index ds = (fs, ds, []) := by
  induction ds generalizing index with
  | nil => rfl
  | cons d rest ih =>
      have hnone : ∀ f ∈ fs.list, f.isPendingAt index = false := fun f hf => by
        simp [Finding.isPendingAt, h f hf]
      simp only [repairFrom, Findings.autoFix, Findings.repairAll_of_not_isPendingAt hnone]
      rw [ih]
      rfl

section Ready

variable {run : LintRun}

theorem getElem?_autoFix {i : Nat} {d : Dashboard} (h : run.dashboards[i]? = some d) :
    run.autoFix.1.dashboards[i]? = some (repairAll i d run.findings.list).dashboard := by
  show (repairFrom run.findings 0 run.dashboards).2.1[i]? = _
  rw [repairFrom_dashboards, List.getElem?_map, List.getElem?_zipIdx, h]
  simp

variable (hready : ∀ i d, run.dashboards[i]? = some d → Ready i d run.findings.list)
include hready

/-- The findings after repairs: those that were pending count as fixed. -/
theorem findings_autoFix (hindex : ∀ f ∈ run.findings.list, f.isPending = true →
    f.dashboard.index < run.dashboards.length) : run.autoFix.1.findings.list =
      run.findings.list.map fun f => if f.isPending then f.repaired else f := by
  show (repairFrom run.findings 0 run.dashboards).1.list = _
  rw [repairFrom_findings (Nat.zero_add _) fun x hx =>
    hready x.2 x.1 (List.mem_zipIdx_iff_getElem?.mp hx)]
  refine List.map_congr_left fun f hf => ?_
  have hiff : (0 ≤ f.dashboard.index ∧ f.dashboard.index < run.dashboards.length ∧
      f.isPending = true) ↔ f.isPending = true :=
    ⟨fun hall => hall.2.2, fun hpending => ⟨Nat.zero_le _, hindex f hf hpending, hpending⟩⟩
  rw [sweptBetween, if_congr hiff rfl rfl]

/-- The repairs made on a dashboard are as many as there are pending findings on it. -/
theorem counts_autoFix : run.autoFix.2 = ((List.range run.dashboards.length).map fun i =>
    (i, run.findings.list.countP (Finding.isPendingAt i))).filter fun x => x.2 != 0 := by
  show (repairFrom run.findings 0 run.dashboards).2.2 = _
  rw [repairFrom_counts, List.range_eq_range', ← List.zipIdx_map_snd, List.map_map]
  congr 1
  refine List.map_congr_left fun x hx => ?_
  rw [(hready x.2 x.1 (List.mem_zipIdx_iff_getElem?.mp hx)).repairAll_eq.2.1]
  rfl

end Ready

/-! ## Runs of rules -/

section Lint

variable {rules : RuleSet} {ds : List Dashboard} {c : Cascade}

theorem mem_lint_iff {f : Finding} : f ∈ (lint rules ds c).list ↔
    ∃ i d g, ds[i]? = some d ∧ g ∈ rules.lintDashboard i d ∧ f = c.apply g := by
  simp only [lint, Findings.configure, Findings.ofList, RuleSet.lintAll, List.mem_map,
    List.mem_flatMap, Prod.exists, List.mem_zipIdx_iff_getElem?]
  constructor
  · rintro ⟨g, ⟨d, i, hd, hg⟩, rfl⟩
    exact ⟨i, d, g, hd, hg, rfl⟩
  · rintro ⟨i, d, g, hd, hg, rfl⟩
    exact ⟨g, ⟨d, i, hd, hg⟩, rfl⟩

theorem dashboard_of_mem_lintDashboard {i : Nat} {d : Dashboard} {f : Finding}
    (h : f ∈ rules.lintDashboard i d) : f.dashboard = ⟨i, d.title, d.unit⟩ := by
  obtain ⟨site, -, r, -, -, heq⟩ := RuleSet.exists_site_of_mem h
  rw [heq]
  rfl

theorem index_lt_of_mem_lint {f : Finding} (h : f ∈ (lint rules ds c).list) :
    f.dashboard.index < ds.length := by
  obtain ⟨i, d, g, hd, hg, rfl⟩ := mem_lint_iff.mp h
  have hindex : g.dashboard.index = i := by rw [dashboard_of_mem_lintDashboard hg]
  show g.dashboard.index < ds.length
  rw [hindex]
  exact (List.getElem?_eq_some_iff.mp hd).1

/-- Findings of rules are ready for their repairs: what they name was there when it was checked. -/
theorem lint_ready (h : ∀ f ∈ rules.lintAll ds, ∀ fix, f.raw.fix = some fix →
    f.Carries fix ∧ fix.KeepsShape) {i : Nat} {d : Dashboard} (hd : ds[i]? = some d) :
    Ready i d (lint rules ds c).list := by
  intro f hf hindex fix hfix
  obtain ⟨j, d', g, hd', hg, rfl⟩ := mem_lint_iff.mp hf
  obtain rfl : j = i := by rw [← hindex, Cascade.apply, dashboard_of_mem_lintDashboard hg]
  obtain rfl : d' = d := Option.some.inj (hd'.symm.trans hd)
  have hmem : g ∈ rules.lintAll ds :=
    List.mem_flatMap.mpr ⟨(d', j), List.mem_zipIdx_iff_getElem?.mpr hd, hg⟩
  obtain ⟨hcarries, hkeeps⟩ := h g hmem fix hfix
  obtain ⟨site, hin, r, -, -, heq⟩ := RuleSet.exists_site_of_mem hg
  rw [heq] at hcarries
  refine ⟨?_, hkeeps⟩
  -- overrides do not change where a finding is
  show g.HasPlace d' fix
  rw [heq]
  exact hin.hasPlace hcarries

end Lint

/-- **Every pending repair is made once.** The repairs that rules report are those of parts that the
    findings are about, and keep the shape of what they change. Then the number of repairs made on
    each dashboard is the number of findings on it that are pending; they are made one after
    another, none is missed. Afterwards these findings, and no others, are changed: they count as
    fixed. Nothing is pending any more, and a second time changes nothing. -/
theorem autoFix_once {rules : RuleSet} {ds : List Dashboard}
    (h : ∀ f ∈ rules.lintAll ds, ∀ fix, f.raw.fix = some fix → f.Carries fix ∧ fix.KeepsShape)
    (c : Cascade) (failures : List LoadFailure) :
    let run : LintRun := ⟨ds, failures, lint rules ds c⟩
    let after := run.autoFix.1
    run.autoFix.2 = ((List.range ds.length).map fun i =>
      (i, run.findings.list.countP (Finding.isPendingAt i))).filter (fun count => count.2 != 0) ∧
    (∀ i d, ds[i]? = some d → ∃ d', after.dashboards[i]? = some d' ∧ d'.shape = d.shape ∧
      repairEach? d (run.findings.list.filter (Finding.isPendingAt i)) = some d') ∧
    after.findings.list = run.findings.list.map (fun f => if f.isPending then
      { f with fixed := true, effective := { f.effective with severity := .fixed } } else f) ∧
    after.findings.pendingCount = 0 ∧
    after.autoFix = (after, []) := by
  intro run after
  have hready : ∀ i d, run.dashboards[i]? = some d → Ready i d run.findings.list :=
    fun i d hd => lint_ready h hd
  have hlist : after.findings.list = run.findings.list.map fun f =>
      if f.isPending then f.repaired else f :=
    findings_autoFix hready fun f hf _ => index_lt_of_mem_lint hf
  have hnone : ∀ f ∈ after.findings.list, f.isPending = false := by
    rw [hlist]
    intro f hf
    obtain ⟨g, -, rfl⟩ := List.mem_map.mp hf
    split
    · exact g.isPending_repaired
    · next hg => exact Bool.eq_false_iff.mpr hg
  refine ⟨counts_autoFix hready, fun i d hd => ?_, hlist, ?_, ?_⟩
  · obtain ⟨-, -, hshape, heach⟩ := (hready i d hd).repairAll_eq
    exact ⟨_, getElem?_autoFix hd, hshape, heach⟩
  · rw [Findings.pendingCount, List.countP_eq_zero]
    intro f hf
    simp [hnone f hf]
  · rw [autoFix, repairFrom_of_not_isPending hnone]

/-- Two dashboards with a panel that has a target, and a rule for each of both. Overrides exclude
    the findings on targets of the second dashboard: three of the four repairs are made. -/
theorem autoFix_once_excluded :
    let t : Target := { (default : Target) with expr := "up" }
    let p : Panel := { (default : Panel) with title := "load", targets := [t] }
    let a : Dashboard := { (default : Dashboard) with title := "A", rows := [⟨[p], []⟩] }
    let b : Dashboard := { (default : Dashboard) with title := "B", panels := [p] }
    let titled := Rule.new "title" "" (.panel fun _ _ =>
      [(Diagnostic.error "").withFix (.panel fun p => { p with title := "Load" })])
    let queried := Rule.new "query" "" (.target fun _ _ _ =>
      [(Diagnostic.error "").withFix (.target fun _ t => { t with expr := "down" })])
    let c := Cascade.new (OverrideFile.empty.addExclusion "query"
      ⟨none, some "B", none, none, none⟩) false
    let run : LintRun := ⟨[a, b], [], lint [titled, queried] [a, b] c⟩
    (∀ f ∈ RuleSet.lintAll [titled, queried] [a, b], ∀ fix, f.raw.fix = some fix →
      f.Carries fix ∧ fix.KeepsShape) ∧
    run.autoFix.2 = [(0, 2), (1, 1)] ∧
    run.autoFix.1.findings.list.map Finding.severity = [.fixed, .fixed, .fixed, .exclude] ∧
    run.autoFix.1.autoFix = (run.autoFix.1, []) := by
  intro t p a b titled queried c run
  have hafter : run.autoFix.2 = [(0, 2), (1, 1)] ∧
      run.autoFix.1.findings.list.map Finding.severity = [.fixed, .fixed, .fixed, .exclude] := by
    decide +revert +kernel
  have hfixes : ∀ f ∈ RuleSet.lintAll [titled, queried] [a, b], ∀ fix, f.raw.fix = some fix →
      f.Carries fix ∧ fix.KeepsShape := by
    have hpanel : Fix.KeepsShape (.panel fun p => { p with title := "Load" }) := by
      rintro ⟨id, title, description, kind, datasource, targets, panels, extra⟩
      rfl
    have hknown : ∀ {f : Finding} {known fix : Fix}, f.raw.fix = some known → f.Carries known →
        known.KeepsShape → f.raw.fix = some fix → f.Carries fix ∧ fix.KeepsShape := by
      intro f known fix hraw hcarries hkeeps hfix
      obtain rfl := Option.some.inj (hraw.symm.trans hfix)
      exact ⟨hcarries, hkeeps⟩
    refine List.forall_mem_cons.mpr ⟨fun _ => hknown rfl rfl hpanel, ?_⟩
    refine List.forall_mem_cons.mpr ⟨fun _ => hknown rfl rfl trivial, ?_⟩
    refine List.forall_mem_cons.mpr ⟨fun _ => hknown rfl rfl hpanel, ?_⟩
    exact List.forall_mem_cons.mpr ⟨fun _ => hknown rfl rfl trivial, List.forall_mem_nil _⟩
  obtain ⟨-, -, -, -, hagain⟩ := autoFix_once hfixes c []
  exact ⟨hfixes, hafter.1, hafter.2, hagain⟩

end LintRun

end BoardLint
