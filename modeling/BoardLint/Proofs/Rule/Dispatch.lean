import BoardLint.Proofs.Finding.Repair
import BoardLint.Rule.Basic

set_option autoImplicit false

/-! # Dispatch

Rules are run part by part: the dashboard, each panel followed by its targets, the template
variables. Written as one list (`Dashboard.sites`), these are exactly the parts of the dashboard,
and the findings are what each rule says of each part of its kind. What is checked are the listed
copies of the panels, where a target carries its position as its index. A finding leads back to the
part: a repair finds it again by its positions, as it is in the dashboard and not in the copy. -/

namespace BoardLint

/-! ## Parts of a dashboard -/

/-- A part of a dashboard with its positions: that of a panel is among all panels, that of a target
    in its panel. -/
inductive Site where
  | dashboard
  | panel (i : Nat) (p : Panel)
  | target (i : Nat) (p : Panel) (j : Nat) (t : Target)
  | template (i : Nat) (t : Template)

/-- The parts of a dashboard in the order in which they are checked. -/
def Dashboard.sites (d : Dashboard) : List Site :=
  .dashboard ::
    ((d.allPanels.zipIdx.flatMap fun (p, i) =>
      Site.panel i p :: p.targets.zipIdx.map fun (t, j) => Site.target i p j t) ++
    d.templates.zipIdx.map fun (t, i) => Site.template i t)

namespace Site

/-- The part is at its positions in the dashboard. -/
def IsIn (d : Dashboard) : Site → Prop
  | .dashboard => True
  | .panel i p => d.allPanels[i]? = some p
  | .target i p j t => d.allPanels[i]? = some p ∧ p.targets[j]? = some t
  | .template i t => d.templates[i]? = some t

theorem mem_sites_iff {d : Dashboard} {site : Site} : site ∈ d.sites ↔ site.IsIn d := by
  cases site <;>
    simp [Dashboard.sites, IsIn, List.mem_flatMap, List.mem_zipIdx_iff_getElem?]

/-- Where a panel is, or the panel of a target. -/
def panel? : Site → Option PanelPlace
  | .panel i p => some ⟨i, p.id, p.title⟩
  | .target i p _ _ => some ⟨i, p.id, p.title⟩
  | _ => none

/-- Where a target is in its panel. -/
def target? : Site → Option Nat
  | .target _ _ j _ => some j
  | _ => none

/-- Where a template variable is. -/
def template? : Site → Option TemplatePlace
  | .template i t => some ⟨i, t.name⟩
  | _ => none

/-- The finding of a diagnostic of a rule on a part. -/
def finding (place : DashboardPlace) (r : Rule) (site : Site) (raw : Diagnostic) : Finding :=
  ⟨r.id, r.description, raw, raw, false, place, site.panel?, site.target?, site.template?⟩

/-- What a rule reports of a part; none if the rule checks parts of another kind. -/
def reported? (d : Dashboard) (r : Rule) : Site → Option (List Diagnostic)
  | .dashboard => match r.check with
    | .dashboard check => some (check d)
    | _ => none
  | .panel _ p => match r.check with
    | .panel check => some (check d p)
    | _ => none
  | .target _ p _ t => match r.check with
    | .target check => some (check d p t)
    | _ => none
  | .template _ t => match r.check with
    | .template check => some (check d t)
    | _ => none

/-- The findings of a rule on a part: one for each diagnostic, or one that the part has passed. -/
def findings (place : DashboardPlace) (d : Dashboard) (site : Site) (r : Rule) : List Finding :=
  match site.reported? d r with
  | none => []
  | some [] => [site.finding place r .success]
  | some (raw :: more) => (raw :: more).map (site.finding place r)

theorem eq_finding_of_mem_findings {place : DashboardPlace} {d : Dashboard} {site : Site}
    {r : Rule} {f : Finding} (h : f ∈ site.findings place d r) :
    f = site.finding place r f.raw := by
  unfold findings at h
  split at h
  · exact absurd h List.not_mem_nil
  · rw [List.mem_singleton.mp h]
    rfl
  · obtain ⟨raw, -, rfl⟩ := List.mem_map.mp h
    rfl

/-! ## The order of the findings -/

section Order

variable {place : DashboardPlace} {d : Dashboard}

theorem findings_eq (site : Site) (r : Rule) :
    site.findings place d r = (site.reported? d r).elim [] fun reported =>
      (Rule.outcomes reported).map (site.finding place r) := by
  rw [findings]
  cases site.reported? d r with
  | none => rfl
  | some reported => cases reported <;> rfl

theorem findings_dashboard : dashboard.findings place d = fun r => r.onDashboard place d := by
  funext r
  rw [findings_eq, reported?, Rule.onDashboard]
  cases r.check <;> rfl

theorem findings_panel (i : Nat) (p : Panel) :
    (panel i p).findings place d = fun r => r.onPanel place d p i := by
  funext r
  rw [findings_eq, reported?, Rule.onPanel]
  cases r.check <;> rfl

theorem findings_target (i : Nat) (p : Panel) (t : Target) :
    (target i p t.idx t).findings place d = fun r => r.onTarget place d p i t := by
  funext r
  rw [findings_eq, reported?, Rule.onTarget]
  cases r.check <;> rfl

theorem findings_template (i : Nat) (t : Template) :
    (template i t).findings place d = fun r => r.onTemplate place d t i := by
  funext r
  rw [findings_eq, reported?, Rule.onTemplate]
  cases r.check <;> rfl

end Order

/-- The targets of a listed panel are those that carry their positions. -/
theorem targets_of_mem_allPanels {d : Dashboard} {p : Panel} (h : p ∈ d.allPanels) (i : Nat) :
    (p.targets.zipIdx.map fun (t, j) => target i p j t) =
      p.targets.map fun t => target i p t.idx t := by
  refine List.ext_getElem? fun j => ?_
  rw [List.getElem?_map, List.getElem?_map, List.getElem?_zipIdx, Option.map_map]
  cases ht : p.targets[j]? with
  | none => rfl
  | some t =>
      have hidx : t.idx = j := Dashboard.idx_of_mem_allPanels h ht
      simp only [Option.map_some, Function.comp_apply, Nat.zero_add, hidx]

theorem lintPanel_eq {place : DashboardPlace} {d : Dashboard} {p : Panel} (h : p ∈ d.allPanels)
    (rules : RuleSet) (i : Nat) : rules.lintPanel place d p i =
      (panel i p :: p.targets.zipIdx.map fun (t, j) => target i p j t).flatMap
        fun site => rules.flatMap (site.findings place d) := by
  rw [RuleSet.lintPanel, targets_of_mem_allPanels h, List.flatMap_cons, List.flatMap_map,
    findings_panel]
  simp only [findings_target]

theorem lintDashboard_eq (rules : RuleSet) (index : Nat) (d : Dashboard) :
    rules.lintDashboard index d =
      d.sites.flatMap fun site => rules.flatMap (site.findings ⟨index, d.title, d.unit⟩ d) := by
  have hpanels : (d.allPanels.zipIdx.flatMap fun (p, i) =>
      rules.lintPanel ⟨index, d.title, d.unit⟩ d p i) =
      (d.allPanels.zipIdx.flatMap fun (p, i) =>
        panel i p :: p.targets.zipIdx.map fun (t, j) => target i p j t).flatMap
          fun site => rules.flatMap (site.findings ⟨index, d.title, d.unit⟩ d) := by
    rw [List.flatMap_assoc]
    refine List.flatMap_congr fun (p, i) hp => ?_
    exact lintPanel_eq (List.fst_mem_of_mem_zipIdx hp) rules i
  simp only [RuleSet.lintDashboard, hpanels, Dashboard.sites, List.flatMap_cons,
    List.flatMap_append, List.flatMap_map, findings_dashboard, findings_template,
    List.append_assoc]

/-! ## Back to the part -/

/-- What a repair of the part, or of one that it belongs to, makes of the dashboard. The repair gets
    the part that was checked, but for the indices of targets: it gets the panel of which `p` is the
    copy with its targets indexed, or the target that becomes `t` with its position as its index. -/
def Repaired (d d' : Dashboard) : Site → Fix → Prop
  | _, .dashboard apply => d' = apply d
  | .panel i p, .panel apply => ∃ o, o.reindexed = p ∧ d.Replaced i o (apply o) d'
  | .target i p _ _, .panel apply => ∃ o, o.reindexed = p ∧ d.Replaced i o (apply o) d'
  | .target i p j t, .target apply => ∃ o s, o.reindexed = p ∧ o.targets[j]? = some s ∧
    { s with idx := j } = t ∧
    d.Replaced i o { o with targets := o.targets.set j (apply d.templates s) } d'
  | .template i t, .template apply =>
    d' = { d with templating := { d.templating with list := d.templates.set i (apply t) } }
  | _, _ => False

variable {d d' : Dashboard} {site : Site} {f : Finding} {fix : Fix} {place : DashboardPlace}
  {r : Rule} {raw : Diagnostic}

theorem IsIn.hasPlace (hin : site.IsIn d) (h : (site.finding place r raw).Carries fix) :
    (site.finding place r raw).HasPlace d fix := by
  cases fix with
  | dashboard apply => trivial
  | panel apply =>
      cases site with
      | panel i p =>
          refine ⟨_, rfl, ?_⟩
          rw [Dashboard.targetCounts, List.length_map]
          exact (List.getElem?_eq_some_iff.mp hin).1
      | target i p j t =>
          refine ⟨_, rfl, ?_⟩
          rw [Dashboard.targetCounts, List.length_map]
          exact (List.getElem?_eq_some_iff.mp hin.1).1
      | _ => simp [Finding.Carries, finding, panel?] at h
  | target apply =>
      cases site with
      | target i p j t =>
          refine ⟨_, j, p.targets.length, rfl, rfl, ?_, (List.getElem?_eq_some_iff.mp hin.2).1⟩
          rw [Dashboard.targetCounts, List.getElem?_map, hin.1]
          rfl
      | _ => simp [Finding.Carries, finding, target?] at h
  | template apply =>
      cases site with
      | template i t => exact ⟨_, rfl, (List.getElem?_eq_some_iff.mp hin).1⟩
      | _ => simp [Finding.Carries, finding, template?] at h

theorem IsIn.repaired (hin : site.IsIn d) (h : (site.finding place r raw).Repairs d fix d') :
    site.Repaired d d' fix := by
  cases h with
  | dashboard apply => rfl
  | panel apply hplace h =>
      cases site with
      | panel i p =>
          obtain rfl := Option.some.inj hplace
          exact ⟨_, Option.some.inj (h.getElem?_allPanels.symm.trans hin), h⟩
      | target i p j t =>
          obtain rfl := Option.some.inj hplace
          exact ⟨_, Option.some.inj (h.getElem?_allPanels.symm.trans hin.1), h⟩
      | _ => simp [finding, panel?] at hplace
  | target apply hplace hj ht h =>
      cases site with
      | target i p j t =>
          obtain rfl := Option.some.inj hplace
          obtain rfl := Option.some.inj hj
          obtain rfl := Option.some.inj (h.getElem?_allPanels.symm.trans hin.1)
          refine ⟨_, _, rfl, ht, ?_, h⟩
          have hindexed := hin.2
          rw [Panel.getElem?_targets_reindexed, ht] at hindexed
          exact Option.some.inj hindexed
      | _ => simp [finding, target?] at hj
  | template apply hplace ht =>
      cases site with
      | template i t =>
          obtain rfl := Option.some.inj hplace
          obtain rfl := Option.some.inj (ht.symm.trans hin)
          rfl
      | _ => simp [finding, template?] at hplace

end Site

/-- The positions of a finding are those of parts of the dashboard, and what it says of them is
    so. -/
structure Finding.ResolvesIn (f : Finding) (index : Nat) (d : Dashboard) : Prop where
  dashboard : f.dashboard = ⟨index, d.title, d.unit⟩
  panel : ∀ place, f.panel = some place → ∃ p, d.allPanels[place.index]? = some p ∧
    place.index < d.allPanels.length ∧ place.id = p.id ∧ place.title = p.title
  target : ∀ j, f.target = some j → ∃ place p t, f.panel = some place ∧
    d.allPanels[place.index]? = some p ∧ j < p.targets.length ∧ p.targets[j]? = some t ∧ t.idx = j
  template : ∀ place, f.template = some place → ∃ t, d.templates[place.index]? = some t ∧
    place.index < d.templates.length ∧ place.name = t.name

namespace Site

theorem IsIn.resolvesIn {d : Dashboard} {site : Site} (h : site.IsIn d) (index : Nat) (r : Rule)
    (raw : Diagnostic) : (site.finding ⟨index, d.title, d.unit⟩ r raw).ResolvesIn index d where
  dashboard := rfl
  panel := by
    intro place hplace
    cases site with
    | panel i p =>
        obtain rfl := Option.some.inj hplace
        exact ⟨p, h, (List.getElem?_eq_some_iff.mp h).1, rfl, rfl⟩
    | target i p j t =>
        obtain rfl := Option.some.inj hplace
        exact ⟨p, h.1, (List.getElem?_eq_some_iff.mp h.1).1, rfl, rfl⟩
    | _ => simp [finding, panel?] at hplace
  target := by
    intro j hj
    cases site with
    | target i p j t =>
        obtain rfl := Option.some.inj hj
        exact ⟨_, p, t, rfl, h.1, (List.getElem?_eq_some_iff.mp h.2).1, h.2,
          Dashboard.idx_of_mem_allPanels (List.mem_of_getElem? h.1) h.2⟩
    | _ => simp [finding, target?] at hj
  template := by
    intro place hplace
    cases site with
    | template i t =>
        obtain rfl := Option.some.inj hplace
        exact ⟨t, h, (List.getElem?_eq_some_iff.mp h).1, rfl⟩
    | _ => simp [finding, template?] at hplace

end Site

namespace RuleSet

/-- The part and the rule of a finding. -/
theorem exists_site_of_mem {rules : RuleSet} {index : Nat} {d : Dashboard} {f : Finding}
    (h : f ∈ rules.lintDashboard index d) : ∃ site : Site, site.IsIn d ∧ ∃ r ∈ rules,
      f ∈ site.findings ⟨index, d.title, d.unit⟩ d r ∧
      f = site.finding ⟨index, d.title, d.unit⟩ r f.raw := by
  rw [Site.lintDashboard_eq] at h
  obtain ⟨site, hsite, h⟩ := List.mem_flatMap.mp h
  obtain ⟨r, hr, h⟩ := List.mem_flatMap.mp h
  exact ⟨site, Site.mem_sites_iff.mp hsite, r, hr, h, Site.eq_finding_of_mem_findings h⟩

/-- **Every rule is run on every part of its kind, and every finding leads back to its part.** The
    findings are, part by part and rule by rule, what the rule reports of the part, or that the part
    has passed. The positions in a finding are those of the part, and a repair of that part, or of
    one that it belongs to, is made there: it gets the very part that was checked, with the indices
    that targets have in the dashboard. -/
theorem lintDashboard_exact (rules : RuleSet) (index : Nat) (d : Dashboard) :
    rules.lintDashboard index d =
      d.sites.flatMap (fun site => rules.flatMap (site.findings ⟨index, d.title, d.unit⟩ d)) ∧
    (∀ site : Site, site ∈ d.sites ↔ site.IsIn d) ∧
    ∀ f ∈ rules.lintDashboard index d, f.ResolvesIn index d ∧
      ∃ site : Site, site.IsIn d ∧ ∃ r ∈ rules,
        f ∈ site.findings ⟨index, d.title, d.unit⟩ d r ∧
        f = site.finding ⟨index, d.title, d.unit⟩ r f.raw ∧
        ∀ fix, f.Carries fix → ∃ d', f.repair? fix d = some d' ∧ site.Repaired d d' fix := by
  refine ⟨Site.lintDashboard_eq rules index d, fun site => Site.mem_sites_iff, fun f hf => ?_⟩
  obtain ⟨site, hin, r, hr, hmem, heq⟩ := exists_site_of_mem hf
  refine ⟨heq ▸ hin.resolvesIn index r f.raw, site, hin, r, hr, hmem, heq, fun fix hfix => ?_⟩
  rw [heq] at hfix ⊢
  obtain ⟨d', hd'⟩ := (hin.hasPlace hfix).exists_repair?
  exact ⟨d', hd', hin.repaired (Finding.repair?_eq_some hd')⟩

/-- The same panels stand in a row and beside it, and a rule reports the target that it is given
    with the index one, whatever index the target has in the dashboard. The last finding is on the
    second target of the panel inside the second of them, and its repair, which gets the target with
    the index that it has in the dashboard, leaves the row alone. -/
theorem lintDashboard_exact_nested :
    let first : Target := { (default : Target) with expr := "up" }
    let second : Target := { (default : Target) with expr := "down", idx := 5 }
    let inner : Panel := { (default : Panel) with title := "inner", targets := [first, second] }
    let outer : Panel := { (default : Panel) with title := "outer", panels := [inner] }
    let d : Dashboard :=
      { (default : Dashboard) with title := "Home", rows := [⟨[outer], []⟩], panels := [outer] }
    let fix := Fix.target fun _ t => { t with expr := if t.idx == 5 then "ok" else "up" }
    let raw := (Diagnostic.error "bad").withFix fix
    let r := Rule.new "rule" "" (.target fun _ _ t => if t.idx == 1 then [raw] else [])
    let f : Finding := ⟨"rule", "", raw, raw, false, ⟨7, "Home", ""⟩, some ⟨3, none, "inner"⟩,
      some 1, none⟩
    let inner' : Panel := { inner with targets := [first, { second with expr := "ok" }] }
    let d' : Dashboard := { d with panels := [{ outer with panels := [inner'] }] }
    (f ∈ lintDashboard [r] 7 d ∧ f.Carries fix) ∧ f.ResolvesIn 7 d ∧
      f.repair? fix d = some d' ∧ ∃ site : Site, site.IsIn d ∧ site.Repaired d d' fix := by
  intro first second inner outer d fix raw r f inner' d'
  have hf : f ∈ lintDashboard [r] 7 d := List.mem_of_getElem? (i := 3) rfl
  have hrepair : f.repair? fix d = some d' := rfl
  obtain ⟨-, -, hexact⟩ := lintDashboard_exact [r] 7 d
  obtain ⟨hresolves, site, hin, -, -, -, -, hfix⟩ := hexact f hf
  obtain ⟨d₁, hd₁, hrepaired⟩ := hfix fix rfl
  obtain rfl : d' = d₁ := Option.some.inj (hrepair.symm.trans hd₁)
  exact ⟨⟨hf, rfl⟩, hresolves, hrepair, site, hin, hrepaired⟩

end RuleSet

end BoardLint
