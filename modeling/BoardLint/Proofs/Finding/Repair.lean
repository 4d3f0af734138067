import BoardLint.Finding.Basic
import BoardLint.Proofs.Dashboard.Shape

set_option autoImplicit false

/-! # Repairs at the place of a finding

A finding names the part that it is about by positions. `Finding.Repairs` says what a repair makes
of the dashboard there, and `Finding.HasPlace` when the part is there to be repaired. The latter
depends on the shape of the dashboard only, so repairs that keep shapes do not get in each other's
way. -/

namespace BoardLint

/-- The repair keeps the shape of what it is given. Targets and template variables have none. -/
def Fix.KeepsShape : Fix → Prop
  | .dashboard apply => ∀ d, (apply d).shape = d.shape
  | .panel apply => ∀ p, (apply p).shape = p.shape
  | .target _ => True
  | .template _ => True

namespace Finding

variable {f : Finding} {d d' : Dashboard} {fix : Fix}

/-- The finding is about a part of the kind that is repaired. -/
def Carries (f : Finding) : Fix → Prop
  | .dashboard _ => True
  | .panel _ => f.panel.isSome
  | .target _ => f.target.isSome
  | .template _ => f.template.isSome

/-! ## What a repair makes -/

/-- What a repair makes of a dashboard at the place of a finding. -/
inductive Repairs (f : Finding) (d : Dashboard) : Fix → Dashboard → Prop
  | dashboard (apply : Dashboard → Dashboard) : Repairs f d (.dashboard apply) (apply d)
  | panel {place : PanelPlace} {p : Panel} {d' : Dashboard} (apply : Panel → Panel)
      (hplace : f.panel = some place) (h : d.Replaced place.index p (apply p) d') :
      Repairs f d (.panel apply) d'
  | target {place : PanelPlace} {j : Nat} {p : Panel} {t : Target} {d' : Dashboard}
      (apply : List Template → Target → Target) (hplace : f.panel = some place)
      (hj : f.target = some j) (ht : p.targets[j]? = some t)
      (h : d.Replaced place.index p
        { p with targets := p.targets.set j (apply d.templates t) } d') :
      Repairs f d (.target apply) d'
  | template {place : TemplatePlace} {t : Template} (apply : Template → Template)
      (hplace : f.template = some place) (ht : d.templates[place.index]? = some t) :
      Repairs f d (.template apply) { d with templating :=
        { d.templating with list := d.templates.set place.index (apply t) } }

theorem repair?_eq_some (h : f.repair? fix d = some d') : f.Repairs d fix d' := by
  cases fix with
  | dashboard apply =>
      obtain rfl := Option.some.inj h
      exact .dashboard apply
  | panel apply =>
      simp only [repair?, Option.bind_eq_bind, Option.bind_eq_some_iff] at h
      obtain ⟨place, hplace, ⟨d₁, u⟩, hupdate, h⟩ := h
      obtain rfl := Option.some.inj h
      obtain ⟨p, hp, -⟩ := Dashboard.updatePanel?_eq_some hupdate
      exact .panel apply hplace hp
  | target apply =>
      simp only [repair?, Option.bind_eq_bind, Option.bind_eq_some_iff] at h
      obtain ⟨place, hplace, j, hj, ⟨d₁, found⟩, hupdate, h⟩ := h
      obtain ⟨p, hp, hfound⟩ := Dashboard.updatePanel?_eq_some hupdate
      cases ht : p.targets[j]? with
      | none => simp [ht, ← hfound] at h
      | some t =>
          simp only [ht] at hp hfound
          simp only [← hfound, if_true, Option.some.injEq] at h
          exact .target apply hplace hj ht (h ▸ hp)
  | template apply =>
      simp only [repair?, Option.bind_eq_bind, Option.bind_eq_some_iff] at h
      obtain ⟨place, hplace, t, ht, h⟩ := h
      obtain rfl := Option.some.inj h
      exact .template apply hplace ht

theorem Repairs.shape_eq (h : f.Repairs d fix d') (hkeeps : fix.KeepsShape) :
    d'.shape = d.shape := by
  cases h with
  | dashboard apply => exact hkeeps d
  | panel apply _ h => exact h.shape_eq (hkeeps _)
  | target apply _ _ _ h =>
      refine h.shape_eq ?_
      rw [Panel.shape_eq, Panel.shape_eq, List.length_set]
  | template apply _ _ => simp only [Dashboard.shape, Dashboard.templates, List.length_set]

/-! ## Where a repair can be made -/

/-- The part that the finding names is there. -/
def HasPlace (f : Finding) (d : Dashboard) : Fix → Prop
  | .dashboard _ => True
  | .panel _ => ∃ place, f.panel = some place ∧ place.index < d.targetCounts.length
  | .target _ => ∃ place j n, f.panel = some place ∧ f.target = some j ∧
      d.targetCounts[place.index]? = some n ∧ j < n
  | .template _ => ∃ place, f.template = some place ∧ place.index < d.shape.templates

theorem HasPlace.of_shape (h : f.HasPlace d fix) (hshape : d'.shape = d.shape) :
    f.HasPlace d' fix := by
  unfold HasPlace
  rw [Dashboard.targetCounts_of_shape hshape, hshape]
  exact h

theorem HasPlace.exists_repair? (h : f.HasPlace d fix) : ∃ d', f.repair? fix d = some d' := by
  cases fix with
  | dashboard apply => exact ⟨_, rfl⟩
  | panel apply =>
      obtain ⟨place, hplace, hlt⟩ := h
      rw [Dashboard.targetCounts, List.length_map] at hlt
      obtain ⟨_, d', -, -, hsome⟩ := Dashboard.updatePanel?_of_getElem?
        (List.getElem?_eq_getElem hlt) fun p => (apply p, ())
      exact ⟨d', by simp [repair?, hplace, hsome]⟩
  | target apply =>
      obtain ⟨place, j, n, hplace, hj, hn, hlt⟩ := h
      rw [Dashboard.targetCounts, List.getElem?_map, Option.map_eq_some_iff] at hn
      obtain ⟨p, hp, rfl⟩ := hn
      choose stored after hstored _ hafter using fun change : Panel → Panel × Bool =>
        Dashboard.updatePanel?_of_getElem? hp change
      have hlt' : ∀ change, j < (stored change).targets.length := by
        intro change
        rwa [← Panel.length_targets_reindexed, hstored]
      simp [repair?, hplace, hj, hafter, List.getElem?_eq_getElem (hlt' _)]
  | template apply =>
      obtain ⟨place, hplace, hlt⟩ := h
      have ht : d.templates[place.index]? = some d.templates[place.index] :=
        List.getElem?_eq_getElem hlt
      exact ⟨_, by simp only [repair?, hplace, ht, Option.bind_eq_bind, Option.bind_some]; rfl⟩

end Finding

end BoardLint
