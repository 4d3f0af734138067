import BoardLint.Proofs.Dashboard.Position

set_option autoImplicit false

/-! # Writing through the list of panels

`Dashboard.allPanels` is a list of copies, in which the targets carry their positions. A panel is
written by `Dashboard.updatePanel?`, which counts its way down to the original in rows and nested
panels. `Dashboard.Rewritten` says what such a write does to the list: one entry is a copy of the
new panel, every other entry is the old one as far as it does not copy what is inside it, and
nothing else of the dashboard changes. -/

namespace BoardLint

/-- The panel without the panels inside it. -/
def Panel.own (p : Panel) : Panel := { p with panels := [] }

namespace Dashboard

/-- The dashboard without panels, in rows and beside them. -/
def withoutPanels (d : Dashboard) : Dashboard :=
  { d with rows := d.rows.map fun row => { row with panels := [] }, panels := [] }

/-- The dashboard `d'` has the panel `q` where `d` has `p`, at the position `i` of the list of
    panels. There both are listed with the indices of their targets computed anew. -/
structure Rewritten (d : Dashboard) (i : Nat) (p q : Panel) (d' : Dashboard) : Prop where
  replaced : d.Replaced i p q d'
  length : d'.allPanels.length = d.allPanels.length
  before : d.allPanels[i]? = some p.reindexed
  after : d'.allPanels[i]? = some q.reindexed
  indexed : ∀ o ∈ d'.allPanels, ∀ (j : Nat) (t : Target), o.targets[j]? = some t → t.idx = j
  others : ∀ k, k ≠ i → d'.allPanels[k]?.map Panel.own = d.allPanels[k]?.map Panel.own
  outside : d'.withoutPanels = d.withoutPanels

namespace Replaced

variable {d d' : Dashboard} {i : Nat} {p q : Panel}

theorem withoutPanels_eq (h : d.Replaced i p q d') : d'.withoutPanels = d.withoutPanels := by
  cases h with
  | inRow hrows _ _ =>
      simp only [withoutPanels, hrows, List.map_append, List.map_cons]
  | besideRows _ _ => rfl

theorem rewritten (h : d.Replaced i p q d') (hinside : q.panels = p.panels) :
    d.Rewritten i p q d' := by
  have hown : d'.allPanels.map Panel.own = (d.allPanels.map Panel.own).set i q.reindexed.own :=
    h.map_allPanels (fun _ _ => rfl) hinside
  refine ⟨h, ?_, h.getElem?_allPanels, h.symm.getElem?_allPanels,
    fun o ho j t ht => idx_of_mem_allPanels ho ht, ?_, h.withoutPanels_eq⟩
  · have hlength := congrArg List.length hown
    rwa [List.length_map, List.length_set, List.length_map] at hlength
  · intro k hk
    rw [← List.getElem?_map, ← List.getElem?_map, hown, List.getElem?_set_ne (Ne.symm hk)]

end Replaced

/-- **Positions in the list of panels can be written.** For any nesting of rows and panels, and for
    any change of a panel that keeps the panels inside it, also one that looks at the indices of
    targets or sets them: a position leads to a panel exactly if the list has it. The change sees
    the panel of which a copy is listed there, and afterwards the list has as many panels, a copy of
    the changed one at that position with the indices of its targets computed anew, and at every
    other position the same panel but for the copies of panels inside it. Of the dashboard outside
    the panels nothing changes. -/
theorem updatePanel?_rewritten {α : Type} (d : Dashboard) (i : Nat) (f : Panel → Panel × α)
    (hf : ∀ p, (f p).1.panels = p.panels) :
    ((d.updatePanel? i f).isSome ↔ i < d.allPanels.length) ∧
    ∀ d' a, d.updatePanel? i f = some (d', a) →
      ∃ p, (f p).2 = a ∧ d.Rewritten i p (f p).1 d' := by
  refine ⟨?_, fun d' a h => ?_⟩
  · rcases d.updatePanel?_spec i f with ⟨p, d', hp, hsome⟩ | ⟨hle, hnone⟩
    · have hlt : i < d.allPanels.length := (List.getElem?_eq_some_iff.mp hp.getElem?_allPanels).1
      simp [hsome, hlt]
    · simp [hnone, hle]
  · obtain ⟨p, hp, ha⟩ := updatePanel?_eq_some h
    exact ⟨p, ha, hp.rewritten (hf p)⟩

/-- A panel inside a panel is renamed after the index that its second target has in the document,
    and loses the first of its targets. The target that is left becomes the first, whatever index it
    was given. The outer panel is listed with another copy inside, and is otherwise the same. -/
theorem updatePanel?_rewritten_inner :
    let first : Target := { (default : Target) with expr := "up" }
    let second : Target := { (default : Target) with expr := "down", idx := 5 }
    let inner : Panel := { (default : Panel) with title := "inner", targets := [first, second] }
    let outer : Panel := { (default : Panel) with title := "outer", panels := [inner] }
    let last : Panel := { (default : Panel) with title := "last" }
    let d : Dashboard :=
      { (default : Dashboard) with rows := [⟨[last], []⟩], panels := [outer, last] }
    let f : Panel → Panel × List Nat := fun p =>
      ({ p with title := "new", targets := p.targets.drop 1 }, p.targets.map (·.idx))
    let d' : Dashboard := { d with panels := [{ outer with panels := [(f inner).1] }, last] }
    (∀ p, (f p).1.panels = p.panels) ∧ d.updatePanel? 2 f = some (d', [0, 5]) ∧
      (∃ p, p.targets.map (·.idx) = [0, 5] ∧ d.Rewritten 2 p (f p).1 d') ∧
      d'.allPanels[2]?.map (·.targets) = some [{ second with idx := 0 }] ∧
      d.updatePanel? 4 f = none := by
  intro first second inner outer last d f d'
  have hf : ∀ p, (f p).1.panels = p.panels := fun p => rfl
  have hupdate : d.updatePanel? 2 f = some (d', [0, 5]) := rfl
  have hend := (updatePanel?_rewritten d 4 f hf).1
  refine ⟨hf, hupdate, (updatePanel?_rewritten d 2 f hf).2 d' [0, 5] hupdate, rfl, ?_⟩
  exact Option.not_isSome_iff_eq_none.mp (mt hend.mp (Nat.lt_irrefl 4))

end Dashboard

end BoardLint
