import BoardLint.Proofs.Dashboard.Position

set_option autoImplicit false

/-! # Shapes

The shape of a dashboard is how its panels are nested, how many targets each has and how many
template variables there are. A position that is there stays there as long as the shape is kept
(`Dashboard.targetCounts_of_shape`). -/

namespace BoardLint

namespace Panel

/-- The number of targets of a panel and the shapes of the panels inside it. -/
inductive Shape where
  | node (targets : Nat) (panels : List Shape)

mutual

/-- The shape of a panel. -/
def shape : Panel → Shape
  | ⟨_, _, _, _, _, targets, panels, _⟩ => .node targets.length (shapes panels)

/-- The shapes of several panels. -/
def shapes : List Panel → List Shape
  | [] => []
  | p :: rest => shape p :: shapes rest

end

theorem shape_eq (o : Panel) : o.shape = .node o.targets.length (shapes o.panels) := by
  cases o
  rfl

theorem shapes_eq_map (ps : List Panel) : shapes ps = ps.map shape := by
  induction ps with
  | nil => rfl
  | cons o rest ih => rw [shapes, ih, List.map_cons]

theorem Replaced.shapes_eq {p q : Panel} {before after : List Panel} {n : Nat}
    (h : Replaced p q before n after) (hshape : q.shape = p.shape) :
    shapes after = shapes before := by
  induction h with
  | here rest => rw [shapes, shapes, hshape]
  | @inside o inner n _ rest ih => rw [shapes, shapes, shape_eq, shape_eq o, ih]
  | later o _ ih => rw [shapes, shapes, ih]

theorem targetCounts_of_shapes {ps ps' : List Panel} (h : shapes ps' = shapes ps) :
    (flattenAll ps').map (·.targets.length) = (flattenAll ps).map (·.targets.length) := by
  induction ps using forest_induction generalizing ps' with
  | nil =>
      cases ps' with
      | nil => rfl
      | cons o rest => simp [shapes] at h
  | cons o rest ihinner ihrest =>
      cases ps' with
      | nil => simp [shapes] at h
      | cons o' rest' =>
          simp only [shapes, shape_eq, List.cons.injEq, Shape.node.injEq] at h
          obtain ⟨⟨htargets, hinner⟩, hrest⟩ := h
          simp only [flattenAll_cons, List.map_cons, List.map_append, length_targets_reindexed,
            htargets, ihinner hinner, ihrest hrest]

end Panel

namespace Dashboard

/-- The shapes of the panels of each row and of those beside the rows, and the number of template
    variables. -/
structure Shape where
  rows : List (List Panel.Shape)
  panels : List Panel.Shape
  templates : Nat

/-- The shape of a dashboard. -/
def shape (d : Dashboard) : Shape :=
  ⟨d.rows.map fun row => Panel.shapes row.panels, Panel.shapes d.panels, d.templates.length⟩

/-- How many targets each of all panels has. -/
def targetCounts (d : Dashboard) : List Nat := d.allPanels.map (·.targets.length)

theorem targetCounts_of_shape {d d' : Dashboard} (h : d'.shape = d.shape) :
    d'.targetCounts = d.targetCounts := by
  simp only [shape, Shape.mk.injEq] at h
  obtain ⟨hrows, hpanels, -⟩ := h
  have hflat : ∀ rows : List Row, Panel.shapes (rows.flatMap (·.panels)) =
      (rows.map fun row => Panel.shapes row.panels).flatten := by
    intro rows
    simp only [Panel.shapes_eq_map]
    rw [List.map_flatMap, List.flatMap_def]
  have hinRows : Panel.shapes (d'.rows.flatMap (·.panels)) =
      Panel.shapes (d.rows.flatMap (·.panels)) := by
    rw [hflat, hflat, hrows]
  rw [targetCounts, targetCounts, allPanels, allPanels, List.map_append, List.map_append,
    Panel.targetCounts_of_shapes hinRows, Panel.targetCounts_of_shapes hpanels]

theorem Replaced.shape_eq {d d' : Dashboard} {i : Nat} {p q : Panel} (h : d.Replaced i p q d')
    (hshape : q.shape = p.shape) : d'.shape = d.shape := by
  cases h with
  | inRow hrows _ h =>
      simp only [shape, hrows, List.map_append, List.map_cons, h.shapes_eq hshape]
      rfl
  | besideRows _ h =>
      simp only [shape, h.shapes_eq hshape]
      rfl

end Dashboard

end BoardLint
