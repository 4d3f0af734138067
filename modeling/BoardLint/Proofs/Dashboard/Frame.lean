import BoardLint.Proofs.Dashboard.Position

set_option autoImplicit false

/-! # Frames

The frame of a dashboard is all of it but the fields that repairs are meant to change: whether it
can be edited, when its template variables are read again, and the queries of its targets. A frame
with these fields is the whole dashboard (`Dashboard.eq_of_frame_eq`). -/

namespace BoardLint

theorem map_set_of_getElem? {α β : Type} {g : α → β} {xs : List α} {i : Nat} {x y : α}
    (hx : xs[i]? = some x) (hy : g y = g x) : (xs.set i y).map g = xs.map g := by
  obtain ⟨hlt, rfl⟩ := List.getElem?_eq_some_iff.mp hx
  have hlt' : i < (xs.map g).length := by rwa [List.length_map]
  rw [List.map_set, hy, ← List.getElem_map g (h := hlt'), List.set_getElem_self]

/-- The target without its query. -/
def Target.frame (t : Target) : Target := { t with expr := "" }

/-- The template variable without the time when it is read again. -/
def Template.frame (t : Template) : Template := { t with refresh := none }

namespace Panel

mutual

/-- The panel without queries, in all panels inside it. -/
def frame : Panel → Panel
  | ⟨id, title, description, kind, datasource, targets, panels, extra⟩ =>
    ⟨id, title, description, kind, datasource, targets.map Target.frame, frames panels, extra⟩

/-- The panels without queries. -/
def frames : List Panel → List Panel
  | [] => []
  | p :: rest => frame p :: frames rest

end

theorem frame_eq (o : Panel) :
    o.frame = { o with targets := o.targets.map Target.frame, panels := frames o.panels } := by
  cases o
  rfl

theorem frame_reindexed (o : Panel) : o.reindexed.frame = o.frame.reindexed := by
  have htargets : o.reindexed.targets.map Target.frame =
      (o.targets.map Target.frame).mapIdx fun i t => { t with idx := i } := by
    refine List.ext_getElem? fun j => ?_
    rw [List.getElem?_map, getElem?_targets_reindexed, List.getElem?_mapIdx, List.getElem?_map,
      Option.map_map, Option.map_map]
    rfl
  rw [frame_eq, frame_eq, htargets]
  rfl

theorem frame_set_target {p : Panel} {j : Nat} {t t' : Target} (ht : p.targets[j]? = some t)
    (hframe : t'.frame = t.frame) :
    ({ p with targets := p.targets.set j t' } : Panel).frame = p.frame := by
  rw [frame_eq, frame_eq p, map_set_of_getElem? ht hframe]

theorem Replaced.frames_eq {p q : Panel} {before after : List Panel} {n : Nat}
    (h : Replaced p q before n after) (hframe : q.frame = p.frame) :
    frames after = frames before := by
  induction h with
  | here rest => rw [frames, frames, hframe]
  | @inside o inner n _ rest ih => rw [frames, frames, frame_eq, frame_eq o, ih]
  | later o _ ih => rw [frames, frames, ih]

theorem flattenAll_frames (ps : List Panel) :
    flattenAll (frames ps) = (flattenAll ps).map frame := by
  induction ps using forest_induction with
  | nil => rfl
  | cons o rest ihinner ihrest =>
      rw [frames, flattenAll_cons, flattenAll_cons, ihrest, List.map_cons, List.map_append,
        ← ihinner, frame_reindexed, frame_eq o]

theorem length_flattenAll_of_frames {ps ps' : List Panel} (h : frames ps' = frames ps) :
    (flattenAll ps').length = (flattenAll ps).length := by
  have hflat := congrArg (fun qs => (flattenAll qs).length) h
  simpa only [flattenAll_frames, List.length_map] using hflat

/-- Targets that are the same once they are indexed and without their queries are the same. -/
theorem eq_of_reindexed_targets_eq {p p' : Panel}
    (hframe : p'.targets.map Target.frame = p.targets.map Target.frame)
    (h : p'.reindexed.targets = p.reindexed.targets) : p'.targets = p.targets := by
  refine List.ext_getElem? fun j => ?_
  have hj := congrArg (·[j]?) h
  have hframe := congrArg (·[j]?) hframe
  simp only [getElem?_targets_reindexed, List.getElem?_map] at hj hframe
  cases ht : p.targets[j]? with
  | none =>
      rw [ht] at hj
      exact Option.map_eq_none_iff.mp hj
  | some t =>
      rw [ht] at hj hframe
      obtain ⟨t', ht', hj⟩ := Option.map_eq_some_iff.mp hj
      rw [ht'] at hframe ⊢
      -- the frame has the index, and all else is left by indexing
      obtain ⟨expr, datasource, refId, hide, idx, extra⟩ := t
      obtain ⟨expr', datasource', refId', hide', idx', extra'⟩ := t'
      simp_all [Target.frame]

/-- Panels with the same frames and the same targets are the same. -/
theorem eq_of_frames_eq {ps ps' : List Panel} (h : frames ps' = frames ps)
    (htargets : (flattenAll ps').map (·.targets) = (flattenAll ps).map (·.targets)) : ps' = ps := by
  induction ps using forest_induction generalizing ps' with
  | nil =>
      cases ps' with
      | nil => rfl
      | cons o rest => simp [frames] at h
  | cons o rest ihinner ihrest =>
      cases ps' with
      | nil => simp [frames] at h
      | cons o' rest' =>
          obtain ⟨id, title, description, kind, datasource, targets, panels, extra⟩ := o
          obtain ⟨id', title', description', kind', datasource', targets', panels', extra'⟩ := o'
          simp only [frames, frame, List.cons.injEq, mk.injEq] at h
          obtain ⟨⟨rfl, rfl, rfl, rfl, rfl, hframe, hpanels, rfl⟩, hrest⟩ := h
          simp only [flattenAll_cons, List.map_cons, List.map_append, List.cons.injEq] at htargets
          obtain ⟨hindexed, happend⟩ := htargets
          obtain rfl : targets' = targets := eq_of_reindexed_targets_eq hframe hindexed
          -- where the panels inside end is known from the frames, not from the targets
          have hlength : ((flattenAll panels').map (·.targets)).length =
              ((flattenAll panels).map (·.targets)).length := by
            rw [List.length_map, List.length_map, length_flattenAll_of_frames hpanels]
          obtain ⟨hinner, hafter⟩ := List.append_inj happend hlength
          rw [ihinner hpanels hinner, ihrest hrest hafter]

theorem length_flatten_of_frame {p p' : Panel} (h : p'.frame = p.frame) :
    p'.flatten.length = p.flatten.length := by
  have hframes : frames [p'] = frames [p] := congrArg (fun o => [o]) h
  have hlength := length_flattenAll_of_frames hframes
  rwa [flattenAll_singleton, flattenAll_singleton] at hlength

theorem eq_of_frame_eq {p p' : Panel} (h : p'.frame = p.frame)
    (htargets : p'.flatten.map (·.targets) = p.flatten.map (·.targets)) : p' = p := by
  have hframes : frames [p'] = frames [p] := congrArg (fun o => [o]) h
  rw [← flattenAll_singleton, ← flattenAll_singleton] at htargets
  exact (List.cons.inj (eq_of_frames_eq hframes htargets)).1

end Panel

/-! ## Rows and dashboards -/

/-- The row without queries. -/
def Row.frame (row : Row) : Row := { row with panels := Panel.frames row.panels }

/-- Rows with the same frames and the same targets are the same. -/
theorem Row.eq_of_frames_eq {rows rows' : List Row} (h : rows'.map Row.frame = rows.map Row.frame)
    (htargets : (Panel.flattenAll (rows'.flatMap (·.panels))).map (·.targets) =
      (Panel.flattenAll (rows.flatMap (·.panels))).map (·.targets)) : rows' = rows := by
  induction rows generalizing rows' with
  | nil => exact List.map_eq_nil_iff.mp h
  | cons row rest ih =>
      cases rows' with
      | nil => simp at h
      | cons row' rest' =>
          obtain ⟨panels, extra⟩ := row
          obtain ⟨panels', extra'⟩ := row'
          simp only [List.map_cons, frame, List.cons.injEq, mk.injEq] at h
          obtain ⟨⟨hpanels, rfl⟩, hrest⟩ := h
          simp only [List.flatMap_cons, Panel.flattenAll_append, List.map_append] at htargets
          obtain ⟨hinner, hafter⟩ := List.append_inj htargets (by
            rw [List.length_map, List.length_map, Panel.length_flattenAll_of_frames hpanels])
          rw [Panel.eq_of_frames_eq hpanels hinner, ih hrest hafter]

namespace Dashboard

/-- The dashboard without the fields that repairs are meant to change. -/
def frame (d : Dashboard) : Dashboard :=
  { d with
    editable := none
    templating := { d.templating with list := d.templates.map Template.frame }
    rows := d.rows.map Row.frame
    panels := Panel.frames d.panels }

variable {d d' : Dashboard}

theorem Replaced.frame_eq {i : Nat} {p q : Panel} (h : d.Replaced i p q d')
    (hframe : q.frame = p.frame) : d'.frame = d.frame := by
  cases h with
  | inRow hrows _ h =>
      simp only [frame, hrows, List.map_append, List.map_cons, Row.frame, h.frames_eq hframe]
      rfl
  | besideRows _ h =>
      simp only [frame, h.frames_eq hframe]
      rfl

theorem frame_set_template {i : Nat} {t t' : Template} (ht : d.templates[i]? = some t)
    (hframe : t'.frame = t.frame) : ({ d with templating :=
      { d.templating with list := d.templates.set i t' } } : Dashboard).frame = d.frame := by
  have hlist : (d.templates.set i t').map Template.frame = d.templates.map Template.frame :=
    map_set_of_getElem? ht hframe
  simp only [frame, templates] at hlist ⊢
  rw [hlist]

theorem map_frame_allPanels (h : d'.frame = d.frame) :
    d'.allPanels.map Panel.frame = d.allPanels.map Panel.frame := by
  have hframe : ∀ d : Dashboard, d.frame.allPanels = d.allPanels.map Panel.frame := by
    intro d
    have hrows : ∀ rows : List Row, Panel.flattenAll ((rows.map Row.frame).flatMap (·.panels)) =
        (Panel.flattenAll (rows.flatMap (·.panels))).map Panel.frame := by
      intro rows
      induction rows with
      | nil => rfl
      | cons row rest ih =>
          simp only [List.map_cons, List.flatMap_cons, Panel.flattenAll_append, ih, List.map_append,
            Row.frame, Panel.flattenAll_frames]
    rw [allPanels, allPanels, List.map_append, ← hrows, ← Panel.flattenAll_frames]
    rfl
  rw [← hframe, ← hframe, h]

/-- Dashboards with the same frame that can be edited alike and have the same template variables and
    targets are the same. -/
theorem eq_of_frame_eq (h : d'.frame = d.frame) (heditable : d'.editable = d.editable)
    (htemplates : d'.templates = d.templates)
    (htargets : d'.allPanels.map (·.targets) = d.allPanels.map (·.targets)) : d' = d := by
  obtain ⟨title, editable, templating, rows, panels, extra, unit, source, envelope⟩ := d
  obtain ⟨title', editable', templating', rows', panels', extra', unit', source', envelope'⟩ := d'
  obtain ⟨list, others⟩ := templating
  obtain ⟨list', others'⟩ := templating'
  simp only [frame, mk.injEq, Templating.mk.injEq] at h
  obtain ⟨rfl, -, ⟨-, rfl⟩, hrows, hpanels, rfl, rfl, rfl, rfl⟩ := h
  obtain rfl : editable' = editable := heditable
  obtain rfl : list' = list := htemplates
  simp only [allPanels, List.map_append] at htargets
  obtain ⟨hbeside, hinRows⟩ := List.append_inj' htargets (by
    rw [List.length_map, List.length_map, Panel.length_flattenAll_of_frames hpanels])
  rw [Row.eq_of_frames_eq hrows hbeside, Panel.eq_of_frames_eq hpanels hinRows]

end Dashboard

end BoardLint
