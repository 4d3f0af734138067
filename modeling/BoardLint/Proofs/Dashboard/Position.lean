import BoardLint.Dashboard.Basic
import Mathlib.Data.List.Basic

set_option autoImplicit false

/-! # Panels by position

`Dashboard.allPanels` copies all panels of a dashboard into one list, each with its targets indexed
(`Panel.reindexed`), and `Dashboard.updatePanel?` finds a panel again in rows and nested panels by
its position in that list. What it does is said by `Dashboard.Replaced`: one panel makes room for
another, and all around it stays. -/

namespace BoardLint

namespace Panel

/-! ## Indexed targets -/

@[simp]
theorem panels_reindexed (p : Panel) : p.reindexed.panels = p.panels := rfl

@[simp]
theorem id_reindexed (p : Panel) : p.reindexed.id = p.id := rfl

@[simp]
theorem title_reindexed (p : Panel) : p.reindexed.title = p.title := rfl

@[simp]
theorem length_targets_reindexed (p : Panel) :
    p.reindexed.targets.length = p.targets.length := List.length_mapIdx

theorem getElem?_targets_reindexed (p : Panel) (j : Nat) :
    p.reindexed.targets[j]? = p.targets[j]?.map fun t => { t with idx := j } :=
  List.getElem?_mapIdx

/-- The index of a target is its position once the targets are indexed. -/
theorem idx_of_getElem?_reindexed {p : Panel} {j : Nat} {t : Target}
    (h : p.reindexed.targets[j]? = some t) : t.idx = j := by
  rw [getElem?_targets_reindexed] at h
  obtain ⟨t, -, rfl⟩ := Option.map_eq_some_iff.mp h
  rfl

@[simp]
theorem reindexed_reindexed (p : Panel) : p.reindexed.reindexed = p.reindexed := by
  simp only [reindexed, List.mapIdx_mapIdx]
  rfl

/-! ## Panels inside panels -/

/-- What holds of panels whenever it holds of those inside the first and of the rest holds of all
    lists of panels. -/
@[elab_as_elim]
theorem forest_induction {motive : List Panel → Prop} (ps : List Panel) (nil : motive [])
    (cons : ∀ (o : Panel) (rest : List Panel), motive o.panels → motive rest → motive (o :: rest)) :
    motive ps :=
  @Panel.rec_1 (fun o => motive o.panels) motive (fun _ _ _ _ _ _ _ _ hinner => hinner) nil cons ps

theorem flatten_eq (o : Panel) : o.flatten = o.reindexed :: flattenAll o.panels := by
  cases o
  rfl

theorem flatten_reindexed (o : Panel) : o.reindexed.flatten = o.flatten := by
  rw [flatten_eq, flatten_eq, reindexed_reindexed, panels_reindexed]

theorem flattenAll_cons (o : Panel) (rest : List Panel) :
    flattenAll (o :: rest) = o.reindexed :: (flattenAll o.panels ++ flattenAll rest) := by
  rw [flattenAll, flatten_eq, List.cons_append]

theorem flattenAll_singleton (o : Panel) : flattenAll [o] = o.flatten :=
  List.append_nil o.flatten

theorem flattenAll_append (xs ys : List Panel) :
    flattenAll (xs ++ ys) = flattenAll xs ++ flattenAll ys := by
  induction xs with
  | nil => rfl
  | cons o rest ih => rw [List.cons_append, flattenAll, flattenAll, ih, List.append_assoc]

/-- What is listed are panels with their targets indexed. -/
theorem exists_reindexed_of_mem_flattenAll {ps : List Panel} {p : Panel}
    (h : p ∈ flattenAll ps) : ∃ o : Panel, p = o.reindexed := by
  induction ps using forest_induction with
  | nil => exact absurd h List.not_mem_nil
  | cons o rest ihinner ihrest =>
      rw [flattenAll_cons, List.mem_cons, List.mem_append] at h
      rcases h with rfl | hinner | hrest
      · exact ⟨o, rfl⟩
      · exact ihinner hinner
      · exact ihrest hrest

theorem getElem?_flattenAll_add {ps : List Panel} {p : Panel} {k n : Nat}
    (h : (flattenAll ps)[k]? = some p) (hn : n < p.flatten.length) :
    (flattenAll ps)[k + n]? = p.flatten[n]? := by
  induction ps using forest_induction generalizing k with
  | nil => exact absurd h (by simp [flattenAll])
  | cons o rest ihinner ihrest =>
      rw [flattenAll_cons] at h ⊢
      cases k with
      | zero =>
          obtain rfl : o.reindexed = p := Option.some.inj h
          rw [flatten_reindexed] at hn ⊢
          rw [Nat.zero_add, ← List.cons_append, ← flatten_eq, List.getElem?_append_left hn]
      | succ k =>
          rw [Nat.add_right_comm, List.getElem?_cons_succ]
          rw [List.getElem?_cons_succ] at h
          by_cases hk : k < (flattenAll o.panels).length
          · rw [List.getElem?_append_left hk] at h
            -- a panel inside ends before those after the outer one begin
            have hinner := ihinner h
            rw [List.getElem?_eq_getElem hn] at hinner ⊢
            rw [List.getElem?_append_left (List.getElem?_eq_some_iff.mp hinner).1, hinner]
          · rw [List.getElem?_append_right (by omega)] at h ⊢
            rw [Nat.sub_add_comm (by omega)]
            exact ihrest h

theorem updateIn_cons_zero {α : Type} (f : Panel → Panel × α) (o : Panel) (rest : List Panel) :
    updateIn f (o :: rest) 0 = .found ((f o).1 :: rest, (f o).2) := by
  cases o
  rfl

theorem updateIn_cons_succ {α : Type} (f : Panel → Panel × α) (o : Panel) (rest : List Panel)
    (n : Nat) : updateIn f (o :: rest) (n + 1) =
      match updateIn f o.panels n with
      | .found (inner, a) => .found ({ o with panels := inner } :: rest, a)
      | .passed m =>
        match updateIn f rest m with
        | .found (rest, a) => .found (o :: rest, a)
        | .passed m => .passed m := by
  obtain ⟨id, title, description, kind, datasource, targets, panels, extra⟩ := o
  simp only [updateIn, updateAt]
  cases updateIn f panels n <;> rfl

/-! ## One panel for another -/

/-- The panels `after` are `before` with `q` in the place of `p`, which has `n` panels before it. -/
inductive Replaced (p q : Panel) : List Panel → Nat → List Panel → Prop
  | here (rest : List Panel) : Replaced p q (p :: rest) 0 (q :: rest)
  | inside {o : Panel} {inner : List Panel} {n : Nat} (h : Replaced p q o.panels n inner)
      (rest : List Panel) : Replaced p q (o :: rest) (n + 1) ({ o with panels := inner } :: rest)
  | later (o : Panel) {before after : List Panel} {n : Nat} (h : Replaced p q before n after) :
      Replaced p q (o :: before) (o.flatten.length + n) (o :: after)

/-- An update replaces the panel at the position; beyond the last panel it counts the panels. -/
theorem updateIn_spec {α : Type} (f : Panel → Panel × α) (ps : List Panel) (n : Nat) :
    (∃ p ps', Replaced p (f p).1 ps n ps' ∧ updateIn f ps n = .found (ps', (f p).2)) ∨
      ∃ m, n = (flattenAll ps).length + m ∧ updateIn f ps n = .passed m := by
  induction ps using forest_induction generalizing n with
  | nil => exact Or.inr ⟨n, (Nat.zero_add n).symm, rfl⟩
  | cons o rest ihinner ihrest =>
      cases n with
      | zero => exact Or.inl ⟨o, _, .here rest, updateIn_cons_zero f o rest⟩
      | succ n =>
          -- the position is inside the first panel, or what is left of it is among the others
          rw [updateIn_cons_succ]
          rcases ihinner n with ⟨p, inner, hp, hfound⟩ | ⟨m, hm, hpassed⟩
          · rw [hfound]
            exact Or.inl ⟨p, _, hp.inside rest, rfl⟩
          · rw [hpassed]
            have hlength : n + 1 = o.flatten.length + m := by
              rw [flatten_eq, List.length_cons]
              omega
            rcases ihrest m with ⟨p, after, hp, hfound⟩ | ⟨k, hk, hpassed⟩
            · simp only [hfound]
              exact Or.inl ⟨p, _, hlength ▸ hp.later o, rfl⟩
            · simp only [hpassed]
              refine Or.inr ⟨k, ?_, rfl⟩
              rw [flattenAll, List.length_append]
              omega

namespace Replaced

variable {p q : Panel} {before after : List Panel} {n : Nat}

theorem getElem?_flattenAll (h : Replaced p q before n after) :
    (flattenAll before)[n]? = some p.reindexed := by
  induction h with
  | here rest =>
      rw [flattenAll_cons]
      rfl
  | @inside o inner n _ rest ih =>
      rw [flattenAll_cons, List.getElem?_cons_succ]
      exact List.getElem?_append_left (List.getElem?_eq_some_iff.mp ih).1 ▸ ih
  | @later o before after n _ ih =>
      rw [flattenAll, List.getElem?_append_right (Nat.le_add_right _ _), Nat.add_sub_cancel_left]
      exact ih

theorem symm (h : Replaced p q before n after) : Replaced q p after n before := by
  induction h with
  | here rest => exact .here rest
  | @inside o inner n _ rest ih =>
      cases o
      exact ih.inside rest
  | later o _ ih => exact ih.later o

/-- What panels have of their own, apart from the panels inside them, changes at one position if the
    other panel holds the same panels. -/
theorem map_flattenAll {β : Type} {g : Panel → β} (h : Replaced p q before n after)
    (hown : ∀ (o : Panel) (inner : List Panel), g { o with panels := inner } = g o)
    (hinside : q.panels = p.panels) :
    (flattenAll after).map g = ((flattenAll before).map g).set n (g q.reindexed) := by
  induction h with
  | here rest =>
      rw [flattenAll_cons, flattenAll_cons, hinside]
      rfl
  | @inside o inner n hinner rest ih =>
      have hlength : n < ((flattenAll o.panels).map g).length := by
        rw [List.length_map]
        exact (List.getElem?_eq_some_iff.mp hinner.getElem?_flattenAll).1
      rw [flattenAll_cons, flattenAll_cons, List.map_cons, List.map_cons, List.map_append,
        List.map_append, List.set_cons_succ, List.set_append_left _ _ hlength, ← ih]
      exact congrArg (· :: _) (hown o.reindexed inner)
  | @later o before after n _ ih =>
      rw [flattenAll, flattenAll, List.map_append, List.map_append, ih]
      rw [List.set_append_right _ _ (by rw [List.length_map]; omega), List.length_map,
        Nat.add_sub_cancel_left]

end Replaced

end Panel

/-! ## Rows -/

/-- An update in rows replaces a panel of one row; beyond the last panel it counts the panels. -/
theorem Row.updateIn_spec {α : Type} (f : Panel → Panel × α) (rows : List Row) (n : Nat) :
    (∃ p before row after m inner, rows = before ++ row :: after ∧
      n = (Panel.flattenAll (before.flatMap (·.panels))).length + m ∧
      Panel.Replaced p (f p).1 row.panels m inner ∧
      updateIn f rows n = .found (before ++ { row with panels := inner } :: after, (f p).2)) ∨
    ∃ m, n = (Panel.flattenAll (rows.flatMap (·.panels))).length + m ∧
      updateIn f rows n = .passed m := by
  induction rows generalizing n with
  | nil => exact Or.inr ⟨n, (Nat.zero_add n).symm, rfl⟩
  | cons row rest ih =>
      rw [updateIn]
      rcases Panel.updateIn_spec f row.panels n with ⟨p, inner, hp, hfound⟩ | ⟨m, hm, hpassed⟩
      · rw [hfound]
        exact Or.inl ⟨p, [], row, rest, n, inner, rfl, (Nat.zero_add n).symm, hp, rfl⟩
      · rw [hpassed]
        have hlength : ∀ rows : List Row,
            (Panel.flattenAll ((row :: rows).flatMap (·.panels))).length =
              (Panel.flattenAll row.panels).length +
                (Panel.flattenAll (rows.flatMap (·.panels))).length := by
          intro rows
          rw [List.flatMap_cons, Panel.flattenAll_append, List.length_append]
        rcases ih m with
          ⟨p, before, row', after, k, inner, hrest, hk, hp, hfound⟩ | ⟨k, hk, hpassed⟩
        · simp only [hfound]
          refine Or.inl ⟨p, row :: before, row', after, k, inner, ?_, ?_, hp, rfl⟩
          · rw [hrest, List.cons_append]
          · rw [hlength]
            omega
        · simp only [hpassed]
          refine Or.inr ⟨k, ?_, rfl⟩
          rw [hlength]
          omega

namespace Dashboard

/-! ## Dashboards -/

/-- The dashboard `d'` is `d` with the panel `q` in the place of `p`, which has `i` panels before
    it: in a row, or beside the rows. -/
inductive Replaced (d : Dashboard) (i : Nat) (p q : Panel) : Dashboard → Prop
  | inRow {before after : List Row} {row : Row} {n : Nat} {inner : List Panel}
      (hrows : d.rows = before ++ row :: after)
      (hi : i = (Panel.flattenAll (before.flatMap (·.panels))).length + n)
      (h : Panel.Replaced p q row.panels n inner) :
      Replaced d i p q { d with rows := before ++ { row with panels := inner } :: after }
  | besideRows {n : Nat} {inner : List Panel}
      (hi : i = (Panel.flattenAll (d.rows.flatMap (·.panels))).length + n)
      (h : Panel.Replaced p q d.panels n inner) : Replaced d i p q { d with panels := inner }

/-- In the list of panels the index of a target is its position. -/
theorem idx_of_mem_allPanels {d : Dashboard} {p : Panel} (h : p ∈ d.allPanels) {j : Nat}
    {t : Target} (ht : p.targets[j]? = some t) : t.idx = j := by
  rw [allPanels, ← Panel.flattenAll_append] at h
  obtain ⟨o, rfl⟩ := Panel.exists_reindexed_of_mem_flattenAll h
  exact Panel.idx_of_getElem?_reindexed ht

/-- A panel is followed by those inside it. -/
theorem getElem?_allPanels_add {d : Dashboard} {p : Panel} {k n : Nat}
    (h : d.allPanels[k]? = some p) (hn : n < p.flatten.length) :
    d.allPanels[k + n]? = p.flatten[n]? := by
  rw [allPanels, ← Panel.flattenAll_append] at h ⊢
  exact Panel.getElem?_flattenAll_add h hn

/-- An update replaces the panel at the position, and there is none beyond the last panel. -/
theorem updatePanel?_spec {α : Type} (d : Dashboard) (i : Nat) (f : Panel → Panel × α) :
    (∃ p d', d.Replaced i p (f p).1 d' ∧ d.updatePanel? i f = some (d', (f p).2)) ∨
      d.allPanels.length ≤ i ∧ d.updatePanel? i f = none := by
  unfold updatePanel?
  rcases Row.updateIn_spec f d.rows i with
    ⟨p, before, row, after, n, inner, hrows, hi, hp, hfound⟩ | ⟨m, hm, hpassed⟩
  · rw [hfound]
    exact Or.inl ⟨p, _, .inRow hrows hi hp, rfl⟩
  · rw [hpassed]
    rcases Panel.updateIn_spec f d.panels m with ⟨p, inner, hp, hfound⟩ | ⟨k, hk, hpassed⟩
    · simp only [hfound]
      exact Or.inl ⟨p, _, .besideRows hm hp, rfl⟩
    · refine Or.inr ⟨?_, by simp only [hpassed]⟩
      rw [allPanels, List.length_append]
      omega

namespace Replaced

variable {d d' : Dashboard} {i : Nat} {p q : Panel}

theorem getElem?_allPanels (h : d.Replaced i p q d') :
    d.allPanels[i]? = some p.reindexed := by
  cases h with
  | inRow hrows hi h =>
      have hinner := h.getElem?_flattenAll
      have hlt := (List.getElem?_eq_some_iff.mp hinner).1
      rw [allPanels, hrows, List.flatMap_append, List.flatMap_cons, Panel.flattenAll_append,
        Panel.flattenAll_append, List.append_assoc, List.append_assoc, hi,
        List.getElem?_append_right (Nat.le_add_right _ _), Nat.add_sub_cancel_left,
        List.getElem?_append_left hlt, hinner]
  | besideRows hi h =>
      rw [allPanels, hi, List.getElem?_append_right (Nat.le_add_right _ _),
        Nat.add_sub_cancel_left, h.getElem?_flattenAll]

theorem symm (h : d.Replaced i p q d') : d'.Replaced i q p d := by
  cases h with
  | @inRow before after row n inner hrows hi h =>
      let d' : Dashboard := { d with rows := before ++ { row with panels := inner } :: after }
      have hback : d'.Replaced i q p { d' with rows := before ++ row :: after } :=
        @Replaced.inRow d' i q p before after { row with panels := inner } n row.panels rfl hi
          h.symm
      rwa [← hrows] at hback
  | @besideRows n inner hi h =>
      let d' : Dashboard := { d with panels := inner }
      exact (Replaced.besideRows hi h.symm : d'.Replaced i q p { d' with panels := d.panels })

theorem editable_eq (h : d.Replaced i p q d') : d'.editable = d.editable := by
  cases h <;> rfl

theorem templates_eq (h : d.Replaced i p q d') : d'.templates = d.templates := by
  cases h <;> rfl

/-- What panels have of their own, apart from the panels inside them, changes at one position if the
    other panel holds the same panels. -/
theorem map_allPanels {β : Type} {g : Panel → β} (h : d.Replaced i p q d')
    (hown : ∀ (o : Panel) (inner : List Panel), g { o with panels := inner } = g o)
    (hinside : q.panels = p.panels) :
    d'.allPanels.map g = (d.allPanels.map g).set i (g q.reindexed) := by
  cases h with
  | @inRow before after row n inner hrows hi h =>
      have hlt : n < ((Panel.flattenAll row.panels).map g).length := by
        rw [List.length_map]
        exact (List.getElem?_eq_some_iff.mp h.getElem?_flattenAll).1
      simp only [allPanels, hrows, List.flatMap_append, List.flatMap_cons,
        Panel.flattenAll_append, List.map_append, List.append_assoc, hi,
        h.map_flattenAll hown hinside]
      rw [List.set_append_right _ _ (by rw [List.length_map]; omega), List.length_map,
        Nat.add_sub_cancel_left, List.set_append_left _ _ hlt]
  | @besideRows n inner hi h =>
      simp only [allPanels, List.map_append, hi, h.map_flattenAll hown hinside]
      rw [List.set_append_right _ _ (by rw [List.length_map]; omega), List.length_map,
        Nat.add_sub_cancel_left]

end Replaced

theorem updatePanel?_eq_some {α : Type} {d d' : Dashboard} {i : Nat} {f : Panel → Panel × α}
    {a : α} (h : d.updatePanel? i f = some (d', a)) :
    ∃ p, d.Replaced i p (f p).1 d' ∧ (f p).2 = a := by
  rcases d.updatePanel?_spec i f with ⟨p, d₁, hp, hsome⟩ | ⟨-, hnone⟩
  · obtain ⟨rfl, ha⟩ := Prod.mk.inj (Option.some.inj (hsome.symm.trans h))
    exact ⟨p, hp, ha⟩
  · rw [hnone] at h
    exact absurd h (by simp)

/-- A panel that is listed can be updated, and the update sees the panel of which a copy is
    listed. -/
theorem updatePanel?_of_getElem? {α : Type} {d : Dashboard} {i : Nat} {p : Panel}
    (h : d.allPanels[i]? = some p) (f : Panel → Panel × α) :
    ∃ p' d', p'.reindexed = p ∧ d.Replaced i p' (f p').1 d' ∧
      d.updatePanel? i f = some (d', (f p').2) := by
  rcases d.updatePanel?_spec i f with ⟨p', d', hp', hsome⟩ | ⟨hle, -⟩
  · have hp : p'.reindexed = p := Option.some.inj (hp'.getElem?_allPanels.symm.trans h)
    exact ⟨p', d', hp, hp', hsome⟩
  · exact absurd (List.getElem?_eq_some_iff.mp h).1 (Nat.not_lt.mpr hle)

end Dashboard

end BoardLint
