import BoardLint.Proofs.Dashboard.Document
import BoardLint.Proofs.Dashboard.Position

set_option autoImplicit false

/-! # Repaired dashboards are dashboards of documents

A dashboard in memory can be written and read back if it is what some document says. A repair keeps
it so: the same repair on the document, at the same place, makes a document that says what the
repaired dashboard is. -/

namespace BoardLint

open Json (Members Number)

variable {P : Number → Prop}

/-! ## Members -/

namespace Json.Members

variable {α : Type} {k key : String}

theorem without_cons (keys : List String) (x : String × Json) (m : Members) :
    without keys (x :: m) = if x.1 ∈ keys then without keys m else x :: without keys m := by
  by_cases hx : x.1 ∈ keys <;> simp [without, hx]

theorem without_set {keys : List String} (h : key ∈ keys) (w : Json) (m : Members) :
    without keys (set key w m) = without keys m := by
  induction m with
  | nil => simp [set, without, h]
  | cons x m ih =>
      rw [set]
      split
      · next hx =>
        obtain rfl : x.1 = key := beq_iff_eq.mp hx
        rw [without_cons, without_cons, if_pos h, if_pos h]
      · rw [without_cons, without_cons, ih]

theorem defaulted?_set_self {item : Json → Option α} {missing : α} (w : Json) (m : Members) :
    defaulted? key missing item (set key w m) = item w := by
  rw [defaulted?, get?_set, if_pos rfl]

theorem defaulted?_set (h : key ≠ k) {item : Json → Option α} {missing : α} (w : Json)
    (m : Members) : defaulted? k missing item (set key w m) = defaulted? k missing item m := by
  rw [defaulted?, get?_set, if_neg h, defaulted?]

theorem optional?_set_self {item : Json → Option α} {w : Json} (hw : w.isNull = false)
    (m : Members) : optional? key item (set key w m) = (item w).map some :=
  optional?_of_get? hw (by rw [get?_set, if_pos rfl])

theorem optional?_set (h : key ≠ k) {item : Json → Option α} (w : Json) (m : Members) :
    optional? k item (set key w m) = optional? k item m := by
  rw [optional?, get?_set, if_neg h, optional?]

theorem optionalValue_set (h : key ≠ k) (w : Json) (m : Members) :
    optionalValue k (set key w m) = optionalValue k m := by
  rw [optionalValue_eq_filter, get?_set, if_neg h, optionalValue_eq_filter]

end Json.Members

theorem Json.Fits.set {depth : Nat} {m : Members} (hm : (Json.obj m).Fits P (depth + 1)) {w : Json}
    (hw : w.Fits P depth) (key : String) :
    (Json.obj (Members.set key w m)).Fits P (depth + 1) := by
  cases hm with
  | obj hkeys hmembers =>
      refine .obj (Members.nodup_set hkeys key w) fun x hx => ?_
      rcases Members.mem_of_mem_set hx with rfl | hx
      · exact hw
      · exact hmembers x hx

/-! ## Values that can be read -/

/-- Some value that fits into a document is read as `a`. -/
def Readable {α : Type} (P : Number → Prop) (read : Json → Option α) (depth : Nat) (a : α) : Prop :=
  ∃ v, v.Fits P depth ∧ read v = some a

section

variable {α : Type} {read : Json → Option α} {depth : Nat}

theorem exists_mapM_iff {Q : Json → Prop} {as : List α} :
    (∃ items : List Json, (∀ v ∈ items, Q v) ∧ items.mapM read = some as) ↔
      ∀ a ∈ as, ∃ v, Q v ∧ read v = some a := by
  constructor
  · rintro ⟨items, hitems, has⟩
    induction items generalizing as with
    | nil =>
        cases has
        exact List.forall_mem_nil _
    | cons v items ih =>
        simp only [List.mapM_cons, Option.bind_eq_bind, Option.bind_eq_some_iff] at has
        obtain ⟨a, ha, as, has, heq⟩ := has
        cases heq
        obtain ⟨hv, hitems⟩ := List.forall_mem_cons.mp hitems
        exact List.forall_mem_cons.mpr ⟨⟨v, hv, ha⟩, ih hitems has⟩
  · intro h
    induction as with
    | nil => exact ⟨[], List.forall_mem_nil _, rfl⟩
    | cons a as ih =>
        obtain ⟨⟨v, hv, ha⟩, has⟩ := List.forall_mem_cons.mp h
        obtain ⟨items, hitems, has⟩ := ih has
        exact ⟨v :: items, List.forall_mem_cons.mpr ⟨hv, hitems⟩, by simp [ha, has]⟩

/-- A list is read from an array, each item from an item of it. -/
theorem readable_items_iff {as : List α} : Readable P (Json.items? read) depth as ↔
    ∃ inner, depth = inner + 1 ∧ ∀ a ∈ as, Readable P read inner a := by
  constructor
  · rintro ⟨v, hv, has⟩
    cases hv with
    | @arr inner items hitems => exact ⟨inner, rfl, exists_mapM_iff.mp ⟨items, hitems, has⟩⟩
    | _ => cases has
  · rintro ⟨inner, rfl, h⟩
    obtain ⟨items, hitems, has⟩ := exists_mapM_iff.mpr h
    exact ⟨.arr items, .arr hitems, has⟩

theorem Readable.set_item {as : List α} {a b : α} {i : Nat}
    (h : Readable P (Json.items? read) depth as) (ha : as[i]? = some a)
    (hb : ∀ inner, Readable P read inner a → Readable P read inner b) :
    Readable P (Json.items? read) depth (as.set i b) := by
  obtain ⟨inner, rfl, has⟩ := readable_items_iff.mp h
  refine readable_items_iff.mpr ⟨inner, rfl, fun c hc => ?_⟩
  rcases List.mem_or_eq_of_mem_set hc with hc | rfl
  · exact has c hc
  · exact hb inner (has a (List.mem_of_getElem? ha))

/-- A list that is missing is read from an empty array as well. -/
theorem Json.Members.readable_list {key : String} {m : Members} {as : List α}
    (hm : (Json.obj m).Fits P (depth + 2)) (h : list? key read m = some as) :
    Readable P (Json.items? read) (depth + 1) as := by
  rw [list?, defaulted?] at h
  split at h
  · cases h
    exact ⟨.arr [], .arr (List.forall_mem_nil _), rfl⟩
  · next v hv => exact ⟨v, hm.get? key v hv, h⟩

/-- A list that is not empty takes a level of its own. -/
theorem Json.Members.exists_depth_of_list {key : String} {m : Members} {as : List α}
    (hm : (Json.obj m).Fits P (depth + 1)) (h : list? key read m = some as) (hne : as ≠ []) :
    ∃ inner, depth = inner + 1 := by
  rw [list?, defaulted?] at h
  split at h
  · exact absurd (Option.some.inj h).symm hne
  · next v hv =>
    obtain ⟨inner, hdepth, -⟩ := readable_items_iff.mp ⟨v, hm.get? key v hv, h⟩
    exact ⟨inner, hdepth⟩

end

/-! ## Targets and panels -/

namespace Target

theorem ofJson?_eq_some_iff {m : Members} {t : Target} : ofJson? (.obj m) = some t ↔
    Members.text? "expr" m = some t.expr ∧
    Members.optional? "datasource" Datasource.ofJson? m = some t.datasource ∧
    Members.optionalText? "refId" m = some t.refId ∧ Members.flag? "hide" m = some t.hide ∧
    Members.without keys m = t.extra ∧ t.idx = 0 := by
  simp only [ofJson?, Option.bind_eq_bind, Option.bind_eq_some_iff, Option.some.injEq]
  constructor
  · rintro ⟨_, hexpr, _, hdatasource, _, hrefId, _, hhide, rfl⟩
    exact ⟨hexpr, hdatasource, hrefId, hhide, rfl, rfl⟩
  · rintro ⟨hexpr, hdatasource, hrefId, hhide, hextra, hidx⟩
    exact ⟨_, hexpr, _, hdatasource, _, hrefId, _, hhide, by rw [hextra, ← hidx]⟩

theorem readable_expr {depth : Nat} {t : Target} (h : Readable P ofJson? depth t)
    (expr : String) : Readable P ofJson? depth { t with expr := expr } := by
  obtain ⟨v, hv, ht⟩ := h
  cases hv with
  | @obj depth m hkeys hmembers =>
      obtain ⟨-, hdatasource, hrefId, hhide, hextra, hidx⟩ := ofJson?_eq_some_iff.mp ht
      refine ⟨_, (Json.Fits.obj hkeys hmembers).set (w := .str expr) .str "expr",
        ofJson?_eq_some_iff.mpr ⟨?_, ?_, ?_, ?_, ?_, hidx⟩⟩
      · exact Members.defaulted?_set_self _ m
      · simpa [Members.optional?_set] using hdatasource
      · simpa [Members.optionalText?, Members.optional?_set] using hrefId
      · simpa [Members.flag?, Members.defaulted?_set] using hhide
      · simpa [Members.without_set, keys] using hextra
  | _ => cases ht

end Target

namespace Panel

theorem ofJson?_eq_some_iff {m : Members} {p : Panel} : ofJson? (.obj m) = some p ↔
    Members.optionalInt? "id" m = some p.id ∧ Members.text? "title" m = some p.title ∧
    Members.text? "description" m = some p.description ∧ Members.text? "type" m = some p.kind ∧
    Members.optional? "datasource" Datasource.ofJson? m = some p.datasource ∧
    Members.list? "targets" Target.ofJson? m = some p.targets ∧
    Members.list? "panels" ofJson? m = some p.panels ∧ Members.without keys m = p.extra := by
  simp only [ofJson?_obj, ofMembers?, Option.bind_eq_bind, Option.bind_eq_some_iff,
    Option.some.injEq]
  constructor
  · rintro ⟨_, hpanels, _, hid, _, htitle, _, hdescription, _, hkind, _, hdatasource, _, htargets,
      rfl⟩
    exact ⟨hid, htitle, hdescription, hkind, hdatasource, htargets, hpanels, rfl⟩
  · rintro ⟨hid, htitle, hdescription, hkind, hdatasource, htargets, hpanels, hextra⟩
    refine ⟨_, hpanels, _, hid, _, htitle, _, hdescription, _, hkind, _, hdatasource, _, htargets,
      ?_⟩
    rw [hextra]
    cases p
    rfl

/-- A panel with targets or with panels inside it has two more levels, and both are lists that can
    be read there. -/
theorem exists_readable_lists {depth : Nat} {p : Panel} (h : Readable P ofJson? depth p)
    (hne : p.targets ≠ [] ∨ p.panels ≠ []) :
    ∃ inner, depth = inner + 2 ∧ Readable P (Json.items? Target.ofJson?) (inner + 1) p.targets ∧
      Readable P (Json.items? ofJson?) (inner + 1) p.panels := by
  obtain ⟨v, hv, hp⟩ := h
  cases hv with
  | @obj depth m hkeys hmembers =>
      have hm := Json.Fits.obj hkeys hmembers
      obtain ⟨-, -, -, -, -, htargets, hpanels, -⟩ := ofJson?_eq_some_iff.mp hp
      obtain ⟨inner, rfl⟩ : ∃ inner, depth = inner + 1 :=
        hne.elim (Members.exists_depth_of_list hm htargets)
          (Members.exists_depth_of_list hm hpanels)
      exact ⟨inner, rfl, Members.readable_list hm htargets, Members.readable_list hm hpanels⟩
  | _ => simp [ofJson?] at hp

/-- A panel with other targets and other panels inside it. -/
theorem readable_with {depth : Nat} {p : Panel} {targets : List Target} {panels : List Panel}
    (h : Readable P ofJson? (depth + 2) p)
    (htargets' : Readable P (Json.items? Target.ofJson?) (depth + 1) targets)
    (hpanels' : Readable P (Json.items? ofJson?) (depth + 1) panels) :
    Readable P ofJson? (depth + 2) { p with targets := targets, panels := panels } := by
  obtain ⟨v, hv, hp⟩ := h
  obtain ⟨w, hw, hwread⟩ := htargets'
  obtain ⟨u, hu, huread⟩ := hpanels'
  cases hv with
  | @obj _ m hkeys hmembers =>
      have hm := Json.Fits.obj hkeys hmembers
      obtain ⟨hid, htitle, hdescription, hkind, hdatasource, -, -, hextra⟩ :=
        ofJson?_eq_some_iff.mp hp
      refine ⟨_, (hm.set hw "targets").set hu "panels", ofJson?_eq_some_iff.mpr
        ⟨?_, ?_, ?_, ?_, ?_, ?_, ?_, ?_⟩⟩
      · simpa [Members.optionalInt?, Members.optional?_set] using hid
      · simpa [Members.text?, Members.defaulted?_set] using htitle
      · simpa [Members.text?, Members.defaulted?_set] using hdescription
      · simpa [Members.text?, Members.defaulted?_set] using hkind
      · simpa [Members.optional?_set] using hdatasource
      · simpa [Members.list?, Members.defaulted?_set, Members.defaulted?_set_self] using hwread
      · simpa [Members.list?, Members.defaulted?_set_self] using huread
      · simpa [Members.without_set, keys] using hextra
  | _ => simp [ofJson?] at hp

/-- A panel with another target in the place of one. -/
theorem readable_set_target {depth : Nat} {p : Panel} (h : Readable P ofJson? depth p) {j : Nat}
    {t t' : Target} (ht : p.targets[j]? = some t)
    (ht' : ∀ inner, Readable P Target.ofJson? inner t → Readable P Target.ofJson? inner t') :
    Readable P ofJson? depth { p with targets := p.targets.set j t' } := by
  have hne : p.targets ≠ [] := List.ne_nil_of_mem (List.mem_of_getElem? ht)
  obtain ⟨inner, rfl, htargets, hpanels⟩ := exists_readable_lists h (.inl hne)
  exact readable_with h (htargets.set_item ht ht') hpanels

theorem Replaced.ne_nil {p q : Panel} {before after : List Panel} {n : Nat}
    (h : Replaced p q before n after) : before ≠ [] := by
  cases h <;> exact List.cons_ne_nil _ _

/-- Panels with another panel in the place of one, at any depth. -/
theorem Replaced.readable {p q : Panel} {before after : List Panel} {n : Nat}
    (h : Replaced p q before n after)
    (hq : ∀ depth, Readable P ofJson? depth p → Readable P ofJson? depth q) {depth : Nat}
    (hbefore : Readable P (Json.items? ofJson?) depth before) :
    Readable P (Json.items? ofJson?) depth after := by
  induction h generalizing depth with
  | here rest =>
      obtain ⟨inner, rfl, hall⟩ := readable_items_iff.mp hbefore
      obtain ⟨hp, hrest⟩ := List.forall_mem_cons.mp hall
      exact readable_items_iff.mpr ⟨inner, rfl, List.forall_mem_cons.mpr ⟨hq inner hp, hrest⟩⟩
  | @inside o panels n h rest ih =>
      obtain ⟨inner, rfl, hall⟩ := readable_items_iff.mp hbefore
      obtain ⟨ho, hrest⟩ := List.forall_mem_cons.mp hall
      obtain ⟨inner, rfl, htargets, hpanels⟩ := Panel.exists_readable_lists ho (.inr h.ne_nil)
      have ho' := Panel.readable_with ho htargets (ih hpanels)
      exact readable_items_iff.mpr ⟨_, rfl, List.forall_mem_cons.mpr ⟨ho', hrest⟩⟩
  | later o _ ih =>
      obtain ⟨inner, rfl, hall⟩ := readable_items_iff.mp hbefore
      obtain ⟨ho, hrest⟩ := List.forall_mem_cons.mp hall
      obtain ⟨_, heq, hafter⟩ := readable_items_iff.mp
        (ih (readable_items_iff.mpr ⟨inner, rfl, hrest⟩))
      obtain rfl := Nat.add_right_cancel heq
      exact readable_items_iff.mpr ⟨inner, rfl, List.forall_mem_cons.mpr ⟨ho, hafter⟩⟩

end Panel

/-- A row with another panel in the place of one. -/
theorem Row.readable_replaced {depth : Nat} {row : Row} (h : Readable P ofJson? depth row)
    {p q : Panel} {n : Nat} {panels : List Panel}
    (hreplaced : Panel.Replaced p q row.panels n panels)
    (hq : ∀ depth, Readable P Panel.ofJson? depth p → Readable P Panel.ofJson? depth q) :
    Readable P ofJson? depth { row with panels := panels } := by
  obtain ⟨v, hv, hrow⟩ := h
  cases hv with
  | @obj depth m hkeys hmembers =>
      have hm := Json.Fits.obj hkeys hmembers
      simp only [ofJson?, Option.bind_eq_bind, Option.bind_eq_some_iff, Option.some.injEq] at hrow
      obtain ⟨_, hpanels, rfl⟩ := hrow
      obtain ⟨inner, rfl⟩ := Members.exists_depth_of_list hm hpanels hreplaced.ne_nil
      obtain ⟨w, hw, hread⟩ := hreplaced.readable hq (Members.readable_list hm hpanels)
      have hafter : Members.list? "panels" Panel.ofJson? (Members.set "panels" w m) = some panels :=
        (Members.defaulted?_set_self w m).trans hread
      refine ⟨_, hm.set hw "panels", ?_⟩
      rw [ofJson?, hafter, Members.without_set (by decide)]
      rfl
  | _ => cases hrow

/-! ## Template variables -/

namespace Template

theorem ofJson?_eq_some_iff {m : Members} {t : Template} : ofJson? (.obj m) = some t ↔
    Members.text? "name" m = some t.name ∧ Members.text? "label" m = some t.label ∧
    Members.text? "type" m = some t.kind ∧ Members.optionalValue "query" m = t.query ∧
    Members.optional? "datasource" Datasource.ofJson? m = some t.datasource ∧
    Members.flag? "multi" m = some t.multi ∧ Members.optionalText? "allValue" m = some t.allValue ∧
    Members.optional? "current" TemplateValue.ofJson? m = some t.current ∧
    Members.list? "options" TemplateValue.ofJson? m = some t.options ∧
    Members.optionalInt? "refresh" m = some t.refresh ∧ Members.without keys m = t.extra := by
  simp only [ofJson?, Option.bind_eq_bind, Option.bind_eq_some_iff, Option.some.injEq]
  constructor
  · rintro ⟨_, hname, _, hlabel, _, hkind, _, hdatasource, _, hmulti, _, hallValue, _, hcurrent, _,
      hoptions, _, hrefresh, rfl⟩
    exact ⟨hname, hlabel, hkind, rfl, hdatasource, hmulti, hallValue, hcurrent, hoptions, hrefresh,
      rfl⟩
  · rintro ⟨hname, hlabel, hkind, hquery, hdatasource, hmulti, hallValue, hcurrent, hoptions,
      hrefresh, hextra⟩
    exact ⟨_, hname, _, hlabel, _, hkind, _, hdatasource, _, hmulti, _, hallValue, _, hcurrent, _,
      hoptions, _, hrefresh, by rw [hquery, hextra]⟩

theorem readable_refresh {depth : Nat} {t : Template} (h : Readable P ofJson? depth t) {n : Int}
    (hread : (Json.ofInt n).int64? = some n) (hn : P (.int n)) :
    Readable P ofJson? depth { t with refresh := some n } := by
  obtain ⟨v, hv, ht⟩ := h
  cases hv with
  | @obj _ m hkeys hmembers =>
      have hm := Json.Fits.obj hkeys hmembers
      obtain ⟨hname, hlabel, hkind, hquery, hdatasource, hmulti, hallValue, hcurrent, hoptions, -,
        hextra⟩ := ofJson?_eq_some_iff.mp ht
      refine ⟨_, hm.set (.num hn) "refresh", ofJson?_eq_some_iff.mpr
        ⟨?_, ?_, ?_, ?_, ?_, ?_, ?_, ?_, ?_, ?_, ?_⟩⟩
      · simpa [Members.text?, Members.defaulted?_set] using hname
      · simpa [Members.text?, Members.defaulted?_set] using hlabel
      · simpa [Members.text?, Members.defaulted?_set] using hkind
      · simpa [Members.optionalValue_set] using hquery
      · simpa [Members.optional?_set] using hdatasource
      · simpa [Members.flag?, Members.defaulted?_set] using hmulti
      · simpa [Members.optionalText?, Members.optional?_set] using hallValue
      · simpa [Members.optional?_set] using hcurrent
      · simpa [Members.list?, Members.defaulted?_set] using hoptions
      · exact (Members.optional?_set_self rfl m).trans (congrArg _ hread)
      · simpa [Members.without_set, keys] using hextra
  | _ => cases ht

end Template

namespace Templating

theorem readable_list {depth : Nat} {t : Templating} (h : Readable P ofJson? (depth + 2) t) :
    Readable P (Json.items? Template.ofJson?) (depth + 1) t.list := by
  obtain ⟨v, hv, ht⟩ := h
  cases hv with
  | @obj _ m hkeys hmembers =>
      simp only [ofJson?, Option.bind_eq_bind, Option.bind_eq_some_iff, Option.some.injEq] at ht
      obtain ⟨_, hlist, rfl⟩ := ht
      exact Members.readable_list (Json.Fits.obj hkeys hmembers) hlist
  | _ => cases ht

theorem readable_with {depth : Nat} {t : Templating} (h : Readable P ofJson? (depth + 2) t)
    {list : List Template} (hlist' : Readable P (Json.items? Template.ofJson?) (depth + 1) list) :
    Readable P ofJson? (depth + 2) { t with list := list } := by
  obtain ⟨v, hv, ht⟩ := h
  obtain ⟨w, hw, hread⟩ := hlist'
  cases hv with
  | @obj _ m hkeys hmembers =>
      simp only [ofJson?, Option.bind_eq_bind, Option.bind_eq_some_iff, Option.some.injEq] at ht
      obtain ⟨_, -, rfl⟩ := ht
      have hafter : Members.list? "list" Template.ofJson? (Members.set "list" w m) = some list :=
        (Members.defaulted?_set_self w m).trans hread
      refine ⟨_, (Json.Fits.obj hkeys hmembers).set hw "list", ?_⟩
      rw [ofJson?, hafter, Members.without_set (by decide)]
      rfl
  | _ => cases ht

end Templating

/-! ## Dashboards -/

namespace Dashboard

theorem ofMembers?_eq_some_iff {m : Members} {d : Dashboard} : ofMembers? m = some d ↔
    Members.text? "title" m = some d.title ∧
    Members.optionalFlag? "editable" m = some d.editable ∧
    templatingOf? m = some d.templating ∧ Members.list? "rows" Row.ofJson? m = some d.rows ∧
    Members.list? "panels" Panel.ofJson? m = some d.panels ∧ Members.without keys m = d.extra ∧
    d.unit = "" ∧ d.source = none ∧ d.envelope = none := by
  simp only [ofMembers?, Option.bind_eq_bind, Option.bind_eq_some_iff, Option.some.injEq]
  constructor
  · rintro ⟨_, htitle, _, heditable, _, htemplating, _, hrows, _, hpanels, rfl⟩
    exact ⟨htitle, heditable, htemplating, hrows, hpanels, rfl, rfl, rfl, rfl⟩
  · rintro ⟨htitle, heditable, htemplating, hrows, hpanels, hextra, hunit, hsource, henvelope⟩
    refine ⟨_, htitle, _, heditable, _, htemplating, _, hrows, _, hpanels, ?_⟩
    rw [hextra, ← hunit, ← hsource, ← henvelope]

/-- The parts of a dashboard that can be read can be read themselves. -/
theorem readable_parts {depth : Nat} {d : Dashboard} (h : Readable P ofSpec? (depth + 3) d) :
    Readable P Templating.ofJson? (depth + 2) d.templating ∧
      Readable P (Json.items? Row.ofJson?) (depth + 2) d.rows ∧
      Readable P (Json.items? Panel.ofJson?) (depth + 2) d.panels := by
  obtain ⟨v, hv, hd⟩ := h
  cases hv with
  | @obj _ m hkeys hmembers =>
      have hm := Json.Fits.obj hkeys hmembers
      obtain ⟨-, -, htemplating, hrows, hpanels, -⟩ := ofMembers?_eq_some_iff.mp hd
      refine ⟨?_, Members.readable_list hm hrows, Members.readable_list hm hpanels⟩
      rw [templatingOf?, Members.defaulted?] at htemplating
      split at htemplating
      · rw [← Option.some.inj htemplating]
        exact ⟨.obj [], .obj List.nodup_nil (List.forall_mem_nil _), rfl⟩
      · next v hv => exact ⟨v, hm.get? _ v hv, htemplating⟩
  | _ => cases hd

/-- A dashboard with other template variables, rows and panels. -/
theorem readable_with {depth : Nat} {d : Dashboard} {templating : Templating} {rows : List Row}
    {panels : List Panel} (h : Readable P ofSpec? (depth + 3) d)
    (htemplating' : Readable P Templating.ofJson? (depth + 2) templating)
    (hrows' : Readable P (Json.items? Row.ofJson?) (depth + 2) rows)
    (hpanels' : Readable P (Json.items? Panel.ofJson?) (depth + 2) panels) :
    Readable P ofSpec? (depth + 3)
      { d with templating := templating, rows := rows, panels := panels } := by
  obtain ⟨v, hv, hd⟩ := h
  obtain ⟨w, hw, hwread⟩ := htemplating'
  obtain ⟨x, hx, hxread⟩ := hrows'
  obtain ⟨y, hy, hyread⟩ := hpanels'
  cases hv with
  | @obj _ m hkeys hmembers =>
      have hm := Json.Fits.obj hkeys hmembers
      obtain ⟨htitle, heditable, -, -, -, hextra, hplace⟩ := ofMembers?_eq_some_iff.mp hd
      refine ⟨_, ((hm.set hw "templating").set hx "rows").set hy "panels",
        ofMembers?_eq_some_iff.mpr ⟨?_, ?_, ?_, ?_, ?_, ?_, hplace⟩⟩
      · simpa [Members.text?, Members.defaulted?_set] using htitle
      · simpa [Members.optionalFlag?, Members.optional?_set] using heditable
      · simpa [templatingOf?, Members.defaulted?_set, Members.defaulted?_set_self] using hwread
      · simpa [Members.list?, Members.defaulted?_set, Members.defaulted?_set_self] using hxread
      · simpa [Members.list?, Members.defaulted?_set_self] using hyread
      · simpa [Members.without_set, keys] using hextra
  | _ => cases hd

theorem readable_editable {depth : Nat} {d : Dashboard} (h : Readable P ofSpec? depth d)
    (b : Bool) : Readable P ofSpec? depth { d with editable := some b } := by
  obtain ⟨v, hv, hd⟩ := h
  cases hv with
  | @obj _ m hkeys hmembers =>
      obtain ⟨htitle, -, htemplating, hrows, hpanels, hextra, hplace⟩ :=
        ofMembers?_eq_some_iff.mp hd
      refine ⟨_, (Json.Fits.obj hkeys hmembers).set (w := .bool b) .bool "editable",
        ofMembers?_eq_some_iff.mpr ⟨?_, ?_, ?_, ?_, ?_, ?_, hplace⟩⟩
      · simpa [Members.text?, Members.defaulted?_set] using htitle
      · exact Members.optional?_set_self rfl m
      · simpa [templatingOf?, Members.defaulted?_set] using htemplating
      · simpa [Members.list?, Members.defaulted?_set] using hrows
      · simpa [Members.list?, Members.defaulted?_set] using hpanels
      · simpa [Members.without_set, keys] using hextra
  | _ => cases hd

/-- A dashboard with another panel in the place of one. -/
theorem Replaced.readable {d d' : Dashboard} {i : Nat} {p q : Panel} (h : d.Replaced i p q d')
    (hq : ∀ depth, Readable P Panel.ofJson? depth p → Readable P Panel.ofJson? depth q)
    {depth : Nat} (hd : Readable P ofSpec? (depth + 3) d) : Readable P ofSpec? (depth + 3) d' := by
  obtain ⟨htemplating, hrows, hpanels⟩ := readable_parts hd
  cases h with
  | @inRow before after row n inner hbefore hi h =>
      obtain ⟨inner, hinner, hall⟩ := readable_items_iff.mp hrows
      obtain rfl : inner = depth + 1 := by omega
      rw [hbefore] at hall
      refine readable_with hd htemplating (readable_items_iff.mpr ⟨_, rfl, fun row' hrow' => ?_⟩)
        hpanels
      rcases List.mem_append.mp hrow' with hmem | hmem
      · exact hall row' (List.mem_append_left _ hmem)
      · rcases List.mem_cons.mp hmem with rfl | hmem
        · exact Row.readable_replaced (hall row (by simp)) h hq
        · exact hall row' (by simp [hmem])
  | besideRows hi h => exact readable_with hd htemplating hrows (h.readable hq hpanels)

/-- A dashboard with another template variable in the place of one. -/
theorem readable_set_template {depth : Nat} {d : Dashboard} {i : Nat} {t t' : Template}
    (h : Readable P ofSpec? (depth + 3) d) (ht : d.templates[i]? = some t)
    (ht' : ∀ inner, Readable P Template.ofJson? inner t → Readable P Template.ofJson? inner t') :
    Readable P ofSpec? (depth + 3) { d with templating :=
      { d.templating with list := d.templates.set i t' } } := by
  obtain ⟨htemplating, hrows, hpanels⟩ := readable_parts h
  have hlist := (Templating.readable_list htemplating).set_item ht ht'
  exact readable_with h (Templating.readable_with htemplating hlist) hrows hpanels

/-! ## Documents -/

/-- The dashboard without its envelope and without where it was loaded from. -/
def spec (d : Dashboard) : Dashboard := { d with unit := "", source := none, envelope := none }

/-- Some document is read as the dashboard, apart from where it was loaded from. -/
def Storable (P : Number → Prop) (d : Dashboard) : Prop :=
  ∃ value, value.Fits P Json.Outline.maxDepth ∧
    ofJson value = .ok { d with unit := "", source := none }

theorem extract_set {key : String} {m : Members} (hm : (m.map (·.1)).Nodup) {v : Json}
    (hv : Members.get? key m = some v) (w : Json) :
    extract key (Members.set key w m) = extract key m := by
  obtain ⟨front, rest, rfl⟩ := List.append_of_mem (Members.mem_of_get? hv)
  have hfront : key ∉ front.map (·.1) := by
    rw [List.map_append, List.map_cons, List.perm_middle.nodup_iff, List.nodup_cons] at hm
    exact fun hmem => hm.1 (List.mem_append_left _ hmem)
  rw [Members.set_append hfront, extract, extract, span_append hfront, span_append hfront]
  cases rest <;> rfl

/-- The version is told from the members without a field. -/
theorem get?_apiVersion_eq {m : Members} {d : Dashboard} (h : ofMembers? m = some d) :
    Members.get? "apiVersion" m = Members.get? "apiVersion" d.extra := by
  rw [(of_ofMembers? h).1, Members.get?_without, if_neg (by decide)]

theorem spec_eq_self {m : Members} {d : Dashboard} (h : ofMembers? m = some d) : d.spec = d := by
  obtain ⟨-, -, -, -, -, -, hunit, hsource, henvelope⟩ := ofMembers?_eq_some_iff.mp h
  rw [spec, ← hunit, ← hsource, ← henvelope]

theorem spec_of_envelope {d : Dashboard} (h : d.envelope = none) :
    ({ d with unit := "", source := none } : Dashboard) = d.spec := by
  rw [spec, ← h]

theorem exists_members_of_readable {depth : Nat} {d : Dashboard} (h : Readable P ofSpec? depth d) :
    ∃ m, (Json.obj m).Fits P depth ∧ ofMembers? m = some d := by
  obtain ⟨v, hv, hd⟩ := h
  cases v with
  | obj m => exact ⟨m, hv, hd⟩
  | _ => cases hd

/-- A change that the documents of dashboards can follow is one that resources can follow. -/
theorem Storable.of_readable {d d' : Dashboard} (h : Storable P d)
    (henvelope : d'.envelope = d.envelope) (hextra : d'.extra = d.extra)
    (hchange : ∀ depth, Readable P ofSpec? (depth + 3) d.spec →
      Readable P ofSpec? (depth + 3) d'.spec) : Storable P d' := by
  obtain ⟨value, hvalue, hd⟩ := h
  obtain ⟨m, rfl, ⟨hversion, hm⟩ | ⟨hversion, inner, e, hinner, he, heq⟩⟩ := ofJson_cases hd
  · have hnone : d.envelope = none := (of_ofMembers? hm).2
    rw [spec_of_envelope hnone] at hm
    obtain ⟨m', hfits, hm'⟩ := exists_members_of_readable (hchange 124 ⟨.obj m, hvalue, hm⟩)
    -- without a version the document is not taken for a resource
    have hversion' : Members.get? "apiVersion" m' = none := by
      have hsame : d'.spec.extra = d.spec.extra := hextra
      rw [get?_apiVersion_eq hm', hsame, ← get?_apiVersion_eq hm, hversion]
    refine ⟨.obj m', hfits, ?_⟩
    rw [spec_of_envelope (henvelope.trans hnone)]
    simp [ofJson, hversion', hm']
  · have hspec : d.spec = e := (congrArg spec heq).trans (spec_eq_self he)
    have hkept : d.envelope = some (extract "spec" m) := congrArg envelope heq
    rw [← hspec] at he
    obtain ⟨m', hfits, hm'⟩ := exists_members_of_readable
      (hchange 123 ⟨.obj inner, hvalue.get? "spec" _ hinner, he⟩)
    refine ⟨_, hvalue.set hfits "spec", ?_⟩
    have hresource : ofJson (.obj (Members.set "spec" (.obj m') m)) = .ok { d'.spec with
        envelope := some (extract "spec" (Members.set "spec" (.obj m') m)) } :=
      ofJson_resource (by simpa [Members.get?_set] using hversion) (by simp [Members.get?_set]) hm'
    cases hvalue with
    | obj hkeys _ =>
        rw [hresource, extract_set hkeys hinner, ← hkept, ← henvelope]
        rfl

/-- A storable dashboard is read back from the text that is written of it. -/
theorem Storable.ofText_eq {d : Dashboard} (h : Storable Number.ReadsBack d) :
    ofText (d.toText ++ "\n") = .ok { d with unit := "", source := none } := by
  obtain ⟨value, hvalue, hd⟩ := h
  obtain ⟨hback, hcarried⟩ := ofJson_toJson 123 hvalue hd
  have hsame : ({ d with unit := "", source := none } : Dashboard).toJson = d.toJson := rfl
  rw [hsame] at hback hcarried
  have hfits := hcarried.fits _ rfl
  have htokens : Json.tokens? (d.toText ++ "\n").toList = some d.toJson.tokens := by
    have hstops : Number.Stops ['\n'] := by
      rintro c ⟨⟩
      decide
    have hscans := hfits.scannable 0 hstops (.gap rfl .nil)
    rw [String.toList_append, toText, Json.pretty, String.toList_ofList]
    simpa using hscans.tokens?
  rw [ofText, hfits.parse?_of_tokens htokens]
  exact hback

end Dashboard

end BoardLint
