import BoardLint.Proofs.Dashboard.Fields

set_option autoImplicit false

/-! # Records of dashboard documents

Every record of a document is read back from what it is written as, and keeps the members it has no
field for: datasources, targets, panels with the panels inside them, rows, template variables and
the dashboard itself. -/

namespace BoardLint

open Json (Members Number)

variable {P : Number → Prop}

theorem Json.Fits.get? {depth : Nat} {m : Members} (h : (Json.obj m).Fits P (depth + 1))
    (key : String) : ∀ v ∈ Members.get? key m, v.Fits P depth := by
  cases h with
  | obj _ hmembers => exact fun v hv => hmembers _ (Members.mem_of_get? hv)

/-! ## Datasources and targets -/

namespace Datasource

theorem toJson_ref (uid kind : Option String) (extra : Members) :
    (ref uid kind extra).toJson = .obj (Members.ofFields
      [("uid", uid.map .str), ("type", kind.map .str)] ++ extra) := by
  simp [toJson, Members.ofFields]

theorem isNull_toJson (d : Datasource) : d.toJson.isNull = false := by
  cases d <;> rfl

theorem faithful (depth : Nat) : Faithful P .datasource ofJson? toJson depth := by
  refine ⟨fun {v d} hv hd => ?_⟩
  cases hv with
  | str =>
      cases hd
      exact ⟨rfl, .refl _ .str⟩
  | @obj _ m hkeys hmembers =>
      have hm := Json.Fits.obj hkeys hmembers
      have hread := hd
      simp only [ofJson?, Option.bind_eq_bind, Option.bind_eq_some_iff, Option.some.injEq] at hread
      obtain ⟨uid, huid, kind, hkind, rfl⟩ := hread
      have ruid := Members.restored_optionalText .plain (hm.get? _) huid
      have rkind := Members.restored_optionalText .plain (hm.get? _) hkind
      refine roundTrip_record hm hd (toJson_ref ..) rfl rfl ?_ fun n hn hextra => ?_
      · simp only [List.forall_mem_cons]
        exact ⟨ruid.carried, rkind.carried, nofun⟩
      · simp only [List.forall_mem_cons] at hn
        simp only [ofJson?, ruid.readsBack hn.1, rkind.readsBack hn.2.1, hextra]
  | _ => cases hd

end Datasource

namespace Target

theorem toJson_eq (t : Target) : t.toJson = .obj (Members.ofFields
    [("expr", written t.expr.isEmpty (.str t.expr)),
      ("datasource", t.datasource.map Datasource.toJson), ("refId", t.refId.map .str),
      ("hide", written (!t.hide) (.bool t.hide))] ++ t.extra) := by
  simp [toJson, Members.ofFields, Members.ofText, Members.ofFlag, Members.unlessDefault_eq]

theorem faithful (depth : Nat) : Faithful P .target ofJson? toJson depth := by
  refine ⟨fun {v t} hv ht => ?_⟩
  cases hv with
  | @obj _ m hkeys hmembers =>
      have hm := Json.Fits.obj hkeys hmembers
      have hread := ht
      simp only [ofJson?, Option.bind_eq_bind, Option.bind_eq_some_iff, Option.some.injEq] at hread
      obtain ⟨expr, hexpr, datasource, hdatasource, refId, hrefId, hide, hhide, rfl⟩ := hread
      have rexpr := Members.restored_text .plain (hm.get? _) hexpr
      have rdatasource := Members.restored_optional (Datasource.faithful _) (hm.get? _)
        Datasource.isNull_toJson hdatasource
      have rrefId := Members.restored_optionalText .plain (hm.get? _) hrefId
      have rhide := Members.restored_flag .plain (hm.get? _) hhide
      refine roundTrip_record hm ht (toJson_eq _) rfl rfl ?_ fun n hn hextra => ?_
      · simp only [List.forall_mem_cons]
        exact ⟨rexpr.carried, rdatasource.carried, rrefId.carried, rhide.carried, nofun⟩
      · simp only [List.forall_mem_cons] at hn
        obtain ⟨nexpr, ndatasource, nrefId, nhide, _⟩ := hn
        simp only [ofJson?, rexpr.readsBack nexpr, rdatasource.readsBack ndatasource,
          rrefId.readsBack nrefId, rhide.readsBack nhide, hextra]
  | _ => cases ht

end Target

/-! ## Panels and rows -/

namespace Panel

theorem itemsOf?_eq (items : List Json) : itemsOf? items = items.mapM ofJson? := by
  induction items with
  | nil => rfl
  | cons v items ih =>
      rw [itemsOf?, ih, List.mapM_cons]
      cases ofJson? v <;> cases items.mapM ofJson? <;> rfl

theorem listOf?_eq (v : Json) : listOf? v = Json.items? ofJson? v := by
  cases v with
  | arr items => rw [listOf?, itemsOf?_eq, Json.items?]
  | _ => simp [listOf?, Json.items?]

theorem panelsOf?_eq (m : Members) : panelsOf? m = Members.list? "panels" ofJson? m := by
  induction m with
  | nil => rfl
  | cons x m ih =>
      rw [panelsOf?, listOf?_eq, ih]
      by_cases hx : x.1 = "panels"
      · simp [Members.list?, Members.defaulted?, Members.get?, hx]
      · simp [Members.list?, Members.defaulted?, Members.get?, hx]

theorem ofJson?_obj (m : Members) :
    ofJson? (.obj m) = (Members.list? "panels" ofJson? m).bind (ofMembers? m) := by
  rw [ofJson?, panelsOf?_eq]
  cases Members.list? "panels" ofJson? m <;> rfl

theorem toJsons_eq (panels : List Panel) : toJsons panels = panels.map toJson := by
  induction panels with
  | nil => rfl
  | cons p panels ih => rw [toJsons, ih, List.map_cons]

theorem toJson_eq (p : Panel) : p.toJson = .obj (Members.ofFields
    [("id", p.id.map Json.ofInt), ("title", written p.title.isEmpty (.str p.title)),
      ("description", written p.description.isEmpty (.str p.description)),
      ("type", written p.kind.isEmpty (.str p.kind)),
      ("datasource", p.datasource.map Datasource.toJson),
      ("targets", written (p.targets.map Target.toJson).isEmpty
        (.arr (p.targets.map Target.toJson))),
      ("panels", written (p.panels.map toJson).isEmpty (.arr (p.panels.map toJson)))] ++
    p.extra) := by
  cases p
  simp only [toJson, toJsons_eq, Members.ofFields, Members.ofText, Members.ofList,
    Members.unlessDefault_eq, List.flatMap_cons, List.flatMap_nil, List.append_assoc,
    List.nil_append]

theorem faithful (depth : Nat) : Faithful P .panel ofJson? toJson depth := by
  induction depth using Nat.strongRecOn with
  | ind depth ih =>
      refine ⟨fun {v p} hv hp => ?_⟩
      cases hv with
      | @obj depth m hkeys hmembers =>
          have hm := Json.Fits.obj hkeys hmembers
          have hread := hp
          simp only [ofJson?_obj, ofMembers?, Option.bind_eq_bind, Option.bind_eq_some_iff,
            Option.some.injEq] at hread
          obtain ⟨panels, hpanels, id, hid, title, htitle, description, hdescription, kind, hkind,
            datasource, hdatasource, targets, htargets, rfl⟩ := hread
          have rid := Members.restored_optionalInt .plain (hm.get? _) hid
          have rtitle := Members.restored_text .plain (hm.get? _) htitle
          have rdescription := Members.restored_text .plain (hm.get? _) hdescription
          have rkind := Members.restored_text .plain (hm.get? _) hkind
          have rdatasource := Members.restored_optional (Datasource.faithful _) (hm.get? _)
            Datasource.isNull_toJson hdatasource
          have rtargets := Members.restored_list .target (hm.get? _)
            (fun inner _ => Target.faithful inner) htargets
          -- the panels inside stand two levels deeper, so there is less depth left for them
          have rpanels := Members.restored_list .panel (hm.get? _)
            (fun inner hinner => ih inner (by omega)) hpanels
          refine roundTrip_record hm hp (toJson_eq _) rfl rfl ?_ fun n hn hextra => ?_
          · simp only [List.forall_mem_cons]
            exact ⟨rid.carried, rtitle.carried, rdescription.carried, rkind.carried,
              rdatasource.carried, rtargets.carried, rpanels.carried, nofun⟩
          · simp only [List.forall_mem_cons] at hn
            obtain ⟨nid, ntitle, ndescription, nkind, ndatasource, ntargets, npanels, _⟩ := hn
            have hmembers : ofMembers? n = ofMembers? m := by
              funext panels
              simp only [ofMembers?, rid.readsBack nid, rtitle.readsBack ntitle,
                rdescription.readsBack ndescription, rkind.readsBack nkind,
                rdatasource.readsBack ndatasource, rtargets.readsBack ntargets, hextra]
            rw [ofJson?_obj, ofJson?_obj, rpanels.readsBack npanels, hmembers]
      | _ => simp [ofJson?] at hp

end Panel

namespace Row

theorem toJson_eq (r : Row) : r.toJson = .obj (Members.ofFields
    [("panels", written (r.panels.map Panel.toJson).isEmpty
        (.arr (r.panels.map Panel.toJson)))] ++ r.extra) := by
  simp only [toJson, Members.ofFields, Members.ofList, Members.unlessDefault_eq,
    List.flatMap_cons, List.flatMap_nil, List.append_nil]

theorem faithful (depth : Nat) : Faithful P .row ofJson? toJson depth := by
  refine ⟨fun {v r} hv hr => ?_⟩
  cases hv with
  | @obj _ m hkeys hmembers =>
      have hm := Json.Fits.obj hkeys hmembers
      have hread := hr
      simp only [ofJson?, Option.bind_eq_bind, Option.bind_eq_some_iff, Option.some.injEq] at hread
      obtain ⟨panels, hpanels, rfl⟩ := hread
      have rpanels := Members.restored_list .panel (hm.get? _)
        (fun inner _ => Panel.faithful inner) hpanels
      refine roundTrip_record hm hr (toJson_eq _) rfl rfl ?_ fun n hn hextra => ?_
      · simp only [List.forall_mem_cons]
        exact ⟨rpanels.carried, nofun⟩
      · simp only [List.forall_mem_cons] at hn
        simp only [ofJson?, rpanels.readsBack hn.1, hextra]
  | _ => cases hr

end Row

/-! ## Templates -/

namespace TemplateValue

theorem toJson_eq (t : TemplateValue) : t.toJson = .obj (Members.ofFields
    [("text", t.text), ("value", t.value)] ++ t.extra) := by
  simp [toJson, Members.ofFields]

theorem faithful (depth : Nat) : Faithful P .templateValue ofJson? toJson depth := by
  refine ⟨fun {v t} hv ht => ?_⟩
  cases hv with
  | @obj _ m hkeys hmembers =>
      have hm := Json.Fits.obj hkeys hmembers
      have hread := ht
      simp only [ofJson?, Option.some.injEq] at hread
      subst hread
      have rtext := Members.restored_optionalValue .plain (hm.get? "text")
      have rvalue := Members.restored_optionalValue .plain (hm.get? "value")
      refine roundTrip_record hm ht (toJson_eq _) rfl rfl ?_ fun n hn hextra => ?_
      · simp only [List.forall_mem_cons]
        exact ⟨rtext.carried, rvalue.carried, nofun⟩
      · simp only [List.forall_mem_cons] at hn
        simp only [ofJson?, rtext.readsBack hn.1, rvalue.readsBack hn.2.1, hextra]
  | _ => cases ht

end TemplateValue

namespace Template

theorem toJson_eq (t : Template) : t.toJson = .obj (Members.ofFields
    [("name", written t.name.isEmpty (.str t.name)),
      ("label", written t.label.isEmpty (.str t.label)),
      ("type", written t.kind.isEmpty (.str t.kind)), ("query", t.query),
      ("datasource", t.datasource.map Datasource.toJson),
      ("multi", written (!t.multi) (.bool t.multi)),
      ("allValue", t.allValue.map .str), ("current", t.current.map TemplateValue.toJson),
      ("options", written (t.options.map TemplateValue.toJson).isEmpty
        (.arr (t.options.map TemplateValue.toJson))),
      ("refresh", t.refresh.map Json.ofInt)] ++ t.extra) := by
  simp only [toJson, Members.ofFields, Members.ofText, Members.ofFlag, Members.ofList,
    Members.unlessDefault_eq, List.flatMap_cons, List.flatMap_nil, List.append_assoc,
    List.nil_append]

theorem faithful (depth : Nat) : Faithful P .template ofJson? toJson depth := by
  refine ⟨fun {v t} hv ht => ?_⟩
  cases hv with
  | @obj _ m hkeys hmembers =>
      have hm := Json.Fits.obj hkeys hmembers
      have hread := ht
      simp only [ofJson?, Option.bind_eq_bind, Option.bind_eq_some_iff, Option.some.injEq] at hread
      obtain ⟨name, hname, label, hlabel, kind, hkind, datasource, hdatasource, multi, hmulti,
        allValue, hallValue, current, hcurrent, options, hoptions, refresh, hrefresh, rfl⟩ := hread
      have rname := Members.restored_text .plain (hm.get? _) hname
      have rlabel := Members.restored_text .plain (hm.get? _) hlabel
      have rkind := Members.restored_text .plain (hm.get? _) hkind
      have rquery := Members.restored_optionalValue .plain (hm.get? "query")
      have rdatasource := Members.restored_optional (Datasource.faithful _) (hm.get? _)
        Datasource.isNull_toJson hdatasource
      have rmulti := Members.restored_flag .plain (hm.get? _) hmulti
      have rallValue := Members.restored_optionalText .plain (hm.get? _) hallValue
      have rcurrent := Members.restored_optional (TemplateValue.faithful _) (hm.get? _)
        (fun _ => rfl) hcurrent
      have roptions := Members.restored_list .templateValue (hm.get? _)
        (fun inner _ => TemplateValue.faithful inner) hoptions
      have rrefresh := Members.restored_optionalInt .plain (hm.get? _) hrefresh
      refine roundTrip_record hm ht (toJson_eq _) rfl rfl ?_ fun n hn hextra => ?_
      · simp only [List.forall_mem_cons]
        exact ⟨rname.carried, rlabel.carried, rkind.carried, rquery.carried, rdatasource.carried,
          rmulti.carried, rallValue.carried, rcurrent.carried, roptions.carried, rrefresh.carried,
          nofun⟩
      · simp only [List.forall_mem_cons] at hn
        obtain ⟨nname, nlabel, nkind, nquery, ndatasource, nmulti, nallValue, ncurrent, noptions,
          nrefresh, _⟩ := hn
        simp only [ofJson?, rname.readsBack nname, rlabel.readsBack nlabel, rkind.readsBack nkind,
          rquery.readsBack nquery, rdatasource.readsBack ndatasource, rmulti.readsBack nmulti,
          rallValue.readsBack nallValue, rcurrent.readsBack ncurrent, roptions.readsBack noptions,
          rrefresh.readsBack nrefresh, hextra]
  | _ => cases ht

end Template

namespace Templating

theorem toJson_eq (t : Templating) : t.toJson = .obj (Members.ofFields
    [("list", some (.arr (t.list.map Template.toJson)))] ++ t.extra) := rfl

/-- The list is written even where there was none, which takes one more level of depth. -/
theorem faithful (depth : Nat) : Faithful P .templating ofJson? toJson (depth + 2) := by
  refine ⟨fun {v t} hv ht => ?_⟩
  cases hv with
  | @obj _ m hkeys hmembers =>
      have hm := Json.Fits.obj hkeys hmembers
      have hread := ht
      simp only [ofJson?, Option.bind_eq_bind, Option.bind_eq_some_iff, Option.some.injEq] at hread
      obtain ⟨list, hlist, rfl⟩ := hread
      have rlist : Restored P (depth + 1) .template "list" (Members.list? "list" Template.ofJson?) m
          (some (.arr (list.map Template.toJson))) := by
        refine Members.restored_defaulted (faithful_items fun inner _ => Template.faithful inner)
          (hm.get? _) (fun _ => false) nofun (fun _ => nofun) (fun _ => ?_) hlist
        exact ⟨rfl, .arr nofun⟩
      refine roundTrip_record hm ht (toJson_eq _) rfl rfl ?_ fun n hn hextra => ?_
      · simp only [List.forall_mem_cons]
        exact ⟨rlist.carried, nofun⟩
      · simp only [List.forall_mem_cons] at hn
        simp only [ofJson?, rlist.readsBack hn.1, hextra]
  | _ => cases ht

theorem eq_of_isEmpty {t : Templating} (h : t.isEmpty = true) : t = ⟨[], []⟩ := by
  cases t
  simpa [isEmpty] using h

/-- Nothing stands in a value without template variables that is not a field. -/
theorem keeps_of_empty {v : Json} (h : ofJson? v = some ⟨[], []⟩) : Keeps .templating v none := by
  cases v with
  | obj m =>
      simp only [ofJson?, Option.bind_eq_bind, Option.bind_eq_some_iff, Option.some.injEq] at h
      obtain ⟨list, hlist, heq⟩ := h
      obtain ⟨rfl, hextra⟩ := Templating.mk.inj heq
      refine .obj (fun k v hk hv => ?_) fun k v hk hv => ?_
      · have hnone := Members.get?_without Kind.templating.keys k m
        rw [if_neg hk, hv] at hnone
        cases (congrArg (Members.get? k) hextra).symm.trans hnone
      · obtain rfl := List.mem_singleton.mp hk
        rw [Members.list?, Members.defaulted?, hv] at hlist
        exact .of_items? hlist _ _
  | _ => cases h

end Templating

/-! ## Dashboards -/

namespace Dashboard

/-- The dashboard of a value, outside of any resource. -/
def ofSpec? (v : Json) : Option Dashboard := v.obj?.bind ofMembers?

/-- A dashboard as a value, outside of any resource. -/
def toSpec (d : Dashboard) : Json := .obj d.toMembers

theorem toSpec_eq (d : Dashboard) : d.toSpec = .obj (Members.ofFields
    [("title", some (.str d.title)), ("editable", d.editable.map .bool),
      ("templating", written d.templating.isEmpty d.templating.toJson),
      ("rows", written (d.rows.map Row.toJson).isEmpty (.arr (d.rows.map Row.toJson))),
      ("panels", written (d.panels.map Panel.toJson).isEmpty
        (.arr (d.panels.map Panel.toJson)))] ++ d.extra) := by
  simp only [toSpec, toMembers, Members.ofFields, Members.ofList, Members.unlessDefault_eq,
    List.flatMap_cons, List.flatMap_nil, List.append_assoc, List.nil_append]
  rfl

theorem faithful (depth : Nat) :
    Faithful P .dashboard ofSpec? toSpec (depth + 3) := by
  refine ⟨fun {v d} hv hd => ?_⟩
  cases hv with
  | @obj _ m hkeys hmembers =>
      have hm := Json.Fits.obj hkeys hmembers
      have hread : ofMembers? m = some d := hd
      simp only [ofMembers?, Option.bind_eq_bind, Option.bind_eq_some_iff, Option.some.injEq]
        at hread
      obtain ⟨title, htitle, editable, heditable, templating, htemplating, rows, hrows, panels,
        hpanels, rfl⟩ := hread
      have rtitle := Members.restored_text_written .plain (hm.get? _) htitle
      have reditable := Members.restored_optionalFlag .plain (hm.get? _) heditable
      have rtemplating : Restored P (depth + 2) .templating "templating" templatingOf? m _ :=
        Members.restored_defaulted (Templating.faithful depth) (hm.get? _) Templating.isEmpty
          Templating.eq_of_isEmpty (fun hv _ => Templating.keeps_of_empty hv) nofun htemplating
      have rrows := Members.restored_list .row (hm.get? _) (fun inner _ => Row.faithful inner) hrows
      have rpanels := Members.restored_list .panel (hm.get? _)
        (fun inner _ => Panel.faithful inner) hpanels
      refine roundTrip_record hm hd (toSpec_eq _) rfl rfl ?_ fun n hn hextra => ?_
      · simp only [List.forall_mem_cons]
        exact ⟨rtitle.carried, reditable.carried, rtemplating.carried, rrows.carried,
          rpanels.carried, nofun⟩
      · simp only [List.forall_mem_cons] at hn
        obtain ⟨ntitle, neditable, ntemplating, nrows, npanels, _⟩ := hn
        simp only [ofSpec?, Json.obj?, Option.bind_some, ofMembers?, rtitle.readsBack ntitle,
          reditable.readsBack neditable, rtemplating.readsBack ntemplating,
          rrows.readsBack nrows, rpanels.readsBack npanels, hextra]
  | _ => cases hd

end Dashboard

end BoardLint
