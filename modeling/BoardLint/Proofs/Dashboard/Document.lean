import BoardLint.Proofs.Dashboard.Records
import Mathlib.Data.List.TakeDrop

set_option autoImplicit false

/-! # Dashboards through their documents

A dashboard that was read from a text is written as a text from which the same dashboard is read,
and nothing is lost that no record has a field for. A resource has its envelope around the
dashboard: its `spec` is taken out where it is read and set again where it is written. -/

namespace BoardLint

open Json (Members Number)

variable {P : Number → Prop}

namespace Dashboard

/-! ## Resources -/

theorem span_append {key : String} {front : Members} (h : key ∉ front.map (·.1)) (v : Json)
    (rest : Members) :
    (front ++ (key, v) :: rest).span (fun x => x.1 != key) = (front, (key, v) :: rest) := by
  have hfront : ∀ x ∈ front, (x.1 != key) = true := by
    intro x hx
    rw [bne_iff_ne]
    rintro rfl
    exact h (List.mem_map_of_mem hx)
  rw [List.span_eq_takeWhile_dropWhile, List.takeWhile_append_of_pos hfront,
    List.dropWhile_append_of_pos hfront]
  simp

theorem extract_append {key : String} {front : Members} (h : key ∉ front.map (·.1)) (v : Json)
    (rest : Members) : (extract key (front ++ (key, v) :: rest)).Perm (front ++ rest) := by
  unfold extract
  rw [span_append h]
  rcases List.eq_nil_or_concat rest with rfl | ⟨init, last, rfl⟩
  · simp
  · have hlast : (last :: init).Perm (init ++ [last]) := (List.perm_append_singleton _ _).symm
    cases init with
    | nil => simp
    | cons x init =>
        have hgetLast : (x :: (init ++ [last])).getLast? = some last := by
          rw [← List.cons_append, List.getLast?_concat]
        have hdropLast : (x :: (init ++ [last])).dropLast = x :: init := by
          rw [← List.cons_append, List.dropLast_concat]
        simp only [List.concat_eq_append, List.cons_append, hgetLast, hdropLast]
        exact hlast.append_left front

theorem extract_concat {key : String} {m : Members} (h : key ∉ m.map (·.1)) (v : Json) :
    extract key (m ++ [(key, v)]) = m := by
  unfold extract
  rw [span_append h]

/-- Taking a member out and setting it again changes its place and its value only. -/
theorem set_extract_perm {key : String} {m : Members} (hm : (m.map (·.1)).Nodup) {v : Json}
    (hv : Members.get? key m = some v) (w : Json) :
    key ∉ (extract key m).map (·.1) ∧
      (Members.set key w (extract key m)).Perm (Members.set key w m) := by
  obtain ⟨front, rest, rfl⟩ := List.append_of_mem (Members.mem_of_get? hv)
  have hnodup := (List.perm_middle.map _).nodup hm
  rw [List.map_cons, List.nodup_cons, List.map_append, List.mem_append, not_or] at hnodup
  have hperm := extract_append hnodup.1.1 v rest
  have hkey : key ∉ (extract key (front ++ (key, v) :: rest)).map (·.1) := by
    rw [(hperm.map _).mem_iff, List.map_append, List.mem_append, not_or]
    exact hnodup.1
  refine ⟨hkey, ?_⟩
  rw [Members.set_of_notMem hkey, Members.set_append hnodup.1.1]
  exact (hperm.append_right _).trans
    ((List.perm_append_singleton _ _).trans List.perm_middle.symm)

theorem of_ofMembers? {m : Members} {d : Dashboard} (h : ofMembers? m = some d) :
    d.extra = Members.without keys m ∧ d.envelope = none := by
  simp only [ofMembers?, Option.bind_eq_bind, Option.bind_eq_some_iff, Option.some.injEq] at h
  obtain ⟨_, _, _, _, _, _, _, _, _, _, rfl⟩ := h
  exact ⟨rfl, rfl⟩

/-- The version is no field of a dashboard, so none is written where none was read. -/
theorem get?_apiVersion {m : Members} {d : Dashboard} (h : ofMembers? m = some d) :
    Members.get? "apiVersion" d.toMembers = Members.get? "apiVersion" m := by
  have heq := Json.obj.inj (toSpec_eq d)
  rw [(of_ofMembers? h).1] at heq
  rw [heq]
  exact Members.get?_record_of_notMem rfl (show "apiVersion" ∉ keys by decide)

/-- The two forms of a document: a dashboard, and a resource with a dashboard in it. -/
theorem ofJson_cases {value : Json} {d : Dashboard} (h : ofJson value = .ok d) :
    ∃ m, value = .obj m ∧
      (Members.get? "apiVersion" m = none ∧ ofMembers? m = some d ∨
        (Members.get? "apiVersion" m).isSome ∧ ∃ spec inner,
          Members.get? "spec" m = some (.obj spec) ∧ ofMembers? spec = some inner ∧
            d = { inner with envelope := some (extract "spec" m) }) := by
  cases value with
  | obj m =>
      refine ⟨m, rfl, ?_⟩
      rw [ofJson] at h
      split at h
      · next hversion =>
        split at h
        · next spec hspec =>
          split at h
          · next inner hinner => exact .inr ⟨hversion, spec, inner, hspec, hinner, by cases h; rfl⟩
          · cases h
        · cases h
      · next hversion =>
        split at h
        · next hd => exact .inl ⟨by simpa using hversion, by cases h; exact hd⟩
        · cases h
  | _ => cases h

theorem ofJson_resource {m spec : Members} {d : Dashboard}
    (hversion : (Members.get? "apiVersion" m).isSome)
    (hspec : Members.get? "spec" m = some (.obj spec)) (hd : ofMembers? spec = some d) :
    ofJson (.obj m) = .ok { d with envelope := some (extract "spec" m) } := by
  simp [ofJson, hversion, hspec, hd]

/-- A resource is written with its envelope around the dashboard. -/
theorem resource_roundTrip {depth : Nat} {m spec : Members} {d : Dashboard}
    (hm : (Json.obj m).Fits P (depth + 4)) (hversion : (Members.get? "apiVersion" m).isSome)
    (hspec : Members.get? "spec" m = some (.obj spec)) (hd : ofMembers? spec = some d) :
    let written := Json.obj (Members.set "spec" d.toSpec (extract "spec" m))
    ofJson written = .ok { d with envelope := some (extract "spec" m) } ∧
      Carried P (depth + 4) .resource (some (.obj m)) (some written) := by
  obtain ⟨hback, hcarried⟩ := (faithful depth).roundTrip (hm.get? "spec" _ hspec) hd
  cases hm with
  | obj hkeys hmembers =>
      -- up to order, what is written is what was read with another `spec`
      obtain ⟨hnotMem, hperm⟩ := set_extract_perm hkeys hspec d.toSpec
      have hnodup := Members.nodup_set hkeys "spec" d.toSpec
      have hget : ∀ k, Members.get? k (Members.set "spec" d.toSpec (extract "spec" m)) =
          if "spec" = k then some d.toSpec else Members.get? k m := by
        intro k
        rw [← Members.get?_set, ← Members.get?_perm hnodup hperm.symm]
      have hextract : extract "spec" (Members.set "spec" d.toSpec (extract "spec" m)) =
          extract "spec" m := by
        rw [Members.set_of_notMem hnotMem, extract_concat hnotMem]
      refine ⟨?_, ?_, ?_⟩
      · rw [ofJson_resource (by rwa [hget]) (hget "spec") hback, hextract]
      · rintro _ ⟨⟩
        refine .obj ((hperm.map _).symm.nodup hnodup) fun x hx => ?_
        rcases Members.mem_of_mem_set (hperm.subset hx) with rfl | hx
        · exact hcarried.fits _ rfl
        · exact hmembers x hx
      · rintro _ ⟨⟩
        refine .obj (fun k v hk hv => ?_) fun k v hk hv => ?_
        · have hne : "spec" ≠ k := fun h => hk (List.mem_singleton.mpr h.symm)
          exact (hget k).trans ((if_neg hne).trans hv)
        · obtain rfl := List.mem_singleton.mp hk
          obtain rfl := Option.some.inj (hspec.symm.trans hv)
          have hkept := hcarried.keeps _ rfl
          rw [← (hget "spec").trans (if_pos rfl)] at hkept
          exact hkept

/-- What is written of a document is read back, and it carries the document over. -/
theorem ofJson_toJson (depth : Nat) {value : Json} {d : Dashboard}
    (hvalue : value.Fits P (depth + 4)) (hd : ofJson value = .ok d) :
    ofJson d.toJson = .ok d ∧
      Carried P (depth + 4) (Kind.ofDocument value) (some value) (some d.toJson) := by
  obtain ⟨m, rfl, ⟨hversion, hm⟩ | ⟨hversion, spec, inner, hspec, hinner, rfl⟩⟩ := ofJson_cases hd
  · have hkind : Kind.ofDocument (.obj m) = .dashboard := by
      simp [Kind.ofDocument, Json.get?, hversion]
    have hwrite : d.toJson = d.toSpec := by
      rw [toJson, (of_ofMembers? hm).2, toSpec]
    obtain ⟨hback, hcarried⟩ := (faithful (depth + 1)).roundTrip hvalue hm
    rw [hkind, hwrite]
    refine ⟨?_, hcarried⟩
    -- without a version the text that is written is not taken for a resource
    have hback : ofMembers? d.toMembers = some d := hback
    simp [toSpec, ofJson, get?_apiVersion hm, hversion, hback]
  · have hkind : Kind.ofDocument (.obj m) = .resource := if_pos hversion
    rw [hkind]
    exact resource_roundTrip (d := inner) hvalue hversion hspec hinner

/-- **A document survives reading and writing.** The text that is written of a dashboard is read as
    the same dashboard, its envelope and every member without a field included, so writing it again
    gives the same text. Every member of the document that is not a field of its record is a member
    of the value that is written, at the same place and with the same value. That a double is read
    back from its own text is assumed; for whole numbers it is a fact. The value of a text has every
    key once: of a repeated key the last value counts. -/
theorem ofText_toText {text : String} {value : Json} {d : Dashboard}
    (hvalue : Json.parse? text = some value) (hd : ofText text = .ok d)
    (hdoubles : ∀ x, .real x ∈ value.numbers → (Number.real x).ReadsBack) :
    ofText d.toText = .ok d ∧ (ofText d.toText).map toText = .ok d.toText ∧
      Json.parse? d.toText = some d.toJson ∧
      ∀ (path : List Json.Step) (key : String) (x : Json),
        value.at? (path ++ [.key key]) = some x →
        key ∉ ((Kind.ofDocument value).along path).keys →
        d.toJson.at? (path ++ [.key key]) = some x := by
  have hfits : value.Fits Number.ReadsBack Json.Outline.maxDepth := by
    refine (Json.fits_of_parse? hvalue).of_numbers fun n hn hrepresented => ?_
    cases n with
    | int n => exact Number.readsBack_int hrepresented
    | real x => exact hdoubles x hn
  have hjson : ofJson value = .ok d := by
    rw [← hd, ofText, hvalue]
  -- four levels of the depth are for the resource, the dashboard, `templating` and its list
  obtain ⟨hback, hcarried⟩ := ofJson_toJson 123 hfits hjson
  have hparse : Json.parse? d.toText = some d.toJson := (hcarried.fits _ rfl).parse?_pretty
  have hread : ofText d.toText = .ok d := by
    rw [ofText, hparse]
    exact hback
  exact ⟨hread, by rw [hread]; rfl, hparse, hcarried.keeps value rfl⟩

/-- A resource with a panel inside a row: what the panel has no field for stays in its place. -/
theorem ofText_toText_resource :
    let text := "\x7b\"apiVersion\":\"v1\",\"spec\":\x7b\"rows\":[\x7b\"panels\":[\x7b\"id\":3," ++
      "\"gridPos\":\x7b\"x\":0.5,\"unit\":\"h\"\x7d\x7d]\x7d]\x7d,\"kind\":\"Dashboard\"\x7d"
    ∃ value d, Json.parse? text = some value ∧ ofText text = .ok d ∧ ofText d.toText = .ok d ∧
      d.toJson.at? [.key "spec", .key "rows", .item 0, .key "panels", .item 0, .key "gridPos",
        .key "unit"] = some (.str "h") := by
  intro text
  have hok : (ofText text).isOk := by decide +kernel
  have hnumbers : ∀ n ∈ ((Json.parse? text).map Json.numbers).getD [], n.ReadsBack := by
    decide +kernel
  have hkind : (Json.parse? text).map Kind.ofDocument = some .resource := by decide +kernel
  have hunit : ((Json.parse? text).bind (Json.at? [.key "spec", .key "rows", .item 0,
      .key "panels", .item 0, .key "gridPos", .key "unit"])).bind Json.str? = some "h" := by
    decide +kernel
  obtain ⟨value, hvalue, hkind⟩ := Option.map_eq_some_iff.mp hkind
  cases hd : ofText text with
  | error => simp [hd, Except.isOk, Except.toBool] at hok
  | ok d =>
      simp only [hvalue, Option.map_some, Option.getD_some, Option.bind_some] at hnumbers hunit
      obtain ⟨unit, hplace, hunit⟩ := Option.bind_eq_some_iff.mp hunit
      obtain ⟨hread, _, _, hkept⟩ := ofText_toText hvalue hd fun x hx => hnumbers _ hx
      refine ⟨value, d, hvalue, rfl, hread, ?_⟩
      rw [hkind] at hkept
      rw [← Json.eq_of_str? hunit]
      exact hkept [.key "spec", .key "rows", .item 0, .key "panels", .item 0, .key "gridPos"] "unit"
        unit hplace (by decide)

end Dashboard

end BoardLint
