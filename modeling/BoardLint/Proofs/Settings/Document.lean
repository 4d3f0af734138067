import BoardLint.Proofs.Dashboard.Fields
import BoardLint.Proofs.Json.Outline
import BoardLint.Proofs.KeyMap
import BoardLint.Settings.Document

set_option autoImplicit false

/-! # Settings are read back

What is written of settings and of overrides is read back as it was. A record leaves out what its
reader has a default for, a rule without occurrences stays apart from one with none, and the
overrides of a project are told from the sections beside them by their names. -/

namespace BoardLint

open Json (Members Number Outline)

/-! ## Members of a record -/

namespace Json.Members

theorem find?_eq_get? (key : String) (m : Members) : KeyMap.find? key m = get? key m := by
  induction m with
  | nil => rfl
  | cons x m ih => simp [KeyMap.find?, get?, ih]

theorem ofOption_map {α : Type} (key : String) (write : α → Json) (o : Option α) :
    (o.map fun a => (key, write a)).toList = ofOption key (o.map write) := by
  cases o <;> rfl

theorem ofOption_written (key : String) (isDefault : Bool) (value : Json) :
    (if isDefault then [] else [(key, value)]) = ofOption key (written isDefault value) :=
  unlessDefault_eq key isDefault value

theorem ofFields_nil : ofFields [] = [] := rfl

theorem filter_ofFields (p : String → Bool) (fields : List (String × Option Json)) :
    (ofFields fields).filter (fun m => p m.1) = ofFields (fields.filter fun f => p f.1) := by
  induction fields with
  | nil => rfl
  | cons f fields ih =>
      obtain ⟨k, o⟩ := f
      rw [ofFields_cons, List.filter_append, ih, List.filter_cons]
      cases hk : p k <;> cases o <;> simp [ofOption, ofFields_cons, hk]

end Json.Members

namespace Source

theorem mapM_map {α β : Type} {write : α → β} {read : β → Option α}
    (h : ∀ a, read (write a) = some a) (as : List α) : (as.map write).mapM read = some as := by
  induction as with
  | nil => rfl
  | cons a as ih => simp [h, ih]

theorem listOf?_map {α : Type} {write : α → Json} {read : Json → Option α}
    (h : ∀ a, read (write a) = some a) (as : List α) :
    json.listOf? read (.arr (as.map write)) = some as :=
  mapM_map h as

theorem optional?_map {α : Type} {write : α → Json} {read : Json → Option α}
    (hnull : ∀ a, (write a).isNull = false) (h : ∀ a, read (write a) = some a) (a : α) :
    json.optional? read (write a) = some (some a) := by
  simp [optional?, json, hnull, h]

theorem select?_ofFields (names : List String) {fields : List (String × Option Json)}
    (hnodup : (fields.map (·.1)).Nodup) :
    select? names (Members.ofFields fields) =
      some (Members.ofFields (fields.filter fun f => names.contains f.1)) := by
  have hknown := Members.filter_ofFields names.contains fields
  have hkeys := (Members.keys_ofFields_sublist (fields.filter fun f => names.contains f.1)).trans
    (List.filter_sublist.map _)
  simp only [select?]
  rw [hknown, if_pos (hnodup.sublist hkeys)]

/-- All the fields of a record are found in what is written of it. -/
theorem fields?_ofFields {names : List String} {fields : List (String × Option Json)}
    (hnames : fields.map (·.1) = names) (hnodup : names.Nodup) :
    json.fields? names (.obj (Members.ofFields fields)) = some (Members.ofFields fields) := by
  subst hnames
  have hall : fields.filter (fun f => (fields.map (·.1)).contains f.1) = fields := by
    refine List.filter_eq_self.mpr fun f hf => ?_
    simpa using ⟨f.2, hf⟩
  exact (select?_ofFields _ hnodup).trans (by rw [hall])

section

variable {fields : List (String × Option Json)} (hnodup : (fields.map (·.1)).Nodup) {name : String}
  {α : Type} {read : Json → Option α} {write : α → Json}
include hnodup

theorem field?_ofFields {o : Option Json} (h : (name, o) ∈ fields) (default : α) :
    field? (Members.ofFields fields) name read default = o.elim (some default) read := by
  rw [field?, Members.find?_eq_get?, Members.get?_ofFields hnodup h]
  cases o <;> rfl

/-- A field that is always written. -/
theorem field?_some {v : Json} {a : α} (h : (name, some v) ∈ fields) (hread : read v = some a)
    (default : α) : field? (Members.ofFields fields) name read default = some a :=
  (field?_ofFields hnodup h default).trans hread

/-- A field that is left out when it has its default. -/
theorem field?_written {v : Json} {a default : α} {isDefault : Bool}
    (h : (name, written isDefault v) ∈ fields) (hdefault : isDefault = true → a = default)
    (hread : read v = some a) : field? (Members.ofFields fields) name read default = some a := by
  rw [field?_ofFields hnodup h]
  cases isDefault with
  | true => exact congrArg some (hdefault rfl).symm
  | false => exact hread

/-- A field that is left out when it is not set. -/
theorem field?_map {o : Option α} (h : (name, o.map write) ∈ fields)
    (hnull : ∀ a, (write a).isNull = false) (hread : ∀ a, read (write a) = some a) :
    field? (Members.ofFields fields) name (json.optional? read) none = some o := by
  rw [field?_ofFields hnodup h]
  cases o with
  | none => rfl
  | some a => exact optional?_map hnull hread a

theorem field?_text {o : Option String} (h : (name, o.map Json.str) ∈ fields) :
    field? (Members.ofFields fields) name (json.optional? json.text?) none = some o :=
  field?_map hnodup h (fun _ => rfl) fun _ => rfl

end

end Source

/-! ## Documents -/

/-- A value that is read whole from a document with as many levels: it fits into one, and the shape
    asks for all that stands in it. -/
structure Shape.Suits (shape : Shape) (depth : Nat) (j : Json) : Prop where
  fits : ∀ extra, j.Fits Number.ReadsBack (depth + extra)
  covers : shape.Covers j

namespace Shape.Suits

theorem whole {shape : Shape} {depth : Nat} {j : Json} (h : shape.Suits depth j) :
    Shape.whole.Suits depth j :=
  ⟨h.fits, .whole j⟩

theorem null (shape : Shape) (depth : Nat) : shape.Suits depth .null := ⟨fun _ => .null, .null _⟩

theorem bool (shape : Shape) (depth : Nat) (b : Bool) : shape.Suits depth (.bool b) :=
  ⟨fun _ => .bool, .bool _ b⟩

theorem str {shape : Shape} (h : shape ≠ .ignored) (depth : Nat) (s : String) :
    shape.Suits depth (.str s) :=
  ⟨fun _ => .str, .str h s⟩

theorem uint64 {shape : Shape} (h : shape ≠ .ignored) (depth : Nat) (n : UInt64) :
    shape.Suits depth (Json.ofNat n.toNat) := by
  have hlt := n.toNat_lt
  refine ⟨fun _ => .num (Number.readsBack_int ?_), .num h _⟩
  show -(9223372036854775808 : Int) ≤ n.toNat ∧ (n.toNat : Int) < 18446744073709551616
  omega

theorem list {item : Shape} {depth : Nat} {items : List Json}
    (h : ∀ v ∈ items, item.Suits depth v) : (Shape.list item).Suits (depth + 1) (.arr items) := by
  refine ⟨fun extra => ?_, .list fun v hv => (h v hv).covers⟩
  rw [Nat.add_right_comm]
  exact .arr fun v hv => (h v hv).fits extra

theorem strings (depth : Nat) (xs : List String) :
    (Shape.list .leaf).Suits (depth + 1) (Json.ofStrings xs) := by
  refine list fun v hv => ?_
  obtain ⟨s, _, rfl⟩ := List.mem_map.mp hv
  exact str (by nofun) depth s

theorem record {shapes : List (String × Shape)} {rest : Shape} {depth : Nat} {members : Members}
    (hnodup : (members.map (·.1)).Nodup)
    (h : ∀ m ∈ members, (Shape.named shapes rest m.1).Suits depth m.2) :
    (Shape.record shapes rest).Suits (depth + 1) (.obj members) := by
  refine ⟨fun extra => ?_, .record fun m hm => (h m hm).covers⟩
  rw [Nat.add_right_comm]
  exact .obj hnodup fun m hm => (h m hm).fits extra

/-- A record of fields that may be missing. -/
theorem ofFields {shapes : List (String × Shape)} {rest : Shape} {depth : Nat}
    {fields : List (String × Option Json)} (hnodup : (fields.map (·.1)).Nodup)
    (h : ∀ f ∈ fields, ∀ v ∈ f.2, (Shape.named shapes rest f.1).Suits depth v) :
    (Shape.record shapes rest).Suits (depth + 1) (.obj (Members.ofFields fields)) := by
  refine record (hnodup.sublist (Members.keys_ofFields_sublist fields)) fun m hm => ?_
  obtain ⟨f, hf, hm⟩ := List.mem_flatMap.mp hm
  obtain ⟨k, _ | v⟩ := f
  · cases hm
  · obtain rfl := List.mem_singleton.mp hm
    exact h _ hf v rfl

end Shape.Suits

/-! ## Overrides -/

theorem uint64OfInt?_toNat (n : UInt64) : Source.uint64OfInt? n.toNat = some n := by
  have hlt : (n.toNat : Int) < (18446744073709551616 : Int) := by
    have := n.toNat_lt
    omega
  simp [Source.uint64OfInt?, hlt]

namespace TargetIndex

theorem target?_toJson (t : TargetIndex) : Source.json.target? t.toJson = some t := by
  cases t with
  | index n => simp [toJson, Json.ofNat, Source.json, Source.jsonTarget?, uint64OfInt?_toNat]
  | text s => rfl

theorem isNull_toJson (t : TargetIndex) : t.toJson.isNull = false := by
  cases t <;> rfl

theorem suits_toJson (t : TargetIndex) (depth : Nat) : Shape.whole.Suits depth t.toJson := by
  cases t with
  | index n => exact .uint64 (by nofun) depth n
  | text s => exact .str (by nofun) depth s

end TargetIndex

namespace Occurrence

/-- The fields of an occurrence. -/
def fields (o : Occurrence) : List (String × Option Json) := [
  ("reason", o.reason.map .str), ("dashboard", o.dashboard.map .str), ("panel", o.panel.map .str),
  ("targetIdx", o.target.map TargetIndex.toJson), ("template", o.template.map .str)]

theorem toJson_eq (o : Occurrence) : o.toJson = .obj (Members.ofFields o.fields) := by
  simp [toJson, fields, Members.ofFields, Members.ofOption_map]

theorem nodup_fields (o : Occurrence) : (o.fields.map (·.1)).Nodup := by simp [fields]

theorem read?_toJson (o : Occurrence) : read? Source.json o.toJson = some o := by
  have hfields : Source.json.fields? fieldNames (.obj (Members.ofFields o.fields)) = _ :=
    Source.fields?_ofFields rfl o.nodup_fields
  have htext := @Source.field?_text _ o.nodup_fields
  have htarget : Source.field? (Members.ofFields o.fields) "targetIdx"
      (Source.json.optional? Source.json.target?) none = some o.target :=
    Source.field?_map o.nodup_fields (by simp [fields]) TargetIndex.isNull_toJson
      TargetIndex.target?_toJson
  have hreason := @htext "reason" o.reason (by simp [fields])
  have hdashboard := @htext "dashboard" o.dashboard (by simp [fields])
  have hpanel := @htext "panel" o.panel (by simp [fields])
  have htemplate := @htext "template" o.template (by simp [fields])
  simp [toJson_eq, read?, hfields, hreason, hdashboard, hpanel, htarget, htemplate]

theorem suits_toJson (o : Occurrence) (depth : Nat) : shape.Suits (depth + 1) o.toJson := by
  rw [toJson_eq]
  refine .ofFields o.nodup_fields ?_
  have htext : ∀ s, Shape.whole.Suits depth (.str s) := .str (by nofun) depth
  simp [fields, fieldNames, Shape.named, htext, TargetIndex.suits_toJson]

end Occurrence

namespace Occurrences

/-- The fields of occurrences. -/
def fields (o : Occurrences) : List (String × Option Json) := [
  ("reason", o.reason.map .str),
  ("entries", written o.entries.isEmpty (.arr (o.entries.map Occurrence.toJson)))]

theorem toJson_eq (o : Occurrences) : o.toJson = .obj (Members.ofFields o.fields) := by
  simp only [toJson, fields, Members.ofOption_map, Members.ofOption_written, Members.ofFields_cons,
    Members.ofFields_nil, List.append_nil]

theorem nodup_fields (o : Occurrences) : (o.fields.map (·.1)).Nodup := by simp [fields]

theorem read?_toJson (o : Occurrences) : read? Source.json o.toJson = some o := by
  have hfields : Source.json.fields? ["reason", "entries"] (.obj (Members.ofFields o.fields)) = _ :=
    Source.fields?_ofFields rfl o.nodup_fields
  have hreason := @Source.field?_text _ o.nodup_fields "reason" o.reason (by simp [fields])
  have hentries : Source.field? (Members.ofFields o.fields) "entries"
      (Source.json.listOf? (Occurrence.read? Source.json)) [] = some o.entries :=
    Source.field?_written o.nodup_fields (.tail _ (.head _)) List.isEmpty_iff.mp
      (Source.listOf?_map Occurrence.read?_toJson _)
  simp [toJson_eq, read?, hfields, hreason, hentries]

theorem suits_toJson (o : Occurrences) (depth : Nat) : shape.Suits (depth + 3) o.toJson := by
  have htext : ∀ s, Shape.leaf.Suits (depth + 2) (.str s) := .str (by nofun) _
  have hentries : (Shape.list Occurrence.shape).Suits (depth + 2)
      (.arr (o.entries.map Occurrence.toJson)) := by
    refine .list fun v hv => ?_
    obtain ⟨e, _, rfl⟩ := List.mem_map.mp hv
    exact e.suits_toJson depth
  rw [toJson_eq]
  refine .ofFields o.nodup_fields ?_
  simp [fields, written, Shape.named, htext, hentries]

end Occurrences

namespace Overrides

theorem ofMembers?_toJson (o : Overrides) : ofMembers? Source.json o.toJson = some o := by
  have hoptional : ∀ occurrences : Option Occurrences,
      Source.json.optional? (Occurrences.read? Source.json)
        ((occurrences.map Occurrences.toJson).getD .null) = some occurrences := by
    rintro (_ | occurrences)
    · rfl
    · exact Source.optional?_map (fun _ => rfl) Occurrences.read?_toJson occurrences
  have hentries := @Source.mapM_map (String × Option Occurrences) _
    (fun x => (x.1, (x.2.map Occurrences.toJson).getD .null))
    (fun x => (Source.json.optional? (Occurrences.read? Source.json) x.2).map
      fun occurrences => (x.1, occurrences))
    (fun x => by simp [hoptional]) o.entries
  have hread : ofMembers? Source.json o.toJson = some (KeyMap.ofList o.entries) := by
    unfold ofMembers? toJson
    exact congrArg (Option.bind · _) hentries
  rw [hread, KeyMap.ofList_entries]

theorem read?_toJson (o : Overrides) : read? Source.json o.toJson = some o := by
  rw [read?, Source.optional?_map (fun _ => rfl) ofMembers?_toJson]
  rfl

theorem suits_toJson (o : Overrides) (depth : Nat) :
    (Shape.map Occurrences.shape).Suits (depth + 4) o.toJson := by
  refine .record ?_ fun m hm => ?_
  · rw [List.map_map]
    exact o.nodup_keys
  · obtain ⟨⟨rule, occurrences⟩, _, rfl⟩ := List.mem_map.mp hm
    cases occurrences with
    | none => exact .null _ _
    | some occurrences => exact occurrences.suits_toJson depth

end Overrides

namespace OverrideFile

/-- The fields of a file. -/
def fields (file : OverrideFile) : List (String × Option Json) := [
  ("exclusions", written file.exclusions.isEmpty (Overrides.toJson file.exclusions)),
  ("warnings", written file.warnings.isEmpty (Overrides.toJson file.warnings))]

theorem members_eq (file : OverrideFile) : file.members = Members.ofFields file.fields := by
  simp only [members, fields, Members.ofOption_written, Members.ofFields_cons,
    Members.ofFields_nil, List.append_nil]

theorem nodup_fields (file : OverrideFile) : (file.fields.map (·.1)).Nodup := by simp [fields]

theorem ofFields?_members (file : OverrideFile) :
    ofFields? Source.json file.members = some file := by
  have hexclusions : Source.field? (Members.ofFields file.fields) "exclusions"
      (Overrides.read? Source.json) .empty = some file.exclusions :=
    Source.field?_written file.nodup_fields (.head _) KeyMap.eq_empty_of_isEmpty
      (Overrides.read?_toJson _)
  have hwarnings : Source.field? (Members.ofFields file.fields) "warnings"
      (Overrides.read? Source.json) .empty = some file.warnings :=
    Source.field?_written file.nodup_fields (.tail _ (.head _)) KeyMap.eq_empty_of_isEmpty
      (Overrides.read?_toJson _)
  simp [ofFields?, members_eq, hexclusions, hwarnings]

theorem ofJson?_toJson (file : OverrideFile) : ofJson? file.toJson = some file := by
  have hfields : Source.json.fields? fieldNames file.toJson = some file.members := by
    rw [toJson, members_eq]
    exact Source.fields?_ofFields rfl file.nodup_fields
  rw [ofJson?, read?, hfields]
  exact file.ofFields?_members

theorem suits_toJson (file : OverrideFile) (depth : Nat) :
    shape.Suits (depth + 5) file.toJson := by
  rw [toJson, members_eq]
  refine .ofFields file.nodup_fields ?_
  simp [fields, fieldNames, written, Shape.named, Overrides.suits_toJson]

end OverrideFile

/-! ## Sections -/

namespace Source

@[simp] theorem fields?_obj (names : List String) (members : Members) :
    json.fields? names (.obj members) = select? names members := rfl

@[simp] theorem text?_str (s : String) : json.text? (.str s) = some s := rfl

@[simp] theorem choice?_str (s : String) : json.choice? (.str s) = some s := rfl

@[simp] theorem flag?_bool (b : Bool) : json.flag? (.bool b) = some b := rfl

@[simp] theorem number?_ofNat (n : UInt64) : json.number? (Json.ofNat n.toNat) = some n := by
  have hnumber : ∀ v, json.number? v = v.int?.bind uint64OfInt? := fun _ => rfl
  have hint : (Json.ofNat n.toNat).int? = some (n.toNat : Int) := rfl
  rw [hnumber, hint, Option.bind_some, uint64OfInt?_toNat]

@[simp] theorem listOf?_ofStrings (xs : List String) :
    json.listOf? json.text? (Json.ofStrings xs) = some xs :=
  listOf?_map text?_str xs

end Source

/-- The section from its fields. They are variables here: the bound of a number of 64 bits is too
    large to compute with. -/
theorem EngineSettings.read?_of_fields? {v : Json} {fields : Members} {e : EngineSettings}
    (hfields : Source.json.fields? ["parallel", "jobs"] v = some fields)
    (hparallel : Source.field? fields "parallel" Source.json.flag? false = some e.parallel)
    (hjobs : Source.field? fields "jobs" Source.json.number? 0 = some e.jobs) :
    read? Source.json v = some e := by
  simp [read?, hfields, hparallel, hjobs]

theorem EngineSettings.read?_toJson (e : EngineSettings) :
    read? Source.json e.toJson = some e := by
  let fields := [("parallel", some (Json.bool e.parallel)),
    ("jobs", some (Json.ofNat e.jobs.toNat))]
  have hnodup : (fields.map (·.1)).Nodup := by simp [fields]
  have hfields : Source.json.fields? ["parallel", "jobs"] e.toJson =
      some (Members.ofFields fields) := Source.fields?_ofFields rfl hnodup
  exact read?_of_fields? hfields
    (Source.field?_some hnodup (.head _) (Source.flag?_bool e.parallel) false)
    (Source.field?_some hnodup (.tail _ (.head _)) (Source.number?_ofNat e.jobs) 0)

theorem OutputSettings.read?_toJson (o : OutputSettings) :
    read? Source.json o.toJson = some o := by
  have hformat : ReportForm.ofName? o.format.name = some o.format := by cases o.format <;> rfl
  have hcolor : ColorMode.ofName? o.color.name = some o.color := by cases o.color <;> rfl
  simp [read?, toJson, Source.select?, Source.field?, KeyMap.find?, hformat, hcolor]

theorem FileSettings.read?_toJson (f : FileSettings) :
    read? Source.json f.toJson = some f := by
  simp [read?, toJson, Source.select?, Source.field?, KeyMap.find?]

namespace RuleSettings

theorem readMatcher?_matcherJson (m : Matcher) :
    readMatcher? Source.json (matcherJson m) = some m := by
  have hop : MatchOp.ofText? m.op.text = some m.op := by cases m.op <;> rfl
  simp [readMatcher?, matcherJson, Source.select?, Source.required?, KeyMap.find?, hop]

theorem read?_toJson (r : RuleSettings) : read? Source.json r.toJson = some r := by
  let fields := [("disabled", some (Json.ofStrings r.disabled)),
    ("enabled", some (Json.ofStrings r.enabled)),
    ("required_matchers", some (.arr (r.requiredMatchers.map matcherJson))),
    ("required_variables", some (Json.ofStrings r.requiredVariables)),
    ("preview", some (.bool r.preview))]
  have hnodup : (fields.map (·.1)).Nodup := by
    show ["disabled", "enabled", "required_matchers", "required_variables", "preview"].Nodup
    decide
  have hfields : Source.json.fields?
      ["disabled", "enabled", "required_matchers", "required_variables", "preview"] r.toJson =
        some (Members.ofFields fields) := Source.fields?_ofFields rfl hnodup
  have htexts : ∀ name xs, (name, some (Json.ofStrings xs)) ∈ fields →
      Source.field? (Members.ofFields fields) name (Source.json.listOf? Source.json.text?) [] =
        some xs := fun _ xs h => Source.field?_some hnodup h (Source.listOf?_ofStrings xs) []
  have hmatchers : Source.field? (Members.ofFields fields) "required_matchers"
      (Source.json.listOf? (readMatcher? Source.json)) [] = some r.requiredMatchers :=
    Source.field?_some hnodup (.tail _ (.tail _ (.head _)))
      (Source.listOf?_map readMatcher?_matcherJson _) []
  have hpreview : Source.field? (Members.ofFields fields) "preview" Source.json.flag? false =
      some r.preview :=
    Source.field?_some hnodup (.tail _ (.tail _ (.tail _ (.tail _ (.head _)))))
      (Source.flag?_bool r.preview) false
  have hdisabled := htexts "disabled" r.disabled (.head _)
  have henabled := htexts "enabled" r.enabled (.tail _ (.head _))
  have hvariables := htexts "required_variables" r.requiredVariables
    (.tail _ (.tail _ (.tail _ (.head _))))
  simp only [read?, hfields, hdisabled, henabled, hmatchers, hvariables, hpreview,
    Option.bind_eq_bind, Option.bind_some]

end RuleSettings

section

variable (depth : Nat)

theorem Shape.Suits.leaf_str (s : String) : Shape.leaf.Suits depth (.str s) :=
  .str (by nofun) depth s

theorem EngineSettings.suits_toJson (e : EngineSettings) : shape.Suits (depth + 1) e.toJson := by
  have hjobs : Shape.leaf.Suits depth (Json.ofNat e.jobs.toNat) := .uint64 (by nofun) depth _
  refine .record (by simp) ?_
  simp [Shape.named, Shape.Suits.bool, hjobs]

theorem OutputSettings.suits_toJson (o : OutputSettings) : shape.Suits (depth + 1) o.toJson := by
  refine .record (by simp) ?_
  simp [Shape.named, Shape.Suits.bool, Shape.Suits.leaf_str]

theorem FileSettings.suits_toJson (f : FileSettings) : shape.Suits (depth + 2) f.toJson := by
  refine .record (by simp) ?_
  simp [Shape.named, Shape.Suits.strings]

theorem RuleSettings.suits_matcherJson (m : Matcher) :
    matcherShape.Suits (depth + 1) (matcherJson m) := by
  refine .record (by simp) ?_
  simp [Shape.named, Shape.Suits.leaf_str]

theorem RuleSettings.suits_toJson (r : RuleSettings) : shape.Suits (depth + 3) r.toJson := by
  have hmatchers : (Shape.list matcherShape).Suits (depth + 2)
      (.arr (r.requiredMatchers.map matcherJson)) := by
    refine .list fun v hv => ?_
    obtain ⟨m, _, rfl⟩ := List.mem_map.mp hv
    exact suits_matcherJson depth m
  refine .record (by simp) ?_
  simp [Shape.named, Shape.Suits.bool, Shape.Suits.strings, hmatchers]

end

/-! ## Settings -/

namespace Settings

/-- The sections of settings. -/
def sections (s : Settings) : List (String × Option Json) := [
  ("engine", some s.engine.toJson), ("output", some s.output.toJson),
  ("files", some s.files.toJson), ("rules", some s.rules.toJson)]

theorem toJson_eq (s : Settings) :
    s.toJson = .obj (Members.ofFields (s.sections ++ s.overrides.fields)) := by
  rw [toJson, OverrideFile.members_eq]
  rfl

theorem nodup_fields (s : Settings) :
    ((s.sections ++ s.overrides.fields).map (·.1)).Nodup := by
  simp [sections, OverrideFile.fields]

/-- The settings from their sections and from the members beside them. -/
theorem ofJson?_of_select? {members fields : Members} {s : Settings}
    (hfields : Source.select? sectionNames members = some fields)
    (hengine : Source.field? fields "engine" (EngineSettings.read? Source.json) .initial =
      some s.engine)
    (houtput : Source.field? fields "output" (OutputSettings.read? Source.json) .initial =
      some s.output)
    (hfiles : Source.field? fields "files" (FileSettings.read? Source.json) .initial =
      some s.files)
    (hrules : Source.field? fields "rules" (RuleSettings.read? Source.json) .initial =
      some s.rules)
    (hrest : members.filter (fun m => !sectionNames.contains m.1) = s.overrides.members) :
    ofJson? (.obj members) = some s := by
  have hmembers : Source.json.members? (.obj members) = some members := rfl
  have hvalues : s.overrides.members.mapM (fun m => (some m.2).map fun v => (m.1, v)) =
      some s.overrides.members := by
    simpa using Source.mapM_map (fun _ => rfl) s.overrides.members
  have hselect : Source.select? OverrideFile.fieldNames s.overrides.members =
      some s.overrides.members := by
    rw [OverrideFile.members_eq]
    exact Source.fields?_ofFields rfl s.overrides.nodup_fields
  have hoverrides := s.overrides.ofFields?_members
  simp only [ofJson?, read?, hmembers, hfields, hrest, hvalues, hselect, hengine, houtput, hfiles,
    hrules, hoverrides, Option.bind_eq_bind, Option.bind_some]

theorem ofJson?_toJson (s : Settings) : ofJson? s.toJson = some s := by
  have hnodup : (s.sections.map (·.1)).Nodup := by simp [sections]
  rw [toJson_eq]
  apply ofJson?_of_select?
  · show _ = some (Members.ofFields s.sections)
    rw [Source.select?_ofFields _ s.nodup_fields]
    simp [sections, sectionNames, OverrideFile.fields]
  · exact Source.field?_some hnodup (.head _) s.engine.read?_toJson _
  · exact Source.field?_some hnodup (.tail _ (.head _)) s.output.read?_toJson _
  · exact Source.field?_some hnodup (.tail _ (.tail _ (.head _))) s.files.read?_toJson _
  · exact Source.field?_some hnodup (.tail _ (.tail _ (.tail _ (.head _)))) s.rules.read?_toJson _
  · rw [Members.filter_ofFields (fun name => !sectionNames.contains name), OverrideFile.members_eq]
    simp [sections, sectionNames, OverrideFile.fields]

theorem suits_toJson (s : Settings) (depth : Nat) : shape.Suits (depth + 5) s.toJson := by
  have hoverrides : ∀ o : Overrides, Shape.whole.Suits (depth + 4) (Overrides.toJson o) :=
    fun o => (Overrides.suits_toJson o depth).whole
  have hengine := s.engine.suits_toJson (depth + 3)
  have houtput := s.output.suits_toJson (depth + 3)
  have hfiles := s.files.suits_toJson (depth + 2)
  have hrules := s.rules.suits_toJson (depth + 1)
  rw [toJson_eq]
  refine .ofFields s.nodup_fields ?_
  simp [sections, OverrideFile.fields, written, Shape.named, hengine, houtput, hfiles, hrules,
    hoverrides]

end Settings

/-! ## Texts -/

/-- A value that suits a shape is read from its texts, with or without line breaks. -/
theorem Shape.Suits.read?_outline {shape : Shape} {depth : Nat} {j : Json}
    (h : shape.Suits depth j) (hdepth : depth ≤ Outline.maxDepth) {text : String}
    (htext : text ∈ [j.compact, j.pretty]) :
    (Outline.parse? text).bind (Outline.read? shape) = some j := by
  obtain ⟨extra, hextra⟩ := Nat.exists_eq_add_of_le hdepth
  exact (hextra ▸ h.fits extra).read?_outline h.covers htext

/-- The files of overrides and the settings of projects are read back from what is written of them,
    as values and as texts. -/
theorem Settings.documents_readBack :
    (∀ file : OverrideFile, OverrideFile.ofJson? file.toJson = some file ∧
      ∀ text ∈ [file.toJson.compact, file.toJson.pretty],
        ((Outline.parse? text).bind (Outline.read? OverrideFile.shape)).bind OverrideFile.ofJson? =
          some file) ∧
    ∀ s : Settings, Settings.ofJson? s.toJson = some s ∧
      ∀ text ∈ [s.toJson.compact, s.toJson.pretty], Settings.ofText "json" text = .ok s := by
  refine ⟨fun file => ⟨file.ofJson?_toJson, fun text htext => ?_⟩,
    fun s => ⟨s.ofJson?_toJson, fun text htext => ?_⟩⟩
  · rw [(file.suits_toJson 0).read?_outline (by decide) htext, Option.bind_some]
    exact file.ofJson?_toJson
  · have hread : ((Outline.parse? text).bind (Outline.read? Settings.shape)).bind
        Settings.ofJson? = some s := by
      rw [(s.suits_toJson 0).read?_outline (by decide) htext, Option.bind_some]
      exact s.ofJson?_toJson
    have hyaml : ("json" == "yaml" || "json" == "yml") = false := by decide
    rw [Settings.ofText, hyaml, hread]
    rfl

/-- A rule without occurrences, one with an empty list and one with two of them are told apart in
    the text, and so are a position that is a number and the same one as a text. -/
theorem Settings.documents_readBack_overrides :
    let position (i : TargetIndex) : Occurrence := ⟨none, none, none, some i, none⟩
    let exclusions : Overrides := .ofList [("all", none), ("empty", some ⟨none, []⟩),
      ("listed", some ⟨some "old", [position (.index 2), position (.text "2")]⟩)]
    let s : Settings := { Settings.initial with overrides := ⟨exclusions, .empty⟩ }
    Settings.ofText "json" s.toJson.compact = .ok s ∧
      Settings.ofText "json" s.toJson.pretty = .ok s := by
  intro position exclusions s
  exact ⟨(documents_readBack.2 s).2 _ (.head _), (documents_readBack.2 s).2 _ (.tail _ (.head _))⟩

end BoardLint
