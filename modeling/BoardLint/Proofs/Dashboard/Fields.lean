import BoardLint.Proofs.Dashboard.Keeps
import BoardLint.Proofs.Json.RoundTrip

set_option autoImplicit false

/-! # Fields of dashboard documents

What becomes of the members of an object that is read as a record and written again. The members
without a field stay as they are; a field is read back as it was, and what stands in it is carried
over by the record it belongs to. -/

namespace BoardLint

open Json (Members Number)

/-! ## Members of a record -/

namespace Json.Members

/-- The members of the fields that are not missing. -/
def ofFields (fields : List (String × Option Json)) : Members :=
  fields.flatMap fun f => ofOption f.1 f.2

theorem get?_without (keys : List String) (k : String) (m : Members) :
    get? k (without keys m) = if k ∈ keys then none else get? k m := by
  have h : get? k (without keys m) = _ := get?_filter (fun k => !keys.contains k) k m
  by_cases hk : k ∈ keys <;> simp [h, hk]

theorem get?_ofOption (k key : String) (o : Option Json) :
    get? k (ofOption key o) = if key = k then o else none := by
  cases o <;> simp [ofOption, get?]

theorem ofFields_cons (f : String × Option Json) (fields : List (String × Option Json)) :
    ofFields (f :: fields) = ofOption f.1 f.2 ++ ofFields fields := rfl

theorem keys_ofFields_sublist (fields : List (String × Option Json)) :
    ((ofFields fields).map (·.1)).Sublist (fields.map (·.1)) := by
  induction fields with
  | nil => exact .slnil
  | cons f fields ih =>
      obtain ⟨k, _ | v⟩ := f
      · exact .cons _ ih
      · exact .cons_cons _ ih

theorem get?_ofFields_of_notMem {fields : List (String × Option Json)} {k : String}
    (h : k ∉ fields.map (·.1)) : get? k (ofFields fields) = none :=
  get?_eq_none_iff.mpr fun hmem => h ((keys_ofFields_sublist fields).subset hmem)

theorem get?_ofFields {fields : List (String × Option Json)} (hkeys : (fields.map (·.1)).Nodup)
    {k : String} {o : Option Json} (h : (k, o) ∈ fields) : get? k (ofFields fields) = o := by
  induction fields with
  | nil => cases h
  | cons f fields ih =>
      rw [List.map_cons, List.nodup_cons] at hkeys
      rw [ofFields_cons, get?_append, get?_ofOption]
      rcases List.mem_cons.mp h with rfl | h
      · simp [get?_ofFields_of_notMem hkeys.1]
      · have hne : f.1 ≠ k := by
          rintro rfl
          exact hkeys.1 (List.mem_map.mpr ⟨_, h, rfl⟩)
        simp [hne, ih hkeys.2 h]

section

variable {keys : List String} {fields : List (String × Option Json)}
  (hkeys : fields.map (·.1) = keys) {m : Members}
include hkeys

/-- A field of a record is found among its members. -/
theorem get?_record (hnodup : keys.Nodup) {k : String} {o : Option Json} (h : (k, o) ∈ fields) :
    get? k (ofFields fields ++ without keys m) = o := by
  subst hkeys
  have hk : k ∈ fields.map (·.1) := List.mem_map_of_mem h
  rw [get?_append, get?_ofFields hnodup h, get?_without, if_pos hk, Option.or_none]

theorem get?_record_of_notMem {k : String} (h : k ∉ keys) :
    get? k (ofFields fields ++ without keys m) = get? k m := by
  rw [get?_append, get?_ofFields_of_notMem (hkeys ▸ h), get?_without, if_neg h, Option.none_or]

theorem without_record : without keys (ofFields fields ++ without keys m) = without keys m := by
  have hfields : without keys (ofFields fields) = [] := by
    refine List.filter_eq_nil_iff.mpr fun x hx => ?_
    have hk := (keys_ofFields_sublist fields).subset (List.mem_map_of_mem hx)
    simpa [hkeys] using hk
  have htwice : without keys (without keys m) = without keys m := by
    simp [without, List.filter_filter]
  rw [without, List.filter_append]
  exact (congrArg₂ _ hfields htwice).trans (List.nil_append _)

theorem nodup_record (hnodup : keys.Nodup) (hm : (m.map (·.1)).Nodup) :
    ((ofFields fields ++ without keys m).map (·.1)).Nodup := by
  have hfields := keys_ofFields_sublist fields
  rw [hkeys] at hfields
  rw [List.map_append, List.nodup_append']
  refine ⟨hnodup.sublist hfields, hm.sublist (List.filter_sublist.map _), ?_⟩
  intro k hk hextra
  have hnone := get?_without keys k m
  rw [if_pos (hfields.subset hk), get?_eq_none_iff] at hnone
  exact hnone hextra

end

end Json.Members

/-! ## Records -/

variable {P : Number → Prop}

/-- What comes of a member of a kind: it can stand in a document, and it keeps what there was. -/
structure Carried (P : Number → Prop) (depth : Nat) (kind : Kind) (before after : Option Json) :
    Prop where
  fits : ∀ v ∈ after, v.Fits P depth
  keeps : ∀ v ∈ before, Keeps kind v after

theorem Carried.refl {depth : Nat} (kind : Kind) {v : Json} (h : v.Fits P depth) :
    Carried P depth kind (some v) (some v) := by
  refine ⟨?_, ?_⟩
  · rintro _ ⟨⟩
    exact h
  · rintro _ ⟨⟩
    exact .refl kind v

/-- A record whose fields are carried over and whose other members stay as they are. -/
theorem Carried.record {kind : Kind} {fields : List (String × Option Json)}
    (hkeys : fields.map (·.1) = kind.keys) {depth : Nat} {m : Members}
    (hm : (Json.obj m).Fits P (depth + 1))
    (hfields : ∀ f ∈ fields, Carried P depth (kind.member f.1) (Members.get? f.1 m) f.2) :
    Carried P (depth + 1) kind (some (.obj m))
      (some (.obj (Members.ofFields fields ++ Members.without kind.keys m))) := by
  cases hm with
  | obj hnodup hmembers =>
      have hfield : ∀ k ∈ kind.keys, Carried P depth (kind.member k) (Members.get? k m)
          (Members.get? k (Members.ofFields fields ++ Members.without kind.keys m)) := by
        intro k hk
        rw [← hkeys] at hk
        obtain ⟨⟨k, o⟩, hf, rfl⟩ := List.mem_map.mp hk
        rw [Members.get?_record hkeys kind.nodup_keys hf]
        exact hfields _ hf
      have hrecord := Members.nodup_record hkeys kind.nodup_keys hnodup
      constructor
      · rintro _ ⟨⟩
        refine .obj hrecord fun x hx => ?_
        have hget := Members.get?_of_mem hrecord hx
        -- a member with the key of a field is that field, since no key occurs twice
        by_cases hk : x.1 ∈ kind.keys
        · exact (hfield x.1 hk).fits x.2 hget
        · rw [Members.get?_record_of_notMem hkeys hk] at hget
          exact hmembers _ (Members.mem_of_get? hget)
      · rintro _ ⟨⟩
        refine .obj (fun k v hk hv => ?_) fun k v hk hv => (hfield k hk).keeps v hv
        exact (Members.get?_record_of_notMem hkeys hk).trans hv

/-- Reading and writing values of a kind: what is written is read back, and it carries over what
    was read. -/
structure Faithful {α : Type} (P : Number → Prop) (kind : Kind) (read : Json → Option α)
    (write : α → Json) (depth : Nat) : Prop where
  roundTrip : ∀ {v : Json} {a : α}, v.Fits P depth → read v = some a →
    read (write a) = some a ∧ Carried P depth kind (some v) (some (write a))

/-- A record is read back where its fields and its other members are found. -/
theorem roundTrip_record {α : Type} {kind : Kind} {read : Json → Option α} {write : α → Json}
    {depth : Nat} {m : Members} {a : α} {keys : List String}
    {fields : List (String × Option Json)}
    (hm : (Json.obj m).Fits P (depth + 1)) (ha : read (.obj m) = some a)
    (hwrite : write a = .obj (Members.ofFields fields ++ Members.without keys m))
    (hkind : kind.keys = keys) (hkeys : fields.map (·.1) = keys)
    (hfields : ∀ f ∈ fields, Carried P depth (kind.member f.1) (Members.get? f.1 m) f.2)
    (hread : ∀ n : Members, (∀ f ∈ fields, Members.get? f.1 n = f.2) →
      Members.without keys n = Members.without keys m → read (.obj n) = read (.obj m)) :
    read (write a) = some a ∧ Carried P (depth + 1) kind (some (.obj m)) (some (write a)) := by
  subst hkind
  rw [hwrite, hread _ (fun f hf => ?_) (Members.without_record hkeys)]
  · exact ⟨ha, .record hkeys hm hfields⟩
  · exact Members.get?_record hkeys kind.nodup_keys hf

namespace Json

theorem eq_of_str? {v : Json} {s : String} (h : v.str? = some s) : v = .str s := by
  cases v with
  | str s => exact congrArg _ (Option.some.inj h)
  | _ => cases h

theorem eq_of_bool? {v : Json} {b : Bool} (h : v.bool? = some b) : v = .bool b := by
  cases v with
  | bool b => exact congrArg _ (Option.some.inj h)
  | _ => cases h

theorem eq_of_int64? {v : Json} {n : Int} (h : v.int64? = some n) : v = ofInt n := by
  obtain ⟨h, _⟩ := Option.filter_eq_some_iff.mp h
  cases v with
  | num number =>
      cases number with
      | int n => exact congrArg ofInt (Option.some.inj h)
      | real x => cases h
  | _ => cases h

end Json

/-- A value that is written as it was read. -/
theorem Faithful.of_exact {α : Type} {read : Json → Option α} {write : α → Json}
    (h : ∀ {v a}, read v = some a → write a = v) (kind : Kind) (depth : Nat) :
    Faithful P kind read write depth := by
  refine ⟨fun {v a} hv ha => ?_⟩
  rw [h ha]
  exact ⟨ha, .refl kind hv⟩

theorem faithful_str (kind : Kind) (depth : Nat) : Faithful P kind Json.str? .str depth :=
  .of_exact (fun h => (Json.eq_of_str? h).symm) kind depth

theorem faithful_bool (kind : Kind) (depth : Nat) : Faithful P kind Json.bool? .bool depth :=
  .of_exact (fun h => (Json.eq_of_bool? h).symm) kind depth

theorem faithful_int64 (kind : Kind) (depth : Nat) :
    Faithful P kind Json.int64? Json.ofInt depth :=
  .of_exact (fun h => (Json.eq_of_int64? h).symm) kind depth

section

variable {α : Type} {kind : Kind} {read : Json → Option α} {write : α → Json} {depth : Nat}

theorem Faithful.mapM (h : Faithful P kind read write depth) {items : List Json} {as : List α}
    (hitems : ∀ v ∈ items, v.Fits P depth) (has : items.mapM read = some as) :
    (as.map write).mapM read = some as ∧ (∀ w ∈ as.map write, w.Fits P depth) ∧
      ∀ (i : Nat) v, items[i]? = some v → Keeps kind v (as.map write)[i]? := by
  induction items generalizing as with
  | nil =>
      cases has
      simp
  | cons v items ih =>
      simp only [List.mapM_cons, Option.bind_eq_bind, Option.bind_eq_some_iff] at has
      obtain ⟨a, ha, as, has, heq⟩ := has
      cases heq
      obtain ⟨hread, hcarried⟩ := h.roundTrip (hitems v (.head _)) ha
      obtain ⟨hreads, hfits, hkeeps⟩ := ih (fun w hw => hitems w (.tail _ hw)) has
      refine ⟨by simp [hread, hreads], ?_, ?_⟩
      · exact List.forall_mem_cons.mpr ⟨hcarried.fits _ rfl, hfits⟩
      · intro i w hw
        cases i with
        | zero =>
            cases hw
            exact hcarried.keeps _ rfl
        | succ i => exact hkeeps i w hw

/-- The items of an array of records. -/
theorem faithful_items (h : ∀ inner, depth = inner + 1 → Faithful P kind read write inner) :
    Faithful P kind (Json.items? read) (fun as => .arr (as.map write)) depth := by
  refine ⟨fun {v as} hv has => ?_⟩
  cases hv with
  | @arr inner items hitems =>
      obtain ⟨hreads, hfits, hkeeps⟩ := (h inner rfl).mapM hitems has
      refine ⟨hreads, ?_, ?_⟩
      · rintro _ ⟨⟩
        exact .arr hfits
      · rintro _ ⟨⟩
        exact .arr hkeeps
  | _ => cases has

end

/-! ## Fields -/

/-- A field that is read again in the same way when `after` stands in its place. -/
structure Restored {β : Type} (P : Number → Prop) (depth : Nat) (kind : Kind) (key : String)
    (read : Members → β) (m : Members) (after : Option Json) : Prop where
  carried : Carried P depth kind (Members.get? key m) after
  readsBack : ∀ {n : Members}, Members.get? key n = after → read n = read m

/-- The value of a field that is left out when it is the default. -/
def written (isDefault : Bool) (value : Json) : Option Json :=
  if isDefault then none else some value

namespace Json.Members

theorem unlessDefault_eq (key : String) (isDefault : Bool) (value : Json) :
    unlessDefault key isDefault value = ofOption key (written isDefault value) := by
  cases isDefault <;> rfl

section

variable {α : Type} {item : Json → Option α} {key : String} {m : Members}

theorem optional?_cases {o : Option α} (h : optional? key item m = some o) :
    (o = none ∧ ∀ v ∈ get? key m, v = .null) ∨
      ∃ v a, get? key m = some v ∧ item v = some a ∧ o = some a := by
  unfold optional? at h
  split at h
  · next hget =>
    cases h
    exact .inl ⟨rfl, by simp [hget]⟩
  · next hget =>
    cases h
    exact .inl ⟨rfl, by simp [hget]⟩
  · next v _ hget =>
    obtain ⟨a, ha, rfl⟩ := Option.map_eq_some_iff.mp h
    exact .inr ⟨v, a, hget, ha, rfl⟩

theorem optional?_of_get? {v : Json} (hv : v.isNull = false) (h : get? key m = some v) :
    optional? key item m = (item v).map some := by
  unfold optional?
  rw [h]
  cases v with
  | null => cases hv
  | _ => rfl

variable {kind : Kind} {write : α → Json} {depth : Nat} (hitem : Faithful P kind item write depth)
  (hm : ∀ v ∈ get? key m, v.Fits P depth)
include hitem hm

theorem restored_optional (hnull : ∀ a, (write a).isNull = false) {o : Option α}
    (h : optional? key item m = some o) :
    Restored P depth kind key (optional? key item) m (o.map write) := by
  rcases optional?_cases h with ⟨rfl, hleaf⟩ | ⟨v, a, hget, ha, rfl⟩
  · refine ⟨⟨by simp, fun v hv => ?_⟩, fun {n} hn => ?_⟩
    · rw [hleaf v hv]
      exact .of_leaf rfl rfl _ _
    · rw [h, optional?, hn]
      rfl
  · obtain ⟨hread, hcarried⟩ := hitem.roundTrip (hm v hget) ha
    refine ⟨hget ▸ hcarried, fun {n} hn => ?_⟩
    rw [h, optional?_of_get? (hnull a) hn, hread, Option.map_some]

/-- A member that is left out when it has its default: nothing may stand in a default that is not
    a field, and a default that is written is read back. -/
theorem restored_defaulted {missing : α} (isDefault : α → Bool)
    (hdefault : ∀ {a}, isDefault a = true → a = missing)
    (hdrop : ∀ {v}, item v = some missing → isDefault missing = true → Keeps kind v none)
    (hmissing : isDefault missing = false →
      item (write missing) = some missing ∧ (write missing).Fits P depth)
    {a : α} (h : defaulted? key missing item m = some a) :
    Restored P depth kind key (defaulted? key missing item) m
      (written (isDefault a) (write a)) := by
  have hread : ∀ {n : Members} {v : Json}, get? key n = some v →
      defaulted? key missing item n = item v := by
    intro n v hn
    rw [defaulted?, hn]
  have hnone : ∀ {n : Members}, get? key n = none →
      defaulted? key missing item n = some missing := by
    intro n hn
    rw [defaulted?, hn]
  by_cases ha : isDefault a = true
  · obtain rfl := hdefault ha
    rw [written, if_pos ha]
    refine ⟨⟨by simp, fun v hv => hdrop ((hread hv).symm.trans h) ha⟩, fun {n} hn => ?_⟩
    rw [h, hnone hn]
  · rw [written, if_neg ha]
    cases hget : get? key m with
    | none =>
        obtain rfl := Option.some.inj ((hnone hget).symm.trans h)
        obtain ⟨hback, hfits⟩ := hmissing (Bool.eq_false_iff.mpr ha)
        refine ⟨⟨?_, by simp [hget]⟩, fun {n} hn => ?_⟩
        · rintro _ ⟨⟩
          exact hfits
        · rw [h, hread hn, hback]
    | some v =>
        obtain ⟨hback, hcarried⟩ := hitem.roundTrip (hm v hget) ((hread hget).symm.trans h)
        refine ⟨hget ▸ hcarried, fun {n} hn => ?_⟩
        rw [h, hread hn, hback]

end

/-! ## The readers of fields -/

section

variable (kind : Kind) {depth : Nat} {key : String} {m : Members}
  (hm : ∀ v ∈ get? key m, v.Fits P depth)
include hm

theorem restored_text {s : String} (h : text? key m = some s) :
    Restored P depth kind key (text? key) m (written s.isEmpty (.str s)) := by
  refine restored_defaulted (faithful_str kind depth) hm String.isEmpty String.isEmpty_iff.mp
    ?_ ?_ h
  · rintro v hv _
    rw [eq_of_str? hv]
    exact .of_leaf rfl rfl _ _
  · exact fun h => by cases h

/-- A text that is written even when it is empty. -/
theorem restored_text_written {s : String} (h : text? key m = some s) :
    Restored P depth kind key (text? key) m (some (.str s)) :=
  restored_defaulted (faithful_str kind depth) hm (fun _ => false) nofun
    (fun _ => nofun) (fun _ => ⟨rfl, .str⟩) h

theorem restored_flag {b : Bool} (h : flag? key m = some b) :
    Restored P depth kind key (flag? key) m (written (!b) (.bool b)) := by
  refine restored_defaulted (faithful_bool kind depth) hm not ?_ ?_ ?_ h
  · exact fun {b} hb => by simpa using hb
  · rintro v hv _
    rw [eq_of_bool? hv]
    exact .of_leaf rfl rfl _ _
  · exact nofun

theorem restored_list {α : Type} {item : Json → Option α} {write : α → Json}
    (hitem : ∀ inner, depth = inner + 1 → Faithful P kind item write inner) {as : List α}
    (h : list? key item m = some as) :
    Restored P depth kind key (list? key item) m
      (written (as.map write).isEmpty (.arr (as.map write))) := by
  refine restored_defaulted (faithful_items hitem) hm
    (fun as => (as.map write).isEmpty) ?_ ?_ ?_ h
  · exact fun {as} has => by simpa using has
  · exact fun hv _ => .of_items? hv _ _
  · exact nofun

theorem restored_optionalText {o : Option String} (h : optionalText? key m = some o) :
    Restored P depth kind key (optionalText? key) m (o.map .str) :=
  restored_optional (faithful_str kind depth) hm (fun _ => rfl) h

theorem restored_optionalFlag {o : Option Bool} (h : optionalFlag? key m = some o) :
    Restored P depth kind key (optionalFlag? key) m (o.map .bool) :=
  restored_optional (faithful_bool kind depth) hm (fun _ => rfl) h

theorem restored_optionalInt {o : Option Int} (h : optionalInt? key m = some o) :
    Restored P depth kind key (optionalInt? key) m (o.map ofInt) :=
  restored_optional (faithful_int64 kind depth) hm (fun _ => rfl) h

omit hm in
theorem optionalValue_eq_filter : optionalValue key m = (get? key m).filter (!·.isNull) := by
  unfold optionalValue
  split
  · next hget =>
    rw [hget]
    rfl
  · next hnull =>
    cases hget : get? key m with
    | none => rfl
    | some v =>
        cases v with
        | null => exact absurd hget hnull
        | _ => rfl

theorem restored_optionalValue :
    Restored P depth kind key (optionalValue key) m (optionalValue key m) := by
  refine ⟨⟨fun v hv => ?_, fun v hv => ?_⟩, fun {n} hn => ?_⟩
  · rw [optionalValue_eq_filter] at hv
    exact hm v (Option.filter_eq_some_iff.mp hv).1
  · cases hnull : v.isNull with
    | true =>
        cases v with
        | null => exact .of_leaf rfl rfl _ _
        | _ => cases hnull
    | false =>
        have hkept : optionalValue key m = some v := by
          rw [optionalValue_eq_filter, Option.filter_eq_some_iff]
          exact ⟨hv, by simp [hnull]⟩
        rw [hkept]
        exact .refl kind v
  · rw [optionalValue_eq_filter, hn, optionalValue_eq_filter, Option.filter_filter]
    simp

end

end Json.Members

end BoardLint
