import BoardLint.Dashboard.Document

set_option autoImplicit false

/-! # Members without a field

A document is read as records, and a member of an object that is not a field of its record is kept
in what is written. `Keeps` says so for every place inside a value: whether a member is a field
depends on the kind of the record that stands there. -/

namespace BoardLint

/-! ## Places -/

namespace Json

/-- A step into a value. -/
inductive Step where
  | key (name : String)
  | item (index : Nat)
deriving DecidableEq, Repr

/-- The value at a place. -/
def at? : List Step → Json → Option Json
  | [], v => some v
  | .key k :: path, .obj m => (Members.get? k m).bind (at? path)
  | .item i :: path, .arr items => items[i]?.bind (at? path)
  | _ :: _, _ => none

theorem at?_key (k : String) (path : List Step) (v : Json) :
    at? (.key k :: path) v = (v.get? k).bind (at? path) := by
  cases v <;> rfl

end Json

/-- What a value of a document is read as. An array of records has the kind of its items. -/
inductive Kind where
  | resource
  | dashboard
  | templating
  | template
  | templateValue
  | datasource
  | row
  | panel
  | target
  /-- A value that is kept as it is. -/
  | plain
deriving DecidableEq, Repr

namespace Kind

/-- The fields of the records of a kind, with the kinds of their values. -/
def fields : Kind → List (String × Kind)
  | resource => [("spec", dashboard)]
  | dashboard => [("title", plain), ("editable", plain), ("templating", templating), ("rows", row),
      ("panels", panel)]
  | templating => [("list", template)]
  | template => [("name", plain), ("label", plain), ("type", plain), ("query", plain),
      ("datasource", datasource), ("multi", plain), ("allValue", plain),
      ("current", templateValue), ("options", templateValue), ("refresh", plain)]
  | templateValue => [("text", plain), ("value", plain)]
  | datasource => [("uid", plain), ("type", plain)]
  | row => [("panels", panel)]
  | panel => [("id", plain), ("title", plain), ("description", plain), ("type", plain),
      ("datasource", datasource), ("targets", target), ("panels", panel)]
  | target => [("expr", plain), ("datasource", datasource), ("refId", plain), ("hide", plain)]
  | plain => []

/-- The keys of the fields. -/
def keys (kind : Kind) : List String := kind.fields.map (·.1)

/-- The kind of the value of a member. -/
def member (kind : Kind) (key : String) : Kind := (kind.fields.lookup key).getD plain

/-- The kind of the value at a place in a value of a kind. -/
def along : Kind → List Json.Step → Kind
  | kind, [] => kind
  | kind, .key k :: path => (kind.member k).along path
  | kind, .item _ :: path => kind.along path

/-- The kind of a document: a resource has a version. -/
def ofDocument (value : Json) : Kind :=
  if (value.get? "apiVersion").isSome then resource else dashboard

theorem nodup_keys (kind : Kind) : kind.keys.Nodup := by
  cases kind <;> decide

end Kind

/-! ## What is kept -/

open Json (Members)

/-- Every member inside a value that is not a field of its record stands at the same place in the
    value that comes of it. -/
def Keeps (kind : Kind) (before : Json) (after : Option Json) : Prop :=
  ∀ (path : List Json.Step) (key : String) (x : Json),
    before.at? (path ++ [.key key]) = some x → key ∉ (kind.along path).keys →
      after.bind (Json.at? (path ++ [.key key])) = some x

namespace Keeps

theorem refl (kind : Kind) (v : Json) : Keeps kind v (some v) :=
  fun _ _ _ h _ => h

/-- There are no members inside a value that is neither an array nor an object. -/
theorem of_leaf {v : Json} (harr : v.arr? = none) (hobj : v.obj? = none) (kind : Kind)
    (after : Option Json) : Keeps kind v after := by
  intro path key x h
  obtain ⟨step, rest, hpath⟩ := List.exists_cons_of_ne_nil
    (List.append_ne_nil_of_right_ne_nil path (List.cons_ne_nil (Json.Step.key key) []))
  rw [hpath] at h
  cases v with
  | arr => cases harr
  | obj => cases hobj
  | _ => cases step <;> cases h

theorem of_nil (kind : Kind) (after : Option Json) : Keeps kind (.arr []) after := by
  intro path key x h
  cases path with
  | nil => cases h
  | cons step path => cases step <;> cases h

theorem of_items? {α : Type} {item : Json → Option α} {v : Json} (h : v.items? item = some [])
    (kind : Kind) (after : Option Json) : Keeps kind v after := by
  cases v with
  | arr items =>
      cases items with
      | nil => exact of_nil kind after
      | cons v items => simp [Json.items?, Option.bind_eq_some_iff] at h
  | _ => cases h

theorem arr {kind : Kind} {items written : List Json}
    (h : ∀ (i : Nat) v, items[i]? = some v → Keeps kind v written[i]?) :
    Keeps kind (.arr items) (some (.arr written)) := by
  intro path key x hx hkey
  cases path with
  | nil => cases hx
  | cons step path =>
      cases step with
      | key k => cases hx
      | item i =>
          obtain ⟨v, hv, hx⟩ := Option.bind_eq_some_iff.mp hx
          exact h i v hv path key x hx hkey

theorem obj {kind : Kind} {m : Members} {after : Option Json}
    (hextra : ∀ k v, k ∉ kind.keys → Members.get? k m = some v →
      after.bind (Json.get? k) = some v)
    (hfields : ∀ k v, k ∈ kind.keys → Members.get? k m = some v →
      Keeps (kind.member k) v (after.bind (Json.get? k))) :
    Keeps kind (.obj m) after := by
  have hstep : ∀ k path, after.bind (Json.at? (.key k :: path)) =
      (after.bind (Json.get? k)).bind (Json.at? path) := by
    intro k path
    rw [Option.bind_assoc]
    exact Option.bind_congr fun v _ => Json.at?_key k path v
  intro path key x hx hkey
  cases path with
  | nil =>
      rw [List.nil_append, Json.at?_key] at hx
      obtain ⟨v, hv, hx⟩ := Option.bind_eq_some_iff.mp hx
      rwa [List.nil_append, hstep, hextra key v hkey hv, Option.bind_some]
  | cons step path =>
      cases step with
      | item i => cases hx
      | key k =>
          rw [List.cons_append, Json.at?_key] at hx
          obtain ⟨v, hv, hx⟩ := Option.bind_eq_some_iff.mp hx
          rw [List.cons_append, hstep]
          by_cases hk : k ∈ kind.keys
          · exact hfields k v hk hv path key x hx hkey
          -- below a member that is kept as it is, every place has the same value
          · rwa [hextra k v hk hv, Option.bind_some]

end Keeps

end BoardLint
