set_option autoImplicit false

/-! # Maps from text keys

A finite map whose keys are texts, as the list of its entries in increasing order of the keys. The
order is part of the type, so two maps with the same entries are equal, and `get?` sees all there is
to see. -/

namespace BoardLint

/-- A finite map from texts. -/
structure KeyMap (β : Type) where
  entries : List (String × β)
  increasing : entries.Pairwise fun a b => a.1 < b.1
deriving DecidableEq, Repr

namespace KeyMap

variable {β : Type}

/-- The map without entries. -/
def empty : KeyMap β := ⟨[], .nil⟩

instance : Inhabited (KeyMap β) := ⟨empty⟩

/-- Whether the map has no entries. -/
def isEmpty (m : KeyMap β) : Bool := m.entries.isEmpty

/-- The value of the first entry with a key. -/
def find? (key : String) : List (String × β) → Option β
  | [] => none
  | (k, v) :: rest => if k = key then some v else find? key rest

/-- The value of a key. -/
def get? (m : KeyMap β) (key : String) : Option β := find? key m.entries

/-- Gives a key of an increasing list the value that `f` makes of its old one. -/
def updateEntry (key : String) (f : Option β → β) : List (String × β) → List (String × β)
  | [] => [(key, f none)]
  | (k, v) :: rest =>
    if k = key then (k, f (some v)) :: rest
    else if key < k then (key, f none) :: (k, v) :: rest
    else (k, v) :: updateEntry key f rest

theorem key_of_mem_updateEntry {key : String} {f : Option β → β} {xs : List (String × β)}
    {x : String × β} (h : x ∈ updateEntry key f xs) : x.1 = key ∨ ∃ y ∈ xs, y.1 = x.1 := by
  induction xs with
  | nil => simp_all [updateEntry]
  | cons e rest ih => grind [updateEntry]

theorem updateEntry_increasing (key : String) (f : Option β → β) {xs : List (String × β)}
    (h : xs.Pairwise fun a b => a.1 < b.1) :
    (updateEntry key f xs).Pairwise fun a b => a.1 < b.1 := by
  induction xs with
  | nil => simp [updateEntry]
  | cons e rest ih =>
    obtain ⟨k, v⟩ := e
    have hk : ∀ b ∈ rest, k < b.1 := fun _ hb => List.rel_of_pairwise_cons h hb
    have hr := h.of_cons
    unfold updateEntry
    split
    · exact .cons (fun b hb => hk b hb) hr
    · next hne =>
      split
      · next hlt =>
        refine .cons (fun b hb => ?_) h
        rcases List.mem_cons.mp hb with rfl | hb
        · exact hlt
        · exact String.lt_trans hlt (hk b hb)
      · next hge =>
        refine .cons (fun b hb => ?_) (ih hr)
        rcases key_of_mem_updateEntry hb with hb | ⟨y, hy, hb⟩
        · show k < b.1
          rw [hb]
          exact Std.lt_of_le_of_ne (String.not_lt.mp hge) hne
        · show k < b.1
          rw [← hb]
          exact hk y hy

/-- The map with the value that `f` makes of the old value of a key. -/
def update (m : KeyMap β) (key : String) (f : Option β → β) : KeyMap β :=
  ⟨updateEntry key f m.entries, updateEntry_increasing key f m.increasing⟩

/-- The map with a value at a key. -/
def insert (m : KeyMap β) (key : String) (value : β) : KeyMap β := m.update key fun _ => value

/-- The map of a list of entries, where the last value of a key counts. -/
def ofList (xs : List (String × β)) : KeyMap β :=
  xs.foldl (fun m (k, v) => m.insert k v) empty

/-- The keys in increasing order. -/
def keys (m : KeyMap β) : List String := m.entries.map (·.1)

end KeyMap

/-- The items of a list by a key: the keys increase, and under each the items keep their order. -/
def groupBy {α : Type} (key : α → String) (xs : List α) : KeyMap (List α) :=
  xs.foldl (fun m x => m.update (key x) fun group => group.getD [] ++ [x]) .empty

end BoardLint
