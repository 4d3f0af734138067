import BoardLint.KeyMap

set_option autoImplicit false

/-! # Reading maps back

What `get?` sees of a map after each operation. An update is seen at its own key and nowhere else;
the order of the entries is what makes the early stop of `updateEntry` right. -/

namespace BoardLint.KeyMap

variable {β : Type}

/-- A key below every key of a list is not in it. -/
theorem find?_eq_none_of_lt {key : String} {xs : List (String × β)}
    (h : ∀ x ∈ xs, key < x.1) : find? key xs = none := by
  induction xs with
  | nil => rfl
  | cons e rest ih =>
      obtain ⟨k, v⟩ := e
      have hlt : key < k := h (k, v) List.mem_cons_self
      have hne : ¬ k = key := fun he => String.lt_irrefl key (he ▸ hlt)
      rw [find?, if_neg hne]
      exact ih fun x hx => h x (List.mem_cons_of_mem _ hx)

/-- The effect of one `updateEntry` on `find?`: the key has the value that `f` makes of its old one,
    and every other key has its old value. -/
theorem find?_updateEntry (key : String) (f : Option β → β) {xs : List (String × β)}
    (h : xs.Pairwise fun a b => a.1 < b.1) (k : String) :
    find? k (updateEntry key f xs) = if k = key then some (f (find? key xs)) else find? k xs := by
  induction xs with
  | nil =>
      simp only [updateEntry, find?]
      by_cases hk : k = key
      · rw [if_pos hk, if_pos hk.symm]
      · rw [if_neg hk, if_neg (Ne.symm hk)]
  | cons e rest ih =>
      obtain ⟨k', v⟩ := e
      have hrest : ∀ x ∈ rest, k' < x.1 := fun _ hx => List.rel_of_pairwise_cons h hx
      rw [updateEntry]
      split
      · next he =>
          subst he
          by_cases hk : k = k'
          · simp [find?, hk]
          · simp [find?, hk, Ne.symm hk]
      · next hne =>
          split
          · next hlt =>
              -- the key comes in front, so it was not in the list
              have hnone : find? key ((k', v) :: rest) = none := by
                refine find?_eq_none_of_lt fun x hx => ?_
                rcases List.mem_cons.mp hx with rfl | hx
                · exact hlt
                · exact String.lt_trans hlt (hrest x hx)
              rw [hnone, find?]
              by_cases hk : k = key
              · rw [if_pos hk, if_pos hk.symm]
              · rw [if_neg hk, if_neg (Ne.symm hk)]
          · rw [find?, ih h.of_cons, find?, find?, if_neg hne]
            by_cases hk : k = key
            · rw [if_pos hk, if_pos hk, if_neg fun he => hne (he.trans hk)]
            · rw [if_neg hk, if_neg hk]

@[simp] theorem get?_empty (key : String) : (empty : KeyMap β).get? key = none := rfl

theorem get?_update (m : KeyMap β) (key : String) (f : Option β → β) (k : String) :
    (m.update key f).get? k = if k = key then some (f (m.get? key)) else m.get? k :=
  find?_updateEntry key f m.increasing k

theorem get?_insert (m : KeyMap β) (key : String) (value : β) (k : String) :
    (m.insert key value).get? k = if k = key then some value else m.get? k :=
  get?_update m key (fun _ => value) k

/-- Updates by an increasing list: each of its keys is updated once, with its own value. -/
theorem get?_foldl_update {γ : Type} (g : γ → Option β → β) {xs : List (String × γ)}
    (h : xs.Pairwise fun a b => a.1 < b.1) (m : KeyMap β) (key : String) :
    (xs.foldl (fun m x => m.update x.1 (g x.2)) m).get? key =
      (find? key xs).elim (m.get? key) fun v => some (g v (m.get? key)) := by
  induction xs generalizing m with
  | nil => rfl
  | cons e rest ih =>
      obtain ⟨k, v⟩ := e
      rw [List.foldl_cons, ih h.of_cons, get?_update, find?]
      by_cases hk : k = key
      · -- the keys increase, so none of the later updates is at this one
        have hnone : find? key rest = none :=
          find?_eq_none_of_lt fun x hx => hk ▸ List.rel_of_pairwise_cons h hx
        rw [hnone, if_pos hk, if_pos hk.symm, hk]
        rfl
      · rw [if_neg hk, if_neg (Ne.symm hk)]

theorem find?_isSome_iff {key : String} {xs : List (String × β)} :
    (find? key xs).isSome = true ↔ key ∈ xs.map (·.1) := by
  induction xs with
  | nil => simp [find?]
  | cons e rest ih =>
      obtain ⟨k, v⟩ := e
      by_cases hk : k = key
      · simp [find?, hk]
      · simp [find?, hk, Ne.symm hk, ih]

theorem find?_of_mem {xs : List (String × β)} (hxs : xs.Pairwise fun a b => a.1 < b.1)
    {e : String × β} (he : e ∈ xs) : find? e.1 xs = some e.2 := by
  induction xs with
  | nil => exact absurd he List.not_mem_nil
  | cons first rest ih =>
      obtain ⟨k, v⟩ := first
      rcases List.mem_cons.mp he with rfl | he
      · simp [find?]
      · have hlt : k < e.1 := List.rel_of_pairwise_cons hxs he
        have hne : ¬ k = e.1 := fun heq => String.lt_irrefl k (heq ▸ hlt)
        rw [find?, if_neg hne, ih hxs.of_cons he]

/-! ## Maps from what is found in them -/

/-- Increasing lists in which the same is found are the same. -/
theorem eq_of_find?_eq {xs ys : List (String × β)} (hxs : xs.Pairwise fun a b => a.1 < b.1)
    (hys : ys.Pairwise fun a b => a.1 < b.1) (h : ∀ key, find? key xs = find? key ys) :
    xs = ys := by
  -- a key that is below all keys of the other list is not found there
  have hleast : ∀ {k : String} {v : β} {rest others : List (String × β)},
      find? k ((k, v) :: rest) = find? k others → ¬ ∀ x ∈ others, k < x.1 := by
    intro k v rest others hfind hall
    rw [find?, if_pos rfl, find?_eq_none_of_lt hall] at hfind
    cases hfind
  induction xs generalizing ys with
  | nil =>
      cases ys with
      | nil => rfl
      | cons y ys => exact absurd (List.forall_mem_nil _) (hleast (h y.1).symm)
  | cons x xs ih =>
      cases ys with
      | nil => exact absurd (List.forall_mem_nil _) (hleast (h x.1))
      | cons y ys =>
          obtain ⟨k, v⟩ := x
          obtain ⟨k', v'⟩ := y
          have hk : ∀ z ∈ xs, k < z.1 := fun _ hz => List.rel_of_pairwise_cons hxs hz
          have hk' : ∀ z ∈ ys, k' < z.1 := fun _ hz => List.rel_of_pairwise_cons hys hz
          have hbelow : ∀ {a b : String} {w : β} {rest : List (String × β)}, a < b →
              (∀ z ∈ rest, b < z.1) → ∀ z ∈ (b, w) :: rest, a < z.1 := by
            intro a b w rest hab hrest z hz
            rcases List.mem_cons.mp hz with rfl | hz
            · exact hab
            · exact String.lt_trans hab (hrest z hz)
          obtain rfl : k = k' := by
            refine Classical.byContradiction fun hne => ?_
            by_cases hlt : k < k'
            · exact hleast (h k) (hbelow hlt hk')
            · have hlt' := Std.lt_of_le_of_ne (String.not_lt.mp hlt) (Ne.symm hne)
              exact hleast (h k').symm (hbelow hlt' hk)
          have hv := h k
          rw [find?, if_pos rfl, find?, if_pos rfl, Option.some.injEq] at hv
          have hrest : ∀ key, find? key xs = find? key ys := by
            intro key
            by_cases hkey : k = key
            · subst hkey
              rw [find?_eq_none_of_lt hk, find?_eq_none_of_lt hk']
            · have hfind := h key
              rwa [find?, if_neg hkey, find?, if_neg hkey] at hfind
          rw [hv, ih hxs.of_cons hys.of_cons hrest]

/-- Maps in which the same is found are the same. -/
theorem ext_get? {m n : KeyMap β} (h : ∀ key, m.get? key = n.get? key) : m = n := by
  obtain ⟨xs, hxs⟩ := m
  obtain ⟨ys, hys⟩ := n
  obtain rfl := eq_of_find?_eq hxs hys h
  rfl

theorem pairwise_keys (m : KeyMap β) : m.keys.Pairwise (· < ·) := List.pairwise_map.mpr m.increasing

theorem nodup_keys (m : KeyMap β) : m.keys.Nodup := by
  refine List.pairwise_map.mpr (m.increasing.imp ?_)
  intro a b hlt heq
  exact String.lt_irrefl b.1 (heq ▸ hlt)

/-- A map is made again of its entries. -/
theorem ofList_entries (m : KeyMap β) : ofList m.entries = m := by
  refine ext_get? fun key => ?_
  have hfold : ofList m.entries = m.entries.foldl (fun n x => n.update x.1 fun _ => x.2) empty :=
    rfl
  rw [hfold, get?_foldl_update (fun v _ => v) m.increasing, get?_empty]
  show (find? key m.entries).elim none some = find? key m.entries
  cases find? key m.entries <;> rfl

theorem eq_empty_of_isEmpty {m : KeyMap β} (h : m.isEmpty = true) : m = empty := by
  refine ext_get? fun key => ?_
  rw [get?, List.isEmpty_iff.mp h]
  rfl

end BoardLint.KeyMap
