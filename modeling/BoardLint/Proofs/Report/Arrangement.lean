import BoardLint.Proofs.KeyMap
import BoardLint.Report.Basic
import Mathlib.Data.List.Induction
import Mathlib.Data.List.Perm.Basic

set_option autoImplicit false

/-! # The order of a report

A report takes findings apart by a key, sorts each group and leaves some findings out.
`Arranged` says what may come of it, with the place of each finding in the original list as the
last word on the order. Nothing is lost on the way because the keys of the groups are all keys
(`perm_flatMap_filter`), and sorting keeps the places in order where it does not compare
(`pairwise_mergeSort_of_pairwise`). -/

namespace BoardLint

section

variable {α : Type}

/-- The list `shown` has the items of `xs` that are kept, each once. They stand in the order of
    `lt`, and in their order in `xs` where `lt` does not decide. -/
def Arranged (keep : α → Prop) [DecidablePred keep] (lt : α → α → Prop) (xs shown : List α) :
    Prop :=
  ∃ placed : List (α × Nat), placed.map (·.1) = shown ∧
    placed.Perm (xs.zipIdx.filter fun x => keep x.1) ∧
    placed.Pairwise fun x y => lt x.1 y.1 ∨ ¬ lt y.1 x.1 ∧ x.2 < y.2

/-! ## Groups -/

variable (key : α → String) (xs : List α)

/-- The items of a list with a key. -/
def itemsOf (k : String) : List α := xs.filter fun x => key x == k

theorem groupBy_concat (x : α) : groupBy key (xs ++ [x]) =
    (groupBy key xs).update (key x) fun group => group.getD [] ++ [x] := by
  unfold groupBy
  rw [List.foldl_append]
  rfl

/-- The group of a key has all items with that key, and there is no group without items. -/
theorem get?_groupBy (k : String) : (groupBy key xs).get? k =
    if itemsOf key xs k = [] then none else some (itemsOf key xs k) := by
  induction xs using List.reverseRecOn with
  | nil => rfl
  | append_singleton xs x ih =>
      have hitems : itemsOf key (xs ++ [x]) k =
          itemsOf key xs k ++ if key x = k then [x] else [] := by
        by_cases hx : key x = k <;> simp [itemsOf, List.filter_append, hx]
      rw [groupBy_concat, KeyMap.get?_update, hitems]
      by_cases hk : k = key x
      · subst hk
        have hold : ((groupBy key xs).get? (key x)).getD [] = itemsOf key xs (key x) := by
          rw [ih]
          split
          · next hempty => rw [hempty]; rfl
          · rfl
        have hnew : itemsOf key xs (key x) ++ [x] ≠ [] := by simp
        rw [if_pos rfl, if_pos rfl, hold, if_neg hnew]
      · rw [if_neg hk, if_neg (Ne.symm hk), List.append_nil, ih]

theorem mem_keys_groupBy {k : String} : k ∈ (groupBy key xs).keys ↔ ∃ x ∈ xs, key x = k := by
  have hsome : k ∈ (groupBy key xs).keys ↔ ((groupBy key xs).get? k).isSome = true :=
    KeyMap.find?_isSome_iff.symm
  have hitems : itemsOf key xs k = [] ↔ ¬ ∃ x ∈ xs, key x = k := by
    simp [itemsOf, List.filter_eq_nil_iff]
  rw [hsome, get?_groupBy]
  split
  · next hempty => simpa using hitems.mp hempty
  · next hitem => simpa using not_not.mp (mt hitems.mpr hitem)

theorem entries_groupBy : (groupBy key xs).entries =
    (groupBy key xs).keys.map fun k => (k, itemsOf key xs k) := by
  unfold KeyMap.keys
  rw [List.map_map]
  refine (List.map_id _).symm.trans (List.map_congr_left fun e he => ?_)
  have hget : (groupBy key xs).get? e.1 = some e.2 :=
    KeyMap.find?_of_mem (groupBy key xs).increasing he
  rw [get?_groupBy] at hget
  split at hget
  · exact absurd hget (by simp)
  · exact Prod.ext rfl (Option.some.inj hget).symm

/-- The items by their keys are all items. -/
theorem perm_flatMap_filter {β : Type} {key : β → String} {keys : List String}
    (hnodup : keys.Nodup) {xs : List β} (hkeys : ∀ x ∈ xs, key x ∈ keys) :
    (keys.flatMap fun k => itemsOf key xs k).Perm xs := by
  induction keys generalizing xs with
  | nil =>
      cases xs with
      | nil => exact List.Perm.refl _
      | cons x xs => exact absurd (hkeys x List.mem_cons_self) List.not_mem_nil
  | cons k keys ih =>
      obtain ⟨hk, hnodup⟩ := List.nodup_cons.mp hnodup
      -- the other keys find their items among those without the first key
      let others := xs.filter fun x => !(key x == k)
      have hothers : ∀ x ∈ others, key x ∈ keys := by
        intro x hx
        obtain ⟨hx, hne⟩ := List.mem_filter.mp hx
        rcases List.mem_cons.mp (hkeys x hx) with heq | hmem
        · simp [heq] at hne
        · exact hmem
      have hsame : (keys.flatMap fun k' => itemsOf key xs k') =
          keys.flatMap fun k' => itemsOf key others k' := by
        refine List.flatMap_congr fun k' hk' => ?_
        have hne : k' ≠ k := fun heq => hk (heq ▸ hk')
        unfold itemsOf
        rw [List.filter_filter]
        refine List.filter_congr fun x _ => ?_
        by_cases hx : key x = k' <;> simp [hx, hne]
      rw [List.flatMap_cons, hsame]
      exact ((ih hnodup hothers).append_left _).trans (List.filter_append_perm _ xs)

/-! ## Sorting -/

/-- A stable sort keeps a relation that holds along a list where its order does not decide. -/
theorem pairwise_mergeSort_of_pairwise {β : Type} (le : β → β → Bool)
    (htrans : ∀ a b c, le a b = true → le b c = true → le a c = true)
    (htotal : ∀ a b, (le a b || le b a) = true) {R : β → β → Prop} {xs : List β}
    (h : xs.Pairwise R) :
    (xs.mergeSort le).Pairwise fun a b => le a b = true ∧ (le b a = true → R a b) := by
  -- with its position as the last word, no two items are alike
  have hsorted := List.pairwise_mergeSort (List.zipIdxLE_trans htrans)
    (List.zipIdxLE_total htotal) xs.zipIdx
  have hnodup : ((xs.zipIdx.mergeSort (List.zipIdxLE le)).map (·.2)).Nodup := by
    rw [((List.mergeSort_perm _ _).map _).nodup_iff, List.zipIdx_map_snd]
    exact List.nodup_range'
  rw [← List.mergeSort_zipIdx, List.pairwise_map]
  refine ((hsorted.and (List.pairwise_map.mp hnodup)).imp_of_mem ?_)
  rintro ⟨a, i⟩ ⟨b, j⟩ ha hb ⟨hle, hne⟩
  have ha : xs[i]? = some a := List.mem_zipIdx_iff_getElem?.mp (List.mem_mergeSort.mp ha)
  have hb : xs[j]? = some b := List.mem_zipIdx_iff_getElem?.mp (List.mem_mergeSort.mp hb)
  unfold List.zipIdxLE at hle
  split at hle
  · next hab =>
      refine ⟨hab, fun hba => ?_⟩
      simp only [hba, if_true, decide_eq_true_eq] at hle
      obtain ⟨hi, rfl⟩ := List.getElem?_eq_some_iff.mp ha
      obtain ⟨hj, rfl⟩ := List.getElem?_eq_some_iff.mp hb
      exact List.pairwise_iff_getElem.mp h i j hi hj (Nat.lt_of_le_of_ne hle hne)
  · exact absurd hle (by simp)

/-! ## Arrangements -/

variable (le : α → α → Bool) (keep : α → Prop) [DecidablePred keep]

/-- The items with a key that are kept, in order. -/
def shownOf (k : String) : List α := ((itemsOf key xs k).mergeSort le).filter fun x => keep x

theorem mem_shownOf {k : String} {x : α} :
    x ∈ shownOf key xs le keep k ↔ x ∈ xs ∧ key x = k ∧ keep x := by
  simp [shownOf, itemsOf, and_assoc]

/-- What items carry along makes no difference for grouping, sorting and leaving out. -/
theorem map_shownOf {β : Type} (f : β → α) (ys : List β) (k : String) :
    (shownOf (fun y => key (f y)) ys (fun y y' => le (f y) (f y')) (fun y => keep (f y)) k).map f =
      shownOf key (ys.map f) le keep k := by
  have hitems : itemsOf key (ys.map f) k = (itemsOf (fun y => key (f y)) ys k).map f :=
    List.filter_map
  have hsort : ((itemsOf (fun y => key (f y)) ys k).mergeSort fun y y' => le (f y) (f y')).map f =
      ((itemsOf (fun y => key (f y)) ys k).map f).mergeSort le :=
    List.map_mergeSort fun _ _ _ _ => rfl
  rw [shownOf, shownOf, hitems, ← hsort, List.filter_map]
  rfl

theorem perm_flatMap_shownOf {keys : List String} (hnodup : keys.Nodup)
    (hkeys : ∀ x ∈ xs, key x ∈ keys) :
    (keys.flatMap (shownOf key xs le keep)).Perm (xs.filter fun x => keep x) := by
  refine List.Perm.trans ?_ ((perm_flatMap_filter hnodup hkeys).filter fun x => keep x)
  rw [List.filter_flatMap]
  exact List.Perm.flatMap_left _ fun k _ => (List.mergeSort_perm _ _).filter _

/-- Items stand in the order of their keys, then in that of their groups, and a relation that holds
    along the whole list holds where these do not decide. -/
theorem pairwise_flatMap_shownOf
    (htrans : ∀ a b c, le a b = true → le b c = true → le a c = true)
    (htotal : ∀ a b, (le a b || le b a) = true) {R : α → α → Prop} (h : xs.Pairwise R)
    {keys : List String} (hkeys : keys.Pairwise (· < ·)) :
    (keys.flatMap (shownOf key xs le keep)).Pairwise fun a b =>
      key a < key b ∨ key a = key b ∧ le a b = true ∧ (le b a = true → R a b) := by
  refine List.pairwise_flatMap.mpr ⟨fun k _ => ?_, hkeys.imp fun {k k'} hlt a ha b hb => ?_⟩
  · have hsorted := pairwise_mergeSort_of_pairwise le htrans htotal (h.filter fun x => key x == k)
    refine (hsorted.filter fun x => keep x).imp_of_mem fun {a b} ha hb hab => Or.inr ⟨?_, hab⟩
    rw [((mem_shownOf key xs le keep).mp ha).2.1, ((mem_shownOf key xs le keep).mp hb).2.1]
  · left
    rw [((mem_shownOf key xs le keep).mp ha).2.1, ((mem_shownOf key xs le keep).mp hb).2.1]
    exact hlt

/-- Groups in the order of their keys, each sorted, are the whole list in the order of the keys and
    then in that of the groups. -/
theorem arranged_shownOf (htrans : ∀ a b c, le a b = true → le b c = true → le a c = true)
    (htotal : ∀ a b, (le a b || le b a) = true) :
    Arranged keep (fun a b => key a < key b ∨ key a = key b ∧ le b a = false) xs
      ((groupBy key xs).keys.flatMap (shownOf key xs le keep)) := by
  have hplaces : xs.zipIdx.Pairwise fun x y => x.2 < y.2 := by
    rw [← List.pairwise_map (f := Prod.snd), List.zipIdx_map_snd]
    exact List.pairwise_lt_range'
  refine ⟨(groupBy key xs).keys.flatMap (shownOf (fun x : α × Nat => key x.1) xs.zipIdx
    (fun x y => le x.1 y.1) fun x => keep x.1), ?_, ?_, ?_⟩
  · rw [List.map_flatMap]
    refine List.flatMap_congr fun k _ => ?_
    conv_rhs => rw [← List.zipIdx_map_fst 0 xs]
    exact map_shownOf key le keep Prod.fst xs.zipIdx k
  · refine perm_flatMap_shownOf _ _ _ _ (groupBy key xs).nodup_keys fun x hx => ?_
    exact (mem_keys_groupBy key xs).mpr ⟨x.1, List.fst_mem_of_mem_zipIdx hx, rfl⟩
  · refine (pairwise_flatMap_shownOf _ _ _ _ (fun a b c => htrans a.1 b.1 c.1)
      (fun a b => htotal a.1 b.1) hplaces (groupBy key xs).pairwise_keys).imp ?_
    rintro x y (hlt | ⟨heq, hle, hstable⟩)
    · exact Or.inl (Or.inl hlt)
    cases hback : le y.1 x.1 with
    | false => exact Or.inl (Or.inr ⟨heq, hback⟩)
    | true =>
        refine Or.inr ⟨?_, hstable hback⟩
        rintro (hgt | ⟨-, hgt⟩)
        · exact String.lt_irrefl _ (heq ▸ hgt)
        · exact absurd (hle.symm.trans hgt) (by simp)

end

end BoardLint
