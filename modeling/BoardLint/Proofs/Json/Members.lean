import BoardLint.Json.Basic
import Mathlib.Data.List.Nodup

set_option autoImplicit false

/-! # Members of objects

Objects as maps from keys to values: what `get?` finds after members are joined, selected, set and
merged. -/

namespace BoardLint.Json.Members

/-! ## Looking up -/

theorem get?_append (k : String) (m n : Members) :
    get? k (m ++ n) = (get? k m).or (get? k n) := by
  induction m with
  | nil => rfl
  | cons x m ih =>
      by_cases hk : x.1 = k <;> simp [get?, hk, ih]

theorem get?_eq_none_iff {m : Members} {k : String} : get? k m = none ↔ k ∉ m.map (·.1) := by
  induction m with
  | nil => simp [get?]
  | cons x m ih =>
      by_cases hk : x.1 = k
      · simp [get?, hk]
      · simpa [get?, hk, Ne.symm hk] using ih

theorem mem_of_get? {m : Members} {k : String} {v : Json} (h : get? k m = some v) :
    (k, v) ∈ m := by
  induction m with
  | nil => cases h
  | cons x m ih =>
      by_cases hk : x.1 = k
      · simp only [get?, hk, beq_self_eq_true, if_true, Option.some.injEq] at h
        exact List.mem_cons.mpr (.inl (Prod.ext hk.symm h.symm))
      · simp only [get?, beq_iff_eq, hk, if_false] at h
        exact .tail _ (ih h)

/-- In an object without repeated keys every member is found. -/
theorem get?_of_mem {m : Members} (hkeys : (m.map (·.1)).Nodup) {x : String × Json} (h : x ∈ m) :
    get? x.1 m = some x.2 := by
  induction m with
  | nil => cases h
  | cons y m ih =>
      rw [List.map_cons, List.nodup_cons] at hkeys
      rcases List.mem_cons.mp h with rfl | h
      · simp [get?]
      · have hne : y.1 ≠ x.1 := by
          intro heq
          exact hkeys.1 (heq ▸ List.mem_map_of_mem h)
        simp [get?, hne, ih hkeys.2 h]

theorem get?_perm {m n : Members} (hm : (m.map (·.1)).Nodup) (h : m.Perm n) (k : String) :
    get? k m = get? k n := by
  have hn : (n.map (·.1)).Nodup := (h.map _).nodup hm
  refine Option.ext fun v => ⟨fun hv => ?_, fun hv => ?_⟩
  · exact get?_of_mem hn (h.subset (mem_of_get? hv))
  · exact get?_of_mem hm (h.symm.subset (mem_of_get? hv))

theorem get?_filter (p : String → Bool) (k : String) (m : Members) :
    get? k (m.filter fun x => p x.1) = if p k then get? k m else none := by
  induction m with
  | nil => simp [get?]
  | cons x m ih =>
      by_cases hk : x.1 = k
      · subst hk
        by_cases hp : p x.1
        · simp [get?, hp]
        · simpa [hp] using ih
      · by_cases hp : p x.1
        · simpa [get?, hp, hk] using ih
        · simpa [get?, hp, hk] using ih

/-! ## Setting and merging -/

theorem set_of_notMem {key : String} {m : Members} (h : key ∉ m.map (·.1)) (value : Json) :
    set key value m = m ++ [(key, value)] := by
  induction m with
  | nil => rfl
  | cons x m ih =>
      simp only [List.map_cons, List.mem_cons, not_or] at h
      simp [set, Ne.symm h.1, ih h.2]

theorem set_append {key : String} {front : Members} (h : key ∉ front.map (·.1)) (v w : Json)
    (rest : Members) : set key w (front ++ (key, v) :: rest) = front ++ (key, w) :: rest := by
  induction front with
  | nil => simp [set]
  | cons x front ih =>
      simp only [List.map_cons, List.mem_cons, not_or] at h
      simp [set, Ne.symm h.1, ih h.2]

theorem get?_set (k key : String) (value : Json) (m : Members) :
    get? k (set key value m) = if key = k then some value else get? k m := by
  induction m with
  | nil => simp [set, get?]
  | cons x m ih =>
      by_cases hx : x.1 = key
      · subst hx
        by_cases hk : x.1 = k <;> simp [set, get?, hk]
      · by_cases hk : key = k
        · subst hk
          simp [set, get?, hx, ih]
        · simp [set, get?, hx, ih, hk]

theorem map_fst_set (key : String) (value : Json) (m : Members) :
    (set key value m).map (·.1) =
      if key ∈ m.map (·.1) then m.map (·.1) else m.map (·.1) ++ [key] := by
  induction m with
  | nil => simp [set]
  | cons x m ih =>
      by_cases hx : x.1 = key
      · simp [set, hx]
      · simp only [set, beq_iff_eq, hx, if_false, List.map_cons, ih, List.mem_cons,
          Ne.symm hx, false_or]
        split <;> rfl

theorem nodup_set {m : Members} (h : (m.map (·.1)).Nodup) (key : String) (value : Json) :
    ((set key value m).map (·.1)).Nodup := by
  rw [map_fst_set]
  split
  · exact h
  · next hkey =>
    rw [← List.concat_eq_append]
    exact h.concat hkey

theorem mem_of_mem_set {key : String} {value : Json} {m : Members} {x : String × Json}
    (h : x ∈ set key value m) : x = (key, value) ∨ x ∈ m := by
  induction m with
  | nil => simpa [set] using h
  | cons y m ih =>
      rw [set] at h
      split at h
      · next hy =>
        rw [beq_iff_eq.mp hy] at h
        rcases List.mem_cons.mp h with rfl | h
        · exact .inl rfl
        · exact .inr (.tail _ h)
      · rcases List.mem_cons.mp h with rfl | h
        · exact .inr (.head _)
        · exact (ih h).imp_right (.tail _)

theorem merge_eq_foldl (m : Members) :
    merge m = m.foldl (fun done x => set x.1 x.2 done) [] := rfl

theorem nodup_merge (m : Members) : ((merge m).map (·.1)).Nodup := by
  rw [merge_eq_foldl]
  refine List.foldlRecOn (motive := fun done : Members => (done.map (·.1)).Nodup) m _ ?_ ?_
  · exact List.nodup_nil
  · exact fun done hdone x _ => nodup_set hdone x.1 x.2

theorem mem_of_mem_merge {m : Members} : ∀ x ∈ merge m, x ∈ m := by
  rw [merge_eq_foldl]
  refine List.foldlRecOn (motive := fun done => ∀ x ∈ done, x ∈ m) m _ (by simp) ?_
  intro done hdone y hy x hx
  rcases mem_of_mem_set hx with rfl | hx
  · exact hy
  · exact hdone x hx

theorem foldl_set_of_nodup (m done : Members) (h : ((done ++ m).map (·.1)).Nodup) :
    m.foldl (fun done x => set x.1 x.2 done) done = done ++ m := by
  induction m generalizing done with
  | nil => simp
  | cons y m ih =>
      have hy : y.1 ∉ done.map (·.1) := by
        rw [List.map_append, List.map_cons] at h
        exact fun hmem => List.disjoint_of_nodup_append h hmem (.head _)
      rw [List.foldl_cons, set_of_notMem hy, ih _ (by simpa using h)]
      simp

theorem merge_eq_self {m : Members} (h : (m.map (·.1)).Nodup) : merge m = m := by
  rw [merge_eq_foldl, foldl_set_of_nodup m [] h, List.nil_append]

end BoardLint.Json.Members
