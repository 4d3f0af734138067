import BoardLint.File.Path

set_option autoImplicit false

/-! # The order of paths

Paths are compared part by part. The comparison is a total order of lists of parts, so sorted paths
that denote the same stand together, and dropping neighbours leaves every path once. -/

namespace BoardLint.Path

/-! ## Parts -/

namespace Part

theorem eq_of_key_eq {a b : Part} (h : a.key = b.key) : a = b := by
  cases a <;> cases b <;> simp_all [key]

theorem le_iff {a b : Part} : a.le b = true ↔
    a.key.1 < b.key.1 ∨ a.key.1 = b.key.1 ∧ a.key.2 ≤ b.key.2 := by
  unfold le
  by_cases h : a.key.1 = b.key.1
  · simp [h]
  · simp [h]

theorem le_total (a b : Part) : a.le b = true ∨ b.le a = true := by
  rw [le_iff, le_iff]
  rcases Nat.lt_trichotomy a.key.1 b.key.1 with h | h | h
  · exact Or.inl (Or.inl h)
  · rcases String.le_total a.key.2 b.key.2 with hname | hname
    · exact Or.inl (Or.inr ⟨h, hname⟩)
    · exact Or.inr (Or.inr ⟨h.symm, hname⟩)
  · exact Or.inr (Or.inl h)

theorem le_trans {a b c : Part} (hab : a.le b = true) (hbc : b.le c = true) : a.le c = true := by
  rw [le_iff] at *
  rcases hab with hab | ⟨hab, hname⟩ <;> rcases hbc with hbc | ⟨hbc, hname'⟩
  · exact Or.inl (by omega)
  · exact Or.inl (by omega)
  · exact Or.inl (by omega)
  · exact Or.inr ⟨by omega, String.le_trans hname hname'⟩

theorem le_antisymm {a b : Part} (hab : a.le b = true) (hba : b.le a = true) : a = b := by
  rw [le_iff] at hab hba
  have hkind : a.key.1 = b.key.1 := by omega
  have hname : a.key.2 = b.key.2 := String.le_antisymm (by simp_all) (by simp_all)
  exact eq_of_key_eq (Prod.ext hkind hname)

end Part

/-! ## Lists of parts -/

theorem partsLe_total (as bs : List Part) : partsLe as bs = true ∨ partsLe bs as = true := by
  induction as generalizing bs with
  | nil => exact Or.inl rfl
  | cons a as ih =>
      cases bs with
      | nil => exact Or.inr rfl
      | cons b bs =>
          by_cases h : a = b
          · simpa [partsLe, h] using ih bs
          · simpa [partsLe, h, Ne.symm h] using a.le_total b

theorem partsLe_antisymm {as bs : List Part} (hab : partsLe as bs = true)
    (hba : partsLe bs as = true) : as = bs := by
  induction as generalizing bs with
  | nil =>
      cases bs with
      | nil => rfl
      | cons b bs => exact absurd hba (by simp [partsLe])
  | cons a as ih =>
      cases bs with
      | nil => exact absurd hab (by simp [partsLe])
      | cons b bs =>
          by_cases h : a = b
          · subst h
            simp only [partsLe, beq_self_eq_true, if_true] at hab hba
            rw [ih hab hba]
          · simp only [partsLe, beq_iff_eq, if_neg h, if_neg (Ne.symm h)] at hab hba
            exact absurd (Part.le_antisymm hab hba) h

theorem partsLe_trans {as bs cs : List Part} (hab : partsLe as bs = true)
    (hbc : partsLe bs cs = true) : partsLe as cs = true := by
  induction as generalizing bs cs with
  | nil => rfl
  | cons a as ih =>
      cases bs with
      | nil => exact absurd hab (by simp [partsLe])
      | cons b bs =>
          cases cs with
          | nil => exact absurd hbc (by simp [partsLe])
          | cons c cs =>
              simp only [partsLe, beq_iff_eq] at hab hbc ⊢
              by_cases h : a = b <;> by_cases h' : b = c
              · subst h h'
                simp only [if_true] at hab hbc ⊢
                exact ih hab hbc
              · subst h
                rw [if_neg h'] at hbc ⊢
                exact hbc
              · subst h'
                rw [if_neg h] at hab ⊢
                exact hab
              · rw [if_neg h] at hab
                rw [if_neg h'] at hbc
                have hne : a ≠ c := by
                  rintro rfl
                  exact h (Part.le_antisymm hab hbc)
                rw [if_neg hne]
                exact Part.le_trans hab hbc

/-! ## Sorted paths -/

theorem mem_of_mem_dedup {path : String} {paths : List String} (h : path ∈ dedup paths) :
    path ∈ paths := by
  fun_induction dedup paths with
  | case1 => exact h
  | case2 p => exact h
  | case3 p q rest hsame ih =>
      rcases List.mem_cons.mp (ih h) with rfl | hmem
      · exact List.mem_cons_self
      · exact List.mem_cons_of_mem _ (List.mem_cons_of_mem _ hmem)
  | case4 p q rest hdiffer ih =>
      rcases List.mem_cons.mp h with rfl | hmem
      · exact List.mem_cons_self
      · exact List.mem_cons_of_mem _ (ih hmem)

theorem dedup_nodup {paths : List String} (h : paths.Pairwise fun p q => le p q = true) :
    (dedup paths).Nodup := by
  fun_induction dedup paths with
  | case1 => exact List.nodup_nil
  | case2 p => exact List.pairwise_singleton _ p
  | case3 p q rest hsame ih => exact ih (h.sublist ((List.sublist_cons_self q rest).cons_cons p))
  | case4 p q rest hdiffer ih =>
      refine List.nodup_cons.mpr ⟨fun hmem => hdiffer ?_, ih h.of_cons⟩
      have hpq : le p q = true := List.rel_of_pairwise_cons h List.mem_cons_self
      -- a later path of the same parts would have the one after `p` between them
      rcases List.mem_cons.mp (mem_of_mem_dedup hmem) with rfl | hrest
      · exact beq_self_eq_true _
      · have hqp : le q p = true := List.rel_of_pairwise_cons h.of_cons hrest
        exact beq_iff_eq.mpr (partsLe_antisymm hpq hqp)

/-- Sorted paths have every path once. -/
theorem sorted_nodup (paths : List String) : (sorted paths).Nodup := by
  refine dedup_nodup (List.pairwise_mergeSort ?_ ?_ paths)
  · exact fun _ _ _ => partsLe_trans
  · intro p q
    rw [Bool.or_eq_true]
    exact partsLe_total _ _

/-- Paths that are in order and denote different things are sorted as they are. -/
theorem sorted_eq_self {paths : List String}
    (h : paths.Pairwise fun p q => le p q = true ∧ parts p ≠ parts q) : sorted paths = paths := by
  have hdedup : dedup paths = paths := by
    fun_induction dedup paths with
    | case1 => rfl
    | case2 p => rfl
    | case3 p q rest hsame ih =>
        exact absurd (beq_iff_eq.mp hsame) (List.rel_of_pairwise_cons h List.mem_cons_self).2
    | case4 p q rest hdiffer ih => rw [ih h.of_cons]
  rw [sorted, List.mergeSort_of_pairwise (h.imp And.left), hdedup]

end BoardLint.Path
