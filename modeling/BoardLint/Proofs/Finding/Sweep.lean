import BoardLint.Finding.Collection
import BoardLint.Proofs.Finding.Repair

set_option autoImplicit false

/-! # Sweeps of repairs

`Findings.repairAll` goes through the findings of a run and makes the pending repairs of one
dashboard. What it does at a finding is said once (`Findings.repairAll_cons`); from that follow that
sweeps for different dashboards do not see each other, that a sweep without pending repairs does
nothing, and that a sweep misses no repair as long as shapes are kept (`Findings.Ready`). -/

namespace BoardLint

namespace Finding

/-- Whether a repair is to be made at the dashboard at a position. -/
def isPendingAt (index : Nat) (f : Finding) : Bool := f.dashboard.index == index && f.isPending

theorem isPendingAt_iff {index : Nat} {f : Finding} :
    f.isPendingAt index = true ↔ f.dashboard.index = index ∧ f.isPending = true := by
  simp [isPendingAt]

theorem isPending_repaired (f : Finding) : f.repaired.isPending = false := by
  simp [isPending, isFixable, repaired]

theorem exists_fix_of_isPending {f : Finding} (h : f.isPending = true) :
    ∃ fix, f.raw.fix = some fix := by
  simp only [isPending, isFixable, Bool.and_eq_true] at h
  exact Option.isSome_iff_exists.mp h.1.1

end Finding

namespace Findings

/-! ## One finding -/

/-- What a sweep for the dashboard at a position does at a finding. -/
def sweepOne (index : Nat) (f : Finding) (d : Dashboard) : Finding × Dashboard × Bool :=
  if f.dashboard.index == index then repairOne f d else (f, d, false)

theorem repairAll_cons (index : Nat) (d : Dashboard) (f : Finding) (rest : List Finding) :
    repairAll index d (f :: rest) =
      let one := sweepOne index f d
      let after := repairAll index one.2.1 rest
      ⟨one.1 :: after.list, after.dashboard,
        if one.2.2 then after.count + 1 else after.count⟩ := by
  rw [repairAll, sweepOne]
  split <;> rfl

/-- A sweep makes the repair of a finding if it is pending there and its part is found; otherwise it
    leaves the finding and the dashboard as they are. -/
theorem sweepOne_cases (index : Nat) (f : Finding) (d : Dashboard) :
    (∃ fix d', f.isPendingAt index = true ∧ f.raw.fix = some fix ∧ f.repair? fix d = some d' ∧
      sweepOne index f d = (f.repaired, d', true)) ∨
    (f.isPendingAt index = true → ∀ fix, f.raw.fix = some fix → f.repair? fix d = none) ∧
      sweepOne index f d = (f, d, false) := by
  rw [sweepOne, Finding.isPendingAt]
  cases f.dashboard.index == index with
  | false => exact Or.inr ⟨by simp, rfl⟩
  | true =>
      rw [Bool.true_and, if_pos rfl, repairOne]
      by_cases hpending : f.isPending = true
      · obtain ⟨fix, hfix⟩ := Finding.exists_fix_of_isPending hpending
        rw [if_pos hpending, hfix, Option.bind_some]
        cases hrepair : f.repair? fix d with
        | none =>
            refine Or.inr ⟨fun _ fix' hfix' => ?_, rfl⟩
            rw [← Option.some.inj hfix', hrepair]
        | some d' => exact Or.inl ⟨fix, d', hpending, rfl, hrepair, rfl⟩
      · rw [if_neg hpending]
        exact Or.inr ⟨fun h => absurd h hpending, rfl⟩

theorem sweepOne_of_not_isPendingAt {index : Nat} {f : Finding} (h : f.isPendingAt index = false)
    (d : Dashboard) : sweepOne index f d = (f, d, false) := by
  rcases sweepOne_cases index f d with ⟨fix, d', hpending, -⟩ | ⟨-, hone⟩
  · rw [h] at hpending
    exact absurd hpending (by simp)
  · exact hone

/-! ## Sweeps one after another -/

/-- A sweep without pending repairs changes nothing. -/
theorem repairAll_of_not_isPendingAt {index : Nat} {list : List Finding}
    (h : ∀ f ∈ list, f.isPendingAt index = false) (d : Dashboard) :
    repairAll index d list = ⟨list, d, 0⟩ := by
  induction list with
  | nil => rfl
  | cons f rest ih =>
      obtain ⟨hf, hrest⟩ := List.forall_mem_cons.mp h
      simp only [repairAll_cons, sweepOne_of_not_isPendingAt hf, ih hrest]
      rfl

/-- A sweep does not see what a sweep for another dashboard made of the findings. -/
theorem repairAll_repairAll {i j : Nat} (hne : i ≠ j) (d e : Dashboard) (list : List Finding) :
    (repairAll i d (repairAll j e list).list).dashboard = (repairAll i d list).dashboard ∧
      (repairAll i d (repairAll j e list).list).count = (repairAll i d list).count := by
  induction list generalizing d e with
  | nil => exact ⟨rfl, rfl⟩
  | cons f rest ih =>
      rw [repairAll_cons j]
      rcases sweepOne_cases j f e with ⟨fix, e', hpending, -, -, hone⟩ | ⟨-, hone⟩
      · -- a finding on another dashboard is passed by, repaired or not
        have hindex : f.dashboard.index = j := (Finding.isPendingAt_iff.mp hpending).1
        have hbefore : f.isPendingAt i = false := by
          simp [Finding.isPendingAt, hindex, Ne.symm hne]
        have hafter : f.repaired.isPendingAt i = false := by
          simp [Finding.isPendingAt, Finding.isPending_repaired]
        simp only [hone, repairAll_cons i, sweepOne_of_not_isPendingAt hbefore,
          sweepOne_of_not_isPendingAt hafter]
        exact ih d e'
      · simp only [hone, repairAll_cons i, (ih _ e).1, (ih _ e).2, and_self]

/-! ## Sweeps that miss nothing -/

/-- Every repair on the dashboard at a position has its place there and keeps the shape. -/
def Ready (index : Nat) (d : Dashboard) (list : List Finding) : Prop :=
  ∀ f ∈ list, f.dashboard.index = index → ∀ fix, f.raw.fix = some fix →
    f.HasPlace d fix ∧ fix.KeepsShape

theorem Ready.of_shape {index : Nat} {d d' : Dashboard} {list : List Finding}
    (h : Ready index d list) (hshape : d'.shape = d.shape) : Ready index d' list :=
  fun f hf hindex fix hfix =>
    ⟨(h f hf hindex fix hfix).1.of_shape hshape, (h f hf hindex fix hfix).2⟩

/-- The finding after a sweep that missed nothing. -/
def swept (index : Nat) (f : Finding) : Finding := if f.isPendingAt index then f.repaired else f

/-- Makes repairs one after another; none if one of them cannot be made. -/
def repairEach? (d : Dashboard) (list : List Finding) : Option Dashboard :=
  list.foldlM (fun d f => f.raw.fix.bind fun fix => f.repair? fix d) d

/-- A sweep over findings that are ready makes every pending repair once, from the front. -/
theorem Ready.repairAll_eq {index : Nat} {d : Dashboard} {list : List Finding}
    (h : Ready index d list) :
    (repairAll index d list).list = list.map (swept index) ∧
    (repairAll index d list).count = list.countP (Finding.isPendingAt index) ∧
    (repairAll index d list).dashboard.shape = d.shape ∧
    repairEach? d (list.filter (Finding.isPendingAt index)) =
      some (repairAll index d list).dashboard := by
  induction list generalizing d with
  | nil => exact ⟨rfl, rfl, rfl, rfl⟩
  | cons f rest ih =>
      obtain ⟨hf, hrest⟩ := List.forall_mem_cons.mp h
      rw [repairAll_cons]
      rcases sweepOne_cases index f d with ⟨fix, d', hpending, hfix, hrepair, hone⟩ | ⟨hnone, hone⟩
      · have hkeeps := (hf (Finding.isPendingAt_iff.mp hpending).1 fix hfix).2
        have hshape : d'.shape = d.shape := (Finding.repair?_eq_some hrepair).shape_eq hkeeps
        obtain ⟨hlist, hcount, hafter, heach⟩ := ih (Ready.of_shape hrest hshape)
        simp only [hone, if_true]
        refine ⟨?_, ?_, hafter.trans hshape, ?_⟩
        · rw [hlist, List.map_cons, swept, if_pos hpending]
        · rw [hcount, List.countP_cons_of_pos hpending]
        · rw [List.filter_cons_of_pos hpending, repairEach?, List.foldlM_cons, hfix,
            Option.bind_some, hrepair]
          exact heach
      · -- a pending repair that has its place is made, so this one is not pending
        have hpending : f.isPendingAt index = false := by
          rw [Bool.eq_false_iff]
          intro hpending
          obtain ⟨hindex, hp⟩ := Finding.isPendingAt_iff.mp hpending
          obtain ⟨fix, hfix⟩ := Finding.exists_fix_of_isPending hp
          obtain ⟨d', hd'⟩ := (hf hindex fix hfix).1.exists_repair?
          rw [hnone hpending fix hfix] at hd'
          exact absurd hd' (by simp)
        obtain ⟨hlist, hcount, hafter, heach⟩ := ih hrest
        simp only [hone]
        refine ⟨?_, ?_, hafter, ?_⟩
        · rw [hlist, List.map_cons, swept, if_neg (by simp [hpending])]
        · rw [List.countP_cons_of_neg (by simp [hpending])]
          exact hcount
        · rw [List.filter_cons_of_neg (by simp [hpending])]
          exact heach

end Findings

end BoardLint
