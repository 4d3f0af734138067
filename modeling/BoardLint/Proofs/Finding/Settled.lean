import BoardLint.Finding.Collection

set_option autoImplicit false

/-! # Findings under overrides

Findings are added, put under overrides and repaired in any order. The effective diagnostic of a
finding is written by all three, each in its own way, yet it is at any time the one that is due to
the finding (`Findings.due`): a function of the raw diagnostic, the overrides that hold now and
whether the repair was made. So without repairs only the last overrides count, however they were
interleaved with the findings. -/

namespace BoardLint

/-- The findings that rules make: new ones, at a part of the dashboard or not. -/
inductive Finding.Fresh : Finding → Prop
  | new (rule description : String) (place : DashboardPlace) (raw : Diagnostic) :
      Fresh (.new rule description place raw)
  | atPanel {f : Finding} (h : Fresh f) (index : Nat) (p : Panel) : Fresh (f.atPanel index p)
  | atTarget {f : Finding} (h : Fresh f) (index : Nat) : Fresh (f.atTarget index)
  | atTemplate {f : Finding} (h : Fresh f) (index : Nat) (t : Template) :
      Fresh (f.atTemplate index t)

theorem Finding.Fresh.effective_and_fixed {f : Finding} (h : f.Fresh) :
    f.effective = f.raw ∧ f.fixed = false := by
  induction h with
  | new rule description place raw => exact ⟨rfl, rfl⟩
  | atPanel _ index p ih => exact ih
  | atTarget _ index ih => exact ih
  | atTemplate _ index t ih => exact ih

namespace Findings

/-! ## Due diagnostics -/

/-- The effective diagnostic that is due to a finding: what the overrides make of it, or the raw one
    where there are none; after its repair it counts as fixed. -/
def due (overrides : Option Cascade) (f : Finding) : Diagnostic :=
  match overrides with
  | some c => c.effective f
  | none => if f.fixed then { f.raw with severity := .fixed } else f.raw

/-- Every finding has the effective diagnostic that is due to it. -/
def Settled (fs : Findings) : Prop := ∀ f ∈ fs.list, f.effective = due fs.overrides f

/-- The finding with the effective diagnostic that is due to it. -/
def settle (overrides : Option Cascade) (f : Finding) : Finding :=
  { f with effective := due overrides f }

/-- What is due does not depend on the effective diagnostic that a finding has. -/
theorem due_of_effective (overrides : Option Cascade) (f : Finding) (d : Diagnostic) :
    due overrides { f with effective := d } = due overrides f := by
  cases overrides <;> rfl

theorem settle_effective (overrides : Option Cascade) (f : Finding) :
    (settle overrides f).effective = due overrides (settle overrides f) :=
  (due_of_effective overrides f _).symm

theorem settle_settle (overrides before : Option Cascade) (f : Finding) :
    settle overrides (settle before f) = settle overrides f := by
  rw [settle, settle, due_of_effective]
  rfl

theorem settle_none_of_fresh {f : Finding} (h : f.Fresh) : settle none f = f := by
  obtain ⟨heffective, hfixed⟩ := h.effective_and_fixed
  have hdue : due none f = f.effective := by
    rw [heffective, due, hfixed]
    rfl
  rw [settle, hdue]

/-- A repair changes what is due in the severity only. -/
theorem due_repaired (overrides : Option Cascade) (f : Finding) :
    due overrides f.repaired = { due overrides f with severity := .fixed } := by
  cases overrides with
  | none =>
      simp only [due, Finding.repaired, if_true]
      split <;> rfl
  | some c =>
      -- overrides look at the place of a finding, which a repair keeps
      have hcovers : ∀ o : Overrides, o.covers f.repaired = o.covers f := fun _ => rfl
      cases hfixed : f.fixed with
      | false =>
          simp only [due, Cascade.effective, hcovers, hfixed]
          rfl
      | true =>
          simp only [due, Cascade.effective, hcovers, hfixed]
          rfl

/-! ## Steps -/

/-- What can be done with findings. -/
inductive Step where
  | add (f : Finding) (fresh : f.Fresh)
  | configure (c : Cascade)
  | autoFix (index : Nat) (d : Dashboard)

namespace Step

/-- The finding that a step adds. -/
def finding? : Step → Option Finding
  | .add f _ => some f
  | _ => none

/-- The overrides that a step sets. -/
def overrides? : Step → Option Cascade
  | .configure c => some c
  | _ => none

/-- Whether a step makes repairs. -/
def isAutoFix : Step → Bool
  | .autoFix .. => true
  | _ => false

end Step

/-- The findings after a step. -/
def step (fs : Findings) : Step → Findings
  | .add f _ => fs.add f
  | .configure c => fs.configure c
  | .autoFix index d => (fs.autoFix index d).1

/-- The findings after steps, from none on. -/
def run (steps : List Step) : Findings := steps.foldl step empty

/-- The findings that steps add, in order. -/
def added (steps : List Step) : List Finding := steps.filterMap Step.finding?

/-- The overrides that steps set last. -/
def lastOverrides (steps : List Step) : Option Cascade :=
  (steps.filterMap Step.overrides?).getLast?

/-! ## What a step keeps -/

theorem add_eq (fs : Findings) {f : Finding} (h : f.Fresh) :
    fs.add f = { fs with list := fs.list ++ [settle fs.overrides f] } := by
  unfold add
  split
  · next c hc =>
      rw [hc]
      rfl
  · next hnone => rw [hnone, settle_none_of_fresh h]

theorem configure_eq (fs : Findings) (c : Cascade) :
    fs.configure c = ⟨fs.list.map (settle (some c)), some c⟩ := rfl

theorem repairOne_effective {overrides : Option Cascade} {f : Finding}
    (h : f.effective = due overrides f) (d : Dashboard) :
    (repairOne f d).1.effective = due overrides (repairOne f d).1 := by
  unfold repairOne
  split
  · show f.repaired.effective = due overrides f.repaired
    rw [due_repaired, ← h]
    rfl
  · exact h

theorem repairAll_effective {overrides : Option Cascade} (index : Nat) (d : Dashboard)
    {list : List Finding} (h : ∀ f ∈ list, f.effective = due overrides f) :
    ∀ f ∈ (repairAll index d list).list, f.effective = due overrides f := by
  induction list generalizing d with
  | nil => exact fun f hf => absurd hf List.not_mem_nil
  | cons first rest ih =>
      obtain ⟨hfirst, hrest⟩ := List.forall_mem_cons.mp h
      unfold repairAll
      split
      · exact List.forall_mem_cons.mpr ⟨repairOne_effective hfirst d, ih _ hrest⟩
      · exact List.forall_mem_cons.mpr ⟨hfirst, ih d hrest⟩

theorem Settled.step {fs : Findings} (h : fs.Settled) (s : Step) : (fs.step s).Settled := by
  cases s with
  | add f fresh =>
      rw [Findings.step, add_eq fs fresh]
      intro g hg
      rcases List.mem_append.mp hg with hg | hg
      · exact h g hg
      · rw [List.mem_singleton.mp hg]
        exact settle_effective _ f
  | configure c =>
      rw [Findings.step, configure_eq]
      intro g hg
      obtain ⟨f, -, rfl⟩ := List.mem_map.mp hg
      exact settle_effective _ f
  | autoFix index d => exact repairAll_effective index d h

theorem run_settled (steps : List Step) : (run steps).Settled := by
  have hfold : ∀ fs : Findings, fs.Settled → (steps.foldl step fs).Settled := by
    induction steps with
    | nil => exact fun fs h => h
    | cons s rest ih => exact fun fs h => ih _ (h.step s)
  exact hfold empty fun f hf => absurd hf List.not_mem_nil

/-! ## Steps without repairs -/

/-- Without repairs, the findings are those that were added, settled by the overrides that hold at
    the end. -/
theorem foldl_step_eq {steps : List Step} (h : ∀ s ∈ steps, s.isAutoFix = false)
    (list : List Finding) (overrides : Option Cascade) :
    steps.foldl step ⟨list.map (settle overrides), overrides⟩ =
      ⟨(list ++ added steps).map (settle ((lastOverrides steps).or overrides)),
        (lastOverrides steps).or overrides⟩ := by
  -- every step settles the findings as they were added anew, so their former overrides are lost
  induction steps generalizing list overrides with
  | nil => simp [added, lastOverrides]
  | cons s rest ih =>
      obtain ⟨hs, hrest⟩ := List.forall_mem_cons.mp h
      rw [List.foldl_cons]
      cases s with
      | add f fresh =>
          have hstep : step ⟨list.map (settle overrides), overrides⟩ (.add f fresh) =
              ⟨(list ++ [f]).map (settle overrides), overrides⟩ := by
            rw [step, add_eq _ fresh, List.map_append]
            rfl
          rw [hstep, ih hrest]
          simp [added, lastOverrides, Step.finding?, Step.overrides?]
      | configure c =>
          have hstep : step ⟨list.map (settle overrides), overrides⟩ (.configure c) =
              ⟨list.map (settle (some c)), some c⟩ := by
            rw [step, configure_eq, List.map_map]
            simp only [Function.comp_def, settle_settle]
          -- the overrides set here hold at the end unless later ones do
          have hlast : (lastOverrides (.configure c :: rest)).or overrides =
              (lastOverrides rest).or (some c) := by
            simp only [lastOverrides, List.filterMap_cons, Step.overrides?, List.getLast?_cons]
            cases (rest.filterMap Step.overrides?).getLast? <;> rfl
          rw [hstep, ih hrest, hlast]
          rfl
      | autoFix index d => simp [Step.isAutoFix] at hs

theorem run_eq {steps : List Step} (h : ∀ s ∈ steps, s.isAutoFix = false) :
    run steps = ⟨(added steps).map (settle (lastOverrides steps)), lastOverrides steps⟩ := by
  have hfold := foldl_step_eq h [] none
  rw [Option.or_none, List.nil_append] at hfold
  exact hfold

/-- **Every finding has the effective diagnostic that is due to it, at any time.** Under overrides
    the finding is a fixed point of them: its effective diagnostic is what they make of the rest of
    the finding. Without overrides it is the raw one, and that of a repaired finding counts as
    fixed. So steps without repairs that add the same findings and set the same overrides last have
    the same outcome. -/
theorem run_effective (steps : List Step) :
    (∀ c, (run steps).overrides = some c → ∀ f ∈ (run steps).list,
      c.apply f = f ∧ ∀ d, f.effective = c.effective { f with effective := d }) ∧
    ((run steps).overrides = none → ∀ f ∈ (run steps).list,
      f.effective = if f.fixed then { f.raw with severity := .fixed } else f.raw) ∧
    ∀ other : List Step,
      (∀ s ∈ steps, s.isAutoFix = false) → (∀ s ∈ other, s.isAutoFix = false) →
      added steps = added other → lastOverrides steps = lastOverrides other →
      run steps = run other := by
  have hsettled := run_settled steps
  refine ⟨?_, ?_, ?_⟩
  · intro c hc f hf
    have hdue : f.effective = c.effective f := by
      have := hsettled f hf
      rwa [hc] at this
    refine ⟨?_, fun d => ?_⟩
    · rw [Cascade.apply, ← hdue]
    · rw [hdue]
      exact (due_of_effective (some c) f d).symm
  · intro hnone f hf
    have := hsettled f hf
    rwa [hnone] at this
  · intro other hsteps hother hadded hlast
    rw [run_eq hsteps, run_eq hother, hadded, hlast]

/-- Two findings, of which overrides exclude the first: it makes no difference that other overrides
    held when they were added. Once the first is repaired it counts as fixed, also under these
    overrides. -/
theorem run_effective_interleaved :
    let f := Finding.new "panel-title" "" ⟨0, "Home", "ops"⟩
      ((Diagnostic.error "no title").withFix (.dashboard id))
    let g := Finding.new "panel-unit" "" ⟨0, "Home", "ops"⟩ (.error "no unit")
    let verbose := Cascade.new .empty true
    let c := Cascade.new (OverrideFile.empty.addExclusion "panel-title" default) false
    let steps := [Step.add f (.new ..), .configure verbose, .add g (.new ..), .configure c,
      .configure c]
    let other := [Step.configure c, .add f (.new ..), .add g (.new ..)]
    let repairing := [Step.add f (.new ..), .autoFix 0 default, .configure c]
    (run steps = run other ∧ (run steps).list.map Finding.severity = [.exclude, .error]) ∧
      (run repairing).list.map Finding.severity = [.fixed] ∧
      ∀ h ∈ (run repairing).list, c.apply h = h := by
  intro f g verbose c steps other repairing
  obtain ⟨-, -, horder⟩ := run_effective steps
  obtain ⟨hfixed, -, -⟩ := run_effective repairing
  refine ⟨⟨horder other ?_ ?_ rfl rfl, rfl⟩, rfl, fun h hh => (hfixed c rfl h hh).1⟩
  · simp [steps, Step.isAutoFix]
  · simp [other, Step.isAutoFix]

end Findings

end BoardLint
