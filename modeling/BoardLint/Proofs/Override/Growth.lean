import BoardLint.Proofs.Override.Coverage

set_option autoImplicit false

/-! # Overrides that grow

Overrides are extended in two ways: another file is merged into them, or one more occurrence of a
rule is added. Merging only adds to what they are about. Adding does too, unless the rule stood for
all of its occurrences: then the occurrence that is added takes their place, and the overrides are
about less than before. `OverrideFile.matches_run` says what a file is about after any number of
such steps. -/

namespace BoardLint

namespace Overrides

/-- Whether the overrides of a rule stand for all of its occurrences. -/
def isTotal (o : Overrides) (rule : String) : Bool :=
  (o.get? rule).any fun value => value.all fun known => known.entries.isEmpty

/-- An occurrence that is added keeps what a list of occurrences was about, and nothing else. -/
theorem covers_add (o : Overrides) (rule : String) (entry : Occurrence) (f : Finding) :
    (o.add rule entry).covers f =
      if f.rule = rule then entry.covers f || (o.covers f && !o.isTotal rule) else o.covers f := by
  rw [covers_eq, covers_eq, add, KeyMap.get?_update]
  split
  · next hrule =>
      rw [isTotal, hrule]
      rcases o.get? rule with _ | _ | ⟨reason, entries⟩
      · simp [Occurrences.covers]
      · simp [Occurrences.covers]
      · cases entries with
        | nil => simp [Occurrences.covers]
        | cons e rest => simp [Occurrences.covers, Bool.or_comm, Bool.or_left_comm]
  · rfl

end Overrides

namespace OverrideFile

/-! ## Steps -/

/-- A part of a file. -/
inductive Part where
  | exclusions
  | warnings
deriving DecidableEq, Repr

/-- The overrides of a part. -/
def part (file : OverrideFile) : Part → Overrides
  | .exclusions => file.exclusions
  | .warnings => file.warnings

/-- A way to extend a file. -/
inductive Step where
  | merge (other : OverrideFile)
  | add (p : Part) (rule : String) (entry : Occurrence)

/-- The file after a step. -/
def step (file : OverrideFile) : Step → OverrideFile
  | .merge other => file.merge other
  | .add .exclusions rule entry => file.addExclusion rule entry
  | .add .warnings rule entry => file.addWarning rule entry

/-- The file after steps, one after another. -/
def run (file : OverrideFile) (steps : List Step) : OverrideFile := steps.foldl step file

/-- The step brings overrides that are about a finding. -/
def Step.Brings (p : Part) (f : Finding) : Step → Prop
  | .merge other => (other.part p).Matches f
  | .add q rule entry => q = p ∧ rule = f.rule ∧ entry.Agrees f

/-- Whether a step puts one occurrence of a rule in the place of all. -/
def Step.narrows (file : OverrideFile) (p : Part) (rule : String) : Step → Bool
  | .merge _ => false
  | .add q rule' _ => q == p && rule' == rule && (file.part p).isTotal rule

/-- Whether no step narrows the overrides of a rule. -/
def neverNarrowed (p : Part) (rule : String) : OverrideFile → List Step → Bool
  | _, [] => true
  | file, s :: rest => !s.narrows file p rule && neverNarrowed p rule (file.step s) rest

variable {file : OverrideFile} {p : Part} {f : Finding}

theorem part_merge (file other : OverrideFile) (p : Part) :
    (file.merge other).part p = (file.part p).merge (other.part p) := by
  cases p <;> rfl

theorem part_add (file : OverrideFile) (p q : Part) (rule : String) (entry : Occurrence) :
    (file.step (.add q rule entry)).part p =
      if q = p then (file.part p).add rule entry else file.part p := by
  cases p <;> cases q <;> rfl

/-- What one step does: it brings what it brings, and what was there stays unless it narrows. -/
theorem matches_step (s : Step) : ((file.step s).part p).Matches f ↔
    s.Brings p f ∨ (file.part p).Matches f ∧ s.narrows file p f.rule = false := by
  cases s with
  | merge other =>
      have hpart : (file.step (.merge other)).part p = (file.part p).merge (other.part p) :=
        part_merge file other p
      rw [hpart, Overrides.matches_merge]
      simp [Step.Brings, Step.narrows, or_comm]
  | add q rule entry =>
      rw [part_add]
      by_cases hq : q = p
      · rw [if_pos hq, ← Overrides.covers_iff, Overrides.covers_add, ← Overrides.covers_iff]
        by_cases hrule : rule = f.rule
        · subst hrule
          simp [Step.Brings, Step.narrows, hq, Occurrence.covers_iff]
        · simp [Step.Brings, Step.narrows, hrule, Ne.symm hrule]
      · simp [Step.Brings, Step.narrows, hq]

/-! ## Runs -/

theorem neverNarrowed_append {rule : String} {steps more : List Step} :
    neverNarrowed p rule file (steps ++ more) = true ↔
      neverNarrowed p rule file steps = true ∧
        neverNarrowed p rule (file.run steps) more = true := by
  induction steps generalizing file with
  | nil => simp [neverNarrowed, run]
  | cons s steps ih =>
      have hrun : file.run (s :: steps) = (file.step s).run steps := rfl
      rw [List.cons_append, neverNarrowed, neverNarrowed, Bool.and_eq_true, Bool.and_eq_true, ih,
        hrun, and_assoc]

/-- A finding is matched in the end if it was matched at some time, at the beginning or by what a
    step brought, and no step narrowed the overrides of its rule since. -/
theorem matches_run_iff (steps : List Step) : ((file.run steps).part p).Matches f ↔
    ((file.part p).Matches f ∧ neverNarrowed p f.rule file steps = true) ∨
      ∃ before s after, steps = before ++ s :: after ∧ s.Brings p f ∧
        neverNarrowed p f.rule (file.run (before ++ [s])) after = true := by
  induction steps generalizing file with
  | nil => simp [run, neverNarrowed]
  | cons s steps ih =>
      have hrun : file.run (s :: steps) = (file.step s).run steps := rfl
      rw [hrun, ih, matches_step, neverNarrowed, Bool.and_eq_true, Bool.not_eq_true']
      constructor
      · rintro (⟨hbrings | ⟨hmatch, hnarrows⟩, hnever⟩ | ⟨before, s', after, rfl, hbrings, hnever⟩)
        · exact .inr ⟨[], s, steps, rfl, hbrings, hnever⟩
        · exact .inl ⟨hmatch, hnarrows, hnever⟩
        · exact .inr ⟨s :: before, s', after, rfl, hbrings, hnever⟩
      · rintro (⟨hmatch, hnarrows, hnever⟩ | ⟨before, s', after, heq, hbrings, hnever⟩)
        · exact .inl ⟨.inr ⟨hmatch, hnarrows⟩, hnever⟩
        · -- the step that brings the match is the first one, or one of the others
          cases before with
          | nil =>
              obtain ⟨rfl, rfl⟩ := List.cons.inj heq
              exact .inl ⟨.inl hbrings, hnever⟩
          | cons s₀ before =>
              obtain ⟨rfl, rfl⟩ := List.cons.inj heq
              exact .inr ⟨before, s', after, rfl, hbrings, hnever⟩

theorem exists_brings_iff {steps : List Step} : (∃ s ∈ steps, s.Brings p f) ↔
    (∃ other, .merge other ∈ steps ∧ (other.part p).Matches f) ∨
      ∃ entry, .add p f.rule entry ∈ steps ∧ entry.Agrees f := by
  constructor
  · rintro ⟨s, hs, hbrings⟩
    cases s with
    | merge other => exact .inl ⟨other, hs, hbrings⟩
    | add q rule entry =>
        obtain ⟨rfl, rfl, hagrees⟩ := hbrings
        exact .inr ⟨entry, hs, hagrees⟩
  · rintro (⟨other, hs, hmatch⟩ | ⟨entry, hs, hagrees⟩)
    · exact ⟨_, hs, hmatch⟩
    · exact ⟨_, hs, rfl, rfl, hagrees⟩

/-- **What overrides are about after files were merged and occurrences added.** For the exclusions
    and the warnings of a file alike, and for any steps: a finding is matched in the end exactly if
    it was matched at the beginning or a step brought a match, and no later step narrowed the
    overrides of its rule. Only adding an occurrence narrows, and only where the rule stood for all
    of its occurrences. So, as long as no occurrence is added to such a rule, the overrides only
    grow: they are about what they were about at the beginning, what the merged files are about, and
    what the added occurrences agree with. -/
theorem matches_run (file : OverrideFile) (steps : List Step) (p : Part) (f : Finding) :
    (((file.run steps).part p).Matches f ↔
      ((file.part p).Matches f ∧ neverNarrowed p f.rule file steps = true) ∨
        ∃ before s after, steps = before ++ s :: after ∧ s.Brings p f ∧
          neverNarrowed p f.rule (file.run (before ++ [s])) after = true) ∧
    (neverNarrowed p f.rule file steps = true →
      (((file.run steps).part p).Matches f ↔ (file.part p).Matches f ∨
        (∃ other, .merge other ∈ steps ∧ (other.part p).Matches f) ∨
          ∃ entry, .add p f.rule entry ∈ steps ∧ entry.Agrees f)) := by
  refine ⟨matches_run_iff steps, fun hnever => ?_⟩
  rw [matches_run_iff, ← exists_brings_iff]
  constructor
  · rintro (⟨hmatch, -⟩ | ⟨before, s, after, rfl, hbrings, -⟩)
    · exact .inl hmatch
    · exact .inr ⟨s, by simp, hbrings⟩
  · rintro (hmatch | ⟨s, hs, hbrings⟩)
    · exact .inl ⟨hmatch, hnever⟩
    · obtain ⟨before, after, rfl⟩ := List.append_of_mem hs
      refine .inr ⟨before, s, after, rfl, hbrings, ?_⟩
      rw [← List.singleton_append, ← List.append_assoc, neverNarrowed_append] at hnever
      exact hnever.2

/-- A finding of the rule `r` on a dashboard. -/
def findingOn (title : String) : Finding := .new "r" "" ⟨0, title, ""⟩ (.error "bad")

/-- An occurrence on a dashboard. -/
def occurrenceOn (title : String) : Occurrence := ⟨none, some title, none, none, none⟩

/-- A list of occurrences that grows: by one more, and by those of another file. -/
theorem matches_run_listed :
    let file := empty.addExclusion "r" (occurrenceOn "a")
    let steps : List Step :=
      [.add .exclusions "r" (occurrenceOn "b"), .merge (empty.addExclusion "r" (occurrenceOn "c"))]
    neverNarrowed .exclusions "r" file steps = true ∧
    ∀ title ∈ ["a", "b", "c"], ((file.run steps).part .exclusions).Matches (findingOn title) := by
  intro file steps
  have hfirst : (file.part .exclusions).Matches (findingOn "a") := by decide +revert +kernel
  have hnever : neverNarrowed .exclusions "r" file steps = true := by decide +revert +kernel
  have hgrows := fun title => (matches_run file steps .exclusions (findingOn title)).2 hnever
  refine ⟨hnever, ?_⟩
  simp only [List.forall_mem_cons]
  refine ⟨(hgrows "a").mpr (.inl hfirst), (hgrows "b").mpr (.inr (.inr ⟨_, .head _, ?_⟩)),
    (hgrows "c").mpr (.inr (.inl ⟨_, .tail _ (.head _), ?_⟩)), nofun⟩
  · exact Occurrence.covers_iff.mp (by decide +kernel)
  · decide +kernel

/-- Where all findings of a rule are excluded, excluding one more of them ends that: the finding on
    another dashboard is not excluded any more. -/
theorem addExclusion_narrows :
    let file : OverrideFile := ⟨.ofList [("r", none)], .empty⟩
    (file.part .exclusions).Matches (findingOn "d") ∧
    ¬ ((file.run [.add .exclusions "r" (occurrenceOn "other")]).part .exclusions).Matches
      (findingOn "d") := by
  decide +kernel

end OverrideFile

end BoardLint
