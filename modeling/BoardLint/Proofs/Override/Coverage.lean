import BoardLint.Override.Cascade
import BoardLint.Proofs.KeyMap

set_option autoImplicit false

/-! # What overrides are about

`Overrides.Matches` says which findings an override is about, field by field and without the checks
that decide it. The overrides of a directory are merged into those of the project, value by value,
before anything is matched; the merged overrides are about what either of them is about
(`Overrides.covers_merge`). So the cascade means a union, with exclusions first. -/

namespace BoardLint

/-! ## Occurrences -/

/-- Every field of the occurrence that is set agrees with the finding. A part that the finding lacks
    agrees with no set field, and a position that is no number is not set. -/
structure Occurrence.Agrees (o : Occurrence) (f : Finding) : Prop where
  dashboard : ∀ title, o.dashboard = some title → f.dashboard.title = title
  panel : ∀ title, o.panel = some title → ∃ p, f.panel = some p ∧ p.title = title
  target : ∀ i n, o.target = some i → i.number? = some n → f.target = some n.toNat
  template : ∀ name, o.template = some name → ∃ t, f.template = some t ∧ t.name = name

theorem Occurrence.covers_iff {o : Occurrence} {f : Finding} : o.covers f = true ↔ o.Agrees f := by
  simp only [covers, Bool.and_eq_true, Option.all_eq_true, Option.any_eq_true, beq_iff_eq]
  constructor
  · rintro ⟨⟨⟨hdashboard, hpanel⟩, htarget⟩, htemplate⟩
    refine ⟨fun title h => (hdashboard title h).symm, hpanel, fun i n hi hn => ?_, htemplate⟩
    exact htarget n (Option.bind_eq_some_iff.mpr ⟨i, hi, hn⟩)
  · rintro ⟨hdashboard, hpanel, htarget, htemplate⟩
    refine ⟨⟨⟨fun title h => (hdashboard title h).symm, hpanel⟩, fun n hn => ?_⟩, htemplate⟩
    obtain ⟨i, hi, hn⟩ := Option.bind_eq_some_iff.mp hn
    exact htarget i n hi hn

namespace Overrides

/-- The overrides are about a finding: they have its rule, without a value, without entries, or with
    an entry that agrees with the finding. -/
inductive Matches (o : Overrides) (f : Finding) : Prop
  | all (h : o.get? f.rule = some none)
  | unlisted {reason : Option String} (h : o.get? f.rule = some (some ⟨reason, []⟩))
  | listed {reason : Option String} {entries : List Occurrence} {e : Occurrence}
      (h : o.get? f.rule = some (some ⟨reason, entries⟩)) (he : e ∈ entries) (hf : e.Agrees f)

theorem covers_iff {o : Overrides} {f : Finding} : o.covers f = true ↔ o.Matches f := by
  unfold covers
  constructor
  · intro h
    split at h
    · exact absurd h (by simp)
    · next hget => exact .all hget
    · next occurrences hget =>
        obtain ⟨reason, entries⟩ := occurrences
        cases entries with
        | nil => exact .unlisted hget
        | cons e rest =>
            rw [Occurrences.covers, List.isEmpty_cons, Bool.false_or, List.any_eq_true] at h
            obtain ⟨e', he', hcovers⟩ := h
            exact .listed hget he' (Occurrence.covers_iff.mp hcovers)
  · rintro (hget | hget | ⟨hget, he, hf⟩)
    · rw [hget]
    · rw [hget]
      rfl
    · rw [hget]
      refine Bool.or_eq_true_iff.mpr (Or.inr (List.any_eq_true.mpr ⟨_, he, ?_⟩))
      exact Occurrence.covers_iff.mpr hf

instance (o : Overrides) (f : Finding) : Decidable (o.Matches f) :=
  decidable_of_iff _ covers_iff

/-! ## Merging -/

theorem covers_eq (o : Overrides) (f : Finding) :
    o.covers f = (o.get? f.rule).any fun value => value.all fun o => o.covers f := by
  unfold covers
  cases o.get? f.rule with
  | none => rfl
  | some value => cases value <;> rfl

/-- Two values of one rule in one are about what either of them is about. A value without entries is
    about everything, and so is what it is joined with. -/
theorem all_join (first second : Option Occurrences) (f : Finding) :
    (join first second).all (fun o => o.covers f) =
      (first.all (fun o => o.covers f) || second.all fun o => o.covers f) := by
  have hcovers : ∀ reason entries, (Occurrences.mk reason entries).covers f =
      (entries.isEmpty || entries.any fun e => e.covers f) := fun _ _ => rfl
  have hreason : ∀ reason : Option String,
      (reason.map fun r => Occurrences.mk (some r) []).all (fun o => o.covers f) = true := by
    rintro (_ | reason) <;> rfl
  rcases first with _ | ⟨reason, entries⟩
  · rw [join, if_pos (by simp), hreason]
    rfl
  rcases second with _ | ⟨reason', entries'⟩
  · rw [join, if_pos (by simp), hreason]
    simp
  by_cases hempty : entries = [] ∨ entries' = []
  · rw [join, if_pos (by simpa using hempty), hreason]
    rcases hempty with rfl | rfl <;> simp [hcovers]
  · obtain ⟨hentries, hentries'⟩ := not_or.mp hempty
    rw [join, if_neg (by simp [hentries, hentries'])]
    have hnone : entries.isEmpty = false ∧ entries'.isEmpty = false ∧
        (entries ++ entries').isEmpty = false := by
      simp [hentries, hentries']
    simp only [Option.map_some, Option.getD_some, Option.all_some, hcovers, hnone, Bool.false_or,
      List.any_append]

theorem get?_merge (base other : Overrides) (rule : String) :
    (merge base other).get? rule = (other.get? rule).elim (base.get? rule) fun extra =>
      some ((base.get? rule).elim extra fun current => join current extra) := by
  have hmerge : merge base other = other.entries.foldl (fun m x => m.update x.1
      fun known => known.elim x.2 fun current => join current x.2) base := by
    unfold merge
    congr 1
    funext m ⟨rule, extra⟩
    refine congrArg (m.update rule) (funext fun known => ?_)
    cases known <;> rfl
  rw [hmerge]
  exact KeyMap.get?_foldl_update (fun extra known => known.elim extra fun current =>
    join current extra) other.increasing base rule

theorem covers_merge (base other : Overrides) (f : Finding) :
    (merge base other).covers f = (base.covers f || other.covers f) := by
  rw [covers_eq, covers_eq, covers_eq, get?_merge]
  cases base.get? f.rule with
  | none => cases other.get? f.rule <;> simp
  | some current =>
      cases other.get? f.rule with
      | none => simp
      | some extra => simp [all_join]

theorem matches_merge {base other : Overrides} {f : Finding} :
    (merge base other).Matches f ↔ base.Matches f ∨ other.Matches f := by
  rw [← covers_iff, ← covers_iff, ← covers_iff, covers_merge, Bool.or_eq_true]

end Overrides

/-! ## The cascade -/

namespace Cascade

/-- The overrides of a project after files were added for directories, one after another. -/
def ofFiles (base : OverrideFile) (verbose : Bool) (added : List (String × OverrideFile)) :
    Cascade :=
  added.foldl (fun c x => c.addUnit x.1 x.2) (Cascade.new base verbose)

/-- The last file that was added for a directory. -/
def lastFile? (unit : String) (added : List (String × OverrideFile)) : Option OverrideFile :=
  ((added.filter fun x => x.1 == unit).getLast?).map (·.2)

theorem lastFile?_cons (unit : String) (x : String × OverrideFile)
    (rest : List (String × OverrideFile)) :
    lastFile? unit (x :: rest) =
      (lastFile? unit rest).or (if x.1 = unit then some x.2 else none) := by
  unfold lastFile?
  by_cases hx : x.1 = unit
  · rw [List.filter_cons_of_pos (by simpa using hx), if_pos hx, List.getLast?_cons]
    cases (rest.filter fun x => x.1 == unit).getLast? <;> rfl
  · rw [List.filter_cons_of_neg (by simpa using hx), if_neg hx, Option.or_none]

theorem lastFile?_filter (unit : String) (added : List (String × OverrideFile)) :
    lastFile? unit (added.filter fun x => x.1 == unit) = lastFile? unit added := by
  rw [lastFile?, List.filter_filter]
  simp only [Bool.and_self]
  rfl

/-- Adding files changes the overrides of their directories only: those of a directory are the
    project's together with the last file that was added for it. -/
theorem foldl_addUnit (added : List (String × OverrideFile)) (c : Cascade) :
    (added.foldl (fun c x => c.addUnit x.1 x.2) c).base = c.base ∧
    (added.foldl (fun c x => c.addUnit x.1 x.2) c).verbose = c.verbose ∧
    ∀ unit, (added.foldl (fun c x => c.addUnit x.1 x.2) c).units.get? unit =
      ((lastFile? unit added).map c.base.merge).or (c.units.get? unit) := by
  induction added generalizing c with
  | nil => exact ⟨rfl, rfl, fun unit => rfl⟩
  | cons x rest ih =>
      obtain ⟨hbase, hverbose, hunits⟩ := ih (c.addUnit x.1 x.2)
      refine ⟨hbase, hverbose, fun unit => ?_⟩
      have hadd : (c.addUnit x.1 x.2).units.get? unit =
          if unit = x.1 then some (c.base.merge x.2) else c.units.get? unit :=
        KeyMap.get?_insert c.units x.1 _ unit
      rw [List.foldl_cons, hunits, hadd, lastFile?_cons]
      cases lastFile? unit rest with
      | some file => rfl
      | none =>
          by_cases hx : x.1 = unit
          · rw [if_pos hx, if_pos hx.symm]
            rfl
          · rw [if_neg hx, if_neg (Ne.symm hx)]
            rfl

theorem fileFor_ofFiles (base : OverrideFile) (verbose : Bool)
    (added : List (String × OverrideFile)) (unit : String) :
    (ofFiles base verbose added).fileFor unit =
      ((lastFile? unit added).map base.merge).getD base := by
  obtain ⟨hbase, -, hunits⟩ := foldl_addUnit added (Cascade.new base verbose)
  rw [fileFor, ofFiles, hunits, hbase]
  cases lastFile? unit added <;> rfl

/-- Of one kind of overrides, those of the project or those of the last file that was added for the
    directory of the finding match it. -/
def Hits (kind : OverrideFile → Overrides) (base : OverrideFile)
    (added : List (String × OverrideFile)) (f : Finding) : Prop :=
  (kind base).Matches f ∨ ∃ file ∈ lastFile? f.dashboard.unit added, (kind file).Matches f

instance (kind : OverrideFile → Overrides) (base : OverrideFile)
    (added : List (String × OverrideFile)) (f : Finding) : Decidable (Hits kind base added f) :=
  inferInstanceAs (Decidable (_ ∨ _))

theorem covers_fileFor {kind : OverrideFile → Overrides}
    (hkind : ∀ a b : OverrideFile, kind (a.merge b) = (kind a).merge (kind b))
    (base : OverrideFile) (verbose : Bool) (added : List (String × OverrideFile)) (f : Finding) :
    (kind ((ofFiles base verbose added).fileFor f.dashboard.unit)).covers f = true ↔
      Hits kind base added f := by
  rw [fileFor_ofFiles, Overrides.covers_iff, Hits]
  cases lastFile? f.dashboard.unit added with
  | none => simp
  | some file => simp [hkind, Overrides.matches_merge]

/-- What overrides make of a diagnostic, with the last word on the severity first. -/
theorem effective_eq (c : Cascade) (f : Finding) :
    c.effective f = {
      severity :=
        if f.fixed then .fixed
        else if (c.fileFor f.dashboard.unit).exclusions.covers f then .exclude
        else if (c.fileFor f.dashboard.unit).warnings.covers f then .warning
        else if f.raw.severity = .success ∧ c.verbose = false then .quiet
        else f.raw.severity
      message :=
        if (c.fileFor f.dashboard.unit).exclusions.covers f then f.raw.message ++ " (Excluded)"
        else f.raw.message
      fix := f.raw.fix } := by
  dsimp only [effective]
  generalize (c.fileFor f.dashboard.unit).exclusions.covers f = excluded
  generalize (c.fileFor f.dashboard.unit).warnings.covers f = warned
  cases excluded with
  | true => cases f.fixed <;> simp
  | false =>
      cases warned with
      | true => cases f.fixed <;> simp
      | false =>
          by_cases hquiet : f.raw.severity = .success ∧ c.verbose = false
          · cases f.fixed <;> simp [hquiet]
          · have hloud : ¬ (c.verbose = false ∧ f.raw.severity = .success) :=
              fun h => hquiet h.symm
            cases f.fixed <;> simp [hquiet, hloud]

/-- **Cascading overrides mean a union, with exclusions first.** Whatever files are added for
    whatever directories, in any order and any number of times: a finding is excluded if an
    exclusion of the project or of the last file added for its directory matches it, otherwise a
    warning if a warning of one of them does, and otherwise what its check said, where a passed
    check is quiet unless passed checks are reported. A repaired finding counts as fixed in any
    case. The message says once that the finding is excluded, also when the overrides are applied
    again, and files added for other directories make no difference. -/
theorem apply_ofFiles (base : OverrideFile) (verbose : Bool)
    (added : List (String × OverrideFile)) (f : Finding) :
    let c := ofFiles base verbose added
    c.apply f = { f with effective := {
      severity :=
        if f.fixed then .fixed
        else if Hits (·.exclusions) base added f then .exclude
        else if Hits (·.warnings) base added f then .warning
        else if f.raw.severity = .success ∧ verbose = false then .quiet
        else f.raw.severity
      message :=
        if Hits (·.exclusions) base added f then f.raw.message ++ " (Excluded)" else f.raw.message
      fix := f.raw.fix } } ∧
    c.apply (c.apply f) = c.apply f ∧
    (ofFiles base verbose (added.filter fun x => x.1 == f.dashboard.unit)).apply f = c.apply f := by
  have heffective (added : List (String × OverrideFile)) :
      (ofFiles base verbose added).verbose = verbose ∧
      ((((ofFiles base verbose added).fileFor f.dashboard.unit).exclusions.covers f = true ↔
        Hits (·.exclusions) base added f) ∧
      (((ofFiles base verbose added).fileFor f.dashboard.unit).warnings.covers f = true ↔
        Hits (·.warnings) base added f)) :=
    ⟨(foldl_addUnit added (Cascade.new base verbose)).2.1,
      covers_fileFor (fun _ _ => rfl) base verbose added f,
      covers_fileFor (fun _ _ => rfl) base verbose added f⟩
  refine ⟨?_, rfl, ?_⟩
  · simp only [apply, effective_eq, heffective]
  · simp only [apply, effective_eq, heffective, Hits, lastFile?_filter]

end Cascade

end BoardLint
