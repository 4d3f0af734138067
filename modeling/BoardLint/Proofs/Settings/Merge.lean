import BoardLint.Proofs.Override.Coverage
import BoardLint.Settings.Basic
import Mathlib.Data.List.Induction

set_option autoImplicit false

/-! # Merging in any grouping

Settings come in layers that are merged one into another, and so do files of overrides. Every field
has a policy of its own: the last value that is not the initial one, the last value, all values in
order, or all values that are new. `Settings.merge_associative` says that each of them leaves it
open which two of three layers are merged first. -/

namespace BoardLint

namespace Overrides

/-! ## Two values of one rule -/

/-- The reason that a value gives. -/
def reasonOf (value : Option Occurrences) : Option String := value.bind (·.reason)

/-- The occurrences that a value lists. -/
def entriesOf (value : Option Occurrences) : List Occurrence := (value.map (·.entries)).getD []

/-- The occurrences of two lists. A list without any stands for all occurrences, and nothing is left
    to list beside it. -/
def listBoth (xs ys : List Occurrence) : List Occurrence :=
  if xs.isEmpty || ys.isEmpty then [] else xs ++ ys

/-- The value with a reason and entries. Without both it is no value. -/
def valueOf (reason : Option String) : List Occurrence → Option Occurrences
  | [] => reason.map fun r => ⟨some r, []⟩
  | e :: rest => some ⟨reason, e :: rest⟩

theorem reasonOf_valueOf (reason : Option String) (entries : List Occurrence) :
    reasonOf (valueOf reason entries) = reason := by
  cases entries with
  | nil => cases reason <;> rfl
  | cons e rest => rfl

theorem entriesOf_valueOf (reason : Option String) (entries : List Occurrence) :
    entriesOf (valueOf reason entries) = entries := by
  cases entries with
  | nil => cases reason <;> rfl
  | cons e rest => rfl

theorem listBoth_assoc (xs ys zs : List Occurrence) :
    listBoth (listBoth xs ys) zs = listBoth xs (listBoth ys zs) := by
  cases xs with
  | nil => rfl
  | cons x xs =>
      cases ys with
      | nil => rfl
      | cons y ys => cases zs <;> simp [listBoth]

theorem join_eq (first second : Option Occurrences) :
    join first second = valueOf ((reasonOf first).or (reasonOf second))
      (listBoth (entriesOf first) (entriesOf second)) := by
  have hjoin : join first second =
      if (entriesOf first).isEmpty || (entriesOf second).isEmpty then
        ((reasonOf first).or (reasonOf second)).map fun r => ⟨some r, []⟩
      else some ⟨(reasonOf first).or (reasonOf second), entriesOf first ++ entriesOf second⟩ := rfl
  rw [hjoin, listBoth]
  split
  · rfl
  · next hlisted =>
      -- the first list has an entry, and so has the whole
      cases hentries : entriesOf first with
      | nil => simp [hentries] at hlisted
      | cons e rest => rfl

/-- The first reason counts, and the lists grow from the front, until one of them stands for all. -/
theorem join_assoc (first second third : Option Occurrences) :
    join (join first second) third = join first (join second third) := by
  simp only [join_eq, reasonOf_valueOf, entriesOf_valueOf, Option.or_assoc, listBoth_assoc]

/-! ## Maps -/

theorem merge_assoc (a b c : Overrides) : merge (merge a b) c = merge a (merge b c) := by
  refine KeyMap.ext_get? fun rule => ?_
  simp only [get?_merge]
  -- a rule that one of the maps lacks has the value that the other two give it
  cases a.get? rule with
  | none => cases b.get? rule <;> cases c.get? rule <;> rfl
  | some first =>
      cases b.get? rule with
      | none => cases c.get? rule <;> rfl
      | some second =>
          cases c.get? rule with
          | none => rfl
          | some third => exact congrArg some (join_assoc first second third)

theorem empty_merge (a : Overrides) : merge .empty a = a := by
  refine KeyMap.ext_get? fun rule => ?_
  rw [get?_merge, KeyMap.get?_empty]
  cases a.get? rule <;> rfl

end Overrides

namespace OverrideFile

theorem merge_assoc (a b c : OverrideFile) : (a.merge b).merge c = a.merge (b.merge c) := by
  unfold merge
  rw [Overrides.merge_assoc, Overrides.merge_assoc]

theorem merge_empty (a : OverrideFile) : a.merge empty = a := rfl

theorem empty_merge (a : OverrideFile) : empty.merge a = a := by
  unfold merge empty
  rw [Overrides.empty_merge, Overrides.empty_merge]

end OverrideFile

/-! ## Sections -/

/-- The last of three values that is set, with either two of them looked at first. -/
theorem lastSet_assoc {α : Type} (unset : α → Bool) (a b c : α) :
    (if unset c then if unset b then a else b else c) =
      if unset (if unset c then b else c) then a else if unset c then b else c := by
  by_cases hc : unset c = true
  · simp only [if_pos hc]
  · simp only [if_neg hc]

theorem EngineSettings.merge_assoc (a b c : EngineSettings) :
    (a.merge b).merge c = a.merge (b.merge c) := by
  unfold merge
  simp only [lastSet_assoc (· == 0) a.jobs b.jobs c.jobs]

theorem OutputSettings.merge_assoc (a b c : OutputSettings) :
    (a.merge b).merge c = a.merge (b.merge c) := by
  unfold merge
  simp only [lastSet_assoc (· == ReportForm.text) a.format b.format c.format,
    lastSet_assoc (· == ColorMode.auto) a.color b.color c.color, Bool.or_assoc]

theorem FileSettings.merge_assoc (a b c : FileSettings) :
    (a.merge b).merge c = a.merge (b.merge c) := by
  unfold merge
  simp only [List.append_assoc]

namespace RuleSettings

theorem addNames_concat (names new : List String) (name : String) :
    addNames names (new ++ [name]) =
      if (addNames names new).contains name then addNames names new
      else addNames names new ++ [name] := by
  unfold addNames
  rw [List.foldl_append]
  rfl

theorem mem_addNames {names new : List String} {name : String} :
    name ∈ addNames names new ↔ name ∈ names ∨ name ∈ new := by
  induction new using List.reverseRecOn with
  | nil => simp [addNames]
  | append_singleton new last ih =>
      rw [addNames_concat, List.mem_append, List.mem_singleton, ← or_assoc, ← ih]
      split
      · next hlast =>
          rw [List.contains_iff_mem] at hlast
          constructor
          · exact Or.inl
          · rintro (h | rfl)
            · exact h
            · exact hlast
      · rw [List.mem_append, List.mem_singleton]

/-- A name that the second list has is in what the first two make, so whether it is dropped from the
    third list at once or later makes no difference. -/
theorem addNames_assoc (a b c : List String) :
    addNames (addNames a b) c = addNames a (addNames b c) := by
  induction c using List.reverseRecOn with
  | nil => rfl
  | append_singleton c last ih =>
      rw [addNames_concat, addNames_concat b, ih]
      by_cases hlast : last ∈ addNames b c
      · have hall : last ∈ addNames a (addNames b c) := mem_addNames.mpr (Or.inr hlast)
        rw [if_pos (List.contains_iff_mem.mpr hlast), if_pos (List.contains_iff_mem.mpr hall)]
      · rw [if_neg (mt List.contains_iff_mem.mp hlast), addNames_concat]

theorem merge_assoc (a b c : RuleSettings) : (a.merge b).merge c = a.merge (b.merge c) := by
  unfold merge
  simp only [List.append_assoc, lastSet_assoc List.isEmpty a.enabled b.enabled c.enabled,
    addNames_assoc, Bool.or_assoc]

end RuleSettings

/-! ## Settings -/

namespace Settings

theorem merge_assoc (a b c : Settings) : (a.merge b).merge c = a.merge (b.merge c) := by
  unfold merge
  rw [EngineSettings.merge_assoc, OutputSettings.merge_assoc, FileSettings.merge_assoc,
    RuleSettings.merge_assoc, OverrideFile.merge_assoc]

theorem merge_initial (a : Settings) : a.merge initial = { a with
    engine := { a.engine with parallel := false }
    files := a.files.merge .initial } := by
  simp [merge, initial, EngineSettings.merge, EngineSettings.initial, OutputSettings.merge,
    OutputSettings.initial, RuleSettings.merge, RuleSettings.initial, RuleSettings.addNames,
    OverrideFile.merge_empty]

theorem initial_merge (a : Settings) : initial.merge a = { a with
    files := FileSettings.initial.merge a.files
    rules := { a.rules with
      requiredVariables := RuleSettings.addNames [] a.rules.requiredVariables } } := by
  have hlast : ∀ {α : Type} [DecidableEq α] (x unset : α),
      (if x == unset then unset else x) = x := by
    intro α _ x unset
    by_cases hx : x = unset <;> simp [hx]
  have henabled : (if a.rules.enabled.isEmpty then [] else a.rules.enabled) = a.rules.enabled := by
    cases a.rules.enabled <;> rfl
  simp only [merge, initial, EngineSettings.merge, EngineSettings.initial, OutputSettings.merge,
    OutputSettings.initial, RuleSettings.merge, RuleSettings.initial, OverrideFile.empty_merge,
    hlast, henabled, Bool.false_or, List.nil_append]

/-- **Merging settings is associative.** Of three files of overrides, it makes no difference for the
    rules, the entries of each, their order and the reasons whether the second is merged into the
    first and then the third, or the third into the second and both into the first; and a file
    without overrides changes nothing on either side. The same grouping is free for whole settings,
    in every field. Those of a project that configures nothing are neutral but for their patterns:
    on the right they say that a run is not parallel, on the left they leave each required variable
    in once. -/
theorem merge_associative :
    (∀ a b c : OverrideFile, (a.merge b).merge c = a.merge (b.merge c)) ∧
    (∀ a : OverrideFile, a.merge .empty = a ∧ OverrideFile.empty.merge a = a) ∧
    (∀ a b c : Settings, (a.merge b).merge c = a.merge (b.merge c)) ∧
    ∀ a : Settings,
      a.merge initial = { a with
        engine := { a.engine with parallel := false }
        files := a.files.merge .initial } ∧
      initial.merge a = { a with
        files := FileSettings.initial.merge a.files
        rules := { a.rules with
          requiredVariables := RuleSettings.addNames [] a.rules.requiredVariables } } :=
  ⟨OverrideFile.merge_assoc, fun a => ⟨OverrideFile.merge_empty a, OverrideFile.empty_merge a⟩,
    merge_assoc, fun a => ⟨merge_initial a, initial_merge a⟩⟩

end Settings

end BoardLint
