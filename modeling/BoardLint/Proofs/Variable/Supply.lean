import BoardLint.Proofs.Variable.Form
import BoardLint.Proofs.Variable.Table
import Mathlib.Data.List.Perm.Subperm

set_option autoImplicit false

/-! # The supply of placeholders

The attempts for one variable differ in their texts, so a table with fewer entries than attempts
cannot have taken them all. `Table.HasRoom` counts how many more variables are sure to get a
placeholder; every assignment uses up one of them at most. -/

namespace BoardLint.Table

/-- The table is consistent, and a number of further variables are sure to find a placeholder. -/
structure HasRoom (t : Table) (n : Nat) : Prop where
  consistent : t.Consistent
  length_le : t.entries.length + n ≤ Placeholder.maxRetries + 1

section Room

variable {t : Table} {reference : List Char} {kind : ValueKind}

theorem Consistent.proper (ht : t.Consistent) {e : Entry} (he : e ∈ t.entries) :
    e.placeholder.Proper := by
  obtain ⟨kind, counter, hle, hp⟩ := ht.minted e he
  rw [hp]
  exact Placeholder.candidate_proper _ kind hle

/-- Where no candidate is free, every one that was tried is taken. -/
theorem isSome_of_freeFrom?_eq_none {attempts counter : Nat}
    (h : t.freeFrom? reference kind attempts counter = none) {i : Nat} (hi : i < attempts) :
    (t.byText.get? (Placeholder.candidate reference kind (counter + i)).text).isSome := by
  induction attempts generalizing counter i with
  | zero => omega
  | succ attempts ih =>
      simp only [freeFrom?] at h
      split at h
      · next htaken =>
          cases i with
          | zero => exact htaken
          | succ i =>
              rw [← Nat.succ_add_eq_add_succ]
              exact ih h (by omega)
      · exact absurd h (by simp)

/-- Candidates that are all taken are the texts of as many entries. -/
theorem Consistent.le_length_of_freeFrom?_eq_none (ht : t.Consistent) {attempts : Nat}
    (h : t.freeFrom? reference kind attempts 0 = none) : attempts ≤ t.entries.length := by
  have hinj : Function.Injective fun i => (Placeholder.candidate reference kind i).text :=
    fun _ _ he =>
      Placeholder.candidate_chars_injective reference kind (String.ofList_injective he)
  have hnodup := List.nodup_range (n := attempts) |>.map hinj
  have hsubset : (List.range attempts).map (fun i => (Placeholder.candidate reference kind i).text)
      ⊆ t.entries.map fun e => e.placeholder.text := by
    intro text htext
    obtain ⟨i, hi, rfl⟩ := List.mem_map.mp htext
    have hsome := isSome_of_freeFrom?_eq_none h (List.mem_range.mp hi)
    rw [Nat.zero_add] at hsome
    exact ht.byText.mem_iff.mpr (Option.isSome_iff_exists.mp hsome)
  simpa using (List.subperm_of_subset hnodup hsubset).length_le

theorem HasRoom.assign? {n : Nat} (h : t.HasRoom (n + 1)) (reference : List Char)
    (kind : ValueKind) :
    ∃ p t', t.assign? reference kind = some (p, t') ∧ t'.HasRoom n := by
  have hlen := h.length_le
  cases hp : t.placeholder? reference with
  | some p => exact ⟨p, t, assign?_of_placeholder? hp, h.consistent, by omega⟩
  | none =>
      cases hfree : t.freeFrom? reference kind (Placeholder.maxRetries + 1) 0 with
      | none =>
          -- all attempts taken would be more texts than there are entries
          have := h.consistent.le_length_of_freeFrom?_eq_none hfree
          omega
      | some p =>
          have ha : t.assign? reference kind = some (p, t.push ⟨reference, p⟩) := by
            simp only [Table.assign?, hp, hfree, Option.map_some]
          refine ⟨p, _, ha, h.consistent.assign? ha, ?_⟩
          simp only [push, List.length_append, List.length_singleton]
          omega

/-- Steps that each use up some room, one after another. -/
theorem HasRoom.foldlM {α : Type} {f : Table → α → Option Table} {n : Nat}
    (hf : ∀ t a m, t.HasRoom (m + n) → ∃ t', f t a = some t' ∧ t'.HasRoom m) (xs : List α) {m : Nat}
    (h : t.HasRoom (m + n * xs.length)) : ∃ t', xs.foldlM f t = some t' ∧ t'.HasRoom m := by
  induction xs generalizing t with
  | nil => exact ⟨t, rfl, h⟩
  | cons a rest ih =>
      rw [List.length_cons, Nat.mul_succ, ← Nat.add_assoc] at h
      obtain ⟨t₁, h₁, hroom⟩ := hf t a _ h
      obtain ⟨t₂, h₂, hroom⟩ := ih hroom
      exact ⟨t₂, by rw [List.foldlM_cons, h₁]; exact h₂, hroom⟩

/-- A name takes up three entries at most, one for each of its spellings. -/
theorem HasRoom.assignName? {n : Nat} (h : t.HasRoom (n + 3)) (name : String) (kind : ValueKind) :
    ∃ t', t.assignName? name kind = some t' ∧ t'.HasRoom n := by
  refine HasRoom.foldlM (n := 1) (fun t v m hroom => ?_) (Variable.spellings name) h
  obtain ⟨p, t', ha, hroom⟩ := hroom.assign? v.toList kind
  exact ⟨t', by rw [ha, Option.map_some], hroom⟩

theorem HasRoom.assignNames? (names : List (String × ValueKind)) {n : Nat}
    (h : t.HasRoom (n + 3 * names.length)) :
    ∃ t', t.assignNames? names = some t' ∧ t'.HasRoom n :=
  HasRoom.foldlM (fun _ _ _ hroom => hroom.assignName? _ _) names h

theorem HasRoom.register? (templates : List Template) {n : Nat}
    (h : t.HasRoom (n + 3 * (templates.filter fun template => !template.name.isEmpty).length)) :
    ∃ t', t.register? templates = some t' ∧ t'.HasRoom n :=
  HasRoom.foldlM (fun _ template _ hroom => hroom.assignName? template.name _) _ h

end Room

/-! ## The variables of the server -/

theorem empty_hasRoom : empty.HasRoom (Placeholder.maxRetries + 1) :=
  ⟨empty_consistent, by simp [empty]⟩

/-- The variables of the server find their placeholders, and leave room for many more. -/
theorem initial_spec : empty.assignNames? globals = some initial ∧ initial.HasRoom 9944 := by
  obtain ⟨t, ht, hroom⟩ := HasRoom.assignNames? (n := 9944) globals empty_hasRoom
  have hinitial : initial = t := by rw [initial, ht, Option.getD_some]
  rw [hinitial]
  exact ⟨ht, hroom⟩

/-- Steps that keep a property of tables keep it one after another. -/
theorem foldlM_invariant {α : Type} {P : Table → Prop} {f : Table → α → Option Table}
    {xs : List α} (hf : ∀ a ∈ xs, ∀ t t', P t → f t a = some t' → P t') {t t' : Table} (ht : P t)
    (h : xs.foldlM f t = some t') : P t' := by
  induction xs generalizing t with
  | nil =>
      obtain rfl : t = t' := Option.some.inj h
      exact ht
  | cons a rest ih =>
      rw [List.foldlM_cons] at h
      obtain ⟨t₁, h₁, h₂⟩ := Option.bind_eq_some_iff.mp h
      exact ih (fun b hb => hf b (List.mem_cons_of_mem a hb))
        (hf a List.mem_cons_self t t₁ ht h₁) h₂

/-! ## References with placeholders -/

/-- A reference has a placeholder. -/
def Knows (t : Table) (v : String) : Prop := ∃ p, t.placeholder? v.toList = some p

theorem Grows.knows {t t' : Table} (h : t.Grows t') (ht : t.Consistent) {v : String}
    (hv : t.Knows v) : t'.Knows v := by
  obtain ⟨p, hp⟩ := hv
  exact ⟨p, h.placeholder? ht hp⟩

/-- If each step gives placeholders to some references, then all of these have one at the end. -/
theorem foldlM_knows {α : Type} {f : Table → α → Option Table} {R : α → List String}
    (hgrows : ∀ t a t', f t a = some t' → t.Grows t')
    (hstep : ∀ t a t', t.Consistent → f t a = some t' → ∀ v ∈ R a, t'.Knows v)
    {xs : List α} {t t' : Table} (ht : t.Consistent) (h : xs.foldlM f t = some t') :
    ∀ a ∈ xs, ∀ v ∈ R a, t'.Knows v := by
  induction xs generalizing t with
  | nil => exact fun a ha => absurd ha List.not_mem_nil
  | cons a rest ih =>
      rw [List.foldlM_cons] at h
      obtain ⟨t₁, h₁, h₂⟩ := Option.bind_eq_some_iff.mp h
      have ht₁ := (hgrows t a t₁ h₁).consistent ht
      intro b hb v hv
      rcases List.mem_cons.mp hb with rfl | hb
      · exact (Grows.foldlM hgrows h₂).knows ht₁ (hstep t b t₁ ht h₁ v hv)
      · exact ih ht₁ h₂ b hb v hv

theorem Consistent.knows_of_assignName? {t t' : Table} (ht : t.Consistent) {name : String}
    {kind : ValueKind} (h : t.assignName? name kind = some t') {v : String}
    (hv : v ∈ Variable.spellings name) : t'.Knows v := by
  refine foldlM_knows (R := fun v => [v]) (fun _ _ _ => Grows.of_map_assign?) ?_ ht h v hv v
    (List.mem_singleton_self v)
  intro t w t' ht hmap v hv
  obtain rfl := List.mem_singleton.mp hv
  obtain ⟨⟨p, s⟩, ha, rfl⟩ := Option.map_eq_some_iff.mp hmap
  exact ⟨p, ht.placeholder?_of_assign? ha⟩

/-- Every spelling of a variable of the server has a placeholder from the beginning. -/
theorem initial_knows {g : String × ValueKind} (hg : g ∈ globals) {v : String}
    (hv : v ∈ Variable.spellings g.1) : initial.Knows v :=
  foldlM_knows (R := fun g : String × ValueKind => Variable.spellings g.1)
    (fun _ _ _ h => assignName?_grows h) (fun _ _ _ ht h _ hv => ht.knows_of_assignName? h hv)
    empty_consistent initial_spec.1 g hg v hv

/-! ## References that have entries -/

/-- Every entry is for a reference that may have its kind. -/
def Sorted (R : List Char → ValueKind → Prop) (t : Table) : Prop :=
  ∀ e ∈ t.entries, R e.reference e.placeholder.kind

section Sorted

variable {R : List Char → ValueKind → Prop} {t t' : Table}

theorem Sorted.assign? (h : t.Sorted R) {reference : List Char} {kind : ValueKind}
    {p : Placeholder} (hR : R reference kind) (ha : t.assign? reference kind = some (p, t')) :
    t'.Sorted R := by
  rcases assign?_cases ha with ⟨-, rfl⟩ | ⟨hnone, -, -, rfl⟩
  · exact h
  · intro e he
    rcases List.mem_append.mp he with he | he
    · exact h e he
    · obtain ⟨n, rfl⟩ := candidate_of_assign? hnone ha
      rw [List.mem_singleton.mp he, Placeholder.kind_candidate]
      exact hR

theorem Sorted.assignName? (h : t.Sorted R) {name : String} {kind : ValueKind}
    (hR : ∀ v ∈ Variable.spellings name, R v.toList kind)
    (ha : t.assignName? name kind = some t') : t'.Sorted R := by
  refine foldlM_invariant (P := Sorted R) (fun v hv t t' ht hmap => ?_) h ha
  obtain ⟨⟨p, s⟩, ha, rfl⟩ := Option.map_eq_some_iff.mp hmap
  exact ht.assign? (hR v hv) ha

end Sorted

/-- The kinds of the references to the variables of the server. -/
def IsGlobal (reference : List Char) (kind : ValueKind) : Prop :=
  ∃ g ∈ globals, ∃ v ∈ Variable.spellings g.1, v.toList = reference ∧ kind = g.2

theorem initial_sorted : initial.Sorted IsGlobal := by
  have hempty : empty.Sorted IsGlobal := fun e he => absurd he List.not_mem_nil
  refine foldlM_invariant (P := Sorted IsGlobal) (fun g hg t t' ht h => ?_) hempty initial_spec.1
  exact ht.assignName? (fun v hv => ⟨g, hg, v, hv, rfl, rfl⟩) h

/-- Every entry of the table is for one of the given references. -/
def RefersTo (t : Table) (references : List String) : Prop :=
  ∀ e ∈ t.entries, String.ofList e.reference ∈ references

/-- The first table has entries for the server's variables only. -/
theorem initial_refersTo :
    initial.RefersTo (globals.flatMap fun g => Variable.spellings g.1) := by
  intro e he
  obtain ⟨g, hg, v, hv, hreference, -⟩ := initial_sorted e he
  rw [← hreference, String.ofList_toList]
  exact List.mem_flatMap.mpr ⟨g, hg, hv⟩

/-- A reference to no variable of the server has no placeholder at first. -/
theorem initial_placeholder?_eq_none {reference : List Char}
    (h : String.ofList reference ∉ globals.flatMap fun g => Variable.spellings g.1) :
    initial.placeholder? reference = none := by
  rw [Option.eq_none_iff_forall_ne_some]
  intro p hp
  exact h (initial_refersTo _ (initial_consistent.placeholder?_eq_some_iff.mp hp))

/-- A dashboard of any common size finds placeholders for its template variables. -/
theorem exists_register? {templates : List Template} (h : 3 * templates.length ≤ 9944) :
    ∃ t, initial.register? templates = some t ∧ t.Consistent := by
  have hnamed :=
    List.length_filter_le (fun template : Template => !template.name.isEmpty) templates
  have hroom : initial.HasRoom
      (0 + 3 * (templates.filter fun template => !template.name.isEmpty).length) := by
    refine ⟨initial_spec.2.consistent, ?_⟩
    have := initial_spec.2.length_le
    omega
  obtain ⟨t, ht, hroom⟩ := hroom.register? templates
  exact ⟨t, ht, hroom.consistent⟩

/-- The spellings of the first variable keep the placeholders that they get at the beginning. -/
theorem initial_placeholder?_of_first {reference : List Char} {p : Placeholder}
    (h : (empty.assignName? "__rate_interval" .timeRange).bind (·.placeholder? reference) =
      some p) : initial.placeholder? reference = some p := by
  have hnames := initial_spec.1
  rw [assignNames?, globals, List.foldlM_cons] at hnames
  obtain ⟨t, hname, hrest⟩ := Option.bind_eq_some_iff.mp hnames
  have hname : empty.assignName? "__rate_interval" .timeRange = some t := hname
  rw [hname, Option.bind_some] at h
  exact (assignNames?_grows hrest).placeholder?
    ((assignName?_grows hname).consistent empty_consistent) h

/-- The first variable has the first numbers of seconds. -/
theorem initial_placeholder?_rateInterval :
    initial.placeholder? "$__rate_interval".toList = some (.seconds 11277964) :=
  initial_placeholder?_of_first (by decide +kernel)

theorem initial_placeholder?_rateInterval_braces :
    initial.placeholder? "$\x7b__rate_interval\x7d".toList = some (.seconds 11277965) :=
  initial_placeholder?_of_first (by decide +kernel)

end BoardLint.Table
