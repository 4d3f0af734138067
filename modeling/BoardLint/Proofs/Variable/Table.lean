import BoardLint.Proofs.KeyMap
import BoardLint.Variable.Expansion
import Mathlib.Data.List.Nodup
import Mathlib.Logic.Relation

set_option autoImplicit false

/-! # Tables of placeholders

A table keeps its entries in a list and finds them through two indices. `Table.Consistent` says that
the indices hold the positions of the entries and nothing else, and that every placeholder is one of
the candidates for its variable.

All operations on a table come down to `Table.assign?`, so what they do is said once: `Table.Grows`
is any number of assignments, one after another. It keeps tables consistent and never changes or
removes an entry. -/

namespace BoardLint

/-! ## Indices -/

/-- An index holds the position of every key of a list, and nothing else. -/
def KeyMap.Indexes (index : KeyMap Nat) (keys : List String) : Prop :=
  ∀ key i, index.get? key = some i ↔ keys[i]? = some key

namespace KeyMap.Indexes

variable {index : KeyMap Nat} {keys : List String} {key : String}

theorem nil : (KeyMap.empty : KeyMap Nat).Indexes [] := by
  intro key i
  simp

theorem mem_iff (h : index.Indexes keys) : key ∈ keys ↔ ∃ i, index.get? key = some i := by
  rw [List.mem_iff_getElem?]
  exact exists_congr fun i => (h key i).symm

theorem not_mem_iff (h : index.Indexes keys) : key ∉ keys ↔ index.get? key = none := by
  rw [h.mem_iff, Option.eq_none_iff_forall_ne_some]
  exact not_exists

/-- No key is in the list twice, since an index has one position for it. -/
theorem nodup (h : index.Indexes keys) : keys.Nodup := by
  rw [List.nodup_iff_getElem?_ne_getElem?]
  intro i j hij hj heq
  have hkey : keys[j]? = some (keys[j]) := List.getElem?_eq_getElem hj
  have hi := (h (keys[j]) i).mpr (heq.trans hkey)
  have hj := (h (keys[j]) j).mpr hkey
  have : i = j := Option.some.inj (hi.symm.trans hj)
  omega

/-- A new key at the end of the list, with its position in the index. -/
theorem insert (h : index.Indexes keys) (hkey : index.get? key = none) :
    (index.insert key keys.length).Indexes (keys ++ [key]) := by
  intro k i
  rw [KeyMap.get?_insert, List.getElem?_append]
  by_cases hk : k = key
  · -- the new key: its position is the end, where no old key is
    rw [if_pos hk, hk]
    split
    · next hlt =>
        rw [← h key i, hkey]
        simp only [Option.some.injEq, reduceCtorEq, iff_false]
        omega
    · next hge =>
        rw [List.getElem?_singleton]
        simp only [Option.some.injEq]
        split <;> simp <;> omega
  · rw [if_neg hk, h k i]
    split
    · rfl
    · next hge =>
        rw [List.getElem?_singleton, List.getElem?_eq_none (by omega)]
        split <;> simp [Ne.symm hk]

end KeyMap.Indexes

/-! ## Consistent tables -/

/-- The placeholder is one of the candidates for its reference. -/
def Entry.Minted (e : Entry) : Prop :=
  ∃ kind counter, counter ≤ Placeholder.maxRetries ∧
    e.placeholder = Placeholder.candidate e.reference kind counter

namespace Table

/-- Both indices hold the positions of the entries, and every placeholder was made for its
    variable. -/
structure Consistent (t : Table) : Prop where
  byReference : t.byReference.Indexes (t.entries.map fun e => String.ofList e.reference)
  byText : t.byText.Indexes (t.entries.map fun e => e.placeholder.text)
  minted : ∀ e ∈ t.entries, e.Minted

theorem empty_consistent : Table.empty.Consistent where
  byReference := KeyMap.Indexes.nil
  byText := KeyMap.Indexes.nil
  minted := fun _ he => absurd he List.not_mem_nil

section Lookup

variable {t : Table}

/-- An index of the entries by a key finds the entries by it. -/
theorem entryAt?_eq_some_iff {index : KeyMap Nat} {key : Entry → String}
    (h : index.Indexes (t.entries.map key)) {text : List Char} {e : Entry} :
    t.entryAt? index text = some e ↔ e ∈ t.entries ∧ key e = String.ofList text := by
  simp only [entryAt?, Option.bind_eq_some_iff]
  constructor
  · rintro ⟨i, hi, he⟩
    have hkey := (h _ i).mp hi
    rw [List.getElem?_map, he] at hkey
    exact ⟨List.mem_of_getElem? he, Option.some.inj hkey⟩
  · rintro ⟨he, hkey⟩
    obtain ⟨i, hi⟩ := List.mem_iff_getElem?.mp he
    refine ⟨i, (h _ i).mpr ?_, hi⟩
    rw [List.getElem?_map, hi, Option.map_some, hkey]

theorem Consistent.placeholder?_eq_some_iff (h : t.Consistent) {reference : List Char}
    {p : Placeholder} : t.placeholder? reference = some p ↔ ⟨reference, p⟩ ∈ t.entries := by
  simp only [placeholder?, Option.map_eq_some_iff, entryAt?_eq_some_iff h.byReference]
  constructor
  · rintro ⟨⟨r, q⟩, ⟨he, hr⟩, rfl⟩
    rw [← String.ofList_injective hr]
    exact he
  · exact fun he => ⟨_, ⟨he, rfl⟩, rfl⟩

theorem Consistent.value?_eq_some_iff (h : t.Consistent) {reference value : List Char} :
    t.value? reference = some value ↔ ∃ p, ⟨reference, p⟩ ∈ t.entries ∧ p.chars = value := by
  simp only [value?, Option.map_eq_some_iff, h.placeholder?_eq_some_iff]

theorem Consistent.reference?_eq_some_iff (h : t.Consistent) {reference value : List Char} :
    t.reference? value = some reference ↔ ∃ p, ⟨reference, p⟩ ∈ t.entries ∧ p.chars = value := by
  simp only [reference?, Option.map_eq_some_iff, entryAt?_eq_some_iff h.byText]
  constructor
  · rintro ⟨⟨r, p⟩, ⟨he, hp⟩, rfl⟩
    exact ⟨p, he, String.ofList_injective hp⟩
  · rintro ⟨p, he, rfl⟩
    exact ⟨_, ⟨he, rfl⟩, rfl⟩

theorem Consistent.references_nodup (h : t.Consistent) : (t.entries.map (·.reference)).Nodup := by
  have hn := h.byReference.nodup
  rw [← Function.comp_def String.ofList, ← List.map_map] at hn
  exact hn.of_map

theorem Consistent.chars_nodup (h : t.Consistent) :
    (t.entries.map (·.placeholder.chars)).Nodup := by
  have hn : (t.entries.map (String.ofList ∘ fun e => e.placeholder.chars)).Nodup := h.byText.nodup
  rw [← List.map_map] at hn
  exact hn.of_map

/-- Two entries with the same placeholder text are one entry. -/
theorem Consistent.eq_of_chars (h : t.Consistent) {e e' : Entry} (he : e ∈ t.entries)
    (he' : e' ∈ t.entries) (hc : e.placeholder.chars = e'.placeholder.chars) : e = e' :=
  List.inj_on_of_nodup_map h.chars_nodup he he' hc

end Lookup

/-! ## Assignments -/

section Assign

variable {t t' : Table} {reference : List Char} {kind : ValueKind} {p : Placeholder}

/-- A free placeholder is one of the candidates that were tried, and its text is not taken. -/
theorem freeFrom?_eq_some {attempts counter : Nat}
    (h : t.freeFrom? reference kind attempts counter = some p) :
    ∃ n, counter ≤ n ∧ n < counter + attempts ∧ p = Placeholder.candidate reference kind n ∧
      t.byText.get? p.text = none := by
  induction attempts generalizing counter with
  | zero => simp [freeFrom?] at h
  | succ attempts ih =>
      simp only [freeFrom?] at h
      split at h
      · obtain ⟨n, hle, hlt, hp, hfree⟩ := ih h
        exact ⟨n, by omega, by omega, hp, hfree⟩
      · next htaken =>
          obtain rfl := Option.some.inj h
          refine ⟨counter, Nat.le_refl _, by omega, rfl, ?_⟩
          simpa using htaken

/-- What an assignment can do: find the placeholder that is there, or add an entry with a new
    one. -/
theorem assign?_cases (h : t.assign? reference kind = some (p, t')) :
    (t.placeholder? reference = some p ∧ t' = t) ∨
    (t.placeholder? reference = none ∧ Entry.Minted ⟨reference, p⟩ ∧
      t.byText.get? p.text = none ∧ t' = t.push ⟨reference, p⟩) := by
  unfold assign? at h
  split at h
  · next q hq =>
      simp only [Option.some.injEq, Prod.mk.injEq] at h
      obtain ⟨rfl, rfl⟩ := h
      exact Or.inl ⟨hq, rfl⟩
  · next hnone =>
      obtain ⟨q, hfree, hq⟩ := Option.map_eq_some_iff.mp h
      simp only [Prod.mk.injEq] at hq
      obtain ⟨rfl, rfl⟩ := hq
      obtain ⟨n, -, hlt, hcand, hget⟩ := freeFrom?_eq_some hfree
      exact Or.inr ⟨hnone, ⟨kind, n, by omega, hcand⟩, hget, rfl⟩

/-- A reference without a placeholder gets a candidate of the kind that is asked for. -/
theorem candidate_of_assign? (hnone : t.placeholder? reference = none)
    (h : t.assign? reference kind = some (p, t')) :
    ∃ n, p = Placeholder.candidate reference kind n := by
  simp only [assign?, hnone] at h
  obtain ⟨q, hfree, hq⟩ := Option.map_eq_some_iff.mp h
  obtain rfl := (Prod.mk.inj hq).1
  obtain ⟨n, -, -, hp, -⟩ := freeFrom?_eq_some hfree
  exact ⟨n, hp⟩

/-- A reference that has a placeholder keeps it, whatever kind is asked for. -/
theorem assign?_of_placeholder? (h : t.placeholder? reference = some p) :
    t.assign? reference kind = some (p, t) := by
  simp only [assign?, h]

theorem Consistent.push (h : t.Consistent) {e : Entry} (hr : t.placeholder? e.reference = none)
    (ht : t.byText.get? e.placeholder.text = none) (hm : e.Minted) : (t.push e).Consistent where
  byReference := by
    have hget : t.byReference.get? (String.ofList e.reference) = none := by
      rw [← h.byReference.not_mem_iff]
      intro hmem
      obtain ⟨e', he', hr'⟩ := List.mem_map.mp hmem
      have : t.placeholder? e.reference = some e'.placeholder := by
        rw [h.placeholder?_eq_some_iff, ← String.ofList_injective hr']
        exact he'
      rw [hr] at this
      exact absurd this (by simp)
    have := h.byReference.insert hget
    rw [List.length_map] at this
    simpa [Table.push] using this
  byText := by
    have := h.byText.insert ht
    rw [List.length_map] at this
    simpa [Table.push] using this
  minted := by
    intro e' he'
    rcases List.mem_append.mp he' with he' | he'
    · exact h.minted e' he'
    · rw [List.mem_singleton.mp he']
      exact hm

theorem Consistent.assign? (h : t.Consistent) (ha : t.assign? reference kind = some (p, t')) :
    t'.Consistent := by
  rcases assign?_cases ha with ⟨-, rfl⟩ | ⟨hr, hm, ht, rfl⟩
  · exact h
  · exact h.push hr ht hm

theorem entries_isPrefix_of_assign? (ha : t.assign? reference kind = some (p, t')) :
    t.entries <+: t'.entries := by
  rcases assign?_cases ha with ⟨-, rfl⟩ | ⟨-, -, -, rfl⟩
  · exact List.prefix_rfl
  · exact List.prefix_append _ _

/-- After an assignment the reference has the placeholder that was returned. -/
theorem Consistent.placeholder?_of_assign? (h : t.Consistent)
    (ha : t.assign? reference kind = some (p, t')) : t'.placeholder? reference = some p := by
  have h' := h.assign? ha
  rcases assign?_cases ha with ⟨hp, rfl⟩ | ⟨-, -, -, rfl⟩
  · exact hp
  · rw [h'.placeholder?_eq_some_iff]
    exact List.mem_append_right _ List.mem_cons_self

end Assign

/-! ## Growth -/

/-- The second table comes from the first by one assignment. -/
def Assigns (t t' : Table) : Prop :=
  ∃ reference kind p, t.assign? reference kind = some (p, t')

/-- The second table comes from the first by assignments. -/
def Grows : Table → Table → Prop := Relation.ReflTransGen Assigns

namespace Grows

variable {t t' t'' : Table}

theorem refl (t : Table) : t.Grows t := Relation.ReflTransGen.refl

theorem trans (h : t.Grows t') (h' : t'.Grows t'') : t.Grows t'' := Relation.ReflTransGen.trans h h'

theorem of_assign? {reference : List Char} {kind : ValueKind} {p : Placeholder}
    (h : t.assign? reference kind = some (p, t')) : t.Grows t' :=
  Relation.ReflTransGen.single ⟨reference, kind, p, h⟩

theorem of_map_assign? {reference : List Char} {kind : ValueKind}
    (h : (t.assign? reference kind).map (·.2) = some t') : t.Grows t' := by
  obtain ⟨⟨p, s⟩, ha, rfl⟩ := Option.map_eq_some_iff.mp h
  exact of_assign? ha

theorem consistent (h : t.Grows t') (ht : t.Consistent) : t'.Consistent := by
  induction h with
  | refl => exact ht
  | tail _ ha ih =>
      obtain ⟨reference, kind, p, ha⟩ := ha
      exact ih.assign? ha

theorem entries_isPrefix (h : t.Grows t') : t.entries <+: t'.entries := by
  induction h with
  | refl => exact List.prefix_rfl
  | tail _ ha ih =>
      obtain ⟨reference, kind, p, ha⟩ := ha
      exact ih.trans (entries_isPrefix_of_assign? ha)

/-- A variable keeps its placeholder. -/
theorem placeholder? (h : t.Grows t') (ht : t.Consistent) {reference : List Char} {p : Placeholder}
    (hp : t.placeholder? reference = some p) : t'.placeholder? reference = some p := by
  rw [ht.placeholder?_eq_some_iff] at hp
  rw [(h.consistent ht).placeholder?_eq_some_iff]
  exact h.entries_isPrefix.subset hp

/-- A fold over growing steps grows. -/
theorem foldlM {α : Type} {f : Table → α → Option Table}
    (hf : ∀ t a t', f t a = some t' → t.Grows t') {xs : List α}
    (h : xs.foldlM f t = some t') : t.Grows t' := by
  induction xs generalizing t with
  | nil =>
      obtain rfl : t = t' := Option.some.inj h
      exact refl t
  | cons a rest ih =>
      rw [List.foldlM_cons] at h
      obtain ⟨t₁, h₁, h₂⟩ := Option.bind_eq_some_iff.mp h
      exact (hf t a t₁ h₁).trans (ih h₂)

end Grows

section Operations

variable {t t' : Table}

theorem assignName?_grows {name : String} {kind : ValueKind}
    (h : t.assignName? name kind = some t') : t.Grows t' :=
  Grows.foldlM (fun _ _ _ ht => Grows.of_map_assign? ht) h

theorem register?_grows {templates : List Template} (h : t.register? templates = some t') :
    t.Grows t' :=
  Grows.foldlM (fun _ _ _ ht => assignName?_grows ht) h

theorem assignNames?_grows {names : List (String × ValueKind)}
    (h : t.assignNames? names = some t') : t.Grows t' :=
  Grows.foldlM (fun _ _ _ ht => assignName?_grows ht) h

theorem initial_consistent : initial.Consistent := by
  unfold initial
  cases h : empty.assignNames? globals with
  | none => exact empty_consistent
  | some t => exact (assignNames?_grows h).consistent empty_consistent

theorem ofToken_eq_ok {token : List Char} {p : Placeholder} :
    t.ofToken token = .ok (p, t') ↔
      ∃ kind, kindOfToken token = .ok kind ∧ t.assign? token kind = some (p, t') := by
  unfold ofToken
  cases kindOfToken token with
  | error e => simp
  | ok kind => cases ha : t.assign? token kind <;> simp [ha]

/-- A reference that was given a placeholder has it in every later table. -/
theorem Consistent.placeholder?_of_ofToken (ht : t.Consistent) {t₁ : Table} {token : List Char}
    {p : Placeholder} (hof : t.ofToken token = .ok (p, t₁)) (hg : t₁.Grows t') :
    t₁.Consistent ∧ t'.placeholder? token = some p := by
  obtain ⟨kind, -, ha⟩ := ofToken_eq_ok.mp hof
  exact ⟨ht.assign? ha, hg.placeholder? (ht.assign? ha) (ht.placeholder?_of_assign? ha)⟩

theorem substituteFrom_grows (out : List Char) (quotes : Quotes) (pieces : List Variable.Piece) :
    t.Grows (t.substituteFrom out quotes pieces).1 := by
  induction pieces generalizing t out quotes with
  | nil => exact Grows.refl t
  | cons piece rest ih =>
      cases piece with
      | char c => exact ih (c :: out) (quotes.step c)
      | token token =>
          simp only [substituteFrom]
          split
          · exact ih _ _
          · cases h : t.ofToken token with
            | error e => exact Grows.refl t
            | ok result =>
                obtain ⟨p, t₁⟩ := result
                obtain ⟨kind, -, ha⟩ := ofToken_eq_ok.mp h
                exact (Grows.of_assign? ha).trans (ih _ _)

/-- What a substitution that succeeds does at a reference outside quotes: it gives the reference a
    placeholder and goes on behind the written text. -/
theorem substituteFrom_token_eq_ok {out token result : List Char} {quotes : Quotes}
    {rest : List Variable.Piece} (hq : quotes.inside = false)
    (h : t.substituteFrom out quotes (.token token :: rest) = (t', .ok result)) :
    ∃ p t₁, t.ofToken token = .ok (p, t₁) ∧ t₁.Grows t' ∧
      t₁.substituteFrom ((p.chars ++ unitAfter out.reverse p rest).reverse ++ out)
        (token.foldl Quotes.step quotes) rest = (t', .ok result) := by
  simp only [substituteFrom, hq] at h
  cases hof : t.ofToken token with
  | error e => simp [hof] at h
  | ok found =>
      obtain ⟨p, t₁⟩ := found
      simp only [hof] at h
      refine ⟨p, t₁, rfl, ?_, h⟩
      have hg := substituteFrom_grows (t := t₁)
        ((p.chars ++ unitAfter out.reverse p rest).reverse ++ out)
        (token.foldl Quotes.step quotes) rest
      simp only [Bool.false_eq_true, if_false] at h
      rwa [h] at hg

theorem substitute_grows (text : List Char) : t.Grows (t.substitute text).1 :=
  substituteFrom_grows [] Quotes.start (Variable.pieces text)

end Operations

end Table

end BoardLint
