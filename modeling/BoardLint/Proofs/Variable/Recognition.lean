import BoardLint.Proofs.Query.Duration
import BoardLint.Proofs.Variable.RoundTrip
import BoardLint.Proofs.Variable.Stability

set_option autoImplicit false

/-! # Recognising placeholders

Reverting looks for forms: the texts of placeholders, the ways to write a number of seconds, and the
numbers of instants. No form is empty and no form belongs to two entries, so at each position of a
text there is one longest form, if there is one at all. `Table.Restores` says by this alone what
reverting a text gives. `Table.revert` computes just that, and so it would with any other list of
the same forms that has the longest first (`Table.run?_forms_unambiguous`). -/

namespace BoardLint

/-! ## Forms of different placeholders -/

namespace Placeholder

theorem form_ne_nil {p : Placeholder} (hp : p.Proper) {f : List Char} (hf : f ∈ p.forms) :
    f ≠ [] := by
  rintro rfl
  exact absurd (length_take_two_form hp hf) (by simp)

theorem lead_ne_duration (p : Placeholder) : p.lead ≠ ['1', '3'] := by
  cases p <;> simp [lead]

/-- What a form begins with: the digits of a number, and all of a word. -/
def stem : Placeholder → List Char
  | .seconds n => Nat.toDigits 10 n
  | .instant n => Nat.toDigits 10 n
  | .word name counter => (word name counter).chars

/-- A form is a stem that no further digit follows, or it is a canonical duration. The first two
    characters tell which. -/
theorem form_cases {p : Placeholder} (hp : p.Proper) {f : List Char} (hf : f ∈ p.forms) :
    (f.take 2 = p.lead ∧ ∃ rest, f = p.stem ++ rest ∧ ∀ c ∈ rest.head?, c.isDigit = false) ∨
    (f.take 2 = ['1', '3'] ∧ ∃ n, p = .seconds n ∧ f = (Duration.ofSeconds n).chars) := by
  rcases mem_forms_cases hf with rfl | ⟨n, rfl, rfl⟩ | ⟨n, rfl, rfl⟩ | ⟨n, rfl, rfl⟩
  · refine Or.inl ⟨take_two_chars hp, ?_⟩
    cases p with
    | seconds n => exact ⟨[], (List.append_nil _).symm, by simp⟩
    | instant n => exact ⟨places, rfl, by simp [places]⟩
    | word name counter => exact ⟨[], (List.append_nil _).symm, by simp⟩
  · have hw : (seconds n).Written ((seconds n).chars ++ ['s']) := Or.inr ⟨rfl, rfl⟩
    exact Or.inl ⟨hw.take_two hp, ['s'], rfl, by simp⟩
  · obtain ⟨d, hd⟩ := duration_chars hp
    exact Or.inr ⟨by simp [hd], n, rfl, rfl⟩
  · obtain ⟨d, -, hd⟩ := instant_digits hp
    exact Or.inl ⟨by simp [hd, lead], [], (List.append_nil _).symm, by simp⟩

/-- **A form tells the placeholder that it belongs to**, up to its text. -/
theorem chars_eq_of_mem_forms {p q : Placeholder} (hp : p.Proper) (hq : q.Proper) {f : List Char}
    (hf : f ∈ p.forms) (hf' : f ∈ q.forms) : p.chars = q.chars := by
  rcases form_cases hp hf with ⟨hlead, rest, hcut, hrest⟩ | ⟨hlead, m, rfl, hm⟩ <;>
    rcases form_cases hq hf' with ⟨hlead', rest', hcut', hrest'⟩ | ⟨hlead', n, rfl, hn⟩
  · have hkinds : p.lead = q.lead := hlead.symm.trans hlead'
    have hdigits : ∀ {m n : Nat}, p.stem = Nat.toDigits 10 m → q.stem = Nat.toDigits 10 n →
        Nat.toDigits 10 m = Nat.toDigits 10 n := by
      intro m n hm hn
      rw [hm] at hcut
      rw [hn] at hcut'
      exact (append_inj_of_stops (hcut.symm.trans hcut') (fun _ => isDigit_of_mem_toDigits)
        (fun _ => isDigit_of_mem_toDigits) hrest hrest').1
    cases p with
    | seconds m =>
        cases q with
        | seconds n => exact hdigits rfl rfl
        | _ => simp [lead] at hkinds
    | instant m =>
        cases q with
        | instant n => exact congrArg (· ++ places) (hdigits rfl rfl)
        | _ => simp [lead] at hkinds
    | word name i =>
        cases q with
        | word name' j => exact (List.mem_singleton.mp hf).symm.trans (List.mem_singleton.mp hf')
        | _ => simp [lead] at hkinds
  · exact absurd (hlead.symm.trans hlead') p.lead_ne_duration
  · exact absurd (hlead'.symm.trans hlead) q.lead_ne_duration
  · -- no two durations have the same text
    have hsame := congrArg Duration.millis (Duration.chars_injective (hm.symm.trans hn))
    simp only [Duration.ofSeconds] at hsame
    obtain rfl : m = n := by omega
    rfl

/-- Where the canonical duration of a number of seconds stands and words stop behind it, no form
    reaches further. -/
theorem longest_duration {m : Nat} {q : Placeholder} (hm : (seconds m).Proper) (hq : q.Proper)
    {f rest : List Char} (hrest : StopsWord rest) (hf : f ∈ q.forms)
    (h : f <+: (Duration.ofSeconds m).chars ++ rest) : f <+: (Duration.ofSeconds m).chars := by
  obtain ⟨d, hd⟩ := duration_chars hm
  have hlead : f.take 2 = ['1', '3'] := by
    rw [take_two_eq_of_isPrefix h (length_take_two_form hq hf), hd]
    rfl
  rcases form_cases hq hf with ⟨hnot, -⟩ | ⟨-, n, -, rfl⟩
  · exact absurd (hnot.symm.trans hlead) q.lead_ne_duration
  · exact prefix_of_stopsWord (fun _ => Duration.isWord_of_mem_chars) hrest h

end Placeholder

namespace Table

section Forms

variable {t : Table}

/-- No two entries have a form in common. -/
theorem Consistent.forms_disjoint (ht : t.Consistent) :
    t.entries.Pairwise fun e e' => e.placeholder.forms.Disjoint e'.placeholder.forms := by
  have hchars : t.entries.Pairwise fun e e' => e.placeholder.chars ≠ e'.placeholder.chars :=
    List.pairwise_map.mp ht.chars_nodup
  refine hchars.imp_of_mem ?_
  intro e e' he he' hne f hf hf'
  exact hne (Placeholder.chars_eq_of_mem_forms (ht.proper he) (ht.proper he') hf hf')

theorem Consistent.eq_of_mem_forms (ht : t.Consistent) {e e' : Entry} (he : e ∈ t.entries)
    (he' : e' ∈ t.entries) {f : List Char} (hf : f ∈ e.placeholder.forms)
    (hf' : f ∈ e'.placeholder.forms) : e = e' :=
  ht.eq_of_chars he he' (Placeholder.chars_eq_of_mem_forms (ht.proper he) (ht.proper he') hf hf')

/-- Where the canonical duration of an entry stands and words stop behind it, its reference is
    found. -/
theorem Consistent.firstMatch?_duration (ht : t.Consistent) {reference rest : List Char} {n : Nat}
    (he : ⟨reference, .seconds n⟩ ∈ t.entries) (hrest : Placeholder.StopsWord rest) :
    firstMatch? ((Duration.ofSeconds n).chars ++ rest) t.patterns = some (reference, rest) := by
  have hform : (Duration.ofSeconds n).chars ∈ (Placeholder.seconds n).forms := by
    simp [Placeholder.forms]
  refine ht.firstMatch?_of_longest he hform fun q hq f hf hpre => ?_
  refine ⟨Placeholder.longest_duration (ht.proper he) hq hrest hf hpre, fun heq => ?_⟩
  exact Placeholder.chars_eq_of_mem_forms hq (ht.proper he) (heq ▸ hf) hform

end Forms

/-! ## The longest form at a position -/

/-- A form of an entry begins a text, and no form of the table that begins it is longer. -/
structure LongestForm (t : Table) (text : List Char) (e : Entry) (f : List Char) : Prop where
  entry : e ∈ t.entries
  form : f ∈ e.placeholder.forms
  begins : f <+: text
  longest : ∀ e' ∈ t.entries, ∀ f' ∈ e'.placeholder.forms, f' <+: text → f'.length ≤ f.length

/-- The forms of a table as patterns: every form is listed, each with the reference of an entry that
    it belongs to, and the longest come first. Entries and forms of one size can be in any order,
    and a form can be listed once or more than once. -/
structure Lists (t : Table) (patterns : List (List Char × List Char)) : Prop where
  sound : ∀ pattern ∈ patterns,
    ∃ e ∈ t.entries, pattern.1 ∈ e.placeholder.forms ∧ e.reference = pattern.2
  complete : ∀ e ∈ t.entries, ∀ f ∈ e.placeholder.forms, ∃ reference, (f, reference) ∈ patterns
  sorted : patterns.Pairwise fun a b => byteSize b.1 ≤ byteSize a.1

section Longest

variable {t : Table} {text : List Char} {patterns : List (List Char × List Char)}

/-- The patterns of a table with the same entries in another order. -/
theorem lists_patterns_of_perm {t' : Table} (h : t'.entries.Perm t.entries) :
    t.Lists t'.patterns where
  sound := fun _ hpattern => by
    obtain ⟨e, he, hform⟩ := mem_patterns.mp hpattern
    exact ⟨e, h.mem_iff.mp he, hform⟩
  complete := fun e he _ hf => ⟨e.reference, mem_patterns.mpr ⟨e, h.mem_iff.mpr he, hf, rfl⟩⟩
  sorted := t'.patterns_pairwise

theorem lists_patterns (t : Table) : t.Lists t.patterns := lists_patterns_of_perm (List.Perm.refl _)

theorem LongestForm.unique (ht : t.Consistent) {e e' : Entry} {f f' : List Char}
    (h : t.LongestForm text e f) (h' : t.LongestForm text e' f') : e = e' ∧ f = f' := by
  have hle := h.longest e' h'.entry f' h'.form h'.begins
  have hle' := h'.longest e h.entry f h.form h.begins
  have hf : f = f' :=
    (List.prefix_of_prefix_length_le h.begins h'.begins hle').eq_of_length (by omega)
  subst hf
  exact ⟨ht.eq_of_mem_forms h.entry h'.entry h.form h'.form, rfl⟩

theorem LongestForm.ne_nil (ht : t.Consistent) {e : Entry} {f : List Char}
    (h : t.LongestForm text e f) : f ≠ [] :=
  Placeholder.form_ne_nil (ht.proper h.entry) h.form

/-- Whatever the order of the patterns, the first match is the longest form. -/
theorem Lists.firstMatch?_cases (h : t.Lists patterns) (text : List Char) :
    (firstMatch? text patterns = none ∧ t.BeginsNoForm text) ∨
    ∃ e f rest, firstMatch? text patterns = some (e.reference, rest) ∧ f ++ rest = text ∧
      t.LongestForm text e f := by
  rcases firstMatch?_spec text h.sorted with
    ⟨hnone, hall⟩ | ⟨f, reference, rest, hsome, hmem, hcut, hall⟩
  · refine Or.inl ⟨hnone, fun e he f hf => ?_⟩
    obtain ⟨reference, hmem⟩ := h.complete e he f hf
    exact hall _ hmem
  · obtain ⟨e, he, hf, rfl⟩ := h.sound _ hmem
    refine Or.inr ⟨e, f, rest, hsome, hcut, he, hf, ⟨rest, hcut⟩, ?_⟩
    intro e' he' f' hf' hpre
    obtain ⟨reference, hmem'⟩ := h.complete e' he' f' hf'
    exact (hall _ hmem' hpre).length_le

end Longest

/-! ## Restored texts -/

/-- What a text is once its variables are put back from the front. Where forms begin, the longest of
    them becomes the reference of its entry; a character where none begins stays. -/
inductive Restores (t : Table) : List Char → List Char → Prop
  | done : Restores t [] []
  | form {text f rest out : List Char} {e : Entry} (hlongest : t.LongestForm text e f)
      (hcut : f ++ rest = text) (hrest : Restores t rest out) : Restores t text (e.reference ++ out)
  | char {c : Char} {rest out : List Char} (hnone : t.BeginsNoForm (c :: rest))
      (hrest : Restores t rest out) : Restores t (c :: rest) (c :: out)

section Restores

variable {t : Table} {text out out' : List Char} {patterns : List (List Char × List Char)}

theorem Restores.unique (ht : t.Consistent) (h : t.Restores text out) (h' : t.Restores text out') :
    out = out' := by
  -- no form is empty, so none begins the empty text
  have hnil : ∀ {e f rest}, t.LongestForm [] e f → ¬ f ++ rest = [] := fun hl hcut =>
    hl.ne_nil ht (List.append_eq_nil_iff.mp hcut).1
  induction h generalizing out' with
  | done =>
      cases h' with
      | done => rfl
      | form hlongest hcut _ => exact absurd hcut (hnil hlongest)
  | form hlongest hcut _ ih =>
      cases h' with
      | done => exact absurd hcut (hnil hlongest)
      | form hlongest' hcut' hrest' =>
          obtain ⟨rfl, rfl⟩ := hlongest.unique ht hlongest'
          obtain rfl := List.append_cancel_left (hcut.trans hcut'.symm)
          rw [ih hrest']
      | char hnone _ => exact absurd hlongest.begins (hnone _ hlongest.entry _ hlongest.form)
  | char hnone _ ih =>
      cases h' with
      | form hlongest' _ _ =>
          exact absurd hlongest'.begins (hnone _ hlongest'.entry _ hlongest'.form)
      | char _ hrest' => rw [ih hrest']

/-- The scan comes to the end of a text: every step takes at least one character, so as many steps
    as there are characters are enough. -/
theorem Lists.restores (h : t.Lists patterns) (ht : t.Consistent) {fuel : Nat}
    (hfuel : text.length ≤ fuel) : t.Restores text (revertFrom patterns fuel text) := by
  induction fuel generalizing text with
  | zero =>
      obtain rfl := List.eq_nil_of_length_eq_zero (Nat.le_zero.mp hfuel)
      exact .done
  | succ fuel ih =>
      cases text with
      | nil => exact .done
      | cons c text =>
          rw [List.length_cons] at hfuel
          rcases h.firstMatch?_cases (c :: text) with
            ⟨hnone, hclear⟩ | ⟨e, f, rest, hsome, hcut, hlongest⟩
          · simp only [revertFrom, hnone]
            exact .char hclear (ih (by omega))
          · have hlength := congrArg List.length hcut
            have hpos := List.length_pos_iff.mpr (hlongest.ne_nil ht)
            simp only [List.length_append, List.length_cons] at hlength
            simp only [revertFrom, hsome]
            exact .form hlongest hcut (ih (by omega))

/-- **Forms are unambiguous.** In every table of a run no form is empty and no two entries have a
    form in common, so at a position where forms begin one of them is the longest and belongs to one
    entry. Reverting comes to the end of every text and puts in the reference of that entry at each
    such position. Neither the order of the entries nor the order of forms of one size makes a
    difference, nor how often a form is listed, nor more fuel than there are characters. -/
theorem run?_forms_unambiguous {calls : List Call} (h : initial.run? calls = some t) :
    (∀ e ∈ t.entries, [] ∉ e.placeholder.forms) ∧
    (t.entries.Pairwise fun e e' => e.placeholder.forms.Disjoint e'.placeholder.forms) ∧
    (∀ text, ¬ t.BeginsNoForm text → ∃! x : Entry × List Char, t.LongestForm text x.1 x.2) ∧
    (∀ text out, t.revert text = out ↔ t.Restores text out) ∧
    (∀ t' : Table, t'.entries.Perm t.entries → ∀ text, t'.revert text = t.revert text) ∧
    ∀ patterns, t.Lists patterns → ∀ text fuel, text.length ≤ fuel →
      revertFrom patterns fuel text = t.revert text := by
  have ht : t.Consistent := run?_consistent h
  have hrevert : ∀ text, t.Restores text (t.revert text) := fun _ =>
    t.lists_patterns.restores ht (Nat.le_refl _)
  have hlists : ∀ patterns, t.Lists patterns → ∀ text fuel, text.length ≤ fuel →
      revertFrom patterns fuel text = t.revert text := fun _ hl text _ hfuel =>
    (hl.restores ht hfuel).unique ht (hrevert text)
  refine ⟨?_, ht.forms_disjoint, ?_, ?_, ?_, hlists⟩
  · intro e he hnil
    exact Placeholder.form_ne_nil (ht.proper he) hnil rfl
  · intro text hbegins
    rcases t.lists_patterns.firstMatch?_cases text with ⟨-, hnone⟩ | ⟨e, f, -, -, -, hlongest⟩
    · exact absurd hnone hbegins
    · refine ⟨(e, f), hlongest, fun x hx => ?_⟩
      obtain ⟨he, hf⟩ := hx.unique ht hlongest
      exact Prod.ext he hf
  · intro text out
    constructor
    · rintro rfl
      exact hrevert text
    · exact fun hout => (hrevert text).unique ht hout
  · intro t' hperm text
    exact hlists _ (lists_patterns_of_perm hperm) text _ (Nat.le_refl _)

/-- Two forms of one number of seconds begin a text that has its unit. The longer one is taken, also
    where the entries are in reverse order. -/
theorem run?_forms_unambiguous_unit :
    ∃ t, initial.run? [.placeholder "$start".toList .epoch] = some t ∧
      ¬ t.BeginsNoForm "11277964s".toList ∧
      (∃! x : Entry × List Char, t.LongestForm "11277964s".toList x.1 x.2) ∧
      t.revert "11277964s".toList = "$__rate_interval".toList ∧
      Table.revert { t with entries := t.entries.reverse } "11277964s".toList =
        "$__rate_interval".toList ∧
      revertFrom t.patterns 20 "11277964s".toList = "$__rate_interval".toList := by
  obtain ⟨p, t, ha, hroom⟩ := initial_spec.2.assign? "$start".toList .epoch
  have hrun : initial.run? [.placeholder "$start".toList .epoch] = some t := by
    rw [run?_singleton, call?, ha, Option.map_some]
  have hrate : t.placeholder? "$__rate_interval".toList = some (.seconds 11277964) :=
    (Grows.of_assign? ha).placeholder? initial_consistent initial_placeholder?_rateInterval
  have hlongest : t.LongestForm "11277964s".toList
      ⟨"$__rate_interval".toList, .seconds 11277964⟩ "11277964s".toList :=
    ⟨hroom.consistent.placeholder?_eq_some_iff.mp hrate, by decide +kernel, List.prefix_rfl,
      fun _ _ _ _ hpre => hpre.length_le⟩
  have hbegins : ¬ t.BeginsNoForm "11277964s".toList := fun hnone =>
    hnone _ hlongest.entry _ hlongest.form List.prefix_rfl
  obtain ⟨-, -, hunique, hrestores, hperm, hlists⟩ := run?_forms_unambiguous hrun
  have hrevert : t.revert "11277964s".toList = "$__rate_interval".toList :=
    (hrestores _ _).mpr (Restores.form hlongest (List.append_nil _) .done)
  exact ⟨t, hrun, hbegins, hunique _ hbegins, hrevert,
    (hperm _ (List.reverse_perm _) _).trans hrevert,
    (hlists _ t.lists_patterns _ 20 (by decide)).trans hrevert⟩

end Restores

end Table

end BoardLint
