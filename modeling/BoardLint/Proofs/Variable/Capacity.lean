import BoardLint.Proofs.Variable.Stability

set_option autoImplicit false

/-! # How many variables a table can take

A variable finds a placeholder as long as the table has no more than `Placeholder.maxRetries`
entries, and nobody else holds that placeholder. Registering templates adds three entries for each
name and substituting one for each reference of the text, so how many variables can be expanded is
known beforehand (`Table.placeholders_suffice`). -/

namespace BoardLint

/-- Whether a piece is a reference. -/
def Variable.Piece.isToken : Variable.Piece → Bool
  | .char _ => false
  | .token _ => true

/-- The only thing wrong with a reference by itself is its format. -/
theorem kindOfToken_eq_error {token : List Char} {e : ExpandError}
    (h : kindOfToken token = .error e) : ∃ text, e = .unknownFormat text := by
  unfold kindOfToken at h
  dsimp only at h
  split at h
  · cases h
  · split at h
    · split at h
      · exact ⟨_, (Except.error.inj h).symm⟩
      · cases h
    · split at h
      · exact ⟨_, (Except.error.inj h).symm⟩
      · cases h

namespace Table

section Holders

variable {t : Table}

/-- An entry is the only one with its text. -/
theorem Consistent.filter_chars (ht : t.Consistent) {e : Entry} (he : e ∈ t.entries) :
    t.entries.filter (fun e' => e'.placeholder.chars = e.placeholder.chars) = [e] := by
  have hsame : ∀ e' ∈ t.entries,
      decide (e'.placeholder.chars = e.placeholder.chars) = (e' == e) := by
    intro e' he'
    rw [Bool.eq_iff_iff, decide_eq_true_iff, beq_iff_eq]
    exact ⟨ht.eq_of_chars he' he, fun h => by rw [h]⟩
  have hnodup : t.entries.Nodup := ht.references_nodup.of_map
  rw [List.filter_congr hsame, List.filter_beq, List.count_eq_one_of_mem hnodup he]
  rfl

end Holders

section Room

variable {t : Table} {n : Nat}

theorem HasRoom.mono (h : t.HasRoom n) {m : Nat} (hle : m ≤ n) : t.HasRoom m :=
  ⟨h.consistent, by have := h.length_le; omega⟩

/-- A reference has an unknown format, or it gets a placeholder. -/
theorem HasRoom.ofToken (h : t.HasRoom (n + 1)) (token : List Char) :
    (∃ text, t.ofToken token = .error (.unknownFormat text)) ∨
    ∃ p t', t.ofToken token = .ok (p, t') ∧ t'.HasRoom n := by
  cases hkind : kindOfToken token with
  | error e =>
      obtain ⟨text, rfl⟩ := kindOfToken_eq_error hkind
      exact Or.inl ⟨text, by simp only [Table.ofToken, hkind]⟩
  | ok kind =>
      obtain ⟨p, t', ha, hroom⟩ := h.assign? token kind
      exact Or.inr ⟨p, t', ofToken_eq_ok.mpr ⟨kind, hkind, ha⟩, hroom⟩

/-- A substitution takes up one entry at most for each reference of its pieces, and if there is room
    for these it does not run out of placeholders. -/
theorem HasRoom.substituteFrom {pieces : List Variable.Piece}
    (h : t.HasRoom (n + pieces.countP Variable.Piece.isToken)) (out : List Char)
    (quotes : Quotes) :
    (t.substituteFrom out quotes pieces).1.HasRoom n ∧
      ∀ reference, (t.substituteFrom out quotes pieces).2 ≠ .error (.exhausted reference) := by
  induction pieces generalizing t out quotes with
  | nil => exact ⟨h, fun _ => by simp [Table.substituteFrom]⟩
  | cons piece rest ih =>
      cases piece with
      | char c => exact ih h (c :: out) (quotes.step c)
      | token token =>
          rw [List.countP_cons_of_pos rfl, ← Nat.add_assoc] at h
          simp only [Table.substituteFrom]
          split
          · -- a reference inside quotes is copied
            exact ih (h.mono (Nat.le_succ _)) _ _
          · rcases h.ofToken token with ⟨text, herror⟩ | ⟨p, t', hok, hroom⟩
            · simp only [herror]
              exact ⟨h.mono (by omega), fun _ => by simp⟩
            · simp only [hok]
              exact ih hroom _ _

end Room

/-- The most entries that are made for templates and a text: one for each spelling of the server's
    variables, three for each template with a name, and one for each reference of the text. -/
def demand (templates : List Template) (text : List Char) : Nat :=
  (globals.flatMap fun g => Variable.spellings g.1).length +
    3 * (templates.filter fun template => !template.name.isEmpty).length +
    (Variable.pieces text).countP Variable.Piece.isToken

/-- Before anything is registered there is room for what templates and a text ask for. -/
theorem initial_hasRoom {templates : List Template} {text : List Char}
    (h : demand templates text ≤ Placeholder.maxRetries) :
    initial.HasRoom (Placeholder.maxRetries + 1 - demand templates text +
      (Variable.pieces text).countP Variable.Piece.isToken +
      3 * (templates.filter fun template => !template.name.isEmpty).length) := by
  have hmax : Placeholder.maxRetries = 10000 := rfl
  have hglobals : (globals.flatMap fun g => Variable.spellings g.1).length = 57 := rfl
  have hinitial := initial_spec.2.length_le
  refine ⟨initial_consistent, ?_⟩
  unfold demand at h ⊢
  omega

/-- **Placeholders do not run out early.** In every table of a run with no more than
    `Placeholder.maxRetries` entries, each variable gets a placeholder of any kind, whose text is
    that of its own entry and of no other. The variables of the server have theirs. If templates and
    a text demand no more entries than that, the templates can be registered and the substitution in
    the text does not run out of placeholders; the table then has no more entries than demanded. -/
theorem placeholders_suffice :
    (∀ calls t, initial.run? calls = some t → t.entries.length ≤ Placeholder.maxRetries →
      ∀ reference kind, ∃ p t', t.assign? reference kind = some (p, t') ∧
        t'.entries.filter (fun e => e.placeholder.chars = p.chars) = [⟨reference, p⟩]) ∧
    empty.assignNames? globals = some initial ∧
    ∀ templates text, demand templates text ≤ Placeholder.maxRetries →
      ∃ t, initial.register? templates = some t ∧
        (∀ reference, (t.substitute text).2 ≠ .error (.exhausted reference)) ∧
        (t.substitute text).1.entries.length ≤ demand templates text := by
  refine ⟨?_, initial_spec.1, ?_⟩
  · intro calls t hrun hlength reference kind
    have hroom : t.HasRoom (0 + 1) := ⟨run?_consistent hrun, by omega⟩
    obtain ⟨p, t', ha, hroom'⟩ := hroom.assign? reference kind
    have hp := hroom.consistent.placeholder?_of_assign? ha
    have hentry := hroom'.consistent.placeholder?_eq_some_iff.mp hp
    exact ⟨p, t', ha, hroom'.consistent.filter_chars hentry⟩
  · intro templates text hdemand
    obtain ⟨t, hregister, hroom⟩ := (initial_hasRoom hdemand).register? templates
    obtain ⟨hroom, hsupply⟩ := hroom.substituteFrom [] Quotes.start
    have hlength := hroom.length_le
    exact ⟨t, hregister, hsupply, by rw [substitute]; omega⟩

/-- A second spelling of a name whose word is taken; then a template, and a text with three
    references, which demand six entries more than the server's variables. -/
theorem placeholders_suffice_job :
    (∃ t, initial.run? [.placeholder "$job".toList .text] = some t ∧
      t.entries.length ≤ Placeholder.maxRetries ∧
      ∃ p t', t.assign? "$\x7bjob\x7d".toList .text = some (p, t') ∧
        t'.entries.filter (fun e => e.placeholder.chars = p.chars) =
          [⟨"$\x7bjob\x7d".toList, p⟩]) ∧
    demand [{ (default : Template) with name := "job" }] "$job + $x * $\x7by:csv\x7d".toList = 63 ∧
    ∃ t, initial.register? [{ (default : Template) with name := "job" }] = some t ∧
      ∀ reference, (t.substitute "$job + $x * $\x7by:csv\x7d".toList).2 ≠
        .error (.exhausted reference) := by
  have hdemand : demand [{ (default : Template) with name := "job" }]
      "$job + $x * $\x7by:csv\x7d".toList = 63 := by
    decide +kernel
  refine ⟨?_, hdemand, ?_⟩
  · obtain ⟨p, t, ha, hroom⟩ := initial_spec.2.assign? "$job".toList .text
    have hrun : initial.run? [.placeholder "$job".toList .text] = some t := by
      rw [run?_singleton, call?, ha, Option.map_some]
    have hlength : t.entries.length ≤ Placeholder.maxRetries := by
      have := hroom.length_le
      omega
    exact ⟨t, hrun, hlength, placeholders_suffice.1 _ t hrun hlength _ _⟩
  · have hmax : 63 ≤ Placeholder.maxRetries := by decide
    obtain ⟨t, hregister, hsupply, -⟩ := placeholders_suffice.2.2 _ _ (hdemand ▸ hmax)
    exact ⟨t, hregister, hsupply⟩

end Table

end BoardLint
