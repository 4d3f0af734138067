import BoardLint.Proofs.Variable.Supply

set_option autoImplicit false

/-! # Runs of calls on a table

A table is changed by asking for placeholders, by registering templates and by substituting in
texts. `Table.run?` makes any number of such calls one after another. Every table of a run is
consistent, entries stay as they are, and a text that was expanded once is expanded in the same way
ever after. -/

namespace BoardLint.Table

/-! ## Substituting again -/

section Substitute

variable {t t' t'' : Table}

/-- A reference that was given a placeholder is given the same one later. -/
theorem ofToken_again (ht : t.Consistent) {token : List Char} {p : Placeholder}
    (h : t.ofToken token = .ok (p, t')) (hg : t'.Grows t'') :
    t''.ofToken token = .ok (p, t'') := by
  obtain ⟨kind, hkind, -⟩ := ofToken_eq_ok.mp h
  obtain ⟨-, hp⟩ := ht.placeholder?_of_ofToken h hg
  exact ofToken_eq_ok.mpr ⟨kind, hkind, assign?_of_placeholder? hp⟩

/-- A substitution that succeeded has the same outcome on every later table, and changes nothing
    there. -/
theorem substituteFrom_again (ht : t.Consistent) {out : List Char} {quotes : Quotes}
    {pieces : List Variable.Piece} {result : List Char}
    (h : t.substituteFrom out quotes pieces = (t', .ok result)) (hg : t'.Grows t'') :
    t''.substituteFrom out quotes pieces = (t'', .ok result) := by
  induction pieces generalizing t out quotes with
  | nil =>
      simp only [substituteFrom, Prod.mk.injEq, Except.ok.injEq] at h ⊢
      exact ⟨trivial, h.2⟩
  | cons piece rest ih =>
      cases piece with
      | char c => exact ih ht h
      | token token =>
          cases hq : quotes.inside with
          | true =>
              simp only [substituteFrom, hq, if_true] at h ⊢
              exact ih ht h
          | false =>
              obtain ⟨p, t₁, hof, hg₁, h⟩ := substituteFrom_token_eq_ok hq h
              obtain ⟨ht₁, -⟩ := ht.placeholder?_of_ofToken hof hg₁
              -- the later table knows the reference already, so it stays as it is
              simp only [substituteFrom, hq, ofToken_again ht hof (hg₁.trans hg)]
              exact ih ht₁ h

theorem substitute_again (ht : t.Consistent) {text out : List Char}
    (h : t.substitute text = (t', .ok out)) (hg : t'.Grows t'') :
    t''.substitute text = (t'', .ok out) :=
  substituteFrom_again ht h hg

end Substitute

/-! ## Calls -/

/-- A call that may change a table. -/
inductive Call where
  | placeholder (reference : List Char) (kind : ValueKind)
  | register (templates : List Template)
  | substitute (text : List Char)

/-- The table after a call. There is none when the call runs out of placeholders; an unknown format
    leaves the table with what was added before it. -/
def call? (t : Table) : Call → Option Table
  | .placeholder reference kind => (t.assign? reference kind).map (·.2)
  | .register templates => t.register? templates
  | .substitute text =>
    match t.substitute text with
    | (_, .error (.exhausted _)) => none
    | (t', _) => some t'

/-- The table after calls, one after another. -/
def run? (t : Table) (calls : List Call) : Option Table := calls.foldlM call? t

theorem run?_cons (t : Table) (c : Call) (calls : List Call) :
    t.run? (c :: calls) = (t.call? c).bind (·.run? calls) := List.foldlM_cons

theorem run?_singleton (t : Table) (c : Call) : t.run? [c] = t.call? c := by
  rw [run?_cons]
  exact Option.bind_fun_some _

section Run

variable {t t' : Table}

theorem call?_grows {c : Call} (h : t.call? c = some t') : t.Grows t' := by
  cases c with
  | placeholder reference kind => exact Grows.of_map_assign? h
  | register templates => exact register?_grows h
  | substitute text =>
      have hg : t.Grows (t.substitute text).1 := substitute_grows text
      simp only [call?] at h
      split at h
      · simp at h
      · next s result _ hs =>
          obtain rfl := Option.some.inj h
          rwa [hs] at hg

theorem run?_grows {calls : List Call} (h : t.run? calls = some t') : t.Grows t' :=
  Grows.foldlM (fun _ _ _ hc => call?_grows hc) h

/-- Every table of a run is consistent. -/
theorem run?_consistent {calls : List Call} (h : initial.run? calls = some t) : t.Consistent :=
  (run?_grows h).consistent initial_consistent

end Run

/-! ## Correspondence and stability -/

/-- References and placeholders correspond one to one: both indices hold exactly the positions of
    the entries, looking up a reference and looking up a text are inverse to each other, and nothing
    occurs twice. -/
structure Bijective (t : Table) : Prop where
  byReference : t.byReference.Indexes (t.entries.map fun e => String.ofList e.reference)
  byText : t.byText.Indexes (t.entries.map fun e => e.placeholder.text)
  inverse : ∀ v x, t.value? v = some x ↔ t.reference? x = some v
  references : (t.entries.map (·.reference)).Nodup
  texts : (t.entries.map (·.placeholder.chars)).Nodup

/-- The second table has the entries of the first where they were, so every variable has the text
    and the kind that it had. -/
structure Keeps (t t' : Table) : Prop where
  entries : t.entries <+: t'.entries
  values : ∀ v x, t.value? v = some x → t'.value? v = some x
  kinds : ∀ v k, t.kind? v = some k → t'.kind? v = some k

section Run

variable {t t' : Table}

theorem Consistent.bijective (ht : t.Consistent) : t.Bijective where
  byReference := ht.byReference
  byText := ht.byText
  inverse := fun v x => by rw [ht.value?_eq_some_iff, ht.reference?_eq_some_iff]
  references := ht.references_nodup
  texts := ht.chars_nodup

theorem Grows.keeps (hg : t.Grows t') (ht : t.Consistent) : t.Keeps t' where
  entries := hg.entries_isPrefix
  values := by
    intro v x hx
    obtain ⟨p, hp, rfl⟩ := Option.map_eq_some_iff.mp hx
    rw [value?, hg.placeholder? ht hp, Option.map_some]
  kinds := by
    intro v k hk
    obtain ⟨p, hp, rfl⟩ := Option.map_eq_some_iff.mp hk
    rw [kind?, hg.placeholder? ht hp, Option.map_some]

/-- **References and placeholders correspond one to one, for good.** In every table of a run the
    correspondence holds, and every later table of the run keeps what the table has. Once a text
    was expanded, its expansion is the same at any later time and adds nothing. -/
theorem run?_bijective_and_stable {calls more : List Call}
    (h : initial.run? calls = some t) (h' : t.run? more = some t') :
    t.Bijective ∧ t.Keeps t' ∧
    ∀ text out, (t.substitute text).2 = .ok out →
      ∀ later t'', (t.substitute text).1.run? later = some t'' →
        t''.substitute text = (t'', .ok out) := by
  have ht : t.Consistent := run?_consistent h
  refine ⟨ht.bijective, (run?_grows h').keeps ht, ?_⟩
  intro text out hout later t'' hlater
  have hs : t.substitute text = ((t.substitute text).1, .ok out) := by rw [← hout]
  exact substitute_again ht hs (run?_grows hlater)

/-- The calls include a substitution that fails at its second reference; one more text is expanded,
    and then a kind is asked for that the variable does not have. -/
theorem run?_after_unknownFormat :
    ∃ t t' out, initial.run? [.placeholder "$job".toList .text,
        .substitute "$job $\x7bjob:csv:raw\x7d".toList] = some t ∧
      t.run? [.substitute "$instance".toList] = some t' ∧
      t'.run? [.placeholder "$job".toList .timeRange] = some t' ∧
      t.Bijective ∧ t.Keeps t' ∧ t'.substitute "$instance".toList = (t', .ok out) := by
  obtain ⟨p, t, ha, hroom⟩ := initial_spec.2.assign? "$job".toList .text
  obtain ⟨q, t', ha', -⟩ := hroom.assign? "$instance".toList .text
  have hp : t.placeholder? "$job".toList = some p :=
    initial_spec.2.consistent.placeholder?_of_assign? ha
  have hp' : t'.placeholder? "$job".toList = some p :=
    (Grows.of_assign? ha').placeholder? hroom.consistent hp
  -- the first reference of the failing text has a placeholder already
  have hfails : t.call? (.substitute "$job $\x7bjob:csv:raw\x7d".toList) = some t := by
    have hpieces : Variable.pieces "$job $\x7bjob:csv:raw\x7d".toList =
        [.token "$job".toList, .char ' ', .token "$\x7bjob:csv:raw\x7d".toList] := by
      decide +kernel
    have hok : t.ofToken "$job".toList = .ok (p, t) :=
      ofToken_eq_ok.mpr ⟨.text, rfl, assign?_of_placeholder? hp⟩
    have herror : t.ofToken "$\x7bjob:csv:raw\x7d".toList =
        .error (.unknownFormat "$\x7bjob:csv:raw\x7d") := rfl
    simp only [call?, substitute, hpieces, substituteFrom, hok, herror]
    rfl
  have hcalls : initial.run? [.placeholder "$job".toList .text,
      .substitute "$job $\x7bjob:csv:raw\x7d".toList] = some t := by
    rw [run?_cons, call?, ha, Option.map_some, Option.bind_some, run?_singleton]
    exact hfails
  have hsub : t.substitute "$instance".toList = (t', .ok q.chars) := by
    have hpieces : Variable.pieces "$instance".toList = [.token "$instance".toList] := by
      decide +kernel
    have hok : t.ofToken "$instance".toList = .ok (q, t') := ofToken_eq_ok.mpr ⟨.text, rfl, ha'⟩
    have hunit : unitAfter [] q [] = [] := by
      rw [unitAfter, show expectsDuration [] = false by decide +kernel]
      rfl
    simp only [substitute, hpieces, substituteFrom, hok, List.reverse_nil, hunit]
    simp [Quotes.start]
  have hmore : t.run? [.substitute "$instance".toList] = some t' := by
    rw [run?_singleton, call?, hsub]
  have hlater : t'.run? [.placeholder "$job".toList .timeRange] = some t' := by
    rw [run?_singleton, call?, assign?_of_placeholder? hp', Option.map_some]
  obtain ⟨hbij, hkeeps, hagain⟩ := run?_bijective_and_stable hcalls hmore
  refine ⟨t, t', q.chars, hcalls, hmore, hlater, hbij, hkeeps, ?_⟩
  refine hagain _ _ (by rw [hsub]) [.placeholder "$job".toList .timeRange] t' ?_
  rw [hsub]
  exact hlater

end Run

end BoardLint.Table
