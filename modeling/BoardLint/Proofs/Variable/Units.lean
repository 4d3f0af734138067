import BoardLint.Proofs.Variable.Duration
import BoardLint.Proofs.Variable.RoundTrip

set_option autoImplicit false

/-! # Units behind references

Where a duration is expected, a reference may be followed by a unit. Substitution then adds none, so
the unit in the expansion is that of the text. Reverting takes the unit of seconds for one that was
added, and drops it with the placeholder; the other units stay (`Table.revert_substitute_units`).

For this, no form may begin in what was copied. One that is not in the text would have to reach into
a placeholder (`Table.ReachesInto`), and none does. -/

namespace BoardLint

/-! ## References with a unit -/

namespace Table

/-- A unit of a duration comes next, and words stop behind it. -/
def UnitFollows (rest : List Variable.Piece) : Prop :=
  ∃ (u : Duration.Scale) (tail : List Variable.Piece), rest = u.mark.map .char ++ tail ∧
    Placeholder.StopsWord (tail.flatMap Variable.Piece.chars)

/-- Every reference outside double quotes stands for a length of time, where a duration is expected,
    and a unit follows it. `out` is what was written before the pieces, in reverse order. -/
def UnitsWritten (t : Table) (out : List Char) (quotes : Quotes) : List Variable.Piece → Prop
  | [] => True
  | .char c :: rest => t.UnitsWritten (c :: out) (quotes.step c) rest
  | .token token :: rest =>
    let after := token.foldl Quotes.step quotes
    if quotes.inside then t.UnitsWritten (token.reverse ++ out) after rest
    else
      t.kind? token = some .timeRange ∧ expectsDuration out.reverse = true ∧ UnitFollows rest ∧
        t.UnitsWritten ((t.written out token rest).reverse ++ out) after rest

section Units

variable {t t' : Table} {out : List Char} {quotes : Quotes} {pieces : List Variable.Piece}

theorem parts_chars (t : Table) (out : List Char) (quotes : Quotes) (chars : List Char)
    (tail : List Variable.Piece) :
    t.parts out quotes (chars.map .char ++ tail) =
      chars.map .copied ++
        t.parts (chars.reverse ++ out) (chars.foldl Quotes.step quotes) tail := by
  induction chars generalizing out quotes with
  | nil => rfl
  | cons c chars ih => simp [parts, ih]

theorem UnitsWritten.chars {chars : List Char} {tail : List Variable.Piece}
    (h : t.UnitsWritten out quotes (chars.map .char ++ tail)) :
    t.UnitsWritten (chars.reverse ++ out) (chars.foldl Quotes.step quotes) tail := by
  induction chars generalizing out quotes with
  | nil => exact h
  | cons c chars ih =>
      rw [List.reverse_cons, List.append_assoc]
      exact ih h

/-- Where words stop in a text, they stop in its expansion, unless a duration is expected there. -/
theorem UnitsWritten.stopsWord (h : t.UnitsWritten out quotes pieces)
    (hout : expectsDuration out.reverse = false)
    (hstop : Placeholder.StopsWord (pieces.flatMap Variable.Piece.chars)) :
    Placeholder.StopsWord (Part.text (t.parts out quotes pieces)) := by
  induction pieces generalizing quotes with
  | nil => exact hstop
  | cons piece rest ih =>
      cases piece with
      | char c => exact hstop
      | token token =>
          cases hq : quotes.inside with
          | true =>
              simp only [UnitsWritten, hq, if_true] at h
              simp only [parts, hq, if_true, Part.text_copied_append]
              cases token with
              | nil => exact ih h hstop
              | cons c token => exact hstop
          | false =>
              simp only [UnitsWritten, hq] at h
              rw [h.2.1] at hout
              exact absurd hout (by simp)

/-- What a reference outside double quotes contributes: the digits of a number of seconds, with the
    unit of the text behind them. -/
theorem UnitsWritten.token {token : List Char} {rest : List Variable.Piece}
    (h : t.UnitsWritten out quotes (.token token :: rest)) (hq : quotes.inside = false) :
    ∃ m u back,
      let digits := (Placeholder.seconds m).chars
      let behind := t.parts (digits.reverse ++ out) (token.foldl Quotes.step quotes) rest
      t.placeholder? token = some (.seconds m) ∧ expectsDuration out.reverse = true ∧
      unitAfter out.reverse (.seconds m) rest = [] ∧
      t.UnitsWritten (digits.reverse ++ out) (token.foldl Quotes.step quotes) rest ∧
      t.parts out quotes (.token token :: rest) = .placed token digits :: behind ∧
      behind = (Duration.Scale.mark u).map .copied ++ back ∧
      Placeholder.StopsWord (Part.text back) := by
  simp only [UnitsWritten, hq] at h
  obtain ⟨hkind, hexpects, ⟨u, tail, rfl, hstop⟩, hrest⟩ := h
  obtain ⟨p, hp, hp_kind⟩ := Option.map_eq_some_iff.mp hkind
  obtain ⟨m, rfl⟩ : ∃ m, p = .seconds m := by
    cases p with
    | seconds m => exact ⟨m, rfl⟩
    | _ => simp [Placeholder.kind] at hp_kind
  have hunit : unitAfter out.reverse (.seconds m) (u.mark.map .char ++ tail) = [] := by
    have hcontinues : continuesWord (u.mark.map .char ++ tail) = true := by
      cases u <;> rfl
    simp [unitAfter, hcontinues]
  have hwritten : t.written out token (u.mark.map .char ++ tail) =
      (Placeholder.seconds m).chars := by
    simp only [written, hp, hunit, List.append_nil]
  rw [hwritten] at hrest
  refine ⟨m, u, _, hp, hexpects, hunit, hrest, ?_, t.parts_chars _ _ _ _, ?_⟩
  · simp only [parts, hq, hwritten]
    rfl
  · refine hrest.chars.stopsWord ?_ hstop
    rw [List.reverse_append, List.reverse_reverse]
    exact expectsDuration_mark _ u

/-! ## Copies -/

/-- A text behind `out` reaches, from a character that a duration can follow, into a number of
    seconds with a unit. The character is the last one of `out` or in the text. -/
def ReachesInto (out f : List Char) : Prop :=
  ∃ (front : List Char) (c : Char) (d : List Char) (m : Nat) (u : Duration.Scale)
    (tail : List Char), out.reverse ++ f = front ++ c :: d ∧ out.length ≤ front.length + 1 ∧
    UshersDuration c ∧ d ≠ [] ∧ Placeholder.StopsWord tail ∧
    d <+: (Placeholder.seconds m).chars ++ u.mark ++ tail

/-- A text behind copied characters, with them. -/
theorem ReachesInto.append {copied f : List Char} (h : ReachesInto (copied.reverse ++ out) f) :
    ReachesInto out (copied ++ f) := by
  obtain ⟨front, c, d, m, u, tail, heq, hlen, hreaches⟩ := h
  rw [List.reverse_append, List.reverse_reverse, List.append_assoc] at heq
  rw [List.length_append] at hlen
  exact ⟨front, c, d, m, u, tail, heq, by omega, hreaches⟩

/-- A form does not reach into a number of seconds from what was copied before it. -/
theorem ReachesInto.not_mem_forms {copied f : List Char}
    (h : ReachesInto (copied.reverse ++ out) f) (hcopied : copied ≠ []) {q : Placeholder}
    (hq : q.Proper) : copied ++ f ∉ q.forms := by
  obtain ⟨front, c, d, m, u, tail, heq, hlen, hc, hd, htail, hpre⟩ := h
  rw [List.reverse_append, List.reverse_reverse, List.append_assoc] at heq
  rw [List.length_append, List.length_reverse] at hlen
  have hpos := List.length_pos_iff.mpr hcopied
  have hfront : out.reverse <+: front :=
    List.prefix_of_prefix_length_le ⟨_, heq⟩ (List.prefix_append _ _)
      (by rw [List.length_reverse]; omega)
  obtain ⟨front', rfl⟩ := hfront
  rw [List.append_assoc] at heq
  rw [List.append_cancel_left heq]
  exact Placeholder.not_mem_forms_across hq hc hd htail hpre

/-- A beginning of copied characters and what follows them ends in them, or goes on behind them. -/
theorem prefix_append_cases {f copied rest : List Char} (h : f <+: copied ++ rest) :
    f <+: copied ∨ ∃ f', f = copied ++ f' ∧ f' <+: rest := by
  obtain ⟨tail, htail⟩ := h
  rcases List.append_eq_append_iff.mp htail with ⟨as, rfl, -⟩ | ⟨as, rfl, rfl⟩
  · exact Or.inl (List.prefix_append f as)
  · exact Or.inr ⟨as, rfl, List.prefix_append as tail⟩

/-- What an expansion begins with, the text begins with, unless it reaches into a placeholder. -/
theorem UnitsWritten.prefix_cases (h : t.UnitsWritten out quotes pieces) {f : List Char}
    (hf : f <+: Part.text (t.parts out quotes pieces)) :
    f <+: pieces.flatMap Variable.Piece.chars ∨ ReachesInto out f := by
  induction pieces generalizing out quotes f with
  | nil => exact Or.inl hf
  | cons piece rest ih =>
      -- copied characters are the same in the text
      have hcopied : ∀ (copied : List Char) (quotes : Quotes),
          t.UnitsWritten (copied.reverse ++ out) quotes rest →
          f <+: copied ++ Part.text (t.parts (copied.reverse ++ out) quotes rest) →
          f <+: copied ++ rest.flatMap Variable.Piece.chars ∨ ReachesInto out f := by
        intro copied quotes h hf
        rcases prefix_append_cases hf with hf | ⟨f', rfl, hf'⟩
        · exact Or.inl (hf.trans (List.prefix_append _ _))
        · rcases ih h hf' with hf' | hreaches
          · exact Or.inl ((List.prefix_append_right_inj copied).mpr hf')
          · exact Or.inr hreaches.append
      cases piece with
      | char c => exact hcopied [c] (quotes.step c) h hf
      | token token =>
          cases hq : quotes.inside with
          | true =>
              simp only [UnitsWritten, hq, if_true] at h
              simp only [parts, hq, if_true, Part.text_copied_append] at hf
              exact hcopied token _ h hf
          | false =>
              obtain ⟨m, u, back, -, hexpects, -, -, hparts, hbehind, hstop⟩ := h.token hq
              rw [hparts, hbehind, Part.text_cons, Part.text_copied_append] at hf
              by_cases hnil : f = []
              · rw [hnil]
                exact Or.inl List.nil_prefix
              · obtain ⟨front, c, hout, hc⟩ := exists_ushersDuration hexpects
                refine Or.inr ⟨front, c, f, m, u, Part.text back, ?_, ?_, hc, hnil, hstop, ?_⟩
                · rw [hout, List.append_assoc]
                  rfl
                · have := congrArg List.length hout
                  simp at this
                  omega
                · rw [List.append_assoc]
                  exact hf

/-- No form begins at copied characters, if none is in the text. -/
theorem UnitsWritten.beginsNoForm (ht : t.Consistent) {copied : List Char}
    (h : t.UnitsWritten (copied.reverse ++ out) quotes pieces) (hcopied : copied ≠ [])
    (hclear : ∀ e ∈ t.entries, ∀ form ∈ e.placeholder.forms,
      ¬ form <:+: copied ++ pieces.flatMap Variable.Piece.chars) :
    t.BeginsNoForm (copied ++ Part.text (t.parts (copied.reverse ++ out) quotes pieces)) := by
  intro e he form hform hpre
  rcases prefix_append_cases hpre with hpre | ⟨f, rfl, hf⟩
  · exact hclear e he form hform (hpre.trans (List.prefix_append _ _)).isInfix
  · rcases h.prefix_cases hf with hf | hreaches
    · exact hclear e he _ hform ((List.prefix_append_right_inj copied).mpr hf).isInfix
    · exact hreaches.not_mem_forms hcopied (ht.proper he) hform

theorem atCopies_copied_append {P : List Char → Prop} {copied : List Char} {rest : List Part}
    (h : ∀ front back, copied = front ++ back → back ≠ [] → P (back ++ Part.text rest))
    (hrest : Part.AtCopies P rest) : Part.AtCopies P (copied.map .copied ++ rest) := by
  induction copied with
  | nil => exact hrest
  | cons c copied ih =>
      have hfirst := h [] (c :: copied) rfl (List.cons_ne_nil _ _)
      rw [List.cons_append, ← Part.text_copied_append] at hfirst
      exact ⟨hfirst, ih fun front back heq hne => h (c :: front) back (by rw [heq]; rfl) hne⟩

/-- No form begins inside a part that was copied, if none is in the text. -/
theorem UnitsWritten.atCopies (ht : t.Consistent) (h : t.UnitsWritten out quotes pieces)
    (hclear : ∀ e ∈ t.entries, ∀ form ∈ e.placeholder.forms,
      ¬ form <:+: pieces.flatMap Variable.Piece.chars) :
    Part.AtCopies t.BeginsNoForm (t.parts out quotes pieces) := by
  induction pieces generalizing out quotes with
  | nil => trivial
  | cons piece rest ih =>
      have hrest : ∀ e ∈ t.entries, ∀ form ∈ e.placeholder.forms,
          ¬ form <:+: rest.flatMap Variable.Piece.chars := fun e he form hform hin =>
        hclear e he form hform (hin.trans (List.suffix_append piece.chars _).isInfix)
      cases piece with
      | char c =>
          have h' : t.UnitsWritten ([c].reverse ++ out) (quotes.step c) rest := h
          exact ⟨h'.beginsNoForm ht (List.cons_ne_nil c []) hclear, ih h hrest⟩
      | token token =>
          cases hq : quotes.inside with
          | true =>
              simp only [UnitsWritten, hq, if_true] at h
              simp only [parts, hq, if_true]
              refine atCopies_copied_append (fun front back heq hne => ?_) (ih h hrest)
              subst heq
              rw [List.reverse_append, List.append_assoc] at h ⊢
              refine h.beginsNoForm ht hne fun e he form hform hin => ?_
              refine hclear e he form hform (hin.trans ?_)
              rw [List.flatMap_cons, Variable.Piece.chars, List.append_assoc]
              exact (List.suffix_append front _).isInfix
          | false =>
              obtain ⟨m, u, back, -, -, -, hbehind, hparts, -⟩ := h.token hq
              rw [hparts]
              exact ih hbehind hrest

/-! ## Seconds behind a placeholder -/

/-- Placeholders are the digits of numbers of seconds, with a copied unit behind them. -/
def Unitary (t : Table) : List Part → Prop
  | [] => True
  | .copied _ :: rest => t.Unitary rest
  | .placed reference written :: rest =>
    (∃ m, t.placeholder? reference = some (.seconds m) ∧ written = (Placeholder.seconds m).chars) ∧
      (∃ u back, rest = (Duration.Scale.mark u).map .copied ++ back ∧
        Placeholder.StopsWord (Part.text back)) ∧ t.Unitary rest

theorem Unitary.copied_append {copied : List Char} {rest : List Part} (h : t.Unitary rest) :
    t.Unitary (copied.map .copied ++ rest) := by
  induction copied with
  | nil => exact h
  | cons c copied ih => exact ih

theorem UnitsWritten.unitary (h : t.UnitsWritten out quotes pieces) :
    t.Unitary (t.parts out quotes pieces) := by
  induction pieces generalizing out quotes with
  | nil => trivial
  | cons piece rest ih =>
      cases piece with
      | char c => exact ih (show t.UnitsWritten (c :: out) (quotes.step c) rest from h)
      | token token =>
          cases hq : quotes.inside with
          | true =>
              simp only [UnitsWritten, hq, if_true] at h
              simp only [parts, hq, if_true]
              exact (ih h).copied_append
          | false =>
              obtain ⟨m, u, back, hp, -, -, hrest, hparts, hbehind, hstop⟩ := h.token hq
              rw [hparts]
              exact ⟨⟨m, hp, rfl⟩, ⟨u, back, hbehind, hstop⟩, ih hrest⟩

end Units

end Table

namespace Part

/-- An `s` directly behind a placeholder is taken as the unit that was written with it. -/
def absorbSeconds : List Part → List Part
  | .placed reference written :: .copied 's' :: rest =>
    .placed reference (written ++ ['s']) :: absorbSeconds rest
  | part :: rest => part :: absorbSeconds rest
  | [] => []

/-- Absorbing leaves the expansion as it is. -/
theorem text_absorbSeconds (parts : List Part) : text (absorbSeconds parts) = text parts := by
  fun_induction absorbSeconds parts with
  | case1 reference written rest ih => simp [ih, chars]
  | case2 part rest _ ih => simp [ih]
  | case3 => rfl

/-- Where no `s` is directly behind a placeholder, nothing is absorbed. -/
theorem absorbSeconds_eq_self {parts : List Part}
    (h : ∀ front reference written back,
      parts ≠ front ++ .placed reference written :: .copied 's' :: back) :
    absorbSeconds parts = parts := by
  fun_induction absorbSeconds parts with
  | case1 reference written rest ih => exact absurd rfl (h [] reference written rest)
  | case2 part rest _ ih =>
      rw [ih fun front reference written back heq => h (part :: front) reference written back ?_]
      rw [heq]
      rfl
  | case3 => rfl

/-- Where an `s` is directly behind a placeholder, the text gets shorter. -/
theorem length_sources_absorbSeconds (parts : List Part) :
    (sources (absorbSeconds parts)).length ≤ (sources parts).length ∧
    ((∃ front reference written back,
        parts = front ++ .placed reference written :: .copied 's' :: back) →
      (sources (absorbSeconds parts)).length < (sources parts).length) := by
  fun_induction absorbSeconds parts with
  | case1 reference written rest ih =>
      have hlt := ih.1
      simp only [sources_cons, source, List.length_append, List.length_singleton]
      exact ⟨by omega, fun _ => by omega⟩
  | case2 part rest hother ih =>
      obtain ⟨hle, hlt⟩ := ih
      simp only [sources_cons, List.length_append]
      refine ⟨by omega, ?_⟩
      rintro ⟨front, reference, written, back, heq⟩
      cases front with
      | nil =>
          obtain ⟨rfl, rfl⟩ := List.cons.inj heq
          exact absurd rfl (hother reference written back rfl)
      | cons first front =>
          have := hlt ⟨front, reference, written, back, (List.cons.inj heq).2⟩
          omega
  | case3 => simp

end Part

namespace Table

section Revert

variable {t t' : Table}

/-- Where the digits of a number of seconds are not followed by the unit, the reference is found and
    what follows stays. -/
theorem Consistent.firstMatch?_digits (ht : t.Consistent) {reference rest : List Char} {m : Nat}
    (hp : ⟨reference, .seconds m⟩ ∈ t.entries) (hrest : rest.head? ≠ some 's') :
    firstMatch? ((Placeholder.seconds m).chars ++ rest) t.patterns = some (reference, rest) :=
  ht.firstMatch?_of_longest hp List.mem_cons_self fun _ hq _ hf hpre =>
    Placeholder.longest_digits (ht.proper hp) hq hrest hf hpre

/-- The unit of seconds goes with the placeholder, and the other units stay. -/
theorem Unitary.resolved (ht : t.Consistent) {parts : List Part} (h : t.Unitary parts)
    (hclear : Part.AtCopies t.BeginsNoForm parts) : t.Resolved (Part.absorbSeconds parts) := by
  fun_induction Part.absorbSeconds parts with
  | case1 reference written rest ih =>
      obtain ⟨⟨m, hp, rfl⟩, ⟨u, back, heq, hstop⟩, hrest⟩ := h
      obtain rfl : rest = back := by
        cases u <;> simp [Duration.Scale.mark] at heq
        exact heq
      rw [ht.placeholder?_eq_some_iff] at hp
      have hwritten : (Placeholder.seconds m).Written ((Placeholder.seconds m).chars ++ ['s']) :=
        Or.inr ⟨rfl, rfl⟩
      refine ⟨hwritten.ne_nil (ht.proper hp), ?_, ih hrest hclear.2⟩
      rw [Part.text_absorbSeconds]
      exact ht.firstMatch?_written hp hwritten hstop
  | case2 part rest hother ih =>
      cases part with
      | copied c =>
          refine ⟨?_, ih h hclear.2⟩
          rw [Part.text_absorbSeconds]
          exact hclear.1
      | placed reference written =>
          obtain ⟨⟨m, hp, rfl⟩, ⟨u, back, rfl, hstop⟩, hrest⟩ := h
          rw [ht.placeholder?_eq_some_iff] at hp
          have hhead : (Part.text (u.mark.map .copied ++ back)).head? ≠ some 's' := by
            rw [Part.text_copied_append]
            cases u with
            | second => exact absurd rfl (hother reference _ back rfl)
            | _ => simp [Duration.Scale.mark]
          have hwritten : (Placeholder.seconds m).Written (Placeholder.seconds m).chars :=
            Or.inl rfl
          refine ⟨hwritten.ne_nil (ht.proper hp), ?_, ih hrest hclear⟩
          rw [Part.text_absorbSeconds]
          exact ht.firstMatch?_digits hp hhead
  | case3 => trivial

/-- References that have placeholders leave the table as it is. -/
theorem UnitsWritten.table_eq {out result : List Char} {quotes : Quotes}
    {pieces : List Variable.Piece} (h : t.UnitsWritten out quotes pieces)
    (hsub : t.substituteFrom out quotes pieces = (t', .ok result)) : t' = t := by
  induction pieces generalizing out quotes with
  | nil =>
      simp only [substituteFrom, Prod.mk.injEq] at hsub
      exact hsub.1.symm
  | cons piece rest ih =>
      cases piece with
      | char c => exact ih (show t.UnitsWritten (c :: out) (quotes.step c) rest from h) hsub
      | token token =>
          cases hq : quotes.inside with
          | true =>
              simp only [UnitsWritten, hq, if_true] at h
              simp only [substituteFrom, hq, if_true] at hsub
              exact ih h hsub
          | false =>
              obtain ⟨m, u, back, hp, -, hunit, hrest, -⟩ := h.token hq
              obtain ⟨p, t₁, hof, -, hsub⟩ := substituteFrom_token_eq_ok hq hsub
              obtain ⟨kind, -, ha⟩ := ofToken_eq_ok.mp hof
              rw [assign?_of_placeholder? hp] at ha
              obtain ⟨rfl, rfl⟩ := Prod.mk.inj (Option.some.inj ha)
              rw [hunit, List.append_nil] at hsub
              exact ih hrest hsub

/-- What reverting makes of a text whose references have units. -/
theorem UnitsWritten.revert_eq (ht : t.Consistent) {text out : List Char}
    (h : t.UnitsWritten [] Quotes.start (Variable.pieces text))
    (hsub : t.substitute text = (t', .ok out))
    (hclear : ∀ e ∈ t.entries, ∀ form ∈ e.placeholder.forms, ¬ form <:+: text) :
    let parts := t.parts [] Quotes.start (Variable.pieces text)
    t' = t ∧ out = Part.text parts ∧
      t.revert out = Part.sources (Part.absorbSeconds parts) := by
  intro parts
  obtain rfl := h.table_eq hsub
  have hout : out = Part.text parts := substituteFrom_eq_parts ht hsub
  refine ⟨rfl, hout, ?_⟩
  rw [← Variable.flatMap_chars_pieces text] at hclear
  have hresolved := h.unitary.resolved ht (h.atCopies ht hclear)
  rw [revert, hout, ← Part.text_absorbSeconds parts]
  exact revertFrom_of_resolved hresolved (Nat.le_refl _)

/-- **Of the units behind references, reverting drops that of seconds and keeps the others.** The
    table has the variables of the server and of any templates. Every reference outside double
    quotes stands for a length of time where a duration is expected, with a unit behind it, and no
    form of the table occurs in the text. Then the text comes back without the `s` directly behind
    placeholders, so it comes back unchanged exactly if there is none. -/
theorem revert_substitute_units {templates : List Template} {text out : List Char}
    (hreg : initial.register? templates = some t) (hsub : t.substitute text = (t', .ok out))
    (hunits : t.UnitsWritten [] Quotes.start (Variable.pieces text))
    (hclear : ∀ e ∈ t'.entries, ∀ form ∈ e.placeholder.forms, ¬ form <:+: text) :
    let parts := t'.parts [] Quotes.start (Variable.pieces text)
    (out = Part.text parts ∧ text = Part.sources parts) ∧
    t'.revert out = Part.sources (Part.absorbSeconds parts) ∧
    (t'.revert out = text ↔ ∀ front reference written back,
      parts ≠ front ++ .placed reference written :: .copied 's' :: back) := by
  intro parts
  have ht : t.Consistent := (register?_grows hreg).consistent initial_consistent
  obtain rfl := hunits.table_eq hsub
  obtain ⟨-, hout, hrevert⟩ := hunits.revert_eq ht hsub hclear
  have htext : text = Part.sources parts := by
    rw [sources_parts, Variable.flatMap_chars_pieces]
  refine ⟨⟨hout, htext⟩, hrevert, ?_⟩
  rw [hrevert]
  constructor
  · intro heq front reference written back hparts
    have hlt := (Part.length_sources_absorbSeconds parts).2
      ⟨front, reference, written, back, hparts⟩
    rw [heq, ← htext] at hlt
    exact absurd hlt (Nat.lt_irrefl _)
  · intro hnone
    rw [Part.absorbSeconds_eq_self hnone, ← htext]

/-- A query with a quoted reference, and with a unit behind the reference in its range. -/
def rangeText (u : Duration.Scale) : List Char :=
  "x\x7ba=\"$b\"\x7d[$\x7b__rate_interval\x7d".toList ++ u.mark ++ [']']

section Range

variable {m : Nat} (u : Duration.Scale)

theorem pieces_rangeText : Variable.pieces (rangeText u) =
    "x\x7ba=\"".toList.map .char ++ .token "$b".toList :: ("\"\x7d[".toList.map .char ++
      .token "$\x7b__rate_interval\x7d".toList :: (u.mark.map .char ++ [.char ']'])) := by
  cases u <;> decide +kernel

theorem unitsWritten_rangeText
    (hp : t.placeholder? "$\x7b__rate_interval\x7d".toList = some (.seconds m)) :
    t.UnitsWritten [] Quotes.start (Variable.pieces (rangeText u)) := by
  have hkind : t.kind? "$\x7b__rate_interval\x7d".toList = some .timeRange := by
    rw [kind?, hp]
    rfl
  have hstop : Placeholder.StopsWord [']'] := by
    intro c hc
    obtain rfl : ']' = c := by simpa using hc
    decide
  rw [pieces_rangeText]
  refine ⟨hkind, by decide +kernel, ⟨u, [.char ']'], rfl, hstop⟩, ?_⟩
  cases u <;> trivial

theorem substitute_rangeText
    (hp : t.placeholder? "$\x7b__rate_interval\x7d".toList = some (.seconds m)) :
    t.substitute (rangeText u) = (t, .ok ("x\x7ba=\"$b\"\x7d[".toList ++
      (Placeholder.seconds m).chars ++ u.mark ++ [']'])) := by
  have hok : t.ofToken "$\x7b__rate_interval\x7d".toList = .ok (.seconds m, t) :=
    ofToken_eq_ok.mpr ⟨.text, rfl, assign?_of_placeholder? hp⟩
  have hcopy : t.substitute (rangeText u) =
      t.substituteFrom "x\x7ba=\"$b\"\x7d[".toList.reverse Quotes.start
        (.token "$\x7b__rate_interval\x7d".toList :: (u.mark.map .char ++ [.char ']'])) := by
    rw [substitute, pieces_rangeText]
    rfl
  rw [hcopy]
  simp only [substituteFrom, hok]
  cases u <;> simp [Duration.Scale.mark, substituteFrom, Quotes.start, unitAfter, continuesWord]

theorem parts_rangeText
    (hp : t.placeholder? "$\x7b__rate_interval\x7d".toList = some (.seconds m)) :
    t.parts [] Quotes.start (Variable.pieces (rangeText u)) =
      "x\x7ba=\"$b\"\x7d[".toList.map .copied ++
        .placed "$\x7b__rate_interval\x7d".toList (Placeholder.seconds m).chars ::
          (u.mark.map .copied ++ [.copied ']']) := by
  have hwritten : t.written "x\x7ba=\"$b\"\x7d[".toList.reverse
      "$\x7b__rate_interval\x7d".toList (u.mark.map .char ++ [.char ']']) =
      (Placeholder.seconds m).chars := by
    simp only [written, hp]
    cases u <;> simp [Duration.Scale.mark, unitAfter, continuesWord]
  rw [pieces_rangeText, ← hwritten]
  cases u <;> rfl

/-- The text has no pair of characters with which a form begins. -/
theorem Consistent.not_isInfix_rangeText (ht : t.Consistent) {e : Entry} (he : e ∈ t.entries)
    {form : List Char} (hform : form ∈ e.placeholder.forms) : ¬ form <:+: rangeText u := by
  rintro ⟨front, back, heq⟩
  have hleads : ∀ tail ∈ (rangeText u).tails, tail.take 2 ∉ Placeholder.leads := by
    cases u <;> decide +kernel
  refine ht.beginsNoForm (hleads (form ++ back) ?_) e he form hform (List.prefix_append _ _)
  rw [List.mem_tails, ← heq, List.append_assoc]
  exact List.suffix_append _ _

end Range

/-- Milliseconds come back, and so does the reference between double quotes. -/
theorem revert_substitute_units_millis :
    initial.register? [] = some initial ∧
    initial.UnitsWritten [] Quotes.start (Variable.pieces (rangeText .milli)) ∧
    initial.substitute (rangeText .milli) =
      (initial, .ok "x\x7ba=\"$b\"\x7d[11277965ms]".toList) ∧
    initial.revert "x\x7ba=\"$b\"\x7d[11277965ms]".toList =
      "x\x7ba=\"$b\"\x7d[$\x7b__rate_interval\x7dms]".toList := by
  have hp := initial_placeholder?_rateInterval_braces
  have hreg : initial.register? [] = some initial := rfl
  have hunits := unitsWritten_rangeText .milli hp
  have hsub : initial.substitute (rangeText .milli) =
      (initial, .ok "x\x7ba=\"$b\"\x7d[11277965ms]".toList) := substitute_rangeText .milli hp
  obtain ⟨-, hrevert, -⟩ := revert_substitute_units hreg hsub hunits
    fun e he form hform => initial_consistent.not_isInfix_rangeText .milli he hform
  refine ⟨hreg, hunits, hsub, ?_⟩
  rw [hrevert, parts_rangeText .milli hp]
  rfl

/-- Seconds do not come back: the unit that the text has behind the reference is lost. -/
theorem revert_loses_seconds :
    initial.register? [] = some initial ∧
    initial.UnitsWritten [] Quotes.start (Variable.pieces (rangeText .second)) ∧
    (∀ e ∈ initial.entries, ∀ form ∈ e.placeholder.forms, ¬ form <:+: rangeText .second) ∧
    initial.substitute (rangeText .second) =
      (initial, .ok "x\x7ba=\"$b\"\x7d[11277965s]".toList) ∧
    initial.revert "x\x7ba=\"$b\"\x7d[11277965s]".toList =
      "x\x7ba=\"$b\"\x7d[$\x7b__rate_interval\x7d]".toList ∧
    initial.revert "x\x7ba=\"$b\"\x7d[11277965s]".toList ≠ rangeText .second := by
  have hp := initial_placeholder?_rateInterval_braces
  have hunits := unitsWritten_rangeText .second hp
  have hclear : ∀ e ∈ initial.entries, ∀ form ∈ e.placeholder.forms,
      ¬ form <:+: rangeText .second := fun e he form hform =>
    initial_consistent.not_isInfix_rangeText .second he hform
  have hsub : initial.substitute (rangeText .second) =
      (initial, .ok "x\x7ba=\"$b\"\x7d[11277965s]".toList) := substitute_rangeText .second hp
  have hrevert : initial.revert "x\x7ba=\"$b\"\x7d[11277965s]".toList =
      "x\x7ba=\"$b\"\x7d[$\x7b__rate_interval\x7d]".toList := by
    obtain ⟨-, -, hrevert⟩ := hunits.revert_eq initial_consistent hsub hclear
    rw [hrevert, parts_rangeText .second hp]
    rfl
  refine ⟨rfl, hunits, hclear, hsub, hrevert, ?_⟩
  rw [hrevert]
  decide +kernel

end Revert

end Table

end BoardLint
