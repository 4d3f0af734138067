import BoardLint.Proofs.Variable.Form
import BoardLint.Proofs.Variable.Pieces
import BoardLint.Proofs.Variable.Supply

set_option autoImplicit false

/-! # Reverting an expansion

An expansion consists of characters that were copied and of placeholders that were written
(`Table.parts`). `Table.revert` puts the variables back from the front, taking the longest form at
each position. Where a placeholder was written the longest form is what was written, and elsewhere
no form begins, so the text comes back. -/

namespace BoardLint

/-! ## The first pattern -/

/-- The size of a text in bytes, by which patterns are ordered. -/
def byteSize (text : List Char) : Nat := (String.ofList text).utf8ByteSize

theorem byteSize_append (a b : List Char) : byteSize (a ++ b) = byteSize a + byteSize b := by
  simp [byteSize, String.ofList_append]

theorem eq_nil_of_byteSize {a : List Char} (h : byteSize a = 0) : a = [] := by
  have : String.ofList a = "" := String.utf8ByteSize_eq_zero_iff.mp h
  exact String.ofList_injective this

/-- A beginning that is not smaller is the whole. -/
theorem eq_of_prefix_of_byteSize_le {a b : List Char} (h : a <+: b)
    (hs : byteSize b ≤ byteSize a) : a = b := by
  obtain ⟨tail, rfl⟩ := h
  rw [byteSize_append] at hs
  rw [eq_nil_of_byteSize (a := tail) (by omega), List.append_nil]

namespace Table

/-- The first of the patterns that begin a text is the longest of them. -/
theorem firstMatch?_spec (text : List Char) {patterns : List (List Char × List Char)}
    (hsorted : patterns.Pairwise fun a b => byteSize b.1 ≤ byteSize a.1) :
    (firstMatch? text patterns = none ∧ ∀ pattern ∈ patterns, ¬ pattern.1 <+: text) ∨
    ∃ f reference rest, firstMatch? text patterns = some (reference, rest) ∧
      (f, reference) ∈ patterns ∧ f ++ rest = text ∧
      ∀ pattern ∈ patterns, pattern.1 <+: text → pattern.1 <+: f := by
  induction patterns with
  | nil => exact Or.inl ⟨rfl, List.forall_mem_nil _⟩
  | cons pattern others ih =>
      obtain ⟨form, found⟩ := pattern
      simp only [firstMatch?]
      cases hafter : Text.after? form text with
      | some tail =>
          have hcut := Text.after?_eq_some_iff.mp hafter
          refine Or.inr ⟨form, found, tail, rfl, List.mem_cons_self, hcut.symm, ?_⟩
          rw [List.forall_mem_cons]
          refine ⟨fun _ => List.prefix_rfl, fun pattern hpattern hpre => ?_⟩
          -- a later pattern is no larger, so it does not reach further
          rcases List.prefix_or_prefix_of_prefix hpre ⟨tail, hcut.symm⟩ with hshort | hlong
          · exact hshort
          · have hsize := List.rel_of_pairwise_cons hsorted hpattern
            rw [eq_of_prefix_of_byteSize_le hlong hsize]
      | none =>
          have hform : ¬ form <+: text := by
            rintro ⟨tail, htail⟩
            rw [Text.after?_eq_some_iff.mpr htail.symm] at hafter
            exact absurd hafter (by simp)
          rcases ih hsorted.of_cons with
            ⟨hnone, hall⟩ | ⟨f, reference, rest, hsome, hmem, hcut, hall⟩
          · exact Or.inl ⟨hnone, List.forall_mem_cons.mpr ⟨hform, hall⟩⟩
          · refine Or.inr ⟨f, reference, rest, hsome, List.mem_cons_of_mem _ hmem, hcut, ?_⟩
            exact List.forall_mem_cons.mpr ⟨fun hpre => absurd hpre hform, hall⟩

/-- Among patterns in decreasing order of their sizes, the first match is a given one if no other
    reaches further. -/
theorem firstMatch?_eq_some {w rest reference : List Char}
    {patterns : List (List Char × List Char)}
    (hsorted : patterns.Pairwise fun a b => byteSize b.1 ≤ byteSize a.1)
    (hmem : (w, reference) ∈ patterns)
    (hlongest : ∀ pattern ∈ patterns, pattern.1 <+: w ++ rest →
      pattern.1 <+: w ∧ (pattern.1 = w → pattern.2 = reference)) :
    firstMatch? (w ++ rest) patterns = some (reference, rest) := by
  have hw : w <+: w ++ rest := List.prefix_append w rest
  rcases firstMatch?_spec (w ++ rest) hsorted with
    ⟨-, hnone⟩ | ⟨f, found, tail, hsome, hf, hcut, hall⟩
  · exact absurd hw (hnone _ hmem)
  · obtain ⟨hshort, hsame⟩ := hlongest _ hf ⟨tail, hcut⟩
    -- neither of the two reaches further than the other
    have hlong : w <+: f := hall _ hmem hw
    obtain rfl : f = w := hshort.eq_of_length (Nat.le_antisymm hshort.length_le hlong.length_le)
    obtain rfl : found = reference := hsame rfl
    rw [hsome, List.append_cancel_left hcut]

section Patterns

variable {t : Table}

theorem mem_patterns {form reference : List Char} :
    (form, reference) ∈ t.patterns ↔
      ∃ e ∈ t.entries, form ∈ e.placeholder.forms ∧ e.reference = reference := by
  simp only [patterns, List.mem_mergeSort, List.mem_flatMap, List.mem_map, Prod.mk.injEq]
  constructor
  · rintro ⟨e, he, f, hf, rfl, rfl⟩
    exact ⟨e, he, hf, rfl⟩
  · rintro ⟨e, he, hf, rfl⟩
    exact ⟨e, he, form, hf, rfl, rfl⟩

theorem patterns_pairwise (t : Table) :
    t.patterns.Pairwise fun a b => byteSize b.1 ≤ byteSize a.1 := by
  refine (List.pairwise_mergeSort ?_ ?_ _).imp fun h => of_decide_eq_true h
  · intro a b c hab hbc
    exact decide_eq_true (Nat.le_trans (of_decide_eq_true hbc) (of_decide_eq_true hab))
  · intro a b
    simp only [Bool.or_eq_true, decide_eq_true_eq]
    exact Nat.le_total _ _

/-- Where a form of an entry is the longest one, the reference of the entry is found. -/
theorem Consistent.firstMatch?_of_longest (ht : t.Consistent) {e : Entry} (he : e ∈ t.entries)
    {w rest : List Char} (hw : w ∈ e.placeholder.forms)
    (hlongest : ∀ q : Placeholder, q.Proper → ∀ f ∈ q.forms, f <+: w ++ rest →
      f <+: w ∧ (f = w → q.chars = e.placeholder.chars)) :
    firstMatch? (w ++ rest) t.patterns = some (e.reference, rest) := by
  refine firstMatch?_eq_some t.patterns_pairwise ?_ ?_
  · exact mem_patterns.mpr ⟨e, he, hw, rfl⟩
  · rintro ⟨form, reference⟩ hmem hpre
    obtain ⟨e', he', hform, rfl⟩ := mem_patterns.mp hmem
    obtain ⟨hshort, hchars⟩ := hlongest _ (ht.proper he') form hform hpre
    exact ⟨hshort, fun heq => by rw [ht.eq_of_chars he' he (hchars heq)]⟩

/-- Where a placeholder was written and words stop behind it, its reference is found. -/
theorem Consistent.firstMatch?_written (ht : t.Consistent) {e : Entry} (he : e ∈ t.entries)
    {w rest : List Char} (hw : e.placeholder.Written w) (hrest : Placeholder.StopsWord rest) :
    firstMatch? (w ++ rest) t.patterns = some (e.reference, rest) :=
  ht.firstMatch?_of_longest he hw.mem_forms fun _ hq _ hf hpre =>
    hw.longest (ht.proper he) hq hrest hf hpre

end Patterns

end Table

/-! ## Parts of an expansion -/

/-- A part of an expansion: a character that was copied, or what was written for a reference. -/
inductive Part where
  | copied (c : Char)
  | placed (reference written : List Char)
deriving DecidableEq, Repr

namespace Part

/-- The characters of a part in the expansion. -/
def chars : Part → List Char
  | .copied c => [c]
  | .placed _ written => written

/-- The characters that a part comes from. -/
def source : Part → List Char
  | .copied c => [c]
  | .placed reference _ => reference

/-- The expansion that consists of parts. -/
def text (parts : List Part) : List Char := parts.flatMap chars

/-- The text that parts come from. -/
def sources (parts : List Part) : List Char := parts.flatMap source

@[simp] theorem text_cons (part : Part) (parts : List Part) :
    text (part :: parts) = part.chars ++ text parts := rfl

@[simp] theorem sources_cons (part : Part) (parts : List Part) :
    sources (part :: parts) = part.source ++ sources parts := rfl

theorem text_copied_append (copied : List Char) (parts : List Part) :
    text (copied.map .copied ++ parts) = copied ++ text parts := by
  induction copied with
  | nil => rfl
  | cons c copied ih => simp [ih, chars]

theorem sources_copied_append (copied : List Char) (parts : List Part) :
    sources (copied.map .copied ++ parts) = copied ++ sources parts := by
  induction copied with
  | nil => rfl
  | cons c copied ih => simp [ih, source]

/-- A property holds of the expansion from every copied character on. -/
def AtCopies (P : List Char → Prop) : List Part → Prop
  | [] => True
  | .copied c :: rest => P (c :: text rest) ∧ AtCopies P rest
  | .placed _ _ :: rest => AtCopies P rest

instance AtCopies.decidable (P : List Char → Prop) [DecidablePred P] :
    (parts : List Part) → Decidable (AtCopies P parts)
  | [] => inferInstanceAs (Decidable True)
  | .copied c :: rest =>
    have := AtCopies.decidable P rest
    inferInstanceAs (Decidable (P (c :: text rest) ∧ AtCopies P rest))
  | .placed _ _ :: rest => AtCopies.decidable P rest

theorem AtCopies.imp {P Q : List Char → Prop} (h : ∀ tail, P tail → Q tail) {parts : List Part}
    (hp : AtCopies P parts) : AtCopies Q parts := by
  induction parts with
  | nil => trivial
  | cons part rest ih =>
      cases part with
      | copied c => exact ⟨h _ hp.1, ih hp.2⟩
      | placed reference written => exact ih hp

end Part

namespace Table

/-- What a table that knows a reference writes for it: the placeholder and its unit. -/
def written (t : Table) (out token : List Char) (rest : List Variable.Piece) : List Char :=
  match t.placeholder? token with
  | some p => p.chars ++ unitAfter out.reverse p rest
  | none => token

/-- The parts of the expansion of pieces by a table that knows their references. `out` is what was
    written before them, in reverse order. -/
def parts (t : Table) (out : List Char) (quotes : Quotes) : List Variable.Piece → List Part
  | [] => []
  | .char c :: rest => .copied c :: t.parts (c :: out) (quotes.step c) rest
  | .token token :: rest =>
    let after := token.foldl Quotes.step quotes
    if quotes.inside then token.map .copied ++ t.parts (token.reverse ++ out) after rest
    else
      let written := t.written out token rest
      .placed token written :: t.parts (written.reverse ++ out) after rest

/-- The parts come from the pieces. -/
theorem sources_parts (t : Table) (out : List Char) (quotes : Quotes)
    (pieces : List Variable.Piece) :
    Part.sources (t.parts out quotes pieces) = pieces.flatMap Variable.Piece.chars := by
  induction pieces generalizing out quotes with
  | nil => rfl
  | cons piece rest ih =>
      cases piece with
      | char c => simp [parts, ih, Part.source, Variable.Piece.chars]
      | token token =>
          cases hq : quotes.inside with
          | true => simp [parts, hq, Part.sources_copied_append, ih, Variable.Piece.chars]
          | false => simp [parts, hq, ih, Part.source, Variable.Piece.chars]

section Substitute

variable {t t' : Table}

/-- What a substitution returns are the parts that the resulting table makes of the pieces. -/
theorem substituteFrom_eq_parts (ht : t.Consistent) {out result : List Char} {quotes : Quotes}
    {pieces : List Variable.Piece}
    (h : t.substituteFrom out quotes pieces = (t', .ok result)) :
    result = out.reverse ++ Part.text (t'.parts out quotes pieces) := by
  induction pieces generalizing t out quotes with
  | nil =>
      simp only [substituteFrom, Prod.mk.injEq, Except.ok.injEq] at h
      simp [parts, Part.text, h.2]
  | cons piece rest ih =>
      cases piece with
      | char c =>
          rw [ih ht h]
          simp [parts, Part.chars]
      | token token =>
          cases hq : quotes.inside with
          | true =>
              simp only [substituteFrom, hq, if_true] at h
              rw [ih ht h]
              simp [parts, hq, Part.text_copied_append]
          | false =>
              obtain ⟨p, t₁, hof, hg, h⟩ := substituteFrom_token_eq_ok hq h
              obtain ⟨ht₁, hp⟩ := ht.placeholder?_of_ofToken hof hg
              rw [ih ht₁ h]
              simp [parts, hq, written, hp, Part.chars]

end Substitute

/-! ## Putting the variables back -/

/-- The next piece, if there is one, is a character that is no word character; it begins no
    reference. -/
def EndsReference : List Variable.Piece → Prop
  | [] => True
  | .char c :: _ => Text.isWord c = false
  | .token _ :: _ => False

instance EndsReference.decidable : (pieces : List Variable.Piece) → Decidable (EndsReference pieces)
  | [] => inferInstanceAs (Decidable True)
  | .char c :: _ => inferInstanceAs (Decidable (Text.isWord c = false))
  | .token _ :: _ => inferInstanceAs (Decidable False)

/-- Every reference outside double quotes is followed by the end of the text, or by a character that
    is no word character and begins no other reference. -/
def Delimited (quotes : Quotes) : List Variable.Piece → Prop
  | [] => True
  | .char c :: rest => Delimited (quotes.step c) rest
  | .token token :: rest =>
    (quotes.inside = false → EndsReference rest) ∧ Delimited (token.foldl Quotes.step quotes) rest

instance Delimited.decidable :
    (quotes : Quotes) → (pieces : List Variable.Piece) → Decidable (Delimited quotes pieces)
  | _, [] => inferInstanceAs (Decidable True)
  | quotes, .char c :: rest => Delimited.decidable (quotes.step c) rest
  | quotes, .token token :: rest =>
    have := Delimited.decidable (token.foldl Quotes.step quotes) rest
    inferInstanceAs (Decidable ((quotes.inside = false → EndsReference rest) ∧
      Delimited (token.foldl Quotes.step quotes) rest))

/-- No form of the table matches at the beginning of a text. -/
def BeginsNoForm (t : Table) (text : List Char) : Prop :=
  ∀ e ∈ t.entries, ∀ form ∈ e.placeholder.forms, ¬ form <+: text

/-- Parts that can be told apart from the front: no form begins at a copied character, and words
    stop behind every written placeholder. -/
def Separated (t : Table) : List Part → Prop
  | [] => True
  | .copied c :: rest => t.BeginsNoForm (c :: Part.text rest) ∧ t.Separated rest
  | .placed reference written :: rest =>
    (∃ p, ⟨reference, p⟩ ∈ t.entries ∧ p.Written written) ∧
      Placeholder.StopsWord (Part.text rest) ∧ t.Separated rest

/-- Parts that are reverted one by one: no form begins at a copied character, and what was written
    for a reference is the first match there. -/
def Resolved (t : Table) : List Part → Prop
  | [] => True
  | .copied c :: rest => t.BeginsNoForm (c :: Part.text rest) ∧ t.Resolved rest
  | .placed reference written :: rest =>
    written ≠ [] ∧
      firstMatch? (written ++ Part.text rest) t.patterns = some (reference, Part.text rest) ∧
      t.Resolved rest

section Revert

variable {t t' : Table}

theorem BeginsNoForm.firstMatch?_eq_none {text : List Char} (h : t.BeginsNoForm text) :
    firstMatch? text t.patterns = none := by
  rcases firstMatch?_spec text t.patterns_pairwise with
    ⟨hnone, -⟩ | ⟨form, reference, rest, -, hmem, hcut, -⟩
  · exact hnone
  · obtain ⟨e, he, hform, -⟩ := mem_patterns.mp hmem
    exact absurd ⟨rest, hcut⟩ (h e he form hform)

/-- A text that begins with none of the pairs with which forms begin begins with no form. -/
theorem Consistent.beginsNoForm (ht : t.Consistent) {text : List Char}
    (h : text.take 2 ∉ Placeholder.leads) : t.BeginsNoForm text := by
  intro e he form hform hpre
  have hp := ht.proper he
  rw [← Placeholder.take_two_eq_of_isPrefix hpre (Placeholder.length_take_two_form hp hform)] at h
  exact h (Placeholder.take_two_mem_leads hp hform)

/-- A text in which no form begins has nothing to revert. -/
theorem Consistent.revert_eq_self (ht : t.Consistent) {text : List Char}
    (h : ∀ tail ∈ text.tails, tail.take 2 ∉ Placeholder.leads) : t.revert text = text := by
  have hfrom : ∀ fuel, text.length ≤ fuel → revertFrom t.patterns fuel text = text := by
    induction text with
    | nil =>
        intro fuel _
        cases fuel <;> rfl
    | cons c rest ih =>
        intro fuel hfuel
        rw [List.tails_cons, List.forall_mem_cons] at h
        have hnone := (ht.beginsNoForm h.1).firstMatch?_eq_none
        cases fuel with
        | zero => simp at hfuel
        | succ fuel =>
            rw [List.length_cons] at hfuel
            simp only [revertFrom, hnone, ih h.2 fuel (by omega)]
  exact hfrom _ (Nat.le_refl _)

theorem revertFrom_of_resolved {parts : List Part} (h : t.Resolved parts) {fuel : Nat}
    (hfuel : (Part.text parts).length ≤ fuel) :
    revertFrom t.patterns fuel (Part.text parts) = Part.sources parts := by
  induction parts generalizing fuel with
  | nil => cases fuel <;> rfl
  | cons part rest ih =>
      cases part with
      | copied c =>
          obtain ⟨hclear, hrest⟩ := h
          cases fuel with
          | zero => simp [Part.chars] at hfuel
          | succ fuel =>
              simp only [Part.text_cons, Part.chars, List.length_append,
                List.length_singleton] at hfuel
              show revertFrom t.patterns (fuel + 1) (c :: Part.text rest) = _
              simp only [revertFrom, hclear.firstMatch?_eq_none, ih hrest (by omega : _ ≤ fuel)]
              rfl
      | placed reference written =>
          obtain ⟨hne, hfirst, hrest⟩ := h
          -- what was written has a first character, so the text behind it is shorter
          obtain ⟨c, tail, rfl⟩ := List.exists_cons_of_ne_nil hne
          cases fuel with
          | zero => simp [Part.chars] at hfuel
          | succ fuel =>
              simp only [Part.text_cons, Part.chars, List.length_append, List.length_cons] at hfuel
              show revertFrom t.patterns (fuel + 1) (c :: (tail ++ Part.text rest)) = _
              rw [List.cons_append] at hfirst
              simp only [revertFrom, hfirst, ih hrest (by omega : _ ≤ fuel)]
              rfl

theorem Separated.resolved (ht : t.Consistent) {parts : List Part} (h : t.Separated parts) :
    t.Resolved parts := by
  induction parts with
  | nil => trivial
  | cons part rest ih =>
      cases part with
      | copied c => exact ⟨h.1, ih h.2⟩
      | placed reference written =>
          obtain ⟨⟨p, hp, hw⟩, hstop, hrest⟩ := h
          exact ⟨hw.ne_nil (ht.proper hp), ht.firstMatch?_written hp hw hstop, ih hrest⟩

theorem revertFrom_of_separated (ht : t.Consistent) {parts : List Part} (h : t.Separated parts)
    {fuel : Nat} (hfuel : (Part.text parts).length ≤ fuel) :
    revertFrom t.patterns fuel (Part.text parts) = Part.sources parts :=
  revertFrom_of_resolved (h.resolved ht) hfuel

/-- Words stop behind a reference that ends. -/
theorem stopsWord_of_endsReference {pieces : List Variable.Piece} (h : EndsReference pieces)
    (out : List Char) (quotes : Quotes) :
    Placeholder.StopsWord (Part.text (t.parts out quotes pieces)) := by
  cases pieces with
  | nil => simp [parts, Part.text, Placeholder.StopsWord]
  | cons piece rest =>
      cases piece with
      | char c =>
          intro d hd
          obtain rfl : c = d := by simpa [parts, Part.chars] using hd
          exact h
      | token token => exact absurd h id

theorem Separated.copied_append {copied : List Char} {parts : List Part}
    (h : Part.AtCopies t.BeginsNoForm (copied.map .copied ++ parts))
    (hp : Part.AtCopies t.BeginsNoForm parts → t.Separated parts) :
    t.Separated (copied.map .copied ++ parts) := by
  induction copied with
  | nil => exact hp h
  | cons c copied ih => exact ⟨h.1, ih h.2⟩

theorem Resolved.copied_append {copied : List Char} {parts : List Part}
    (h : Part.AtCopies t.BeginsNoForm (copied.map .copied ++ parts))
    (hp : Part.AtCopies t.BeginsNoForm parts → t.Resolved parts) :
    t.Resolved (copied.map .copied ++ parts) := by
  induction copied with
  | nil => exact hp h
  | cons c copied ih => exact ⟨h.1, ih h.2⟩

theorem written_unit (out : List Char) (p : Placeholder) (rest : List Variable.Piece) :
    p.Written (p.chars ++ unitAfter out p rest) := by
  unfold unitAfter
  split
  · next h =>
      simp only [Bool.and_eq_true, beq_iff_eq] at h
      exact Or.inr ⟨h.2, rfl⟩
  · exact Or.inl (List.append_nil _)

/-- The parts of an expansion can be told apart, if its references are delimited and its copies
    clear. -/
theorem separated_of_substituteFrom (ht : t.Consistent) {out result : List Char} {quotes : Quotes}
    {pieces : List Variable.Piece}
    (h : t.substituteFrom out quotes pieces = (t', .ok result)) (hd : Delimited quotes pieces)
    (ht' : t'.Consistent) (hc : Part.AtCopies t'.BeginsNoForm (t'.parts out quotes pieces)) :
    t'.Separated (t'.parts out quotes pieces) := by
  induction pieces generalizing t out quotes with
  | nil => trivial
  | cons piece rest ih =>
      cases piece with
      | char c => exact ⟨hc.1, ih ht h hd hc.2⟩
      | token token =>
          cases hq : quotes.inside with
          | true =>
              simp only [substituteFrom, parts, hq, if_true] at h hc ⊢
              exact Separated.copied_append hc (ih ht h hd.2)
          | false =>
              obtain ⟨p, t₁, hof, hg, h⟩ := substituteFrom_token_eq_ok hq h
              obtain ⟨ht₁, hp⟩ := ht.placeholder?_of_ofToken hof hg
              have hwritten : t'.written out token rest =
                  p.chars ++ unitAfter out.reverse p rest := by simp only [written, hp]
              simp only [parts, hq, hwritten] at hc ⊢
              refine ⟨⟨p, ht'.placeholder?_eq_some_iff.mp hp, written_unit _ p rest⟩, ?_, ?_⟩
              · exact stopsWord_of_endsReference (hd.1 hq) _ _
              · exact ih ht₁ h hd.2 hc

/-- **Reverting an expansion gives the text back.** The table has the variables of the server and of
    any templates; every reference outside double quotes is delimited, and in the expansion no form
    of the resulting table begins inside a part that was copied. The parts are all that the
    expansion consists of. -/
theorem revert_substitute {templates : List Template} {text out : List Char}
    (hreg : initial.register? templates = some t) (hsub : t.substitute text = (t', .ok out))
    (hdelimited : Delimited Quotes.start (Variable.pieces text))
    (hclear : Part.AtCopies t'.BeginsNoForm (t'.parts [] Quotes.start (Variable.pieces text))) :
    out = Part.text (t'.parts [] Quotes.start (Variable.pieces text)) ∧ t'.revert out = text := by
  have ht : t.Consistent := (register?_grows hreg).consistent initial_consistent
  have ht' : t'.Consistent := by
    have hg := substitute_grows (t := t) text
    rw [hsub] at hg
    exact hg.consistent ht
  have hout : out = Part.text (t'.parts [] Quotes.start (Variable.pieces text)) :=
    substituteFrom_eq_parts ht hsub
  have hsep := separated_of_substituteFrom ht hsub hdelimited ht' hclear
  refine ⟨hout, ?_⟩
  rw [revert, hout, revertFrom_of_separated ht' hsep (Nat.le_refl _), sources_parts,
    Variable.flatMap_chars_pieces]

/-- A reference inside quotes stays, and the one in the place of a duration gets the unit of
    seconds, which goes with it when the text is put back. -/
theorem revert_substitute_rate :
    initial.register? [] = some initial ∧
    initial.substitute "rate(up\x7bjob=~\"$job\"\x7d[$__rate_interval])".toList =
      (initial, .ok "rate(up\x7bjob=~\"$job\"\x7d[11277964s])".toList) ∧
    initial.revert "rate(up\x7bjob=~\"$job\"\x7d[11277964s])".toList =
      "rate(up\x7bjob=~\"$job\"\x7d[$__rate_interval])".toList := by
  have hpieces : Variable.pieces "rate(up\x7bjob=~\"$job\"\x7d[$__rate_interval])".toList =
      "rate(up\x7bjob=~\"".toList.map .char ++ .token "$job".toList ::
        "\"\x7d[".toList.map .char ++ [.token "$__rate_interval".toList, .char ']', .char ')'] := by
    decide +kernel
  -- what follows holds of any table with the placeholder, so no table is evaluated
  have hsub : ∀ t : Table, t.placeholder? "$__rate_interval".toList = some (.seconds 11277964) →
      t.substitute "rate(up\x7bjob=~\"$job\"\x7d[$__rate_interval])".toList =
        (t, .ok "rate(up\x7bjob=~\"$job\"\x7d[11277964s])".toList) := by
    intro t hrate
    have hok : t.ofToken "$__rate_interval".toList = .ok (.seconds 11277964, t) :=
      ofToken_eq_ok.mpr ⟨.text, rfl, assign?_of_placeholder? hrate⟩
    have hcopy : t.substitute "rate(up\x7bjob=~\"$job\"\x7d[$__rate_interval])".toList =
        t.substituteFrom "rate(up\x7bjob=~\"$job\"\x7d[".toList.reverse Quotes.start
          [.token "$__rate_interval".toList, .char ']', .char ')'] := by
      rw [substitute, hpieces]
      rfl
    rw [hcopy]
    simp only [substituteFrom, hok]
    rfl
  have hparts : ∀ t : Table, t.placeholder? "$__rate_interval".toList = some (.seconds 11277964) →
      t.parts [] Quotes.start
        (Variable.pieces "rate(up\x7bjob=~\"$job\"\x7d[$__rate_interval])".toList) =
      "rate(up\x7bjob=~\"$job\"\x7d[".toList.map .copied ++
        [.placed "$__rate_interval".toList "11277964s".toList, .copied ']', .copied ')'] := by
    intro t hrate
    have hwritten : t.written "rate(up\x7bjob=~\"$job\"\x7d[".toList.reverse
        "$__rate_interval".toList [.char ']', .char ')'] = "11277964s".toList := by
      rw [written, hrate]
      rfl
    rw [hpieces, ← hwritten]
    rfl
  have hleads : Part.AtCopies (fun tail => tail.take 2 ∉ Placeholder.leads)
      ("rate(up\x7bjob=~\"$job\"\x7d[".toList.map .copied ++
        [.placed "$__rate_interval".toList "11277964s".toList, .copied ']', .copied ')']) := by
    decide +kernel
  rw [← hparts initial initial_placeholder?_rateInterval] at hleads
  have hreg : initial.register? [] = some initial := rfl
  have hinitial := hsub initial initial_placeholder?_rateInterval
  refine ⟨hreg, hinitial, (revert_substitute hreg hinitial (by decide +kernel) ?_).2⟩
  exact hleads.imp fun _ => initial_consistent.beginsNoForm

end Revert

end Table

end BoardLint
