import BoardLint.Proofs.Variable.RoundTrip
import BoardLint.Proofs.Variable.Stability

set_option autoImplicit false

/-! # References and string literals

The query language has three kinds of string literals. Substitution keeps track of one of them only:
`Quotes` counts double quotes, wherever they stand. The two ways of scanning a text agree as long as
no double quote stands in a literal of another kind (`StringPlace.quotes_foldl`), and up to there a
reference is replaced unless it begins in a double-quoted literal. -/

namespace BoardLint

/-! ## String literals -/

/-- Where a position of a query is: outside string literals, or in one that a quote has opened. -/
inductive StringPlace where
  | outside
  | inside (quote : Char) (escaped : Bool)
deriving DecidableEq, Repr

namespace StringPlace

/-- The place after one more character. A backslash escapes the next character, except in a literal
    between backquotes. -/
def step : StringPlace → Char → StringPlace
  | .outside, c => if Query.isQuote c then .inside c false else .outside
  | .inside quote true, _ => .inside quote false
  | .inside quote false, c =>
    if c == quote then .outside
    else .inside quote (c == '\\' && quote.toNat != 0x60)

/-- The place behind a text. -/
def behind (text : List Char) : StringPlace := text.foldl step .outside

/-- Whether a double quote can stand at a place without being part of another kind of literal. -/
def OpenToDouble : StringPlace → Prop
  | .outside => True
  | .inside quote _ => quote = '"'

instance : DecidablePred OpenToDouble
  | .outside => inferInstanceAs (Decidable True)
  | .inside quote _ => inferInstanceAs (Decidable (quote = '"'))

/-- No double quote of a text stands in a literal of another kind. -/
def Unmixed (place : StringPlace) : List Char → Prop
  | [] => True
  | c :: text => (c = '"' → place.OpenToDouble) ∧ (place.step c).Unmixed text

instance Unmixed.decidable :
    (place : StringPlace) → (text : List Char) → Decidable (place.Unmixed text)
  | _, [] => inferInstanceAs (Decidable True)
  | place, c :: text =>
    have := Unmixed.decidable (place.step c) text
    inferInstanceAs (Decidable ((c = '"' → place.OpenToDouble) ∧ (place.step c).Unmixed text))

/-- What double quotes say about a place. -/
def quotes : StringPlace → Quotes
  | .outside => Quotes.start
  | .inside quote escaped => if quote = '"' then ⟨true, escaped⟩ else Quotes.start

/-- One character leads both ways of scanning to the same place, unless it is a double quote in
    another kind of literal. -/
theorem quotes_step {place : StringPlace} {c : Char} (h : c = '"' → place.OpenToDouble) :
    (place.step c).quotes = place.quotes.step c := by
  cases place with
  | outside =>
      by_cases hc : c = '"'
      · subst hc
        decide
      · by_cases hquote : Query.isQuote c = true
        · simp [step, quotes, hquote, hc, Quotes.start, Quotes.step]
        · simp [step, quotes, hquote, hc, Quotes.start, Quotes.step]
  | inside quote escaped =>
      by_cases hdouble : quote = '"'
      · subst hdouble
        cases escaped with
        | true => simp [step, quotes, Quotes.step]
        | false =>
            by_cases hc : c = '"'
            · subst hc
              decide
            · by_cases hslash : c = '\\'
              · subst hslash
                decide
              · simp [step, quotes, Quotes.step, hc, hslash]
      · -- in another kind of literal, nothing but a double quote would be seen
        have hc : c ≠ '"' := fun hc => hdouble (h hc)
        cases escaped with
        | true => simp [step, quotes, Quotes.step, hdouble, hc, Quotes.start]
        | false =>
            by_cases hclose : c = quote
            · subst hclose
              simp [step, quotes, Quotes.step, hc, Quotes.start]
            · simp [step, quotes, Quotes.step, hdouble, hc, Quotes.start, hclose]

/-- Both ways of scanning a text agree, if no double quote is in another kind of literal. -/
theorem quotes_foldl {place : StringPlace} {text : List Char} (h : place.Unmixed text) :
    (text.foldl step place).quotes = text.foldl Quotes.step place.quotes := by
  induction text generalizing place with
  | nil => rfl
  | cons c text ih => rw [List.foldl_cons, List.foldl_cons, ih h.2, quotes_step h.1]

theorem quotes_behind {text : List Char} (h : outside.Unmixed text) :
    (behind text).quotes = text.foldl Quotes.step Quotes.start :=
  quotes_foldl h

/-- Double quotes take a place for the inside of a literal exactly if it is in a double-quoted
    one. -/
theorem inside_quotes_iff {place : StringPlace} :
    place.quotes.inside = true ↔ ∃ escaped, place = .inside '"' escaped := by
  cases place with
  | outside => simp [quotes, Quotes.start]
  | inside quote escaped =>
      by_cases hdouble : quote = '"' <;> simp [quotes, Quotes.start, hdouble]

end StringPlace

/-! ## References in an expansion -/

namespace Part

/-- A reference between two texts was replaced by what was written for it. -/
def PlacedAt (parts : List Part) (front reference written back : List Char) : Prop :=
  ∃ before after, parts = before ++ .placed reference written :: after ∧
    sources before = front ∧ sources after = back

/-- A text between two texts was copied. -/
def CopiedAt (parts : List Part) (front copied back : List Char) : Prop :=
  ∃ before after, parts = before ++ copied.map .copied ++ after ∧
    sources before = front ∧ sources after = back

end Part

namespace Table

variable {t t' : Table}

/-- What precedes some pieces has parts of its own. -/
theorem parts_append (t : Table) (out : List Char) (quotes : Quotes)
    (before after : List Variable.Piece) :
    ∃ front out', Part.sources front = before.flatMap Variable.Piece.chars ∧
      t.parts out quotes (before ++ after) = front ++
        t.parts out' ((before.flatMap Variable.Piece.chars).foldl Quotes.step quotes) after := by
  induction before generalizing out quotes with
  | nil => exact ⟨[], out, rfl, rfl⟩
  | cons piece rest ih =>
      cases piece with
      | char c =>
          obtain ⟨front, out', hsources, hparts⟩ := ih (c :: out) (quotes.step c)
          refine ⟨.copied c :: front, out', ?_, ?_⟩
          · simp [hsources, Part.source, Variable.Piece.chars]
          · simp [parts, hparts, Variable.Piece.chars]
      | token token =>
          cases hq : quotes.inside with
          | true =>
              obtain ⟨front, out', hsources, hparts⟩ :=
                ih (token.reverse ++ out) (token.foldl Quotes.step quotes)
              refine ⟨token.map .copied ++ front, out', ?_, ?_⟩
              · simp [Part.sources_copied_append, hsources, Variable.Piece.chars]
              · simp [parts, hq, hparts, Variable.Piece.chars]
          | false =>
              obtain ⟨front, out', hsources, hparts⟩ :=
                ih ((t.written out token (rest ++ after)).reverse ++ out)
                  (token.foldl Quotes.step quotes)
              refine ⟨.placed token (t.written out token (rest ++ after)) :: front, out', ?_, ?_⟩
              · simp [hsources, Part.source, Variable.Piece.chars]
              · simp [parts, hq, hparts, Variable.Piece.chars]

/-- The parts of a reference outside double quotes and of what follows it. -/
theorem parts_token_of_outside (out : List Char) {token : List Char} {quotes : Quotes}
    (hq : quotes.inside = false) {p : Placeholder} (hp : t.placeholder? token = some p)
    (rest : List Variable.Piece) :
    ∃ back, t.parts out quotes (.token token :: rest) =
        .placed token (p.chars ++ unitAfter out.reverse p rest) :: back ∧
      Part.sources back = rest.flatMap Variable.Piece.chars := by
  have hwritten : t.written out token rest = p.chars ++ unitAfter out.reverse p rest := by
    simp only [written, hp]
  refine ⟨_, ?_, t.sources_parts ((t.written out token rest).reverse ++ out)
    (token.foldl Quotes.step quotes) rest⟩
  simp [parts, hq, hwritten]

/-- The parts of a reference inside double quotes and of what follows it. -/
theorem parts_token_of_inside (t : Table) (out : List Char) {token : List Char} {quotes : Quotes}
    (hq : quotes.inside = true) (rest : List Variable.Piece) :
    ∃ back, t.parts out quotes (.token token :: rest) = token.map .copied ++ back ∧
      Part.sources back = rest.flatMap Variable.Piece.chars := by
  refine ⟨_, ?_, t.sources_parts (token.reverse ++ out) (token.foldl Quotes.step quotes) rest⟩
  simp [parts, hq]

/-- A substitution that succeeds gives a placeholder to every reference outside double quotes. -/
theorem exists_placeholder?_of_substituteFrom (ht : t.Consistent) {out result token : List Char}
    {quotes : Quotes} {before rest : List Variable.Piece}
    (h : t.substituteFrom out quotes (before ++ .token token :: rest) = (t', .ok result))
    (hq : ((before.flatMap Variable.Piece.chars).foldl Quotes.step quotes).inside = false) :
    ∃ p, t'.placeholder? token = some p := by
  induction before generalizing t out quotes with
  | nil =>
      obtain ⟨p, t₁, hof, hg, -⟩ := substituteFrom_token_eq_ok hq h
      exact ⟨p, (ht.placeholder?_of_ofToken hof hg).2⟩
  | cons piece before ih =>
      rw [List.flatMap_cons, List.foldl_append] at hq
      cases piece with
      | char c => exact ih ht h hq
      | token other =>
          cases hinside : quotes.inside with
          | true =>
              simp only [List.cons_append, substituteFrom, hinside, if_true] at h
              exact ih ht h hq
          | false =>
              obtain ⟨p, t₁, hof, hg, h⟩ := substituteFrom_token_eq_ok hinside h
              exact ih (ht.placeholder?_of_ofToken hof hg).1 h hq

/-- **References outside double-quoted literals are replaced, and those inside are copied**, as long
    as no double quote before them stands in another kind of literal. The table comes from any run
    of calls, and the parts are all of the text and all of its expansion. -/
theorem substitute_outside_literals {calls : List Call} {text out token : List Char}
    {before rest : List Variable.Piece} (hrun : initial.run? calls = some t)
    (hsub : t.substitute text = (t', .ok out))
    (hpieces : Variable.pieces text = before ++ .token token :: rest)
    (hunmixed : StringPlace.outside.Unmixed (before.flatMap Variable.Piece.chars)) :
    let parts := t'.parts [] Quotes.start (Variable.pieces text)
    let front := before.flatMap Variable.Piece.chars
    let back := rest.flatMap Variable.Piece.chars
    (out = Part.text parts ∧ text = Part.sources parts) ∧
    ((∀ escaped, StringPlace.behind front ≠ .inside '"' escaped) →
      ∃ p written, t'.placeholder? token = some p ∧ p.Written written ∧
        Part.PlacedAt parts front token written back) ∧
    (∀ escaped, StringPlace.behind front = .inside '"' escaped →
      Part.CopiedAt parts front token back) := by
  intro parts front back
  have ht := run?_consistent hrun
  obtain ⟨prior, out', hprior, hparts⟩ := t'.parts_append [] Quotes.start before
    (.token token :: rest)
  rw [← StringPlace.quotes_behind hunmixed, ← hpieces] at hparts
  refine ⟨⟨substituteFrom_eq_parts ht hsub, ?_⟩, fun hplace => ?_, fun escaped hplace => ?_⟩
  · rw [sources_parts, Variable.flatMap_chars_pieces]
  · have hq : (StringPlace.behind front).quotes.inside = false := by
      rw [← Bool.not_eq_true, StringPlace.inside_quotes_iff]
      rintro ⟨escaped, heq⟩
      exact hplace escaped heq
    obtain ⟨p, hp⟩ : ∃ p, t'.placeholder? token = some p := by
      rw [substitute, hpieces] at hsub
      rw [StringPlace.quotes_behind hunmixed] at hq
      exact exists_placeholder?_of_substituteFrom ht hsub hq
    obtain ⟨after, hafter, hback⟩ := parts_token_of_outside out' hq hp rest
    refine ⟨p, _, hp, written_unit out'.reverse p rest, prior, after, ?_, hprior, hback⟩
    rw [← hafter]
    exact hparts
  · have hq : (StringPlace.behind front).quotes.inside = true :=
      StringPlace.inside_quotes_iff.mpr ⟨escaped, hplace⟩
    obtain ⟨after, hafter, hback⟩ := t'.parts_token_of_inside out' hq rest
    refine ⟨prior, after, ?_, hprior, hback⟩
    rw [List.append_assoc, ← hafter]
    exact hparts

/-- A single-quoted literal without double quotes changes nothing: of the two references behind it,
    the one between double quotes is copied and the other one is replaced. -/
theorem substitute_outside_literals_single :
    let text := "f('a', \"$job\") > $__rate_interval".toList
    let parts := initial.parts [] Quotes.start (Variable.pieces text)
    initial.run? [] = some initial ∧
    initial.substitute text = (initial, .ok "f('a', \"$job\") > 11277964".toList) ∧
    Part.CopiedAt parts "f('a', \"".toList "$job".toList "\") > $__rate_interval".toList ∧
    ∃ p written, initial.placeholder? "$__rate_interval".toList = some p ∧ p.Written written ∧
      Part.PlacedAt parts "f('a', \"$job\") > ".toList "$__rate_interval".toList written [] := by
  intro text parts
  have hpieces : Variable.pieces text = "f('a', \"".toList.map .char ++ .token "$job".toList ::
      ("\") > ".toList.map .char ++ [.token "$__rate_interval".toList]) := by
    decide +revert +kernel
  have hlast : Variable.pieces text = ("f('a', \"".toList.map .char ++ .token "$job".toList ::
      "\") > ".toList.map .char) ++ .token "$__rate_interval".toList :: [] := by
    rw [hpieces]
    rfl
  have hsub : ∀ t : Table, t.placeholder? "$__rate_interval".toList = some (.seconds 11277964) →
      t.substitute text = (t, .ok "f('a', \"$job\") > 11277964".toList) := by
    intro t hrate
    have hok : t.ofToken "$__rate_interval".toList = .ok (.seconds 11277964, t) :=
      ofToken_eq_ok.mpr ⟨.text, rfl, assign?_of_placeholder? hrate⟩
    have hcopy : t.substitute text = t.substituteFrom "f('a', \"$job\") > ".toList.reverse
        Quotes.start [.token "$__rate_interval".toList] := by
      rw [substitute, hpieces]
      rfl
    rw [hcopy]
    simp only [substituteFrom, hok]
    rfl
  have hrun : initial.run? [] = some initial := rfl
  have hinitial := hsub initial initial_placeholder?_rateInterval
  obtain ⟨-, -, hcopied⟩ := substitute_outside_literals hrun hinitial hpieces (by decide +kernel)
  obtain ⟨-, hplaced, -⟩ := substitute_outside_literals hrun hinitial hlast (by decide +kernel)
  exact ⟨hrun, hinitial, hcopied false (by decide +kernel), hplaced (by decide +kernel)⟩

/-- A double quote in a single-quoted literal turns the rule around for what follows: a reference
    outside every literal is left as it is, and one in a double-quoted literal is replaced. -/
theorem substitute_double_quote_in_single :
    let outer := "'\"' + $x".toList
    let inner := "'\"' + \"$x\"".toList
    (Variable.pieces outer = "'\"' + ".toList.map .char ++ [.token "$x".toList] ∧
      StringPlace.behind "'\"' + ".toList = .outside ∧
      initial.substitute outer = (initial, .ok outer)) ∧
    (Variable.pieces inner = "'\"' + \"".toList.map .char ++ [.token "$x".toList, .char '"'] ∧
      StringPlace.behind "'\"' + \"$x".toList = .inside '"' false ∧
      ∃ t out, initial.substitute inner = (t, .ok out) ∧ out ≠ inner) := by
  intro outer inner
  have houter : Variable.pieces outer = "'\"' + ".toList.map .char ++ [.token "$x".toList] := by
    decide +revert +kernel
  have hinner : Variable.pieces inner =
      "'\"' + \"".toList.map .char ++ [.token "$x".toList, .char '"'] := by
    decide +revert +kernel
  -- both hold of any table, so none is evaluated
  have hskipped : ∀ t : Table, t.substitute outer = (t, .ok outer) := by
    intro t
    rw [substitute, houter]
    rfl
  have hexpanded : ∀ (t t' : Table) (n : Nat),
      t.ofToken "$x".toList = .ok (.candidate "$x".toList .text n, t') →
      ∃ tail, t.substitute inner = (t', .ok ("'\"' + \"b".toList ++ tail)) := by
    intro t t' n hok
    have hcopy : t.substitute inner = t.substituteFrom "'\"' + \"".toList.reverse Quotes.start
        [.token "$x".toList, .char '"'] := by
      rw [substitute, hinner]
      rfl
    obtain ⟨tail, htail⟩ : ∃ tail, (Placeholder.candidate "$x".toList .text n).chars =
        'b' :: tail := ⟨_, rfl⟩
    rw [hcopy]
    simp only [substituteFrom, hok, htail]
    exact ⟨tail ++ (unitAfter _ _ _ ++ ['"']), by simp [Quotes.start]; rfl⟩
  obtain ⟨p, t, ha, -⟩ := initial_spec.2.assign? "$x".toList .text
  obtain ⟨n, rfl⟩ := candidate_of_assign? (initial_placeholder?_eq_none (by decide +kernel)) ha
  obtain ⟨tail, hsub⟩ := hexpanded initial t n (ofToken_eq_ok.mpr ⟨.text, rfl, ha⟩)
  refine ⟨⟨houter, by decide +kernel, hskipped initial⟩, hinner, by decide +kernel, t, _, hsub, ?_⟩
  intro heq
  have hseventh := congrArg (·[7]?) heq
  simp [inner] at hseventh

end Table

end BoardLint
