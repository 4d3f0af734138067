import BoardLint.Proofs.Query.Lexeme
import Mathlib.Data.List.Forall2

set_option autoImplicit false

/-! # Queries in other spellings

A query can be written in several ways: a length of time as `1h` or `60m`, a number with or without
places. `Query.Respelled` relates two texts that differ in such quantities, and in what stands
between double quotes. They have the same tokens otherwise (`Query.Respelled.tokens`), because
lexemes end at the same places. -/

namespace BoardLint.Query

/-! ## Respelled texts -/

/-- What precedes a place of a query outside strings: whether a quantity can begin there, and
    whether the place is between brackets. -/
structure Edge where
  fresh : Bool
  bracket : Bool

namespace Edge

/-- The beginning of a query. -/
def start : Edge := ⟨true, false⟩

/-- The place after one more character. A sign may belong to an exponent, so it leaves things as
    they are, and outside brackets a colon belongs to a word. -/
def step (k : Edge) (c : Char) : Edge where
  fresh :=
    if c == '+' || c == '-' then k.fresh
    else if c == ':' then k.bracket
    else !(Text.isAsciiWord c || c == '.')
  bracket := if c == '[' then true else if c == ']' then false else k.bracket

variable {k : Edge} {c : Char}

theorem stops_of_fresh (hk : k.fresh = false) (h : (k.step c).fresh = true) :
    (Text.isAsciiWord c = false ∧ c ≠ '.' ∧ c ≠ '+' ∧ c ≠ '-') ∧
      (k.bracket = false → c ≠ ':') := by
  simp only [step] at h
  split at h
  · exact absurd (hk.symm.trans h) (by simp)
  · next hsign =>
      simp only [Bool.or_eq_true, beq_iff_eq, not_or] at hsign
      split at h
      · next hcolon =>
          obtain rfl := beq_iff_eq.mp hcolon
          exact ⟨by decide, fun hbracket => absurd (hbracket.symm.trans h) (by simp)⟩
      · next hcolon =>
          simp only [Bool.not_eq_true', Bool.or_eq_false_iff, beq_eq_false_iff_ne] at h
          exact ⟨⟨h.1, h.2, hsign⟩, fun _ heq => hcolon (by simp [heq])⟩

theorem bracket_of_not_fresh (h : (k.step c).fresh = false) : (k.step c).bracket = k.bracket := by
  have hopen : c ≠ '[' := by
    rintro rfl
    exact absurd h (by simp [step]; decide)
  have hclose : c ≠ ']' := by
    rintro rfl
    exact absurd h (by simp [step]; decide)
  simp [step, hopen, hclose]

end Edge

/-- What can stand between double quotes: no quote but behind a backslash. -/
inductive IsBody : List Char → Prop
  | nil : IsBody []
  | char {c : Char} {s : List Char} (hquote : c ≠ '"') (hescape : c ≠ '\\') (h : IsBody s) :
      IsBody (c :: s)
  | escape {c : Char} {s : List Char} (h : IsBody s) : IsBody ('\\' :: c :: s)

theorem IsBody.of_plain {s : List Char} (h : s.all (fun c => c != '"' && c != '\\') = true) :
    IsBody s := by
  induction s with
  | nil => exact .nil
  | cons c s ih =>
      rw [List.all_cons, Bool.and_eq_true, Bool.and_eq_true, bne_iff_ne, bne_iff_ne] at h
      exact .char h.1.1 h.1.2 (ih h.2)

/-- Two texts of one query: the characters outside strings are the same, but for quantities that may
    be spelled differently, and strings are changed by a function. There are no comments, and the
    quotes are double. -/
inductive Respelled (f : List Char → List Char) : Edge → List Char → List Char → Prop
  | nil {k : Edge} : Respelled f k [] []
  | char {k : Edge} {c : Char} {u u' : List Char} (hquote : isQuote c = false) (hcomment : c ≠ '#')
      (h : Respelled f (k.step c) u u') : Respelled f k (c :: u) (c :: u')
  | quantity {k : Edge} {q q' u u' : List Char} (hk : k.fresh = true) (hq : IsQuantity q)
      (hq' : IsQuantity q') (hu : EndsQuantity u) (hu' : EndsQuantity u')
      (h : Respelled f ⟨false, k.bracket⟩ u u') : Respelled f k (q ++ u) (q' ++ u')
  | string {k : Edge} {s u u' : List Char} (hs : IsBody s) (hs' : IsBody (f s))
      (h : Respelled f ⟨true, k.bracket⟩ u u') :
      Respelled f k ('"' :: (s ++ '"' :: u)) ('"' :: (f s ++ '"' :: u'))

/-- Two tokens at one place of such texts. -/
inductive Token.Alike (f : List Char → List Char) : Token → Token → Prop
  | same {t : Token} (hquantity : t.isQuantity = false) (htext : t.isText = false) : Alike f t t
  | quantity {t t' : Token} (h : t.isQuantity = true) (h' : t'.isQuantity = true) : Alike f t t'
  | text (s : List Char) : Alike f (.text (String.ofList s)) (.text (String.ofList (f s)))

theorem Token.alike_self {f : List Char → List Char} {t : Token} (h : t.isText = false) :
    t.Alike f t := by
  cases ht : t.isQuantity with
  | false => exact .same ht h
  | true => exact .quantity ht ht

variable {f : List Char → List Char} {k : Edge} {c : Char} {u u' : List Char}

theorem Respelled.chars (text : List Char)
    (htext : text.all (fun c => !isQuote c && c != '#') = true)
    (h : Respelled f (text.foldl Edge.step k) u u') : Respelled f k (text ++ u) (text ++ u') := by
  induction text generalizing k with
  | nil => exact h
  | cons c text ih =>
      rw [List.all_cons, Bool.and_eq_true, Bool.and_eq_true, bne_iff_ne, Bool.not_eq_true'] at htext
      exact .char htext.1.1 htext.1.2 (ih htext.2 h)

/-- A string that stays as it is. -/
theorem Respelled.string_self {s : List Char} (hs : IsBody s) (hself : f s = s)
    (h : Respelled f ⟨true, k.bracket⟩ u u') :
    Respelled f k ('"' :: (s ++ '"' :: u)) ('"' :: (s ++ '"' :: u')) := by
  have hstring := Respelled.string hs (hself.symm ▸ hs) h
  rwa [hself] at hstring

/-- Where no quantity can begin, the texts are the same up to where words and numbers stop. -/
theorem Respelled.run (h : Respelled f k u u') (hk : k.fresh = false) :
    ∃ v r r', u = v ++ r ∧ u' = v ++ r' ∧ r.head? = r'.head? ∧ Stops r ∧
      (k.bracket = false → r.head? ≠ some ':') ∧
      ∀ a s, v = a ++ s → ∃ k', k'.bracket = k.bracket ∧ Respelled f k' (s ++ r) (s ++ r') := by
  induction h with
  | nil =>
      refine ⟨[], [], [], rfl, rfl, rfl, by simp [Stops], by simp, fun a s has => ?_⟩
      obtain ⟨-, rfl⟩ := List.append_eq_nil_iff.mp has.symm
      exact ⟨_, rfl, .nil⟩
  | @char k c u u' hquote hcomment h ih =>
      cases hc : (k.step c).fresh with
      | true =>
          refine ⟨[], c :: u, c :: u', rfl, rfl, rfl, ?_, ?_, fun a s has => ?_⟩
          · intro d hd
            obtain rfl : c = d := Option.some.inj hd
            exact (Edge.stops_of_fresh hk hc).1
          · intro hbracket hhead
            exact (Edge.stops_of_fresh hk hc).2 hbracket (Option.some.inj hhead)
          · obtain ⟨-, rfl⟩ := List.append_eq_nil_iff.mp has.symm
            exact ⟨k, rfl, .char hquote hcomment h⟩
      | false =>
          obtain ⟨v, r, r', rfl, rfl, hhead, hstops, hcolon, hparts⟩ := ih hc
          rw [Edge.bracket_of_not_fresh hc] at hcolon hparts
          refine ⟨c :: v, r, r', rfl, rfl, hhead, hstops, hcolon, fun a s has => ?_⟩
          cases a with
          | nil =>
              obtain rfl : c :: v = s := has
              exact ⟨k, rfl, .char hquote hcomment h⟩
          | cons d a => exact hparts a s (List.cons.inj has).2
  | quantity hfresh => exact absurd (hk.symm.trans hfresh) (by simp)
  | @string k s u u' hs hs' h ih =>
      refine ⟨[], _, _, rfl, rfl, rfl, ?_, by simp, fun a s has => ?_⟩
      · intro c hc
        obtain rfl : '"' = c := Option.some.inj hc
        decide
      · obtain ⟨-, rfl⟩ := List.append_eq_nil_iff.mp has.symm
        exact ⟨k, rfl, .string hs hs' h⟩

/-- Both texts begin with a row of signs, or neither does. -/
theorem Respelled.signs (h : Respelled f k u u') {op : List Char}
    (hop : ∀ c ∈ op, isSign c = true) :
    (∃ v v' k', Text.after? op u = some v ∧ Text.after? op u' = some v' ∧
      k'.bracket = k.bracket ∧ Respelled f k' v v') ∨
    Text.after? op u = none ∧ Text.after? op u' = none := by
  induction op generalizing k u u' with
  | nil => exact Or.inl ⟨u, u', k, rfl, rfl, rfl, h⟩
  | cons d op ih =>
      obtain ⟨hd, hop⟩ := List.forall_mem_cons.mp hop
      have hsign : beginsLexeme d = false ∧ isQuote d = false ∧ d ≠ '[' ∧ d ≠ ']' := by
        simpa [isSign, and_assoc] using hd
      cases h with
      | nil => exact Or.inr ⟨rfl, rfl⟩
      | @char _ c v v' hquote hcomment h =>
          by_cases hc : d = c
          · subst hc
            have hbracket : (k.step d).bracket = k.bracket := by
              simp [Edge.step, hsign.2.2.1, hsign.2.2.2]
            simpa [Text.after?, hbracket] using ih h hop
          · exact Or.inr ⟨by simp [Text.after?, hc], by simp [Text.after?, hc]⟩
      | quantity _ hq hq' =>
          have hnone : ∀ {q v : List Char}, IsQuantity q →
              Text.after? (d :: op) (q ++ v) = none := by
            intro q v hq
            obtain ⟨c, more, rfl, hc⟩ := hq.exists_digit
            have hne : d ≠ c := by
              rintro rfl
              rw [beginsLexeme, isAsciiWord_of_isDigit hc] at hsign
              exact absurd hsign.1 (by simp)
            simp [Text.after?, hne]
          exact Or.inr ⟨hnone hq, hnone hq'⟩
      | string =>
          have hne : d ≠ '"' := by
            rintro rfl
            exact absurd hsign.2.1 (by decide)
          exact Or.inr ⟨by simp [Text.after?, hne], by simp [Text.after?, hne]⟩

/-! ## Scanning -/

/-- Whether the scanner is between brackets. -/
def Place.isBracket : Place → Bool
  | .inBrackets _ => true
  | _ => false

/-- What a scanner takes behind a character does not reach beyond where lexemes stop, and depends on
    the next character at most. -/
def IsLocal (bracket : Bool) (c : Char) (scan : List Char → Option (Token × List Char)) : Prop :=
  ∀ v r r' t rest, Stops r → r.head? = r'.head? → (bracket = false → r.head? ≠ some ':') →
    scan (v ++ r) = some (t, rest) →
    t.isText = false ∧ ∃ s, rest = s ++ r ∧ s <:+ c :: v ∧ scan (v ++ r') = some (t, s ++ r')

/-- A lexeme is taken from both texts alike. -/
theorem Respelled.lexeme (h : Respelled f (k.step c) u u') (hfresh : (k.step c).fresh = false)
    (hquote : isQuote c = false) (hcomment : c ≠ '#')
    {scan : List Char → Option (Token × List Char)} (hlocal : IsLocal k.bracket c scan)
    {t t' : Token} {rest rest' : List Char} (ht : scan u = some (t, rest))
    (ht' : scan u' = some (t', rest')) :
    t.Alike f t' ∧ ∃ k', k'.bracket = k.bracket ∧ Respelled f k' rest rest' := by
  obtain ⟨v, r, r', rfl, rfl, hhead, hstops, hcolon, hparts⟩ := h.run hfresh
  rw [Edge.bracket_of_not_fresh hfresh] at hcolon hparts
  obtain ⟨htext, s, rfl, ⟨a, ha⟩, hscan⟩ := hlocal v r r' t rest hstops hhead hcolon ht
  obtain ⟨rfl, rfl⟩ := Prod.mk.inj (Option.some.inj (hscan.symm.trans ht'))
  refine ⟨Token.alike_self htext, ?_⟩
  cases a with
  | nil =>
      obtain rfl : s = c :: v := ha
      exact ⟨k, rfl, .char hquote hcomment h⟩
  | cons d a => exact hparts a s (List.cons.inj ha).2.symm

theorem isLocal_of_append {bracket : Bool} {scan : List Char → Option (Token × List Char)}
    (happend : ∀ {v r}, Stops r → (bracket = false → r.head? ≠ some ':') →
      scan (v ++ r) = (scan v).map fun found => (found.1, found.2 ++ r))
    (hsuffix : ∀ {v t s}, scan v = some (t, s) → t.isText = false ∧ s <:+ c :: v) :
    IsLocal bracket c scan := by
  intro v r r' t rest hstops hhead hcolon ht
  have hstops' : Stops r' := by
    unfold Stops
    rwa [← hhead]
  rw [happend hstops hcolon] at ht
  obtain ⟨⟨t₀, s⟩, hfound, hsome⟩ := Option.map_eq_some_iff.mp ht
  obtain ⟨rfl, rfl⟩ := Prod.mk.inj hsome
  obtain ⟨htext, hs⟩ := hsuffix hfound
  refine ⟨htext, s, rfl, hs, ?_⟩
  rw [happend hstops' (hhead ▸ hcolon), hfound]
  rfl

/-- An operator is taken from both texts alike. -/
theorem Respelled.operator (h : Respelled f k u u') {operators : List (String × Option Token)}
    (hoperators : AreSigns operators) :
    (scanOperator? u operators = none ∧ scanOperator? u' operators = none) ∨
    ∃ found found', scanOperator? u operators = some found ∧
      scanOperator? u' operators = some found' ∧
      ∀ t rest t' rest', found = some (t, rest) → found' = some (t', rest') →
        t.Alike f t' ∧ ∃ k', k'.bracket = k.bracket ∧ Respelled f k' rest rest' := by
  induction operators with
  | nil => exact Or.inl ⟨rfl, rfl⟩
  | cons op operators ih =>
      obtain ⟨⟨-, hsigns, htext⟩, hrest⟩ := List.forall_mem_cons.mp hoperators
      obtain ⟨name, token⟩ := op
      simp only [scanOperator?]
      rcases h.signs (List.all_eq_true.mp hsigns) with
        ⟨v, v', k', hv, hv', hk', hrespelled⟩ | ⟨hnone, hnone'⟩
      · rw [hv, hv']
        refine Or.inr ⟨_, _, rfl, rfl, fun t rest t' rest' ht ht' => ?_⟩
        obtain ⟨t₀, rfl, heq⟩ := Option.map_eq_some_iff.mp ht
        obtain ⟨rfl, rfl⟩ := Prod.mk.inj heq
        obtain ⟨rfl, rfl⟩ := Prod.mk.inj (Option.some.inj ht')
        exact ⟨Token.alike_self (by simpa using htext), k', hk', hrespelled⟩
      · rw [hnone, hnone']
        exact ih hrest

theorem isText_wordToken (word : List Char) : (wordToken word).isText = false := by
  unfold wordToken
  dsimp only
  split
  · rfl
  · split
    · rfl
    · split
      · rfl
      · split
        · rfl
        · split
          · rfl
          · split <;> rfl

theorem scanOutside?_lexeme_suffix (hc : beginsLexeme c = true) {v s : List Char} {t : Token}
    (h : scanOutside? c v = some (t, s)) : t.isText = false ∧ s <:+ c :: v := by
  rw [scanOutside?_lexeme hc] at h
  split at h
  · obtain ⟨hquantity, hsuffix⟩ := scanQuantity?_eq_some h
    exact ⟨Token.isText_of_isQuantity hquantity, hsuffix⟩
  · obtain ⟨-, h⟩ := Option.ite_none_right_eq_some.mp h
    obtain ⟨rfl, rfl⟩ := Prod.mk.inj (Option.some.inj h)
    refine ⟨isText_wordToken _, ?_⟩
    rw [List.span_eq_takeWhile_dropWhile]
    exact List.dropWhile_suffix _

theorem Edge.fresh_step_lexeme (hc : beginsLexeme c = true) (hcolon : c = ':' → k.bracket = false) :
    (k.step c).fresh = false := by
  simp only [beginsLexeme, Bool.or_eq_true, beq_iff_eq] at hc
  have hsign : (c == '+' || c == '-') = false := by
    rcases hc with (hc | rfl) | rfl
    · refine Bool.eq_false_iff.mpr fun heq => ?_
      rcases (Bool.or_eq_true_iff ..).mp heq with heq | heq <;> rw [beq_iff_eq.mp heq] at hc <;>
        exact absurd hc (by decide)
    · decide
    · decide
  simp only [Edge.step, hsign, Bool.false_eq_true, if_false]
  rcases hc with (hc | rfl) | rfl
  · split
    · next heq => exact hcolon (beq_iff_eq.mp heq)
    · simp [hc]
  · rfl
  · exact hcolon rfl

/-- Outside braces and brackets. -/
theorem Respelled.outside (h : Respelled f (k.step c) u u') (hk : k.bracket = false)
    (hquote : isQuote c = false) (hcomment : c ≠ '#') {t t' : Token} {rest rest' : List Char}
    (ht : scanOutside? c u = some (t, rest)) (ht' : scanOutside? c u' = some (t', rest')) :
    t.Alike f t' ∧ ∃ k', k'.bracket = k.bracket ∧ Respelled f k' rest rest' := by
  cases hc : beginsLexeme c with
  | true =>
      refine h.lexeme (Edge.fresh_step_lexeme hc fun _ => hk) hquote hcomment
        (isLocal_of_append ?_ ?_) ht ht'
      · exact fun hstops hcolon => scanOutside?_append hc hstops (hcolon hk)
      · exact fun hfound => scanOutside?_lexeme_suffix hc hfound
  | false =>
      have hdigit : c.isDigit = false := Bool.eq_false_iff.mpr fun hd => by
        rw [beginsLexeme, isAsciiWord_of_isDigit hd] at hc
        cases hc
      have halpha : isAlpha c = false := Bool.eq_false_iff.mpr fun ha => by
        rw [beginsLexeme, isAsciiWord_of_isAlpha ha] at hc
        cases hc
      simp only [beginsLexeme, Bool.or_eq_false_iff] at hc
      simp only [scanOutside?, hdigit, halpha, hquote, hc.1.2, hc.2, Bool.false_eq_true, if_false,
        Bool.or_self, Bool.false_and] at ht ht'
      rcases (Respelled.char (k := k) hquote hcomment h).operator areSigns_outsideOperators with
        ⟨hnone, -⟩ | ⟨found, found', hfound, hfound', hall⟩
      · rw [hnone] at ht
        cases ht
      · rw [hfound] at ht
        rw [hfound'] at ht'
        exact hall t rest t' rest' ht ht'

theorem scanInBraces?_alpha (hc : isAlpha c = true) (text : List Char) : scanInBraces? c text =
    let word := (c :: text).span Text.isAsciiWord
    if String.ofList (word.1.map Char.toLower) == "or" && word.2.head? == some ' ' then
      some (.wordOp .or (String.ofList word.1), word.2)
    else some (.ident (String.ofList word.1), word.2) := by
  have hnone : scanOperator? (c :: text) braceOperators = none :=
    scanOperator?_eq_none areSigns_braceOperators
      (by simp [isSign, beginsLexeme, isAsciiWord_of_isAlpha hc])
  simp only [scanInBraces?, hnone, hc, if_true]

theorem scanInBraces?_isLocal (hc : isAlpha c = true) : IsLocal false c (scanInBraces? c) := by
  intro v r r' t rest hstops hhead _ ht
  have hstops' : Stops r' := by
    unfold Stops
    rwa [← hhead]
  have hspan {r : List Char} (hr : Stops r) :=
    span_append Text.isAsciiWord (c :: v) (hr.head fun _ => id)
  have hsuffix : ((c :: v).span Text.isAsciiWord).2 <:+ c :: v := by
    rw [List.span_eq_takeWhile_dropWhile]
    exact List.dropWhile_suffix _
  rw [scanInBraces?_alpha hc, ← List.cons_append] at ht ⊢
  simp only [hspan hstops, hspan hstops', List.head?_append, ← hhead] at ht ⊢
  split at ht
  · next hor =>
      obtain ⟨rfl, rfl⟩ := Prod.mk.inj (Option.some.inj ht)
      exact ⟨rfl, _, rfl, hsuffix, if_pos hor⟩
  · next hor =>
      obtain ⟨rfl, rfl⟩ := Prod.mk.inj (Option.some.inj ht)
      exact ⟨rfl, _, rfl, hsuffix, if_neg hor⟩

/-- Between braces. -/
theorem Respelled.inBraces (h : Respelled f (k.step c) u u') (hk : k.bracket = false)
    (hquote : isQuote c = false) (hcomment : c ≠ '#') {t t' : Token} {rest rest' : List Char}
    (ht : scanInBraces? c u = some (t, rest)) (ht' : scanInBraces? c u' = some (t', rest')) :
    t.Alike f t' ∧ ∃ k', k'.bracket = k.bracket ∧ Respelled f k' rest rest' := by
  cases hc : isAlpha c with
  | true =>
      have hlexeme : beginsLexeme c = true := by simp [beginsLexeme, isAsciiWord_of_isAlpha hc]
      exact h.lexeme (Edge.fresh_step_lexeme hlexeme fun _ => hk) hquote hcomment
        (hk ▸ scanInBraces?_isLocal hc) ht ht'
  | false =>
      simp only [scanInBraces?, hc, hquote, Bool.false_eq_true, if_false] at ht ht'
      rcases (Respelled.char (k := k) hquote hcomment h).operator areSigns_braceOperators with
        ⟨hnone, -⟩ | ⟨found, found', hfound, hfound', hall⟩
      · rw [hnone] at ht
        cases ht
      · rw [hfound] at ht
        rw [hfound'] at ht'
        exact hall t rest t' rest' ht ht'

/-! ## One token -/

/-- The scans of two texts agree on their first tokens, and go on with texts of one query. -/
def Agrees (f : List Char → List Char) (found found' : Option (Token × List Char × Place)) : Prop :=
  ∀ t rest place t' rest' place', found = some (t, rest, place) →
    found' = some (t', rest', place') → t.Alike f t' ∧ place' = place ∧
      ∃ k', k'.bracket = place.isBracket ∧ Respelled f k' rest rest'

theorem Agrees.of_map (place : Place) {found found' : Option (Token × List Char)}
    (h : ∀ t rest t' rest', found = some (t, rest) → found' = some (t', rest') →
      t.Alike f t' ∧ ∃ k', k'.bracket = place.isBracket ∧ Respelled f k' rest rest') :
    Agrees f (found.map fun (t, rest) => (t, rest, place))
      (found'.map fun (t, rest) => (t, rest, place)) := by
  intro t rest place₁ t' rest' place₁' ht ht'
  obtain ⟨⟨t₀, rest₀⟩, hfound, heq⟩ := Option.map_eq_some_iff.mp ht
  obtain ⟨⟨t₁, rest₁⟩, hfound', heq'⟩ := Option.map_eq_some_iff.mp ht'
  cases heq
  cases heq'
  exact ⟨(h _ _ _ _ hfound hfound').1, rfl, (h _ _ _ _ hfound hfound').2⟩

theorem Agrees.of_some {place : Place} {t : Token} {rest rest' : List Char}
    (ht : t.isText = false) (h : Respelled f k rest rest') (hk : k.bracket = place.isBracket) :
    Agrees f (some (t, rest, place)) (some (t, rest', place)) := by
  intro t₁ rest₁ place₁ t₁' rest₁' place₁' heq heq'
  cases heq
  cases heq'
  exact ⟨Token.alike_self ht, rfl, k, hk, h⟩

theorem Agrees.of_none {found' : Option (Token × List Char × Place)} : Agrees f none found' := by
  intro t rest place t' rest' place' h
  cases h

theorem Respelled.scanOne_char {place : Place} (h : Respelled f (k.step c) u u')
    (hk : k.bracket = place.isBracket) (hquote : isQuote c = false) (hcomment : c ≠ '#') :
    Agrees f (scanOne? place c u) (scanOne? place c u') := by
  cases place with
  | outside =>
      simp only [scanOne?]
      split
      · next hc =>
          obtain rfl := beq_iff_eq.mp hc
          exact .of_some rfl h hk
      · split
        · next hc =>
            obtain rfl := beq_iff_eq.mp hc
            exact .of_some rfl h rfl
        · refine .of_map _ fun t rest t' rest' ht ht' => ?_
          rw [← hk]
          exact h.outside hk hquote hcomment ht ht'
  | inBraces =>
      simp only [scanOne?]
      split
      · next hc =>
          obtain rfl := beq_iff_eq.mp hc
          exact .of_some rfl h hk
      · refine .of_map _ fun t rest t' rest' ht ht' => ?_
        rw [← hk]
        exact h.inBraces hk hquote hcomment ht ht'
  | inBrackets colon =>
      simp only [scanOne?]
      split
      · next hc =>
          obtain rfl := beq_iff_eq.mp hc
          exact .of_some rfl h rfl
      · split
        · next hc =>
            obtain rfl := beq_iff_eq.mp ((Bool.and_eq_true_iff ..).mp hc).1
            exact .of_some rfl h hk
        · split
          · next hc =>
              refine .of_map _ fun t rest t' rest' ht ht' => ?_
              have hlexeme : beginsLexeme c = true := by
                simp [beginsLexeme, isAsciiWord_of_isDigit hc]
              have hcolon : c = ':' → k.bracket = false := by
                rintro rfl
                exact absurd hc (by decide)
              have hlocal : IsLocal k.bracket c fun text => scanQuantity? true (c :: text) := by
                refine isLocal_of_append ?_ fun hfound => ?_
                · exact fun hstops _ => scanQuantity?_append (c :: _) hstops true
                · obtain ⟨hquantity, hsuffix⟩ := scanQuantity?_eq_some hfound
                  exact ⟨Token.isText_of_isQuantity hquantity, hsuffix⟩
              rw [show Place.isBracket (.inBrackets colon) = k.bracket from hk.symm]
              exact h.lexeme (Edge.fresh_step_lexeme hlexeme hcolon) hquote hcomment hlocal ht ht'
          · exact .of_none

theorem isAlpha_of_isDigit (hc : c.isDigit = true) : isAlpha c = false := by
  refine Bool.eq_false_iff.mpr fun halpha => ?_
  simp only [isAlpha, Bool.or_eq_true, beq_iff_eq] at halpha
  rcases halpha with hletter | rfl
  · have hcode := isDigit_iff_toNat.mp hc
    have := isAlpha_iff_toNat.mp hletter
    omega
  · exact absurd hc (by decide)

/-- At a digit there is a quantity, unless the place is between braces. -/
theorem scanOne?_digit {place : Place} (hc : c.isDigit = true) (v : List Char) :
    scanOne? place c v = if place = .inBraces then none
      else (scanQuantity? place.isBracket (c :: v)).map fun (t, rest) => (t, rest, place) := by
  have hlexeme : beginsLexeme c = true := by simp [beginsLexeme, isAsciiWord_of_isDigit hc]
  have hne : ∀ {d : Char}, d.isDigit = false → (c == d) = false := by
    intro d hd
    rw [beq_eq_false_iff_ne]
    rintro rfl
    rw [hd] at hc
    cases hc
  cases place with
  | outside =>
      have hscan : scanOutside? c v = scanQuantity? false (c :: v) := by
        rw [scanOutside?_lexeme hlexeme, hc, Bool.true_or, if_pos rfl]
      simp [scanOne?, hne, hscan, Place.isBracket]
  | inBraces =>
      have hnone : scanOperator? (c :: v) braceOperators = none :=
        scanOperator?_eq_none areSigns_braceOperators (by simp [isSign, hlexeme])
      simp [scanOne?, hne, scanInBraces?, hnone, isAlpha_of_isDigit hc,
        isQuote_of_beginsLexeme hlexeme]
  | inBrackets colon => simp [scanOne?, hne, hc, Place.isBracket]

theorem Respelled.scanOne_quantity {place : Place} {q q' : List Char}
    (h : Respelled f ⟨false, k.bracket⟩ u u') (hk : k.bracket = place.isBracket)
    (hq : IsQuantity q) (hq' : IsQuantity q') (hu : EndsQuantity u) (hu' : EndsQuantity u')
    {c c' : Char} {v v' : List Char} (hv : q ++ u = c :: v) (hv' : q' ++ u' = c' :: v') :
    Agrees f (scanOne? place c v) (scanOne? place c' v') := by
  have hdigit : ∀ {q u v : List Char} {c : Char}, IsQuantity q → q ++ u = c :: v →
      c.isDigit = true := by
    intro q u v c hq heq
    obtain ⟨d, more, rfl, hd⟩ := hq.exists_digit
    obtain ⟨rfl, -⟩ := List.cons.inj heq
    exact hd
  rw [scanOne?_digit (hdigit hq hv), scanOne?_digit (hdigit hq' hv'), ← hv, ← hv']
  split
  · exact .of_none
  · refine .of_map _ fun t rest t' rest' ht ht' => ?_
    obtain rfl := hq.scanQuantity? hu ht
    obtain rfl := hq'.scanQuantity? hu' ht'
    exact ⟨.quantity (scanQuantity?_eq_some ht).1 (scanQuantity?_eq_some ht').1,
      ⟨false, k.bracket⟩, hk, h⟩

theorem scanText?_body {s : List Char} (hs : IsBody s) {done raw rest : List Char}
    (h : scanText? '"' done (s ++ '"' :: u) = some (raw, rest)) :
    raw = done.reverse ++ s ∧ rest = u := by
  induction hs generalizing done with
  | nil =>
      rw [List.nil_append, scanText?] at h
      · simpa [eq_comm] using h
      · simp
  | @char c s hquote hescape hs ih =>
      rw [List.cons_append, scanText?] at h
      · simp only [beq_iff_eq, hquote, hescape, if_false] at h
        simpa using ih h
      · rintro d more rfl
        exact absurd rfl hescape
  | @escape c s hs ih =>
      simp only [List.cons_append, scanText?] at h
      obtain ⟨-, h⟩ := Option.ite_none_right_eq_some.mp h
      simpa using ih h

theorem Respelled.scanOne_string {place : Place} {s : List Char}
    (h : Respelled f ⟨true, k.bracket⟩ u u') (hk : k.bracket = place.isBracket) (hs : IsBody s)
    (hs' : IsBody (f s)) :
    Agrees f (scanOne? place '"' (s ++ '"' :: u)) (scanOne? place '"' (f s ++ '"' :: u')) := by
  have hstring : ∀ t rest t' rest', scanString? '"' (s ++ '"' :: u) = some (t, rest) →
      scanString? '"' (f s ++ '"' :: u') = some (t', rest') →
      t.Alike f t' ∧ ∃ k', k'.bracket = place.isBracket ∧ Respelled f k' rest rest' := by
    intro t rest t' rest' ht ht'
    obtain ⟨⟨raw, tail⟩, hraw, heq⟩ := Option.map_eq_some_iff.mp ht
    obtain ⟨⟨raw', tail'⟩, hraw', heq'⟩ := Option.map_eq_some_iff.mp ht'
    obtain ⟨hbody, rfl⟩ := scanText?_body hs hraw
    obtain ⟨hbody', rfl⟩ := scanText?_body hs' hraw'
    rw [List.reverse_nil, List.nil_append] at hbody hbody'
    rw [hbody] at heq
    rw [hbody'] at heq'
    cases heq
    cases heq'
    exact ⟨.text s, ⟨true, k.bracket⟩, hk, h⟩
  cases place with
  | outside => exact Agrees.of_map .outside hstring
  | inBraces => exact Agrees.of_map .inBraces hstring
  | inBrackets colon => exact .of_none

/-! ## All tokens -/

theorem scan?_cons {n : Nat} {place : Place} {v : List Char}
    (hblank : Text.isAsciiBlank c = false) (hcomment : c ≠ '#') {ts : List Token}
    (h : scan? (n + 1) place (c :: v) = some ts) :
    ∃ t rest place' ts₁, scanOne? place c v = some (t, rest, place') ∧
      scan? n place' rest = some ts₁ ∧ ts = t :: ts₁ := by
  simp only [scan?, hblank, beq_eq_false_iff_ne.mpr hcomment, Bool.false_eq_true, if_false,
    Bool.false_and] at h
  split at h
  · next t rest place' hone =>
      obtain ⟨ts₁, hts₁, rfl⟩ := Option.map_eq_some_iff.mp h
      exact ⟨t, rest, place', ts₁, hone, hts₁, rfl⟩
  · cases h

theorem scan?_nil {n : Nat} {place : Place} {ts : List Token} (h : scan? n place [] = some ts) :
    ts = [] := by
  unfold scan? at h
  obtain ⟨-, h⟩ := Option.ite_none_right_eq_some.mp h
  exact (Option.some.inj h).symm

theorem isAsciiBlank_of_isDigit (hc : c.isDigit = true) : Text.isAsciiBlank c = false := by
  refine Bool.eq_false_iff.mpr fun hblank => ?_
  simp only [Text.isAsciiBlank, Bool.or_eq_true, beq_iff_eq] at hblank
  rcases hblank with (((rfl | rfl) | rfl) | rfl) | rfl <;> exact absurd hc (by decide)

theorem Respelled.eq_nil_iff (h : Respelled f k u u') : u = [] ↔ u' = [] := by
  cases h with
  | nil => simp
  | char => simp
  | quantity _ hq hq' =>
      obtain ⟨c, more, rfl, -⟩ := hq.exists_digit
      obtain ⟨c', more', rfl, -⟩ := hq'.exists_digit
      simp
  | string => simp

/-- Both texts begin with the same blank, or with characters of tokens that agree. -/
theorem Respelled.first (h : Respelled f k (c :: u) u') {place : Place}
    (hk : k.bracket = place.isBracket) : c ≠ '#' ∧ ∃ c' v', u' = c' :: v' ∧ c' ≠ '#' ∧
      ((Text.isAsciiBlank c = true ∧ c' = c ∧ Respelled f (k.step c) u v') ∨
        Text.isAsciiBlank c = false ∧ Text.isAsciiBlank c' = false ∧
          Agrees f (scanOne? place c u) (scanOne? place c' v')) := by
  generalize hw : c :: u = w at h
  cases h with
  | nil => cases hw
  | @char _ d v v' hquote hcomment h =>
      obtain ⟨rfl, rfl⟩ := List.cons.inj hw
      refine ⟨hcomment, c, v', rfl, hcomment, ?_⟩
      cases hblank : Text.isAsciiBlank c with
      | true => exact Or.inl ⟨rfl, rfl, h⟩
      | false => exact Or.inr ⟨rfl, rfl, h.scanOne_char hk hquote hcomment⟩
  | @quantity _ q q' v v' hfresh hq hq' hv hv' h =>
      obtain ⟨d, more, hd, hdigit⟩ := hq.exists_digit
      obtain ⟨d', more', hd', hdigit'⟩ := hq'.exists_digit
      have hcons : q ++ v = c :: u := hw.symm
      have hcons' : q' ++ v' = d' :: (more' ++ v') := by rw [hd', List.cons_append]
      obtain rfl : c = d := by
        rw [hd, List.cons_append] at hw
        exact (List.cons.inj hw).1
      have hne : ∀ {x : Char}, x.isDigit = true → x ≠ '#' := by
        rintro x hx rfl
        exact absurd hx (by decide)
      exact ⟨hne hdigit, d', _, hcons', hne hdigit', Or.inr ⟨isAsciiBlank_of_isDigit hdigit,
        isAsciiBlank_of_isDigit hdigit', h.scanOne_quantity hk hq hq' hv hv' hcons hcons'⟩⟩
  | string hs hs' h =>
      obtain ⟨rfl, rfl⟩ := List.cons.inj hw
      exact ⟨by decide, '"', _, rfl, by decide, Or.inr ⟨by decide, by decide,
        h.scanOne_string hk hs hs'⟩⟩

/-- Two texts of one query have the same tokens, but for the quantities and the strings. -/
theorem Respelled.scan (h : Respelled f k u u') {place : Place} (hk : k.bracket = place.isBracket)
    {n n' : Nat} {ts ts' : List Token} (hts : scan? n place u = some ts)
    (hts' : scan? n' place u' = some ts') : List.Forall₂ (Token.Alike f) ts ts' := by
  induction n generalizing k place u u' n' ts ts' with
  | zero =>
      cases u with
      | nil =>
          rw [h.eq_nil_iff.mp rfl] at hts'
          rw [scan?_nil hts, scan?_nil hts']
          exact .nil
      | cons c u => cases hts
  | succ n ih =>
      cases u with
      | nil =>
          rw [h.eq_nil_iff.mp rfl] at hts'
          rw [scan?_nil hts, scan?_nil hts']
          exact .nil
      | cons c u =>
          obtain ⟨hcomment, c', v', rfl, hcomment', hfirst⟩ := h.first hk
          cases n' with
          | zero => cases hts'
          | succ n' =>
              rcases hfirst with ⟨hblank, rfl, hrest⟩ | ⟨hblank, hblank', hagrees⟩
              · have hbracket : (k.step c').bracket = k.bracket := by
                  have hne : ∀ {d : Char}, Text.isAsciiBlank d = false → c' ≠ d := by
                    rintro d hd rfl
                    exact absurd (hd.symm.trans hblank) (by simp)
                  simp [Edge.step, hne (d := '[') rfl, hne (d := ']') rfl]
                simp only [scan?, hblank, if_true] at hts hts'
                exact ih hrest (hbracket.trans hk) hts hts'
              · obtain ⟨t, rest, place₁, ts₁, hone, hrest, rfl⟩ := scan?_cons hblank hcomment hts
                obtain ⟨t', rest', place₁', ts₁', hone', hrest', rfl⟩ :=
                  scan?_cons hblank' hcomment' hts'
                obtain ⟨ht, rfl, k', hk', hrespelled⟩ :=
                  hagrees t rest place₁ t' rest' place₁' hone hone'
                exact .cons ht (ih hrespelled hk' hrest hrest')

theorem Respelled.tokens (h : Respelled f .start u u') {ts ts' : List Token}
    (hts : tokens? u = some ts) (hts' : tokens? u' = some ts') :
    List.Forall₂ (Token.Alike f) ts ts' :=
  h.scan rfl hts hts'

end BoardLint.Query
