import BoardLint.Proofs.Query.Duration
import BoardLint.Proofs.Variable.Legality
import BoardLint.Proofs.Variable.Naming
import BoardLint.Query.Token

set_option autoImplicit false

/-! # Lexemes

A word, a number and a duration end where no character of theirs can follow (`Query.Stops`). So a
scanner takes from a text before such a place what it takes from that text alone
(`Query.scanOutside?_append`), and it takes a quantity whole that ends there
(`Query.IsQuantity.scanQuantity?`). -/

namespace BoardLint.Query

/-! ## Where lexemes end -/

/-- No word and no number goes on at the beginning of a text. -/
def Stops (rest : List Char) : Prop :=
  ∀ c ∈ rest.head?, Text.isAsciiWord c = false ∧ c ≠ '.' ∧ c ≠ '+' ∧ c ≠ '-'

theorem isAsciiWord_of_isDigit {c : Char} (h : c.isDigit = true) : Text.isAsciiWord c = true := by
  simp [Text.isAsciiWord, Char.isAlphanum, h]

theorem isAsciiWord_of_isAlpha {c : Char} (h : isAlpha c = true) : Text.isAsciiWord c = true := by
  simp only [isAlpha, Bool.or_eq_true] at h
  simp only [Text.isAsciiWord, Char.isAlphanum, Bool.or_eq_true]
  exact h.imp_left Or.inl

theorem isAsciiWord_of_isHexDigit {c : Char} (h : isHexDigit c = true) :
    Text.isAsciiWord c = true := by
  have hhex : c.isDigit = true ∨ ('a' ≤ c ∧ c ≤ 'f') ∨ ('A' ≤ c ∧ c ≤ 'F') := by
    unfold isHexDigit Text.hexValue? at h
    split at h
    · next hd => exact Or.inl hd
    · split at h
      · next hlower => simpa using Or.inr (Or.inl hlower)
      · split at h
        · next hupper => simpa using Or.inr (Or.inr hupper)
        · exact absurd h (by simp)
  rcases hhex with hd | hletter
  · exact isAsciiWord_of_isDigit hd
  · have hle : ∀ {a b : Char}, a ≤ b ↔ a.toNat ≤ b.toNat := UInt32.le_iff_toNat_le
    simp only [hle] at hletter
    change (97 ≤ c.toNat ∧ c.toNat ≤ 102) ∨ (65 ≤ c.toNat ∧ c.toNat ≤ 70) at hletter
    have halpha : c.isAlpha = true := isAlpha_iff_toNat.mpr (by omega)
    simp [Text.isAsciiWord, Char.isAlphanum, halpha]

theorem span_append (p : Char → Bool) (text : List Char) {rest : List Char}
    (h : ∀ c ∈ rest.head?, p c = false) :
    (text ++ rest).span p = ((text.span p).1, (text.span p).2 ++ rest) := by
  simp only [List.span_eq_takeWhile_dropWhile]
  induction text with
  | nil =>
      cases rest with
      | nil => rfl
      | cons c rest => simp [h c rfl]
  | cons c text ih =>
      cases hc : p c with
      | true => simpa [hc] using ih
      | false => simp [hc]

section Append

variable {text rest : List Char}

theorem Stops.head {p : Char → Bool} (h : Stops rest)
    (hp : ∀ c, p c = true → Text.isAsciiWord c = true) : ∀ c ∈ rest.head?, p c = false := by
  intro c hc
  refine Bool.eq_false_iff.mpr fun hpc => ?_
  exact absurd (hp c hpc) (by simp [(h c hc).1])

theorem Stops.head?_ne (h : Stops rest) {d : Char}
    (hd : (Text.isAsciiWord d || d == '.' || d == '+' || d == '-') = true) :
    rest.head? ≠ some d := by
  intro hrest
  obtain ⟨hword, hpoint, hplus, hminus⟩ := h d hrest
  simp [hword, hpoint, hplus, hminus] at hd

/-! ## Numbers -/

theorem scanSign_append (h : Stops rest) :
    scanSign (text ++ rest) = ((scanSign text).1, (scanSign text).2 ++ rest) := by
  rcases text with _ | ⟨c, text⟩
  · rw [List.nil_append]
    unfold scanSign
    split
    · exact absurd rfl (h.head?_ne (d := '+') (by decide))
    · exact absurd rfl (h.head?_ne (d := '-') (by decide))
    · rfl
  · by_cases hplus : c = '+'
    · subst hplus
      rfl
    · by_cases hminus : c = '-'
      · subst hminus
        rfl
      · simp [scanSign, hplus, hminus]

theorem scanExponent_append (h : Stops rest) :
    scanExponent (text ++ rest) = ((scanExponent text).1, (scanExponent text).2 ++ rest) := by
  have hdigits (text : List Char) :=
    span_append Char.isDigit text (h.head fun _ => isAsciiWord_of_isDigit)
  rcases text with _ | ⟨c, text⟩
  · rcases rest with _ | ⟨c, rest⟩
    · rfl
    · have hletter : (c == 'e' || c == 'E') = false := by
        refine h.head (p := fun c => c == 'e' || c == 'E') ?_ c rfl
        intro d hd
        rcases (Bool.or_eq_true_iff ..).mp hd with hd | hd <;> rw [beq_iff_eq.mp hd] <;> decide
      simp [scanExponent, hletter]
  · simp only [List.cons_append, scanExponent, scanSign_append h, hdigits]
    split <;> rfl

theorem scanPlaces_append (h : Stops rest) {isDigit : Char → Bool}
    (hdigit : ∀ c, isDigit c = true → Text.isAsciiWord c = true) :
    scanPlaces isDigit (text ++ rest) =
      ((scanPlaces isDigit text).1, (scanPlaces isDigit text).2 ++ rest) := by
  rcases text with _ | ⟨c, text⟩
  · rw [List.nil_append]
    unfold scanPlaces
    split
    · exact absurd rfl (h.head?_ne (d := '.') (by decide))
    · rfl
  · by_cases hpoint : c = '.'
    · subst hpoint
      simp only [List.cons_append, scanPlaces, span_append _ _ (h.head hdigit)]
    · simp [scanPlaces, hpoint]

theorem scanDigits_append (text : List Char) (h : Stops rest) {isDigit : Char → Bool}
    (hdigit : ∀ c, isDigit c = true → Text.isAsciiWord c = true) :
    scanDigits isDigit (text ++ rest) =
      ((scanDigits isDigit text).1, (scanDigits isDigit text).2 ++ rest) := by
  simp only [scanDigits, span_append _ _ (h.head hdigit), scanPlaces_append h hdigit,
    scanExponent_append h]

theorem scanNumber_append (h : Stops rest) :
    scanNumber (text ++ rest) = ((scanNumber text).1, (scanNumber text).2 ++ rest) := by
  have hdecimal (text : List Char) := scanDigits_append text h fun _ => isAsciiWord_of_isDigit
  have hhex (text : List Char) := scanDigits_append text h fun _ => isAsciiWord_of_isHexDigit
  rcases text with _ | ⟨c, _ | ⟨d, text⟩⟩
  · rw [List.nil_append, scanNumber]
    · simpa [scanNumber] using hdecimal []
    · rintro more rfl
      exact h.head?_ne (d := '0') (by decide) rfl
    · rintro more rfl
      exact h.head?_ne (d := '0') (by decide) rfl
  · have hx : ∀ {d : Char} {more : List Char}, Text.isAsciiWord d = true →
        [c] ++ rest ≠ '0' :: d :: more := by
      rintro d more hd heq
      obtain ⟨-, rfl⟩ := List.cons.inj heq
      exact h.head?_ne (d := d) (by simp [hd]) rfl
    rw [scanNumber, hdecimal]
    · simp [scanNumber]
    · exact fun more => hx (by decide)
    · exact fun more => hx (by decide)
  · by_cases hzero : c = '0'
    · subst hzero
      by_cases hx : d = 'x'
      · subst hx
        simp only [List.cons_append, scanNumber, hhex]
      · by_cases hX : d = 'X'
        · subst hX
          simp only [List.cons_append, scanNumber, hhex]
        · have := hdecimal ('0' :: d :: text)
          simpa [scanNumber, hx, hX] using this
    · have := hdecimal (c :: d :: text)
      simpa [scanNumber, hzero] using this

/-! ## Durations -/

theorem scanUnit?_append (h : Stops rest) {units : List Char}
    (hunits : ∀ c ∈ units, Text.isAsciiWord c = true) : scanUnit? units (text ++ rest) =
      (scanUnit? units text).map fun found => (found.1, found.2 ++ rest) := by
  rcases text with _ | ⟨c, text⟩
  · rcases rest with _ | ⟨c, rest⟩
    · rfl
    · have hc : c ∉ units := fun hmem => absurd (hunits c hmem) (by simp [(h c rfl).1])
      simp [scanUnit?, hc]
  · by_cases hc : c ∈ units
    · rcases text with _ | ⟨d, text⟩
      · simp only [List.cons_append, List.nil_append, scanUnit?, List.contains_iff_mem.mpr hc,
          if_true]
        split
        · exact absurd rfl (h.head?_ne (d := 's') (by decide))
        · rfl
      · by_cases hd : d = 's' <;> simp [scanUnit?, hc, hd]
    · simp [scanUnit?, hc]

theorem scanUnit?_eq_some {units found tail : List Char}
    (h : scanUnit? units text = some (found, tail)) : text = found ++ tail ∧ found ≠ [] ∧
      ∀ c ∈ found, c ∈ units ∨ c = 's' := by
  rcases text with _ | ⟨c, text⟩
  · exact absurd h (by simp [scanUnit?])
  · simp only [scanUnit?] at h
    split at h
    · next hc =>
        split at h <;> cases h <;> simp [List.contains_iff_mem.mp hc]
    · exact absurd h (by simp)

theorem scanComponents?_append (h : Stops rest) {fuel fuel' : Nat} (hfuel : text.length < fuel)
    (hfuel' : (text ++ rest).length < fuel') : scanComponents? fuel' (text ++ rest) =
      (scanComponents? fuel text).map fun found => (found.1, found.2 ++ rest) := by
  induction fuel generalizing text fuel' with
  | zero => exact absurd hfuel (Nat.not_lt_zero _)
  | succ fuel ih =>
      cases fuel' with
      | zero => exact absurd hfuel' (Nat.not_lt_zero _)
      | succ fuel' =>
          have hspan := span_append Char.isDigit text (h.head fun _ => isAsciiWord_of_isDigit)
          cases hcut : text.span Char.isDigit with
          | mk digits tail =>
              have htext := Variable.eq_append_of_span hcut
              rw [hcut] at hspan
              unfold scanComponents?
              rw [hspan, hcut]
              cases digits with
              | nil => simp
              | cons d digits =>
                  simp only [Option.bind_eq_bind]
                  rw [scanUnit?_append h (List.all_eq_true.mp (by decide))]
                  cases hunit : scanUnit? "smhdw".toList tail with
                  | none => rfl
                  | some found =>
                      obtain ⟨unit, more⟩ := found
                      obtain ⟨htail, hne, -⟩ := scanUnit?_eq_some hunit
                      have hlength := congrArg List.length htext
                      simp only [htail, List.length_append, List.length_cons]
                        at hlength hfuel hfuel'
                      simp only [Option.map_some, Option.bind_some]
                      rw [ih (by omega) (by rw [List.length_append]; omega)]
                      cases scanComponents? fuel more <;> rfl

theorem head?_append_stops {p : Char → Bool} (h : ∀ c ∈ rest.head?, p c = false) :
    ((text ++ rest).head?.map p).getD false = (text.head?.map p).getD false := by
  cases text with
  | nil =>
      cases rest with
      | nil => rfl
      | cons c rest => simpa using h c rfl
  | cons c text => rfl

theorem scanUnits?_append (h : Stops rest) : scanUnits? (text ++ rest) =
    (scanUnits? text).map fun found => (found.1, found.2 ++ rest) := by
  unfold scanUnits?
  simp only [Option.bind_eq_bind]
  rw [scanUnit?_append h (List.all_eq_true.mp (by decide))]
  cases scanUnit? "smhdwy".toList text with
  | none => rfl
  | some found =>
      obtain ⟨unit, tail⟩ := found
      simp only [Option.map_some, Option.bind_some]
      rw [scanComponents?_append h (Nat.lt_succ_self tail.length) (Nat.lt_succ_self _)]
      cases scanComponents? (tail.length + 1) tail with
      | none => rfl
      | some found =>
          obtain ⟨more, tail⟩ := found
          simp only [Option.map_some, Option.bind_some, head?_append_stops (h.head fun _ hc => hc)]
          split <;> rfl

theorem scanQuantity?_append (text : List Char) (h : Stops rest) (onlyDuration : Bool) :
    scanQuantity? onlyDuration (text ++ rest) =
      (scanQuantity? onlyDuration text).map fun found => (found.1, found.2 ++ rest) := by
  unfold scanQuantity?
  have hends : ∀ c ∈ rest.head?, (isAlpha c || c == '.') = false := by
    intro c hc
    rw [Bool.or_eq_false_iff, beq_eq_false_iff_ne]
    exact ⟨h.head (fun _ => isAsciiWord_of_isAlpha) c hc, (h c hc).2.1⟩
  simp only [scanNumber_append h, head?_append_stops hends, scanUnits?_append h,
    Option.bind_eq_bind]
  split
  · cases scanUnits? (scanNumber text).2 with
    | none => rfl
    | some found =>
        simp only [Option.map_some, Option.bind_some]
        cases Duration.parse? ((scanNumber text).1 ++ found.1) <;> rfl
  · split
    · rfl
    · cases numberValue? (scanNumber text).1 <;> rfl

/-! ## What a quantity takes -/

theorem scanDigits_suffix (isDigit : Char → Bool) (text : List Char) :
    (scanDigits isDigit text).2 <:+ text := by
  have hspan (p : Char → Bool) (text : List Char) : (text.span p).2 <:+ text := by
    rw [List.span_eq_takeWhile_dropWhile]
    exact List.dropWhile_suffix p
  have hsign (text : List Char) : (scanSign text).2 <:+ text := by
    unfold scanSign
    split
    · exact List.suffix_cons _ _
    · exact List.suffix_cons _ _
    · exact List.suffix_rfl
  have hplaces (text : List Char) : (scanPlaces isDigit text).2 <:+ text := by
    unfold scanPlaces
    split
    · exact (hspan _ _).trans (List.suffix_cons _ _)
    · exact List.suffix_rfl
  have hexponent (text : List Char) : (scanExponent text).2 <:+ text := by
    unfold scanExponent
    split
    · exact List.suffix_rfl
    · split
      · exact ((hspan _ _).trans (hsign _)).trans (List.suffix_cons _ _)
      · exact List.suffix_rfl
  exact ((hexponent _).trans (hplaces _)).trans (hspan _ _)

theorem scanNumber_suffix (text : List Char) : (scanNumber text).2 <:+ text := by
  unfold scanNumber
  split
  · exact ((scanDigits_suffix _ _).trans (List.suffix_cons _ _)).trans (List.suffix_cons _ _)
  · exact ((scanDigits_suffix _ _).trans (List.suffix_cons _ _)).trans (List.suffix_cons _ _)
  · exact scanDigits_suffix _ _

theorem scanComponents?_eq_some {fuel : Nat} {found tail : List Char}
    (h : scanComponents? fuel text = some (found, tail)) : text = found ++ tail ∧
      ∀ c ∈ found, Text.isAsciiWord c = true := by
  induction fuel generalizing text found tail with
  | zero => exact absurd h (by simp [scanComponents?])
  | succ fuel ih =>
      unfold scanComponents? at h
      cases hcut : text.span Char.isDigit with
      | mk digits more =>
          have htext := Variable.eq_append_of_span hcut
          rw [hcut] at h
          cases digits with
          | nil =>
              obtain ⟨rfl, rfl⟩ := Prod.mk.inj (Option.some.inj h)
              exact ⟨htext, List.forall_mem_nil _⟩
          | cons d digits =>
              simp only [Option.bind_eq_bind, Option.bind_eq_some_iff] at h
              obtain ⟨⟨unit, tail₁⟩, hunit, ⟨more₁, tail₂⟩, hmore, hfound⟩ := h
              obtain ⟨rfl, rfl⟩ := Prod.mk.inj (Option.some.inj hfound)
              obtain ⟨rfl, -, hletters⟩ := scanUnit?_eq_some hunit
              obtain ⟨rfl, hwords⟩ := ih hmore
              refine ⟨by simp [htext], ?_⟩
              have hdigits := (Variable.span_eq_iff hcut).1
              simp only [List.mem_append]
              rintro c ((hc | hc) | hc)
              · exact isAsciiWord_of_isDigit (hdigits c hc)
              · rcases hletters c hc with hc | rfl
                · exact List.all_eq_true.mp
                    (by decide : "smhdw".toList.all Text.isAsciiWord = true) c hc
                · decide
              · exact hwords c hc

theorem scanUnits?_eq_some {units tail : List Char} (h : scanUnits? text = some (units, tail)) :
    text = units ++ tail ∧ (∀ c ∈ units, Text.isAsciiWord c = true) ∧
      ∀ c ∈ tail.head?, Text.isAsciiWord c = false := by
  unfold scanUnits? at h
  simp only [Option.bind_eq_bind, Option.bind_eq_some_iff] at h
  obtain ⟨⟨unit, tail₁⟩, hunit, ⟨more, tail₂⟩, hmore, hfound⟩ := h
  obtain ⟨hends, hfound⟩ := Option.ite_none_left_eq_some.mp hfound
  obtain ⟨rfl, rfl⟩ := Prod.mk.inj (Option.some.inj hfound)
  obtain ⟨rfl, -, hletters⟩ := scanUnit?_eq_some hunit
  obtain ⟨rfl, hwords⟩ := scanComponents?_eq_some hmore
  refine ⟨by simp, ?_, fun c hc => ?_⟩
  · simp only [List.mem_append]
    rintro c (hc | hc)
    · rcases hletters c hc with hc | rfl
      · exact List.all_eq_true.mp (by decide : "smhdwy".toList.all Text.isAsciiWord = true) c hc
      · decide
    · exact hwords c hc
  · rw [Option.mem_def.mp hc] at hends
    simpa using hends

/-- A number or a duration. -/
def Token.isQuantity : Token → Bool
  | .number _ => true
  | .duration _ => true
  | _ => false

/-- A string. -/
def Token.isText : Token → Bool
  | .text _ => true
  | _ => false

theorem Token.cases_of_isQuantity {t : Token} (h : t.isQuantity = true) :
    (∃ d, t = .duration d) ∨ ∃ x, t = .number x := by
  cases t with
  | duration d => exact Or.inl ⟨d, rfl⟩
  | number x => exact Or.inr ⟨x, rfl⟩
  | _ => cases h

theorem Token.isText_of_isQuantity {t : Token} (h : t.isQuantity = true) : t.isText = false := by
  obtain ⟨d, rfl⟩ | ⟨x, rfl⟩ := cases_of_isQuantity h
  · rfl
  · rfl

theorem scanQuantity?_eq_some {onlyDuration : Bool} {token : Token} {tail : List Char}
    (h : scanQuantity? onlyDuration text = some (token, tail)) :
    token.isQuantity = true ∧ tail <:+ text := by
  unfold scanQuantity? at h
  simp only [Option.bind_eq_bind] at h
  split at h
  · simp only [Option.bind_eq_some_iff] at h
    obtain ⟨⟨units, tail₁⟩, hunits, d, -, hfound⟩ := h
    obtain ⟨rfl, rfl⟩ := Prod.mk.inj (Option.some.inj hfound)
    obtain ⟨hcut, -⟩ := scanUnits?_eq_some hunits
    have hsuffix : tail₁ <:+ (scanNumber text).2 := ⟨units, hcut.symm⟩
    exact ⟨rfl, hsuffix.trans (scanNumber_suffix text)⟩
  · obtain ⟨-, h⟩ := Option.ite_none_left_eq_some.mp h
    obtain ⟨x, -, hfound⟩ := Option.bind_eq_some_iff.mp h
    obtain ⟨rfl, rfl⟩ := Prod.mk.inj (Option.some.inj hfound)
    exact ⟨rfl, scanNumber_suffix text⟩

/-! ## Whole quantities -/

/-- Digits that units follow, or a point and its places. -/
inductive IsQuantity : List Char → Prop
  | units {digits units : List Char} (hne : digits ≠ [])
      (hdigits : ∀ c ∈ digits, c.isDigit = true) (hunits : ∀ c ∈ units, Text.isAsciiWord c = true)
      (hhead : ∀ c ∈ units.head?, c.isDigit = false ∧ c ∉ ['e', 'E', 'x', 'X']) :
      IsQuantity (digits ++ units)
  | places {digits places : List Char} (hne : digits ≠ [])
      (hdigits : ∀ c ∈ digits, c.isDigit = true) (hplaces : ∀ c ∈ places, c.isDigit = true) :
      IsQuantity (digits ++ '.' :: places)

/-- Neither a word nor a point goes on at the beginning of a text. -/
def EndsQuantity (rest : List Char) : Prop :=
  ∀ c ∈ rest.head?, Text.isAsciiWord c = false ∧ c ≠ '.'

theorem IsQuantity.of_all {digits units : List Char} {unit : Char} (hne : digits ≠ [])
    (hdigits : digits.all Char.isDigit = true)
    (hunit : unit.isDigit = false ∧ unit ∉ ['e', 'E', 'x', 'X'])
    (hunits : (unit :: units).all Text.isAsciiWord = true) :
    IsQuantity (digits ++ unit :: units) :=
  .units hne (List.all_eq_true.mp hdigits) (List.all_eq_true.mp hunits) fun _ hc =>
    Option.some.inj hc ▸ hunit

theorem IsQuantity.exists_digit {quantity : List Char} (h : IsQuantity quantity) :
    ∃ c more, quantity = c :: more ∧ c.isDigit = true := by
  cases h with
  | units hne hdigits =>
      obtain ⟨c, digits, rfl⟩ := List.exists_cons_of_ne_nil hne
      exact ⟨c, _, rfl, hdigits c List.mem_cons_self⟩
  | places hne hdigits =>
      obtain ⟨c, digits, rfl⟩ := List.exists_cons_of_ne_nil hne
      exact ⟨c, _, rfl, hdigits c List.mem_cons_self⟩

theorem span_of_stops {p : Char → Bool} {front : List Char} (hfront : ∀ c ∈ front, p c = true)
    (hrest : ∀ c ∈ rest.head?, p c = false) : (front ++ rest).span p = (front, rest) := by
  have hself : front.span p = (front, []) := by
    rw [List.span_eq_takeWhile_dropWhile, List.takeWhile_eq_self_iff.mpr hfront,
      List.dropWhile_eq_nil_iff.mpr hfront]
  rw [span_append _ _ hrest, hself, List.nil_append]

theorem scanNumber_decimal {digits : List Char} (hne : digits ≠ [])
    (hdigits : ∀ c ∈ digits, c.isDigit = true) (hrest : ∀ c ∈ rest.head?, c ∉ ['x', 'X']) :
    scanNumber (digits ++ rest) = scanDigits Char.isDigit (digits ++ rest) := by
  have hmark : ∀ {d : Char} {more : List Char}, d ∈ ['x', 'X'] →
      digits ++ rest ≠ '0' :: d :: more := by
    rintro d more hd heq
    rcases digits with _ | ⟨a, _ | ⟨b, digits⟩⟩
    · exact hne rfl
    · obtain ⟨-, rfl⟩ := List.cons.inj heq
      exact hrest d rfl hd
    · obtain ⟨-, heq⟩ := List.cons.inj heq
      obtain ⟨rfl, -⟩ := List.cons.inj heq
      have hb := hdigits b (by simp)
      simp only [List.mem_cons, List.not_mem_nil, or_false] at hd
      rcases hd with rfl | rfl <;> exact absurd hb (by decide)
  rw [scanNumber]
  · exact fun more => hmark (by simp)
  · exact fun more => hmark (by simp)

theorem scanExponent_of_head? (h : ∀ c ∈ rest.head?, c ∉ ['e', 'E']) :
    scanExponent rest = ([], rest) := by
  rcases rest with _ | ⟨c, rest⟩
  · rfl
  · have hletter : (c == 'e' || c == 'E') = false := by simpa using h c rfl
    simp [scanExponent, hletter]

theorem EndsQuantity.head?_not_mem (h : EndsQuantity rest) {letters : List Char}
    (hletters : ∀ c ∈ letters, Text.isAsciiWord c = true) : ∀ c ∈ rest.head?, c ∉ letters :=
  fun c hc hmem => absurd (hletters c hmem) (by simp [(h c hc).1])

theorem EndsQuantity.isDigit (h : EndsQuantity rest) : ∀ c ∈ rest.head?, c.isDigit = false :=
  fun c hc => Bool.eq_false_iff.mpr fun hd =>
    absurd (isAsciiWord_of_isDigit hd) (by simp [(h c hc).1])

/-- Digits are a number of their own where units follow. -/
theorem scanNumber_units {digits units : List Char} (hne : digits ≠ [])
    (hdigits : ∀ c ∈ digits, c.isDigit = true) (hunits : ∀ c ∈ units, Text.isAsciiWord c = true)
    (hhead : ∀ c ∈ units.head?, c.isDigit = false ∧ c ∉ ['e', 'E', 'x', 'X'])
    (hrest : EndsQuantity rest) :
    scanNumber (digits ++ (units ++ rest)) = (digits, units ++ rest) := by
  have hnext : ∀ c ∈ (units ++ rest).head?, c.isDigit = false ∧ c ≠ '.' ∧
      c ∉ ['e', 'E', 'x', 'X'] := by
    intro c hc
    cases units with
    | nil =>
        exact ⟨hrest.isDigit c hc, (hrest c hc).2,
          hrest.head?_not_mem (List.all_eq_true.mp (by decide)) c hc⟩
    | cons d units =>
        obtain rfl : d = c := Option.some.inj hc
        have hpoint : d ≠ '.' := by
          rintro rfl
          exact absurd (hunits '.' List.mem_cons_self) (by decide)
        exact ⟨(hhead d rfl).1, hpoint, (hhead d rfl).2⟩
  have hplaces : scanPlaces Char.isDigit (units ++ rest) = ([], units ++ rest) := by
    unfold scanPlaces
    split
    · next heq => exact absurd rfl (hnext '.' (by rw [heq]; rfl)).2.1
    · rfl
  rw [scanNumber_decimal hne hdigits fun c hc => ?_, scanDigits,
    span_of_stops hdigits fun c hc => (hnext c hc).1]
  · simp only [hplaces]
    rw [scanExponent_of_head? fun c hc => ?_]
    · simp
    · have := (hnext c hc).2.2
      simp only [List.mem_cons, not_or] at this ⊢
      tauto
  · have := (hnext c hc).2.2
    simp only [List.mem_cons, not_or] at this ⊢
    tauto

theorem scanNumber_places {digits places : List Char} (hne : digits ≠ [])
    (hdigits : ∀ c ∈ digits, c.isDigit = true) (hplaces : ∀ c ∈ places, c.isDigit = true)
    (hrest : EndsQuantity rest) :
    scanNumber (digits ++ '.' :: (places ++ rest)) = (digits ++ '.' :: places, rest) := by
  rw [scanNumber_decimal hne hdigits (by simp), scanDigits,
    span_of_stops hdigits (by simp)]
  simp only [scanPlaces, span_of_stops hplaces hrest.isDigit,
    scanExponent_of_head? (hrest.head?_not_mem (List.all_eq_true.mp (by decide))),
    List.append_nil]

/-- A quantity that ends is taken whole. -/
theorem IsQuantity.scanQuantity? {quantity : List Char} (h : IsQuantity quantity)
    (hrest : EndsQuantity rest) {onlyDuration : Bool} {token : Token} {tail : List Char}
    (hscan : scanQuantity? onlyDuration (quantity ++ rest) = some (token, tail)) : tail = rest := by
  have hends : ((rest.head?.map fun c => isAlpha c || c == '.').getD false) = false := by
    rcases rest with _ | ⟨c, rest⟩
    · rfl
    · have hc : isAlpha c = false := Bool.eq_false_iff.mpr fun ha =>
        absurd (isAsciiWord_of_isAlpha ha) (by simp [(hrest c rfl).1])
      simp [hc, (hrest c rfl).2]
  unfold Query.scanQuantity? at hscan
  simp only [Option.bind_eq_bind] at hscan
  cases h with
  | @units digits units hne hdigits hunits hhead =>
      rw [List.append_assoc, scanNumber_units hne hdigits hunits hhead hrest] at hscan
      split at hscan
      · simp only [Option.bind_eq_some_iff] at hscan
        obtain ⟨⟨found, tail₁⟩, hfound, d, -, htoken⟩ := hscan
        obtain ⟨-, rfl⟩ := Prod.mk.inj (Option.some.inj htoken)
        obtain ⟨hcut, hword, htail⟩ := scanUnits?_eq_some hfound
        exact (append_inj_of_stops hcut hunits hword (fun c hc => (hrest c hc).1) htail).2.symm
      · next hnext =>
          -- a unit would be a letter
          have hnil : units = [] := by
            rcases units with _ | ⟨c, units⟩
            · rfl
            · have hletter : isAlpha c = true := by
                simpa [Text.isAsciiWord, Char.isAlphanum, isAlpha, (hhead c rfl).1] using
                  hunits c List.mem_cons_self
              simp [hletter] at hnext
          subst hnil
          obtain ⟨-, hscan⟩ := Option.ite_none_left_eq_some.mp hscan
          obtain ⟨x, -, htoken⟩ := Option.bind_eq_some_iff.mp hscan
          exact (Prod.mk.inj (Option.some.inj htoken)).2.symm
  | @places digits places hne hdigits hplaces =>
      rw [List.append_assoc, List.cons_append, scanNumber_places hne hdigits hplaces hrest] at hscan
      simp only [hends, Bool.false_eq_true, if_false] at hscan
      obtain ⟨-, hscan⟩ := Option.ite_none_left_eq_some.mp hscan
      obtain ⟨x, -, htoken⟩ := Option.bind_eq_some_iff.mp hscan
      exact (Prod.mk.inj (Option.some.inj htoken)).2.symm

/-! ## Words -/

/-- What begins a word or a number. -/
def beginsLexeme (c : Char) : Bool := Text.isAsciiWord c || c == '.' || c == ':'

theorem isQuote_of_beginsLexeme {c : Char} (hc : beginsLexeme c = true) : isQuote c = false := by
  refine Bool.eq_false_iff.mpr fun hquote => ?_
  simp only [isQuote, Bool.or_eq_true, beq_iff_eq] at hquote
  rcases hquote with (rfl | hquote) | hquote
  · exact absurd hc (by decide)
  · obtain rfl : c = Char.ofNat 0x27 := Char.toNat_inj.mp hquote
    exact absurd hc (by decide)
  · obtain rfl : c = Char.ofNat 0x60 := Char.toNat_inj.mp hquote
    exact absurd hc (by decide)

/-- A character that belongs to no word, number, string or pair of brackets. -/
def isSign (c : Char) : Bool := !(beginsLexeme c || isQuote c || c == '[' || c == ']')

/-- The operators of a list are made of signs, and none of them is a string. -/
def AreSigns (operators : List (String × Option Token)) : Prop :=
  ∀ op ∈ operators, op.1.toList ≠ [] ∧ op.1.toList.all isSign = true ∧
    op.2.any Token.isText = false

theorem areSigns_outsideOperators : AreSigns outsideOperators := by
  unfold AreSigns
  decide

theorem areSigns_braceOperators : AreSigns braceOperators := by
  unfold AreSigns
  decide

theorem scanOperator?_eq_none {operators : List (String × Option Token)} (h : AreSigns operators)
    {c : Char} (hc : isSign c = false) : scanOperator? (c :: text) operators = none := by
  induction operators with
  | nil => rfl
  | cons op operators ih =>
      obtain ⟨⟨hne, hsigns, -⟩, hoperators⟩ := List.forall_mem_cons.mp h
      obtain ⟨d, more, hop⟩ := List.exists_cons_of_ne_nil hne
      have hd : (d == c) = false := by
        rw [beq_eq_false_iff_ne]
        rintro rfl
        exact absurd (List.all_eq_true.mp hsigns d (by simp [hop])) (by simp [hc])
      rw [scanOperator?, hop, Text.after?, hd]
      exact ih hoperators

/-- A word or a number outside braces and brackets is no operator and no string. -/
theorem scanOutside?_lexeme {c : Char} (hc : beginsLexeme c = true) :
    scanOutside? c text =
      if c.isDigit || (c == '.' && (text.head?.map Char.isDigit).getD false) then
        scanQuantity? false (c :: text)
      else if isAlpha c || c == ':' then
        some (wordToken ((c :: text).span fun d => Text.isAsciiWord d || d == ':').1,
          ((c :: text).span fun d => Text.isAsciiWord d || d == ':').2)
      else none := by
  have hoperator : scanOperator? (c :: text) outsideOperators = none :=
    scanOperator?_eq_none areSigns_outsideOperators (by simp [isSign, hc])
  have hquote := isQuote_of_beginsLexeme hc
  unfold scanOutside?
  simp only [hoperator, hquote, Bool.false_eq_true, if_false]

theorem scanOutside?_append {c : Char} (hc : beginsLexeme c = true) (h : Stops rest)
    (hcolon : rest.head? ≠ some ':') : scanOutside? c (text ++ rest) =
      (scanOutside? c text).map fun found => (found.1, found.2 ++ rest) := by
  have hword : ∀ d ∈ rest.head?, (Text.isAsciiWord d || d == ':') = false := by
    intro d hd
    rw [Bool.or_eq_false_iff, beq_eq_false_iff_ne]
    exact ⟨(h d hd).1, fun heq => hcolon (heq ▸ hd)⟩
  rw [scanOutside?_lexeme hc, scanOutside?_lexeme hc,
    head?_append_stops (h.head fun _ => isAsciiWord_of_isDigit), ← List.cons_append,
    scanQuantity?_append _ h, span_append _ _ hword]
  split
  · rfl
  · split <;> rfl

end Append

end BoardLint.Query
