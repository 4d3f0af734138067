import BoardLint.Proofs.Variable.Form
import BoardLint.Variable.Expansion

set_option autoImplicit false

/-! # In front of a placeholder

Where a duration is expected, what precedes it is a blank, an opening bracket, a colon or the word
`offset` (`UshersDuration`). None of these is in a form before digits at its end, so no form reaches
over them into the number of seconds that stands there (`Placeholder.not_mem_forms_across`). -/

namespace BoardLint

/-! ## Characters that a duration can follow -/

/-- The characters that a duration can follow: a blank, an opening bracket, a colon, and the last
    letter of `offset` in either case. -/
def UshersDuration (c : Char) : Prop :=
  Text.isBlank c = true ∨ c = '[' ∨ c = ':' ∨ c = 't' ∨ c = 'T'

theorem eq_of_toLower_eq_t {c : Char} (h : c.toLower = 't') : c = 't' ∨ c = 'T' := by
  unfold Char.toLower at h
  split at h
  · right
    have hval : c.val + 32 = 84 + 32 := congrArg Char.val h
    exact Char.ext ((UInt32.add_left_inj 32).mp hval)
  · exact Or.inl h

theorem trimEnd_concat {front : List Char} {c : Char} (h : ¬ Text.isBlank c = true) :
    Text.trimEnd (front ++ [c]) = front ++ [c] := by
  rw [Text.trimEnd, List.reverse_concat, List.dropWhile_cons, if_neg h]
  simp

/-- Where a duration is expected, there is a character that it can follow. -/
theorem exists_ushersDuration {before : List Char} (h : expectsDuration before = true) :
    ∃ front c, before = front ++ [c] ∧ UshersDuration c := by
  rcases List.eq_nil_or_concat before with rfl | ⟨front, c, rfl⟩
  · exact absurd h (by decide)
  rw [List.concat_eq_append] at h ⊢
  refine ⟨front, c, rfl, ?_⟩
  by_cases hblank : Text.isBlank c = true
  · exact Or.inl hblank
  · simp only [expectsDuration, trimEnd_concat hblank, List.getLast?_concat, Bool.or_eq_true,
      Bool.and_eq_true, beq_iff_eq, Option.some.injEq] at h
    rcases h with (h | h) | h
    · exact Or.inr (Or.inl h)
    · exact Or.inr (Or.inr (Or.inl h.1))
    · -- the word in front is `offset`, so its last letter is that of the text
      have hlast := congrArg (fun word => word.toList.getLast?) h
      rw [List.reverse_concat, List.takeWhile_cons] at hlast
      split at hlast
      · simp only [String.toList_ofList, List.reverse_cons, List.map_append, List.map_cons,
          List.map_nil, List.getLast?_concat] at hlast
        exact Or.inr (Or.inr (Or.inr (eq_of_toLower_eq_t (Option.some.inj hlast))))
      · simp at hlast

/-- The code points of blanks. -/
def blankCodes : List Nat :=
  [9, 10, 11, 12, 13, 0x20, 0x85, 0xA0, 0x1680, 0x2000, 0x2001, 0x2002, 0x2003, 0x2004, 0x2005,
    0x2006, 0x2007, 0x2008, 0x2009, 0x200A, 0x2028, 0x2029, 0x202F, 0x205F, 0x3000]

theorem toNat_mem_blankCodes {c : Char} (h : Text.isBlank c = true) : c.toNat ∈ blankCodes := by
  simp only [Text.isBlank, Bool.or_eq_true, Bool.and_eq_true, decide_eq_true_eq, beq_iff_eq] at h
  simp only [blankCodes, List.mem_cons, List.not_mem_nil, or_false]
  omega

/-- A blank is no word character. -/
theorem isWord_of_isBlank {c : Char} (h : Text.isBlank c = true) : Text.isWord c = false := by
  have hcodes : ∀ n ∈ blankCodes, Text.isWord (Char.ofNat n) = false := by decide +kernel
  have hc := hcodes c.toNat (toNat_mem_blankCodes h)
  rwa [Char.ofNat_toNat] at hc

/-- Of the characters that a duration can follow, only the letters are word characters. -/
theorem UshersDuration.eq_of_isWord {c : Char} (h : UshersDuration c)
    (hword : Text.isWord c = true) : c = 't' ∨ c = 'T' := by
  rcases h with hblank | rfl | rfl | h
  · rw [isWord_of_isBlank hblank] at hword
    exact absurd hword (by simp)
  · exact absurd hword (by decide)
  · exact absurd hword (by decide)
  · exact h

namespace Placeholder

/-! ## Forms that would reach over the front of a placeholder -/

/-- The characters of numbers and durations. -/
def numeralMarks : List Char := ['.', 'y', 'w', 'd', 'h', 'm', 's']

theorem mem_numeralMarks_of_mem_mark {u : Duration.Scale} {c : Char} (h : c ∈ u.mark) :
    c ∈ numeralMarks := by
  cases u <;> simp only [Duration.Scale.mark, numeralMarks, List.mem_cons, List.not_mem_nil,
    or_false] at h ⊢ <;> tauto

theorem mem_duration_chars {d : Duration} {c : Char} (h : c ∈ d.chars) :
    c.isDigit = true ∨ c ∈ numeralMarks := by
  unfold Duration.chars at h
  split at h
  · simp only [List.mem_cons, List.not_mem_nil, or_false] at h
    rcases h with rfl | rfl <;> decide
  · obtain ⟨⟨n, u⟩, -, hc⟩ := List.mem_flatMap.mp h
    rcases List.mem_append.mp hc with hc | hc
    · exact Or.inl (isDigit_of_mem_toDigits hc)
    · exact Or.inr (mem_numeralMarks_of_mem_mark hc)

/-- A character that a duration can follow is in no numeral. -/
theorem not_numeral {c : Char} (h : UshersDuration c) :
    c.isDigit = false ∧ c ∉ numeralMarks := by
  constructor
  · rw [← Bool.not_eq_true]
    intro hdigit
    rcases h.eq_of_isWord (isWord_of_isDigit hdigit) with rfl | rfl <;>
      exact absurd hdigit (by decide)
  · intro hmark
    simp only [numeralMarks, List.mem_cons, List.not_mem_nil, or_false] at hmark
    unfold UshersDuration at h
    rcases hmark with rfl | rfl | rfl | rfl | rfl | rfl | rfl <;> exact absurd h (by decide)

/-- The forms of numbers are numerals. -/
theorem mem_form_numeral {q : Placeholder} (hq : q.kind ≠ .text) {f : List Char}
    (hf : f ∈ q.forms) {c : Char} (hc : c ∈ f) : c.isDigit = true ∨ c ∈ numeralMarks := by
  have hdigits : ∀ {n : Nat}, c ∈ Nat.toDigits 10 n → c.isDigit = true ∨ c ∈ numeralMarks :=
    fun hc => Or.inl (isDigit_of_mem_toDigits hc)
  cases q with
  | seconds n =>
      simp only [forms, List.mem_cons, List.not_mem_nil, or_false] at hf
      rcases hf with rfl | rfl | rfl
      · exact hdigits hc
      · rcases List.mem_append.mp hc with hc | hc
        · exact hdigits hc
        · exact Or.inr (mem_numeralMarks_of_mem_mark (u := .second) hc)
      · exact mem_duration_chars hc
  | instant n =>
      have hplaces : ∀ x ∈ places, x.isDigit = true ∨ x ∈ numeralMarks := by
        simp [places, numeralMarks]
      simp only [forms, List.mem_cons, List.not_mem_nil, or_false] at hf
      rcases hf with rfl | rfl
      · rcases List.mem_append.mp hc with hc | hc
        · exact hdigits hc
        · exact hplaces c hc
      · exact hdigits hc
  | word name counter => exact absurd rfl hq

/-- What precedes the digits at the end of a text is one character, however it is cut. -/
theorem eq_of_append_digits {front front' digits digits' : List Char} {c c' : Char}
    (h : front ++ c :: digits = front' ++ c' :: digits')
    (hdigits : ∀ d ∈ digits, d.isDigit = true) (hdigits' : ∀ d ∈ digits', d.isDigit = true)
    (hc : c.isDigit = false) (hc' : c'.isDigit = false) : c = c' := by
  have hcut : ∀ (front digits : List Char) (c : Char), (∀ d ∈ digits, d.isDigit = true) →
      c.isDigit = false →
      ((front ++ c :: digits).reverse.dropWhile Char.isDigit).head? = some c := by
    intro front digits c hdigits hc
    rw [List.reverse_append, List.reverse_cons, List.append_assoc,
      List.dropWhile_append_of_pos (by simpa using hdigits)]
    simp [hc]
  have hfirst := hcut front digits c hdigits hc
  rw [h, hcut front' digits' c' hdigits' hc'] at hfirst
  exact (Option.some.inj hfirst).symm

/-- A word ends in the digits of its counter. -/
theorem isDigit_of_getLast?_word {name : List Char} {counter : Nat} {c : Char}
    (h : (word name counter).chars.getLast? = some c) : c.isDigit = true := by
  obtain ⟨front, last, hdigits⟩ := (List.eq_nil_or_concat (Nat.toDigits 10 counter)).resolve_left
    Nat.toDigits_ne_nil
  rw [List.concat_eq_append] at hdigits
  rw [chars, hdigits, ← List.cons_append, ← List.append_assoc, List.getLast?_concat] at h
  refine isDigit_of_mem_toDigits (n := counter) ?_
  simp [hdigits, ← Option.some.inj h]

/-- **No form reaches into a placeholder from what precedes it**, where the placeholder is a number
    of seconds with a unit behind it and stands where a duration is expected. -/
theorem not_mem_forms_across {q : Placeholder} (hq : q.Proper) {m : Nat} {u : Duration.Scale}
    {front d tail : List Char} {c : Char} (hc : UshersDuration c) (hd : d ≠ [])
    (htail : StopsWord tail) (hpre : d <+: (seconds m).chars ++ u.mark ++ tail) :
    front ++ c :: d ∉ q.forms := by
  intro hf
  obtain ⟨name, counter, rfl⟩ : ∃ name counter, q = .word name counter := by
    cases q with
    | word name counter => exact ⟨name, counter, rfl⟩
    | _ =>
        -- the character is in no numeral
        obtain ⟨hdigit, hmark⟩ := not_numeral hc
        rcases mem_form_numeral (by simp [kind]) hf (c := c) (by simp) with h | h
        · exact absurd (hdigit ▸ h) (by simp)
        · exact absurd h hmark
  have hchars : front ++ c :: d = seed ++ name ++ '_' :: Nat.toDigits 10 counter := by
    simpa [forms, chars] using hf
  have hword : ∀ x ∈ front ++ c :: d, Text.isWord x = true := by
    intro x hx
    rw [hchars] at hx
    exact isWord_of_mem_word hq hx
  have hcounter : ∀ x ∈ Nat.toDigits 10 counter, x.isDigit = true := fun x hx =>
    isDigit_of_mem_toDigits hx
  -- the form ends in digits, so it does not reach into the unit
  have hdigits : ∀ x ∈ d, x.isDigit = true := by
    obtain ⟨rest, hrest⟩ := prefix_of_stopsWord (fun x hx => hword x (by simp [hx])) htail hpre
    have hm : ∀ x ∈ (seconds m).chars, x.isDigit = true := fun x hx =>
      isDigit_of_mem_toDigits hx
    rcases List.append_eq_append_iff.mp hrest with ⟨as, has, -⟩ | ⟨as, rfl, has⟩
    · exact fun x hx => hm x (has ▸ List.mem_append_left as hx)
    · rcases List.eq_nil_or_concat as with rfl | ⟨as', z, rfl⟩
      · rwa [List.append_nil]
      · have hlast : (word name counter).chars.getLast? = some z := by
          rw [chars, ← hchars, List.concat_eq_append, ← List.append_assoc, ← List.cons_append,
            ← List.append_assoc, List.getLast?_concat]
        have hz := isDigit_of_getLast?_word hlast
        have hmark : z ∈ numeralMarks := mem_numeralMarks_of_mem_mark (u := u) (by simp [has])
        have hmarks : ∀ mark ∈ numeralMarks, mark.isDigit = false := by
          simp [numeralMarks]
        exact absurd (hmarks z hmark ▸ hz) (by simp)
  have hc' : c = '_' := eq_of_append_digits hchars hdigits hcounter (not_numeral hc).1 (by decide)
  have hmark : ¬ UshersDuration '_' := by
    unfold UshersDuration
    decide
  exact hmark (hc' ▸ hc)

end Placeholder

/-- No duration is expected directly behind a unit. -/
theorem expectsDuration_mark (before : List Char) (u : Duration.Scale) :
    expectsDuration (before ++ u.mark) = false := by
  rw [← Bool.not_eq_true]
  intro h
  obtain ⟨front, c, heq, hc⟩ := exists_ushersDuration h
  have hlast := congrArg List.getLast? heq
  have hmark : c ∈ u.mark := by
    cases u <;> simp [Duration.Scale.mark, List.getLast?_append] at hlast ⊢ <;> simp [← hlast]
  exact (Placeholder.not_numeral hc).2 (Placeholder.mem_numeralMarks_of_mem_mark hmark)

end BoardLint
