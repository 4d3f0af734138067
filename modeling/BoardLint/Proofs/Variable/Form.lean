import BoardLint.Variable.Placeholder
import Mathlib.Algebra.Group.Nat.Defs
import Mathlib.Data.List.Infix
import Mathlib.Logic.Function.Basic

set_option autoImplicit false

/-! # Texts of placeholders

What the forms of a placeholder look like. A number of seconds begins with `11`, its canonical
duration with `13`, an instant with `12` and a word with `bg`, so the first two characters tell what
a form can be. From this follows `Placeholder.Written.longest`: where a placeholder was written and
no word character follows, no form of any placeholder reaches further. -/

namespace BoardLint

/-! ## Decimal digits -/

theorem toDigits_injective : Function.Injective (Nat.toDigits 10) := by
  intro m n h
  have := congrArg (fun digits => Nat.ofDigitChars 10 digits 0) h
  simpa using this

/-- The leading digits of a number are those of its quotient by a power of ten. -/
theorem toDigits_eq_append (k : Nat) {n : Nat} (h : 10 ^ k ≤ n) :
    ∃ d, d.length = k ∧ Nat.toDigits 10 n = Nat.toDigits 10 (n / 10 ^ k) ++ d := by
  induction k generalizing n with
  | zero => exact ⟨[], rfl, by simp⟩
  | succ k ih =>
      have hten : 10 ≤ n := le_trans (by rw [Nat.pow_succ]; have := Nat.one_le_pow k 10; omega) h
      have hdiv : 10 ^ k ≤ n / 10 := by
        rw [Nat.le_div_iff_mul_le (by omega), ← Nat.pow_succ]
        exact h
      obtain ⟨d, hlen, hd⟩ := ih hdiv
      refine ⟨d ++ [Nat.digitChar (n % 10)], by simp [hlen], ?_⟩
      rw [Nat.toDigits_of_base_le (by omega) hten, hd, Nat.div_div_eq_div_mul, ← Nat.pow_succ',
        List.append_assoc]

/-- The digits by their codes. -/
theorem isDigit_iff_toNat {c : Char} : c.isDigit = true ↔ 48 ≤ c.toNat ∧ c.toNat ≤ 57 :=
  (Bool.and_eq_true_iff ..).trans (and_congr
    (decide_eq_true_iff.trans UInt32.le_iff_toNat_le)
    (decide_eq_true_iff.trans UInt32.le_iff_toNat_le))

theorem isWord_of_isDigit {c : Char} (h : c.isDigit = true) : Text.isWord c = true := by
  have hlt : c.toNat < 128 := by
    have := isDigit_iff_toNat.mp h
    omega
  simp [Text.isWord, hlt, Char.isAlphanum, h]

theorem isDigit_of_mem_toDigits {c : Char} {n : Nat} (h : c ∈ Nat.toDigits 10 n) :
    c.isDigit = true :=
  Nat.isDigit_of_mem_toDigits (by omega) (by omega) h

theorem isWord_of_mem_toDigits {c : Char} {n : Nat} (h : c ∈ Nat.toDigits 10 n) :
    Text.isWord c = true :=
  isWord_of_isDigit (isDigit_of_mem_toDigits h)

namespace Placeholder

/-! ## Candidates -/

/-- Attempts for one variable differ in their texts. -/
theorem candidate_chars_injective (reference : List Char) (kind : ValueKind) :
    Function.Injective fun counter => (candidate reference kind counter).chars := by
  intro m n h
  cases kind with
  | timeRange => exact Nat.add_left_cancel (toDigits_injective h)
  | epoch => exact Nat.add_left_cancel (toDigits_injective (List.append_cancel_right h))
  | text =>
      have htail := List.append_cancel_left h
      exact toDigits_injective (List.cons.inj htail).2

theorem kind_candidate (reference : List Char) (kind : ValueKind) (counter : Nat) :
    (candidate reference kind counter).kind = kind := by
  cases kind <;> rfl

/-- The placeholders that are made: numbers in the ranges of their kinds, and names of word
    characters. -/
def Proper : Placeholder → Prop
  | .seconds n => 11277964 ≤ n ∧ n ≤ 11277964 + maxRetries
  | .instant n => 1294671549254 ≤ n ∧ n ≤ 1294671549254 + maxRetries
  | .word name _ => ∀ c ∈ name, Text.isWord c = true

theorem isWord_of_mem_sanitize {name : List Char} {c : Char} (h : c ∈ sanitize name) :
    Text.isWord c = true := by
  obtain ⟨d, -, rfl⟩ := List.mem_map.mp h
  by_cases hd : Text.isWord d = true
  · rw [if_pos hd]
    exact hd
  · rw [if_neg hd]
    decide

theorem candidate_proper (reference : List Char) (kind : ValueKind) {counter : Nat}
    (h : counter ≤ maxRetries) : (candidate reference kind counter).Proper := by
  cases kind with
  | timeRange => exact ⟨by omega, by omega⟩
  | epoch => exact ⟨by omega, by omega⟩
  | text => exact fun c hc => isWord_of_mem_sanitize hc

/-- A word has word characters only. -/
theorem isWord_of_mem_word {name : List Char} {counter : Nat} (h : (word name counter).Proper)
    {c : Char} (hc : c ∈ (word name counter).chars) : Text.isWord c = true := by
  simp only [chars, List.append_assoc, List.mem_append, List.mem_cons] at hc
  rcases hc with hc | hc | rfl | hc
  · exact List.all_eq_true.mp (by decide : seed.all Text.isWord = true) c hc
  · exact h c hc
  · decide
  · exact isWord_of_mem_toDigits hc

/-! ## The first two characters -/

theorem seconds_digits {n : Nat} (h : (seconds n).Proper) :
    ∃ d, d.length = 6 ∧ Nat.toDigits 10 n = '1' :: '1' :: d := by
  obtain ⟨hlo, hhi⟩ := h
  have hmax : maxRetries = 10000 := rfl
  obtain ⟨d, hlen, hd⟩ := toDigits_eq_append 6 (n := n) (by omega)
  have hq : n / 10 ^ 6 = 11 := by omega
  rw [hq] at hd
  exact ⟨d, hlen, hd⟩

theorem instant_digits {n : Nat} (h : (instant n).Proper) :
    ∃ d, d.length = 11 ∧ Nat.toDigits 10 n = '1' :: '2' :: d := by
  obtain ⟨hlo, hhi⟩ := h
  have hmax : maxRetries = 10000 := rfl
  obtain ⟨d, hlen, hd⟩ := toDigits_eq_append 11 (n := n) (by omega)
  have hq : n / 10 ^ 11 = 12 := by omega
  rw [hq] at hd
  exact ⟨d, hlen, hd⟩

/-- The components of a number of seconds begin with its days. No year and no week is written, as
    the number is a multiple of neither. -/
theorem components_seconds {n : Nat} (h : (seconds n).Proper) :
    ∃ rest, Duration.components (n * 1000) Duration.scales = (130, .day) :: rest := by
  obtain ⟨hlo, hhi⟩ := h
  have hmax : maxRetries = 10000 := rfl
  have hyear : n * 1000 % Duration.Scale.year.millis ≠ 0 := by
    simp only [Duration.Scale.millis]
    omega
  have hweek : n * 1000 % Duration.Scale.week.millis ≠ 0 := by
    simp only [Duration.Scale.millis]
    omega
  have hday : n * 1000 / Duration.Scale.day.millis = 130 := by
    simp only [Duration.Scale.millis]
    omega
  rw [Duration.scales,
    Duration.components, if_pos (by simpa [Duration.Scale.onlyExact] using hyear),
    Duration.components, if_pos (by simpa [Duration.Scale.onlyExact] using hweek),
    Duration.components, if_neg (by simp [Duration.Scale.onlyExact]), hday]
  exact ⟨_, rfl⟩

theorem duration_chars {n : Nat} (h : (seconds n).Proper) :
    ∃ d, (Duration.ofSeconds n).chars = '1' :: '3' :: d := by
  obtain ⟨rest, hrest⟩ := components_seconds h
  have hzero : ¬ ((Duration.ofSeconds n).millis == 0) = true := by
    have := h.1
    simp [Duration.ofSeconds]
    omega
  rw [Duration.chars, if_neg hzero, Duration.ofSeconds, hrest, List.flatMap_cons]
  exact ⟨_, rfl⟩

/-- The first two characters of the text of a placeholder. -/
def lead : Placeholder → List Char
  | .seconds _ => ['1', '1']
  | .instant _ => ['1', '2']
  | .word .. => ['b', 'g']

theorem length_lead (p : Placeholder) : p.lead.length = 2 := by cases p <;> rfl

theorem take_two_chars {p : Placeholder} (h : p.Proper) : p.chars.take 2 = p.lead := by
  cases p with
  | seconds n =>
      obtain ⟨d, -, hd⟩ := seconds_digits h
      simp [chars, hd, lead]
  | instant n =>
      obtain ⟨d, -, hd⟩ := instant_digits h
      simp [chars, hd, lead]
  | word name counter => rfl

/-- The forms of a placeholder: its text, the text with the unit of seconds, the canonical duration,
    and the text without the three places. -/
theorem mem_forms_cases {p : Placeholder} {f : List Char} (hf : f ∈ p.forms) :
    f = p.chars ∨ (∃ n, p = .seconds n ∧ f = p.chars ++ ['s']) ∨
    (∃ n, p = .seconds n ∧ f = (Duration.ofSeconds n).chars) ∨
    (∃ n, p = .instant n ∧ f = Nat.toDigits 10 n) := by
  cases p with
  | seconds n => simpa [forms, chars] using hf
  | instant n => simpa [forms, chars] using hf
  | word name counter => simpa [forms] using hf

/-- The first two characters of a form are those of the placeholder's text, or those of a
    duration. -/
theorem take_two_form {p : Placeholder} (h : p.Proper) {f : List Char} (hf : f ∈ p.forms) :
    f.take 2 = p.lead ∨ f.take 2 = ['1', '3'] := by
  rcases mem_forms_cases hf with rfl | ⟨n, rfl, rfl⟩ | ⟨n, rfl, rfl⟩ | ⟨n, rfl, rfl⟩
  · exact Or.inl (take_two_chars h)
  · obtain ⟨d, -, hd⟩ := seconds_digits h
    simp [chars, hd, lead]
  · obtain ⟨d, hd⟩ := duration_chars h
    simp [hd]
  · obtain ⟨d, -, hd⟩ := instant_digits h
    simp [hd, lead]

theorem length_take_two_form {p : Placeholder} (h : p.Proper) {f : List Char} (hf : f ∈ p.forms) :
    (f.take 2).length = 2 := by
  rcases take_two_form h hf with he | he
  · rw [he, length_lead]
  · rw [he]
    rfl

/-- The pairs of characters with which forms begin. -/
def leads : List (List Char) := [['1', '1'], ['1', '2'], ['1', '3'], ['b', 'g']]

theorem take_two_mem_leads {p : Placeholder} (h : p.Proper) {f : List Char} (hf : f ∈ p.forms) :
    f.take 2 ∈ leads := by
  rcases take_two_form h hf with he | he
  · rw [he]
    cases p <;> simp [lead, leads]
  · rw [he]
    decide

/-! ## Written placeholders -/

/-- What substitution may write for a placeholder: its text, with the unit of seconds or not. -/
def Written (p : Placeholder) (w : List Char) : Prop :=
  w = p.chars ∨ (p.kind = .timeRange ∧ w = p.chars ++ ['s'])

/-- The next character, if there is one, is no word character. -/
def StopsWord (rest : List Char) : Prop := ∀ c ∈ rest.head?, Text.isWord c = false

/-- Word characters do not reach beyond a place where words stop. -/
theorem prefix_of_stopsWord {f w rest : List Char} (hf : ∀ c ∈ f, Text.isWord c = true)
    (hrest : StopsWord rest) (h : f <+: w ++ rest) : f <+: w := by
  obtain ⟨tail, ht⟩ := h
  rcases List.append_eq_append_iff.mp ht with ⟨as, rfl, -⟩ | ⟨as, rfl, hr⟩
  · exact List.prefix_append f as
  · -- the part of `f` behind `w` would begin with the next character
    cases as with
    | nil => simp
    | cons c as =>
        have hword : Text.isWord c = true := hf c (by simp)
        rw [hrest c (by simp [hr])] at hword
        exact absurd hword (by simp)

theorem take_two_eq_of_isPrefix {f g : List Char} (h : f <+: g) (hf : (f.take 2).length = 2) :
    f.take 2 = g.take 2 := by
  obtain ⟨tail, rfl⟩ := h
  have : 2 ≤ f.length := by
    rw [List.length_take] at hf
    omega
  rw [List.take_append_of_le_length this]

/-- What may be written is a form. -/
theorem Written.mem_forms {p : Placeholder} {w : List Char} (hw : p.Written w) : w ∈ p.forms := by
  rcases hw with rfl | ⟨hkind, rfl⟩
  · cases p <;> simp [forms, chars]
  · cases p with
    | seconds n => simp [forms, chars]
    | instant n => simp [kind] at hkind
    | word name counter => simp [kind] at hkind

theorem Written.take_two {p : Placeholder} (hp : p.Proper) {w : List Char} (hw : p.Written w) :
    w.take 2 = p.lead := by
  have hlead := take_two_chars hp
  rcases hw with rfl | ⟨-, rfl⟩
  · exact hlead
  · rw [← hlead]
    refine (take_two_eq_of_isPrefix (List.prefix_append _ _) ?_).symm
    rw [hlead, length_lead]

theorem Written.ne_nil {p : Placeholder} (hp : p.Proper) {w : List Char} (hw : p.Written w) :
    w ≠ [] := by
  rintro rfl
  have := congrArg List.length (hw.take_two hp)
  rw [length_lead] at this
  exact absurd this (by simp)

section Longest

variable {w rest f : List Char}

/-- A form that begins where a number of seconds was written ends there too, and is the text of the
    same number if it has the same length. -/
theorem Written.longest_seconds {m n : Nat} (hm : (seconds m).Proper) (hn : (seconds n).Proper)
    (hw : (seconds m).Written w) (hrest : StopsWord rest)
    (hf : f = (seconds n).chars ∨ f = (seconds n).chars ++ ['s']) (h : f <+: w ++ rest) :
    f <+: w ∧ (f = w → (seconds n).chars = (seconds m).chars) := by
  obtain ⟨c, hclen, hc⟩ := seconds_digits hm
  obtain ⟨d, hdlen, hd⟩ := seconds_digits hn
  have hword : ∀ x ∈ f, Text.isWord x = true := by
    intro x hx
    have hx : x ∈ Nat.toDigits 10 n ∨ x = 's' := by
      rcases hf with rfl | rfl
      · exact Or.inl hx
      · simpa [chars] using hx
    rcases hx with hx | rfl
    · exact isWord_of_mem_toDigits hx
    · decide
  refine ⟨prefix_of_stopsWord hword hrest h, fun heq => ?_⟩
  rcases hf with rfl | rfl <;> rcases hw with rfl | ⟨-, rfl⟩
  · exact heq
  · have := congrArg List.length heq
    simp [chars, hc, hd, hclen, hdlen] at this
  · have := congrArg List.length heq
    simp [chars, hc, hd, hclen, hdlen] at this
  · exact List.append_cancel_right heq

theorem Written.longest_instant {m n : Nat} (hm : (instant m).Proper) (hn : (instant n).Proper)
    (hw : (instant m).Written w) (hf : f = (instant n).chars ∨ f = Nat.toDigits 10 n)
    (h : f <+: w ++ rest) : f <+: w ∧ (f = w → (instant n).chars = (instant m).chars) := by
  obtain ⟨c, hclen, hc⟩ := instant_digits hm
  obtain ⟨d, hdlen, hd⟩ := instant_digits hn
  obtain rfl : w = (instant m).chars := by
    rcases hw with rfl | ⟨hkind, -⟩
    · rfl
    · exact absurd hkind (by simp [kind])
  have hlen : f.length ≤ (instant m).chars.length := by
    rcases hf with rfl | rfl <;> simp [chars, hc, hd, hclen, hdlen, places]
  refine ⟨List.prefix_of_prefix_length_le h (List.prefix_append _ _) hlen, fun heq => ?_⟩
  rcases hf with rfl | rfl
  · exact heq
  · have := congrArg List.length heq
    simp [chars, hc, hd, hclen, hdlen, places] at this

theorem Written.longest_word {name name' : List Char} {i j : Nat}
    (hn : (word name' j).Proper) (hw : (word name i).Written w) (hrest : StopsWord rest)
    (h : (word name' j).chars <+: w ++ rest) :
    (word name' j).chars <+: w ∧
      ((word name' j).chars = w → (word name' j).chars = (word name i).chars) := by
  obtain rfl : w = (word name i).chars := by
    rcases hw with rfl | ⟨hkind, -⟩
    · rfl
    · exact absurd hkind (by simp [kind])
  exact ⟨prefix_of_stopsWord (fun _ => isWord_of_mem_word hn) hrest h, id⟩

/-- A form that begins where a placeholder was written is no duration, and belongs to a placeholder
    of the same kind. -/
theorem Written.leads_eq {p q : Placeholder} (hp : p.Proper) (hq : q.Proper) (hw : p.Written w)
    (hf : f ∈ q.forms) (h : f <+: w ++ rest) : f.take 2 = q.lead ∧ p.lead = q.lead := by
  have htwo := length_take_two_form hq hf
  have hwtwo : (w.take 2).length = 2 := by rw [hw.take_two hp, length_lead]
  have hsame : f.take 2 = p.lead := by
    rw [take_two_eq_of_isPrefix h htwo, ← take_two_eq_of_isPrefix (List.prefix_append w rest) hwtwo]
    exact hw.take_two hp
  have hform : f.take 2 = q.lead := by
    rcases take_two_form hq hf with he | he
    · exact he
    · rw [hsame] at he
      cases p <;> simp [lead] at he
  exact ⟨hform, hsame.symm.trans hform⟩

/-- The forms that begin where a number of seconds was written: the digits of such a number, with
    the unit of seconds or not. -/
theorem Written.forms_seconds {m : Nat} {q : Placeholder} (hp : (seconds m).Proper)
    (hq : q.Proper) (hw : (seconds m).Written w) (hf : f ∈ q.forms) (h : f <+: w ++ rest) :
    ∃ n, q = .seconds n ∧ (f = (seconds n).chars ∨ f = (seconds n).chars ++ ['s']) := by
  obtain ⟨hform, hkinds⟩ := hw.leads_eq hp hq hf h
  cases q with
  | seconds n =>
      refine ⟨n, rfl, ?_⟩
      rcases mem_forms_cases hf with hf | ⟨-, -, hf⟩ | ⟨k, hk, rfl⟩ | ⟨k, hk, -⟩
      · exact Or.inl hf
      · exact Or.inr hf
      · obtain rfl := Placeholder.seconds.inj hk
        obtain ⟨e, he⟩ := duration_chars hq
        simp [he, lead] at hform
      · exact absurd hk (by simp)
  | instant n => simp [lead] at hkinds
  | word name counter => simp [lead] at hkinds

/-- **No form reaches beyond a written placeholder** behind which words stop, and the only form as
    long as the written text belongs to a placeholder with the same text. -/
theorem Written.longest {p q : Placeholder} (hp : p.Proper) (hq : q.Proper) (hw : p.Written w)
    (hrest : StopsWord rest) (hf : f ∈ q.forms) (h : f <+: w ++ rest) :
    f <+: w ∧ (f = w → q.chars = p.chars) := by
  obtain ⟨-, hkinds⟩ := hw.leads_eq hp hq hf h
  cases p with
  | seconds m =>
      obtain ⟨n, rfl, hseconds⟩ := hw.forms_seconds hp hq hf h
      exact hw.longest_seconds hp hq hrest hseconds h
  | instant m =>
      cases q with
      | seconds n => simp [lead] at hkinds
      | instant n =>
          rcases mem_forms_cases hf with hf | ⟨k, hk, -⟩ | ⟨k, hk, -⟩ | ⟨k, hk, hf⟩
          · exact hw.longest_instant hp hq (Or.inl hf) h
          · exact absurd hk (by simp)
          · exact absurd hk (by simp)
          · obtain rfl := Placeholder.instant.inj hk
            exact hw.longest_instant hp hq (Or.inr hf) h
      | word name counter => simp [lead] at hkinds
  | word name i =>
      cases q with
      | seconds n => simp [lead] at hkinds
      | instant n => simp [lead] at hkinds
      | word name' j =>
          obtain rfl : f = (word name' j).chars := by simpa [forms] using hf
          exact hw.longest_word hq hrest h

/-- No form reaches beyond the digits of a number of seconds either, if something else than the unit
    of seconds follows them. -/
theorem longest_digits {m : Nat} {q : Placeholder} (hm : (seconds m).Proper) (hq : q.Proper)
    (hrest : rest.head? ≠ some 's') (hf : f ∈ q.forms) (h : f <+: (seconds m).chars ++ rest) :
    f <+: (seconds m).chars ∧ (f = (seconds m).chars → q.chars = (seconds m).chars) := by
  have hw : (seconds m).Written (seconds m).chars := Or.inl rfl
  obtain ⟨n, rfl, hseconds⟩ := hw.forms_seconds hm hq hf h
  obtain ⟨c, hclen, hc⟩ := seconds_digits hm
  obtain ⟨d, hdlen, hd⟩ := seconds_digits hq
  have hlen : (seconds n).chars.length = (seconds m).chars.length := by
    simp [chars, hc, hd, hclen, hdlen]
  have hdigits : (seconds n).chars <+: f := by
    rcases hseconds with rfl | rfl
    · exact List.prefix_rfl
    · exact List.prefix_append _ _
  have hsame : (seconds n).chars = (seconds m).chars := by
    have hpre := List.prefix_of_prefix_length_le (hdigits.trans h) (List.prefix_append _ _)
      (Nat.le_of_eq hlen)
    exact hpre.eq_of_length hlen
  rcases hseconds with rfl | rfl
  · exact ⟨hsame ▸ List.prefix_rfl, fun _ => hsame⟩
  · -- the unit would be the next character
    rw [hsame, List.prefix_append_right_inj, List.singleton_prefix_iff_head?_eq_some] at h
    exact absurd h hrest

end Longest

end Placeholder

end BoardLint
