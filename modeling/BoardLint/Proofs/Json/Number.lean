import BoardLint.Json.Token
import Mathlib.Data.List.TakeDrop
import Mathlib.Data.List.TakeWhile

set_option autoImplicit false

/-! # Numbers through their text

A number that is read from its own text is read in front of any text that does not go on with it.
Every whole number of 64 bits is read from its own text. A double is where the power of ten it is
scaled by does not lose its last place, so for doubles it stays an assumption. -/

namespace BoardLint.Json.Number

/-! ## In front of a text -/

/-- The number is what its own text is read as. -/
def ReadsBack (n : Number) : Prop := scan? n.write = some (some n, [])

instance (n : Number) : Decidable n.ReadsBack := inferInstanceAs (Decidable (_ = _))

/-- A text that does not go on with a number in front of it. -/
def Stops (text : List Char) : Prop :=
  ∀ c ∈ text.head?, c.isDigit = false ∧ c ≠ '.' ∧ c ≠ 'e' ∧ c ≠ 'E'

section

variable {rest : List Char} (hrest : Stops rest)
include hrest

theorem span_isDigit_append (text : List Char) :
    (text ++ rest).span Char.isDigit =
      ((text.span Char.isDigit).1, (text.span Char.isDigit).2 ++ rest) := by
  simp only [List.span_eq_takeWhile_dropWhile]
  induction text with
  | nil =>
      cases rest with
      | nil => rfl
      | cons c rest => simp [(hrest c rfl).1]
  | cons c text ih =>
      simp only [Prod.mk.injEq] at ih
      by_cases hc : c.isDigit <;> simp [hc, ih]

omit hrest in
theorem scanSign_append {text : List Char} (htext : text ≠ []) :
    scanSign (text ++ rest) = ((scanSign text).1, (scanSign text).2 ++ rest) := by
  obtain ⟨c, text, rfl⟩ := List.exists_cons_of_ne_nil htext
  by_cases hc : c = '-' <;> simp [scanSign, hc]

omit hrest in
theorem scanExponentSign_append {text : List Char} (htext : text ≠ []) :
    scanExponentSign (text ++ rest) =
      ((scanExponentSign text).1, (scanExponentSign text).2 ++ rest) := by
  obtain ⟨c, tail, rfl⟩ := List.exists_cons_of_ne_nil htext
  by_cases hc : c = '+'
  · simp [scanExponentSign, hc]
  · have hsign : scanSign (c :: (tail ++ rest)) = _ := scanSign_append htext
    simp [scanExponentSign, hc, hsign]

theorem scanExponent?_append {text : List Char} {e : Bool × Nat}
    (h : scanExponent? text = some (e, [])) : scanExponent? (text ++ rest) = some (e, rest) := by
  have htext : text ≠ [] := by
    rintro rfl
    cases h
  unfold scanExponent? at h ⊢
  simp only [scanExponentSign_append htext, span_isDigit_append hrest] at h ⊢
  split at h
  · cases h
  · next digits tail hdigits hspan =>
    simp only [Option.some.injEq, Prod.mk.injEq] at h
    obtain ⟨rfl, rfl⟩ := h
    simp only [hspan, List.nil_append]

theorem scanFraction?_append {text tail : List Char} {f : Option (List Char)}
    (h : scanFraction? text = some (f, tail)) :
    scanFraction? (text ++ rest) = some (f, tail ++ rest) := by
  cases text with
  | nil =>
      cases h
      cases rest with
      | nil => rfl
      | cons c rest => simp [scanFraction?, (hrest c rfl).2.1]
  | cons c text =>
      by_cases hc : c = '.'
      · subst hc
        simp only [scanFraction?, List.cons_append, span_isDigit_append hrest] at h ⊢
        split at h
        · cases h
        · next digits rest' hdigits hspan =>
          cases h
          simp only [hspan]
      · have hnone : ∀ tail, scanFraction? (c :: tail) = some (none, c :: tail) := by
          intro tail
          simp [scanFraction?, hc]
        rw [hnone] at h
        cases h
        exact hnone _

theorem scanPower?_append {text : List Char} {e : Option (Bool × Nat)}
    (h : scanPower? text = some (e, [])) : scanPower? (text ++ rest) = some (e, rest) := by
  have hmark : ∀ {text : List Char},
      (scanExponent? text).map (fun r => (some r.1, r.2)) = some (e, []) →
        (scanExponent? (text ++ rest)).map (fun r => (some r.1, r.2)) = some (e, rest) := by
    intro text h
    obtain ⟨⟨size, tail⟩, hsize, heq⟩ := Option.map_eq_some_iff.mp h
    simp only [Prod.mk.injEq] at heq
    obtain ⟨rfl, rfl⟩ := heq
    simp [scanExponent?_append hrest hsize]
  cases text with
  | nil =>
      cases h
      cases rest with
      | nil => rfl
      | cons c rest => simp [scanPower?, (hrest c rfl).2.2.1, (hrest c rfl).2.2.2]
  | cons c text =>
      by_cases hlower : c = 'e'
      · subst hlower
        exact hmark h
      · by_cases hupper : c = 'E'
        · subst hupper
          exact hmark h
        · simp [scanPower?, hlower, hupper] at h

/-- A number that is a text of its own is the same number in front of a text that stops it. -/
theorem scan?_append {text : List Char} {n : Option Number} (h : scan? text = some (n, [])) :
    scan? (text ++ rest) = some (n, rest) := by
  have htext : text ≠ [] := by
    rintro rfl
    cases h
  simp only [scan?, scanSign_append htext, span_isDigit_append hrest] at h ⊢
  split at h
  · cases h
  · next hdigits =>
    simp only [Option.bind_eq_bind, Option.bind_eq_some_iff] at h
    obtain ⟨⟨f, tail⟩, hf, ⟨e, end'⟩, he, heq⟩ := h
    cases heq
    rw [if_neg hdigits, scanFraction?_append hrest hf]
    simp [scanPower?_append hrest he]

end

/-- What is read as a number begins with a minus sign or with a digit. -/
theorem scan?_head {text rest : List Char} {n : Option Number} (h : scan? text = some (n, rest)) :
    ∃ c tail, text = c :: tail ∧ (c = '-' ∨ c.isDigit = true) := by
  cases text with
  | nil => cases h
  | cons c tail =>
      refine ⟨c, tail, rfl, ?_⟩
      by_contra hc
      obtain ⟨hminus, hdigit⟩ := not_or.mp hc
      simp [scan?, scanSign, hminus, List.span_eq_takeWhile_dropWhile, hdigit] at h

/-! ## Whole numbers -/

/-- A whole number of a document is one that 64 bits hold, signed or unsigned. -/
def Represented : Number → Prop
  | .int n => -(Nat.pow 2 63 : Int) ≤ n ∧ n < (Nat.pow 2 64 : Int)
  | .real _ => True

theorem represented_of_whole? {negative : Bool} {digits : List Char} {n : Number}
    (h : whole? negative digits = some n) : n.Represented := by
  simp only [whole?] at h
  split at h
  · next hsize =>
    cases h
    simp only [Bool.and_eq_true, decide_eq_true_eq] at hsize
    simp only [Represented]
    omega
  · split at h
    · next hsize =>
      cases h
      simp only [Bool.and_eq_true, decide_eq_true_eq] at hsize
      simp only [Represented]
      omega
    · obtain ⟨x, _, rfl⟩ := Option.map_eq_some_iff.mp h
      trivial

theorem represented_of_scan? {text rest : List Char} {n : Number}
    (h : scan? text = some (some n, rest)) : n.Represented := by
  simp only [scan?] at h
  split at h
  · cases h
  · simp only [Option.bind_eq_bind, Option.bind_eq_some_iff, Option.some.injEq,
      Prod.mk.injEq] at h
    obtain ⟨⟨f, tail⟩, _, ⟨e, end'⟩, _, hvalue, _⟩ := h
    split at hvalue
    · exact represented_of_whole? hvalue
    · obtain ⟨x, _, rfl⟩ := Option.map_eq_some_iff.mp hvalue
      trivial

theorem digitsValue_toDigits (n : Nat) : Text.digitsValue (Nat.toDigits 10 n) = n := by
  have h : Text.digitsValue (Nat.toDigits 10 n) = Nat.ofDigitChars 10 (Nat.toDigits 10 n) 0 := by
    simp only [Text.digitsValue, Nat.ofDigitChars, Nat.mul_comm]
  rw [h]
  simp

theorem isDigit_of_mem_toDigits {n : Nat} : ∀ c ∈ Nat.toDigits 10 n, c.isDigit = true :=
  fun _ hc => Nat.isDigit_of_mem_toDigits (by omega) (by omega) hc

theorem head?_toDigits {n : Nat} (h : 0 < n) : (Nat.toDigits 10 n).head? ≠ some '0' := by
  have hdigit : ∀ d < 10, 0 < d → Nat.digitChar d ≠ '0' := by decide
  induction n using Nat.strongRecOn with
  | ind n ih =>
      by_cases hten : n < 10
      · simpa [Nat.toDigits_of_lt_base hten] using hdigit n hten h
      · have hhead := ih (n / 10) (by omega) (by omega)
        rw [Nat.toDigits_of_base_le (by omega) (by omega)]
        cases hdigits : Nat.toDigits 10 (n / 10) with
        | nil => exact absurd hdigits Nat.toDigits_ne_nil
        | cons c digits => simpa [hdigits] using hhead

/-- The digits of a natural number are read as one number without fraction and exponent. -/
theorem scan?_of_toDigits {text : List Char} {negative : Bool} {n : Nat}
    (h : scanSign text = (negative, Nat.toDigits 10 n)) :
    scan? text = some (whole? negative (Nat.toDigits 10 n), []) := by
  have hspan : (Nat.toDigits 10 n).span Char.isDigit = (Nat.toDigits 10 n, []) := by
    rw [List.span_eq_takeWhile_dropWhile, List.takeWhile_eq_self_iff.mpr isDigit_of_mem_toDigits,
      List.dropWhile_eq_nil_iff.mpr isDigit_of_mem_toDigits]
  -- a leading zero is refused, and only zero itself is written with one
  have hzero : ((Nat.toDigits 10 n).head? == some '0' && (Nat.toDigits 10 n).length > 1) =
      false := by
    rcases Nat.eq_zero_or_pos n with rfl | hn
    · decide
    · simp [head?_toDigits hn]
  simp only [scan?, h, hspan, hzero]
  simp [scanFraction?, scanPower?, Nat.toDigits_ne_nil]

theorem readsBack_int {n : Int} (h : (int n).Represented) : (int n).ReadsBack := by
  simp only [Represented] at h
  rw [ReadsBack, write, writeInt]
  split
  · next hneg =>
    have hsign : scanSign ('-' :: Nat.toDigits 10 n.natAbs) = (true, Nat.toDigits 10 n.natAbs) :=
      rfl
    have hlow : 0 < n.natAbs ∧ n.natAbs ≤ Nat.pow 2 63 := by omega
    have hvalue : -(n.natAbs : Int) = n := by omega
    rw [scan?_of_toDigits hsign]
    simp only [whole?, digitsValue_toDigits, Bool.not_true, Bool.false_and, Bool.false_eq_true,
      if_false, hlow, decide_true, Bool.and_self, if_true, hvalue]
  · next hpos =>
    have hsign : scanSign (Nat.toDigits 10 n.natAbs) = (false, Nat.toDigits 10 n.natAbs) := by
      cases hdigits : Nat.toDigits 10 n.natAbs with
      | nil => rfl
      | cons c digits =>
          have hc : c.isDigit = true :=
            isDigit_of_mem_toDigits c (hdigits ▸ List.mem_cons_self)
          have hminus : c ≠ '-' := by
            rintro rfl
            cases hc
          simp [scanSign, hminus]
    have hhigh : n.natAbs < Nat.pow 2 64 := by omega
    have hvalue : (n.natAbs : Int) = n := by omega
    rw [scan?_of_toDigits hsign]
    simp only [whole?, digitsValue_toDigits, Bool.not_false, Bool.true_and, hhigh, decide_true,
      if_true, hvalue]

end BoardLint.Json.Number
