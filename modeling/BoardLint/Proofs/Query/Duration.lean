import BoardLint.Proofs.Variable.Form

set_option autoImplicit false

/-! # Canonical texts of durations

The canonical text of a duration is a list of amounts with their units. The digits of an amount end
where the letters of its unit begin and those end at the next digit, so the text tells the list; and
the list adds up to the duration. Hence no two durations have the same text
(`Duration.chars_injective`). -/

namespace BoardLint

/-- Where a stretch of characters of one sort ends, the text is cut in one way only. -/
theorem append_inj_of_stops {p : Char → Bool} {front front' rest rest' : List Char}
    (h : front ++ rest = front' ++ rest') (hfront : ∀ c ∈ front, p c = true)
    (hfront' : ∀ c ∈ front', p c = true) (hrest : ∀ c ∈ rest.head?, p c = false)
    (hrest' : ∀ c ∈ rest'.head?, p c = false) : front = front' ∧ rest = rest' := by
  -- what one stretch would have more than the other begins the rest of the other
  have hmore : ∀ {more front rest rest' : List Char}, rest = more ++ rest' →
      (∀ c ∈ front ++ more, p c = true) → (∀ c ∈ rest.head?, p c = false) → more = [] := by
    intro more front rest rest' hcut hall hstop
    cases more with
    | nil => rfl
    | cons c more =>
        have hc : p c = true := hall c (by simp)
        rw [hstop c (by simp [hcut])] at hc
        exact absurd hc (by simp)
  rcases List.append_eq_append_iff.mp h with ⟨more, rfl, hcut⟩ | ⟨more, rfl, hcut⟩
  · obtain rfl := hmore hcut hfront' hrest
    exact ⟨(List.append_nil _).symm, hcut⟩
  · obtain rfl := hmore hcut hfront hrest'
    exact ⟨List.append_nil _, hcut.symm⟩

namespace Duration

/-! ## Lists of components -/

/-- The text of components, one after another. -/
def written (cs : List (Nat × Scale)) : List Char := cs.flatMap fun c => component c.1 c.2

/-- The milliseconds that components add up to. -/
def total (cs : List (Nat × Scale)) : Nat := cs.foldr (fun c sum => c.1 * c.2.millis + sum) 0

theorem written_cons (c : Nat × Scale) (cs : List (Nat × Scale)) :
    written (c :: cs) = Nat.toDigits 10 c.1 ++ (c.2.mark ++ written cs) :=
  List.append_assoc ..

theorem total_cons (c : Nat × Scale) (cs : List (Nat × Scale)) :
    total (c :: cs) = c.1 * c.2.millis + total cs := rfl

/-- Components down to milliseconds leave nothing over. -/
theorem total_components (millis : Nat) (units : List Scale) :
    total (components millis (units ++ [.milli])) = millis := by
  induction units generalizing millis with
  | nil =>
      simp only [List.nil_append, components, Scale.onlyExact, Scale.millis, Nat.div_one]
      by_cases hzero : millis = 0
      · simp [hzero, total]
      · simp [hzero, total, Scale.millis]
  | cons u rest ih =>
      simp only [List.cons_append, components]
      split
      · exact ih millis
      · split
        · exact ih millis
        · rw [total_cons, ih, Nat.div_add_mod']

/-- The canonical text of a duration is that of components that add up to it. -/
theorem exists_chars_eq_written (d : Duration) :
    ∃ cs, d.chars = written cs ∧ total cs = d.millis := by
  unfold chars
  split
  · next hzero => exact ⟨[(0, .second)], rfl, (beq_iff_eq.mp hzero).symm⟩
  · exact ⟨components d.millis scales, rfl,
      total_components d.millis [.year, .week, .day, .hour, .minute, .second]⟩

theorem isWord_of_mem_chars {d : Duration} {c : Char} (h : c ∈ d.chars) : Text.isWord c = true := by
  obtain ⟨cs, hcs, -⟩ := d.exists_chars_eq_written
  rw [hcs] at h
  obtain ⟨⟨n, u⟩, -, hc⟩ := List.mem_flatMap.mp h
  rcases List.mem_append.mp hc with hc | hc
  · exact isWord_of_mem_toDigits hc
  · cases u <;> simp only [Scale.mark, List.mem_cons, List.not_mem_nil, or_false] at hc
    all_goals rcases hc with rfl | rfl <;> decide

/-! ## Reading the components off a text -/

theorem Scale.mark_injective : Function.Injective Scale.mark := by
  intro u v h
  cases u <;> cases v <;> simp_all [Scale.mark]

theorem Scale.isDigit_of_mem_mark {u : Scale} {c : Char} (h : c ∈ u.mark) : c.isDigit = false := by
  cases u <;> simp only [mark, List.mem_cons, List.not_mem_nil, or_false] at h
  all_goals rcases h with rfl | rfl <;> rfl

/-- A unit follows an amount, and a unit has no digit. -/
theorem isDigit_of_head?_mark {u : Scale} {rest : List Char} {c : Char}
    (h : c ∈ (u.mark ++ rest).head?) : c.isDigit = false := by
  refine Scale.isDigit_of_mem_mark (u := u) (List.mem_of_mem_head? ?_)
  cases u <;> exact h

/-- Components begin with a digit. -/
theorem isDigit_of_head?_written {cs : List (Nat × Scale)} {c : Char}
    (h : c ∈ (written cs).head?) : c.isDigit = true := by
  cases cs with
  | nil => simp [written] at h
  | cons first rest =>
      rw [written_cons, List.head?_append_of_ne_nil _ Nat.toDigits_ne_nil] at h
      exact isDigit_of_mem_toDigits (List.mem_of_mem_head? h)

theorem written_ne_nil (c : Nat × Scale) (cs : List (Nat × Scale)) : written (c :: cs) ≠ [] := by
  rw [written_cons]
  exact List.append_ne_nil_of_left_ne_nil Nat.toDigits_ne_nil _

/-- A text is that of one list of components only. -/
theorem written_injective : Function.Injective written := by
  intro cs cs' h
  induction cs generalizing cs' with
  | nil =>
      cases cs' with
      | nil => rfl
      | cons c' rest' => exact absurd h.symm (written_ne_nil c' rest')
  | cons c rest ih =>
      cases cs' with
      | nil => exact absurd h (written_ne_nil c rest)
      | cons c' rest' =>
          rw [written_cons, written_cons] at h
          obtain ⟨hamount, h⟩ := append_inj_of_stops (p := Char.isDigit) h
            (fun _ => isDigit_of_mem_toDigits) (fun _ => isDigit_of_mem_toDigits)
            (fun _ => isDigit_of_head?_mark) (fun _ => isDigit_of_head?_mark)
          obtain ⟨hunit, h⟩ := append_inj_of_stops (p := fun c => !c.isDigit) h
            (fun _ hc => by rw [Scale.isDigit_of_mem_mark hc, Bool.not_false])
            (fun _ hc => by rw [Scale.isDigit_of_mem_mark hc, Bool.not_false])
            (fun _ hc => by rw [isDigit_of_head?_written hc, Bool.not_true])
            (fun _ hc => by rw [isDigit_of_head?_written hc, Bool.not_true])
          have hfirst : c = c' := Prod.ext (toDigits_injective hamount) (Scale.mark_injective hunit)
          rw [hfirst, ih h]

/-- **The canonical text tells the duration.** -/
theorem chars_injective : Function.Injective chars := by
  intro d d' h
  obtain ⟨cs, hcs, htotal⟩ := d.exists_chars_eq_written
  obtain ⟨cs', hcs', htotal'⟩ := d'.exists_chars_eq_written
  have hsame : cs = cs' := written_injective (hcs.symm.trans (h.trans hcs'))
  have hmillis : d.millis = d'.millis := by rw [← htotal, ← htotal', hsame]
  cases d
  cases d'
  exact congrArg Duration.mk hmillis

end Duration

end BoardLint
