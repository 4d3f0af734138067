import BoardLint.Proofs.Variable.Stability

set_option autoImplicit false

/-! # Placeholders as tokens of a query

A placeholder is to be a token of the kind of its variable: a whole number, a number with three
places, or an identifier. The numbers always are. A word is an identifier only if the name that it
was made from has no word character beyond ASCII, since `Placeholder.sanitize` keeps the word
characters of every script (`Table.run?_admits_iff`). -/

namespace BoardLint

/-- The texts of the query language for a kind of variable: the digits of a number of seconds,
    digits with a point and three places for a point in time, and an identifier for a text. -/
def ValueKind.Admits : ValueKind → List Char → Prop
  | .timeRange, chars => chars ≠ [] ∧ ∀ c ∈ chars, c.isDigit = true
  | .epoch, chars => ∃ whole places, chars = whole ++ '.' :: places ∧ whole ≠ [] ∧
    places.length = 3 ∧ ∀ c ∈ whole ++ places, c.isDigit = true
  | .text, chars => ∃ c rest, chars = c :: rest ∧ Query.isAlpha c = true ∧
    ∀ d ∈ rest, Text.isAsciiWord d = true

/-! ## Words of ASCII -/

/-- The letters of ASCII by their codes. -/
theorem isAlpha_iff_toNat {c : Char} : c.isAlpha = true ↔
    (65 ≤ c.toNat ∧ c.toNat ≤ 90) ∨ (97 ≤ c.toNat ∧ c.toNat ≤ 122) := by
  have hupper : c.isUpper = true ↔ 65 ≤ c.toNat ∧ c.toNat ≤ 90 :=
    decide_eq_true_iff.trans (and_congr UInt32.le_iff_toNat_le UInt32.le_iff_toNat_le)
  have hlower : c.isLower = true ↔ 97 ≤ c.toNat ∧ c.toNat ≤ 122 :=
    (Bool.and_eq_true_iff ..).trans (and_congr
      (decide_eq_true_iff.trans UInt32.le_iff_toNat_le)
      (decide_eq_true_iff.trans UInt32.le_iff_toNat_le))
  exact (Bool.or_eq_true_iff ..).trans (or_congr hupper hlower)

theorem toNat_lt_of_isAlphanum {c : Char} (h : c.isAlphanum = true) : c.toNat < 128 := by
  rcases (Bool.or_eq_true_iff ..).mp h with hletter | hdigit
  · have := isAlpha_iff_toNat.mp hletter
    omega
  · have := isDigit_iff_toNat.mp hdigit
    omega

/-- The word characters of ASCII. -/
theorem isAsciiWord_iff {c : Char} :
    Text.isAsciiWord c = true ↔ Text.isWord c = true ∧ c.toNat < 128 := by
  constructor
  · intro h
    have hlt : c.toNat < 128 := by
      simp only [Text.isAsciiWord, Bool.or_eq_true, beq_iff_eq] at h
      rcases h with h | rfl
      · exact toNat_lt_of_isAlphanum h
      · decide
    refine ⟨?_, hlt⟩
    rw [Text.isWord, if_pos hlt]
    exact h
  · rintro ⟨hword, hlt⟩
    rw [Text.isWord, if_pos hlt] at hword
    exact hword

namespace Placeholder

/-- Sanitizing keeps the word characters of a name, so they all have to be of ASCII. -/
theorem sanitize_ascii_iff {name : List Char} :
    (∀ c ∈ sanitize name, Text.isAsciiWord c = true) ↔
      ∀ c ∈ name, Text.isWord c = true → c.toNat < 128 := by
  simp only [sanitize, List.forall_mem_map]
  refine forall_congr' fun c => forall_congr' fun _ => ?_
  by_cases hword : Text.isWord c = true
  · rw [if_pos hword, isAsciiWord_iff]
    simp [hword]
  · rw [if_neg hword]
    exact iff_of_true (by decide) (fun h => absurd h hword)

/-- A word is an identifier exactly if its name is of ASCII. -/
theorem admits_word_iff {name : List Char} {counter : Nat} :
    ValueKind.text.Admits (word name counter).chars ↔
      ∀ c ∈ name, Text.isAsciiWord c = true := by
  have hseed : ∀ c ∈ seed, Text.isAsciiWord c = true := List.all_eq_true.mp (by decide)
  constructor
  · rintro ⟨c, rest, heq, -, hrest⟩ d hd
    -- the name stands behind the first character
    have htail : rest = seed.tail ++ name ++ '_' :: Nat.toDigits 10 counter :=
      (List.cons.inj heq).2.symm
    exact hrest d (by simp [htail, hd])
  · intro hname
    refine ⟨'b', seed.tail ++ name ++ '_' :: Nat.toDigits 10 counter, rfl, by decide, ?_⟩
    intro d hd
    simp only [List.append_assoc, List.mem_append, List.mem_cons] at hd
    rcases hd with hd | hd | rfl | hd
    · exact hseed d (List.mem_of_mem_tail hd)
    · exact hname d hd
    · decide
    · have hdigit := isDigit_of_mem_toDigits hd
      simp [Text.isAsciiWord, Char.isAlphanum, hdigit]

/-- A candidate is a token of its kind, except for a word that is made from a name with a word
    character beyond ASCII. -/
theorem admits_candidate_iff (reference : List Char) (kind : ValueKind) (counter : Nat) :
    kind.Admits (candidate reference kind counter).chars ↔
      (kind = .text → ∀ c ∈ Variable.bare reference, Text.isWord c = true → c.toNat < 128) := by
  cases kind with
  | timeRange =>
      refine iff_of_true ⟨Nat.toDigits_ne_nil, fun c hc => isDigit_of_mem_toDigits hc⟩ ?_
      exact fun h => absurd h (by simp)
  | epoch =>
      refine iff_of_true ?_ fun h => absurd h (by simp)
      refine ⟨_, ['0', '0', '0'], rfl, Nat.toDigits_ne_nil, rfl, fun c hc => ?_⟩
      rcases List.mem_append.mp hc with hc | hc
      · exact isDigit_of_mem_toDigits hc
      · exact List.all_eq_true.mp (by decide : ['0', '0', '0'].all Char.isDigit = true) c hc
  | text =>
      rw [candidate, admits_word_iff, sanitize_ascii_iff]
      simp

end Placeholder

namespace Table

variable {t : Table}

/-- **Placeholders are tokens of their kinds, unless a name goes beyond ASCII.** In every table of a
    run, the text of an entry is a number of its kind, or an identifier exactly if the name it was
    made from has no word character beyond ASCII. In any case a word begins with a letter and has
    word characters only. -/
theorem run?_admits_iff {calls : List Call} (h : initial.run? calls = some t) {e : Entry}
    (he : e ∈ t.entries) :
    (e.placeholder.kind.Admits e.placeholder.chars ↔
      (e.placeholder.kind = .text →
        ∀ c ∈ Variable.bare e.reference, Text.isWord c = true → c.toNat < 128)) ∧
    (e.placeholder.kind = .text →
      (∃ c ∈ e.placeholder.chars.head?, c.isAlpha = true) ∧
      ∀ c ∈ e.placeholder.chars, Text.isWord c = true) := by
  have ht := run?_consistent h
  have hproper := ht.proper he
  obtain ⟨reference, p⟩ := e
  obtain ⟨kind, counter, -, hp⟩ := ht.minted _ he
  dsimp only at hp hproper ⊢
  subst hp
  rw [Placeholder.kind_candidate]
  refine ⟨Placeholder.admits_candidate_iff reference kind counter, ?_⟩
  rintro rfl
  exact ⟨⟨'b', rfl, by decide⟩, fun c hc => Placeholder.isWord_of_mem_word hproper hc⟩

/-- A text that is one reference to no variable of the server. -/
theorem exists_run?_reference (token : List Char)
    (hpieces : Variable.pieces token = [.token token]) (hkind : kindOfToken token = .ok .text)
    (hfresh : String.ofList token ∉ globals.flatMap fun g => Variable.spellings g.1) :
    ∃ t n, initial.run? [.substitute token] = some t ∧
      ⟨token, Placeholder.candidate token .text n⟩ ∈ t.entries := by
  obtain ⟨p, t, ha, hroom⟩ := initial_spec.2.assign? token .text
  obtain ⟨n, rfl⟩ := candidate_of_assign? (initial_placeholder?_eq_none hfresh) ha
  have hp := initial_consistent.placeholder?_of_assign? ha
  have hsub : ∃ out, initial.substitute token = (t, .ok out) := by
    have hok : initial.ofToken token = .ok (_, t) := ofToken_eq_ok.mpr ⟨.text, hkind, ha⟩
    simp only [substitute, hpieces, substituteFrom, hok]
    exact ⟨_, rfl⟩
  obtain ⟨out, hsub⟩ := hsub
  refine ⟨t, n, ?_, hroom.consistent.placeholder?_eq_some_iff.mp hp⟩
  rw [run?_singleton, call?, hsub]

/-- A name of ASCII with a point in it is made an identifier. -/
theorem run?_admits_iff_point :
    ∃ t e, initial.run? [.substitute "$\x7bnode.name\x7d".toList] = some t ∧ e ∈ t.entries ∧
      e.reference = "$\x7bnode.name\x7d".toList ∧
      e.placeholder.kind.Admits e.placeholder.chars := by
  obtain ⟨t, n, hrun, he⟩ := exists_run?_reference "$\x7bnode.name\x7d".toList
    (by decide +kernel) (by rfl) (by decide +kernel)
  have hascii : (Variable.bare "$\x7bnode.name\x7d".toList).all (·.toNat < 128) = true := by
    decide +kernel
  refine ⟨t, _, hrun, he, rfl, (run?_admits_iff hrun he).1.mpr fun _ c hc _ => ?_⟩
  simpa using List.all_eq_true.mp hascii c hc

/-- The word for `$é` is no identifier. -/
theorem run?_word_beyond_ascii :
    ∃ t e, initial.run? [.substitute "$é".toList] = some t ∧ e ∈ t.entries ∧
      e.reference = "$é".toList ∧ e.placeholder.kind = .text ∧
      ¬ e.placeholder.kind.Admits e.placeholder.chars := by
  obtain ⟨t, n, hrun, he⟩ := exists_run?_reference "$é".toList
    (by decide +kernel) (by rfl) (by decide +kernel)
  refine ⟨t, _, hrun, he, rfl, rfl, ?_⟩
  rw [Placeholder.kind_candidate, Placeholder.admits_candidate_iff]
  intro h
  exact absurd (h rfl 'é' (by decide +kernel) (by decide +kernel)) (by decide)

end Table

end BoardLint
