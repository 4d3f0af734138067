import BoardLint.Proofs.Variable.Pieces
import Mathlib.Data.List.TakeWhile

set_option autoImplicit false

/-! # Names in references

A reference is a name between marks: `$name`, `${name}` or `[[name]]`, with a format behind the name
in the last two. Taking the marks off gives the name back (`Variable.bare_of_mem_spellings`), so
the spellings of different names differ. `Variable.token?_cases` lists the tokens that a text is cut
into. -/

namespace BoardLint.Variable

/-! ## Taking off the marks -/

theorem before?_eq_none_of_last {back text : List Char} {c d : Char} (h : c ≠ d) :
    Text.before? (back ++ [c]) (text ++ [d]) = none := by
  rw [Option.eq_none_iff_forall_ne_some]
  intro rest hrest
  have heq := Text.before?_eq_some_iff.mp hrest
  rw [← List.append_assoc] at heq
  have hlast : [d] = [c] := List.append_inj_right' heq rfl
  exact h (List.cons.inj hlast).1.symm

theorem before?_eq_none_of_not_mem {back text : List Char} {c : Char} (hc : c ∈ back)
    (h : c ∉ text) : Text.before? back text = none := by
  rw [Option.eq_none_iff_forall_ne_some]
  intro rest hrest
  rw [Text.before?_eq_some_iff.mp hrest] at h
  exact h (List.mem_append_right _ hc)

theorem bare_braced (inner : List Char) : bare ('$' :: '\x7b' :: (inner ++ ['\x7d'])) = inner := by
  have hbrackets : Text.before? ([']'] ++ [']']) (inner ++ ['\x7d']) = none :=
    before?_eq_none_of_last (by decide)
  have hbrace : Text.before? ['\x7d'] (inner ++ ['\x7d']) = some inner :=
    Text.before?_eq_some_iff.mpr rfl
  simp only [List.singleton_append] at hbrackets
  simp only [bare, hbrackets, hbrace, Option.getD_some]

theorem bare_bracketed (inner : List Char) :
    bare ('[' :: '[' :: (inner ++ [']', ']'])) = inner := by
  have hbrackets : Text.before? [']', ']'] (inner ++ [']', ']']) = some inner :=
    Text.before?_eq_some_iff.mpr rfl
  simp only [bare, hbrackets]

/-- A text without braces and closing brackets is all that follows its dollar. -/
theorem bare_plain {name : List Char} (hopen : '\x7b' ∉ name) (hclose : '\x7d' ∉ name)
    (hbracket : ']' ∉ name) : bare ('$' :: name) = name := by
  have hbrackets : Text.before? [']', ']'] name = none :=
    before?_eq_none_of_not_mem List.mem_cons_self hbracket
  have hbrace : Text.before? ['\x7d'] name = none :=
    before?_eq_none_of_not_mem List.mem_cons_self hclose
  unfold bare
  split
  · next heq => simp at heq
  · next heq =>
      obtain rfl := (List.cons.inj heq).2
      exact absurd List.mem_cons_self hopen
  · next heq =>
      obtain rfl := (List.cons.inj heq).2
      simp only [hbrackets, hbrace, Option.getD_none]
  · next hdollar => exact absurd rfl (hdollar name)

theorem takeWhile_of_not_mem {text : List Char} {c : Char} (h : c ∉ text) :
    text.takeWhile (· != c) = text := by
  refine List.takeWhile_eq_self_iff.mpr fun d hd => ?_
  rw [bne_iff_ne]
  rintro rfl
  exact h hd

theorem takeWhile_append_of_not_mem {text : List Char} {c : Char} (h : c ∉ text)
    (rest : List Char) : (text ++ c :: rest).takeWhile (· != c) = text := by
  rw [List.takeWhile_append_of_pos]
  · simp
  · intro d hd
    rw [bne_iff_ne]
    rintro rfl
    exact h hd

/-- A text without a character is all of its beginning up to that character, and what the character
    begins follows otherwise. -/
theorem eq_takeWhile_or_append (text : List Char) (c : Char) :
    text = text.takeWhile (· != c) ∨ ∃ rest, text = text.takeWhile (· != c) ++ c :: rest := by
  have hsplit : text = text.takeWhile (· != c) ++ text.dropWhile (· != c) :=
    List.takeWhile_append_dropWhile.symm
  cases hrest : text.dropWhile (· != c) with
  | nil =>
      rw [hrest, List.append_nil] at hsplit
      exact Or.inl hsplit
  | cons d rest =>
      have hd : d = c := by
        have := List.head?_dropWhile_not (· != c) text
        rw [hrest] at this
        simpa using this
      rw [hrest, hd] at hsplit
      exact Or.inr ⟨rest, hsplit⟩

/-! ## Names -/

/-- The characters of a name that a reference can have: word characters of ASCII and points. -/
def IsName (name : List Char) : Prop := ∀ c ∈ name, Text.isAsciiWord c = true ∨ c = '.'

theorem IsName.not_mem {name : List Char} (h : IsName name) {c : Char}
    (hword : Text.isAsciiWord c = false) (hpoint : c ≠ '.') : c ∉ name := by
  intro hc
  rcases h c hc with hc | hc
  · rw [hword] at hc
    exact Bool.false_ne_true hc
  · exact hpoint hc

section Spellings

variable {name : String} {v : String}

theorem mem_spellings_iff : v ∈ spellings name ↔ v.toList = '$' :: name.toList ∨
    v.toList = '$' :: '\x7b' :: (name.toList ++ ['\x7d']) ∨
    v.toList = '[' :: '[' :: (name.toList ++ [']', ']']) := by
  simp only [spellings, List.mem_cons, List.not_mem_nil, or_false, ← String.toList_inj,
    String.toList_append]
  rfl

/-- A spelling without its marks is the name. -/
theorem bare_of_mem_spellings (hname : IsName name.toList) (h : v ∈ spellings name) :
    bare v.toList = name.toList := by
  rcases mem_spellings_iff.mp h with h | h | h
  · have hmarks : ∀ c ∈ ['\x7b', '\x7d', ']'], c ∉ name.toList := by
      intro c hc
      simp only [List.mem_cons, List.not_mem_nil, or_false] at hc
      rcases hc with rfl | rfl | rfl <;> exact hname.not_mem (by decide) (by decide)
    rw [h, bare_plain (hmarks _ (by simp)) (hmarks _ (by simp)) (hmarks _ (by simp))]
  · rw [h, bare_braced]
  · rw [h, bare_bracketed]

/-- Different names have no spelling in common. -/
theorem eq_of_mem_spellings {name' : String} (hname : IsName name.toList)
    (hname' : IsName name'.toList) (h : v ∈ spellings name) (h' : v ∈ spellings name') :
    name = name' := by
  rw [← String.toList_inj, ← bare_of_mem_spellings hname h, bare_of_mem_spellings hname' h']

end Spellings

/-! ## Tokens -/

theorem span_eq_iff {p : Char → Bool} {text front rest : List Char}
    (h : text.span p = (front, rest)) :
    (∀ c ∈ front, p c = true) ∧ ∀ c ∈ rest.head?, p c = false := by
  rw [List.span_eq_takeWhile_dropWhile] at h
  obtain ⟨rfl, rfl⟩ := Prod.mk.inj h
  refine ⟨fun c hc => List.mem_takeWhile_imp hc, fun c hc => ?_⟩
  have := List.head?_dropWhile_not p text
  rw [Option.mem_def.mp hc] at this
  simpa using this

/-- The tokens: a dollar and all word characters that follow it, a text between braces behind a
    dollar, and a text between double brackets. -/
theorem token?_cases {text token rest : List Char} (h : token? text = some (token, rest)) :
    (∃ word, token = '$' :: word ∧ word ≠ [] ∧ (∀ c ∈ word, Text.isWord c = true) ∧
      ∀ c ∈ rest.head?, Text.isWord c = false) ∨
    (∃ inner, token = '$' :: '\x7b' :: (inner ++ ['\x7d']) ∧ '\x7d' ∉ inner) ∨
    ∃ inner, token = '[' :: '[' :: (inner ++ [']', ']']) := by
  unfold token? at h
  split at h
  · unfold afterDollar? at h
    split at h
    · split at h
      · next inner _ =>
          split at h
          · simp at h
          · simp at h
          · next name close tail _ hspan =>
              simp only [Option.some.injEq, Prod.mk.injEq] at h
              obtain ⟨rfl, rfl⟩ := h
              obtain ⟨hname, hclose⟩ := span_eq_iff hspan
              have hclose : close = '\x7d' := by simpa using hclose close rfl
              refine Or.inr (Or.inl ⟨name, by rw [hclose]; rfl, fun hmem => ?_⟩)
              simpa using hname _ hmem
      · simp at h
    · next word tail hne hspan =>
        simp only [Option.some.injEq, Prod.mk.injEq] at h
        obtain ⟨rfl, rfl⟩ := h
        obtain ⟨hword, hrest⟩ := span_eq_iff hspan
        exact Or.inl ⟨word, rfl, hne, hword, hrest⟩
  · unfold afterBrackets? at h
    split at h
    · simp at h
    · next name tail _ _ =>
        simp only [Option.some.injEq, Prod.mk.injEq] at h
        obtain ⟨rfl, rfl⟩ := h
        exact Or.inr (Or.inr ⟨name, rfl⟩)
    · simp at h
  · simp at h

/-- A token among the pieces of a text stands in the text, and is cut off there. -/
theorem exists_token?_of_mem_piecesOf {fuel : Nat} {text token : List Char}
    (h : .token token ∈ piecesOf fuel text) : ∃ front rest, text = front ++ (token ++ rest) ∧
      token? (token ++ rest) = some (token, rest) := by
  induction fuel generalizing text with
  | zero => exact absurd h List.not_mem_nil
  | succ fuel ih =>
      cases text with
      | nil => exact absurd h List.not_mem_nil
      | cons c text =>
          cases hfound : token? (c :: text) with
          | none =>
              simp only [piecesOf, hfound, List.mem_cons, reduceCtorEq, false_or] at h
              obtain ⟨front, rest, rfl, htoken⟩ := ih h
              exact ⟨c :: front, rest, rfl, htoken⟩
          | some found =>
              obtain ⟨first, tail⟩ := found
              obtain ⟨-, heq⟩ := token?_eq_some hfound
              simp only [piecesOf, hfound, List.mem_cons, Piece.token.injEq] at h
              rcases h with rfl | h
              · exact ⟨[], tail, heq, heq ▸ hfound⟩
              · obtain ⟨front, rest, rfl, htoken⟩ := ih h
                exact ⟨first ++ front, rest, by rw [heq, List.append_assoc], htoken⟩

end BoardLint.Variable
