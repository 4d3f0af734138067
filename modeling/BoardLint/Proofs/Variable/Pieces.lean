import BoardLint.Variable.Reference
import Mathlib.Data.List.TakeDrop

set_option autoImplicit false

/-! # Pieces of a text

Cutting a text into references and single characters loses nothing: the pieces put together are the
text (`Variable.flatMap_chars_pieces`). -/

namespace BoardLint

theorem Text.after?_eq_some_iff {front text rest : List Char} :
    Text.after? front text = some rest ↔ text = front ++ rest := by
  induction front generalizing text with
  | nil => simp [Text.after?]
  | cons a front ih =>
      cases text with
      | nil => simp [Text.after?]
      | cons c text =>
          simp only [Text.after?, beq_iff_eq, List.cons_append, List.cons.injEq]
          split
          · next h => rw [ih, h]; simp
          · next h => simp [Ne.symm h]

theorem Text.before?_eq_some_iff {back text rest : List Char} :
    Text.before? back text = some rest ↔ text = rest ++ back := by
  rw [Text.before?, Option.map_eq_some_iff]
  simp only [Text.after?_eq_some_iff]
  constructor
  · rintro ⟨front, hfront, rfl⟩
    rw [← List.reverse_reverse text, hfront, List.reverse_append, List.reverse_reverse]
  · rintro rfl
    exact ⟨rest.reverse, List.reverse_append, List.reverse_reverse rest⟩

namespace Variable

theorem eq_append_of_span {p : Char → Bool} {text front rest : List Char}
    (h : text.span p = (front, rest)) : text = front ++ rest := by
  rw [List.span_eq_takeWhile_dropWhile] at h
  obtain ⟨rfl, rfl⟩ := Prod.mk.inj h
  exact List.takeWhile_append_dropWhile.symm

theorem afterDollar?_eq_some {text token rest : List Char}
    (h : afterDollar? text = some (token, rest)) :
    ∃ tail, token = '$' :: tail ∧ text = tail ++ rest := by
  unfold afterDollar? at h
  split at h
  · -- no word: the name stands between braces
    split at h
    · next inner _ =>
        split at h
        · simp at h
        · simp at h
        · next name close tail hspan =>
            simp only [Option.some.injEq, Prod.mk.injEq] at h
            obtain ⟨rfl, rfl⟩ := h
            exact ⟨_, rfl, by simp [eq_append_of_span hspan]⟩
    · simp at h
  · next word tail _ hspan =>
      simp only [Option.some.injEq, Prod.mk.injEq] at h
      obtain ⟨rfl, rfl⟩ := h
      exact ⟨word, rfl, eq_append_of_span hspan⟩

theorem afterBrackets?_eq_some {text token rest : List Char}
    (h : afterBrackets? text = some (token, rest)) :
    ∃ tail, token = '[' :: '[' :: tail ∧ text = tail ++ rest := by
  unfold afterBrackets? at h
  split at h
  · simp at h
  · next name tail _ hspan =>
      simp only [Option.some.injEq, Prod.mk.injEq] at h
      obtain ⟨rfl, rfl⟩ := h
      exact ⟨_, rfl, by simp [eq_append_of_span hspan]⟩
  · simp at h

/-- A reference at the beginning of a text is not empty, and the rest follows it. -/
theorem token?_eq_some {text token rest : List Char} (h : token? text = some (token, rest)) :
    token ≠ [] ∧ text = token ++ rest := by
  unfold token? at h
  split at h
  · obtain ⟨tail, rfl, rfl⟩ := afterDollar?_eq_some h
    simp
  · obtain ⟨tail, rfl, rfl⟩ := afterBrackets?_eq_some h
    simp
  · simp at h

theorem flatMap_chars_piecesOf {fuel : Nat} {text : List Char} (h : text.length ≤ fuel) :
    (piecesOf fuel text).flatMap Piece.chars = text := by
  induction fuel generalizing text with
  | zero =>
      obtain rfl := List.eq_nil_of_length_eq_zero (Nat.le_zero.mp h)
      rfl
  | succ fuel ih =>
      cases text with
      | nil => rfl
      | cons c text =>
          simp only [List.length_cons] at h
          cases htok : token? (c :: text) with
          | none =>
              simp only [piecesOf, htok, List.flatMap_cons, Piece.chars]
              rw [ih (by omega), List.singleton_append]
          | some found =>
              obtain ⟨token, rest⟩ := found
              obtain ⟨hne, heq⟩ := token?_eq_some htok
              have hlen := congrArg List.length heq
              have hpos := List.length_pos_iff.mpr hne
              simp only [List.length_cons, List.length_append] at hlen
              simp only [piecesOf, htok, List.flatMap_cons, Piece.chars]
              rw [ih (by omega), ← heq]

/-- **The pieces of a text are the text.** -/
theorem flatMap_chars_pieces (text : List Char) : (pieces text).flatMap Piece.chars = text :=
  flatMap_chars_piecesOf (Nat.le_refl _)

end Variable

end BoardLint
