import BoardLint.Json.Printer
import BoardLint.Proofs.Json.Number

set_option autoImplicit false

/-! # Lexing written JSON

What the lexer finds at the beginning of a text that the printer wrote. A string is read back as it
was, whatever follows its closing quote, and so are the words; a number is where the text does not
go on with it. -/

namespace BoardLint.Json

/-! ## Strings -/

namespace Token

/-- The piece that a written character is read as: a control without an escape of its own is
    written by its number. -/
def pieceOf (c : Char) : Piece :=
  if c.toNat < 32 && !(['\x08', '\x0c', '\n', '\r', '\t'].contains c) then .unit c.toNat
  else .char c

/-- The three ways to write a character: by a letter after a backslash, by its number, and as it
    is. -/
theorem escape_cases (c : Char) :
    (∃ letter, escape c = ['\\', letter] ∧ escaped? letter = some c ∧ pieceOf c = .char c) ∨
    (c.toNat < 32 ∧ pieceOf c = .unit c.toNat ∧ escape c =
      ['\\', 'u', '0', '0', Nat.digitChar (c.toNat / 16), Nat.digitChar (c.toNat % 16)]) ∨
    (32 ≤ c.toNat ∧ c ≠ '"' ∧ c ≠ '\\' ∧ pieceOf c = .char c ∧ escape c = [c]) := by
  by_cases hletter : c ∈ ['"', '\\', '\x08', '\x0c', '\n', '\r', '\t']
  · left
    simp only [List.mem_cons, List.not_mem_nil, or_false] at hletter
    rcases hletter with rfl | rfl | rfl | rfl | rfl | rfl | rfl <;>
      exact ⟨_, rfl, by decide, by decide⟩
  · right
    simp only [List.mem_cons, List.not_mem_nil, or_false, not_or] at hletter
    by_cases hcontrol : c.toNat < 32
    · left
      simp [escape, pieceOf, hletter, hcontrol]
    · right
      simp [escape, pieceOf, hletter, hcontrol, Nat.not_lt.mp hcontrol]

theorem unit?_control {n : Nat} (h : n < 32) :
    unit? '0' '0' (Nat.digitChar (n / 16)) (Nat.digitChar (n % 16)) = some n := by
  revert n
  decide

theorem pieces?_escape (done : List Piece) (c : Char) (rest : List Char) :
    pieces? done (escape c ++ rest) = pieces? (pieceOf c :: done) rest := by
  rcases escape_cases c with ⟨letter, hesc, hletter, hpiece⟩ | ⟨hcontrol, hpiece, hesc⟩ |
    ⟨hplain, hquote, hslash, hpiece, hesc⟩
  · have hu : letter ≠ 'u' := by
      rintro rfl
      cases hletter
    simp [hesc, hpiece, pieces?, hu, hletter]
  · simp [hesc, hpiece, pieces?, unit?_control hcontrol]
  · simp [hesc, hpiece, pieces?, hquote, hslash, Nat.not_lt.mpr hplain]

theorem pieces?_flatMap_escape (rest : List Char) (cs : List Char) (done : List Piece) :
    pieces? done (cs.flatMap escape ++ '"' :: rest) =
      some (done.reverse ++ cs.map pieceOf, rest) := by
  induction cs generalizing done with
  | nil => simp [pieces?]
  | cons c cs ih =>
      rw [List.flatMap_cons, List.append_assoc, pieces?_escape, ih]
      simp

theorem joined?_pieceOf (done : List Char) (c : Char) (rest : List Piece) :
    joined? done (pieceOf c :: rest) = joined? (c :: done) rest := by
  by_cases hpiece : pieceOf c = .char c
  · rw [hpiece, joined?]
  · obtain ⟨hcontrol, hunit⟩ : c.toNat < 32 ∧ pieceOf c = .unit c.toNat := by
      rcases escape_cases c with ⟨_, _, _, h⟩ | ⟨hcontrol, h, _⟩ | ⟨_, _, _, h, _⟩
      · exact absurd h hpiece
      · exact ⟨hcontrol, h⟩
      · exact absurd h hpiece
    rw [hunit]
    -- a control is no half of a pair, whatever follows it
    have hlow : ¬ 0xD800 ≤ c.toNat := by omega
    have hhigh : ¬ 0xDC00 ≤ c.toNat := by omega
    cases rest with
    | nil => simp [joined?, hlow, Char.ofNat_toNat]
    | cons piece rest =>
        cases piece <;> simp [joined?, hlow, hhigh, Char.ofNat_toNat]

theorem joined?_map_pieceOf (cs done : List Char) :
    joined? done (cs.map pieceOf) = some (done.reverse ++ cs) := by
  induction cs generalizing done with
  | nil => simp [joined?]
  | cons c cs ih =>
      rw [List.map_cons, joined?_pieceOf, ih]
      simp

/-- A written string is read back, whatever follows it. -/
theorem scanString?_flatMap_escape (s : String) (rest : List Char) :
    scanString? (s.toList.flatMap escape ++ '"' :: rest) = some (some s, rest) := by
  simp [scanString?, pieces?_flatMap_escape, joined?_map_pieceOf]

/-! ## Tokens -/

/-- The tokens of a text, found one after the other, with blanks between them. -/
inductive Scans : List Char → List Token → Prop
  | nil : Scans [] []
  | gap {c : Char} {rest : List Char} {tokens : List Token} (hc : isGap c = true)
      (h : Scans rest tokens) : Scans (c :: rest) tokens
  | token {c : Char} {text rest : List Char} {token : Token} {tokens : List Token}
      (hc : isGap c = false) (hone : scanOne? c text = some (token, rest))
      (hlength : rest.length ≤ text.length) (h : Scans rest tokens) :
      Scans (c :: text) (token :: tokens)

theorem Scans.scan? {text : List Char} {tokens : List Token} (h : Scans text tokens) {fuel : Nat}
    (hfuel : text.length ≤ fuel) (done : List Token) :
    Token.scan? fuel done text = some (done.reverse ++ tokens) := by
  induction h generalizing fuel done with
  | nil => simp [Token.scan?]
  | gap hc _ ih =>
      obtain ⟨fuel, rfl⟩ : ∃ k, fuel = k + 1 := ⟨fuel - 1, by simp at hfuel; omega⟩
      simp only [List.length_cons, Nat.add_le_add_iff_right] at hfuel
      simp [Token.scan?, hc, ih hfuel]
  | token hc hone hlength _ ih =>
      obtain ⟨fuel, rfl⟩ : ∃ k, fuel = k + 1 := ⟨fuel - 1, by simp at hfuel; omega⟩
      simp only [List.length_cons, Nat.add_le_add_iff_right] at hfuel
      simp [Token.scan?, hc, hone, ih (Nat.le_trans hlength hfuel)]

theorem Scans.tokens? {text : List Char} {tokens : List Token} (h : Scans text tokens) :
    Json.tokens? text = some tokens :=
  h.scan? (Nat.le_refl _) []

section

variable {rest : List Char} {tokens : List Token} (h : Scans rest tokens)
include h

theorem Scans.newline (level : Nat) : Scans (newline level ++ rest) tokens := by
  refine .gap (by decide) ?_
  generalize 2 * level = width
  induction width with
  | zero => exact h
  | succ width ih => exact .gap (by decide) ih

/-- A character that is a token of its own. -/
theorem Scans.single {c : Char} {token : Token} (hc : single? c = some token) :
    Scans (c :: rest) (token :: tokens) := by
  refine .token ?_ (by simp [scanOne?, hc]) (Nat.le_refl _) h
  cases hgap : isGap c with
  | false => rfl
  | true =>
      simp only [isGap, Bool.or_eq_true, beq_iff_eq] at hgap
      rcases hgap with ((rfl | rfl) | rfl) | rfl <;> cases hc

theorem Scans.string (s : String) :
    Scans (writeString s ++ rest) (.str (some s) :: tokens) := by
  rw [writeString, List.cons_append, List.cons_append, List.append_assoc]
  refine .token (by decide) ?_ ?_ h
  · simp [scanOne?, show single? '"' = none by decide, scanString?_flatMap_escape]
  · simp only [List.length_append, List.length_cons]
    omega

theorem Scans.null : Scans ("null".toList ++ rest) (.null :: tokens) := by
  refine .token (by decide) (by rfl) ?_ h
  exact Nat.le_add_right _ 3

theorem Scans.bool (b : Bool) :
    Scans ((if b then "true".toList else "false".toList) ++ rest) (.bool b :: tokens) := by
  cases b with
  | false =>
      refine .token (by decide) (by rfl) ?_ h
      exact Nat.le_add_right _ 4
  | true =>
      refine .token (by decide) (by rfl) ?_ h
      exact Nat.le_add_right _ 3

theorem Scans.number {n : Number} (hn : n.ReadsBack) (hrest : Number.Stops rest) :
    Scans (n.write ++ rest) (.num (some n) :: tokens) := by
  obtain ⟨c, tail, htext, hc⟩ := Number.scan?_head hn
  have hscan := Number.scan?_append hrest hn
  rw [htext, List.cons_append] at hscan ⊢
  have hne : ∀ d : Char, d.isDigit = false → d ≠ '-' → c ≠ d := by
    rintro d hdigit hminus rfl
    rcases hc with hc | hc
    · exact hminus hc
    · simp [hdigit] at hc
  have hgap : isGap c = false := by simp [isGap, hne]
  have hsingle : single? c = none := by simp [single?, hne]
  refine .token hgap ?_ ?_ h
  · simp [scanOne?, hsingle, hne, hc, hscan]
  · simp

end

end Token

end BoardLint.Json
