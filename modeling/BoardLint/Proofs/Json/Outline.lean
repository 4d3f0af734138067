import BoardLint.Proofs.Json.RoundTrip

set_option autoImplicit false

/-! # Written values and shapes

A value has the same tokens in both layouts, so both texts have its outline. What a shape asks for
of that outline is the whole value if the shape covers it: where the shape passes something over,
nothing stands in the value. -/

namespace BoardLint.Json

/-! ## The compact text -/

theorem compactItems_cons (v : Json) (rest : List Json) :
    compactItems (v :: rest) = compactChars v ++ rest.flatMap fun w => ',' :: compactChars w := by
  induction rest generalizing v with
  | nil => simp [compactItems]
  | cons w rest ih => rw [compactItems, ih, List.flatMap_cons, List.cons_append]

theorem compactMembers_cons (m : String × Json) (rest : Members) :
    compactMembers (m :: rest) = writeString m.1 ++ ':' :: compactChars m.2 ++
      rest.flatMap fun n => ',' :: writeString n.1 ++ ':' :: compactChars n.2 := by
  induction rest generalizing m with
  | nil => simp [compactMembers]
  | cons n rest ih =>
      rw [compactMembers, ih, List.flatMap_cons]
      simp only [List.append_assoc, List.cons_append]

section

open Token (Scans)

/-- The lexer finds the tokens of the value in its compact text. -/
def CompactScannable (v : Json) : Prop :=
  ∀ {rest : List Char} {ts : List Token}, Number.Stops rest → Scans rest ts →
    Scans (v.compactChars ++ rest) (v.tokens ++ ts)

theorem stops_cons {c : Char} (hc : c.isDigit = false ∧ c ≠ '.' ∧ c ≠ 'e' ∧ c ≠ 'E')
    (rest : List Char) : Number.Stops (c :: rest) := by
  rintro _ ⟨⟩
  exact hc

theorem scans_compactItems {rest : List Char} {ts : List Token} {items : List Json}
    (hrest : Number.Stops rest) (h : Scans rest ts) (hitems : ∀ v ∈ items, v.CompactScannable) :
    Number.Stops ((items.flatMap fun w => ',' :: compactChars w) ++ rest) ∧
      Scans ((items.flatMap fun w => ',' :: compactChars w) ++ rest) (itemTokens items ++ ts) := by
  induction items with
  | nil => exact ⟨hrest, h⟩
  | cons v items ih =>
      obtain ⟨hstops, hscans⟩ := ih fun w hw => hitems w (.tail _ hw)
      have hv := hitems v (.head _) hstops hscans
      rw [List.flatMap_cons, List.append_assoc]
      refine ⟨stops_cons (by decide) _, ?_⟩
      simpa [itemTokens] using hv.single (c := ',') rfl

theorem scans_compactMembers {rest : List Char} {ts : List Token} {members : Members}
    (hrest : Number.Stops rest) (h : Scans rest ts)
    (hmembers : ∀ m ∈ members, m.2.CompactScannable) :
    Number.Stops ((members.flatMap fun m => ',' :: writeString m.1 ++ ':' :: compactChars m.2) ++
      rest) ∧
    Scans ((members.flatMap fun m => ',' :: writeString m.1 ++ ':' :: compactChars m.2) ++ rest)
      (memberTokens members ++ ts) := by
  induction members with
  | nil => exact ⟨hrest, h⟩
  | cons m members ih =>
      obtain ⟨hstops, hscans⟩ := ih fun w hw => hmembers w (.tail _ hw)
      have hm := hmembers m (.head _) hstops hscans
      have hcolon := hm.single (c := ':') rfl
      rw [List.flatMap_cons, List.append_assoc]
      refine ⟨stops_cons (by decide) _, ?_⟩
      simpa [memberTokens] using (hcolon.string m.1).single (c := ',') rfl

theorem Fits.compactScannable {depth : Nat} {j : Json} (h : j.Fits Number.ReadsBack depth) :
    j.CompactScannable := by
  intro rest ts hrest hscans
  induction h generalizing rest ts with
  | null => exact hscans.null
  | @bool _ b =>
      cases b with
      | false => exact hscans.bool false
      | true => exact hscans.bool true
  | num hn => exact hscans.number hn hrest
  | str => exact hscans.string _
  | @arr _ items _ ih =>
      have hclose := hscans.single (c := ']') rfl
      cases items with
      | nil => exact hclose.single (c := '[') rfl
      | cons v items =>
          obtain ⟨hstops, hitems⟩ := scans_compactItems (stops_cons (by decide) _)
            hclose fun w hw => ih w (.tail _ hw)
          have hv := ih v (.head _) hstops hitems
          simpa [compactChars, compactItems_cons, tokens] using hv.single (c := '[') rfl
  | @obj _ members _ _ ih =>
      have hclose := hscans.single (c := '\x7d') rfl
      cases members with
      | nil => exact hclose.single (c := '\x7b') rfl
      | cons m members =>
          obtain ⟨hstops, hmembers⟩ := scans_compactMembers
            (stops_cons (by decide) _) hclose fun w hw => ih w (.tail _ hw)
          have hm := ih m (.head _) hstops hmembers
          have hcolon := hm.single (c := ':') rfl
          simpa [compactChars, compactMembers_cons, tokens] using
            (hcolon.string m.1).single (c := '\x7b') rfl

end

theorem Fits.tokens?_compact {depth : Nat} {j : Json} (h : j.Fits Number.ReadsBack depth) :
    tokens? j.compact.toList = some j.tokens := by
  rw [compact, String.toList_ofList]
  simpa using (h.compactScannable (by rintro c ⟨⟩) .nil).tokens?

end BoardLint.Json

namespace BoardLint

open Json (Outline)

/-! ## Shapes -/

/-- The shape asks for all that stands in the value. -/
inductive Shape.Covers : Shape → Json → Prop
  | null (shape : Shape) : Covers shape .null
  | bool (shape : Shape) (b : Bool) : Covers shape (.bool b)
  | num {shape : Shape} (h : shape ≠ .ignored) (n : Json.Number) : Covers shape (.num n)
  | str {shape : Shape} (h : shape ≠ .ignored) (s : String) : Covers shape (.str s)
  | whole (j : Json) : Covers .whole j
  | list {item : Shape} {items : List Json} (h : ∀ v ∈ items, Covers item v) :
      Covers (.list item) (.arr items)
  | record {fields : List (String × Shape)} {rest : Shape} {members : Json.Members}
      (h : ∀ m ∈ members, Covers (Shape.named fields rest m.1) m.2) :
      Covers (.record fields rest) (.obj members)

namespace Json

/-- All of a value is read by a shape that covers it. -/
theorem Fits.value?_of_covers {P : Number → Prop} {depth : Nat} {j : Json} (hfits : j.Fits P depth)
    {shape : Shape} (h : shape.Covers j) : Outline.value? depth shape j.outline = some j := by
  induction h generalizing depth with
  | null shape => rfl
  | bool shape b => rfl
  | @num shape hshape n => cases shape <;> first | rfl | exact absurd rfl hshape
  | @str shape hshape s => cases shape <;> first | rfl | exact absurd rfl hshape
  | whole j => exact hfits.value?_outline
  | @list item items _ ih =>
      cases hfits with
      | arr hitems =>
          simp [outline, Outline.value?, items?_itemOutlines fun v hv => ih v hv (hitems v hv)]
  | @record fields rest members _ ih =>
      cases hfits with
      | obj _ hmembers =>
          simp [outline, Outline.value?,
            members?_memberOutlines fun m hm => ih m hm (hmembers m hm)]

/-- A value that fits into a document is read from both of its texts by a shape that covers it. -/
theorem Fits.read?_outline {j : Json} (hfits : j.Fits Number.ReadsBack Outline.maxDepth)
    {shape : Shape} (h : shape.Covers j) {text : String} (htext : text ∈ [j.compact, j.pretty]) :
    (Outline.parse? text).bind (Outline.read? shape) = some j := by
  have htokens : tokens? text.toList = some j.tokens := by
    rcases List.mem_cons.mp htext with rfl | htext
    · exact hfits.tokens?_compact
    · rw [List.mem_singleton.mp htext]
      exact hfits.tokens?_pretty
  rw [Outline.parse?_of_tokens htokens]
  exact hfits.value?_of_covers h

end Json

end BoardLint
