import BoardLint.Proofs.Json.Lexing
import BoardLint.Proofs.Json.Reading

set_option autoImplicit false

/-! # JSON values through their text

A value that a text can have is read back from its pretty text. The text is followed through every
stage: the lexer finds the tokens of the value, the machine builds its outline from them, and
nothing is lost where the outline is read and repeated keys are merged. -/

namespace BoardLint.Json

/-- Induction over a value, with the hypothesis for every item and for every member. -/
theorem induction {motive : Json → Prop} (null : motive .null) (bool : ∀ b, motive (.bool b))
    (num : ∀ n, motive (.num n)) (str : ∀ s, motive (.str s))
    (arr : ∀ items, (∀ v ∈ items, motive v) → motive (.arr items))
    (obj : ∀ members, (∀ m ∈ members, motive m.2) → motive (.obj members)) :
    ∀ j, motive j
  | .null => null
  | .bool b => bool b
  | .num n => num n
  | .str s => str s
  | .arr items => arr items fun v _ => induction null bool num str arr obj v
  | .obj members => obj members fun m _ => induction null bool num str arr obj m.2
termination_by j => sizeOf j
decreasing_by
  · decreasing_tactic
  · next h =>
    have := List.sizeOf_lt_of_mem h
    obtain ⟨k, v⟩ := m
    simp at this ⊢
    omega

/-! ## Tokens and outlines of a value -/

mutual

/-- The tokens that a value is written with. -/
def tokens : Json → List Token
  | .null => [.null]
  | .bool b => [.bool b]
  | .num n => [.num (some n)]
  | .str s => [.str (some s)]
  | .arr [] => [.openArray, .closeArray]
  | .arr (v :: rest) => .openArray :: tokens v ++ itemTokens rest ++ [.closeArray]
  | .obj [] => [.openObject, .closeObject]
  | .obj ((k, v) :: rest) =>
    .openObject :: .str (some k) :: .colon :: tokens v ++ memberTokens rest ++ [.closeObject]

/-- The tokens of the items after the first. -/
def itemTokens : List Json → List Token
  | [] => []
  | v :: rest => .comma :: tokens v ++ itemTokens rest

/-- The tokens of the members after the first. -/
def memberTokens : List (String × Json) → List Token
  | [] => []
  | (k, v) :: rest => .comma :: .str (some k) :: .colon :: tokens v ++ memberTokens rest

end

mutual

/-- The outline of a value. -/
def outline : Json → Outline
  | .null => .null
  | .bool b => .bool b
  | .num n => .num (some n)
  | .str s => .str (some s)
  | .arr items => .arr (itemOutlines items)
  | .obj members => .obj (memberOutlines members)

/-- The outlines of items. -/
def itemOutlines : List Json → List Outline
  | [] => []
  | v :: rest => outline v :: itemOutlines rest

/-- The outlines of members. -/
def memberOutlines : List (String × Json) → List (Option String × Outline)
  | [] => []
  | (k, v) :: rest => (some k, outline v) :: memberOutlines rest

end

/-! ## The lexer on a pretty text -/

section

open Token (Scans)

/-- The lexer finds the tokens of the value in its pretty text. -/
def Scannable (v : Json) : Prop :=
  ∀ (level : Nat) {rest : List Char} {ts : List Token}, Number.Stops rest → Scans rest ts →
    Scans (v.prettyChars level ++ rest) (v.tokens ++ ts)

theorem stops_newline (level : Nat) (rest : List Char) : Number.Stops (newline level ++ rest) := by
  rintro c ⟨⟩
  decide

theorem scans_prettyItems (level : Nat) {rest : List Char} {ts : List Token} {items : List Json}
    (hrest : Number.Stops rest) (h : Scans rest ts) (hitems : ∀ v ∈ items, v.Scannable) :
    Number.Stops (prettyItems level items ++ rest) ∧
      Scans (prettyItems level items ++ rest) (itemTokens items ++ ts) := by
  induction items with
  | nil => exact ⟨hrest, h⟩
  | cons v items ih =>
      obtain ⟨hstops, hscans⟩ := ih fun w hw => hitems w (.tail _ hw)
      refine ⟨by rintro c ⟨⟩; decide, ?_⟩
      have hv := hitems v (.head _) level hstops hscans
      simpa [prettyItems, itemTokens] using (hv.newline level).single (c := ',') rfl

theorem scans_prettyMembers (level : Nat) {rest : List Char} {ts : List Token} {members : Members}
    (hrest : Number.Stops rest) (h : Scans rest ts) (hmembers : ∀ m ∈ members, m.2.Scannable) :
    Number.Stops (prettyMembers level members ++ rest) ∧
      Scans (prettyMembers level members ++ rest) (memberTokens members ++ ts) := by
  induction members with
  | nil => exact ⟨hrest, h⟩
  | cons m members ih =>
      obtain ⟨hstops, hscans⟩ := ih fun w hw => hmembers w (.tail _ hw)
      refine ⟨by rintro c ⟨⟩; decide, ?_⟩
      have hm := hmembers m (.head _) level hstops hscans
      have hcolon := (hm.gap (c := ' ') (by decide)).single (c := ':') rfl
      simpa [prettyMembers, memberTokens] using
        ((hcolon.string m.1).newline level).single (c := ',') rfl

theorem Fits.scannable {depth : Nat} {j : Json} (h : j.Fits Number.ReadsBack depth) :
    j.Scannable := by
  intro level rest ts hrest hscans
  induction h generalizing level rest ts with
  | null => exact hscans.null
  | @bool _ b =>
      cases b with
      | false => exact hscans.bool false
      | true => exact hscans.bool true
  | num hn => exact hscans.number hn hrest
  | str => exact hscans.string _
  | @arr _ items _ ih =>
      have hclose := hscans.single (c := ']') rfl
      cases items with
      | nil => exact hclose.single (c := '[') rfl
      | cons v items =>
          -- the text is built from its end, so that every part is scanned in front of its rest
          obtain ⟨hstops, hitems⟩ := scans_prettyItems (level + 1) (stops_newline level _)
            (hclose.newline level) fun w hw => ih w (.tail _ hw)
          have hv := ih v (.head _) (level + 1) hstops hitems
          simpa [prettyChars, tokens] using (hv.newline _).single (c := '[') rfl
  | @obj _ members _ _ ih =>
      have hclose := hscans.single (c := '\x7d') rfl
      cases members with
      | nil => exact hclose.single (c := '\x7b') rfl
      | cons m members =>
          obtain ⟨hstops, hmembers⟩ := scans_prettyMembers (level + 1) (stops_newline level _)
            (hclose.newline level) fun w hw => ih w (.tail _ hw)
          have hm := ih m (.head _) (level + 1) hstops hmembers
          have hcolon := (hm.gap (c := ' ') (by decide)).single (c := ':') rfl
          simpa [prettyChars, tokens] using
            ((hcolon.string m.1).newline _).single (c := '\x7b') rfl

end

/-! ## The machine on the tokens -/

namespace Reader

@[simp]
theorem deliver_arr (value : Outline) (done : List Outline) (frames : List Frame) :
    deliver value (.arr done :: frames) = ⟨frames, .afterItem (value :: done)⟩ := rfl

@[simp]
theorem deliver_obj (value : Outline) (done : Members) (key : Option String)
    (frames : List Frame) :
    deliver value (.obj done key :: frames) = ⟨frames, .afterMember ((key, value) :: done)⟩ := rfl

/-- The machine completes the value, where one is expected, as its outline. -/
def Delivers (v : Json) : Prop :=
  ∀ (frames : List Frame) (ts : List Token),
    run ⟨frames, .value⟩ (v.tokens ++ ts) = run (deliver v.outline frames) ts

theorem run_itemTokens {items : List Json} (hitems : ∀ v ∈ items, Delivers v)
    (frames : List Frame) (done : List Outline) (ts : List Token) :
    run ⟨frames, .afterItem done⟩ (itemTokens items ++ .closeArray :: ts) =
      run (deliver (.arr (done.reverse ++ itemOutlines items)) frames) ts := by
  induction items generalizing done with
  | nil => simp [itemTokens, itemOutlines, run, step]
  | cons v items ih =>
      have hv := hitems v (.head _) (.arr done :: frames)
      simp only [itemTokens, List.cons_append, List.append_assoc, run, step, hv, deliver_arr]
      rw [ih fun w hw => hitems w (.tail _ hw)]
      simp [itemOutlines]

theorem run_memberTokens {members : Json.Members} (hmembers : ∀ m ∈ members, Delivers m.2)
    (frames : List Frame) (done : Members) (ts : List Token) :
    run ⟨frames, .afterMember done⟩ (memberTokens members ++ .closeObject :: ts) =
      run (deliver (.obj (done.reverse ++ memberOutlines members)) frames) ts := by
  induction members generalizing done with
  | nil => simp [memberTokens, memberOutlines, run, step]
  | cons m members ih =>
      have hm := hmembers m (.head _) (.obj done (some m.1) :: frames)
      simp only [memberTokens, List.cons_append, List.append_assoc, run, step, hm, deliver_obj]
      rw [ih fun w hw => hmembers w (.tail _ hw)]
      simp [memberOutlines]

/-- After an opening bracket the machine also takes a closing one, which begins no value. -/
theorem run_firstItem (v : Json) (frames : List Frame) (ts : List Token) :
    run ⟨frames, .firstItem⟩ (v.tokens ++ ts) =
      run ⟨.arr [] :: frames, .value⟩ (v.tokens ++ ts) := by
  cases v with
  | null => rfl
  | bool b => rfl
  | num n => rfl
  | str s => rfl
  | arr items => cases items <;> rfl
  | obj members => cases members <;> rfl

theorem delivers (v : Json) : Delivers v := by
  intro frames ts
  induction v using Json.induction generalizing frames ts with
  | null => rfl
  | bool b => rfl
  | num n => rfl
  | str s => rfl
  | arr items ih =>
      cases items with
      | nil => rfl
      | cons v items =>
          simp only [tokens, List.cons_append, List.append_assoc, run, step, beginValue,
            run_firstItem, ih v (.head _), deliver_arr, List.nil_append]
          rw [run_itemTokens fun w hw => ih w (.tail _ hw)]
          simp [outline, itemOutlines]
  | obj members ih =>
      cases members with
      | nil => rfl
      | cons m members =>
          simp only [tokens, List.cons_append, List.append_assoc, run, step, beginValue,
            ih m (.head _), deliver_obj, List.nil_append]
          rw [run_memberTokens fun w hw => ih w (.tail _ hw)]
          simp [outline, memberOutlines]

end Reader

/-! ## The outline of a value -/

theorem items?_itemOutlines {depth : Nat} {item : Shape} {items : List Json}
    (h : ∀ v ∈ items, Outline.value? depth item v.outline = some v) :
    Outline.items? depth [] item (itemOutlines items) = some items := by
  induction items with
  | nil => rfl
  | cons v items ih =>
      simp [itemOutlines, Outline.items?, h v (.head _), ih fun w hw => h w (.tail _ hw)]

theorem members?_memberOutlines {depth : Nat} {fields : List (String × Shape)} {rest : Shape}
    {members : Members}
    (h : ∀ m ∈ members, Outline.value? depth (Shape.named fields rest m.1) m.2.outline =
      some m.2) :
    Outline.members? depth fields rest (memberOutlines members) = some members := by
  induction members with
  | nil => rfl
  | cons m members ih =>
      simp [memberOutlines, Outline.members?, h m (.head _), ih fun w hw => h w (.tail _ hw)]

theorem Fits.value?_outline {P : Number → Prop} {depth : Nat} {j : Json} (h : j.Fits P depth) :
    Outline.value? depth .whole j.outline = some j := by
  induction h with
  | null => rfl
  | bool => rfl
  | num => rfl
  | str => rfl
  | arr _ ih => simp [outline, Outline.value?, items?_itemOutlines ih]
  | @obj depth members _ _ ih =>
      have hmembers : Outline.members? depth [] .whole (memberOutlines members) = some members :=
        members?_memberOutlines ih
      simp [outline, Outline.value?, hmembers]

theorem Outline.parse?_of_tokens {text : String} {j : Json}
    (h : tokens? text.toList = some j.tokens) : Outline.parse? text = some j.outline := by
  have hrun := Reader.delivers j [] []
  simp only [List.append_nil, Reader.deliver, Reader.run] at hrun
  simp [Outline.parse?, h, Outline.ofTokens?, hrun]

/-- A value that fits into a document is read from every text with its tokens. -/
theorem Fits.parse?_of_tokens {P : Number → Prop} {j : Json} (h : j.Fits P Outline.maxDepth)
    {text : String} (htokens : tokens? text.toList = some j.tokens) : parse? text = some j := by
  simp [parse?, Outline.parse?_of_tokens htokens, Outline.read?, h.value?_outline, h.merged]

theorem Fits.tokens?_pretty {depth : Nat} {j : Json} (h : j.Fits Number.ReadsBack depth) :
    tokens? j.pretty.toList = some j.tokens := by
  rw [pretty, String.toList_ofList]
  simpa using (h.scannable 0 (by rintro c ⟨⟩) .nil).tokens?

/-- A value that fits into a document is read back from its pretty text. -/
theorem Fits.parse?_pretty {j : Json} (h : j.Fits Number.ReadsBack Outline.maxDepth) :
    parse? j.pretty = some j :=
  h.parse?_of_tokens h.tokens?_pretty

end BoardLint.Json
