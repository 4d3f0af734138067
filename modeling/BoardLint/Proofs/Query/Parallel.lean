import BoardLint.Proofs.Query.Choices
import BoardLint.Proofs.Query.Respelling
import BoardLint.Query.Parser

set_option autoImplicit false

/-! # Reading queries in other spellings

Two texts of one query (`Query.Respelled`) that can both be read choose the same series, each with
the values that stand in its strings (`Query.Respelled.alike`). The parser takes the same steps on
both: none of them depends on a quantity or on a string, but for the values of matchers. -/

namespace BoardLint.Query

variable {f : List Char → List Char} {t t' : Token} {ts ts' : List Token}

/-! ## Tokens that are alike -/

namespace Token.Alike

theorem eq (h : t.Alike f t') (hquantity : t.isQuantity = false) (htext : t.isText = false) :
    t' = t := by
  cases h with
  | same => rfl
  | quantity h => exact absurd (hquantity.symm.trans h) (by simp)
  | text s => cases htext

theorem eq' (h : t.Alike f t') (hquantity : t'.isQuantity = false) (htext : t'.isText = false) :
    t = t' := by
  cases h with
  | same => rfl
  | quantity _ h' => exact absurd (hquantity.symm.trans h') (by simp)
  | text s => cases htext

/-- What is no property of quantities and strings is the same for both. -/
theorem congr {α : Type} {g : Token → Option α} (h : t.Alike f t')
    (hduration : ∀ d, g (.duration d) = none) (hnumber : ∀ x, g (.number x) = none)
    (htext : ∀ s, g (.text s) = none) : g t' = g t := by
  have hquantity : ∀ {t : Token}, t.isQuantity = true → g t = none := by
    intro t ht
    obtain ⟨d, rfl⟩ | ⟨x, rfl⟩ := cases_of_isQuantity ht
    · exact hduration d
    · exact hnumber x
  cases h with
  | same => rfl
  | quantity h h' => rw [hquantity h, hquantity h']
  | text s => rw [htext, htext]

/-- In the place of a length of time stands another one or a number. -/
theorem duration {d : Duration} (h : (Token.duration d).Alike f t) :
    (∃ d', t = .duration d') ∨ ∃ x, t = .number x := by
  cases h with
  | same hquantity => cases hquantity
  | quantity _ h => exact cases_of_isQuantity h

theorem number {x : Binary64} (h : (Token.number x).Alike f t) :
    (∃ x', t = .number x') ∨ ∃ d, t = .duration d := by
  cases h with
  | same hquantity => cases hquantity
  | quantity _ h => exact (cases_of_isQuantity h).symm

theorem eq_text {s : String} (h : (Token.text s).Alike f t) :
    t = .text (String.ofList (f s.toList)) := by
  generalize htoken : Token.text s = token at h
  cases h with
  | same _ htext => exact absurd htext (htoken ▸ by simp [Token.isText])
  | quantity hquantity => exact absurd hquantity (htoken ▸ by simp [Token.isQuantity])
  | text s =>
      obtain rfl := Token.text.inj htoken
      rw [String.toList_ofList]

theorem label?_eq (h : t.Alike f t') : t'.label? = t.label? :=
  h.congr (fun _ => rfl) (fun _ => rfl) fun _ => rfl

theorem binary?_eq (h : t.Alike f t') : t'.binary? = t.binary? :=
  h.congr (fun _ => rfl) (fun _ => rfl) fun _ => rfl

theorem matchOp?_eq (h : t.Alike f t') : matchOp? t' = matchOp? t :=
  h.congr (fun _ => rfl) (fun _ => rfl) fun _ => rfl

/-- A token that names a metric is a word, and so the same on both sides. -/
theorem eq_of_metric? {name : String} (h : t.Alike f t') (hname : t.metric? = some name) :
    t' = t := by
  cases h with
  | same => rfl
  | quantity h =>
      obtain ⟨d, rfl⟩ | ⟨x, rfl⟩ := cases_of_isQuantity h
      · cases hname
      · cases hname
  | text s => cases hname

end Token.Alike

/-- Where a token of signs or words is missing on one side, it is missing on the other. -/
theorem head_ne (h : List.Forall₂ (Token.Alike f) ts ts') (hquantity : t.isQuantity = false)
    (htext : t.isText = false) (hne : ∀ rest, ts = t :: rest → False) (rest : List Token)
    (heq : ts' = t :: rest) : False := by
  subst heq
  rcases h with _ | ⟨ht, h⟩
  exact hne _ (by rw [ht.eq' hquantity htext])

/-! ## Readings side by side -/

/-- Two readings of tokens: if both find something, the results are related and so are the tokens
    that are left. -/
def Parallel {α : Type} (f : List Char → List Char) (R : α → α → Prop)
    (o o' : Option (α × List Token)) : Prop :=
  ∀ x rest x' rest', o = some (x, rest) → o' = some (x', rest') →
    R x x' ∧ List.Forall₂ (Token.Alike f) rest rest'

namespace Parallel

variable {α β : Type} {R : α → α → Prop} {S : β → β → Prop} {o o' : Option (α × List Token)}

theorem none_left : Parallel f R none o' := by
  intro x rest x' rest' h
  cases h

theorem none_right : Parallel f R o none := by
  intro x rest x' rest' _ h'
  cases h'

theorem some {x x' : α} (hx : R x x') (h : List.Forall₂ (Token.Alike f) ts ts') :
    Parallel f R (some (x, ts)) (some (x', ts')) := by
  rintro _ _ _ _ ⟨⟩ ⟨⟩
  exact ⟨hx, h⟩

theorem bind {g g' : α × List Token → Option (β × List Token)} (h : Parallel f R o o')
    (hg : ∀ x ts x' ts', R x x' → List.Forall₂ (Token.Alike f) ts ts' →
      Parallel f S (g (x, ts)) (g' (x', ts'))) : Parallel f S (o.bind g) (o'.bind g') := by
  intro y rest y' rest' hy hy'
  obtain ⟨⟨x, ts⟩, hx, hgx⟩ := Option.bind_eq_some_iff.mp hy
  obtain ⟨⟨x', ts'⟩, hx', hgx'⟩ := Option.bind_eq_some_iff.mp hy'
  obtain ⟨hR, hts⟩ := h x ts x' ts' hx hx'
  exact hg x ts x' ts' hR hts y rest y' rest' hgx hgx'

theorem map {g g' : α × List Token → β × List Token} (h : Parallel f R o o')
    (hg : ∀ x ts x' ts', R x x' → List.Forall₂ (Token.Alike f) ts ts' →
      S (g (x, ts)).1 (g' (x', ts')).1 ∧
        List.Forall₂ (Token.Alike f) (g (x, ts)).2 (g' (x', ts')).2) :
    Parallel f S (o.map g) (o'.map g') := by
  rw [Option.map_eq_bind, Option.map_eq_bind]
  refine h.bind fun x ts x' ts' hR hts => ?_
  obtain ⟨hS, hrest⟩ := hg x ts x' ts' hR hts
  exact Parallel.some hS hrest

/-- Something is built from what was read, before reading on. -/
theorem built {b b' : Option α} {g g' : α → Option (β × List Token)}
    (h : ∀ y y', b = Option.some y → b' = Option.some y' → Parallel f S (g y) (g' y')) :
    Parallel f S (b.bind g) (b'.bind g') := by
  intro z rest z' rest' hz hz'
  obtain ⟨y, hy, hg⟩ := Option.bind_eq_some_iff.mp hz
  obtain ⟨y', hy', hg'⟩ := Option.bind_eq_some_iff.mp hz'
  exact h y y' hy hy' z rest z' rest' hg hg'

theorem mapped {b b' : Option β} (h : List.Forall₂ (Token.Alike f) ts ts') :
    Parallel f (fun _ _ => True) (b.map fun y => (y, ts)) (b'.map fun y => (y, ts')) := by
  rw [Option.map_eq_bind, Option.map_eq_bind]
  exact .built fun _ _ _ _ => .some trivial h

end Parallel

/-! ## Labels and modifiers -/

/-- A label and what follows it. -/
theorem withLabel_parallel (ht : t.Alike f t')
    (h : Parallel f Eq (moreLabels? ts) (moreLabels? ts')) {label : String} {labels : List String}
    {rest : List Token} (hlabel : t.label? = some label)
    (hmore : moreLabels? ts = some (labels, rest)) :
    Parallel f Eq (some (label :: labels, rest))
      (match t'.label?, moreLabels? ts' with
      | some label, some (labels, rest) => some (label :: labels, rest)
      | _, _ => none) := by
  rw [ht.label?_eq, hlabel]
  cases hmore' : moreLabels? ts' with
  | none => exact .none_right
  | some found =>
      obtain ⟨rfl, hrest⟩ := h _ _ found.1 found.2 hmore hmore'
      exact .some rfl hrest

theorem moreLabels?_parallel (h : List.Forall₂ (Token.Alike f) ts ts') :
    Parallel f Eq (moreLabels? ts) (moreLabels? ts') := by
  fun_induction moreLabels? ts generalizing ts' with
  | case1 rest =>
      rcases h with _ | ⟨ht, h⟩
      obtain rfl := ht.eq rfl rfl
      exact .some rfl h
  | case2 rest =>
      rcases h with _ | ⟨ht, _ | ⟨ht₂, h⟩⟩
      obtain rfl := ht.eq rfl rfl
      obtain rfl := ht₂.eq rfl rfl
      exact .some rfl h
  | case3 token rest hne label labels rest₁ hmore hlabel ih =>
      rcases h with _ | ⟨ht, _ | ⟨ht₂, h⟩⟩
      obtain rfl := ht.eq rfl rfl
      have hne' : ∀ {t : Token}, token.Alike f t → t = .closeParen → False :=
        fun ht heq => hne (heq ▸ ht.eq' (heq ▸ rfl) (heq ▸ rfl))
      rw [moreLabels?.eq_3 _ _ (hne' ht₂)]
      exact withLabel_parallel ht₂ (ih h) hlabel hmore
  | case4 => exact .none_left
  | case5 => exact .none_left

theorem labels?_parallel (h : List.Forall₂ (Token.Alike f) ts ts') :
    Parallel f Eq (labels? ts) (labels? ts') := by
  fun_cases labels? ts with
  | case1 rest =>
      rcases h with _ | ⟨ht, _ | ⟨ht₂, h⟩⟩
      obtain rfl := ht.eq rfl rfl
      obtain rfl := ht₂.eq rfl rfl
      exact .some rfl h
  | case2 token rest hne label labels rest₁ hmore hlabel =>
      rcases h with _ | ⟨ht, _ | ⟨ht₂, h⟩⟩
      obtain rfl := ht.eq rfl rfl
      have hne' : ∀ {t : Token}, token.Alike f t → t = .closeParen → False :=
        fun ht heq => hne (heq ▸ ht.eq' (heq ▸ rfl) (heq ▸ rfl))
      rw [labels?.eq_2 _ _ (hne' ht₂)]
      exact withLabel_parallel ht₂ (moreLabels?_parallel h) hlabel hmore
  | case3 => exact .none_left
  | case4 => exact .none_left

theorem grouping?_parallel (h : List.Forall₂ (Token.Alike f) ts ts') :
    Parallel f Eq (grouping? ts) (grouping? ts') := by
  fun_cases grouping? ts with
  | case1 word rest =>
      rcases h with _ | ⟨ht, h⟩
      obtain rfl := ht.eq rfl rfl
      exact (labels?_parallel h).map fun _ _ _ _ hlabels hrest => ⟨hlabels ▸ rfl, hrest⟩
  | case2 word rest =>
      rcases h with _ | ⟨ht, h⟩
      obtain rfl := ht.eq rfl rfl
      exact (labels?_parallel h).map fun _ _ _ _ hlabels hrest => ⟨hlabels ▸ rfl, hrest⟩
  | case3 => exact .none_left

theorem takenLabels?_parallel (h : List.Forall₂ (Token.Alike f) ts ts') :
    Parallel f Eq (takenLabels? ts) (takenLabels? ts') := by
  fun_cases takenLabels? ts with
  | case1 rest =>
      rcases h with _ | ⟨ht, h⟩
      obtain rfl := ht.eq rfl rfl
      exact labels?_parallel (.cons ht h)
  | case2 _ hne =>
      rw [takenLabels?.eq_2 _ (head_ne h rfl rfl hne)]
      exact .some rfl h

theorem grouped?_parallel (h : List.Forall₂ (Token.Alike f) ts ts') :
    Parallel f Eq (grouped? ts) (grouped? ts') := by
  fun_cases grouped? ts with
  | case1 word rest =>
      rcases h with _ | ⟨ht, h⟩
      obtain rfl := ht.eq rfl rfl
      exact (takenLabels?_parallel h).map fun _ _ _ _ hlabels hrest => ⟨hlabels ▸ rfl, hrest⟩
  | case2 word rest =>
      rcases h with _ | ⟨ht, h⟩
      obtain rfl := ht.eq rfl rfl
      exact (takenLabels?_parallel h).map fun _ _ _ _ hlabels hrest => ⟨hlabels ▸ rfl, hrest⟩
  | case3 _ hleft hright =>
      rw [grouped?.eq_3 _ (fun word => head_ne h rfl rfl (hleft word))
        fun word => head_ne h rfl rfl (hright word)]
      exact .some rfl h

theorem matching?_parallel (returnBool : Bool) (h : List.Forall₂ (Token.Alike f) ts ts') :
    Parallel f Eq (matching? returnBool ts) (matching? returnBool ts') := by
  fun_cases matching? returnBool ts with
  | case1 word rest =>
      rcases h with _ | ⟨ht, h⟩
      obtain rfl := ht.eq rfl rfl
      refine (labels?_parallel h).bind fun labels rest _ rest' hlabels hrest => ?_
      refine (grouped?_parallel hrest).bind fun grouped rest _ rest' hgrouped hrest => ?_
      exact .some (by rw [hlabels, hgrouped]) hrest
  | case2 word rest =>
      rcases h with _ | ⟨ht, h⟩
      obtain rfl := ht.eq rfl rfl
      refine (labels?_parallel h).bind fun labels rest _ rest' hlabels hrest => ?_
      refine (grouped?_parallel hrest).bind fun grouped rest _ rest' hgrouped hrest => ?_
      exact .some (by rw [hlabels, hgrouped]) hrest
  | case3 _ hon hignoring =>
      rw [matching?.eq_3 _ _ (fun word => head_ne h rfl rfl (hon word))
        fun word => head_ne h rfl rfl (hignoring word)]
      exact .some rfl h

theorem modifier?_parallel (h : List.Forall₂ (Token.Alike f) ts ts') :
    Parallel f Eq (modifier? ts) (modifier? ts') := by
  fun_cases modifier? ts with
  | case1 word rest =>
      rcases h with _ | ⟨ht, h⟩
      obtain rfl := ht.eq rfl rfl
      exact matching?_parallel true h
  | case2 _ hbool =>
      rw [modifier?.eq_2 _ fun word => head_ne h rfl rfl (hbool word)]
      exact matching?_parallel false h

/-! ## Selectors -/

theorem matcher?_parallel (h : List.Forall₂ (Token.Alike f) ts ts') :
    Parallel f (fun m m' => m' = m.mapValue f) (matcher? ts) (matcher? ts') := by
  fun_cases matcher? ts with
  | case1 name token value rest op hop m hreadable =>
      rcases h with _ | ⟨ht, _ | ⟨ht₂, _ | ⟨ht₃, h⟩⟩⟩
      obtain rfl := ht.eq rfl rfl
      obtain rfl := ht₃.eq_text
      rw [matcher?, ht₂.matchOp?_eq, hop]
      dsimp only
      split
      · exact .some rfl h
      · exact .none_right
  | case2 => exact .none_left
  | case3 => exact .none_left
  | case4 => exact .none_left

section Matchers

variable {m : Matcher} {matchers : List Matcher} {groups : List (List Matcher)}

/-- The values of matchers change wherever they stand. -/
def mapMatchers (f : List Char → List Char) (found : List Matcher × List (List Matcher)) :
    List Matcher × List (List Matcher) :=
  (found.1.map (Matcher.mapValue f), found.2.map (List.map (Matcher.mapValue f)))

theorem addMatcher_mapMatchers : addMatcher (m.mapValue f) (mapMatchers f (matchers, groups)).1
    (mapMatchers f (matchers, groups)).2 = mapMatchers f (addMatcher m matchers groups) := by
  unfold addMatcher mapMatchers
  cases h : groups.getLast? with
  | none => simp [h]
  | some last => simp [h, List.map_dropLast]

theorem addGroup_mapMatchers : addGroup (m.mapValue f) (mapMatchers f (matchers, groups)).1
    (mapMatchers f (matchers, groups)).2 = mapMatchers f (addGroup m matchers groups) := by
  unfold addGroup mapMatchers
  cases matchers <;> simp

theorem moreMatchers?_parallel {n : Nat} (h : List.Forall₂ (Token.Alike f) ts ts') :
    Parallel f (fun found found' => found' = mapMatchers f found)
      (moreMatchers? n matchers groups ts)
      (moreMatchers? n (mapMatchers f (matchers, groups)).1 (mapMatchers f (matchers, groups)).2
        ts') := by
  fun_induction moreMatchers? n matchers groups ts generalizing ts' with
  | case1 => exact .none_left
  | case2 n matchers groups rest =>
      rcases h with _ | ⟨ht, h⟩
      obtain rfl := ht.eq rfl rfl
      exact .some rfl h
  | case3 n matchers groups rest =>
      rcases h with _ | ⟨ht, _ | ⟨ht₂, h⟩⟩
      obtain rfl := ht.eq rfl rfl
      obtain rfl := ht₂.eq rfl rfl
      exact .some rfl h
  | case4 n matchers groups rest hne m rest₁ hm matchers₁ groups₁ hadd ih =>
      rcases h with _ | ⟨ht, h⟩
      obtain rfl := ht.eq rfl rfl
      rw [moreMatchers?.eq_4 _ _ _ _ (head_ne h rfl rfl hne)]
      cases hm' : matcher? _ with
      | none => exact .none_right
      | some found =>
          obtain ⟨hfound, hrest⟩ := matcher?_parallel h m rest₁ found.1 found.2 hm hm'
          dsimp only
          rw [hfound, addMatcher_mapMatchers, hadd]
          exact ih hrest
  | case5 => exact .none_left
  | case6 n matchers groups word rest m rest₁ hm matchers₁ groups₁ hadd ih =>
      rcases h with _ | ⟨ht, h⟩
      obtain rfl := ht.eq rfl rfl
      rw [moreMatchers?.eq_5]
      cases hm' : matcher? _ with
      | none => exact .none_right
      | some found =>
          obtain ⟨hfound, hrest⟩ := matcher?_parallel h m rest₁ found.1 found.2 hm hm'
          dsimp only
          rw [hfound, addGroup_mapMatchers, hadd]
          exact ih hrest
  | case7 => exact .none_left
  | case8 => exact .none_left

theorem matchers?_parallel (h : List.Forall₂ (Token.Alike f) ts ts') :
    Parallel f (fun found found' => found' = mapMatchers f found) (matchers? ts)
      (matchers? ts') := by
  fun_cases matchers? ts with
  | case1 rest =>
      rcases h with _ | ⟨ht, h⟩
      obtain rfl := ht.eq rfl rfl
      exact .some rfl h
  | case2 _ hne =>
      rw [matchers?.eq_2 _ (head_ne h rfl rfl hne)]
      refine (matcher?_parallel h).bind fun m rest m' rest' hm hrest => ?_
      dsimp only
      rw [hm, ← hrest.length_eq]
      exact moreMatchers?_parallel hrest

end Matchers

theorem selector?_parallel (name : Option String) (h : List.Forall₂ (Token.Alike f) ts ts') :
    Parallel f (Expr.Alike f) (selector? name ts) (selector? name ts') := by
  fun_cases selector? name ts with
  | case1 rest =>
      rcases h with _ | ⟨ht, h⟩
      obtain rfl := ht.eq rfl rfl
      refine (matchers?_parallel h).bind fun found rest found' rest' hfound hrest => ?_
      refine .built fun e e' he he' => .some ?_ hrest
      rw [Expr.Alike, Expr.choices_ofSelector? he, Expr.choices_ofSelector? he', hfound]
      rfl
  | case2 _ hne =>
      rw [selector?.eq_2 _ _ (head_ne h rfl rfl hne), Option.map_eq_bind, Option.map_eq_bind]
      refine .built fun e e' he he' => .some ?_ h
      rw [Expr.Alike, Expr.choices_ofSelector? he, Expr.choices_ofSelector? he']
      rfl

/-! ## Times -/

theorem instant?_parallel (h : List.Forall₂ (Token.Alike f) ts ts') :
    Parallel f (fun _ _ => True) (instant? ts) (instant? ts') := by
  fun_cases instant? ts with
  | case1 x rest =>
      rcases h with _ | ⟨ht, h⟩
      obtain ⟨x', rfl⟩ | ⟨d, rfl⟩ := ht.number
      · exact .mapped h
      · exact .none_right
  | case2 x rest =>
      rcases h with _ | ⟨ht, _ | ⟨ht₂, h⟩⟩
      obtain rfl := ht.eq rfl rfl
      obtain ⟨x', rfl⟩ | ⟨d, rfl⟩ := ht₂.number
      · exact .mapped h
      · exact .none_right
  | case3 x rest =>
      rcases h with _ | ⟨ht, _ | ⟨ht₂, h⟩⟩
      obtain rfl := ht.eq rfl rfl
      obtain ⟨x', rfl⟩ | ⟨d, rfl⟩ := ht₂.number
      · exact .mapped h
      · exact .none_right
  | case4 word rest =>
      rcases h with _ | ⟨ht, _ | ⟨ht₂, _ | ⟨ht₃, h⟩⟩⟩
      obtain rfl := ht.eq rfl rfl
      obtain rfl := ht₂.eq rfl rfl
      obtain rfl := ht₃.eq rfl rfl
      exact .some trivial h
  | case5 word rest =>
      rcases h with _ | ⟨ht, _ | ⟨ht₂, _ | ⟨ht₃, h⟩⟩⟩
      obtain rfl := ht.eq rfl rfl
      obtain rfl := ht₂.eq rfl rfl
      obtain rfl := ht₃.eq rfl rfl
      exact .some trivial h
  | case6 => exact .none_left

theorem offset?_parallel (h : List.Forall₂ (Token.Alike f) ts ts') :
    Parallel f (fun _ _ => True) (offset? ts) (offset? ts') := by
  fun_cases offset? ts with
  | case1 d rest =>
      rcases h with _ | ⟨ht, h⟩
      obtain ⟨d', rfl⟩ | ⟨x, rfl⟩ := ht.duration
      · exact .some trivial h
      · exact .none_right
  | case2 d rest =>
      rcases h with _ | ⟨ht, _ | ⟨ht₂, h⟩⟩
      obtain rfl := ht.eq rfl rfl
      obtain ⟨d', rfl⟩ | ⟨x, rfl⟩ := ht₂.duration
      · exact .some trivial h
      · exact .none_right
  | case3 d rest =>
      rcases h with _ | ⟨ht, _ | ⟨ht₂, h⟩⟩
      obtain rfl := ht.eq rfl rfl
      obtain ⟨d', rfl⟩ | ⟨x, rfl⟩ := ht₂.duration
      · exact .some trivial h
      · exact .none_right
  | case4 => exact .none_left

theorem suffixes?_parallel {n : Nat} {e e' : Expr} (he : e.Alike f e')
    (h : List.Forall₂ (Token.Alike f) ts ts') :
    Parallel f (Expr.Alike f) (suffixes? n e ts) (suffixes? n e' ts') := by
  fun_induction suffixes? n e ts generalizing e' ts' with
  | case1 => exact .none_left
  | case2 n e d rest ih =>
      rcases h with _ | ⟨ht, _ | ⟨ht₂, _ | ⟨ht₃, h⟩⟩⟩
      obtain rfl := ht.eq rfl rfl
      obtain rfl := ht₃.eq rfl rfl
      obtain ⟨d', rfl⟩ | ⟨x, rfl⟩ := ht₂.duration
      · refine .built fun e₁ e₁' he₁ he₁' => ih e₁ ?_ h
        exact he.of_choices_eq (Expr.choices_range? he₁) (Expr.choices_range? he₁')
      · exact .none_right
  | case3 n e d rest ih =>
      rcases h with _ | ⟨ht, _ | ⟨ht₂, _ | ⟨ht₃, _ | ⟨ht₄, h⟩⟩⟩⟩
      obtain rfl := ht.eq rfl rfl
      obtain rfl := ht₃.eq rfl rfl
      obtain rfl := ht₄.eq rfl rfl
      obtain ⟨d', rfl⟩ | ⟨x, rfl⟩ := ht₂.duration
      · refine .built fun e₁ e₁' he₁ he₁' => ih e₁ ?_ h
        exact he.of_choices_eq (Expr.choices_subquery? he₁) (Expr.choices_subquery? he₁')
      · exact .none_right
  | case4 n e d step rest ih =>
      rcases h with _ | ⟨ht, _ | ⟨ht₂, _ | ⟨ht₃, _ | ⟨ht₄, _ | ⟨ht₅, h⟩⟩⟩⟩⟩
      obtain rfl := ht.eq rfl rfl
      obtain rfl := ht₃.eq rfl rfl
      obtain rfl := ht₅.eq rfl rfl
      obtain ⟨d', rfl⟩ | ⟨x, rfl⟩ := ht₂.duration
      · obtain ⟨step', rfl⟩ | ⟨x, rfl⟩ := ht₄.duration
        · refine .built fun e₁ e₁' he₁ he₁' => ih e₁ ?_ h
          exact he.of_choices_eq (Expr.choices_subquery? he₁) (Expr.choices_subquery? he₁')
        · exact .none_right
      · exact .none_right
  | case5 => exact .none_left
  | case6 n e word rest o rest₁ ho ih =>
      rcases h with _ | ⟨ht, h⟩
      obtain rfl := ht.eq rfl rfl
      rw [suffixes?.eq_6]
      cases ho' : offset? _ with
      | none => exact .none_right
      | some found =>
          have hrest := (offset?_parallel h _ _ found.1 found.2 ho ho').2
          refine .built fun e₁ e₁' he₁ he₁' => ih e₁ ?_ hrest
          exact he.of_choices_eq (Expr.choices_withOffset? he₁) (Expr.choices_withOffset? he₁')
  | case7 => exact .none_left
  | case8 n e rest i rest₁ hi ih =>
      rcases h with _ | ⟨ht, h⟩
      obtain rfl := ht.eq rfl rfl
      rw [suffixes?.eq_7]
      cases hi' : instant? _ with
      | none => exact .none_right
      | some found =>
          have hrest := (instant?_parallel h _ _ found.1 found.2 hi hi').2
          refine .built fun e₁ e₁' he₁ he₁' => ih e₁ ?_ hrest
          exact he.of_choices_eq (Expr.choices_withInstant? he₁) (Expr.choices_withInstant? he₁')
  | case9 => exact .none_left
  | case10 n e ts hrange hsub hstep hbracket hoffset hat =>
      have hbracket' := head_ne h rfl rfl hbracket
      rw [suffixes?.eq_8 _ _ _ (fun _ _ => hbracket' _) (fun _ _ => hbracket' _)
        (fun _ _ _ => hbracket' _) hbracket' (fun word => head_ne h rfl rfl (hoffset word))
        (head_ne h rfl rfl hat)]
      exact .some he h

/-! ## Expressions -/

/-- What the parser reads of tokens that are alike with some fuel. -/
structure ParallelAt (f : List Char → List Char) (n : Nat) : Prop where
  expr : ∀ level {ts ts'}, List.Forall₂ (Token.Alike f) ts ts' →
    Parallel f (Expr.Alike f) (expr? n level ts) (expr? n level ts')
  operators : ∀ level {lhs lhs' ts ts'}, lhs.Alike f lhs' → List.Forall₂ (Token.Alike f) ts ts' →
    Parallel f (Expr.Alike f) (operators? n level lhs ts) (operators? n level lhs' ts')
  operand : ∀ {ts ts'}, List.Forall₂ (Token.Alike f) ts ts' →
    Parallel f (Expr.Alike f) (operand? n ts) (operand? n ts')
  primary : ∀ {ts ts'}, List.Forall₂ (Token.Alike f) ts ts' →
    Parallel f (Expr.Alike f) (primary? n ts) (primary? n ts')
  groupedArguments : ∀ op g {ts ts'}, List.Forall₂ (Token.Alike f) ts ts' →
    Parallel f (Expr.Alike f) (groupedArguments? n op g ts) (groupedArguments? n op g ts')
  arguments : ∀ {ts ts'}, List.Forall₂ (Token.Alike f) ts ts' →
    Parallel f (Expr.AllAlike f) (arguments? n ts) (arguments? n ts')
  moreArguments : ∀ {ts ts'}, List.Forall₂ (Token.Alike f) ts ts' →
    Parallel f (Expr.AllAlike f) (moreArguments? n ts) (moreArguments? n ts')

namespace ParallelAt

variable {n : Nat}

theorem expr_of (ih : ∀ k, n = k + 1 → ParallelAt f k) (level : Nat)
    (h : List.Forall₂ (Token.Alike f) ts ts') :
    Parallel f (Expr.Alike f) (expr? n level ts) (expr? n level ts') := by
  cases n with
  | zero => exact .none_left
  | succ n =>
      rw [expr?, expr?]
      refine ((ih n rfl).operand h).bind fun lhs rest lhs' rest' hlhs hrest => ?_
      exact (ih n rfl).operators level hlhs hrest

theorem operators_of (ih : ∀ k, n = k + 1 → ParallelAt f k) (level : Nat) {lhs lhs' : Expr}
    (hlhs : lhs.Alike f lhs') (h : List.Forall₂ (Token.Alike f) ts ts') :
    Parallel f (Expr.Alike f) (operators? n level lhs ts) (operators? n level lhs' ts') := by
  cases n with
  | zero => exact .none_left
  | succ n =>
      replace ih := ih n rfl
      rcases h with _ | ⟨ht, h⟩
      · exact .some hlhs .nil
      · rw [operators?.eq_3, operators?.eq_3, ht.binary?_eq]
        split
        · exact .some hlhs (.cons ht h)
        · split
          · exact .some hlhs (.cons ht h)
          · refine (modifier?_parallel h).bind fun m rest m' rest' hm hrest => ?_
            refine (ih.expr _ hrest).bind fun rhs rest rhs' rest' hrhs hrest => ?_
            refine .built fun e e' he he' => ih.operators level ?_ hrest
            rw [Expr.Alike, Expr.choices_binary? he, Expr.choices_binary? he', List.map_append,
              hlhs, hrhs]

theorem operand_of (ih : ∀ k, n = k + 1 → ParallelAt f k)
    (h : List.Forall₂ (Token.Alike f) ts ts') :
    Parallel f (Expr.Alike f) (operand? n ts) (operand? n ts') := by
  fun_cases operand? n ts with
  | case1 => exact .none_left
  | case2 n rest =>
      rcases h with _ | ⟨ht, h⟩
      obtain rfl := ht.eq rfl rfl
      exact (ih n rfl).expr _ h
  | case3 n rest =>
      rcases h with _ | ⟨ht, h⟩
      obtain rfl := ht.eq rfl rfl
      refine ((ih n rfl).expr _ h).bind fun body rest body' rest' hbody hrest => ?_
      refine .built fun e e' he he' => .some ?_ hrest
      exact hbody.of_choices_eq (Expr.choices_negate? he) (Expr.choices_negate? he')
  | case4 n _ hadd hsub =>
      rw [operand?.eq_4 _ _ (head_ne h rfl rfl hadd) (head_ne h rfl rfl hsub)]
      refine ((ih n rfl).primary h).bind fun e rest e' rest' he hrest => ?_
      dsimp only
      rw [← hrest.length_eq]
      exact suffixes?_parallel he hrest

theorem aggregate?_alike {op : AggregateOp} {g : Option Grouping} {args args' : List Expr}
    {e e' : Expr} (h : Expr.AllAlike f args args') (he : Expr.aggregate? op g args = some e)
    (he' : Expr.aggregate? op g args' = some e') : e.Alike f e' := by
  rw [Expr.Alike, Expr.choices_aggregate? he, Expr.choices_aggregate? he']
  exact h

/-- An aggregation whose grouping follows its arguments. -/
theorem groupedAfter_parallel {op : AggregateOp} {args args' : List Expr}
    (hargs : Expr.AllAlike f args args') (h : List.Forall₂ (Token.Alike f) ts ts') :
    Parallel f (Expr.Alike f)
      (do
        let (g, rest) ← grouping? ts
        let e ← Expr.aggregate? op (some g) args
        some (e, rest))
      (do
        let (g, rest) ← grouping? ts'
        let e ← Expr.aggregate? op (some g) args'
        some (e, rest)) := by
  refine (grouping?_parallel h).bind fun g rest g' rest' hg hrest => ?_
  subst hg
  exact .built fun e e' he he' => .some (aggregate?_alike hargs he he') hrest

theorem primary_of (ih : ∀ k, n = k + 1 → ParallelAt f k)
    (h : List.Forall₂ (Token.Alike f) ts ts') :
    Parallel f (Expr.Alike f) (primary? n ts) (primary? n ts') := by
  fun_cases primary? n ts with
  | case1 => exact .none_left
  | case2 n x rest =>
      rcases h with _ | ⟨ht, h⟩
      obtain ⟨x', rfl⟩ | ⟨d, rfl⟩ := ht.number
      · exact .some (by simp [Expr.Alike]) h
      · exact .none_right
  | case3 n s rest =>
      rcases h with _ | ⟨ht, h⟩
      obtain rfl := ht.eq_text
      exact .some (by simp [Expr.Alike]) h
  | case4 n rest =>
      rcases h with _ | ⟨ht, h⟩
      obtain rfl := ht.eq rfl rfl
      refine ((ih n rfl).expr 0 h).bind fun body rest body' rest' hbody hrest => ?_
      dsimp only
      split
      · rcases hrest with _ | ⟨ht, hrest⟩
        obtain rfl := ht.eq rfl rfl
        exact .some (hbody.of_choices_eq (Expr.choices_paren _) (Expr.choices_paren _)) hrest
      · exact .none_left
  | case5 n rest =>
      rcases h with _ | ⟨ht, h⟩
      obtain rfl := ht.eq rfl rfl
      exact selector?_parallel none (.cons ht h)
  | case6 n name rest =>
      rcases h with _ | ⟨ht, _ | ⟨ht₂, h⟩⟩
      obtain rfl := ht.eq rfl rfl
      obtain rfl := ht₂.eq rfl rfl
      refine ((ih n rfl).arguments h).bind fun args rest args' rest' hargs hrest => ?_
      refine .built fun e e' he he' => .some ?_ hrest
      rw [Expr.Alike, Expr.choices_call? he, Expr.choices_call? he']
      exact hargs
  | case7 n op word rest =>
      rcases h with _ | ⟨ht, _ | ⟨ht₂, h⟩⟩
      obtain rfl := ht.eq rfl rfl
      obtain rfl := ht₂.eq rfl rfl
      refine ((ih n rfl).arguments h).bind fun args rest args' rest' hargs hrest => ?_
      dsimp only
      split
      · rcases hrest with _ | ⟨ht, hrest⟩
        obtain rfl := ht.eq rfl rfl
        exact groupedAfter_parallel hargs (.cons ht hrest)
      · rcases hrest with _ | ⟨ht, hrest⟩
        obtain rfl := ht.eq rfl rfl
        exact groupedAfter_parallel hargs (.cons ht hrest)
      · next hby hwithout =>
          split
          · exact (head_ne hrest rfl rfl (hby _) _ rfl).elim
          · exact (head_ne hrest rfl rfl (hwithout _) _ rfl).elim
          · exact .built fun e e' he he' => .some (aggregate?_alike hargs he he') hrest
  | case8 n op word w rest =>
      rcases h with _ | ⟨ht, _ | ⟨ht₂, h⟩⟩
      obtain rfl := ht.eq rfl rfl
      obtain rfl := ht₂.eq rfl rfl
      refine (grouping?_parallel (.cons ht₂ h)).bind fun g rest g' rest' hg hrest => ?_
      subst hg
      exact (ih n rfl).groupedArguments op g hrest
  | case9 n op word w rest =>
      rcases h with _ | ⟨ht, _ | ⟨ht₂, h⟩⟩
      obtain rfl := ht.eq rfl rfl
      obtain rfl := ht₂.eq rfl rfl
      refine (grouping?_parallel (.cons ht₂ h)).bind fun g rest g' rest' hg hrest => ?_
      subst hg
      exact (ih n rfl).groupedArguments op g hrest
  | case10 n token rest hnumber htext hparen hbrace hident hopen hby hwithout =>
      cases hname : token.metric? with
      | none => exact .none_left
      | some name =>
          rcases h with _ | ⟨ht, h⟩
          obtain rfl := ht.eq_of_metric? hname
          rw [primary?.eq_10 _ _ _ hnumber htext hparen hbrace
            (fun name more heq => head_ne h rfl rfl (hident name · heq) more)
            (fun op word more heq => head_ne h rfl rfl (hopen op word · heq) more)
            (fun op word w more heq => head_ne h rfl rfl (hby op word w · heq) more)
            (fun op word w more heq => head_ne h rfl rfl (hwithout op word w · heq) more), hname]
          exact selector?_parallel (some name) h
  | case11 => exact .none_left

theorem groupedArguments_of (ih : ∀ k, n = k + 1 → ParallelAt f k) (op : AggregateOp) (g : Grouping)
    (h : List.Forall₂ (Token.Alike f) ts ts') :
    Parallel f (Expr.Alike f) (groupedArguments? n op g ts) (groupedArguments? n op g ts') := by
  fun_cases groupedArguments? n op g ts with
  | case1 => exact .none_left
  | case2 n op g rest =>
      rcases h with _ | ⟨ht, h⟩
      obtain rfl := ht.eq rfl rfl
      refine ((ih n rfl).arguments h).bind fun args rest args' rest' hargs hrest => ?_
      exact .built fun e e' he he' => .some (aggregate?_alike hargs he he') hrest
  | case3 => exact .none_left

/-- Arguments from the first on. -/
theorem someArguments_parallel (ih : ParallelAt f n) (h : List.Forall₂ (Token.Alike f) ts ts') :
    Parallel f (Expr.AllAlike f)
      (do
        let (arg, rest) ← expr? n 0 ts
        let (args, rest) ← moreArguments? n rest
        some (arg :: args, rest))
      (do
        let (arg, rest) ← expr? n 0 ts'
        let (args, rest) ← moreArguments? n rest
        some (arg :: args, rest)) := by
  refine (ih.expr 0 h).bind fun arg rest arg' rest' harg hrest => ?_
  refine (ih.moreArguments hrest).bind fun args rest args' rest' hargs hrest => .some ?_ hrest
  rw [Expr.AllAlike, List.flatMap_cons, List.flatMap_cons, List.map_append, harg, hargs]

theorem arguments_of (ih : ∀ k, n = k + 1 → ParallelAt f k)
    (h : List.Forall₂ (Token.Alike f) ts ts') :
    Parallel f (Expr.AllAlike f) (arguments? n ts) (arguments? n ts') := by
  fun_cases arguments? n ts with
  | case1 => exact .none_left
  | case2 n rest =>
      rcases h with _ | ⟨ht, h⟩
      obtain rfl := ht.eq rfl rfl
      exact .some rfl h
  | case3 n _ hne =>
      rw [arguments?.eq_3 _ _ (head_ne h rfl rfl hne)]
      exact (ih n rfl).someArguments_parallel h

theorem moreArguments_of (ih : ∀ k, n = k + 1 → ParallelAt f k)
    (h : List.Forall₂ (Token.Alike f) ts ts') :
    Parallel f (Expr.AllAlike f) (moreArguments? n ts) (moreArguments? n ts') := by
  fun_cases moreArguments? n ts with
  | case1 => exact .none_left
  | case2 n rest =>
      rcases h with _ | ⟨ht, h⟩
      obtain rfl := ht.eq rfl rfl
      exact .some rfl h
  | case3 n rest =>
      rcases h with _ | ⟨ht, h⟩
      obtain rfl := ht.eq rfl rfl
      exact (ih n rfl).someArguments_parallel h
  | case4 => exact .none_left

/-- Reading with some fuel calls readings with less. -/
theorem of_below (ih : ∀ k, n = k + 1 → ParallelAt f k) : ParallelAt f n where
  expr level _ _ h := expr_of ih level h
  operators level _ _ _ _ hlhs h := operators_of ih level hlhs h
  operand h := operand_of ih h
  primary h := primary_of ih h
  groupedArguments op g _ _ h := groupedArguments_of ih op g h
  arguments h := arguments_of ih h
  moreArguments h := moreArguments_of ih h

end ParallelAt

theorem parallelAt (f : List Char → List Char) (n : Nat) : ParallelAt f n := by
  induction n with
  | zero => exact .of_below fun k hk => by cases hk
  | succ n ih => exact .of_below fun k hk => Nat.succ.inj hk ▸ ih

/-! ## Queries -/

theorem ofTokens?_alike {e e' : Expr} (h : List.Forall₂ (Token.Alike f) ts ts')
    (he : ofTokens? ts = some e) (he' : ofTokens? ts' = some e') : e.Alike f e' := by
  have hwhole {ts : List Token} {e : Expr} (he : ofTokens? ts = some e) :
      expr? (6 * (ts.length + 1)) 0 ts = some (e, []) := by
    unfold ofTokens? at he
    split at he
    · next hexpr => rw [hexpr, ← Option.some.inj he]
    · cases he
  have hexpr' := hwhole he'
  rw [← h.length_eq] at hexpr'
  exact ((parallelAt f _).expr 0 h e [] e' [] (hwhole he) hexpr').1

/-- Two texts of one query choose the same series, but for what stands in strings. -/
theorem Respelled.alike {u u' : List Char} {e e' : Expr} (h : Respelled f .start u u')
    (he : parse? (String.ofList u) = some e) (he' : parse? (String.ofList u') = some e') :
    e.Alike f e' := by
  obtain ⟨ts, hts, he⟩ := Option.bind_eq_some_iff.mp he
  obtain ⟨ts', hts', he'⟩ := Option.bind_eq_some_iff.mp he'
  rw [String.toList_ofList] at hts hts'
  exact ofTokens?_alike (h.tokens hts hts') he he'

end BoardLint.Query
