import BoardLint.Proofs.Query.Selectors
import Mathlib.Data.List.Forall2

set_option autoImplicit false

/-! # Visits of selectors

A check reads the selectors of a query off a walk (`Expr.selectors`); a repair visits them by a
recursion of its own (`Expr.visitSelectors`). The two agree: whatever the visits do, they are made
at the selectors of the walk, in the same order and once each, and nothing else of the query changes
(`Expr.SameOutline`). -/

namespace BoardLint.Expr

/-! ## Outlines -/

/-- The expression with blanks in place of its selector and its parts. -/
def head : Expr → Expr
  | .aggregate op grouping param _ => .aggregate op grouping (param.map fun _ => default) default
  | .negate _ => .negate default
  | .binary op modifier _ _ => .binary op modifier default default
  | .paren _ => .paren default
  | .subquery _ range step instant offset => .subquery default range step instant offset
  | .number x => .number x
  | .text s => .text s
  | .vector _ => .vector ⟨none, [], [], none, none⟩
  | .matrix _ range => .matrix ⟨none, [], [], none, none⟩ range
  | .call f _ => .call f []

/-- Two expressions differ in their selectors at most. -/
inductive SameOutline : Expr → Expr → Prop
  | parts {e e' : Expr} (hhead : e'.head = e.head)
      (hparts : List.Forall₂ SameOutline e.children e'.children) : SameOutline e e'

/-- Nothing belongs to an expression besides its head, its selector and its parts. -/
theorem eq_of_head {e e' : Expr} (hhead : e'.head = e.head) (hself : e'.selector? = e.selector?)
    (hparts : e'.children = e.children) : e' = e := by
  cases e with
  | aggregate op grouping param body =>
      cases e' with
      | aggregate op' grouping' param' body' =>
          cases param <;> cases param' <;> simp_all [head, children]
      | _ => simp [head] at hhead
  | _ => cases e' <;> simp_all [head, selector?, children]

theorem length_selector?_of_head {e e' : Expr} (h : e'.head = e.head) :
    e'.selector?.toList.length = e.selector?.toList.length := by
  cases e <;> cases e' <;> simp_all [head, selector?]

theorem SameOutline.length_selectors {e e' : Expr} (h : SameOutline e e') :
    e'.selectors.length = e.selectors.length := by
  induction e using children_induction generalizing e' with
  | parts e ih =>
      obtain ⟨hhead, hparts⟩ := h
      have hlengths : List.Forall₂ (fun part part' : Expr =>
          part.selectors.length = part'.selectors.length) e.children e'.children :=
        ((List.forall₂_and_left _ _).mpr ⟨ih, hparts⟩).imp fun _ _ hpart => (hpart.1 hpart.2).symm
      have hmaps : e.children.map (fun part => part.selectors.length) =
          e'.children.map fun part => part.selectors.length := by
        rw [← List.forall₂_eq_eq_eq, List.forall₂_map_left_iff, List.forall₂_map_right_iff]
        exact hlengths
      rw [selectors_eq, selectors_eq e, List.length_append, List.length_append,
        length_selector?_of_head hhead, List.length_flatMap, List.length_flatMap, hmaps]

/-- Expressions with the same selectors are the same if each is known from its own selectors: those
    of one expression begin where those of the expressions before it end. -/
theorem eq_of_flatMap_selectors {es es' : List Expr}
    (h : List.Forall₂ (fun e e' : Expr => e'.selectors.length = e.selectors.length ∧
      (e'.selectors = e.selectors → e' = e)) es es')
    (hselectors : es'.flatMap selectors = es.flatMap selectors) : es' = es := by
  induction h with
  | nil => rfl
  | cons hfirst _ ih =>
      rw [List.flatMap_cons, List.flatMap_cons] at hselectors
      obtain ⟨hown, hrest⟩ := List.append_inj hselectors hfirst.1
      rw [hfirst.2 hown, ih hrest]

/-- An outline and the selectors in it make up an expression. -/
theorem SameOutline.eq_of_selectors {e e' : Expr} (h : SameOutline e e')
    (hselectors : e'.selectors = e.selectors) : e' = e := by
  induction e using children_induction generalizing e' with
  | parts e ih =>
      obtain ⟨hhead, hparts⟩ := h
      rw [selectors_eq, selectors_eq e] at hselectors
      obtain ⟨hself, hrest⟩ := List.append_inj hselectors (length_selector?_of_head hhead)
      have hchildren : e'.children = e.children := by
        refine eq_of_flatMap_selectors ?_ hrest
        refine ((List.forall₂_and_left _ _).mpr ⟨ih, hparts⟩).imp fun part part' hpart => ?_
        exact ⟨hpart.2.length_selectors, hpart.1 hpart.2⟩
      have hself? : e'.selector? = e.selector? := by
        have := congrArg List.head? hself
        rwa [Option.head?_toList, Option.head?_toList] at this
      exact eq_of_head hhead hself? hchildren

/-! ## Visits with a state -/

section State

variable {σ : Type} (visit : Selector → StateM σ Selector)

theorem run_mapM_append (xs ys : List Selector) (st : σ) :
    ((xs ++ ys).mapM visit).run st =
      let first := (xs.mapM visit).run st
      let second := (ys.mapM visit).run first.2
      (first.1 ++ second.1, second.2) := by
  rw [List.mapM_append]
  rfl

/-- An expression is visited at its own selector and then in its parts, and keeps its head. -/
theorem visitSelectors_step (e : Expr) (st : σ) :
    let own := (e.selector?.toList.mapM visit).run st
    let parts := (visitAll visit e.children).run own.2
    let after := (e.visitSelectors visit).run st
    after.2 = parts.2 ∧ after.1.head = e.head ∧ after.1.selector?.toList = own.1 ∧
      after.1.children = parts.1 := by
  cases e with
  | aggregate op grouping param body => cases param <;> exact ⟨rfl, rfl, rfl, rfl⟩
  | _ => exact ⟨rfl, rfl, rfl, rfl⟩

/-- The visits of an expression are those of the list of its selectors: they end in the same state,
    and what they return is put in the places of the selectors. -/
structure Agrees (e : Expr) (st : σ) : Prop where
  state : ((e.visitSelectors visit).run st).2 = ((e.selectors.mapM visit).run st).2
  selectors : ((e.visitSelectors visit).run st).1.selectors = ((e.selectors.mapM visit).run st).1
  outline : SameOutline e ((e.visitSelectors visit).run st).1

variable {visit}

theorem visitAll_agrees {es : List Expr} (h : ∀ e ∈ es, ∀ st, Agrees visit e st) (st : σ) :
    let after := (visitAll visit es).run st
    let listed := ((es.flatMap selectors).mapM visit).run st
    after.2 = listed.2 ∧ after.1.flatMap selectors = listed.1 ∧
      List.Forall₂ SameOutline es after.1 := by
  induction es generalizing st with
  | nil => exact ⟨rfl, rfl, .nil⟩
  | cons e rest ih =>
      obtain ⟨hstate, hselectors, houtline⟩ := h e List.mem_cons_self st
      obtain ⟨hrest, hrestSelectors, hrestOutline⟩ :=
        ih (fun part hpart => h part (List.mem_cons_of_mem _ hpart))
          ((e.visitSelectors visit).run st).2
      rw [List.flatMap_cons, run_mapM_append]
      simp only [← hstate, ← hselectors, ← hrest, ← hrestSelectors]
      exact ⟨rfl, List.flatMap_cons, .cons houtline hrestOutline⟩

variable (visit)

theorem visitSelectors_agrees (e : Expr) (st : σ) : Agrees visit e st := by
  induction e using children_induction generalizing st with
  | parts e ih =>
      obtain ⟨hstate, hhead, hself, hparts⟩ := visitSelectors_step visit e st
      obtain ⟨hpartsState, hpartsSelectors, hpartsOutline⟩ :=
        visitAll_agrees ih ((e.selector?.toList.mapM visit).run st).2
      have hlisted := run_mapM_append visit e.selector?.toList (e.children.flatMap selectors) st
      rw [← selectors_eq] at hlisted
      refine ⟨?_, ?_, .parts hhead (hparts ▸ hpartsOutline)⟩
      · rw [hstate, hlisted, hpartsState]
      · rw [selectors_eq, hself, hparts, hlisted, hpartsSelectors]

end State

/-! ## Visits that change each selector by a function -/

theorem head_mapSelectors (f : Selector → Selector) (e : Expr) :
    (e.mapSelectors f).head = e.head := by
  cases e with
  | aggregate op grouping param body => cases param <;> rfl
  | _ => rfl

theorem sameOutline_mapSelectors (f : Selector → Selector) (e : Expr) :
    SameOutline e (e.mapSelectors f) := by
  induction e using children_induction with
  | parts e ih =>
      refine .parts (head_mapSelectors f e) ?_
      rw [children_mapSelectors]
      exact List.forall₂_map_right_iff.mpr (List.forall₂_same.mpr ih)

theorem SameOutline.mapSelectors_left {e e' : Expr} (h : SameOutline e e')
    (f : Selector → Selector) : SameOutline (e.mapSelectors f) e' := by
  induction e using children_induction generalizing e' with
  | parts e ih =>
      obtain ⟨hhead, hparts⟩ := h
      refine .parts (hhead.trans (head_mapSelectors f e).symm) ?_
      rw [children_mapSelectors, List.forall₂_map_left_iff]
      exact ((List.forall₂_and_left _ _).mpr ⟨ih, hparts⟩).imp fun _ _ hpart => hpart.1 hpart.2

/-- A visit that changes the selector by a function and notes that it was there. -/
def noted (f : Selector → Selector) (s : Selector) : StateM (List Selector) Selector := do
  modify fun log => log ++ [s]
  return f s

theorem run_mapM_noted (f : Selector → Selector) (xs log : List Selector) :
    (xs.mapM (noted f)).run log = (xs.map f, log ++ xs) := by
  induction xs generalizing log with
  | nil => exact Prod.ext rfl (List.append_nil log).symm
  | cons s rest ih =>
      have hcons : ((s :: rest).mapM (noted f)).run log =
          let after := (rest.mapM (noted f)).run (log ++ [s])
          (f s :: after.1, after.2) := by
        rw [List.mapM_cons]
        rfl
      rw [hcons, ih]
      simp

/-- **What a walk finds is what a change reaches.** After a change of the selectors of a query, the
    walk finds the changed selectors, as many and in the same order, and the rest of the query is as
    it was; there is no other such query. The visits that make the change come to every selector
    once, in the order of the walk. So a check of the changed query sees the matchers of the changed
    selectors. -/
theorem selectors_visited_once (f : Selector → Selector) (e : Expr) :
    (e.mapSelectors f).selectors = e.selectors.map f ∧
    (e.mapSelectors f).selectors.length = e.selectors.length ∧
    SameOutline e (e.mapSelectors f) ∧
    (∀ e', SameOutline e e' → e'.selectors = e.selectors.map f → e' = e.mapSelectors f) ∧
    (e.visitSelectors (noted f)).run [] = (e.mapSelectors f, e.selectors) ∧
    (e.mapSelectors f).selectors.map Selector.labelMatchers =
      e.selectors.map fun s => (f s).labelMatchers := by
  have hselectors := selectors_mapSelectors f e
  have houtline := sameOutline_mapSelectors f e
  have honly : ∀ e', SameOutline e e' → e'.selectors = e.selectors.map f →
      e' = e.mapSelectors f := fun e' he' hs =>
    (he'.mapSelectors_left f).eq_of_selectors (hs.trans hselectors.symm)
  refine ⟨hselectors, by rw [hselectors, List.length_map], houtline, honly, ?_, ?_⟩
  · -- the visits leave an expression with these selectors, and there is only one
    obtain ⟨hstate, hvisited, hsame⟩ := visitSelectors_agrees (noted f) e []
    rw [run_mapM_noted] at hstate hvisited
    exact Prod.ext (honly _ hsame hvisited) hstate
  · rw [hselectors, List.map_map]
    rfl

/-- An aggregation has a selector in its parameter and another, with a range, in its body. -/
theorem selectors_visited_once_parameter :
    let up : Selector := ⟨some "up", [], [], none, none⟩
    let down : Selector := ⟨some "down", [], [], none, none⟩
    let f (s : Selector) : Selector := { s with matchers := [⟨"job", .equal, "node"⟩] }
    let query (s t : Selector) : Expr :=
      .aggregate .topk none (some (.call "scalar" [.vector s]))
        (.call "rate" [.matrix t (.ofSeconds 300)])
    (SameOutline (query up down) (query (f up) (f down)) ∧
      (query (f up) (f down)).selectors = (query up down).selectors.map f) ∧
    query (f up) (f down) = (query up down).mapSelectors f ∧
    ((query up down).visitSelectors (noted f)).run [] = (query (f up) (f down), [up, down]) := by
  intro up down f query
  obtain ⟨-, -, -, honly, hvisits, -⟩ := selectors_visited_once f (query up down)
  have houtline : SameOutline (query up down) (query (f up) (f down)) :=
    .parts rfl (.cons (.parts rfl (.cons (.parts rfl .nil) .nil))
      (.cons (.parts rfl (.cons (.parts rfl .nil) .nil)) .nil))
  have hselectors : (query (f up) (f down)).selectors = (query up down).selectors.map f := rfl
  have hchanged := honly _ houtline hselectors
  refine ⟨⟨houtline, hselectors⟩, hchanged, ?_⟩
  rw [hvisits, ← hchanged]
  rfl

end BoardLint.Expr
