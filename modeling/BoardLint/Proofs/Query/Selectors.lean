import BoardLint.Query.Walk
import Mathlib.Data.List.Basic

set_option autoImplicit false

/-! # Selectors of a query

`Expr.selectors` finds the selectors of a query by walking through every expression inside it, and
`Expr.mapSelectors` changes them by a recursion of its own. Both are described by the direct parts
of an expression (`Expr.children`), so what holds of the parts holds of the whole
(`Expr.children_induction`). -/

namespace BoardLint.Expr

/-! ## Induction on the parts -/

theorem sizeOf_lt_of_mem_children {part e : Expr} (h : part ∈ e.children) :
    sizeOf part < sizeOf e := by
  cases e with
  | aggregate op grouping param body =>
      rw [aggregate.sizeOf_spec]
      cases param with
      | none =>
          obtain rfl := List.mem_singleton.mp h
          omega
      | some param =>
          rw [Option.some.sizeOf_spec]
          simp only [children, List.mem_cons, List.not_mem_nil, or_false] at h
          rcases h with rfl | rfl <;> omega
  | negate body =>
      obtain rfl := List.mem_singleton.mp h
      rw [negate.sizeOf_spec]
      omega
  | binary op modifier lhs rhs =>
      rw [binary.sizeOf_spec]
      simp only [children, List.mem_cons, List.not_mem_nil, or_false] at h
      rcases h with rfl | rfl <;> omega
  | paren body =>
      obtain rfl := List.mem_singleton.mp h
      rw [paren.sizeOf_spec]
      omega
  | subquery body range step instant offset =>
      obtain rfl := List.mem_singleton.mp h
      rw [subquery.sizeOf_spec]
      omega
  | call f args =>
      have : sizeOf part < sizeOf args := List.sizeOf_lt_of_mem h
      rw [call.sizeOf_spec]
      omega
  | number x => exact absurd h List.not_mem_nil
  | text s => exact absurd h List.not_mem_nil
  | vector s => exact absurd h List.not_mem_nil
  | matrix s range => exact absurd h List.not_mem_nil

/-- What holds of an expression whenever it holds of its direct parts holds of every expression. -/
@[elab_as_elim]
theorem children_induction {motive : Expr → Prop} (e : Expr)
    (parts : ∀ e : Expr, (∀ part ∈ e.children, motive part) → motive e) : motive e :=
  parts e fun part _ => children_induction part parts
termination_by sizeOf e
decreasing_by exact sizeOf_lt_of_mem_children ‹_›

/-! ## Selectors by parts -/

theorem walkAll_eq_flatMap (path : List Expr) (args : List Expr) :
    walkAll path args = args.flatMap (walkFrom path) := by
  induction args with
  | nil => rfl
  | cons e rest ih => rw [walkAll, ih, List.flatMap_cons]

/-- A walk visits the expression and then walks through its parts. -/
theorem walkFrom_eq (path : List Expr) (e : Expr) :
    walkFrom path e = ⟨path, e⟩ :: e.children.flatMap (walkFrom (path ++ [e])) := by
  cases e with
  | aggregate op grouping param body => cases param <;> simp [walkFrom, children]
  | call f args => simp [walkFrom, children, walkAll_eq_flatMap]
  | _ => simp [walkFrom, children]

theorem filterMap_walkFrom_eq (path : List Expr) (e : Expr) :
    (walkFrom path e).filterMap (fun v => v.expr.selector?) =
      e.selector?.toList ++ e.children.flatMap fun part =>
        (walkFrom (path ++ [e]) part).filterMap fun v => v.expr.selector? := by
  rw [walkFrom_eq, List.filterMap_cons, List.filterMap_flatMap]
  cases e.selector? <;> rfl

/-- The selectors that a walk finds do not depend on the path to where it begins. -/
theorem filterMap_walkFrom (path : List Expr) (e : Expr) :
    (walkFrom path e).filterMap (fun v => v.expr.selector?) = e.selectors := by
  induction e using children_induction generalizing path with
  | parts e ih =>
      rw [selectors, walk, filterMap_walkFrom_eq, filterMap_walkFrom_eq []]
      congr 1
      exact List.flatMap_congr fun part hpart => by rw [ih part hpart, ih part hpart]

/-- The selectors of an expression are its own and those of its parts. -/
theorem selectors_eq (e : Expr) :
    e.selectors = e.selector?.toList ++ e.children.flatMap selectors := by
  rw [← filterMap_walkFrom [] e, filterMap_walkFrom_eq]
  simp only [filterMap_walkFrom]

/-! ## Changes by parts -/

section MapSelectors

variable (f : Selector → Selector)

theorem run_visitAll (args : List Expr) :
    Id.run (visitAll (fun s => pure (f s)) args) = args.map (mapSelectors f) := by
  induction args with
  | nil => rfl
  | cons e rest ih =>
      rw [List.map_cons, ← ih]
      rfl

@[simp]
theorem mapSelectors_aggregate (op : AggregateOp) (grouping : Option Grouping)
    (param : Option Expr) (body : Expr) : (aggregate op grouping param body).mapSelectors f =
      aggregate op grouping (param.map (mapSelectors f)) (body.mapSelectors f) := by
  cases param <;> rfl

@[simp]
theorem mapSelectors_negate (body : Expr) :
    (negate body).mapSelectors f = negate (body.mapSelectors f) := rfl

@[simp]
theorem mapSelectors_binary (op : BinaryOp) (modifier : BinaryModifier) (lhs rhs : Expr) :
    (binary op modifier lhs rhs).mapSelectors f =
      binary op modifier (lhs.mapSelectors f) (rhs.mapSelectors f) := rfl

@[simp]
theorem mapSelectors_paren (body : Expr) :
    (paren body).mapSelectors f = paren (body.mapSelectors f) := rfl

@[simp]
theorem mapSelectors_subquery (body : Expr) (range : Duration) (step : Option Duration)
    (instant : Option Instant) (offset : Option Offset) :
    (subquery body range step instant offset).mapSelectors f =
      subquery (body.mapSelectors f) range step instant offset := rfl

@[simp]
theorem mapSelectors_call (name : String) (args : List Expr) :
    (call name args).mapSelectors f = call name (args.map (mapSelectors f)) :=
  congrArg (call name) (run_visitAll f args)

@[simp]
theorem mapSelectors_number (x : Binary64) : (number x).mapSelectors f = number x := rfl

@[simp]
theorem mapSelectors_text (s : String) : (text s).mapSelectors f = text s := rfl

@[simp]
theorem mapSelectors_vector (s : Selector) : (vector s).mapSelectors f = vector (f s) := rfl

@[simp]
theorem mapSelectors_matrix (s : Selector) (range : Duration) :
    (matrix s range).mapSelectors f = matrix (f s) range := rfl

end MapSelectors

theorem children_mapSelectors (f : Selector → Selector) (e : Expr) :
    (e.mapSelectors f).children = e.children.map (mapSelectors f) := by
  cases e with
  | aggregate op grouping param body => cases param <;> simp [children]
  | _ => simp [children]

theorem selector?_mapSelectors (f : Selector → Selector) (e : Expr) :
    (e.mapSelectors f).selector? = e.selector?.map f := by
  cases e with
  | _ => simp [selector?]

/-- The selectors after a change are the changed selectors, in the same order. -/
theorem selectors_mapSelectors (f : Selector → Selector) (e : Expr) :
    (e.mapSelectors f).selectors = e.selectors.map f := by
  induction e using children_induction with
  | parts e ih =>
      rw [selectors_eq, selector?_mapSelectors, children_mapSelectors, selectors_eq e,
        List.map_append, List.flatMap_map, List.map_flatMap]
      congr 1
      · cases e.selector? <;> rfl
      · exact List.flatMap_congr fun part hpart => ih part hpart

/-! ## Changes one after another -/

/-- Changes that agree on the selector of an expression and on its parts agree on it. -/
theorem mapSelectors_congr_parts {f g : Selector → Selector} {e : Expr}
    (hself : ∀ s ∈ e.selector?, f s = g s)
    (hparts : ∀ part ∈ e.children, part.mapSelectors f = part.mapSelectors g) :
    e.mapSelectors f = e.mapSelectors g := by
  cases e with
  | aggregate op grouping param body => cases param <;> simp_all [children]
  | call name args =>
      rw [mapSelectors_call, mapSelectors_call]
      exact congrArg (call name) (List.map_congr_left hparts)
  | _ => simp_all [children, selector?]

/-- Only what a change does to the selectors of the query counts. -/
theorem mapSelectors_congr {f g : Selector → Selector} {e : Expr}
    (h : ∀ s ∈ e.selectors, f s = g s) : e.mapSelectors f = e.mapSelectors g := by
  induction e using children_induction with
  | parts e ih =>
      rw [selectors_eq] at h
      refine mapSelectors_congr_parts (fun s hs => ?_)
        fun part hpart => ih part hpart fun s hs => ?_
      · exact h s (List.mem_append_left _ (Option.mem_toList.mpr hs))
      · exact h s (List.mem_append_right _ (List.mem_flatMap.mpr ⟨part, hpart, hs⟩))

theorem mapSelectors_mapSelectors (f g : Selector → Selector) (e : Expr) :
    (e.mapSelectors f).mapSelectors g = e.mapSelectors (g ∘ f) := by
  induction e using children_induction with
  | parts e ih =>
      cases e with
      | aggregate op grouping param body => cases param <;> simp_all [children]
      | call name args =>
          rw [mapSelectors_call, mapSelectors_call, mapSelectors_call, List.map_map]
          exact congrArg (call name) (List.map_congr_left ih)
      | _ => simp_all [children]

theorem mapSelectors_id (e : Expr) : e.mapSelectors id = e := by
  induction e using children_induction with
  | parts e ih =>
      cases e with
      | aggregate op grouping param body => cases param <;> simp_all [children]
      | call name args =>
          rw [mapSelectors_call]
          exact congrArg (call name) ((List.map_congr_left ih).trans (List.map_id' args))
      | _ => simp_all [children]

/-- A change that keeps the selectors of the query keeps the query. -/
theorem mapSelectors_eq_self {f : Selector → Selector} {e : Expr}
    (h : ∀ s ∈ e.selectors, f s = s) : e.mapSelectors f = e := by
  rw [mapSelectors_congr (g := id) h, mapSelectors_id]

end BoardLint.Expr
