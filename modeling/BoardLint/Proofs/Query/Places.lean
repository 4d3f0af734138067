import BoardLint.Proofs.Query.Selectors
import Mathlib.Data.List.Forall2

set_option autoImplicit false

/-! # Places of a query

A place says which way to go through a query: into which part of it, into which part of that, and so
on. `Expr.walk` shows the expression of every place once, in the order of the text, and the path
that it hands over is what stands at the places around (`Expr.walk_shows`). So the first expression
that a rule finds on a walk is the one at the first such place (`Expr.find?_walk_eq_some`). -/

namespace BoardLint.Expr

/-! ## Places -/

/-- A place in an expression: into which part to go, from the outside to the inside. -/
abbrev Place := List Nat

/-- The order of the text: an expression is before its parts, and a part with all inside it is
    before the parts to the right of it. -/
def Place.Before (a b : Place) : Prop := List.Lex (· < ·) a b

/-- The expression at a place. -/
def at? (e : Expr) : Place → Option Expr
  | [] => some e
  | i :: rest => e.children[i]?.bind fun part => part.at? rest

namespace Place.Before

variable {a b : Place} {i j : Nat}

theorem nil : Before [] (i :: a) := List.Lex.nil

theorem cons (h : Before a b) : Before (i :: a) (i :: b) := List.Lex.cons h

theorem of_lt (h : i < j) : Before (i :: a) (j :: b) := List.Lex.rel h

theorem irrefl (a : Place) : ¬ Before a a := List.lex_irrefl Nat.lt_irrefl a

theorem asymm (h : Before a b) : ¬ Before b a := List.lex_asymm (fun h => Nat.lt_asymm h) h

end Place.Before

/-! ## Visits of places -/

/-- The visit is that of a place: it shows the expression there, and its path is what stands at the
    places around, from the outside to the inside. -/
structure Visit.IsAt (e : Expr) (a : Place) (v : Visit) : Prop where
  expr : e.at? a = some v.expr
  length : v.path.length = a.length
  path : ∀ k < a.length, v.path[k]? = e.at? (a.take k)

/-- The visit of something in a part of an expression, seen from the expression. -/
def Visit.under (e : Expr) (v : Visit) : Visit := ⟨e :: v.path, v.expr⟩

theorem walkFrom_eq_map (path : List Expr) (e : Expr) :
    walkFrom path e = e.walk.map fun v => ⟨path ++ v.path, v.expr⟩ := by
  induction e using children_induction generalizing path with
  | parts e ih =>
      rw [walk, walkFrom_eq, walkFrom_eq [], List.map_cons, List.map_flatMap, List.append_nil]
      congr 1
      refine List.flatMap_congr fun part hpart => ?_
      rw [ih part hpart, ih part hpart ([] ++ [e]), List.map_map]
      simp [Function.comp_def]

/-- A walk shows the expression, and then what the walks through its parts show. -/
theorem walk_eq (e : Expr) :
    e.walk = ⟨[], e⟩ :: e.children.flatMap fun part => part.walk.map (Visit.under e) := by
  rw [walk, walkFrom_eq]
  congr 1
  refine List.flatMap_congr fun part _ => ?_
  rw [walkFrom_eq_map]
  rfl

namespace Visit.IsAt

variable {e part : Expr} {a : Place} {v w : Visit}

theorem root (e : Expr) : IsAt e [] ⟨[], e⟩ where
  expr := rfl
  length := rfl
  path := by simp

theorem under {i : Nat} (h : IsAt part a v) (hpart : e.children[i]? = some part) :
    IsAt e (i :: a) (v.under e) where
  expr := by
    rw [at?, hpart, Option.bind_some]
    exact h.expr
  length := by simp [Visit.under, h.length]
  path := by
    intro k hk
    cases k with
    | zero => rfl
    | succ k =>
        have hpath := h.path k (by simpa using hk)
        simpa [Visit.under, at?, hpart] using hpath

/-- A place has one visit. -/
theorem unique (hv : IsAt e a v) (hw : IsAt e a w) : v = w := by
  obtain ⟨path, x⟩ := v
  obtain ⟨path', x'⟩ := w
  have hexpr : x = x' := Option.some.inj (hv.expr.symm.trans hw.expr)
  have hpath : path = path' := by
    apply List.ext_getElem?
    intro k
    by_cases hk : k < a.length
    · exact (hv.path k hk).trans (hw.path k hk).symm
    · -- beyond the place both paths have ended
      have hlength : path.length = a.length := hv.length
      have hlength' : path'.length = a.length := hw.length
      rw [List.getElem?_eq_none (by omega), List.getElem?_eq_none (by omega)]
  rw [hexpr, hpath]

end Visit.IsAt

/-! ## Walks -/

/-- The visits are those of all places of an expression, each once, in the order of the places. -/
structure Shows (e : Expr) (places : List Place) (visits : List Visit) : Prop where
  increasing : places.Pairwise Place.Before
  complete : ∀ a, a ∈ places ↔ (e.at? a).isSome = true
  shown : List.Forall₂ (Visit.IsAt e) places visits

/-- What the walks through parts of an expression show, from the part with a number on. The places
    in the parts to the right begin with a greater number. -/
theorem exists_shown_parts {e : Expr} {parts : List Expr} {n : Nat}
    (hparts : ∀ i, parts[i]? = e.children[n + i]?)
    (h : ∀ part ∈ parts, ∃ places, Shows part places part.walk) :
    ∃ places : List Place, places.Pairwise Place.Before ∧
      (∀ a, a ∈ places ↔ ∃ i rest, a = i :: rest ∧ n ≤ i ∧ (e.at? a).isSome = true) ∧
      List.Forall₂ (Visit.IsAt e) places
        (parts.flatMap fun part => part.walk.map (Visit.under e)) := by
  induction parts generalizing n with
  | nil =>
      refine ⟨[], .nil, fun a => ⟨fun ha => absurd ha List.not_mem_nil, ?_⟩, .nil⟩
      rintro ⟨i, rest, rfl, hi, hsome⟩
      have hnone : e.children[i]? = none := by
        have := hparts (i - n)
        rwa [Nat.add_sub_cancel' hi, List.getElem?_nil, eq_comm] at this
      simp [at?, hnone] at hsome
  | cons part parts ih =>
      have hpart : e.children[n]? = some part := (hparts 0).symm
      obtain ⟨own, hown⟩ := h part List.mem_cons_self
      obtain ⟨others, hincreasing, hcomplete, hshown⟩ := ih (n := n + 1)
        (fun i => by rw [Nat.succ_add_eq_add_succ]; exact hparts (i + 1))
        (fun part hpart => h part (List.mem_cons_of_mem _ hpart))
      refine ⟨own.map (n :: ·) ++ others, ?_, fun a => ?_, ?_⟩
      · rw [List.pairwise_append, List.pairwise_map]
        refine ⟨hown.increasing.imp Place.Before.cons, hincreasing, ?_⟩
        intro a ha b hb
        obtain ⟨a, -, rfl⟩ := List.mem_map.mp ha
        obtain ⟨i, rest, rfl, hi, -⟩ := (hcomplete b).mp hb
        exact Place.Before.of_lt hi
      · rw [List.mem_append, List.mem_map, hcomplete]
        constructor
        · rintro (⟨a, ha, rfl⟩ | ⟨i, rest, rfl, hi, hsome⟩)
          · have hsome := (hown.complete a).mp ha
            exact ⟨n, a, rfl, Nat.le_refl n, by simpa [at?, hpart] using hsome⟩
          · exact ⟨i, rest, rfl, by omega, hsome⟩
        · rintro ⟨i, rest, rfl, hi, hsome⟩
          by_cases hin : i = n
          · subst hin
            rw [at?, hpart, Option.bind_some] at hsome
            exact Or.inl ⟨rest, (hown.complete rest).mpr hsome, rfl⟩
          · exact Or.inr ⟨i, rest, rfl, by omega, hsome⟩
      · rw [List.flatMap_cons]
        refine List.rel_append ?_ hshown
        rw [List.forall₂_map_left_iff, List.forall₂_map_right_iff]
        exact hown.shown.imp fun a v hv => hv.under hpart

/-- **A walk shows every place once, in order, with what stands around it.** -/
theorem walk_shows (e : Expr) : ∃ places, Shows e places e.walk := by
  induction e using children_induction with
  | parts e ih =>
      obtain ⟨others, hincreasing, hcomplete, hshown⟩ :=
        exists_shown_parts (n := 0) (fun i => by rw [Nat.zero_add]) ih
      refine ⟨[] :: others, List.pairwise_cons.mpr ⟨?_, hincreasing⟩, fun a => ?_, ?_⟩
      · intro a ha
        obtain ⟨i, rest, rfl, -⟩ := (hcomplete a).mp ha
        exact Place.Before.nil
      · rw [List.mem_cons, hcomplete]
        cases a with
        | nil => simp [at?]
        | cons i rest => simp
      · rw [walk_eq]
        exact .cons (Visit.IsAt.root e) hshown

/-! ## Searches -/

section Search

variable {e : Expr} {p : Visit → Bool} {v : Visit}

/-- The visits stand where their places do. -/
theorem Shows.getElem?_iff {places : List Place} {visits : List Visit} {i : Nat} {a : Place}
    (h : Shows e places visits) (ha : places[i]? = some a) :
    visits[i]? = some v ↔ v.IsAt e a := by
  obtain ⟨hlength, hshown⟩ := List.forall₂_iff_get.mp h.shown
  obtain ⟨hi, rfl⟩ := List.getElem?_eq_some_iff.mp ha
  have hat : (visits.get ⟨i, hlength ▸ hi⟩).IsAt e places[i] := hshown i hi (hlength ▸ hi)
  constructor
  · intro hv
    obtain ⟨_, rfl⟩ := List.getElem?_eq_some_iff.mp hv
    exact hat
  · intro hv
    rw [hv.unique hat]
    exact List.getElem?_eq_getElem _

theorem Shows.exists_getElem? {places : List Place} {visits : List Visit} {a : Place}
    (h : Shows e places visits) (hv : v.IsAt e a) :
    ∃ i : Nat, places[i]? = some a ∧ visits[i]? = some v := by
  have ha : a ∈ places := (h.complete a).mpr (by rw [hv.expr, Option.isSome_some])
  obtain ⟨i, hi⟩ := List.mem_iff_getElem?.mp ha
  exact ⟨i, hi, (h.getElem?_iff hi).mpr hv⟩

/-- There is a visit of every place. -/
theorem exists_isAt {a : Place} {x : Expr} (h : e.at? a = some x) :
    ∃ v : Visit, v.IsAt e a ∧ v.expr = x := by
  obtain ⟨places, hshows⟩ := walk_shows e
  have ha : a ∈ places := (hshows.complete a).mpr (by rw [h, Option.isSome_some])
  obtain ⟨i, hi⟩ := List.mem_iff_getElem?.mp ha
  have hlt : i < e.walk.length := by
    rw [← hshows.shown.length_eq]
    exact (List.getElem?_eq_some_iff.mp hi).1
  have hat := (hshows.getElem?_iff hi).mp (List.getElem?_eq_getElem hlt)
  exact ⟨e.walk[i], hat, Option.some.inj (hat.expr.symm.trans h)⟩

theorem mem_walk_iff : v ∈ e.walk ↔ ∃ a, v.IsAt e a := by
  obtain ⟨places, hshows⟩ := walk_shows e
  constructor
  · intro hv
    obtain ⟨i, hi⟩ := List.mem_iff_getElem?.mp hv
    have hlt : i < places.length := by
      rw [hshows.shown.length_eq]
      exact (List.getElem?_eq_some_iff.mp hi).1
    exact ⟨places[i], (hshows.getElem?_iff (List.getElem?_eq_getElem hlt)).mp hi⟩
  · rintro ⟨a, ha⟩
    obtain ⟨i, -, hi⟩ := hshows.exists_getElem? ha
    exact List.mem_of_getElem? hi

/-- A walk finds nothing if there is nothing to be found at any place. -/
theorem find?_walk_eq_none : e.walk.find? p = none ↔ ∀ a w, w.IsAt e a → p w = false := by
  simp only [List.find?_eq_none, mem_walk_iff, Bool.not_eq_true]
  exact ⟨fun h a w hw => h w ⟨a, hw⟩, fun h w ⟨a, hw⟩ => h a w hw⟩

/-- What a walk finds is at the first place where there is something to be found. -/
theorem find?_walk_eq_some (h : e.walk.find? p = some v) :
    ∃ a, v.IsAt e a ∧ p v = true ∧ ∀ b w, Place.Before b a → w.IsAt e b → p w = false := by
  obtain ⟨places, hshows⟩ := walk_shows e
  obtain ⟨hpv, i, hi, rfl, hearlier⟩ := List.find?_eq_some_iff_getElem.mp h
  have hlt : i < places.length := by rwa [hshows.shown.length_eq]
  have hplace := List.getElem?_eq_getElem hlt
  refine ⟨places[i], (hshows.getElem?_iff hplace).mp (List.getElem?_eq_getElem hi), hpv, ?_⟩
  intro b w hb hw
  obtain ⟨j, hj, hwj⟩ := hshows.exists_getElem? hw
  obtain ⟨hjlt, rfl⟩ := List.getElem?_eq_some_iff.mp hj
  -- a place that is earlier is also listed earlier
  have hji : j < i := by
    rcases Nat.lt_trichotomy j i with hji | rfl | hij
    · exact hji
    · exact absurd hb (Place.Before.irrefl _)
    · exact absurd hb (List.pairwise_iff_getElem.mp hshows.increasing i j hlt hjlt hij).asymm
  obtain ⟨_, rfl⟩ := List.getElem?_eq_some_iff.mp hwj
  simpa using hearlier j hji

end Search

end BoardLint.Expr
