import BoardLint.Proofs.Query.Selectors

set_option autoImplicit false

/-! # Choices of series

Which series a query chooses is said by its selectors, apart from the times. The builders of
expressions keep the choices of the parts and put them one after another (`Expr.choices_eq`), and
only a selector adds one. -/

namespace BoardLint

/-- A matcher with another value. -/
def Matcher.mapValue (f : List Char → List Char) (m : Matcher) : Matcher :=
  ⟨m.name, m.op, String.ofList (f m.value.toList)⟩

namespace Selector

/-- A selector with other values in its matchers. -/
def mapValues (f : List Char → List Char) (s : Selector) : Selector :=
  { s with
    matchers := s.matchers.map (Matcher.mapValue f)
    groups := s.groups.map (List.map (Matcher.mapValue f)) }

/-- A selector at no particular time. -/
def timeless (s : Selector) : Selector := { s with instant := none, offset := none }

end Selector

namespace Expr

/-- The series that the selectors of a query choose, whatever the times. -/
def choices (e : Expr) : List Selector := e.selectors.map Selector.timeless

theorem choices_eq (e : Expr) :
    e.choices = (e.selector?.map Selector.timeless).toList ++ e.children.flatMap choices := by
  rw [choices, selectors_eq, List.map_append, List.map_flatMap]
  cases e.selector? <;> rfl

@[simp]
theorem choices_vector (s : Selector) : (vector s).choices = [s.timeless] := by
  rw [choices_eq]
  rfl

@[simp]
theorem choices_matrix (s : Selector) (d : Duration) : (matrix s d).choices = [s.timeless] := by
  rw [choices_eq]
  rfl

@[simp]
theorem choices_number (x : Binary64) : (number x).choices = [] := by
  rw [choices_eq]
  rfl

@[simp]
theorem choices_text (s : String) : (text s).choices = [] := by
  rw [choices_eq]
  rfl

@[simp]
theorem choices_paren (e : Expr) : (paren e).choices = e.choices := by
  rw [choices_eq]
  simp [selector?, children]

@[simp]
theorem choices_subquery (e : Expr) (d : Duration) (step : Option Duration) (i : Option Instant)
    (o : Option Offset) : (subquery e d step i o).choices = e.choices := by
  rw [choices_eq]
  simp [selector?, children]

section Builders

variable {e e₁ e₂ : Expr}

theorem choices_ofSelector? {s : Selector} (h : ofSelector? s = some e) :
    e.choices = [s.timeless] := by
  unfold ofSelector? at h
  split at h
  · cases h
    exact choices_vector s
  · cases h

theorem choices_range? {d : Duration} (h : e.range? d = some e₁) : e₁.choices = e.choices := by
  unfold range? at h
  split at h
  · split at h
    · cases h
      simp
    · cases h
  · cases h

theorem choices_subquery? {d : Duration} {step : Option Duration}
    (h : e.subquery? d step = some e₁) : e₁.choices = e.choices := by
  unfold subquery? at h
  split at h
  · cases h
    exact choices_subquery ..
  · cases h

theorem choices_withOffset? {o : Offset} (h : e.withOffset? o = some e₁) :
    e₁.choices = e.choices := by
  unfold withOffset? at h
  split at h
  · split at h <;> cases h
    simp [Selector.timeless]
  · split at h <;> cases h
    simp [Selector.timeless]
  · cases h
    simp
  · cases h

theorem choices_withInstant? {i : Instant} (h : e.withInstant? i = some e₁) :
    e₁.choices = e.choices := by
  unfold withInstant? at h
  split at h
  · split at h <;> cases h
    simp [Selector.timeless]
  · split at h <;> cases h
    simp [Selector.timeless]
  · cases h
    simp
  · cases h

theorem choices_negate? (h : e.negate? = some e₁) : e₁.choices = e.choices := by
  unfold negate? at h
  split at h
  · cases h
    simp
  · split at h
    · cases h
      rw [choices_eq]
      simp [selector?, children]
    · cases h

theorem choices_binary? {op : BinaryOp} {m : BinaryModifier} (h : binary? op m e₁ e₂ = some e) :
    e.choices = e₁.choices ++ e₂.choices := by
  unfold binary? at h
  split at h
  · cases h
    rw [choices_eq]
    simp [selector?, children]
  · cases h

theorem choices_aggregate? {op : AggregateOp} {g : Option Grouping} {args : List Expr}
    (h : aggregate? op g args = some e) : e.choices = args.flatMap choices := by
  unfold aggregate? at h
  split at h
  · split at h <;> cases h
    exact choices_eq _
  · split at h <;> cases h
    exact choices_eq _
  · cases h

theorem choices_call? {name : String} {args : List Expr} (h : call? name args = some e) :
    e.choices = args.flatMap choices := by
  obtain ⟨f, -, h⟩ := Option.bind_eq_some_iff.mp h
  dsimp only at h
  split at h
  · cases h
    exact choices_eq _
  · cases h

end Builders

/-- Two queries that choose the same series, but for the values of the matchers. -/
def Alike (f : List Char → List Char) (e e' : Expr) : Prop :=
  e'.choices = e.choices.map (Selector.mapValues f)

/-- The same of the arguments of a call. -/
def AllAlike (f : List Char → List Char) (args args' : List Expr) : Prop :=
  args'.flatMap choices = (args.flatMap choices).map (Selector.mapValues f)

/-- Expressions that are built from parts that choose the same series do so too. -/
theorem Alike.of_choices_eq {f : List Char → List Char} {e e' e₁ e₁' : Expr} (h : e.Alike f e')
    (heq : e₁.choices = e.choices) (heq' : e₁'.choices = e'.choices) : e₁.Alike f e₁' := by
  rw [Alike, heq, heq']
  exact h

end Expr

end BoardLint
