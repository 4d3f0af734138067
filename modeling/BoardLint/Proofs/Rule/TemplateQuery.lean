import BoardLint.Proofs.Variable.Naming
import BoardLint.Rule.TemplateQuery

set_option autoImplicit false

/-! # Queries inside the queries of template variables

`Rule.embeddedQuery?` takes a text apart from both ends: blanks, the name of a function, the closing
parenthesis, and for `label_values` the label behind the last comma. `Rule.Calls` puts the same
texts together. Since nothing but the label is kept free of commas, the query in the middle may hold
any commas, parentheses, quotes and lines of its own. -/

namespace BoardLint

/-! ## Blanks -/

namespace Text

/-- The text has no character but blanks. -/
def Blank (text : List Char) : Prop := ∀ c ∈ text, isBlank c = true

theorem blank_reverse {text : List Char} : Blank text.reverse ↔ Blank text := by
  simp only [Blank, List.mem_reverse]

theorem exists_blank_dropWhile (text : List Char) :
    ∃ w, Blank w ∧ text = w ++ text.dropWhile isBlank :=
  ⟨text.takeWhile isBlank, fun _ hc => List.mem_takeWhile_imp hc,
    List.takeWhile_append_dropWhile.symm⟩

theorem dropWhile_blank_append {w rest : List Char} (hw : Blank w)
    (hrest : ∀ c ∈ rest.head?, isBlank c = false) : (w ++ rest).dropWhile isBlank = rest := by
  rw [List.dropWhile_append_of_pos hw]
  cases rest with
  | nil => rfl
  | cons c rest => rw [List.dropWhile_cons_of_neg (by simp [hrest c rfl])]

theorem exists_trimEnd_append (text : List Char) :
    ∃ w, Blank w ∧ text = trimEnd text ++ w := by
  obtain ⟨w, hw, htext⟩ := exists_blank_dropWhile text.reverse
  refine ⟨w.reverse, blank_reverse.mpr hw, ?_⟩
  have hback := congrArg List.reverse htext
  rwa [List.reverse_reverse, List.reverse_append] at hback

theorem trimEnd_append_blank {front w : List Char} {c : Char} (hw : Blank w)
    (hc : isBlank c = false) : trimEnd (front ++ c :: w) = front ++ [c] := by
  have hreverse : (front ++ c :: w).reverse = w.reverse ++ c :: front.reverse := by simp
  rw [trimEnd, hreverse, dropWhile_blank_append (blank_reverse.mpr hw) (by simpa using hc)]
  simp

theorem trim_eq_nil_iff {text : List Char} : trim text = [] ↔ Blank text := by
  rw [trim, trimEnd, List.reverse_eq_nil_iff, List.dropWhile_eq_nil_iff, ← Blank, blank_reverse]
  constructor
  · intro h c hc
    rw [← List.takeWhile_append_dropWhile (p := isBlank) (l := text)] at hc
    rcases List.mem_append.mp hc with hc | hc
    · exact List.mem_takeWhile_imp hc
    · exact h c hc
  · intro h c hc
    exact h c ((List.dropWhile_sublist _).mem hc)

end Text

namespace Rule

open Text (Blank)

/-! ## Functions and arguments -/

/-- A text that can be the name of a function: it begins with no blank and has no parenthesis. -/
def IsFunction (function : String) : Prop :=
  (∃ c rest, function.toList = c :: rest ∧ Text.isBlank c = false) ∧ '(' ∉ function.toList

/-- The argument of a function is all between the first parenthesis and the last. -/
theorem argument?_eq_some_iff {function : String} {text argument : List Char}
    (hfunction : IsFunction function) : argument? function text = some argument ↔
      ∃ w w', Blank w ∧ Blank w' ∧
        text = w ++ function.toList ++ '(' :: argument ++ ')' :: w' := by
  unfold argument?
  simp only [Option.bind_eq_bind, Option.bind_eq_some_iff, Text.after?_eq_some_iff,
    Text.before?_eq_some_iff]
  constructor
  · rintro ⟨inner, hinner, hargument⟩
    obtain ⟨w, hw, htext⟩ := Text.exists_blank_dropWhile text
    obtain ⟨w', hw', hend⟩ := Text.exists_trimEnd_append inner
    refine ⟨w, w', hw, hw', ?_⟩
    rw [hargument] at hend
    rw [htext, hinner, hend]
    simp
  · rintro ⟨w, w', hw, hw', rfl⟩
    refine ⟨argument ++ ')' :: w', ?_, Text.trimEnd_append_blank hw' (by decide)⟩
    have hsplit : w ++ function.toList ++ '(' :: argument ++ ')' :: w' =
        w ++ (function.toList ++ ['('] ++ (argument ++ ')' :: w')) := by simp
    obtain ⟨c, rest, hname, hc⟩ := hfunction.1
    rw [hsplit, Text.dropWhile_blank_append hw]
    rw [hname]
    simpa using hc

/-- A text calls one function only. -/
theorem function_unique {function function' : String} {text argument argument' : List Char}
    (hfunction : IsFunction function) (hfunction' : IsFunction function')
    (h : argument? function text = some argument) (h' : argument? function' text = some argument') :
    function = function' := by
  unfold argument? at h h'
  simp only [Option.bind_eq_bind, Option.bind_eq_some_iff, Text.after?_eq_some_iff] at h h'
  obtain ⟨inner, hinner, -⟩ := h
  obtain ⟨inner', hinner', -⟩ := h'
  -- both names end at the first parenthesis
  have hname : ∀ {function : String} (inner : List Char), IsFunction function →
      (function.toList ++ ['('] ++ inner).takeWhile (· != '(') = function.toList := by
    intro function inner hfunction
    rw [List.append_assoc]
    exact Variable.takeWhile_append_of_not_mem hfunction.2 inner
  rw [← String.toList_inj, ← hname inner hfunction, ← hinner, hinner', hname inner' hfunction']

/-! ## The label -/

theorem lastComma?_append {query label : List Char} (h : ',' ∉ label) :
    lastComma? (query ++ ',' :: label) = some (query, label) := by
  have hreverse : (query ++ ',' :: label).reverse = label.reverse ++ ',' :: query.reverse := by
    simp
  have hlast : ((query ++ ',' :: label).reverse.takeWhile (· != ',')).reverse = label := by
    rw [hreverse, Variable.takeWhile_append_of_not_mem (by simpa using h), List.reverse_reverse]
  have hlength : (query ++ ',' :: label).length - label.length - 1 = query.length := by
    rw [List.length_append, List.length_cons]
    omega
  simp only [lastComma?, hlast, hlength, List.take_left]
  rw [if_pos]
  rw [List.length_append, List.length_cons]
  omega

theorem lastComma?_eq_some_iff {text query label : List Char} :
    lastComma? text = some (query, label) ↔ text = query ++ ',' :: label ∧ ',' ∉ label := by
  constructor
  · intro h
    rcases Variable.eq_takeWhile_or_append text.reverse ',' with htext | ⟨rest, htext⟩
    · -- without a comma the last part is the whole text
      have hlast : (text.reverse.takeWhile (· != ',')).reverse = text := by
        rw [← htext, List.reverse_reverse]
      simp only [lastComma?, hlast, Nat.lt_irrefl, if_false] at h
      exact absurd h (by simp)
    · have hsplit := congrArg List.reverse htext
      rw [List.reverse_reverse, List.reverse_append, List.reverse_cons, List.append_assoc,
        List.singleton_append] at hsplit
      have hcomma : ',' ∉ (text.reverse.takeWhile (· != ',')).reverse := by
        intro hmem
        exact absurd (List.mem_takeWhile_imp (List.mem_reverse.mp hmem)) (by simp)
      rw [hsplit, lastComma?_append hcomma] at h
      obtain ⟨rfl, rfl⟩ := Prod.mk.inj (Option.some.inj h)
      exact ⟨hsplit, hcomma⟩
  · rintro ⟨rfl, hlabel⟩
    exact lastComma?_append hlabel

/-! ## Queries -/

theorem nonBlank_eq_some_iff {query x : List Char} :
    nonBlank query = some x ↔ ¬ Blank query ∧ x = Text.trim query := by
  unfold nonBlank
  rw [← Text.trim_eq_nil_iff]
  cases Text.trim query with
  | nil => simp
  | cons c rest => simp [eq_comm]

/-- An argument of `label_values` with a comma has its query before the last one. -/
theorem labelValues?_eq_some_iff {argument x : List Char} :
    labelValues? argument = some (some x) ↔ ∃ query label, argument = query ++ ',' :: label ∧
      label ≠ [] ∧ ',' ∉ label ∧ nonBlank query = some x := by
  unfold labelValues?
  constructor
  · intro h
    split at h
    · exact absurd h (by simp)
    · split at h
      · next query label hcomma =>
          split at h
          · exact absurd h (by simp)
          · next hempty =>
              obtain ⟨hargument, hlabel⟩ := lastComma?_eq_some_iff.mp hcomma
              simp only [Bool.or_eq_true, List.isEmpty_iff, not_or] at hempty
              exact ⟨query, label, hargument, hempty.2, hlabel, Option.some.inj h⟩
      · exact absurd h (by simp)
  · rintro ⟨query, label, rfl, hne, hlabel, hquery⟩
    have hbare : ¬ ((query ++ ',' :: label).all
        fun c => c != ',' && c != '(' && c != ')') = true := by simp
    have hnonempty : ¬ (query.isEmpty || label.isEmpty) = true := by
      simp only [Bool.or_eq_true, List.isEmpty_iff, not_or]
      refine ⟨?_, hne⟩
      rintro rfl
      exact (nonBlank_eq_some_iff.mp hquery).1 (List.forall_mem_nil _)
    rw [if_neg hbare, lastComma?_append hlabel]
    simp only [if_neg hnonempty, hquery]

/-- The functions whose whole argument is a query. -/
def queryFunctions : List String := ["metrics", "label_names", "query_result"]

theorem isFunction_label_values : IsFunction "label_values" :=
  ⟨⟨'l', _, rfl, by decide⟩, by decide⟩

theorem isFunction_of_mem {function : String} (h : function ∈ queryFunctions) :
    IsFunction function := by
  simp only [queryFunctions, List.mem_cons, List.not_mem_nil, or_false] at h
  rcases h with rfl | rfl | rfl
  · exact ⟨⟨'m', _, rfl, by decide⟩, by decide⟩
  · exact ⟨⟨'l', _, rfl, by decide⟩, by decide⟩
  · exact ⟨⟨'q', _, rfl, by decide⟩, by decide⟩

/-- A call of a function on a query, with blanks around it. The query is followed by a label in the
    case of `label_values`, and is all of the argument otherwise. -/
inductive Calls : List Char → List Char → Prop
  | labelValues {w w' query label : List Char} (hw : Blank w) (hw' : Blank w') (hne : label ≠ [])
      (hlabel : ',' ∉ label) :
      Calls (w ++ "label_values".toList ++ '(' :: (query ++ ',' :: label) ++ ')' :: w') query
  | function {function : String} {w w' query : List Char} (hfunction : function ∈ queryFunctions)
      (hw : Blank w) (hw' : Blank w') :
      Calls (w ++ function.toList ++ '(' :: query ++ ')' :: w') query

theorem embeddedQuery?_labelValues {text argument : List Char}
    (h : argument? "label_values" text = some argument) :
    embeddedQuery? text = labelValues? argument := by
  unfold embeddedQuery?
  rw [h]

/-- The fewest characters that a function takes as its query. -/
def leastQuery (function : String) : Nat := if function = "label_names" then 0 else 1

/-- All functions but `label_values` are read alike. -/
theorem embeddedQuery?_function {function : String} {text argument : List Char}
    (hfunction : function ∈ queryFunctions) (h : argument? function text = some argument) :
    embeddedQuery? text =
      if argument.length < leastQuery function then none else some (nonBlank argument) := by
  have hnone : ∀ function', IsFunction function' → function' ≠ function →
      argument? function' text = none := by
    intro function' hfunction' hne
    rw [Option.eq_none_iff_forall_ne_some]
    intro argument' h'
    exact hne (function_unique hfunction' (isFunction_of_mem hfunction) h' h)
  have hlabel : argument? "label_values" text = none := by
    refine hnone _ isFunction_label_values ?_
    rintro rfl
    exact absurd hfunction (by decide)
  unfold embeddedQuery?
  simp only [hlabel]
  simp only [queryFunctions, List.mem_cons, List.not_mem_nil, or_false] at hfunction
  rcases hfunction with rfl | rfl | rfl
  · simp only [h]
    cases argument <;> simp [leastQuery]
  · simp only [h, hnone "metrics" (isFunction_of_mem (by decide)) (by decide)]
    simp [leastQuery]
  · simp only [h, hnone "metrics" (isFunction_of_mem (by decide)) (by decide),
      hnone "label_names" (isFunction_of_mem (by decide)) (by decide)]
    cases argument <;> simp [leastQuery]

theorem length_ge_of_nonBlank {function : String} {query x : List Char}
    (h : nonBlank query = some x) : leastQuery function ≤ query.length := by
  have hne : query ≠ [] := by
    rintro rfl
    exact (nonBlank_eq_some_iff.mp h).1 (List.forall_mem_nil _)
  have hpos := List.length_pos_iff.mpr hne
  unfold leastQuery
  split <;> omega

/-- A text in which something is found calls one of the functions. -/
theorem exists_argument?_of_embeddedQuery? {text : List Char} {found : Option (List Char)}
    (h : embeddedQuery? text = some found) :
    (∃ argument, argument? "label_values" text = some argument) ∨
      ∃ function ∈ queryFunctions, ∃ argument, argument? function text = some argument := by
  unfold embeddedQuery? at h
  split at h
  · next argument hargument => exact Or.inl ⟨argument, hargument⟩
  · split at h
    · next argument hargument => exact Or.inr ⟨_, by decide, argument, hargument⟩
    · split at h
      · next argument hargument => exact Or.inr ⟨_, by decide, argument, hargument⟩
      · split at h
        · next argument hargument => exact Or.inr ⟨_, by decide, argument, hargument⟩
        · exact absurd h (by simp)

/-- **Embedded queries are found exactly.** A text has a query inside if and only if it is, between
    blanks, a call of `label_values` on a query and a label without commas, or a call of another
    function on a query, and the query is not blank. What is found is that query without the blanks
    around it, whatever commas, parentheses, quotes or lines it holds. -/
theorem embeddedQuery?_exact (text x : List Char) :
    embeddedQuery? text = some (some x) ↔
      ∃ query, Calls text query ∧ ¬ Blank query ∧ x = Text.trim query := by
  constructor
  · intro h
    rcases exists_argument?_of_embeddedQuery? h with
      ⟨argument, hargument⟩ | ⟨function, hfunction, argument, hargument⟩
    · rw [embeddedQuery?_labelValues hargument, labelValues?_eq_some_iff] at h
      obtain ⟨query, label, rfl, hne, hlabel, hquery⟩ := h
      obtain ⟨w, w', hw, hw', rfl⟩ := (argument?_eq_some_iff isFunction_label_values).mp hargument
      exact ⟨query, .labelValues hw hw' hne hlabel, nonBlank_eq_some_iff.mp hquery⟩
    · rw [embeddedQuery?_function hfunction hargument] at h
      obtain ⟨w, w', hw, hw', rfl⟩ :=
        (argument?_eq_some_iff (isFunction_of_mem hfunction)).mp hargument
      obtain ⟨-, hquery⟩ := Option.ite_none_left_eq_some.mp h
      exact ⟨argument, .function hfunction hw hw', nonBlank_eq_some_iff.mp (Option.some.inj hquery)⟩
  · rintro ⟨query, hcalls, hquery⟩
    cases hcalls with
    | labelValues hw hw' hne hlabel =>
        rw [embeddedQuery?_labelValues
          ((argument?_eq_some_iff isFunction_label_values).mpr ⟨_, _, hw, hw', rfl⟩)]
        exact labelValues?_eq_some_iff.mpr
          ⟨query, _, rfl, hne, hlabel, nonBlank_eq_some_iff.mpr hquery⟩
    | function hfunction hw hw' =>
        have hx := nonBlank_eq_some_iff.mpr hquery
        rw [embeddedQuery?_function hfunction
          ((argument?_eq_some_iff (isFunction_of_mem hfunction)).mpr ⟨_, _, hw, hw', rfl⟩),
          if_neg (Nat.not_lt.mpr (length_ge_of_nonBlank hx)), hx]

example : embeddedQuery? " label_values( max(a, b) , job)".toList =
    some (some "max(a, b)".toList) := by decide

end Rule

end BoardLint
