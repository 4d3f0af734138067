import BoardLint.Proofs.Rule.TemplateQuery

set_option autoImplicit false

/-! # Patterns for embedded queries

What `Rule.embeddedQuery?` finds from both ends of a text is found here by patterns for the whole of
it: one for a call of `label_values` on nothing but a label, and one for each function with a query.
They are tried one after another, and the first that matches has the query
(`Rule.embeddedQuery?_eq_iff_tried`). -/

namespace BoardLint.Rule

open Text (Blank)

/-- An item of a pattern. -/
inductive Item where
  /-- Any number of blanks. -/
  | blanks
  /-- A text as it is. -/
  | text (s : String)
  /-- At least so many characters, none of which is one of the given. -/
  | others (chars : List Char) (least : Nat)
  /-- At least so many characters of any kind, which are captured. -/
  | capture (least : Nat)

/-- A text is made of the items of a pattern, and of what is captured. -/
inductive Matches : List Item → List Char → Option (List Char) → Prop
  | nil : Matches [] [] none
  | blanks {items : List Item} {w rest : List Char} {captured : Option (List Char)} (hw : Blank w)
      (h : Matches items rest captured) : Matches (.blanks :: items) (w ++ rest) captured
  | text {items : List Item} {rest : List Char} {captured : Option (List Char)} (s : String)
      (h : Matches items rest captured) : Matches (.text s :: items) (s.toList ++ rest) captured
  | others {items : List Item} {chars u rest : List Char} {least : Nat}
      {captured : Option (List Char)} (hu : ∀ c ∈ u, c ∉ chars) (hleast : least ≤ u.length)
      (h : Matches items rest captured) :
      Matches (.others chars least :: items) (u ++ rest) captured
  | capture {items : List Item} {query rest : List Char} {least : Nat}
      (hleast : least ≤ query.length) (h : Matches items rest none) :
      Matches (.capture least :: items) (query ++ rest) (some query)

/-- A call of `label_values` on nothing but a label. -/
def barePattern : List Item :=
  [.blanks, .text "label_values(", .blanks, .others [',', '(', ')'] 0, .text ")", .blanks]

/-- A call of `label_values` on a query and a label. -/
def labelPattern : List Item :=
  [.blanks, .text "label_values(", .capture 1, .text ",", .others [','] 1, .text ")", .blanks]

/-- A call of another function on a query. -/
def callPattern (function : String) : List Item :=
  [.blanks, .text (function ++ "("), .capture (leastQuery function), .text ")", .blanks]

/-- The patterns with a query in the order in which they are tried. -/
def queryPatterns : List (List Item) := labelPattern :: queryFunctions.map callPattern

/-- What is found by trying the patterns one after another. -/
inductive Tried (text : List Char) : Option (Option (List Char)) → Prop
  | bare (h : Matches barePattern text none) : Tried text (some none)
  | first {before after : List (List Item)} {items : List Item} {query : List Char}
      (hbare : ¬ Matches barePattern text none)
      (hpatterns : queryPatterns = before ++ items :: after)
      (hbefore : ∀ earlier ∈ before, ∀ captured, ¬ Matches earlier text captured)
      (h : Matches items text (some query)) : Tried text (some (nonBlank query))
  | none (hbare : ¬ Matches barePattern text none)
      (h : ∀ items ∈ queryPatterns, ∀ captured, ¬ Matches items text captured) : Tried text none

/-! ## Each pattern -/

variable {text query : List Char}

theorem matches_barePattern_iff : Matches barePattern text none ↔
    ∃ argument, argument? "label_values" text = some argument ∧
      (argument.all fun c => c != ',' && c != '(' && c != ')') = true := by
  have hfree : ∀ argument : List Char,
      (argument.all fun c => c != ',' && c != '(' && c != ')') = true ↔
        ∀ c ∈ argument, c ∉ [',', '(', ')'] := by
    intro argument
    simp [List.all_eq_true, and_assoc]
  have hblank : ∀ c, Text.isBlank c = true → c ∉ [',', '(', ')'] := by
    intro c hc hmem
    simp only [List.mem_cons, List.not_mem_nil, or_false] at hmem
    rcases hmem with rfl | rfl | rfl <;> exact absurd hc (by decide)
  simp only [argument?_eq_some_iff isFunction_label_values, hfree]
  constructor
  · intro h
    cases h with
    | blanks hw h => cases h with
    | text _ h => cases h with
    | @blanks _ v _ _ hv h => cases h with
    | @others _ _ u _ _ _ hu _ h => cases h with
    | text _ h => cases h with
    | @blanks _ w' _ _ hw' h =>
        cases h
        refine ⟨v ++ u, ⟨_, w', hw, hw', by simp⟩, fun c hc => ?_⟩
        rcases List.mem_append.mp hc with hc | hc
        · exact hblank c (hv c hc)
        · exact hu c hc
  · rintro ⟨argument, ⟨w, w', hw, hw', rfl⟩, hargument⟩
    have h := Matches.blanks hw (.text "label_values(" (.blanks (w := []) (List.forall_mem_nil _)
      (.others hargument (Nat.zero_le _) (.text ")" (.blanks hw' .nil)))))
    simpa [barePattern] using h

theorem matches_callPattern_iff {function : String} (hfunction : IsFunction function)
    {captured : Option (List Char)} : Matches (callPattern function) text captured ↔
      ∃ query, captured = some query ∧ argument? function text = some query ∧
        leastQuery function ≤ query.length := by
  simp only [argument?_eq_some_iff hfunction]
  constructor
  · intro h
    cases h with
    | blanks hw h => cases h with
    | text _ h => cases h with
    | @capture _ q _ _ hleast h => cases h with
    | text _ h => cases h with
    | @blanks _ w' _ _ hw' h =>
        cases h
        exact ⟨q, rfl, ⟨_, w', hw, hw', by simp⟩, hleast⟩
  · rintro ⟨q, rfl, ⟨w, w', hw, hw', rfl⟩, hleast⟩
    have h := Matches.blanks hw (.text (function ++ "(") (.capture hleast
      (.text ")" (.blanks hw' .nil))))
    simpa [callPattern] using h

theorem matches_labelPattern_iff {captured : Option (List Char)} :
    Matches labelPattern text captured ↔ ∃ query label, captured = some query ∧
      argument? "label_values" text = some (query ++ ',' :: label) ∧ ',' ∉ label ∧
        query ≠ [] ∧ label ≠ [] := by
  simp only [argument?_eq_some_iff isFunction_label_values]
  constructor
  · intro h
    cases h with
    | blanks hw h => cases h with
    | text _ h => cases h with
    | @capture _ q _ _ hleast h => cases h with
    | text _ h => cases h with
    | @others _ _ label _ _ _ hlabel hlength h => cases h with
    | text _ h => cases h with
    | @blanks _ w' _ _ hw' h =>
        cases h
        refine ⟨q, label, rfl, ⟨_, w', hw, hw', by simp⟩, fun hmem => ?_, ?_, ?_⟩
        · exact hlabel ',' hmem (List.mem_singleton_self _)
        · exact List.ne_nil_of_length_pos hleast
        · exact List.ne_nil_of_length_pos hlength
  · rintro ⟨q, label, rfl, ⟨w, w', hw, hw', rfl⟩, hlabel, hq, hne⟩
    have hfree : ∀ c ∈ label, c ∉ [','] := by
      intro c hc hmem
      exact hlabel (List.mem_singleton.mp hmem ▸ hc)
    have h := Matches.blanks hw (.text "label_values(" (.capture (List.length_pos_iff.mpr hq)
      (.text "," (.others hfree (List.length_pos_iff.mpr hne) (.text ")" (.blanks hw' .nil))))))
    simpa [labelPattern] using h

/-! ## One after another -/

theorem embeddedQuery?_of_bare (h : Matches barePattern text none) :
    embeddedQuery? text = some none := by
  obtain ⟨argument, hargument, hall⟩ := matches_barePattern_iff.mp h
  rw [embeddedQuery?_labelValues hargument, labelValues?, if_pos hall]

theorem embeddedQuery?_of_labelPattern (h : Matches labelPattern text (some query)) :
    embeddedQuery? text = some (nonBlank query) := by
  obtain ⟨_, label, hquery, hargument, hlabel, hne, hlabelne⟩ := matches_labelPattern_iff.mp h
  obtain rfl := Option.some.inj hquery
  rw [embeddedQuery?_labelValues hargument, labelValues?, if_neg (by simp),
    lastComma?_append hlabel]
  simp [hne, hlabelne]

theorem embeddedQuery?_of_callPattern {function : String} (hfunction : function ∈ queryFunctions)
    (h : Matches (callPattern function) text (some query)) :
    embeddedQuery? text = some (nonBlank query) := by
  have hname := isFunction_of_mem hfunction
  obtain ⟨_, hquery, hargument, hleast⟩ := (matches_callPattern_iff hname).mp h
  obtain rfl := Option.some.inj hquery
  rw [embeddedQuery?_function hfunction hargument, if_neg (Nat.not_lt.mpr hleast)]

theorem embeddedQuery?_of_mem {items : List Item} (hitems : items ∈ queryPatterns)
    (h : Matches items text (some query)) : embeddedQuery? text = some (nonBlank query) := by
  rcases List.mem_cons.mp hitems with rfl | hitems
  · exact embeddedQuery?_of_labelPattern h
  · obtain ⟨function, hfunction, rfl⟩ := List.mem_map.mp hitems
    exact embeddedQuery?_of_callPattern hfunction h

/-- A text in which something is found matches a pattern. -/
theorem exists_matches_of_embeddedQuery? {found : Option (List Char)}
    (h : embeddedQuery? text = some found) : Matches barePattern text none ∨
      ∃ items ∈ queryPatterns, ∃ captured, Matches items text captured := by
  rcases exists_argument?_of_embeddedQuery? h with
    ⟨argument, hargument⟩ | ⟨function, hfunction, argument, hargument⟩
  · rw [embeddedQuery?_labelValues hargument, labelValues?] at h
    split at h
    · next hall => exact Or.inl (matches_barePattern_iff.mpr ⟨argument, hargument, hall⟩)
    · split at h
      · next query label hcomma =>
          obtain ⟨hempty, -⟩ := Option.ite_none_left_eq_some.mp h
          obtain ⟨rfl, hlabel⟩ := lastComma?_eq_some_iff.mp hcomma
          simp only [Bool.or_eq_true, List.isEmpty_iff, not_or] at hempty
          exact Or.inr ⟨_, List.mem_cons_self, some query, matches_labelPattern_iff.mpr
            ⟨query, label, rfl, hargument, hlabel, hempty.1, hempty.2⟩⟩
      · exact absurd h (by simp)
  · rw [embeddedQuery?_function hfunction hargument] at h
    obtain ⟨hleast, -⟩ := Option.ite_none_left_eq_some.mp h
    exact Or.inr ⟨_, List.mem_cons_of_mem _ (List.mem_map_of_mem hfunction), some argument,
      (matches_callPattern_iff (isFunction_of_mem hfunction)).mpr
        ⟨argument, rfl, hargument, Nat.not_lt.mp hleast⟩⟩

theorem exists_query_of_matches {items : List Item} (hitems : items ∈ queryPatterns)
    {captured : Option (List Char)} (h : Matches items text captured) :
    ∃ query, captured = some query := by
  rcases List.mem_cons.mp hitems with rfl | hitems
  · obtain ⟨query, -, hquery, -⟩ := matches_labelPattern_iff.mp h
    exact ⟨query, hquery⟩
  · obtain ⟨function, hfunction, rfl⟩ := List.mem_map.mp hitems
    obtain ⟨query, hquery, -⟩ := (matches_callPattern_iff (isFunction_of_mem hfunction)).mp h
    exact ⟨query, hquery⟩

/-- Something comes out of trying the patterns on any text. -/
theorem exists_tried (text : List Char) : ∃ found, Tried text found := by
  classical
  by_cases hbare : Matches barePattern text none
  · exact ⟨_, .bare hbare⟩
  cases hfind : queryPatterns.find? fun items => ∃ captured, Matches items text captured with
  | none =>
      refine ⟨_, .none hbare fun items hitems => ?_⟩
      simpa using List.find?_eq_none.mp hfind items hitems
  | some items =>
      obtain ⟨hitems, before, after, hpatterns, hbefore⟩ :=
        List.find?_eq_some_iff_append.mp hfind
      obtain ⟨captured, h⟩ := of_decide_eq_true hitems
      obtain ⟨query, rfl⟩ := exists_query_of_matches (List.mem_of_find?_eq_some hfind) h
      refine ⟨_, .first hbare hpatterns (fun earlier hearlier => ?_) h⟩
      simpa using hbefore earlier hearlier

/-- **Patterns for embedded queries.** The scan finds what the patterns find when they are tried in
    their order. No text has a second query for a pattern, and none matches two of them. -/
theorem embeddedQuery?_eq_iff_tried {found : Option (Option (List Char))} :
    embeddedQuery? text = found ↔ Tried text found := by
  have hof : ∀ {found}, Tried text found → embeddedQuery? text = found := by
    intro found h
    cases h with
    | bare h => exact embeddedQuery?_of_bare h
    | first _ hpatterns _ h => exact embeddedQuery?_of_mem (by simp [hpatterns]) h
    | none hbare h =>
        rw [Option.eq_none_iff_forall_ne_some]
        intro found hfound
        rcases exists_matches_of_embeddedQuery? hfound with
          hmatch | ⟨items, hitems, captured, hmatch⟩
        · exact hbare hmatch
        · exact h items hitems captured hmatch
  refine ⟨?_, hof⟩
  rintro rfl
  obtain ⟨found, h⟩ := exists_tried text
  rwa [hof h]

end BoardLint.Rule
