import BoardLint.Proofs.Variable.Naming
import BoardLint.Proofs.Variable.Stability
import Mathlib.Data.List.Chain

set_option autoImplicit false

/-! # Kinds of template variables

A template variable whose value is a reference has the kind of what it refers to, and that may be
another template variable. There are two ways to get there: the other variable is in the table
already, under the exact text of the reference, or it comes later in the list, where it is found by
its name. Both lead to where the chain of references ends (`Template.EndsIn`), so the order of the
variables does not matter (`Table.register?_kinds`). -/

namespace BoardLint

theorem Text.contains_iff {needle text : List Char} (hne : needle ≠ []) :
    Text.contains needle text = true ↔ needle <:+: text := by
  induction text with
  | nil => simp [Text.contains, hne]
  | cons c text ih =>
      rw [Text.contains, Bool.or_eq_true, List.isPrefixOf_iff_prefix, ih, List.infix_cons_iff]

/-! ## Values of template variables -/

namespace Variable

/-- A value without any of the marks of a reference. -/
structure IsLiteral (value : String) : Prop where
  dollar : '$' ∉ value.toList
  brackets : ¬ ['[', '['] <:+: value.toList
  brace : '\x7b' ∉ value.toList

/-- A value is a reference to a name and nothing else; a format may follow the name in braces. -/
inductive Refers (value : String) : String → Bool → Prop
  | plain {name : String} (hname : IsName name.toList) (h : value ∈ spellings name) :
      Refers value name false
  | formatted {name : String} {format : List Char} (hname : IsName name.toList)
      (hformat : '\x7d' ∉ format)
      (h : value.toList = '$' :: '\x7b' :: (name.toList ++ ':' :: format ++ ['\x7d'])) :
      Refers value name true

theorem IsLiteral.hasMarks {value : String} (h : IsLiteral value) :
    hasMarks value.toList = false := by
  have hbrackets := mt (Text.contains_iff (by simp)).mp h.brackets
  simp [Variable.hasMarks, h.dollar, h.brace, hbrackets]

namespace Refers

variable {value name : String} {formatted : Bool}

theorem isName (h : Refers value name formatted) : IsName name.toList := by
  cases h <;> assumption

theorem hasMarks (h : Refers value name formatted) : hasMarks value.toList = true := by
  cases h with
  | plain hname h =>
      rcases mem_spellings_iff.mp h with h | h | h
      · simp [Variable.hasMarks, h]
      · simp [Variable.hasMarks, h]
      · have hbrackets : Text.contains ['[', '['] value.toList = true := by
          rw [Text.contains_iff (by simp), h]
          exact ⟨[], _, rfl⟩
        simp [Variable.hasMarks, hbrackets]
  | formatted hname hformat h => simp [Variable.hasMarks, h]

/-- Without its marks a reference is the name, or the name and a format behind a colon. -/
theorem bare_cases (h : Refers value name formatted) :
    (formatted = false ∧ bare value.toList = name.toList) ∨
    (formatted = true ∧ ∃ format, bare value.toList = name.toList ++ ':' :: format) := by
  cases h with
  | plain hname h => exact Or.inl ⟨rfl, bare_of_mem_spellings hname h⟩
  | formatted hname hformat h => exact Or.inr ⟨rfl, _, by rw [h, bare_braced]⟩

theorem nameOf_eq (h : Refers value name formatted) : nameOf value.toList = name.toList := by
  have hcolon : ':' ∉ name.toList := h.isName.not_mem (by decide) (by decide)
  rcases h.bare_cases with ⟨-, hbare⟩ | ⟨-, format, hbare⟩
  · rw [nameOf, hbare, takeWhile_of_not_mem hcolon]
  · rw [nameOf, hbare, takeWhile_append_of_not_mem hcolon]

/-- A value refers to one name, and it has a format or not. -/
theorem unique {name' : String} {formatted' : Bool} (h : Refers value name formatted)
    (h' : Refers value name' formatted') : name = name' ∧ formatted = formatted' := by
  have hname : name = name' := by rw [← String.toList_inj, ← h.nameOf_eq, h'.nameOf_eq]
  subst hname
  refine ⟨rfl, ?_⟩
  -- a colon stands in the bare text exactly if there is a format
  have hcolon : ':' ∉ name.toList := h.isName.not_mem (by decide) (by decide)
  rcases h.bare_cases with ⟨rfl, hbare⟩ | ⟨rfl, format, hbare⟩ <;>
    rcases h'.bare_cases with ⟨rfl, hbare'⟩ | ⟨rfl, format', hbare'⟩
  · rfl
  · exact absurd (hbare.symm.trans hbare') fun heq => hcolon (by rw [heq]; simp)
  · exact absurd (hbare'.symm.trans hbare) fun heq => hcolon (by rw [heq]; simp)
  · rfl

end Refers

theorem IsLiteral.not_refers {value name : String} {formatted : Bool} (h : IsLiteral value) :
    ¬ Refers value name formatted := by
  intro hr
  have hmarks := hr.hasMarks
  rw [h.hasMarks] at hmarks
  exact Bool.false_ne_true hmarks

/-- The names that stand for intervals that the server chooses. -/
def IsAuto (name : String) : Prop := "__auto_interval".toList <+: name.toList

instance (name : String) : Decidable (IsAuto name) :=
  inferInstanceAs (Decidable ("__auto_interval".toList <+: name.toList))

/-- A format behind the name does not matter for how the name begins. -/
theorem Refers.isAuto_iff {value name : String} {formatted : Bool}
    (h : Refers value name formatted) :
    "__auto_interval".toList <+: bare value.toList ↔ IsAuto name := by
  rcases h.bare_cases with ⟨-, hbare⟩ | ⟨-, format, hbare⟩
  · rw [hbare, IsAuto]
  · rw [hbare, IsAuto]
    constructor
    · intro hprefix
      rcases List.prefix_or_prefix_of_prefix hprefix (List.prefix_append _ _) with hname | hname
      · exact hname
      · -- the name would end inside the word, where no colon stands
        obtain ⟨rest, hrest⟩ := hname
        rw [← hrest, List.prefix_append_right_inj] at hprefix
        cases rest with
        | nil => exact ⟨[], by simpa using hrest.symm⟩
        | cons c rest =>
            obtain rfl := (List.cons_prefix_cons.mp hprefix).1
            have hmem : ':' ∈ "__auto_interval".toList := by rw [← hrest]; simp
            exact absurd hmem (by decide)
    · exact fun hname => hname.trans (List.prefix_append _ _)

end Variable

/-! ## Chains of references -/

namespace Template

open Variable

/-- One variable of a list refers to another. -/
def Follows (ts : List Template) (t u : Template) : Prop :=
  t ∈ ts ∧ u ∈ ts ∧ ¬ IsAuto u.name ∧ ∃ formatted, Refers t.chosen u.name formatted

/-- The kind in which the references of a variable end. -/
inductive EndsIn (ts : List Template) : Template → ValueKind → Prop
  /-- A literal value has a kind of its own. -/
  | literal {t : Template} (h : IsLiteral t.chosen) : EndsIn ts t (.ofLiteral t.chosen)
  /-- The server chooses lengths of time. -/
  | auto {t : Template} {name : String} {formatted : Bool} (h : Refers t.chosen name formatted)
      (hauto : IsAuto name) : EndsIn ts t .timeRange
  /-- The variables of the server have kinds. -/
  | global {t : Template} {name : String} {kind : ValueKind} (h : Refers t.chosen name false)
      (hauto : ¬ IsAuto name) (hglobal : (name, kind) ∈ Table.globals) : EndsIn ts t kind
  /-- Whatever else is not in the list is a text. -/
  | other {t : Template} {name : String} {formatted : Bool} (h : Refers t.chosen name formatted)
      (hauto : ¬ IsAuto name) (hglobal : formatted = false → name ∉ Table.globals.map (·.1))
      (hlisted : ∀ u ∈ ts, u.name ≠ name) : EndsIn ts t .text
  /-- A variable of the list ends where it ends. -/
  | next {t u : Template} {kind : ValueKind} (h : Follows ts t u) (hend : EndsIn ts u kind) :
      EndsIn ts t kind

/-- A list of variables with names of their own, each with a literal or a reference for its value.
    No chain of references from variable to variable has more than eight references, so none comes
    back to where it began. -/
structure WellAliased (ts : List Template) : Prop where
  distinct : (ts.map (·.name)).Nodup
  ascii : ∀ t ∈ ts, ∀ c ∈ t.name.toList, Text.isAsciiWord c = true
  own : ∀ t ∈ ts, t.name ∉ Table.globals.map (·.1)
  values : ∀ t ∈ ts, IsLiteral t.chosen ∨ ∃ name formatted, Refers t.chosen name formatted
  chains : ∀ chain : List Template, chain.IsChain (Follows ts) → chain.length ≤ 9

theorem globals_eq_of_name {g g' : String × ValueKind} (hg : g ∈ Table.globals)
    (hg' : g' ∈ Table.globals) (h : g.1 = g'.1) : g = g' :=
  List.inj_on_of_nodup_map (by decide : (Table.globals.map (·.1)).Nodup) hg hg' h

namespace WellAliased

variable {ts : List Template}

theorem isName (hts : WellAliased ts) {t : Template} (ht : t ∈ ts) : IsName t.name.toList :=
  fun c hc => Or.inl (hts.ascii t ht c hc)

theorem eq_of_name (hts : WellAliased ts) {t u : Template} (ht : t ∈ ts) (hu : u ∈ ts)
    (h : t.name = u.name) : t = u :=
  List.inj_on_of_nodup_map hts.distinct ht hu h

end WellAliased

namespace EndsIn

variable {ts : List Template} {t : Template} {kind : ValueKind}

/-- Where a reference leads decides where the chain ends. -/
theorem cases_of_refers (h : EndsIn ts t kind) {name : String} {formatted : Bool}
    (hr : Refers t.chosen name formatted) :
    (IsAuto name ∧ kind = .timeRange) ∨
    (¬ IsAuto name ∧ formatted = false ∧ (name, kind) ∈ Table.globals) ∨
    (¬ IsAuto name ∧ (formatted = false → name ∉ Table.globals.map (·.1)) ∧
      (∀ u ∈ ts, u.name ≠ name) ∧ kind = .text) ∨
    (¬ IsAuto name ∧ ∃ u ∈ ts, u.name = name ∧ EndsIn ts u kind) := by
  cases h with
  | literal h => exact absurd hr h.not_refers
  | auto h hauto =>
      obtain ⟨rfl, rfl⟩ := hr.unique h
      exact Or.inl ⟨hauto, rfl⟩
  | global h hauto hglobal =>
      obtain ⟨rfl, rfl⟩ := hr.unique h
      exact Or.inr (Or.inl ⟨hauto, rfl, hglobal⟩)
  | other h hauto hglobal hlisted =>
      obtain ⟨rfl, rfl⟩ := hr.unique h
      exact Or.inr (Or.inr (Or.inl ⟨hauto, hglobal, hlisted, rfl⟩))
  | next h hend =>
      obtain ⟨-, hu, hauto, formatted', h⟩ := h
      obtain ⟨rfl, rfl⟩ := hr.unique h
      exact Or.inr (Or.inr (Or.inr ⟨hauto, _, hu, rfl, hend⟩))

theorem eq_of_isLiteral (h : EndsIn ts t kind) (hliteral : IsLiteral t.chosen) :
    kind = .ofLiteral t.chosen := by
  cases h with
  | literal => rfl
  | auto hr | global hr | other hr => exact absurd hr hliteral.not_refers
  | next hfollows =>
      obtain ⟨-, -, -, _, hr⟩ := hfollows
      exact absurd hr hliteral.not_refers

/-- A chain of references has one end. -/
theorem unique (hts : WellAliased ts) {kind' : ValueKind} (h : EndsIn ts t kind)
    (h' : EndsIn ts t kind') : kind = kind' := by
  induction h with
  | literal hliteral => exact (h'.eq_of_isLiteral hliteral).symm
  | auto hr hauto =>
      rcases h'.cases_of_refers hr with ⟨-, rfl⟩ | ⟨hnot, -⟩ | ⟨hnot, -⟩ | ⟨hnot, -⟩
      · rfl
      all_goals exact absurd hauto hnot
  | global hr hauto hglobal =>
      have hmem : _ ∈ Table.globals.map (·.1) := List.mem_map_of_mem hglobal
      rcases h'.cases_of_refers hr with ⟨hyes, -⟩ | ⟨-, -, hglobal'⟩ | ⟨-, hnot, -⟩ |
        ⟨-, u, hu, rfl, -⟩
      · exact absurd hyes hauto
      · exact congrArg Prod.snd (globals_eq_of_name hglobal hglobal' rfl)
      · exact absurd hmem (hnot rfl)
      · exact absurd hmem (hts.own u hu)
  | other hr hauto hglobal hlisted =>
      rcases h'.cases_of_refers hr with ⟨hyes, -⟩ | ⟨-, hplain, hmem⟩ | ⟨-, -, -, rfl⟩ |
        ⟨-, u, hu, hname, -⟩
      · exact absurd hyes hauto
      · exact absurd (List.mem_map_of_mem hmem) (hglobal hplain)
      · rfl
      · exact absurd hname (hlisted u hu)
  | next hfollows hend ih =>
      obtain ⟨-, hu, hauto, formatted, hr⟩ := hfollows
      rcases h'.cases_of_refers hr with ⟨hyes, -⟩ | ⟨-, -, hmem⟩ | ⟨-, -, hlisted, -⟩ |
        ⟨-, u', hu', hname, hend'⟩
      · exact absurd hyes hauto
      · exact absurd (List.mem_map_of_mem hmem) (hts.own _ hu)
      · exact absurd rfl (hlisted _ hu)
      · -- names are distinct, so both chains go on from the same variable
        obtain rfl := hts.eq_of_name hu' hu hname
        exact ih hend'

end EndsIn

end Template

/-! ## Classification -/

namespace Table

open Variable Template

theorem isName_of_mem_globals {g : String × ValueKind} (hg : g ∈ globals) : IsName g.1.toList := by
  have hall : (globals.all fun g =>
      g.1.toList.all fun c => Text.isAsciiWord c || c == '.') = true := by decide +kernel
  intro c hc
  have := List.all_eq_true.mp (List.all_eq_true.mp hall g hg) c hc
  simpa using this

/-- The first table has the kinds of the variables of the server. -/
theorem initial_kind? {g : String × ValueKind} (hg : g ∈ globals) {v : String}
    (hv : v ∈ spellings g.1) : initial.kind? v.toList = some g.2 := by
  obtain ⟨p, hp⟩ := initial_knows hg hv
  obtain ⟨g', hg', v', hv', hsame, hkind⟩ :=
    initial_sorted _ (initial_consistent.placeholder?_eq_some_iff.mp hp)
  obtain rfl := String.toList_inj.mp hsame
  obtain rfl := globals_eq_of_name hg' hg
    (eq_of_mem_spellings (isName_of_mem_globals hg') (isName_of_mem_globals hg) hv' hv)
  rw [kind?, hp, Option.map_some]
  exact congrArg some hkind

section Classify

variable {table : Table} {t : Template} {name : String} {formatted : Bool}

theorem classifyWith_of_isLiteral (h : IsLiteral t.chosen) (follow : List Char → ValueKind) :
    table.classifyWith follow t = .ofLiteral t.chosen := by
  simp [classifyWith, h.hasMarks]

theorem classifyWith_of_isAuto (h : Refers t.chosen name formatted) (hauto : IsAuto name)
    (follow : List Char → ValueKind) : table.classifyWith follow t = .timeRange := by
  have hprefix := List.isPrefixOf_iff_prefix.mpr (h.isAuto_iff.mpr hauto)
  simp only [classifyWith, h.hasMarks, hprefix, Bool.not_true, Bool.false_eq_true, if_false,
    if_true]

theorem classifyWith_of_not_isAuto (h : Refers t.chosen name formatted) (hauto : ¬ IsAuto name)
    (follow : List Char → ValueKind) : table.classifyWith follow t =
      (table.kind? t.chosen.toList).getD (follow name.toList) := by
  have hprefix := mt (List.isPrefixOf_iff_prefix.mp) (mt h.isAuto_iff.mp hauto)
  have hname : (bare t.chosen.toList).takeWhile (· != ':') = name.toList := h.nameOf_eq
  simp only [classifyWith, h.hasMarks, hprefix, hname, Bool.not_true, Bool.false_eq_true, if_false]

/-- The kind of another variable by its name, as long as references are followed. -/
def follow (table : Table) (others : List Template) : Nat → List Char → ValueKind
  | 0, _ => .text
  | aliases + 1, name =>
    match others.find? fun other => other.name.toList == name with
    | some other => table.classify others aliases other
    | none => .text

theorem classify_eq (others : List Template) (aliases : Nat) (t : Template) :
    table.classify others aliases t = table.classifyWith (table.follow others aliases) t := by
  cases aliases <;> rfl

theorem follow_of_not_listed {others : List Template} (h : ∀ u ∈ others, u.name ≠ name)
    (aliases : Nat) : table.follow others aliases name.toList = .text := by
  cases aliases with
  | zero => rfl
  | succ aliases =>
      have hnone : (others.find? fun other => other.name.toList == name.toList) = none := by
        rw [List.find?_eq_none]
        intro u hu
        simpa [String.toList_inj] using h u hu
      rw [follow, hnone]

theorem follow_of_listed {others : List Template} {u : Template} (hu : u ∈ others)
    (honly : ∀ w ∈ others, w.name = u.name → w = u) (aliases : Nat) :
    table.follow others (aliases + 1) u.name.toList = table.classify others aliases u := by
  have hfind : (others.find? fun other => other.name.toList == u.name.toList) = some u := by
    cases hfind : others.find? fun other => other.name.toList == u.name.toList with
    | none => simpa using List.find?_eq_none.mp hfind u hu
    | some w =>
        have hname : w.name = u.name := by simpa [String.toList_inj] using List.find?_some hfind
        rw [honly w (List.mem_of_find?_eq_some hfind) hname]
  rw [follow, hfind]

end Classify

/-- What is known of a table while the variables of a list are registered: it has the variables of
    the server, and whatever else is there has the kind in which its references end. -/
structure Reflects (ts : List Template) (table : Table) : Prop where
  grows : initial.Grows table
  sorted : table.Sorted fun reference kind => IsGlobal reference kind ∨
    ∃ u ∈ ts, ∃ v ∈ spellings u.name, v.toList = reference ∧ EndsIn ts u kind

theorem initial_reflects (ts : List Template) : initial.Reflects ts where
  grows := Grows.refl initial
  sorted := fun e he => Or.inl (initial_sorted e he)

namespace Reflects

variable {ts others : List Template} {table : Table}

/-- A kind is known only of references without a format, to variables of the server or of the
    list. -/
theorem kind?_cases (h : table.Reflects ts) (hts : WellAliased ts) {value : String}
    {kind : ValueKind} (hkind : table.kind? value.toList = some kind) :
    ∃ name, Refers value name false ∧
      ((name, kind) ∈ globals ∨ ∃ u ∈ ts, u.name = name ∧ EndsIn ts u kind) := by
  obtain ⟨p, hp, rfl⟩ := Option.map_eq_some_iff.mp hkind
  have hentry := (h.grows.consistent initial_consistent).placeholder?_eq_some_iff.mp hp
  rcases h.sorted _ hentry with ⟨g, hg, v, hv, hsame, hkind⟩ | ⟨u, hu, v, hv, hsame, hend⟩
  · obtain rfl := String.toList_inj.mp hsame
    refine ⟨g.1, .plain (isName_of_mem_globals hg) hv, Or.inl ?_⟩
    rw [show p.kind = g.2 from hkind]
    exact hg
  · obtain rfl := String.toList_inj.mp hsame
    exact ⟨u.name, .plain (hts.isName hu) hv, Or.inr ⟨u, hu, rfl, hend⟩⟩

theorem kind?_global (h : table.Reflects ts) {g : String × ValueKind} (hg : g ∈ globals)
    {v : String} (hv : v ∈ spellings g.1) : table.kind? v.toList = some g.2 :=
  (h.grows.keeps initial_consistent).kinds _ _ (initial_kind? hg hv)

/-- What is known of a reference to a variable of the list is where the variable ends. -/
theorem endsIn_of_kind? (h : table.Reflects ts) (hts : WellAliased ts) {t : Template}
    (ht : t ∈ ts) {value : String} {formatted : Bool} (hr : Refers value t.name formatted)
    {kind : ValueKind} (hkind : table.kind? value.toList = some kind) : EndsIn ts t kind := by
  obtain ⟨name, hplain, hcases⟩ := h.kind?_cases hts hkind
  obtain ⟨rfl, -⟩ := hr.unique hplain
  rcases hcases with hglobal | ⟨u, hu, hname, hend⟩
  · exact absurd (List.mem_map_of_mem hglobal) (hts.own t ht)
  · obtain rfl := hts.eq_of_name hu ht hname
    exact hend

theorem kind?_eq_none (h : table.Reflects ts) (hts : WellAliased ts) {value name : String}
    {formatted : Bool} (hr : Refers value name formatted)
    (hglobal : formatted = false → name ∉ globals.map (·.1)) (hlisted : ∀ u ∈ ts, u.name ≠ name) :
    table.kind? value.toList = none := by
  rw [Option.eq_none_iff_forall_ne_some]
  intro kind hkind
  obtain ⟨name, hplain, hcases⟩ := h.kind?_cases hts hkind
  obtain ⟨rfl, rfl⟩ := hr.unique hplain
  rcases hcases with hmem | ⟨u, hu, hname, -⟩
  · exact hglobal rfl (List.mem_map_of_mem hmem)
  · exact hlisted u hu hname

/-- **Both ways lead to the end of the chain.** With as many references left to follow as there are
    on the longest chain from a variable, the variable gets the kind in which its references end. -/
theorem endsIn_classify (h : table.Reflects ts) (hts : WellAliased ts) (hperm : others.Perm ts)
    {n : Nat} {t : Template} (ht : t ∈ ts)
    (hchains : ∀ chain, (t :: chain).IsChain (Template.Follows ts) → chain.length ≤ n) :
    EndsIn ts t (table.classify others n t) := by
  induction n using Nat.strongRecOn generalizing t with
  | ind n ih =>
      rw [classify_eq]
      rcases hts.values t ht with hliteral | ⟨name, formatted, hr⟩
      · rw [classifyWith_of_isLiteral hliteral]
        exact .literal hliteral
      by_cases hauto : IsAuto name
      · rw [classifyWith_of_isAuto hr hauto]
        exact .auto hr hauto
      rw [classifyWith_of_not_isAuto hr hauto]
      by_cases hlisted : ∃ u ∈ ts, u.name = name
      · obtain ⟨u, hu, rfl⟩ := hlisted
        have hfollows : Template.Follows ts t u := ⟨ht, hu, hauto, formatted, hr⟩
        refine .next hfollows ?_
        cases hkind : table.kind? t.chosen.toList with
        | some kind => exact h.endsIn_of_kind? hts hu hr hkind
        | none =>
            -- the chain through the other variable takes one of the references
            cases n with
            | zero => exact absurd (hchains [u] (by simpa using hfollows)) (by simp)
            | succ n =>
                rw [Option.getD_none, follow_of_listed (hperm.mem_iff.mpr hu)
                  fun w hw hname => hts.eq_of_name (hperm.mem_iff.mp hw) hu hname]
                refine ih n (Nat.lt_succ_self n) hu fun chain hchain => ?_
                have := hchains (u :: chain) (List.isChain_cons_cons.mpr ⟨hfollows, hchain⟩)
                simpa using this
      · have hunlisted : ∀ u ∈ ts, u.name ≠ name := fun u hu hname => hlisted ⟨u, hu, hname⟩
        by_cases hglobal : formatted = false ∧ name ∈ globals.map (·.1)
        · obtain ⟨rfl, hmem⟩ := hglobal
          obtain ⟨g, hg, rfl⟩ := List.mem_map.mp hmem
          cases hr with
          | plain hname hv =>
              rw [h.kind?_global hg hv, Option.getD_some]
              exact .global (.plain hname hv) hauto hg
        · have hother : formatted = false → name ∉ globals.map (·.1) :=
            fun hplain hmem => hglobal ⟨hplain, hmem⟩
          rw [h.kind?_eq_none hts hr hother hunlisted, Option.getD_none,
            follow_of_not_listed fun u hu => hunlisted u (hperm.mem_iff.mp hu)]
          exact .other hr hauto hother hunlisted

/-- As many references are followed as a chain in the list can have. -/
theorem endsIn_classify_maxAliases (h : table.Reflects ts) (hts : WellAliased ts)
    (hperm : others.Perm ts) {t : Template} (ht : t ∈ ts) :
    EndsIn ts t (table.classify others maxAliases t) := by
  refine h.endsIn_classify hts hperm ht fun chain hchain => ?_
  exact Nat.le_of_succ_le_succ (hts.chains (t :: chain) hchain)

theorem assignName? (h : table.Reflects ts) {t : Template} (ht : t ∈ ts) {kind : ValueKind}
    (hend : EndsIn ts t kind) {table' : Table} (ha : table.assignName? t.name kind = some table') :
    table'.Reflects ts where
  grows := h.grows.trans (assignName?_grows ha)
  sorted := h.sorted.assignName? (fun v hv => Or.inr ⟨t, ht, v, hv, rfl, hend⟩) ha

/-- Registering the variables of a list keeps what is known of the table. -/
theorem register? (hts : WellAliased ts) (hperm : others.Perm ts)
    (h : initial.register? others = some table) : table.Reflects ts := by
  refine foldlM_invariant (P := Reflects ts) (fun t ht table table' hreflects ha => ?_)
    (initial_reflects ts) h
  have ht : t ∈ ts := hperm.mem_iff.mp (List.mem_filter.mp ht).1
  exact hreflects.assignName? ht (hreflects.endsIn_classify_maxAliases hts hperm ht) ha

/-- Every spelling of a variable has the kind in which its references end, once it has any. -/
theorem kind?_eq_some_iff (h : table.Reflects ts) (hts : WellAliased ts) {t : Template}
    (ht : t ∈ ts) {v : String} (hv : v ∈ spellings t.name) (hknows : table.Knows v)
    {kind : ValueKind} : table.kind? v.toList = some kind ↔ EndsIn ts t kind := by
  have hr : Refers v t.name false := .plain (hts.isName ht) hv
  refine ⟨h.endsIn_of_kind? hts ht hr, fun hend => ?_⟩
  obtain ⟨p, hp⟩ := hknows
  have hkind : table.kind? v.toList = some p.kind := by rw [kind?, hp, Option.map_some]
  rw [hkind, (h.endsIn_of_kind? hts ht hr hkind).unique hts hend]

end Reflects

theorem knows_of_register? {others : List Template} {table : Table}
    (h : initial.register? others = some table) {t : Template} (ht : t ∈ others)
    (hname : t.name ≠ "") {v : String} (hv : v ∈ spellings t.name) : table.Knows v := by
  have hnamed : t ∈ others.filter fun template => !template.name.isEmpty := by
    simpa [ht] using hname
  exact foldlM_knows (R := fun t : Template => spellings t.name)
    (fun _ _ _ h => assignName?_grows h) (fun _ _ _ ht h _ hv => ht.knows_of_assignName? h hv)
    initial_consistent h t hnamed v hv

/-- **The kinds of template variables do not depend on their order.** The references of every
    variable end in one kind. In whatever order the variables are registered, each spelling of a
    variable has that kind. -/
theorem register?_kinds {ts : List Template} (hts : WellAliased ts) :
    (∀ t ∈ ts, ∃! kind, EndsIn ts t kind) ∧
    ∀ others : List Template, others.Perm ts →
      (3 * ts.length ≤ 9944 → ∃ table, initial.register? others = some table) ∧
      ∀ table, initial.register? others = some table →
        ∀ t ∈ ts, t.name ≠ "" → ∀ v ∈ spellings t.name, ∀ kind,
          (table.kind? v.toList = some kind ↔ EndsIn ts t kind) := by
  refine ⟨fun t ht => ?_, fun others hperm => ⟨fun hroom => ?_, ?_⟩⟩
  · have hend : EndsIn ts t (initial.classify ts maxAliases t) :=
      (initial_reflects ts).endsIn_classify_maxAliases hts (List.Perm.refl ts) ht
    exact ⟨_, hend, fun kind hkind => hkind.unique hts hend⟩
  · obtain ⟨table, htable, -⟩ := exists_register? (hperm.length_eq.symm ▸ hroom)
    exact ⟨table, htable⟩
  · intro table htable t ht hname v hv kind
    have hknows := knows_of_register? htable (hperm.mem_iff.mpr ht) hname hv
    exact (Reflects.register? hts hperm htable).kind?_eq_some_iff hts ht hv hknows

/-! ## Three variables in a chain -/

/-- A template variable with a chosen value. -/
def valued (name value : String) : Template :=
  { (default : Template) with
    name := name, current := some { (default : TemplateValue) with value := some (.str value) } }

/-- Three variables, of which the first two refer to the one behind them. -/
def chained : List Template := [valued "a" "$b", valued "b" "$\x7bc:csv\x7d", valued "c" "5m"]

theorem chained_refers : Refers (valued "a" "$b").chosen "b" false ∧
    Refers (valued "b" "$\x7bc:csv\x7d").chosen "c" true ∧ IsLiteral (valued "c" "5m").chosen := by
  have hname : ∀ name : List Char, name.all Text.isAsciiWord = true → IsName name :=
    fun _ h c hc => Or.inl (List.all_eq_true.mp h c hc)
  refine ⟨.plain (hname _ (by decide)) (by decide), ?_, ⟨by decide, by decide, by decide⟩⟩
  exact .formatted (hname _ (by decide)) (by decide : '\x7d' ∉ "csv".toList) (by decide)

/-- The variables of a list are numbered against the direction of their references, so a chain is
    no longer than its first number. -/
theorem length_le_of_isChain {α : Type} {r : α → α → Prop} {rank : α → Nat}
    (hrank : ∀ a b, r a b → rank b < rank a) {a : α} {chain : List α}
    (h : (a :: chain).IsChain r) : chain.length ≤ rank a := by
  induction chain generalizing a with
  | nil => exact Nat.zero_le _
  | cons b chain ih =>
      obtain ⟨hab, hchain⟩ := List.isChain_cons_cons.mp h
      exact Nat.lt_of_le_of_lt (ih hchain) (hrank a b hab)

theorem chained_wellAliased : WellAliased chained where
  distinct := by decide
  ascii := by
    intro t ht
    have hall : (chained.all fun t => t.name.toList.all Text.isAsciiWord) = true := by decide
    exact List.all_eq_true.mp (List.all_eq_true.mp hall t ht)
  own := by
    intro t ht
    have hall : ∀ name ∈ chained.map (·.name), name ∉ globals.map (·.1) := by decide
    exact hall _ (List.mem_map_of_mem ht)
  values := by
    obtain ⟨ha, hb, hc⟩ := chained_refers
    intro t ht
    simp only [chained, List.mem_cons, List.not_mem_nil, or_false] at ht
    rcases ht with rfl | rfl | rfl
    · exact Or.inr ⟨_, _, ha⟩
    · exact Or.inr ⟨_, _, hb⟩
    · exact Or.inl hc
  chains := by
    obtain ⟨ha, hb, hc⟩ := chained_refers
    let rank (t : Template) : Nat := if t.name = "a" then 2 else if t.name = "b" then 1 else 0
    have hrank : ∀ t u, Template.Follows chained t u → rank u < rank t := by
      rintro t u ⟨ht, -, -, formatted, hr⟩
      simp only [chained, List.mem_cons, List.not_mem_nil, or_false] at ht
      rcases ht with rfl | rfl | rfl
      · simp [rank, (hr.unique ha).1, valued]
      · simp [rank, (hr.unique hb).1, valued]
      · exact absurd hr hc.not_refers
    intro chain hchain
    cases chain with
    | nil => simp
    | cons t chain =>
        have hlength := length_le_of_isChain hrank hchain
        have htwo : rank t ≤ 2 := by
          simp only [rank]
          split_ifs <;> omega
        simp only [List.length_cons]
        omega

/-- The kind of the last variable comes through a format to the first one, also if the last one is
    registered before the others. -/
theorem register?_kinds_chained :
    WellAliased chained ∧
    ∀ others : List Template, others.Perm chained →
      ∃ table, initial.register? others = some table ∧
        ∀ v ∈ spellings "a", table.kind? v.toList = some .timeRange := by
  obtain ⟨ha, hb, hc⟩ := chained_refers
  have hend : EndsIn chained (valued "a" "$b") .timeRange := by
    have hkind : ValueKind.ofLiteral (valued "c" "5m").chosen = .timeRange := by decide +kernel
    have hab : Template.Follows chained (valued "a" "$b") (valued "b" "$\x7bc:csv\x7d") :=
      ⟨by simp [chained], by simp [chained], by decide, _, ha⟩
    have hbc : Template.Follows chained (valued "b" "$\x7bc:csv\x7d") (valued "c" "5m") :=
      ⟨by simp [chained], by simp [chained], by decide, _, hb⟩
    exact .next hab (.next hbc (hkind ▸ .literal hc))
  refine ⟨chained_wellAliased, fun others hperm => ?_⟩
  obtain ⟨-, hkinds⟩ := register?_kinds chained_wellAliased
  obtain ⟨hexists, hkind⟩ := hkinds others hperm
  obtain ⟨table, htable⟩ := hexists (by decide)
  refine ⟨table, htable, fun v hv => ?_⟩
  exact (hkind table htable (valued "a" "$b") (by simp [chained]) (by decide) v hv _).mpr hend

end Table

end BoardLint
