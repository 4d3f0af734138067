import BoardLint.Proofs.Rule.Dispatch
import BoardLint.Proofs.Variable.Legality
import BoardLint.Proofs.Variable.Naming
import BoardLint.Rule.TemplateQuery

set_option autoImplicit false

/-! # Uses of a template variable

Two scans know what a reference is. Expansion cuts a text into tokens and takes the name off each
(`Variable.token?`, `Variable.nameOf`); the rule on unused variables searches for a given name
(`Rule.refersTo`). The search finds the tokens of the name, with two exceptions: a format between
double brackets, and an empty format between braces (`Rule.Overlooked`). A variable that is used in
these forms alone is reported as unused. -/

namespace BoardLint.Rule

/-! ## The search -/

/-- The search finds a reference anywhere in a text. -/
theorem refersTo_append {name text : List Char} (front : List Char) (hne : text ≠ [])
    (h : beginsReference name text = true) : refersTo name (front ++ text) = true := by
  induction front with
  | nil =>
      cases text with
      | nil => exact absurd rfl hne
      | cons c text => rw [List.nil_append, refersTo, h, Bool.true_or]
  | cons c front ih => rw [List.cons_append, refersTo, ih, Bool.or_true]

/-- The three forms of which one begins a reference. -/
theorem beginsReference_iff {name text : List Char} : beginsReference name text = true ↔
    (∃ rest, text = '$' :: name ++ rest ∧
      isBoundary ('$' :: name).getLast? rest.head? = true) ∨
    (∃ rest, text = '$' :: '\x7b' :: name ++ rest ∧ closesBraces rest = true) ∨
    ∃ rest, text = '[' :: '[' :: name ++ [']', ']'] ++ rest := by
  simp only [beginsReference, Bool.or_eq_true, Option.any_eq_true, Option.isSome_iff_exists,
    Text.after?_eq_some_iff, or_assoc]

/-- A token of a name that the search does not find: with an empty format between braces, or with
    any format between double brackets. -/
def Overlooked (name token : List Char) : Prop :=
  token = '$' :: '\x7b' :: (name ++ [':', '\x7d']) ∨
    ∃ format, token = '[' :: '[' :: (name ++ ':' :: format ++ [']', ']'])

section Tokens

variable {name token rest : List Char}

theorem not_mem_of_isWord {text : List Char} {c : Char} (h : ∀ c ∈ text, Text.isWord c = true)
    (hc : Text.isWord c = false) : c ∉ text := by
  intro hmem
  rw [h c hmem] at hc
  exact Bool.noConfusion hc

/-- A word behind a dollar is found where the word ends. -/
theorem beginsReference_plain {word : List Char} (hne : word ≠ [])
    (hword : ∀ c ∈ word, Text.isWord c = true) (hrest : ∀ c ∈ rest.head?, Text.isWord c = false) :
    beginsReference word ('$' :: word ++ rest) = true := by
  refine beginsReference_iff.mpr (Or.inl ⟨rest, rfl, ?_⟩)
  obtain ⟨last, hlast⟩ := List.getLast?_isSome.mpr hne |> Option.isSome_iff_exists.mp
  have hbefore : ('$' :: word).getLast? = some last := by
    rw [List.getLast?_cons, hlast, Option.getD_some]
  have hafter : rest.head?.any Text.isWord = false := by
    cases hhead : rest.head? with
    | none => rfl
    | some c => exact hrest c hhead
  rw [isBoundary, hbefore, hafter, Option.any_some, hword last (List.mem_of_getLast? hlast)]
  rfl

/-- Between braces the name alone is found, and the name with a format that is not empty. -/
theorem beginsReference_braced {inner : List Char} (hname : ∀ c ∈ name, Text.isWord c = true)
    (hinner : inner.takeWhile (· != ':') = name) (hclose : '\x7d' ∉ inner) :
    beginsReference name ('$' :: '\x7b' :: (inner ++ ['\x7d']) ++ rest) = true ↔
      inner ≠ name ++ [':'] := by
  -- of the three forms only the one between braces can stand here
  have hform : beginsReference name ('$' :: '\x7b' :: (inner ++ ['\x7d']) ++ rest) = true ↔
      ∃ tail, inner ++ '\x7d' :: rest = name ++ tail ∧ closesBraces tail = true := by
    rw [beginsReference_iff]
    constructor
    · rintro (⟨tail, heq, hboundary⟩ | ⟨tail, heq, hcloses⟩ | ⟨tail, heq⟩)
      · cases name with
        | nil =>
            have htail : '\x7b' :: (inner ++ ['\x7d'] ++ rest) = tail := (List.cons.inj heq).2
            rw [← htail, List.head?_cons] at hboundary
            exact absurd hboundary (by decide)
        | cons c name =>
            have hc : '\x7b' = c := (List.cons.inj (List.cons.inj heq).2).1
            exact absurd (hname c List.mem_cons_self) (by rw [← hc]; decide)
      · exact ⟨tail, by simpa using heq, hcloses⟩
      · exact absurd (List.cons.inj heq).1 (by decide)
    · rintro ⟨tail, heq, hcloses⟩
      exact Or.inr (Or.inl ⟨tail, by simpa using heq, hcloses⟩)
  rw [hform]
  rcases hinner ▸ Variable.eq_takeWhile_or_append inner ':' with heq | ⟨format, heq⟩
  · refine iff_of_true ⟨'\x7d' :: rest, by rw [heq], rfl⟩ fun hcolon => ?_
    simpa using heq.symm.trans hcolon
  · subst heq
    cases format with
    | nil =>
        refine iff_of_false ?_ (not_not.mpr rfl)
        rintro ⟨tail, heq, hcloses⟩
        rw [List.append_assoc] at heq
        obtain rfl := List.append_cancel_left heq
        exact absurd hcloses (by simp [closesBraces])
    | cons c format =>
        have hc : c ≠ '\x7d' := by
          rintro rfl
          exact hclose (by simp)
        refine iff_of_true ⟨':' :: c :: (format ++ '\x7d' :: rest), by simp, ?_⟩ ?_
        · simp [closesBraces, hc]
        · simp

/-- Between double brackets the name alone is found. -/
theorem beginsReference_bracketed {inner : List Char} (hname : ∀ c ∈ name, Text.isWord c = true)
    (hinner : inner.takeWhile (· != ':') = name) :
    beginsReference name ('[' :: '[' :: (inner ++ [']', ']']) ++ rest) = true ↔ inner = name := by
  rw [beginsReference_iff]
  constructor
  · rintro (⟨tail, heq, -⟩ | ⟨tail, heq, -⟩ | ⟨tail, heq⟩)
    · exact absurd (List.cons.inj heq).1 (by decide)
    · exact absurd (List.cons.inj heq).1 (by decide)
    · rcases hinner ▸ Variable.eq_takeWhile_or_append inner ':' with hself | ⟨format, hself⟩
      · exact hself
      · -- a colon stands where the brackets should close
        subst hself
        simp at heq
  · rintro rfl
    exact Or.inr (Or.inr ⟨rest, by simp⟩)

/-- A token of a name is found exactly if it is not one of the two exceptions. -/
theorem beginsReference_token_iff (hname : ∀ c ∈ name, Text.isAsciiWord c = true)
    (htoken : Variable.token? (token ++ rest) = some (token, rest))
    (hreads : Variable.nameOf token = name) :
    beginsReference name (token ++ rest) = true ↔ ¬ Overlooked name token := by
  have hword : ∀ c ∈ name, Text.isWord c = true := fun c hc => (isAsciiWord_iff.mp (hname c hc)).1
  rcases Variable.token?_cases htoken with ⟨word, rfl, hne, hall, hrest⟩ | ⟨inner, rfl, hclose⟩ |
    ⟨inner, rfl⟩
  · have hbare : Variable.bare ('$' :: word) = word :=
      Variable.bare_plain (not_mem_of_isWord hall (by decide)) (not_mem_of_isWord hall (by decide))
        (not_mem_of_isWord hall (by decide))
    rw [Variable.nameOf, hbare,
      Variable.takeWhile_of_not_mem (not_mem_of_isWord hall (by decide))] at hreads
    subst hreads
    refine iff_of_true (beginsReference_plain hne hall hrest) ?_
    rintro (heq | ⟨format, heq⟩)
    · have hbrace : '\x7b' ∈ word := (List.cons.inj heq).2.symm.subst List.mem_cons_self
      exact not_mem_of_isWord hall (by decide) hbrace
    · exact absurd (List.cons.inj heq).1 (by decide)
  · rw [Variable.nameOf, Variable.bare_braced] at hreads
    rw [beginsReference_braced hword hreads hclose, Overlooked]
    have hempty : inner ++ ['\x7d'] = name ++ [':', '\x7d'] ↔ inner = name ++ [':'] := by
      have hassoc : name ++ [':', '\x7d'] = (name ++ [':']) ++ ['\x7d'] := by simp
      rw [hassoc]
      exact List.append_left_inj _
    simp [hempty]
  · rw [Variable.nameOf, Variable.bare_bracketed] at hreads
    rw [beginsReference_bracketed hword hreads, Overlooked]
    rcases hreads ▸ Variable.eq_takeWhile_or_append inner ':' with hself | ⟨format, hself⟩
    · simp [hself]
    · simp [hself]

end Tokens

/-! ## The rule -/

theorem isUsed_of_refersTo {d : Dashboard} {t : Template} {p : Panel} {target : Target}
    (hp : p ∈ d.allPanels) (htarget : target ∈ p.targets)
    (h : refersTo t.name.toList target.expr.toList = true) : isUsed d t = true := by
  have htargets : (d.allPanels.any fun p => p.targets.any fun target =>
      refersTo t.name.toList target.expr.toList) = true :=
    List.any_eq_true.mpr ⟨p, hp, List.any_eq_true.mpr ⟨target, htarget, h⟩⟩
  simp only [isUsed, htargets, Bool.true_or]

theorem reported?_templateUsed_of_isUsed {d : Dashboard} {t : Template} (h : isUsed d t = true)
    (i : Nat) : (Site.template i t).reported? d templateUsed = some [] := by
  simp only [Site.reported?, templateUsed, new, h, Bool.or_true, if_true]

/-- **A used variable is not reported, unless its uses are overlooked.** Let expansion cut a token
    off the query of a target and take it for a reference to a variable. The search for the variable
    finds the token exactly if it has no format between double brackets and no empty format between
    braces; and if it does, the rule on unused variables has nothing to report of the variable. -/
theorem templateUsed_silent {d : Dashboard} {t : Template} {p : Panel} {target : Target}
    {token : List Char} (hname : ∀ c ∈ t.name.toList, Text.isAsciiWord c = true)
    (hp : p ∈ d.allPanels) (htarget : target ∈ p.targets)
    (htoken : .token token ∈ Variable.pieces target.expr.toList)
    (hreads : Variable.nameOf token = t.name.toList) :
    (∃ front rest, target.expr.toList = front ++ (token ++ rest) ∧
      (beginsReference t.name.toList (token ++ rest) = true ↔ ¬ Overlooked t.name.toList token)) ∧
    (¬ Overlooked t.name.toList token →
      refersTo t.name.toList target.expr.toList = true ∧
      ∀ i, (Site.template i t).reported? d templateUsed = some []) := by
  obtain ⟨front, rest, htext, hcut⟩ := Variable.exists_token?_of_mem_piecesOf htoken
  have hiff := beginsReference_token_iff hname hcut hreads
  refine ⟨⟨front, rest, htext, hiff⟩, fun hseen => ?_⟩
  have hne : token ++ rest ≠ [] :=
    List.append_ne_nil_of_left_ne_nil (Variable.token?_eq_some hcut).1 rest
  have hrefers : refersTo t.name.toList target.expr.toList = true := by
    rw [htext]
    exact refersTo_append front hne (hiff.mpr hseen)
  exact ⟨hrefers, reported?_templateUsed_of_isUsed (isUsed_of_refersTo hp htarget hrefers)⟩

/-- A dashboard with one query. -/
def withTarget (expr : String) : Dashboard :=
  { (default : Dashboard) with panels := [{ (default : Panel) with
    targets := [{ (default : Target) with expr := expr }] }] }

/-- The variable of the jobs, which has a query. -/
def jobTemplate : Template := { (default : Template) with name := "job", kind := "query" }

/-- A format between braces is seen, also between quotes and behind another variable whose name goes
    on. -/
theorem templateUsed_silent_format :
    let d := withTarget "$jobs\x7bjob=~\"$\x7bjob:pipe\x7d\"\x7d"
    .token "$\x7bjob:pipe\x7d".toList ∈
        Variable.pieces "$jobs\x7bjob=~\"$\x7bjob:pipe\x7d\"\x7d".toList ∧
      Variable.nameOf "$\x7bjob:pipe\x7d".toList = jobTemplate.name.toList ∧
      (Site.template 0 jobTemplate).reported? d templateUsed = some [] := by
  intro d
  have htoken : .token "$\x7bjob:pipe\x7d".toList ∈
      Variable.pieces "$jobs\x7bjob=~\"$\x7bjob:pipe\x7d\"\x7d".toList := by decide +kernel
  have hreads : Variable.nameOf "$\x7bjob:pipe\x7d".toList = jobTemplate.name.toList := by
    decide +kernel
  have hseen : ¬ Overlooked jobTemplate.name.toList "$\x7bjob:pipe\x7d".toList := by
    rintro (heq | ⟨format, heq⟩)
    · exact absurd heq (by decide +kernel)
    · exact absurd (List.cons.inj heq).1 (by decide)
  obtain ⟨-, hsilent⟩ := templateUsed_silent (d := d) (t := jobTemplate)
    (List.all_eq_true.mp (by decide +kernel)) List.mem_cons_self List.mem_cons_self htoken hreads
  exact ⟨htoken, hreads, (hsilent hseen).2 0⟩

/-- A variable that is used with a format between double brackets is reported as unused. -/
theorem templateUsed_overlooks_brackets :
    let d := withTarget "up\x7bjob=~\"[[job:pipe]]\"\x7d"
    .token "[[job:pipe]]".toList ∈ Variable.pieces "up\x7bjob=~\"[[job:pipe]]\"\x7d".toList ∧
      Variable.nameOf "[[job:pipe]]".toList = jobTemplate.name.toList ∧
      refersTo jobTemplate.name.toList "up\x7bjob=~\"[[job:pipe]]\"\x7d".toList = false ∧
      (Site.template 0 jobTemplate).reported? d templateUsed =
        some [.error "is not used in any panel."] := by
  intro d
  have hunused : (jobTemplate.kind != "query" || !isSearchable jobTemplate.name.toList ||
      isUsed d jobTemplate) = false := by
    decide +kernel
  refine ⟨by decide +kernel, by decide +kernel, by decide +kernel, ?_⟩
  simp only [Site.reported?, templateUsed, new, hunused, Bool.false_eq_true, if_false]

end BoardLint.Rule
