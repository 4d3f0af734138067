import BoardLint.Proofs.Json.RoundTrip
import BoardLint.Proofs.Variable.Pieces
import BoardLint.Report.Document

set_option autoImplicit false

/-! # What a report says of a finding

A reader is given a finding in words (`Report.wording`): the sign of its severity, the parts that it
is about and its message. Styles add nothing to it that is read (`Style.plain_paint`). The report in
JSON has a member for each of these (`Report.fields`). What is written there is a document of its
own: it is read back from its text, as long as its numbers are numbers of 64 bits. -/

namespace BoardLint

/-! ## Styles -/

namespace Style

/-- The characters outside escape sequences. A sequence goes up to the next `m`; the flag tells
    whether the text begins inside one. -/
def plainChars : Bool → List Char → List Char
  | _, [] => []
  | true, c :: text => plainChars (c != 'm') text
  | false, c :: text => if c == '\x1b' then plainChars true text else c :: plainChars false text

/-- What is read of a text with styles. -/
def plain (text : String) : String := String.ofList (plainChars false text.toList)

/-- A sequence leads outside of sequences, wherever it begins. -/
theorem plainChars_reset (inside : Bool) (text : List Char) :
    plainChars inside (reset ++ text) = plainChars false text := by
  cases inside <;> rfl

theorem plainChars_opening (s : Style) (text : List Char) :
    plainChars false (s.opening ++ text) = plainChars false text := by
  cases s <;> rfl

theorem plainChars_reopen (s : Style) {fuel : Nat} {text : List Char} (h : text.length ≤ fuel)
    (inside : Bool) :
    plainChars inside (reopen s.opening fuel text ++ reset) = plainChars inside text := by
  induction fuel generalizing text inside with
  | zero =>
      obtain rfl := List.length_eq_zero_iff.mp (Nat.le_zero.mp h)
      exact plainChars_reset inside []
  | succ fuel ih =>
      cases text with
      | nil => exact plainChars_reset inside []
      | cons c text =>
          rw [List.length_cons] at h
          cases hreset : Text.after? reset (c :: text) with
          | none =>
              have htext := @ih text (by omega)
              cases inside <;> simp [reopen, hreset, plainChars, htext]
          | some rest =>
              have hsplit : c :: text = reset ++ rest := Text.after?_eq_some_iff.mp hreset
              have hlength : text.length = rest.length + 3 := by
                simpa [reset] using congrArg List.length hsplit
              simp only [reopen, hreset, List.append_assoc]
              rw [hsplit, plainChars_reset, plainChars_opening, plainChars_reset, ih (by omega)]

/-- A style adds nothing that is read. -/
theorem plain_paint (s : Style) (wanted : Bool) (text : String) :
    plain (s.paint wanted text) = plain text := by
  cases wanted with
  | false => rfl
  | true =>
      simp only [plain, paint, if_true, String.toList_ofList, List.append_assoc]
      rw [plainChars_opening, plainChars_reopen s (Nat.le_of_eq String.length_toList)]

end Style

namespace Report

/-! ## Lines -/

/-- The name and the sign of each severity. -/
def marks : List (Severity × String × String) :=
  [(.success, "success", "✔️"), (.exclude, "exclude", "➖"), (.quiet, "quiet", ""),
    (.warning, "warning", "⚠️"), (.error, "error", "❌"), (.fixed, "fixed", "🔧")]

/-- The styles of lines. Findings of other severities are in plain text. -/
def tints : List (Severity × Style) :=
  [(.error, .red), (.warning, .yellow), (.fixed, .green), (.exclude, .dimmed)]

/-- A text in the style of a severity, if styles are wanted. -/
def tinted (o : Options) (s : Severity) (text : String) : String :=
  ((tints.lookup s).map fun style => style.paint o.colored text).getD text

/-- The parts that a finding is about, from the outermost on, with what they are called by. -/
def namedParts (f : Finding) : List (String × String) :=
  ("Dashboard", f.dashboard.title) :: ((f.panel.map fun p => ("panel", p.title)).toList ++
    (f.target.map fun j => ("target idx", toString j)).toList ++
    (f.template.map fun t => ("template", t.name)).toList)

/-- A finding in words: the sign of its severity, the parts that it is about, and its message. -/
def wording (f : Finding) : String :=
  "[" ++ ((marks.lookup f.severity).map (·.2)).getD "" ++ "] " ++
    ", ".intercalate ((namedParts f).map fun x => x.1 ++ " '" ++ x.2 ++ "'") ++ " " ++
    f.effective.message

theorem lookup_marks (s : Severity) : marks.lookup s = some (s.name, s.symbol) := by
  cases s <;> rfl

theorem lookup_tints (s : Severity) : tints.lookup s = styleOf? s := by
  cases s <;> rfl

theorem location_eq (f : Finding) : f.location =
    ", ".intercalate ((namedParts f).map fun x => x.1 ++ " '" ++ x.2 ++ "'") := by
  rw [← String.toList_inj]
  unfold Finding.location namedParts
  cases f.panel <;> cases f.target <;> cases f.template <;> simp

theorem wording_eq (f : Finding) : wording f = "[" ++ f.severity.symbol ++ "] " ++ f.message := by
  rw [wording, lookup_marks, ← location_eq, Finding.message]
  simp only [Option.map_some, Option.getD_some, String.append_assoc]

theorem severityLine_eq (o : Options) (s : Severity) (text : String) :
    severityLine o s text = tinted o s ("[" ++ s.symbol ++ "] " ++ text) := by
  rw [tinted, lookup_tints, severityLine]
  cases styleOf? s <;> rfl

theorem ruleLine_eq (o : Options) : ruleLine o = fun f => tinted o f.severity (wording f) := by
  funext f
  rw [ruleLine, severityLine_eq, wording_eq]

theorem unitLine_eq (o : Options) : unitLine o = fun f => tinted o f.severity
    (wording f ++ " (" ++ Style.dimmed.paint o.colored f.rule ++ ")") := by
  funext f
  rw [unitLine, severityLine_eq, wording_eq]
  simp only [String.append_assoc]

/-! ## Members -/

/-- What the report in JSON has of a finding, and nothing where there is none. -/
def fields (f : Finding) : List (String × Option Json) :=
  [("rule", some (.str f.rule)), ("severity", (marks.lookup f.severity).map fun x => .str x.1),
    ("message", some (.str f.effective.message)), ("dashboard", some (.str f.dashboard.title)),
    ("unit", some (.str f.dashboard.unit)), ("panel", f.panel.map fun p => .str p.title),
    ("panel_id", (f.panel.bind (·.id)).map Json.ofInt), ("target_idx", f.target.map Json.ofNat),
    ("template", f.template.map fun t => .str t.name),
    ("fixable", some (.bool (f.raw.fix.isSome && !f.fixed)))]

/-- The members that are there. -/
def present (fields : List (String × Option Json)) : Json.Members :=
  fields.filterMap fun x => x.2.map fun v => (x.1, v)

theorem findingJson_eq (f : Finding) : findingJson f = .obj (present (fields f)) := by
  unfold findingJson fields present
  rw [lookup_marks]
  cases f.panel with
  | none => cases f.target <;> cases f.template <;> rfl
  | some p =>
      simp only [Option.bind_some, Option.map_some]
      cases p.id <;> cases f.target <;> cases f.template <;> rfl

/-- The keys of the members that are there are among those of all fields, in the same order. -/
theorem keys_present_sublist (fields : List (String × Option Json)) :
    ((present fields).map (·.1)).Sublist (fields.map (·.1)) := by
  induction fields with
  | nil => exact List.Sublist.slnil
  | cons x rest ih =>
      obtain ⟨key, value⟩ := x
      cases value with
      | none => exact ih.cons key
      | some v => exact ih.cons_cons key

theorem mem_present {fields : List (String × Option Json)} {m : String × Json}
    (h : m ∈ present fields) : (m.1, some m.2) ∈ fields := by
  obtain ⟨⟨key, value⟩, hmem, hvalue⟩ := List.mem_filterMap.mp h
  obtain ⟨v, rfl, rfl⟩ := Option.map_eq_some_iff.mp hvalue
  exact hmem

/-! ## The document -/

/-- The numbers of a report are numbers of 64 bits: how many findings there are, the identifiers of
    panels and the positions of targets. -/
structure InRange (list : List Finding) : Prop where
  length : list.length < Nat.pow 2 64
  panel : ∀ f ∈ list, ∀ id ∈ f.panel.bind (·.id), (Json.Number.int id).Represented
  target : ∀ f ∈ list, ∀ j ∈ f.target, j < Nat.pow 2 64

section Document

variable {depth : Nat}

theorem fits_ofNat {n : Nat} (h : n < Nat.pow 2 64) :
    (Json.ofNat n).Fits Json.Number.ReadsBack depth := by
  refine .num (Json.Number.readsBack_int ⟨?_, ?_⟩)
  · have hpow : (0 : Int) ≤ (Nat.pow 2 63 : Nat) := Int.natCast_nonneg _
    omega
  · exact_mod_cast h

theorem fits_findingJson {f : Finding}
    (hpanel : ∀ id ∈ f.panel.bind (·.id), (Json.Number.int id).Represented)
    (htarget : ∀ j ∈ f.target, j < Nat.pow 2 64) :
    (findingJson f).Fits Json.Number.ReadsBack (depth + 1) := by
  have hkeys : ((fields f).map (·.1)).Nodup := by
    show ["rule", "severity", "message", "dashboard", "unit", "panel", "panel_id", "target_idx",
      "template", "fixable"].Nodup
    decide
  -- every value is a text or a flag but for the two numbers
  have hvalues : ∀ x ∈ fields f, ∀ v ∈ x.2, v.Fits Json.Number.ReadsBack depth := by
    simp only [fields, lookup_marks, List.forall_mem_cons, List.not_mem_nil, false_implies,
      implies_true, and_true, Option.mem_def, Option.some.injEq, forall_eq', Option.map_some,
      Option.map_eq_some_iff]
    refine ⟨.str, .str, .str, .str, .str, ?_, ?_, ?_, ?_, .bool⟩
    · rintro v ⟨p, -, rfl⟩
      exact .str
    · rintro v ⟨id, hid, rfl⟩
      exact .num (Json.Number.readsBack_int (hpanel id hid))
    · rintro v ⟨j, hj, rfl⟩
      exact fits_ofNat (htarget j hj)
    · rintro v ⟨t, -, rfl⟩
      exact .str
  rw [findingJson_eq]
  refine .obj (hkeys.sublist (keys_present_sublist _)) fun m hm => ?_
  exact hvalues _ (mem_present hm) m.2 rfl

theorem fits_summaryJson {fs : Findings} (h : fs.list.length < Nat.pow 2 64) :
    (summaryJson fs).Fits Json.Number.ReadsBack (depth + 1) := by
  have hcount : ∀ p : Finding → Bool, fs.list.countP p < Nat.pow 2 64 :=
    fun p => Nat.lt_of_le_of_lt List.countP_le_length h
  have hkeys : ["maximum_severity", "successes", "excluded", "warnings", "errors", "fixed",
      "fixable"].Nodup := by decide
  refine .obj hkeys ?_
  simp only [List.forall_mem_cons, List.not_mem_nil, false_implies, implies_true, and_true]
  exact ⟨.str, fits_ofNat (hcount _), fits_ofNat (hcount _), fits_ofNat (hcount _),
    fits_ofNat (hcount _), fits_ofNat (hcount _), fits_ofNat (hcount _)⟩

/-- The report in JSON is read back from its text. -/
theorem parse?_toJson {fs : Findings} (h : InRange fs.list) :
    Json.parse? (toJson fs).pretty = some (toJson fs) := by
  have hkeys : ["results", "summary"].Nodup := by decide
  refine Json.Fits.parse?_pretty (.obj hkeys ?_)
  simp only [List.forall_mem_cons, List.not_mem_nil, false_implies, implies_true, and_true]
  refine ⟨.arr fun v hv => ?_, fits_summaryJson h.length⟩
  obtain ⟨f, hf, rfl⟩ := List.mem_map.mp hv
  have hmem : f ∈ fs.list := (List.mem_filter.mp hf).1
  exact fits_findingJson (h.panel f hmem) (h.target f hmem)

end Document

end Report

end BoardLint
