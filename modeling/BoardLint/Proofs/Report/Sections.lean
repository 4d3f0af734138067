import BoardLint.Proofs.Report.Arrangement
import BoardLint.Proofs.Report.Summary
import BoardLint.Proofs.Report.Wording

set_option autoImplicit false

/-! # Reports, section by section

A report for a reader is a list of sections, one for each rule or each directory that has something
to report. `Report.Outlines` says which findings stand in which section and in what order, and
`Report.reports_exact` that each report is the text of such sections, with each finding in words,
and of a summary that counts all findings. -/

namespace BoardLint.Report

/-- A finding that is shown to a reader. It is not quiet, and it is excluded only if excluded
    findings are to be shown. -/
def Reported (verbose : Bool) (f : Finding) : Prop :=
  f.severity ≠ .quiet ∧ (f.severity = .exclude → verbose = true)

instance (verbose : Bool) : DecidablePred (Reported verbose) := fun _ =>
  inferInstanceAs (Decidable (_ ∧ _))

theorem isReported_iff {verbose : Bool} {f : Finding} :
    isReported verbose f = true ↔ Reported verbose f := by
  unfold isReported Reported
  cases f.severity <;> simp

theorem filter_isReported (verbose : Bool) (fs : List Finding) :
    fs.filter (isReported verbose) = fs.filter fun f => Reported verbose f :=
  List.filter_congr fun f _ => Bool.eq_iff_iff.mpr (by rw [isReported_iff, decide_eq_true_iff])

/-! ## Sections -/

/-- A part of a report: the group of findings that it is about, its heading, and those of the group
    that are shown. -/
structure Section where
  group : String
  heading : String
  findings : List Finding

/-- The heading and a line for each finding. -/
def Section.text (line : Finding → String) (s : Section) : String :=
  s.heading ++ "\n" ++ String.join (s.findings.map fun f => line f ++ "\n")

/-- The sections have all findings of a list that are reported, each once and in order. There is one
    section for each group with such a finding, and none for other groups. -/
structure Outlines (key : Finding → String) (lt : Finding → Finding → Prop) (verbose : Bool)
    (list : List Finding) (sections : List Section) : Prop where
  arranged : Arranged (Reported verbose) lt list (sections.flatMap (·.findings))
  increasing : sections.Pairwise fun s s' => s.group < s'.group
  grouped : ∀ s ∈ sections, ∀ f ∈ s.findings, key f = s.group
  headed : ∀ k, (∃ s ∈ sections, s.group = k) ↔ ∃ f ∈ list, Reported verbose f ∧ key f = k

section

variable (key : Finding → String) (le : Finding → Finding → Bool) (verbose : Bool)
  (heading : String → Finding → String) (list : List Finding)

/-- The section of a group, if something is shown of it. -/
def sectionOf? (k : String) : Option Section :=
  (shownOf key list le (Reported verbose) k).head?.map fun first =>
    ⟨k, heading k first, shownOf key list le (Reported verbose) k⟩

/-- The sections of the groups by a key. -/
def sectionsOf : List Section :=
  (groupBy key list).keys.filterMap (sectionOf? key le verbose heading list)

variable {key le verbose heading list}

theorem sectionOf?_eq_some {k : String} {s : Section}
    (h : sectionOf? key le verbose heading list k = some s) :
    s.group = k ∧ s.findings = shownOf key list le (Reported verbose) k ∧
      ∃ first, s.findings.head? = some first ∧ s.heading = heading k first := by
  obtain ⟨first, hfirst, rfl⟩ := Option.map_eq_some_iff.mp h
  exact ⟨rfl, rfl, first, hfirst, rfl⟩

theorem sectionOf?_eq_none_iff {k : String} : sectionOf? key le verbose heading list k = none ↔
    shownOf key list le (Reported verbose) k = [] := by
  rw [sectionOf?, Option.map_eq_none_iff, List.head?_eq_none_iff]

theorem flatMap_findings_filterMap (keys : List String) :
    (keys.filterMap (sectionOf? key le verbose heading list)).flatMap (·.findings) =
      keys.flatMap (shownOf key list le (Reported verbose)) := by
  induction keys with
  | nil => rfl
  | cons k keys ih =>
      rw [List.flatMap_cons, ← ih]
      cases hsection : sectionOf? key le verbose heading list k with
      | none =>
          rw [List.filterMap_cons_none hsection, sectionOf?_eq_none_iff.mp hsection,
            List.nil_append]
      | some s =>
          rw [List.filterMap_cons_some hsection, List.flatMap_cons,
            (sectionOf?_eq_some hsection).2.1]

theorem outlines_sectionsOf (htrans : ∀ a b c, le a b = true → le b c = true → le a c = true)
    (htotal : ∀ a b, (le a b || le b a) = true) :
    Outlines key (fun a b => key a < key b ∨ key a = key b ∧ le b a = false) verbose list
      (sectionsOf key le verbose heading list) where
  arranged := by
    rw [sectionsOf, flatMap_findings_filterMap]
    exact arranged_shownOf key list le (Reported verbose) htrans htotal
  increasing := by
    refine List.Pairwise.filterMap _ ?_ (groupBy key list).pairwise_keys
    intro k k' hlt s hs s' hs'
    rw [(sectionOf?_eq_some hs).1, (sectionOf?_eq_some hs').1]
    exact hlt
  grouped := by
    intro s hs f hf
    obtain ⟨k, -, hsection⟩ := List.mem_filterMap.mp hs
    obtain ⟨hgroup, hfindings, -⟩ := sectionOf?_eq_some hsection
    rw [hfindings] at hf
    exact ((mem_shownOf key list le (Reported verbose)).mp hf).2.1.trans hgroup.symm
  headed := by
    intro k
    constructor
    · rintro ⟨s, hs, rfl⟩
      obtain ⟨k, -, hsection⟩ := List.mem_filterMap.mp hs
      obtain ⟨hgroup, hfindings, first, hfirst, -⟩ := sectionOf?_eq_some hsection
      have hmem : first ∈ s.findings := List.mem_of_mem_head? hfirst
      rw [hfindings, mem_shownOf] at hmem
      exact ⟨first, hmem.1, hmem.2.2, hmem.2.1.trans hgroup.symm⟩
    · rintro ⟨f, hf, hreported, rfl⟩
      have hshown : f ∈ shownOf key list le (Reported verbose) (key f) :=
        (mem_shownOf key list le (Reported verbose)).mpr ⟨hf, rfl, hreported⟩
      cases hsection : sectionOf? key le verbose heading list (key f) with
      | none =>
          rw [sectionOf?_eq_none_iff.mp hsection] at hshown
          exact absurd hshown List.not_mem_nil
      | some s =>
          refine ⟨s, List.mem_filterMap.mpr ⟨key f, ?_, hsection⟩, (sectionOf?_eq_some hsection).1⟩
          exact (mem_keys_groupBy key list).mpr ⟨f, hf, rfl⟩

/-- Texts by groups are texts by sections if a group that shows nothing has no text. -/
theorem join_map_keys {group : String → String} {text : Section → String}
    (hnone : ∀ k, shownOf key list le (Reported verbose) k = [] → group k = "")
    (hsome : ∀ k first, (shownOf key list le (Reported verbose) k).head? = some first →
      group k = text ⟨k, heading k first, shownOf key list le (Reported verbose) k⟩)
    (keys : List String) : String.join (keys.map group) =
      String.join ((keys.filterMap (sectionOf? key le verbose heading list)).map text) := by
  induction keys with
  | nil => rfl
  | cons k keys ih =>
      rw [List.map_cons, String.join_cons, ih]
      cases hsection : sectionOf? key le verbose heading list k with
      | none =>
          rw [List.filterMap_cons_none hsection, hnone k (sectionOf?_eq_none_iff.mp hsection),
            String.empty_append]
      | some s =>
          obtain ⟨first, hfirst, rfl⟩ := Option.map_eq_some_iff.mp hsection
          rw [List.filterMap_cons_some hsection, List.map_cons, String.join_cons,
            hsome k first hfirst]

end

/-! ## By rule and by directory -/

/-- The order of a report by rule: rules first, then the titles of dashboards. -/
def RuleOrder (a b : Finding) : Prop :=
  a.rule < b.rule ∨ a.rule = b.rule ∧ a.dashboard.title < b.dashboard.title

/-- The order of a report by directory. -/
def UnitOrder (a b : Finding) : Prop := a.dashboard.unit < b.dashboard.unit

/-- Whether the title of a dashboard comes no later than that of another. -/
def titleLe (a b : Finding) : Bool := a.dashboard.title ≤ b.dashboard.title

/-- The sections of a report by rule. -/
def ruleSections (o : Options) (fs : Findings) : List Section :=
  sectionsOf (·.rule) titleLe o.verbose
    (fun _ f => Style.bold.paint o.colored f.description) fs.list

/-- The sections of a report by directory. -/
def unitSections (o : Options) (fs : Findings) : List Section :=
  sectionsOf (·.dashboard.unit) (fun _ _ => true) o.verbose
    (fun unit _ => Style.underline.paint o.colored (if unit.isEmpty then "." else unit)) fs.list

theorem outlines_ruleSections (o : Options) (fs : Findings) :
    Outlines (·.rule) RuleOrder o.verbose fs.list (ruleSections o fs) := by
  have horder : RuleOrder = fun a b => a.rule < b.rule ∨ a.rule = b.rule ∧ titleLe b a = false := by
    funext a b
    simp only [RuleOrder, titleLe, decide_eq_false_iff_not, String.not_le]
  rw [horder]
  refine outlines_sectionsOf (fun a b c hab hbc => ?_) fun a b => ?_
  · exact decide_eq_true (String.le_trans (of_decide_eq_true hab) (of_decide_eq_true hbc))
  · simpa [titleLe] using String.le_total a.dashboard.title b.dashboard.title

theorem outlines_unitSections (o : Options) (fs : Findings) :
    Outlines (·.dashboard.unit) UnitOrder o.verbose fs.list (unitSections o fs) := by
  have horder : UnitOrder = fun a b => a.dashboard.unit < b.dashboard.unit ∨
      a.dashboard.unit = b.dashboard.unit ∧ true = false := by
    funext a b
    simp [UnitOrder]
  rw [horder]
  exact outlines_sectionsOf (fun _ _ _ _ _ => rfl) fun _ _ => rfl

theorem join_ruleSection (o : Options) (fs : Findings) :
    String.join (fs.byRule.map fun x => ruleSection o x.2) =
      String.join ((ruleSections o fs).map (Section.text (ruleLine o))) := by
  have hgroups : (fs.byRule.map fun x => ruleSection o x.2) =
      (groupBy (·.rule) fs.list).keys.map fun k =>
        ruleSection o ((itemsOf (·.rule) fs.list k).mergeSort titleLe) := by
    rw [Findings.byRule, entries_groupBy, List.map_map, List.map_map]
    rfl
  rw [hgroups]
  refine join_map_keys (fun k hnone => ?_) (fun k first hfirst => ?_) _
  · rw [ruleSection, filter_isReported]
    rw [shownOf] at hnone
    rw [hnone]
  · rw [ruleSection, filter_isReported]
    rw [shownOf] at hfirst ⊢
    cases hshown : ((itemsOf (·.rule) fs.list k).mergeSort titleLe).filter
        fun f => Reported o.verbose f with
    | nil => simp [hshown] at hfirst
    | cons f rest =>
        rw [hshown] at hfirst
        obtain rfl : f = first := Option.some.inj hfirst
        rfl

theorem join_unitSection (o : Options) (fs : Findings) :
    String.join (fs.byUnit.map fun x => unitSection o x.1 x.2) =
      String.join ((unitSections o fs).map fun s =>
        s.text (fun f => "  " ++ unitLine o f) ++ "\n") := by
  have hgroups : (fs.byUnit.map fun x => unitSection o x.1 x.2) =
      (groupBy (·.dashboard.unit) fs.list).keys.map fun k =>
        unitSection o k (itemsOf (·.dashboard.unit) fs.list k) := by
    rw [Findings.byUnit, entries_groupBy, List.map_map]
    rfl
  have hshown : ∀ k, shownOf (·.dashboard.unit) fs.list (fun _ _ => true) (Reported o.verbose) k =
      (itemsOf (·.dashboard.unit) fs.list k).filter fun f => Reported o.verbose f := by
    intro k
    rw [shownOf, List.mergeSort_of_pairwise (List.pairwise_of_forall fun _ _ => rfl)]
  rw [hgroups]
  refine join_map_keys (fun k hnone => ?_) (fun k first hfirst => ?_) _
  · rw [hshown] at hnone
    rw [unitSection, filter_isReported, hnone]
  · rw [hshown] at hfirst ⊢
    rw [unitSection, filter_isReported]
    cases hitems : (itemsOf (·.dashboard.unit) fs.list k).filter
        fun f => Reported o.verbose f with
    | nil => simp [hitems] at hfirst
    | cons f rest => rfl

theorem byRule_eq (o : Options) (summary : Bool) (fs : Findings) :
    byRule o summary fs = String.join ((ruleSections o fs).map (Section.text (ruleLine o))) ++
      if summary then (if (ruleSections o fs).isEmpty then "" else "\n") ++ summaryLine o fs ++ "\n"
      else "" := by
  have hbody : ∀ body, String.join (fs.byRule.map fun x => ruleSection o x.2) = body →
      byRule o summary fs = if summary then
        body ++ (if body.isEmpty then "" else "\n") ++ summaryLine o fs ++ "\n" else body := by
    rintro body rfl
    rfl
  have hempty : (String.join ((ruleSections o fs).map (Section.text (ruleLine o)))).isEmpty =
      (ruleSections o fs).isEmpty := by
    cases ruleSections o fs with
    | nil => rfl
    | cons s rest =>
        rw [List.map_cons, String.join_cons, Section.text]
        simp
  rw [hbody _ (join_ruleSection o fs), hempty]
  cases summary with
  | false => simp
  | true => simp [String.append_assoc]

theorem byUnit_eq (o : Options) (fs : Findings) :
    byUnit o fs = String.join ((unitSections o fs).map fun s =>
      s.text (fun f => "  " ++ unitLine o f) ++ "\n") ++ summaryLine o fs ++ "\n" := by
  have hbody : byUnit o fs = String.join (fs.byUnit.map fun x => unitSection o x.1 x.2) ++
      summaryLine o fs ++ "\n" := rfl
  rw [hbody, join_unitSection]

/-! ## All reports -/

theorem listed_eq (fs : Findings) :
    listed fs = fs.list.filter fun f => f.severity ≠ .quiet := by
  refine List.filter_congr fun f _ => ?_
  generalize f.severity = s
  cases s <;> rfl

/-- The members of a summary in JSON that count findings of one severity. -/
def tallyMembers : List (String × Severity) :=
  [("errors", .error), ("warnings", .warning), ("excluded", .exclude), ("fixed", .fixed)]

theorem get?_summaryJson (fs : Findings) {member : String} {s : Severity}
    (h : (member, s) ∈ tallyMembers) :
    (summaryJson fs).get? member = some (Json.ofNat (tally fs s)) := by
  rw [← countOf_singleton]
  simp only [tallyMembers, List.mem_cons, Prod.mk.injEq, List.not_mem_nil, or_false] at h
  rcases h with ⟨rfl, rfl⟩ | ⟨rfl, rfl⟩ | ⟨rfl, rfl⟩ | ⟨rfl, rfl⟩ <;> rfl

/-- The report in JSON: what is listed, and a summary. -/
def document (listed : List Finding) (summary : Json) : Json :=
  .obj [("results", .arr (listed.map fun f => .obj (present (fields f)))), ("summary", summary)]

theorem toJson_eq (fs : Findings) :
    toJson fs = document (fs.list.filter fun f => f.severity ≠ .quiet) (summaryJson fs) := by
  rw [toJson, listed_eq, document, funext findingJson_eq]

/-- **Reports neither lose nor repeat findings.** Whatever the findings and the options are, what is
    written as a report by rule is made of sections with the reported findings, each once and in
    words, in the order of rules, then of the titles of dashboards, then of the findings; and what
    is written by directory of sections with the same findings in the order of directories, then of
    the findings. Each section has one heading, and there is one exactly for each rule or directory
    with a reported finding. Styles add nothing that is read. The report in JSON is the text of a
    document, and is read back as that, which lists all findings that are not quiet in their order.
    In each report the summary counts all findings of a severity, reported or not, and a count that
    a line leaves out is zero. -/
theorem reports_exact (o : Options) (fs : Findings) :
    (∃ sections, Outlines (·.rule) RuleOrder o.verbose fs.list sections ∧
      (∀ s ∈ sections, ∃ f, s.findings.head? = some f ∧
        s.heading = Style.bold.paint o.colored f.description) ∧
      let body := String.join (sections.map
        (Section.text fun f => tinted o f.severity (wording f)))
      byRule o false fs = body ∧ write .text o fs =
        body ++ (if sections.isEmpty then "" else "\n") ++ summaryLine o fs ++ "\n") ∧
    (∃ sections, Outlines (·.dashboard.unit) UnitOrder o.verbose fs.list sections ∧
      (∀ s ∈ sections, s.heading =
        Style.underline.paint o.colored (if s.group.isEmpty then "." else s.group)) ∧
      write .grouped o fs = String.join (sections.map fun s => s.text (fun f => "  " ++
        tinted o f.severity (wording f ++ " (" ++ Style.dimmed.paint o.colored f.rule ++ ")")) ++
          "\n") ++ summaryLine o fs ++ "\n") ∧
    (∀ (style : Style) (text : String),
      Style.plain (style.paint o.colored text) = Style.plain text ∧
      (o.colored = false → style.paint o.colored text = text)) ∧
    (∃ summary, (∀ x ∈ tallyMembers, Json.get? x.1 summary = some (Json.ofNat (tally fs x.2))) ∧
      let listed := document (fs.list.filter fun f => f.severity ≠ .quiet) summary
      write .json o fs = listed.pretty ∧
        (InRange fs.list → Json.parse? (write .json o fs) = some listed)) ∧
    ∀ x ∈ tallyWords, statedCount x.1 (summaryLine o fs) = tally fs x.2 := by
  refine ⟨⟨ruleSections o fs, outlines_ruleSections o fs, fun s hs => ?_, ?_⟩,
    ⟨unitSections o fs, outlines_unitSections o fs, fun s hs => ?_, ?_⟩,
    fun style text => ⟨style.plain_paint o.colored text, fun hplain => ?_⟩,
    ⟨summaryJson fs, fun x hx => get?_summaryJson fs hx, ?_⟩,
    fun x hx => statedCount_summaryLine o fs hx⟩
  · obtain ⟨k, -, hsection⟩ := List.mem_filterMap.mp hs
    exact (sectionOf?_eq_some hsection).2.2
  · rw [← ruleLine_eq]
    refine ⟨?_, ?_⟩
    · rw [byRule_eq]
      simp
    · rw [write, byRule_eq]
      simp [String.append_assoc]
  · obtain ⟨k, -, hsection⟩ := List.mem_filterMap.mp hs
    obtain ⟨rfl, -, -, -, hheading⟩ := sectionOf?_eq_some hsection
    exact hheading
  · rw [write, byUnit_eq, unitLine_eq]
  · rw [hplain]
    rfl
  · rw [← toJson_eq]
    exact ⟨rfl, parse?_toJson⟩

/-- A panel has two findings, of which overrides exclude one, and a third finding is on a template
    variable: as words, and as a document that is read back from its text. -/
theorem reports_exact_excluded :
    let raw := Diagnostic.error "no title"
    let place : DashboardPlace := ⟨0, "Home", "main"⟩
    let first : Finding := ⟨"title", "Titles", raw, raw, false, place,
      some ⟨2, some (-7), "load"⟩, some 1, none⟩
    let second : Finding := { first with
      effective := ⟨.exclude, "no title (Excluded)", none⟩ }
    let third : Finding := { first with panel := none, target := none, template := some ⟨0, "job"⟩ }
    let fs := Findings.ofList [first, second, third]
    let o : Options := ⟨false, false⟩
    InRange fs.list ∧
    (∃ summary, Json.parse? (write .json o fs) = some (document [first, second, third] summary)) ∧
    fs.list.map wording = ["[❌] Dashboard 'Home', panel 'load', target idx '1' no title",
      "[➖] Dashboard 'Home', panel 'load', target idx '1' no title (Excluded)",
      "[❌] Dashboard 'Home', template 'job' no title"] := by
  intro raw place first second third fs o
  have hrange : InRange fs.list := by
    refine ⟨by decide, ?_, ?_⟩
    · simp [fs, Findings.ofList, first, second, third, Json.Number.Represented]
    · simp [fs, Findings.ofList, first, second, third]
  obtain ⟨-, -, -, ⟨summary, -, -, hparse⟩, -⟩ := reports_exact o fs
  exact ⟨hrange, ⟨summary, hparse hrange⟩, by decide +kernel⟩

end BoardLint.Report
