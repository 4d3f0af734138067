import BoardLint.Lint.Repair
import BoardLint.Proofs.Dashboard.Readable
import BoardLint.Proofs.File.Tree
import BoardLint.Proofs.Lint.Fixed
import BoardLint.Proofs.Lint.Independence
import Mathlib.Algebra.GroupWithZero.Nat

set_option autoImplicit false

/-! # What repairs leave in files

Every dashboard that was repaired is in its file as it is in memory, so loading the file gives it
back, and no other file changes. What is counted is what was repaired. The modes that write nothing
repair and count in the same way. -/

namespace BoardLint

open Json (Number)

/-! ## Repairs of storable dashboards -/

theorem Target.eq_of_frame_eq {t t' : Target} (h : t'.frame = t.frame) :
    t' = { t with expr := t'.expr } :=
  congrArg (fun f => ({ f with expr := t'.expr } : Target)) h

theorem Dashboard.Replaced.spec {d d' : Dashboard} {i : Nat} {p q : Panel}
    (h : d.Replaced i p q d') : d.spec.Replaced i p q d'.spec := by
  cases h with
  | inRow hrows hi h => exact .inRow hrows hi h
  | besideRows hi h => exact .besideRows hi h

/-- What persisting needs to know of a dashboard that was loaded. -/
structure Dashboard.KeptFrom (d d' : Dashboard) : Prop where
  storable : d'.Storable Number.ReadsBack
  unit : d'.unit = d.unit
  source : d'.source = d.source

/-- The repair of a rule keeps a dashboard storable, and where it was loaded from. -/
theorem Finding.Repairs.keptFrom {maySet : String → Matcher → Prop} {f : Finding} {fix : Fix}
    {d d₀ d' : Dashboard} (h : f.Repairs d₀ fix d') (hmends : Rule.Mends maySet f.rule fix)
    (hd : d.KeptFrom d₀) : d.KeptFrom d' := by
  obtain ⟨hstorable, hunit, hsource⟩ := hd
  generalize f.rule = id at hmends
  cases hmends with
  | editable =>
      cases h
      exact ⟨hstorable.of_readable rfl rfl fun depth h => Dashboard.readable_editable h false,
        hunit, hsource⟩
  | refresh =>
      cases h with
      | @template place t _ hplace ht =>
          have hn : (Number.int Rule.onTimeChange).ReadsBack := by decide +kernel
          have ht' : ∀ inner, Readable Number.ReadsBack Template.ofJson? inner t →
              Readable Number.ReadsBack Template.ofJson? inner
                { t with refresh := some Rule.onTimeChange } :=
            fun inner h => Template.readable_refresh h rfl hn
          exact ⟨hstorable.of_readable rfl rfl
            fun depth h => Dashboard.readable_set_template h ht ht', hunit, hsource⟩
  | @query _ m =>
      cases h with
      | @target place j p t _ _ hplace hj ht h =>
          have ht' : ∀ inner, Readable Number.ReadsBack Target.ofJson? inner t →
              Readable Number.ReadsBack Target.ofJson? inner
                (Rule.setMatcher m d₀.templates t) := by
            intro inner h
            rw [Target.eq_of_frame_eq (Rule.frame_setMatcher m d₀.templates t)]
            exact Target.readable_expr h _
          have hchange : ∀ depth, Readable Number.ReadsBack Dashboard.ofSpec? (depth + 3) d₀.spec →
              Readable Number.ReadsBack Dashboard.ofSpec? (depth + 3) d'.spec :=
            fun depth => h.spec.readable fun inner hp => Panel.readable_set_target hp ht ht'
          have hrest : d'.envelope = d₀.envelope ∧ d'.extra = d₀.extra ∧ d'.unit = d₀.unit ∧
              d'.source = d₀.source := by
            cases h <;> exact ⟨rfl, rfl, rfl, rfl⟩
          obtain ⟨henvelope, hextra, hunit', hsource'⟩ := hrest
          exact ⟨hstorable.of_readable henvelope hextra hchange, hunit'.trans hunit,
            hsource'.trans hsource⟩

/-! ## Loading -/

/-- The doubles in a file are read back from their own texts. -/
def FileTree.DoublesReadBack (t : FileTree) (path : String) : Prop :=
  ∀ text value, t.readText path = .ok text → Json.parse? text = some value →
    ∀ x, .real x ∈ value.numbers → (Number.real x).ReadsBack

theorem Dashboard.place_of_ofJson {value : Json} {d : Dashboard} (h : ofJson value = .ok d) :
    d.unit = "" ∧ d.source = none := by
  obtain ⟨m, -, ⟨-, hm⟩ | ⟨-, _, inner, -, hinner, rfl⟩⟩ := ofJson_cases h
  · obtain ⟨-, -, -, -, -, -, hunit, hsource, -⟩ := ofMembers?_eq_some_iff.mp hm
    exact ⟨hunit, hsource⟩
  · obtain ⟨-, -, -, -, -, -, hunit, hsource, -⟩ := ofMembers?_eq_some_iff.mp hinner
    exact ⟨hunit, hsource⟩

namespace LintRun

theorem load_eq_ok_iff {t : FileTree} {path : String} {d : Dashboard} :
    load t path = .ok d ↔ ∃ text d₀, t.read path = .ok (.text text) ∧
      Dashboard.ofText text = .ok d₀ ∧
      d = { d₀ with unit := Path.parent path, source := some path } := by
  unfold load
  dsimp only
  split
  · next e he => simp [he]
  · next he => simp [he]
  · next s he =>
    split
    · next e hs => simp [he, hs]
    · next d₀ hs => simp [he, hs, eq_comm]

/-- A dashboard that was loaded is what its document says. -/
theorem keptFrom_of_load {t : FileTree} {path : String} {d : Dashboard}
    (h : load t path = .ok d) (hdoubles : t.DoublesReadBack path) : d.KeptFrom d := by
  refine ⟨?_, rfl, rfl⟩
  obtain ⟨text, d₀, hread, htext, rfl⟩ := load_eq_ok_iff.mp h
  have hreadText : t.readText path = .ok text := by
    simp [FileTree.readText, hread, bind, Except.bind]
  rw [Dashboard.ofText] at htext
  split at htext
  · next value hvalue =>
    refine ⟨value, (Json.fits_of_parse? hvalue).of_numbers fun n hn hrepresented => ?_, ?_⟩
    · cases n with
      | int n => exact Number.readsBack_int hrepresented
      | real x => exact hdoubles text value hreadText hvalue x hn
    · obtain ⟨hunit, hsource⟩ := Dashboard.place_of_ofJson htext
      rw [htext, ← hunit, ← hsource]
  · cases htext

/-- A dashboard is loaded from the file that it was written to. -/
theorem load_of_read {t : FileTree} {path : String} {d : Dashboard}
    (hstorable : d.Storable Number.ReadsBack) (hunit : d.unit = Path.parent path)
    (hsource : d.source = some path) (h : t.read path = .ok (.text (d.toText ++ "\n"))) :
    load t path = .ok d := by
  refine load_eq_ok_iff.mpr ⟨_, _, h, hstorable.ofText_eq, ?_⟩
  rw [← hunit, ← hsource]

/-! ## Runs over files -/

/-- What makes the repairs of a run possible: findings with repairs are those of rules under some
    settings, on parts of its dashboards. -/
structure Repairable (s : RuleSettings) (run : LintRun) : Prop where
  ready : ∀ i d, run.dashboards[i]? = some d → Findings.Ready i d run.findings.list
  index_lt : ∀ f ∈ run.findings.list, f.isPending = true →
    f.dashboard.index < run.dashboards.length
  mends : ∀ f ∈ run.findings.list, ∀ fix, f.raw.fix = some fix →
    Rule.Mends (fun id m => m ∈ Rule.requiredBy s id) f.rule fix

/-- Of the findings of a run over files, those that are not of rules have no repairs. -/
theorem ofPaths_findings {t : FileTree} {s : Settings} {rules : RuleSet} {paths : List String}
    {run : LintRun} (h : ofPaths t s rules paths = .ok run) :
    (∀ d ∈ run.dashboards, ∃ path, load t path = .ok d) ∧ ∃ c, ∀ f ∈ run.findings.list,
      f ∈ (lint rules run.dashboards c).list ∨ f.raw.fix = none := by
  unfold ofPaths at h
  cases hfiles : Discovery.files t s.files paths with
  | error e =>
      rw [hfiles] at h
      cases h
  | ok files =>
      rw [hfiles] at h
      cases h
      refine ⟨fun d hd => ?_, cascade t s (loaded (files.map (load t))), fun f hf => ?_⟩
      · obtain ⟨path, -, hload⟩ := mem_loaded.mp hd
        exact ⟨path, hload⟩
      · have hlist := foldl_add (cascade t s (loaded (files.map (load t))))
          ((failed (files.map (load t))).zipIdx (loaded (files.map (load t))).length)
          (lint rules (loaded (files.map (load t))) (cascade t s (loaded (files.map (load t))))) rfl
        rcases List.mem_append.mp (hlist ▸ hf) with hf | hf
        · exact .inl hf
        · obtain ⟨x, -, rfl⟩ := List.mem_map.mp hf
          exact .inr rfl

theorem repairable_of_ofPaths {t : FileTree} {s : Settings} {r : RuleSettings}
    {paths : List String} {run : LintRun}
    (h : ofPaths t s (RuleSet.ofSettings r) paths = .ok run) : run.Repairable r := by
  obtain ⟨-, c, hfindings⟩ := ofPaths_findings h
  have hfix : ∀ f ∈ run.findings.list, ∀ fix, f.raw.fix = some fix →
      f ∈ (lint (RuleSet.ofSettings r) run.dashboards c).list := by
    intro f hf fix hfix
    rcases hfindings f hf with hlint | hnone
    · exact hlint
    · rw [hnone] at hfix
      cases hfix
  refine ⟨fun i d hd f hf hindex fix hsome => ?_, fun f hf hpending => ?_, fun f hf fix hsome => ?_⟩
  · exact ready_of_getElem? hd f (hfix f hf fix hsome) hindex fix hsome
  · obtain ⟨fix, hsome⟩ := Finding.exists_fix_of_isPending hpending
    exact index_lt_of_mem_lint (hfix f hf fix hsome)
  · exact mends_of_mem_lint (hfix f hf fix hsome) hsome

/-! ## What was fixed -/

/-- The findings that count as fixed after repairs and did not before. -/
def newlyFixed (before after : LintRun) : List Finding :=
  ((before.findings.list.zip after.findings.list).filter
    fun x => x.1.severity != .fixed && x.2.severity == .fixed).map (·.2)

namespace Repairable

variable {s : RuleSettings} {run : LintRun} (h : run.Repairable s)
include h

/-- The findings that were pending, and no others, count as fixed anew. -/
theorem newlyFixed_eq : run.newlyFixed run.autoFix.1 =
    (run.findings.list.filter Finding.isPending).map Finding.repaired := by
  rw [newlyFixed, findings_autoFix h.ready h.index_lt]
  induction run.findings.list with
  | nil => rfl
  | cons f list ih =>
      rw [List.map_cons, List.zip_cons_cons]
      by_cases hpending : f.isPending = true
      · have hactionable : f.severity.isActionable = true := by
          simp only [Finding.isPending, Bool.and_eq_true] at hpending
          exact hpending.2
        have hsevere : f.severity ≠ .fixed := by
          intro hfixed
          rw [hfixed] at hactionable
          cases hactionable
        have hrepaired : f.repaired.severity = .fixed := rfl
        rw [if_pos hpending, List.filter_cons_of_pos (by simp [hsevere, hrepaired]),
          List.filter_cons_of_pos hpending, List.map_cons, List.map_cons, ih]
      · rw [if_neg hpending, List.filter_cons_of_neg (by simp),
          List.filter_cons_of_neg hpending, ih]

theorem exists_newlyFixed_iff (i : Nat) :
    (∃ f ∈ run.newlyFixed run.autoFix.1, f.dashboard.index = i) ↔
      run.findings.list.countP (Finding.isPendingAt i) ≠ 0 := by
  rw [h.newlyFixed_eq, ← Nat.pos_iff_ne_zero, List.countP_pos_iff]
  constructor
  · rintro ⟨_, hfixed, hindex⟩
    obtain ⟨f, hf, rfl⟩ := List.mem_map.mp hfixed
    obtain ⟨hmem, hpending⟩ := List.mem_filter.mp hf
    exact ⟨f, hmem, Finding.isPendingAt_iff.mpr ⟨hindex, hpending⟩⟩
  · rintro ⟨f, hf, hpending⟩
    obtain ⟨hindex, hpending⟩ := Finding.isPendingAt_iff.mp hpending
    exact ⟨f.repaired, List.mem_map_of_mem (List.mem_filter.mpr ⟨hf, hpending⟩), hindex⟩

theorem mem_counts_iff {i n : Nat} : (i, n) ∈ run.autoFix.2 ↔ i < run.dashboards.length ∧
    n = run.findings.list.countP (Finding.isPendingAt i) ∧ n ≠ 0 := by
  rw [counts_autoFix h.ready]
  simp only [List.mem_filter, List.mem_map, List.mem_range, Prod.mk.injEq, bne_iff_ne]
  constructor
  · rintro ⟨⟨j, hj, rfl, rfl⟩, hn⟩
    exact ⟨hj, rfl, hn⟩
  · rintro ⟨hi, rfl, hn⟩
    exact ⟨⟨i, hi, rfl, rfl⟩, hn⟩

end Repairable

theorem countP_isPendingAt_add (list : List Finding) (n : Nat) :
    list.countP (fun f => f.isPending && decide (f.dashboard.index < n)) +
        list.countP (Finding.isPendingAt n) =
      list.countP fun f => f.isPending && decide (f.dashboard.index < n + 1) := by
  induction list with
  | nil => rfl
  | cons f list ih =>
      rw [List.countP_cons, List.countP_cons, List.countP_cons, ← ih]
      by_cases hpending : f.isPending = true
      · rcases Nat.lt_trichotomy f.dashboard.index n with hlt | heq | hgt
        · have hlt' := Nat.lt_succ_of_lt hlt
          simp [Finding.isPendingAt, hpending, hlt, hlt', Nat.ne_of_lt hlt]
          omega
        · simp [Finding.isPendingAt, hpending, heq]
          omega
        · have hgt' : ¬ f.dashboard.index < n + 1 := by omega
          simp [Finding.isPendingAt, hpending, hgt', Nat.not_lt_of_gt hgt, Nat.ne_of_gt hgt]
      · simp [Finding.isPendingAt, hpending]

/-- Pending findings, counted by the positions of their dashboards. -/
theorem sum_countP_isPendingAt (list : List Finding) (n : Nat) :
    ((List.range n).map fun i => list.countP (Finding.isPendingAt i)).sum =
      list.countP fun f => f.isPending && decide (f.dashboard.index < n) := by
  induction n with
  | zero => simp
  | succ n ih =>
      rw [List.range_succ, List.map_append, List.sum_append, ih, List.map_singleton,
        List.sum_singleton, countP_isPendingAt_add]

theorem sum_filter_ne_zero (counts : List (Nat × Nat)) :
    ((counts.filter fun x => x.2 != 0).map (·.2)).sum = (counts.map (·.2)).sum := by
  induction counts with
  | nil => rfl
  | cons x counts ih =>
      by_cases hx : x.2 = 0
      · simp [hx, ih]
      · simp [hx, ih]

namespace Repairable

variable {s : RuleSettings} {run : LintRun} (h : run.Repairable s)
include h

/-- As many repairs are counted as findings count as fixed anew. -/
theorem sum_counts : (run.autoFix.2.map (·.2)).sum = (run.newlyFixed run.autoFix.1).length := by
  have hall : ∀ f ∈ run.findings.list, (f.isPending &&
      decide (f.dashboard.index < run.dashboards.length)) = f.isPending := by
    intro f hf
    cases hpending : f.isPending with
    | false => rfl
    | true => simp [h.index_lt f hf hpending]
  rw [counts_autoFix h.ready, sum_filter_ne_zero, List.map_map, h.newlyFixed_eq, List.length_map,
    ← List.countP_eq_length_filter]
  exact (sum_countP_isPendingAt _ _).trans (List.countP_congr fun f hf => by rw [hall f hf])

/-- As many dashboards are counted as have findings that count as fixed anew. -/
theorem length_counts : run.autoFix.2.length = (List.range run.dashboards.length).countP
    fun i => (run.newlyFixed run.autoFix.1).any (·.dashboard.index == i) := by
  rw [counts_autoFix h.ready, ← List.countP_eq_length_filter, List.countP_map]
  refine List.countP_congr fun i _ => ?_
  have hiff := h.exists_newlyFixed_iff i
  simpa using hiff.symm

end Repairable

end LintRun

/-! ## Persisting -/

/-- The report `r'` is `r` with more repairs and more files, and no more errors. -/
structure RepairReport.Adds (r r' : RepairReport) (applied modified : Nat) : Prop where
  applied : r'.applied = r.applied + applied
  modified : r'.modified = r.modified + modified
  errors : r'.errors = r.errors

theorem RepairReport.Adds.trans {r r' r'' : RepairReport} {m n m' n' : Nat} (h : r.Adds r' m n)
    (h' : r'.Adds r'' m' n') : r.Adds r'' (m + m') (n + n') where
  applied := by rw [h'.applied, h.applied, Nat.add_assoc]
  modified := by rw [h'.modified, h.modified, Nat.add_assoc]
  errors := h'.errors.trans h.errors

/-- The report counts what was fixed between two states of a run, and has no errors. -/
structure RepairReport.Accounts (report : RepairReport) (before after : LintRun) : Prop where
  applied : report.applied = (before.newlyFixed after).length
  modified : report.modified = (List.range before.dashboards.length).countP
    fun i => (before.newlyFixed after).any (·.dashboard.index == i)
  errors : report.errors = []

namespace Repair

variable {mode : RepairMode} {t u : FileTree} {r : RepairReport} {ds : List Dashboard}
  {x : Nat × Nat} {d : Dashboard} {path entry : String}

/-- What stands in the file of a dashboard after repairs. -/
def stored (d : Dashboard) : FileContent := .text (d.toText ++ "\n")

theorem persistAt_write (hd : ds[x.1]? = some d) (hsource : d.source = some path)
    (hleads : t.Leads path entry) (r : RepairReport) :
    ∃ r', persistAt .write ds (t, r) x =
      (t.withFiles (t.files.insert entry (stored d)), r') ∧ r.Adds r' x.2 1 := by
  refine ⟨{ r with applied := r.applied + x.2, modified := r.modified + 1 }, ?_, ⟨rfl, rfl, rfl⟩⟩
  simp [persistAt, hd, persistDashboard, hsource, persist, hleads.write_eq, Except.map, stored]

theorem persistAt_of_ne (hmode : mode ≠ .write) (hd : ds[x.1]? = some d)
    (hsource : d.source = some path) {old : String} (hread : t.readText path = .ok old)
    (r : RepairReport) : ∃ r', persistAt mode ds (t, r) x = (t, r') ∧ r.Adds r' x.2 1 := by
  cases mode with
  | write => exact absurd rfl hmode
  | dryRun =>
      refine ⟨{ r with applied := r.applied + x.2, modified := r.modified + 1 }, ?_,
        ⟨rfl, rfl, rfl⟩⟩
      simp [persistAt, hd, persistDashboard, hsource, persist]
  | diff =>
      simp only [persistAt, hd, persistDashboard, hsource, persist, hread, bind, Except.bind]
      refine ⟨_, rfl, ?_⟩
      split <;> exact ⟨rfl, rfl, rfl⟩

/-- The dashboard at a position has a file that can be read and written. -/
def HasFile (t : FileTree) (ds : List Dashboard) (i : Nat) : Prop :=
  ∃ d path entry old, ds[i]? = some d ∧ d.source = some path ∧ t.Leads path entry ∧
    t.readText path = .ok old

/-- Where and what is written for counted repairs. -/
def writes (t : FileTree) (ds : List Dashboard) (counts : List (Nat × Nat)) :
    List (String × FileContent) :=
  counts.filterMap fun x => ds[x.1]?.bind fun d =>
    (d.source.bind t.keyOf?).map fun key => (key, stored d)

theorem foldl_persistAt_write {counts : List (Nat × Nat)} (h : ∀ x ∈ counts, HasFile t ds x.1)
    (files : KeyMap FileContent) (r : RepairReport) :
    ∃ r', counts.foldl (persistAt .write ds) (t.withFiles files, r) =
        (t.withFiles ((writes t ds counts).foldl (fun m x => m.insert x.1 x.2) files), r') ∧
      r.Adds r' (counts.map (·.2)).sum counts.length := by
  induction counts generalizing files r with
  | nil => exact ⟨r, rfl, ⟨rfl, rfl, rfl⟩⟩
  | cons x counts ih =>
      obtain ⟨⟨d, path, entry, -, hd, hsource, hleads, -⟩, hrest⟩ := List.forall_mem_cons.mp h
      obtain ⟨r₁, hstep, hadds⟩ := persistAt_write hd hsource (hleads.withFiles files) r
      obtain ⟨r', hfold, hadds'⟩ := ih hrest (files.insert entry (stored d)) r₁
      have hwrites : writes t ds (x :: counts) = (entry, stored d) :: writes t ds counts := by
        simp [writes, hd, hsource, hleads.keyOf?_eq]
      refine ⟨r', ?_, ?_⟩
      · rw [List.foldl_cons, hstep, hwrites, List.foldl_cons]
        exact hfold
      · have := hadds.trans hadds'
        rwa [Nat.add_comm 1] at this

theorem foldl_persistAt_of_ne (hmode : mode ≠ .write) {counts : List (Nat × Nat)}
    (h : ∀ x ∈ counts, HasFile t ds x.1) (r : RepairReport) :
    ∃ r', counts.foldl (persistAt mode ds) (t, r) = (t, r') ∧
      r.Adds r' (counts.map (·.2)).sum counts.length := by
  induction counts generalizing r with
  | nil => exact ⟨r, rfl, ⟨rfl, rfl, rfl⟩⟩
  | cons x counts ih =>
      obtain ⟨⟨d, path, -, old, hd, hsource, -, hread⟩, hrest⟩ := List.forall_mem_cons.mp h
      obtain ⟨r₁, hstep, hadds⟩ := persistAt_of_ne hmode hd hsource hread r
      obtain ⟨r', hfold, hadds'⟩ := ih hrest r₁
      refine ⟨r', ?_, ?_⟩
      · rw [List.foldl_cons, hstep, hfold]
      · have := hadds.trans hadds'
        rwa [Nat.add_comm 1] at this

theorem mem_writes_iff {counts : List (Nat × Nat)} {w : String × FileContent} :
    w ∈ writes u ds counts ↔ ∃ x ∈ counts, ∃ d, ds[x.1]? = some d ∧
      d.source.bind u.keyOf? = some w.1 ∧ stored d = w.2 := by
  simp only [writes, List.mem_filterMap, Option.bind_eq_some_iff (x := ds[_]?),
    Option.map_eq_some_iff]
  constructor
  · rintro ⟨x, hx, d, hd, key, hkey, rfl⟩
    exact ⟨x, hx, d, hd, hkey, rfl⟩
  · rintro ⟨x, hx, d, hd, hkey, hstored⟩
    exact ⟨x, hx, d, hd, w.1, hkey, by rw [hstored]⟩

section Runs

variable {s : Settings} {rules : RuleSettings} {paths : List String} {run : LintRun}
  (hrun : LintRun.ofPaths t s (RuleSet.ofSettings rules) paths = .ok run)
  (hdoubles : ∀ d ∈ run.dashboards, ∀ path ∈ d.source, t.DoublesReadBack path)
  (haccess : ∀ d ∈ run.dashboards, ∀ path ∈ d.source,
    (∃ old, u.readText path = .ok old) ∧ ∀ content, ∃ u', u.write path content = .ok u')
include hrun hdoubles haccess

/-- A dashboard of a run after its repairs, and the file that it goes to. -/
theorem exists_repaired {i : Nat} {d : Dashboard} (hd : run.dashboards[i]? = some d) :
    ∃ d' path entry old, run.autoFix.1.dashboards[i]? = some d' ∧ d.source = some path ∧
      d'.source = some path ∧ d'.unit = Path.parent path ∧ d'.Storable Number.ReadsBack ∧
      u.Leads path entry ∧ u.readText path = .ok old := by
  have hmem : d ∈ run.dashboards := List.mem_of_getElem? hd
  obtain ⟨hloaded, -⟩ := LintRun.ofPaths_findings hrun
  obtain ⟨path, hload⟩ := hloaded d hmem
  obtain ⟨hsource, hunit⟩ := LintRun.load_ok hload
  obtain ⟨⟨old, hread⟩, hwrite⟩ := haccess d hmem path hsource
  obtain ⟨_, hwritten⟩ := hwrite .binary
  obtain ⟨entry, hleads⟩ := FileTree.exists_leads_of_write hwritten
  -- a sweep is one repair after another, and each keeps the dashboard storable
  have hkept : d.KeptFrom (Findings.repairAll i d run.findings.list).dashboard := by
    refine Findings.repairAll_keeps d.KeptFrom ?_
      (LintRun.keptFrom_of_load hload (hdoubles d hmem path hsource))
    intro f hf _ fix d₀ d' hfix hrepairs
    exact hrepairs.keptFrom ((LintRun.repairable_of_ofPaths hrun).mends f hf fix hfix)
  exact ⟨_, path, entry, old, LintRun.getElem?_autoFix hd, hsource, hkept.source.trans hsource,
    hkept.unit.trans hunit, hkept.storable, hleads, hread⟩

/-- Different dashboards are written to different files. -/
theorem nodup_writes (hdifferent : (run.dashboards.map fun d => d.source.bind u.keyOf?).Nodup) :
    ((writes u run.autoFix.1.dashboards run.autoFix.2).map (·.1)).Nodup := by
  have hrepairable := LintRun.repairable_of_ofPaths hrun
  have hcounts : run.autoFix.2.Pairwise fun x y => x.1 ≠ y.1 := by
    rw [LintRun.counts_autoFix hrepairable.ready]
    refine List.Pairwise.filter _ (List.pairwise_map.mpr ?_)
    exact List.nodup_range
  have hkey : ∀ x ∈ run.autoFix.2, ∀ d', run.autoFix.1.dashboards[x.1]? = some d' →
      (run.dashboards.map fun d => d.source.bind u.keyOf?)[x.1]? =
        some (d'.source.bind u.keyOf?) := by
    intro x hx d' hd'
    have hlt := (hrepairable.mem_counts_iff.mp hx).1
    obtain ⟨_, path, -, -, hafter, hsource, hsource', -⟩ :=
      exists_repaired hrun hdoubles haccess (List.getElem?_eq_getElem hlt)
    obtain rfl := Option.some.inj (hafter.symm.trans hd')
    rw [List.getElem?_map, List.getElem?_eq_getElem hlt, Option.map_some, hsource, hsource']
  rw [List.Nodup, List.pairwise_map, writes, List.pairwise_filterMap]
  refine hcounts.imp_of_mem fun {x y} hx hy hne => ?_
  intro a ha b hb heq
  obtain ⟨d, hd, ha⟩ := Option.bind_eq_some_iff.mp ha
  obtain ⟨e, he, hb⟩ := Option.bind_eq_some_iff.mp hb
  obtain ⟨_, hka, rfl⟩ := Option.map_eq_some_iff.mp ha
  obtain ⟨_, hkb, rfl⟩ := Option.map_eq_some_iff.mp hb
  obtain rfl : _ = _ := heq
  have hlt : x.1 < (run.dashboards.map fun d => d.source.bind u.keyOf?).length := by
    rw [List.length_map]
    exact (hrepairable.mem_counts_iff.mp hx).1
  refine hne ((List.getElem?_inj hlt hdifferent).mp ?_)
  rw [hkey x hx d hd, hkey y hy e he, hka, hkb]

theorem hasFile_of_mem_counts {x : Nat × Nat} (hx : x ∈ run.autoFix.2) :
    HasFile u run.autoFix.1.dashboards x.1 := by
  have hlt := ((LintRun.repairable_of_ofPaths hrun).mem_counts_iff.mp hx).1
  obtain ⟨d, path, entry, old, hd, -, hsource, -, -, hleads, hread⟩ :=
    exists_repaired hrun hdoubles haccess (List.getElem?_eq_getElem hlt)
  exact ⟨d, path, entry, old, hd, hsource, hleads, hread⟩

omit hdoubles haccess in
/-- What is counted one by one is what was repaired in all. -/
theorem accounts_of_adds {report : RepairReport}
    (h : RepairReport.empty.Adds report (run.autoFix.2.map (·.2)).sum run.autoFix.2.length) :
    report.Accounts run run.autoFix.1 := by
  have hrepairable := LintRun.repairable_of_ofPaths hrun
  refine ⟨?_, ?_, h.errors⟩
  · rw [h.applied, hrepairable.sum_counts]
    exact Nat.zero_add _
  · rw [h.modified, hrepairable.length_counts]
    exact Nat.zero_add _

theorem exists_apply_write : ∃ report,
    apply .write u run = (u.withFiles ((writes u run.autoFix.1.dashboards run.autoFix.2).foldl
      (fun m w => m.insert w.1 w.2) u.files), run.autoFix.1, report) ∧
    report.Accounts run run.autoFix.1 := by
  obtain ⟨report, hfold, hadds⟩ := foldl_persistAt_write
    (fun x => hasFile_of_mem_counts hrun hdoubles haccess) u.files .empty
  have hself : u.withFiles u.files = u := rfl
  rw [hself] at hfold
  refine ⟨report, ?_, accounts_of_adds hrun hadds⟩
  simp only [apply, hfold]

theorem exists_apply_of_ne (hmode : mode ≠ .write) : ∃ report,
    apply mode u run = (u, run.autoFix.1, report) ∧ report.Accounts run run.autoFix.1 := by
  obtain ⟨report, hfold, hadds⟩ := foldl_persistAt_of_ne hmode
    (fun x => hasFile_of_mem_counts hrun hdoubles haccess) .empty
  refine ⟨report, ?_, accounts_of_adds hrun hadds⟩
  simp only [apply, hfold]

end Runs

/-- **Files hold exactly what was repaired.** Take a run over files, and a tree in which the files
    of its dashboards are different and can be read and written. After writing, the file of every
    dashboard with a finding that counts as fixed anew holds the repaired dashboard: loading it
    gives the dashboard that is in memory. All other files are as they were. The report counts the
    findings that count as fixed anew and the dashboards that have one, and it has no errors. The
    modes that do not write leave all files as they were, and have the same dashboards, findings and
    counts. That doubles in the files are read back from their own texts is assumed. -/
theorem apply_persists {t u : FileTree} {s : Settings} {rules : RuleSettings}
    {paths : List String} {run : LintRun}
    (hrun : LintRun.ofPaths t s (RuleSet.ofSettings rules) paths = .ok run)
    (hdoubles : ∀ d ∈ run.dashboards, ∀ path ∈ d.source, t.DoublesReadBack path)
    (haccess : ∀ d ∈ run.dashboards, ∀ path ∈ d.source,
      (∃ old, u.readText path = .ok old) ∧ ∀ content, ∃ u', u.write path content = .ok u')
    (hdifferent : (run.dashboards.map fun d => d.source.bind u.keyOf?).Nodup) :
    let written := (apply .write u run).1
    let after := (apply .write u run).2.1
    let report := (apply .write u run).2.2
    let fixed := run.newlyFixed after
    (∀ i d, run.dashboards[i]? = some d → (∃ f ∈ fixed, f.dashboard.index = i) →
      ∃ d' path, after.dashboards[i]? = some d' ∧ d.source = some path ∧
        written.read path = .ok (.text (d'.toText ++ "\n")) ∧
        LintRun.load written path = .ok d') ∧
    (∀ key, (∀ i d, run.dashboards[i]? = some d → (∃ f ∈ fixed, f.dashboard.index = i) →
      d.source.bind u.keyOf? ≠ some key) → written.files.get? key = u.files.get? key) ∧
    written = { u with files := written.files } ∧
    report.applied = fixed.length ∧
    report.modified = (List.range run.dashboards.length).countP
      (fun i => fixed.any (·.dashboard.index == i)) ∧
    report.errors = [] ∧
    ∀ mode, mode ≠ .write → (apply mode u run).1 = u ∧ (apply mode u run).2.1 = after ∧
      (apply mode u run).2.2.applied = report.applied ∧
      (apply mode u run).2.2.modified = report.modified ∧ (apply mode u run).2.2.errors = [] := by
  intro written after report fixed
  have hrepairable := LintRun.repairable_of_ofPaths hrun
  obtain ⟨r, happly, haccounts⟩ := exists_apply_write hrun hdoubles haccess
  obtain ⟨hstored, hother⟩ := KeyMap.get?_foldl_insert
    (nodup_writes hrun hdoubles haccess hdifferent) u.files
  have hwritten : written = _ := congrArg Prod.fst happly
  have hafter : after = run.autoFix.1 := congrArg (·.2.1) happly
  have hreport : report = r := congrArg (·.2.2) happly
  have hfixed : fixed = run.newlyFixed run.autoFix.1 := by rw [← hafter]
  simp only [hfixed, hafter, hreport, hwritten]
  refine ⟨fun i d hd hi => ?_, fun key hkey => ?_, rfl, haccounts.applied, haccounts.modified,
    haccounts.errors, fun mode hmode => ?_⟩
  · obtain ⟨d', path, entry, -, hd', hsource, hsource', hunit, hstorable, hleads, -⟩ :=
      exists_repaired hrun hdoubles haccess hd
    have hcount := (hrepairable.exists_newlyFixed_iff i).mp hi
    have hlt := (List.getElem?_eq_some_iff.mp hd).1
    have hkey : d'.source.bind u.keyOf? = some entry := by
      rw [hsource']
      exact hleads.keyOf?_eq
    have hmem : (entry, stored d') ∈ writes u run.autoFix.1.dashboards run.autoFix.2 :=
      mem_writes_iff.mpr ⟨_, hrepairable.mem_counts_iff.mpr ⟨hlt, rfl, hcount⟩, d', hd', hkey, rfl⟩
    have hread := (hleads.withFiles _).read_eq (hstored (entry, stored d') hmem)
    exact ⟨d', path, hd', hsource, hread, LintRun.load_of_read hstorable hunit hsource' hread⟩
  · refine hother key fun hmem => ?_
    obtain ⟨w, hw, rfl⟩ := List.mem_map.mp hmem
    obtain ⟨x, hx, d', hd', hkey', -⟩ := mem_writes_iff.mp hw
    obtain ⟨hlt, hcount, hne⟩ := hrepairable.mem_counts_iff.mp hx
    have hd := List.getElem?_eq_getElem hlt
    obtain ⟨_, path, -, -, hafter', hsource, hsource', -⟩ :=
      exists_repaired hrun hdoubles haccess hd
    obtain rfl := Option.some.inj (hafter'.symm.trans hd')
    refine hkey x.1 _ hd ((hrepairable.exists_newlyFixed_iff x.1).mpr (hcount ▸ hne)) ?_
    rw [hsource, ← hsource', hkey']
  · obtain ⟨r', happly', haccounts'⟩ := exists_apply_of_ne hrun hdoubles haccess hmode
    rw [happly']
    exact ⟨rfl, rfl, haccounts'.applied.trans haccounts.applied.symm,
      haccounts'.modified.trans haccounts.modified.symm, haccounts'.errors⟩

/-- A directory with a dashboard that can be edited, one that cannot, and another file. -/
def shelf : FileTree :=
  (((FileTree.start [] none).addFile ["dash", "a.json"] (.text
    "\x7b\"editable\": true, \"panels\": [\x7b\"gridPos\": \x7b\"x\": 0.5\x7d\x7d]\x7d")).addFile
    ["dash", "b.json"] (.text "\x7b\"editable\": false\x7d")).addFile ["dash", "notes"] .binary

/-- The files of the dashboards. -/
def boards : List String := ["dash/a.json", "dash/b.json"]

theorem access_shelf {path : String} (h : path ∈ boards) : shelf.DoublesReadBack path ∧
    (∃ old, shelf.readText path = .ok old) ∧
      ∀ content, ∃ u', shelf.write path content = .ok u' := by
  have hnumbers : ∀ path ∈ boards, ∀ n ∈ (((shelf.readText path).toOption.bind
      Json.parse?).map Json.numbers).getD [], n.ReadsBack := by decide +kernel
  have hreads : ∀ path ∈ boards, (shelf.readText path).toOption.isSome = true := by
    decide +kernel
  have hwrites : ∀ path ∈ boards, ((shelf.locate path).toOption.any fun location =>
      !shelf.hasDirectory location && shelf.hasDirectory location.dropLast) = true := by
    decide +kernel
  refine ⟨fun text value htext hvalue x hx => ?_, ?_, fun content => ?_⟩
  · have hn := hnumbers path h
    rw [htext] at hn
    simp only [Except.toOption, Option.bind_some, hvalue, Option.map_some, Option.getD_some] at hn
    exact hn _ hx
  · have hread := hreads path h
    cases htext : shelf.readText path with
    | error e => simp [htext, Except.toOption] at hread
    | ok old => exact ⟨old, rfl⟩
  · have hwrite := hwrites path h
    cases hlocate : shelf.locate path with
    | error e => simp [hlocate, Except.toOption] at hwrite
    | ok location =>
        simp only [hlocate, Except.toOption, Option.any_some, Bool.and_eq_true,
          Bool.not_eq_true'] at hwrite
        exact ⟨_, FileTree.Leads.write_eq ⟨location, hlocate, rfl, hwrite⟩ content⟩

/-- A run of one rule over the dashboards has one repair to make, on the first. -/
theorem exists_run_shelf :
    let s : Settings := { Settings.initial with files := ⟨[], []⟩ }
    let rules : RuleSettings := ⟨[], ["uneditable-dashboard"], [], [], false⟩
    ∃ run, LintRun.ofPaths shelf s (RuleSet.ofSettings rules) boards = .ok run ∧
      run.dashboards.map (·.source) = boards.map some ∧
      (run.findings.list.filter Finding.isPending).map (·.dashboard.index) = [0] := by
  intro s rules
  have hfile : ∀ path ∈ boards, shelf.isDirectory path = false ∧ shelf.isFile path = true := by
    decide +kernel
  have hsorted : boards.Pairwise fun p q =>
      Path.le p q = true ∧ Path.parts p ≠ Path.parts q := by decide +kernel
  have hfiles : Discovery.files shelf s.files boards = .ok boards := by
    rw [Discovery.files_of_isFile [] hfile, Path.sorted_eq_self hsorted]
  obtain ⟨run, hrun, hdashboards, -, hlist⟩ :=
    LintRun.ofPaths_eq (s := s) hfiles (RuleSet.ofSettings rules)
  refine ⟨run, hrun, ?_, ?_⟩
  · rw [hdashboards]
    decide +kernel
  · rw [hlist, hdashboards]
    decide +kernel

/-- Of two dashboards one can be edited. Its file is written and loads as what is in memory; the
    other files stay, and a diff changes no file and counts the same. -/
theorem apply_persists_editable :
    let s : Settings := { Settings.initial with files := ⟨[], []⟩ }
    let rules : RuleSettings := ⟨[], ["uneditable-dashboard"], [], [], false⟩
    ∃ run, LintRun.ofPaths shelf s (RuleSet.ofSettings rules) boards = .ok run ∧
      (∃ d, LintRun.load (apply .write shelf run).1 "dash/a.json" = .ok d ∧
        (apply .write shelf run).1.read "dash/a.json" = .ok (.text (d.toText ++ "\n"))) ∧
      (∀ key ∈ ["dash/b.json", "dash/notes"],
        (apply .write shelf run).1.files.get? key = shelf.files.get? key) ∧
      (apply .write shelf run).2.2.applied = 1 ∧ (apply .diff shelf run).1 = shelf ∧
      (apply .diff shelf run).2.2.applied = 1 := by
  intro s rules
  obtain ⟨run, hrun, hsources, hpending⟩ := exists_run_shelf
  have hpaths : ∀ d ∈ run.dashboards, ∀ path ∈ d.source, path ∈ boards := by
    intro d hd path hpath
    have hsource : d.source ∈ run.dashboards.map (·.source) := List.mem_map_of_mem hd
    rw [hsources, show d.source = some path from hpath] at hsource
    simpa using hsource
  have hdifferent : (run.dashboards.map fun d => d.source.bind shelf.keyOf?).Nodup := by
    have hkeys := congrArg (List.map (Option.bind · shelf.keyOf?)) hsources
    rw [List.map_map] at hkeys
    exact hkeys ▸ (by decide +kernel)
  obtain ⟨hfixed, hother, -, happlied, -, -, hmodes⟩ := apply_persists hrun
    (fun d hd path hpath => (access_shelf (hpaths d hd path hpath)).1)
    (fun d hd path hpath => (access_shelf (hpaths d hd path hpath)).2) hdifferent
  -- the one finding that counts as fixed is on the first dashboard
  have hindices : (run.newlyFixed (apply .write shelf run).2.1).map (·.dashboard.index) = [0] := by
    show (run.newlyFixed run.autoFix.1).map (·.dashboard.index) = [0]
    rw [(LintRun.repairable_of_ofPaths hrun).newlyFixed_eq, List.map_map]
    exact hpending
  have hfirst : (run.dashboards.map (·.source))[0]? = some (some "dash/a.json") := by
    rw [hsources]
    rfl
  rw [List.getElem?_map] at hfirst
  obtain ⟨d, hd, hsource⟩ := Option.map_eq_some_iff.mp hfirst
  have hone : (apply .write shelf run).2.2.applied = 1 :=
    happlied.trans (by simpa using congrArg List.length hindices)
  refine ⟨run, hrun, ?_, fun key hkey => hother key fun i d' hd' hi hkey' => ?_, hone,
    (hmodes .diff nofun).1, (hmodes .diff nofun).2.2.1.trans hone⟩
  · obtain ⟨f, hf, hindex⟩ := List.mem_map.mp (hindices ▸ List.mem_singleton_self 0)
    obtain ⟨d', path, -, hpath, hread, hload⟩ := hfixed 0 d hd ⟨f, hf, hindex⟩
    obtain rfl := Option.some.inj (hsource.symm.trans hpath)
    exact ⟨d', hload, hread⟩
  · obtain ⟨f, hf, rfl⟩ := hi
    have hzero : f.dashboard.index ∈ [0] := hindices ▸ List.mem_map_of_mem hf
    rw [List.mem_singleton.mp hzero, hd] at hd'
    obtain rfl := Option.some.inj hd'
    rw [hsource] at hkey'
    have hne : ∀ key ∈ ["dash/b.json", "dash/notes"], shelf.keyOf? "dash/a.json" ≠ some key := by
      decide +kernel
    exact hne key hkey hkey'

end Repair

end BoardLint
