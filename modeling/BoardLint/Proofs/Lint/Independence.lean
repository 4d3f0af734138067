import BoardLint.Proofs.File.Path
import BoardLint.Proofs.Lint.AutoFix
import BoardLint.Proofs.Override.Coverage

set_option autoImplicit false

/-! # What the findings on a file depend on

A run loads many files and reads the overrides of the directories of those that could be loaded.
The findings on a file that loads are those of a run on it alone. The finding on a file that does
not load has the overrides of its directory only if another file there does load, so it may depend
on the other files of the run, and it depends on nothing else of them. -/

namespace BoardLint

/-- The finding without the position of its dashboard in the run. -/
def Finding.unplaced (f : Finding) : Finding :=
  { f with dashboard := { f.dashboard with index := 0 } }

/-- The finding as its check reported it, without overrides. -/
def Finding.unconfigured (f : Finding) : Finding := { f with effective := f.raw }

/-! ## The files -/

namespace Discovery

variable {t : FileTree} {paths : List String}

theorem nodup_files {s : FileSettings} {found : List String} (h : files t s paths = .ok found) :
    found.Nodup := by
  unfold files at h
  cases hexclusions : exclusions s.excluded with
  | error e =>
      rw [hexclusions] at h
      cases h
  | ok exclusions =>
      cases hlists : paths.mapM (ofPath t s.included) with
      | error e =>
          rw [hexclusions, hlists] at h
          cases h
      | ok lists =>
          rw [hexclusions, hlists] at h
          cases h
          exact Path.sorted_nodup _

/-- Without exclusions, files that are given by name are the files of the run. -/
theorem files_of_isFile (included : List String)
    (h : ∀ path ∈ paths, t.isDirectory path = false ∧ t.isFile path = true) :
    files t ⟨included, []⟩ paths = .ok (Path.sorted paths) := by
  have hlists : paths.mapM (ofPath t included) = .ok (paths.map fun path => [path]) := by
    induction paths with
    | nil => rfl
    | cons path rest ih =>
        obtain ⟨hdirectory, hfile⟩ := h path List.mem_cons_self
        have hpath : ofPath t included path = .ok [path] := by
          simp [ofPath, hdirectory, hfile]
        rw [List.mapM_cons, hpath, ih fun path' hpath' => h path' (List.mem_cons_of_mem _ hpath')]
        rfl
  have hflatten : (paths.map fun path => [path]).flatten = paths := by
    rw [← List.flatMap_def, List.flatMap_singleton']
  have hfiles : files t ⟨included, []⟩ paths =
      .ok (Path.sorted ((paths.map fun path => [path]).flatten.filter fun path => true)) := by
    rw [files, hlists]
    rfl
  rw [hfiles, hflatten, List.filter_true]

end Discovery

/-! ## Overrides -/

theorem Cascade.apply_congr {c c' : Cascade} {f : Finding} (hverbose : c.verbose = c'.verbose)
    (hfile : c.fileFor f.dashboard.unit = c'.fileFor f.dashboard.unit) :
    c.apply f = c'.apply f := by
  simp only [apply, effective, hverbose, hfile]

namespace LintRun

variable {t : FileTree} {s : Settings} {rules : RuleSet} {path : String}

theorem load_ok {d : Dashboard} (h : load t path = .ok d) :
    d.source = some path ∧ d.unit = Path.parent path := by
  unfold load at h
  dsimp only at h
  split at h
  · cases h
  · cases h
  · split at h
    · cases h
    · cases h
      exact ⟨rfl, rfl⟩

theorem load_error {failure : LoadFailure} (h : load t path = .error failure) :
    failure.path = path := by
  unfold load at h
  dsimp only at h
  split at h
  · cases h
    rfl
  · cases h
    rfl
  · split at h
    · cases h
      rfl
    · cases h

/-- The overrides of the project, with those of one directory if some dashboard of it is loaded. -/
def ownCascade (t : FileTree) (s : Settings) (unit : String) (visited : Bool) : Cascade :=
  if visited then s.cascade.addUnit unit (unitOverrides t unit) else s.cascade

theorem get?_addNewUnit (c : Cascade) (t : FileTree) (new unit : String) :
    (c.addNewUnit new (unitOverrides t new)).units.get? unit = (c.units.get? unit).or
      (if new = unit then some (c.base.merge (unitOverrides t unit)) else none) := by
  unfold Cascade.addNewUnit
  by_cases hknown : (c.units.get? new).isSome
  · rw [if_pos hknown]
    split
    · next he =>
        obtain ⟨file, hfile⟩ := Option.isSome_iff_exists.mp (he ▸ hknown)
        rw [hfile]
        rfl
    · exact Option.or_none.symm
  · rw [if_neg hknown, Cascade.addUnit, KeyMap.get?_insert]
    by_cases he : unit = new
    · subst he
      rw [Option.not_isSome_iff_eq_none.mp hknown, if_pos rfl]
      rfl
    · rw [if_neg he, if_neg (Ne.symm he), Option.or_none]

/-- Adding directories one after another: each has the overrides that its own file adds to those of
    the project, whatever is added before or after it. -/
theorem foldl_addNewUnit (t : FileTree) (ds : List Dashboard) (c : Cascade) :
    let after := ds.foldl (fun c d => c.addNewUnit d.unit (unitOverrides t d.unit)) c
    after.base = c.base ∧ after.verbose = c.verbose ∧ ∀ unit, after.units.get? unit =
      (c.units.get? unit).or
        (if ds.any (·.unit == unit) then some (c.base.merge (unitOverrides t unit)) else none) := by
  induction ds generalizing c with
  | nil => exact ⟨rfl, rfl, fun unit => Option.or_none.symm⟩
  | cons d rest ih =>
      obtain ⟨hbase, hverbose, hunits⟩ := ih (c.addNewUnit d.unit (unitOverrides t d.unit))
      have hkeep : (c.addNewUnit d.unit (unitOverrides t d.unit)).base = c.base ∧
          (c.addNewUnit d.unit (unitOverrides t d.unit)).verbose = c.verbose := by
        unfold Cascade.addNewUnit
        split <;> exact ⟨rfl, rfl⟩
      refine ⟨hbase.trans hkeep.1, hverbose.trans hkeep.2, fun unit => ?_⟩
      rw [List.foldl_cons, hunits, get?_addNewUnit, hkeep.1, Option.or_assoc, List.any_cons]
      by_cases he : d.unit = unit <;> simp [he]

/-- A dashboard is in the directory whose overrides are read for it. -/
theorem cascade_eq (s : Settings) {ds : List Dashboard}
    (h : ∀ d ∈ ds, ∃ path, load t path = .ok d) : cascade t s ds =
      ds.foldl (fun c d => c.addNewUnit d.unit (unitOverrides t d.unit)) s.cascade := by
  refine List.foldl_ext _ _ _ fun c d hd => ?_
  obtain ⟨path, hload⟩ := h d hd
  obtain ⟨hsource, hunit⟩ := load_ok hload
  rw [hsource, hunit]

/-- What a run makes of a finding depends on its directory, and on whether a dashboard of it was
    loaded. -/
theorem cascade_apply (s : Settings) {ds : List Dashboard}
    (h : ∀ d ∈ ds, ∃ path, load t path = .ok d) (f : Finding) :
    (cascade t s ds).apply f =
      (ownCascade t s f.dashboard.unit (ds.any (·.unit == f.dashboard.unit))).apply f := by
  obtain ⟨hbase, hverbose, hunits⟩ := foldl_addNewUnit t ds s.cascade
  rw [cascade_eq s h]
  refine Cascade.apply_congr ?_ ?_
  · rw [hverbose, ownCascade]
    split <;> rfl
  · rw [Cascade.fileFor, hunits, hbase, ownCascade]
    split
    · rw [Cascade.fileFor, Cascade.addUnit, KeyMap.get?_insert, if_pos rfl]
      rfl
    · rfl

/-! ## The files of a run -/

/-- The file of a result. -/
def sourceOf : Except LoadFailure Dashboard → Option String
  | .ok d => d.source
  | .error failure => some failure.path

/-- The file that each position in a run stands for. Those that could not be loaded come last. -/
def sources (run : LintRun) : List (Option String) :=
  run.dashboards.map (·.source) ++ run.failures.map fun failure => some failure.path

/-- The findings on a file. -/
def findingsOf (run : LintRun) (path : String) : List Finding :=
  run.findings.list.filter fun f => run.sources[f.dashboard.index]? == some (some path)

/-- Whether a dashboard of a directory was loaded. -/
def visits (run : LintRun) (unit : String) : Bool := run.dashboards.any (·.unit == unit)

/-- The findings on one result at a position. -/
def findingsAt (rules : RuleSet) (c : Cascade) (index : Nat) :
    Except LoadFailure Dashboard → List Finding
  | .ok d => (rules.lintDashboard index d).map c.apply
  | .error failure => [c.apply (failureFinding index failure)]

/-- The results in the order of their positions. -/
def arranged (results : List (Except LoadFailure Dashboard)) :
    List (Except LoadFailure Dashboard) :=
  (loaded results).map .ok ++ (failed results).map .error

theorem arranged_perm (results : List (Except LoadFailure Dashboard)) :
    (arranged results).Perm results := by
  induction results with
  | nil => exact .nil
  | cons r rest ih =>
      cases r with
      | ok d => exact ih.cons _
      | error failure => exact List.perm_middle.trans (ih.cons _)

theorem sourceOf_load (t : FileTree) (path : String) : sourceOf (load t path) = some path := by
  cases h : load t path with
  | ok d => exact (load_ok h).1
  | error failure => exact congrArg some (load_error h)

theorem foldl_add (c : Cascade) (failures : List (LoadFailure × Nat)) (fs : Findings)
    (h : fs.overrides = some c) :
    (failures.foldl (fun fs x => fs.add (failureFinding x.2 x.1)) fs).list =
      fs.list ++ failures.map fun x => c.apply (failureFinding x.2 x.1) := by
  induction failures generalizing fs with
  | nil => exact (List.append_nil _).symm
  | cons x rest ih =>
      rw [List.foldl_cons, ih (fs.add _) h, Findings.add, List.map_cons]
      simp only [h, List.append_assoc, List.singleton_append]

/-- What a run makes of the files that it finds: the findings on each, by position. -/
theorem ofPaths_eq {paths files : List String} (h : Discovery.files t s.files paths = .ok files)
    (rules : RuleSet) :
    ∃ run, ofPaths t s rules paths = .ok run ∧
      run.dashboards = loaded (files.map (load t)) ∧
      run.sources = (arranged (files.map (load t))).map sourceOf ∧
      run.findings.list = (arranged (files.map (load t))).zipIdx.flatMap fun x =>
        findingsAt rules (cascade t s run.dashboards) x.2 x.1 := by
  rw [ofPaths, h]
  refine ⟨_, rfl, rfl, ?_, ?_⟩
  · simp only [sources, arranged, List.map_append, List.map_map]
    rfl
  · refine (foldl_add (cascade t s (loaded (files.map (load t)))) _ _ rfl).trans ?_
    simp only [lint, Findings.configure, Findings.ofList, RuleSet.lintAll, arranged,
      List.zipIdx_append, List.zipIdx_map, List.flatMap_append, List.flatMap_map, List.map_flatMap,
      List.length_map, Nat.zero_add]
    exact congrArg _ List.map_eq_flatMap

/-! ## The findings on one file -/

theorem index_of_mem_findingsAt {c : Cascade} {index : Nat} {r : Except LoadFailure Dashboard}
    {f : Finding} (h : f ∈ findingsAt rules c index r) : f.dashboard.index = index := by
  cases r with
  | ok d =>
      obtain ⟨g, hg, rfl⟩ := List.mem_map.mp h
      exact congrArg DashboardPlace.index (dashboard_of_mem_lintDashboard hg)
  | error failure =>
      obtain rfl := List.mem_singleton.mp h
      rfl

theorem map_unplaced_lintDashboard (rules : RuleSet) (index : Nat) (d : Dashboard) :
    (rules.lintDashboard index d).map Finding.unplaced = rules.lintDashboard 0 d := by
  simp only [Site.lintDashboard_eq, List.map_flatMap]
  congr 1
  funext site
  congr 1
  funext r
  rw [Site.findings_eq, Site.findings_eq]
  cases site.reported? d r with
  | none => rfl
  | some reported =>
      simp only [Option.elim_some, List.map_map]
      rfl

/-- The position of a dashboard is in its findings and nowhere else. -/
theorem map_unplaced_findingsAt (rules : RuleSet) (c : Cascade) (index : Nat)
    (r : Except LoadFailure Dashboard) :
    (findingsAt rules c index r).map Finding.unplaced = findingsAt rules c 0 r := by
  cases r with
  | ok d =>
      rw [findingsAt, findingsAt, ← map_unplaced_lintDashboard rules index d, List.map_map,
        List.map_map]
      rfl
  | error failure => rfl

theorem filter_findingsAt (c : Cascade) {index : Nat} {r : Except LoadFailure Dashboard}
    {sources : List (Option String)} (h : sources[index]? = some (sourceOf r)) :
    ((findingsAt rules c index r).filter
        fun f => sources[f.dashboard.index]? == some (some path)) =
      if sourceOf r = some path then findingsAt rules c index r else [] := by
  have hkeep : ∀ f ∈ findingsAt rules c index r,
      (sources[f.dashboard.index]? == some (some path)) = decide (sourceOf r = some path) := by
    intro f hf
    rw [index_of_mem_findingsAt hf, h, Bool.eq_iff_iff]
    simp
  rw [List.filter_congr hkeep]
  split
  · next he => simp [he]
  · next hne => simp [hne]

theorem map_unplaced_findingsOf {run : LintRun} {results : List (Except LoadFailure Dashboard)}
    {c : Cascade} (hsources : run.sources = results.map sourceOf)
    (hlist : run.findings.list = results.zipIdx.flatMap fun x => findingsAt rules c x.2 x.1) :
    (run.findingsOf path).map Finding.unplaced =
      results.flatMap fun r => if sourceOf r = some path then findingsAt rules c 0 r else [] := by
  have hone : ∀ x ∈ results.zipIdx, (((findingsAt rules c x.2 x.1).filter
      fun f => run.sources[f.dashboard.index]? == some (some path)).map Finding.unplaced) =
      if sourceOf x.1 = some path then findingsAt rules c 0 x.1 else [] := by
    rintro ⟨r, i⟩ hx
    have hsource : run.sources[i]? = some (sourceOf r) := by
      rw [hsources, List.getElem?_map, List.mem_zipIdx_iff_getElem?.mp hx]
      rfl
    rw [filter_findingsAt c hsource]
    split
    · exact map_unplaced_findingsAt rules c i r
    · rfl
  rw [findingsOf, hlist, List.filter_flatMap, List.map_flatMap, List.flatMap_congr hone]
  conv_rhs => rw [← List.zipIdx_map_fst 0 results, List.flatMap_map]

/-- Of results of different files, one is left when those of one file are kept. -/
theorem flatMap_of_source {β : Type} {results : List (Except LoadFailure Dashboard)}
    (g : Except LoadFailure Dashboard → List β) (hnodup : (results.map sourceOf).Nodup)
    {r : Except LoadFailure Dashboard} (hr : r ∈ results) (hsource : sourceOf r = some path) :
    results.flatMap (fun r => if sourceOf r = some path then g r else []) = g r := by
  obtain ⟨before, after, rfl⟩ := List.append_of_mem hr
  rw [List.map_append, List.map_cons, List.perm_middle.nodup_iff, List.nodup_cons] at hnodup
  have hother : ∀ r' ∈ before ++ after, (if sourceOf r' = some path then g r' else []) = [] := by
    intro r' hr'
    refine if_neg fun he => hnodup.1 ?_
    rw [hsource, ← he, ← List.map_append]
    exact List.mem_map_of_mem hr'
  have hbefore := List.flatMap_eq_nil_iff.mpr fun r' h => hother r' (List.mem_append_left _ h)
  have hafter := List.flatMap_eq_nil_iff.mpr fun r' h => hother r' (List.mem_append_right _ h)
  rw [List.flatMap_append, List.flatMap_cons, hbefore, hafter, if_pos hsource, List.nil_append,
    List.append_nil]

/-- The files of a run are different, so each has one result. -/
theorem nodup_sources {paths files : List String}
    (h : Discovery.files t s.files paths = .ok files) :
    ((arranged (files.map (load t))).map sourceOf).Nodup := by
  have hfiles := Discovery.nodup_files h
  refine ((arranged_perm _).map sourceOf).nodup_iff.mpr ?_
  rw [List.map_map, show sourceOf ∘ load t = some from funext (sourceOf_load t)]
  exact List.Pairwise.map some (fun _ _ hne he => hne (Option.some.inj he)) hfiles

/-- The findings on a file when no other is looked at, up to whether some dashboard of its directory
    is loaded. -/
def findingsAlone (t : FileTree) (s : Settings) (rules : RuleSet) (path : String)
    (visited : Bool) : List Finding :=
  findingsAt rules (ownCascade t s (Path.parent path) visited) 0 (load t path)

theorem findingsAt_cascade {ds : List Dashboard} (h : ∀ d ∈ ds, ∃ path, load t path = .ok d) :
    findingsAt rules (cascade t s ds) 0 (load t path) =
      findingsAlone t s rules path (ds.any (·.unit == Path.parent path)) := by
  unfold findingsAlone
  cases hload : load t path with
  | ok d =>
      refine List.map_congr_left fun f hf => ?_
      rw [cascade_apply s h, dashboard_of_mem_lintDashboard hf, (load_ok hload).2]
  | error failure =>
      have hunit : (failureFinding 0 failure).dashboard.unit = Path.parent path :=
        congrArg Path.parent (load_error hload)
      rw [findingsAt, findingsAt, cascade_apply s h, hunit]

theorem mem_loaded {files : List String} {d : Dashboard} :
    d ∈ loaded (files.map (load t)) ↔ ∃ path ∈ files, load t path = .ok d := by
  simp only [loaded, List.mem_filterMap, List.mem_map]
  constructor
  · rintro ⟨r, ⟨path, hmem, rfl⟩, hr⟩
    refine ⟨path, hmem, ?_⟩
    cases hload : load t path with
    | ok d' =>
        rw [hload] at hr
        exact congrArg _ (Option.some.inj hr)
    | error failure =>
        rw [hload] at hr
        cases hr
  · rintro ⟨path, hmem, hload⟩
    exact ⟨_, ⟨path, hmem, rfl⟩, by rw [hload]; rfl⟩

/-- The findings on a file of a run. -/
theorem findingsOf_ofPaths {paths files : List String}
    (h : Discovery.files t s.files paths = .ok files) (hmem : path ∈ files) (rules : RuleSet) :
    ∃ run, ofPaths t s rules paths = .ok run ∧ (run.findingsOf path).map Finding.unplaced =
      findingsAlone t s rules path (run.visits (Path.parent path)) ∧
      ∀ unit, run.visits unit = true ↔
        ∃ file ∈ files, Path.parent file = unit ∧ ∃ d, load t file = .ok d := by
  obtain ⟨run, hrun, hdashboards, hsources, hlist⟩ := ofPaths_eq h rules
  have hresult : load t path ∈ arranged (files.map (load t)) :=
    (arranged_perm _).mem_iff.mpr (List.mem_map_of_mem hmem)
  have hloaded : ∀ d ∈ run.dashboards, ∃ file ∈ files, load t file = .ok d :=
    fun d hd => mem_loaded.mp (hdashboards ▸ hd)
  refine ⟨run, hrun, ?_, fun unit => ?_⟩
  · rw [map_unplaced_findingsOf hsources hlist,
      flatMap_of_source _ (nodup_sources h) hresult (sourceOf_load t path)]
    exact findingsAt_cascade fun d hd => (hloaded d hd).imp fun _ => And.right
  · rw [visits, List.any_eq_true]
    constructor
    · rintro ⟨d, hd, hunit⟩
      obtain ⟨file, hfile, hload⟩ := hloaded d hd
      exact ⟨file, hfile, (load_ok hload).2.symm.trans (beq_iff_eq.mp hunit), d, hload⟩
    · rintro ⟨file, hfile, rfl, d, hload⟩
      refine ⟨d, ?_, beq_iff_eq.mpr (load_ok hload).2⟩
      rw [hdashboards]
      exact mem_loaded.mpr ⟨file, hfile, hload⟩

/-! ## Two runs -/

/-- Overrides do not change what the checks report. -/
theorem map_unconfigured_findingsAlone (t : FileTree) (s : Settings) (rules : RuleSet)
    (path : String) (visited visited' : Bool) :
    (findingsAlone t s rules path visited).map Finding.unconfigured =
      (findingsAlone t s rules path visited').map Finding.unconfigured := by
  unfold findingsAlone
  cases load t path with
  | ok d =>
      rw [findingsAt, findingsAt, List.map_map, List.map_map]
      rfl
  | error failure => rfl

theorem findingsAlone_error_eq_iff {failure : LoadFailure} (h : load t path = .error failure)
    (visited visited' : Bool) :
    findingsAlone t s rules path visited = findingsAlone t s rules path visited' ↔
      visited = visited' ∨
        (ownCascade t s (Path.parent path) true).apply (failureFinding 0 failure) =
          s.cascade.apply (failureFinding 0 failure) := by
  simp only [findingsAlone, h, findingsAt, List.cons.injEq, and_true]
  cases visited <;> cases visited' <;> simp [ownCascade, eq_comm]

/-- **What the findings on a file depend on.** Two runs over one tree, with the same rules and
    settings, that both find a file report the same of it, up to its position: the same diagnostics
    in the same order, and for a file that loads also the same severities and messages. They are
    those of the file alone under the overrides of the project and of its directory. A file that
    does not load has the overrides of its directory only where the run loads a dashboard from
    there, so its finding is the same in both runs exactly if both or neither do, or if those
    overrides are not about it. -/
theorem ofPaths_independent {t : FileTree} {s : Settings} {path : String}
    {paths paths' files files' : List String} (h : Discovery.files t s.files paths = .ok files)
    (h' : Discovery.files t s.files paths' = .ok files') (hmem : path ∈ files)
    (hmem' : path ∈ files') (rules : RuleSet) :
    ∃ run run', ofPaths t s rules paths = .ok run ∧ ofPaths t s rules paths' = .ok run' ∧
      (run.findingsOf path).map Finding.unplaced =
        findingsAlone t s rules path (run.visits (Path.parent path)) ∧
      (run'.findingsOf path).map Finding.unplaced =
        findingsAlone t s rules path (run'.visits (Path.parent path)) ∧
      (run.findingsOf path).map (Finding.unconfigured ∘ Finding.unplaced) =
        (run'.findingsOf path).map (Finding.unconfigured ∘ Finding.unplaced) ∧
      ((run.findingsOf path).map Finding.unplaced = (run'.findingsOf path).map Finding.unplaced ↔
        ∀ failure, load t path = .error failure →
          run.visits (Path.parent path) = run'.visits (Path.parent path) ∨
          (ownCascade t s (Path.parent path) true).apply (failureFinding 0 failure) =
            s.cascade.apply (failureFinding 0 failure)) := by
  obtain ⟨run, hrun, halone, hvisits⟩ := findingsOf_ofPaths h hmem rules
  obtain ⟨run', hrun', halone', hvisits'⟩ := findingsOf_ofPaths h' hmem' rules
  refine ⟨run, run', hrun, hrun', halone, halone', ?_, ?_⟩
  · rw [← List.map_map, ← List.map_map, halone, halone']
    exact map_unconfigured_findingsAlone t s rules path _ _
  · rw [halone, halone']
    cases hload : load t path with
    | ok d =>
        -- the dashboard itself makes both runs read the overrides of its directory
        have hhere : run.visits (Path.parent path) = run'.visits (Path.parent path) :=
          ((hvisits _).mpr ⟨path, hmem, rfl, d, hload⟩).trans
            ((hvisits' _).mpr ⟨path, hmem', rfl, d, hload⟩).symm
        simp [hhere]
    | error failure =>
        rw [findingsAlone_error_eq_iff hload]
        constructor
        · rintro hsame _ ⟨⟩
          exact hsame
        · exact fun hsame => hsame failure rfl

/-- A directory that excludes load failures, with a file that loads and one that does not. -/
def neighbours : FileTree :=
  (((FileTree.start [] none).addFile ["dash", ".lint"]
    (.text "exclusions:\n  dashboard-load:\n")).addFile
    ["dash", "bad.json"] (.text "\x7b")).addFile
    ["dash", "good.json"] (.text "\x7b\"title\": \"Home\"\x7d")

theorem files_neighbours (paths : List String)
    (h : ∀ path ∈ paths, path ∈ ["dash/bad.json", "dash/good.json"])
    (hsorted : paths.Pairwise fun p q => Path.le p q = true ∧ Path.parts p ≠ Path.parts q) :
    Discovery.files neighbours ⟨[], []⟩ paths = .ok paths := by
  have hfile : ∀ path ∈ ["dash/bad.json", "dash/good.json"],
      neighbours.isDirectory path = false ∧ neighbours.isFile path = true := by decide +kernel
  rw [Discovery.files_of_isFile [] fun path hpath => hfile path (h path hpath),
    Path.sorted_eq_self hsorted]

theorem load_neighbours : (∃ failure, load neighbours "dash/bad.json" = .error failure) ∧
    ∃ d, load neighbours "dash/good.json" = .ok d := by
  have h : (load neighbours "dash/bad.json").isOk = false ∧
      (load neighbours "dash/good.json").isOk = true := by decide +kernel
  constructor
  · cases hload : load neighbours "dash/bad.json" with
    | ok d => exact absurd h.1 (by rw [hload]; exact Bool.noConfusion)
    | error failure => exact ⟨failure, rfl⟩
  · cases hload : load neighbours "dash/good.json" with
    | ok d => exact ⟨d, rfl⟩
    | error failure => exact absurd h.2 (by rw [hload]; exact Bool.noConfusion)

/-- What the findings on a file say. -/
def reportOf (run : LintRun) (path : String) : List (Severity × String) :=
  (run.findingsOf path).map fun f => (f.severity, f.effective.message)

theorem reportOf_eq (run : LintRun) (path : String) : run.reportOf path =
    ((run.findingsOf path).map Finding.unplaced).map
      fun f => (f.severity, f.effective.message) := by
  rw [List.map_map]
  rfl

/-- A file that loads has the same findings with its neighbour and without. -/
theorem ofPaths_independent_loaded :
    let s : Settings := { Settings.initial with files := ⟨[], []⟩ }
    let r := Rule.new "rule" "" (.dashboard fun d => [.error d.title])
    (Discovery.files neighbours s.files ["dash/bad.json", "dash/good.json"] =
      .ok ["dash/bad.json", "dash/good.json"] ∧
    Discovery.files neighbours s.files ["dash/good.json"] = .ok ["dash/good.json"]) ∧
    ∃ run run', ofPaths neighbours s [r] ["dash/bad.json", "dash/good.json"] = .ok run ∧
      ofPaths neighbours s [r] ["dash/good.json"] = .ok run' ∧
      (run.findingsOf "dash/good.json").map Finding.unplaced =
        (run'.findingsOf "dash/good.json").map Finding.unplaced ∧
      run.reportOf "dash/good.json" = [(.error, "Home")] := by
  intro s r
  have hboth := files_neighbours ["dash/bad.json", "dash/good.json"] (by decide) (by decide +kernel)
  have hone := files_neighbours ["dash/good.json"] (by decide) (by decide +kernel)
  have hmem : "dash/good.json" ∈ ["dash/bad.json", "dash/good.json"] := by decide
  have hmem' : "dash/good.json" ∈ ["dash/good.json"] := by decide
  refine ⟨⟨hboth, hone⟩, ?_⟩
  obtain ⟨run, run', hrun, hrun', halone, -, -, hsame⟩ :=
    ofPaths_independent (s := s) hboth hone hmem hmem' [r]
  refine ⟨run, run', hrun, hrun', hsame.mpr fun failure hfailure => ?_, ?_⟩
  · obtain ⟨d, hload⟩ := load_neighbours.2
    rw [hload] at hfailure
    cases hfailure
  · rw [reportOf_eq, halone]
    cases run.visits (Path.parent "dash/good.json") <;> decide +kernel

/-- Beside a dashboard that loads, the finding on a file that does not load is excluded by the
    overrides of their directory; alone it is an error. -/
theorem ofPaths_failure_alone :
    let s : Settings := { Settings.initial with files := ⟨[], []⟩ }
    ∃ run run', ofPaths neighbours s [] ["dash/bad.json", "dash/good.json"] = .ok run ∧
      ofPaths neighbours s [] ["dash/bad.json"] = .ok run' ∧
      run.reportOf "dash/bad.json" =
        [(.exclude, "could not be loaded: JSON parse error: * (Excluded)")] ∧
      run'.reportOf "dash/bad.json" = [(.error, "could not be loaded: JSON parse error: *")] := by
  intro s
  have hboth := files_neighbours ["dash/bad.json", "dash/good.json"] (by decide) (by decide +kernel)
  have hone := files_neighbours ["dash/bad.json"] (by decide) (by decide +kernel)
  have hmem : "dash/bad.json" ∈ ["dash/bad.json", "dash/good.json"] := by decide
  have hmem' : "dash/bad.json" ∈ ["dash/bad.json"] := by decide
  obtain ⟨run, hrun, halone, hvisits⟩ := findingsOf_ofPaths (s := s) hboth hmem []
  obtain ⟨run', hrun', halone', hvisits'⟩ := findingsOf_ofPaths (s := s) hone hmem' []
  have hvisited : run.visits (Path.parent "dash/bad.json") = true :=
    (hvisits _).mpr ⟨"dash/good.json", by decide, by decide +kernel, load_neighbours.2⟩
  have hunvisited : run'.visits (Path.parent "dash/bad.json") = false := by
    refine Bool.eq_false_iff.mpr fun h => ?_
    obtain ⟨file, hfile, -, d, hload⟩ := (hvisits' _).mp h
    obtain rfl := List.mem_singleton.mp hfile
    obtain ⟨failure, hfailure⟩ := load_neighbours.1
    rw [hload] at hfailure
    cases hfailure
  refine ⟨run, run', hrun, hrun', ?_, ?_⟩
  · rw [reportOf_eq, halone, hvisited]
    decide +kernel
  · rw [reportOf_eq, halone', hunvisited]
    decide +kernel

end LintRun

end BoardLint
