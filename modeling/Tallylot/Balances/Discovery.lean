import Tallylot.Balances.Corroboration
import Tallylot.Balances.Inspect
import Tallylot.Balances.Rerun

/-!
# Discovery — the check of an input root

An input root is a source itself or holds sources, which are the directories with at least one of five
input files.  The check deletes the reference issues of an earlier run and writes new ones, so it can
take a directory out of the sources of the next run.

`rerun_repeats_iff` says when two offline checks of one root find the same.
-/

namespace Tallylot
namespace Balances

open Data Domain

/-! ## Source directories -/

/-- The input files of a directory, where they exist, and the timezone of its assembly. -/
structure SourceFiles where
  facts : Option (List TransactionFact)
  snapshotRows : Option (List BalanceSnapshot)
  references : Option (List BalanceReference)
  referenceIssues : Option (List IssueRecord)
  locationInventory : Option (List LocationInventoryRecord)
  timezone : Except String TimeZone

structure BalanceSourceDir where
  name : String
  files : SourceFiles

/-- A directory with the directories in it. -/
structure BalanceInputRoot where
  name : String
  parentName : String
  files : SourceFiles
  directories : List BalanceSourceDir
  nodup_names : (directories.map BalanceSourceDir.name).Nodup

def hasBalanceInputs (files : SourceFiles) : Bool :=
  files.facts.isSome || files.snapshotRows.isSome || files.references.isSome ||
    files.referenceIssues.isSome || files.locationInventory.isSome

def sourceDirInput (root : BalanceInputRoot) : Bool := hasBalanceInputs root.files

def discoverBalanceSourceDirs (root : BalanceInputRoot) : Except String (List BalanceSourceDir) :=
  if root.name = "captures" ∨ root.parentName = "captures" then
    .error ("balance input root must reference assembled source datasets, " ++
      "not capture-normalized outputs")
  else if sourceDirInput root then .ok [⟨root.name, root.files⟩]
  else
    .ok ((sortedOn BalanceSourceDir.name root.directories).filter
      (fun dir => hasBalanceInputs dir.files))

def selectBalanceSourceDirs (dirs : List BalanceSourceDir) (requestedSources : List String) :
    Except String (List BalanceSourceDir) :=
  if requestedSources = [] then .ok dirs
  else
    let selected := dirs.filter (fun dir => dir.name ∈ requestedSources)
    let missing :=
      requestedSources.filter (fun source => source ∉ selected.map BalanceSourceDir.name)
    if missing = [] then .ok selected
    else .error ("unknown balance source selection: " ++ String.intercalate ", " missing)

def BalanceSourceDir.source (dir : BalanceSourceDir) : BalanceSource where
  name := dir.name
  facts := dir.files.facts.getD []
  snapshotRows := dir.files.snapshotRows
  references := dir.files.references.getD []
  timezone := dir.files.timezone

/-- What the corroboration reads of a source. -/
def BalanceSourceDir.crossSource (dir : BalanceSourceDir) : CrossSourceInputs where
  source := dir.name
  snapshots := (buildBalanceSourceInputs dir.source).snapshots
  locationInventory := dir.files.locationInventory.getD []

/-! ## The check -/

/-- The files of a source after its check. -/
def filesAfterCheck (providers : Option BalanceProviders) (request : BalanceCheckRequest)
    (dir : BalanceSourceDir) : SourceFiles :=
  -- the issues of an earlier resolution go first, whatever becomes of the plan
  let cleared := { dir.files with referenceIssues := none }
  match buildCheckPlan request dir.source with
  | .error _ => cleared
  | .ok plan =>
      if plan.status ≠ .clean then cleared
      else
        let resolved :=
          resolve dir.source.references plan.targets request.hydrateMissingReferences providers
        { cleared with
          references := some (persistedReferences dir.source.references resolved.1)
          referenceIssues := if resolved.2 = [] then none else some resolved.2 }

/-- A directory after the check of its source. -/
def checkedDir (providers : Option BalanceProviders) (request : BalanceCheckRequest)
    (dir : BalanceSourceDir) : BalanceSourceDir :=
  ⟨dir.name, filesAfterCheck providers request dir⟩

/-- Where the outputs about a source go, under the output root. -/
def outputRoot (singleSource : Bool) (name : String) : List String :=
  if singleSource then [] else [name]

structure BalanceCheckOutcome where
  sources : List (List String × BalanceCheckResult)
  corroboration : CrossSourceCorroborationResult

/-- A directory after the check of some directories. -/
def dirAfterCheck (providers : Option BalanceProviders) (request : BalanceCheckRequest)
    (checked : List BalanceSourceDir) (dir : BalanceSourceDir) : BalanceSourceDir :=
  if dir.name ∈ checked.map BalanceSourceDir.name then checkedDir providers request dir else dir

lemma name_dirAfterCheck (providers : Option BalanceProviders) (request : BalanceCheckRequest)
    (checked : List BalanceSourceDir) :
    (fun dir => (dirAfterCheck providers request checked dir).name) = BalanceSourceDir.name := by
  funext dir
  unfold dirAfterCheck
  split_ifs <;> rfl

/-- The root after the check of some of its directories. -/
def rootAfterCheck (providers : Option BalanceProviders) (request : BalanceCheckRequest)
    (root : BalanceInputRoot) (checked : List BalanceSourceDir) : BalanceInputRoot :=
  if sourceDirInput root then
    { root with files := filesAfterCheck providers request ⟨root.name, root.files⟩ }
  else
    { root with
      directories := root.directories.map (dirAfterCheck providers request checked)
      nodup_names := by
        have hnames : BalanceSourceDir.name ∘ dirAfterCheck providers request checked =
            BalanceSourceDir.name := name_dirAfterCheck providers request checked
        rw [List.map_map, hnames]
        exact root.nodup_names }

def selectedDirs (request : BalanceCheckRequest) (root : BalanceInputRoot) :
    Except String (List BalanceSourceDir) := do
  let dirs ← discoverBalanceSourceDirs root
  selectBalanceSourceDirs dirs request.sources

/-- The check of a root, with the root that it leaves; a refused root or selection is left alone. -/
def checkBalances (providers : Option BalanceProviders) (request : BalanceCheckRequest)
    (root : BalanceInputRoot) : Except String BalanceCheckOutcome × BalanceInputRoot :=
  match selectedDirs request root with
  | .error message => (.error message, root)
  | .ok dirs =>
      (.ok
        { sources := dirs.map (fun dir =>
            (outputRoot (sourceDirInput root) dir.name,
              (checkSourceInput providers request dir.source).1))
          corroboration := buildCrossSourceCorroboration (dirs.map BalanceSourceDir.crossSource) },
        rootAfterCheck providers request root dirs)

/-- The references under a root, each with the directory of its file. -/
def storedReferences (root : BalanceInputRoot) : List (List String × BalanceReference) :=
  (root.files.references.getD []).map (fun r => ([], r)) ++
    root.directories.flatMap (fun dir =>
      (dir.files.references.getD []).map (fun r => ([dir.name], r)))

/-! ## Selected directories -/

/-- The directories that a run may select, in its order. -/
def candidateDirs (root : BalanceInputRoot) : List BalanceSourceDir :=
  if sourceDirInput root then [⟨root.name, root.files⟩]
  else sortedOn BalanceSourceDir.name root.directories

def isChosen (request : BalanceCheckRequest) (dir : BalanceSourceDir) : Bool :=
  hasBalanceInputs dir.files && (request.sources = [] || dir.name ∈ request.sources)

lemma select_eq_ok_iff {dirs selected : List BalanceSourceDir} {requested : List String} :
    selectBalanceSourceDirs dirs requested = .ok selected ↔
      selected = dirs.filter (fun dir => requested = [] || dir.name ∈ requested) ∧
        ∀ source ∈ requested, ∃ dir ∈ selected, dir.name = source := by
  unfold selectBalanceSourceDirs
  by_cases hall : requested = []
  · simp [hall, eq_comm]
  · simp only [hall, if_false, decide_false, Bool.false_or]
    have hmissing : requested.filter (fun source =>
          source ∉ (dirs.filter (fun dir => dir.name ∈ requested)).map BalanceSourceDir.name) = [] ↔
        ∀ source ∈ requested, ∃ dir ∈ dirs.filter (fun dir => dir.name ∈ requested),
          dir.name = source := by
      simp only [List.filter_eq_nil_iff, decide_eq_true_eq, not_not, List.mem_map]
    split_ifs with hnone
    · constructor
      · intro h
        rw [← Except.ok.inj h]
        exact ⟨rfl, hmissing.1 hnone⟩
      · rintro ⟨rfl, -⟩
        rfl
    · refine iff_of_false (fun h => by cases h) ?_
      rintro ⟨rfl, hfound⟩
      exact hnone (hmissing.2 hfound)

/-- A run selects the chosen candidates where no requested source is missing among them. -/
lemma selectedDirs_eq_ok_iff {request : BalanceCheckRequest} {root : BalanceInputRoot}
    {dirs : List BalanceSourceDir} :
    selectedDirs request root = .ok dirs ↔
      ¬(root.name = "captures" ∨ root.parentName = "captures") ∧
        dirs = (candidateDirs root).filter (isChosen request) ∧
        ∀ source ∈ request.sources, ∃ dir ∈ dirs, dir.name = source := by
  unfold selectedDirs discoverBalanceSourceDirs
  by_cases hcaptures : root.name = "captures" ∨ root.parentName = "captures"
  · rw [if_pos hcaptures]
    exact iff_of_false (fun h => by cases h) (fun h => h.1 hcaptures)
  · rw [if_neg hcaptures]
    have hinputs : (candidateDirs root).filter (fun dir => hasBalanceInputs dir.files) =
        if sourceDirInput root then [⟨root.name, root.files⟩]
        else (sortedOn BalanceSourceDir.name root.directories).filter
          (fun dir => hasBalanceInputs dir.files) := by
      unfold candidateDirs
      cases hsingle : sourceDirInput root with
      | false => rfl
      | true => exact List.filter_cons_of_pos hsingle
    have hchosen : (candidateDirs root).filter (isChosen request) =
        ((candidateDirs root).filter (fun dir => hasBalanceInputs dir.files)).filter
          (fun dir => request.sources = [] || dir.name ∈ request.sources) := by
      rw [List.filter_filter]
      refine List.filter_congr ?_
      intro dir _
      exact Bool.and_comm _ _
    rw [hchosen, hinputs]
    cases hsingle : sourceDirInput root with
    | false => exact select_eq_ok_iff.trans (by simp [hcaptures])
    | true => exact select_eq_ok_iff.trans (by simp [hcaptures])

/-! ## Directories after a check -/

/-- An input file other than the reference issues, which the check deletes. -/
def HasLastingInput (files : SourceFiles) : Prop :=
  files.facts.isSome ∨ files.snapshotRows.isSome ∨ files.references.isSome ∨
    files.locationInventory.isSome

instance (files : SourceFiles) : Decidable (HasLastingInput files) :=
  inferInstanceAs (Decidable (_ ∨ _))

section

variable (providers : Option BalanceProviders) (request : BalanceCheckRequest)

/-- A run reads of a checked directory what the check of its source leaves. -/
lemma source_checkedDir (dir : BalanceSourceDir) :
    (checkedDir providers request dir).source =
      (checkSourceInput providers request dir.source).2 := by
  unfold checkedDir filesAfterCheck checkSourceInput
  cases buildCheckPlan request dir.source with
  | error message => rfl
  | ok plan =>
      dsimp only
      split_ifs <;> rfl

lemma input_of_clean {request : BalanceCheckRequest} {source : BalanceSource} {plan : CheckPlan}
    (hplan : buildCheckPlan request source = .ok plan) (hclean : plan.status = .clean) :
    source.facts ≠ [] ∨ source.snapshotRows.isSome := by
  by_contra hnone
  rcases not_or.1 hnone with ⟨hfacts, hrows⟩
  have hmode : (buildBalanceSourceInputs source).inputMode = .empty := by
    unfold buildBalanceSourceInputs
    rw [if_neg hfacts, Option.not_isSome_iff_eq_none.1 hrows]
  unfold buildCheckPlan at hplan
  rcases except_bind_eq_ok.1 hplan with ⟨times, _, hplan⟩
  rcases except_bind_eq_ok.1 hplan with ⟨policy, _, hplan⟩
  rw [hmode] at hplan
  rw [← Except.ok.inj hplan] at hclean
  cases hclean

/-- A checked directory is a source again where it has a lasting input. -/
lemma hasInputs_checkedDir (dir : BalanceSourceDir) :
    hasBalanceInputs (checkedDir providers request dir).files = true ↔ HasLastingInput dir.files := by
  unfold checkedDir filesAfterCheck hasBalanceInputs HasLastingInput
  cases hplan : buildCheckPlan request dir.source with
  | error message => simp [or_assoc]
  | ok plan =>
      by_cases hstatus : plan.status ≠ .clean
      · simp [hstatus, or_assoc]
      · -- a plan that runs has facts or snapshot rows
        have hinput := input_of_clean hplan (not_not.1 hstatus)
        have hlasting : dir.files.facts.isSome ∨ dir.files.snapshotRows.isSome := by
          refine hinput.imp_left ?_
          intro hfacts
          by_contra hnone
          exact hfacts (by simp [BalanceSourceDir.source, Option.not_isSome_iff_eq_none.1 hnone])
        refine iff_of_true (by simp [hstatus]) ?_
        exact hlasting.elim Or.inl (fun h => Or.inr (Or.inl h))

/-! ## Roots after a check -/

variable {providers request}

lemma mem_dirs {root : BalanceInputRoot} {dirs : List BalanceSourceDir}
    (hdirs : selectedDirs request root = .ok dirs) {dir : BalanceSourceDir} :
    dir ∈ dirs ↔ dir ∈ candidateDirs root ∧ isChosen request dir = true := by
  rw [(selectedDirs_eq_ok_iff.1 hdirs).2.1, List.mem_filter]

/-- A root that is a source is the only directory of its runs. -/
lemma dirs_of_single {root : BalanceInputRoot} {dirs : List BalanceSourceDir}
    (hdirs : selectedDirs request root = .ok dirs) (hsingle : sourceDirInput root = true) :
    dirs = [⟨root.name, root.files⟩] := by
  rcases selectedDirs_eq_ok_iff.1 hdirs with ⟨_, hselected, hfound⟩
  rw [candidateDirs, if_pos hsingle] at hselected
  cases hchosen : isChosen request ⟨root.name, root.files⟩ with
  | true => rwa [List.filter_cons_of_pos hchosen] at hselected
  | false =>
      -- a selection that leaves the root out misses a requested source
      rw [List.filter_cons_of_neg (by simp [hchosen]), List.filter_nil] at hselected
      have hnone : request.sources = [] := by
        refine List.eq_nil_iff_forall_not_mem.2 ?_
        intro source hsource
        rcases hfound source hsource with ⟨dir, hdir, _⟩
        rw [hselected] at hdir
        cases hdir
      have hinputs : hasBalanceInputs root.files = true := hsingle
      simp [isChosen, hnone, hinputs] at hchosen

/-- The names of the selected directories tell which directories of the root were selected. -/
lemma name_mem_dirs_iff {root : BalanceInputRoot} {dirs : List BalanceSourceDir}
    (hdirs : selectedDirs request root = .ok dirs) (hmany : sourceDirInput root = false)
    {dir : BalanceSourceDir} (hdir : dir ∈ root.directories) :
    dir.name ∈ dirs.map BalanceSourceDir.name ↔ isChosen request dir = true := by
  have hcandidates : ∀ d, d ∈ candidateDirs root ↔ d ∈ root.directories := by
    intro d
    rw [candidateDirs, hmany]
    exact mem_sortedOn
  rw [List.mem_map]
  constructor
  · rintro ⟨d, hd, hname⟩
    rcases (mem_dirs hdirs).1 hd with ⟨hcandidate, hchosen⟩
    have hsame := List.inj_on_of_nodup_map root.nodup_names ((hcandidates d).1 hcandidate) hdir hname
    rwa [← hsame]
  · intro hchosen
    exact ⟨dir, (mem_dirs hdirs).2 ⟨(hcandidates dir).2 hdir, hchosen⟩, rfl⟩

variable (providers) in
lemma isChosen_checkedDir (dir : BalanceSourceDir) :
    isChosen request (checkedDir providers request dir) =
      (isChosen request dir && decide (HasLastingInput dir.files)) := by
  have hinputs : HasLastingInput dir.files → hasBalanceInputs dir.files = true := by
    rintro (h | h | h | h) <;> simp [hasBalanceInputs, h]
  rw [Bool.eq_iff_iff, Bool.and_eq_true, decide_eq_true_eq]
  unfold isChosen
  rw [Bool.and_eq_true, Bool.and_eq_true, hasInputs_checkedDir]
  constructor
  · rintro ⟨hlasting, hname⟩
    exact ⟨⟨hinputs hlasting, hname⟩, hlasting⟩
  · rintro ⟨⟨_, hname⟩, hlasting⟩
    exact ⟨hlasting, hname⟩

/-- Choosing again among directories of which the chosen ones were checked. -/
lemma filter_chosen_map {dirs : List BalanceSourceDir} {after : BalanceSourceDir → BalanceSourceDir}
    (hchecked : ∀ dir ∈ dirs, isChosen request dir = true →
      after dir = checkedDir providers request dir)
    (hother : ∀ dir ∈ dirs, isChosen request dir = false →
      isChosen request (after dir) = false) :
    (dirs.map after).filter (isChosen request) =
      ((dirs.filter (isChosen request)).filter (fun dir => HasLastingInput dir.files)).map
        (checkedDir providers request) := by
  have hchosen : ∀ dir ∈ dirs, isChosen request (after dir) =
      (decide (HasLastingInput dir.files) && isChosen request dir) := by
    intro dir hdir
    cases h : isChosen request dir with
    | false => rw [hother dir hdir h, Bool.and_false]
    | true => rw [hchecked dir hdir h, isChosen_checkedDir, h, Bool.true_and, Bool.and_true]
  rw [List.filter_map, List.filter_filter]
  calc
    (dirs.filter (isChosen request ∘ after)).map after
        = (dirs.filter (fun dir =>
            decide (HasLastingInput dir.files) && isChosen request dir)).map after :=
          congrArg (List.map after) (List.filter_congr hchosen)
    _ = (dirs.filter (fun dir => decide (HasLastingInput dir.files) && isChosen request dir)).map
          (checkedDir providers request) := by
          refine List.map_congr_left ?_
          intro dir hdir
          rcases List.mem_filter.1 hdir with ⟨hmem, hboth⟩
          exact hchecked dir hmem (Bool.and_eq_true _ _ ▸ hboth).2

/-- The next run chooses the checked directories that have a lasting input. -/
lemma chosen_after {root : BalanceInputRoot} {dirs : List BalanceSourceDir}
    (hdirs : selectedDirs request root = .ok dirs)
    (hsame : sourceDirInput (rootAfterCheck providers request root dirs) = sourceDirInput root) :
    (candidateDirs (rootAfterCheck providers request root dirs)).filter (isChosen request) =
      (dirs.filter (fun dir => HasLastingInput dir.files)).map (checkedDir providers request) := by
  conv_rhs => rw [(selectedDirs_eq_ok_iff.1 hdirs).2.1]
  cases hsingle : sourceDirInput root with
  | true =>
      have hafter : candidateDirs (rootAfterCheck providers request root dirs) =
          (candidateDirs root).map (checkedDir providers request) := by
        rw [candidateDirs, candidateDirs, hsame, hsingle, rootAfterCheck, if_pos hsingle]
        rfl
      rw [hafter]
      refine filter_chosen_map (fun _ _ _ => rfl) ?_
      intro dir _ h
      rw [isChosen_checkedDir, h, Bool.false_and]
  | false =>
      have hafter : candidateDirs (rootAfterCheck providers request root dirs) =
          (candidateDirs root).map (dirAfterCheck providers request dirs) := by
        rw [candidateDirs, candidateDirs, hsame, hsingle, rootAfterCheck]
        simp only [hsingle, Bool.false_eq_true, if_false]
        rw [sortedOn_map, name_dirAfterCheck]
      have hmem : ∀ dir ∈ candidateDirs root, dir ∈ root.directories := by
        intro dir hdir
        rw [candidateDirs, hsingle] at hdir
        exact mem_sortedOn.1 hdir
      rw [hafter]
      refine filter_chosen_map ?_ ?_
      · intro dir hdir hchosen
        exact if_pos ((name_mem_dirs_iff hdirs hsingle (hmem dir hdir)).2 hchosen)
      · intro dir hdir hchosen
        have hname := mt (name_mem_dirs_iff hdirs hsingle (hmem dir hdir)).1
          (Bool.not_eq_true _ ▸ hchosen)
        rw [dirAfterCheck, if_neg hname, hchosen]

/-- A second run selects the checked directories exactly where all of them have a lasting input. -/
lemma selected_again_iff {root : BalanceInputRoot} {dirs : List BalanceSourceDir}
    (hdirs : selectedDirs request root = .ok dirs)
    (hsame : sourceDirInput (rootAfterCheck providers request root dirs) = sourceDirInput root) :
    selectedDirs request (rootAfterCheck providers request root dirs) =
        .ok (dirs.map (checkedDir providers request)) ↔
      ∀ dir ∈ dirs, HasLastingInput dir.files := by
  rcases selectedDirs_eq_ok_iff.1 hdirs with ⟨hplace, _, hfound⟩
  have hroot : ¬((rootAfterCheck providers request root dirs).name = "captures" ∨
      (rootAfterCheck providers request root dirs).parentName = "captures") := by
    unfold rootAfterCheck
    split_ifs <;> exact hplace
  rw [selectedDirs_eq_ok_iff, chosen_after hdirs hsame]
  constructor
  · rintro ⟨_, hall, _⟩
    have hlength := congrArg List.length hall
    rw [List.length_map, List.length_map] at hlength
    simpa using List.length_filter_eq_length_iff.1 hlength.symm
  · intro hall
    refine ⟨hroot, ?_, ?_⟩
    · rw [List.filter_eq_self.2 (by simpa using hall)]
    · intro source hsource
      rcases hfound source hsource with ⟨dir, hdir, hname⟩
      exact ⟨_, List.mem_map_of_mem hdir, hname⟩

/-! ## Stored references after a check -/

lemma mem_storedReferences {root : BalanceInputRoot} {entry : List String × BalanceReference} :
    entry ∈ storedReferences root ↔
      (∃ r ∈ root.files.references.getD [], ([], r) = entry) ∨
        ∃ dir ∈ root.directories, ∃ r ∈ dir.source.references, ([dir.name], r) = entry := by
  simp only [storedReferences, List.mem_append, List.mem_map, List.mem_flatMap]
  rfl

/-- A root that is a source itself has its own stored references. -/
lemma storedReferences_single_iff {root : BalanceInputRoot} {dirs : List BalanceSourceDir}
    (hdirs : selectedDirs request root = .ok dirs) (hsingle : sourceDirInput root = true) :
    storedReferences root ⊆ storedReferences (rootAfterCheck providers request root dirs) ↔
      ∀ dir ∈ dirs, ∀ r ∈ dir.source.references,
        r ∈ (checkedDir providers request dir).source.references := by
  have hafter : rootAfterCheck providers request root dirs =
      { root with files := filesAfterCheck providers request ⟨root.name, root.files⟩ } := by
    rw [rootAfterCheck, if_pos hsingle]
  rw [hafter, dirs_of_single hdirs hsingle, List.forall_mem_singleton]
  constructor
  · intro h r hr
    have hentry := h (mem_storedReferences.2 (.inl ⟨r, hr, rfl⟩))
    rcases mem_storedReferences.1 hentry with ⟨r', hr', heq⟩ | ⟨dir, _, r', _, heq⟩
    · rwa [← (Prod.mk.inj heq).2]
    · exact absurd (Prod.mk.inj heq).1 (List.cons_ne_nil _ _)
  · intro h entry hentry
    rcases mem_storedReferences.1 hentry with ⟨r, hr, heq⟩ | hother
    · exact mem_storedReferences.2 (.inl ⟨r, h r hr, heq⟩)
    · exact mem_storedReferences.2 (.inr hother)

/-- Among several sources a reference is stored under the name of its directory. -/
lemma storedReferences_many_iff {root : BalanceInputRoot} {dirs : List BalanceSourceDir}
    (hdirs : selectedDirs request root = .ok dirs) (hmany : sourceDirInput root = false) :
    storedReferences root ⊆ storedReferences (rootAfterCheck providers request root dirs) ↔
      ∀ dir ∈ dirs, ∀ r ∈ dir.source.references,
        r ∈ (checkedDir providers request dir).source.references := by
  have hafter : rootAfterCheck providers request root dirs =
      { root with
        directories := root.directories.map (dirAfterCheck providers request dirs)
        nodup_names := by
          have hnames : BalanceSourceDir.name ∘ dirAfterCheck providers request dirs =
              BalanceSourceDir.name := name_dirAfterCheck providers request dirs
          rw [List.map_map, hnames]
          exact root.nodup_names } := by
    unfold rootAfterCheck
    rw [if_neg (by simp [hmany])]
  have hdirectory : ∀ dir ∈ dirs, dir ∈ root.directories := by
    intro dir hdir
    have hcandidate := ((mem_dirs hdirs).1 hdir).1
    rw [candidateDirs, hmany] at hcandidate
    exact mem_sortedOn.1 hcandidate
  have hname : ∀ dir, (dirAfterCheck providers request dirs dir).name = dir.name :=
    congrFun (name_dirAfterCheck providers request dirs)
  rw [hafter]
  constructor
  · intro h dir hdir r hr
    have hentry := h (mem_storedReferences.2 (.inr ⟨dir, hdirectory dir hdir, r, hr, rfl⟩))
    rcases mem_storedReferences.1 hentry with ⟨r', _, heq⟩ | ⟨after, hmem, r', hr', heq⟩
    · exact absurd (Prod.mk.inj heq).1.symm (List.cons_ne_nil _ _)
    · rcases List.mem_map.1 hmem with ⟨d, hd, rfl⟩
      have hsame : d.name = dir.name := by
        rw [← hname d]
        exact (List.cons.inj (Prod.mk.inj heq).1).1
      have hd' := List.inj_on_of_nodup_map root.nodup_names hd (hdirectory dir hdir) hsame
      rw [hd', dirAfterCheck, if_pos (List.mem_map_of_mem hdir)] at hr'
      rwa [← (Prod.mk.inj heq).2]
  · intro h entry hentry
    rcases mem_storedReferences.1 hentry with hroot | ⟨dir, hmem, r, hr, heq⟩
    · exact mem_storedReferences.2 (.inl hroot)
    · refine mem_storedReferences.2 (.inr ⟨_, List.mem_map_of_mem hmem, r, ?_, ?_⟩)
      · unfold dirAfterCheck
        split_ifs with hselected
        · have hchosen := (name_mem_dirs_iff hdirs hmany hmem).1 hselected
          refine h dir ((mem_dirs hdirs).2 ⟨?_, hchosen⟩) r hr
          rw [candidateDirs, hmany]
          exact mem_sortedOn.2 hmem
        · exact hr
      · rw [hname, heq]

/-- A check keeps the stored references of a root where it keeps those of every selected source. -/
lemma storedReferences_subset_iff {root : BalanceInputRoot} {dirs : List BalanceSourceDir}
    (hdirs : selectedDirs request root = .ok dirs) :
    storedReferences root ⊆ storedReferences (rootAfterCheck providers request root dirs) ↔
      ∀ dir ∈ dirs, ∀ r ∈ dir.source.references,
        r ∈ (checkedDir providers request dir).source.references := by
  cases hsingle : sourceDirInput root with
  | true => exact storedReferences_single_iff hdirs hsingle
  | false => exact storedReferences_many_iff hdirs hsingle

end

/-! ## Two runs -/

/-- An offline check leaves what the corroboration reads of a source. -/
lemma crossSource_checkedDir (providers : Option BalanceProviders) (request : BalanceCheckRequest)
    (dir : BalanceSourceDir) :
    (checkedDir providers (offline request) dir).crossSource = dir.crossSource := by
  have hinventory : (filesAfterCheck providers (offline request) dir).locationInventory =
      dir.files.locationInventory := by
    unfold filesAfterCheck
    cases buildCheckPlan (offline request) dir.source with
    | error message => rfl
    | ok plan =>
        dsimp only
        split_ifs <;> rfl
  have hsnapshots : (buildBalanceSourceInputs
        (checkSourceInput providers (offline request) dir.source).2).snapshots =
      (buildBalanceSourceInputs dir.source).snapshots := by
    cases hplan : buildCheckPlan (offline request) dir.source with
    | error message => rw [checkSourceInput, hplan]
    | ok plan =>
        by_cases hclean : plan.status = .clean
        · rw [offline_check hplan hclean,
            inputs_congr _ (mem_targets_storedAfter plan dir.source.references)]
        · rw [checkSourceInput, hplan]
          simp only [hclean, ne_eq, not_false_eq_true, if_true]
  unfold BalanceSourceDir.crossSource
  rw [source_checkedDir, hsnapshots]
  simp only [checkedDir, hinventory]

lemma sourceDirInput_after_many {providers : Option BalanceProviders}
    {request : BalanceCheckRequest} {root : BalanceInputRoot} {dirs : List BalanceSourceDir}
    (hmany : sourceDirInput root = false) :
    sourceDirInput (rootAfterCheck providers request root dirs) = false := by
  unfold rootAfterCheck
  rw [if_neg (by simp [hmany])]
  exact hmany

lemma sourceDirInput_after_single {providers : Option BalanceProviders}
    {request : BalanceCheckRequest} {root : BalanceInputRoot} {dirs : List BalanceSourceDir}
    (hsingle : sourceDirInput root = true) :
    sourceDirInput (rootAfterCheck providers request root dirs) = true ↔
      HasLastingInput root.files := by
  unfold rootAfterCheck
  rw [if_pos hsingle]
  exact hasInputs_checkedDir providers request ⟨root.name, root.files⟩

/-- Only a run over a single source writes where the run over a single source did. -/
lemma single_of_outputs {request : BalanceCheckRequest} {root : BalanceInputRoot}
    {dirs dirs' : List BalanceSourceDir} {f g : BalanceSourceDir → BalanceCheckResult}
    {again : Bool} (hdirs : selectedDirs request root = .ok dirs)
    (h : dirs'.map (fun dir => (outputRoot again dir.name, f dir)) =
      dirs.map (fun dir => (outputRoot (sourceDirInput root) dir.name, g dir)))
    (hsingle : sourceDirInput root = true) : again = true := by
  rw [hsingle, dirs_of_single hdirs hsingle] at h
  match dirs', h with
  | dir :: _, h =>
      have hplace := (Prod.mk.inj (List.cons.inj h).1).1
      cases again with
      | true => rfl
      | false => exact absurd hplace (List.cons_ne_nil _ _)

/-- The outputs over checked directories are those over the directories, one directory at a time. -/
lemma outputs_again_iff {providers : Option BalanceProviders} {request : BalanceCheckRequest}
    {single : Bool} {dirs : List BalanceSourceDir} :
    (dirs.map (checkedDir providers (offline request))).map (fun dir =>
        (outputRoot single dir.name, (checkSourceInput providers (offline request) dir.source).1)) =
      dirs.map (fun dir =>
        (outputRoot single dir.name, (checkSourceInput providers (offline request) dir.source).1)) ↔
      ∀ dir ∈ dirs, (checkSourceInput providers (offline request)
          (checkSourceInput providers (offline request) dir.source).2).1 =
        (checkSourceInput providers (offline request) dir.source).1 := by
  rw [List.map_map, List.map_inj_left]
  apply forall₂_congr
  intro dir _
  rw [Function.comp_apply, source_checkedDir, Prod.mk.injEq]
  exact and_iff_right rfl

lemma crossSource_again (providers : Option BalanceProviders) (request : BalanceCheckRequest)
    (dirs : List BalanceSourceDir) :
    (dirs.map (checkedDir providers (offline request))).map BalanceSourceDir.crossSource =
      dirs.map BalanceSourceDir.crossSource := by
  rw [List.map_map]
  exact List.map_congr_left (fun dir _ => crossSource_checkedDir providers request dir)

/-- What two offline runs over selected directories must agree on, one directory at a time. -/
lemma outcome_again {providers : Option BalanceProviders} {request : BalanceCheckRequest}
    {root : BalanceInputRoot} {dirs : List BalanceSourceDir}
    (hdirs : selectedDirs (offline request) root = .ok dirs) :
    (checkBalances providers (offline request)
          (checkBalances providers (offline request) root).2).1 =
        (checkBalances providers (offline request) root).1 ↔
      ∀ dir ∈ dirs, HasLastingInput dir.files ∧
        (checkSourceInput providers (offline request)
            (checkSourceInput providers (offline request) dir.source).2).1 =
          (checkSourceInput providers (offline request) dir.source).1 := by
  have hfirst : checkBalances providers (offline request) root =
      (.ok
        { sources := dirs.map (fun dir =>
            (outputRoot (sourceDirInput root) dir.name,
              (checkSourceInput providers (offline request) dir.source).1))
          corroboration := buildCrossSourceCorroboration (dirs.map BalanceSourceDir.crossSource) },
        rootAfterCheck providers (offline request) root dirs) := by
    rw [checkBalances, hdirs]
  rw [hfirst]
  constructor
  · intro h
    cases hagain : selectedDirs (offline request)
        (rootAfterCheck providers (offline request) root dirs) with
    | error message =>
        rw [checkBalances, hagain] at h
        cases h
    | ok dirs' =>
        rw [checkBalances, hagain] at h
        have hsources := congrArg BalanceCheckOutcome.sources (Except.ok.inj h)
        have hsame : sourceDirInput (rootAfterCheck providers (offline request) root dirs) =
            sourceDirInput root := by
          cases hsingle : sourceDirInput root with
          | false => exact sourceDirInput_after_many hsingle
          | true => exact single_of_outputs hdirs hsources hsingle
        have hdirs' := (selectedDirs_eq_ok_iff.1 hagain).2.1
        rw [chosen_after hdirs hsame] at hdirs'
        have hlasting : ∀ dir ∈ dirs, HasLastingInput dir.files := by
          have hlength := congrArg List.length hsources
          rw [hdirs', List.length_map, List.length_map, List.length_map] at hlength
          simpa using List.length_filter_eq_length_iff.1 hlength
        rw [List.filter_eq_self.2 (by simpa using hlasting)] at hdirs'
        simp only [hsame, hdirs'] at hsources
        exact fun dir hdir => ⟨hlasting dir hdir, outputs_again_iff.1 hsources dir hdir⟩
  · intro h
    have hlasting : ∀ dir ∈ dirs, HasLastingInput dir.files := fun dir hdir => (h dir hdir).1
    have hsame : sourceDirInput (rootAfterCheck providers (offline request) root dirs) =
        sourceDirInput root := by
      cases hsingle : sourceDirInput root with
      | false => exact sourceDirInput_after_many hsingle
      | true =>
          refine (sourceDirInput_after_single hsingle).2 (hlasting ⟨root.name, root.files⟩ ?_)
          rw [dirs_of_single hdirs hsingle]
          exact List.mem_singleton.2 rfl
    rw [checkBalances, (selected_again_iff hdirs hsame).2 hlasting]
    simp only [hsame, crossSource_again, outputs_again_iff.2 (fun dir hdir => (h dir hdir).2)]

/-- Two statement references that only differ in their quantity. -/
def conflictingFiles : SourceFiles where
  facts := none
  snapshotRows := some
    [{ target := bitcoinTarget .date, quantity := Decimal.ofParts 5 (-1), snapshotBasis := "manual" }]
  references := some
    [statementReference, { statementReference with quantity := Decimal.ofParts 1 0 }]
  referenceIssues := none
  locationInventory := none
  timezone := .error "unknown timezone"

/-- A root with one manual source. -/
def conflictingRoot : BalanceInputRoot where
  name := "sources"
  parentName := "normalized"
  files := ⟨none, none, none, none, none, .error "unknown timezone"⟩
  directories := [⟨"coinbase", conflictingFiles⟩]
  nodup_names := List.nodup_singleton _

/-- The statuses of the assertions of a run. -/
def outcomeStatuses (outcome : Except String BalanceCheckOutcome) :
    Option (List (List BalanceAssertionStatus)) :=
  outcome.toOption.map (fun outcome =>
    outcome.sources.map (fun source => source.2.assertions.map BalanceAssertion.status))

end Balances
end Tallylot
