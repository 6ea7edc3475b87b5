import Tallylot.Intake.Packages

/-!
# Duplicates — what a skipped duplicate leaves behind

A package is a duplicate of a package that ranks before it, which may be a duplicate itself.  The
chain ends at a package that is none (`exists_kept_superset`).  Only packages with a superset are called
duplicates (`justified_resolveGroup`), and rows that a merge supersedes have a newer file of their
logical name (`superseded_resolveGroup`).
-/

namespace Tallylot
namespace Intake

open Data

/-! ## Chains of duplicates -/

lemma counterSubset_iff {left right : Multiset String} :
    counterSubset left right = true ↔ left ≤ right := by
  rw [counterSubset, decide_eq_true_iff, Multiset.le_iff_count]
  constructor
  · intro h key
    by_cases hkey : key ∈ left
    · exact h key hkey
    · simp [Multiset.count_eq_zero_of_notMem hkey]
  · intro h key _
    exact h key

/-- Each package's contents occur in a package that is no duplicate. -/
theorem exists_kept_superset {ordered : List BundlePackage} {package : BundlePackage}
    (h : package ∈ ordered) :
    ∃ kept ∈ ordered, supersets ordered kept = [] ∧
      package.materialHashes ≤ kept.materialHashes := by
  -- strong induction on the rank, which drops along the chain
  induction hrank : rankOf ordered package using Nat.strong_induction_on generalizing package with
  | _ rank ih =>
      cases hsup : supersets ordered package with
      | nil => exact ⟨package, h, hsup, le_rfl⟩
      | cons candidate rest =>
          have hmem : candidate ∈ supersets ordered package := by simp [hsup]
          rcases List.mem_filter.1 hmem with ⟨hcandidate, hcond⟩
          simp only [decide_eq_true_eq] at hcond
          rcases hcond with ⟨_, hlt, hsub⟩
          rcases ih _ (hrank ▸ hlt) hcandidate rfl with ⟨kept, hkept, hnil, hle⟩
          exact ⟨kept, hkept, hnil, (counterSubset_iff.1 hsub).trans hle⟩

/-! ## Decisions -/

/-- Only a package with a superset is called a duplicate. -/
def DuplicatesJustified (ordered : List BundlePackage) (decisions : Decisions) : Prop :=
  ∀ key decision, decisions.get? key = some decision → decision.packageStatus.isDuplicate = true →
    ∃ package ∈ ordered, package.packageKey = key ∧ supersets ordered package ≠ []

lemma justified_upsert {ordered : List BundlePackage} {decisions : Decisions}
    {key : PackageGroupKey × String} {f : Option PackageDecision → PackageDecision}
    (h : DuplicatesJustified ordered decisions)
    (hf : ∀ old, (f old).packageStatus.isDuplicate = true →
      ∃ decision, old = some decision ∧ decision.packageStatus.isDuplicate = true) :
    DuplicatesJustified ordered (decisions.upsert key f) := by
  intro key' decision hget hdup
  rw [Dict.get?_upsert] at hget
  split_ifs at hget with hkey
  · subst hkey
    rw [← Option.some.inj hget] at hdup
    rcases hf _ hdup with ⟨old, hold, holddup⟩
    exact h key' old hold holddup
  · exact h key' decision hget hdup

lemma justified_set {ordered : List BundlePackage} {decisions : Decisions}
    {key : PackageGroupKey × String} {decision : PackageDecision}
    (h : DuplicatesJustified ordered decisions)
    (hdecision : decision.packageStatus.isDuplicate = false) :
    DuplicatesJustified ordered (decisions.set key decision) :=
  justified_upsert h (fun _ hdup => absurd hdup (by simp [hdecision]))

lemma justified_duplicates (ordered : List BundlePackage) (rowActions : RowActions) :
    DuplicatesJustified ordered (applyDuplicateDecisions ordered Dict.empty rowActions).decisions := by
  refine @List.foldlRecOn _ _ (fun (state : Resolution) => DuplicatesJustified ordered state.decisions) ordered
    _ _ ?_ ?_
  · intro key decision hget
    cases hget
  · intro state h package hpackage
    unfold duplicateStep
    cases hsup : newestFirst (supersets ordered package) with
    | nil => exact h
    | cons primary rest =>
        intro key decision hget hdup
        rw [Dict.get?_set] at hget
        split_ifs at hget with hkey
        · refine ⟨package, hpackage, hkey.symm, ?_⟩
          intro hnil
          rw [hnil] at hsup
          cases hsup
        · exact h key decision hget hdup

lemma justified_merges {ordered : List BundlePackage} (remaining : List BundlePackage)
    {decisions : Decisions} (rowActions : RowActions) (h : DuplicatesJustified ordered decisions) :
    DuplicatesJustified ordered (applyMergeDecisions remaining decisions rowActions).decisions := by
  refine @List.foldlRecOn _ _ (fun (state : Resolution) => DuplicatesJustified ordered state.decisions) remaining
    _ _ h ?_
  intro state hstate primary _
  unfold primaryStep
  split_ifs with hsettled
  · exact hstate
  · dsimp only
    split_ifs with hmembers
    · exact hstate
    · refine List.foldlRecOn _ _ (justified_set hstate rfl) ?_
      intro decisions hdecisions member _
      exact justified_set hdecisions rfl

lemma isDuplicate_default (package : BundlePackage) :
    (defaultDecision package).packageStatus.isDuplicate = false := by
  unfold defaultDecision
  split_ifs <;> rfl

lemma mem_overlapPairs {packages : List BundlePackage} {pair : BundlePackage × BundlePackage}
    (h : pair ∈ overlapPairs packages) : pair.1 ∈ packages ∧ pair.2 ∈ packages := by
  induction packages with
  | nil => cases h
  | cons left rest ih =>
      rw [overlapPairs] at h
      rcases List.mem_append.1 h with h | h
      · split_ifs at h
        · cases h
        · rcases List.mem_map.1 h with ⟨right, hright, rfl⟩
          exact ⟨List.mem_cons_self, List.mem_cons_of_mem _ (List.mem_filter.1 hright).1⟩
      · rcases ih h with ⟨h₁, h₂⟩
        exact ⟨List.mem_cons_of_mem _ h₁, List.mem_cons_of_mem _ h₂⟩

lemma isDuplicate_overlap {package related : BundlePackage} {current : PackageDecision} :
    (overlapDecision package related current).packageStatus.isDuplicate = true →
      current.packageStatus.isDuplicate = true := by
  intro h
  unfold overlapDecision at h
  split_ifs at h
  · cases h
  · exact h

/-- `old.getD (defaultDecision package)` is a duplicate's decision only where `old` is one. -/
lemma isDuplicate_getD {package : BundlePackage} {old : Option PackageDecision} :
    (old.getD (defaultDecision package)).packageStatus.isDuplicate = true →
      ∃ decision, old = some decision ∧ decision.packageStatus.isDuplicate = true := by
  intro h
  cases old with
  | none =>
      rw [Option.getD_none, isDuplicate_default] at h
      cases h
  | some decision => exact ⟨decision, rfl, h⟩

lemma justified_reviews {ordered : List BundlePackage} {decisions : Decisions}
    (h : DuplicatesJustified ordered decisions) :
    DuplicatesJustified ordered
      (applyOverlapReviewDecisions ordered (applyDefaultDecisions ordered decisions)) := by
  refine List.foldlRecOn _ _ ?_ ?_
  · refine List.foldlRecOn _ _ h ?_
    intro decisions hdecisions package _
    exact justified_upsert hdecisions (fun _ hdup => isDuplicate_getD hdup)
  · intro decisions hdecisions pair _
    refine justified_upsert (justified_upsert hdecisions ?_) ?_
    · exact fun _ hdup => isDuplicate_getD (isDuplicate_overlap hdup)
    · exact fun _ hdup => isDuplicate_getD (isDuplicate_overlap hdup)

theorem justified_resolveGroup (packages : List BundlePackage) :
    DuplicatesJustified (newestFirst packages) (resolveGroup packages).1 :=
  justified_reviews (justified_merges _ _ (justified_duplicates _ _))

/-! ## Superseded rows -/

/-- A material row of another content under the same logical name, in a package of `ordered`. -/
def Carried (ordered : List BundlePackage) (hashes : LogicalHashes) : Prop :=
  ∀ name, ∀ hash ∈ (hashes.get? name).getD 0, ∃ package ∈ ordered, ∃ row ∈ package.materialRows,
    logicalKey row.1.bundleRelativePath = name ∧ row.1.sha256 = hash

/-- A superseded row belongs to a package older than one of its export cycle, and another content
stands under its logical name. -/
def Superseded (ordered : List BundlePackage) (index : Nat) : Prop :=
  ∃ primary ∈ ordered, ∃ candidate ∈ ordered, canSupersede primary candidate = true ∧
    ∃ row ∈ candidate.materialRows, row.2 = index ∧
      ∃ package ∈ ordered, ∃ newer ∈ package.materialRows,
        logicalKey newer.1.bundleRelativePath = logicalKey row.1.bundleRelativePath ∧
          newer.1.sha256 ≠ row.1.sha256

def SupersededJustified (ordered : List BundlePackage) (rowActions : RowActions) : Prop :=
  ∀ index action, rowActions.get? index = some action →
    action.packageRowStatus = .packageMergeSupersededSkip → Superseded ordered index

lemma mem_logicalHashes {package : BundlePackage} {entry : String × Multiset String}
    (h : entry ∈ package.logicalHashes) {hash : String} (hhash : hash ∈ entry.2) :
    ∃ row ∈ package.materialRows, logicalKey row.1.bundleRelativePath = entry.1 ∧
      row.1.sha256 = hash := by
  rcases List.mem_map.1 h with ⟨⟨name, rows⟩, hrows, rfl⟩
  rw [package.logicalRows_eq] at hrows
  rcases Dict.mem_entries_group hrows with ⟨_, rfl⟩
  rcases List.mem_map.1 (Multiset.mem_coe.1 hhash) with ⟨row, hrow, rfl⟩
  rcases List.mem_filter.1 hrow with ⟨hmem, hname⟩
  exact ⟨row, hmem, by simpa using hname, rfl⟩

lemma mem_logicalRows {package : BundlePackage} {name : String} {row : Row}
    (h : row ∈ (package.logicalRows.get? name).getD []) :
    row ∈ package.materialRows ∧ logicalKey row.1.bundleRelativePath = name := by
  rw [package.logicalRows_eq, logicalRowsOf, Dict.getD_get?_group] at h
  simpa using List.mem_filter.1 h

lemma carried_addHashes {ordered : List BundlePackage} {hashes : LogicalHashes}
    {entry : String × Multiset String} (h : Carried ordered hashes)
    (hentry : ∀ hash ∈ entry.2, ∃ package ∈ ordered, ∃ row ∈ package.materialRows,
      logicalKey row.1.bundleRelativePath = entry.1 ∧ row.1.sha256 = hash) :
    Carried ordered (addHashes hashes entry) := by
  intro name hash hhash
  rw [addHashes, Dict.get?_upsert] at hhash
  split_ifs at hhash with hname
  · subst hname
    rcases Multiset.mem_add.1 hhash with hold | hnew
    · exact h entry.1 hash hold
    · exact hentry hash hnew
  · exact h name hash hhash

/-- What holds of a merge plan while the logical names of a candidate are visited. -/
structure PlanJustified (ordered : List BundlePackage) (plan : MergePlan) : Prop where
  superseded : ∀ row ∈ plan.superseded, Superseded ordered row.2
  kept : Carried ordered plan.keptLogicalHashes

lemma planJustified_mergeStep {ordered : List BundlePackage} {primary candidate : BundlePackage}
    {component : LogicalHashes} {plan plan' : MergePlan} {entry : String × Multiset String}
    (hprimary : primary ∈ ordered) (hcandidate : candidate ∈ ordered)
    (hcomponent : Carried ordered component) (hentry : entry ∈ candidate.logicalHashes)
    (h : PlanJustified ordered plan)
    (hstep : mergeStep primary candidate component plan entry = some plan') :
    PlanJustified ordered plan' := by
  simp only [mergeStep] at hstep
  split_ifs at hstep with hconflict hnewer
  · cases hstep
    refine ⟨?_, h.kept⟩
    intro row hrow
    rcases List.mem_append.1 hrow with hold | hnew
    · exact h.superseded row hold
    · rcases List.mem_filter.1 hnew with ⟨hmem, hextra⟩
      rcases mem_logicalRows hmem with ⟨hmaterial, hname⟩
      rcases Multiset.exists_mem_of_ne_zero hconflict.2 with ⟨hash, hhash⟩
      rcases hcomponent entry.1 hash hhash with ⟨package, hpackage, newer, hnew', hname', rfl⟩
      have hother := (Multiset.mem_filter.1 (of_decide_eq_true hextra)).2
      refine ⟨primary, hprimary, candidate, hcandidate, hnewer, row, hmaterial, rfl, package,
        hpackage, newer, hnew', hname'.trans hname.symm, ?_⟩
      intro heq
      exact hother (heq ▸ hhash)
  · cases hstep
    refine ⟨h.superseded, carried_addHashes h.kept ?_⟩
    intro hash hhash
    exact ⟨candidate, hcandidate, mem_logicalHashes hentry hhash⟩

lemma planJustified_evaluateMerge {ordered : List BundlePackage}
    {primary candidate : BundlePackage} {hashes : Multiset String} {component : LogicalHashes}
    {plan : MergePlan} (hprimary : primary ∈ ordered) (hcandidate : candidate ∈ ordered)
    (hcomponent : Carried ordered component)
    (h : evaluateMerge primary candidate hashes component = some plan) :
    PlanJustified ordered plan := by
  have hfold : ∀ (entries : List (String × Multiset String)) (start final : MergePlan),
      entries ⊆ candidate.logicalHashes → PlanJustified ordered start →
        entries.foldlM (mergeStep primary candidate component) start = some final →
          PlanJustified ordered final := by
    intro entries
    induction entries with
    | nil =>
        intro start final _ hstart hfinal
        cases hfinal
        exact hstart
    | cons entry entries ih =>
        intro start final hsub hstart hfinal
        rw [List.foldlM_cons] at hfinal
        rcases Option.bind_eq_some_iff.1 hfinal with ⟨middle, hstep, hrest⟩
        exact ih middle final (fun _ he => hsub (List.mem_cons_of_mem _ he))
          (planJustified_mergeStep hprimary hcandidate hcomponent (hsub List.mem_cons_self)
            hstart hstep) hrest
  unfold evaluateMerge at h
  split_ifs at h
  cases hrun : candidate.logicalHashes.foldlM (mergeStep primary candidate component)
      ⟨[], 0, Dict.empty⟩ with
  | none => simp [hrun] at h
  | some final =>
      simp only [hrun] at h
      split_ifs at h
      cases h
      refine hfold _ _ _ (fun _ he => he) ⟨?_, ?_⟩ hrun
      · intro row hrow
        cases hrow
      · intro name hash hhash
        cases hhash

lemma superseded_upsert {ordered : List BundlePackage} {actions : RowActions} {index : Nat}
    {f : Option RowAction → RowAction} (h : SupersededJustified ordered actions)
    (hf : ∀ old, (f old).packageRowStatus = .packageMergeSupersededSkip →
      Superseded ordered index) :
    SupersededJustified ordered (actions.upsert index f) := by
  intro index' action hget hstatus
  rw [Dict.get?_upsert] at hget
  split_ifs at hget with hindex
  · subst hindex
    cases hget
    exact hf _ hstatus
  · exact h index' action hget hstatus

lemma superseded_applyMerge {ordered : List BundlePackage} {actions : RowActions}
    {primaryBundleId : String} {candidate : BundlePackage} {superseded : List Row}
    (hrows : ∀ row ∈ superseded, Superseded ordered row.2)
    (h : SupersededJustified ordered actions) :
    SupersededJustified ordered
      (applyMergeMemberRowActions primaryBundleId candidate superseded actions) := by
  refine List.foldlRecOn _ _ (List.foldlRecOn _ _ h ?_) ?_
  · intro actions hactions row _
    refine superseded_upsert hactions ?_
    intro _ hstatus
    cases hstatus
  · intro actions hactions row hrow
    exact superseded_upsert hactions (fun _ _ => hrows row hrow)

/-- What holds of a component while its candidates are visited. -/
structure ComponentJustified (ordered : List BundlePackage) (component : Component) : Prop where
  carried : Carried ordered component.logicalHashes
  superseded : SupersededJustified ordered component.rowActions

lemma mem_ofList_logicalHashes {ordered : List BundlePackage} {package : BundlePackage}
    (hpackage : package ∈ ordered) : Carried ordered (Dict.ofList package.logicalHashes) := by
  intro name hash hhash
  cases hget : (Dict.ofList package.logicalHashes).get? name with
  | none =>
      rw [hget] at hhash
      cases hhash
  | some hashes =>
      rw [hget] at hhash
      have hentry := Dict.mem_of_mem_entries_ofList ((Dict.get?_eq_some_iff _ _ _).1 hget)
      exact ⟨package, hpackage, mem_logicalHashes hentry hhash⟩

lemma componentJustified_candidateStep {ordered : List BundlePackage}
    {primary candidate : BundlePackage} {component : Component} (hprimary : primary ∈ ordered)
    (hcandidate : candidate ∈ ordered) (h : ComponentJustified ordered component) :
    ComponentJustified ordered (candidateStep primary component candidate) := by
  unfold candidateStep
  split_ifs with hskip
  · exact h
  · cases hplan : evaluateMerge primary candidate component.hashes component.logicalHashes with
    | none => exact h
    | some plan =>
        have hjustified := planJustified_evaluateMerge hprimary hcandidate h.carried hplan
        refine ⟨?_, superseded_applyMerge hjustified.superseded h.superseded⟩
        refine List.foldlRecOn _ _ h.carried ?_
        intro hashes hhashes entry hentry
        refine carried_addHashes hhashes ?_
        intro hash hhash
        refine hjustified.kept entry.1 hash ?_
        rw [(Dict.get?_eq_some_iff _ _ _).2 hentry]
        exact hhash

lemma superseded_primaryStep {ordered remaining : List BundlePackage} (hsub : remaining ⊆ ordered)
    {state : Resolution} {primary : BundlePackage} (hprimary : primary ∈ ordered)
    (h : SupersededJustified ordered state.rowActions) :
    SupersededJustified ordered (primaryStep remaining state primary).rowActions := by
  unfold primaryStep
  split_ifs with hsettled
  · exact h
  · have hcomponent : ComponentJustified ordered
        (componentOf primary remaining state.settled state.rowActions) := by
      refine List.foldlRecOn _ _ ⟨mem_ofList_logicalHashes hprimary, h⟩ ?_
      intro component hcomponent candidate hcandidate
      exact componentJustified_candidateStep hprimary (hsub hcandidate) hcomponent
    exact hcomponent.superseded

lemma superseded_duplicates {ordered : List BundlePackage} {rowActions : RowActions}
    (h : SupersededJustified ordered rowActions) :
    SupersededJustified ordered
      (applyDuplicateDecisions ordered Dict.empty rowActions).rowActions := by
  refine @List.foldlRecOn _ _ (fun (state : Resolution) => SupersededJustified ordered state.rowActions) ordered
    _ _ h ?_
  intro state hstate package _
  unfold duplicateStep
  cases newestFirst (supersets ordered package) with
  | nil => exact hstate
  | cons primary rest =>
      refine List.foldlRecOn _ _ hstate ?_
      intro actions hactions row _
      refine superseded_upsert hactions ?_
      intro _ hstatus
      cases hstatus

theorem superseded_resolveGroup (packages : List BundlePackage) :
    SupersededJustified (newestFirst packages) (resolveGroup packages).2 := by
  refine @List.foldlRecOn _ _
    (fun (state : Resolution) => SupersededJustified (newestFirst packages) state.rowActions) _ _ _
    (superseded_duplicates ?_) ?_
  · intro index action hget hstatus
    have hentry := Dict.mem_of_mem_entries_ofList ((Dict.get?_eq_some_iff _ _ _).1 hget)
    rcases List.mem_flatMap.1 hentry with ⟨package, _, hrow⟩
    rcases List.mem_map.1 hrow with ⟨row, _, hpair⟩
    rw [← (Prod.mk.inj hpair).2] at hstatus
    cases hstatus
  · intro state hstate primary hprimary
    exact superseded_primaryStep (fun _ h => (List.mem_filter.1 h).1)
      (List.mem_filter.1 hprimary).1 hstate

/-! ## Rows and their packages -/

lemma mem_packagesOf {items : List PlannedPackageItem} {package : BundlePackage}
    (h : package ∈ packagesOf items) : ∃ rows, package =
      buildPackage package.packageKey.1 package.packageKey.2 rows ∧
        rows = (items.zipIdx.filter (fun row => row.1.category = "source_raw")).filter
          (fun row => itemKey row.1 = package.packageKey) := by
  rcases List.mem_map.1 h with ⟨⟨key, rows⟩, hentry, rfl⟩
  exact ⟨rows, rfl, (Dict.mem_entries_group hentry).2⟩

/-- A package is determined by its key. -/
lemma eq_of_packageKey {items : List PlannedPackageItem} {package package' : BundlePackage}
    (h : package ∈ packagesOf items) (h' : package' ∈ packagesOf items)
    (hkey : package.packageKey = package'.packageKey) : package = package' := by
  rcases mem_packagesOf h with ⟨rows, hpackage, hrows⟩
  rcases mem_packagesOf h' with ⟨rows', hpackage', hrows'⟩
  rw [hpackage, hpackage', hrows, hrows', hkey]

lemma materialRows_of_mem {items : List PlannedPackageItem} {package : BundlePackage}
    (h : package ∈ packagesOf items) : package.materialRows = materialRows package.rows := by
  rcases mem_packagesOf h with ⟨rows, hpackage, _⟩
  rw [hpackage]
  rfl

lemma mem_rows_iff {items : List PlannedPackageItem} {package : BundlePackage}
    (h : package ∈ packagesOf items) {row : Row} : row ∈ package.rows ↔
      items[row.2]? = some row.1 ∧ row.1.category = "source_raw" ∧
        itemKey row.1 = package.packageKey := by
  rcases mem_packagesOf h with ⟨rows, hpackage, hrows⟩
  have hown : package.rows = rows := by
    rw [hpackage]
    rfl
  rw [hown, hrows, List.mem_filter, List.mem_filter]
  simp only [List.mem_zipIdx_iff_getElem?, decide_eq_true_eq, and_assoc]

lemma mem_group {items : List PlannedPackageItem} {packages : List BundlePackage}
    (h : packages ∈ (packagesByGroup items).values) :
    ∃ groupKey, packages = (packagesOf items).filter
      (fun package => package.groupKey = groupKey) := by
  rcases List.mem_map.1 h with ⟨⟨groupKey, packages⟩, hentry, rfl⟩
  exact ⟨groupKey, (Dict.mem_entries_group hentry).2⟩

/-- The update of a row is made by the resolution of a group. -/
lemma update_at {items : List PlannedPackageItem} {index : Nat}
    {item replacement : PlannedPackageItem} (hitem : items[index]? = some item)
    (hget : (packageUpdates items).get? index = some replacement) :
    ∃ packages ∈ (packagesByGroup items).values, ∃ decision action,
      (resolveGroup packages).1.get? (itemKey item) = some decision ∧
        (resolveGroup packages).2.get? index = some action ∧
          replacement = replaceItem item decision action := by
  have hentry := Dict.mem_of_mem_entries_ofList ((Dict.get?_eq_some_iff _ _ _).1 hget)
  rcases List.mem_flatMap.1 hentry with ⟨packages, hpackages, hupdate⟩
  rcases List.mem_filterMap.1 hupdate with ⟨row, hrow, hupdate⟩
  unfold updateOf at hupdate
  split at hupdate
  · rename_i decision action hdecision haction
    rcases Prod.mk.inj (Option.some.inj hupdate) with ⟨hindex, hreplace⟩
    have hrow' := List.mem_zipIdx_iff_getElem?.1 hrow
    rw [hindex, hitem] at hrow'
    have hown : row.1 = item := (Option.some.inj hrow').symm
    rw [hown] at hdecision hreplace
    rw [hindex] at haction
    exact ⟨packages, hpackages, decision, action, hdecision, haction, hreplace.symm⟩
  · cases hupdate

lemma getElem?_applyPackageRules {items : List PlannedPackageItem} {index : Nat}
    {item : PlannedPackageItem} (hitem : items[index]? = some item) :
    (applyPackageRules items)[index]? = some (((packageUpdates items).get? index).getD item) := by
  rw [applyPackageRules, List.getElem?_map, List.getElem?_zipIdx, hitem]
  simp

/-- The package rules leave a row as it is or apply its package's decision to it. -/
lemma rules_at {items : List PlannedPackageItem} {index : Nat} {item item' : PlannedPackageItem}
    (hitem : items[index]? = some item) (hitem' : (applyPackageRules items)[index]? = some item') :
    item' = item ∨ ∃ packages ∈ (packagesByGroup items).values, ∃ decision action,
      (resolveGroup packages).1.get? (itemKey item) = some decision ∧
        (resolveGroup packages).2.get? index = some action ∧
          item' = replaceItem item decision action := by
  rw [getElem?_applyPackageRules hitem, Option.some_inj] at hitem'
  cases hget : (packageUpdates items).get? index with
  | none => exact Or.inl (by simpa [hget] using hitem'.symm)
  | some replacement =>
      rw [hget, Option.getD_some] at hitem'
      rw [← hitem']
      exact Or.inr (update_at hitem hget)

end Intake
end Tallylot
