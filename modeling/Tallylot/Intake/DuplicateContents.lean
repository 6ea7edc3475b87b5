import Tallylot.Intake.Duplicates

/-!
# DuplicateContents — the contents of skipped duplicates

The rules skip every row of a duplicate package.  They decide on the material rows of a package, blocked
rows among them, so that the content of a skipped row can stand in blocked rows only, or for an archive
next to its members in no other row.  `duplicates_carried_iff` says when every skipped content stands in
a row that was planned for copy.
-/

namespace Tallylot
namespace Intake

open Data

/-! ## Duplicates stay duplicates -/

/-- The decisions are about known packages, and every package with a superset is called a duplicate. -/
structure DuplicatesDecided (ordered : List BundlePackage) (decisions : Decisions) : Prop where
  known : ∀ key decision, decisions.get? key = some decision →
    ∃ package ∈ ordered, package.packageKey = key
  decided : ∀ package ∈ ordered, supersets ordered package ≠ [] →
    ∃ decision, decisions.get? package.packageKey = some decision ∧
      decision.packageStatus.isDuplicate = true

lemma decided_upsert {ordered : List BundlePackage} {decisions : Decisions}
    {package : BundlePackage} {f : Option PackageDecision → PackageDecision}
    (h : DuplicatesDecided ordered decisions) (hpackage : package ∈ ordered)
    (hf : ∀ decision, decision.packageStatus.isDuplicate = true →
      (f (some decision)).packageStatus.isDuplicate = true) :
    DuplicatesDecided ordered (decisions.upsert package.packageKey f) := by
  constructor
  · intro key decision hget
    rw [Dict.get?_upsert] at hget
    split_ifs at hget with hkey
    · exact ⟨package, hpackage, hkey.symm⟩
    · exact h.known key decision hget
  · intro other hother hsup
    rcases h.decided other hother hsup with ⟨decision, hget, hdup⟩
    rw [Dict.get?_upsert]
    split_ifs with hkey
    · rw [← hkey, hget]
      exact ⟨_, rfl, hf decision hdup⟩
    · exact ⟨decision, hget, hdup⟩

/-- A decision about a package without the key of a duplicate leaves the duplicates. -/
lemma decided_set {ordered : List BundlePackage} {decisions : Decisions} {package : BundlePackage}
    {decision : PackageDecision} (h : DuplicatesDecided ordered decisions)
    (hpackage : package ∈ ordered)
    (hother : ∀ other ∈ ordered, supersets ordered other ≠ [] →
      other.packageKey ≠ package.packageKey) :
    DuplicatesDecided ordered (decisions.set package.packageKey decision) := by
  constructor
  · intro key decision' hget
    rw [Dict.get?_set] at hget
    split_ifs at hget with hkey
    · exact ⟨package, hpackage, hkey.symm⟩
    · exact h.known key decision' hget
  · intro other hmem hsup
    rcases h.decided other hmem hsup with ⟨decision', hget, hdup⟩
    refine ⟨decision', ?_, hdup⟩
    rw [Dict.get?_set, if_neg (hother other hmem hsup), hget]

lemma isDuplicate_duplicateDecision (package primary : BundlePackage) :
    (duplicateDecision package primary).packageStatus.isDuplicate = true := by
  unfold duplicateDecision
  dsimp only
  split_ifs <;> rfl

/-- What the packages visited so far leave: their duplicates are decided and settled. -/
structure DuplicatesVisited (ordered visited : List BundlePackage) (state : Resolution) : Prop where
  known : ∀ key decision, state.decisions.get? key = some decision →
    ∃ package ∈ visited, package.packageKey = key
  decided : ∀ package ∈ visited, supersets ordered package ≠ [] →
    ∃ decision, state.decisions.get? package.packageKey = some decision ∧
      decision.packageStatus.isDuplicate = true
  settled : ∀ package ∈ visited, supersets ordered package ≠ [] →
    package.packageKey ∈ state.settled

lemma visited_duplicateStep {ordered visited : List BundlePackage} {state : Resolution}
    (package : BundlePackage) (h : DuplicatesVisited ordered visited state) :
    DuplicatesVisited ordered (visited ++ [package]) (duplicateStep ordered state package) := by
  unfold duplicateStep
  cases hsup : newestFirst (supersets ordered package) with
  | nil =>
      have hnil : supersets ordered package = [] := by
        have hlength := congrArg List.length hsup
        rw [newestFirst, length_sortedOn] at hlength
        exact List.length_eq_zero_iff.1 hlength
      have hvisited : ∀ other ∈ visited ++ [package], supersets ordered other ≠ [] →
          other ∈ visited := by
        intro other hother hne
        rcases List.mem_append.1 hother with hother | hother
        · exact hother
        · exact absurd (List.mem_singleton.1 hother ▸ hnil) hne
      refine ⟨?_, ?_, ?_⟩
      · intro key decision hget
        rcases h.known key decision hget with ⟨other, hother, hkey⟩
        exact ⟨other, List.mem_append_left _ hother, hkey⟩
      · exact fun other hother hne => h.decided other (hvisited other hother hne) hne
      · exact fun other hother hne => h.settled other (hvisited other hother hne) hne
  | cons primary rest =>
      refine ⟨?_, ?_, ?_⟩
      · intro key decision hget
        rw [Dict.get?_set] at hget
        split_ifs at hget with hkey
        · exact ⟨package, by simp, hkey.symm⟩
        · rcases h.known key decision hget with ⟨other, hother, hkey⟩
          exact ⟨other, List.mem_append_left _ hother, hkey⟩
      · intro other hother hne
        rw [Dict.get?_set]
        split_ifs with hkey
        · exact ⟨_, rfl, isDuplicate_duplicateDecision package primary⟩
        · rcases List.mem_append.1 hother with hother | hother
          · exact h.decided other hother hne
          · exact absurd (congrArg BundlePackage.packageKey (List.mem_singleton.1 hother)) hkey
      · intro other hother hne
        rcases List.mem_append.1 hother with hother | hother
        · exact List.mem_append_left _ (h.settled other hother hne)
        · rw [List.mem_singleton.1 hother]
          simp

lemma visited_duplicates (ordered : List BundlePackage) (rowActions : RowActions) :
    DuplicatesVisited ordered ordered (applyDuplicateDecisions ordered Dict.empty rowActions) := by
  have hfold : ∀ visited : List BundlePackage, DuplicatesVisited ordered visited
      (visited.foldl (duplicateStep ordered) ⟨Dict.empty, rowActions, []⟩) := by
    intro visited
    induction visited using List.reverseRecOn with
    | nil =>
        refine ⟨?_, ?_, ?_⟩
        · intro key decision hget
          cases hget
        · exact fun package hpackage => absurd hpackage List.not_mem_nil
        · exact fun package hpackage => absurd hpackage List.not_mem_nil
    | append_singleton visited package ih =>
        rw [List.foldl_append]
        exact visited_duplicateStep package ih
  exact hfold ordered

lemma members_componentOf {primary : BundlePackage} {remaining : List BundlePackage}
    {consumed : List (PackageGroupKey × String)} {rowActions : RowActions} :
    (componentOf primary remaining consumed rowActions).members ⊆ remaining := by
  refine @List.foldlRecOn _ _ (fun (component : Component) => component.members ⊆ remaining)
    remaining _ _ (List.nil_subset _) ?_
  intro component hmembers candidate hcandidate
  unfold candidateStep
  split_ifs
  · exact hmembers
  · cases evaluateMerge primary candidate component.hashes component.logicalHashes with
    | none => exact hmembers
    | some plan => exact List.append_subset.2 ⟨hmembers, by simpa using hcandidate⟩

/-- Merges decide about packages that are no duplicates. -/
lemma decided_merges {ordered remaining : List BundlePackage} {decisions : Decisions}
    (rowActions : RowActions) (hsub : remaining ⊆ ordered)
    (hother : ∀ package ∈ remaining, ∀ other ∈ ordered, supersets ordered other ≠ [] →
      other.packageKey ≠ package.packageKey)
    (h : DuplicatesDecided ordered decisions) :
    DuplicatesDecided ordered (applyMergeDecisions remaining decisions rowActions).decisions := by
  refine @List.foldlRecOn _ _
    (fun (state : Resolution) => DuplicatesDecided ordered state.decisions) remaining _ _ h ?_
  intro state hstate primary hprimary
  unfold primaryStep
  split_ifs with hsettled
  · exact hstate
  · dsimp only
    split_ifs with hmembers
    · exact hstate
    · refine List.foldlRecOn _ _ (decided_set hstate (hsub hprimary) (hother primary hprimary)) ?_
      intro decisions hdecisions member hmember
      have hremaining := members_componentOf hmember
      exact decided_set hdecisions (hsub hremaining) (hother member hremaining)

lemma decided_reviews {ordered : List BundlePackage} {decisions : Decisions}
    (h : DuplicatesDecided ordered decisions) :
    DuplicatesDecided ordered
      (applyOverlapReviewDecisions ordered (applyDefaultDecisions ordered decisions)) := by
  have hoverlap : ∀ (package related : BundlePackage) (decision : PackageDecision),
      decision.packageStatus.isDuplicate = true →
        (overlapDecision package related decision).packageStatus.isDuplicate = true := by
    intro package related decision hdup
    unfold overlapDecision
    split_ifs with hprimary
    · rw [hprimary] at hdup
      cases hdup
    · exact hdup
  refine List.foldlRecOn _ _ ?_ ?_
  · refine List.foldlRecOn _ _ h ?_
    intro decisions hdecisions package hpackage
    exact decided_upsert hdecisions hpackage (fun _ hdup => hdup)
  · intro decisions hdecisions pair hpair
    rcases mem_overlapPairs hpair with ⟨hleft, hright⟩
    exact decided_upsert
      (decided_upsert hdecisions (List.mem_filter.1 hleft).1 (fun _ => hoverlap _ _ _))
      (List.mem_filter.1 hright).1 (fun _ => hoverlap _ _ _)

theorem decided_resolveGroup (packages : List BundlePackage) :
    DuplicatesDecided (newestFirst packages) (resolveGroup packages).1 := by
  have hvisited : ∀ rowActions, DuplicatesVisited (newestFirst packages) (newestFirst packages)
      (applyDuplicateDecisions (newestFirst packages) Dict.empty rowActions) :=
    fun rowActions => visited_duplicates (newestFirst packages) rowActions
  refine decided_reviews (decided_merges _ (fun _ h => (List.mem_filter.1 h).1) ?_
    ⟨(hvisited _).known, (hvisited _).decided⟩)
  intro package hpackage other hother hsup hkey
  have hnot := of_decide_eq_true (List.mem_filter.1 hpackage).2
  exact hnot (hkey ▸ (hvisited _).settled other hother hsup)

/-! ## Actions of rows -/

/-- Every row of the packages has an action. -/
def RowsActed (packages : List BundlePackage) (rowActions : RowActions) : Prop :=
  ∀ package ∈ packages, ∀ row ∈ package.rows, (rowActions.get? row.2).isSome = true

lemma acted_upsert {packages : List BundlePackage} {rowActions : RowActions} {index : Nat}
    {f : Option RowAction → RowAction} (h : RowsActed packages rowActions) :
    RowsActed packages (rowActions.upsert index f) := by
  intro package hpackage row hrow
  rw [Dict.get?_upsert]
  split_ifs
  · rfl
  · exact h package hpackage row hrow

lemma acted_foldl_setRowStatus {packages : List BundlePackage} {rowActions : RowActions}
    {status : PackageRowStatus} {rows : List Row} (h : RowsActed packages rowActions) :
    RowsActed packages (rows.foldl (setRowStatus status) rowActions) :=
  List.foldlRecOn _ _ h (fun _ hactions _ _ => acted_upsert hactions)

lemma acted_duplicates {packages ordered : List BundlePackage} {rowActions : RowActions}
    (h : RowsActed packages rowActions) :
    RowsActed packages (applyDuplicateDecisions ordered Dict.empty rowActions).rowActions := by
  refine @List.foldlRecOn _ _ (fun (state : Resolution) => RowsActed packages state.rowActions)
    ordered _ _ h ?_
  intro state hstate package _
  unfold duplicateStep
  cases newestFirst (supersets ordered package) with
  | nil => exact hstate
  | cons primary rest => exact acted_foldl_setRowStatus hstate

lemma acted_componentOf {packages remaining : List BundlePackage} {primary : BundlePackage}
    {consumed : List (PackageGroupKey × String)} {rowActions : RowActions}
    (h : RowsActed packages rowActions) :
    RowsActed packages (componentOf primary remaining consumed rowActions).rowActions := by
  refine @List.foldlRecOn _ _
    (fun (component : Component) => RowsActed packages component.rowActions) remaining _ _ h ?_
  intro component hcomponent candidate _
  unfold candidateStep
  split_ifs
  · exact hcomponent
  · cases evaluateMerge primary candidate component.hashes component.logicalHashes with
    | none => exact hcomponent
    | some plan =>
        refine acted_foldl_setRowStatus (List.foldlRecOn _ _ hcomponent ?_)
        exact fun _ hactions _ _ => acted_upsert hactions

lemma acted_resolveGroup (packages : List BundlePackage) :
    RowsActed packages (resolveGroup packages).2 := by
  refine @List.foldlRecOn _ _ (fun (state : Resolution) => RowsActed packages state.rowActions)
    _ _ _ (acted_duplicates ?_) ?_
  · intro package hpackage row hrow
    have hkeys : row.2 ∈ (Dict.ofList (packages.flatMap (fun package => package.rows.map
        (fun row => (row.2, (⟨.packageKeep, row.1.bundleId⟩ : RowAction)))))).keys := by
      rw [Dict.mem_keys_ofList, List.map_flatMap]
      refine List.mem_flatMap.2 ⟨package, hpackage, ?_⟩
      rw [List.map_map]
      exact List.mem_map.2 ⟨row, hrow, rfl⟩
    rw [Option.isSome_iff_ne_none]
    exact fun hnone => (Dict.get?_eq_none_iff _ _).1 hnone hkeys
  · intro state hstate primary _
    unfold primaryStep
    split_ifs
    · exact hstate
    · exact acted_componentOf hstate

/-! ## Skipped rows -/

/-- The packages of the group of a row. -/
def groupOf (items : List PlannedPackageItem) (item : PlannedPackageItem) : List BundlePackage :=
  (packagesOf items).filter (fun package => package.groupKey = groupKeyOf item)

/-- All contents of the row's package occur in a package ranked before it. -/
def Included (items : List PlannedPackageItem) (item : PlannedPackageItem) : Prop :=
  ∃ package ∈ groupOf items item, package.packageKey = itemKey item ∧
    supersets (newestFirst (groupOf items item)) package ≠ []

/-- The rules turned the row to skip, as a row of a duplicate package. -/
def SkippedAsDuplicate (item item' : PlannedPackageItem) : Prop :=
  item.action ≠ "skip" ∧ item'.action = "skip" ∧ item'.placementStatus = "package_duplicate_skip"

/-- The rules left the planned action as it was. -/
def LeftAsPlanned (item item' : PlannedPackageItem) : Prop :=
  item'.action = item.action ∧ item'.placementStatus = item.placementStatus

/-- The rules skip the row because a package with a later marker takes its place, and another
content stands under its logical name. -/
def SupersededByNewer (items : List PlannedPackageItem) (item item' : PlannedPackageItem) : Prop :=
  item'.placementStatus = "package_merge_superseded_skip" ∧
    (∃ primary ∈ packagesOf items, ∃ candidate ∈ packagesOf items,
      primary.groupKey = groupKeyOf item ∧ candidate.packageKey = itemKey item ∧
        canSupersede primary candidate = true) ∧
    ∃ newer ∈ items, newer.category = "source_raw" ∧ groupKeyOf newer = groupKeyOf item ∧
      logicalKey newer.bundleRelativePath = logicalKey item.bundleRelativePath ∧
        newer.sha256 ≠ item.sha256

lemma superseded_row {items : List PlannedPackageItem} {groupKey : PackageGroupKey}
    {packages : List BundlePackage} {index : Nat} {item : PlannedPackageItem}
    (hpackages : packages = (packagesOf items).filter (fun package => package.groupKey = groupKey))
    (hitem : items[index]? = some item) (h : Superseded (newestFirst packages) index) :
    (∃ primary ∈ packagesOf items, ∃ candidate ∈ packagesOf items,
      primary.groupKey = groupKeyOf item ∧ candidate.packageKey = itemKey item ∧
        canSupersede primary candidate = true) ∧
    ∃ newer ∈ items, newer.category = "source_raw" ∧ groupKeyOf newer = groupKeyOf item ∧
      logicalKey newer.bundleRelativePath = logicalKey item.bundleRelativePath ∧
        newer.sha256 ≠ item.sha256 := by
  have hmem : ∀ package ∈ newestFirst packages,
      package ∈ packagesOf items ∧ package.groupKey = groupKey := by
    intro package hpackage
    have hfilter := mem_sortedOn.1 hpackage
    rw [hpackages] at hfilter
    simpa using List.mem_filter.1 hfilter
  rcases h with ⟨primary, hprimary, candidate, hcandidate, hnewer, row, hrow, rfl, package,
    hpackage, newer, hnew, hname, hne⟩
  rcases hmem primary hprimary with ⟨hprimary, hprimarykey⟩
  rcases hmem candidate hcandidate with ⟨hcandidate, hcandidatekey⟩
  rcases hmem package hpackage with ⟨hpackage, hpackagekey⟩
  rcases (mem_rows_iff hcandidate).1 (candidate.materialRows_subset hrow) with ⟨hat, _, hkey⟩
  rcases (mem_rows_iff hpackage).1 (package.materialRows_subset hnew) with ⟨hat', hraw, hkey'⟩
  have hown : row.1 = item := Option.some.inj (hat.symm.trans hitem)
  have hgroup : groupKeyOf item = groupKey := by
    rw [← hown, ← hcandidatekey]
    exact congrArg Prod.fst hkey
  rw [hown] at hkey hname hne
  refine ⟨⟨primary, hprimary, candidate, hcandidate, hprimarykey.trans hgroup.symm, hkey.symm,
    hnewer⟩, newer.1, List.mem_of_getElem? hat', hraw, ?_, hname, hne⟩
  exact (congrArg Prod.fst hkey').trans (hpackagekey.trans hgroup.symm)

lemma mem_groupOf {items : List PlannedPackageItem} {item : PlannedPackageItem}
    {package : BundlePackage} : package ∈ groupOf items item ↔
      package ∈ packagesOf items ∧ package.groupKey = groupKeyOf item := by
  simp [groupOf]

lemma mem_newestFirst {packages : List BundlePackage} {package : BundlePackage} :
    package ∈ newestFirst packages ↔ package ∈ packages := mem_sortedOn

/-- The group that decides about a row is the group of the row. -/
lemma group_of_decision {items : List PlannedPackageItem} {item : PlannedPackageItem}
    {packages : List BundlePackage} {decision : PackageDecision}
    (hpackages : packages ∈ (packagesByGroup items).values)
    (hdecision : (resolveGroup packages).1.get? (itemKey item) = some decision) :
    packages = groupOf items item := by
  rcases mem_group hpackages with ⟨groupKey, hgroup⟩
  rcases (decided_resolveGroup packages).known _ _ hdecision with ⟨package, hordered, hkey⟩
  have hmem := mem_newestFirst.1 hordered
  rw [hgroup] at hmem
  have hgroupKey : package.groupKey = groupKey := by simpa using (List.mem_filter.1 hmem).2
  have hown : package.groupKey = groupKeyOf item := congrArg Prod.fst hkey
  rw [hgroup, groupOf, ← hgroupKey, hown]

/-- A duplicate's decision about a row is about a row of an included package. -/
lemma included_of_duplicate {items : List PlannedPackageItem} {item : PlannedPackageItem}
    {decision : PackageDecision}
    (hdecision : (resolveGroup (groupOf items item)).1.get? (itemKey item) = some decision)
    (hdup : decision.packageStatus.isDuplicate = true) : Included items item := by
  rcases justified_resolveGroup _ _ _ hdecision hdup with ⟨package, hordered, hkey, hsup⟩
  exact ⟨package, mem_newestFirst.1 hordered, hkey, hsup⟩

/-- Rows of an included package are replaced by a duplicate's decision. -/
lemma replaced_of_included {items : List PlannedPackageItem} {index : Nat}
    {item item' : PlannedPackageItem} (hitem : items[index]? = some item)
    (hitem' : (applyPackageRules items)[index]? = some item')
    (hraw : item.category = "source_raw") (h : Included items item) :
    ∃ decision action, decision.packageStatus.isDuplicate = true ∧
      item' = replaceItem item decision action := by
  rcases h with ⟨package, hgroup, hkey, hsup⟩
  rcases mem_groupOf.1 hgroup with ⟨hpackage, hgroupKey⟩
  rcases (decided_resolveGroup (groupOf items item)).decided package (mem_newestFirst.2 hgroup)
    hsup with ⟨decision, hdecision, hdup⟩
  rw [hkey] at hdecision
  have hrow : (item, index) ∈ package.rows :=
    (mem_rows_iff hpackage).2 ⟨hitem, hraw, hkey.symm⟩
  rcases Option.isSome_iff_exists.1
    (acted_resolveGroup (groupOf items item) package hgroup (item, index) hrow) with
    ⟨action, haction⟩
  have hvalues : groupOf items item ∈ (packagesByGroup items).values := by
    refine List.mem_map.2 ⟨(groupKeyOf item, groupOf items item), ?_, rfl⟩
    exact Dict.mem_entries_group_iff.2 ⟨List.ne_nil_of_mem hgroup, rfl⟩
  have hupdated : index ∈ (packageUpdates items).keys := by
    rw [packageUpdates, Dict.mem_keys_ofList]
    refine List.mem_map.2 ⟨(index, replaceItem item decision action), ?_, rfl⟩
    refine List.mem_flatMap.2 ⟨groupOf items item, hvalues, ?_⟩
    refine List.mem_filterMap.2 ⟨(item, index), List.mem_zipIdx_iff_getElem?.2 hitem, ?_⟩
    rw [updateOf, hdecision, haction]
  rw [getElem?_applyPackageRules hitem, Option.some_inj] at hitem'
  cases hget : (packageUpdates items).get? index with
  | none => exact absurd hupdated ((Dict.get?_eq_none_iff _ _).1 hget)
  | some replacement =>
      rw [hget, Option.getD_some] at hitem'
      rcases update_at hitem hget with ⟨packages, hpackages, decision', action', hdecision', _,
        hreplaced⟩
      rw [group_of_decision hpackages hdecision', hdecision] at hdecision'
      exact ⟨decision', action', Option.some.inj hdecision' ▸ hdup, hitem'.symm.trans hreplaced⟩

/-- The rules skip as duplicates exactly the planned rows of included packages. -/
lemma skippedAsDuplicate_iff {items : List PlannedPackageItem} {index : Nat}
    {item item' : PlannedPackageItem} (hitem : items[index]? = some item)
    (hitem' : (applyPackageRules items)[index]? = some item')
    (hraw : item.category = "source_raw") :
    SkippedAsDuplicate item item' ↔ item.action ≠ "skip" ∧ Included items item := by
  constructor
  · rintro ⟨hplanned, haction, hplacement⟩
    refine ⟨hplanned, ?_⟩
    rcases rules_at hitem hitem' with rfl | ⟨packages, hpackages, decision, action, hdecision, _,
      rfl⟩
    · exact absurd haction hplanned
    rw [group_of_decision hpackages hdecision] at hdecision
    refine included_of_duplicate hdecision ?_
    by_contra hnot
    simp only [replaceItem, if_neg hnot] at haction hplacement
    split_ifs at haction hplacement
    · simp at hplacement
    · exact hplanned haction
  · rintro ⟨hplanned, hincluded⟩
    rcases replaced_of_included hitem hitem' hraw hincluded with ⟨decision, action, hdup, rfl⟩
    refine ⟨hplanned, ?_, ?_⟩
    · simp [replaceItem, hdup]
    · simp [replaceItem, hdup]

/-- Rows of other packages are left as planned or superseded in a merge. -/
lemma left_or_superseded {items : List PlannedPackageItem} {index : Nat}
    {item item' : PlannedPackageItem} (hitem : items[index]? = some item)
    (hitem' : (applyPackageRules items)[index]? = some item') (h : ¬Included items item) :
    LeftAsPlanned item item' ∨ SupersededByNewer items item item' := by
  rcases rules_at hitem hitem' with rfl | ⟨packages, hpackages, decision, action, hdecision,
    haction, rfl⟩
  · exact Or.inl ⟨rfl, rfl⟩
  have hgroup := group_of_decision hpackages hdecision
  rw [hgroup] at hdecision haction
  have hkept : decision.packageStatus.isDuplicate = false := by
    by_contra hdup
    exact h (included_of_duplicate hdecision (by simpa using hdup))
  by_cases hstatus : action.packageRowStatus = .packageMergeSupersededSkip
  · refine Or.inr ⟨?_, superseded_row rfl hitem
      (superseded_resolveGroup (groupOf items item) _ _ haction hstatus)⟩
    simp [replaceItem, hkept, hstatus]
  · refine Or.inl ⟨?_, ?_⟩
    · simp [replaceItem, hkept, hstatus]
    · simp [replaceItem, hkept, hstatus]

/-! ## Carriers -/

/-- The row was planned for copy, and is so still or was superseded by a newer file of its name. -/
def Carries (items : List PlannedPackageItem) (carrier carrier' : PlannedPackageItem) : Prop :=
  carrier.action ∈ ["copy", "extract_copy"] ∧
    (LeftAsPlanned carrier carrier' ∨ SupersededByNewer items carrier carrier')

/-- Every content that the rules skip as a duplicate is carried by another row of the same source and
capture. -/
def DuplicatesCarried (items : List PlannedPackageItem) : Prop :=
  ∀ (index : Nat) (item item' : PlannedPackageItem), items[index]? = some item →
    (applyPackageRules items)[index]? = some item' → item.category = "source_raw" →
      SkippedAsDuplicate item item' →
        ∃ index' carrier carrier', index' ≠ index ∧ items[index']? = some carrier ∧
          (applyPackageRules items)[index']? = some carrier' ∧ carrier.category = "source_raw" ∧
            groupKeyOf carrier = groupKeyOf item ∧ carrier.sha256 = item.sha256 ∧
              Carries items carrier carrier'

/-- A row of a package that is not included holds the content, and it is planned for copy. -/
def HeldForCopy (items : List PlannedPackageItem) (item : PlannedPackageItem) : Prop :=
  ∃ holder ∈ items, holder.category = "source_raw" ∧ groupKeyOf holder = groupKeyOf item ∧
    holder.sha256 = item.sha256 ∧ ¬Included items holder ∧
      holder.action ∈ ["copy", "extract_copy"]

lemma not_carries_of_included {items : List PlannedPackageItem} {index : Nat}
    {item item' : PlannedPackageItem} (hitem : items[index]? = some item)
    (hitem' : (applyPackageRules items)[index]? = some item')
    (hraw : item.category = "source_raw") (h : Included items item) :
    ¬Carries items item item' := by
  rintro ⟨hcopy, hkept⟩
  have hplanned : item.action ≠ "skip" := by
    intro hskip
    rw [hskip] at hcopy
    exact absurd hcopy (by decide)
  rcases (skippedAsDuplicate_iff hitem hitem' hraw).2 ⟨hplanned, h⟩ with ⟨_, haction, hplacement⟩
  rcases hkept with ⟨hsame, _⟩ | ⟨hsuperseded, _⟩
  · exact hplanned (hsame.symm.trans haction)
  · rw [hsuperseded] at hplacement
    exact absurd hplacement (by decide)

/-- The rules keep the contents of duplicates exactly where each planned row of an included package has
its content in a row planned for copy of a package that is not. -/
theorem duplicates_carried_iff (items : List PlannedPackageItem) :
    DuplicatesCarried items ↔
      ∀ item ∈ items, item.category = "source_raw" → item.action ≠ "skip" → Included items item →
        HeldForCopy items item := by
  have hruled : ∀ {index : Nat} {item : PlannedPackageItem}, items[index]? = some item →
      ∃ item', (applyPackageRules items)[index]? = some item' :=
    fun hitem => ⟨_, getElem?_applyPackageRules hitem⟩
  constructor
  · intro h item hmem hraw hplanned hincluded
    rcases List.getElem?_of_mem hmem with ⟨index, hitem⟩
    rcases hruled hitem with ⟨item', hitem'⟩
    rcases h index item item' hitem hitem' hraw
      ((skippedAsDuplicate_iff hitem hitem' hraw).2 ⟨hplanned, hincluded⟩) with
      ⟨index', carrier, carrier', _, hat, hat', hcarrierraw, hgroup, hsha, hcarries⟩
    refine ⟨carrier, List.mem_of_getElem? hat, hcarrierraw, hgroup, hsha, ?_, hcarries.1⟩
    exact fun hcarrier => not_carries_of_included hat hat' hcarrierraw hcarrier hcarries
  · intro h index item item' hitem hitem' hraw hskipped
    rcases (skippedAsDuplicate_iff hitem hitem' hraw).1 hskipped with ⟨hplanned, hincluded⟩
    rcases h item (List.mem_of_getElem? hitem) hraw hplanned hincluded with
      ⟨holder, hmem, hholderraw, hgroup, hsha, hother, hcopy⟩
    rcases List.getElem?_of_mem hmem with ⟨index', hat⟩
    rcases hruled hat with ⟨holder', hat'⟩
    refine ⟨index', holder, holder', ?_, hat, hat', hholderraw, hgroup, hsha, hcopy,
      left_or_superseded hat hat' hother⟩
    rintro rfl
    rw [hitem] at hat
    exact hother (Option.some.inj hat ▸ hincluded)

/-- The row of a content: not an archive next to its own members. -/
def ContentRow (items : List PlannedPackageItem) (item : PlannedPackageItem) : Prop :=
  isArchiveRow item = false ∨ ∀ other ∈ items, other.category = "source_raw" →
    itemKey other = itemKey item → isArchiveRow other = true

/-- A content that is no archive next to its own members stands in a package that is not included, if
only in blocked rows. -/
theorem holder_of_content {items : List PlannedPackageItem} {item : PlannedPackageItem}
    (hmem : item ∈ items) (hraw : item.category = "source_raw") (hcontent : ContentRow items item)
    (h : Included items item) :
    ∃ holder ∈ items, holder.category = "source_raw" ∧ groupKeyOf holder = groupKeyOf item ∧
      holder.sha256 = item.sha256 ∧ ¬Included items holder := by
  rcases List.getElem?_of_mem hmem with ⟨index, hitem⟩
  rcases h with ⟨package, hgroup, hkey, _⟩
  rcases exists_kept_superset (mem_newestFirst.2 hgroup) with ⟨kept, hordered, hnil, hle⟩
  rcases mem_groupOf.1 hgroup with ⟨hpackage, _⟩
  rcases mem_groupOf.1 (mem_newestFirst.1 hordered) with ⟨hkept, hkeptgroup⟩
  -- the row's content is one of the kept package's
  have hmaterial : (item, index) ∈ package.materialRows := by
    rw [materialRows_of_mem hpackage, mem_materialRows]
    refine ⟨(mem_rows_iff hpackage).2 ⟨hitem, hraw, hkey.symm⟩, ?_⟩
    refine hcontent.imp_right ?_
    intro hall other hother
    rcases (mem_rows_iff hpackage).1 hother with ⟨hat, hotherraw, hotherkey⟩
    exact hall other.1 (List.mem_of_getElem? hat) hotherraw (hotherkey.trans hkey)
  have hhash : item.sha256 ∈ kept.materialHashes := by
    refine Multiset.mem_of_le hle ?_
    rw [package.materialHashes_eq]
    exact Multiset.mem_coe.2 (List.mem_map.2 ⟨_, hmaterial, rfl⟩)
  rw [kept.materialHashes_eq] at hhash
  rcases List.mem_map.1 (Multiset.mem_coe.1 hhash) with ⟨⟨holder, index'⟩, hrow, hsha⟩
  rcases (mem_rows_iff hkept).1 (kept.materialRows_subset hrow) with ⟨hat, hholderraw, hholderkey⟩
  have hholdergroup : groupKeyOf holder = groupKeyOf item :=
    (congrArg Prod.fst hholderkey).trans hkeptgroup
  refine ⟨holder, List.mem_of_getElem? hat, hholderraw, hholdergroup, hsha, ?_⟩
  rintro ⟨other, hother, hotherkey, hsup⟩
  have hsame : other = kept :=
    eq_of_packageKey (mem_groupOf.1 hother).1 hkept (hotherkey.trans hholderkey)
  have hgroups : groupOf items holder = groupOf items item := by
    rw [groupOf, groupOf, hholdergroup]
  rw [hsame, hgroups] at hsup
  exact hsup hnil

/-! ## A blocked superset -/

def packageRow (bundleId bundleRelativePath sha256 action : String) : PlannedPackageItem where
  path := "/incoming/" ++ bundleId ++ "/" ++ bundleRelativePath
  relativePath := bundleRelativePath
  archiveSourcePath := ""
  sourceFolder := "coinbase"
  captureLabel := "capture-a"
  category := "source_raw"
  action := action
  sha256 := sha256
  bundleId := bundleId
  bundleRelativePath := bundleRelativePath
  scopeTokens := []
  decision :=
    { packageStatus := .primary
      packagePrimaryBundleId := bundleId
      packageRelatedBundles := ""
      packageCycleStatus := .blank
      packageScopeStatus := .blank
      packageDecisionReason := "" }
  packageRowStatus := .packageKeep
  placementStatus := "planned_copy"

/-- Two packages with the same file, which is blocked in the one that ranks first. -/
def blockedSuperset : List PlannedPackageItem :=
  [packageRow "a" "trades.csv" "trades" "copy", packageRow "b" "trades.csv" "trades" "skip"]

/-- The planned row is skipped as a duplicate of the blocked one. -/
theorem blocked_content_lost : ¬∀ items : List PlannedPackageItem, DuplicatesCarried items := by
  intro h
  have hskipped : SkippedAsDuplicate (blockedSuperset[0])
      ((applyPackageRules blockedSuperset).headD (blockedSuperset[0])) := by
    unfold SkippedAsDuplicate
    decide +kernel
  rcases h blockedSuperset 0 _ _ rfl rfl rfl hskipped with
    ⟨index', carrier, carrier', hne, hcarrier, _, _, _, _, hcopy, _⟩
  have hblocked : ∀ row ∈ blockedSuperset.zipIdx, row.2 = 0 ∨ row.1.action = "skip" := by
    decide
  rcases hblocked (carrier, index') (List.mem_zipIdx_iff_getElem?.2 hcarrier) with hfirst | hskip
  · exact hne hfirst
  · rw [hskip] at hcopy
    exact absurd hcopy (by decide)

end Intake
end Tallylot
