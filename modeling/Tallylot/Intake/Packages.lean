import Tallylot.Intake.Markers

/-!
# Packages — duplicates, merges and reviews

The packages of one source and capture are ranked from the newest on.  A package whose contents all
occur in a package before it is a duplicate; the others are merged into one another where the export
cycle and scope allow, and what is left is reviewed.  `applyPackageRules` does so for every group
and rewrites the rows.
-/

namespace Tallylot
namespace Intake

open Data

/-- The decisions under the keys of the packages. -/
abbrev Decisions := Dict (PackageGroupKey × String) PackageDecision

structure RowAction where
  packageRowStatus : PackageRowStatus
  effectiveBundleId : String
  deriving DecidableEq, Repr

/-- What happens to the row of an index. -/
abbrev RowActions := Dict Nat RowAction

/-- `row_actions[index]["package_row_status"] = status` -/
def setRowStatus (status : PackageRowStatus) (rowActions : RowActions) (row : Row) : RowActions :=
  rowActions.upsert row.2 (fun old =>
    { packageRowStatus := status
      effectiveBundleId := (old.map RowAction.effectiveBundleId).getD row.1.bundleId })

/-! ## Duplicates -/

def counterSubset (left right : Multiset String) : Bool :=
  decide (∀ key ∈ left, left.count key ≤ right.count key)

def orderedRank (ordered : List BundlePackage) : Dict String Nat :=
  Dict.ofList (ordered.zipIdx.map (fun ranked => (ranked.1.bundleId, ranked.2)))

/-- The rank of a package among the ordered ones. -/
def rankOf (ordered : List BundlePackage) (package : BundlePackage) : Nat :=
  ((orderedRank ordered).get? package.bundleId).getD 0

def supersets (ordered : List BundlePackage) (package : BundlePackage) : List BundlePackage :=
  ordered.filter (fun candidate =>
    candidate.bundleId ≠ package.bundleId ∧ rankOf ordered candidate < rankOf ordered package ∧
      counterSubset package.materialHashes candidate.materialHashes)

/-- `sorted(packages, key=package_sort_key, reverse=True)` -/
def newestFirst (packages : List BundlePackage) : List BundlePackage :=
  sortedOn (fun package => OrderDual.toDual (packageSortKey package)) packages

def duplicateDecision (package primary : BundlePackage) : PackageDecision where
  packageStatus :=
    if package.materialHashes = primary.materialHashes then .duplicatePackageIdentical
    else .duplicatePackageSubset
  packagePrimaryBundleId := primary.bundleId
  packageRelatedBundles := primary.bundleId
  packageCycleStatus := packageCycleStatus package
  packageScopeStatus := scopeStatus package primary
  packageDecisionReason := "deterministic superset duplicate"

/-- The decisions and row actions so far, and the packages that they settle. -/
structure Resolution where
  decisions : Decisions
  rowActions : RowActions
  settled : List (PackageGroupKey × String)

def duplicateStep (ordered : List BundlePackage) (state : Resolution) (package : BundlePackage) :
    Resolution :=
  match newestFirst (supersets ordered package) with
  | [] => state
  | primary :: _ =>
      { decisions := state.decisions.set package.packageKey (duplicateDecision package primary)
        rowActions := package.rows.foldl (setRowStatus .packageDuplicateSkip) state.rowActions
        settled := state.settled ++ [package.packageKey] }

def applyDuplicateDecisions (ordered : List BundlePackage) (decisions : Decisions)
    (rowActions : RowActions) : Resolution :=
  ordered.foldl (duplicateStep ordered) ⟨decisions, rowActions, []⟩

/-! ## Merges -/

def canSupersede (primary candidate : BundlePackage) : Bool :=
  match primary.latestMarker, candidate.latestMarker with
  | some marker, some marker' => sameExportCycle primary candidate && marker' < marker
  | _, _ => false

/-- What of a candidate a merge supersedes and what it keeps. -/
structure MergePlan where
  superseded : List Row
  keptHashes : Multiset String
  keptLogicalHashes : Dict String (Multiset String)

/-- The contents that a merged component has under each logical name. -/
abbrev LogicalHashes := Dict String (Multiset String)

def addHashes (hashes : LogicalHashes) (entry : String × Multiset String) : LogicalHashes :=
  hashes.upsert entry.1 (fun old => old.getD 0 + entry.2)

/-- One logical name of the candidate; none where its contents contradict the component's. -/
def mergeStep (primary candidate : BundlePackage) (component : LogicalHashes) (plan : MergePlan)
    (entry : String × Multiset String) : Option MergePlan :=
  let existing := (component.get? entry.1).getD 0
  let extra := entry.2.filter (fun hash => hash ∉ existing)
  if extra ≠ 0 ∧ existing ≠ 0 then
    if canSupersede primary candidate then
      some { plan with
        superseded := plan.superseded ++
          ((candidate.logicalRows.get? entry.1).getD []).filter (fun row => row.1.sha256 ∈ extra) }
    else none
  else
    some { plan with
      keptHashes := plan.keptHashes + entry.2
      keptLogicalHashes := addHashes plan.keptLogicalHashes entry }

def evaluateMerge (primary candidate : BundlePackage) (componentHashes : Multiset String)
    (componentLogicalHashes : LogicalHashes) : Option MergePlan :=
  if sameExportCycle primary candidate && compatibleScope primary candidate &&
      decide (candidate.materialHashes ∩ componentHashes ≠ 0) then
    match candidate.logicalHashes.foldlM (mergeStep primary candidate componentLogicalHashes)
        ⟨[], 0, Dict.empty⟩ with
    | some plan => if plan.keptHashes - componentHashes ≠ 0 then some plan else none
    | none => none
  else none

def applyMergeMemberRowActions (primaryBundleId : String) (candidate : BundlePackage)
    (superseded : List Row) (rowActions : RowActions) : RowActions :=
  superseded.foldl (setRowStatus .packageMergeSupersededSkip)
    (candidate.rows.foldl
      (fun actions row => actions.set row.2 ⟨.packageMergeIntoPrimary, primaryBundleId⟩)
      rowActions)

/-- A primary package with the members merged into it so far. -/
structure Component where
  hashes : Multiset String
  logicalHashes : LogicalHashes
  members : List BundlePackage
  consumed : List (PackageGroupKey × String)
  rowActions : RowActions

def candidateStep (primary : BundlePackage) (component : Component) (candidate : BundlePackage) :
    Component :=
  if candidate.packageKey ∈ component.consumed ∨ candidate.bundleId = primary.bundleId then
    component
  else
    match evaluateMerge primary candidate component.hashes component.logicalHashes with
    | none => component
    | some plan =>
        { hashes := component.hashes + plan.keptHashes
          logicalHashes := plan.keptLogicalHashes.entries.foldl addHashes component.logicalHashes
          members := component.members ++ [candidate]
          consumed := component.consumed ++ [candidate.packageKey]
          rowActions := applyMergeMemberRowActions primary.bundleId candidate plan.superseded
            component.rowActions }

def componentOf (primary : BundlePackage) (remaining : List BundlePackage)
    (consumed : List (PackageGroupKey × String)) (rowActions : RowActions) : Component :=
  remaining.foldl (candidateStep primary)
    { hashes := primary.materialHashes
      logicalHashes := Dict.ofList primary.logicalHashes
      members := []
      consumed := consumed ++ [primary.packageKey]
      rowActions := rowActions }

def mergePrimaryDecision (primary : BundlePackage) (members : List BundlePackage) :
    PackageDecision where
  packageStatus := .mergePrimary
  packagePrimaryBundleId := primary.bundleId
  packageRelatedBundles :=
    "; ".intercalate (sortedOn id (members.map BundlePackage.bundleId))
  packageCycleStatus := cycleDayStatus primary
  packageScopeStatus := if primary.scopeTokens ≠ ∅ then .matchedScope else .scopeUnknown
  packageDecisionReason := "same-cycle additive package merge"

def mergeMemberDecision (primary member : BundlePackage) : PackageDecision where
  packageStatus := .mergeMember
  packagePrimaryBundleId := primary.bundleId
  packageRelatedBundles := primary.bundleId
  packageCycleStatus := cycleDayStatus member
  packageScopeStatus := scopeStatus member primary
  packageDecisionReason := "same-cycle additive package merge member"

def primaryStep (remaining : List BundlePackage) (state : Resolution) (primary : BundlePackage) :
    Resolution :=
  if primary.packageKey ∈ state.settled then state
  else
    let component := componentOf primary remaining state.settled state.rowActions
    { decisions :=
        if component.members = [] then state.decisions
        else
          component.members.foldl
            (fun decisions member =>
              decisions.set member.packageKey (mergeMemberDecision primary member))
            (state.decisions.set primary.packageKey
              (mergePrimaryDecision primary component.members))
      rowActions := component.rowActions
      settled := component.consumed }

def applyMergeDecisions (remaining : List BundlePackage) (decisions : Decisions)
    (rowActions : RowActions) : Resolution :=
  remaining.foldl (primaryStep remaining) ⟨decisions, rowActions, []⟩

/-! ## Reviews -/

/-- `"scope_unknown" if not package.scope_tokens else "single_scope_present"` -/
def ownScopeStatus (package : BundlePackage) : ScopeStatus :=
  if package.scopeTokens = ∅ then .scopeUnknown else .singleScopePresent

def defaultDecision (package : BundlePackage) : PackageDecision :=
  if package.mixedCycle then
    { packageStatus := .mixedCycleReview
      packagePrimaryBundleId := package.bundleId
      packageRelatedBundles := ""
      packageCycleStatus := .mixedCycle
      packageScopeStatus := ownScopeStatus package
      packageDecisionReason := "bundle contains files from multiple export-cycle days" }
  else
    { packageStatus := .primary
      packagePrimaryBundleId := package.bundleId
      packageRelatedBundles := ""
      packageCycleStatus := cycleDayStatus package
      packageScopeStatus := ownScopeStatus package
      packageDecisionReason := "kept primary package" }

def applyDefaultDecisions (ordered : List BundlePackage) (decisions : Decisions) : Decisions :=
  ordered.foldl
    (fun decisions package =>
      decisions.upsert package.packageKey (fun old => old.getD (defaultDecision package)))
    decisions

def mergeRelatedBundles (existing bundleId : String) : String :=
  let values := ((splitText ';' existing).map strip).filter (fun item => item ≠ "")
  "; ".intercalate (sortedOn id (values ++ [bundleId]).dedup)

def overlapDecision (package related : BundlePackage) (current : PackageDecision) :
    PackageDecision :=
  if current.packageStatus = .primary then
    { packageStatus := .overlapPartialReview
      packagePrimaryBundleId := package.bundleId
      packageRelatedBundles := related.bundleId
      packageCycleStatus := cycleDayStatus package
      packageScopeStatus := scopeStatus package related
      packageDecisionReason := overlapReason (scopeStatus package related) }
  else
    { current with
      packageRelatedBundles :=
        mergeRelatedBundles current.packageRelatedBundles related.bundleId }

def setOverlapDecision (package related : BundlePackage) (decisions : Decisions) : Decisions :=
  decisions.upsert package.packageKey (fun old =>
    overlapDecision package related (old.getD (defaultDecision package)))

def overlapPair (decisions : Decisions) (pair : BundlePackage × BundlePackage) : Decisions :=
  setOverlapDecision pair.2 pair.1 (setOverlapDecision pair.1 pair.2 decisions)

/-- The pairs that the two loops visit, the first member not of mixed cycle. -/
def overlapPairs : List BundlePackage → List (BundlePackage × BundlePackage)
  | [] => []
  | left :: rest =>
      (if left.mixedCycle then []
        else
          (rest.filter (fun right => left.materialHashes ∩ right.materialHashes ≠ 0)).map
            (fun right => (left, right))) ++
        overlapPairs rest

def applyOverlapReviewDecisions (ordered : List BundlePackage) (decisions : Decisions) :
    Decisions :=
  let unresolved := ordered.filter (fun package =>
    (decisions.get? package.packageKey).any (fun decision => decision.packageStatus = .primary))
  (overlapPairs unresolved).foldl overlapPair decisions

/-! ## Resolution -/

/-- The decisions and row actions of the packages of one group. -/
def resolveGroup (packages : List BundlePackage) : Decisions × RowActions :=
  let rowActions : RowActions := Dict.ofList
    (packages.flatMap (fun package => package.rows.map (fun row =>
      (row.2, ⟨.packageKeep, row.1.bundleId⟩))))
  let ordered := newestFirst packages
  let duplicates := applyDuplicateDecisions ordered Dict.empty rowActions
  let remaining := ordered.filter (fun package => package.packageKey ∉ duplicates.settled)
  let merged := applyMergeDecisions remaining duplicates.decisions duplicates.rowActions
  (applyOverlapReviewDecisions ordered (applyDefaultDecisions ordered merged.decisions),
    merged.rowActions)

def groupKeyOf (item : PlannedPackageItem) : PackageGroupKey :=
  (item.category, item.sourceFolder, item.captureLabel)

def itemKey (item : PlannedPackageItem) : PackageGroupKey × String :=
  (groupKeyOf item, item.bundleId)

/-- The packages of the `source_raw` rows. -/
def packagesOf (items : List PlannedPackageItem) : List BundlePackage :=
  (Dict.group (fun row => itemKey row.1)
    (items.zipIdx.filter (fun row => row.1.category = "source_raw"))).entries.map
      (fun entry => buildPackage entry.1.1 entry.1.2 entry.2)

def packagesByGroup (items : List PlannedPackageItem) : Dict PackageGroupKey (List BundlePackage) :=
  Dict.group BundlePackage.groupKey (packagesOf items)

/-- A row as its package's decision and its own action leave it. -/
def replaceItem (item : PlannedPackageItem) (decision : PackageDecision) (action : RowAction) :
    PlannedPackageItem :=
  let replacement :=
    { item with decision := decision, packageRowStatus := action.packageRowStatus }
  if decision.packageStatus.isDuplicate then
    { replacement with action := "skip", placementStatus := "package_duplicate_skip" }
  else if action.packageRowStatus = .packageMergeSupersededSkip then
    { replacement with action := "skip", placementStatus := "package_merge_superseded_skip" }
  else replacement

/-- The update that the resolution of one group makes of a row. -/
def updateOf (resolved : Decisions × RowActions) (row : Row) : Option (Nat × PlannedPackageItem) :=
  match resolved.1.get? (itemKey row.1), resolved.2.get? row.2 with
  | some decision, some action => some (row.2, replaceItem row.1 decision action)
  | _, _ => none

def packageUpdates (items : List PlannedPackageItem) : Dict Nat PlannedPackageItem :=
  Dict.ofList ((packagesByGroup items).values.flatMap (fun packages =>
    items.zipIdx.filterMap (updateOf (resolveGroup packages))))

def applyPackageRules (items : List PlannedPackageItem) : List PlannedPackageItem :=
  items.zipIdx.map (fun row => ((packageUpdates items).get? row.2).getD row.1)

end Intake
end Tallylot
