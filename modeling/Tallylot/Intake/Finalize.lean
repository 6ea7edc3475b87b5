import Tallylot.Data.Firsts
import Tallylot.Intake.Duplicates

/-!
# Finalize — package rules on planned items

The package rules decide per row, and `applyPackageRulesToItems` hands the decisions back through a
dictionary by source path.  Archive members are extracted to a path named by their content, so that
members of equal content share one entry and the last of them decides for all
(`decisions_handed_back_iff`).
-/

namespace Tallylot
namespace Intake

open Data

structure PlannedItem where
  sourcePath : String
  relativePath : String
  archiveSourcePath : String
  archiveMemberPath : String
  category : String
  role : String
  sourceFolder : String
  captureLabel : String
  captureStatus : String
  bundleId : String
  bundleRelativePath : String
  action : String
  decision : PackageDecision
  packageRowStatus : PackageRowStatus
  placementStatus : String
  reviewRequired : String
  reviewCodes : String
  reviewReason : String
  sha256 : String
  scopeTokens : List String
  targetPath : PosixPath
  deriving DecidableEq, Repr

/-! ## Reviews -/

/-- `needle in text` for one character. -/
def hasChar (c : Char) (text : String) : Bool := text.toList.contains c

def mergeReviewValues (values : List String) : String :=
  let parts := firsts
    ((values.flatMap (fun value => (splitText ';' value).map strip)).filter (fun part => part ≠ ""))
  if parts.any (hasChar ' ') then "; ".intercalate parts else ";".intercalate parts

def plannedReviewRequired (item : PlannedItem) (packageItem : PlannedPackageItem) : String :=
  if packageItem.decision.packageStatus ∈ [.overlapPartialReview, .mixedCycleReview] then "yes"
  else item.reviewRequired

def plannedReviewCodes (item : PlannedItem) (packageItem : PlannedPackageItem) : String :=
  let extraCodes :=
    match packageItem.decision.packageStatus with
    | .overlapPartialReview => "package_overlap_review"
    | .mixedCycleReview => "package_cycle_mixed"
    | _ => ""
  mergeReviewValues [item.reviewCodes, extraCodes]

def plannedReviewReason (item : PlannedItem) (packageItem : PlannedPackageItem) : String :=
  let decision := packageItem.decision
  let extraReason :=
    match decision.packageStatus with
    | .overlapPartialReview =>
        "Package overlap with " ++ decision.packageRelatedBundles ++ "; " ++
          decision.packageDecisionReason
    | .mixedCycleReview => decision.packageDecisionReason
    | _ => ""
  mergeReviewValues [item.reviewReason, extraReason]

/-! ## Placement -/

def effectiveBundleId (item : PlannedItem) (packageItem : PlannedPackageItem) : String :=
  if packageItem.packageRowStatus = .packageMergeIntoPrimary then
    packageItem.decision.packagePrimaryBundleId
  else item.bundleId

def captureRoot (workspaceRoot : PosixPath) (sourceFolder captureLabel : String) : PosixPath :=
  ((((workspaceRoot.join "evidence").join "raw").join "source").join sourceFolder).join captureLabel

def sourceRawTargetPath (workspaceRoot : PosixPath)
    (sourceFolder captureLabel bundleId bundleRelativePath : String) : PosixPath :=
  let root := captureRoot workspaceRoot sourceFolder captureLabel
  if endsWithText bundleId "-loose" then root.join bundleRelativePath
  else (root.join bundleId).join bundleRelativePath

/-! ## Package rules -/

def packageItem (item : PlannedItem) : PlannedPackageItem where
  path := item.sourcePath
  relativePath := item.relativePath
  archiveSourcePath := item.archiveSourcePath
  sourceFolder := item.sourceFolder
  captureLabel := item.captureLabel
  category := item.category
  action := item.action
  sha256 := item.sha256
  bundleId := item.bundleId
  bundleRelativePath := item.bundleRelativePath
  scopeTokens := item.scopeTokens
  decision := item.decision
  packageRowStatus := item.packageRowStatus
  placementStatus := item.placementStatus

/-- The updated rows under their source paths. -/
def packageMap (planned : List PlannedItem) : Dict String PlannedPackageItem :=
  Dict.ofList ((applyPackageRules (planned.map packageItem)).map (fun item => (item.path, item)))

/-- An item with what the dictionary holds under its source path. -/
def finalizeItem (workspaceRoot : PosixPath) (item : PlannedItem)
    (packageItem : PlannedPackageItem) : PlannedItem :=
  { item with
    bundleId := effectiveBundleId item packageItem
    action := packageItem.action
    decision := packageItem.decision
    packageRowStatus := packageItem.packageRowStatus
    placementStatus := packageItem.placementStatus
    reviewRequired := plannedReviewRequired item packageItem
    reviewCodes := plannedReviewCodes item packageItem
    reviewReason := plannedReviewReason item packageItem
    targetPath :=
      if item.category = "source_raw" then
        sourceRawTargetPath workspaceRoot item.sourceFolder item.captureLabel
          (effectiveBundleId item packageItem) item.bundleRelativePath
      else item.targetPath }

def applyPackageRulesToItems (workspaceRoot : PosixPath) (planned : List PlannedItem) :
    List PlannedItem :=
  planned.map (fun item =>
    finalizeItem workspaceRoot item
      (((packageMap planned).get? item.sourcePath).getD (packageItem item)))

/-! ## Decisions and source paths -/

/-- The rules rewrite a row's decision, statuses and action, and nothing that names it. -/
lemma path_replaceItem (item : PlannedPackageItem) (decision : PackageDecision)
    (action : RowAction) : (replaceItem item decision action).path = item.path := by
  unfold replaceItem
  dsimp only
  split_ifs <;> rfl

lemma length_applyPackageRules (items : List PlannedPackageItem) :
    (applyPackageRules items).length = items.length := by
  simp [applyPackageRules]

lemma path_applyPackageRules {items : List PlannedPackageItem} {index : Nat}
    {item item' : PlannedPackageItem} (hitem : items[index]? = some item)
    (hitem' : (applyPackageRules items)[index]? = some item') : item'.path = item.path := by
  rcases rules_at hitem hitem' with rfl | ⟨_, _, decision, action, _, _, rfl⟩
  · rfl
  · exact path_replaceItem item decision action

/-- The package row of an item keeps the item's path. -/
lemma path_at {planned : List PlannedItem} {index : Nat} {item : PlannedItem}
    {row : PlannedPackageItem} (hitem : planned[index]? = some item)
    (hrow : (applyPackageRules (planned.map packageItem))[index]? = some row) :
    row.path = item.sourcePath := by
  have hrow' : (planned.map packageItem)[index]? = some (packageItem item) := by
    rw [List.getElem?_map, hitem, Option.map_some]
  exact path_applyPackageRules hrow' hrow

/-- What the rules decide for a row. -/
def ruledFields (packageItem : PlannedPackageItem) :
    String × PackageDecision × PackageRowStatus × String :=
  (packageItem.action, packageItem.decision, packageItem.packageRowStatus,
    packageItem.placementStatus)

/-- The item has the decisions of the package item and the bundle that follows from them. -/
def HandedBack (item : PlannedItem) (packageItem : PlannedPackageItem) (result : PlannedItem) :
    Prop :=
  (result.action, result.decision, result.packageRowStatus, result.placementStatus) =
      ruledFields packageItem ∧
    result.bundleId = effectiveBundleId item packageItem

lemma effectiveBundleId_congr (item : PlannedItem) {packageItem packageItem' : PlannedPackageItem}
    (h : ruledFields packageItem = ruledFields packageItem') :
    effectiveBundleId item packageItem = effectiveBundleId item packageItem' := by
  simp only [ruledFields, Prod.mk.injEq] at h
  rcases h with ⟨_, hdecision, hstatus, _⟩
  simp only [effectiveBundleId, hdecision, hstatus]

lemma handedBack_finalizeItem_iff (workspaceRoot : PosixPath) (item : PlannedItem)
    (packageItem packageItem' : PlannedPackageItem) :
    HandedBack item packageItem (finalizeItem workspaceRoot item packageItem') ↔
      ruledFields packageItem' = ruledFields packageItem := by
  constructor
  · exact And.left
  · intro h
    exact ⟨h, effectiveBundleId_congr item h⟩

/-- The dictionary has an entry for every item, a row of the item's own path. -/
lemma packageMap_at {planned : List PlannedItem} {index : Nat} {item : PlannedItem}
    {packageItem' : PlannedPackageItem} (hitem : planned[index]? = some item)
    (hitem' : (applyPackageRules (planned.map packageItem))[index]? = some packageItem') :
    ∃ entry ∈ applyPackageRules (planned.map packageItem), entry.path = item.sourcePath ∧
      (packageMap planned).get? item.sourcePath = some entry := by
  have hown := path_at hitem hitem'
  cases hget : (packageMap planned).get? item.sourcePath with
  | none =>
      have hnot := (Dict.get?_eq_none_iff _ _).1 hget
      refine absurd ?_ hnot
      rw [packageMap, Dict.mem_keys_ofList, List.map_map]
      exact List.mem_map.2 ⟨packageItem', List.mem_of_getElem? hitem', hown⟩
  | some entry =>
      have hentry := Dict.mem_of_mem_entries_ofList ((Dict.get?_eq_some_iff _ _ _).1 hget)
      rcases List.mem_map.1 hentry with ⟨entry', hmem, hpair⟩
      rcases Prod.mk.inj hpair with ⟨hpath, rfl⟩
      exact ⟨entry', hmem, hpath, rfl⟩

/-- Every item gets its own row's decisions exactly when the rules decide alike for items of the
same source path. -/
theorem decisions_handed_back_iff (workspaceRoot : PosixPath) (planned : List PlannedItem) :
    (∀ (index : Nat) (item : PlannedItem) (packageItem' : PlannedPackageItem),
      planned[index]? = some item → (applyPackageRules (planned.map packageItem))[index]? =
        some packageItem' →
          ∃ result, (applyPackageRulesToItems workspaceRoot planned)[index]? = some result ∧
            HandedBack item packageItem' result) ↔
    ∀ row ∈ applyPackageRules (planned.map packageItem),
      ∀ row' ∈ applyPackageRules (planned.map packageItem),
        row.path = row'.path → ruledFields row = ruledFields row' := by
  have hresult : ∀ {index : Nat} {item : PlannedItem}, planned[index]? = some item →
      (applyPackageRulesToItems workspaceRoot planned)[index]? =
        some (finalizeItem workspaceRoot item
          (((packageMap planned).get? item.sourcePath).getD (packageItem item))) := by
    intro index item hitem
    simp [applyPackageRulesToItems, List.getElem?_map, hitem]
  -- each row is the row of an item, of the same path
  have hitemOf : ∀ {row : PlannedPackageItem}, row ∈ applyPackageRules (planned.map packageItem) →
      ∃ (index : Nat) (item : PlannedItem), planned[index]? = some item ∧
        (applyPackageRules (planned.map packageItem))[index]? = some row ∧
          row.path = item.sourcePath := by
    intro row hrow
    rcases List.getElem?_of_mem hrow with ⟨index, hat⟩
    rcases List.getElem?_eq_some_iff.1 hat with ⟨hlt, _⟩
    have hlt' : index < planned.length := by
      simpa [length_applyPackageRules] using hlt
    have hitem := List.getElem?_eq_getElem hlt'
    exact ⟨index, _, hitem, hat, path_at hitem hat⟩
  constructor
  · intro h row hrow row' hrow' hpath
    have hentry : ∀ {row : PlannedPackageItem},
        row ∈ applyPackageRules (planned.map packageItem) →
          ∃ item : PlannedItem, row.path = item.sourcePath ∧ ∀ entry,
            (packageMap planned).get? item.sourcePath = some entry →
              ruledFields entry = ruledFields row := by
      intro row hrow
      rcases hitemOf hrow with ⟨index, item, hitem, hat, hown⟩
      refine ⟨item, hown, ?_⟩
      intro entry hget
      rcases h index item row hitem hat with ⟨result, hresult', hhanded⟩
      rw [hresult hitem, hget, Option.getD_some] at hresult'
      rw [← Option.some.inj hresult'] at hhanded
      exact (handedBack_finalizeItem_iff _ _ _ _).1 hhanded
    rcases hitemOf hrow with ⟨index, item, hitem, hat, hown⟩
    rcases packageMap_at hitem hat with ⟨entry, _, _, hget⟩
    rcases hentry hrow with ⟨item₁, hown₁, heq₁⟩
    rcases hentry hrow' with ⟨item₂, hown₂, heq₂⟩
    rw [← hown] at hget
    have h₁ := heq₁ entry (by rw [← hown₁, hget])
    have h₂ := heq₂ entry (by rw [← hown₂, ← hpath, hget])
    exact h₁.symm.trans h₂
  · intro h index item packageItem' hitem hitem'
    refine ⟨_, hresult hitem, ?_⟩
    rcases packageMap_at hitem hitem' with ⟨entry, hentry, hpath, hget⟩
    rw [hget, Option.getD_some, handedBack_finalizeItem_iff]
    exact h entry hentry packageItem' (List.mem_of_getElem? hitem')
      (hpath.trans (path_at hitem hitem').symm)

/-- An archive or a member of one; members of equal content share a source path. -/
def archiveItem (archive bundleRelativePath sourcePath sha256 action : String) : PlannedItem where
  sourcePath := sourcePath
  relativePath := bundleRelativePath
  archiveSourcePath := archive ++ ".zip"
  archiveMemberPath := ""
  category := "source_raw"
  role := "source_export"
  sourceFolder := "coinbase"
  captureLabel := "capture-a"
  captureStatus := "planned"
  bundleId := archive
  bundleRelativePath := bundleRelativePath
  action := action
  decision :=
    { packageStatus := .primary
      packagePrimaryBundleId := archive
      packageRelatedBundles := ""
      packageCycleStatus := .blank
      packageScopeStatus := .blank
      packageDecisionReason := "" }
  packageRowStatus := .packageKeep
  placementStatus := "planned_copy"
  reviewRequired := "no"
  reviewCodes := ""
  reviewReason := ""
  sha256 := sha256
  scopeTokens := []
  targetPath := PosixPath.parse "/workspace"

/-- A newer archive before an older one, with the same member. -/
def newerThenOlder : List PlannedItem :=
  [archiveItem "a-2024-03-10" "archive/a-2024-03-10.zip" "/in/a.zip" "zip a" "copy",
    archiveItem "a-2024-03-10" "contents/trades.csv" "/tmp/trades.csv" "trades" "extract_copy",
    archiveItem "b-2024-03-09" "archive/b-2024-03-09.zip" "/in/b.zip" "zip b" "copy",
    archiveItem "b-2024-03-09" "contents/trades.csv" "/tmp/trades.csv" "trades" "extract_copy"]

/-- The kept member of the newer archive becomes a skip. -/
theorem kept_member_skipped :
    ¬∀ (workspaceRoot : PosixPath) (planned : List PlannedItem) (index : Nat) (item : PlannedItem)
      (packageItem' : PlannedPackageItem), planned[index]? = some item →
        (applyPackageRules (planned.map packageItem))[index]? = some packageItem' →
          ∃ result, (applyPackageRulesToItems workspaceRoot planned)[index]? = some result ∧
            HandedBack item packageItem' result := by
  intro h
  have hkept : ((applyPackageRules (newerThenOlder.map packageItem))[1]?).map
      PlannedPackageItem.action = some "extract_copy" := by
    decide +kernel
  have hskipped : ((applyPackageRulesToItems (PosixPath.parse "/workspace")
      newerThenOlder)[1]?).map PlannedItem.action = some "skip" := by
    decide +kernel
  rcases Option.map_eq_some_iff.1 hkept with ⟨packageItem', hat, haction⟩
  rcases h (PosixPath.parse "/workspace") newerThenOlder 1 _ packageItem' rfl hat with
    ⟨result, hresult, hhanded, _⟩
  rw [hresult] at hskipped
  have hsame : result.action = packageItem'.action := (Prod.mk.inj hhanded).1
  rw [Option.map_some, hsame, haction] at hskipped
  exact absurd hskipped (by decide)

end Intake
end Tallylot
