import Tallylot.Data.Parts
import Tallylot.Intake.Entries

/-!
# Placement — where the files of a materialized capture go

The capture session gives every raw row one source and one capture label, and the package rules may
move rows to the bundle of a primary package.  Copies go to the bundle's folder below the capture
root.  Files of different content stay apart exactly where their scanned names do not collide, and
below the root exactly where no folder is `..` (`placement_safe_iff`).
-/

namespace Tallylot
namespace Intake

open Data

/-! ## Capture labels -/

/-- A folder name that begins with a digit, as the labels made from the time do. -/
structure CaptureLabel where
  text : String
  isPart : PosixPath.IsPart text
  dated : text.toList.head?.any Char.isDigit = true

/-- `%Y-%m-%dT%H-%M-%SZ` -/
def labelChars (t : Instant) : List Char :=
  t.dateChars ++ 'T' :: (Instant.pad2 t.hour ++ '-' :: (Instant.pad2 t.minute ++
    '-' :: (Instant.pad2 t.second ++ ['Z'])))

/-- `--01`, `--02` and so on; a longer number has all its digits. -/
def labelSuffix (n : Nat) : List Char :=
  '-' :: '-' :: ((if n < 10 then ['0'] else []) ++ Nat.toDigits 10 n)

lemma isDigit_digit (n : Nat) : (Instant.digit n).isDigit = true := by
  unfold Instant.digit
  have hlt : n % 10 < 10 := Nat.mod_lt _ (by omega)
  generalize n % 10 = k at hlt ⊢
  interval_cases k <;> rfl

lemma slash_ne_of_isDigit {c : Char} (h : c.isDigit = true) : '/' ≠ c := by
  rintro rfl
  exact absurd h (by decide)

/-- A label made from the time, with a number where that label is taken. -/
def formatCaptureLabel (t : Instant) (taken : Option Nat) : CaptureLabel where
  text := String.ofList (labelChars t ++ (taken.map labelSuffix).getD [])
  isPart := by
    have hfixed : '/' ∉ labelChars t := by
      simp [labelChars, Instant.dateChars, Instant.pad4, Instant.pad2,
        slash_ne_of_isDigit (isDigit_digit _)]
    have hsuffix : '/' ∉ (taken.map labelSuffix).getD [] := by
      cases taken with
      | none => simp
      | some n =>
          have hdigits : '/' ∉ Nat.toDigits 10 n := by
            intro h
            exact slash_ne_of_isDigit
              (Nat.isDigit_of_mem_toDigits (by decide) (by decide) h) rfl
          simp only [Option.map_some, Option.getD_some, labelSuffix]
          split_ifs <;> simpa using hdigits
    refine ⟨?_, ?_, by simpa using ⟨hfixed, hsuffix⟩⟩
    · simp [labelChars]
    · intro h
      have hdot : "." = String.ofList ['.'] := rfl
      have hlength := congrArg List.length (String.ofList_injective (h.trans hdot))
      simp [labelChars, Instant.dateChars, Instant.pad4] at hlength
  dated := by
    simp [labelChars, Instant.dateChars, Instant.pad4, isDigit_digit]

lemma CaptureLabel.ne_of_head {label : CaptureLabel} {name : String}
    (h : name.toList.head?.any Char.isDigit = false) : label.text ≠ name := by
  rintro rfl
  rw [label.dated] at h
  cases h

/-! ## The capture session -/

inductive CaptureStatus
  | planned
  | overlapReviewRequired
  | duplicateBlocked
  | captureBlocked
  deriving DecidableEq, Repr

def CaptureStatus.text : CaptureStatus → String
  | planned => "planned"
  | overlapReviewRequired => "overlap_review_required"
  | duplicateBlocked => "duplicate_blocked"
  | captureBlocked => "capture_blocked"

/-- `_session_materializes_capture` -/
def CaptureStatus.materializes : CaptureStatus → Bool
  | planned => true
  | overlapReviewRequired => true
  | duplicateBlocked => false
  | captureBlocked => false

structure IntakeIssue where
  kind : String
  message : String

/-- A row of the inventory of earlier captures. -/
structure CaptureRow where
  source : String
  manifestFingerprint : String
  captureUid : String

/-- What a session reads besides its rows; labels depend on the source and the fingerprint, and an
earlier capture overlaps the observed period of some rows or does not. -/
structure IntakeContext where
  workspaceRoot : PosixPath
  manifestFingerprint : List PlannedItem → String
  plannedCaptureLabel : String → String → CaptureLabel
  captureRows : List CaptureRow
  overlaps : List PlannedItem → CaptureRow → Bool

structure CaptureSessionPlan where
  sourceFolder : String
  captureLabel : String
  manifestFingerprint : String
  captureStatus : CaptureStatus
  fileCount : Nat
  duplicateCaptureUid : String := ""
  overlapCaptureUids : List String := []

def captureBlockedPlan (fileCount : Nat) : CaptureSessionPlan where
  sourceFolder := ""
  captureLabel := ""
  manifestFingerprint := ""
  captureStatus := .captureBlocked
  fileCount := fileCount

def isSourceRaw (item : PlannedItem) : Bool := item.category = "source_raw"

/-- `_merge_value` -/
def mergeValue (left right : String) : String :=
  ";".intercalate ([left, right].filter (fun value => value ≠ ""))

def markSourceRawItemsCaptureBlocked (planned : List PlannedItem) : List PlannedItem :=
  planned.map (fun item =>
    if isSourceRaw item then { item with captureLabel := "", captureStatus := "capture_blocked" }
    else item)

def markNonMaterializedCaptureItems (captureStatus placementStatus : String)
    (planned : List PlannedItem) : List PlannedItem :=
  planned.map (fun item =>
    { item with
      action := if isCopyAction item.action then "skip" else item.action
      placementStatus :=
        if isCopyAction item.action then placementStatus else item.placementStatus
      captureStatus := captureStatus })

def markMissingSourceRawCaptureBlocked (planned : List PlannedItem) : List PlannedItem :=
  planned.map (fun item =>
    -- a copy is kept exactly where it is no raw row
    let shouldSkip := isSourceRaw item && isCopyAction item.action
    { item with
      action := if shouldSkip then "skip" else item.action
      placementStatus := if shouldSkip then "capture_blocked_skip" else item.placementStatus
      captureStatus := "capture_blocked"
      reviewRequired := "yes"
      reviewCodes := mergeValue item.reviewCodes "missing_source_raw_capture"
      reviewReason :=
        mergeValue item.reviewReason "Intake run did not include any source_raw files." })

def markMixedSourceCaptureBlocked (planned : List PlannedItem) : List PlannedItem :=
  planned.map (fun item =>
    let isSourceRawCopy := isSourceRaw item && isCopyAction item.action
    { item with
      action := if isSourceRawCopy then "skip" else item.action
      placementStatus :=
        if isSourceRawCopy then "mixed_source_capture_blocked" else item.placementStatus
      captureLabel := if isSourceRaw item then "" else item.captureLabel
      captureStatus := "capture_blocked"
      reviewRequired := "yes"
      reviewCodes := mergeValue item.reviewCodes "mixed_source_capture"
      reviewReason :=
        mergeValue item.reviewReason "Intake run resolved multiple source folders." })

def sourceRawTargetPathForItem (workspaceRoot : PosixPath) (sourceFolder captureLabel : String)
    (item : PlannedItem) : PosixPath :=
  if item.role = "required_sidecar" then
    requiredRawSidecarPath (captureRoot workspaceRoot sourceFolder captureLabel) item.relativePath
      item.archiveSourcePath item.archiveMemberPath
  else
    sourceRawTargetPath workspaceRoot sourceFolder captureLabel item.bundleId
      item.bundleRelativePath

/-- Duplicate and overlapping captures among the rows, up to the first duplicate. -/
def earlierCaptures (fingerprint : String) (overlaps : CaptureRow → Bool) (uids : List String) :
    List CaptureRow → Option String × List String
  | [] => (none, uids)
  | row :: rows =>
      if row.manifestFingerprint = fingerprint ∧ fingerprint ≠ "" then (some row.captureUid, uids)
      else
        earlierCaptures fingerprint overlaps
          (if overlaps row then uids ++ [row.captureUid] else uids) rows

def distinctSources (rawItems : List PlannedItem) : List String :=
  sortedOn id
    (((rawItems.map PlannedItem.sourceFolder).filter (fun source => source ≠ "")).dedup)

def rawItems (planned : List PlannedItem) : List PlannedItem :=
  planned.filter (fun item => isSourceRaw item && item.action ≠ "skip")

/-- A raw row with the label of the session. -/
def labelItem (workspaceRoot : PosixPath) (sourceFolder : String) (label : CaptureLabel)
    (item : PlannedItem) : PlannedItem :=
  if isSourceRaw item then
    { item with
      captureLabel := label.text
      targetPath := sourceRawTargetPathForItem workspaceRoot sourceFolder label.text item }
  else item

/-- Rows and plan of a session whose rows have at most one source. -/
def planSession (context : IntakeContext) (planned : List PlannedItem) :
    List PlannedItem × CaptureSessionPlan :=
  let raw := rawItems planned
  let sourceFolder := (distinctSources raw).headD ""
  let fingerprint := context.manifestFingerprint raw
  let label := context.plannedCaptureLabel sourceFolder fingerprint
  let labelled := planned.map (labelItem context.workspaceRoot sourceFolder label)
  let earlier := earlierCaptures fingerprint (context.overlaps raw) []
    (context.captureRows.filter (fun row => row.source = sourceFolder))
  let status : CaptureStatus :=
    if earlier.1.isSome then .duplicateBlocked
    else if earlier.2 ≠ [] then .overlapReviewRequired
    else .planned
  (if status = .duplicateBlocked then
      markNonMaterializedCaptureItems status.text "duplicate_capture_skip" labelled
    else labelled,
    { sourceFolder := sourceFolder
      captureLabel := label.text
      manifestFingerprint := fingerprint
      captureStatus := status
      fileCount := raw.length
      duplicateCaptureUid := earlier.1.getD ""
      overlapCaptureUids := earlier.2.filter (fun uid => uid ≠ "") })

/-- The rows as the session leaves them, its plan and what it reports. -/
def buildCaptureSessionPlan (context : IntakeContext) (planned : List PlannedItem) :
    (List PlannedItem × CaptureSessionPlan) × List IntakeIssue :=
  let sourceItems := planned.filter isSourceRaw
  let sources := distinctSources (rawItems planned)
  if 1 < sources.length then
    ((markMixedSourceCaptureBlocked planned, captureBlockedPlan sourceItems.length),
      [⟨"mixed_source_capture",
        "Intake run resolved multiple source folders: " ++ ", ".intercalate sources⟩])
  else if rawItems planned = [] then
    if sourceItems ≠ [] then
      ((markSourceRawItemsCaptureBlocked
          (markNonMaterializedCaptureItems "capture_blocked" "capture_blocked_skip" planned),
        captureBlockedPlan sourceItems.length), [])
    else
      ((markMissingSourceRawCaptureBlocked planned, captureBlockedPlan sourceItems.length),
        [⟨"capture_missing_source_raw",
          "Intake run did not include any source_raw files, so the capture cannot be materialized."⟩])
  else (planSession context planned, [])

/-! ## Planned rows of a tree -/

structure PlannedItemBatch where
  plannedItems : List PlannedItem
  captureSessionPlan : CaptureSessionPlan
  issues : List IntakeIssue

def buildPlannedItems (letters : LowerCase) (context : IntakeContext) (files : List RoutedFile) :
    PlannedItemBatch :=
  let session := buildCaptureSessionPlan context
    (files.map (buildPlannedItem letters context.workspaceRoot))
  { plannedItems := applyPackageRulesToItems context.workspaceRoot session.1.1
    captureSessionPlan := session.1.2
    issues := session.2 }

/-! ## Primary bundles -/

/-- The primary bundle of the decision is one of the packages. -/
def PrimaryIn (ordered : List BundlePackage) (decision : PackageDecision) : Prop :=
  ∃ package ∈ ordered, package.bundleId = decision.packagePrimaryBundleId

def PrimariesKnown (ordered : List BundlePackage) (decisions : Decisions) : Prop :=
  ∀ key decision, decisions.get? key = some decision → PrimaryIn ordered decision

lemma primaries_upsert {ordered : List BundlePackage} {decisions : Decisions}
    {key : PackageGroupKey × String} {f : Option PackageDecision → PackageDecision}
    (h : PrimariesKnown ordered decisions)
    (hf : ∀ old, (∀ decision, old = some decision → PrimaryIn ordered decision) →
      PrimaryIn ordered (f old)) : PrimariesKnown ordered (decisions.upsert key f) := by
  intro key' decision hget
  rw [Dict.get?_upsert] at hget
  split_ifs at hget with hkey
  · rw [← Option.some.inj hget]
    exact hf _ (fun decision hold => h key' decision (by rwa [← hkey] at hold))
  · exact h key' decision hget

lemma primaries_set {ordered : List BundlePackage} {decisions : Decisions}
    {key : PackageGroupKey × String} {decision : PackageDecision}
    (h : PrimariesKnown ordered decisions) (hdecision : PrimaryIn ordered decision) :
    PrimariesKnown ordered (decisions.set key decision) :=
  primaries_upsert h (fun _ _ => hdecision)

lemma primaries_duplicates (ordered : List BundlePackage) (rowActions : RowActions) :
    PrimariesKnown ordered (applyDuplicateDecisions ordered Dict.empty rowActions).decisions := by
  refine @List.foldlRecOn _ _ (fun (state : Resolution) => PrimariesKnown ordered state.decisions)
    ordered _ _ ?_ ?_
  · intro key decision hget
    cases hget
  · intro state h package _
    unfold duplicateStep
    cases hsup : newestFirst (supersets ordered package) with
    | nil => exact h
    | cons primary rest =>
        have hprimary : primary ∈ supersets ordered package := by
          have hmem : primary ∈ newestFirst (supersets ordered package) := by simp [hsup]
          exact mem_sortedOn.1 hmem
        exact primaries_set h ⟨primary, (List.mem_filter.1 hprimary).1, rfl⟩

lemma primaries_merges {ordered remaining : List BundlePackage} {decisions : Decisions}
    (rowActions : RowActions) (hsub : remaining ⊆ ordered) (h : PrimariesKnown ordered decisions) :
    PrimariesKnown ordered (applyMergeDecisions remaining decisions rowActions).decisions := by
  refine @List.foldlRecOn _ _ (fun (state : Resolution) => PrimariesKnown ordered state.decisions)
    remaining _ _ h ?_
  intro state hstate primary hprimary
  have hknown := hsub hprimary
  unfold primaryStep
  split_ifs with hsettled
  · exact hstate
  · dsimp only
    split_ifs with hmembers
    · exact hstate
    · refine List.foldlRecOn _ _ (primaries_set hstate ⟨primary, hknown, rfl⟩) ?_
      intro decisions hdecisions member _
      exact primaries_set hdecisions ⟨primary, hknown, rfl⟩

lemma primaryIn_default {ordered : List BundlePackage} {package : BundlePackage}
    (h : package ∈ ordered) : PrimaryIn ordered (defaultDecision package) := by
  refine ⟨package, h, ?_⟩
  unfold defaultDecision
  split_ifs <;> rfl

lemma primaryIn_getD {ordered : List BundlePackage} {package : BundlePackage}
    (h : package ∈ ordered) {old : Option PackageDecision}
    (hold : ∀ decision, old = some decision → PrimaryIn ordered decision) :
    PrimaryIn ordered (old.getD (defaultDecision package)) := by
  cases old with
  | none => exact primaryIn_default h
  | some decision => exact hold decision rfl

lemma primaryIn_overlap {ordered : List BundlePackage} {package related : BundlePackage}
    (h : package ∈ ordered) {current : PackageDecision} (hcurrent : PrimaryIn ordered current) :
    PrimaryIn ordered (overlapDecision package related current) := by
  unfold overlapDecision
  split_ifs
  · exact ⟨package, h, rfl⟩
  · exact hcurrent

theorem primaries_resolveGroup (packages : List BundlePackage) :
    PrimariesKnown (newestFirst packages) (resolveGroup packages).1 := by
  refine List.foldlRecOn _ _ ?_ ?_
  · refine List.foldlRecOn _ _ ?_ ?_
    · exact primaries_merges _ (fun _ h => (List.mem_filter.1 h).1) (primaries_duplicates _ _)
    · intro decisions hdecisions package hpackage
      exact primaries_upsert hdecisions (fun _ hold => primaryIn_getD hpackage hold)
  · intro decisions hdecisions pair hpair
    rcases mem_overlapPairs hpair with ⟨hleft, hright⟩
    have hleft' := (List.mem_filter.1 hleft).1
    have hright' := (List.mem_filter.1 hright).1
    refine primaries_upsert (primaries_upsert hdecisions ?_) ?_
    · exact fun _ hold => primaryIn_overlap hleft' (primaryIn_getD hleft' hold)
    · exact fun _ hold => primaryIn_overlap hright' (primaryIn_getD hright' hold)

lemma exists_row_of_package {items : List PlannedPackageItem} {package : BundlePackage}
    (h : package ∈ packagesOf items) : ∃ item ∈ items, item.bundleId = package.bundleId := by
  rcases List.mem_map.1 h with ⟨⟨key, rows⟩, hentry, rfl⟩
  rcases Dict.mem_entries_group hentry with ⟨hne, hrows⟩
  rcases List.exists_mem_of_ne_nil _ hne with ⟨row, hrow⟩
  rw [hrows] at hrow
  rcases List.mem_filter.1 hrow with ⟨hraw, hkey⟩
  have hat := List.mem_zipIdx_iff_getElem?.1 (List.mem_filter.1 hraw).1
  have hsame : itemKey row.1 = key := of_decide_eq_true hkey
  exact ⟨row.1, List.mem_of_getElem? hat, congrArg Prod.snd hsame⟩

/-- Every row's primary bundle is that of a row, or the one that the row had. -/
theorem primary_of_rules {items : List PlannedPackageItem} {row : PlannedPackageItem}
    (h : row ∈ applyPackageRules items) :
    ∃ item ∈ items, row.decision.packagePrimaryBundleId = item.bundleId ∨
      row.decision = item.decision := by
  rcases List.getElem?_of_mem h with ⟨index, hat⟩
  rcases List.getElem?_eq_some_iff.1 hat with ⟨hlt, _⟩
  rw [length_applyPackageRules] at hlt
  have hitem := List.getElem?_eq_getElem hlt
  rcases rules_at hitem hat with rfl | ⟨packages, hpackages, decision, action, hdecision, _, rfl⟩
  · exact ⟨_, List.getElem_mem hlt, Or.inr rfl⟩
  · rcases primaries_resolveGroup packages _ _ hdecision with ⟨package, hpackage, hprimary⟩
    rcases mem_group hpackages with ⟨groupKey, hgroup⟩
    have hmem := mem_sortedOn.1 hpackage
    rw [hgroup] at hmem
    rcases exists_row_of_package (List.mem_filter.1 hmem).1 with ⟨item, hitem, hbundle⟩
    refine ⟨item, hitem, Or.inl ?_⟩
    have hown : ∀ item : PlannedPackageItem, (replaceItem item decision action).decision = decision := by
      intro item
      unfold replaceItem
      dsimp only
      split_ifs <;> rfl
    rw [hown, hbundle, hprimary]

/-! ## Targets -/

/-- A text without separators is one name or none. -/
lemma parse_folder {text : String} (h : '/' ∉ text.toList) :
    PosixPath.parse text = ⟨"", if text ≠ "" ∧ text ≠ "." then [text] else []⟩ := by
  have hsplit : splitChars '/' text.toList = [text.toList] := by
    rw [splitChars_eq_splitOn, List.splitOn, List.splitOnP_eq_singleton]
    intro c hc
    exact beq_false_of_ne (fun heq => h (heq ▸ hc))
  have hroot : PosixPath.rootOf text.toList = "" := by
    cases hchars : text.toList with
    | nil => rfl
    | cons c cs =>
        refine PosixPath.rootOf_cons ?_
        rintro rfl
        exact h (by simp [hchars])
  rw [PosixPath.parse, hroot, splitText, hsplit]
  by_cases hkept : text ≠ "" ∧ text ≠ "."
  · simp [hkept]
  · simp [hkept]

lemma bundleFolder_cases {bundle : String} (h : FolderName bundle) :
    bundleFolder bundle = [] ∨ bundleFolder bundle = [bundle] := by
  unfold bundleFolder
  rcases h with hloose | hslash
  · simp [hloose]
  · rw [parse_folder hslash]
    split_ifs
    all_goals first
      | exact Or.inl rfl
      | exact Or.inr rfl

/-- A file lies in the folder of its bundle below the capture root. -/
lemma target_eq {workspaceRoot : PosixPath} {sourceFolder captureLabel bundle bundlePath : String}
    {parts : List String} (hbundle : FolderName bundle)
    (hparse : PosixPath.parse bundlePath = ⟨"", parts⟩) :
    sourceRawTargetPath workspaceRoot sourceFolder captureLabel bundle bundlePath =
      ⟨(captureRoot workspaceRoot sourceFolder captureLabel).root,
        (captureRoot workspaceRoot sourceFolder captureLabel).tail ++
          (bundleFolder bundle ++ parts)⟩ := by
  unfold sourceRawTargetPath bundleFolder
  dsimp only
  split_ifs with hloose
  · exact PosixPath.join_relative hparse
  · have hslash : '/' ∉ bundle.toList := by
      rcases hbundle with h | h
      · exact absurd h hloose
      · exact h
    have hfolder : PosixPath.parse bundle = ⟨"", (PosixPath.parse bundle).tail⟩ := by
      rw [parse_folder hslash]
    rw [PosixPath.join_relative hparse, PosixPath.join_relative hfolder]
    simp

/-! ## Rows of a materialized session -/

/-- What a session keeps of a planned row. -/
structure KeptBySession (base item : PlannedItem) : Prop where
  category : item.category = base.category
  sourceFolder : item.sourceFolder = base.sourceFolder
  bundle : item.bundleId = base.bundleId
  bundlePath : item.bundleRelativePath = base.bundleRelativePath
  sha256 : item.sha256 = base.sha256
  decision : item.decision = base.decision

lemma keptBySession_labelItem (workspaceRoot : PosixPath) (sourceFolder : String)
    (label : CaptureLabel) (base : PlannedItem) :
    KeptBySession base (labelItem workspaceRoot sourceFolder label base) := by
  unfold labelItem
  split_ifs
  · exact ⟨rfl, rfl, rfl, rfl, rfl, rfl⟩
  · exact ⟨rfl, rfl, rfl, rfl, rfl, rfl⟩

lemma captureLabel_labelItem {workspaceRoot : PosixPath} {sourceFolder : String}
    {label : CaptureLabel} {base : PlannedItem} (h : base.category = "source_raw") :
    (labelItem workspaceRoot sourceFolder label base).captureLabel = label.text := by
  have hraw : isSourceRaw base = true := decide_eq_true h
  rw [labelItem, if_pos hraw]

/-- A session that materializes gives all raw rows one label. -/
lemma rows_of_session {context : IntakeContext} {planned : List PlannedItem}
    (h : (buildCaptureSessionPlan context planned).1.2.captureStatus.materializes = true) :
    ∃ label : CaptureLabel,
      (buildCaptureSessionPlan context planned).1.2.captureLabel = label.text ∧
      (buildCaptureSessionPlan context planned).1.1 = planned.map (labelItem context.workspaceRoot
        (buildCaptureSessionPlan context planned).1.2.sourceFolder label) := by
  unfold buildCaptureSessionPlan at h ⊢
  dsimp only at h ⊢
  split_ifs at h ⊢
  · cases h
  · cases h
  · cases h
  · refine ⟨context.plannedCaptureLabel ((distinctSources (rawItems planned)).headD "")
      (context.manifestFingerprint (rawItems planned)), rfl, ?_⟩
    have hstatus : (planSession context planned).2.captureStatus ≠ .duplicateBlocked := by
      intro heq
      rw [heq] at h
      cases h
    exact if_neg hstatus

/-- The primary bundle of a row of the rules is the bundle or the primary bundle of an item. -/
lemma primary_of_items {planned : List PlannedItem} {row : PlannedPackageItem}
    (h : row ∈ applyPackageRules (planned.map packageItem)) :
    ∃ other ∈ planned, row.decision.packagePrimaryBundleId = other.bundleId ∨
      row.decision = other.decision := by
  rcases primary_of_rules h with ⟨packageRow, hpackageRow, hprimary⟩
  rcases List.mem_map.1 hpackageRow with ⟨other, hother, rfl⟩
  exact ⟨other, hother, hprimary⟩

/-- Merged rows take the bundle of a primary package, which is that of another row. -/
lemma folderName_effective {planned : List PlannedItem}
    (hbundle : ∀ item ∈ planned, FolderName item.bundleId)
    (hdecision : ∀ item ∈ planned, FolderName item.decision.packagePrimaryBundleId)
    {item : PlannedItem} (hitem : item ∈ planned) {row : PlannedPackageItem}
    (hrow : ∃ other ∈ planned, row.decision.packagePrimaryBundleId = other.bundleId ∨
      row.decision = other.decision) : FolderName (effectiveBundleId item row) := by
  unfold effectiveBundleId
  split_ifs
  · rcases hrow with ⟨other, hother, hprimary | hprimary⟩
    · rw [hprimary]
      exact hbundle other hother
    · rw [hprimary]
      exact hdecision other hother
  · exact hbundle item hitem

/-- The bundle of a file after the package rules: its own, or the primary one it is merged into. -/
def homeBundle (letters : LowerCase) (file : RoutedFile) (status : PackageRowStatus)
    (decision : PackageDecision) : String :=
  if status = .packageMergeIntoPrimary then decision.packagePrimaryBundleId
  else bundleId letters file.entry file.resolution.sourceFolder

/-- The folder of that bundle, for a file and its row. -/
def homeFolder (letters : LowerCase) (row : RoutedFile × PlannedItem) : List String :=
  bundleFolder (homeBundle letters row.1 row.2.packageRowStatus row.2.decision)

/-- What is known of the row of a file after the package rules. -/
structure Placed (letters : LowerCase) (context : IntakeContext) (label : CaptureLabel)
    (file : RoutedFile) (item : PlannedItem) : Prop where
  bundle : item.bundleId = homeBundle letters file item.packageRowStatus item.decision
  folder : FolderName item.bundleId
  path : item.bundleRelativePath = bundleRelativePath letters file.entry
  sha256 : item.sha256 = file.entry.sha256
  target : item.category = "source_raw" → item.targetPath = sourceRawTargetPath
    context.workspaceRoot item.sourceFolder label.text item.bundleId item.bundleRelativePath

lemma placed_of_materialized {letters : LowerCase} {context : IntakeContext}
    {files : List RoutedFile}
    (h : (buildPlannedItems letters context files).captureSessionPlan.captureStatus.materializes =
      true) :
    ∃ label : CaptureLabel,
      (buildPlannedItems letters context files).captureSessionPlan.captureLabel = label.text ∧
      List.Forall₂ (Placed letters context label) files
        (buildPlannedItems letters context files).plannedItems := by
  rcases rows_of_session h with ⟨label, hlabel, hrows⟩
  refine ⟨label, hlabel, ?_⟩
  unfold buildPlannedItems
  dsimp only
  rw [hrows]
  -- every row of the session comes from a file, with the bundle of that file
  have hkept : List.Forall₂ (fun file row =>
      KeptBySession (buildPlannedItem letters context.workspaceRoot file) row ∧
        (row.category = "source_raw" → row.captureLabel = label.text)) files
      ((files.map (buildPlannedItem letters context.workspaceRoot)).map
        (labelItem context.workspaceRoot (buildCaptureSessionPlan context
          (files.map (buildPlannedItem letters context.workspaceRoot))).1.2.sourceFolder
            label)) := by
    rw [List.map_map, List.forall₂_map_right_iff, List.forall₂_same]
    intro file _
    have hlabelled := keptBySession_labelItem context.workspaceRoot
      (buildCaptureSessionPlan context
        (files.map (buildPlannedItem letters context.workspaceRoot))).1.2.sourceFolder label
      (buildPlannedItem letters context.workspaceRoot file)
    exact ⟨hlabelled,
      fun hcategory => captureLabel_labelItem (hlabelled.category.symm.trans hcategory)⟩
  generalize (files.map (buildPlannedItem letters context.workspaceRoot)).map
    (labelItem context.workspaceRoot (buildCaptureSessionPlan context
      (files.map (buildPlannedItem letters context.workspaceRoot))).1.2.sourceFolder label) =
        rows at hkept ⊢
  have hnamed : ∀ row ∈ rows, FolderName row.bundleId ∧
      FolderName row.decision.packagePrimaryBundleId := by
    intro row hrow
    rcases exists_left_of_forall₂ hkept hrow with ⟨file, _, hrowkept, _⟩
    rw [hrowkept.bundle, hrowkept.decision]
    exact ⟨folderName_bundleId letters file.entry file.resolution.sourceFolder,
      folderName_bundleId letters file.entry file.resolution.sourceFolder⟩
  rw [applyPackageRulesToItems, List.forall₂_map_right_iff]
  refine List.forall₂_iff_zip.2 ⟨hkept.length_eq, ?_⟩
  intro file row hzip
  rcases (List.forall₂_iff_zip.1 hkept).2 hzip with ⟨hrowkept, hrowlabel⟩
  have hrow := (List.of_mem_zip hzip).2
  refine ⟨?_, ?_, hrowkept.bundlePath, hrowkept.sha256, ?_⟩
  · change effectiveBundleId row _ = homeBundle letters file _ _
    rw [effectiveBundleId, hrowkept.bundle]
    rfl
  · refine folderName_effective (fun other hother => (hnamed other hother).1)
      (fun other hother => (hnamed other hother).2) hrow ?_
    cases hget : (packageMap rows).get? row.sourcePath with
    | none => exact ⟨row, hrow, Or.inr rfl⟩
    | some entry =>
        have hentry := Dict.mem_of_mem_entries_ofList ((Dict.get?_eq_some_iff _ _ _).1 hget)
        rcases List.mem_map.1 hentry with ⟨entry', hrules, hpair⟩
        rw [Option.getD_some, ← (Prod.mk.inj hpair).2]
        exact primary_of_items hrules
  · intro hraw
    have hrowraw : row.category = "source_raw" := hraw
    change (if row.category = "source_raw" then _ else _) = _
    rw [if_pos hrowraw, hrowlabel hrowraw]
    rfl

/-! ## Placement -/

/-- A raw row that is copied. -/
def Copied (item : PlannedItem) : Prop :=
  item.category = "source_raw" ∧ isCopyAction item.action = true

instance (item : PlannedItem) : Decidable (Copied item) := by
  unfold Copied
  infer_instance

/-- Different contents go to different paths, all of them below the capture root. -/
structure PlacedSafely (root : PosixPath) (items : List PlannedItem) : Prop where
  apart : ∀ item ∈ items, ∀ other ∈ items, Copied item → Copied other →
    item.sha256 ≠ other.sha256 → item.targetPath ≠ other.targetPath
  inside : ∀ item ∈ items, Copied item → PosixPath.StrictlyInside root item.targetPath

/-- No bundle folder of a copied file leads out of the capture root, and no two copied files of
different content collide. -/
structure PlacesApart (letters : LowerCase) (rows : List (RoutedFile × PlannedItem)) : Prop where
  folder : ∀ row ∈ rows, Copied row.2 → homeFolder letters row ≠ [".."]
  apart : ∀ row ∈ rows, ∀ other ∈ rows, Copied row.2 → Copied other.2 →
    row.1.entry.sha256 ≠ other.1.entry.sha256 →
      ¬Collides (homeFolder letters row) (entryPath letters row.1.entry) (homeFolder letters other)
        (entryPath letters other.1.entry)

section

variable {letters : LowerCase} {context : IntakeContext} {label : CaptureLabel} {file : RoutedFile}
  {item : PlannedItem}

lemma Placed.homeFolder_eq (h : Placed letters context label file item) :
    homeFolder letters (file, item) = bundleFolder item.bundleId := by
  rw [homeFolder, h.bundle]

lemma Placed.target_place (h : Placed letters context label file item)
    (hraw : item.category = "source_raw") : item.targetPath =
      ⟨(captureRoot context.workspaceRoot item.sourceFolder label.text).root,
        (captureRoot context.workspaceRoot item.sourceFolder label.text).tail ++
          (homeFolder letters (file, item) ++
            (entryPath letters file.entry).parts)⟩ := by
  have hparse := (parse_bundleRelativePath letters file.entry).1
  rw [h.target hraw, h.path, target_eq h.folder hparse, h.homeFolder_eq]

lemma Placed.folder_cases (h : Placed letters context label file item) :
    homeFolder letters (file, item) = [] ∨
      ∃ name, homeFolder letters (file, item) = [name] := by
  rw [h.homeFolder_eq]
  exact (bundleFolder_cases h.folder).imp_right (fun hone => ⟨_, hone⟩)

/-- A row is below the capture root exactly where its bundle folder is not `..`. -/
lemma Placed.inside_iff (h : Placed letters context label file item)
    (hraw : item.category = "source_raw") :
    PosixPath.StrictlyInside (captureRoot context.workspaceRoot item.sourceFolder label.text)
        item.targetPath ↔ homeFolder letters (file, item) ≠ [".."] := by
  have hparts := (parse_bundleRelativePath letters file.entry).2
  rw [h.target_place hraw]
  constructor
  · intro hinside hup
    have hlast : label.text ≠ ".." := CaptureLabel.ne_of_head (by decide)
    have htail : (captureRoot context.workspaceRoot item.sourceFolder label.text).tail =
        ((((context.workspaceRoot.join "evidence").join "raw").join "source").join
          item.sourceFolder).tail ++ [label.text] := by
      rw [captureRoot, PosixPath.join_relative (PosixPath.parse_part label.isPart)]
    rw [hup, List.singleton_append] at hinside
    refine PosixPath.not_strictlyInside_of_parent htail hlast ?_ hparts.no_up hinside
    intro rest hrest heq
    have hfirst : ∀ folder, folder = "contents" ∨ folder = "archive" → folder ≠ label.text := by
      rintro folder (rfl | rfl)
      · exact (CaptureLabel.ne_of_head (by decide)).symm
      · exact (CaptureLabel.ne_of_head (by decide)).symm
    cases hpath : entryPath letters file.entry with
    | member parts =>
        rw [hpath] at heq
        exact hfirst "contents" (Or.inl rfl) (List.cons.inj heq).1
    | archive name =>
        rw [hpath] at heq
        exact hfirst "archive" (Or.inr rfl) (List.cons.inj heq).1
    | file name =>
        rw [hpath] at heq
        exact hrest (List.cons.inj heq).2.symm
  · intro hfolder
    have hne : homeFolder letters (file, item) ++
        (entryPath letters file.entry).parts ≠ [] := by
      simpa using fun _ => hparts.ne_nil
    refine PosixPath.strictlyInside_of_parts hne ?_
    intro hmem
    rcases List.mem_append.1 hmem with hup | hup
    · rcases h.folder_cases with hnil | ⟨name, hone⟩
      · simp [hnil] at hup
      · rw [hone, List.mem_singleton] at hup
        rw [hone, ← hup] at hfolder
        exact hfolder rfl
    · exact hparts.no_up hup

end

/-- Where all copied rows have the source of the session, a materialized capture is placed safely
exactly when no folder is `..` and no two of its scanned files collide. -/
theorem placement_safe_iff (letters : LowerCase) (context : IntakeContext) (files : List RoutedFile)
    (hmaterialized :
      (buildPlannedItems letters context files).captureSessionPlan.captureStatus.materializes = true)
    (hsource : ∀ item ∈ (buildPlannedItems letters context files).plannedItems, Copied item →
      item.sourceFolder = (buildPlannedItems letters context files).captureSessionPlan.sourceFolder) :
    PlacedSafely
        (captureRoot context.workspaceRoot
          (buildPlannedItems letters context files).captureSessionPlan.sourceFolder
          (buildPlannedItems letters context files).captureSessionPlan.captureLabel)
        (buildPlannedItems letters context files).plannedItems ↔
      PlacesApart letters (files.zip (buildPlannedItems letters context files).plannedItems) := by
  rcases placed_of_materialized hmaterialized with ⟨label, hlabel, hplaced⟩
  rw [hlabel]
  generalize (buildPlannedItems letters context files).captureSessionPlan.sourceFolder =
    sourceFolder at hsource ⊢
  generalize (buildPlannedItems letters context files).plannedItems = items at hsource hplaced ⊢
  rcases List.forall₂_iff_zip.1 hplaced with ⟨_, hrows⟩
  have hmem : ∀ row ∈ files.zip items, Placed letters context label row.1 row.2 ∧ row.2 ∈ items :=
    fun row hrow => ⟨hrows hrow, (List.of_mem_zip hrow).2⟩
  have hrowOf : ∀ item ∈ items, ∃ file, (file, item) ∈ files.zip items := by
    intro item hitem
    rcases List.getElem?_of_mem hitem with ⟨index, hat⟩
    rcases List.getElem?_eq_some_iff.1 hat with ⟨hlt, _⟩
    rw [← hplaced.length_eq] at hlt
    exact ⟨files[index], List.mem_iff_getElem?.2 ⟨index, by
      rw [List.getElem?_zip_eq_some]
      exact ⟨List.getElem?_eq_getElem hlt, hat⟩⟩⟩
  have hinside : ∀ row ∈ files.zip items, Copied row.2 →
      (PosixPath.StrictlyInside (captureRoot context.workspaceRoot sourceFolder label.text)
        row.2.targetPath ↔ homeFolder letters row ≠ [".."]) := by
    intro row hrow hcopied
    rcases hmem row hrow with ⟨hplace, hitem⟩
    rw [← hsource row.2 hitem hcopied]
    exact hplace.inside_iff hcopied.1
  have htarget : ∀ row ∈ files.zip items, Copied row.2 → ∀ other ∈ files.zip items,
      Copied other.2 → (row.2.targetPath = other.2.targetPath ↔
        Collides (homeFolder letters row) (entryPath letters row.1.entry)
            (homeFolder letters other) (entryPath letters other.1.entry) ∨
          Collides (homeFolder letters other)
            (entryPath letters other.1.entry) (homeFolder letters row)
            (entryPath letters row.1.entry)) := by
    intro row hrow hcopied other hother hcopied'
    rcases hmem row hrow with ⟨hplace, hitem⟩
    rcases hmem other hother with ⟨hplace', hitem'⟩
    rw [hplace.target_place hcopied.1, hplace'.target_place hcopied'.1,
      hsource row.2 hitem hcopied, hsource other.2 hitem' hcopied',
      ← place_eq_iff hplace.folder_cases hplace'.folder_cases (named_entryPath _ _)
        (named_entryPath _ _)]
    simp
  constructor
  · intro h
    constructor
    · intro row hrow hcopied
      exact (hinside row hrow hcopied).1 (h.inside row.2 (hmem row hrow).2 hcopied)
    · intro row hrow other hother hcopied hcopied' hsha hcollides
      rw [← (hmem row hrow).1.sha256, ← (hmem other hother).1.sha256] at hsha
      exact h.apart row.2 (hmem row hrow).2 other.2 (hmem other hother).2 hcopied hcopied' hsha
        ((htarget row hrow hcopied other hother hcopied').2 (Or.inl hcollides))
  · intro h
    constructor
    · intro item hitem other hother hcopied hcopied' hsha hpath
      rcases hrowOf item hitem with ⟨file, hrow⟩
      rcases hrowOf other hother with ⟨otherFile, hrow'⟩
      rw [(hmem _ hrow).1.sha256, (hmem _ hrow').1.sha256] at hsha
      rcases (htarget _ hrow hcopied _ hrow' hcopied').1 hpath with hcollides | hcollides
      · exact h.apart _ hrow _ hrow' hcopied hcopied' hsha hcollides
      · exact h.apart _ hrow' _ hrow hcopied' hcopied hsha.symm hcollides
    · intro item hitem hcopied
      rcases hrowOf item hitem with ⟨file, hrow⟩
      exact (hinside _ hrow hcopied).2 (h.folder _ hrow hcopied)

/-! ## Two exports of one name -/

lemma eq_of_toLower {c d : Char} (h : c.toLower = d) (hd : d.toNat < 97) : c = d := by
  unfold Char.toLower at h
  split_ifs at h with hupper
  · have hlow : 65 ≤ c.toNat := hupper.1
    have hhigh : c.toNat ≤ 90 := hupper.2
    have hval := congrArg Char.toNat h
    simp at hval
    omega
  · exact h

/-- Lower-casing of the letters of ASCII. -/
def asciiLower : LowerCase where
  lower text := String.ofList (text.toList.map Char.toLower)
  slash text h := by
    simp only [String.toList_ofList, List.mem_map] at h
    rcases h with ⟨c, hc, hlower⟩
    rwa [eq_of_toLower hlower (by decide)] at hc
  dots text h := by
    have hchars : text.toList.map Char.toLower = ['.', '.'] := String.ofList_injective h
    rcases List.map_eq_cons_iff.1 hchars with ⟨c, cs, htext, hc, hcs⟩
    rcases List.map_eq_singleton_iff.1 hcs with ⟨d, hcs, hd⟩
    rw [eq_of_toLower hc (by decide)] at htext
    rw [hcs, eq_of_toLower hd (by decide)] at htext
    exact String.toList_injective htext

lemma unarchived : ("" : String) = "" ↔ ("" : String) = "" := Iff.rfl

/-- A trade export in a directory, as no adapter claims it. -/
def exportFile (relativePath sha256 : String) (h : CleanPath relativePath) : RoutedFile :=
  let entry : ScannedFile :=
    { relativePath := relativePath
      filePath := "/incoming/run/" ++ relativePath
      sha256 := sha256
      archiveSourcePath := ""
      archiveMemberPath := ""
      clean := h
      member := unarchived }
  { entry := entry
    route := routeIntakeFile asciiLower (PosixPath.parse "/workspace") "run" none "unclassified" entry
    resolution := { sourceFolder := "unclassified", blocked := false } }

def firstContext : IntakeContext where
  workspaceRoot := PosixPath.parse "/workspace"
  manifestFingerprint _ := "fingerprint"
  plannedCaptureLabel _ _ := formatCaptureLabel ⟨2024, 1, 1, 0, 0, 0, 0, Instant.isDay_newYear⟩ none
  captureRows := []
  overlaps _ _ := false

/-- Two exports of January from different places. -/
def twoExports : List RoutedFile :=
  [exportFile "x/jan/trades.csv" "trades of x" (by decide +kernel),
    exportFile "y/jan/trades.csv" "trades of y" (by decide +kernel)]

/-- The second export is copied over the first. -/
theorem export_overwritten :
    ¬∀ (letters : LowerCase) (context : IntakeContext) (files : List RoutedFile),
      (buildPlannedItems letters context files).captureSessionPlan.captureStatus.materializes =
          true →
        PlacedSafely
          (captureRoot context.workspaceRoot
            (buildPlannedItems letters context files).captureSessionPlan.sourceFolder
            (buildPlannedItems letters context files).captureSessionPlan.captureLabel)
          (buildPlannedItems letters context files).plannedItems := by
  intro h
  have hsafe := h asciiLower firstContext twoExports (by decide +kernel)
  have hsame : ∃ item ∈ (buildPlannedItems asciiLower firstContext twoExports).plannedItems,
      ∃ other ∈ (buildPlannedItems asciiLower firstContext twoExports).plannedItems,
        Copied item ∧ Copied other ∧ item.sha256 ≠ other.sha256 ∧
          item.targetPath = other.targetPath := by
    decide +kernel
  rcases hsame with ⟨item, hitem, other, hother, hcopied, hcopied', hsha, hpath⟩
  exact hsafe.apart item hitem other hother hcopied hcopied' hsha hpath

/-- Two exports of different months. -/
def monthlyExports : List RoutedFile :=
  [exportFile "x/jan/trades.csv" "trades of January" (by decide +kernel),
    exportFile "y/feb/trades.csv" "trades of February" (by decide +kernel)]

/-- A capture of two exports of different content from directories of different names is placed
safely. -/
theorem export_placed_safely :
    PlacedSafely
      (captureRoot firstContext.workspaceRoot
        (buildPlannedItems asciiLower firstContext monthlyExports).captureSessionPlan.sourceFolder
        (buildPlannedItems asciiLower firstContext monthlyExports).captureSessionPlan.captureLabel)
      (buildPlannedItems asciiLower firstContext monthlyExports).plannedItems := by
  have hplaces : ∀ row ∈ monthlyExports.zip
        (buildPlannedItems asciiLower firstContext monthlyExports).plannedItems,
      ∀ other ∈ monthlyExports.zip
        (buildPlannedItems asciiLower firstContext monthlyExports).plannedItems,
        row.1.entry.sha256 ≠ other.1.entry.sha256 →
          homeFolder asciiLower row ++
              (entryPath asciiLower row.1.entry).parts ≠
            homeFolder asciiLower other ++
              (entryPath asciiLower other.1.entry).parts := by
    decide +kernel
  refine (placement_safe_iff asciiLower firstContext monthlyExports (by decide +kernel)
    (by decide +kernel)).2 ⟨?_, ?_⟩
  · decide +kernel
  · intro row hrow other hother _ _ hsha hcollides
    exact hplaces row hrow other hother hsha hcollides.place_eq

end Intake
end Tallylot
