import Tallylot.Data.Parts
import Tallylot.Intake.Placement

/-!
# PlannedPaths — the paths of a session after the package rules

The session plans a path for every raw row with `sourceRawTargetPathForItem`, which knows required
sidecars.  The package rules compute the path once more with `sourceRawTargetPath`, which does not, and
from the row's own source.  The two agree exactly on the files whose scanned path is their place in the
bundle (`placement_survives_iff`).
-/

namespace Tallylot
namespace Intake

open Data

/-! ## Rows of a labelled session -/

/-- A row as the session leaves it, with the path planned for it. -/
structure PlannedBySession (workspaceRoot : PosixPath) (plan : CaptureSessionPlan)
    (base item : PlannedItem) : Prop extends KeptBySession base item where
  sourcePath : item.sourcePath = base.sourcePath
  role : item.role = base.role
  relativePath : item.relativePath = base.relativePath
  archiveSourcePath : item.archiveSourcePath = base.archiveSourcePath
  archiveMemberPath : item.archiveMemberPath = base.archiveMemberPath
  label : isSourceRaw item = true → item.captureLabel = plan.captureLabel
  target : isSourceRaw item = true → item.targetPath =
    sourceRawTargetPathForItem workspaceRoot plan.sourceFolder plan.captureLabel item

lemma plannedBySession_labelItem {workspaceRoot : PosixPath} {plan : CaptureSessionPlan}
    {label : CaptureLabel} (hlabel : plan.captureLabel = label.text) (base : PlannedItem) :
    PlannedBySession workspaceRoot plan base
      (labelItem workspaceRoot plan.sourceFolder label base) := by
  unfold labelItem
  split_ifs with hraw
  · exact ⟨⟨rfl, rfl, rfl, rfl, rfl, rfl⟩, rfl, rfl, rfl, rfl, rfl, fun _ => hlabel.symm,
      fun _ => by rw [hlabel]; rfl⟩
  · exact ⟨⟨rfl, rfl, rfl, rfl, rfl, rfl⟩, rfl, rfl, rfl, rfl, rfl, fun h => absurd h hraw,
      fun h => absurd h hraw⟩

/-- Rows of a duplicate capture are skipped, and keep their paths. -/
lemma forall₂_markNonMaterialized {workspaceRoot : PosixPath} {plan : CaptureSessionPlan}
    {planned rows : List PlannedItem}
    (h : List.Forall₂ (PlannedBySession workspaceRoot plan) planned rows)
    (captureStatus placementStatus : String) :
    List.Forall₂ (PlannedBySession workspaceRoot plan) planned
      (markNonMaterializedCaptureItems captureStatus placementStatus rows) := by
  rw [markNonMaterializedCaptureItems, List.forall₂_map_right_iff]
  refine h.imp ?_
  intro base item hitem
  exact ⟨⟨hitem.category, hitem.sourceFolder, hitem.bundle, hitem.bundlePath, hitem.sha256,
      hitem.decision⟩,
    hitem.sourcePath, hitem.role, hitem.relativePath, hitem.archiveSourcePath,
    hitem.archiveMemberPath, hitem.label, hitem.target⟩

/-- A session with a label plans a path for each of its rows. -/
lemma plannedBySession_of_label {context : IntakeContext} {planned : List PlannedItem}
    (h : (buildCaptureSessionPlan context planned).1.2.captureLabel ≠ "") :
    List.Forall₂ (PlannedBySession context.workspaceRoot (buildCaptureSessionPlan context planned).1.2)
      planned (buildCaptureSessionPlan context planned).1.1 := by
  unfold buildCaptureSessionPlan at h ⊢
  dsimp only at h ⊢
  -- only the session of one source has a label
  split_ifs at h ⊢
  · exact absurd rfl h
  · exact absurd rfl h
  · exact absurd rfl h
  · have hlabelled : List.Forall₂
        (PlannedBySession context.workspaceRoot (planSession context planned).2) planned
        (planned.map (labelItem context.workspaceRoot (planSession context planned).2.sourceFolder
          (context.plannedCaptureLabel ((distinctSources (rawItems planned)).headD "")
            (context.manifestFingerprint (rawItems planned))))) := by
      rw [List.forall₂_map_right_iff, List.forall₂_same]
      exact fun base _ => plannedBySession_labelItem rfl base
    exact iteInduction (fun _ => forall₂_markNonMaterialized hlabelled _ _) (fun _ => hlabelled)

/-! ## Paths planned and paths given -/

/-- The path planned for a row, in the bundle that the package rules leave it in. -/
def expectedPath (workspaceRoot : PosixPath) (plan : CaptureSessionPlan) (item : PlannedItem)
    (row : PlannedPackageItem) : PosixPath :=
  if row.packageRowStatus = .packageMergeIntoPrimary then
    sourceRawTargetPathForItem workspaceRoot plan.sourceFolder plan.captureLabel
      { item with bundleId := row.decision.packagePrimaryBundleId }
  else item.targetPath

/-- The package rules give every raw row of the session the path planned for it. -/
def PlacementSurvives (context : IntakeContext) (planned : List PlannedItem) : Prop :=
  let session := (buildCaptureSessionPlan context planned).1
  ∀ (index : Nat) (item : PlannedItem) (row : PlannedPackageItem) (result : PlannedItem),
    session.1[index]? = some item → isSourceRaw item = true →
      (applyPackageRules (session.1.map packageItem))[index]? = some row →
        (applyPackageRulesToItems context.workspaceRoot session.1)[index]? = some result →
          result.targetPath = expectedPath context.workspaceRoot session.2 item row

/-- When a scanned file has one place in its bundle and in the plan of the session.  The plan puts a
required sidecar at its scanned path, or out of an archive into the folder of the archive's stem; the
bundle puts it at its path in the bundle's folder. -/
inductive PlaceKept (letters : LowerCase) (workspaceRoot : PosixPath) (plan : CaptureSessionPlan)
    (file : RoutedFile) (home : String) : Prop
  | exported (role : file.route.role ≠ "required_sidecar")
      (source : captureRoot workspaceRoot file.resolution.sourceFolder plan.captureLabel =
        captureRoot workspaceRoot plan.sourceFolder plan.captureLabel)
  | extracted (role : file.route.role = "required_sidecar")
      (member : file.entry.archiveMemberPath ≠ "")
      (folder : PosixPath.SamePlace
        (captureRoot workspaceRoot file.resolution.sourceFolder plan.captureLabel)
        (captureRoot workspaceRoot plan.sourceFolder plan.captureLabel) (bundleFolder home)
        (PosixPath.parse (PosixPath.parse file.entry.archiveSourcePath).stem).tail)
  | loose (role : file.route.role = "required_sidecar")
      (member : file.entry.archiveMemberPath = "")
      (path : PosixPath.SamePlace
        (captureRoot workspaceRoot file.resolution.sourceFolder plan.captureLabel)
        ((captureRoot workspaceRoot plan.sourceFolder plan.captureLabel).joinBase
          (relativeTargetPath file.entry.relativePath))
        (bundleFolder home ++ (entryPath letters file.entry).parts)
        (PosixPath.parse (relativeTargetPath file.entry.relativePath)).tail)

lemma parse_member {letters : LowerCase} {entry : ScannedFile} (h : entry.archiveMemberPath ≠ "") :
    PosixPath.parse entry.archiveMemberPath =
        ⟨"", (PosixPath.parse entry.archiveMemberPath).tail⟩ ∧
      PosixPath.parse (bundleRelativePath letters entry) =
        ⟨"", "contents" :: (PosixPath.parse entry.archiveMemberPath).tail⟩ := by
  have hclean := entry.clean
  rw [if_neg h] at hclean
  have hparse : PosixPath.parse entry.archiveMemberPath =
      ⟨"", (PosixPath.parse entry.archiveMemberPath).tail⟩ := by
    rw [← hclean.1]
  refine ⟨hparse, ?_⟩
  rw [bundleRelativePath, if_pos h]
  exact parse_below (by decide) hparse

/-- An extracted sidecar is planned in the folder of its archive. -/
lemma requiredRawSidecarPath_member {base : PosixPath} {relativePath archive member : String}
    (hne : member ≠ "")
    (hmember : PosixPath.parse member = ⟨"", (PosixPath.parse member).tail⟩) :
    requiredRawSidecarPath base relativePath archive member =
      (base.below (PosixPath.parse (PosixPath.parse archive).stem).tail).below
        ("contents" :: (PosixPath.parse member).tail) := by
  have hslash : '/' ∉ (PosixPath.parse archive).stem.toList :=
    slash_of_stem (slash_of_name (fun _ => PosixPath.isPart_of_mem_parse))
  have hstem : PosixPath.parse (PosixPath.parse archive).stem =
      ⟨"", (PosixPath.parse (PosixPath.parse archive).stem).tail⟩ := by
    rw [parse_folder hslash]
  have hcontents : PosixPath.parse "contents" = ⟨"", ["contents"]⟩ := by decide
  rw [requiredRawSidecarPath, if_pos hne, PosixPath.join_relative hmember,
    PosixPath.join_relative hcontents, PosixPath.join_relative hstem]
  simp [PosixPath.below]

/-- The rules leave a row of a file where the session planned it exactly where its place is kept. -/
lemma path_kept_iff {letters : LowerCase} {workspaceRoot : PosixPath} {plan : CaptureSessionPlan}
    {file : RoutedFile} {item : PlannedItem} {bundle : String}
    (hitem : PlannedBySession workspaceRoot plan (buildPlannedItem letters workspaceRoot file) item)
    (hbundle : FolderName bundle) :
    sourceRawTargetPath workspaceRoot item.sourceFolder plan.captureLabel bundle
        item.bundleRelativePath =
      sourceRawTargetPathForItem workspaceRoot plan.sourceFolder plan.captureLabel
        { item with bundleId := bundle } ↔
      PlaceKept letters workspaceRoot plan file bundle := by
  have hpath : item.bundleRelativePath = bundleRelativePath letters file.entry := hitem.bundlePath
  have hmember : item.archiveMemberPath = file.entry.archiveMemberPath := hitem.archiveMemberPath
  have harchive : item.archiveSourcePath = file.entry.archiveSourcePath := hitem.archiveSourcePath
  have hsource : item.sourceFolder = file.resolution.sourceFolder := hitem.sourceFolder
  have hitemrole : item.role = file.route.role := hitem.role
  have hparse := (parse_bundleRelativePath letters file.entry).1
  have hgiven : ∀ source : String, sourceRawTargetPath workspaceRoot source plan.captureLabel bundle
      item.bundleRelativePath = (captureRoot workspaceRoot source plan.captureLabel).below
        (bundleFolder bundle ++ (entryPath letters file.entry).parts) := by
    intro source
    rw [hpath]
    exact target_eq hbundle hparse
  unfold sourceRawTargetPathForItem
  dsimp only
  rw [hgiven, hsource, hitemrole, hmember, harchive]
  by_cases hrole : file.route.role = "required_sidecar"
  · rw [if_pos hrole]
    by_cases hloose : file.entry.archiveMemberPath = ""
    · have hrelative : item.relativePath = file.entry.relativePath := by
        rw [hitem.relativePath, buildPlannedItem]
        exact if_neg (not_not.2 hloose)
      rw [requiredRawSidecarPath, if_neg (not_not.2 hloose), hrelative, PosixPath.join_eq_below,
        PosixPath.below_eq_iff]
      constructor
      · exact .loose hrole hloose
      · intro h
        cases h with
        | exported role _ => exact absurd hrole role
        | extracted _ member _ => exact absurd hloose member
        | loose _ _ path => exact path
    · -- both paths end in `contents` and the member
      rcases @parse_member letters file.entry hloose with ⟨hrelative, hcontents⟩
      rw [hparse] at hcontents
      rw [requiredRawSidecarPath_member hloose hrelative, (PosixPath.mk.inj hcontents).2,
        PosixPath.below_append, PosixPath.below_inj, PosixPath.below_eq_iff]
      constructor
      · exact .extracted hrole hloose
      · intro h
        cases h with
        | exported role _ => exact absurd hrole role
        | extracted _ _ folder => exact folder
        | loose _ member _ => exact absurd member hloose
  · rw [if_neg hrole, hgiven, PosixPath.below_inj]
    constructor
    · exact .exported hrole
    · intro h
      cases h with
      | exported _ source => exact source
      | extracted role _ _ => exact absurd role hrole
      | loose role _ _ => exact absurd role hrole

/-- Among distinct source paths the dictionary holds every item's own row. -/
lemma packageMap_own {planned : List PlannedItem}
    (hpaths : (planned.map PlannedItem.sourcePath).Nodup) {index : Nat} {item : PlannedItem}
    {row : PlannedPackageItem} (hitem : planned[index]? = some item)
    (hrow : (applyPackageRules (planned.map packageItem))[index]? = some row) :
    (packageMap planned).get? item.sourcePath = some row := by
  rcases packageMap_at hitem hrow with ⟨entry, hentry, hpath, hget⟩
  rcases List.getElem?_of_mem hentry with ⟨other, hother⟩
  rcases List.getElem?_eq_some_iff.1 hother with ⟨hlt, _⟩
  rw [length_applyPackageRules, List.length_map] at hlt
  have hitem' := List.getElem?_eq_getElem hlt
  -- the entry's row is that of an item of the same path, which is the item itself
  have hsame : other = index := by
    refine (List.getElem?_inj (by simpa using hlt) hpaths).1 ?_
    rw [List.getElem?_map, List.getElem?_map, hitem, hitem', Option.map_some, Option.map_some,
      ← path_at hitem' hother, hpath]
  rw [hsame, hrow] at hother
  rw [hget, Option.some.inj hother]

/-- Among files of distinct paths, the planned paths survive the package rules exactly where every
raw file has one place in the plan and in the bundle that the rules leave it in. -/
theorem placement_survives_iff (letters : LowerCase) (context : IntakeContext)
    (files : List RoutedFile) (hpaths : (files.map (fun file => file.entry.filePath)).Nodup)
    (hlabel : (buildCaptureSessionPlan context
      (files.map (buildPlannedItem letters context.workspaceRoot))).1.2.captureLabel ≠ "") :
    PlacementSurvives context (files.map (buildPlannedItem letters context.workspaceRoot)) ↔
      let session := (buildCaptureSessionPlan context
        (files.map (buildPlannedItem letters context.workspaceRoot))).1
      ∀ (index : Nat) (file : RoutedFile) (row : PlannedPackageItem),
        files[index]? = some file → file.route.category = "source_raw" →
          (applyPackageRules (session.1.map packageItem))[index]? = some row →
            PlaceKept letters context.workspaceRoot session.2 file
              (homeBundle letters file row.packageRowStatus row.decision) := by
  have hplanned := plannedBySession_of_label hlabel
  unfold PlacementSurvives
  generalize (buildCaptureSessionPlan context
    (files.map (buildPlannedItem letters context.workspaceRoot))).1 = session at hplanned ⊢
  dsimp only
  rw [List.forall₂_map_left_iff] at hplanned
  have hnodup : (session.1.map PlannedItem.sourcePath).Nodup := by
    have hsame : session.1.map PlannedItem.sourcePath =
        files.map (fun file => file.entry.filePath) := by
      refine (List.forall₂_eq_eq_eq ▸ List.forall₂_map_left_iff.2 ?_)
      refine List.forall₂_map_right_iff.2 ?_
      exact (hplanned.imp (fun _ _ h => h.sourcePath)).flip
    rw [hsame]
    exact hpaths
  have hfolder : ∀ item ∈ session.1, FolderName item.bundleId ∧
      FolderName item.decision.packagePrimaryBundleId := by
    intro item hitem
    rcases exists_left_of_forall₂ hplanned hitem with ⟨file, _, hkept⟩
    rw [hkept.bundle, hkept.decision]
    exact ⟨folderName_bundleId _ _ _, folderName_bundleId _ _ _⟩
  have hat : ∀ {index : Nat} {file : RoutedFile} {item : PlannedItem}, files[index]? = some file →
      session.1[index]? = some item → PlannedBySession context.workspaceRoot session.2
        (buildPlannedItem letters context.workspaceRoot file) item := by
    intro index file item hfile hitem
    refine (List.forall₂_iff_zip.1 hplanned).2 (List.mem_iff_getElem?.2 ⟨index, ?_⟩)
    exact List.getElem?_zip_eq_some.2 ⟨hfile, hitem⟩
  -- row by row, the path given and the path planned are those of the file's place
  have hrow : ∀ (index : Nat) (file : RoutedFile) (item : PlannedItem) (row : PlannedPackageItem),
      files[index]? = some file → session.1[index]? = some item → isSourceRaw item = true →
        (applyPackageRules (session.1.map packageItem))[index]? = some row →
          ((∀ result, (applyPackageRulesToItems context.workspaceRoot session.1)[index]? =
              some result →
                result.targetPath = expectedPath context.workspaceRoot session.2 item row) ↔
            PlaceKept letters context.workspaceRoot session.2 file
              (homeBundle letters file row.packageRowStatus row.decision)) := by
    intro index file item row hfile hitem hraw hrow
    have hkept := hat hfile hitem
    have hhome : homeBundle letters file row.packageRowStatus row.decision =
        effectiveBundleId item row := by
      rw [effectiveBundleId, hkept.bundle]
      rfl
    have hbundle : FolderName (effectiveBundleId item row) :=
      folderName_effective (fun other hother => (hfolder other hother).1)
        (fun other hother => (hfolder other hother).2) (List.mem_of_getElem? hitem)
        (primary_of_items (List.mem_of_getElem? hrow))
    have hresult : (applyPackageRulesToItems context.workspaceRoot session.1)[index]? =
        some (finalizeItem context.workspaceRoot item row) := by
      rw [applyPackageRulesToItems, List.getElem?_map, hitem, Option.map_some,
        packageMap_own hnodup hitem hrow, Option.getD_some]
    have hgiven : (finalizeItem context.workspaceRoot item row).targetPath =
        sourceRawTargetPath context.workspaceRoot item.sourceFolder session.2.captureLabel
          (effectiveBundleId item row) item.bundleRelativePath := by
      rw [finalizeItem, if_pos (of_decide_eq_true hraw), hkept.label hraw]
    have hexpected : expectedPath context.workspaceRoot session.2 item row =
        sourceRawTargetPathForItem context.workspaceRoot session.2.sourceFolder
          session.2.captureLabel { item with bundleId := effectiveBundleId item row } := by
      unfold expectedPath effectiveBundleId
      split_ifs
      · rfl
      · exact hkept.target hraw
    rw [hhome, ← path_kept_iff hkept hbundle, ← hgiven, ← hexpected]
    constructor
    · intro h
      exact h _ hresult
    · intro h result hresult'
      rw [← Option.some.inj (hresult.symm.trans hresult'), h]
  have hlength := hplanned.length_eq
  constructor
  · intro h index file row hfile hcategory hrules
    have hlt := (List.getElem?_eq_some_iff.1 hfile).1
    have hitem := List.getElem?_eq_getElem (hlength ▸ hlt)
    have hraw : isSourceRaw _ = true :=
      decide_eq_true ((hat hfile hitem).category.trans hcategory)
    exact (hrow index file _ row hfile hitem hraw hrules).1
      (fun result hresult => h index _ row result hitem hraw hrules hresult)
  · intro h index item row result hitem hraw hrules hresult
    have hlt := (List.getElem?_eq_some_iff.1 hitem).1
    have hfile := List.getElem?_eq_getElem (hlength.symm ▸ hlt)
    have hcategory := (hat hfile hitem).category.symm.trans (of_decide_eq_true hraw)
    exact (hrow index _ item row hfile hitem hraw hrules).2
      (h index _ row hfile hcategory hrules) result hresult

/-- A member of an archive that holds a saved page, as no adapter claims it. -/
def savedMember (memberPath sha256 : String) (hne : memberPath ≠ "") (h : CleanPath memberPath) :
    RoutedFile :=
  let entry : ScannedFile :=
    { relativePath := memberPath
      filePath := "/tmp/extracted/" ++ memberPath
      sha256 := sha256
      archiveSourcePath := "saved.zip"
      archiveMemberPath := memberPath
      clean := by rwa [if_neg hne]
      member := iff_of_false (by decide) hne }
  { entry := entry
    route := routeIntakeFile asciiLower (PosixPath.parse "/workspace") "run" none "unclassified" entry
    resolution := { sourceFolder := "unclassified", blocked := false } }

/-- A saved page in an archive, with a file that it shows. -/
def archivedPage : List RoutedFile :=
  [savedMember "page.html" "page" (by decide) (by decide +kernel),
    savedMember "page_files/style.css" "style" (by decide) (by decide +kernel)]

/-- The page keeps its place in the archive, and so does the sidecar. -/
theorem placement_survives_iff_archived :
    archivedPage.map (fun file => file.route.role) = ["source_export", "required_sidecar"] ∧
      PlacementSurvives firstContext
        (archivedPage.map (buildPlannedItem asciiLower firstContext.workspaceRoot)) := by
  refine ⟨by decide +kernel, ?_⟩
  refine (placement_survives_iff asciiLower firstContext archivedPage (by decide +kernel)
    (by decide +kernel)).2 ?_
  intro session index file row hfile _ hrow
  have hfiles : ∀ file ∈ archivedPage, file.resolution.sourceFolder = session.2.sourceFolder ∧
      file.entry.archiveMemberPath ≠ "" ∧
      bundleFolder (bundleId asciiLower file.entry file.resolution.sourceFolder) =
        (PosixPath.parse (PosixPath.parse file.entry.archiveSourcePath).stem).tail := by
    decide +kernel
  have hrows : ∀ row ∈ applyPackageRules (session.1.map packageItem),
      row.packageRowStatus ≠ .packageMergeIntoPrimary := by
    decide +kernel
  rcases hfiles file (List.mem_of_getElem? hfile) with ⟨hsource, hmember, hstem⟩
  have hhome : homeBundle asciiLower file row.packageRowStatus row.decision =
      bundleId asciiLower file.entry file.resolution.sourceFolder :=
    if_neg (hrows row (List.mem_of_getElem? hrow))
  by_cases hrole : file.route.role = "required_sidecar"
  · refine .extracted hrole hmember (.together (by rw [hsource]) ?_)
    rw [hhome, hstem]
  · exact .exported hrole (by rw [hsource])

/-- A page that was saved with the files that it shows. -/
def savedPage : List RoutedFile :=
  [exportFile "page.html" "page" (by decide +kernel),
    exportFile "page_files/style.css" "style" (by decide +kernel)]

def savedSession : List PlannedItem × CaptureSessionPlan :=
  (buildCaptureSessionPlan firstContext
    (savedPage.map (buildPlannedItem asciiLower firstContext.workspaceRoot))).1

/-- The files of the page leave the directory that the page names. -/
theorem sidecar_moved :
    ¬∀ (letters : LowerCase) (context : IntakeContext) (files : List RoutedFile),
      (files.map (fun file => file.entry.filePath)).Nodup →
        (buildCaptureSessionPlan context
          (files.map (buildPlannedItem letters context.workspaceRoot))).1.2.captureLabel ≠ "" →
          PlacementSurvives context
            (files.map (buildPlannedItem letters context.workspaceRoot)) := by
  intro h
  have hsurvives := h asciiLower firstContext savedPage (by decide +kernel) (by decide +kernel)
  have hrows : (savedSession.1[1]?).isSome = true ∧
      ((applyPackageRules (savedSession.1.map packageItem))[1]?).isSome = true ∧
        ((applyPackageRulesToItems firstContext.workspaceRoot savedSession.1)[1]?).isSome =
          true := by
    decide +kernel
  rcases hrows with ⟨hitem, hrow, hresult⟩
  rcases Option.isSome_iff_exists.1 hitem with ⟨item, hitem⟩
  rcases Option.isSome_iff_exists.1 hrow with ⟨row, hrow⟩
  rcases Option.isSome_iff_exists.1 hresult with ⟨result, hresult⟩
  have hmoved : ∀ item ∈ savedSession.1[1]?,
      ∀ row ∈ (applyPackageRules (savedSession.1.map packageItem))[1]?,
        ∀ result ∈ (applyPackageRulesToItems firstContext.workspaceRoot savedSession.1)[1]?,
          isSourceRaw item = true ∧ result.targetPath ≠
            expectedPath firstContext.workspaceRoot savedSession.2 item row := by
    decide +kernel
  rcases hmoved item hitem row hrow result hresult with ⟨hraw, hne⟩
  exact hne (hsurvives 1 item row result hitem hraw hrow hresult)

end Intake
end Tallylot
