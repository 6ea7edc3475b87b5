import Tallylot.Data.Json
import Tallylot.Intake.Placement
import Mathlib.Data.Prod.Lex

/-!
# Idempotence — applying the same evidence again

Every apply that has a source folder is recorded with a fingerprint of its raw rows, and a later apply
of the same source and fingerprint is blocked.  The fingerprint is taken of the rows sorted by their
path and their path in an archive, so that rows that agree in both keep the order of the scan: the
same evidence is recognized where these are scanned in one order (`intake_idempotent`).
-/

namespace Tallylot
namespace Intake

open Data

/-! ## The fingerprint -/

/-- A digest without collisions. -/
structure Digest where
  hexdigest : String → String
  injective : Function.Injective hexdigest
  nonblank : ∀ text, hexdigest text ≠ ""

/-- What a fingerprint says about a raw row. -/
structure ManifestEntry where
  archiveMemberPath : String
  archiveSourcePath : String
  relativePath : String
  sha256 : String
  deriving DecidableEq, Repr

def manifestEntry (item : PlannedItem) : ManifestEntry where
  archiveMemberPath := item.archiveMemberPath
  archiveSourcePath := item.archiveSourcePath
  relativePath := item.relativePath
  sha256 := item.sha256

def ManifestEntry.json (entry : ManifestEntry) : Json :=
  .obj
    [("archive_member_path", .str entry.archiveMemberPath),
      ("archive_source_path", .str entry.archiveSourcePath),
      ("relative_path", .str entry.relativePath), ("sha256", .str entry.sha256)]

/-- What the entries are sorted by. -/
def ManifestEntry.key (entry : ManifestEntry) : String ×ₗ String :=
  toLex (entry.relativePath, entry.archiveMemberPath)

def sortedManifest (entries : List ManifestEntry) : List ManifestEntry :=
  sortedOn ManifestEntry.key entries

/-- `manifest_fingerprint` -/
def manifestFingerprint (digest : Digest) (items : List PlannedItem) : String :=
  digest.hexdigest
    (Json.dumps (.arr ((sortedManifest (items.map manifestEntry)).map ManifestEntry.json)))

lemma json_injective {entry entry' : ManifestEntry}
    (h : entry.json.chars = entry'.json.chars) : entry = entry' := by
  have hfield : ∀ key value value', (key, Json.str value) ∈
        [("archive_member_path", Json.str entry.archiveMemberPath),
          ("archive_source_path", .str entry.archiveSourcePath),
          ("relative_path", .str entry.relativePath), ("sha256", .str entry.sha256)] →
      (key, Json.str value') ∈
        [("archive_member_path", Json.str entry'.archiveMemberPath),
          ("archive_source_path", .str entry'.archiveSourcePath),
          ("relative_path", .str entry'.relativePath), ("sha256", .str entry'.sha256)] →
        value = value' := by
    intro key value value' hvalue hvalue'
    have hchars := Json.fieldChars_inj h (by simp) hvalue hvalue'
    rw [Json.chars, Json.chars] at hchars
    exact (@Json.strChars_append_inj value value' [] [] (by simpa using hchars)).1
  have hmember := hfield "archive_member_path" entry.archiveMemberPath entry'.archiveMemberPath
    (by simp) (by simp)
  have hsource := hfield "archive_source_path" entry.archiveSourcePath entry'.archiveSourcePath
    (by simp) (by simp)
  have hpath := hfield "relative_path" entry.relativePath entry'.relativePath (by simp) (by simp)
  have hsha := hfield "sha256" entry.sha256 entry'.sha256 (by simp) (by simp)
  cases entry
  cases entry'
  simp only [ManifestEntry.mk.injEq]
  exact ⟨hmember, hsource, hpath, hsha⟩

/-- Fingerprints agree exactly when the sorted entries do. -/
theorem manifestFingerprint_eq_iff (digest : Digest) {items items' : List PlannedItem} :
    manifestFingerprint digest items = manifestFingerprint digest items' ↔
      sortedManifest (items.map manifestEntry) = sortedManifest (items'.map manifestEntry) := by
  constructor
  · intro h
    have hchars := String.ofList_injective (digest.injective h)
    have hitems := Json.itemChars_inj hchars
    rw [List.map_map, List.map_map] at hitems
    exact List.map_injective_iff.2 (fun _ _ hsame => json_injective hsame) hitems
  · intro h
    rw [manifestFingerprint, manifestFingerprint, h]

/-! ## Applies -/

/-- One apply: the routed files of a tree, and what differs from one apply to the next. -/
structure IntakeApply where
  files : List RoutedFile
  plannedCaptureLabel : String → String → CaptureLabel
  overlaps : List PlannedItem → CaptureRow → Bool
  captureUid : String

/-- A workspace, with the letters and the digest of its host. -/
structure IntakeHost where
  letters : LowerCase
  digest : Digest
  workspaceRoot : PosixPath

namespace IntakeHost

variable (host : IntakeHost)

def context (rows : List CaptureRow) (apply : IntakeApply) : IntakeContext where
  workspaceRoot := host.workspaceRoot
  manifestFingerprint := manifestFingerprint host.digest
  plannedCaptureLabel := apply.plannedCaptureLabel
  captureRows := rows
  overlaps := apply.overlaps

def batch (rows : List CaptureRow) (apply : IntakeApply) : PlannedItemBatch :=
  buildPlannedItems host.letters (host.context rows apply) apply.files

/-- The rows that are read, and not skipped, before the package rules. -/
def plannedRaw (apply : IntakeApply) : List PlannedItem :=
  rawItems (apply.files.map (buildPlannedItem host.letters host.workspaceRoot))

def entries (apply : IntakeApply) : List ManifestEntry :=
  (host.plannedRaw apply).map manifestEntry

/-- The source of an apply. -/
def sourceOf (apply : IntakeApply) : String := (distinctSources (host.plannedRaw apply)).headD ""

end IntakeHost

/-- The registry after an apply; one without a source folder is not recorded. -/
def recordApply (rows : List CaptureRow) (apply : IntakeApply) (batch : PlannedItemBatch) :
    List CaptureRow :=
  let plan := batch.captureSessionPlan
  if plan.sourceFolder = "" then rows
  else rows ++ [⟨plan.sourceFolder, plan.manifestFingerprint, apply.captureUid⟩]

/-- The files that an apply copies. -/
def copiedItems (batch : PlannedItemBatch) : List PlannedItem :=
  batch.plannedItems.filter (fun item => isCopyAction item.action &&
    !(isSourceRaw item && !batch.captureSessionPlan.captureStatus.materializes))

/-- An apply with what it planned. -/
structure ApplyOutcome where
  apply : IntakeApply
  batch : PlannedItemBatch

/-- The applies of a workspace, one after the other. -/
def runApplies (host : IntakeHost) (rows : List CaptureRow) : List IntakeApply → List ApplyOutcome
  | [] => []
  | apply :: applies =>
      let batch := host.batch rows apply
      ⟨apply, batch⟩ :: runApplies host (recordApply rows apply batch) applies

/-- A materialized capture of a source. -/
def ApplyOutcome.MaterializedFor (outcome : ApplyOutcome) (source : String) : Prop :=
  outcome.batch.captureSessionPlan.captureStatus.materializes = true ∧ source ≠ "" ∧
    outcome.batch.captureSessionPlan.sourceFolder = source

/-- The same set of entries. -/
def SameEntries (host : IntakeHost) (apply apply' : IntakeApply) : Prop :=
  ∀ entry, entry ∈ host.entries apply ↔ entry ∈ host.entries apply'

/-- Entries that agree in both paths are listed alike. -/
def TiesAgree (host : IntakeHost) (apply apply' : IntakeApply) : Prop :=
  ∀ key, (host.entries apply).filter (fun entry => entry.key = key) =
    (host.entries apply').filter (fun entry => entry.key = key)

/-! ## The plan of one apply -/

section Planning

variable {host : IntakeHost} {rows : List CaptureRow} {apply : IntakeApply}

lemma earlierCaptures_isSome {fingerprint : String} (hne : fingerprint ≠ "")
    (overlaps : CaptureRow → Bool) (uids : List String) (rows : List CaptureRow) :
    (earlierCaptures fingerprint overlaps uids rows).1.isSome = true ↔
      ∃ row ∈ rows, row.manifestFingerprint = fingerprint := by
  induction rows generalizing uids with
  | nil => exact iff_of_false Bool.false_ne_true (fun ⟨_, h, _⟩ => by cases h)
  | cons row rows ih =>
      rw [earlierCaptures]
      by_cases hrow : row.manifestFingerprint = fingerprint
      · rw [if_pos ⟨hrow, hne⟩]
        exact iff_of_true rfl ⟨row, List.mem_cons_self, hrow⟩
      · rw [if_neg (fun h => hrow h.1), ih]
        constructor
        · rintro ⟨other, hother, hsame⟩
          exact ⟨other, List.mem_cons_of_mem _ hother, hsame⟩
        · rintro ⟨other, hother, hsame⟩
          rcases List.mem_cons.1 hother with rfl | hother
          · exact absurd hsame hrow
          · exact ⟨other, hother, hsame⟩

/-- An apply has no source folder and is blocked, or has the source and the fingerprint of its raw
rows and is a duplicate exactly of what is recorded. -/
inductive PlannedAs (host : IntakeHost) (rows : List CaptureRow) (apply : IntakeApply) :
    CaptureSessionPlan → Prop
  | blocked {plan : CaptureSessionPlan} (source : plan.sourceFolder = "")
      (status : plan.captureStatus = .captureBlocked) : PlannedAs host rows apply plan
  | session {plan : CaptureSessionPlan} (source : plan.sourceFolder = host.sourceOf apply)
      (fingerprint : plan.manifestFingerprint =
        manifestFingerprint host.digest (host.plannedRaw apply))
      (duplicate : plan.captureStatus = .duplicateBlocked ↔
        ∃ row ∈ rows, row.source = plan.sourceFolder ∧
          row.manifestFingerprint = plan.manifestFingerprint)
      (materializes : plan.captureStatus ≠ .duplicateBlocked →
        plan.captureStatus.materializes = true) : PlannedAs host rows apply plan

lemma plannedAs_batch : PlannedAs host rows apply (host.batch rows apply).captureSessionPlan := by
  rw [IntakeHost.batch, buildPlannedItems]
  dsimp only
  unfold buildCaptureSessionPlan
  dsimp only
  split_ifs with hmixed hempty hsource
  · exact .blocked rfl rfl
  · exact .blocked rfl rfl
  · exact .blocked rfl rfl
  · have hne : manifestFingerprint host.digest (host.plannedRaw apply) ≠ "" := host.digest.nonblank _
    have hearlier := earlierCaptures_isSome hne (apply.overlaps (host.plannedRaw apply)) []
      (rows.filter (fun row => row.source = host.sourceOf apply))
    set earlier := earlierCaptures (manifestFingerprint host.digest (host.plannedRaw apply))
      (apply.overlaps (host.plannedRaw apply)) []
      (rows.filter (fun row => row.source = host.sourceOf apply)) with hset
    have hstatus : (planSession (host.context rows apply)
        (apply.files.map (buildPlannedItem host.letters host.workspaceRoot))).2.captureStatus =
          if earlier.1.isSome then .duplicateBlocked
          else if earlier.2 ≠ [] then .overlapReviewRequired
          else .planned := rfl
    refine .session rfl rfl ?_ ?_
    · have hduplicate : (planSession (host.context rows apply)
          (apply.files.map (buildPlannedItem host.letters host.workspaceRoot))).2.captureStatus =
            .duplicateBlocked ↔ earlier.1.isSome = true := by
        rw [hstatus]
        split_ifs with hsome hoverlap
        · exact iff_of_true rfl hsome
        · exact iff_of_false (fun h => by cases h) hsome
        · exact iff_of_false (fun h => by cases h) hsome
      refine hduplicate.trans (hearlier.trans ?_)
      constructor
      · rintro ⟨row, hrow, hsame⟩
        rcases List.mem_filter.1 hrow with ⟨hmem, hsource⟩
        exact ⟨row, hmem, of_decide_eq_true hsource, hsame⟩
      · rintro ⟨row, hmem, hsource, hsame⟩
        exact ⟨row, List.mem_filter.2 ⟨hmem, decide_eq_true hsource⟩, hsame⟩
    · intro hnot
      have hcases : ∀ status : CaptureStatus, status =
          (if earlier.1.isSome then .duplicateBlocked
            else if earlier.2 ≠ [] then .overlapReviewRequired
            else .planned) → status ≠ .duplicateBlocked → status.materializes = true := by
        rintro status hsame hne'
        split_ifs at hsame
        · exact absurd hsame hne'
        · rw [hsame]
          rfl
        · rw [hsame]
          rfl
      exact hcases _ hstatus hnot

/-- The source of an apply does not depend on what is recorded. -/
lemma sourceFolder_batch : (host.batch rows apply).captureSessionPlan.sourceFolder =
    (host.batch [] apply).captureSessionPlan.sourceFolder := by
  have hroot : (host.context rows apply).workspaceRoot = (host.context [] apply).workspaceRoot := rfl
  rw [IntakeHost.batch, IntakeHost.batch, buildPlannedItems, buildPlannedItems]
  dsimp only
  unfold buildCaptureSessionPlan
  dsimp only
  rw [hroot]
  split_ifs
  · rfl
  · rfl
  · rfl
  · rfl

/-- A materialized capture of a source has the source and the fingerprint of its raw rows. -/
lemma planned_of_materialized {source : String}
    (h : ApplyOutcome.MaterializedFor ⟨apply, host.batch rows apply⟩ source) :
    host.sourceOf apply = source ∧
      (host.batch rows apply).captureSessionPlan.manifestFingerprint =
        manifestFingerprint host.digest (host.plannedRaw apply) ∧
      ∀ row ∈ rows, row.source = source → row.manifestFingerprint ≠
        manifestFingerprint host.digest (host.plannedRaw apply) := by
  rcases h with ⟨hmaterializes, hne, hsource⟩
  cases @plannedAs_batch host rows apply with
  | blocked hblank _ => exact absurd (hsource.symm.trans hblank) hne
  | session hfolder hfingerprint hduplicate _ =>
      refine ⟨hfolder.symm.trans hsource, hfingerprint, fun row hrow hrowSource hsame => ?_⟩
      have hblocked := hduplicate.2
        ⟨row, hrow, hrowSource.trans hsource.symm, hsame.trans hfingerprint.symm⟩
      rw [hblocked] at hmaterializes
      cases hmaterializes

/-- A duplicate is one of what is recorded. -/
lemma planned_of_duplicate
    (h : (host.batch rows apply).captureSessionPlan.captureStatus = .duplicateBlocked) :
    ∃ row ∈ rows, row.source = (host.batch rows apply).captureSessionPlan.sourceFolder ∧
      row.manifestFingerprint = manifestFingerprint host.digest (host.plannedRaw apply) := by
  cases @plannedAs_batch host rows apply with
  | blocked _ hblocked =>
      rw [h] at hblocked
      cases hblocked
  | session _ hfingerprint hduplicate _ =>
      rcases hduplicate.1 h with ⟨row, hrow, hsource, hsame⟩
      exact ⟨row, hrow, hsource, hsame.trans hfingerprint⟩

end Planning

/-! ## Runs -/

section Runs

variable {host : IntakeHost}

/-- Every row of the registry is that of a materialized capture with its fingerprint, and every
capture of a source has a row. -/
structure Recorded (host : IntakeHost) (past : List ApplyOutcome) (rows : List CaptureRow) : Prop where
  materialized : ∀ row ∈ rows, ∃ outcome ∈ past, outcome.MaterializedFor row.source ∧
    row.manifestFingerprint = manifestFingerprint host.digest (host.plannedRaw outcome.apply)
  recorded : ∀ outcome ∈ past, ∀ source, outcome.MaterializedFor source →
    ∃ row ∈ rows, row.source = source ∧
      row.manifestFingerprint = manifestFingerprint host.digest (host.plannedRaw outcome.apply)

lemma recorded_nil (host : IntakeHost) : Recorded host [] [] :=
  ⟨fun _ h => absurd h List.not_mem_nil, fun _ h => absurd h List.not_mem_nil⟩

lemma Recorded.apply {past : List ApplyOutcome} {rows : List CaptureRow} (h : Recorded host past rows)
    (apply : IntakeApply) :
    Recorded host (past ++ [⟨apply, host.batch rows apply⟩])
      (recordApply rows apply (host.batch rows apply)) := by
  have hold : ∀ row ∈ rows, row ∈ recordApply rows apply (host.batch rows apply) := by
    intro row hrow
    unfold recordApply
    dsimp only
    split_ifs
    · exact hrow
    · exact List.mem_append_left _ hrow
  constructor
  · intro row hrow
    unfold recordApply at hrow
    dsimp only at hrow
    split_ifs at hrow with hblank
    · rcases h.materialized row hrow with ⟨outcome, hmem, hmaterialized⟩
      exact ⟨outcome, List.mem_append_left _ hmem, hmaterialized⟩
    · rcases List.mem_append.1 hrow with hrow | hrow
      · rcases h.materialized row hrow with ⟨outcome, hmem, hmaterialized⟩
        exact ⟨outcome, List.mem_append_left _ hmem, hmaterialized⟩
      · rw [List.mem_singleton.1 hrow]
        cases hplanned : @plannedAs_batch host rows apply with
        | blocked hsource _ => exact absurd hsource hblank
        | session hsource hfingerprint hduplicate hmaterializes =>
            by_cases hdup : (host.batch rows apply).captureSessionPlan.captureStatus =
                .duplicateBlocked
            · -- The row that it repeats is that of a materialized capture.
              rcases hduplicate.1 hdup with ⟨other, hother, hotherSource, hsame⟩
              rcases h.materialized other hother with ⟨outcome, hmem, hmaterialized, hotherPrint⟩
              refine ⟨outcome, List.mem_append_left _ hmem, ?_, hsame.symm.trans hotherPrint⟩
              exact hotherSource ▸ hmaterialized
            · exact ⟨_, List.mem_append_right _ (List.mem_singleton.2 rfl),
                ⟨hmaterializes hdup, hblank, rfl⟩, hfingerprint⟩
  · intro outcome hmem source hmaterialized
    rcases List.mem_append.1 hmem with hmem | hmem
    · rcases h.recorded outcome hmem source hmaterialized with ⟨row, hrow, hrest⟩
      exact ⟨row, hold row hrow, hrest⟩
    · rw [List.mem_singleton.1 hmem] at hmaterialized ⊢
      rcases hmaterialized with ⟨hmaterializes, hne, rfl⟩
      have hplanned := planned_of_materialized
        (⟨hmaterializes, hne, rfl⟩ : ApplyOutcome.MaterializedFor ⟨apply, host.batch rows apply⟩ _)
      refine ⟨⟨(host.batch rows apply).captureSessionPlan.sourceFolder,
        (host.batch rows apply).captureSessionPlan.manifestFingerprint, apply.captureUid⟩, ?_, rfl,
          hplanned.2.1⟩
      unfold recordApply
      dsimp only
      rw [if_neg hne]
      exact List.mem_append_right _ (List.mem_singleton.2 rfl)

/-- Every outcome of a run is planned on a registry that records the outcomes before it. -/
lemma recorded_before {past : List ApplyOutcome} {rows : List CaptureRow}
    (h : Recorded host past rows) {applies : List IntakeApply} {before after : List ApplyOutcome}
    {outcome : ApplyOutcome} (hrun : runApplies host rows applies = before ++ outcome :: after) :
    ∃ rows', Recorded host (past ++ before) rows' ∧
      outcome = ⟨outcome.apply, host.batch rows' outcome.apply⟩ := by
  induction applies generalizing past rows before with
  | nil => cases before <;> cases hrun
  | cons apply applies ih =>
      rw [runApplies] at hrun
      cases before with
      | nil =>
          refine ⟨rows, by simpa using h, ?_⟩
          rw [← (List.cons.inj hrun).1]
      | cons first before =>
          rcases List.cons.inj hrun with ⟨hfirst, hrest⟩
          rcases ih (h.apply apply) hrest with ⟨rows', hrecorded, hplanned⟩
          refine ⟨rows', ?_, hplanned⟩
          rw [← hfirst]
          simpa using hrecorded

lemma map_apply_runApplies (rows : List CaptureRow) (applies : List IntakeApply) :
    (runApplies host rows applies).map ApplyOutcome.apply = applies := by
  induction applies generalizing rows with
  | nil => rfl
  | cons apply applies ih => rw [runApplies, List.map_cons, ih]

lemma sameEntries_of_fingerprint {apply apply' : IntakeApply}
    (h : manifestFingerprint host.digest (host.plannedRaw apply) =
      manifestFingerprint host.digest (host.plannedRaw apply')) : SameEntries host apply apply' := by
  intro entry
  have hsorted := (manifestFingerprint_eq_iff host.digest).1 h
  have hmem : ∀ entries, entry ∈ sortedManifest entries ↔ entry ∈ entries := fun _ => mem_sortedOn
  rw [IntakeHost.entries, IntakeHost.entries, ← hmem, hsorted, hmem]

lemma fingerprint_of_tiesAgree {apply apply' : IntakeApply} (h : TiesAgree host apply apply') :
    manifestFingerprint host.digest (host.plannedRaw apply) =
      manifestFingerprint host.digest (host.plannedRaw apply') :=
  (manifestFingerprint_eq_iff host.digest).2 ((sortedOn_eq_iff ManifestEntry.key _ _).2 h)

/-- An apply with a source is a duplicate exactly where the sorted entries are those of a materialized
capture of that source. -/
theorem duplicate_iff {past : List ApplyOutcome} {rows : List CaptureRow}
    (h : Recorded host past rows) {apply : IntakeApply}
    (hsource : (host.batch rows apply).captureSessionPlan.sourceFolder ≠ "") :
    (host.batch rows apply).captureSessionPlan.captureStatus = .duplicateBlocked ↔
      ∃ earlier ∈ past,
        earlier.MaterializedFor (host.batch rows apply).captureSessionPlan.sourceFolder ∧
          sortedManifest (host.entries earlier.apply) = sortedManifest (host.entries apply) := by
  cases @plannedAs_batch host rows apply with
  | blocked hblank _ => exact absurd hblank hsource
  | session _ hfingerprint hduplicate _ =>
      rw [hduplicate]
      constructor
      · rintro ⟨row, hrow, hrowSource, hsame⟩
        rcases h.materialized row hrow with ⟨earlier, hmem, hmaterialized, hprint⟩
        refine ⟨earlier, hmem, hrowSource ▸ hmaterialized, ?_⟩
        exact (manifestFingerprint_eq_iff host.digest).1
          (hprint.symm.trans (hsame.trans hfingerprint))
      · rintro ⟨earlier, hmem, hmaterialized, hsorted⟩
        rcases h.recorded earlier hmem _ hmaterialized with ⟨row, hrow, hrowSource, hprint⟩
        refine ⟨row, hrow, hrowSource, hprint.trans (Eq.trans ?_ hfingerprint.symm)⟩
        exact (manifestFingerprint_eq_iff host.digest).2 hsorted

/-- What has a source and is no duplicate is materialized. -/
lemma materializedFor_of_fresh {rows : List CaptureRow} {apply : IntakeApply} {source : String}
    (hsource : (host.batch rows apply).captureSessionPlan.sourceFolder = source) (hne : source ≠ "")
    (hfresh : (host.batch rows apply).captureSessionPlan.captureStatus ≠ .duplicateBlocked) :
    ApplyOutcome.MaterializedFor ⟨apply, host.batch rows apply⟩ source := by
  cases @plannedAs_batch host rows apply with
  | blocked hblank _ => exact absurd (hsource.symm.trans hblank) hne
  | session _ _ _ hmaterializes => exact ⟨hmaterializes hfresh, hne, hsource⟩

end Runs

/-! ## A duplicate copies nothing -/

section Copies

variable {workspaceRoot : PosixPath} {planned : List PlannedItem}

/-- The package rules turn no row into a copy. -/
lemma isCopyAction_rules {items : List PlannedPackageItem}
    (h : ∀ item ∈ items, isCopyAction item.action = false) :
    ∀ item ∈ applyPackageRules items, isCopyAction item.action = false := by
  intro item hitem
  rcases List.getElem?_of_mem hitem with ⟨index, hindex⟩
  have hlt : index < items.length := by
    rw [← length_applyPackageRules]
    exact (List.getElem?_eq_some_iff.1 hindex).1
  have hold : items[index]? = some items[index] := List.getElem?_eq_getElem hlt
  have hskip : isCopyAction "skip" = false := by decide
  rcases rules_at hold hindex with rfl | ⟨_, _, decision, action, _, _, rfl⟩
  · exact h _ (List.getElem_mem hlt)
  · unfold replaceItem
    dsimp only
    split_ifs
    · exact hskip
    · exact hskip
    · exact h items[index] (List.getElem_mem hlt)

lemma isCopyAction_finalized (h : ∀ item ∈ planned, isCopyAction item.action = false) :
    ∀ item ∈ applyPackageRulesToItems workspaceRoot planned, isCopyAction item.action = false := by
  have hpackage : ∀ item ∈ planned.map packageItem, isCopyAction item.action = false := by
    intro item hitem
    rcases List.mem_map.1 hitem with ⟨row, hrow, rfl⟩
    exact h row hrow
  intro item hitem
  rcases List.mem_map.1 hitem with ⟨row, hrow, rfl⟩
  rw [finalizeItem]
  dsimp only
  cases hget : (packageMap planned).get? row.sourcePath with
  | none => exact h row hrow
  | some entry =>
      have hentry := Dict.mem_of_mem_entries_ofList ((Dict.get?_eq_some_iff _ _ _).1 hget)
      rcases List.mem_map.1 hentry with ⟨other, hother, hpair⟩
      rw [Option.getD_some, ← (Prod.mk.inj hpair).2]
      exact isCopyAction_rules hpackage other hother

lemma isCopyAction_marked (captureStatus placementStatus : String) :
    ∀ item ∈ markNonMaterializedCaptureItems captureStatus placementStatus planned,
      isCopyAction item.action = false := by
  intro item hitem
  rcases List.mem_map.1 hitem with ⟨row, _, rfl⟩
  dsimp only
  split_ifs with hcopy
  · decide
  · exact Bool.not_eq_true _ ▸ hcopy

/-- A blocked duplicate copies no file. -/
lemma copiedItems_of_duplicate {host : IntakeHost} {rows : List CaptureRow} {apply : IntakeApply}
    (h : (host.batch rows apply).captureSessionPlan.captureStatus = .duplicateBlocked) :
    copiedItems (host.batch rows apply) = [] := by
  rw [copiedItems, List.filter_eq_nil_iff]
  intro item hitem
  have hcopy : isCopyAction item.action = false := by
    rw [IntakeHost.batch, buildPlannedItems] at h hitem
    dsimp only at h hitem
    refine isCopyAction_finalized ?_ item hitem
    unfold buildCaptureSessionPlan at h ⊢
    dsimp only at h ⊢
    split_ifs at h ⊢
    · cases h
    · cases h
    · cases h
    · rw [planSession] at h ⊢
      dsimp only at h ⊢
      rw [if_pos h]
      exact isCopyAction_marked _ _
  rw [hcopy]
  exact Bool.false_ne_true

end Copies

/-! ## Idempotence -/

/-- What the applies of a workspace are to each other. -/
structure Idempotent (host : IntakeHost) (outcomes : List ApplyOutcome) : Prop where
  distinct : ∀ before outcome after, outcomes = before ++ outcome :: after →
    ∀ source, outcome.MaterializedFor source → ∀ earlier ∈ before, earlier.MaterializedFor source →
      ¬SameEntries host earlier.apply outcome.apply
  duplicate : ∀ before outcome after, outcomes = before ++ outcome :: after →
    outcome.batch.captureSessionPlan.captureStatus = .duplicateBlocked →
      ∃ earlier ∈ before,
        earlier.MaterializedFor outcome.batch.captureSessionPlan.sourceFolder ∧
          SameEntries host earlier.apply outcome.apply
  copies : ∀ outcome ∈ outcomes,
    outcome.batch.captureSessionPlan.captureStatus = .duplicateBlocked →
      copiedItems outcome.batch = []

/-- Applies of one source with the same entries list them alike where their paths agree. -/
def TiesStable (host : IntakeHost) (applies : List IntakeApply) : Prop :=
  ∀ apply ∈ applies, ∀ apply' ∈ applies, host.sourceOf apply = host.sourceOf apply' →
    SameEntries host apply apply' → TiesAgree host apply apply'

section Claims

variable {host : IntakeHost} {applies : List IntakeApply}

/-- A duplicate is one of a materialized capture, in every run. -/
lemma duplicate_justified {before after : List ApplyOutcome} {outcome : ApplyOutcome}
    (hrun : runApplies host [] applies = before ++ outcome :: after)
    (hduplicate : outcome.batch.captureSessionPlan.captureStatus = .duplicateBlocked) :
    ∃ earlier ∈ before, earlier.MaterializedFor outcome.batch.captureSessionPlan.sourceFolder ∧
      SameEntries host earlier.apply outcome.apply := by
  rcases recorded_before (recorded_nil host) hrun with ⟨rows, hrecorded, hplanned⟩
  rw [hplanned] at hduplicate ⊢
  dsimp only at hduplicate ⊢
  rcases planned_of_duplicate hduplicate with ⟨row, hrow, hsource, hsame⟩
  rcases hrecorded.materialized row hrow with ⟨earlier, hmem, hmaterialized, hprint⟩
  refine ⟨earlier, by simpa using hmem, hsource ▸ hmaterialized, ?_⟩
  exact sameEntries_of_fingerprint (hprint.symm.trans hsame)

/-- A duplicate copies nothing, in every run. -/
lemma duplicate_copies {outcome : ApplyOutcome} (hmem : outcome ∈ runApplies host [] applies)
    (hduplicate : outcome.batch.captureSessionPlan.captureStatus = .duplicateBlocked) :
    copiedItems outcome.batch = [] := by
  rcases List.append_of_mem hmem with ⟨before, after, hrun⟩
  rcases recorded_before (recorded_nil host) hrun with ⟨rows, _, hplanned⟩
  rw [hplanned] at hduplicate ⊢
  exact copiedItems_of_duplicate hduplicate

end Claims

/-- Where applies list entries of the same paths alike, the same evidence of a source is materialized
once, and a duplicate repeats a materialized capture and copies nothing. -/
theorem intake_idempotent {host : IntakeHost} {applies : List IntakeApply}
    (hties : TiesStable host applies) : Idempotent host (runApplies host [] applies) := by
  refine ⟨?_, fun before outcome after => duplicate_justified, fun outcome => duplicate_copies⟩
  intro before outcome after hrun source hmaterialized earlier hearlier hmaterialized' hsame
  have happly : ∀ other ∈ before ++ outcome :: after, other.apply ∈ applies := by
    intro other hother
    rw [← @map_apply_runApplies host [] applies, hrun]
    exact List.mem_map_of_mem hother
  rcases recorded_before (recorded_nil host) hrun with ⟨rows, hrecorded, hplanned⟩
  rw [hplanned] at hmaterialized
  rcases planned_of_materialized hmaterialized with ⟨hsource, _, hfresh⟩
  -- The earlier capture was planned on a registry of its own.
  rcases List.append_of_mem hearlier with ⟨first, middle, hbefore⟩
  rw [hbefore, List.append_assoc, List.cons_append] at hrun
  rcases recorded_before (recorded_nil host) hrun with ⟨rows', _, hplanned'⟩
  have hmaterialized'' := hmaterialized'
  rw [hplanned'] at hmaterialized''
  have hsource' := (planned_of_materialized hmaterialized'').1
  have hagree := hties earlier.apply (happly earlier (List.mem_append_left _ hearlier))
    outcome.apply (happly outcome (List.mem_append_right _ List.mem_cons_self))
    (hsource'.trans hsource.symm) hsame
  rcases hrecorded.recorded earlier (by simpa using hearlier) source hmaterialized' with
    ⟨row, hrow, hrowSource, hprint⟩
  exact hfresh row hrow hrowSource (hprint.trans (fingerprint_of_tiesAgree hagree))

/-! ## Two archives in one -/

/-- A digest that keeps its text. -/
def plainDigest : Digest where
  hexdigest text := "#" ++ text
  injective text text' h := by
    have hchars := congrArg String.toList h
    rw [String.toList_append, String.toList_append] at hchars
    exact String.toList_injective (List.append_cancel_left hchars)
  nonblank text h := by
    have hchars := congrArg String.toList h
    rw [String.toList_append] at hchars
    cases hchars

def plainHost : IntakeHost where
  letters := asciiLower
  digest := plainDigest
  workspaceRoot := PosixPath.parse "/workspace"

/-- A member of an archive, as no adapter claims it. -/
def memberFile (archive member sha256 : String) (h : CleanPath member)
    (hmember : archive = "" ↔ member = "") : RoutedFile :=
  let entry : ScannedFile :=
    { relativePath := archive ++ "::" ++ member
      filePath := "/extracted/" ++ sha256
      sha256 := sha256
      archiveSourcePath := archive
      archiveMemberPath := member
      clean := by
        split_ifs with hblank
        · rw [hblank] at h
          exact absurd h (by decide +kernel)
        · exact h
      member := hmember }
  { entry := entry
    route := routeIntakeFile asciiLower (PosixPath.parse "/workspace") "run" none "kraken" entry
    resolution := { sourceFolder := "kraken", blocked := false } }

/-- The archive itself, which the source map blocks. -/
def blockedArchive (sha256 : String) : RoutedFile :=
  { exportFile "outer.zip" sha256 (by decide +kernel) with
    resolution := { sourceFolder := "", blocked := true } }

/-- The first archive in it, with the trades of January. -/
def januaryArchive : List RoutedFile :=
  [memberFile "outer.zip" "inner1.zip" "first archive" (by decide +kernel) (by decide +kernel),
    memberFile "outer.zip::inner1.zip" "trades.csv" "january" (by decide +kernel)
      (by decide +kernel)]

/-- The second one, with those of February under the same name. -/
def februaryArchive : List RoutedFile :=
  [memberFile "outer.zip" "inner2.zip" "second archive" (by decide +kernel) (by decide +kernel),
    memberFile "outer.zip::inner2.zip" "trades.csv" "february" (by decide +kernel)
      (by decide +kernel)]

def applyOf (files : List RoutedFile) (captureUid : String) : IntakeApply where
  files := files
  plannedCaptureLabel := firstContext.plannedCaptureLabel
  overlaps _ _ := false
  captureUid := captureUid

def firstApply : IntakeApply :=
  applyOf (blockedArchive "packed once" :: (januaryArchive ++ februaryArchive)) "capture 1"

/-- The same two archives, the second of which is now packed as `./inner2.zip` and scanned first. -/
def repackedApply : IntakeApply :=
  applyOf (blockedArchive "packed again" :: (februaryArchive ++ januaryArchive)) "capture 2"

lemma source_firstApply :
    (plainHost.batch [] firstApply).captureSessionPlan.sourceFolder = "kraken" := by
  decide +kernel

lemma source_repackedApply :
    (plainHost.batch [] repackedApply).captureSessionPlan.sourceFolder = "kraken" := by
  decide +kernel

lemma firstApply_materialized :
    ApplyOutcome.MaterializedFor ⟨firstApply, plainHost.batch [] firstApply⟩ "kraken" := by
  refine materializedFor_of_fresh source_firstApply (by decide) ?_
  rw [Ne, duplicate_iff (recorded_nil plainHost) (source_firstApply ▸ by decide)]
  rintro ⟨earlier, hearlier, _⟩
  cases hearlier

/-- The repacked evidence is captured again. -/
theorem repacked_captured_again :
    ¬∀ (host : IntakeHost) (applies : List IntakeApply),
      Idempotent host (runApplies host [] applies) := by
  intro h
  have hdistinct := (h plainHost [firstApply, repackedApply]).distinct
    [⟨firstApply, plainHost.batch [] firstApply⟩]
    ⟨repackedApply, plainHost.batch
      (recordApply [] firstApply (plainHost.batch [] firstApply)) repackedApply⟩ [] rfl "kraken"
  refine hdistinct ?_ _ List.mem_cons_self firstApply_materialized ?_
  · have hsource : (plainHost.batch (recordApply [] firstApply (plainHost.batch [] firstApply))
        repackedApply).captureSessionPlan.sourceFolder = "kraken" :=
      sourceFolder_batch.trans source_repackedApply
    refine materializedFor_of_fresh hsource (by decide) ?_
    rw [Ne, duplicate_iff ((recorded_nil plainHost).apply firstApply) (hsource ▸ by decide)]
    rintro ⟨earlier, hearlier, _, hsorted⟩
    -- The two archives tie in the sort and are listed as scanned.
    rw [List.mem_singleton.1 hearlier] at hsorted
    exact absurd hsorted (by decide +kernel)
  · have hperm : (plainHost.entries firstApply).Perm (plainHost.entries repackedApply) := by
      decide +kernel
    exact fun _ => hperm.mem_iff

/-- The same tree is captured once, and applied again it is blocked. -/
theorem intake_idempotent_again :
    Idempotent plainHost (runApplies plainHost [] [firstApply, firstApply]) ∧
      (plainHost.batch (recordApply [] firstApply (plainHost.batch [] firstApply))
        firstApply).captureSessionPlan.captureStatus = .duplicateBlocked := by
  constructor
  · refine intake_idempotent ?_
    intro apply happly apply' happly' _ _ key
    rw [List.mem_pair, or_self] at happly happly'
    rw [happly, happly']
  · have hsource : (plainHost.batch (recordApply [] firstApply (plainHost.batch [] firstApply))
        firstApply).captureSessionPlan.sourceFolder = "kraken" :=
      sourceFolder_batch.trans source_firstApply
    rw [duplicate_iff ((recorded_nil plainHost).apply firstApply) (hsource ▸ by decide)]
    exact ⟨_, List.mem_append_right _ List.mem_cons_self, hsource ▸ firstApply_materialized, rfl⟩

end Intake
end Tallylot
