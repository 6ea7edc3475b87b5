import Tallylot.Captures.Lifecycle

/-!
# RegistryFiles — updates of the two registry files

Every update reads a whole file, changes one row and writes the file again under the columns that the
code knows.  A row with anything else in it is refused when the file has been emptied already
(`leavesOthers_iff`).
-/

namespace Tallylot
namespace Captures

open Data

/-- `source_captures.csv` and `source_inventory.csv`, where they exist. -/
structure RegistryFiles where
  captures : Option CsvFile
  inventory : Option CsvFile

/-- `SOURCE_CAPTURE_HEADER` -/
def sourceCaptureHeader : List String :=
  ["capture_uid", "source", "capture_label", "status", "intake_started_at", "intake_completed_at",
    "intake_method", "incoming_ref", "capture_root_ref", "manifest_fingerprint", "file_count",
    "observed_period_start", "observed_period_end", "observed_group_count",
    "supersedes_capture_uid", "notes"]

/-- The columns of a summary row, in their order. -/
def sourceInventoryHeader : List String :=
  ["source", "activity_after_cutoff", "scope_status", "status", "capture_count",
    "latest_capture_uid", "latest_capture_label", "latest_capture_completed_at", "assembly_status",
    "assembled_root_ref", "adapter_hints", "notes"]

/-! ## Updates -/

/-- `_latest_capture_row` -/
def latestCaptureCells (rows : List CsvRow) (captureUid : String) : Option CsvRow :=
  rows.reverse.find? (fun row => row.get "capture_uid" = some captureUid)

/-- A status change, as texts. -/
structure StatusUpdate where
  captureUid : String
  status : String
  notes : String := ""

/-- `{**latest, "status": ..., "notes": ...}` -/
def StatusUpdate.updated (update : StatusUpdate) (latest : CsvRow) : CsvRow :=
  let updated : CsvRow :=
    { latest with
      fields := latest.fields.set "status"
        (reduceStatusText (latest.get "status") update.status) }
  if update.notes = "" then updated else updated.set "notes" update.notes

/-- What a step asks of the summary of a source. -/
structure SummaryUpdate where
  source : String
  status : Option String := none
  assembledRootRef : Option String := none
  assembledOutputPresent : Option Bool := none
  assemblyExcludedCaptureCount : Option Nat := none

/-- The reduction of a summary update, given the rows of both registries. -/
def SummaryUpdate.reduction (update : SummaryUpdate) (captureRows sourceRows : List CsvRow) :
    SourceInventorySummaryReduction where
  source := update.source
  captureRows := captureRows
  sourceRows := sourceRows
  requestedStatus := update.status
  assembledRootRef := update.assembledRootRef
  assembledOutputPresent := update.assembledOutputPresent
  assemblyExcludedCaptureCount := update.assemblyExcludedCaptureCount

/-- The rows of the other sources. -/
def remainingRows (rows : List CsvRow) (source : String) : List CsvRow :=
  rows.filter (fun row => row.get "source" ≠ some source)

namespace RegistryFiles

variable (files : RegistryFiles)

/-- `append_capture_record` -/
def appendCaptureRecord (session : CaptureSession) : Update :=
  writeRows sourceCaptureHeader (readRows files.captures ++ [(captureRecord session).toRow])

/-- `append_capture_status_record` -/
def appendCaptureStatusRecord (update : StatusUpdate) : Update :=
  let rows := readRows files.captures
  match latestCaptureCells rows update.captureUid with
  | none => ⟨files.captures, false⟩
  | some latest => writeRows sourceCaptureHeader (rows ++ [update.updated latest])

/-- The reduction that a summary update makes on the files. -/
def reduction (update : SummaryUpdate) : SourceInventorySummaryReduction :=
  update.reduction (readRows files.captures) (readRows files.inventory)

/-- `update_source_inventory_summary` -/
def updateSourceInventorySummary (update : SummaryUpdate) : Update :=
  match reduceSourceInventorySummary (files.reduction update) with
  | .error _ => ⟨files.inventory, true⟩
  | .ok updatedRow =>
      writeRows updatedRow.fields.keys
        (remainingRows (readRows files.inventory) update.source ++ [updatedRow])

end RegistryFiles

/-- The three updates of the registries. -/
inductive RegistryUpdate
  | record (session : CaptureSession)
  | status (update : StatusUpdate)
  | summary (update : SummaryUpdate)

/-- The other captures, or the other sources, keep their rows, or the update raises and changes
nothing. -/
def RegistryUpdate.LeavesOthers (files : RegistryFiles) : RegistryUpdate → Prop
  | .record session =>
      Data.LeavesOthers "capture_uid" session.captureUid files.captures
        (files.appendCaptureRecord session)
  | .status update =>
      Data.LeavesOthers "capture_uid" update.captureUid files.captures
        (files.appendCaptureStatusRecord update)
  | .summary update =>
      Data.LeavesOthers "source" update.source files.inventory
        (files.updateSourceInventorySummary update)

/-! ## When an update leaves the others alone -/

/-- The records of a file that the writer does not refuse, and the others without repeated columns
that differ. -/
structure Rewritable (header : List String) (column key : String) (file : Option CsvFile)
    (kept : List (List String)) : Prop where
  fits : ∀ record ∈ kept, Fits file header record
  repeatsAgree : ∀ record ∈ othersOf column key file, RepeatsAgree (fieldnames file) record

/-- The records of the other sources. -/
def remainingRecords (file : Option CsvFile) (source : String) : List (List String) :=
  (dataRecords file).filter
    (fun record => (dictRow (fieldnames file) record).get "source" ≠ some source)

/-- No record of the file that is written back has a column or a surplus cell that the code does not
know, and no column is repeated with another cell; or there is nothing to write. -/
def RegistryUpdate.Safe (files : RegistryFiles) : RegistryUpdate → Prop
  | .record session =>
      Rewritable sourceCaptureHeader "capture_uid" session.captureUid files.captures
        (dataRecords files.captures)
  | .status update =>
      (∀ record ∈ dataRecords files.captures,
          (dictRow (fieldnames files.captures) record).get "capture_uid" ≠ some update.captureUid) ∨
        Rewritable sourceCaptureHeader "capture_uid" update.captureUid files.captures
          (dataRecords files.captures)
  | .summary update =>
      (∃ error, latestCompletedCaptureRow (files.reduction update).candidates = .error error) ∨
        Rewritable sourceInventoryHeader "source" update.source files.inventory
          (remainingRecords files.inventory update.source)

section Rows

variable {row : CsvRow} {column : String}

lemma mem_keys_ofTexts {cells : List (String × String)} :
    column ∈ (CsvRow.ofTexts cells).fields.keys ↔ column ∈ cells.map Prod.fst := by
  rw [CsvRow.ofTexts, Dict.mem_keys_ofList, List.map_map]
  rfl

lemma writable_toRow (row : CaptureRow) : Writable sourceCaptureHeader row.toRow :=
  ⟨rfl, fun _ hname => mem_keys_ofTexts.1 hname⟩

lemma captureUid_toRow (row : CaptureRow) : row.toRow.get "capture_uid" = some row.captureUid := by
  simp [CsvRow.get, CaptureRow.toRow, CsvRow.ofTexts, Dict.get?_ofList]

lemma nodup_sourceInventoryHeader : sourceInventoryHeader.Nodup := by decide

lemma keys_summaryRow (record : SourceInventorySummaryRecord) :
    record.toRow.fields.keys = sourceInventoryHeader := by
  rw [SourceInventorySummaryRecord.toRow, Dict.keys, Dict.entries_ofList]
  · rfl
  · exact nodup_sourceInventoryHeader

lemma source_summaryRow (record : SourceInventorySummaryRecord) :
    record.toRow.get "source" = some record.source := by
  simp [CsvRow.get, SourceInventorySummaryRecord.toRow, Dict.get?_ofList]

lemma get_set (row : CsvRow) (column column' text : String) :
    (row.set column text).get column' = if column' = column then some text else row.get column' := by
  rw [CsvRow.get, CsvRow.set, Dict.get?_set]
  split_ifs <;> rfl

/-- The status record of a capture has its uid. -/
lemma captureUid_updated (update : StatusUpdate) :
    (update.updated row).get "capture_uid" = row.get "capture_uid" := by
  have hstatus : (({ row with
      fields := row.fields.set "status" (reduceStatusText (row.get "status") update.status) } :
        CsvRow).get "capture_uid") = row.get "capture_uid" := by
    rw [CsvRow.get, Dict.get?_set, if_neg (by decide)]
    rfl
  unfold StatusUpdate.updated
  dsimp only
  split_ifs
  · exact hstatus
  · rw [get_set, if_neg (by decide), hstatus]

lemma mem_keys_set {d : Dict String (Option String)} {name : String} {value : Option String} :
    column ∈ (d.set name value).keys ↔ column = name ∨ column ∈ d.keys :=
  Dict.mem_keys_upsert d name column _

lemma writable_updated (update : StatusUpdate) (h : Writable sourceCaptureHeader row) :
    Writable sourceCaptureHeader (update.updated row) := by
  have hstatus : "status" ∈ sourceCaptureHeader := by decide
  have hnotes : "notes" ∈ sourceCaptureHeader := by decide
  unfold StatusUpdate.updated
  dsimp only
  split_ifs
  · refine ⟨h.1, fun name hname => ?_⟩
    rcases mem_keys_set.1 hname with rfl | hname
    · exact hstatus
    · exact h.2 name hname
  · refine ⟨h.1, fun name hname => ?_⟩
    rcases mem_keys_set.1 hname with rfl | hname
    · exact hnotes
    · rcases mem_keys_set.1 hname with rfl | hname
      · exact hstatus
      · exact h.2 name hname

end Rows

section Safety

variable {files : RegistryFiles}

lemma record_leavesOthers (session : CaptureSession) :
    (RegistryUpdate.record session).LeavesOthers files ↔
      (RegistryUpdate.record session).Safe files := by
  have huid : ((captureRecord session).toRow.get "capture_uid").getD "" = session.captureUid := by
    rw [captureUid_toRow]
    rfl
  have hwrite := @leavesOthers_writeRows files.captures sourceCaptureHeader "capture_uid"
    session.captureUid (dataRecords files.captures) (captureRecord session).toRow (by decide)
    (List.Sublist.refl _) rfl (fun _ => writable_toRow _) huid
  exact hwrite.trans ⟨fun h => ⟨h.1, h.2⟩, fun h => ⟨h.1, h.2⟩⟩

lemma latestCaptureCells_eq_none {rows : List CsvRow} {captureUid : String} :
    latestCaptureCells rows captureUid = none ↔
      ∀ row ∈ rows, row.get "capture_uid" ≠ some captureUid := by
  simp [latestCaptureCells, List.find?_eq_none]

lemma latestCaptureCells_eq_some {rows : List CsvRow} {captureUid : String} {row : CsvRow}
    (h : latestCaptureCells rows captureUid = some row) :
    row ∈ rows ∧ row.get "capture_uid" = some captureUid := by
  rw [latestCaptureCells] at h
  have huid := List.find?_some h
  exact ⟨List.mem_reverse.1 (List.mem_of_find?_eq_some h), of_decide_eq_true huid⟩

lemma status_leavesOthers (update : StatusUpdate) :
    (RegistryUpdate.status update).LeavesOthers files ↔
      (RegistryUpdate.status update).Safe files := by
  have hrows : (∀ record ∈ dataRecords files.captures,
        (dictRow (fieldnames files.captures) record).get "capture_uid" ≠ some update.captureUid) ↔
      latestCaptureCells (readRows files.captures) update.captureUid = none := by
    rw [latestCaptureCells_eq_none, readRows, List.forall_mem_map]
  simp only [RegistryUpdate.LeavesOthers, RegistryUpdate.Safe,
    RegistryFiles.appendCaptureStatusRecord, hrows]
  cases hlatest : latestCaptureCells (readRows files.captures) update.captureUid with
  | none => exact iff_of_true (leavesOthers_unchanged false) (Or.inl rfl)
  | some latest =>
      rcases latestCaptureCells_eq_some hlatest with ⟨hmem, huid⟩
      rcases List.mem_map.1 hmem with ⟨record, hrecord, rfl⟩
      have hkey : ((update.updated (dictRow (fieldnames files.captures) record)).get
          "capture_uid").getD "" = update.captureUid := by
        rw [captureUid_updated, huid]
        rfl
      have hwrite := @leavesOthers_writeRows files.captures sourceCaptureHeader "capture_uid"
        update.captureUid (dataRecords files.captures) _ (by decide) (List.Sublist.refl _) rfl
        (fun hfits => writable_updated update (writable_dictRow.2 (hfits record hrecord))) hkey
      refine hwrite.trans ⟨fun h => Or.inr ⟨h.1, h.2⟩, ?_⟩
      rintro (hnone | h)
      · cases hnone
      · exact ⟨h.1, h.2⟩

lemma summary_leavesOthers (update : SummaryUpdate) :
    (RegistryUpdate.summary update).LeavesOthers files ↔
      (RegistryUpdate.summary update).Safe files := by
  simp only [RegistryUpdate.LeavesOthers, RegistryUpdate.Safe,
    RegistryFiles.updateSourceInventorySummary]
  cases hreduce : reduceSourceInventorySummary (files.reduction update) with
  | error error =>
      have hlatest : ∃ error,
          latestCompletedCaptureRow (files.reduction update).candidates = .error error := by
        cases hlatest : latestCompletedCaptureRow (files.reduction update).candidates with
        | error error => exact ⟨error, rfl⟩
        | ok latest =>
            rcases latestCompletedCaptureRow_timestamp hlatest with ⟨completed, hcompleted⟩
            rw [reduceSourceInventorySummary_eq_ok.2 ⟨latest, completed, hlatest, hcompleted, rfl⟩]
              at hreduce
            cases hreduce
      exact iff_of_true (leavesOthers_unchanged true) (Or.inl hlatest)
  | ok updatedRow =>
      rcases reduceSourceInventorySummary_eq_ok.1 hreduce with
        ⟨latest, completed, hlatest, hcompleted, rfl⟩
      have hremaining : remainingRows (readRows files.inventory) update.source =
          (remainingRecords files.inventory update.source).map
            (dictRow (fieldnames files.inventory)) := by
        rw [remainingRows, readRows, List.filter_map]
        rfl
      have hothers : (remainingRecords files.inventory update.source).filter
            (fun record => recordText files.inventory "source" record ≠ update.source) =
          othersOf "source" update.source files.inventory := by
        rw [remainingRecords, List.filter_filter, othersOf]
        refine List.filter_congr (fun record _ => ?_)
        have himp : recordText files.inventory "source" record ≠ update.source →
            (dictRow (fieldnames files.inventory) record).get "source" ≠ some update.source := by
          intro hne hsame
          refine hne ?_
          rw [recordText, hsame]
          rfl
        rw [← Bool.decide_and]
        exact decide_eq_decide.2 ⟨fun h => h.1, fun h => ⟨h, himp h⟩⟩
      have hkey : (((files.reduction update).record latest completed).toRow.get "source").getD "" =
          update.source := by
        rw [source_summaryRow]
        rfl
      have hnew : Writable sourceInventoryHeader
          ((files.reduction update).record latest completed).toRow :=
        ⟨rfl, fun name hname => keys_summaryRow _ ▸ hname⟩
      have hwrite := @leavesOthers_writeRows files.inventory sourceInventoryHeader "source"
        update.source (remainingRecords files.inventory update.source) _ (by decide)
        List.filter_sublist hothers (fun _ => hnew) hkey
      dsimp only
      rw [hremaining, keys_summaryRow]
      refine hwrite.trans ⟨fun h => Or.inr ⟨h.1, h.2⟩, ?_⟩
      rintro (⟨error, herror⟩ | h)
      · rw [hlatest] at herror
        cases herror
      · exact ⟨h.1, h.2⟩

end Safety

/-- An update raises with its file as it was, or keeps every other row, exactly when no row that it
writes back has anything that the code's columns cannot hold. -/
theorem leavesOthers_iff (files : RegistryFiles) (update : RegistryUpdate) :
    update.LeavesOthers files ↔ update.Safe files := by
  cases update with
  | record session => exact record_leavesOthers session
  | status update => exact status_leavesOthers update
  | summary update => exact summary_leavesOthers update

/-- A source inventory with a column of the operator. -/
def inventoryWithOwner : RegistryFiles where
  captures := none
  inventory := some [["source", "status", "owner"], ["kraken", "normalized", "alice"]]

/-- A summary of another source loses the row and the column. -/
theorem operator_column_lost :
    ¬(RegistryUpdate.summary { source := "binance", status := some "profiled" }).LeavesOthers
      inventoryWithOwner := by
  intro h
  have hraised : (inventoryWithOwner.updateSourceInventorySummary
      { source := "binance", status := some "profiled" }).raised = true := by decide +kernel
  have hfile : (inventoryWithOwner.updateSourceInventorySummary
      { source := "binance", status := some "profiled" }).file = some [sourceInventoryHeader] := by
    decide +kernel
  rcases h with ⟨_, hsame⟩ | ⟨hclear, _⟩
  · rw [hfile] at hsame
    revert hsame
    decide
  · rw [hraised] at hclear
    cases hclear

end Captures
end Tallylot
