import Tallylot.Captures.Registry
import Tallylot.Data.CsvFile
import Tallylot.Data.Day

/-!
# Lifecycle — the summary row of a source

Every step on a capture ends with a new `source_inventory.csv` row for its source.  The row is reduced
from the row that is there, from the history of the source in the capture registry, and from what the
step asks for.  A cell that is missing from a short row is `none`.
-/

namespace Tallylot
namespace Captures

open Data

/-! ## Rows -/

/-- `SourceCaptureRecord.to_row` -/
def CaptureRow.toRow (row : CaptureRow) : CsvRow :=
  CsvRow.ofTexts
    [("capture_uid", row.captureUid), ("source", row.source),
      ("capture_label", row.captureLabel), ("status", row.status.text),
      ("intake_started_at", row.intakeStartedAt), ("intake_completed_at", row.intakeCompletedAt),
      ("intake_method", row.intakeMethod), ("incoming_ref", row.incomingRef),
      ("capture_root_ref", row.captureRootRef), ("manifest_fingerprint", row.manifestFingerprint),
      ("file_count", row.fileCount), ("observed_period_start", row.observedPeriodStart),
      ("observed_period_end", row.observedPeriodEnd),
      ("observed_group_count", row.observedGroupCount),
      ("supersedes_capture_uid", row.supersedesCaptureUid), ("notes", row.notes)]

/-- `SourceInventorySummaryRecord`, where a cell that was missing stays missing. -/
structure SourceInventorySummaryRecord where
  source : String
  activityAfterCutoff : Option String
  scopeStatus : Option String
  status : Option String
  captureCount : Nat
  latestCaptureUid : Option String
  latestCaptureLabel : Option String
  latestCaptureCompletedAt : Option Instant
  assemblyStatus : Option String
  assembledRootRef : Option String
  adapterHints : Option String
  notes : Option String

/-- `_optional_timestamp` -/
def optionalTimestamp (value : Option Instant) : String := (value.map Instant.timestampText).getD ""

/-- `SourceInventorySummaryRecord.to_row` -/
def SourceInventorySummaryRecord.toRow (record : SourceInventorySummaryRecord) : CsvRow where
  fields := Dict.ofList
    [("source", some record.source), ("activity_after_cutoff", record.activityAfterCutoff),
      ("scope_status", record.scopeStatus), ("status", record.status),
      ("capture_count", some (toString record.captureCount)),
      ("latest_capture_uid", record.latestCaptureUid),
      ("latest_capture_label", record.latestCaptureLabel),
      ("latest_capture_completed_at", some (optionalTimestamp record.latestCaptureCompletedAt)),
      ("assembly_status", record.assemblyStatus), ("assembled_root_ref", record.assembledRootRef),
      ("adapter_hints", record.adapterHints), ("notes", record.notes)]

/-! ## Statuses -/

/-- `_BLOCKED_CAPTURE_STATUSES` -/
def blockedCaptureStatuses : List String :=
  ["capture_blocked", "duplicate_blocked", "overlap_review_required", "superseded"]

def blockedStatus (status : Option String) : Bool := status ∈ blockedCaptureStatuses.map some

/-- `reduce_capture_status` on the text of a cell. -/
def reduceStatusText (existingStatus : Option String) (requestedStatus : String) : Option String :=
  if requestedStatus = "profiled" ∧
      existingStatus ∈ [some "normalized", some "assembly_included", some "assembly_excluded"] then
    existingStatus
  else if requestedStatus = "normalized" ∧
      existingStatus ∈ [some "assembly_included", some "assembly_excluded"] then
    existingStatus
  else some requestedStatus

/-- `_source_status_rank` -/
def sourceStatusRank (status : Option String) : Int :=
  if status = some "capture_complete" then 0
  else if status = some "profiled" then 1
  else if status = some "normalized" then 2
  else if status = some "assembled" then 3
  else -1

/-- `_higher_source_status` -/
def higherSourceStatus (first second : Option String) : Option String :=
  if sourceStatusRank second ≤ sourceStatusRank first then first else second

/-- `_source_status_from_capture_history` -/
def sourceStatusFromCaptureHistory (captureHistory : List CsvRow) (allowAssembled : Bool) : String :=
  let statuses := captureHistory.map (fun row => row.get "status")
  if allowAssembled = true ∧ some "assembly_included" ∈ statuses then "assembled"
  else if some "normalized" ∈ statuses ∨ some "assembly_included" ∈ statuses ∨
      some "assembly_excluded" ∈ statuses then
    "normalized"
  else if some "profiled" ∈ statuses then "profiled"
  else if ∃ status ∈ statuses, (status ≠ none ∧ status ≠ some "") ∧ blockedStatus status = false then
    "capture_complete"
  else ""

/-- `_reduce_assembly_source_status` -/
def reduceAssemblySourceStatus (existingStatus : Option String) (derivedStatus : String)
    (assembledOutputPresent : Bool) : Option String :=
  if assembledOutputPresent = true then some "assembled"
  else if existingStatus = some "assembled" then some derivedStatus
  else higherSourceStatus existingStatus (some derivedStatus)

/-- `_reduce_source_status` -/
def reduceSourceStatus (existingStatus : Option String) (captureHistory : List CsvRow)
    (requestedStatus : Option String) (assembledOutputPresent : Option Bool) : Option String :=
  match assembledOutputPresent with
  | some present =>
      reduceAssemblySourceStatus existingStatus
        (sourceStatusFromCaptureHistory captureHistory present) present
  | none =>
      match requestedStatus with
      | some requested => higherSourceStatus existingStatus (some requested)
      | none =>
          let derived := sourceStatusFromCaptureHistory captureHistory true
          if existingStatus ∈ [some "profiled", some "normalized", some "assembled"] then
            existingStatus
          else if derived ≠ "" then some derived
          else existingStatus

/-- `existing or default`, where a blank cell and a missing one are false. -/
def orText (value : Option String) (text : String) : Option String :=
  if value = none ∨ value = some "" then some text else value

/-- `_reduce_assembly_status` -/
def reduceAssemblyStatus (existingAssemblyStatus : Option String) (captureRows : List CsvRow)
    (assembledOutputPresent : Option Bool) (assemblyExcludedCaptureCount : Option Nat) :
    Option String :=
  match assembledOutputPresent with
  | some true => some "assembled"
  | some false =>
      let hasExcludedCaptures : Bool :=
        match assemblyExcludedCaptureCount with
        | none => captureRows ≠ []
        | some count => 0 < count
      if hasExcludedCaptures = true then some "excluded" else some "pending"
  | none => orText existingAssemblyStatus "pending"

/-- `_reduce_assembled_root_ref` -/
def reduceAssembledRootRef (existingRootRef : Option String) (assembledRootRef : Option String)
    (assembledOutputPresent : Option Bool) : Option String :=
  match assembledOutputPresent, assembledRootRef with
  | some true, some rootRef => some rootRef
  | some false, _ => some ""
  | _, some rootRef => some rootRef
  | _, none => existingRootRef

/-! ## The latest capture -/

/-- What a reduction can raise: a text that is no timestamp, or a missing cell compared with a
text. -/
inductive SummaryError
  | valueError
  | typeError
  deriving DecidableEq, Repr

/-- `_parse_optional_timestamp` -/
def parseOptionalTimestamp (value : Option String) : Except SummaryError (Option Instant) :=
  match value with
  | none => .ok none
  | some text =>
      if text = "" then .ok none
      else
        match Instant.readTimestamp text with
        | some instant => .ok (some instant)
        | none => .error .valueError

/-- `datetime.min` -/
def datetimeMin : Instant := ⟨1, 1, 1, 0, 0, 0, 0, Instant.isDay_min⟩

/-- What captures are compared by. -/
abbrev CompletionKey := Instant × Option String × Option String

def completionKey (row : CsvRow) : Except SummaryError CompletionKey :=
  match parseOptionalTimestamp (row.get "intake_completed_at") with
  | .error error => .error error
  | .ok completed =>
      .ok (completed.getD datetimeMin, row.get "capture_label", row.get "capture_uid")

/-- `first > second` for cells that differ. -/
def textGreater (first second : Option String) : Except SummaryError Bool :=
  match first, second with
  | some first, some second => .ok (second < first)
  | _, _ => .error .typeError

/-- `first > second` for tuples: the first places that differ are compared. -/
def keyGreater (first second : CompletionKey) : Except SummaryError Bool :=
  if first.1 ≠ second.1 then .ok (second.1.rank < first.1.rank)
  else if first.2.1 ≠ second.2.1 then textGreater first.2.1 second.2.1
  else if first.2.2 ≠ second.2.2 then textGreater first.2.2 second.2.2
  else .ok false

/-- One turn of `max`. -/
def laterCapture (best : CompletionKey × CsvRow) (row : CsvRow) :
    Except SummaryError (CompletionKey × CsvRow) :=
  match completionKey row with
  | .error error => .error error
  | .ok key =>
      match keyGreater key best.1 with
      | .error error => .error error
      | .ok greater => .ok (if greater = true then (key, row) else best)

/-- `_latest_completed_capture_row` -/
def latestCompletedCaptureRow : List CsvRow → Except SummaryError CsvRow
  | [] => .ok (CsvRow.ofTexts [])
  | first :: rest =>
      match completionKey first with
      | .error error => .error error
      | .ok key =>
          match rest.foldlM laterCapture (key, first) with
          | .error error => .error error
          | .ok best => .ok best.2

/-- `_latest_capture_rows_for_source` -/
def latestCaptureRowsForSource (rows : List CsvRow) (source : String) : Dict String CsvRow :=
  Dict.ofList ((rows.filter (fun row => row.get "source" = some source)).filterMap (fun row =>
    match row.get "capture_uid" with
    | none => none
    | some uid => if uid = "" then none else some (uid, row)))

/-! ## The summary -/

structure SourceInventorySummaryReduction where
  source : String
  captureRows : List CsvRow
  sourceRows : List CsvRow
  requestedStatus : Option String := none
  assembledRootRef : Option String := none
  assembledOutputPresent : Option Bool := none
  assemblyExcludedCaptureCount : Option Nat := none

/-- `_existing_value` -/
def existingValue (rows : List CsvRow) (source field : String) : Option String :=
  match rows.find? (fun row => row.get "source" = some source) with
  | some row => row.get field
  | none => some ""

namespace SourceInventorySummaryReduction

variable (reduction : SourceInventorySummaryReduction)

/-- The latest row of every capture of the source. -/
def matching : List CsvRow :=
  (latestCaptureRowsForSource reduction.captureRows reduction.source).values

/-- The rows among which the latest capture is looked for. -/
def candidates : List CsvRow :=
  let meaningfulRows := reduction.matching.filter (fun row => blockedStatus (row.get "status") = false)
  if meaningfulRows = [] then reduction.matching else meaningfulRows

def history : List CsvRow :=
  reduction.captureRows.filter (fun row => row.get "source" = some reduction.source)

def existing (field : String) : Option String :=
  existingValue reduction.sourceRows reduction.source field

/-- The record of a reduction, given the latest capture and when it was completed. -/
def record (latest : CsvRow) (completed : Option Instant) : SourceInventorySummaryRecord where
  source := reduction.source
  activityAfterCutoff := reduction.existing "activity_after_cutoff"
  scopeStatus := orText (reduction.existing "scope_status") "in_scope"
  status := reduceSourceStatus (reduction.existing "status") reduction.history
    reduction.requestedStatus reduction.assembledOutputPresent
  captureCount := reduction.matching.length
  latestCaptureUid := latest.get "capture_uid"
  latestCaptureLabel := latest.get "capture_label"
  latestCaptureCompletedAt := completed
  assemblyStatus := reduceAssemblyStatus (reduction.existing "assembly_status") reduction.matching
    reduction.assembledOutputPresent reduction.assemblyExcludedCaptureCount
  assembledRootRef := reduceAssembledRootRef (reduction.existing "assembled_root_ref")
    reduction.assembledRootRef reduction.assembledOutputPresent
  adapterHints := reduction.existing "adapter_hints"
  notes := reduction.existing "notes"

end SourceInventorySummaryReduction

/-- `reduce_source_inventory_summary` -/
def reduceSourceInventorySummary (reduction : SourceInventorySummaryReduction) :
    Except SummaryError CsvRow :=
  match latestCompletedCaptureRow reduction.candidates with
  | .error error => .error error
  | .ok latest =>
      match parseOptionalTimestamp (latest.get "intake_completed_at") with
      | .error error => .error error
      | .ok completed => .ok (reduction.record latest completed).toRow

/-! ## When a summary is reduced -/

lemma parseOptionalTimestamp_of_key {row : CsvRow} {key : CompletionKey}
    (h : completionKey row = .ok key) :
    ∃ completed, parseOptionalTimestamp (row.get "intake_completed_at") = .ok completed := by
  unfold completionKey at h
  cases hparse : parseOptionalTimestamp (row.get "intake_completed_at") with
  | error error =>
      rw [hparse] at h
      cases h
  | ok completed => exact ⟨completed, rfl⟩

lemma laterCapture_key {best best' : CompletionKey × CsvRow} {row : CsvRow}
    (hbest : completionKey best.2 = .ok best.1) (h : laterCapture best row = .ok best') :
    completionKey best'.2 = .ok best'.1 := by
  unfold laterCapture at h
  cases hkey : completionKey row with
  | error error =>
      rw [hkey] at h
      cases h
  | ok key =>
      rw [hkey] at h
      dsimp only at h
      cases hgreater : keyGreater key best.1 with
      | error error =>
          rw [hgreater] at h
          cases h
      | ok greater =>
          rw [hgreater] at h
          dsimp only at h
          rw [← Except.ok.inj h]
          split_ifs
          · exact hkey
          · exact hbest

lemma foldlM_laterCapture_key {rest : List CsvRow} {best best' : CompletionKey × CsvRow}
    (hbest : completionKey best.2 = .ok best.1) (h : rest.foldlM laterCapture best = .ok best') :
    completionKey best'.2 = .ok best'.1 := by
  induction rest generalizing best with
  | nil =>
      rw [← Except.ok.inj h]
      exact hbest
  | cons row rest ih =>
      rw [List.foldlM_cons] at h
      cases hturn : laterCapture best row with
      | error error =>
          rw [hturn] at h
          cases h
      | ok next =>
          rw [hturn] at h
          exact ih (laterCapture_key hbest hturn) h

/-- The latest row has a timestamp that is read, or none. -/
lemma latestCompletedCaptureRow_timestamp {rows : List CsvRow} {latest : CsvRow}
    (h : latestCompletedCaptureRow rows = .ok latest) :
    ∃ completed, parseOptionalTimestamp (latest.get "intake_completed_at") = .ok completed := by
  cases rows with
  | nil =>
      rw [← Except.ok.inj h]
      exact ⟨none, rfl⟩
  | cons first rest =>
      rw [latestCompletedCaptureRow] at h
      cases hkey : completionKey first with
      | error error =>
          rw [hkey] at h
          cases h
      | ok key =>
          rw [hkey] at h
          dsimp only at h
          cases hbest : rest.foldlM laterCapture (key, first) with
          | error error =>
              rw [hbest] at h
              cases h
          | ok best =>
              rw [hbest] at h
              rw [← Except.ok.inj h]
              exact parseOptionalTimestamp_of_key (foldlM_laterCapture_key hkey hbest)

/-- A summary is reduced exactly when there is a latest capture to name. -/
theorem reduceSourceInventorySummary_eq_ok {reduction : SourceInventorySummaryReduction}
    {row : CsvRow} :
    reduceSourceInventorySummary reduction = .ok row ↔
      ∃ latest completed, latestCompletedCaptureRow reduction.candidates = .ok latest ∧
        parseOptionalTimestamp (latest.get "intake_completed_at") = .ok completed ∧
          row = (reduction.record latest completed).toRow := by
  unfold reduceSourceInventorySummary
  cases hlatest : latestCompletedCaptureRow reduction.candidates with
  | error error => exact iff_of_false (fun h => by cases h) (fun ⟨_, _, h, _⟩ => by cases h)
  | ok latest =>
      rcases latestCompletedCaptureRow_timestamp hlatest with ⟨completed, hcompleted⟩
      dsimp only
      rw [hcompleted]
      constructor
      · intro h
        exact ⟨latest, completed, rfl, hcompleted, (Except.ok.inj h).symm⟩
      · rintro ⟨latest', completed', hlatest', hcompleted', rfl⟩
        cases hlatest'
        rw [hcompleted] at hcompleted'
        cases hcompleted'
        rfl

end Captures
end Tallylot
