import Mathlib.Tactic.Common

/-!
# Registry — the capture registry and its status records

`source_captures.csv` is an append-only log: an intake apply appends one row for the capture it
records, and every later status change appends a copy of the latest row of the capture with the
status that `reduceCaptureStatus` lets through.

A row carries the cells of the registry header; the cells that no reader of this development
interprets are kept as the text that is written.
-/

namespace Tallylot
namespace Captures

inductive CaptureStatus
  | captured
  | captureBlocked
  | duplicateBlocked
  | overlapReviewRequired
  | superseded
  | profiled
  | normalized
  | assemblyIncluded
  | assemblyExcluded
  deriving DecidableEq, Repr

namespace CaptureStatus

/-- The registry cell of a status. -/
def text : CaptureStatus → String
  | captured => "captured"
  | captureBlocked => "capture_blocked"
  | duplicateBlocked => "duplicate_blocked"
  | overlapReviewRequired => "overlap_review_required"
  | superseded => "superseded"
  | profiled => "profiled"
  | normalized => "normalized"
  | assemblyIncluded => "assembly_included"
  | assemblyExcluded => "assembly_excluded"

end CaptureStatus

structure CaptureRow where
  captureUid : String
  source : String
  captureLabel : String
  status : CaptureStatus
  intakeStartedAt : String
  intakeCompletedAt : String
  intakeMethod : String
  incomingRef : String
  captureRootRef : String
  manifestFingerprint : String
  fileCount : String
  observedPeriodStart : String
  observedPeriodEnd : String
  observedGroupCount : String
  supersedesCaptureUid : String
  notes : String
  deriving DecidableEq, Repr

/-! ## Recording a capture -/

/-- The statuses that capture-session planning gives. -/
inductive SessionStatus
  | planned
  | captureBlocked
  | duplicateBlocked
  | overlapReviewRequired
  deriving DecidableEq, Repr

/-- An intake apply that reaches the registry, with the uid generated for it. -/
structure CaptureSession where
  captureUid : String
  sourceFolder : String
  captureLabel : String
  captureStatus : SessionStatus
  intakeStartedAt : String
  intakeCompletedAt : String
  incomingRef : String
  manifestFingerprint : String
  fileCount : Nat
  observedPeriodStart : String
  observedPeriodEnd : String
  observedGroupCount : Nat
  deriving DecidableEq, Repr

def sessionMaterializesCapture (status : SessionStatus) : Bool :=
  status ≠ .captureBlocked && status ≠ .duplicateBlocked

/-- The intake status of the recorded row: a planned session is recorded as captured. -/
def recordedStatus : SessionStatus → CaptureStatus
  | .planned => .captured
  | .captureBlocked => .captureBlocked
  | .duplicateBlocked => .duplicateBlocked
  | .overlapReviewRequired => .overlapReviewRequired

def captureRecord (session : CaptureSession) : CaptureRow where
  captureUid := session.captureUid
  source := session.sourceFolder
  captureLabel := session.captureLabel
  status := recordedStatus session.captureStatus
  intakeStartedAt := session.intakeStartedAt
  intakeCompletedAt := session.intakeCompletedAt
  intakeMethod := "source_intake_apply"
  incomingRef := session.incomingRef
  captureRootRef :=
    if sessionMaterializesCapture session.captureStatus then
      "evidence/raw/source/" ++ session.sourceFolder ++ "/" ++ session.captureLabel
    else ""
  manifestFingerprint := session.manifestFingerprint
  fileCount := toString session.fileCount
  observedPeriodStart := session.observedPeriodStart
  observedPeriodEnd := session.observedPeriodEnd
  observedGroupCount := toString session.observedGroupCount
  supersedesCaptureUid := ""
  notes := ""

/-- A session without a source folder is not recorded. -/
def appendCaptureRecord (rows : List CaptureRow) (session : CaptureSession) : List CaptureRow :=
  if session.sourceFolder = "" then rows else rows ++ [captureRecord session]

/-! ## Status records -/

def reduceCaptureStatus (existing requested : CaptureStatus) : CaptureStatus :=
  if requested = .profiled ∧
      existing ∈ [CaptureStatus.normalized, .assemblyIncluded, .assemblyExcluded] then
    existing
  else if requested = .normalized ∧
      existing ∈ [CaptureStatus.assemblyIncluded, .assemblyExcluded] then
    existing
  else requested

def latestCaptureRow (rows : List CaptureRow) (captureUid : String) : Option CaptureRow :=
  rows.reverse.find? (fun row => row.captureUid = captureUid)

/-- A status change asked for a capture. -/
structure StatusRequest where
  captureUid : String
  status : CaptureStatus
  notes : String := ""
  deriving DecidableEq, Repr

/-- The row that a status request appends after the latest row of its capture. -/
def StatusRequest.updated (request : StatusRequest) (latest : CaptureRow) : CaptureRow :=
  { latest with
    status := reduceCaptureStatus latest.status request.status
    notes := if request.notes = "" then latest.notes else request.notes }

def appendCaptureStatusRecord (rows : List CaptureRow) (request : StatusRequest) :
    List CaptureRow :=
  match latestCaptureRow rows request.captureUid with
  | none => rows
  | some latest => rows ++ [request.updated latest]

@[simp] lemma updated_captureUid (request : StatusRequest) (latest : CaptureRow) :
    (request.updated latest).captureUid = latest.captureUid := rfl

@[simp] lemma updated_source (request : StatusRequest) (latest : CaptureRow) :
    (request.updated latest).source = latest.source := rfl

@[simp] lemma updated_status (request : StatusRequest) (latest : CaptureRow) :
    (request.updated latest).status = reduceCaptureStatus latest.status request.status := rfl

/-! ## The rows of one capture -/

def rowsOf (rows : List CaptureRow) (captureUid : String) : List CaptureRow :=
  rows.filter (fun row => row.captureUid = captureUid)

lemma latestCaptureRow_eq (rows : List CaptureRow) (captureUid : String) :
    latestCaptureRow rows captureUid = (rowsOf rows captureUid).getLast? := by
  unfold latestCaptureRow rowsOf
  rw [← List.head?_reverse, ← List.filter_reverse, List.head?_filter]

lemma rowsOf_append_singleton (rows : List CaptureRow) (row : CaptureRow) (captureUid : String) :
    rowsOf (rows ++ [row]) captureUid =
      rowsOf rows captureUid ++ if row.captureUid = captureUid then [row] else [] := by
  by_cases h : row.captureUid = captureUid
  · simp [rowsOf, h]
  · simp [rowsOf, h]

/-- A status request only touches the rows of its own capture. -/
theorem rowsOf_appendCaptureStatusRecord (rows : List CaptureRow) (request : StatusRequest)
    (captureUid : String) :
    rowsOf (appendCaptureStatusRecord rows request) captureUid =
      if request.captureUid = captureUid then
        rowsOf rows captureUid ++ ((rowsOf rows captureUid).getLast?.map request.updated).toList
      else rowsOf rows captureUid := by
  unfold appendCaptureStatusRecord
  rw [latestCaptureRow_eq]
  cases hlast : (rowsOf rows request.captureUid).getLast? with
  | none =>
      by_cases h : request.captureUid = captureUid
      · subst h
        simp [hlast]
      · simp [h]
  | some latest =>
      have huid : latest.captureUid = request.captureUid := by
        have hmem := List.mem_of_getLast? hlast
        simpa [rowsOf] using (List.mem_filter.1 hmem).2
      by_cases h : request.captureUid = captureUid
      · subst h
        simp [rowsOf_append_singleton, huid, hlast]
      · simp [rowsOf_append_singleton, huid, h]

end Captures
end Tallylot
