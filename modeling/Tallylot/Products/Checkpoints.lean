import Tallylot.Data.Reordering
import Tallylot.Domain.Reconciliation
import Tallylot.Products.AssertionValues

/-!
# Checkpoints — the file of a checkpoint

The repository of checkpoints has its own copies of the field readers, and reads an asserted value with
its kind checked last.  A checkpoint is read back with times at the second, amounts rounded and
assertions in order; its checkpoint records keep theirs (`readCheckpoint_toPayload`).
-/

namespace Tallylot
namespace Products

open Data Domain Transactions

/-! ## Enumerations -/

inductive CheckpointAssertionValueKind
  | positionQuantity
  deriving DecidableEq

def assertionKinds : List CheckpointAssertionValueKind := [.positionQuantity]

def assertionKindValue : CheckpointAssertionValueKind → String
  | .positionQuantity => "position_quantity"

def trustLevels : List CheckpointAssertionTrustLevel := [.filingReady, .analysisReady]

def trustLevelValue : CheckpointAssertionTrustLevel → String
  | .filingReady => "filing_ready"
  | .analysisReady => "analysis_ready"

inductive CheckpointAssertionBasis
  | documentSupport
  | reconciledContinuity
  deriving DecidableEq

def assertionBases : List CheckpointAssertionBasis := [.documentSupport, .reconciledContinuity]

def basisValue : CheckpointAssertionBasis → String
  | .documentSupport => "document_support"
  | .reconciledContinuity => "reconciled_continuity"

inductive CheckpointAssertionSupportShape
  | documentObservation
  deriving DecidableEq

def supportShapes : List CheckpointAssertionSupportShape := [.documentObservation]

def supportShapeValue : CheckpointAssertionSupportShape → String
  | .documentObservation => "document_observation"

def continuityKinds : List CheckpointAssertionContinuityKind :=
  [.observedContinuity, .reconciledRollforward]

def continuityKindValue : CheckpointAssertionContinuityKind → String
  | .observedContinuity => "observed_continuity"
  | .reconciledRollforward => "reconciled_rollforward"

/-! ## Records -/

/-- An assertion with the fields that the builder always fills alike. -/
structure CheckpointAssertionRecord extends Domain.CheckpointAssertionRecord where
  kind : CheckpointAssertionValueKind
  basis : CheckpointAssertionBasis
  supportShape : CheckpointAssertionSupportShape
  deriving DecidableEq

structure Checkpoint where
  checkpointId : String
  reconciliationStateRefs : List String
  asOf : Instant
  checkpointRecords : List CheckpointRecord
  checkpointAssertionRecords : List CheckpointAssertionRecord
  deriving DecidableEq

/-! ## Writing -/

def recordPayload (record : CheckpointRecord) : JsonDict :=
  [ ("checkpoint_id", .str record.checkpointId),
    ("as_of", .str record.asOf.timestampText),
    ("assertion_ids", Json.strs record.assertionIds),
    ("proposal_refs", Json.strs (sortedOn id record.proposalRefs))]

def assertionPayload (assertion : CheckpointAssertionRecord) : JsonDict :=
  [ ("assertion_id", .str assertion.assertionId),
    ("checkpoint_id", .str assertion.checkpointId),
    ("subject_ref", assertion.subjectRef.payload),
    ("kind", .str (assertionKindValue assertion.kind)),
    ("as_of", .str assertion.asOf.timestampText),
    ("accepted_value", assertion.acceptedValue.payload),
    ("trust_level", .str (trustLevelValue assertion.trustLevel)),
    ("basis", .str (basisValue assertion.basis)),
    ("support_shape", .str (supportShapeValue assertion.supportShape)),
    ("continuity_kind", .str (continuityKindValue assertion.continuityKind))]

def assertionOrder (assertion : CheckpointAssertionRecord) : Instant ×ₗ String :=
  toLex (assertion.asOf, assertion.assertionId)

def Checkpoint.toPayload (checkpoint : Checkpoint) : JsonDict :=
  [ ("checkpoint_id", .str checkpoint.checkpointId),
    ("schema_version", .int 1),
    ("reconciliation_state_refs", Json.strs (sortedOn id checkpoint.reconciliationStateRefs)),
    ("as_of", .str checkpoint.asOf.timestampText),
    ("checkpoint_records", objects (checkpoint.checkpointRecords.map recordPayload)),
    ("checkpoint_assertion_records",
      objects ((sortedOn assertionOrder checkpoint.checkpointAssertionRecords).map
        assertionPayload))]

/-- `checkpoint_fingerprint` -/
def checkpointFingerprint (env : KernelEnvironment) (checkpoint : Checkpoint) : String :=
  env.sha256 (Json.dumps (.obj checkpoint.toPayload))

/-! ## Reading -/

/-- The word of the repository of checkpoints. -/
abbrev checkpointProduct : String := "checkpoint"

/-- `_required_subject_ref` -/
def checkpointSubjectRef (raw : JsonDict) : Decoded SubjectRef :=
  subjectRefFromPayload "checkpoint" (jsonGet raw "subject_ref")

/-- `_checkpoint_record_from_payload` -/
def recordFromPayload (raw : JsonDict) : Decoded CheckpointRecord := do
  let checkpointId ← requiredText checkpointProduct raw "checkpoint_id"
  let asOf ← requiredTemporal checkpointProduct raw "as_of" .timestamp
  let assertionIds ← requiredTextTuple checkpointProduct raw "assertion_ids"
  let proposalRefs ← requiredTextTuple checkpointProduct raw "proposal_refs"
  .ok { checkpointId, asOf, assertionIds, proposalRefs }

/-- `_checkpoint_assertion_from_payload` -/
def assertionFromPayload (raw : JsonDict) : Decoded CheckpointAssertionRecord := do
  let assertionId ← requiredText checkpointProduct raw "assertion_id"
  let checkpointId ← requiredText checkpointProduct raw "checkpoint_id"
  let subjectRef ← checkpointSubjectRef raw
  let kind ←
    requiredMember checkpointProduct assertionKinds assertionKindValue
      "CheckpointAssertionValueKind" raw "kind"
  let asOf ← requiredTemporal checkpointProduct raw "as_of" .timestamp
  let acceptedValue ← checkpointValueFromPayload (jsonGet raw "accepted_value")
  let trustLevel ←
    requiredMember checkpointProduct trustLevels trustLevelValue "CheckpointAssertionTrustLevel" raw
      "trust_level"
  let basis ←
    requiredMember checkpointProduct assertionBases basisValue "CheckpointAssertionBasis" raw
      "basis"
  let supportShape ←
    requiredMember checkpointProduct supportShapes supportShapeValue
      "CheckpointAssertionSupportShape" raw "support_shape"
  let continuityKind ←
    requiredMember checkpointProduct continuityKinds continuityKindValue
      "CheckpointAssertionContinuityKind" raw "continuity_kind"
  .ok
    { assertionId, checkpointId, subjectRef, asOf, acceptedValue, trustLevel, continuityKind, kind,
      basis, supportShape }

/-- `read_checkpoint`, from the JSON value of the file. -/
def readCheckpoint (content : Json) : Decoded Checkpoint := do
  let payload ← requiredDict checkpointProduct "payload" content
  requireSchemaVersion checkpointProduct payload
  let checkpointId ← requiredText checkpointProduct payload "checkpoint_id"
  let reconciliationStateRefs ←
    requiredTextTuple checkpointProduct payload "reconciliation_state_refs"
  let asOf ← requiredTemporal checkpointProduct payload "as_of" .timestamp
  let checkpointRecords ←
    readItems checkpointProduct "checkpoint record" recordFromPayload payload "checkpoint_records"
  let checkpointAssertionRecords ←
    readItems checkpointProduct "checkpoint assertion" assertionFromPayload payload
      "checkpoint_assertion_records"
  .ok
    { checkpointId, reconciliationStateRefs, asOf, checkpointRecords, checkpointAssertionRecords }

/-! ## Records that are read back -/

def settledRecord (record : CheckpointRecord) : CheckpointRecord :=
  { record with
    asOf := record.asOf.wholeSecond
    proposalRefs := sortedOn id record.proposalRefs }

theorem recordFromPayload_eq_ok_iff (record found : CheckpointRecord) :
    recordFromPayload (recordPayload record) = .ok found ↔
      record.checkpointId ≠ "" ∧ found = settledRecord record := by
  have hid : jsonGet (recordPayload record) "checkpoint_id" = .str record.checkpointId := rfl
  refine reading_eq_ok_iff ?_ ?_ found
  · intro e h
    rcases bind_eq_ok_iff.1 h with ⟨_, hreadId, _⟩
    exact ne_blank_of_read hreadId hid
  · intro h
    have hasOf : requiredTemporal checkpointProduct (recordPayload record) "as_of" .timestamp =
        .ok record.asOf.wholeSecond := requiredTemporal_of_get rfl
    have hassertions : requiredTextTuple checkpointProduct (recordPayload record) "assertion_ids" =
        .ok record.assertionIds := requiredTextTuple_of_get rfl
    have hproposals : requiredTextTuple checkpointProduct (recordPayload record) "proposal_refs" =
        .ok (sortedOn id record.proposalRefs) := requiredTextTuple_of_get rfl
    simp only [recordFromPayload, requiredText_of_get hid h, hasOf, hassertions, hproposals,
      bind_ok]
    rfl

structure CheckpointAssertionRecord.Legible (assertion : CheckpointAssertionRecord) : Prop where
  assertionId : assertion.assertionId ≠ ""
  checkpointId : assertion.checkpointId ≠ ""
  acceptedValue : Products.Legible assertion.acceptedValue

def CheckpointAssertionRecord.settled (assertion : CheckpointAssertionRecord) :
    CheckpointAssertionRecord :=
  { assertion with
    asOf := assertion.asOf.wholeSecond
    acceptedValue := settledValue assertion.acceptedValue }

lemma CheckpointAssertionRecord.settled_settled (assertion : CheckpointAssertionRecord) :
    assertion.settled.settled = assertion.settled := by
  simp only [settled, settledValue_settledValue]
  rfl

/-- An assertion is read exactly where its ids are there and its value passes its checks. -/
theorem assertionFromPayload_eq_ok_iff (assertion found : CheckpointAssertionRecord) :
    assertionFromPayload (assertionPayload assertion) = .ok found ↔
      assertion.Legible ∧ found = assertion.settled := by
  have hid : jsonGet (assertionPayload assertion) "assertion_id" = .str assertion.assertionId := rfl
  have hcheckpoint : jsonGet (assertionPayload assertion) "checkpoint_id" =
      .str assertion.checkpointId := rfl
  have hvalue : jsonGet (assertionPayload assertion) "accepted_value" =
      assertion.acceptedValue.payload := rfl
  have hsubject : checkpointSubjectRef (assertionPayload assertion) = .ok assertion.subjectRef :=
    subjectRefFromPayload_payload "checkpoint" assertion.subjectRef
  have hkind : requiredMember checkpointProduct assertionKinds assertionKindValue
      "CheckpointAssertionValueKind" (assertionPayload assertion) "kind" = .ok assertion.kind :=
    requiredMember_of_get rfl (by cases assertion.kind; decide) (by decide)
      (by cases assertion.kind; decide)
  have hasOf : requiredTemporal checkpointProduct (assertionPayload assertion) "as_of" .timestamp =
      .ok assertion.asOf.wholeSecond := requiredTemporal_of_get rfl
  have htrust : requiredMember checkpointProduct trustLevels trustLevelValue
      "CheckpointAssertionTrustLevel" (assertionPayload assertion) "trust_level" =
        .ok assertion.trustLevel :=
    requiredMember_of_get rfl (by cases assertion.trustLevel <;> decide) (by decide)
      (by cases assertion.trustLevel <;> decide)
  have hbasis : requiredMember checkpointProduct assertionBases basisValue
      "CheckpointAssertionBasis" (assertionPayload assertion) "basis" = .ok assertion.basis :=
    requiredMember_of_get rfl (by cases assertion.basis <;> decide) (by decide)
      (by cases assertion.basis <;> decide)
  have hshape : requiredMember checkpointProduct supportShapes supportShapeValue
      "CheckpointAssertionSupportShape" (assertionPayload assertion) "support_shape" =
        .ok assertion.supportShape :=
    requiredMember_of_get rfl (by cases assertion.supportShape; decide) (by decide)
      (by cases assertion.supportShape; decide)
  have hcontinuity : requiredMember checkpointProduct continuityKinds continuityKindValue
      "CheckpointAssertionContinuityKind" (assertionPayload assertion) "continuity_kind" =
        .ok assertion.continuityKind :=
    requiredMember_of_get rfl (by cases assertion.continuityKind <;> decide) (by decide)
      (by cases assertion.continuityKind <;> decide)
  simp only [assertionFromPayload, bind_eq_ok_iff, requiredText_eq_ok_iff hid,
    requiredText_eq_ok_iff hcheckpoint, hsubject, hkind, hasOf, hvalue,
    checkpointValueFromPayload_eq_ok_iff, htrust, hbasis, hshape, hcontinuity, bind_ok,
    Except.ok.injEq]
  constructor
  · rintro ⟨_, ⟨h1, rfl⟩, _, ⟨h2, rfl⟩, _, ⟨h3, rfl⟩, rfl⟩
    exact ⟨⟨h1, h2, h3⟩, rfl⟩
  · rintro ⟨⟨h1, h2, h3⟩, rfl⟩
    exact ⟨_, ⟨h1, rfl⟩, _, ⟨h2, rfl⟩, _, ⟨h3, rfl⟩, rfl⟩

/-! ## Checkpoints that are read back -/

namespace Checkpoint

/-- All texts that the records must have are there. -/
structure Legible (checkpoint : Checkpoint) : Prop where
  checkpointId : checkpoint.checkpointId ≠ ""
  records : ∀ record ∈ checkpoint.checkpointRecords, record.checkpointId ≠ ""
  assertions : ∀ assertion ∈ checkpoint.checkpointAssertionRecords, assertion.Legible

/-- The checkpoint with its records settled; only the assertions are sorted. -/
def settled (checkpoint : Checkpoint) : Checkpoint :=
  { checkpoint with
    reconciliationStateRefs := sortedOn id checkpoint.reconciliationStateRefs
    asOf := checkpoint.asOf.wholeSecond
    checkpointRecords := checkpoint.checkpointRecords.map settledRecord
    checkpointAssertionRecords :=
      (sortedOn assertionOrder checkpoint.checkpointAssertionRecords).map
        CheckpointAssertionRecord.settled }

/-- What is read from the file of a checkpoint. -/
theorem readCheckpoint_toPayload (checkpoint found : Checkpoint) :
    readCheckpoint (.obj checkpoint.toPayload) = .ok found ↔
      checkpoint.Legible ∧ found = checkpoint.settled := by
  have hid : jsonGet checkpoint.toPayload "checkpoint_id" = .str checkpoint.checkpointId := rfl
  have hschema : requireSchemaVersion checkpointProduct checkpoint.toPayload = .ok () :=
    requireSchemaVersion_of_get rfl
  have hrefs : requiredTextTuple checkpointProduct checkpoint.toPayload
      "reconciliation_state_refs" = .ok (sortedOn id checkpoint.reconciliationStateRefs) :=
    requiredTextTuple_of_get rfl
  have hasOf : requiredTemporal checkpointProduct checkpoint.toPayload "as_of" .timestamp =
      .ok checkpoint.asOf.wholeSecond := requiredTemporal_of_get rfl
  have hrecords : ∀ {records}, readItems checkpointProduct "checkpoint record" recordFromPayload
      checkpoint.toPayload "checkpoint_records" = .ok records ↔ _ :=
    readItems_eq_ok_iff rfl
      (forall₂_payloads checkpoint.checkpointRecords recordFromPayload_eq_ok_iff)
  have hassertions : ∀ {assertions}, readItems checkpointProduct "checkpoint assertion"
      assertionFromPayload checkpoint.toPayload "checkpoint_assertion_records" =
        .ok assertions ↔ _ :=
    readItems_eq_ok_iff rfl
      (forall₂_payloads (sortedOn assertionOrder checkpoint.checkpointAssertionRecords)
        assertionFromPayload_eq_ok_iff)
  simp only [readCheckpoint, requiredDict, hschema, hrefs, hasOf, bind_ok, bind_eq_ok_iff,
    requiredText_eq_ok_iff hid, hrecords, hassertions, Except.ok.injEq, mem_sortedOn]
  constructor
  · rintro ⟨_, ⟨h1, rfl⟩, _, ⟨h2, rfl⟩, _, ⟨h3, rfl⟩, rfl⟩
    exact ⟨⟨h1, h2, h3⟩, rfl⟩
  · rintro ⟨⟨h1, h2, h3⟩, rfl⟩
    exact ⟨_, ⟨h1, rfl⟩, _, ⟨h2, rfl⟩, _, ⟨h3, rfl⟩, rfl⟩

/-- What is lost in the file of a checkpoint is nothing. -/
structure Exact (checkpoint : Checkpoint) : Prop where
  stateRefs :
    sortedOn id checkpoint.reconciliationStateRefs = checkpoint.reconciliationStateRefs
  asOf : checkpoint.asOf.wholeSecond = checkpoint.asOf
  records : ∀ record ∈ checkpoint.checkpointRecords, settledRecord record = record
  assertionOrder : sortedOn assertionOrder checkpoint.checkpointAssertionRecords =
    checkpoint.checkpointAssertionRecords
  assertions : ∀ assertion ∈ checkpoint.checkpointAssertionRecords, assertion.settled = assertion

theorem settled_eq_iff (checkpoint : Checkpoint) :
    checkpoint.settled = checkpoint ↔ checkpoint.Exact := by
  have hassertions := map_sortedOn_eq_self_iff Products.assertionOrder
    checkpoint.checkpointAssertionRecords CheckpointAssertionRecord.settled_settled
  constructor
  · intro h
    have ha := hassertions.1 (congrArg checkpointAssertionRecords h)
    have hr := (map_eq_self_iff _ _).1 (congrArg checkpointRecords h)
    exact ⟨congrArg reconciliationStateRefs h, congrArg asOf h, hr, ha.1, ha.2⟩
  · intro h
    have ha := hassertions.2 ⟨h.assertionOrder, h.assertions⟩
    have hr := (map_eq_self_iff _ _).2 h.records
    simp only [settled, h.stateRefs, h.asOf, hr, ha]

end Checkpoint

end Products
end Tallylot
