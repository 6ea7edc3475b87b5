import Tallylot.Data.Reordering
import Tallylot.Domain.Reconciliation
import Tallylot.Products.AssertionValues

/-!
# ReconciliationStates — the file of a reconciliation state

The records of the builder with the fields that it leaves at their defaults, their payloads, and the
reader.  As for economic facts, reading gives the state with times at the second, amounts rounded and
lists in order (`readReconciliationState_toPayload`).
-/

namespace Tallylot
namespace Products

open Data Domain Transactions

/-! ## Enumerations -/

def segmentStatuses : List ContinuitySegmentStatus := [.complete, .partially]

def segmentStatusValue : ContinuitySegmentStatus → String
  | .complete => "complete"
  | .partially => "partial"

inductive BalanceTargetKind
  | exactBalance
  deriving DecidableEq

def targetKinds : List BalanceTargetKind := [.exactBalance]

def targetKindValue : BalanceTargetKind → String
  | .exactBalance => "exact_balance"

def observationStatuses : List BalanceTargetObservationStatus := [.observed, .unobserved]

def observationStatusValue : BalanceTargetObservationStatus → String
  | .observed => "observed"
  | .unobserved => "unobserved"

def comparisonOutcomes : List ComparisonOutcome := [.matched, .mismatched]

def comparisonOutcomeValue : ComparisonOutcome → String
  | .matched => "matched"
  | .mismatched => "mismatched"

def proposalStatuses : List CheckpointProposalStatus := [.ready, .partially, .blocked]

def proposalStatusValue : CheckpointProposalStatus → String
  | .ready => "ready"
  | .partially => "partial"
  | .blocked => "blocked"

/-! ## Records -/

structure EventLinkRecord where
  eventLinkId : String
  segmentId : String
  kind : String
  leftEventRef : String
  rightEventRef : String
  status : String
  deriving DecidableEq

/-- A proposal with the ref that the builder leaves blank. -/
structure CheckpointProposalRecord extends Domain.CheckpointProposalRecord where
  supersedingProposalRef : String
  deriving DecidableEq

structure ReconciliationState where
  reconciliationStateId : String
  economicFactsRef : String
  continuitySegmentRecords : List ContinuitySegmentRecord
  eventLinkRecords : List EventLinkRecord
  balanceTargetRecords : List BalanceTargetRecord
  checkpointProposalRecords : List CheckpointProposalRecord
  deriving DecidableEq

/-- The checks of the constructor of a target. -/
def TargetConsistent (target : BalanceTargetRecord) : Prop :=
  (target.observationStatus = .observed → target.observedValue ≠ none) ∧
    (target.observationStatus ≠ .observed → target.comparisonOutcome = none)

instance (target : BalanceTargetRecord) : Decidable (TargetConsistent target) :=
  inferInstanceAs (Decidable
    ((target.observationStatus = .observed → target.observedValue ≠ none) ∧
      (target.observationStatus ≠ .observed → target.comparisonOutcome = none)))

def createTarget (target : BalanceTargetRecord) : Decoded BalanceTargetRecord :=
  if TargetConsistent target then .ok target
  else if target.observationStatus = .observed then
    .error (.value "observed balance targets require observed_value")
  else .error (.value "unobserved balance targets must not set comparison_outcome")

/-! ## Writing -/

def segmentPayload (segment : ContinuitySegmentRecord) : JsonDict :=
  [ ("segment_id", .str segment.segmentId),
    ("subject_ref", segment.subjectRef.payload),
    ("segment_start_at", .str segment.segmentStartAt.timestampText),
    ("segment_end_at", .str segment.segmentEndAt.timestampText),
    ("status", .str (segmentStatusValue segment.status)),
    ("as_of", .str segment.asOf.timestampText)]

def eventLinkPayload (link : EventLinkRecord) : JsonDict :=
  [ ("event_link_id", .str link.eventLinkId),
    ("segment_id", .str link.segmentId),
    ("kind", .str link.kind),
    ("left_event_ref", .str link.leftEventRef),
    ("right_event_ref", .str link.rightEventRef),
    ("status", .str link.status)]

def optionalPayload {α : Type} (payload : α → Json) : Option α → Json
  | none => .null
  | some a => payload a

def targetPayload (target : BalanceTargetRecord) : JsonDict :=
  [ ("target_id", .str target.targetId),
    ("segment_id", .str target.segmentId),
    ("subject_ref", target.subjectRef.payload),
    ("kind", .str (targetKindValue .exactBalance)),
    ("as_of", .str target.asOf.timestampText),
    ("expected_value", target.expectedValue.payload),
    ("observed_value", optionalPayload AssertionValue.payload target.observedValue),
    ("observation_status", .str (observationStatusValue target.observationStatus)),
    ("comparison_outcome",
      optionalPayload (fun outcome => .str (comparisonOutcomeValue outcome))
        target.comparisonOutcome)]

def proposalPayload (proposal : CheckpointProposalRecord) : JsonDict :=
  [ ("proposal_id", .str proposal.proposalId),
    ("segment_id", .str proposal.segmentId),
    ("subject_ref", proposal.subjectRef.payload),
    ("as_of", .str proposal.asOf.timestampText),
    ("status", .str (proposalStatusValue proposal.status)),
    ("superseding_proposal_ref", .str proposal.supersedingProposalRef),
    ("target_refs", Json.strs (sortedOn id proposal.targetRefs)),
    ("evidence_refs", Json.strs (sortedOn id proposal.evidenceRefs))]

def segmentOrder (segment : ContinuitySegmentRecord) : Instant ×ₗ String :=
  toLex (segment.asOf, segment.segmentId)

def targetOrder (target : BalanceTargetRecord) : String ×ₗ Instant ×ₗ String :=
  toLex (target.segmentId, toLex (target.asOf, target.targetId))

def proposalOrder (proposal : CheckpointProposalRecord) : Instant ×ₗ String ×ₗ String :=
  toLex (proposal.asOf, toLex (proposal.segmentId, proposal.proposalId))

def ReconciliationState.toPayload (state : ReconciliationState) : JsonDict :=
  [ ("reconciliation_state_id", .str state.reconciliationStateId),
    ("schema_version", .int 1),
    ("economic_facts_ref", .str state.economicFactsRef),
    ("continuity_segment_records",
      objects ((sortedOn segmentOrder state.continuitySegmentRecords).map segmentPayload)),
    ("event_link_records", objects (state.eventLinkRecords.map eventLinkPayload)),
    ("balance_target_records",
      objects ((sortedOn targetOrder state.balanceTargetRecords).map targetPayload)),
    ("checkpoint_proposal_records",
      objects ((sortedOn proposalOrder state.checkpointProposalRecords).map proposalPayload))]

/-- `reconciliation_state_fingerprint` -/
def reconciliationStateFingerprint (env : KernelEnvironment) (state : ReconciliationState) :
    String :=
  env.sha256 (Json.dumps (.obj state.toPayload))

/-! ## Reading -/

/-- The words of the repository of reconciliation states. -/
abbrev stateProduct : String := "reconciliation state"

/-- `_required_subject_ref` -/
def stateSubjectRef (raw : JsonDict) : Decoded SubjectRef :=
  subjectRefFromPayload "reconciliation" (jsonGet raw "subject_ref")

/-- `_segment_from_payload` -/
def segmentFromPayload (raw : JsonDict) : Decoded ContinuitySegmentRecord := do
  let segmentId ← requiredText stateProduct raw "segment_id"
  let subjectRef ← stateSubjectRef raw
  let segmentStartAt ← requiredTemporal stateProduct raw "segment_start_at" .timestamp
  let segmentEndAt ← requiredTemporal stateProduct raw "segment_end_at" .timestamp
  let status ←
    requiredMember stateProduct segmentStatuses segmentStatusValue "ContinuitySegmentStatus" raw
      "status"
  let asOf ← requiredTemporal stateProduct raw "as_of" .timestamp
  .ok { segmentId, subjectRef, segmentStartAt, segmentEndAt, status, asOf }

/-- `_event_link_from_payload` -/
def eventLinkFromPayload (raw : JsonDict) : Decoded EventLinkRecord := do
  let eventLinkId ← requiredText stateProduct raw "event_link_id"
  let segmentId ← requiredText stateProduct raw "segment_id"
  let kind ← requiredText stateProduct raw "kind"
  let leftEventRef ← requiredText stateProduct raw "left_event_ref"
  let rightEventRef ← requiredText stateProduct raw "right_event_ref"
  let status ← requiredText stateProduct raw "status"
  .ok { eventLinkId, segmentId, kind, leftEventRef, rightEventRef, status }

/-- The observed value, which may be absent. -/
def observedValueFromPayload : Json → Decoded (Option AssertionValue)
  | .null => .ok none
  | payload => do
      let value ← assertionValueFromPayload payload
      .ok (some value)

/-- The comparison outcome, which may be absent or blank. -/
def comparisonOutcomeFromPayload (raw : JsonDict) : Decoded (Option ComparisonOutcome) :=
  if jsonGet raw "comparison_outcome" matches .null | .str "" then .ok none
  else do
    let outcome ←
      requiredMember stateProduct comparisonOutcomes comparisonOutcomeValue "ComparisonOutcome" raw
        "comparison_outcome"
    .ok (some outcome)

/-- `_target_from_payload` -/
def targetFromPayload (raw : JsonDict) : Decoded BalanceTargetRecord := do
  let targetId ← requiredText stateProduct raw "target_id"
  let segmentId ← requiredText stateProduct raw "segment_id"
  let subjectRef ← stateSubjectRef raw
  let _ ← requiredMember stateProduct targetKinds targetKindValue "BalanceTargetKind" raw "kind"
  let asOf ← requiredTemporal stateProduct raw "as_of" .timestamp
  let expectedValue ← assertionValueFromPayload (jsonGet raw "expected_value")
  let observedValue ← observedValueFromPayload (jsonGet raw "observed_value")
  let observationStatus ←
    requiredMember stateProduct observationStatuses observationStatusValue
      "BalanceTargetObservationStatus" raw "observation_status"
  let comparisonOutcome ← comparisonOutcomeFromPayload raw
  createTarget
    { targetId, segmentId, subjectRef, asOf, expectedValue, observedValue, observationStatus,
      comparisonOutcome }

/-- `_proposal_from_payload` -/
def proposalFromPayload (raw : JsonDict) : Decoded CheckpointProposalRecord := do
  let proposalId ← requiredText stateProduct raw "proposal_id"
  let segmentId ← requiredText stateProduct raw "segment_id"
  let subjectRef ← stateSubjectRef raw
  let asOf ← requiredTemporal stateProduct raw "as_of" .timestamp
  let status ←
    requiredMember stateProduct proposalStatuses proposalStatusValue "CheckpointProposalStatus" raw
      "status"
  let supersedingProposalRef ← optionalText stateProduct raw "superseding_proposal_ref"
  let targetRefs ← requiredTextTuple stateProduct raw "target_refs"
  let evidenceRefs ← requiredTextTuple stateProduct raw "evidence_refs"
  .ok
    { proposalId, segmentId, subjectRef, asOf, status, targetRefs, evidenceRefs,
      supersedingProposalRef }

/-- `read_reconciliation_state`, from the JSON value of the file. -/
def readReconciliationState (content : Json) : Decoded ReconciliationState := do
  let payload ← requiredDict stateProduct "payload" content
  requireSchemaVersion stateProduct payload
  let reconciliationStateId ← requiredText stateProduct payload "reconciliation_state_id"
  let economicFactsRef ← requiredText stateProduct payload "economic_facts_ref"
  let continuitySegmentRecords ←
    readItems stateProduct "continuity segment" segmentFromPayload payload
      "continuity_segment_records"
  let eventLinkRecords ←
    readItems stateProduct "event link" eventLinkFromPayload payload "event_link_records"
  let balanceTargetRecords ←
    readItems stateProduct "balance target" targetFromPayload payload "balance_target_records"
  let checkpointProposalRecords ←
    readItems stateProduct "checkpoint proposal" proposalFromPayload payload
      "checkpoint_proposal_records"
  .ok
    { reconciliationStateId, economicFactsRef, continuitySegmentRecords, eventLinkRecords,
      balanceTargetRecords, checkpointProposalRecords }

end Products
end Tallylot
