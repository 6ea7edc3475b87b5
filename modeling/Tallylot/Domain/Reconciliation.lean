import Tallylot.Domain.Assertion
import Tallylot.Domain.Temporal
import Mathlib.Data.Prod.Lex

/-!
# Reconciliation — records and ids of reconciliation states and checkpoints

Ids are JSON texts of what a record is about, and instants enter them by their canonical text, which
leaves the microseconds out.
-/

namespace Tallylot
namespace Domain

open Data

/-! ## Reconciliation states -/

inductive ContinuitySegmentStatus
  | complete
  | partially
  deriving DecidableEq, Repr

inductive BalanceTargetObservationStatus
  | observed
  | unobserved
  deriving DecidableEq, Repr

inductive ComparisonOutcome
  | matched
  | mismatched
  deriving DecidableEq, Repr

inductive CheckpointProposalStatus
  | ready
  | partially
  | blocked
  deriving DecidableEq, Repr

structure ContinuitySegmentRecord where
  segmentId : String
  subjectRef : SubjectRef
  segmentStartAt : Instant
  segmentEndAt : Instant
  status : ContinuitySegmentStatus
  asOf : Instant
  deriving DecidableEq

structure BalanceTargetRecord where
  targetId : String
  segmentId : String
  subjectRef : SubjectRef
  asOf : Instant
  expectedValue : AssertionValue
  observedValue : Option AssertionValue
  observationStatus : BalanceTargetObservationStatus
  comparisonOutcome : Option ComparisonOutcome
  deriving DecidableEq

structure CheckpointProposalRecord where
  proposalId : String
  segmentId : String
  subjectRef : SubjectRef
  asOf : Instant
  status : CheckpointProposalStatus
  targetRefs : List String
  evidenceRefs : List String
  deriving DecidableEq

structure ReconciliationState where
  reconciliationStateId : String
  economicFactsRef : String
  continuitySegmentRecords : List ContinuitySegmentRecord
  balanceTargetRecords : List BalanceTargetRecord
  checkpointProposalRecords : List CheckpointProposalRecord
  deriving DecidableEq

def stableContinuitySegmentId (subjectRef : SubjectRef) (segmentStartAt segmentEndAt : Instant) :
    String :=
  Json.dumps
    (Json.arr
      [ subjectRef.payload,
        Json.str segmentStartAt.timestampText,
        Json.str segmentEndAt.timestampText ])

def stableReconciliationStateId (env : KernelEnvironment) (economicFactsRef segmentId : String) :
    String :=
  stableProductId env (Json.strs [economicFactsRef, segmentId])

def stableBalanceTargetId (env : KernelEnvironment) (segmentId : String)
    (subjectRef : SubjectRef) (asOf : Instant) (expectedValue : AssertionValue) : String :=
  Json.dumps
    (Json.arr
      [ Json.str segmentId,
        subjectRef.payload,
        Json.str "exact_balance",
        Json.str asOf.timestampText,
        Json.str (expectedValue.fingerprint env) ])

def stableCheckpointProposalId (segmentId : String) (subjectRef : SubjectRef) (asOf : Instant)
    (targetRefs : List String) : String :=
  Json.dumps
    (Json.arr
      [ Json.str segmentId,
        subjectRef.payload,
        Json.str asOf.timestampText,
        Json.strs (sortedOn id targetRefs) ])

def canonicalBalanceTargetRecords (records : List BalanceTargetRecord) :
    List BalanceTargetRecord :=
  sortedOn
    (fun r : BalanceTargetRecord =>
      (toLex (r.segmentId, toLex (r.asOf, r.targetId)) : String ×ₗ Instant ×ₗ String))
    records

def canonicalCheckpointProposalRecords (records : List CheckpointProposalRecord) :
    List CheckpointProposalRecord :=
  sortedOn
    (fun r : CheckpointProposalRecord =>
      (toLex (r.asOf, toLex (r.segmentId, r.proposalId)) : Instant ×ₗ String ×ₗ String))
    records

/-! ## Checkpoints -/

inductive CheckpointAssertionTrustLevel
  | filingReady
  | analysisReady
  deriving DecidableEq, Repr

inductive CheckpointAssertionContinuityKind
  | observedContinuity
  | reconciledRollforward
  deriving DecidableEq, Repr

structure CheckpointRecord where
  checkpointId : String
  asOf : Instant
  assertionIds : List String
  proposalRefs : List String
  deriving DecidableEq

structure CheckpointAssertionRecord where
  assertionId : String
  checkpointId : String
  subjectRef : SubjectRef
  asOf : Instant
  acceptedValue : AssertionValue
  trustLevel : CheckpointAssertionTrustLevel
  continuityKind : CheckpointAssertionContinuityKind
  deriving DecidableEq

structure Checkpoint where
  checkpointId : String
  reconciliationStateRefs : List String
  asOf : Instant
  checkpointRecords : List CheckpointRecord
  checkpointAssertionRecords : List CheckpointAssertionRecord
  deriving DecidableEq

def stableCheckpointId (env : KernelEnvironment) (reconciliationStateRefs : List String)
    (asOf : Instant) : String :=
  stableProductId env
    (Json.arr
      [Json.strs (sortedOn id reconciliationStateRefs), Json.str asOf.timestampText])

def stableCheckpointAssertionId (env : KernelEnvironment) (asOf : Instant)
    (subjectRef : SubjectRef) (acceptedValue : AssertionValue) : String :=
  Json.dumps
    (Json.arr
      [ Json.str "position_quantity",
        Json.str asOf.timestampText,
        subjectRef.payload,
        Json.str (acceptedValue.fingerprint env) ])

def canonicalCheckpointAssertionRecords (records : List CheckpointAssertionRecord) :
    List CheckpointAssertionRecord :=
  sortedOn
    (fun r : CheckpointAssertionRecord =>
      (toLex (r.asOf, r.assertionId) : Instant ×ₗ String))
    records

end Domain
end Tallylot
