import Tallylot.Data.Dict
import Tallylot.Domain.Reconciliation

/-!
# Checkpoint — the builder of checkpoints

The ready proposals of all states are collected by their instant.  Each of them looks its target up
by id among the targets of its state, and becomes an assertion of the observed value of that target.
-/

namespace Tallylot
namespace Kernel

open Data Domain

structure ReadyCheckpointRow where
  state : ReconciliationState
  proposal : CheckpointProposalRecord
  segment : ContinuitySegmentRecord
  target : BalanceTargetRecord
  deriving DecidableEq

def targetsById (state : ReconciliationState) : Dict String BalanceTargetRecord :=
  Dict.ofList (state.balanceTargetRecords.map (fun target => (target.targetId, target)))

def readyRow (env : KernelEnvironment) (state : ReconciliationState)
    (segment : ContinuitySegmentRecord) (proposal : CheckpointProposalRecord) :
    Except String ReadyCheckpointRow :=
  match proposal.targetRefs.head? with
  | none => .error "tuple index out of range"
  | some targetRef =>
      match (targetsById state).get? targetRef with
      | none => .error (env.repr targetRef)
      | some target => .ok ⟨state, proposal, segment, target⟩

def readyRowsOfState (env : KernelEnvironment) (state : ReconciliationState) :
    Except String (List ReadyCheckpointRow) :=
  match state.continuitySegmentRecords with
  | [] => .error "tuple index out of range"
  | segment :: _ =>
      (state.checkpointProposalRecords.filter (fun proposal => proposal.status = .ready)).mapM
        (readyRow env state segment)

def readyRows (env : KernelEnvironment) (states : List ReconciliationState) :
    Except String (List ReadyCheckpointRow) := do
  let rows ← states.mapM (readyRowsOfState env)
  .ok rows.flatten

def continuityKind (segment : ContinuitySegmentRecord) (expectedValue : QuantityValue)
    (asOf : Instant) : CheckpointAssertionContinuityKind :=
  if segment.segmentStartAt < asOf ∨ expectedValue.quantity ≠ 0 then .reconciledRollforward
  else .observedContinuity

/-- The assertion of a row that passed the checks. -/
def readyAssertion (env : KernelEnvironment) (checkpointId : String) (asOf : Instant)
    (row : ReadyCheckpointRow) (observedValue expectedValue : QuantityValue) :
    CheckpointAssertionRecord where
  assertionId :=
    stableCheckpointAssertionId env asOf row.target.subjectRef (.quantity observedValue)
  checkpointId := checkpointId
  subjectRef := row.target.subjectRef
  asOf := asOf
  acceptedValue := .quantity observedValue
  trustLevel := .filingReady
  continuityKind := continuityKind row.segment expectedValue asOf

def checkpointAssertion (env : KernelEnvironment) (checkpointId : String) (asOf : Instant)
    (row : ReadyCheckpointRow) : Except String CheckpointAssertionRecord :=
  match row.target.observedValue with
  | some (.quantity observedValue) =>
      match row.target.expectedValue with
      | .quantity expectedValue =>
          if row.target.observationStatus ≠ .observed then
            .error "ready checkpoint proposals require observed balance targets"
          else if row.target.comparisonOutcome ≠ some .matched then
            .error "ready checkpoint proposals require matched balance targets"
          else .ok (readyAssertion env checkpointId asOf row observedValue expectedValue)
      | _ => .error "ready checkpoint proposals require expected QuantityValue"
  | _ => .error "ready checkpoint proposals require observed QuantityValue"

def reconciliationStateRefs (rows : List ReadyCheckpointRow) : List String :=
  sortedOn id (rows.map (fun row => row.state.reconciliationStateId)).dedup

def checkpointOf (env : KernelEnvironment) (asOf : Instant) (rows : List ReadyCheckpointRow)
    (assertions : List CheckpointAssertionRecord) : Checkpoint :=
  let checkpointId := stableCheckpointId env (reconciliationStateRefs rows) asOf
  let orderedAssertions := canonicalCheckpointAssertionRecords assertions
  { checkpointId := checkpointId
    reconciliationStateRefs := reconciliationStateRefs rows
    asOf := asOf
    checkpointRecords :=
      [ { checkpointId := checkpointId
          asOf := asOf
          assertionIds := orderedAssertions.map CheckpointAssertionRecord.assertionId
          proposalRefs := sortedOn id (rows.map (fun row => row.proposal.proposalId)) } ]
    checkpointAssertionRecords := orderedAssertions }

def checkpointFor (env : KernelEnvironment) (asOf : Instant) (rows : List ReadyCheckpointRow) :
    Except String Checkpoint := do
  let assertions ← rows.mapM
    (checkpointAssertion env (stableCheckpointId env (reconciliationStateRefs rows) asOf) asOf)
  .ok (checkpointOf env asOf rows assertions)

def buildCheckpoints (env : KernelEnvironment) (reconciliationStates : List ReconciliationState) :
    Except String (List Checkpoint) := do
  let rows ← readyRows env reconciliationStates
  (sortedOn Prod.fst (Dict.group (fun row => row.proposal.asOf) rows).entries).mapM (fun entry =>
    checkpointFor env entry.1 entry.2)

end Kernel
end Tallylot
