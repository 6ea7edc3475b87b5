import Tallylot.Balances.Codec
import Tallylot.Kernel.Checkpoint

/-!
# Projections — snapshots of states and references of checkpoints

The row-level balance check reads the kernel products through two projections: every balance target
of a state becomes a snapshot of the expected quantity, and every assertion of a checkpoint becomes a
reference to a source document with the accepted quantity.
-/

namespace Tallylot
namespace Kernel

open Data Domain Balances

/-! ## Targets -/

/-- `_subject_ref_text` -/
def subjectRefText (message : String) (subjectKey : List RefValue) (index : Nat) : Decoded String :=
  match subjectKey[index]? with
  | some (.tuple [.str text]) => .ok text
  | some _ => .error (.value message)
  | none => .error (.key "tuple index out of range")

/-- The balance target of a position at an instant. -/
def projectedTarget (message : String) (subjectRef : SubjectRef) (asOf : Instant) :
    Decoded AcceptedTarget := do
  let locationRef ← subjectRefText message subjectRef.key 1
  let instrumentRef ← subjectRefText message subjectRef.key 2
  balanceTarget.build
    { source := "coinbase"
      locationId := locationRef
      instrumentId := instrumentRef
      balanceKind := "available"
      targetAt := asOf
      targetPrecision := .timestamp }

/-! ## Snapshots -/

def projectSnapshot (target : BalanceTargetRecord) : Decoded BalanceSnapshot :=
  match target.expectedValue with
  | .quantity expectedValue => do
      let balanceTarget ← projectedTarget
        "balance snapshot compatibility requires position subject refs" target.subjectRef target.asOf
      let snapshot ← balanceSnapshot.build
        { target := balanceTarget
          quantity := expectedValue.quantity
          snapshotBasis := "fact_cutoff"
          notes := "" }
      return AcceptedSnapshot.snapshot snapshot
  | _ => .error (.value "balance snapshot compatibility requires QuantityValue")

/-- `_ordered_snapshots` -/
def orderedSnapshots (snapshots : List BalanceSnapshot) : List BalanceSnapshot :=
  sortedOn (fun snapshot => balanceTargetMatchKey snapshot.target) snapshots

def projectBalanceSnapshotsFromReconciliationState (state : ReconciliationState) :
    Decoded (List BalanceSnapshot) := do
  let snapshots ← state.balanceTargetRecords.mapM projectSnapshot
  return orderedSnapshots snapshots

/-- The snapshots of all states, as they are written. -/
def projectedSnapshots (states : List ReconciliationState) : Decoded (List BalanceSnapshot) := do
  let rows ← states.mapM projectBalanceSnapshotsFromReconciliationState
  return orderedSnapshots rows.flatten

/-! ## Support -/

structure ObservationCompatibilityDetail where
  supportRef : String
  note : String := ""
  deriving DecidableEq, Repr

/-- The first of some details, by support and note. -/
def firstDetail (details : List ObservationCompatibilityDetail) :
    Option ObservationCompatibilityDetail :=
  (sortedOn (fun detail => (toLex (detail.supportRef, detail.note) : String ×ₗ String))
    details).head?

/-- `_support_detail_for_evidence_refs` -/
def supportDetailForEvidenceRefs
    (observationDetails : Dict String ObservationCompatibilityDetail) (evidenceRefs : List String) :
    Decoded ObservationCompatibilityDetail :=
  let resolvedDetails := evidenceRefs.map (fun ref =>
    (observationDetails.get? ref).getD { supportRef := ref })
  let notedDetails := resolvedDetails.filter (fun detail => detail.note ≠ "")
  let anchoredDetails := resolvedDetails.filter (fun detail => detail.supportRef.toList.contains '#')
  -- notes come first, then anchors into a document
  let chosen :=
    if notedDetails ≠ [] then notedDetails
    else if anchoredDetails ≠ [] then anchoredDetails
    else resolvedDetails
  match firstDetail chosen with
  | some detail => .ok detail
  | none => .error (.key "list index out of range")

/-- What a proposal says about the support of its target; one without evidence says nothing. -/
def proposalSupport (env : KernelEnvironment)
    (observationDetails : Dict String ObservationCompatibilityDetail) (state : ReconciliationState)
    (proposal : CheckpointProposalRecord) :
    Decoded (Option ((SubjectRef × Instant) × ObservationCompatibilityDetail)) :=
  match proposal.targetRefs with
  | [] => return none
  | targetRef :: _ =>
      if proposal.evidenceRefs = [] then return none
      else
        match (targetsById state).get? targetRef with
        | none => .error (.key (env.repr targetRef))
        | some target => do
            let detail ← supportDetailForEvidenceRefs observationDetails proposal.evidenceRefs
            return some ((target.subjectRef, target.asOf), detail)

/-- `_support_details_by_subject` -/
def supportDetailsBySubject (env : KernelEnvironment)
    (observationDetails : Dict String ObservationCompatibilityDetail)
    (states : List ReconciliationState) :
    Decoded (Dict (SubjectRef × Instant) ObservationCompatibilityDetail) := do
  let values ← states.mapM (fun state =>
    state.checkpointProposalRecords.mapM (proposalSupport env observationDetails state))
  return Dict.ofList (values.flatten.filterMap id)

/-! ## References -/

def statesById (states : List ReconciliationState) : Dict String ReconciliationState :=
  Dict.ofList (states.map (fun state => (state.reconciliationStateId, state)))

def selectedState (env : KernelEnvironment) (states : List ReconciliationState)
    (reconciliationStateRef : String) : Decoded ReconciliationState :=
  requireSome ((statesById states).get? reconciliationStateRef)
    ("checkpoint compatibility requires referenced reconciliation state " ++
      env.repr reconciliationStateRef)

def projectReference (env : KernelEnvironment)
    (supportDetails : Dict (SubjectRef × Instant) ObservationCompatibilityDetail)
    (assertion : CheckpointAssertionRecord) : Decoded BalanceReference :=
  match assertion.acceptedValue with
  | .quantity acceptedValue => do
      let target ← projectedTarget "checkpoint compatibility requires position subject refs"
        assertion.subjectRef assertion.asOf
      let detail ← requireSome (supportDetails.get? (assertion.subjectRef, assertion.asOf))
        ("checkpoint compatibility requires support detail for subject " ++
          env.subjectText assertion.subjectRef ++ " at " ++ assertion.asOf.isoText)
      let reference ← balanceReference.build
        { target := target
          quantity := acceptedValue.quantity
          referenceKind := .sourceDocument
          observedAt := assertion.asOf
          observedPrecision := .timestamp
          supportRef := detail.supportRef
          providerFamily := ""
          providerLocator := ""
          providerBlockRef := ""
          reviewedBy := ""
          reviewedAt := none
          notes := detail.note }
      return AcceptedReference.reference reference
  | _ => .error (.value "checkpoint compatibility requires QuantityValue assertions")

/-- `_ordered_references` -/
def orderedReferences (references : List BalanceReference) : List BalanceReference :=
  sortedOn (fun reference =>
    (toLex (balanceTargetMatchKey reference.target, reference.supportRef) :
      BalanceTargetMatchKey ×ₗ String)) references

def projectBalanceReferencesFromCheckpoint (env : KernelEnvironment)
    (states : List ReconciliationState)
    (observationDetails : Dict String ObservationCompatibilityDetail) (checkpoint : Checkpoint) :
    Decoded (List BalanceReference) := do
  let selectedStates ← checkpoint.reconciliationStateRefs.mapM (selectedState env states)
  let supportDetails ← supportDetailsBySubject env observationDetails selectedStates
  let references ←
    checkpoint.checkpointAssertionRecords.mapM (projectReference env supportDetails)
  return orderedReferences references

/-- The references of all checkpoints, as they are written. -/
def projectedReferences (env : KernelEnvironment) (states : List ReconciliationState)
    (observationDetails : Dict String ObservationCompatibilityDetail)
    (checkpoints : List Checkpoint) : Decoded (List BalanceReference) := do
  let rows ← checkpoints.mapM
    (projectBalanceReferencesFromCheckpoint env states observationDetails)
  return orderedReferences rows.flatten

end Kernel
end Tallylot
