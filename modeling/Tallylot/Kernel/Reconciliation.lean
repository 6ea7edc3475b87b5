import Tallylot.Data.Dict
import Tallylot.Domain.Claim
import Tallylot.Domain.Economics
import Tallylot.Domain.Evidence
import Tallylot.Domain.Reconciliation

/-!
# Reconciliation — the builder of reconciliation states

The builder sorts the economic legs and the accepted balance claims by subject and makes one state
for each subject.  Within a state, every claim has a target, which compares the claimed quantity with
the sum of the legs up to the instant of the claim, and a proposal, which is ready when the target
matches and some observation of the claim is in the evidence set.
-/

namespace Tallylot
namespace Kernel

open Data Domain

/-! ## Inputs by subject -/

structure TimedEconomicLeg where
  record : EconomicLegRecord
  effectiveAt : Instant
  deriving DecidableEq

def eventTimes (economicFacts : EconomicFacts) : Dict String Instant :=
  Dict.ofList (economicFacts.economicEventRecords.map (fun e => (e.eventId, e.effectiveAt)))

def timedLegs (economicFacts : EconomicFacts) : Except String (List TimedEconomicLeg) :=
  economicFacts.economicLegRecords.mapM (fun leg =>
    match (eventTimes economicFacts).get? leg.eventId with
    | none => .error ("economic leg " ++ leg.legId ++ " references unknown event_id")
    | some effectiveAt => .ok ⟨leg, effectiveAt⟩)

def acceptedBundleRefs (claimSet : ClaimSet) : List String :=
  (claimSet.claimBundleDecisionRecords.filter (fun d =>
    d.outcome = .accepted && d.acceptedBundleRef ≠ "")).map
      ClaimBundleDecisionRecord.acceptedBundleRef

def acceptedBalanceClaims (claimSet : ClaimSet) : List ClaimRecord :=
  claimSet.claimRecords.filter (fun claim =>
    claim.kind = .balance && claim.bundleId ∈ acceptedBundleRefs claimSet)

/-- The claim of a record's instrument, as the identity resolution takes it. -/
def instrumentIdentity (env : KernelEnvironment) (claim : ClaimRecord) :
    Except String (Option InstrumentRecord) := do
  let kindHint ← InstrumentKind.ofText env claim.instrumentKind
  let identity ← InstrumentIdentityClaim.create
    { scheme := claim.scheme
      value := claim.value
      venue := if claim.venue = "" then none else some claim.venue
      kindHint := kindHint
      displayName := claim.name
      precisionHint := none }
  resolveInstrumentIdentity env [identity]

def subjectRefForBalanceClaim (env : KernelEnvironment) (claimSet : ClaimSet)
    (claim : ClaimRecord) : Except String SubjectRef :=
  let bundleClaims := claimSet.claimRecords.filter (fun item => item.bundleId = claim.bundleId)
  match bundleClaims.find? (fun item => item.kind = .beneficialOwner) with
  | none =>
      .error ("balance claim bundle " ++ claim.bundleId ++ " requires beneficial owner claim")
  | some beneficialOwnerClaim =>
      match bundleClaims.find? (fun item => item.claimId = claim.locationClaimRef) with
      | none =>
          .error
            ("balance claim bundle " ++ claim.bundleId ++ " requires location claim " ++
              env.repr claim.locationClaimRef)
      | some locationClaim =>
          match claim.instrumentClaimRefs.head? with
          | none => .error "tuple index out of range"
          | some instrumentClaimRef =>
              match bundleClaims.find? (fun item => item.claimId = instrumentClaimRef) with
              | none =>
                  .error
                    ("balance claim bundle " ++ claim.bundleId ++
                      " requires instrument claim " ++ env.repr instrumentClaimRef)
              | some instrumentClaim => do
                  match ← instrumentIdentity env instrumentClaim with
                  | none =>
                      .error
                        ("could not resolve balance-claim instrument " ++ instrumentClaim.claimId)
                  | some instrument =>
                      .ok
                        (positionSubjectRef beneficialOwnerClaim.beneficialOwnerRef
                          locationClaim.locationRef instrument.instrumentId)

/-- The legs with their times and the accepted balance claims with their subjects. -/
structure ReconciliationInputs where
  legs : List TimedEconomicLeg
  claims : List (SubjectRef × ClaimRecord)

def reconciliationInputs (env : KernelEnvironment) (economicFacts : EconomicFacts)
    (claimSet : ClaimSet) : Except String ReconciliationInputs := do
  let legs ← timedLegs economicFacts
  let claims ← (acceptedBalanceClaims claimSet).mapM (fun claim => do
    let subjectRef ← subjectRefForBalanceClaim env claimSet claim
    .ok (subjectRef, claim))
  .ok ⟨legs, claims⟩

namespace ReconciliationInputs

def legsBySubject (inputs : ReconciliationInputs) : Dict SubjectRef (List TimedEconomicLeg) :=
  Dict.group (fun leg => leg.record.subjectRef) inputs.legs

def balanceClaimsBySubject (inputs : ReconciliationInputs) :
    Dict SubjectRef (List (SubjectRef × ClaimRecord)) :=
  Dict.group Prod.fst inputs.claims

def legsOf (inputs : ReconciliationInputs) (subjectRef : SubjectRef) : List TimedEconomicLeg :=
  (inputs.legsBySubject.get? subjectRef).getD []

def claimsOf (inputs : ReconciliationInputs) (subjectRef : SubjectRef) : List ClaimRecord :=
  ((inputs.balanceClaimsBySubject.get? subjectRef).getD []).map Prod.snd

def allSubjects (env : KernelEnvironment) (inputs : ReconciliationInputs) : List SubjectRef :=
  sortedOn env.subjectText
    (inputs.legsBySubject.keys ++ inputs.balanceClaimsBySubject.keys).dedup

lemma legsOf_eq (inputs : ReconciliationInputs) (subjectRef : SubjectRef) :
    inputs.legsOf subjectRef =
      inputs.legs.filter (fun leg => leg.record.subjectRef = subjectRef) :=
  Dict.getD_get?_group _ _ _

lemma claimsOf_eq (inputs : ReconciliationInputs) (subjectRef : SubjectRef) :
    inputs.claimsOf subjectRef =
      (inputs.claims.filter (fun p => p.1 = subjectRef)).map Prod.snd :=
  congrArg (List.map Prod.snd) (Dict.getD_get?_group _ _ _)

lemma mem_claimsOf {inputs : ReconciliationInputs} {subjectRef : SubjectRef}
    {claim : ClaimRecord} :
    claim ∈ inputs.claimsOf subjectRef ↔ (subjectRef, claim) ∈ inputs.claims := by
  simp [claimsOf_eq]

lemma mem_allSubjects {env : KernelEnvironment} {inputs : ReconciliationInputs}
    {subjectRef : SubjectRef} :
    subjectRef ∈ inputs.allSubjects env ↔
      (∃ leg ∈ inputs.legs, leg.record.subjectRef = subjectRef) ∨
        ∃ p ∈ inputs.claims, p.1 = subjectRef := by
  simp [allSubjects, legsBySubject, balanceClaimsBySubject, Dict.mem_keys_group]

lemma allSubjects_nodup (env : KernelEnvironment) (inputs : ReconciliationInputs) :
    (inputs.allSubjects env).Nodup :=
  ((sortedOn_perm _ _).nodup_iff).2 (List.nodup_dedup _)

end ReconciliationInputs

/-! ## One subject -/

def segmentBounds (legs : List TimedEconomicLeg) (balanceClaims : List ClaimRecord) :
    Except String (Instant × Instant) :=
  match legs.map TimedEconomicLeg.effectiveAt ++ balanceClaims.filterMap (fun c => c.observedAt) with
  | [] => .error "reconciliation subject requires at least one bounded time"
  | time :: times => .ok (times.foldl min time, times.foldl max time)

/-- The running sum of the legs up to and including `asOf`. -/
def expectedQuantity (legs : List TimedEconomicLeg) (asOf : Instant) : Decimal :=
  legs.foldl
    (fun quantity leg =>
      if asOf < leg.effectiveAt then quantity else quantity + leg.record.quantity)
    0

def proposalStatus (target : BalanceTargetRecord) (evidenceRefs : List String) :
    CheckpointProposalStatus :=
  if target.observationStatus ≠ .observed then .partially
  else if target.comparisonOutcome = some .matched then
    if evidenceRefs = [] then .partially else .ready
  else .blocked

/-- What the claims of one subject are judged by. -/
structure Segment where
  segmentId : String
  subjectRef : SubjectRef
  startAt : Instant
  endAt : Instant
  legs : List TimedEconomicLeg

namespace Segment

variable (env : KernelEnvironment) (segment : Segment)

def asOf (claim : ClaimRecord) : Instant := claim.observedAt.getD segment.endAt

def expectedValue (claim : ClaimRecord) : AssertionValue :=
  .quantity ⟨expectedQuantity segment.legs (segment.asOf claim), segment.subjectRef⟩

def observedValue (claim : ClaimRecord) : Option AssertionValue :=
  claim.quantity.map (fun quantity => .quantity ⟨quantity, segment.subjectRef⟩)

def targetId (claim : ClaimRecord) : String :=
  stableBalanceTargetId env segment.segmentId segment.subjectRef (segment.asOf claim)
    (segment.expectedValue claim)

/-- The target that the loop makes for a claim. -/
def target (claim : ClaimRecord) : BalanceTargetRecord where
  targetId := segment.targetId env claim
  segmentId := segment.segmentId
  subjectRef := segment.subjectRef
  asOf := segment.asOf claim
  expectedValue := segment.expectedValue claim
  observedValue := segment.observedValue claim
  observationStatus := if (segment.observedValue claim).isSome then .observed else .unobserved
  comparisonOutcome :=
    (segment.observedValue claim).map (fun observed =>
      if observed = segment.expectedValue claim then .matched else .mismatched)

def evidenceRefs (validObservationRefs : List String) (claim : ClaimRecord) : List String :=
  sortedOn id (claim.observationRefs.filter (fun ref => ref ∈ validObservationRefs))

/-- The proposal that the loop makes for a claim. -/
def proposal (validObservationRefs : List String) (claim : ClaimRecord) :
    CheckpointProposalRecord where
  proposalId :=
    stableCheckpointProposalId segment.segmentId segment.subjectRef (segment.asOf claim)
      [segment.targetId env claim]
  segmentId := segment.segmentId
  subjectRef := segment.subjectRef
  asOf := segment.asOf claim
  status := proposalStatus (segment.target env claim) (evidenceRefs validObservationRefs claim)
  targetRefs := [segment.targetId env claim]
  evidenceRefs := evidenceRefs validObservationRefs claim

def continuityRecord (balanceClaims : List ClaimRecord) : ContinuitySegmentRecord where
  segmentId := segment.segmentId
  subjectRef := segment.subjectRef
  segmentStartAt := segment.startAt
  segmentEndAt := segment.endAt
  status := if balanceClaims = [] then .partially else .complete
  asOf := (balanceClaims.map segment.asOf).foldl max segment.endAt

/-- The state made of the claims in their order. -/
def state (economicFactsRef : String) (validObservationRefs : List String)
    (balanceClaims : List ClaimRecord) : ReconciliationState where
  reconciliationStateId := stableReconciliationStateId env economicFactsRef segment.segmentId
  economicFactsRef := economicFactsRef
  continuitySegmentRecords := [segment.continuityRecord balanceClaims]
  balanceTargetRecords := canonicalBalanceTargetRecords (balanceClaims.map (segment.target env))
  checkpointProposalRecords :=
    canonicalCheckpointProposalRecords
      (balanceClaims.map (segment.proposal env validObservationRefs))

/-- The claims in the order of the loop. -/
def orderedClaims (balanceClaims : List ClaimRecord) : List ClaimRecord :=
  sortedOn segment.asOf balanceClaims

end Segment

def segmentForSubject (subjectRef : SubjectRef) (legs : List TimedEconomicLeg)
    (balanceClaims : List ClaimRecord) : Except String Segment := do
  let (startAt, endAt) ← segmentBounds legs balanceClaims
  .ok ⟨stableContinuitySegmentId subjectRef startAt endAt, subjectRef, startAt, endAt, legs⟩

def stateForSubject (env : KernelEnvironment) (subjectRef : SubjectRef)
    (economicFactsRef : String) (legs : List TimedEconomicLeg) (balanceClaims : List ClaimRecord)
    (validObservationRefs : List String) : Except String ReconciliationState := do
  let segment ← segmentForSubject subjectRef legs balanceClaims
  .ok
    (segment.state env economicFactsRef validObservationRefs (segment.orderedClaims balanceClaims))

/-! ## All subjects -/

def validObservationRefs (evidenceSet : EvidenceSet) : List String :=
  evidenceSet.evidenceObservationRecords.map EvidenceObservationRecord.observationId

def statesFromInputs (env : KernelEnvironment) (economicFactsRef : String)
    (evidenceSet : EvidenceSet) (inputs : ReconciliationInputs) :
    Except String (List ReconciliationState) :=
  (inputs.allSubjects env).mapM (fun subjectRef =>
    stateForSubject env subjectRef economicFactsRef (inputs.legsOf subjectRef)
      (inputs.claimsOf subjectRef) (validObservationRefs evidenceSet))

def buildReconciliationStates (env : KernelEnvironment) (economicFacts : EconomicFacts)
    (claimSet : ClaimSet) (evidenceSet : EvidenceSet) :
    Except String (List ReconciliationState) := do
  let inputs ← reconciliationInputs env economicFacts claimSet
  statesFromInputs env economicFacts.economicFactsId evidenceSet inputs

end Kernel
end Tallylot
