import Tallylot.Data.JsonText
import Tallylot.Kernel.Reconciliation

/-!
# EconomicFacts — the builder of economic facts

Every accepted bundle with an activity claim becomes one event, and every leg spec of the activity one
leg of that event.  The position of a leg is made of the claims of the bundle: its beneficial owner,
the location and the instrument that the spec refers to.
-/

namespace Tallylot
namespace Kernel

open Data Domain

/-! ## Accepted bundles -/

structure AcceptedActivityBundle where
  activityClaim : ClaimRecord
  bundleClaims : List ClaimRecord
  decisionId : String
  deriving DecidableEq

def claimsByBundleId (claimSet : ClaimSet) : Dict String (List ClaimRecord) :=
  Dict.group (fun claim => claim.bundleId) claimSet.claimRecords

def claimsOfBundle (claimSet : ClaimSet) (bundleId : String) : List ClaimRecord :=
  ((claimsByBundleId claimSet).get? bundleId).getD []

def activityClaims (bundleClaims : List ClaimRecord) : List ClaimRecord :=
  bundleClaims.filter (fun claim => claim.kind = .activity)

/-- The bundle of one decision, if it is accepted and has an activity. -/
def acceptedActivityBundle (claimSet : ClaimSet) (decision : ClaimBundleDecisionRecord) :
    Except String (Option AcceptedActivityBundle) :=
  if decision.outcome ≠ .accepted then .ok none
  else if decision.acceptedBundleRef = "" then .ok none
  else
    match activityClaims (claimsOfBundle claimSet decision.acceptedBundleRef) with
    | [] => .ok none
    | [activityClaim] =>
        .ok
          (some
            { activityClaim := activityClaim
              bundleClaims := claimsOfBundle claimSet decision.acceptedBundleRef
              decisionId := decision.decisionId })
    | _ :: _ :: _ =>
        .error
          ("accepted bundle " ++ decision.acceptedBundleRef ++
            " must contain exactly one activity claim")

def acceptedActivityBundles (claimSet : ClaimSet) : Except String (List AcceptedActivityBundle) := do
  let accepted ← claimSet.claimBundleDecisionRecords.mapM (acceptedActivityBundle claimSet)
  return accepted.filterMap id

/-! ## Events and legs -/

def eventKind (activityKind : String) : Except String EconomicEventKind :=
  if activityKind = "reward_income" then .ok .feeOrRebate
  else if activityKind = "asset_migration" then .ok .correction
  else if activityKind ∈ ["buy", "sell", "receive", "send"] then .ok .assetMovement
  else .error ("unsupported accepted activity shape: " ++ activityKind)

def lifecycleEvent (activityKind : String) : LifecycleEvent :=
  if activityKind = "asset_migration" then .migrated else .created

def beneficialOwnerRef (bundleClaims : List ClaimRecord) : Except String String :=
  match bundleClaims.filter (fun claim => claim.kind = .beneficialOwner) with
  | [claim] => .ok claim.beneficialOwnerRef
  | _ => .error "accepted activity bundle requires exactly one beneficial owner"

/-- `_instrument_ref` -/
def instrumentRef (env : KernelEnvironment) (instrumentClaim : ClaimRecord) :
    Except String String := do
  match ← instrumentIdentity env instrumentClaim with
  | some instrument => .ok instrument.instrumentId
  | none => .error ("could not resolve instrument claim " ++ instrumentClaim.claimId)

/-- The claims of a bundle of one kind, by id; of claims with one id the last one counts. -/
def claimsById (bundleClaims : List ClaimRecord) (kind : ClaimKind) : Dict String ClaimRecord :=
  Dict.ofList
    ((bundleClaims.filter (fun claim => claim.kind = kind)).map (fun claim => (claim.claimId, claim)))

/-- `_required_instrument_claim` and `_required_location_claim` -/
def requiredClaim (env : KernelEnvironment) (kind : ClaimKind) (bundleClaims : List ClaimRecord)
    (claimId bundleId : String) : Except String ClaimRecord :=
  match (claimsById bundleClaims kind).get? claimId with
  | some claim => .ok claim
  | none =>
      .error
        ("accepted activity bundle " ++ bundleId ++ " requires " ++ kind.value ++ " claim " ++
          env.repr claimId)

def roleForLeg (activityKind : String) (legSpec : ClaimLegSpec) (instrumentClaim : ClaimRecord) :
    EconomicLegRole :=
  if legSpec.role = "fee" ∧ legSpec.quantity.coeff < 0 then .fee
  else if activityKind = "reward_income" ∧ 0 < legSpec.quantity.coeff then .rebate
  else if instrumentClaim.instrumentKind = InstrumentKind.fiat.value then .cashChange
  else .holdingChange

/-- The constructor of a leg at a position. -/
def economicLeg (eventId : String) (role : EconomicLegRole) (beneficialOwnerRef locationRef
    instrumentRef : String) (legSpec : ClaimLegSpec) : Except String EconomicLegRecord :=
  if h : legSpec.quantity = 0 then .error "economic leg quantity must not be zero"
  else
    let subjectRef := positionSubjectRef beneficialOwnerRef locationRef instrumentRef
    .ok
      { legId := stableLegId eventId role subjectRef legSpec.slot
        eventId := eventId
        role := role
        subjectRef := subjectRef
        instrumentRef := [instrumentRef]
        locationRef := [locationRef]
        quantity := legSpec.quantity
        instrumentRef_nonempty := List.cons_ne_nil _ _
        locationRef_nonempty := List.cons_ne_nil _ _
        quantity_nonzero := h }

/-- The body of the loop over the leg specs. -/
def legForSpec (env : KernelEnvironment) (bundle : AcceptedActivityBundle)
    (eventId beneficialOwnerRef : String) (legSpec : ClaimLegSpec) :
    Except String EconomicLegRecord :=
  let bundleId := bundle.activityClaim.bundleId
  match legSpec.instrumentClaimRefs with
  | [] =>
      .error ("accepted activity bundle " ++ bundleId ++ " requires instrument claim refs")
  | instrumentClaimRef :: _ => do
      let instrumentClaim ←
        requiredClaim env .instrument bundle.bundleClaims instrumentClaimRef bundleId
      let locationClaim ←
        requiredClaim env .location bundle.bundleClaims legSpec.locationClaimRef bundleId
      let instrumentRef ← instrumentRef env instrumentClaim
      let role := roleForLeg bundle.activityClaim.activityLabel legSpec instrumentClaim
      economicLeg eventId role beneficialOwnerRef locationClaim.locationRef instrumentRef legSpec

def orderedLegSpecs (activityClaim : ClaimRecord) : List ClaimLegSpec :=
  sortedOn (fun legSpec => legSpec.slot) activityClaim.legSpecs

def eventAndLegsForBundle (env : KernelEnvironment) (bundle : AcceptedActivityBundle) :
    Except String (EconomicEventRecord × List EconomicLegRecord) :=
  let activityClaim := bundle.activityClaim
  match activityClaim.effectiveAt with
  | none =>
      .error ("accepted activity bundle " ++ activityClaim.bundleId ++ " requires effective_at")
  | some effectiveAt => do
      let eventId := stableEventId activityClaim.bundleId 0
      let ownerRef ← beneficialOwnerRef bundle.bundleClaims
      let kind ← eventKind activityClaim.activityLabel
      let legRecords ← (orderedLegSpecs activityClaim).mapM (legForSpec env bundle eventId ownerRef)
      .ok
        ({ eventId := eventId
           claimBundleId := activityClaim.bundleId
           claimBundleDecisionId := bundle.decisionId
           kind := kind
           effectiveAt := effectiveAt
           recordedAt := effectiveAt
           lifecycleEvent := lifecycleEvent activityClaim.activityLabel
           beneficialOwnerRef := ownerRef }, legRecords)

/-! ## Facts -/

/-- `_leg_slot`, for ids that are JSON arrays; what other ids raise is no concern of the builder. -/
def legSlot (legId : String) : Except String Int :=
  match Json.loads legId with
  | some (Json.arr items) =>
      match items[3]? with
      | some (Json.int slot) => .ok slot
      | some (Json.bool slot) => .ok (if slot then 1 else 0)
      | some _ => .error ("invalid economic leg_id: " ++ legId)
      | none => .error "list index out of range"
  | _ => .error ("invalid economic leg_id: " ++ legId)

def canonicalEconomicEventRecords (records : List EconomicEventRecord) : List EconomicEventRecord :=
  sortedOn
    (fun event : EconomicEventRecord =>
      (toLex (event.effectiveAt, toLex (event.recordedAt, event.eventId)) :
        Instant ×ₗ Instant ×ₗ String))
    records

/-- The records with their slots, by event, slot and id. -/
def orderedLegs (slotted : List (Int × EconomicLegRecord)) : List EconomicLegRecord :=
  (sortedOn
    (fun p : Int × EconomicLegRecord =>
      (toLex (p.2.eventId, toLex (p.1, p.2.legId)) : String ×ₗ Int ×ₗ String))
    slotted).map Prod.snd

def canonicalEconomicLegRecords (records : List EconomicLegRecord) :
    Except String (List EconomicLegRecord) := do
  let slots ← records.mapM (fun leg => legSlot leg.legId)
  return orderedLegs (slots.zip records)

def buildEconomicFacts (env : KernelEnvironment) (claimSet : ClaimSet) :
    Except String EconomicFacts := do
  let accepted ← acceptedActivityBundles claimSet
  let booked ← accepted.mapM (eventAndLegsForBundle env)
  let legRecords ← canonicalEconomicLegRecords (booked.flatMap Prod.snd)
  .ok
    { economicFactsId := stableEconomicFactsId env [claimSet.claimSetId]
      claimSetRefs := [claimSet.claimSetId]
      economicEventRecords := canonicalEconomicEventRecords (booked.map Prod.fst)
      economicLegRecords := legRecords }

end Kernel
end Tallylot
