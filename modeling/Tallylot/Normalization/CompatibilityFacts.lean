import Tallylot.Data.JsonText
import Tallylot.Data.Parts
import Tallylot.Data.Path
import Tallylot.Data.Sorted
import Tallylot.Domain.Claim
import Tallylot.Domain.Economics
import Tallylot.Evidence.Models
import Tallylot.Transactions.Facts

/-!
# CompatibilityFacts — the transaction facts of economic facts

Every economic event is projected to a transaction fact: its bundle's activity claim says what
happened, its location claim where, the fields of its draft how it is classified, and its legs are
those of the event.  The facts stand in the order of their drafts.
-/

namespace Tallylot
namespace Normalization

open Data Domain Transactions

/-! ## Inputs -/

structure DraftProjectionFieldRecord where
  claimBundleId : String
  economicKind : String
  projectionHint : String
  accountingIntentHint : String
  taxTreatmentHint : String
  description : String
  txHashOrNull : String
  operationGroupIdOrNull : String
  confidence : String
  status : String
  draftOrder : Int
  deriving DecidableEq, Repr

/-- A claim record with its key and the evidence members it comes from. -/
structure SourcedClaim extends ClaimRecord where
  key : List String
  memberRefs : List String

structure SourcedClaimSet where
  claimSetId : String
  claimRecords : List SourcedClaim

/-! ## Leg policies -/

/-- The limit of a kind of legs, with its signed bounds. -/
def primaryLimit (count : Int) (least : Option Int)
    (h : legShapeLimit.Accepted ⟨.primary, count, count, some 1, least, some 1, least⟩) :
    LegShapeLimit :=
  ⟨_, h⟩

def chargeLimit : LegShapeLimit :=
  ⟨⟨.charge, 1, 0, some 0, none, some 1, none⟩, checkedConstructor_accepted.2 rfl⟩

def singlePrimaryActivityPolicy : FactLegPolicy :=
  ⟨⟨[primaryLimit 1 none (checkedConstructor_accepted.2 rfl)]⟩, checkedConstructor_accepted.2 rfl⟩

def twoSidedPrimaryExchangePolicy : FactLegPolicy :=
  ⟨⟨[primaryLimit 2 (some 1) (checkedConstructor_accepted.2 rfl)]⟩,
    checkedConstructor_accepted.2 rfl⟩

def twoSidedPrimaryExchangeWithSingleChargePolicy : FactLegPolicy :=
  ⟨⟨[primaryLimit 2 (some 1) (checkedConstructor_accepted.2 rfl), chargeLimit]⟩,
    checkedConstructor_accepted.2 rfl⟩

/-- `_leg_policy_for_activity` -/
def legPolicyForActivity (activityLabel : String) : FactLegPolicy :=
  if activityLabel = "buy" || activityLabel = "sell" then
    twoSidedPrimaryExchangeWithSingleChargePolicy
  else if activityLabel = "asset_migration" then twoSidedPrimaryExchangePolicy
  else singlePrimaryActivityPolicy

/-! ## Parts of a fact -/

/-- A tuple's item, counted from the end where the index is negative. -/
def tupleItem {α : Type} (items : List α) (index : Int) : Decoded α :=
  let position := if 0 ≤ index then index else items.length + index
  match if 0 ≤ position then items[position.toNat]? else none with
  | some item => .ok item
  | none => .error (.key "tuple index out of range")

/-- `_leg_slot_from_id`; a boolean is an integer. -/
def legSlotFromId (legId : String) : Decoded Int :=
  match Json.loads legId with
  | some (.arr [_, _, _, .int slot]) => .ok slot
  | some (.arr [_, _, _, .bool slot]) => .ok (if slot then 1 else 0)
  | _ => .error (.value ("invalid compatibility leg_id: " ++ legId))

/-- `_leg_kind` -/
def legKind : EconomicLegRole → LegKind
  | .fee => .charge
  | _ => .primary

def compatibilityInstrumentId (claim : SourcedClaim) : String :=
  if claim.venue = "" then claim.value
  else claim.scheme ++ ":" ++ claim.value ++ "@" ++ claim.venue

/-- `_compatibility_leg` -/
def compatibilityLeg (env : KernelEnvironment) (legRecord : EconomicLegRecord)
    (activityClaim : SourcedClaim) (instrumentClaims : Dict String SourcedClaim) :
    Decoded Transactions.EconomicLeg := do
  let legSlot ← legSlotFromId legRecord.legId
  require (legSlot < activityClaim.legSpecs.length)
    ("economic facts compatibility leg slot " ++ toString legSlot ++
      " exceeds activity leg spec count")
  let matchingSpec ← tupleItem activityClaim.legSpecs legSlot
  require (matchingSpec.instrumentClaimRefs ≠ [])
    "economic facts compatibility requires instrument claim refs"
  let instrumentRef ← tupleItem matchingSpec.instrumentClaimRefs 0
  let instrumentClaim ← requireSome (instrumentClaims.get? instrumentRef)
    ("economic facts compatibility could not resolve instrument claim " ++ env.repr instrumentRef)
  let attributedToLegId ← matchingSpec.attributedToSlot.mapM (fun slot => do
    let spec ← tupleItem activityClaim.legSpecs slot
    return spec.role)
  economicLeg.build
    { legId := matchingSpec.role
      kind := legKind legRecord.role
      instrumentId := compatibilityInstrumentId instrumentClaim
      quantity := legRecord.quantity
      subtype := if matchingSpec.subtype = "" then none else some matchingSpec.subtype
      attributedToLegId := attributedToLegId
      locationId := none }

/-- `_provider_operation_key` -/
def providerOperationKey (activityLabel : String) : String :=
  if activityLabel = "reward_income" then "reward income" else activityLabel

/-- `_activity_id` -/
def activityId (activityLabel rawRowRef : String) : Decoded String :=
  if activityLabel = "asset_migration" then
    match rawRowRef.toList.dropWhile (fun c => c ≠ '|') with
    | [] => .error (.value "not enough values to unpack (expected 2, got 1)")
    | _ :: boughtId =>
        .ok
          ("coinbase-asset-migration-" ++
            String.ofList (rawRowRef.toList.takeWhile (fun c => c ≠ '|')) ++ "-" ++
              String.ofList boughtId)
  else .ok ("coinbase-retail-" ++ rawRowRef)

/-- `_raw_file_for_member_id` -/
def rawFileForMemberId (env : KernelEnvironment) (members : List Evidence.EvidenceMemberRecord)
    (memberId : String) : Decoded String := do
  let member ← requireSome (members.find? (fun member => member.memberId = memberId))
    ("could not resolve member_id " ++ env.repr memberId)
  let path ← tupleItem member.locator 0
  return (PosixPath.parse path).name

/-- `_source_slug_for_member_id` -/
def sourceSlugForMemberId (env : KernelEnvironment) (members : List Evidence.EvidenceMemberRecord)
    (memberId : String) : Decoded String := do
  let member ← requireSome
    (members.find? (fun member =>
      member.memberId = memberId && member.kind = .retailActivityExportFile))
    ("could not resolve member_id " ++ env.repr memberId)
  return member.sourceSlug

/-- A member of an enumeration by its value. -/
def enumMember {α : Type} (env : KernelEnvironment) (name : String) (members : List α)
    (value : α → String) (text : String) : Decoded α :=
  requireSome (ofValue members value text) (env.repr text ++ " is not a valid " ++ name)

def projectedSemantics (env : KernelEnvironment) (fields : DraftProjectionFieldRecord) :
    Decoded FactSemantics := do
  let economicKind ← enumMember env "EconomicKind" EconomicKind.members EconomicKind.value
    fields.economicKind
  let accountingIntentHint ← enumMember env "AccountingIntentHint" AccountingIntentHint.members
    AccountingIntentHint.value fields.accountingIntentHint
  let taxTreatmentHint ← enumMember env "TaxTreatmentHint" TaxTreatmentHint.members
    TaxTreatmentHint.value fields.taxTreatmentHint
  let projectionHint ←
    if fields.projectionHint = "" then pure none
    else do
      let hint ← enumMember env "ProjectionHint" ProjectionHint.members ProjectionHint.value
        fields.projectionHint
      pure (some hint)
  return {
    economicKind := economicKind
    accountingIntentHint := accountingIntentHint
    taxTreatmentHint := taxTreatmentHint
    projectionHint := projectionHint }

/-! ## The projection -/

/-- `_projection_fields_for_bundle` -/
def projectionFieldsForBundle (env : KernelEnvironment)
    (recordsByBundleId : Dict String DraftProjectionFieldRecord) (claimBundleId : String) :
    Decoded DraftProjectionFieldRecord :=
  requireSome (recordsByBundleId.get? claimBundleId)
    ("economic facts compatibility requires draft projection fields for claim bundle " ++
      env.repr claimBundleId)

/-- `_require_bundle_claim` -/
def requireBundleClaim (env : KernelEnvironment) (bundleClaims : List SourcedClaim)
    (claimBundleId : String) (kind : ClaimKind) : Decoded SourcedClaim :=
  requireSome (bundleClaims.find? (fun claim => claim.kind = kind))
    ("economic facts compatibility requires " ++ env.repr kind.value ++ " claim in bundle " ++
      env.repr claimBundleId)

/-- What the projection reads. -/
structure CompatibilityInputs where
  economicFacts : EconomicFacts
  claimSet : SourcedClaimSet
  evidenceMembers : List Evidence.EvidenceMemberRecord
  draftProjectionFieldRecords : List DraftProjectionFieldRecord

namespace CompatibilityInputs

def recordsByBundleId (inputs : CompatibilityInputs) : Dict String DraftProjectionFieldRecord :=
  Dict.ofList (inputs.draftProjectionFieldRecords.map (fun record => (record.claimBundleId, record)))

/-- The legs of an event in the order of their slots. -/
def legsOfEvent (inputs : CompatibilityInputs) (eventId : String) :
    Decoded (List EconomicLegRecord) := do
  let legs := inputs.economicFacts.economicLegRecords.filter (fun leg => leg.eventId = eventId)
  let keyed ← legs.mapM (fun leg => do
    let slot ← legSlotFromId leg.legId
    return (slot, leg))
  return (sortedOn Prod.fst keyed).map Prod.snd

/-- The fact of an event. -/
def factOfEvent (env : KernelEnvironment) (inputs : CompatibilityInputs)
    (eventRecord : EconomicEventRecord) (fields : DraftProjectionFieldRecord) :
    Decoded Transactions.TransactionFact := do
  let claimBundleId := eventRecord.claimBundleId
  let bundleClaims :=
    inputs.claimSet.claimRecords.filter (fun claim => claim.bundleId = claimBundleId)
  require (bundleClaims ≠ [])
    ("economic facts compatibility requires claim bundle " ++ env.repr claimBundleId)
  let activityClaim ← requireBundleClaim env bundleClaims claimBundleId .activity
  let locationClaim ← requireBundleClaim env bundleClaims claimBundleId .location
  let instrumentClaims := Dict.ofList
    ((bundleClaims.filter (fun claim => claim.kind = .instrument)).map (fun claim =>
      (claim.claimId, claim)))
  let rawRowRef ← tupleItem activityClaim.key 1
  let factId ← activityId activityClaim.activityLabel rawRowRef
  let legRecords ← inputs.legsOfEvent eventRecord.eventId
  let legs ← legRecords.mapM (fun legRecord =>
    compatibilityLeg env legRecord activityClaim instrumentClaims)
  let memberId ← tupleItem activityClaim.memberRefs 0
  let source ← sourceSlugForMemberId env inputs.evidenceMembers memberId
  let semantics ← projectedSemantics env fields
  let rawFile ← rawFileForMemberId env inputs.evidenceMembers memberId
  transactionFact.build
    { factId := factId
      source := source
      adapterId := "coinbase"
      timestamp := eventRecord.effectiveAt
      effectiveAt := some eventRecord.effectiveAt
      effectivePrecision := activityClaim.precision
      locationId := locationClaim.locationRef
      semantics := semantics
      legs := legs
      legPolicy := legPolicyForActivity activityClaim.activityLabel
      description := fields.description
      providerOperationKey := providerOperationKey activityClaim.activityLabel
      operationGroupId := fields.operationGroupIdOrNull
      txHash := if fields.txHashOrNull = "" then none else some fields.txHashOrNull
      rawFile := rawFile
      rawRowRef := rawRowRef
      confidence := fields.confidence
      status := fields.status }

/-- `project_compatibility_artifacts_from_economic_facts`, the facts. -/
def facts (env : KernelEnvironment) (inputs : CompatibilityInputs) :
    Decoded (List Transactions.TransactionFact) := do
  require (inputs.claimSet.claimSetId ∈ inputs.economicFacts.claimSetRefs)
    "economic facts compatibility requires matching claim_set lineage"
  let keyed ← inputs.economicFacts.economicEventRecords.mapM (fun eventRecord => do
    let fields ← projectionFieldsForBundle env inputs.recordsByBundleId eventRecord.claimBundleId
    return (fields, eventRecord))
  (sortedOn (fun p => p.1.draftOrder) keyed).mapM (fun p => inputs.factOfEvent env p.2 p.1)

/-- A fact has the time of its event. -/
lemma timestamp_of_factOfEvent {env : KernelEnvironment} {inputs : CompatibilityInputs}
    {eventRecord : EconomicEventRecord} {fields : DraftProjectionFieldRecord}
    {fact : Transactions.TransactionFact} (h : inputs.factOfEvent env eventRecord fields = .ok fact) :
    fact.val.timestamp = eventRecord.effectiveAt := by
  simp only [factOfEvent, bind_eq_ok_iff] at h
  rcases h with ⟨_, _, _, _, _, _, _, _, _, _, _, _, _, _, _, _, _, _, _, _, _, _, hbuild⟩
  rcases (fact_postInit_eq_ok_iff _ _).1 (transactionFact.make_of_build hbuild) with
    ⟨location, _, _, _, hfields⟩
  rw [hfields]

/-- The times of the facts are those of the events. -/
theorem timestamps_perm {env : KernelEnvironment} {inputs : CompatibilityInputs}
    {projected : List Transactions.TransactionFact} (h : inputs.facts env = .ok projected) :
    (projected.map (fun fact => fact.val.timestamp)).Perm
      (inputs.economicFacts.economicEventRecords.map EconomicEventRecord.effectiveAt) := by
  rcases bind_eq_ok_iff.1 h with ⟨_, _, h⟩
  rcases bind_eq_ok_iff.1 h with ⟨keyed, hkeyed, hfacts⟩
  rcases mapM_ok_pairs hfacts with ⟨pairs, hfst, rfl, hpairs⟩
  rcases mapM_ok_pairs hkeyed with ⟨keyedPairs, hevents, rfl, hkeyedPairs⟩
  have htimes : (pairs.map Prod.snd).map (fun fact => fact.val.timestamp) =
      (pairs.map Prod.fst).map (fun p => p.2.effectiveAt) := by
    rw [List.map_map, List.map_map]
    refine List.map_congr_left ?_
    intro p hp
    exact timestamp_of_factOfEvent (hpairs p hp)
  have hkept : (keyedPairs.map Prod.snd).map (fun p => p.2.effectiveAt) =
      inputs.economicFacts.economicEventRecords.map EconomicEventRecord.effectiveAt := by
    rw [← hevents, List.map_map, List.map_map]
    refine List.map_congr_left ?_
    intro p hp
    rcases bind_eq_ok_iff.1 (hkeyedPairs p hp) with ⟨fields, _, hmade⟩
    rw [Function.comp_apply, ← Except.ok.inj hmade]
    rfl
  rw [htimes, hfst, ← hkept]
  exact (sortedOn_perm _ _).map _

end CompatibilityInputs

end Normalization
end Tallylot
