import Tallylot.Kernel.EconomicFacts
import Tallylot.Products.Fields

/-!
# EconomicFacts — the file of economic facts

`toPayload` is the JSON value that a file of economic facts shows, and `readEconomicFacts` reads it.
The records here have all the fields of the file, with the members of every enumeration, also those
that the builder never makes.
-/

namespace Tallylot
namespace Products

open Data Domain Transactions

/-! ## Enumerations -/

inductive EconomicEventKind
  | assetMovement
  | cashMovement
  | obligationOrRight
  | settlement
  | collateralChange
  | financingFlow
  | feeOrRebate
  | withholding
  | lifecycleRestructure
  | correction
  deriving DecidableEq, Repr

namespace EconomicEventKind

def members : List EconomicEventKind :=
  [assetMovement, cashMovement, obligationOrRight, settlement, collateralChange, financingFlow,
    feeOrRebate, withholding, lifecycleRestructure, correction]

def value : EconomicEventKind → String
  | assetMovement => "asset_movement"
  | cashMovement => "cash_movement"
  | obligationOrRight => "obligation_or_right"
  | settlement => "settlement"
  | collateralChange => "collateral_change"
  | financingFlow => "financing_flow"
  | feeOrRebate => "fee_or_rebate"
  | withholding => "withholding"
  | lifecycleRestructure => "lifecycle_restructure"
  | correction => "correction"

lemma mem_members (kind : EconomicEventKind) : kind ∈ members := by
  cases kind <;> decide

lemma value_nodup : (members.map value).Nodup := by decide

end EconomicEventKind

inductive SettlementStatus
  | settled
  deriving DecidableEq, Repr

namespace SettlementStatus

def members : List SettlementStatus := [settled]

def value : SettlementStatus → String
  | settled => "settled"

end SettlementStatus

def lifecycleMembers : List LifecycleEvent := [.created, .migrated]

def lifecycleValue : LifecycleEvent → String
  | .created => "created"
  | .migrated => "migrated"

inductive EconomicLegRole
  | holdingChange
  | cashChange
  | obligationChange
  | settlementChange
  | collateralChange
  | financingChange
  | fee
  | rebate
  | withholding
  deriving DecidableEq, Repr

namespace EconomicLegRole

def members : List EconomicLegRole :=
  [holdingChange, cashChange, obligationChange, settlementChange, collateralChange,
    financingChange, fee, rebate, withholding]

def value : EconomicLegRole → String
  | holdingChange => "holding_change"
  | cashChange => "cash_change"
  | obligationChange => "obligation_change"
  | settlementChange => "settlement_change"
  | collateralChange => "collateral_change"
  | financingChange => "financing_change"
  | fee => "fee"
  | rebate => "rebate"
  | withholding => "withholding"

lemma mem_members (role : EconomicLegRole) : role ∈ members := by
  cases role <;> decide

lemma value_nodup : (members.map value).Nodup := by decide

end EconomicLegRole

/-! ## Records -/

structure EconomicEventRecord where
  eventId : String
  claimBundleId : String
  claimBundleDecisionId : String
  kind : EconomicEventKind
  effectiveAt : Instant
  recordedAt : Instant
  settlementStatus : SettlementStatus
  lifecycleEvent : LifecycleEvent
  legalOwnerRef : String
  beneficialOwnerRef : String
  counterpartyRef : String
  supersedesEventId : String
  deriving DecidableEq

structure EconomicLegFields where
  legId : String
  eventId : String
  role : EconomicLegRole
  subjectRef : SubjectRef
  instrumentRef : List String
  locationRef : List String
  quantity : Decimal
  valuationRef : String
  deriving DecidableEq

/-- A leg that passed the checks of its constructor. -/
structure EconomicLegRecord extends EconomicLegFields where
  instrumentRef_nonempty : instrumentRef ≠ []
  locationRef_nonempty : locationRef ≠ []
  quantity_nonzero : quantity ≠ 0
  deriving DecidableEq

/-- The constructor of a leg. -/
def EconomicLegFields.create (leg : EconomicLegFields) : Decoded EconomicLegRecord :=
  if h : leg.instrumentRef = [] then
    .error (.value "economic leg instrument_ref must not be empty")
  else if h' : leg.locationRef = [] then
    .error (.value "economic leg location_ref must not be empty")
  else if h'' : leg.quantity = 0 then .error (.value "economic leg quantity must not be zero")
  else
    .ok
      { leg with
        instrumentRef_nonempty := h
        locationRef_nonempty := h'
        quantity_nonzero := h'' }

structure ValuationRecord where
  valuationId : String
  originRef : String × String
  purpose : String
  amount : Decimal
  currency : String
  valuedAt : Instant
  precision : TemporalPrecision
  provenanceRefs : List String
  confidence : String
  deriving DecidableEq

structure EconomicFacts where
  economicFactsId : String
  claimSetRefs : List String
  economicEventRecords : List EconomicEventRecord
  economicLegRecords : List EconomicLegRecord
  valuationRecords : List ValuationRecord
  deriving DecidableEq

/-! ## Writing -/

def EconomicEventRecord.toPayload (event : EconomicEventRecord) : JsonDict :=
  [ ("event_id", .str event.eventId),
    ("claim_bundle_id", .str event.claimBundleId),
    ("claim_bundle_decision_id", .str event.claimBundleDecisionId),
    ("kind", .str event.kind.value),
    ("effective_at", .str event.effectiveAt.timestampText),
    ("recorded_at", .str event.recordedAt.timestampText),
    ("settlement_status", .str event.settlementStatus.value),
    ("lifecycle_event", .str (lifecycleValue event.lifecycleEvent)),
    ("legal_owner_ref", .str event.legalOwnerRef),
    ("beneficial_owner_ref", .str event.beneficialOwnerRef),
    ("counterparty_ref", .str event.counterpartyRef),
    ("supersedes_event_id", .str event.supersedesEventId)]

def EconomicLegFields.toPayload (leg : EconomicLegFields) : JsonDict :=
  [ ("leg_id", .str leg.legId),
    ("event_id", .str leg.eventId),
    ("role", .str leg.role.value),
    ("subject_ref", leg.subjectRef.payload),
    ("instrument_ref", Json.strs leg.instrumentRef),
    ("location_ref", Json.strs leg.locationRef),
    ("quantity", .str leg.quantity.format),
    ("valuation_ref", .str leg.valuationRef)]

def ValuationRecord.toPayload (valuation : ValuationRecord) : Decoded JsonDict := do
  let valuedAt ← formatTemporalValue valuation.valuedAt valuation.precision "valuation valued_at"
  .ok
    [ ("valuation_id", .str valuation.valuationId),
      ("origin_ref", Json.strs [valuation.originRef.1, valuation.originRef.2]),
      ("purpose", .str valuation.purpose),
      ("amount", .str valuation.amount.format),
      ("currency", .str valuation.currency),
      ("valued_at", .str valuedAt),
      ("precision", .str valuation.precision.text),
      ("provenance_refs", Json.strs (sortedOn id valuation.provenanceRefs)),
      ("confidence", .str valuation.confidence)]

def eventOrder (event : EconomicEventRecord) : Instant ×ₗ Instant ×ₗ String :=
  toLex (event.effectiveAt, toLex (event.recordedAt, event.eventId))

def canonicalEconomicEventRecords (records : List EconomicEventRecord) : List EconomicEventRecord :=
  sortedOn eventOrder records

/-- `_leg_slot`; ids that are no arrays fail in several ways, and all of them leave the function. -/
def legSlot (legId : String) : Decoded Int := (Kernel.legSlot legId).mapError .value

/-- The records with their slots, by event, slot and id. -/
def orderedLegs (slotted : List (Int × EconomicLegRecord)) : List EconomicLegRecord :=
  (sortedOn
    (fun p : Int × EconomicLegRecord =>
      (toLex (p.2.eventId, toLex (p.1, p.2.legId)) : String ×ₗ Int ×ₗ String))
    slotted).map Prod.snd

def canonicalEconomicLegRecords (records : List EconomicLegRecord) :
    Decoded (List EconomicLegRecord) := do
  let slots ← records.mapM (fun leg => legSlot leg.legId)
  .ok (orderedLegs (slots.zip records))

def valuationOrder (valuation : ValuationRecord) : String ×ₗ Instant ×ₗ String :=
  toLex (valuation.purpose, toLex (valuation.valuedAt, valuation.valuationId))

def canonicalValuationRecords (records : List ValuationRecord) : List ValuationRecord :=
  sortedOn valuationOrder records

def EconomicFacts.toPayload (facts : EconomicFacts) : Decoded JsonDict := do
  let legs ← canonicalEconomicLegRecords facts.economicLegRecords
  let valuations ←
    (canonicalValuationRecords facts.valuationRecords).mapM ValuationRecord.toPayload
  .ok
    [ ("economic_facts_id", .str facts.economicFactsId),
      ("schema_version", .int 1),
      ("claim_set_refs", Json.strs facts.claimSetRefs),
      ("economic_event_records",
        objects ((canonicalEconomicEventRecords facts.economicEventRecords).map
          EconomicEventRecord.toPayload)),
      ("economic_leg_records", objects (legs.map (fun leg => leg.toPayload))),
      ("valuation_records", objects valuations)]

/-- `economic_facts_fingerprint` -/
def economicFactsFingerprint (env : KernelEnvironment) (facts : EconomicFacts) : Decoded String := do
  let payload ← facts.toPayload
  .ok (env.sha256 (Json.dumps (.obj payload)))

/-! ## Reading -/

/-- The words of the repository of economic facts. -/
abbrev factsProduct : String := "economic facts"

/-- `_required_subject_ref` -/
def requiredFactsSubjectRef (raw : JsonDict) (key : String) : Decoded SubjectRef :=
  let message := "invalid economic facts " ++ key ++ ": expected subject ref array"
  subjectRefOf message message (jsonGet raw key)

/-- `_required_decimal` -/
def requiredDecimal (raw : JsonDict) (key : String) : Decoded Decimal := do
  let text ← requiredText factsProduct raw key
  let parsed ← Decimal.parseDecimal text
  requireSome parsed ("invalid economic facts " ++ key ++ ": expected decimal")

/-- `_economic_event_from_payload` -/
def economicEventFromPayload (raw : JsonDict) : Decoded EconomicEventRecord := do
  let eventId ← requiredText factsProduct raw "event_id"
  let claimBundleId ← requiredText factsProduct raw "claim_bundle_id"
  let claimBundleDecisionId ← requiredText factsProduct raw "claim_bundle_decision_id"
  let kind ←
    requiredMember factsProduct EconomicEventKind.members EconomicEventKind.value
      "EconomicEventKind" raw "kind"
  let effectiveAt ← requiredTemporal factsProduct raw "effective_at" .timestamp
  let recordedAt ← requiredTemporal factsProduct raw "recorded_at" .timestamp
  let settlementStatus ←
    requiredMember factsProduct SettlementStatus.members SettlementStatus.value "SettlementStatus"
      raw "settlement_status"
  let lifecycleEvent ←
    requiredMember factsProduct lifecycleMembers lifecycleValue "LifecycleEvent" raw
      "lifecycle_event"
  let legalOwnerRef ← optionalText factsProduct raw "legal_owner_ref"
  let beneficialOwnerRef ← optionalText factsProduct raw "beneficial_owner_ref"
  let counterpartyRef ← optionalText factsProduct raw "counterparty_ref"
  let supersedesEventId ← optionalText factsProduct raw "supersedes_event_id"
  .ok
    { eventId, claimBundleId, claimBundleDecisionId, kind, effectiveAt, recordedAt,
      settlementStatus, lifecycleEvent, legalOwnerRef, beneficialOwnerRef, counterpartyRef,
      supersedesEventId }

/-- `_economic_leg_from_payload` -/
def economicLegFromPayload (raw : JsonDict) : Decoded EconomicLegRecord := do
  let subjectRef ← requiredFactsSubjectRef raw "subject_ref"
  let legId ← requiredText factsProduct raw "leg_id"
  let eventId ← requiredText factsProduct raw "event_id"
  let role ←
    requiredMember factsProduct EconomicLegRole.members EconomicLegRole.value "EconomicLegRole" raw
      "role"
  let instrumentRef ← requiredTextTuple factsProduct raw "instrument_ref"
  let locationRef ← requiredTextTuple factsProduct raw "location_ref"
  let quantity ← requiredDecimal raw "quantity"
  let valuationRef ← optionalText factsProduct raw "valuation_ref"
  EconomicLegFields.create
    { legId, eventId, role, subjectRef, instrumentRef, locationRef, quantity, valuationRef }

/-- `_valuation_from_payload` -/
def valuationFromPayload (raw : JsonDict) : Decoded ValuationRecord := do
  let precisionText ← requiredText factsProduct raw "precision"
  let precision ←
    requireSome (parseTemporalPrecision precisionText)
      "invalid economic facts precision: expected supported precision"
  let originRef ← requiredTextTuple factsProduct raw "origin_ref"
  match originRef with
  | [kind, ref] => do
      let valuationId ← requiredText factsProduct raw "valuation_id"
      let purpose ← requiredText factsProduct raw "purpose"
      let amount ← requiredDecimal raw "amount"
      let currency ← requiredText factsProduct raw "currency"
      let valuedAt ← requiredTemporal factsProduct raw "valued_at" precision
      let provenanceRefs ← requiredTextTuple factsProduct raw "provenance_refs"
      let confidence ← requiredText factsProduct raw "confidence"
      .ok
        { valuationId, originRef := (kind, ref), purpose, amount, currency, valuedAt, precision,
          provenanceRefs, confidence }
  | _ => .error (.value "invalid economic facts origin_ref: expected pair")

/-- `read_economic_facts`, from the JSON value of the file. -/
def readEconomicFacts (content : Json) : Decoded EconomicFacts := do
  let payload ← requiredDict factsProduct "payload" content
  requireSchemaVersion factsProduct payload
  let economicFactsId ← requiredText factsProduct payload "economic_facts_id"
  let claimSetRefs ← requiredTextTuple factsProduct payload "claim_set_refs"
  let economicEventRecords ←
    readItems factsProduct "economic event" economicEventFromPayload payload
      "economic_event_records"
  let economicLegRecords ←
    readItems factsProduct "economic leg" economicLegFromPayload payload "economic_leg_records"
  let valuationRecords ←
    readItems factsProduct "valuation" valuationFromPayload payload "valuation_records"
  .ok { economicFactsId, claimSetRefs, economicEventRecords, economicLegRecords, valuationRecords }

end Products
end Tallylot
