import Tallylot.Data.DecimalContext
import Tallylot.Data.JsonText
import Tallylot.Data.Sorted
import Tallylot.Transactions.Facts

/-!
# Codec — transaction facts as rows

`toRow` writes a fact as a row of texts, with the legs and the policy as JSON; `factFromRow` reads
it.  Times are written to the second, quantities after rounding to the context, limits in the order
of their kinds and a missing hash as a blank, so what is read back is the fact with these settled
(`factFromRow_toRow`).  A quantity above the range of the context cannot be written.
-/

namespace Tallylot
namespace Transactions

open Data Domain

/-! ## Writing -/

def factSchemaVersion : String := "2"

abbrev JsonDict := List (String × Json)

/-- A leg, given the text of its quantity. -/
def legJson (leg : EconomicLeg) (quantity : String) : JsonDict :=
  [ ("leg_id", .str leg.val.legId),
    ("kind", .str leg.val.kind.value),
    ("subtype", .str (leg.val.subtype.getD "")),
    ("instrument_id", .str leg.val.instrumentId),
    ("quantity", .str quantity),
    ("attributed_to_leg_id", .str (leg.val.attributedToLegId.getD "")),
    ("location_id", .str (leg.val.locationId.getD ""))]

/-- `_legs_json` -/
def legsJson (legs : List EconomicLeg) : Decoded Json := do
  let payload ← legs.mapM (fun leg => do
    let quantity ← leg.val.quantity.formatDecimal
    return Json.obj (legJson leg quantity))
  return .arr payload

def countJson : Option Int → Json
  | none => .null
  | some n => .int n

def limitJson (limit : LegShapeLimit) : JsonDict :=
  [ ("kind", .str limit.val.kind.value),
    ("min_count", .int limit.val.minCount),
    ("max_count", .int limit.val.maxCount),
    ("min_positive_count", countJson limit.val.minPositiveCount),
    ("max_positive_count", countJson limit.val.maxPositiveCount),
    ("min_negative_count", countJson limit.val.minNegativeCount),
    ("max_negative_count", countJson limit.val.maxNegativeCount)]

/-- The limits in the order of their kinds. -/
def sortedLimits (policy : FactLegPolicy) : List LegShapeLimit :=
  sortedOn (fun limit : LegShapeLimit => limit.val.kind.value) policy.val.limits

/-- `_leg_policy_json` -/
def legPolicyJson (policy : FactLegPolicy) : Json :=
  .arr ((sortedLimits policy).map (fun limit => .obj (limitJson limit)))

/-- `format_temporal_value` -/
def formatTemporalValue (value : Instant) (precision : TemporalPrecision) (label : String) :
    Decoded String := do
  let normalized ← requireTemporalDatetime value precision label
  return normalized.text

/-- The text of the effective time, blank where there is none. -/
def effectiveText (fact : TransactionFactFields) : Decoded String :=
  match fact.effectiveAt, fact.effectivePrecision with
  | some value, some precision =>
      formatTemporalValue value precision "transaction fact effective_at"
  | _, _ => .ok ""

def precisionText : Option TemporalPrecision → String
  | none => ""
  | some precision => precision.text

/-- The row of a fact, given the text of its effective time and its legs. -/
def factRow (fact : TransactionFactFields) (effectiveAt : String) (legs : Json) : Row :=
  [ ("schema_version", factSchemaVersion),
    ("fact_id", fact.factId),
    ("source", fact.source),
    ("adapter_id", fact.adapterId),
    ("timestamp", fact.timestamp.timestampText),
    ("effective_at", effectiveAt),
    ("effective_precision", precisionText fact.effectivePrecision),
    ("location_id", fact.locationId),
    ("economic_kind", fact.semantics.economicKind.value),
    ("projection_hint", (fact.semantics.projectionHint.map ProjectionHint.value).getD ""),
    ("accounting_intent_hint", fact.semantics.accountingIntentHint.value),
    ("tax_treatment_hint", fact.semantics.taxTreatmentHint.value),
    ("description", fact.description),
    ("provider_operation_key", fact.providerOperationKey),
    ("operation_group_id", fact.operationGroupId),
    ("tx_hash", fact.txHash.getD ""),
    ("raw_file", fact.rawFile),
    ("raw_row_ref", fact.rawRowRef),
    ("confidence", fact.confidence),
    ("status", fact.status),
    ("legs", legs.compactText),
    ("leg_policy", (legPolicyJson fact.legPolicy).compactText)]

/-- `to_row` -/
def toRow (fact : TransactionFactFields) : Decoded Row := do
  let effectiveAt ← effectiveText fact
  let legs ← legsJson fact.legs
  return factRow fact effectiveAt legs

/-! ## Reading -/

/-- `raw.get(key)`; of equal keys the last one counts. -/
def jsonGet (raw : JsonDict) (key : String) : Json := ((raw.reverse).lookup key).getD .null

/-- An item of an array of objects. -/
def jsonObject (label : String) : Json → Decoded JsonDict
  | .obj fields => .ok fields
  | _ => .error (.value ("invalid JSON field " ++ label ++ ": expected array of objects"))

/-- `_json_array` -/
def jsonArray (value label : String) : Decoded (List JsonDict) := do
  let payload ← requireSome (Json.loads value) ("invalid JSON field " ++ label)
  match payload with
  | .arr items => items.mapM (jsonObject label)
  | _ => .error (.value ("invalid JSON field " ++ label ++ ": expected array"))

/-- `_required_str` -/
def requiredStr (raw : JsonDict) (key : String) : Decoded String :=
  match jsonGet raw key with
  | .str value =>
      if value = "" then .error (.value ("missing required string field: " ++ key)) else .ok value
  | _ => .error (.value ("missing required string field: " ++ key))

/-- `_optional_str` -/
def optionalStr (raw : JsonDict) (key : String) : Decoded (Option String) :=
  match jsonGet raw key with
  | .null => .ok none
  | .str value => .ok (if value = "" then none else some value)
  | _ => .error (.value ("invalid string field: " ++ key))

/-- `_required_int_value` -/
def requiredIntValue (raw : JsonDict) (key : String) : Decoded Int :=
  match jsonGet raw key with
  | .int value => .ok value
  | _ => .error (.value ("missing required integer field: " ++ key))

/-- `_optional_int_value` -/
def optionalIntValue (raw : JsonDict) (key : String) : Decoded (Option Int) :=
  match jsonGet raw key with
  | .null => .ok none
  | .int value => .ok (some value)
  | _ => .error (.value ("invalid integer field: " ++ key))

/-- `LegKind(text)` -/
def legKindOf (text : String) : Decoded LegKind :=
  requireSome (ofValue LegKind.members LegKind.value text) (text ++ " is not a valid LegKind")

/-- One leg of `_legs_from_text`. -/
def legFromJson (raw : JsonDict) : Decoded EconomicLeg := do
  let legId ← requiredStr raw "leg_id"
  let kindText ← requiredStr raw "kind"
  let kind ← legKindOf kindText
  let instrumentId ← requiredStr raw "instrument_id"
  let quantityText ← requiredStr raw "quantity"
  let parsed ← Decimal.parseSettled quantityText
  let quantity ← requireSome parsed "missing required decimal field: leg.quantity"
  let subtype ← optionalStr raw "subtype"
  let attributedToLegId ← optionalStr raw "attributed_to_leg_id"
  let locationId ← optionalStr raw "location_id"
  economicLeg.build
    { legId := legId
      kind := kind
      instrumentId := instrumentId
      quantity := quantity
      subtype := subtype
      attributedToLegId := attributedToLegId
      locationId := locationId }

/-- `_legs_from_text` -/
def legsFromText (value : String) : Decoded (List EconomicLeg) :=
  if value = "" then .ok []
  else do
    let rawLegs ← jsonArray value "legs"
    rawLegs.mapM legFromJson

/-- One limit of `_policy_from_text`. -/
def limitFromJson (raw : JsonDict) : Decoded LegShapeLimit := do
  let kindText ← requiredStr raw "kind"
  let kind ← legKindOf kindText
  let minCount ← optionalIntValue raw "min_count"
  let maxCount ← requiredIntValue raw "max_count"
  let minPositiveCount ← optionalIntValue raw "min_positive_count"
  let maxPositiveCount ← optionalIntValue raw "max_positive_count"
  let minNegativeCount ← optionalIntValue raw "min_negative_count"
  let maxNegativeCount ← optionalIntValue raw "max_negative_count"
  legShapeLimit.build
    { kind := kind
      maxCount := maxCount
      minCount := minCount.getD 0
      maxPositiveCount := maxPositiveCount
      minPositiveCount := minPositiveCount
      maxNegativeCount := maxNegativeCount
      minNegativeCount := minNegativeCount }

/-- `_policy_from_text` -/
def policyFromText (value : String) : Decoded FactLegPolicy := do
  let rawLimits ← jsonArray value "leg_policy"
  let limits ← rawLimits.mapM limitFromJson
  factLegPolicy.build ⟨limits⟩

/-- `_required_enum` -/
def requiredEnum {α : Type} (value : Option α) (label : String) : Decoded α :=
  requireSome value ("missing required enum field: " ++ label)

/-- The precision of the effective time, where the row has one. -/
def effectivePrecisionFromRow (row : Row) : Decoded (Option TemporalPrecision) := do
  let effectiveAtText := strip (row.getD "effective_at" "")
  let effectivePrecisionText := strip (row.getD "effective_precision" "")
  require (effectiveAtText = "" ↔ effectivePrecisionText = "")
    "fact row effective_at and effective_precision must both be present or both be blank"
  if effectiveAtText = "" then return none
  else do
    let precision ←
      requiredEnum (parseTemporalPrecision effectivePrecisionText) "effective_precision"
    return some precision

def effectiveAtFromRow (row : Row) (precision : Option TemporalPrecision) :
    Decoded (Option Instant) :=
  match precision with
  | none => .ok none
  | some precision => do
      let effectiveAt ← parseTemporalValue (strip (row.getD "effective_at" "")) precision
      return some effectiveAt

def semanticsFromRow (row : Row) : Decoded FactSemantics := do
  let economicKind ← row.text "economic_kind" >>= parseEconomicKind
  let economicKind ← requiredEnum economicKind "economic_kind"
  let accountingIntentHint ← row.text "accounting_intent_hint" >>= parseAccountingIntentHint
  let accountingIntentHint ← requiredEnum accountingIntentHint "accounting_intent_hint"
  let taxTreatmentHint ← row.text "tax_treatment_hint" >>= parseTaxTreatmentHint
  let taxTreatmentHint ← requiredEnum taxTreatmentHint "tax_treatment_hint"
  let projectionHint ← parseProjectionHint (row.getD "projection_hint" "")
  return { economicKind, accountingIntentHint, taxTreatmentHint, projectionHint }

/-- `fact_from_row` -/
def factFromRow (row : Row) : Decoded TransactionFact := do
  let schemaVersion := row.getD "schema_version" ""
  require (schemaVersion = factSchemaVersion)
    ("unsupported fact schema_version: " ++
      (if schemaVersion = "" then "<missing>" else schemaVersion) ++ "; expected " ++
        factSchemaVersion)
  let effectivePrecision ← effectivePrecisionFromRow row
  let factId ← row.text "fact_id"
  let source ← row.text "source"
  let adapterId ← row.text "adapter_id"
  let timestamp ← row.text "timestamp" >>= parseTimestamp
  let effectiveAt ← effectiveAtFromRow row effectivePrecision
  let locationId ← row.text "location_id"
  let legPolicy ← policyFromText (row.getD "leg_policy" "")
  let semantics ← semanticsFromRow row
  let legs ← legsFromText (row.getD "legs" "")
  let txHash := row.getD "tx_hash" ""
  transactionFact.build
    { factId := factId
      source := source
      adapterId := adapterId
      timestamp := timestamp
      locationId := locationId
      semantics := semantics
      legs := legs
      legPolicy := legPolicy
      description := row.getD "description" ""
      providerOperationKey := row.getD "provider_operation_key" ""
      operationGroupId := row.getD "operation_group_id" ""
      txHash := if txHash = "" then none else some txHash
      rawFile := row.getD "raw_file" ""
      rawRowRef := row.getD "raw_row_ref" ""
      confidence := row.getD "confidence" "high"
      status := row.getD "status" "mapped"
      effectiveAt := effectiveAt
      effectivePrecision := effectivePrecision }

end Transactions
end Tallylot
