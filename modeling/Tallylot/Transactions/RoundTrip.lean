import Tallylot.Data.Parts
import Tallylot.Transactions.Codec

/-!
# RoundTrip — facts read back from their rows

A row shows times to the second, quantities with the digits of the context, and limits in the order
of their kinds.  `settled` is the fact with these settled; it is built like any other fact, and it is
what `factFromRow` gives for the row of a fact.
-/

namespace Tallylot
namespace Transactions

open Data Domain

/-! ## Settled values -/

def EconomicLegFields.settled (leg : EconomicLegFields) : EconomicLegFields :=
  { leg with quantity := leg.quantity.quantize }

lemma accepted_settledLeg (leg : EconomicLeg) : economicLeg.Accepted leg.val.settled := by
  rcases (postInit_eq_ok_iff leg.val leg.val).1 (economicLeg.make_fields leg.property) with
    ⟨hvalid, location, hlocation, hbuilt⟩
  have hquantity : leg.val.settled.quantity ≠ 0 :=
    fun h => hvalid.quantity ((Decimal.quantize_eq_zero_iff _).1 h)
  have hsame : leg.val.locationId = location := by
    rw [hbuilt]
  refine ⟨leg.val.settled, (postInit_eq_ok_iff _ _).2 ⟨?_, location, hlocation, ?_⟩⟩
  · exact ⟨hvalid.legId, hvalid.instrument, hquantity, hvalid.primary, hvalid.attributed,
      hvalid.subtype⟩
  · rw [← hsame]
    rfl

def settledLeg (leg : EconomicLeg) : EconomicLeg := ⟨leg.val.settled, accepted_settledLeg leg⟩

lemma sameShape_settledLeg (leg : EconomicLeg) : SameShape leg (settledLeg leg) where
  legId := rfl
  kind := rfl
  sign := (Decimal.quantize_pos_iff _).symm
  attributed := rfl

lemma mem_sortedLimits (policy : FactLegPolicy) (limit : LegShapeLimit) :
    limit ∈ policy.val.limits ↔ limit ∈ sortedLimits policy :=
  (sortedOn_perm _ policy.val.limits).mem_iff.symm

lemma accepted_settledPolicy (policy : FactLegPolicy) :
    factLegPolicy.Accepted ⟨sortedLimits policy⟩ := by
  rcases (factLegPolicy_accepted policy.val).1 policy.property with ⟨hne, hnodup⟩
  have hperm := sortedOn_perm (fun limit : LegShapeLimit => limit.val.kind.value) policy.val.limits
  refine (factLegPolicy_accepted _).2 ⟨?_, ?_⟩
  · intro hnil
    exact hne (List.perm_nil.1 (hnil ▸ hperm.symm))
  · exact ((hperm.map _).nodup_iff).2 hnodup

/-- The policy with its limits in the order of their kinds. -/
def settledPolicy (policy : FactLegPolicy) : FactLegPolicy :=
  ⟨⟨sortedLimits policy⟩, accepted_settledPolicy policy⟩

def settledHash : Option String → Option String
  | none => none
  | some hash => if hash = "" then none else some hash

def TransactionFactFields.settled (fact : TransactionFactFields) : TransactionFactFields :=
  { fact with
    timestamp := fact.timestamp.wholeSecond
    legs := fact.legs.map settledLeg
    legPolicy := settledPolicy fact.legPolicy
    txHash := settledHash fact.txHash
    effectiveAt := fact.effectiveAt.map Instant.wholeSecond }

lemma forall₂_settledLeg (legs : List EconomicLeg) :
    List.Forall₂ SameShape legs (legs.map settledLeg) := by
  rw [List.forall₂_map_right_iff]
  exact List.forall₂_same.2 (fun leg _ => sameShape_settledLeg leg)

lemma requireEffective_settled {effectiveAt : Option Instant}
    {effectivePrecision : Option TemporalPrecision}
    (h : requireEffective effectiveAt effectivePrecision = .ok ()) :
    requireEffective (effectiveAt.map Instant.wholeSecond) effectivePrecision = .ok () := by
  cases effectiveAt with
  | none => exact h
  | some value =>
      cases effectivePrecision with
      | none => exact h
      | some precision =>
          rcases bind_eq_ok_iff.1 h with ⟨v, hv, _⟩
          rcases requireTemporalDatetime_eq_ok hv with ⟨hinstant, hprecision⟩
          have hsettled := requireTemporalDatetime_self v.settled "transaction fact effective_at"
          simp only [TemporalValue.settled, hinstant, hprecision] at hsettled
          simp only [Option.map_some, requireEffective, hsettled, bind_ok]
          rfl

lemma postInit_settledFact (fact : TransactionFact) :
    fact.val.settled.postInit = .ok fact.val.settled := by
  rcases (fact_postInit_eq_ok_iff fact.val fact.val).1
    (transactionFact.make_fields fact.property) with
    ⟨location, hlocation, heffective, hlegs, hbuilt⟩
  have hsame : fact.val.locationId = location := by
    rw [hbuilt]
  have hvalid : validateFact fact.val.settled.legs fact.val.settled.legPolicy = .ok () :=
    validateFact_congr (mem_sortedLimits fact.val.legPolicy) (forall₂_settledLeg fact.val.legs)
      hlegs
  refine (fact_postInit_eq_ok_iff _ _).2
    ⟨location, hlocation, requireEffective_settled heffective, hvalid, ?_⟩
  rw [← hsame]
  rfl

/-- A fact with its times at the second, its quantities rounded and its limits sorted. -/
def settledFact (fact : TransactionFact) : TransactionFact :=
  ⟨fact.val.settled, fact.val.settled, postInit_settledFact fact⟩

/-! ## Fields read back -/

lemma jsonArray_compactText (objects : List JsonDict) (label : String) :
    jsonArray (Json.arr (objects.map Json.obj)).compactText label = .ok objects := by
  have hitems : (objects.map Json.obj).mapM (jsonObject label) =
      .ok (objects.map (fun fields => fields)) := mapM_ok_map (fun fields _ => rfl)
  simpa [jsonArray, Json.loads_compactText, bind_ok] using hitems

lemma requiredStr_of_get {raw : JsonDict} {key value : String} (hget : jsonGet raw key = .str value)
    (hne : value ≠ "") : requiredStr raw key = .ok value := by
  simp [requiredStr, hget, hne]

/-- A text that is blank where there is none. -/
lemma optionalStr_of_get {raw : JsonDict} {key : String} {value : Option String}
    (hget : jsonGet raw key = .str (value.getD "")) (hne : ∀ text, value = some text → text ≠ "") :
    optionalStr raw key = .ok value := by
  cases value with
  | none => simp [optionalStr, hget]
  | some text => simp [optionalStr, hget, hne text rfl]

lemma optionalIntValue_of_get {raw : JsonDict} {key : String} {value : Option Int}
    (hget : jsonGet raw key = countJson value) : optionalIntValue raw key = .ok value := by
  cases value with
  | none => simp [optionalIntValue, hget, countJson]
  | some n => simp [optionalIntValue, hget, countJson]

lemma legKindOf_value (kind : LegKind) : legKindOf kind.value = .ok kind := by
  have hnodup : (LegKind.members.map LegKind.value).Nodup := by decide
  have hmem : kind ∈ LegKind.members := by
    cases kind <;> decide
  simp [legKindOf, ofValue_value hnodup hmem]

lemma kindValue_ne_empty (kind : LegKind) : kind.value ≠ "" := by
  cases kind <;> decide

lemma ne_empty_of_isSnakeCase {value : String} (h : isSnakeCase value = true) : value ≠ "" := by
  rintro rfl
  exact absurd h (by decide)

lemma location_ne_empty {leg : EconomicLeg} {location : String}
    (h : leg.val.locationId = some location) : location ≠ "" := by
  rcases (postInit_eq_ok_iff leg.val leg.val).1 (economicLeg.make_fields leg.property) with
    ⟨_, built, hbuilt, hsame⟩
  rw [h, requireLegLocation] at hbuilt
  rcases bind_eq_ok_iff.1 hbuilt with ⟨text, htext, hsome⟩
  cases hsome
  have hlocation : leg.val.locationId = some text := by
    rw [hsame]
  rw [h] at hlocation
  cases hlocation
  exact (requireLocationId_settled htext).2.1

/-- A leg is read back with its quantity rounded. -/
theorem legFromJson_legJson {leg : EconomicLeg} (hrange : leg.val.quantity.InRange) :
    legFromJson (legJson leg leg.val.quantity.format) = .ok (settledLeg leg) := by
  rcases (postInit_eq_ok_iff leg.val leg.val).1 (economicLeg.make_fields leg.property) with
    ⟨hvalid, _⟩
  have hid := requiredStr_of_get (show jsonGet (legJson leg leg.val.quantity.format) "leg_id" = .str leg.val.legId by
    simp [jsonGet, legJson, List.lookup_cons]) (ne_empty_of_isSnakeCase hvalid.legId)
  have hkind := requiredStr_of_get (show jsonGet (legJson leg leg.val.quantity.format) "kind" = .str leg.val.kind.value by
    simp [jsonGet, legJson, List.lookup_cons]) (kindValue_ne_empty _)
  have hinstrument := requiredStr_of_get
    (show jsonGet (legJson leg leg.val.quantity.format) "instrument_id" = .str leg.val.instrumentId by
      simp [jsonGet, legJson, List.lookup_cons]) hvalid.instrument
  have hquantity := requiredStr_of_get
    (show jsonGet (legJson leg leg.val.quantity.format) "quantity" = .str leg.val.quantity.format by
      simp [jsonGet, legJson, List.lookup_cons]) (Decimal.text_ne_empty _)
  have hsubtype := optionalStr_of_get
    (show jsonGet (legJson leg leg.val.quantity.format) "subtype" = .str (leg.val.subtype.getD "") by
      simp [jsonGet, legJson, List.lookup_cons])
    (fun text htext => ne_empty_of_isSnakeCase (hvalid.subtype text htext))
  have hattributed := optionalStr_of_get
    (show jsonGet (legJson leg leg.val.quantity.format) "attributed_to_leg_id" =
        .str (leg.val.attributedToLegId.getD "") by
      simp [jsonGet, legJson, List.lookup_cons])
    (fun text htext => ne_empty_of_isSnakeCase (hvalid.attributed text htext))
  have hlocation := optionalStr_of_get
    (show jsonGet (legJson leg leg.val.quantity.format) "location_id" = .str (leg.val.locationId.getD "") by
      simp [jsonGet, legJson])
    (fun text htext => location_ne_empty htext)
  have hbuild : economicLeg.build leg.val.settled = .ok (settledLeg leg) :=
    economicLeg.build_fields (settledLeg leg)
  simp only [legFromJson, hid, hkind, legKindOf_value, hinstrument, hquantity,
    Decimal.parseSettled_format hrange, requireSome_some, hsubtype, hattributed, hlocation, bind_ok]
  exact hbuild

/-- A limit is read back. -/
theorem limitFromJson_limitJson (limit : LegShapeLimit) :
    limitFromJson (limitJson limit) = .ok limit := by
  have hkind := requiredStr_of_get
    (show jsonGet (limitJson limit) "kind" = .str limit.val.kind.value by
      simp [jsonGet, limitJson, List.lookup_cons]) (kindValue_ne_empty _)
  have hmin : optionalIntValue (limitJson limit) "min_count" = .ok (some limit.val.minCount) := by
    simp [optionalIntValue, jsonGet, limitJson, List.lookup_cons]
  have hmax : requiredIntValue (limitJson limit) "max_count" = .ok limit.val.maxCount := by
    simp [requiredIntValue, jsonGet, limitJson, List.lookup_cons]
  have hminPositive := optionalIntValue_of_get
    (show jsonGet (limitJson limit) "min_positive_count" = countJson limit.val.minPositiveCount by
      simp [jsonGet, limitJson, List.lookup_cons])
  have hmaxPositive := optionalIntValue_of_get
    (show jsonGet (limitJson limit) "max_positive_count" = countJson limit.val.maxPositiveCount by
      simp [jsonGet, limitJson, List.lookup_cons])
  have hminNegative := optionalIntValue_of_get
    (show jsonGet (limitJson limit) "min_negative_count" = countJson limit.val.minNegativeCount by
      simp [jsonGet, limitJson, List.lookup_cons])
  have hmaxNegative := optionalIntValue_of_get
    (show jsonGet (limitJson limit) "max_negative_count" = countJson limit.val.maxNegativeCount by
      simp [jsonGet, limitJson])
  simp only [limitFromJson, hkind, legKindOf_value, hmin, hmax, hminPositive, hmaxPositive,
    hminNegative, hmaxNegative, bind_ok, Option.getD_some]
  exact legShapeLimit.build_fields limit

/-- The payload of a leg whose quantity is in range. -/
def legPayload (leg : EconomicLeg) : JsonDict := legJson leg leg.val.quantity.format

/-- Legs in range are written, and read back with their quantities rounded. -/
lemma legs_compactText {legs : List EconomicLeg} (hrange : ∀ leg ∈ legs, leg.val.quantity.InRange) :
    ∃ payload, legsJson legs = .ok payload ∧
      legsFromText payload.compactText = .ok (legs.map settledLeg) := by
  have hwritten : (legs.map (fun leg => leg)).mapM (fun leg => do
      let quantity ← leg.val.quantity.formatDecimal
      return Json.obj (legJson leg quantity)) = .ok (legs.map (fun leg => Json.obj (legPayload leg))) := by
    refine mapM_ok_map (fun leg hleg => ?_)
    rw [Decimal.formatDecimal_of_inRange (hrange leg hleg)]
    rfl
  rw [List.map_id'] at hwritten
  refine ⟨.arr ((legs.map legPayload).map Json.obj), ?_, ?_⟩
  · rw [legsJson, hwritten, List.map_map]
    rfl
  · set payload := Json.arr ((legs.map legPayload).map Json.obj) with hpayload
    have hne : payload.compactText ≠ "" := by
      intro h
      have hloads := Json.loads_compactText payload
      rw [h] at hloads
      exact absurd hloads (by simp [Json.loads, Json.skipSpace, Json.readValue])
    have hlegs : (legs.map legPayload).mapM legFromJson = .ok (legs.map settledLeg) :=
      mapM_ok_map (fun leg hleg => legFromJson_legJson (hrange leg hleg))
    rw [legsFromText, if_neg hne, jsonArray_compactText (legs.map legPayload) "legs", bind_ok, hlegs]

lemma policyFromText_compactText (policy : FactLegPolicy) :
    policyFromText (legPolicyJson policy).compactText = .ok (settledPolicy policy) := by
  have harray := jsonArray_compactText ((sortedLimits policy).map limitJson) "leg_policy"
  rw [List.map_map] at harray
  have hlimits : ((sortedLimits policy).map limitJson).mapM limitFromJson =
      .ok ((sortedLimits policy).map (fun limit => limit)) :=
    mapM_ok_map (fun limit _ => limitFromJson_limitJson limit)
  rw [List.map_id'] at hlimits
  have harray' : jsonArray (legPolicyJson policy).compactText "leg_policy" =
      .ok ((sortedLimits policy).map limitJson) := harray
  rw [policyFromText, harray', bind_ok, hlimits, bind_ok]
  exact factLegPolicy.build_fields (settledPolicy policy)

/-! ## Rows read back -/

lemma parseOptionalEnum_value {α : Type} {name : String} {members : List α} {value : α → String}
    (hnodup : (members.map value).Nodup)
    (hplain : ∀ a ∈ members, strip (value a) = value a ∧ value a ≠ "") {a : α} (ha : a ∈ members) :
    parseOptionalEnum name members value (value a) = .ok (some a) := by
  rw [parseOptionalEnum, (hplain a ha).1, if_neg (hplain a ha).2, ofValue_value hnodup ha]

lemma parseEconomicKind_value (kind : EconomicKind) :
    parseEconomicKind kind.value = .ok (some kind) :=
  parseOptionalEnum_value (by decide) (by decide) (by cases kind <;> decide)

lemma parseProjectionHint_value (hint : ProjectionHint) :
    parseProjectionHint hint.value = .ok (some hint) :=
  parseOptionalEnum_value (by decide) (by decide) (by cases hint <;> decide)

lemma parseAccountingIntentHint_value (hint : AccountingIntentHint) :
    parseAccountingIntentHint hint.value = .ok (some hint) :=
  parseOptionalEnum_value (by decide) (by decide) (by cases hint <;> decide)

lemma parseTaxTreatmentHint_value (hint : TaxTreatmentHint) :
    parseTaxTreatmentHint hint.value = .ok (some hint) :=
  parseOptionalEnum_value (by decide) (by decide) (by cases hint <;> decide)

lemma semanticsFromRow_factRow (fact : TransactionFactFields) (effectiveAt : String) (legs : Json) :
    semanticsFromRow (factRow fact effectiveAt legs) = .ok fact.semantics := by
  have heconomic : (factRow fact effectiveAt legs).text "economic_kind" =
      .ok fact.semantics.economicKind.value := by
    simp [Row.text, factRow, List.lookup_cons]
  have hintent : (factRow fact effectiveAt legs).text "accounting_intent_hint" =
      .ok fact.semantics.accountingIntentHint.value := by
    simp [Row.text, factRow, List.lookup_cons]
  have htax : (factRow fact effectiveAt legs).text "tax_treatment_hint" =
      .ok fact.semantics.taxTreatmentHint.value := by
    simp [Row.text, factRow, List.lookup_cons]
  have hprojection : parseProjectionHint ((factRow fact effectiveAt legs).getD "projection_hint" "") =
      .ok fact.semantics.projectionHint := by
    have hcolumn : (factRow fact effectiveAt legs).getD "projection_hint" "" =
        (fact.semantics.projectionHint.map ProjectionHint.value).getD "" := by
      simp [Row.getD, factRow, List.lookup_cons]
    rw [hcolumn]
    cases fact.semantics.projectionHint with
    | none => decide
    | some hint => exact parseProjectionHint_value hint
  simp only [semanticsFromRow, heconomic, hintent, htax, hprojection, bind_ok,
    parseEconomicKind_value, parseAccountingIntentHint_value, parseTaxTreatmentHint_value,
    requiredEnum, requireSome_some]
  rfl

/-- The effective time of a fact is absent, or a temporal value. -/
lemma effective_cases {effectiveAt : Option Instant}
    {effectivePrecision : Option TemporalPrecision}
    (h : requireEffective effectiveAt effectivePrecision = .ok ()) :
    (effectiveAt = none ∧ effectivePrecision = none) ∨
      ∃ v : TemporalValue, effectiveAt = some v.instant ∧ effectivePrecision = some v.precision := by
  cases effectiveAt with
  | none =>
      cases effectivePrecision with
      | none => exact Or.inl ⟨rfl, rfl⟩
      | some precision => cases h
  | some value =>
      cases effectivePrecision with
      | none => cases h
      | some precision =>
          rcases bind_eq_ok_iff.1 h with ⟨v, hv, _⟩
          rcases requireTemporalDatetime_eq_ok hv with ⟨hinstant, hprecision⟩
          exact Or.inr ⟨v, by rw [hinstant], by rw [hprecision]⟩

/-- The effective time is written, and read back at its second. -/
lemma effective_factRow {fact : TransactionFactFields}
    (h : requireEffective fact.effectiveAt fact.effectivePrecision = .ok ()) (legs : Json) :
    ∃ text, effectiveText fact = .ok text ∧
      effectivePrecisionFromRow (factRow fact text legs) = .ok fact.effectivePrecision ∧
        effectiveAtFromRow (factRow fact text legs) fact.effectivePrecision =
          .ok (fact.effectiveAt.map Instant.wholeSecond) := by
  have hat : ∀ text, (factRow fact text legs).getD "effective_at" "" = text := by
    intro text
    simp [Row.getD, factRow, List.lookup_cons]
  have hprecision : ∀ text, (factRow fact text legs).getD "effective_precision" "" =
      precisionText fact.effectivePrecision := by
    intro text
    simp [Row.getD, factRow, List.lookup_cons]
  have hempty : strip "" = "" := by decide
  rcases effective_cases h with ⟨hnone, hnone'⟩ | ⟨v, hsome, hsome'⟩
  · refine ⟨"", by simp [effectiveText, hnone], ?_, ?_⟩
    · simp only [effectivePrecisionFromRow, hat, hprecision, hnone', precisionText, hempty,
        require, iff_self, if_true, bind_ok]
      rfl
    · simp [effectiveAtFromRow, hnone, hnone']
  · have hself := requireTemporalDatetime_self v "transaction fact effective_at"
    have hpresent : (v.text = "" ↔ v.precision.text = "") :=
      iff_of_false v.text_ne_empty (precisionText_ne_empty _)
    refine ⟨v.text, ?_, ?_, ?_⟩
    · simp only [effectiveText, hsome, hsome', formatTemporalValue, hself, bind_ok]
      rfl
    · simp only [effectivePrecisionFromRow, hat, hprecision, hsome', precisionText, v.strip_text,
        strip_precisionText, require, hpresent, if_true, precisionText_ne_empty, if_false, requiredEnum,
        parseTemporalPrecision_text, requireSome_some, bind_ok]
      rfl
    · simp only [effectiveAtFromRow, hat, hsome, hsome', v.strip_text, v.parse_text, bind_ok]
      rfl

/-- The row of a fact is read as the fact with its values settled. -/
theorem factFromRow_toRow {fact : TransactionFact}
    (hrange : ∀ leg ∈ fact.val.legs, leg.val.quantity.InRange) :
    (toRow fact.val >>= factFromRow) = .ok (settledFact fact) := by
  rcases (fact_postInit_eq_ok_iff fact.val fact.val).1
    (transactionFact.make_fields fact.property) with ⟨_, _, heffective, _⟩
  rcases legs_compactText hrange with ⟨payload, hpayload, hread⟩
  rcases effective_factRow heffective payload with ⟨text, htext, hprecision, hat⟩
  have hrow : toRow fact.val = .ok (factRow fact.val text payload) := by
    simp only [toRow, htext, hpayload, bind_ok]
    rfl
  have hbuild : transactionFact.build fact.val.settled = .ok (settledFact fact) :=
    transactionFact.build_fields (settledFact fact)
  generalize hcolumns : factRow fact.val text payload = row at hrow hprecision hat
  have hschema : row.getD "schema_version" "" = factSchemaVersion := by
    simp [← hcolumns, Row.getD, factRow]
  have hid : row.text "fact_id" = .ok fact.val.factId := by
    simp [← hcolumns, Row.text, factRow, List.lookup_cons]
  have hsource : row.text "source" = .ok fact.val.source := by
    simp [← hcolumns, Row.text, factRow, List.lookup_cons]
  have hadapter : row.text "adapter_id" = .ok fact.val.adapterId := by
    simp [← hcolumns, Row.text, factRow, List.lookup_cons]
  have htimestamp : row.text "timestamp" = .ok fact.val.timestamp.timestampText := by
    simp [← hcolumns, Row.text, factRow, List.lookup_cons]
  have hlocation : row.text "location_id" = .ok fact.val.locationId := by
    simp [← hcolumns, Row.text, factRow, List.lookup_cons]
  have hpolicy : row.getD "leg_policy" "" = (legPolicyJson fact.val.legPolicy).compactText := by
    simp [← hcolumns, Row.getD, factRow, List.lookup_cons]
  have hlegs : row.getD "legs" "" = payload.compactText := by
    simp [← hcolumns, Row.getD, factRow, List.lookup_cons]
  have hsemantics : semanticsFromRow row = .ok fact.val.semantics := by
    rw [← hcolumns]
    exact semanticsFromRow_factRow fact.val text payload
  have hhash : (if row.getD "tx_hash" "" = "" then none else some (row.getD "tx_hash" "")) =
      settledHash fact.val.txHash := by
    have hcolumn : row.getD "tx_hash" "" = fact.val.txHash.getD "" := by
      simp [← hcolumns, Row.getD, factRow, List.lookup_cons]
    rw [hcolumn]
    cases fact.val.txHash with
    | none => rfl
    | some hash => rfl
  have hdescription : row.getD "description" "" = fact.val.description := by
    simp [← hcolumns, Row.getD, factRow, List.lookup_cons]
  have hoperation : row.getD "provider_operation_key" "" = fact.val.providerOperationKey := by
    simp [← hcolumns, Row.getD, factRow, List.lookup_cons]
  have hgroup : row.getD "operation_group_id" "" = fact.val.operationGroupId := by
    simp [← hcolumns, Row.getD, factRow, List.lookup_cons]
  have hfile : row.getD "raw_file" "" = fact.val.rawFile := by
    simp [← hcolumns, Row.getD, factRow, List.lookup_cons]
  have hrowRef : row.getD "raw_row_ref" "" = fact.val.rawRowRef := by
    simp [← hcolumns, Row.getD, factRow, List.lookup_cons]
  have hconfidence : row.getD "confidence" "high" = fact.val.confidence := by
    simp [← hcolumns, Row.getD, factRow, List.lookup_cons]
  have hstatus : row.getD "status" "mapped" = fact.val.status := by
    simp [← hcolumns, Row.getD, factRow, List.lookup_cons]
  rw [hrow, bind_ok]
  simp only [factFromRow, hschema, require, if_true, hprecision, hid, hsource, hadapter, htimestamp,
    parseTimestamp_text, hat, hlocation, hpolicy, policyFromText_compactText, hsemantics, hlegs,
    hread, hhash, hdescription, hoperation, hgroup, hfile, hrowRef, hconfidence,
    hstatus, bind_ok]
  exact hbuild

end Transactions
end Tallylot
