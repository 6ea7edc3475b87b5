import Tallylot.Data.Reordering
import Tallylot.Products.EconomicFacts

/-!
# FactsRoundTrip — economic facts read back from their file

A file shows times to the second, quantities with the digits of the context, provenance refs and
records in their order.  `settled` is a record with these settled; it is what reading gives, and reading
succeeds exactly where no text that a record must have is blank.
-/

namespace Tallylot
namespace Products

open Data Domain Transactions

/-! ## Events -/

/-- The texts that an event must have are there. -/
structure EconomicEventRecord.Legible (event : EconomicEventRecord) : Prop where
  eventId : event.eventId ≠ ""
  claimBundleId : event.claimBundleId ≠ ""
  claimBundleDecisionId : event.claimBundleDecisionId ≠ ""

def EconomicEventRecord.settled (event : EconomicEventRecord) : EconomicEventRecord :=
  { event with
    effectiveAt := event.effectiveAt.wholeSecond
    recordedAt := event.recordedAt.wholeSecond }

lemma EconomicEventRecord.settled_settled (event : EconomicEventRecord) :
    event.settled.settled = event.settled := rfl

/-- An event is read exactly where its ids are there, with its times at the second. -/
theorem economicEventFromPayload_eq_ok_iff (event found : EconomicEventRecord) :
    economicEventFromPayload event.toPayload = .ok found ↔
      event.Legible ∧ found = event.settled := by
  have hid : jsonGet event.toPayload "event_id" = .str event.eventId := rfl
  have hbundle : jsonGet event.toPayload "claim_bundle_id" = .str event.claimBundleId := rfl
  have hdecision : jsonGet event.toPayload "claim_bundle_decision_id" =
      .str event.claimBundleDecisionId := rfl
  refine reading_eq_ok_iff ?_ ?_ found
  · -- The three ids are the first fields that are read.
    intro e h
    rcases bind_eq_ok_iff.1 h with ⟨_, hreadId, h⟩
    rcases bind_eq_ok_iff.1 h with ⟨_, hreadBundle, h⟩
    rcases bind_eq_ok_iff.1 h with ⟨_, hreadDecision, _⟩
    exact ⟨ne_blank_of_read hreadId hid, ne_blank_of_read hreadBundle hbundle,
      ne_blank_of_read hreadDecision hdecision⟩
  · intro h
    have hkind : requiredMember factsProduct EconomicEventKind.members EconomicEventKind.value
        "EconomicEventKind" event.toPayload "kind" = .ok event.kind :=
      requiredMember_of_get rfl (by cases event.kind <;> decide) EconomicEventKind.value_nodup
        (EconomicEventKind.mem_members event.kind)
    have hstatus : requiredMember factsProduct SettlementStatus.members SettlementStatus.value
        "SettlementStatus" event.toPayload "settlement_status" = .ok event.settlementStatus :=
      requiredMember_of_get rfl (by cases event.settlementStatus; decide) (by decide)
        (by cases event.settlementStatus; decide)
    have hlifecycle : requiredMember factsProduct lifecycleMembers lifecycleValue
        "LifecycleEvent" event.toPayload "lifecycle_event" = .ok event.lifecycleEvent :=
      requiredMember_of_get rfl (by cases event.lifecycleEvent <;> decide) (by decide)
        (by cases event.lifecycleEvent <;> decide)
    have heffective : requiredTemporal factsProduct event.toPayload "effective_at" .timestamp =
        .ok event.effectiveAt.wholeSecond := requiredTemporal_of_get rfl
    have hrecorded : requiredTemporal factsProduct event.toPayload "recorded_at" .timestamp =
        .ok event.recordedAt.wholeSecond := requiredTemporal_of_get rfl
    have hlegal : optionalText factsProduct event.toPayload "legal_owner_ref" =
        .ok event.legalOwnerRef := optionalText_of_get rfl
    have hbeneficial : optionalText factsProduct event.toPayload "beneficial_owner_ref" =
        .ok event.beneficialOwnerRef := optionalText_of_get rfl
    have hcounterparty : optionalText factsProduct event.toPayload "counterparty_ref" =
        .ok event.counterpartyRef := optionalText_of_get rfl
    have hsupersedes : optionalText factsProduct event.toPayload "supersedes_event_id" =
        .ok event.supersedesEventId := optionalText_of_get rfl
    simp only [economicEventFromPayload, requiredText_of_get hid h.eventId,
      requiredText_of_get hbundle h.claimBundleId,
      requiredText_of_get hdecision h.claimBundleDecisionId, hkind, heffective, hrecorded, hstatus,
      hlifecycle, hlegal, hbeneficial, hcounterparty, hsupersedes, bind_ok]
    rfl

/-! ## Legs -/

structure EconomicLegFields.Legible (leg : EconomicLegFields) : Prop where
  legId : leg.legId ≠ ""
  eventId : leg.eventId ≠ ""

def EconomicLegRecord.settled (leg : EconomicLegRecord) : EconomicLegRecord :=
  { leg with
    quantity := leg.quantity.quantize
    quantity_nonzero := fun h => leg.quantity_nonzero ((Decimal.quantize_eq_zero_iff _).1 h) }

lemma EconomicLegRecord.settled_settled (leg : EconomicLegRecord) :
    leg.settled.settled = leg.settled := by
  simp only [settled, Decimal.quantize_quantize]

/-- A record passes its own checks. -/
lemma create_toEconomicLegFields (leg : EconomicLegRecord) :
    leg.toEconomicLegFields.create = .ok leg := by
  simp only [EconomicLegFields.create, leg.instrumentRef_nonempty, leg.locationRef_nonempty,
    leg.quantity_nonzero, dite_false]

/-- A quantity is read back as its text shows it. -/
lemma requiredDecimal_of_get {raw : JsonDict} {key : String} {quantity : Decimal}
    (h : jsonGet raw key = .str quantity.format) :
    requiredDecimal raw key = .ok quantity.quantize := by
  have hne : quantity.format ≠ "" := Decimal.text_ne_empty quantity.quantize
  simp only [requiredDecimal, requiredText_of_get h hne, bind_ok, Decimal.parseDecimal_format,
    requireSome_some]

theorem economicLegFromPayload_eq_ok_iff (leg found : EconomicLegRecord) :
    economicLegFromPayload leg.toPayload = .ok found ↔ leg.Legible ∧ found = leg.settled := by
  have hid : jsonGet leg.toPayload "leg_id" = .str leg.legId := rfl
  have hevent : jsonGet leg.toPayload "event_id" = .str leg.eventId := rfl
  have hsubject : requiredFactsSubjectRef leg.toPayload "subject_ref" = .ok leg.subjectRef := by
    have hget : jsonGet leg.toPayload "subject_ref" = leg.subjectRef.payload := rfl
    rw [requiredFactsSubjectRef, hget, subjectRefOf_payload]
  refine reading_eq_ok_iff ?_ ?_ found
  · intro e h
    rcases bind_eq_ok_iff.1 h with ⟨_, _, h⟩
    rcases bind_eq_ok_iff.1 h with ⟨_, hreadId, h⟩
    rcases bind_eq_ok_iff.1 h with ⟨_, hreadEvent, _⟩
    exact ⟨ne_blank_of_read hreadId hid, ne_blank_of_read hreadEvent hevent⟩
  · intro h
    have hrole : requiredMember factsProduct EconomicLegRole.members EconomicLegRole.value
        "EconomicLegRole" leg.toPayload "role" = .ok leg.role :=
      requiredMember_of_get rfl (by cases leg.role <;> decide) EconomicLegRole.value_nodup
        (EconomicLegRole.mem_members leg.role)
    have hinstrument : requiredTextTuple factsProduct leg.toPayload "instrument_ref" =
        .ok leg.instrumentRef := requiredTextTuple_of_get rfl
    have hlocation : requiredTextTuple factsProduct leg.toPayload "location_ref" =
        .ok leg.locationRef := requiredTextTuple_of_get rfl
    have hquantity : requiredDecimal leg.toPayload "quantity" = .ok leg.quantity.quantize :=
      requiredDecimal_of_get rfl
    have hvaluation : optionalText factsProduct leg.toPayload "valuation_ref" =
        .ok leg.valuationRef := optionalText_of_get rfl
    simp only [economicLegFromPayload, hsubject, requiredText_of_get hid h.legId,
      requiredText_of_get hevent h.eventId, hrole, hinstrument, hlocation, hquantity, hvaluation,
      bind_ok]
    exact create_toEconomicLegFields leg.settled

/-! ## Valuations -/

structure ValuationRecord.Legible (valuation : ValuationRecord) : Prop where
  valuationId : valuation.valuationId ≠ ""
  purpose : valuation.purpose ≠ ""
  currency : valuation.currency ≠ ""
  confidence : valuation.confidence ≠ ""

def ValuationRecord.settled (valuation : ValuationRecord) : ValuationRecord :=
  { valuation with
    amount := valuation.amount.quantize
    valuedAt := valuation.valuedAt.wholeSecond
    provenanceRefs := sortedOn id valuation.provenanceRefs }

lemma ValuationRecord.settled_settled (valuation : ValuationRecord) :
    valuation.settled.settled = valuation.settled := by
  simp only [settled, Decimal.quantize_quantize, sortedOn_sortedOn_self]
  rfl

/-- The text of a valuation's time, which is a midnight where the precision is a date. -/
lemma parse_formatTemporalValue {value : Instant} {precision : TemporalPrecision}
    {label text : String} (h : formatTemporalValue value precision label = .ok text) :
    parseTemporalValue text precision = .ok value.wholeSecond ∧ text ≠ "" := by
  rcases bind_eq_ok_iff.1 h with ⟨⟨instant, shown, hmidnight⟩, hvalue, htext⟩
  rcases requireTemporalDatetime_eq_ok hvalue with ⟨hinstant, hprecision⟩
  subst hinstant hprecision
  cases htext
  exact ⟨TemporalValue.parse_text _, TemporalValue.text_ne_empty _⟩

theorem valuationFromPayload_eq_ok_iff {valuation : ValuationRecord} {payload : JsonDict}
    (hpayload : valuation.toPayload = .ok payload) (found : ValuationRecord) :
    valuationFromPayload payload = .ok found ↔ valuation.Legible ∧ found = valuation.settled := by
  rcases bind_eq_ok_iff.1 hpayload with ⟨valuedAt, hformat, hbuilt⟩
  rcases parse_formatTemporalValue hformat with ⟨hparse, hshown⟩
  cases hbuilt
  generalize hraw : [("valuation_id", Json.str valuation.valuationId), _, _, _, _, _, _, _, _] = raw
  have hid : jsonGet raw "valuation_id" = .str valuation.valuationId := hraw ▸ rfl
  have hpurpose : jsonGet raw "purpose" = .str valuation.purpose := hraw ▸ rfl
  have hcurrency : jsonGet raw "currency" = .str valuation.currency := hraw ▸ rfl
  have hconfidence : jsonGet raw "confidence" = .str valuation.confidence := hraw ▸ rfl
  have hprecision : requiredText factsProduct raw "precision" = .ok valuation.precision.text :=
    requiredText_of_get (hraw ▸ rfl) (precisionText_ne_empty valuation.precision)
  have horigin : requiredTextTuple factsProduct raw "origin_ref" =
      .ok [valuation.originRef.1, valuation.originRef.2] :=
    requiredTextTuple_of_get (hraw ▸ rfl)
  have hamount : requiredDecimal raw "amount" = .ok valuation.amount.quantize :=
    requiredDecimal_of_get (hraw ▸ rfl)
  have htime : requiredText factsProduct raw "valued_at" = .ok valuedAt :=
    requiredText_of_get (hraw ▸ rfl) hshown
  have hprovenance : requiredTextTuple factsProduct raw "provenance_refs" =
      .ok (sortedOn id valuation.provenanceRefs) := requiredTextTuple_of_get (hraw ▸ rfl)
  -- Precision and origin are read first, then the other fields.
  have hfields : valuationFromPayload raw = .ok found ↔ (do
      let valuationId ← requiredText factsProduct raw "valuation_id"
      let purpose ← requiredText factsProduct raw "purpose"
      let currency ← requiredText factsProduct raw "currency"
      let confidence ← requiredText factsProduct raw "confidence"
      .ok
        { valuation.settled with valuationId, purpose, currency, confidence }) = .ok found := by
    simp only [valuationFromPayload, hprecision, parseTemporalPrecision_text, requireSome_some,
      horigin, hamount, requiredTemporal, htime, hparse, hprovenance, bind_ok]
    rfl
  rw [hfields]
  refine reading_eq_ok_iff ?_ ?_ found
  · intro e h
    rcases bind_eq_ok_iff.1 h with ⟨_, hreadId, h⟩
    rcases bind_eq_ok_iff.1 h with ⟨_, hreadPurpose, h⟩
    rcases bind_eq_ok_iff.1 h with ⟨_, hreadCurrency, h⟩
    rcases bind_eq_ok_iff.1 h with ⟨_, hreadConfidence, _⟩
    exact ⟨ne_blank_of_read hreadId hid, ne_blank_of_read hreadPurpose hpurpose,
      ne_blank_of_read hreadCurrency hcurrency, ne_blank_of_read hreadConfidence hconfidence⟩
  · intro h
    simp only [requiredText_of_get hid h.valuationId, requiredText_of_get hpurpose h.purpose,
      requiredText_of_get hcurrency h.currency, requiredText_of_get hconfidence h.confidence,
      bind_ok]
    rfl

/-! ## Facts -/

/-- The slot in the id of a leg. -/
def slotOf (legId : String) : Int :=
  match legSlot legId with
  | .ok slot => slot
  | .error _ => 0

/-- What the legs of facts are sorted by. -/
def legOrder (leg : EconomicLegRecord) : String ×ₗ Int ×ₗ String :=
  toLex (leg.eventId, toLex (slotOf leg.legId, leg.legId))

/-- The slot of every leg can be read from its id. -/
def Slotted (legs : List EconomicLegRecord) : Prop :=
  ∀ leg ∈ legs, ∃ slot, legSlot leg.legId = .ok slot

/-- Legs are sorted where all slots can be read, and nowhere else. -/
lemma canonicalEconomicLegRecords_eq_ok_iff {legs ordered : List EconomicLegRecord} :
    canonicalEconomicLegRecords legs = .ok ordered ↔
      Slotted legs ∧ ordered = sortedOn legOrder legs := by
  refine reading_eq_ok_iff ?_ ?_ ordered
  · intro found h
    rcases bind_eq_ok_iff.1 h with ⟨slots, hslots, _⟩
    intro leg hleg
    rcases exists_right_of_forall₂ (mapM_eq_ok_iff.1 hslots) hleg with ⟨slot, _, hslot⟩
    exact ⟨slot, hslot⟩
  · intro h
    have hslots : (legs.map (fun leg => leg)).mapM (fun leg => legSlot leg.legId) =
        .ok (legs.map (fun leg => slotOf leg.legId)) := by
      refine mapM_ok_map (fun leg hleg => ?_)
      rcases h leg hleg with ⟨slot, hslot⟩
      rw [slotOf, hslot]
    rw [List.map_id'] at hslots
    have hpairs : (legs.map (fun leg => slotOf leg.legId)).zip legs =
        legs.map (fun leg => (slotOf leg.legId, leg)) := by
      rw [← List.map_prod_right_eq_zip]
    simp only [canonicalEconomicLegRecords, hslots, bind_ok, hpairs, orderedLegs, sortedOn_map,
      List.map_map]
    exact congrArg Except.ok (List.map_id _)

namespace EconomicFacts

/-- All texts that the records must have are there. -/
structure Legible (facts : EconomicFacts) : Prop where
  economicFactsId : facts.economicFactsId ≠ ""
  events : ∀ event ∈ facts.economicEventRecords, event.Legible
  legs : ∀ leg ∈ facts.economicLegRecords, leg.Legible
  valuations : ∀ valuation ∈ facts.valuationRecords, valuation.Legible

/-- The facts with their records settled, in the order of the file. -/
def settled (facts : EconomicFacts) : EconomicFacts :=
  { facts with
    economicEventRecords :=
      (canonicalEconomicEventRecords facts.economicEventRecords).map EconomicEventRecord.settled
    economicLegRecords :=
      (sortedOn legOrder facts.economicLegRecords).map EconomicLegRecord.settled
    valuationRecords :=
      (canonicalValuationRecords facts.valuationRecords).map ValuationRecord.settled }

/-- Facts are written where all slots can be read and every dated valuation is a midnight. -/
lemma toPayload_eq_ok_iff {facts : EconomicFacts} {payload : JsonDict} :
    facts.toPayload = .ok payload ↔
      Slotted facts.economicLegRecords ∧
      ∃ valuations, List.Forall₂ (fun valuation shown => valuation.toPayload = .ok shown)
          (canonicalValuationRecords facts.valuationRecords) valuations ∧
        payload =
          [ ("economic_facts_id", .str facts.economicFactsId),
            ("schema_version", .int 1),
            ("claim_set_refs", Json.strs facts.claimSetRefs),
            ("economic_event_records",
              objects ((canonicalEconomicEventRecords facts.economicEventRecords).map
                EconomicEventRecord.toPayload)),
            ("economic_leg_records",
              objects ((sortedOn legOrder facts.economicLegRecords).map
                (fun leg => leg.toPayload))),
            ("valuation_records", objects valuations)] := by
  simp only [toPayload, bind_eq_ok_iff, canonicalEconomicLegRecords_eq_ok_iff, mapM_eq_ok_iff,
    Except.ok.injEq]
  constructor
  · rintro ⟨_, ⟨hslots, rfl⟩, valuations, hvaluations, rfl⟩
    exact ⟨hslots, valuations, hvaluations, rfl⟩
  · rintro ⟨hslots, valuations, hvaluations, rfl⟩
    exact ⟨_, ⟨hslots, rfl⟩, valuations, hvaluations, rfl⟩

/-- What is read from the file of some facts. -/
theorem readEconomicFacts_toPayload {facts : EconomicFacts} {payload : JsonDict}
    (h : facts.toPayload = .ok payload) (found : EconomicFacts) :
    readEconomicFacts (.obj payload) = .ok found ↔ facts.Legible ∧ found = facts.settled := by
  rcases toPayload_eq_ok_iff.1 h with ⟨_, valuations, hvaluations, hpayload⟩
  have hid : jsonGet payload "economic_facts_id" = .str facts.economicFactsId := hpayload ▸ rfl
  have hschema : requireSchemaVersion factsProduct payload = .ok () :=
    requireSchemaVersion_of_get (hpayload ▸ rfl)
  have hrefs : requiredTextTuple factsProduct payload "claim_set_refs" = .ok facts.claimSetRefs :=
    requiredTextTuple_of_get (hpayload ▸ rfl)
  have hevents : ∀ {events}, readItems factsProduct "economic event" economicEventFromPayload
      payload "economic_event_records" = .ok events ↔ _ :=
    readItems_eq_ok_iff (hpayload ▸ rfl)
      (forall₂_payloads (canonicalEconomicEventRecords facts.economicEventRecords)
        economicEventFromPayload_eq_ok_iff)
  have hlegs : ∀ {legs}, readItems factsProduct "economic leg" economicLegFromPayload payload
      "economic_leg_records" = .ok legs ↔ _ :=
    readItems_eq_ok_iff (hpayload ▸ rfl)
      (forall₂_payloads (sortedOn legOrder facts.economicLegRecords)
        economicLegFromPayload_eq_ok_iff)
  have hread : ∀ {found}, readItems factsProduct "valuation" valuationFromPayload payload
      "valuation_records" = .ok found ↔ _ :=
    readItems_eq_ok_iff (hpayload ▸ rfl)
      (hvaluations.imp (fun valuation shown hshown found =>
        valuationFromPayload_eq_ok_iff hshown found))
  simp only [readEconomicFacts, requiredDict, hschema, hrefs, bind_ok, bind_eq_ok_iff,
    requiredText_eq_ok_iff hid, hevents, hlegs, hread, Except.ok.injEq,
    canonicalEconomicEventRecords, canonicalValuationRecords, mem_sortedOn]
  constructor
  · rintro ⟨_, ⟨hne, rfl⟩, _, ⟨hevent, rfl⟩, _, ⟨hleg, rfl⟩, _, ⟨hvaluation, rfl⟩, rfl⟩
    exact ⟨⟨hne, hevent, hleg, hvaluation⟩, rfl⟩
  · rintro ⟨⟨hne, hevent, hleg, hvaluation⟩, rfl⟩
    exact ⟨_, ⟨hne, rfl⟩, _, ⟨hevent, rfl⟩, _, ⟨hleg, rfl⟩, _, ⟨hvaluation, rfl⟩, rfl⟩

/-- What is lost in the file of some facts is nothing. -/
structure Exact (facts : EconomicFacts) : Prop where
  eventOrder :
    canonicalEconomicEventRecords facts.economicEventRecords = facts.economicEventRecords
  events : ∀ event ∈ facts.economicEventRecords, event.settled = event
  legOrder : sortedOn legOrder facts.economicLegRecords = facts.economicLegRecords
  legs : ∀ leg ∈ facts.economicLegRecords, leg.settled = leg
  valuationOrder : canonicalValuationRecords facts.valuationRecords = facts.valuationRecords
  valuations : ∀ valuation ∈ facts.valuationRecords, valuation.settled = valuation

theorem settled_eq_iff (facts : EconomicFacts) : facts.settled = facts ↔ facts.Exact := by
  have hevents := map_sortedOn_eq_self_iff eventOrder facts.economicEventRecords
    EconomicEventRecord.settled_settled
  have hlegs := map_sortedOn_eq_self_iff Products.legOrder facts.economicLegRecords
    EconomicLegRecord.settled_settled
  have hvaluations := map_sortedOn_eq_self_iff Products.valuationOrder facts.valuationRecords
    ValuationRecord.settled_settled
  constructor
  · intro h
    have he := hevents.1 (congrArg economicEventRecords h)
    have hl := hlegs.1 (congrArg economicLegRecords h)
    have hv := hvaluations.1 (congrArg valuationRecords h)
    exact ⟨he.1, he.2, hl.1, hl.2, hv.1, hv.2⟩
  · intro h
    have he := hevents.2 ⟨h.eventOrder, h.events⟩
    have hl := hlegs.2 ⟨h.legOrder, h.legs⟩
    have hv := hvaluations.2 ⟨h.valuationOrder, h.valuations⟩
    simp only [settled, canonicalEconomicEventRecords, canonicalValuationRecords, he, hl, hv]

/-- Facts that show one payload are read as one. -/
theorem settled_eq_of_toPayload_eq {facts facts' : EconomicFacts} {payload : JsonDict}
    (h : facts.toPayload = .ok payload) (h' : facts'.toPayload = .ok payload)
    (hlegible : facts.Legible) : facts'.Legible ∧ facts'.settled = facts.settled := by
  have hread := (readEconomicFacts_toPayload h _).2 ⟨hlegible, rfl⟩
  rcases (readEconomicFacts_toPayload h' _).1 hread with ⟨hlegible', heq⟩
  exact ⟨hlegible', heq.symm⟩

end EconomicFacts

end Products
end Tallylot
