import Tallylot.Products.ReconciliationStates

/-!
# StatesRoundTrip — reconciliation states read back from their file
-/

namespace Tallylot
namespace Products

open Data Domain Transactions

/-! ## Segments -/

def settledSegment (segment : ContinuitySegmentRecord) : ContinuitySegmentRecord :=
  { segment with
    segmentStartAt := segment.segmentStartAt.wholeSecond
    segmentEndAt := segment.segmentEndAt.wholeSecond
    asOf := segment.asOf.wholeSecond }

lemma settledSegment_settledSegment (segment : ContinuitySegmentRecord) :
    settledSegment (settledSegment segment) = settledSegment segment := rfl

lemma stateSubjectRef_of_get {raw : JsonDict} {subjectRef : SubjectRef}
    (h : jsonGet raw "subject_ref" = subjectRef.payload) :
    stateSubjectRef raw = .ok subjectRef := by
  rw [stateSubjectRef, h, subjectRefFromPayload_payload]

theorem segmentFromPayload_eq_ok_iff (segment found : ContinuitySegmentRecord) :
    segmentFromPayload (segmentPayload segment) = .ok found ↔
      segment.segmentId ≠ "" ∧ found = settledSegment segment := by
  have hid : jsonGet (segmentPayload segment) "segment_id" = .str segment.segmentId := rfl
  refine reading_eq_ok_iff ?_ ?_ found
  · intro e h
    rcases bind_eq_ok_iff.1 h with ⟨_, hreadId, _⟩
    exact ne_blank_of_read hreadId hid
  · intro h
    have hsubject : stateSubjectRef (segmentPayload segment) = .ok segment.subjectRef :=
      stateSubjectRef_of_get rfl
    have hstart : requiredTemporal stateProduct (segmentPayload segment) "segment_start_at"
        .timestamp = .ok segment.segmentStartAt.wholeSecond := requiredTemporal_of_get rfl
    have hend : requiredTemporal stateProduct (segmentPayload segment) "segment_end_at"
        .timestamp = .ok segment.segmentEndAt.wholeSecond := requiredTemporal_of_get rfl
    have hstatus : requiredMember stateProduct segmentStatuses segmentStatusValue
        "ContinuitySegmentStatus" (segmentPayload segment) "status" = .ok segment.status :=
      requiredMember_of_get rfl (by cases segment.status <;> decide) (by decide)
        (by cases segment.status <;> decide)
    have hasOf : requiredTemporal stateProduct (segmentPayload segment) "as_of" .timestamp =
        .ok segment.asOf.wholeSecond := requiredTemporal_of_get rfl
    simp only [segmentFromPayload, requiredText_of_get hid h, hsubject, hstart, hend, hstatus, hasOf,
      bind_ok]
    rfl

/-! ## Event links -/

structure EventLinkRecord.Legible (link : EventLinkRecord) : Prop where
  eventLinkId : link.eventLinkId ≠ ""
  segmentId : link.segmentId ≠ ""
  kind : link.kind ≠ ""
  leftEventRef : link.leftEventRef ≠ ""
  rightEventRef : link.rightEventRef ≠ ""
  status : link.status ≠ ""

theorem eventLinkFromPayload_eq_ok_iff (link found : EventLinkRecord) :
    eventLinkFromPayload (eventLinkPayload link) = .ok found ↔ link.Legible ∧ found = link := by
  have hid : jsonGet (eventLinkPayload link) "event_link_id" = .str link.eventLinkId := rfl
  have hsegment : jsonGet (eventLinkPayload link) "segment_id" = .str link.segmentId := rfl
  have hkind : jsonGet (eventLinkPayload link) "kind" = .str link.kind := rfl
  have hleft : jsonGet (eventLinkPayload link) "left_event_ref" = .str link.leftEventRef := rfl
  have hright : jsonGet (eventLinkPayload link) "right_event_ref" = .str link.rightEventRef := rfl
  have hstatus : jsonGet (eventLinkPayload link) "status" = .str link.status := rfl
  simp only [eventLinkFromPayload, bind_eq_ok_iff, requiredText_eq_ok_iff hid,
    requiredText_eq_ok_iff hsegment, requiredText_eq_ok_iff hkind, requiredText_eq_ok_iff hleft,
    requiredText_eq_ok_iff hright, requiredText_eq_ok_iff hstatus, Except.ok.injEq]
  constructor
  · rintro ⟨_, ⟨h1, rfl⟩, _, ⟨h2, rfl⟩, _, ⟨h3, rfl⟩, _, ⟨h4, rfl⟩, _, ⟨h5, rfl⟩, _, ⟨h6, rfl⟩, rfl⟩
    exact ⟨⟨h1, h2, h3, h4, h5, h6⟩, rfl⟩
  · rintro ⟨⟨h1, h2, h3, h4, h5, h6⟩, rfl⟩
    exact ⟨_, ⟨h1, rfl⟩, _, ⟨h2, rfl⟩, _, ⟨h3, rfl⟩, _, ⟨h4, rfl⟩, _, ⟨h5, rfl⟩, _, ⟨h6, rfl⟩, rfl⟩

/-! ## Targets -/

/-- The texts of a target are there, and it passes the checks of its constructor. -/
structure LegibleTarget (target : BalanceTargetRecord) : Prop where
  targetId : target.targetId ≠ ""
  segmentId : target.segmentId ≠ ""
  expectedValue : Legible target.expectedValue
  observedValue : ∀ value, target.observedValue = some value → Legible value
  consistent : TargetConsistent target

def settledTarget (target : BalanceTargetRecord) : BalanceTargetRecord :=
  { target with
    asOf := target.asOf.wholeSecond
    expectedValue := settledValue target.expectedValue
    observedValue := target.observedValue.map settledValue }

lemma observedValueFromPayload_eq_ok_iff (value found : Option AssertionValue) :
    observedValueFromPayload (optionalPayload AssertionValue.payload value) = .ok found ↔
      (∀ v, value = some v → Legible v) ∧ found = value.map settledValue := by
  cases value with
  | none =>
      refine reading_eq_ok_iff (fun _ _ v hv => by cases hv) (fun _ => rfl) found
  | some value =>
      have hread : observedValueFromPayload value.payload =
          (do
            let v ← assertionValueFromPayload value.payload
            .ok (some v)) := by
        rw [payload_eq]
        rfl
      simp only [optionalPayload, hread, bind_eq_ok_iff, assertionValueFromPayload_eq_ok_iff,
        Except.ok.injEq, Option.some.injEq, forall_eq', Option.map_some]
      constructor
      · rintro ⟨_, ⟨hlegible, rfl⟩, rfl⟩
        exact ⟨hlegible, rfl⟩
      · rintro ⟨hlegible, rfl⟩
        exact ⟨_, ⟨hlegible, rfl⟩, rfl⟩

lemma comparisonOutcomeFromPayload_of_get {raw : JsonDict} {outcome : Option ComparisonOutcome}
    (h : jsonGet raw "comparison_outcome" =
      optionalPayload (fun outcome => .str (comparisonOutcomeValue outcome)) outcome) :
    comparisonOutcomeFromPayload raw = .ok outcome := by
  cases outcome with
  | none => simp only [comparisonOutcomeFromPayload, h, optionalPayload, if_true]
  | some outcome =>
      have hmember : requiredMember stateProduct comparisonOutcomes comparisonOutcomeValue
          "ComparisonOutcome" raw "comparison_outcome" = .ok outcome :=
        requiredMember_of_get h (by cases outcome <;> decide) (by decide)
          (by cases outcome <;> decide)
      simp only [comparisonOutcomeFromPayload, hmember, bind_ok]
      cases outcome <;> simp [h, optionalPayload, comparisonOutcomeValue]

lemma createTarget_eq_ok_iff {target found : BalanceTargetRecord} :
    createTarget target = .ok found ↔ TargetConsistent target ∧ found = target := by
  unfold createTarget
  split_ifs with h hobserved
  · exact ⟨fun hok => ⟨h, (Except.ok.inj hok).symm⟩, fun hok => hok.2 ▸ rfl⟩
  · exact iff_of_false (fun hok => by cases hok) (fun hok => h hok.1)
  · exact iff_of_false (fun hok => by cases hok) (fun hok => h hok.1)

/-- Settling keeps which values are there. -/
lemma targetConsistent_settledTarget (target : BalanceTargetRecord) :
    TargetConsistent (settledTarget target) ↔ TargetConsistent target := by
  have hnone : target.observedValue.map settledValue = none ↔ target.observedValue = none :=
    Option.map_eq_none_iff
  simp only [TargetConsistent, settledTarget, ne_eq, hnone]

/-- A target is read exactly where its ids and values are there and its constructor accepts it. -/
theorem targetFromPayload_eq_ok_iff (target found : BalanceTargetRecord) :
    targetFromPayload (targetPayload target) = .ok found ↔
      LegibleTarget target ∧ found = settledTarget target := by
  have hid : jsonGet (targetPayload target) "target_id" = .str target.targetId := rfl
  have hsegment : jsonGet (targetPayload target) "segment_id" = .str target.segmentId := rfl
  have hexpected : jsonGet (targetPayload target) "expected_value" = target.expectedValue.payload :=
    rfl
  have hobserved : jsonGet (targetPayload target) "observed_value" =
      optionalPayload AssertionValue.payload target.observedValue := rfl
  have hsubject : stateSubjectRef (targetPayload target) = .ok target.subjectRef :=
    stateSubjectRef_of_get rfl
  have hkind : requiredMember stateProduct targetKinds targetKindValue "BalanceTargetKind"
      (targetPayload target) "kind" = .ok .exactBalance :=
    requiredMember_of_get rfl (by decide) (by decide) (by decide)
  have hasOf : requiredTemporal stateProduct (targetPayload target) "as_of" .timestamp =
      .ok target.asOf.wholeSecond := requiredTemporal_of_get rfl
  have hstatus : requiredMember stateProduct observationStatuses observationStatusValue
      "BalanceTargetObservationStatus" (targetPayload target) "observation_status" =
        .ok target.observationStatus :=
    requiredMember_of_get rfl (by cases target.observationStatus <;> decide) (by decide)
      (by cases target.observationStatus <;> decide)
  have houtcome : comparisonOutcomeFromPayload (targetPayload target) =
      .ok target.comparisonOutcome := comparisonOutcomeFromPayload_of_get rfl
  simp only [targetFromPayload, bind_eq_ok_iff, requiredText_eq_ok_iff hid,
    requiredText_eq_ok_iff hsegment, hsubject, hkind, hasOf, hexpected,
    assertionValueFromPayload_eq_ok_iff, hobserved, observedValueFromPayload_eq_ok_iff, hstatus,
    houtcome, bind_ok, createTarget_eq_ok_iff]
  constructor
  · rintro ⟨_, ⟨h1, rfl⟩, _, ⟨h2, rfl⟩, _, ⟨h3, rfl⟩, _, ⟨h4, rfl⟩, h5, rfl⟩
    exact ⟨⟨h1, h2, h3, h4, (targetConsistent_settledTarget target).1 h5⟩, rfl⟩
  · rintro ⟨⟨h1, h2, h3, h4, h5⟩, rfl⟩
    exact ⟨_, ⟨h1, rfl⟩, _, ⟨h2, rfl⟩, _, ⟨h3, rfl⟩, _, ⟨h4, rfl⟩,
      (targetConsistent_settledTarget target).2 h5, rfl⟩

lemma settledTarget_settledTarget (target : BalanceTargetRecord) :
    settledTarget (settledTarget target) = settledTarget target := by
  have hvalues : (target.observedValue.map settledValue).map settledValue =
      target.observedValue.map settledValue := by
    cases target.observedValue <;> simp [settledValue_settledValue]
  simp only [settledTarget, settledValue_settledValue, hvalues]
  rfl

/-! ## Proposals -/

structure CheckpointProposalRecord.Legible (proposal : CheckpointProposalRecord) : Prop where
  proposalId : proposal.proposalId ≠ ""
  segmentId : proposal.segmentId ≠ ""

def CheckpointProposalRecord.settled (proposal : CheckpointProposalRecord) :
    CheckpointProposalRecord :=
  { proposal with
    asOf := proposal.asOf.wholeSecond
    targetRefs := sortedOn id proposal.targetRefs
    evidenceRefs := sortedOn id proposal.evidenceRefs }

lemma CheckpointProposalRecord.settled_settled (proposal : CheckpointProposalRecord) :
    proposal.settled.settled = proposal.settled := by
  simp only [settled, sortedOn_sortedOn_self]
  rfl

theorem proposalFromPayload_eq_ok_iff (proposal found : CheckpointProposalRecord) :
    proposalFromPayload (proposalPayload proposal) = .ok found ↔
      proposal.Legible ∧ found = proposal.settled := by
  have hid : jsonGet (proposalPayload proposal) "proposal_id" = .str proposal.proposalId := rfl
  have hsegment : jsonGet (proposalPayload proposal) "segment_id" = .str proposal.segmentId := rfl
  refine reading_eq_ok_iff ?_ ?_ found
  · intro e h
    rcases bind_eq_ok_iff.1 h with ⟨_, hreadId, h⟩
    rcases bind_eq_ok_iff.1 h with ⟨_, hreadSegment, _⟩
    exact ⟨ne_blank_of_read hreadId hid, ne_blank_of_read hreadSegment hsegment⟩
  · intro h
    have hsubject : stateSubjectRef (proposalPayload proposal) = .ok proposal.subjectRef :=
      stateSubjectRef_of_get rfl
    have hasOf : requiredTemporal stateProduct (proposalPayload proposal) "as_of" .timestamp =
        .ok proposal.asOf.wholeSecond := requiredTemporal_of_get rfl
    have hstatus : requiredMember stateProduct proposalStatuses proposalStatusValue
        "CheckpointProposalStatus" (proposalPayload proposal) "status" = .ok proposal.status :=
      requiredMember_of_get rfl (by cases proposal.status <;> decide) (by decide)
        (by cases proposal.status <;> decide)
    have hsuperseding : optionalText stateProduct (proposalPayload proposal)
        "superseding_proposal_ref" = .ok proposal.supersedingProposalRef := optionalText_of_get rfl
    have htargets : requiredTextTuple stateProduct (proposalPayload proposal) "target_refs" =
        .ok (sortedOn id proposal.targetRefs) := requiredTextTuple_of_get rfl
    have hevidence : requiredTextTuple stateProduct (proposalPayload proposal) "evidence_refs" =
        .ok (sortedOn id proposal.evidenceRefs) := requiredTextTuple_of_get rfl
    simp only [proposalFromPayload, requiredText_of_get hid h.proposalId,
      requiredText_of_get hsegment h.segmentId, hsubject, hasOf, hstatus, hsuperseding, htargets,
      hevidence, bind_ok]
    rfl

/-! ## States -/

namespace ReconciliationState

/-- All texts that the records must have are there. -/
structure Legible (state : ReconciliationState) : Prop where
  reconciliationStateId : state.reconciliationStateId ≠ ""
  economicFactsRef : state.economicFactsRef ≠ ""
  segments : ∀ segment ∈ state.continuitySegmentRecords, segment.segmentId ≠ ""
  eventLinks : ∀ link ∈ state.eventLinkRecords, link.Legible
  targets : ∀ target ∈ state.balanceTargetRecords, LegibleTarget target
  proposals : ∀ proposal ∈ state.checkpointProposalRecords, proposal.Legible

/-- The state with its records settled, in the order of the file. -/
def settled (state : ReconciliationState) : ReconciliationState :=
  { state with
    continuitySegmentRecords :=
      (sortedOn segmentOrder state.continuitySegmentRecords).map settledSegment
    balanceTargetRecords := (sortedOn targetOrder state.balanceTargetRecords).map settledTarget
    checkpointProposalRecords :=
      (sortedOn proposalOrder state.checkpointProposalRecords).map
        CheckpointProposalRecord.settled }

/-- What is read from the file of a state. -/
theorem readReconciliationState_toPayload (state found : ReconciliationState) :
    readReconciliationState (.obj state.toPayload) = .ok found ↔
      state.Legible ∧ found = state.settled := by
  have hid : jsonGet state.toPayload "reconciliation_state_id" = .str state.reconciliationStateId :=
    rfl
  have hfacts : jsonGet state.toPayload "economic_facts_ref" = .str state.economicFactsRef := rfl
  have hschema : requireSchemaVersion stateProduct state.toPayload = .ok () :=
    requireSchemaVersion_of_get rfl
  have hsegments : ∀ {segments}, readItems stateProduct "continuity segment" segmentFromPayload
      state.toPayload "continuity_segment_records" = .ok segments ↔ _ :=
    readItems_eq_ok_iff rfl
      (forall₂_payloads (sortedOn segmentOrder state.continuitySegmentRecords)
        segmentFromPayload_eq_ok_iff)
  have hlinks : ∀ {links}, readItems stateProduct "event link" eventLinkFromPayload
      state.toPayload "event_link_records" = .ok links ↔ _ :=
    readItems_eq_ok_iff rfl
      (forall₂_payloads state.eventLinkRecords eventLinkFromPayload_eq_ok_iff)
  have htargets : ∀ {targets}, readItems stateProduct "balance target" targetFromPayload
      state.toPayload "balance_target_records" = .ok targets ↔ _ :=
    readItems_eq_ok_iff rfl
      (forall₂_payloads (sortedOn targetOrder state.balanceTargetRecords)
        targetFromPayload_eq_ok_iff)
  have hproposals : ∀ {proposals}, readItems stateProduct "checkpoint proposal"
      proposalFromPayload state.toPayload "checkpoint_proposal_records" = .ok proposals ↔ _ :=
    readItems_eq_ok_iff rfl
      (forall₂_payloads (sortedOn proposalOrder state.checkpointProposalRecords)
        proposalFromPayload_eq_ok_iff)
  simp only [readReconciliationState, requiredDict, hschema, bind_ok, bind_eq_ok_iff,
    requiredText_eq_ok_iff hid, requiredText_eq_ok_iff hfacts, hsegments, hlinks, htargets,
    hproposals, Except.ok.injEq, mem_sortedOn]
  constructor
  · rintro ⟨_, ⟨h1, rfl⟩, _, ⟨h2, rfl⟩, _, ⟨h3, rfl⟩, _, ⟨h4, rfl⟩, _, ⟨h5, rfl⟩, _, ⟨h6, rfl⟩, rfl⟩
    refine ⟨⟨h1, h2, h3, h4, h5, h6⟩, ?_⟩
    rw [settled, List.map_id']
  · rintro ⟨⟨h1, h2, h3, h4, h5, h6⟩, rfl⟩
    refine ⟨_, ⟨h1, rfl⟩, _, ⟨h2, rfl⟩, _, ⟨h3, rfl⟩, _, ⟨h4, rfl⟩, _, ⟨h5, rfl⟩, _, ⟨h6, rfl⟩, ?_⟩
    rw [settled, List.map_id']

/-- What is lost in the file of a state is nothing. -/
structure Exact (state : ReconciliationState) : Prop where
  segmentOrder :
    sortedOn segmentOrder state.continuitySegmentRecords = state.continuitySegmentRecords
  segments : ∀ segment ∈ state.continuitySegmentRecords, settledSegment segment = segment
  targetOrder : sortedOn targetOrder state.balanceTargetRecords = state.balanceTargetRecords
  targets : ∀ target ∈ state.balanceTargetRecords, settledTarget target = target
  proposalOrder :
    sortedOn proposalOrder state.checkpointProposalRecords = state.checkpointProposalRecords
  proposals : ∀ proposal ∈ state.checkpointProposalRecords, proposal.settled = proposal

theorem settled_eq_iff (state : ReconciliationState) : state.settled = state ↔ state.Exact := by
  have hsegments := map_sortedOn_eq_self_iff Products.segmentOrder state.continuitySegmentRecords
    settledSegment_settledSegment
  have htargets := map_sortedOn_eq_self_iff Products.targetOrder state.balanceTargetRecords
    settledTarget_settledTarget
  have hproposals := map_sortedOn_eq_self_iff Products.proposalOrder
    state.checkpointProposalRecords CheckpointProposalRecord.settled_settled
  constructor
  · intro h
    have hs := hsegments.1 (congrArg continuitySegmentRecords h)
    have ht := htargets.1 (congrArg balanceTargetRecords h)
    have hp := hproposals.1 (congrArg checkpointProposalRecords h)
    exact ⟨hs.1, hs.2, ht.1, ht.2, hp.1, hp.2⟩
  · intro h
    have hs := hsegments.2 ⟨h.segmentOrder, h.segments⟩
    have ht := htargets.2 ⟨h.targetOrder, h.targets⟩
    have hp := hproposals.2 ⟨h.proposalOrder, h.proposals⟩
    simp only [settled, hs, ht, hp]

end ReconciliationState

end Products
end Tallylot
