import Tallylot.Kernel.JudgedClaims
import Tallylot.Kernel.Projections
import Tallylot.Kernel.Sums

/-!
# ProjectedRows — the snapshots and references of ordinary claims

For ordinary claims both projections succeed.  The snapshots show what the target of each claim
expects (`exists_projectedSnapshots`), the references what is certified of the ready ones
(`exists_projectedReferences`).
-/

namespace Tallylot
namespace Kernel

open Data Domain Balances

/-! ## Projected rows -/

lemma projectedTarget_made {owner location instrument : String}
    (hlocation : isSupportedLocationId location = true) (hinstrument : instrument ≠ "")
    (message : String) (asOf : Instant) :
    ∃ target, projectedTarget message (positionSubjectRef owner location instrument) asOf =
        .ok target ∧
      balanceTargetMatchKey target.val =
        positionKey (positionSubjectRef owner location instrument) asOf := by
  have hrequired := requireLocationId_of_supported hlocation "balance target location_id"
  have hdated : TemporalPrecision.timestamp = .date → asOf.isMidnight = true := fun h => by cases h
  rcases @exists_postInit ⟨"coinbase", location, instrument, "available", asOf, .timestamp⟩ location
    hinstrument hrequired hdated with ⟨target, htarget⟩
  refine ⟨⟨target, _, htarget⟩, balanceTarget.build_of_make htarget, ?_⟩
  rcases postInit_eq_ok htarget with ⟨hsource, hat, hid, hkind, hinstant, _⟩
  have hsame : target.locationId = location := Except.ok.inj (hat.symm.trans hrequired)
  have hnormalized : normalizeBalanceKind "available" = "available" := by decide
  have havailable : target.balanceKind = "available" := hkind.trans hnormalized
  rw [balanceTargetMatchKey, hsource, hsame, hid, havailable, hinstant]
  rfl

lemma projectedTarget_position {owner : String} {subjectRef : SubjectRef}
    (h : PositionOf owner subjectRef) (message : String) (asOf : Instant) :
    ∃ target, projectedTarget message subjectRef asOf = .ok target ∧
      balanceTargetMatchKey target.val = positionKey subjectRef asOf := by
  have hmade := @projectedTarget_made owner _ _ h.location h.instrument message asOf
  rwa [← h.made] at hmade

/-- What a snapshot states at its key. -/
def snapshotShown (snapshot : BalanceSnapshot) : Option (BalanceTargetMatchKey × Decimal) :=
  some (balanceTargetMatchKey snapshot.target, snapshot.quantity)

/-- A target of a position is projected to a snapshot of what it expects. -/
lemma exists_projectSnapshot {owner : String} {target : BalanceTargetRecord}
    (hposition : PositionOf owner target.subjectRef) {value : QuantityValue}
    (hvalue : target.expectedValue = .quantity value) :
    ∃ snapshot, projectSnapshot target = .ok snapshot ∧
      snapshotShown snapshot = targetSnapshot target := by
  rcases projectedTarget_position hposition
    "balance snapshot compatibility requires position subject refs" target.asOf with
    ⟨balanceTarget, htarget, hkey⟩
  have hbasis : strip "fact_cutoff" ≠ "" := by decide
  have hmake : balanceSnapshot.make ⟨balanceTarget, value.quantity, "fact_cutoff", ""⟩ =
      .ok ⟨balanceTarget, value.quantity, "fact_cutoff", ""⟩ :=
    bind_eq_ok_iff.2 ⟨(), require_eq_ok_iff.2 hbasis, rfl⟩
  have hbuild := balanceSnapshot.build_of_make hmake
  refine ⟨⟨balanceTarget.val, value.quantity, "fact_cutoff", ""⟩, ?_, ?_⟩
  · simp only [projectSnapshot, hvalue]
    rw [htarget, bind_ok, hbuild]
    rfl
  · rw [snapshotShown, targetSnapshot, hvalue, hkey]

/-- What a reference states at its key. -/
def referenceShown (reference : BalanceReference) : Option (BalanceTargetMatchKey × Decimal) :=
  some (balanceTargetMatchKey reference.target, reference.quantity)

/-- An assertion of a position with support is projected to a reference to a source document. -/
lemma exists_projectReference {env : KernelEnvironment} {owner : String}
    {supportDetails : Dict (SubjectRef × Instant) ObservationCompatibilityDetail}
    {assertion : CheckpointAssertionRecord} (hposition : PositionOf owner assertion.subjectRef)
    {value : QuantityValue} (hvalue : assertion.acceptedValue = .quantity value)
    (hdetail : (supportDetails.get? (assertion.subjectRef, assertion.asOf)).isSome = true) :
    ∃ reference, projectReference env supportDetails assertion = .ok reference ∧
      referenceShown reference =
        positionReference (assertion.asOf, assertion.subjectRef, assertion.acceptedValue) := by
  rcases projectedTarget_position hposition
    "checkpoint compatibility requires position subject refs" assertion.asOf with
    ⟨target, htarget, hkey⟩
  rcases Option.isSome_iff_exists.1 hdetail with ⟨detail, hdetail⟩
  have hdated : TemporalPrecision.timestamp = .date → assertion.asOf.isMidnight = true :=
    fun h => by cases h
  rcases @exists_build_sourceDocument
    { target := target
      quantity := value.quantity
      referenceKind := .sourceDocument
      observedAt := assertion.asOf
      observedPrecision := .timestamp
      supportRef := detail.supportRef
      providerFamily := ""
      providerLocator := ""
      providerBlockRef := ""
      reviewedBy := ""
      reviewedAt := none
      notes := detail.note } rfl rfl ⟨rfl, rfl, rfl⟩ hdated with ⟨built, hbuilt⟩
  rcases (reference_postInit_eq_ok_iff _ _).1 (balanceReference.make_of_build hbuilt) with
    ⟨_, _, hstripped⟩
  refine ⟨AcceptedReference.reference built, ?_, ?_⟩
  · simp only [projectReference, hvalue]
    rw [htarget, bind_ok, hdetail, requireSome_some, bind_ok, hbuilt]
    rfl
  · change some (balanceTargetMatchKey built.val.target.val, built.val.quantity) = _
    rw [positionReference, hvalue, hstripped]
    exact congrArg some (Prod.ext hkey rfl)

/-! ## Projected snapshots -/

section

variable {env : KernelEnvironment} {economicFacts : EconomicFacts} {claimSet : ClaimSet}
variable {evidenceSet : EvidenceSet} {inputs : ReconciliationInputs}
variable {states : List ReconciliationState} {owner : String}

/-- Every target is one of a claim of its subject. -/
lemma target_of_claim {economicFactsRef : String}
    (hstates : statesFromInputs env economicFactsRef evidenceSet inputs = .ok states) :
    ∀ state ∈ states, ∀ target ∈ state.balanceTargetRecords, ∃ p ∈ inputs.claims,
      p.1 = target.subjectRef ∧ ∃ value, target.expectedValue = .quantity value := by
  rcases statesFromInputs_ok hstates with ⟨segments, _, rfl, _⟩
  intro state hstate target htarget
  rcases List.mem_map.1 hstate with ⟨segment, _, rfl⟩
  rcases List.mem_map.1 (mem_sortedOn.1 htarget) with ⟨claim, hclaim, rfl⟩
  have hmem : claim ∈ inputs.claimsOf segment.subjectRef := mem_sortedOn.1 hclaim
  exact ⟨_, ReconciliationInputs.mem_claimsOf.1 hmem, rfl, _, rfl⟩

/-- The snapshots show what the targets expect. -/
theorem exists_projectedSnapshots
    (h : OrdinaryInputs owner inputs (validObservationRefs evidenceSet)) {economicFactsRef : String}
    (hstates : statesFromInputs env economicFactsRef evidenceSet inputs = .ok states) :
    ∃ snapshots, projectedSnapshots states = .ok snapshots ∧
      (snapshots.map snapshotShown).Perm (inputs.claims.map (claimSnapshot inputs)) := by
  have hstate : ∀ state ∈ states, ∃ snapshots,
      projectBalanceSnapshotsFromReconciliationState state = .ok snapshots ∧
        (snapshots.map snapshotShown).Perm (state.balanceTargetRecords.map targetSnapshot) := by
    intro state hstate
    have htarget : ∀ target ∈ state.balanceTargetRecords, ∃ snapshot,
        projectSnapshot target = .ok snapshot ∧
          snapshotShown snapshot = targetSnapshot target := by
      intro target htarget
      rcases target_of_claim hstates state hstate target htarget with
        ⟨p, hp, hsubject, value, hvalue⟩
      exact exists_projectSnapshot (hsubject ▸ h.position p hp) hvalue
    rcases exists_mapM_map htarget with ⟨snapshots, hsnapshots, hshown⟩
    refine ⟨orderedSnapshots snapshots, ?_, ?_⟩
    · rw [projectBalanceSnapshotsFromReconciliationState, hsnapshots]
      rfl
    · rw [← hshown]
      exact (sortedOn_perm _ _).map _
  rcases exists_mapM_flatten hstate with ⟨rows, hrows, hperm⟩
  refine ⟨orderedSnapshots rows.flatten, ?_, ?_⟩
  · rw [projectedSnapshots, hrows]
    rfl
  · refine ((sortedOn_perm _ _).map _).trans (hperm.trans ?_)
    rw [← List.map_flatMap]
    exact targets_perm h hstates

/-! ## Support -/

/-- The rows that a checkpoint is made of. -/
structure CheckpointRows (rows : List ReadyCheckpointRow) (checkpoint : Checkpoint)
    (group : List ReadyCheckpointRow) : Prop where
  subset : group ⊆ rows
  states : checkpoint.reconciliationStateRefs = reconciliationStateRefs group
  assertions : ∀ a ∈ checkpoint.checkpointAssertionRecords, ∃ row ∈ group,
    rowPosition row = some (a.asOf, a.subjectRef, a.acceptedValue)

lemma states_of_checkpointFor {asOf : Instant} {rows : List ReadyCheckpointRow}
    {checkpoint : Checkpoint} (h : checkpointFor env asOf rows = .ok checkpoint) :
    checkpoint.reconciliationStateRefs = reconciliationStateRefs rows := by
  rcases except_bind_eq_ok.1 h with ⟨assertions, _, hmade⟩
  rw [← Except.ok.inj hmade]
  rfl

theorem checkpointRows_of_build {rows : List ReadyCheckpointRow}
    (hrows : readyRows env states = .ok rows) {checkpoints : List Checkpoint}
    (hok : buildCheckpoints env states = .ok checkpoints) :
    ∀ checkpoint ∈ checkpoints, ∃ group, CheckpointRows rows checkpoint group := by
  rw [buildCheckpoints, hrows] at hok
  rcases mapM_ok_pairs hok with ⟨pairs, hfst, rfl, hpairs⟩
  intro checkpoint hcheckpoint
  rcases List.mem_map.1 hcheckpoint with ⟨p, hp, rfl⟩
  have hentry : p.1 ∈ (Dict.group (fun row : ReadyCheckpointRow => row.proposal.asOf) rows).entries :=
    mem_sortedOn.1 (hfst ▸ List.mem_map_of_mem hp)
  have hgroup := (Dict.mem_entries_group hentry).2
  have hmem : ∀ row ∈ p.1.2, row ∈ rows ∧ row.proposal.asOf = p.1.1 := by
    intro row hrow
    rw [hgroup] at hrow
    simpa using List.mem_filter.1 hrow
  have hspec := checkpointFor_ok (fun row hrow => (hmem row hrow).2) (hpairs p hp)
  refine ⟨p.1.2, fun row hrow => (hmem row hrow).1, states_of_checkpointFor (hpairs p hp), ?_⟩
  intro a ha
  have hposition := hspec.2.1.mem_iff.1 (List.mem_map_of_mem ha)
  rcases List.mem_map.1 hposition with ⟨row, hrow, hsame⟩
  exact ⟨row, hrow, hsame⟩

/-- Some evidence has a first detail. -/
lemma exists_supportDetail (observationDetails : Dict String ObservationCompatibilityDetail)
    {evidenceRefs : List String} (hne : evidenceRefs ≠ []) :
    ∃ detail, supportDetailForEvidenceRefs observationDetails evidenceRefs = .ok detail := by
  have hfirst : ∀ details : List ObservationCompatibilityDetail, details ≠ [] →
      ∃ detail, firstDetail details = some detail := by
    intro details hdetails
    have hsorted : sortedOn (fun detail : ObservationCompatibilityDetail =>
        (toLex (detail.supportRef, detail.note) : String ×ₗ String)) details ≠ [] := by
      rw [ne_eq, ← List.length_eq_zero_iff, length_sortedOn, List.length_eq_zero_iff]
      exact hdetails
    rcases List.exists_cons_of_ne_nil hsorted with ⟨detail, rest, hcons⟩
    exact ⟨detail, by rw [firstDetail, hcons, List.head?_cons]⟩
  have hresolved : evidenceRefs.map (fun ref =>
      (observationDetails.get? ref).getD { supportRef := ref }) ≠ [] := by
    simpa using hne
  unfold supportDetailForEvidenceRefs
  dsimp only
  split_ifs with hnoted hanchored
  · rcases hfirst _ hnoted with ⟨detail, hdetail⟩
    exact ⟨detail, by rw [hdetail]⟩
  · rcases hfirst _ hanchored with ⟨detail, hdetail⟩
    exact ⟨detail, by rw [hdetail]⟩
  · rcases hfirst _ hresolved with ⟨detail, hdetail⟩
    exact ⟨detail, by rw [hdetail]⟩

/-- What the proposal of an ordinary claim says about the support of its own position. -/
lemma proposalSupport_of_claim
    (h : OrdinaryInputs owner inputs (validObservationRefs evidenceSet)) {economicFactsRef : String}
    (observationDetails : Dict String ObservationCompatibilityDetail) {segment : Segment}
    {claim : ClaimRecord} (hmem : claim ∈ inputs.claimsOf segment.subjectRef) :
    ∃ support, proposalSupport env observationDetails
        (stateOf env economicFactsRef (validObservationRefs evidenceSet) inputs segment)
        (segment.proposal env (validObservationRefs evidenceSet) claim) = .ok support ∧
      ((segment.proposal env (validObservationRefs evidenceSet) claim).evidenceRefs ≠ [] →
        ∃ detail, support = some ((segment.subjectRef, segment.asOf claim), detail)) := by
  have hordered : claim ∈ segment.orderedClaims (inputs.claimsOf segment.subjectRef) :=
    mem_sortedOn.2 hmem
  have hsorted : (segment.orderedClaims (inputs.claimsOf segment.subjectRef)).Pairwise
      (fun a b => segment.asOf a ≤ segment.asOf b) := pairwise_sortedOn _ _
  have htarget := segment.targetsById_state env economicFactsRef (validObservationRefs evidenceSet)
    hsorted hordered
  have hown := @decisive_own env evidenceSet inputs owner h (segment, claim) hmem
  dsimp only at hown
  rw [hown] at htarget
  have hrefs : (segment.proposal env (validObservationRefs evidenceSet) claim).targetRefs =
      [segment.targetId env claim] := rfl
  unfold proposalSupport
  rw [hrefs]
  dsimp only
  split_ifs with hnil
  · exact ⟨none, rfl, fun hne => absurd hnil hne⟩
  · rw [stateOf, htarget]
    rcases exists_supportDetail observationDetails hnil with ⟨detail, hdetail⟩
    rw [hdetail]
    exact ⟨_, rfl, fun _ => ⟨detail, rfl⟩⟩

/-- The states of some claims support the positions of the ready ones. -/
lemma exists_supportDetails
    (h : OrdinaryInputs owner inputs (validObservationRefs evidenceSet)) {economicFactsRef : String}
    (hstates : statesFromInputs env economicFactsRef evidenceSet inputs = .ok states)
    (observationDetails : Dict String ObservationCompatibilityDetail)
    {selected : List ReconciliationState} (hsub : ∀ state ∈ selected, state ∈ states) :
    ∃ details, supportDetailsBySubject env observationDetails selected = .ok details ∧
      ∀ p, ReadyClaim inputs (validObservationRefs evidenceSet) p →
        stateOf env economicFactsRef (validObservationRefs evidenceSet) inputs p.1 ∈ selected →
          (details.get? (p.1.subjectRef, p.1.asOf p.2)).isSome = true := by
  rcases statesFromInputs_ok hstates with ⟨segments, _, rfl, _⟩
  have hproposals : ∀ state ∈ selected, ∃ supports, state.checkpointProposalRecords.mapM
      (proposalSupport env observationDetails state) = .ok supports := by
    intro state hstate
    rcases List.mem_map.1 (hsub state hstate) with ⟨segment, _, rfl⟩
    refine exists_mapM_ok ?_
    intro proposal hproposal
    rcases List.mem_map.1 (mem_sortedOn.1 hproposal) with ⟨claim, hclaim, rfl⟩
    have hmem : claim ∈ inputs.claimsOf segment.subjectRef := mem_sortedOn.1 hclaim
    rcases @proposalSupport_of_claim env evidenceSet inputs owner h economicFactsRef
      observationDetails segment claim hmem with ⟨support, hsupport, _⟩
    exact ⟨support, hsupport⟩
  rcases exists_mapM_ok hproposals with ⟨values, hvalues⟩
  refine ⟨Dict.ofList (values.flatten.filterMap id), ?_, ?_⟩
  · rw [supportDetailsBySubject, hvalues]
    rfl
  · intro p hready hstate
    -- the proposal of the claim is among those of its state
    rcases mapM_ok_pairs hvalues with ⟨statePairs, hfst, rfl, hstatePairs⟩
    rw [← hfst] at hstate
    rcases List.mem_map.1 hstate with ⟨statePair, hstatePair, hstateEq⟩
    have hsupports := hstatePairs statePair hstatePair
    rw [hstateEq] at hsupports
    rcases mapM_ok_pairs hsupports with ⟨pairs, hproposalFst, hsnd, hpairs⟩
    have hproposal : p.1.proposal env (validObservationRefs evidenceSet) p.2 ∈
        (stateOf env economicFactsRef (validObservationRefs evidenceSet) inputs
          p.1).checkpointProposalRecords :=
      mem_sortedOn.2 (List.mem_map_of_mem (mem_sortedOn.2 hready.mem))
    rw [← hproposalFst] at hproposal
    rcases List.mem_map.1 hproposal with ⟨pair, hpair, hpairEq⟩
    rcases @proposalSupport_of_claim env evidenceSet inputs owner h economicFactsRef
      observationDetails p.1 p.2 hready.mem with ⟨support, hsupport, hevidence⟩
    have hne : (p.1.proposal env (validObservationRefs evidenceSet) p.2).evidenceRefs ≠ [] := by
      have hcites := (Bool.and_eq_true _ _ ▸ hready.ready : _ ∧ p.2.observationRefs.any (fun ref =>
        ref ∈ validObservationRefs evidenceSet) = true).2
      rcases List.any_eq_true.1 hcites with ⟨ref, href, hvalid⟩
      have hmem : ref ∈ (p.1.proposal env (validObservationRefs evidenceSet) p.2).evidenceRefs :=
        mem_sortedOn.2 (List.mem_filter.2 ⟨href, hvalid⟩)
      exact List.ne_nil_of_mem hmem
    rcases hevidence hne with ⟨detail, rfl⟩
    have hvalue : pair.2 = some ((p.1.subjectRef, p.1.asOf p.2), detail) := by
      have hmade := hpairs pair hpair
      rw [hpairEq] at hmade
      exact Except.ok.inj (hmade.symm.trans hsupport)
    have hentry : ((p.1.subjectRef, p.1.asOf p.2), detail) ∈
        ((statePairs.map Prod.snd).flatten.filterMap id) := by
      refine List.mem_filterMap.2 ⟨pair.2, ?_, hvalue⟩
      refine List.mem_flatten.2 ⟨statePair.2, List.mem_map_of_mem hstatePair, ?_⟩
      rw [← hsnd]
      exact List.mem_map_of_mem hpair
    have hkey : (p.1.subjectRef, p.1.asOf p.2) ∈
        (Dict.ofList ((statePairs.map Prod.snd).flatten.filterMap id)).keys :=
      (Dict.mem_keys_ofList _ _).2 (List.mem_map_of_mem hentry)
    rw [Option.isSome_iff_ne_none, ne_eq, Dict.get?_eq_none_iff, not_not]
    exact hkey

/-! ## Projected references -/

/-- A state is found by its id. -/
lemma selectedState_of_mem (hnodup : (states.map ReconciliationState.reconciliationStateId).Nodup)
    {state : ReconciliationState} (hmem : state ∈ states) :
    selectedState env states state.reconciliationStateId = .ok state := by
  have hfst : (states.map (fun state : ReconciliationState =>
      (state.reconciliationStateId, state))).map Prod.fst =
        states.map ReconciliationState.reconciliationStateId := by
    rw [List.map_map]
    rfl
  have hget : (statesById states).get? state.reconciliationStateId = some state := by
    rw [Dict.get?_eq_some_iff, statesById, Dict.entries_ofList (hfst ▸ hnodup)]
    exact List.mem_map_of_mem hmem
  rw [selectedState, hget, requireSome_some]

/-- The states of a checkpoint are those of its rows. -/
lemma exists_selectedStates (hnodup : (states.map ReconciliationState.reconciliationStateId).Nodup)
    {group : List ReadyCheckpointRow} (hgroup : ∀ row ∈ group, row.state ∈ states) :
    ∃ selected, (reconciliationStateRefs group).mapM (selectedState env states) = .ok selected ∧
      (∀ state ∈ selected, state ∈ states) ∧ ∀ row ∈ group, row.state ∈ selected := by
  have href : ∀ ref ∈ reconciliationStateRefs group, ∃ state,
      selectedState env states ref = .ok state ∧ state ∈ states := by
    intro ref href
    rcases List.mem_map.1 (List.mem_dedup.1 (mem_sortedOn.1 href)) with ⟨row, hrow, rfl⟩
    exact ⟨row.state, selectedState_of_mem hnodup (hgroup row hrow), hgroup row hrow⟩
  rcases exists_mapM_ok (fun ref hmem => (href ref hmem).imp (fun _ hstate => hstate.1)) with
    ⟨selected, hselected⟩
  refine ⟨selected, hselected, ?_, ?_⟩
  · intro state hstate
    rcases mapM_ok_pairs hselected with ⟨pairs, hfst, rfl, hpairs⟩
    rcases List.mem_map.1 hstate with ⟨pair, hpair, rfl⟩
    rcases href pair.1 (hfst ▸ List.mem_map_of_mem hpair) with ⟨state, hstate, hmem⟩
    rw [Except.ok.inj ((hpairs pair hpair).symm.trans hstate)]
    exact hmem
  · intro row hrow
    rcases mapM_ok_pairs hselected with ⟨pairs, hfst, rfl, hpairs⟩
    have hmem : row.state.reconciliationStateId ∈ reconciliationStateRefs group :=
      mem_sortedOn.2 (List.mem_dedup.2 (List.mem_map_of_mem hrow))
    rw [← hfst] at hmem
    rcases List.mem_map.1 hmem with ⟨pair, hpair, hid⟩
    have hfound := hpairs pair hpair
    rw [hid, selectedState_of_mem hnodup (hgroup row hrow)] at hfound
    rw [Except.ok.inj hfound]
    exact List.mem_map_of_mem hpair

/-- A checkpoint is projected to references that show what it certifies. -/
lemma exists_checkpointReferences
    (h : OrdinaryInputs owner inputs (validObservationRefs evidenceSet))
    (hinputs : reconciliationInputs env economicFacts claimSet = .ok inputs)
    (hstates : buildReconciliationStates env economicFacts claimSet evidenceSet = .ok states)
    (hapart : StatesApart env states) {checkpoints : List Checkpoint}
    (hok : buildCheckpoints env states = .ok checkpoints)
    (observationDetails : Dict String ObservationCompatibilityDetail) :
    ∀ checkpoint ∈ checkpoints, ∃ references,
      projectBalanceReferencesFromCheckpoint env states observationDetails checkpoint =
          .ok references ∧
        (references.map referenceShown).Perm
          (checkpoint.checkpointAssertionRecords.map (fun a =>
            positionReference (a.asOf, a.subjectRef, a.acceptedValue))) := by
  have hfrom := statesFromInputs_of_build hinputs hstates
  rcases readyRows_spec hinputs hfrom with ⟨ready, hrows, _, hready⟩
  intro checkpoint hcheckpoint
  rcases checkpointRows_of_build hrows hok checkpoint hcheckpoint with ⟨group, hgroup⟩
  have hrow : ∀ row ∈ group, ∃ p, ReadyClaim inputs (validObservationRefs evidenceSet) p ∧
      row = readyClaimRow env economicFacts.economicFactsId (validObservationRefs evidenceSet)
        inputs p := by
    intro row hrow
    rcases List.mem_map.1 (hgroup.subset hrow) with ⟨p, hp, rfl⟩
    exact ⟨p, hready p hp, rfl⟩
  have hstate : ∀ row ∈ group, row.state ∈ states := by
    intro row hmem
    rcases hrow row hmem with ⟨p, hp, rfl⟩
    exact hp.state_mem hinputs hstates
  rcases @exists_selectedStates env states (stateIds_nodup hfrom hapart) group hstate with
    ⟨selected, hselected, hsub, hall⟩
  rcases exists_supportDetails h hfrom observationDetails hsub with ⟨details, hdetails, hsupport⟩
  have hassertion : ∀ a ∈ checkpoint.checkpointAssertionRecords, ∃ reference,
      projectReference env details a = .ok reference ∧
        referenceShown reference = positionReference (a.asOf, a.subjectRef, a.acceptedValue) := by
    intro a ha
    rcases hgroup.assertions a ha with ⟨row, hmem, hposition⟩
    rcases hrow row hmem with ⟨p, hp, rfl⟩
    rcases @ReadyClaim.rowPosition env inputs economicFacts.economicFactsId _ h.balance p hp with
      ⟨asOf, quantity, _, _, hasOf, _, _, hmade⟩
    rw [hmade] at hposition
    rcases Prod.mk.inj (Option.some.inj hposition) with ⟨hat, hrest⟩
    rcases Prod.mk.inj hrest with ⟨hsubject, hvalue⟩
    have hdetail := hsupport p hp (hall _ hmem)
    rw [Segment.asOf, hasOf, Option.getD_some, hat, hsubject] at hdetail
    have hpositionOf := h.position _ (ReconciliationInputs.mem_claimsOf.1 hp.mem)
    rw [hsubject] at hpositionOf
    rcases exists_projectReference hpositionOf hvalue.symm hdetail with
      ⟨reference, hreference, hshown⟩
    exact ⟨reference, hreference, hshown⟩
  rcases exists_mapM_map hassertion with ⟨references, hreferences, hshown⟩
  refine ⟨orderedReferences references, ?_, ?_⟩
  · rw [projectBalanceReferencesFromCheckpoint, hgroup.states, hselected, bind_ok, hdetails, bind_ok,
      hreferences]
    rfl
  · rw [← hshown]
    exact (sortedOn_perm _ _).map _

/-- The references show what is certified. -/
theorem exists_projectedReferences
    (h : OrdinaryInputs owner inputs (validObservationRefs evidenceSet))
    (hinputs : reconciliationInputs env economicFacts claimSet = .ok inputs)
    (hstates : buildReconciliationStates env economicFacts claimSet evidenceSet = .ok states)
    (hapart : StatesApart env states) {checkpoints : List Checkpoint}
    (hok : buildCheckpoints env states = .ok checkpoints)
    (observationDetails : Dict String ObservationCompatibilityDetail) :
    ∃ references, projectedReferences env states observationDetails checkpoints = .ok references ∧
      (references.map referenceShown).Perm
        ((inputs.claims.filter (fun p =>
          inputs.isReady (validObservationRefs evidenceSet) p.1 p.2)).map (claimSnapshot inputs)) := by
  rcases exists_mapM_flatten (exists_checkpointReferences h hinputs hstates hapart hok
    observationDetails) with ⟨rows, hrows, hperm⟩
  refine ⟨orderedReferences rows.flatten, ?_, ?_⟩
  · rw [projectedReferences, hrows]
    rfl
  · refine ((sortedOn_perm _ _).map _).trans (hperm.trans ?_)
    have hpositions : (certifiedPositions checkpoints).map positionReference =
        checkpoints.flatMap (fun checkpoint =>
          checkpoint.checkpointAssertionRecords.map (fun a =>
            positionReference (a.asOf, a.subjectRef, a.acceptedValue))) := by
      rw [certifiedPositions, List.map_flatMap]
      refine congrArg (fun f => checkpoints.flatMap f) (funext (fun checkpoint => ?_))
      rw [List.map_map]
      rfl
    rw [← hpositions]
    exact certified_perm h hinputs hstates hok

end

end Kernel
end Tallylot
