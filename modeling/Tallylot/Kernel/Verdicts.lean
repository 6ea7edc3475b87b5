import Tallylot.Balances.Comparison
import Tallylot.Kernel.ProjectedRows

/-!
# Verdicts — what the balance check says of the projections

The row-level balance check compares the projected snapshots and references.  For ordinary claims it
makes one assertion for each claim, without conflicts and duplicates.  Only ready proposals become
references, so a claim whose target is mismatched has no reference, and no drift (`verdicts_agree`).
-/

namespace Tallylot
namespace Kernel

open Data Domain Balances

/-! ## Claims and their keys -/

section

variable {env : KernelEnvironment} {claimSet : ClaimSet} {evidenceSet : EvidenceSet}
variable {inputs : ReconciliationInputs} {states : List ReconciliationState} {owner : String}
variable {observationRefs : List String}

/-- Claims of one key are one claim. -/
lemma claim_of_key (h : OrdinaryInputs owner inputs observationRefs)
    {p q : SubjectRef × ClaimRecord} (hp : p ∈ inputs.claims) (hq : q ∈ inputs.claims)
    {shown shown' : BalanceTargetMatchKey × Decimal} (hshown : claimSnapshot inputs p = some shown)
    (hshown' : claimSnapshot inputs q = some shown') (hkey : shown.1 = shown'.1) : p = q := by
  rcases Option.map_eq_some_iff.1 hshown with ⟨asOf, hasOf, rfl⟩
  rcases Option.map_eq_some_iff.1 hshown' with ⟨asOf', hasOf', rfl⟩
  rcases positionKey_inj (h.position p hp) (h.position q hq) hkey with ⟨hsubject, hsame⟩
  exact List.inj_on_of_nodup_map h.once hp hq (by rw [hasOf, hasOf', hsubject, hsame])

/-- Different claims have different keys. -/
lemma claimKeys_nodup (h : OrdinaryInputs owner inputs observationRefs) :
    ((inputs.claims.filterMap (claimSnapshot inputs)).map Prod.fst).Nodup := by
  rw [List.Nodup, List.pairwise_map, List.pairwise_filterMap]
  have hclaims : inputs.claims.Nodup := h.once.of_map
  refine hclaims.imp_of_mem ?_
  intro p q hp hq hne shown hshown shown' hshown' hkey
  exact hne (claim_of_key h hp hq hshown hshown' hkey)

/-! ## The rows of a claim -/

/-- The projected rows of some claims: a snapshot for each claim, a reference for each ready one. -/
structure ProjectedRows (inputs : ReconciliationInputs) (observationRefs : List String)
    (snapshots : List BalanceSnapshot) (references : List BalanceReference) : Prop where
  snapshots : (snapshots.map (fun snapshot =>
      (balanceTargetMatchKey snapshot.target, snapshot.quantity))).Perm
    (inputs.claims.filterMap (claimSnapshot inputs))
  references : (references.map (fun reference =>
      (balanceTargetMatchKey reference.target, reference.quantity))).Perm
    ((inputs.claims.filter (fun p => inputs.isReady observationRefs p.1 p.2)).filterMap
      (claimSnapshot inputs))

lemma filterMap_of_perm {α β γ : Type*} {shown : α → γ} {shows : β → Option γ} {xs : List α}
    {ys : List β} (h : (xs.map (fun x => some (shown x))).Perm (ys.map shows)) :
    (xs.map shown).Perm (ys.filterMap shows) := by
  have hsome := h.filterMap id
  rw [List.filterMap_map, List.filterMap_map] at hsome
  rwa [← List.filterMap_eq_map]

namespace ProjectedRows

variable {snapshots : List BalanceSnapshot} {references : List BalanceReference}

lemma readyKeys_nodup (h : OrdinaryInputs owner inputs observationRefs) :
    (((inputs.claims.filter (fun p => inputs.isReady observationRefs p.1 p.2)).filterMap
      (claimSnapshot inputs)).map Prod.fst).Nodup :=
  (claimKeys_nodup h).sublist ((List.filter_sublist.filterMap _).map _)

/-- Snapshots of different claims have different keys. -/
lemma snapshotKeys_nodup (h : OrdinaryInputs owner inputs observationRefs)
    (hrows : ProjectedRows inputs observationRefs snapshots references) :
    (snapshots.map (fun snapshot => balanceTargetMatchKey snapshot.target)).Nodup := by
  have hkeys := (hrows.snapshots.map Prod.fst).nodup_iff.2 (claimKeys_nodup h)
  rwa [List.map_map] at hkeys

lemma referenceKeys_nodup (h : OrdinaryInputs owner inputs observationRefs)
    (hrows : ProjectedRows inputs observationRefs snapshots references) :
    (references.map (fun reference => balanceTargetMatchKey reference.target)).Nodup := by
  have hkeys := (hrows.references.map Prod.fst).nodup_iff.2 (readyKeys_nodup h)
  rwa [List.map_map] at hkeys

/-- The snapshot of a claim's key states what its target expects. -/
lemma snapshot_of_claim (h : OrdinaryInputs owner inputs observationRefs)
    (hrows : ProjectedRows inputs observationRefs snapshots references)
    {p : SubjectRef × ClaimRecord} (hp : p ∈ inputs.claims)
    {shown : BalanceTargetMatchKey × Decimal} (hshown : claimSnapshot inputs p = some shown) :
    ∃ snapshot, snapshots.find? (fun snapshot =>
        balanceTargetMatchKey snapshot.target = shown.1) = some snapshot ∧
      snapshot.quantity = shown.2 := by
  rcases exists_row_of_perm hrows.snapshots (claimKeys_nodup h)
    (List.mem_filterMap.2 ⟨p, hp, hshown⟩) with ⟨snapshot, hfilter, hrow⟩
  refine ⟨snapshot, ?_, congrArg Prod.snd hrow⟩
  rw [← List.head?_filter]
  exact congrArg List.head? hfilter

/-- A ready claim has one reference, to what its target expects. -/
lemma reference_of_ready (h : OrdinaryInputs owner inputs observationRefs)
    (hrows : ProjectedRows inputs observationRefs snapshots references)
    {p : SubjectRef × ClaimRecord} (hp : p ∈ inputs.claims)
    (hready : inputs.isReady observationRefs p.1 p.2 = true)
    {shown : BalanceTargetMatchKey × Decimal} (hshown : claimSnapshot inputs p = some shown) :
    ∃ reference, references.filter (fun reference =>
        balanceTargetMatchKey reference.target = shown.1) = [reference] ∧
      reference.quantity = shown.2 := by
  rcases exists_row_of_perm hrows.references (readyKeys_nodup h)
    (List.mem_filterMap.2 ⟨p, List.mem_filter.2 ⟨hp, hready⟩, hshown⟩) with
    ⟨reference, hfilter, hrow⟩
  exact ⟨reference, hfilter, congrArg Prod.snd hrow⟩

/-- Every reference shows a ready claim. -/
lemma claim_of_reference (hrows : ProjectedRows inputs observationRefs snapshots references)
    {reference : BalanceReference} (hreference : reference ∈ references) :
    ∃ p ∈ inputs.claims, inputs.isReady observationRefs p.1 p.2 = true ∧
      claimSnapshot inputs p =
        some (balanceTargetMatchKey reference.target, reference.quantity) := by
  have hmem := hrows.references.mem_iff.1 (List.mem_map_of_mem hreference)
  rcases List.mem_filterMap.1 hmem with ⟨p, hp, hshown⟩
  exact ⟨p, (List.mem_filter.1 hp).1, (List.mem_filter.1 hp).2, hshown⟩

/-- A claim that is not ready has no reference. -/
lemma references_of_not_ready (h : OrdinaryInputs owner inputs observationRefs)
    (hrows : ProjectedRows inputs observationRefs snapshots references)
    {p : SubjectRef × ClaimRecord} (hp : p ∈ inputs.claims)
    (hready : ¬inputs.isReady observationRefs p.1 p.2 = true)
    {shown : BalanceTargetMatchKey × Decimal} (hshown : claimSnapshot inputs p = some shown) :
    references.filter (fun reference =>
      balanceTargetMatchKey reference.target = shown.1) = [] := by
  refine List.filter_eq_nil_iff.2 ?_
  intro reference hreference hkey
  rcases hrows.claim_of_reference hreference with ⟨q, hq, hqready, hqshown⟩
  have hsame := claim_of_key h hp hq hshown hqshown (of_decide_eq_true hkey).symm
  exact hready (hsame ▸ hqready)

/-! ## Its assertion -/

/-- The comparison at the key of a claim: matched if it is ready, and else without a reference. -/
lemma compareKey_of_claim (h : OrdinaryInputs owner inputs observationRefs)
    (hrows : ProjectedRows inputs observationRefs snapshots references)
    {p : SubjectRef × ClaimRecord} (hp : p ∈ inputs.claims)
    {shown : BalanceTargetMatchKey × Decimal} (hshown : claimSnapshot inputs p = some shown)
    {assertion : BalanceAssertion} {issues : List IssueRecord}
    (hcompared : compareKey snapshots references shown.1 = some (assertion, issues)) :
    assertion.status =
      if inputs.isReady observationRefs p.1 p.2 = true then .matched else .missingReference := by
  rcases hrows.snapshot_of_claim h hp hshown with ⟨snapshot, hsnapshot, hquantity⟩
  rw [compareKey, hsnapshot] at hcompared
  by_cases hready : inputs.isReady observationRefs p.1 p.2 = true
  · rcases hrows.reference_of_ready h hp hready hshown with ⟨reference, hreference, hsame⟩
    rw [hreference, assertKey] at hcompared
    have hstatus := congrArg (fun made => made.1.status) (Option.some.inj hcompared)
    dsimp only at hstatus
    rw [status_buildAssertion, selectedReference_of_le_one (by simp)] at hstatus
    rw [if_pos hready, ← hstatus]
    simp [assertionStatus, hquantity, hsame]
  · rw [hrows.references_of_not_ready h hp hready hshown, assertKey] at hcompared
    have hstatus := congrArg (fun made => made.1.status) (Option.some.inj hcompared)
    dsimp only at hstatus
    rw [status_buildAssertion, selectedReference_of_le_one (by simp)] at hstatus
    rw [if_neg hready, ← hstatus]
    rfl

/-- Every assertion is about a claim. -/
lemma claim_of_assertion (hrows : ProjectedRows inputs observationRefs snapshots references)
    {assertion : BalanceAssertion}
    (hassertion : assertion ∈ (assertBalanceTargets snapshots references).assertions) :
    ∃ p ∈ inputs.claims, ∃ quantity,
      claimSnapshot inputs p = some (balanceTargetMatchKey assertion.target, quantity) := by
  have hkey : balanceTargetMatchKey assertion.target ∈ comparisonKeys snapshots references := by
    rw [← matchKeys_assertions]
    exact List.mem_map_of_mem hassertion
  rcases mem_comparisonKeys.1 hkey with ⟨snapshot, hsnapshot, hsame⟩ | ⟨reference, href, hsame⟩
  · have hmem := hrows.snapshots.mem_iff.1 (List.mem_map_of_mem hsnapshot)
    rcases List.mem_filterMap.1 hmem with ⟨p, hp, hshown⟩
    exact ⟨p, hp, snapshot.quantity, hsame ▸ hshown⟩
  · rcases hrows.claim_of_reference href with ⟨p, hp, _, hshown⟩
    exact ⟨p, hp, reference.quantity, hsame ▸ hshown⟩

end ProjectedRows

/-- An assertion at the location and the instrument of a position, at an instant. -/
def assertsAt (subjectRef : SubjectRef) (asOf : Instant) (assertion : BalanceAssertion) : Bool :=
  assertion.target.locationId = refText subjectRef 1 ∧
    assertion.target.instrumentId = refText subjectRef 2 ∧ assertion.target.targetAt = asOf

namespace ProjectedRows

variable {snapshots : List BalanceSnapshot} {references : List BalanceReference}

/-- Among the assertions, location, instrument and instant decide the key. -/
lemma assertsAt_iff (hrows : ProjectedRows inputs observationRefs snapshots references)
    (subjectRef : SubjectRef) (asOf : Instant) {assertion : BalanceAssertion}
    (hassertion : assertion ∈ (assertBalanceTargets snapshots references).assertions) :
    assertsAt subjectRef asOf assertion = true ↔
      balanceTargetMatchKey assertion.target = positionKey subjectRef asOf := by
  rcases hrows.claim_of_assertion hassertion with ⟨p, _, quantity, hshown⟩
  rcases Option.map_eq_some_iff.1 hshown with ⟨asOf', _, hmade⟩
  have hkey := congrArg Prod.fst hmade
  simp only [positionKey, balanceTargetMatchKey, EmbeddingLike.apply_eq_iff_eq, Prod.mk.injEq]
    at hkey
  rcases hkey with ⟨hsource, _, _, hkind, _⟩
  simp only [assertsAt, decide_eq_true_eq, positionKey, balanceTargetMatchKey,
    EmbeddingLike.apply_eq_iff_eq, Prod.mk.injEq]
  rw [← hsource, ← hkind]
  simp

/-- A claim has one assertion at its position and instant. -/
theorem exists_assertion (h : OrdinaryInputs owner inputs observationRefs)
    (hrows : ProjectedRows inputs observationRefs snapshots references)
    {p : SubjectRef × ClaimRecord} (hp : p ∈ inputs.claims) {asOf : Instant}
    (hasOf : p.2.observedAt = some asOf) :
    ∃ assertion, (assertBalanceTargets snapshots references).assertions.filter
        (assertsAt p.1 asOf) = [assertion] ∧
      assertion.status =
        if inputs.isReady observationRefs p.1 p.2 = true then .matched else .missingReference := by
  have hshown : claimSnapshot inputs p =
      some (positionKey p.1 asOf, expectedQuantity (inputs.legsOf p.1) asOf) := by
    rw [claimSnapshot, hasOf, Option.map_some]
  have hkey : positionKey p.1 asOf ∈ comparisonKeys snapshots references := by
    rcases hrows.snapshot_of_claim h hp hshown with ⟨snapshot, hsnapshot, _⟩
    refine mem_comparisonKeys.2 (Or.inl ⟨snapshot, List.mem_of_find?_eq_some hsnapshot, ?_⟩)
    simpa using List.find?_some hsnapshot
  have hfilter : (assertBalanceTargets snapshots references).assertions.filter
      (assertsAt p.1 asOf) = (assertBalanceTargets snapshots references).assertions.filter
        (fun assertion => balanceTargetMatchKey assertion.target = positionKey p.1 asOf) := by
    refine List.filter_congr ?_
    intro assertion hassertion
    rw [Bool.eq_iff_iff, hrows.assertsAt_iff p.1 asOf hassertion, decide_eq_true_eq]
  rw [hfilter]
  rcases List.length_eq_one_iff.1 (assertion_of_key hkey) with ⟨assertion, hone⟩
  refine ⟨assertion, hone, ?_⟩
  have hmem := List.mem_filter.1 (hone ▸ List.mem_singleton.2 rfl : assertion ∈ _)
  rcases compareKey_of_assertion hmem.1 with ⟨issues, hcompared⟩
  rw [of_decide_eq_true hmem.2] at hcompared
  exact hrows.compareKey_of_claim h hp hshown hcompared

end ProjectedRows

end

/-! ## The two verdicts -/

section

variable {env : KernelEnvironment} {economicFacts : EconomicFacts} {claimSet : ClaimSet}
variable {evidenceSet : EvidenceSet} {inputs : ReconciliationInputs}
variable {states : List ReconciliationState} {owner : String}

theorem exists_projectedRows
    (h : OrdinaryInputs owner inputs (validObservationRefs evidenceSet))
    (hinputs : reconciliationInputs env economicFacts claimSet = .ok inputs)
    (hstates : buildReconciliationStates env economicFacts claimSet evidenceSet = .ok states)
    (hapart : StatesApart env states) {checkpoints : List Checkpoint}
    (hok : buildCheckpoints env states = .ok checkpoints)
    (observationDetails : Dict String ObservationCompatibilityDetail) :
    ∃ snapshots references, projectedSnapshots states = .ok snapshots ∧
      projectedReferences env states observationDetails checkpoints = .ok references ∧
      ProjectedRows inputs (validObservationRefs evidenceSet) snapshots references := by
  rcases exists_projectedSnapshots h (statesFromInputs_of_build hinputs hstates) with
    ⟨snapshots, hsnapshots, hshown⟩
  rcases exists_projectedReferences h hinputs hstates hapart hok observationDetails with
    ⟨references, hreferences, hshown'⟩
  exact ⟨snapshots, references, hsnapshots, hreferences, filterMap_of_perm hshown,
    filterMap_of_perm hshown'⟩

/-- A target that is the one of a claim: it has the claim's subject and instant, and observes what the
claim states. -/
structure TargetOf (subjectRef : SubjectRef) (claim : ClaimRecord) (target : BalanceTargetRecord) :
    Prop where
  subject : target.subjectRef = subjectRef
  asOf : claim.observedAt = some target.asOf
  observed : target.observedValue = claim.quantity.map (fun quantity =>
    .quantity ⟨quantity, subjectRef⟩)

/-- Every claim has its target, which is matched where the claim states the expected quantity. -/
lemma exists_target (hbalance : ∀ p ∈ inputs.claims, p.2.kind = .balance) {economicFactsRef : String}
    (hstates : statesFromInputs env economicFactsRef evidenceSet inputs = .ok states)
    {p : SubjectRef × ClaimRecord} (hp : p ∈ inputs.claims) :
    ∃ state ∈ states, ∃ target ∈ state.balanceTargetRecords, TargetOf p.1 p.2 target ∧
      target.comparisonOutcome =
        some (if inputs.statesExpected p.1 p.2 = true then .matched else .mismatched) := by
  rcases statesFromInputs_ok hstates with ⟨segments, hsubjects, rfl, hof⟩
  have hsubject : p.1 ∈ segments.map Segment.subjectRef :=
    hsubjects ▸ ReconciliationInputs.mem_allSubjects.2 (Or.inr ⟨p, hp, rfl⟩)
  rcases List.mem_map.1 hsubject with ⟨segment, hsegment, hsame⟩
  have hclaim : p.2 ∈ inputs.claimsOf segment.subjectRef :=
    hsame ▸ ReconciliationInputs.mem_claimsOf.2 hp
  rcases ClaimRecord.balance_fields (hbalance p hp) with ⟨⟨quantity, hquantity⟩, ⟨asOf, hasOf⟩, _⟩
  have hat : segment.asOf p.2 = asOf := by
    rw [Segment.asOf, hasOf, Option.getD_some]
  have hobserved : segment.observedValue p.2 = some (.quantity ⟨quantity, segment.subjectRef⟩) := by
    rw [Segment.observedValue, hquantity, Option.map_some]
  refine ⟨_, List.mem_map_of_mem hsegment, segment.target env p.2,
    mem_sortedOn.2 (List.mem_map_of_mem (mem_sortedOn.2 hclaim)), ⟨hsame, ?_, ?_⟩, ?_⟩
  · exact hasOf.trans (congrArg some hat.symm)
  · rw [← hsame]
    rfl
  · change (segment.observedValue p.2).map _ = _
    rw [hobserved, Option.map_some, Segment.expectedValue, hat, (hof segment hsegment).legs,
      ← hsame, ReconciliationInputs.statesExpected, hasOf, hquantity]
    simp

/-- The status of the assertion of a claim: matched where its target is matched and it cites an
observation, and otherwise without a reference. -/
def verdict (claim : ClaimRecord) (target : BalanceTargetRecord) : BalanceAssertionStatus :=
  if target.comparisonOutcome = some .matched ∧ claim.observationRefs ≠ [] then .matched
  else .missingReference

/-- Of a claim: its target, which is decided, and its only assertion, with the verdict on the target. -/
lemma exists_verdict (h : OrdinaryInputs owner inputs (validObservationRefs evidenceSet))
    {economicFactsRef : String}
    (hstates : statesFromInputs env economicFactsRef evidenceSet inputs = .ok states)
    {snapshots : List BalanceSnapshot} {references : List BalanceReference}
    (hrows : ProjectedRows inputs (validObservationRefs evidenceSet) snapshots references)
    {p : SubjectRef × ClaimRecord} (hp : p ∈ inputs.claims) {asOf : Instant}
    (hasOf : p.2.observedAt = some asOf) :
    ∃ state ∈ states, ∃ target ∈ state.balanceTargetRecords, TargetOf p.1 p.2 target ∧
      (target.comparisonOutcome =
        some (if inputs.statesExpected p.1 p.2 = true then .matched else .mismatched)) ∧
      ∃ assertion, (assertBalanceTargets snapshots references).assertions.filter
          (assertsAt p.1 asOf) = [assertion] ∧
        assertion.status = verdict p.2 target := by
  rcases exists_target h.balance hstates hp with ⟨state, hstate, target, htarget, hof, houtcome⟩
  rcases hrows.exists_assertion h hp hasOf with ⟨assertion, hone, hstatus⟩
  refine ⟨state, hstate, target, htarget, hof, houtcome, assertion, hone, ?_⟩
  have hmatched : target.comparisonOutcome = some .matched ↔
      inputs.statesExpected p.1 p.2 = true := by
    rw [houtcome]
    split_ifs with hexpected <;> simp [hexpected]
  rw [hstatus]
  exact if_congr ((ready_iff_matched h hp).trans (and_congr_left' hmatched.symm)) rfl rfl

/-- The projections of ordinary claims are made and compared without conflicts and duplicates, and
each accepted balance claim has one assertion at its position and instant. -/
theorem verdicts_agree
    (hstates : buildReconciliationStates env economicFacts claimSet evidenceSet = .ok states)
    {checkpoints : List Checkpoint} (hok : buildCheckpoints env states = .ok checkpoints)
    (hordinary : OrdinaryClaims env claimSet evidenceSet) (hapart : StatesApart env states)
    (observationDetails : Dict String ObservationCompatibilityDetail) :
    ∃ snapshots references, projectedSnapshots states = .ok snapshots ∧
      projectedReferences env states observationDetails checkpoints = .ok references ∧
      (∀ issue ∈ (assertBalanceTargets snapshots references).issues,
        issue.kind ≠ "duplicate_balance_snapshot" ∧
          issue.kind ≠ "conflicting_balance_references") ∧
      ∀ claim ∈ acceptedBalanceClaims claimSet, ∃ subjectRef asOf,
        subjectRefForBalanceClaim env claimSet claim = .ok subjectRef ∧
          claim.observedAt = some asOf ∧
          ∃ state ∈ states, ∃ target ∈ state.balanceTargetRecords,
            TargetOf subjectRef claim target ∧
            (target.comparisonOutcome = some .matched ∨
              target.comparisonOutcome = some .mismatched) ∧
            ∃ assertion, (assertBalanceTargets snapshots references).assertions.filter
                (assertsAt subjectRef asOf) = [assertion] ∧
              assertion.status = verdict claim target := by
  rcases except_bind_eq_ok.1 hstates with ⟨inputs, hinputs, hfrom⟩
  rcases ordinaryInputs hordinary hinputs with ⟨owner, h⟩
  rcases exists_projectedRows h hinputs hstates hapart hok observationDetails with
    ⟨snapshots, references, hsnapshots, hreferences, hrows⟩
  refine ⟨snapshots, references, hsnapshots, hreferences, ?_, ?_⟩
  · intro issue hissue
    rcases kind_of_issue_apart (hrows.snapshotKeys_nodup h) (hrows.referenceKeys_nodup h) hissue with
      ⟨status, hkind⟩
    rw [hkind]
    cases status <;> decide
  · intro claim hclaim
    rcases claims_accepted hinputs with ⟨haccepted, hsubjects⟩
    rcases List.mem_map.1 (haccepted ▸ hclaim) with ⟨p, hp, rfl⟩
    rcases ClaimRecord.balance_fields (h.balance p hp) with ⟨_, ⟨asOf, hasOf⟩, _⟩
    rcases exists_verdict h hfrom hrows hp hasOf with
      ⟨state, hstate, target, htarget, hof, houtcome, hassertion⟩
    refine ⟨p.1, asOf, hsubjects p hp, hasOf, state, hstate, target, htarget, hof, ?_, hassertion⟩
    rw [houtcome]
    split_ifs
    · exact Or.inl rfl
    · exact Or.inr rfl

end

/-! ## One statement -/

/-- A single accepted statement of a bitcoin balance at the start of the year. -/
def oneStatement (quantity : Decimal) : ClaimSet where
  claimSetId := "claims"
  claimRecords := balanceBundle "first" quantity
  claimBundleDecisionRecords := [⟨"first", .accepted, "first"⟩]

def oneInputs (quantity : Decimal) : ReconciliationInputs where
  legs := oneBitcoinLegs.map (fun leg => ⟨leg, newYear⟩)
  claims := [(bitcoinSubject, balanceClaim "first" quantity)]

lemma oneInputs_ok (quantity : Decimal) :
    reconciliationInputs bitcoinEnvironment (bitcoinFacts oneBitcoinLegs) (oneStatement quantity) =
      .ok (oneInputs quantity) := by
  rfl

lemma oneStates_ok (quantity : Decimal) :
    ∃ states, buildReconciliationStates bitcoinEnvironment (bitcoinFacts oneBitcoinLegs)
      (oneStatement quantity) bothObservations = .ok states :=
  ⟨_, rfl⟩

/-- Ids of the environment tell all states apart. -/
lemma statesApart_bitcoin (states : List ReconciliationState) :
    StatesApart bitcoinEnvironment states :=
  Function.injective_id.injOn

lemma ordinary_oneStatement (quantity : Decimal) :
    OrdinaryClaims bitcoinEnvironment (oneStatement quantity) bothObservations := by
  have haccepted : acceptedBalanceClaims (oneStatement quantity) = [balanceClaim "first" quantity] :=
    rfl
  constructor
  · intro claim hclaim other hother hkind hkind'
    have howner : ∀ item ∈ (oneStatement quantity).claimRecords, item.kind = .beneficialOwner →
        item.beneficialOwnerRef = "me" := by
      simp [oneStatement, balanceBundle, balanceClaim]
    rw [howner claim hclaim hkind, howner other hother hkind']
  · intro claim hclaim item hitem _ hid
    rw [haccepted, List.mem_singleton] at hclaim
    rw [hclaim] at hid
    have hlocation : ∀ item ∈ (oneStatement quantity).claimRecords, item.claimId = "location" →
        item.locationRef = "coinbase" := by
      simp [oneStatement, balanceBundle, balanceClaim]
    rw [hlocation item hitem hid]
    decide
  · intro claim hclaim asOf hasOf
    rw [haccepted, List.mem_singleton] at hclaim
    rw [hclaim] at hasOf
    rw [← Option.some.inj hasOf]
    rfl
  · intro claim hclaim ref href
    rw [haccepted, List.mem_singleton] at hclaim
    rw [hclaim] at href
    rw [List.mem_singleton.1 href]
    decide
  · rw [haccepted]
    exact List.nodup_singleton _

lemma oneInputs_claim {quantity : Decimal} {subjectRef : SubjectRef} {claim : ClaimRecord}
    (h : (subjectRef, claim) ∈ (oneInputs quantity).claims) :
    subjectRef = bitcoinSubject ∧ claim = balanceClaim "first" quantity :=
  Prod.mk.inj (List.mem_singleton.1 h)

lemma oneInputs_statesExpected (quantity : Decimal) :
    (oneInputs quantity).statesExpected bitcoinSubject (balanceClaim "first" quantity) =
      decide (quantity = oneBitcoin) := by
  have hlegs : (oneInputs quantity).legsOf bitcoinSubject =
      (oneInputs oneBitcoin).legsOf bitcoinSubject := rfl
  have hsum : expectedQuantity ((oneInputs oneBitcoin).legsOf bitcoinSubject) newYear =
      oneBitcoin := by
    decide +kernel
  simp only [ReconciliationInputs.statesExpected, balanceClaim, hlegs, hsum]

/-- The checkpoints of a single statement are built. -/
lemma oneCheckpoints_ok {quantity : Decimal} {states : List ReconciliationState}
    (hstates : buildReconciliationStates bitcoinEnvironment (bitcoinFacts oneBitcoinLegs)
      (oneStatement quantity) bothObservations = .ok states) :
    ∃ checkpoints, buildCheckpoints bitcoinEnvironment states = .ok checkpoints := by
  refine (buildCheckpoints_ok_iff (oneInputs_ok quantity) hstates).2 ?_
  rintro subjectRef claim d hmem hready ⟨segment, _, hlast⟩
  -- the only claim is decisive for itself
  have hd := mem_sortedOn.1 (List.mem_filter.1 (List.mem_of_getLast? hlast)).1
  have hsame : d = claim :=
    (oneInputs_claim (ReconciliationInputs.mem_claimsOf.1 hd)).2.trans (oneInputs_claim hmem).2.symm
  rw [hsame]
  exact (Bool.and_eq_true_iff.1 hready).1

/-- A statement of two bitcoins against a leg of one: its target is mismatched, and its assertion is no
drift. -/
theorem mismatched_without_drift :
    ∃ states checkpoints snapshots references,
      buildReconciliationStates bitcoinEnvironment (bitcoinFacts oneBitcoinLegs)
          (oneStatement twoBitcoin) bothObservations = .ok states ∧
      buildCheckpoints bitcoinEnvironment states = .ok checkpoints ∧
      OrdinaryClaims bitcoinEnvironment (oneStatement twoBitcoin) bothObservations ∧
      StatesApart bitcoinEnvironment states ∧
      projectedSnapshots states = .ok snapshots ∧
      projectedReferences bitcoinEnvironment states Dict.empty checkpoints = .ok references ∧
      (∃ state ∈ states, ∃ target ∈ state.balanceTargetRecords,
        TargetOf bitcoinSubject (balanceClaim "first" twoBitcoin) target ∧
        target.comparisonOutcome = some .mismatched) ∧
      ∃ assertion, (assertBalanceTargets snapshots references).assertions.filter
          (assertsAt bitcoinSubject newYear) = [assertion] ∧
        assertion.status = .missingReference ∧ assertion.status ≠ .drift := by
  have hordinary := ordinary_oneStatement twoBitcoin
  have hinputs := oneInputs_ok twoBitcoin
  rcases oneStates_ok twoBitcoin with ⟨states, hstates⟩
  rcases oneCheckpoints_ok hstates with ⟨checkpoints, hok⟩
  rcases ordinaryInputs hordinary hinputs with ⟨owner, h⟩
  have hapart := statesApart_bitcoin states
  rcases exists_projectedRows h hinputs hstates hapart hok Dict.empty with
    ⟨snapshots, references, hsnapshots, hreferences, hrows⟩
  rcases exists_verdict h (statesFromInputs_of_build hinputs hstates) hrows
    (List.mem_singleton.2 rfl) rfl with
    ⟨state, hstate, target, htarget, hof, houtcome, assertion, hone, hstatus⟩
  have hmismatched : target.comparisonOutcome = some .mismatched := by
    rw [houtcome, oneInputs_statesExpected]
    decide
  have hmissing : assertion.status = .missingReference := by
    rw [hstatus, verdict, hmismatched]
    rfl
  refine ⟨states, checkpoints, snapshots, references, hstates, hok, hordinary, hapart, hsnapshots,
    hreferences, ⟨state, hstate, target, htarget, hof, hmismatched⟩, assertion, hone, hmissing, ?_⟩
  rw [hmissing]
  decide

/-- A statement of one bitcoin against a leg of one is compared without conflicts. -/
theorem one_statement_agrees :
    ∃ states checkpoints,
      buildReconciliationStates bitcoinEnvironment (bitcoinFacts oneBitcoinLegs)
          (oneStatement oneBitcoin) bothObservations = .ok states ∧
      buildCheckpoints bitcoinEnvironment states = .ok checkpoints ∧
      ∃ snapshots references, projectedSnapshots states = .ok snapshots ∧
        projectedReferences bitcoinEnvironment states Dict.empty checkpoints = .ok references ∧
        ∀ claim ∈ acceptedBalanceClaims (oneStatement oneBitcoin), ∃ subjectRef asOf,
          ∃ state ∈ states, ∃ target ∈ state.balanceTargetRecords, ∃ assertion,
            (assertBalanceTargets snapshots references).assertions.filter
              (assertsAt subjectRef asOf) = [assertion] ∧
            assertion.status = verdict claim target := by
  rcases oneStates_ok oneBitcoin with ⟨states, hstates⟩
  rcases oneCheckpoints_ok hstates with ⟨checkpoints, hok⟩
  rcases verdicts_agree hstates hok (ordinary_oneStatement oneBitcoin) (statesApart_bitcoin states)
    Dict.empty with ⟨snapshots, references, hsnapshots, hreferences, _, hclaims⟩
  refine ⟨states, checkpoints, hstates, hok, snapshots, references, hsnapshots, hreferences, ?_⟩
  intro claim hclaim
  rcases hclaims claim hclaim with
    ⟨subjectRef, asOf, _, _, state, hstate, target, htarget, _, _, assertion, hone, hstatus⟩
  exact ⟨subjectRef, asOf, state, hstate, target, htarget, assertion, hone, hstatus⟩

end Kernel
end Tallylot
