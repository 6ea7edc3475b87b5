import Tallylot.Balances.Models
import Tallylot.Domain.LocationIdentifiers
import Tallylot.Kernel.StateIds

/-!
# JudgedClaims — the targets and the certified positions of ordinary claims

Ordinary claims have one owner, supported locations and observations that are present, and state one
quantity for a subject and an instant.  Their targets are one for each claim, and every ready claim
certifies its own position.
-/

namespace Tallylot
namespace Kernel

open Data Domain Balances

/-! ## Positions -/

/-- The text of a part of a position. -/
def refText (subjectRef : SubjectRef) (index : Nat) : String :=
  match subjectRef.key[index]? with
  | some (.tuple [.str text]) => text
  | _ => ""

/-- The match key of a position at an instant. -/
def positionKey (subjectRef : SubjectRef) (asOf : Instant) : BalanceTargetMatchKey :=
  toLex ("coinbase", toLex (refText subjectRef 1, toLex (refText subjectRef 2,
    toLex ("available", asOf))))

/-- A position of an owner that a balance target can be about. -/
structure PositionOf (owner : String) (subjectRef : SubjectRef) : Prop where
  made : subjectRef = positionSubjectRef owner (refText subjectRef 1) (refText subjectRef 2)
  location : isSupportedLocationId (refText subjectRef 1) = true
  instrument : refText subjectRef 2 ≠ ""

/-- Positions of one owner are told apart by their keys. -/
lemma positionKey_inj {owner : String} {subjectRef other : SubjectRef} {asOf asOf' : Instant}
    (h : PositionOf owner subjectRef) (h' : PositionOf owner other)
    (hkey : positionKey subjectRef asOf = positionKey other asOf') :
    subjectRef = other ∧ asOf = asOf' := by
  simp only [positionKey, EmbeddingLike.apply_eq_iff_eq, Prod.mk.injEq, true_and] at hkey
  rcases hkey with ⟨hlocation, hinstrument, hasOf⟩
  rw [h.made, h'.made, hlocation, hinstrument]
  exact ⟨rfl, hasOf⟩

/-- The subject of a balance claim is the position of its owner, location and instrument. -/
lemma subjectRef_made {env : KernelEnvironment} {claimSet : ClaimSet} {claim : ClaimRecord}
    {subjectRef : SubjectRef} (h : subjectRefForBalanceClaim env claimSet claim = .ok subjectRef) :
    ∃ owner ∈ claimSet.claimRecords, owner.kind = .beneficialOwner ∧
      ∃ location ∈ claimSet.claimRecords, location.bundleId = claim.bundleId ∧
        location.claimId = claim.locationClaimRef ∧ ∃ instrumentId, instrumentId ≠ "" ∧
          subjectRef =
            positionSubjectRef owner.beneficialOwnerRef location.locationRef instrumentId := by
  unfold subjectRefForBalanceClaim at h
  dsimp only at h
  split at h
  · cases h
  · rename_i owner howner
    split at h
    · cases h
    · rename_i location hlocation
      have hownerMem := List.mem_filter.1 (List.mem_of_find?_eq_some howner)
      have hlocationMem := List.mem_filter.1 (List.mem_of_find?_eq_some hlocation)
      have hkind : owner.kind = .beneficialOwner := by simpa using List.find?_some howner
      have hid : location.claimId = claim.locationClaimRef := by
        simpa using List.find?_some hlocation
      refine ⟨owner, hownerMem.1, hkind, location, hlocationMem.1,
        of_decide_eq_true hlocationMem.2, hid, ?_⟩
      split at h
      · cases h
      · split at h
        · cases h
        · rename_i instrumentClaim _
          rcases except_bind_eq_ok.1 h with ⟨resolution, hresolution, h⟩
          cases resolution with
          | none => cases h
          | some instrument =>
              refine ⟨instrument.instrumentId, ?_, (Except.ok.inj h).symm⟩
              rcases except_bind_eq_ok.1 hresolution with ⟨_, _, hrest⟩
              rcases except_bind_eq_ok.1 hrest with ⟨_, _, hresolved⟩
              exact resolved_instrumentId hresolved

/-! ## Ordinary claims -/

/-- Accepted balance claims of one owner with supported locations, whole seconds and observations that
are present, at most one for each subject and instant. -/
structure OrdinaryClaims (env : KernelEnvironment) (claimSet : ClaimSet) (evidenceSet : EvidenceSet) :
    Prop where
  owner : ∀ claim ∈ claimSet.claimRecords, ∀ other ∈ claimSet.claimRecords,
    claim.kind = .beneficialOwner → other.kind = .beneficialOwner →
      claim.beneficialOwnerRef = other.beneficialOwnerRef
  location : ∀ claim ∈ acceptedBalanceClaims claimSet, ∀ item ∈ claimSet.claimRecords,
    item.bundleId = claim.bundleId → item.claimId = claim.locationClaimRef →
      isSupportedLocationId item.locationRef = true
  wholeSecond : ∀ claim ∈ acceptedBalanceClaims claimSet, ∀ asOf, claim.observedAt = some asOf →
    asOf.microsecond = 0
  observed : ∀ claim ∈ acceptedBalanceClaims claimSet, ∀ ref ∈ claim.observationRefs,
    ref ∈ validObservationRefs evidenceSet
  once : ((acceptedBalanceClaims claimSet).map (fun claim =>
    (subjectRefForBalanceClaim env claimSet claim, claim.observedAt))).Nodup

/-- What ordinary claims are once they have their subjects. -/
structure OrdinaryInputs (owner : String) (inputs : ReconciliationInputs)
    (observationRefs : List String) : Prop where
  balance : ∀ p ∈ inputs.claims, p.2.kind = .balance
  position : ∀ p ∈ inputs.claims, PositionOf owner p.1
  wholeSecond : ∀ p ∈ inputs.claims, ∀ asOf, p.2.observedAt = some asOf → asOf.microsecond = 0
  observed : ∀ p ∈ inputs.claims, ∀ ref ∈ p.2.observationRefs, ref ∈ observationRefs
  once : (inputs.claims.map (fun p => (p.1, p.2.observedAt))).Nodup

section

variable {env : KernelEnvironment} {economicFacts : EconomicFacts} {claimSet : ClaimSet}
variable {evidenceSet : EvidenceSet} {inputs : ReconciliationInputs}
variable {states : List ReconciliationState} {owner : String}

theorem ordinaryInputs (h : OrdinaryClaims env claimSet evidenceSet)
    (hinputs : reconciliationInputs env economicFacts claimSet = .ok inputs) :
    ∃ owner, OrdinaryInputs owner inputs (validObservationRefs evidenceSet) := by
  rcases claims_accepted hinputs with ⟨haccepted, hsubject⟩
  have hmem : ∀ p ∈ inputs.claims, p.2 ∈ acceptedBalanceClaims claimSet := fun p hp =>
    haccepted ▸ List.mem_map_of_mem hp
  have honce : (inputs.claims.map (fun p => (p.1, p.2.observedAt))).Nodup := by
    have hmap : (acceptedBalanceClaims claimSet).map (fun claim =>
        (subjectRefForBalanceClaim env claimSet claim, claim.observedAt)) =
          (inputs.claims.map (fun p => (p.1, p.2.observedAt))).map (fun q => (.ok q.1, q.2)) := by
      rw [← haccepted, List.map_map, List.map_map]
      refine List.map_congr_left ?_
      intro p hp
      simp only [Function.comp_def, hsubject p hp]
    exact List.Nodup.of_map _ (hmap ▸ h.once)
  -- the owner is that of the first claim, and of every other
  have hposition : ∃ owner, ∀ p ∈ inputs.claims, PositionOf owner p.1 := by
    have hmade : ∀ p ∈ inputs.claims, ∃ ownerClaim ∈ claimSet.claimRecords,
        ownerClaim.kind = .beneficialOwner ∧ PositionOf ownerClaim.beneficialOwnerRef p.1 := by
      intro p hp
      rcases subjectRef_made (hsubject p hp) with ⟨ownerClaim, hownerMem, hkind, location,
        hlocationMem, hbundle, hid, instrumentId, hinstrument, hsubjectRef⟩
      refine ⟨ownerClaim, hownerMem, hkind, ?_⟩
      rw [hsubjectRef]
      exact ⟨rfl, h.location p.2 (hmem p hp) location hlocationMem hbundle hid, hinstrument⟩
    cases hclaims : inputs.claims with
    | nil => exact ⟨"", fun p hp => absurd hp List.not_mem_nil⟩
    | cons first rest =>
        rcases hmade first (hclaims ▸ List.mem_cons_self) with ⟨ownerClaim, hownerMem, hkind, _⟩
        refine ⟨ownerClaim.beneficialOwnerRef, fun p hp => ?_⟩
        rcases hmade p (hclaims ▸ hp) with ⟨other, hotherMem, hotherKind, hposition⟩
        rw [h.owner ownerClaim hownerMem other hotherMem hkind hotherKind]
        exact hposition
  rcases hposition with ⟨owner, hposition⟩
  exact ⟨owner, claims_balance hinputs, hposition, fun p hp => h.wholeSecond p.2 (hmem p hp),
    fun p hp => h.observed p.2 (hmem p hp), honce⟩

/-! ## Targets -/

/-- What the target of a claim expects at its key. -/
def claimSnapshot (inputs : ReconciliationInputs) (p : SubjectRef × ClaimRecord) :
    Option (BalanceTargetMatchKey × Decimal) :=
  p.2.observedAt.map (fun asOf =>
    (positionKey p.1 asOf, expectedQuantity (inputs.legsOf p.1) asOf))

/-- What a target expects at its key. -/
def targetSnapshot (target : BalanceTargetRecord) : Option (BalanceTargetMatchKey × Decimal) :=
  match target.expectedValue with
  | .quantity value => some (positionKey target.subjectRef target.asOf, value.quantity)
  | _ => none

lemma targetSnapshot_target {segment : Segment} {claim : ClaimRecord} {asOf : Instant}
    (h : SegmentOf inputs segment.subjectRef segment) (hasOf : claim.observedAt = some asOf) :
    targetSnapshot (segment.target env claim) =
      claimSnapshot inputs (segment.subjectRef, claim) := by
  have hat : segment.asOf claim = asOf := by
    rw [Segment.asOf, hasOf, Option.getD_some]
  rw [claimSnapshot, hasOf, Option.map_some, ← h.legs, ← hat]
  rfl

/-- The targets are one for each claim. -/
theorem targets_perm (h : OrdinaryInputs owner inputs (validObservationRefs evidenceSet))
    {economicFactsRef : String}
    (hstates : statesFromInputs env economicFactsRef evidenceSet inputs = .ok states) :
    ((states.flatMap ReconciliationState.balanceTargetRecords).map targetSnapshot).Perm
      (inputs.claims.map (claimSnapshot inputs)) := by
  rcases statesFromInputs_ok hstates with ⟨segments, hsubjects, rfl, hof⟩
  have hsegment : ∀ segment ∈ segments,
      ((stateOf env economicFactsRef (validObservationRefs evidenceSet) inputs
        segment).balanceTargetRecords.map targetSnapshot).Perm
          ((inputs.claims.filter (fun p => p.1 = segment.subjectRef)).map
            (claimSnapshot inputs)) := by
    intro segment hsegment
    have htargets : (stateOf env economicFactsRef (validObservationRefs evidenceSet) inputs
        segment).balanceTargetRecords.Perm
          ((inputs.claimsOf segment.subjectRef).map (segment.target env)) :=
      (sortedOn_perm _ _).trans ((sortedOn_perm _ _).map _)
    refine (htargets.map targetSnapshot).trans (List.Perm.of_eq ?_)
    rw [ReconciliationInputs.claimsOf_eq, List.map_map, List.map_map]
    refine List.map_congr_left ?_
    intro p hp
    rcases List.mem_filter.1 hp with ⟨hmem, hsame⟩
    rcases ClaimRecord.balance_fields (h.balance p hmem) with ⟨_, ⟨asOf, hasOf⟩, _⟩
    have hsubject : p = (segment.subjectRef, p.2) := by
      rw [← of_decide_eq_true hsame]
    have htarget := @targetSnapshot_target env inputs segment p.2 asOf (hof segment hsegment) hasOf
    rw [← hsubject] at htarget
    exact htarget
  have hflat : ((segments.map (stateOf env economicFactsRef (validObservationRefs evidenceSet)
      inputs)).flatMap ReconciliationState.balanceTargetRecords).map targetSnapshot =
        segments.flatMap (fun segment =>
          (stateOf env economicFactsRef (validObservationRefs evidenceSet) inputs
            segment).balanceTargetRecords.map targetSnapshot) := by
    rw [List.flatMap_map, List.map_flatMap]
  rw [hflat]
  refine (List.Perm.flatMap_left segments hsegment).trans ?_
  have hkeys : (segments.flatMap (fun segment =>
      (inputs.claims.filter (fun p => p.1 = segment.subjectRef)).map (claimSnapshot inputs))) =
        ((inputs.allSubjects env).flatMap (fun subjectRef =>
          inputs.claims.filter (fun p => p.1 = subjectRef))).map (claimSnapshot inputs) := by
    rw [← hsubjects, List.flatMap_map, List.map_flatMap]
  rw [hkeys]
  refine (flatMap_filter_perm (inputs.allSubjects_nodup env) _ ?_).map _
  intro p hp
  exact ReconciliationInputs.mem_allSubjects.2 (Or.inr ⟨p, hp, rfl⟩)

/-! ## Certified positions -/

lemma asOf_of_targetId {segment : Segment} {claim d : ClaimRecord}
    (h : segment.targetId env d = segment.targetId env claim) :
    (segment.asOf d).timestampText = (segment.asOf claim).timestampText := by
  have hitems := Json.itemChars_inj (String.ofList_injective h)
  have hchars := (List.cons.inj (List.cons.inj (List.cons.inj (List.cons.inj hitems).2).2).2).1
  rw [Json.chars, Json.chars] at hchars
  exact (@Json.strChars_append_inj _ _ [] [] (by simpa using hchars)).1

/-- An ordinary claim is the only one with its target id. -/
lemma decisive_own (h : OrdinaryInputs owner inputs (validObservationRefs evidenceSet))
    {p : Segment × ClaimRecord} (hmem : p.2 ∈ inputs.claimsOf p.1.subjectRef) :
    p.1.decisive env (p.1.orderedClaims (inputs.claimsOf p.1.subjectRef)) p.2 = p.2 := by
  set d := p.1.decisive env (p.1.orderedClaims (inputs.claimsOf p.1.subjectRef)) p.2 with hd
  have hdmem : (p.1.subjectRef, d) ∈ inputs.claims :=
    ReconciliationInputs.mem_claimsOf.1 (decisive_mem_claimsOf p.1 hmem)
  have hclaim : (p.1.subjectRef, p.2) ∈ inputs.claims := ReconciliationInputs.mem_claimsOf.1 hmem
  rcases ClaimRecord.balance_fields (h.balance _ hdmem) with ⟨_, ⟨asOf, hasOf⟩, _⟩
  rcases ClaimRecord.balance_fields (h.balance _ hclaim) with ⟨_, ⟨asOf', hasOf'⟩, _⟩
  have hordered : p.2 ∈ p.1.orderedClaims (inputs.claimsOf p.1.subjectRef) := mem_sortedOn.2 hmem
  have htext := asOf_of_targetId (p.1.decisive_mem env hordered).2
  rw [← hd, Segment.asOf, Segment.asOf, hasOf, hasOf', Option.getD_some, Option.getD_some] at htext
  -- whole seconds of one text are one instant
  rcases (Instant.timestampText_eq_iff _ _).1 htext with ⟨hyear, hmonth, hday, hhour, hminute, hsecond⟩
  have hmicro : asOf.microsecond = asOf'.microsecond :=
    (h.wholeSecond _ hdmem asOf hasOf).trans (h.wholeSecond _ hclaim asOf' hasOf').symm
  have hsame : asOf = asOf' := Instant.ext hyear hmonth hday hhour hminute hsecond hmicro
  have hpair := List.inj_on_of_nodup_map h.once hdmem hclaim (by rw [hasOf, hasOf', hsame])
  exact (Prod.mk.inj hpair).2

/-- What a position states at its key. -/
def positionReference (position : Position) : Option (BalanceTargetMatchKey × Decimal) :=
  match position.2.2 with
  | .quantity value => some (positionKey position.2.1 position.1, value.quantity)
  | _ => none

/-- What the row of a ready claim certifies is what its target expects. -/
lemma positionReference_row (h : OrdinaryInputs owner inputs (validObservationRefs evidenceSet))
    {economicFactsRef : String} {p : Segment × ClaimRecord}
    (hready : ReadyClaim inputs (validObservationRefs evidenceSet) p) :
    (rowPosition (readyClaimRow env economicFactsRef (validObservationRefs evidenceSet) inputs
      p)).bind positionReference = claimSnapshot inputs (p.1.subjectRef, p.2) := by
  rcases @ReadyClaim.rowPosition env inputs economicFactsRef _ h.balance p hready with
    ⟨asOf, quantity, d, hd, hasOf, hquantity, _, hposition⟩
  have hown : d = p.2 := by
    rw [← (hready.segmentOf.decisive hready.mem d).1 hd]
    exact decisive_own h hready.mem
  rw [hown] at hquantity
  have hexpected : quantity = expectedQuantity (inputs.legsOf p.1.subjectRef) asOf := by
    have hstates := (Bool.and_eq_true _ _ ▸ hready.ready :
      inputs.statesExpected p.1.subjectRef p.2 = true ∧ _).1
    simpa [ReconciliationInputs.statesExpected, hasOf, hquantity] using hstates
  rw [hposition, claimSnapshot, hasOf, hexpected]
  rfl

/-- The certified positions are those of the ready claims. -/
theorem certified_perm (h : OrdinaryInputs owner inputs (validObservationRefs evidenceSet))
    (hinputs : reconciliationInputs env economicFacts claimSet = .ok inputs)
    (hstates : buildReconciliationStates env economicFacts claimSet evidenceSet = .ok states)
    {checkpoints : List Checkpoint} (hok : buildCheckpoints env states = .ok checkpoints) :
    ((certifiedPositions checkpoints).map positionReference).Perm
      ((inputs.claims.filter (fun p =>
        inputs.isReady (validObservationRefs evidenceSet) p.1 p.2)).map (claimSnapshot inputs)) := by
  rcases readyRows_spec hinputs (statesFromInputs_of_build hinputs hstates) with
    ⟨ready, hrows, hperm, hready⟩
  have hpositions := (((buildCheckpoints_spec hrows).2 checkpoints hok).1).map
    (fun position => position.bind positionReference)
  have hleft : ((certifiedPositions checkpoints).map some).map
      (fun position => position.bind positionReference) =
        (certifiedPositions checkpoints).map positionReference := by
    rw [List.map_map]
    rfl
  rw [hleft] at hpositions
  refine hpositions.trans ((List.Perm.of_eq ?_).trans (hperm.map (claimSnapshot inputs)))
  rw [List.map_map, List.map_map, List.map_map]
  refine List.map_congr_left ?_
  intro p hp
  exact positionReference_row h (hready p hp)

/-- A claim is ready exactly where its target matches and it cites an observation. -/
lemma ready_iff_matched (h : OrdinaryInputs owner inputs (validObservationRefs evidenceSet))
    {p : SubjectRef × ClaimRecord} (hmem : p ∈ inputs.claims) :
    inputs.isReady (validObservationRefs evidenceSet) p.1 p.2 = true ↔
      inputs.statesExpected p.1 p.2 = true ∧ p.2.observationRefs ≠ [] := by
  rw [ReconciliationInputs.isReady, Bool.and_eq_true, List.any_eq_true]
  refine and_congr_right (fun _ => ?_)
  constructor
  · rintro ⟨ref, href, _⟩ hnil
    rw [hnil] at href
    cases href
  · intro hne
    rcases List.exists_mem_of_ne_nil _ hne with ⟨ref, href⟩
    exact ⟨ref, href, decide_eq_true (h.observed p hmem ref href)⟩

end

end Kernel
end Tallylot
