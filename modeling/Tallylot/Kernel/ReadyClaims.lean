import Tallylot.Kernel.Certification

/-!
# ReadyClaims — the ready rows of the reconciliation states

The state of a subject has one ready row for each ready claim.  The row looks the target up by its
id, and finds the target of the *decisive* claim: the last claim of the subject, in the order of
observation, that has the same target id.
-/

namespace Tallylot
namespace Kernel

open Data Domain

/-! ## Ready claims -/

namespace ReconciliationInputs

variable (inputs : ReconciliationInputs)

/-- The claim states the sum of the legs of its subject up to its instant. -/
def statesExpected (subjectRef : SubjectRef) (claim : ClaimRecord) : Bool :=
  match claim.observedAt, claim.quantity with
  | some asOf, some quantity => quantity = expectedQuantity (inputs.legsOf subjectRef) asOf
  | _, _ => false

/-- The claim states the expected quantity and cites an observation that is present. -/
def isReady (observationRefs : List String) (subjectRef : SubjectRef) (claim : ClaimRecord) :
    Bool :=
  inputs.statesExpected subjectRef claim &&
    claim.observationRefs.any (fun ref => ref ∈ observationRefs)

/-- What a claim states. -/
def claimPosition (subjectRef : SubjectRef) (claim : ClaimRecord) : Option Position := do
  let asOf ← claim.observedAt
  let quantity ← claim.quantity
  some (asOf, subjectRef, .quantity ⟨quantity, subjectRef⟩)

/-- The positions of the ready claims, one for each claim. -/
def readyPositions (observationRefs : List String) : List Position :=
  (inputs.claims.filter (fun p => inputs.isReady observationRefs p.1 p.2)).filterMap (fun p =>
    claimPosition p.1 p.2)

/-- `decisive` is the last claim of the subject with the target id of `claim`. -/
def Decisive (env : KernelEnvironment) (subjectRef : SubjectRef) (claim decisive : ClaimRecord) :
    Prop :=
  ∃ segment,
    segmentForSubject subjectRef (inputs.legsOf subjectRef) (inputs.claimsOf subjectRef) =
      .ok segment ∧
    ((segment.orderedClaims (inputs.claimsOf subjectRef)).filter (fun d =>
      segment.targetId env d = segment.targetId env claim)).getLast? = some decisive

end ReconciliationInputs

/-- The claims of the inputs are the accepted balance claims, with their subjects. -/
lemma claims_accepted {env : KernelEnvironment} {economicFacts : EconomicFacts}
    {claimSet : ClaimSet} {inputs : ReconciliationInputs}
    (hinputs : reconciliationInputs env economicFacts claimSet = .ok inputs) :
    inputs.claims.map Prod.snd = acceptedBalanceClaims claimSet ∧
      ∀ p ∈ inputs.claims, subjectRefForBalanceClaim env claimSet p.2 = .ok p.1 := by
  cases hlegs : timedLegs economicFacts with
  | error e => simp [reconciliationInputs, hlegs, bind, Except.bind] at hinputs
  | ok legs =>
      simp only [reconciliationInputs, hlegs, bind, Except.bind] at hinputs
      split at hinputs
      · cases hinputs
      · rename_i claims hclaims
        cases hinputs
        rcases mapM_ok_pairs hclaims with ⟨pairs, hfst, hsnd, hpairs⟩
        have hstep : ∀ q ∈ pairs,
            q.2.2 = q.1 ∧ subjectRefForBalanceClaim env claimSet q.1 = .ok q.2.1 := by
          intro q hq
          have hmade := hpairs q hq
          split at hmade
          · cases hmade
          · rename_i subjectRef hsubject
            rw [← Except.ok.inj hmade]
            exact ⟨rfl, hsubject⟩
        constructor
        · rw [← hsnd, ← hfst, List.map_map]
          exact List.map_congr_left (fun q hq => (hstep q hq).1)
        · intro p hp
          rw [← hsnd] at hp
          rcases List.mem_map.1 hp with ⟨q, hq, rfl⟩
          rw [(hstep q hq).1]
          exact (hstep q hq).2

lemma claims_balance {env : KernelEnvironment} {economicFacts : EconomicFacts}
    {claimSet : ClaimSet} {inputs : ReconciliationInputs}
    (hinputs : reconciliationInputs env economicFacts claimSet = .ok inputs) :
    ∀ p ∈ inputs.claims, p.2.kind = .balance := by
  intro p hp
  have hmem : p.2 ∈ acceptedBalanceClaims claimSet :=
    (claims_accepted hinputs).1 ▸ List.mem_map_of_mem hp
  have hfilter := (List.mem_filter.1 hmem).2
  simp only [Bool.and_eq_true, decide_eq_true_eq] at hfilter
  exact hfilter.1

/-! ## One state -/

namespace Segment

variable (env : KernelEnvironment) (segment : Segment)

lemma filter_targets (claims : List ClaimRecord) (targetId : String) :
    (claims.map (segment.target env)).filter (fun t => t.targetId = targetId) =
      (claims.filter (fun d => segment.targetId env d = targetId)).map (segment.target env) := by
  rw [List.filter_map]
  rfl

/-- The last of the ordered claims with the same target id. -/
def decisive (claims : List ClaimRecord) (claim : ClaimRecord) : ClaimRecord :=
  ((claims.filter (fun d => segment.targetId env d = segment.targetId env claim)).getLast?).getD
    claim

lemma decisive_eq_some {claims : List ClaimRecord} {claim : ClaimRecord} (h : claim ∈ claims) :
    (claims.filter (fun d => segment.targetId env d = segment.targetId env claim)).getLast? =
      some (segment.decisive env claims claim) := by
  have hmem : claim ∈
      claims.filter (fun d => segment.targetId env d = segment.targetId env claim) := by
    simp [h]
  unfold decisive
  cases hlast : (claims.filter (fun d =>
      segment.targetId env d = segment.targetId env claim)).getLast? with
  | none => exact absurd (List.getLast?_eq_none_iff.1 hlast) (List.ne_nil_of_mem hmem)
  | some d => rfl

lemma decisive_mem {claims : List ClaimRecord} {claim : ClaimRecord} (h : claim ∈ claims) :
    segment.decisive env claims claim ∈ claims ∧
      segment.targetId env (segment.decisive env claims claim) = segment.targetId env claim := by
  have hlast := List.mem_of_getLast? (segment.decisive_eq_some env h)
  simpa using List.mem_filter.1 hlast

/-- Claims of one instant share their target. -/
lemma decisive_congr {claims : List ClaimRecord} {claim claim' : ClaimRecord}
    (h : claim ∈ claims) (h' : claim' ∈ claims) (hasOf : segment.asOf claim = segment.asOf claim') :
    segment.decisive env claims claim = segment.decisive env claims claim' := by
  have hid : segment.targetId env claim = segment.targetId env claim' := by
    simp [targetId, expectedValue, hasOf]
  have hlast := segment.decisive_eq_some env h
  rw [hid, segment.decisive_eq_some env h'] at hlast
  exact (Option.some.inj hlast).symm

/-- The target that a ready row finds is the one of the decisive claim. -/
lemma targetsById_state {claims : List ClaimRecord} {claim : ClaimRecord} (economicFactsRef : String)
    (observationRefs : List String)
    (hsorted : claims.Pairwise (fun a b => segment.asOf a ≤ segment.asOf b))
    (h : claim ∈ claims) :
    (targetsById (segment.state env economicFactsRef observationRefs claims)).get?
      (segment.targetId env claim) = some (segment.target env (segment.decisive env claims claim)) := by
  have hcanonical :
      (canonicalBalanceTargetRecords (claims.map (segment.target env))).filter
        (fun t => t.targetId = segment.targetId env claim) =
      (claims.map (segment.target env)).filter
        (fun t => t.targetId = segment.targetId env claim) := by
    refine filter_sortedOn_of_pairwise ?_
    rw [filter_targets, List.pairwise_map]
    refine (hsorted.filter _).imp_of_mem ?_
    intro a b ha hb hab
    have hida : segment.targetId env a = segment.targetId env claim := by
      simpa using (List.mem_filter.1 ha).2
    have hidb : segment.targetId env b = segment.targetId env claim := by
      simpa using (List.mem_filter.1 hb).2
    have hle : (toLex (segment.asOf a, segment.targetId env a) : Instant ×ₗ String) ≤
        toLex (segment.asOf b, segment.targetId env b) := by
      rw [hida, hidb]
      rcases lt_or_eq_of_le hab with hlt | heq
      · exact Prod.Lex.le_iff.2 (Or.inl hlt)
      · exact Prod.Lex.le_iff.2 (Or.inr ⟨heq, le_rfl⟩)
    exact Prod.Lex.le_iff.2 (Or.inr ⟨rfl, hle⟩)
  rw [targetsById, Dict.get?_ofList, List.filter_map]
  simp only [state, Function.comp_def]
  rw [hcanonical, filter_targets, List.map_map, List.getLast?_map,
    segment.decisive_eq_some env h]
  rfl

/-- A proposal is ready when its claim states the expected quantity and cites an observation. -/
lemma proposal_ready_iff {observationRefs : List String} {claim : ClaimRecord} :
    (segment.proposal env observationRefs claim).status = .ready ↔
      claim.quantity = some (expectedQuantity segment.legs (segment.asOf claim)) ∧
        ∃ ref ∈ claim.observationRefs, ref ∈ observationRefs := by
  have hrefs : evidenceRefs observationRefs claim = [] ↔
      ¬∃ ref ∈ claim.observationRefs, ref ∈ observationRefs := by
    rw [← List.length_eq_zero_iff, evidenceRefs, length_sortedOn, List.length_eq_zero_iff]
    simp
  cases hq : claim.quantity with
  | none => simp [proposal, proposalStatus, target, observedValue, hq]
  | some quantity =>
      by_cases heq : quantity = expectedQuantity segment.legs (segment.asOf claim)
      · by_cases hnil : evidenceRefs observationRefs claim = []
        · simp [proposal, proposalStatus, target, observedValue, expectedValue, hq, heq, hnil,
            hrefs.1 hnil]
        · have hex : ∃ ref ∈ claim.observationRefs, ref ∈ observationRefs := by
            by_contra hno
            exact hnil (hrefs.2 hno)
          simp [proposal, proposalStatus, target, observedValue, expectedValue, hq, heq, hnil,
            hex]
      · simp [proposal, proposalStatus, target, observedValue, expectedValue, hq, heq]

/-- The canonical order of the proposals. -/
def proposalOrder (observationRefs : List String) (claim : ClaimRecord) :
    Instant ×ₗ String ×ₗ String :=
  toLex (segment.asOf claim, toLex (segment.segmentId,
    (segment.proposal env observationRefs claim).proposalId))

/-- The row of a ready claim. -/
def row (economicFactsRef : String) (observationRefs : List String) (claims : List ClaimRecord)
    (claim : ClaimRecord) : ReadyCheckpointRow where
  state := segment.state env economicFactsRef observationRefs claims
  proposal := segment.proposal env observationRefs claim
  segment := segment.continuityRecord claims
  target := segment.target env (segment.decisive env claims claim)

lemma readyRow_proposal {claims : List ClaimRecord} {claim : ClaimRecord}
    (economicFactsRef : String) (observationRefs : List String)
    (hsorted : claims.Pairwise (fun a b => segment.asOf a ≤ segment.asOf b))
    (h : claim ∈ claims) :
    readyRow env (segment.state env economicFactsRef observationRefs claims)
      (segment.continuityRecord claims) (segment.proposal env observationRefs claim) =
        .ok (segment.row env economicFactsRef observationRefs claims claim) := by
  have hget := segment.targetsById_state env economicFactsRef observationRefs hsorted h
  have hrefs : (segment.proposal env observationRefs claim).targetRefs.head? =
      some (segment.targetId env claim) := rfl
  simp only [readyRow, hrefs, hget]
  rfl

/-- The ready rows of a state are the rows of its ready claims. -/
theorem readyRowsOfState_state {claims : List ClaimRecord} (economicFactsRef : String)
    (observationRefs : List String)
    (hsorted : claims.Pairwise (fun a b => segment.asOf a ≤ segment.asOf b)) :
    ∃ ready : List ClaimRecord, ready.Perm
        (claims.filter (fun c =>
          (segment.proposal env observationRefs c).status = .ready)) ∧
      readyRowsOfState env (segment.state env economicFactsRef observationRefs claims) =
        .ok (ready.map (segment.row env economicFactsRef observationRefs claims)) := by
  have hcanonical :
      canonicalCheckpointProposalRecords
        (claims.map (segment.proposal env observationRefs)) =
      (sortedOn (segment.proposalOrder env observationRefs) claims).map
        (segment.proposal env observationRefs) := by
    rw [canonicalCheckpointProposalRecords, sortedOn_map]
    rfl
  refine ⟨(sortedOn (segment.proposalOrder env observationRefs) claims).filter
    (fun c => (segment.proposal env observationRefs c).status = .ready),
    (sortedOn_perm _ claims).filter _, ?_⟩
  have hrows : readyRowsOfState env (segment.state env economicFactsRef observationRefs claims) =
      ((segment.state env economicFactsRef observationRefs
        claims).checkpointProposalRecords.filter (fun p => p.status = .ready)).mapM
          (readyRow env (segment.state env economicFactsRef observationRefs claims)
            (segment.continuityRecord claims)) := rfl
  have hproposals : (segment.state env economicFactsRef observationRefs
      claims).checkpointProposalRecords = _ := hcanonical
  rw [hrows, hproposals, List.filter_map]
  refine mapM_ok_map ?_
  intro c hc
  have hmem : c ∈ claims := mem_sortedOn.1 (List.mem_filter.1 hc).1
  exact segment.readyRow_proposal env economicFactsRef observationRefs hsorted hmem

end Segment

/-! ## All states -/

/-- The segment of a subject and what it was made from. -/
structure SegmentOf (inputs : ReconciliationInputs) (subjectRef : SubjectRef) (segment : Segment) :
    Prop where
  made :
    segmentForSubject subjectRef (inputs.legsOf subjectRef) (inputs.claimsOf subjectRef) =
      .ok segment
  subject : segment.subjectRef = subjectRef
  legs : segment.legs = inputs.legsOf subjectRef

lemma segmentOf_made {inputs : ReconciliationInputs} {subjectRef : SubjectRef} {segment : Segment}
    (h : segmentForSubject subjectRef (inputs.legsOf subjectRef) (inputs.claimsOf subjectRef) =
      .ok segment) : SegmentOf inputs subjectRef segment := by
  cases hbounds : segmentBounds (inputs.legsOf subjectRef) (inputs.claimsOf subjectRef) with
  | error e => simp [segmentForSubject, hbounds, bind, Except.bind] at h
  | ok bounds =>
      have hmade := h
      simp only [segmentForSubject, hbounds, bind, Except.bind, Except.ok.injEq] at h
      refine ⟨hmade, ?_, ?_⟩
      · rw [← h]
      · rw [← h]

/-- The state of one subject. -/
def stateOf (env : KernelEnvironment) (economicFactsRef : String) (observationRefs : List String)
    (inputs : ReconciliationInputs) (segment : Segment) : ReconciliationState :=
  segment.state env economicFactsRef observationRefs
    (segment.orderedClaims (inputs.claimsOf segment.subjectRef))

/-- The states are the states of the segments of all subjects. -/
theorem statesFromInputs_ok {env : KernelEnvironment} {economicFactsRef : String}
    {evidenceSet : EvidenceSet} {inputs : ReconciliationInputs} {states : List ReconciliationState}
    (h : statesFromInputs env economicFactsRef evidenceSet inputs = .ok states) :
    ∃ segments : List Segment,
      segments.map Segment.subjectRef = inputs.allSubjects env ∧
      states =
        segments.map (stateOf env economicFactsRef (validObservationRefs evidenceSet) inputs) ∧
      ∀ segment ∈ segments, SegmentOf inputs segment.subjectRef segment := by
  rcases mapM_ok_pairs h with ⟨pairs, hfst, hsnd, hpairs⟩
  have hpair : ∀ p ∈ pairs, ∃ segment, SegmentOf inputs p.1 segment ∧
      p.2 = stateOf env economicFactsRef (validObservationRefs evidenceSet) inputs segment := by
    intro p hp
    have hstate := hpairs p hp
    unfold stateForSubject at hstate
    cases hsegment : segmentForSubject p.1 (inputs.legsOf p.1) (inputs.claimsOf p.1) with
    | error e => simp [hsegment, bind, Except.bind] at hstate
    | ok segment =>
        have hof := segmentOf_made hsegment
        refine ⟨segment, hof, ?_⟩
        simp only [hsegment, bind, Except.bind, Except.ok.injEq] at hstate
        rw [← hstate, stateOf, hof.subject]
  clear h hpairs
  rw [← hsnd, ← hfst]
  clear hfst hsnd
  induction pairs with
  | nil => exact ⟨[], rfl, rfl, by simp⟩
  | cons p pairs ih =>
      rcases hpair p List.mem_cons_self with ⟨segment, hof, hstate⟩
      rcases ih (fun q hq => hpair q (List.mem_cons_of_mem _ hq)) with
        ⟨segments, hsubjects, hstates, hall⟩
      refine ⟨segment :: segments, ?_, ?_, ?_⟩
      · simp [hsubjects, hof.subject]
      · simp [hstates, hstate]
      · intro s hs
        rcases List.mem_cons.1 hs with rfl | hs
        · rw [hof.subject]
          exact hof
        · exact hall s hs

section

variable {env : KernelEnvironment} {economicFacts : EconomicFacts} {claimSet : ClaimSet}
variable {evidenceSet : EvidenceSet} {inputs : ReconciliationInputs}
variable {states : List ReconciliationState}

/-- In the segment of its subject, a claim's proposal is ready exactly when the claim is. -/
lemma SegmentOf.ready_iff {subjectRef : SubjectRef} {segment : Segment} {claim : ClaimRecord}
    (h : SegmentOf inputs subjectRef segment) (observationRefs : List String)
    (hkind : claim.kind = .balance) :
    (segment.proposal env observationRefs claim).status = .ready ↔
      inputs.isReady observationRefs subjectRef claim = true := by
  rcases claim.balance_fields hkind with ⟨⟨quantity, hq⟩, ⟨asOf, ht⟩, _⟩
  rw [segment.proposal_ready_iff, h.legs]
  simp [ReconciliationInputs.isReady, ReconciliationInputs.statesExpected, Segment.asOf, hq, ht]

/-- A decisive claim of a segment is decisive for the inputs. -/
lemma SegmentOf.decisive {subjectRef : SubjectRef} {segment : Segment} {claim : ClaimRecord}
    (h : SegmentOf inputs subjectRef segment) (hclaim : claim ∈ inputs.claimsOf subjectRef)
    (d : ClaimRecord) :
    inputs.Decisive env subjectRef claim d ↔
      segment.decisive env (segment.orderedClaims (inputs.claimsOf subjectRef)) claim = d := by
  have hmem : claim ∈ segment.orderedClaims (inputs.claimsOf subjectRef) := mem_sortedOn.2 hclaim
  have hlast := segment.decisive_eq_some env hmem
  constructor
  · rintro ⟨segment', hmade, hd⟩
    have hsame : segment' = segment := Except.ok.inj (hmade.symm.trans h.made)
    subst hsame
    exact Option.some.inj (hlast.symm.trans hd)
  · rintro rfl
    exact ⟨segment, h.made, hlast⟩

/-- The decisive claim is a claim of the same subject. -/
lemma decisive_mem_claimsOf (segment : Segment) {subjectRef : SubjectRef} {claim : ClaimRecord}
    (hclaim : claim ∈ inputs.claimsOf subjectRef) :
    segment.decisive env (segment.orderedClaims (inputs.claimsOf subjectRef)) claim ∈
      inputs.claimsOf subjectRef :=
  mem_sortedOn.1 (segment.decisive_mem env (mem_sortedOn.2 hclaim)).1

/-- A ready claim with the segment of its subject. -/
structure ReadyClaim (inputs : ReconciliationInputs) (observationRefs : List String)
    (p : Segment × ClaimRecord) : Prop where
  segmentOf : SegmentOf inputs p.1.subjectRef p.1
  mem : p.2 ∈ inputs.claimsOf p.1.subjectRef
  ready : inputs.isReady observationRefs p.1.subjectRef p.2 = true

/-- The row of a ready claim. -/
def readyClaimRow (env : KernelEnvironment) (economicFactsRef : String)
    (observationRefs : List String) (inputs : ReconciliationInputs) (p : Segment × ClaimRecord) :
    ReadyCheckpointRow :=
  p.1.row env economicFactsRef observationRefs
    (p.1.orderedClaims (inputs.claimsOf p.1.subjectRef)) p.2

lemma filter_pairs {κ α : Type} [DecidableEq κ] (P : κ → α → Bool) (k : κ) (xs : List (κ × α)) :
    (xs.filter (fun p => P p.1 p.2)).filter (fun p => p.1 = k) =
      (((xs.filter (fun p => p.1 = k)).map Prod.snd).filter (P k)).map (fun a => (k, a)) := by
  induction xs with
  | nil => rfl
  | cons p xs ih =>
      obtain ⟨k', a⟩ := p
      by_cases hk : k' = k
      · subst hk
        by_cases hp : P k' a = true
        · simp [hp, ih]
        · simp [hp, ih]
      · by_cases hp : P k' a = true
        · simp [hk, hp, ih]
        · simp [hk, hp, ih]

/-- The ready rows of the states of some segments are the rows of their ready claims. -/
lemma readyRows_segments {economicFactsRef : String} {observationRefs : List String}
    (hbalance : ∀ p ∈ inputs.claims, p.2.kind = .balance) :
    ∀ segments : List Segment,
      (∀ segment ∈ segments, SegmentOf inputs segment.subjectRef segment) →
      ∃ ready : List (Segment × ClaimRecord),
        readyRows env (segments.map (stateOf env economicFactsRef observationRefs inputs)) =
          .ok (ready.map (readyClaimRow env economicFactsRef observationRefs inputs)) ∧
        (ready.map (fun p => (p.1.subjectRef, p.2))).Perm
          ((segments.map Segment.subjectRef).flatMap (fun s =>
            (inputs.claims.filter (fun p => inputs.isReady observationRefs p.1 p.2)).filter
              (fun p => p.1 = s))) ∧
        ∀ p ∈ ready, ReadyClaim inputs observationRefs p := by
  intro segments
  induction segments with
  | nil =>
      intro _
      exact ⟨[], rfl, by simp, by simp⟩
  | cons segment segments ih =>
      intro hof
      have hsegment := hof segment List.mem_cons_self
      rcases ih (fun s hs => hof s (List.mem_cons_of_mem _ hs)) with
        ⟨ready, hrows, hperm, hready⟩
      have hsorted : (segment.orderedClaims
          (inputs.claimsOf segment.subjectRef)).Pairwise
            (fun a b => segment.asOf a ≤ segment.asOf b) := pairwise_sortedOn _ _
      rcases segment.readyRowsOfState_state env economicFactsRef observationRefs hsorted with
        ⟨own, hown, hownrows⟩
      have hmemown : ∀ c ∈ own, c ∈ inputs.claimsOf segment.subjectRef ∧
          inputs.isReady observationRefs segment.subjectRef c = true := by
        intro c hc
        rcases List.mem_filter.1 (hown.mem_iff.1 hc) with ⟨hmem, hstatus⟩
        have hmem' : c ∈ inputs.claimsOf segment.subjectRef := mem_sortedOn.1 hmem
        refine ⟨hmem', (hsegment.ready_iff observationRefs ?_).1 (by simpa using hstatus)⟩
        exact hbalance _ (ReconciliationInputs.mem_claimsOf.1 hmem')
      refine ⟨own.map (fun c => (segment, c)) ++ ready, ?_, ?_, ?_⟩
      · unfold readyRows at hrows ⊢
        cases htail : (segments.map (stateOf env economicFactsRef observationRefs inputs)).mapM
            (readyRowsOfState env) with
        | error e => simp [htail, bind, Except.bind] at hrows
        | ok rows =>
            simp only [htail, bind, Except.bind, Except.ok.injEq] at hrows
            have hhead : readyRowsOfState env
                (stateOf env economicFactsRef observationRefs inputs segment) = _ := hownrows
            simp only [List.map_cons, List.mapM_cons, hhead, htail, bind, Except.bind, pure,
              Except.pure, List.flatten_cons, hrows, List.map_append, List.map_map]
            rfl
      · rw [List.map_append, List.map_cons, List.flatMap_cons]
        refine List.Perm.append ?_ hperm
        have hclaims : (inputs.claims.filter (fun p =>
            inputs.isReady observationRefs p.1 p.2)).filter (fun p => p.1 = segment.subjectRef) =
            ((inputs.claimsOf segment.subjectRef).filter (fun c =>
              inputs.isReady observationRefs segment.subjectRef c)).map
                (fun c => (segment.subjectRef, c)) := by
          rw [ReconciliationInputs.claimsOf_eq]
          exact filter_pairs _ _ _
        rw [hclaims, List.map_map]
        refine List.Perm.map _ (hown.trans (List.Perm.trans ?_
          ((sortedOn_perm segment.asOf _).filter _)))
        refine List.Perm.of_eq (List.filter_congr ?_)
        intro c hc
        have hmem : c ∈ inputs.claimsOf segment.subjectRef := mem_sortedOn.1 hc
        have hiff : (segment.proposal env observationRefs c).status = .ready ↔ _ :=
          hsegment.ready_iff observationRefs
            (hbalance _ (ReconciliationInputs.mem_claimsOf.1 hmem))
        by_cases hr : inputs.isReady observationRefs segment.subjectRef c = true
        · simp [hr, hiff.2 hr]
        · simp [hr, mt hiff.1 hr]
      · intro p hp
        rcases List.mem_append.1 hp with hp | hp
        · rcases List.mem_map.1 hp with ⟨c, hc, rfl⟩
          exact ⟨hsegment, (hmemown c hc).1, (hmemown c hc).2⟩
        · exact hready p hp

/-- The ready rows of the states are the rows of the ready claims, each claim once. -/
theorem readyRows_spec (hinputs : reconciliationInputs env economicFacts claimSet = .ok inputs)
    (hstates : statesFromInputs env economicFacts.economicFactsId evidenceSet inputs = .ok states) :
    ∃ ready : List (Segment × ClaimRecord),
      readyRows env states =
        .ok (ready.map (readyClaimRow env economicFacts.economicFactsId
          (validObservationRefs evidenceSet) inputs)) ∧
      (ready.map (fun p => (p.1.subjectRef, p.2))).Perm
        (inputs.claims.filter (fun p =>
          inputs.isReady (validObservationRefs evidenceSet) p.1 p.2)) ∧
      ∀ p ∈ ready, ReadyClaim inputs (validObservationRefs evidenceSet) p := by
  rcases statesFromInputs_ok hstates with ⟨segments, hsubjects, rfl, hof⟩
  rcases readyRows_segments (claims_balance hinputs) segments hof with
    ⟨ready, hrows, hperm, hready⟩
  refine ⟨ready, hrows, hperm.trans ?_, hready⟩
  rw [hsubjects]
  refine flatMap_filter_perm (inputs.allSubjects_nodup env) _ ?_
  intro p hp
  exact ReconciliationInputs.mem_allSubjects.2 (Or.inr ⟨p, (List.mem_filter.1 hp).1, rfl⟩)

/-! ## What a ready row certifies -/

lemma claim_fields (hbalance : ∀ p ∈ inputs.claims, p.2.kind = .balance) {subjectRef : SubjectRef}
    {claim : ClaimRecord} (h : claim ∈ inputs.claimsOf subjectRef) :
    (∃ quantity, claim.quantity = some quantity) ∧ ∃ asOf, claim.observedAt = some asOf := by
  have hfields := ClaimRecord.balance_fields (hbalance _ (ReconciliationInputs.mem_claimsOf.1 h))
  exact ⟨hfields.1, hfields.2.1⟩

/-- The row of a ready claim holds the value of its decisive claim, at the claim's own instant. -/
lemma ReadyClaim.rowPosition {economicFactsRef : String} {observationRefs : List String}
    (hbalance : ∀ p ∈ inputs.claims, p.2.kind = .balance) {p : Segment × ClaimRecord}
    (h : ReadyClaim inputs observationRefs p) :
    ∃ asOf quantity d, inputs.Decisive env p.1.subjectRef p.2 d ∧ p.2.observedAt = some asOf ∧
      d.quantity = some quantity ∧ (p.1.subjectRef, d) ∈ inputs.claims ∧
      Kernel.rowPosition (readyClaimRow env economicFactsRef observationRefs inputs p) =
        some (asOf, p.1.subjectRef, .quantity ⟨quantity, p.1.subjectRef⟩) := by
  have hdmem := @decisive_mem_claimsOf env inputs p.1 p.1.subjectRef p.2 h.mem
  rcases claim_fields hbalance h.mem with ⟨_, asOf, hasOf⟩
  rcases claim_fields hbalance hdmem with ⟨⟨quantity, hquantity⟩, _⟩
  refine ⟨asOf, quantity, _, (h.segmentOf.decisive h.mem _).2 rfl, hasOf, hquantity,
    ReconciliationInputs.mem_claimsOf.1 hdmem, ?_⟩
  simp [Kernel.rowPosition, readyClaimRow, Segment.row, Segment.target, Segment.observedValue,
    hquantity, Segment.proposal, Segment.asOf, hasOf]

/-- The row of a ready claim is certifiable when its decisive claim states what is expected. -/
lemma ReadyClaim.certifiable_iff {economicFactsRef : String} {observationRefs : List String}
    (hbalance : ∀ p ∈ inputs.claims, p.2.kind = .balance) {p : Segment × ClaimRecord}
    (h : ReadyClaim inputs observationRefs p) {d : ClaimRecord}
    (hd : inputs.Decisive env p.1.subjectRef p.2 d) :
    (∃ value,
      Certifiable (readyClaimRow env economicFactsRef observationRefs inputs p) value) ↔
      inputs.statesExpected p.1.subjectRef d = true := by
  have hdec := (h.segmentOf.decisive h.mem d).1 hd
  have hdmem : d ∈ inputs.claimsOf p.1.subjectRef := by
    rw [← hdec]
    exact decisive_mem_claimsOf p.1 h.mem
  rcases claim_fields hbalance hdmem with ⟨⟨quantity, hquantity⟩, asOf, hasOf⟩
  have htarget : (readyClaimRow env economicFactsRef observationRefs inputs p).target =
      p.1.target env d := by
    rw [← hdec]
    rfl
  have hexpected : p.1.expectedValue d =
      .quantity ⟨expectedQuantity (inputs.legsOf p.1.subjectRef) asOf, p.1.subjectRef⟩ := by
    simp [Segment.expectedValue, Segment.asOf, hasOf, h.segmentOf.legs]
  have hobserved : p.1.observedValue d = some (.quantity ⟨quantity, p.1.subjectRef⟩) := by
    simp [Segment.observedValue, hquantity]
  have hstates : inputs.statesExpected p.1.subjectRef d = true ↔
      quantity = expectedQuantity (inputs.legsOf p.1.subjectRef) asOf := by
    simp [ReconciliationInputs.statesExpected, hasOf, hquantity]
  rw [hstates]
  constructor
  · rintro ⟨value, hcert⟩
    have hmatched := hcert.matched
    rw [htarget] at hmatched
    by_contra hne
    simp [Segment.target, hobserved, hexpected, hne] at hmatched
  · intro heq
    refine ⟨⟨quantity, p.1.subjectRef⟩, ?_, ?_, ?_, ?_⟩
    · rw [htarget]
      exact hobserved
    · rw [htarget]
      exact ⟨_, hexpected⟩
    · simp [htarget, Segment.target, hobserved]
    · simp [htarget, Segment.target, hobserved, hexpected, heq]

end

end Kernel
end Tallylot
