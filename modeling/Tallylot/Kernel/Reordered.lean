import Tallylot.Data.Reordering
import Tallylot.Kernel.BookedLegs
import Tallylot.Kernel.ReadyClaims

/-!
# Reordered — the order of records does not show in the products

The builders take lists of claims, decisions and observations.  Where no two records compete for one id,
one bundle or one statement, any other order of these lists gives the same facts and the same states,
record by record (`products_of_perm`).
-/

namespace Tallylot
namespace Kernel

open Data Domain

/-- Two claim sets with the same records. -/
structure SameRecords (claimSet other : ClaimSet) : Prop where
  claimSetId : claimSet.claimSetId = other.claimSetId
  claims : claimSet.claimRecords.Perm other.claimRecords
  decisions : claimSet.claimBundleDecisionRecords.Perm other.claimBundleDecisionRecords

/-- No two claims of a bundle have one id or are both about the beneficial owner, no activity is
accepted twice, and no two accepted balance claims state one position at one time. -/
structure Unambiguous (env : KernelEnvironment) (claimSet : ClaimSet) : Prop where
  ids : ∀ a ∈ claimSet.claimRecords, ∀ b ∈ claimSet.claimRecords,
    a.bundleId = b.bundleId → a.claimId = b.claimId → a = b
  owners : ∀ a ∈ claimSet.claimRecords, ∀ b ∈ claimSet.claimRecords, a.bundleId = b.bundleId →
    a.kind = .beneficialOwner → b.kind = .beneficialOwner → a = b
  bundles : ((bookedActivities claimSet).map (fun p => p.2.bundleId)).Nodup
  statements : ∀ a ∈ acceptedBalanceClaims claimSet, ∀ b ∈ acceptedBalanceClaims claimSet,
    subjectRefForBalanceClaim env claimSet a = subjectRefForBalanceClaim env claimSet b →
      a.observedAt = b.observedAt → a = b

section

variable {env : KernelEnvironment} {claimSet other : ClaimSet}

/-! ## Facts -/

lemma SameRecords.claimsOfBundle (h : SameRecords claimSet other) (bundleId : String) :
    (Kernel.claimsOfBundle claimSet bundleId).Perm (Kernel.claimsOfBundle other bundleId) := by
  rw [claimsOfBundle_eq, claimsOfBundle_eq]
  exact h.claims.filter _

lemma SameRecords.decidedActivities (h : SameRecords claimSet other)
    (decision : ClaimBundleDecisionRecord) :
    (Kernel.decidedActivities claimSet decision).Perm (Kernel.decidedActivities other decision) := by
  unfold Kernel.decidedActivities
  split_ifs
  · exact ((h.claimsOfBundle _).filter _).map _
  · exact List.Perm.refl _

lemma SameRecords.bookedActivities (h : SameRecords claimSet other) :
    (Kernel.bookedActivities claimSet).Perm (Kernel.bookedActivities other) :=
  (List.Perm.flatMap_left _ (fun decision _ => h.decidedActivities decision)).trans
    (h.decisions.flatMap_right _)

/-- The claims of one kind are looked up alike. -/
lemma Unambiguous.claimsById (hunambiguous : Unambiguous env claimSet)
    (h : SameRecords claimSet other) (bundleId : String) (kind : ClaimKind) (claimId : String) :
    (Kernel.claimsById (Kernel.claimsOfBundle claimSet bundleId) kind).get? claimId =
      (Kernel.claimsById (Kernel.claimsOfBundle other bundleId) kind).get? claimId := by
  refine get?_ofList_of_perm (((h.claimsOfBundle bundleId).filter _).map _) ?_ claimId
  intro p hp q hq hkey
  rcases List.mem_map.1 hp with ⟨a, ha, rfl⟩
  rcases List.mem_map.1 hq with ⟨b, hb, rfl⟩
  have hin : ∀ {claim : ClaimRecord}, claim ∈ (Kernel.claimsOfBundle claimSet bundleId).filter
      (fun claim => claim.kind = kind) →
        claim ∈ claimSet.claimRecords ∧ claim.bundleId = bundleId := by
    intro claim hclaim
    rw [claimsOfBundle_eq] at hclaim
    have hmem := List.mem_filter.1 (List.mem_filter.1 hclaim).1
    exact ⟨hmem.1, of_decide_eq_true hmem.2⟩
  rw [hunambiguous.ids a (hin ha).1 b (hin hb).1 ((hin ha).2.trans (hin hb).2.symm) hkey]

/-- The owners of a bundle are the same list. -/
lemma Unambiguous.owners_eq (hunambiguous : Unambiguous env claimSet)
    (h : SameRecords claimSet other) (bundleId : String) :
    (Kernel.claimsOfBundle claimSet bundleId).filter (fun claim => claim.kind = .beneficialOwner) =
      (Kernel.claimsOfBundle other bundleId).filter (fun claim => claim.kind = .beneficialOwner) := by
  refine eq_of_perm_of_const ((h.claimsOfBundle bundleId).filter _) (fun a ha b hb => ?_)
  rw [claimsOfBundle_eq] at ha hb
  rcases List.mem_filter.1 ha with ⟨ha, hkind⟩
  rcases List.mem_filter.1 hb with ⟨hb, hkind'⟩
  rcases List.mem_filter.1 ha with ⟨ha, hbundle⟩
  rcases List.mem_filter.1 hb with ⟨hb, hbundle'⟩
  exact hunambiguous.owners a ha b hb
    ((of_decide_eq_true hbundle).trans (of_decide_eq_true hbundle').symm)
    (of_decide_eq_true hkind) (of_decide_eq_true hkind')

/-- An activity is booked alike. -/
lemma Unambiguous.booksActivity (hunambiguous : Unambiguous env claimSet)
    (h : SameRecords claimSet other) {p : ClaimBundleDecisionRecord × ClaimRecord}
    {booked : EconomicEventRecord × List EconomicLegRecord} :
    BooksActivity env claimSet p booked ↔ BooksActivity env other p booked := by
  have hlookup := hunambiguous.claimsById h p.1.acceptedBundleRef
  have hlegs : legForSpec env (bundleOf claimSet p) = legForSpec env (bundleOf other p) := by
    funext eventId ownerRef legSpec
    unfold legForSpec requiredClaim
    simp only [bundleOf, hlookup]
  have howner : beneficialOwnerRef (Kernel.claimsOfBundle claimSet p.1.acceptedBundleRef) =
      beneficialOwnerRef (Kernel.claimsOfBundle other p.1.acceptedBundleRef) := by
    unfold beneficialOwnerRef
    rw [hunambiguous.owners_eq h]
  constructor
  · intro hbooks
    exact ⟨⟨hbooks.eventId, hbooks.claimBundleId, hbooks.decisionId, hbooks.effectiveAt,
      hbooks.recordedAt, howner ▸ hbooks.owner, hbooks.kind, hbooks.lifecycleEvent⟩,
      hlegs ▸ hbooks.legs⟩
  · intro hbooks
    exact ⟨⟨hbooks.eventId, hbooks.claimBundleId, hbooks.decisionId, hbooks.effectiveAt,
      hbooks.recordedAt, howner ▸ hbooks.owner, hbooks.kind, hbooks.lifecycleEvent⟩,
      hlegs ▸ hbooks.legs⟩

/-- The events of different bundles have ids of their own. -/
lemma eventIds_nodup {booked : List (EconomicEventRecord × List EconomicLegRecord)}
    (hbooked : List.Forall₂ (BooksActivity env claimSet) (bookedActivities claimSet) booked)
    (hbundles : ((bookedActivities claimSet).map (fun p => p.2.bundleId)).Nodup) :
    (booked.map (fun b => b.1.eventId)).Nodup := by
  have hids : booked.map (fun b => b.1.eventId) =
      (bookedActivities claimSet).map (fun p => stableEventId p.2.bundleId 0) := by
    rw [eq_comm, ← List.forall₂_eq_eq_eq, List.forall₂_map_left_iff, List.forall₂_map_right_iff]
    exact hbooked.imp (fun _ _ hbooks => hbooks.eventId.symm)
  rw [hids]
  refine List.pairwise_map.2 ((List.pairwise_map.1 hbundles).imp (fun {p p'} hne hid => ?_))
  exact hne (stableEventId_inj.1 hid).1

/-- Facts are the same for every order of the records. -/
theorem facts_of_same (hunambiguous : Unambiguous env claimSet) (h : SameRecords claimSet other)
    {facts : EconomicFacts} (hfacts : buildEconomicFacts env claimSet = .ok facts) :
    buildEconomicFacts env other = .ok facts := by
  rcases buildEconomicFacts_eq_ok_iff.1 hfacts with ⟨hone, booked, hbooked, rfl⟩
  have hapart := eventIds_nodup hbooked hunambiguous.bundles
  rcases List.perm_comp_forall₂ h.bookedActivities.symm hbooked with ⟨booked', hbooked', hperm⟩
  refine buildEconomicFacts_eq_ok_iff.2 ⟨fun decision hdecision => ?_, booked',
    hbooked'.imp (fun _ _ hbooks => (hunambiguous.booksActivity h).1 hbooks), ?_⟩
  · rw [← (h.decidedActivities decision).length_eq]
    exact hone decision (h.decisions.mem_iff.2 hdecision)
  · have hevents : canonicalEconomicEventRecords (booked.map Prod.fst) =
        canonicalEconomicEventRecords (booked'.map Prod.fst) := by
      refine sortedOn_eq_of_perm (hperm.symm.map _) ?_
      intro event hevent event' hevent' hkey
      rcases List.mem_map.1 hevent with ⟨b, hb, rfl⟩
      rcases List.mem_map.1 hevent' with ⟨b', hb', rfl⟩
      have hid : b.1.eventId = b'.1.eventId :=
        congrArg (fun key : Instant ×ₗ Instant ×ₗ String => (ofLex (ofLex key).2).2) hkey
      exact congrArg Prod.fst (List.inj_on_of_nodup_map hapart hb hb' hid)
    have hlegs : sortedOn legOrder (booked.flatMap Prod.snd) =
        sortedOn legOrder (booked'.flatMap Prod.snd) := by
      refine sortedOn_flatMap_of_perm hperm.symm ?_
      refine (List.pairwise_map.1 hapart).imp_of_mem
        (fun {b b'} hb hb' hne leg hleg leg' hleg' hkey => hne ?_)
      rcases exists_left_of_forall₂ hbooked hb with ⟨p, _, hbooks⟩
      rcases exists_left_of_forall₂ hbooked hb' with ⟨p', _, hbooks'⟩
      rcases exists_left_of_forall₂ hbooks.booksSpecs hleg with ⟨_, _, hspec⟩
      rcases exists_left_of_forall₂ hbooks'.booksSpecs hleg' with ⟨_, _, hspec'⟩
      rw [hbooks.eventId, hbooks'.eventId, ← hspec.eventId, ← hspec'.eventId]
      exact congrArg (fun key : String ×ₗ Int ×ₗ String => (ofLex key).1) hkey
    rw [hevents, hlegs, h.claimSetId]

/-! ## Inputs of the states -/

lemma SameRecords.mem_acceptedBundleRefs (h : SameRecords claimSet other) (bundleRef : String) :
    bundleRef ∈ acceptedBundleRefs claimSet ↔ bundleRef ∈ acceptedBundleRefs other :=
  ((h.decisions.filter _).map _).mem_iff

lemma SameRecords.acceptedBalanceClaims (h : SameRecords claimSet other) :
    (Kernel.acceptedBalanceClaims claimSet).Perm (Kernel.acceptedBalanceClaims other) := by
  have hfilter : Kernel.acceptedBalanceClaims other = other.claimRecords.filter (fun claim =>
      claim.kind = .balance && claim.bundleId ∈ acceptedBundleRefs claimSet) :=
    List.filter_congr (fun claim _ => by simp [h.mem_acceptedBundleRefs claim.bundleId])
  rw [hfilter]
  exact h.claims.filter _

/-- Balance claims are about the same positions. -/
lemma Unambiguous.subjectRef_eq (hunambiguous : Unambiguous env claimSet)
    (h : SameRecords claimSet other) (claim : ClaimRecord) :
    subjectRefForBalanceClaim env claimSet claim = subjectRefForBalanceClaim env other claim := by
  have hbundle : ∀ p : ClaimRecord → Bool,
      (∀ a ∈ claimSet.claimRecords, ∀ b ∈ claimSet.claimRecords, a.bundleId = b.bundleId →
        p a = true → p b = true → a = b) →
      (claimSet.claimRecords.filter (fun item => item.bundleId = claim.bundleId)).find? p =
        (other.claimRecords.filter (fun item => item.bundleId = claim.bundleId)).find? p := by
    intro p hone
    refine find?_of_perm (h.claims.filter _) (fun a ha b hb hpa hpb => ?_)
    rcases List.mem_filter.1 ha with ⟨ha, hka⟩
    rcases List.mem_filter.1 hb with ⟨hb, hkb⟩
    exact hone a ha b hb ((of_decide_eq_true hka).trans (of_decide_eq_true hkb).symm) hpa hpb
  have hid : ∀ claimId : String,
      (claimSet.claimRecords.filter (fun item => item.bundleId = claim.bundleId)).find?
          (fun item => item.claimId = claimId) =
        (other.claimRecords.filter (fun item => item.bundleId = claim.bundleId)).find?
          (fun item => item.claimId = claimId) :=
    fun claimId => hbundle _ (fun a ha b hb hab hpa hpb =>
      hunambiguous.ids a ha b hb hab ((of_decide_eq_true hpa).trans (of_decide_eq_true hpb).symm))
  have howner := hbundle (fun item => item.kind = .beneficialOwner)
    (fun a ha b hb hab hpa hpb =>
      hunambiguous.owners a ha b hb hab (of_decide_eq_true hpa) (of_decide_eq_true hpb))
  unfold subjectRefForBalanceClaim
  simp only [howner, hid]

/-- The inputs of the states have the same legs, and the same claims in some order. -/
theorem inputs_of_same (hunambiguous : Unambiguous env claimSet) (h : SameRecords claimSet other)
    {facts : EconomicFacts} {inputs : ReconciliationInputs}
    (hinputs : reconciliationInputs env facts claimSet = .ok inputs) :
    ∃ inputs', reconciliationInputs env facts other = .ok inputs' ∧ inputs'.legs = inputs.legs ∧
      inputs.claims.Perm inputs'.claims := by
  rcases except_bind_eq_ok.1 hinputs with ⟨legs, hlegs, hrest⟩
  rcases except_bind_eq_ok.1 hrest with ⟨claims, hclaims, hval⟩
  rcases mapM_ok_perm h.acceptedBalanceClaims hclaims with ⟨claims', hclaims', hperm⟩
  simp only [hunambiguous.subjectRef_eq h] at hclaims'
  refine ⟨⟨legs, claims'⟩, ?_, ?_, ?_⟩
  · exact except_bind_eq_ok.2 ⟨legs, hlegs, except_bind_eq_ok.2 ⟨claims', hclaims', rfl⟩⟩
  · rw [← Except.ok.inj hval]
  · rw [← Except.ok.inj hval]
    exact hperm

/-! ## States -/

lemma evidenceRefs_of_mem {refs refs' : List String} (h : ∀ ref, ref ∈ refs ↔ ref ∈ refs')
    (claim : ClaimRecord) : Segment.evidenceRefs refs claim = Segment.evidenceRefs refs' claim := by
  unfold Segment.evidenceRefs
  simp only [h]

lemma segmentBounds_of_perm (legs : List TimedEconomicLeg) {claims claims' : List ClaimRecord}
    (hperm : claims.Perm claims') : segmentBounds legs claims = segmentBounds legs claims' := by
  have htimes : (legs.map TimedEconomicLeg.effectiveAt ++
      claims.filterMap (fun c => c.observedAt)).Perm
        (legs.map TimedEconomicLeg.effectiveAt ++ claims'.filterMap (fun c => c.observedAt)) :=
    (hperm.filterMap _).append_left _
  unfold segmentBounds
  rcases hold : legs.map TimedEconomicLeg.effectiveAt ++ claims.filterMap (fun c => c.observedAt) with
    _ | ⟨time, times⟩
  · rw [hold] at htimes
    rw [List.nil_perm.1 htimes]
  · rw [hold] at htimes
    rcases hnew : legs.map TimedEconomicLeg.effectiveAt ++
        claims'.filterMap (fun c => c.observedAt) with _ | ⟨time', times'⟩
    · rw [hnew] at htimes
      exact absurd htimes.length_eq (by simp)
    · rw [hnew] at htimes
      have hmin : times.foldl min time = times'.foldl min time' := foldl_of_perm htimes
      have hmax : times.foldl max time = times'.foldl max time' := foldl_of_perm htimes
      dsimp only
      rw [hmin, hmax]

/-- The state of a subject whose claims are observed at different times. -/
lemma stateForSubject_of_perm {claims claims' : List ClaimRecord} (hperm : claims.Perm claims')
    (hobserved : ∀ claim ∈ claims, ∃ asOf, claim.observedAt = some asOf)
    (hapart : ∀ a ∈ claims, ∀ b ∈ claims, a.observedAt = b.observedAt → a = b)
    {refs refs' : List String} (hrefs : ∀ ref, ref ∈ refs ↔ ref ∈ refs') (subjectRef : SubjectRef)
    (economicFactsRef : String) (legs : List TimedEconomicLeg) :
    stateForSubject env subjectRef economicFactsRef legs claims refs =
      stateForSubject env subjectRef economicFactsRef legs claims' refs' := by
  unfold stateForSubject segmentForSubject
  rw [segmentBounds_of_perm legs hperm]
  cases segmentBounds legs claims' with
  | error message => rfl
  | ok bounds =>
      set segment : Segment :=
        ⟨stableContinuitySegmentId subjectRef bounds.1 bounds.2, subjectRef, bounds.1, bounds.2, legs⟩
        with hsegment
      have hordered : segment.orderedClaims claims = segment.orderedClaims claims' := by
        refine sortedOn_eq_of_perm hperm (fun a ha b hb hat => ?_)
        rcases hobserved a ha with ⟨asOf, hasOf⟩
        rcases hobserved b hb with ⟨asOf', hasOf'⟩
        refine hapart a ha b hb ?_
        rw [Segment.asOf, Segment.asOf, hasOf, hasOf', Option.getD_some, Option.getD_some] at hat
        rw [hasOf, hasOf', hat]
      have hproposal : segment.proposal env refs = segment.proposal env refs' := by
        funext claim
        unfold Segment.proposal
        rw [evidenceRefs_of_mem hrefs]
      change Except.ok (segment.state env economicFactsRef refs (segment.orderedClaims claims)) =
        Except.ok (segment.state env economicFactsRef refs' (segment.orderedClaims claims'))
      unfold Segment.state
      rw [hordered, hproposal]

lemma allSubjects_of_perm (hsubjects : Function.Injective env.subjectText)
    {inputs inputs' : ReconciliationInputs} (hlegs : inputs'.legs = inputs.legs)
    (hclaims : inputs.claims.Perm inputs'.claims) :
    inputs.allSubjects env = inputs'.allSubjects env := by
  refine sortedOn_eq_of_perm ?_ hsubjects.injOn
  refine (List.perm_ext_iff_of_nodup (List.nodup_dedup _) (List.nodup_dedup _)).2 ?_
  intro subjectRef
  have hmem : ∀ inputs : ReconciliationInputs, subjectRef ∈
      (inputs.legsBySubject.keys ++ inputs.balanceClaimsBySubject.keys).dedup ↔
        (∃ leg ∈ inputs.legs, leg.record.subjectRef = subjectRef) ∨
          ∃ p ∈ inputs.claims, p.1 = subjectRef := by
    intro inputs
    rw [← @ReconciliationInputs.mem_allSubjects env]
    exact mem_sortedOn.symm
  rw [hmem, hmem, hlegs]
  simp only [hclaims.mem_iff]

/-- Facts and states are the same for every order of the claims, the decisions and the observations,
and so are the checkpoints, which are made from the states. -/
theorem products_of_perm (hunambiguous : Unambiguous env claimSet) (h : SameRecords claimSet other)
    (hsubjects : Function.Injective env.subjectText) {evidenceSet evidenceSet' : EvidenceSet}
    (hobservations : evidenceSet.evidenceObservationRecords.Perm
      evidenceSet'.evidenceObservationRecords)
    {facts : EconomicFacts} {states : List ReconciliationState}
    (hfacts : buildEconomicFacts env claimSet = .ok facts)
    (hstates : buildReconciliationStates env facts claimSet evidenceSet = .ok states) :
    buildEconomicFacts env other = .ok facts ∧
      buildReconciliationStates env facts other evidenceSet' = .ok states := by
  refine ⟨facts_of_same hunambiguous h hfacts, ?_⟩
  rcases except_bind_eq_ok.1 hstates with ⟨inputs, hinputs, hmade⟩
  rcases inputs_of_same hunambiguous h hinputs with ⟨inputs', hinputs', hlegs, hclaims⟩
  refine except_bind_eq_ok.2 ⟨inputs', hinputs', ?_⟩
  have hrefs : ∀ ref, ref ∈ validObservationRefs evidenceSet ↔
      ref ∈ validObservationRefs evidenceSet' :=
    fun ref => (hobservations.map _).mem_iff
  rw [← hmade]
  unfold statesFromInputs
  rw [allSubjects_of_perm hsubjects hlegs hclaims]
  refine congrFun (congrArg List.mapM (funext (fun subjectRef => ?_))) _
  have hperm : (inputs.claimsOf subjectRef).Perm (inputs'.claimsOf subjectRef) := by
    rw [ReconciliationInputs.claimsOf_eq, ReconciliationInputs.claimsOf_eq]
    exact (hclaims.filter _).map _
  have hlegsOf : inputs'.legsOf subjectRef = inputs.legsOf subjectRef := by
    rw [ReconciliationInputs.legsOf_eq, ReconciliationInputs.legsOf_eq, hlegs]
  rw [hlegsOf]
  refine (stateForSubject_of_perm hperm ?_ ?_ hrefs _ _ _).symm
  · exact fun claim hclaim => (claim_fields (claims_balance hinputs) hclaim).2
  · intro a ha b hb hat
    have haccepted := claims_accepted hinputs
    have hin : ∀ {claim : ClaimRecord}, claim ∈ inputs.claimsOf subjectRef →
        claim ∈ acceptedBalanceClaims claimSet ∧
          subjectRefForBalanceClaim env claimSet claim = .ok subjectRef := by
      intro claim hclaim
      have hmem := ReconciliationInputs.mem_claimsOf.1 hclaim
      exact ⟨haccepted.1 ▸ List.mem_map_of_mem hmem, haccepted.2 _ hmem⟩
    exact hunambiguous.statements a (hin ha).1 b (hin hb).1 ((hin ha).2.trans (hin hb).2.symm) hat

end

/-- The records of the purchase in another order. -/
def reversedPurchase : ClaimSet :=
  { bitcoinPurchase with claimRecords := bitcoinPurchase.claimRecords.reverse }

lemma unambiguous_bitcoinPurchase : Unambiguous injectiveEnvironment bitcoinPurchase where
  ids := by decide +kernel
  owners := by decide +kernel
  bundles := by
    rw [bookedActivities_bitcoinPurchase]
    decide
  statements := by
    have hclaims : acceptedBalanceClaims bitcoinPurchase = [balanceClaim "buy" oneBitcoin] := by
      decide +kernel
    rw [hclaims]
    intro a ha b hb _ _
    rw [List.mem_singleton.1 ha, List.mem_singleton.1 hb]

lemma injective_subjectText : Function.Injective injectiveEnvironment.subjectText :=
  fun _ _ h => payload_chars_inj (String.ofList_injective h)

/-- The purchase gives the same products from the last record to the first. -/
theorem products_of_perm_bitcoin : ∃ facts states,
    buildEconomicFacts injectiveEnvironment bitcoinPurchase = .ok facts ∧
      buildReconciliationStates injectiveEnvironment facts bitcoinPurchase ⟨[⟨"buy"⟩]⟩ =
          .ok states ∧
        buildEconomicFacts injectiveEnvironment reversedPurchase = .ok facts ∧
          buildReconciliationStates injectiveEnvironment facts reversedPurchase ⟨[⟨"buy"⟩]⟩ =
            .ok states := by
  have hbuilt : (do
      let facts ← buildEconomicFacts injectiveEnvironment bitcoinPurchase
      buildReconciliationStates injectiveEnvironment facts bitcoinPurchase ⟨[⟨"buy"⟩]⟩).isOk =
        true := by
    decide +kernel
  rcases exists_of_isOk hbuilt with ⟨states, hproducts⟩
  rcases except_bind_eq_ok.1 hproducts with ⟨facts, hfacts, hstates⟩
  have hsame : SameRecords bitcoinPurchase reversedPurchase :=
    ⟨rfl, (List.reverse_perm _).symm, List.Perm.refl _⟩
  exact ⟨facts, states, hfacts, hstates,
    products_of_perm unambiguous_bitcoinPurchase hsame injective_subjectText
      (List.Perm.refl _) hfacts hstates⟩

end Kernel
end Tallylot
