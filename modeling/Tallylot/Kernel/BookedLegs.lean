import Tallylot.Data.Pairing
import Tallylot.Kernel.EconomicFacts
import Tallylot.Kernel.StateIds

/-!
# BookedLegs — what the economic facts say of the claims

The facts of a claim set are its accepted activities, as often as they are accepted, and every leg spec
of such an activity is booked by one leg (`legs_book_specs`).  Events have ids of their own exactly
where no activity is accepted twice (`ids_nodup`).
-/

namespace Tallylot
namespace Kernel

open Data Domain

/-! ## Accepted activities -/

lemma claimsOfBundle_eq (claimSet : ClaimSet) (bundleId : String) :
    claimsOfBundle claimSet bundleId =
      claimSet.claimRecords.filter (fun claim => claim.bundleId = bundleId) :=
  Dict.getD_get?_group _ _ _

/-- The decision accepts a bundle. -/
def accepts (decision : ClaimBundleDecisionRecord) : Bool :=
  decision.outcome = .accepted && decision.acceptedBundleRef ≠ ""

/-- The activities of the bundle that a decision accepts. -/
def decidedActivities (claimSet : ClaimSet) (decision : ClaimBundleDecisionRecord) :
    List (ClaimBundleDecisionRecord × ClaimRecord) :=
  if accepts decision = true then
    (activityClaims (claimsOfBundle claimSet decision.acceptedBundleRef)).map
      (fun activity => (decision, activity))
  else []

/-- The accepted activities, as often as they are accepted. -/
def bookedActivities (claimSet : ClaimSet) : List (ClaimBundleDecisionRecord × ClaimRecord) :=
  claimSet.claimBundleDecisionRecords.flatMap (decidedActivities claimSet)

/-- The bundle of an accepted activity. -/
def bundleOf (claimSet : ClaimSet) (p : ClaimBundleDecisionRecord × ClaimRecord) :
    AcceptedActivityBundle where
  activityClaim := p.2
  bundleClaims := claimsOfBundle claimSet p.1.acceptedBundleRef
  decisionId := p.1.decisionId

section

variable {env : KernelEnvironment} {claimSet : ClaimSet}

lemma mem_decidedActivities {decision : ClaimBundleDecisionRecord}
    {p : ClaimBundleDecisionRecord × ClaimRecord} :
    p ∈ decidedActivities claimSet decision ↔
      p.1 = decision ∧ accepts decision = true ∧ p.2 ∈ claimSet.claimRecords ∧
        p.2.bundleId = decision.acceptedBundleRef ∧ p.2.kind = .activity := by
  unfold decidedActivities
  split_ifs with haccepts
  · rw [List.mem_map]
    simp only [activityClaims, claimsOfBundle_eq, List.mem_filter, decide_eq_true_eq]
    constructor
    · rintro ⟨activity, ⟨⟨hmem, hbundle⟩, hkind⟩, rfl⟩
      exact ⟨rfl, haccepts, hmem, hbundle, hkind⟩
    · rintro ⟨rfl, _, hmem, hbundle, hkind⟩
      exact ⟨p.2, ⟨⟨hmem, hbundle⟩, hkind⟩, rfl⟩
  · exact iff_of_false List.not_mem_nil (fun h => haccepts h.2.1)

lemma mem_bookedActivities {p : ClaimBundleDecisionRecord × ClaimRecord} :
    p ∈ bookedActivities claimSet ↔
      p.1 ∈ claimSet.claimBundleDecisionRecords ∧ accepts p.1 = true ∧
        p.2 ∈ claimSet.claimRecords ∧ p.2.bundleId = p.1.acceptedBundleRef ∧
          p.2.kind = .activity := by
  simp only [bookedActivities, List.mem_flatMap, mem_decidedActivities]
  constructor
  · rintro ⟨decision, hdecision, rfl, hrest⟩
    exact ⟨hdecision, hrest⟩
  · rintro ⟨hdecision, hrest⟩
    exact ⟨p.1, hdecision, rfl, hrest⟩

/-- A decision accepts at most one activity, whose bundle is the accepted one. -/
lemma acceptedActivityBundle_eq_ok_iff {decision : ClaimBundleDecisionRecord}
    {found : Option AcceptedActivityBundle} :
    acceptedActivityBundle claimSet decision = .ok found ↔
      (decidedActivities claimSet decision).length ≤ 1 ∧
        found = ((decidedActivities claimSet decision).map (bundleOf claimSet)).head? := by
  unfold acceptedActivityBundle decidedActivities accepts
  by_cases houtcome : decision.outcome = .accepted
  · by_cases href : decision.acceptedBundleRef = ""
    · rw [if_neg (not_not.2 houtcome), if_pos href, if_neg (by simp [href]), Except.ok.injEq]
      exact ⟨fun h => ⟨Nat.zero_le 1, h.symm⟩, fun h => h.2.symm⟩
    · rw [if_neg (not_not.2 houtcome), if_neg href, if_pos (by simp [houtcome, href])]
      rcases hclaims : activityClaims (claimsOfBundle claimSet decision.acceptedBundleRef) with
        _ | ⟨activity, _ | ⟨other, rest⟩⟩
      · rw [Except.ok.injEq]
        exact ⟨fun h => ⟨Nat.zero_le 1, h.symm⟩, fun h => h.2.symm⟩
      · rw [Except.ok.injEq]
        exact ⟨fun h => ⟨Nat.le_refl 1, h.symm⟩, fun h => h.2.symm⟩
      · exact iff_of_false (fun h => by cases h) (fun h => absurd h.1 (by simp))
  · rw [if_pos houtcome, if_neg (by simp [houtcome]), Except.ok.injEq]
    exact ⟨fun h => ⟨Nat.zero_le 1, h.symm⟩, fun h => h.2.symm⟩

/-- The accepted bundles are those of the accepted activities. -/
theorem acceptedActivityBundles_eq_ok_iff {bundles : List AcceptedActivityBundle} :
    acceptedActivityBundles claimSet = .ok bundles ↔
      (∀ decision ∈ claimSet.claimBundleDecisionRecords,
        (decidedActivities claimSet decision).length ≤ 1) ∧
      bundles = (bookedActivities claimSet).map (bundleOf claimSet) := by
  have hstep : ∀ decisions : List ClaimBundleDecisionRecord,
      (∀ decision ∈ decisions, (decidedActivities claimSet decision).length ≤ 1) →
        ((decisions.map (fun decision =>
          ((decidedActivities claimSet decision).map (bundleOf claimSet)).head?)).filterMap id) =
          (decisions.flatMap (decidedActivities claimSet)).map (bundleOf claimSet) := by
    intro decisions hone
    induction decisions with
    | nil => rfl
    | cons decision decisions ih =>
        have hlength := hone decision List.mem_cons_self
        have htail := ih (fun other hother => hone other (List.mem_cons_of_mem _ hother))
        rcases hdecided : decidedActivities claimSet decision with _ | ⟨p, _ | ⟨q, rest⟩⟩
        · simpa [hdecided] using htail
        · simpa [hdecided] using htail
        · rw [hdecided] at hlength
          exact absurd hlength (by simp)
  unfold acceptedActivityBundles
  rw [except_bind_eq_ok]
  constructor
  · rintro ⟨accepted, haccepted, hbundles⟩
    rcases mapM_ok_pairs haccepted with ⟨pairs, hdecisions, rfl, hpairs⟩
    have hone : ∀ decision ∈ claimSet.claimBundleDecisionRecords,
        (decidedActivities claimSet decision).length ≤ 1 := by
      intro decision hdecision
      rw [← hdecisions] at hdecision
      rcases List.mem_map.1 hdecision with ⟨p, hp, rfl⟩
      exact (acceptedActivityBundle_eq_ok_iff.1 (hpairs p hp)).1
    refine ⟨hone, ?_⟩
    rw [← Except.ok.inj hbundles, bookedActivities, ← hstep _ hone, ← hdecisions, List.map_map]
    congr 1
    exact List.map_congr_left
      (fun p hp => (acceptedActivityBundle_eq_ok_iff.1 (hpairs p hp)).2)
  · rintro ⟨hone, rfl⟩
    have hfound := mapM_ok_map (f := acceptedActivityBundle claimSet) (g := fun decision => decision)
      (fun decision hdecision =>
        acceptedActivityBundle_eq_ok_iff.2 ⟨hone decision hdecision, rfl⟩)
    rw [List.map_id'] at hfound
    exact ⟨_, hfound, congrArg Except.ok (hstep _ hone)⟩

end

/-! ## Legs of specs -/

lemma loads_stableLegId (eventId : String) (role : EconomicLegRole) (subjectRef : SubjectRef)
    (slot : Int) :
    Json.loads (stableLegId eventId role subjectRef slot) =
      some (Json.arr [Json.str eventId, Json.str role.value, subjectRef.payload, Json.int slot]) := by
  have hcompact : (Json.arr [Json.str eventId, Json.str role.value, subjectRef.payload,
      Json.int slot]).chars =
        (Json.arr [Json.str eventId, Json.str role.value, subjectRef.payload,
          Json.int slot]).compactChars := by
    simp only [Json.chars, Json.compactChars, Json.itemChars, Json.compactItems,
      compactChars_payload]
  rw [stableLegId, Json.dumps, hcompact, ← Json.compactText, Json.loads_compactText]

/-- The slot of a leg is read from its id. -/
lemma legSlot_stableLegId (eventId : String) (role : EconomicLegRole) (subjectRef : SubjectRef)
    (slot : Int) : legSlot (stableLegId eventId role subjectRef slot) = .ok slot := by
  unfold legSlot
  rw [loads_stableLegId]
  rfl

lemma economicLeg_eq_ok_iff {eventId : String} {role : EconomicLegRole}
    {ownerRef locationRef instrumentRef : String} {legSpec : ClaimLegSpec}
    {leg : EconomicLegRecord} :
    economicLeg eventId role ownerRef locationRef instrumentRef legSpec = .ok leg ↔
      leg.legId = stableLegId eventId role leg.subjectRef legSpec.slot ∧ leg.eventId = eventId ∧
        leg.role = role ∧ leg.subjectRef = positionSubjectRef ownerRef locationRef instrumentRef ∧
          leg.instrumentRef = [instrumentRef] ∧ leg.locationRef = [locationRef] ∧
            leg.quantity = legSpec.quantity := by
  unfold economicLeg
  split_ifs with hzero
  · exact iff_of_false (fun h => by cases h)
      (fun h => leg.quantity_nonzero (h.2.2.2.2.2.2.trans hzero))
  · rw [Except.ok.injEq]
    constructor
    · rintro rfl
      exact ⟨rfl, rfl, rfl, rfl, rfl, rfl, rfl⟩
    · rintro ⟨hid, hevent, hrole, hsubject, hinstrument, hlocation, hquantity⟩
      rw [hsubject] at hid
      cases leg
      simp_all

/-- The claims of a bundle that a leg spec refers to. -/
structure SpecClaims (env : KernelEnvironment) (bundleClaims : List ClaimRecord)
    (legSpec : ClaimLegSpec) (locationClaim instrumentClaim : ClaimRecord) (instrumentId : String) :
    Prop where
  location : (claimsById bundleClaims .location).get? legSpec.locationClaimRef = some locationClaim
  instrument : ∃ ref, legSpec.instrumentClaimRefs.head? = some ref ∧
    (claimsById bundleClaims .instrument).get? ref = some instrumentClaim
  resolved : instrumentRef env instrumentClaim = .ok instrumentId

/-- A leg books a spec of an activity at the position of the claims of its bundle. -/
structure BooksSpec (env : KernelEnvironment) (bundleClaims : List ClaimRecord)
    (activity : ClaimRecord) (legSpec : ClaimLegSpec) (leg : EconomicLegRecord) : Prop where
  eventId : leg.eventId = stableEventId activity.bundleId 0
  legId : leg.legId = stableLegId leg.eventId leg.role leg.subjectRef legSpec.slot
  quantity : leg.quantity = legSpec.quantity
  position : ∃ ownerRef locationClaim instrumentClaim instrumentId,
    beneficialOwnerRef bundleClaims = .ok ownerRef ∧
      SpecClaims env bundleClaims legSpec locationClaim instrumentClaim instrumentId ∧
        leg.role = roleForLeg activity.activityLabel legSpec instrumentClaim ∧
          leg.subjectRef = positionSubjectRef ownerRef locationClaim.locationRef instrumentId ∧
            leg.locationRef = [locationClaim.locationRef] ∧ leg.instrumentRef = [instrumentId]

section

variable {env : KernelEnvironment} {bundle : AcceptedActivityBundle} {eventId ownerRef : String}
  {legSpec : ClaimLegSpec} {leg : EconomicLegRecord}

lemma requiredClaim_eq_ok_iff {kind : ClaimKind} {bundleClaims : List ClaimRecord}
    {claimId bundleId : String} {claim : ClaimRecord} :
    requiredClaim env kind bundleClaims claimId bundleId = .ok claim ↔
      (claimsById bundleClaims kind).get? claimId = some claim := by
  unfold requiredClaim
  cases (claimsById bundleClaims kind).get? claimId with
  | none => exact iff_of_false (fun h => by cases h) (fun h => by cases h)
  | some found => rw [Except.ok.injEq, Option.some.injEq]

lemma legForSpec_eq_ok_iff :
    legForSpec env bundle eventId ownerRef legSpec = .ok leg ↔
      ∃ locationClaim instrumentClaim instrumentId,
        SpecClaims env bundle.bundleClaims legSpec locationClaim instrumentClaim instrumentId ∧
          economicLeg eventId (roleForLeg bundle.activityClaim.activityLabel legSpec instrumentClaim)
            ownerRef locationClaim.locationRef instrumentId legSpec = .ok leg := by
  unfold legForSpec
  dsimp only
  cases hrefs : legSpec.instrumentClaimRefs with
  | nil =>
      refine iff_of_false (fun h => by cases h) ?_
      rintro ⟨_, _, _, hclaims, _⟩
      rcases hclaims.instrument with ⟨ref, href, _⟩
      rw [hrefs] at href
      cases href
  | cons instrumentClaimRef refs =>
      dsimp only
      simp only [except_bind_eq_ok, requiredClaim_eq_ok_iff]
      constructor
      · rintro ⟨instrumentClaim, hinstrument, locationClaim, hlocation, instrumentId, hresolved, h⟩
        exact ⟨locationClaim, instrumentClaim, instrumentId,
          ⟨hlocation, ⟨instrumentClaimRef, by rw [hrefs]; rfl, hinstrument⟩, hresolved⟩, h⟩
      · rintro ⟨locationClaim, instrumentClaim, instrumentId, hclaims, h⟩
        rcases hclaims.instrument with ⟨ref, href, hinstrument⟩
        rw [hrefs] at href
        cases Option.some.inj href
        exact ⟨instrumentClaim, hinstrument, locationClaim, hclaims.location, instrumentId,
          hclaims.resolved, h⟩

/-- What a leg of a spec says. -/
lemma booksSpec_of_ok (hevent : eventId = stableEventId bundle.activityClaim.bundleId 0)
    (howner : beneficialOwnerRef bundle.bundleClaims = .ok ownerRef)
    (h : legForSpec env bundle eventId ownerRef legSpec = .ok leg) :
    BooksSpec env bundle.bundleClaims bundle.activityClaim legSpec leg := by
  rcases legForSpec_eq_ok_iff.1 h with
    ⟨locationClaim, instrumentClaim, instrumentId, hclaims, hleg⟩
  rcases economicLeg_eq_ok_iff.1 hleg with
    ⟨hid, heventId, hrole, hsubject, hinstrument, hlocation, hquantity⟩
  refine ⟨heventId.trans hevent, ?_, hquantity, ownerRef, locationClaim, instrumentClaim,
    instrumentId, howner, hclaims, hrole, hsubject, hlocation, hinstrument⟩
  rw [hid, heventId, hrole]

end

/-! ## Events -/

/-- The event of an accepted activity. -/
structure BooksEvent (claimSet : ClaimSet) (p : ClaimBundleDecisionRecord × ClaimRecord)
    (event : EconomicEventRecord) : Prop where
  eventId : event.eventId = stableEventId p.2.bundleId 0
  claimBundleId : event.claimBundleId = p.2.bundleId
  decisionId : event.claimBundleDecisionId = p.1.decisionId
  effectiveAt : p.2.effectiveAt = some event.effectiveAt
  recordedAt : event.recordedAt = event.effectiveAt
  owner : beneficialOwnerRef (claimsOfBundle claimSet p.1.acceptedBundleRef) =
    .ok event.beneficialOwnerRef
  kind : eventKind p.2.activityLabel = .ok event.kind
  lifecycleEvent : event.lifecycleEvent = lifecycleEvent p.2.activityLabel

/-- The event and the legs of an accepted activity. -/
structure BooksActivity (env : KernelEnvironment) (claimSet : ClaimSet)
    (p : ClaimBundleDecisionRecord × ClaimRecord)
    (booked : EconomicEventRecord × List EconomicLegRecord) : Prop
    extends BooksEvent claimSet p booked.1 where
  legs : (orderedLegSpecs p.2).mapM (legForSpec env (bundleOf claimSet p)
    (stableEventId p.2.bundleId 0) booked.1.beneficialOwnerRef) = .ok booked.2

section

variable {env : KernelEnvironment} {claimSet : ClaimSet}
  {p : ClaimBundleDecisionRecord × ClaimRecord}
  {booked : EconomicEventRecord × List EconomicLegRecord}

theorem eventAndLegsForBundle_eq_ok_iff :
    eventAndLegsForBundle env (bundleOf claimSet p) = .ok booked ↔
      BooksActivity env claimSet p booked := by
  unfold eventAndLegsForBundle
  dsimp only [bundleOf]
  cases heffective : p.2.effectiveAt with
  | none =>
      refine iff_of_false (fun h => by cases h) (fun h => ?_)
      have hsome := h.effectiveAt
      rw [heffective] at hsome
      cases hsome
  | some effectiveAt =>
      dsimp only
      simp only [except_bind_eq_ok]
      constructor
      · rintro ⟨ownerRef, howner, kind, hkind, legs, hlegs, h⟩
        rw [← Except.ok.inj h]
        exact ⟨⟨rfl, rfl, rfl, heffective, rfl, howner, hkind, rfl⟩, hlegs⟩
      · intro h
        refine ⟨booked.1.beneficialOwnerRef, h.owner, booked.1.kind, h.kind, booked.2, h.legs, ?_⟩
        have hat : effectiveAt = booked.1.effectiveAt :=
          Option.some.inj (heffective.symm.trans h.effectiveAt)
        rw [hat, ← h.eventId, ← h.claimBundleId, ← h.decisionId, ← h.lifecycleEvent]
        conv_lhs =>
          enter [1, 1, 6]
          rw [← h.recordedAt]

/-- The legs of an activity book its specs, in the order of their slots. -/
theorem BooksActivity.booksSpecs (h : BooksActivity env claimSet p booked) :
    List.Forall₂
      (BooksSpec env (claimsOfBundle claimSet p.1.acceptedBundleRef) p.2)
      (orderedLegSpecs p.2) booked.2 := by
  refine (mapM_eq_ok_iff.1 h.legs).imp (fun legSpec leg hleg => ?_)
  exact @booksSpec_of_ok env (bundleOf claimSet p) _ _ _ _ rfl h.owner hleg

/-! ## Facts -/

/-- The slot in the id of a leg. -/
def slotOf (leg : EconomicLegRecord) : Int :=
  match legSlot leg.legId with
  | .ok slot => slot
  | .error _ => 0

/-- What the legs of facts are sorted by. -/
def legOrder (leg : EconomicLegRecord) : String ×ₗ Int ×ₗ String :=
  toLex (leg.eventId, toLex (slotOf leg, leg.legId))

lemma BooksSpec.legSlot {bundleClaims : List ClaimRecord} {activity : ClaimRecord}
    {legSpec : ClaimLegSpec} {leg : EconomicLegRecord}
    (h : BooksSpec env bundleClaims activity legSpec leg) :
    Kernel.legSlot leg.legId = .ok legSpec.slot := by
  rw [h.legId, legSlot_stableLegId]

lemma BooksSpec.slotOf {bundleClaims : List ClaimRecord} {activity : ClaimRecord}
    {legSpec : ClaimLegSpec} {leg : EconomicLegRecord}
    (h : BooksSpec env bundleClaims activity legSpec leg) : Kernel.slotOf leg = legSpec.slot := by
  rw [Kernel.slotOf, h.legSlot]

/-- Legs whose slots can be read are sorted. -/
lemma canonicalEconomicLegRecords_eq {legs : List EconomicLegRecord}
    (h : ∀ leg ∈ legs, ∃ slot, Kernel.legSlot leg.legId = .ok slot) :
    canonicalEconomicLegRecords legs = .ok (sortedOn legOrder legs) := by
  have hslots : legs.mapM (fun leg => Kernel.legSlot leg.legId) = .ok (legs.map Kernel.slotOf) := by
    have hall : (legs.map (fun leg => leg)).mapM (fun leg => Kernel.legSlot leg.legId) =
        .ok (legs.map Kernel.slotOf) := by
      refine mapM_ok_map (fun leg hleg => ?_)
      rcases h leg hleg with ⟨slot, hslot⟩
      rw [Kernel.slotOf, hslot]
    rwa [List.map_id'] at hall
  have hpairs : (legs.map Kernel.slotOf).zip legs =
      legs.map (fun leg => (Kernel.slotOf leg, leg)) := by
    rw [← List.map_prod_right_eq_zip]
  unfold canonicalEconomicLegRecords
  rw [hslots, bind_pure_comp, Functor.map]
  change Except.ok (orderedLegs ((legs.map Kernel.slotOf).zip legs)) = _
  rw [hpairs, orderedLegs, sortedOn_map, List.map_map]
  exact congrArg Except.ok (List.map_id _)

/-- The facts are the events and legs of the accepted activities, in order. -/
theorem buildEconomicFacts_eq_ok_iff {facts : EconomicFacts} :
    buildEconomicFacts env claimSet = .ok facts ↔
      (∀ decision ∈ claimSet.claimBundleDecisionRecords,
        (decidedActivities claimSet decision).length ≤ 1) ∧
      ∃ booked, List.Forall₂ (BooksActivity env claimSet) (bookedActivities claimSet) booked ∧
        facts =
          { economicFactsId := stableEconomicFactsId env [claimSet.claimSetId]
            claimSetRefs := [claimSet.claimSetId]
            economicEventRecords := canonicalEconomicEventRecords (booked.map Prod.fst)
            economicLegRecords := sortedOn legOrder (booked.flatMap Prod.snd) } := by
  have hmapM : ∀ {booked}, ((bookedActivities claimSet).map (bundleOf claimSet)).mapM
      (eventAndLegsForBundle env) = .ok booked ↔
        List.Forall₂ (BooksActivity env claimSet) (bookedActivities claimSet) booked := by
    intro booked
    rw [mapM_eq_ok_iff, List.forall₂_map_left_iff]
    simp only [eventAndLegsForBundle_eq_ok_iff]
  have hslots : ∀ {booked}, List.Forall₂ (BooksActivity env claimSet) (bookedActivities claimSet)
      booked → ∀ leg ∈ booked.flatMap Prod.snd, ∃ slot, Kernel.legSlot leg.legId = .ok slot := by
    intro booked h leg hleg
    rcases List.mem_flatMap.1 hleg with ⟨entry, hentry, hmem⟩
    rcases exists_left_of_forall₂ h hentry with ⟨p, _, hp⟩
    rcases exists_left_of_forall₂ hp.booksSpecs hmem with ⟨legSpec, _, hspec⟩
    exact ⟨_, hspec.legSlot⟩
  unfold buildEconomicFacts
  simp only [except_bind_eq_ok, acceptedActivityBundles_eq_ok_iff]
  constructor
  · rintro ⟨_, ⟨hone, rfl⟩, booked, hbooked, legs, hlegs, h⟩
    rw [hmapM] at hbooked
    rw [canonicalEconomicLegRecords_eq (hslots hbooked), Except.ok.injEq] at hlegs
    exact ⟨hone, booked, hbooked, by rw [← Except.ok.inj h, hlegs]⟩
  · rintro ⟨hone, booked, hbooked, rfl⟩
    exact ⟨_, ⟨hone, rfl⟩, booked, hmapM.2 hbooked, _,
      canonicalEconomicLegRecords_eq (hslots hbooked), rfl⟩

/-- The leg specs of the accepted activities. -/
def bookedSpecs (claimSet : ClaimSet) :
    List ((ClaimBundleDecisionRecord × ClaimRecord) × ClaimLegSpec) :=
  (bookedActivities claimSet).flatMap (fun p => p.2.legSpecs.map (fun legSpec => (p, legSpec)))

variable {facts : EconomicFacts}

/-- Every accepted activity has an event of its own, every leg spec of it a leg of its own at the
position of its claims, and there are no other events and legs. -/
theorem legs_book_specs (h : buildEconomicFacts env claimSet = .ok facts) :
    Matched (BooksEvent claimSet) (bookedActivities claimSet) facts.economicEventRecords ∧
      Matched (fun q leg =>
          BooksSpec env (claimsOfBundle claimSet q.1.1.acceptedBundleRef) q.1.2 q.2 leg)
        (bookedSpecs claimSet) facts.economicLegRecords := by
  rcases buildEconomicFacts_eq_ok_iff.1 h with ⟨_, booked, hbooked, rfl⟩
  constructor
  · have hevents : List.Forall₂ (BooksEvent claimSet) (bookedActivities claimSet)
        (booked.map Prod.fst) := by
      rw [List.forall₂_map_right_iff]
      exact hbooked.imp (fun _ _ hp => hp.toBooksEvent)
    exact (Matched.of_forall₂ hevents).perm (List.Perm.refl _) (sortedOn_perm _ _).symm
  · have hspecs : Matched (fun q leg =>
          BooksSpec env (claimsOfBundle claimSet q.1.1.acceptedBundleRef) q.1.2 q.2 leg)
        ((bookedActivities claimSet).flatMap
          (fun p => (orderedLegSpecs p.2).map (fun legSpec => (p, legSpec))))
        (booked.flatMap Prod.snd) := by
      refine Matched.flatMap (hbooked.imp (fun p _ hp => Matched.of_forall₂ ?_))
      rw [List.forall₂_map_left_iff]
      exact hp.booksSpecs
    refine hspecs.perm ?_ (sortedOn_perm _ _).symm
    exact List.Perm.flatMap_left _ (fun p _ => (sortedOn_perm _ _).map _)

end

/-! ## Ids -/

section

variable {env : KernelEnvironment} {claimSet : ClaimSet} {facts : EconomicFacts}

lemma loads_stableEventId (claimBundleId : String) (eventSlot : Int) :
    Json.loads (stableEventId claimBundleId eventSlot) =
      some (Json.arr [Json.str claimBundleId, Json.int eventSlot]) := by
  have hcompact : (Json.arr [Json.str claimBundleId, Json.int eventSlot]).chars =
      (Json.arr [Json.str claimBundleId, Json.int eventSlot]).compactChars := by
    simp only [Json.chars, Json.compactChars, Json.itemChars, Json.compactItems]
  rw [stableEventId, Json.dumps, hcompact, ← Json.compactText, Json.loads_compactText]

lemma stableEventId_inj {bundleId bundleId' : String} {slot slot' : Int} :
    stableEventId bundleId slot = stableEventId bundleId' slot' ↔
      bundleId = bundleId' ∧ slot = slot' := by
  constructor
  · intro h
    have hloads := congrArg Json.loads h
    rw [loads_stableEventId, loads_stableEventId] at hloads
    simpa using hloads
  · rintro ⟨rfl, rfl⟩
    rfl

/-- A bundle that is accepted has one activity. -/
lemma activity_unique (h : buildEconomicFacts env claimSet = .ok facts)
    {p p' : ClaimBundleDecisionRecord × ClaimRecord} (hp : p ∈ bookedActivities claimSet)
    (hp' : p' ∈ bookedActivities claimSet) (hbundle : p.2.bundleId = p'.2.bundleId) : p.2 = p'.2 := by
  rcases mem_bookedActivities.1 hp with ⟨hdecision, haccepts, hmem, href, hkind⟩
  rcases mem_bookedActivities.1 hp' with ⟨_, _, hmem', _, hkind'⟩
  have hone := (buildEconomicFacts_eq_ok_iff.1 h).1 p.1 hdecision
  have hin : (p.1, p.2) ∈ decidedActivities claimSet p.1 :=
    mem_decidedActivities.2 ⟨rfl, haccepts, hmem, href, hkind⟩
  have hin' : (p.1, p'.2) ∈ decidedActivities claimSet p.1 :=
    mem_decidedActivities.2 ⟨rfl, haccepts, hmem', hbundle.symm.trans href, hkind'⟩
  rcases hdecided : decidedActivities claimSet p.1 with _ | ⟨q, _ | ⟨other, rest⟩⟩
  · rw [hdecided] at hin
    exact absurd hin List.not_mem_nil
  · rw [hdecided, List.mem_singleton] at hin hin'
    exact (Prod.mk.inj (hin.trans hin'.symm)).2
  · rw [hdecided] at hone
    exact absurd hone (by simp)

/-- The slots of an activity with its event. -/
def slotKeys (p : ClaimBundleDecisionRecord × ClaimRecord) : List (String × Int) :=
  p.2.legSpecs.map (fun legSpec => (stableEventId p.2.bundleId 0, legSpec.slot))

lemma map_bookedSpecs (claimSet : ClaimSet) :
    (bookedSpecs claimSet).map (fun q => (stableEventId q.1.2.bundleId 0, q.2.slot)) =
      (bookedActivities claimSet).flatMap slotKeys := by
  rw [bookedSpecs, List.map_flatMap]
  refine congrArg (fun keys => (bookedActivities claimSet).flatMap keys) (funext (fun p => ?_))
  rw [List.map_map]
  rfl

/-- Activities of different bundles, with different slots, have keys of their own. -/
lemma slotKeys_nodup
    (hslots : ∀ p ∈ bookedActivities claimSet,
      (p.2.legSpecs.map (fun legSpec => legSpec.slot)).Nodup)
    (hbundles : ((bookedActivities claimSet).map (fun p => p.2.bundleId)).Nodup) :
    ((bookedActivities claimSet).flatMap slotKeys).Nodup := by
  refine List.nodup_flatMap.2 ⟨fun p hp => ?_, ?_⟩
  · have hkeys : (slotKeys p).map Prod.snd = p.2.legSpecs.map (fun legSpec => legSpec.slot) := by
      rw [slotKeys, List.map_map]
      rfl
    exact List.Nodup.of_map Prod.snd (hkeys ▸ hslots p hp)
  · refine (List.pairwise_map.1 hbundles).imp (fun {p p'} hne => ?_)
    intro key hkey hkey'
    rcases List.mem_map.1 hkey with ⟨_, _, rfl⟩
    rcases List.mem_map.1 hkey' with ⟨_, _, hsame⟩
    exact hne (stableEventId_inj.1 (congrArg Prod.fst hsame).symm).1

/-- The events have ids of their own exactly where no bundle with an activity is accepted twice; the
legs do too, where the slots of every activity differ. -/
theorem ids_nodup (h : buildEconomicFacts env claimSet = .ok facts) :
    ((facts.economicEventRecords.map (fun event => event.eventId)).Nodup ↔
        ((bookedActivities claimSet).map (fun p => p.2.bundleId)).Nodup) ∧
      ((∀ p ∈ bookedActivities claimSet,
          (p.2.legSpecs.map (fun legSpec => legSpec.slot)).Nodup) →
        ((bookedActivities claimSet).map (fun p => p.2.bundleId)).Nodup →
          (facts.economicLegRecords.map (fun leg => leg.legId)).Nodup) := by
  rcases legs_book_specs h with ⟨hevents, hlegs⟩
  constructor
  · have hids : ((bookedActivities claimSet).map (fun p => stableEventId p.2.bundleId 0)).Perm
        (facts.economicEventRecords.map (fun event => event.eventId)) :=
      hevents.map_perm (fun _ _ _ _ hevent => hevent.eventId.symm)
    have hinjective : Function.Injective (fun bundleId => stableEventId bundleId 0) :=
      fun _ _ hid => (stableEventId_inj.1 hid).1
    have hmap : (bookedActivities claimSet).map (fun p => stableEventId p.2.bundleId 0) =
        ((bookedActivities claimSet).map (fun p => p.2.bundleId)).map
          (fun bundleId => stableEventId bundleId 0) := by
      rw [List.map_map, Function.comp_def]
    rw [← hids.nodup_iff, hmap]
    exact List.nodup_map_iff hinjective
  · intro hslots hbundles
    have hperm : ((bookedSpecs claimSet).map
        (fun q => (stableEventId q.1.2.bundleId 0, q.2.slot))).Perm
          (facts.economicLegRecords.map (fun leg => (leg.eventId, slotOf leg))) :=
      hlegs.map_perm (fun _ _ _ _ hspec => Prod.ext hspec.eventId.symm hspec.slotOf.symm)
    rw [map_bookedSpecs] at hperm
    have hkeys := hperm.nodup_iff.1 (slotKeys_nodup hslots hbundles)
    refine (List.nodup_map_iff_inj_on hkeys.of_map).2 (fun leg hleg leg' hleg' hid => ?_)
    rcases hlegs.exists_left hleg with ⟨_, _, hspec⟩
    rcases hlegs.exists_left hleg' with ⟨_, _, hspec'⟩
    have hloads := congrArg Json.loads hid
    rw [hspec.legId, hspec'.legId, loads_stableLegId, loads_stableLegId] at hloads
    simp only [Option.some.injEq, Json.arr.injEq, List.cons.injEq, Json.str.injEq,
      Json.int.injEq, and_true] at hloads
    refine List.inj_on_of_nodup_map hkeys hleg hleg' (Prod.ext hloads.1 ?_)
    exact hspec.slotOf.trans (hloads.2.2.2.trans hspec'.slotOf.symm)

end

/-! ## A purchase -/

/-- The purchase of one bitcoin. -/
def bitcoinActivity : ClaimRecord where
  bundleId := "buy"
  claimId := "activity"
  kind := .activity
  effectiveAt := some newYear
  precision := some .timestamp
  activityLabel := "buy"
  locationClaimRef := "location"
  legSpecs :=
    [ { slot := 0
        role := "primary"
        quantity := oneBitcoin
        instrumentClaimRefs := ["instrument"]
        locationClaimRef := "location"
        subtype := "" } ]
  valid := rfl

/-- One accepted bundle, with a purchase and a statement of what it leaves. -/
def bitcoinPurchase : ClaimSet where
  claimSetId := "claims"
  claimRecords := bitcoinActivity :: balanceBundle "buy" oneBitcoin
  claimBundleDecisionRecords := [⟨"decision", .accepted, "buy"⟩]

/-- An environment that keeps texts and subjects apart. -/
def injectiveEnvironment : KernelEnvironment :=
  { bitcoinEnvironment with subjectText := fun subjectRef => Json.dumps subjectRef.payload }

lemma bookedActivities_bitcoinPurchase :
    bookedActivities bitcoinPurchase = [(⟨"decision", .accepted, "buy"⟩, bitcoinActivity)] := by
  decide +kernel

lemma exists_bitcoinFacts :
    ∃ facts, buildEconomicFacts injectiveEnvironment bitcoinPurchase = .ok facts :=
  exists_of_isOk (by decide +kernel)

theorem legs_book_specs_bitcoin :
    ∃ facts, buildEconomicFacts injectiveEnvironment bitcoinPurchase = .ok facts ∧
      Matched (BooksEvent bitcoinPurchase) (bookedActivities bitcoinPurchase)
        facts.economicEventRecords := by
  rcases exists_bitcoinFacts with ⟨facts, hfacts⟩
  exact ⟨facts, hfacts, (legs_book_specs hfacts).1⟩

theorem ids_nodup_bitcoin :
    ∃ facts, buildEconomicFacts injectiveEnvironment bitcoinPurchase = .ok facts ∧
      (facts.economicEventRecords.map (fun event => event.eventId)).Nodup ∧
        (facts.economicLegRecords.map (fun leg => leg.legId)).Nodup := by
  rcases exists_bitcoinFacts with ⟨facts, hfacts⟩
  have hbundles : ((bookedActivities bitcoinPurchase).map (fun p => p.2.bundleId)).Nodup := by
    rw [bookedActivities_bitcoinPurchase]
    decide
  refine ⟨facts, hfacts, (ids_nodup hfacts).1.2 hbundles, (ids_nodup hfacts).2 ?_ hbundles⟩
  rw [bookedActivities_bitcoinPurchase]
  decide

end Kernel
end Tallylot
