import Tallylot.Kernel.ReadyClaims

/-!
# Guarantees — when checkpoints certify what the claims state

Two claims of one position share their target id, and the lookup of a ready proposal finds the
target of the decisive one.  Every ready claim is certified with its own quantity exactly when the
decisive claims state it too (`certified_iff`), and a contradicted position stays uncertified exactly
when no ready claim is contradicted or the builder fails (`uncontradicted_iff`).
-/

namespace Tallylot
namespace Kernel

open Data Domain

section

variable {env : KernelEnvironment} {economicFacts : EconomicFacts} {claimSet : ClaimSet}
variable {evidenceSet : EvidenceSet} {inputs : ReconciliationInputs}
variable {states : List ReconciliationState}

lemma statesFromInputs_of_build
    (hinputs : reconciliationInputs env economicFacts claimSet = .ok inputs)
    (hstates : buildReconciliationStates env economicFacts claimSet evidenceSet = .ok states) :
    statesFromInputs env economicFacts.economicFactsId evidenceSet inputs = .ok states := by
  simpa only [buildReconciliationStates, hinputs, bind, Except.bind] using hstates

/-- The ready claims as claims of the inputs. -/
lemma ready_of_claim {observationRefs : List String} {ready : List (Segment × ClaimRecord)}
    (hperm : (ready.map (fun p => (p.1.subjectRef, p.2))).Perm
      (inputs.claims.filter (fun p => inputs.isReady observationRefs p.1 p.2)))
    {subjectRef : SubjectRef} {claim : ClaimRecord} (hmem : (subjectRef, claim) ∈ inputs.claims)
    (hready : inputs.isReady observationRefs subjectRef claim = true) :
    ∃ p ∈ ready, p.1.subjectRef = subjectRef ∧ p.2 = claim := by
  have hin : (subjectRef, claim) ∈
      inputs.claims.filter (fun p => inputs.isReady observationRefs p.1 p.2) :=
    List.mem_filter.2 ⟨hmem, hready⟩
  rcases List.mem_map.1 (hperm.mem_iff.2 hin) with ⟨p, hp, hpair⟩
  rcases Prod.mk.inj hpair with ⟨hsubject, hclaim⟩
  exact ⟨p, hp, hsubject, hclaim⟩

/-- Building succeeds when all decisive claims state what is expected. -/
lemma buildCheckpoints_ok_iff
    (hinputs : reconciliationInputs env economicFacts claimSet = .ok inputs)
    (hstates : buildReconciliationStates env economicFacts claimSet evidenceSet = .ok states) :
    (∃ checkpoints, buildCheckpoints env states = .ok checkpoints) ↔
      ∀ subjectRef claim d, (subjectRef, claim) ∈ inputs.claims →
        inputs.isReady (validObservationRefs evidenceSet) subjectRef claim = true →
        inputs.Decisive env subjectRef claim d → inputs.statesExpected subjectRef d = true := by
  have hbalance := claims_balance hinputs
  rcases readyRows_spec hinputs (statesFromInputs_of_build hinputs hstates) with
    ⟨ready, hrows, hperm, hready⟩
  rw [(buildCheckpoints_spec hrows).1]
  constructor
  · intro hcert subjectRef claim d hmem hisready hd
    rcases ready_of_claim hperm hmem hisready with ⟨p, hp, rfl, rfl⟩
    exact ((hready p hp).certifiable_iff hbalance hd).1
      (hcert _ (List.mem_map_of_mem hp))
  · intro hall row hrow
    rcases List.mem_map.1 hrow with ⟨p, hp, rfl⟩
    have hclaim := hready p hp
    have hd : inputs.Decisive env p.1.subjectRef p.2 _ :=
      (hclaim.segmentOf.decisive hclaim.mem _).2 rfl
    exact (hclaim.certifiable_iff hbalance hd).2
      (hall _ _ _ (ReconciliationInputs.mem_claimsOf.1 hclaim.mem) hclaim.ready hd)

/-- A claim of the inputs has a position. -/
lemma readyPositions_some (hbalance : ∀ p ∈ inputs.claims, p.2.kind = .balance)
    (observationRefs : List String) :
    (inputs.readyPositions observationRefs).map some =
      (inputs.claims.filter (fun p => inputs.isReady observationRefs p.1 p.2)).map (fun p =>
        ReconciliationInputs.claimPosition p.1 p.2) := by
  have hsome : ∀ xs : List (SubjectRef × ClaimRecord), (∀ p ∈ xs, p.2.kind = .balance) →
      (xs.filterMap (fun p => ReconciliationInputs.claimPosition p.1 p.2)).map some =
        xs.map (fun p => ReconciliationInputs.claimPosition p.1 p.2) := by
    intro xs hxs
    induction xs with
    | nil => rfl
    | cons p xs ih =>
        have htail := ih (fun q hq => hxs q (List.mem_cons_of_mem _ hq))
        rcases ClaimRecord.balance_fields (hxs p List.mem_cons_self) with
          ⟨⟨quantity, hquantity⟩, ⟨asOf, hasOf⟩, _⟩
        have hp : ReconciliationInputs.claimPosition p.1 p.2 =
            some (asOf, p.1, .quantity ⟨quantity, p.1⟩) := by
          simp [ReconciliationInputs.claimPosition, hasOf, hquantity]
        simp [hp, htail]
  exact hsome _ (fun p hp => hbalance p (List.mem_filter.1 hp).1)

end

/-! ## Two statements of one position -/

def bitcoinSubject : SubjectRef := positionSubjectRef "me" "coinbase" "asset:btc"

def newYear : Instant := ⟨2024, 1, 1, 0, 0, 0, 0, Instant.isDay_newYear⟩

def oneBitcoin : Decimal := ⟨1, 0, Decimal.one_canonical⟩

def twoBitcoin : Decimal := ⟨2, 0, by decide⟩

def bitcoinBuy : EconomicEventRecord where
  eventId := stableEventId "buy" 0
  claimBundleId := "buy"
  claimBundleDecisionId := "buy"
  kind := .assetMovement
  effectiveAt := newYear
  recordedAt := newYear
  lifecycleEvent := .created
  beneficialOwnerRef := "me"

def bitcoinLeg (quantity : Decimal) (slot : Int) (nonzero : quantity ≠ 0) : EconomicLegRecord where
  legId := stableLegId (stableEventId "buy" 0) .holdingChange bitcoinSubject slot
  eventId := stableEventId "buy" 0
  role := .holdingChange
  subjectRef := bitcoinSubject
  instrumentRef := ["asset:btc"]
  locationRef := ["coinbase"]
  quantity := quantity
  instrumentRef_nonempty := by decide
  locationRef_nonempty := by decide
  quantity_nonzero := nonzero

lemma oneBitcoin_ne_zero : oneBitcoin ≠ 0 := by decide

def oneBitcoinLegs : List EconomicLegRecord := [bitcoinLeg oneBitcoin 0 oneBitcoin_ne_zero]

/-- Legs of one purchase at the start of the year. -/
def bitcoinFacts (legs : List EconomicLegRecord) : EconomicFacts where
  economicFactsId := "facts"
  claimSetRefs := ["claims"]
  economicEventRecords := [bitcoinBuy]
  economicLegRecords := legs

/-- The statement that a bundle makes. -/
def balanceClaim (bundleId : String) (quantity : Decimal) : ClaimRecord where
  bundleId := bundleId
  claimId := "balance"
  kind := .balance
  observationRefs := [bundleId]
  precision := some .timestamp
  locationClaimRef := "location"
  instrumentClaimRefs := ["instrument"]
  balanceKind := "spot"
  quantity := some quantity
  observedAt := some newYear
  valid := rfl

/-- A statement of a bitcoin balance at the start of the year, with the claims it refers to. -/
def balanceBundle (bundleId : String) (quantity : Decimal) : List ClaimRecord :=
  [ { bundleId := bundleId
      claimId := "owner"
      kind := .beneficialOwner
      beneficialOwnerRef := "me"
      valid := rfl },
    { bundleId := bundleId
      claimId := "location"
      kind := .location
      locationRef := "coinbase"
      locationGroupLabel := "Coinbase"
      locationLabel := "Coinbase"
      valid := rfl },
    { bundleId := bundleId
      claimId := "instrument"
      kind := .instrument
      scheme := "asset"
      value := "btc"
      instrumentKind := "crypto"
      valid := rfl },
    balanceClaim bundleId quantity ]

/-- Two accepted statements, in this order. -/
def twoStatements (first second : Decimal) : ClaimSet where
  claimSetId := "claims"
  claimRecords := balanceBundle "first" first ++ balanceBundle "second" second
  claimBundleDecisionRecords := [⟨"first", .accepted, "first"⟩, ⟨"second", .accepted, "second"⟩]

def bothObservations : EvidenceSet := ⟨[⟨"first"⟩, ⟨"second"⟩]⟩

/-- An environment that keeps texts apart. -/
def bitcoinEnvironment : KernelEnvironment where
  sha256 := id
  subjectText :=
    fun _ => "('position', (('me',), ('coinbase',), ('asset:btc',), None, 'held_position'))"
  repr := fun text => "'" ++ text ++ "'"
  upper := String.toUpper
  lower := String.toLower

def twoInputs (legs : List EconomicLegRecord) (first second : Decimal) : ReconciliationInputs where
  legs := legs.map (fun leg => ⟨leg, newYear⟩)
  claims :=
    [(bitcoinSubject, balanceClaim "first" first), (bitcoinSubject, balanceClaim "second" second)]

lemma twoInputs_ok (first second : Decimal) :
    reconciliationInputs bitcoinEnvironment (bitcoinFacts oneBitcoinLegs)
      (twoStatements first second) = .ok (twoInputs oneBitcoinLegs first second) := by
  rfl

lemma twoStates_ok (first second : Decimal) :
    ∃ states, buildReconciliationStates bitcoinEnvironment (bitcoinFacts oneBitcoinLegs)
      (twoStatements first second) bothObservations = .ok states :=
  ⟨_, rfl⟩

section

variable {legs : List EconomicLegRecord} {first second : Decimal}

lemma twoInputs_claimsOf :
    (twoInputs legs first second).claimsOf bitcoinSubject =
      [balanceClaim "first" first, balanceClaim "second" second] := by
  simp [ReconciliationInputs.claimsOf_eq, twoInputs]

lemma twoInputs_subject {subjectRef : SubjectRef} {claim : ClaimRecord} :
    (subjectRef, claim) ∈ (twoInputs legs first second).claims →
      subjectRef = bitcoinSubject ∧
        (claim = balanceClaim "first" first ∨ claim = balanceClaim "second" second) := by
  intro hmem
  rcases List.mem_cons.1 hmem with h | h
  · exact ⟨(Prod.mk.inj h).1, Or.inl (Prod.mk.inj h).2⟩
  · exact ⟨(Prod.mk.inj (List.mem_singleton.1 h)).1,
      Or.inr (Prod.mk.inj (List.mem_singleton.1 h)).2⟩

/-- The second statement is decisive for both. -/
lemma twoInputs_decisive {subjectRef : SubjectRef} {claim d : ClaimRecord}
    (hmem : (subjectRef, claim) ∈ (twoInputs legs first second).claims)
    (hd : (twoInputs legs first second).Decisive bitcoinEnvironment subjectRef claim d) :
    subjectRef = bitcoinSubject ∧ d = balanceClaim "second" second := by
  rcases hd with ⟨segment, hmade, hlast⟩
  rcases twoInputs_subject hmem with ⟨rfl, hclaim⟩
  have hordered :
      segment.orderedClaims ((twoInputs legs first second).claimsOf bitcoinSubject) =
        [balanceClaim "first" first, balanceClaim "second" second] := by
    rw [twoInputs_claimsOf]
    exact List.Pairwise.insertionSort_eq (by simp [Segment.asOf, balanceClaim])
  have hid : ∀ bundleId quantity,
      segment.targetId bitcoinEnvironment (balanceClaim bundleId quantity) =
        segment.targetId bitcoinEnvironment claim := by
    intro bundleId quantity
    have hasOf : segment.asOf (balanceClaim bundleId quantity) = segment.asOf claim := by
      rcases hclaim with rfl | rfl <;> rfl
    simp only [Segment.targetId, Segment.expectedValue, hasOf]
  rw [hordered] at hlast
  simp only [List.filter_cons, hid, decide_true, if_true, List.filter_nil] at hlast
  exact ⟨rfl, (Option.some.inj hlast).symm⟩

lemma twoInputs_exists_decisive {claim : ClaimRecord}
    (hmem : (bitcoinSubject, claim) ∈ (twoInputs legs first second).claims) :
    (twoInputs legs first second).Decisive bitcoinEnvironment bitcoinSubject claim
      (balanceClaim "second" second) := by
  have hsegment : ∃ segment, segmentForSubject bitcoinSubject
      ((twoInputs legs first second).legsOf bitcoinSubject)
      ((twoInputs legs first second).claimsOf bitcoinSubject) = .ok segment := by
    rw [twoInputs_claimsOf]
    cases (twoInputs legs first second).legsOf bitcoinSubject with
    | nil => exact ⟨_, rfl⟩
    | cons leg legs => exact ⟨_, rfl⟩
  rcases hsegment with ⟨segment, hmade⟩
  have hd : (twoInputs legs first second).Decisive bitcoinEnvironment bitcoinSubject claim _ :=
    ⟨segment, hmade, segment.decisive_eq_some bitcoinEnvironment
      (mem_sortedOn.2 (ReconciliationInputs.mem_claimsOf.2 hmem))⟩
  rwa [(twoInputs_decisive hmem hd).2] at hd

lemma twoInputs_expected (hlegs : ∀ leg ∈ legs, leg.subjectRef = bitcoinSubject) :
    expectedQuantity ((twoInputs legs first second).legsOf bitcoinSubject) newYear =
      legs.foldl (fun quantity leg => quantity + leg.quantity) 0 := by
  have hall : (twoInputs legs first second).legsOf bitcoinSubject =
      (twoInputs legs first second).legs := by
    rw [ReconciliationInputs.legsOf_eq]
    refine List.filter_eq_self.2 ?_
    intro leg hleg
    rcases List.mem_map.1 hleg with ⟨record, hrecord, rfl⟩
    simpa using hlegs record hrecord
  rw [hall]
  simp [expectedQuantity, twoInputs, List.foldl_map]

lemma twoInputs_statesExpected (hlegs : ∀ leg ∈ legs, leg.subjectRef = bitcoinSubject)
    (bundleId : String) (quantity : Decimal) :
    (twoInputs legs first second).statesExpected bitcoinSubject (balanceClaim bundleId quantity) =
      decide (quantity = legs.foldl (fun quantity leg => quantity + leg.quantity) 0) := by
  rw [← @twoInputs_expected legs first second hlegs]
  simp only [ReconciliationInputs.statesExpected, balanceClaim]

end

lemma oneBitcoin_statesExpected (first second : Decimal) (bundleId : String) (quantity : Decimal) :
    (twoInputs oneBitcoinLegs first second).statesExpected bitcoinSubject
      (balanceClaim bundleId quantity) = decide (quantity = oneBitcoin) := by
  have hsum : oneBitcoinLegs.foldl (fun quantity leg => quantity + leg.quantity) 0 = oneBitcoin := by
    decide +kernel
  rw [twoInputs_statesExpected (by simp [oneBitcoinLegs, bitcoinLeg]), hsum]

lemma oneBitcoin_isReady (first second : Decimal) {bundleId : String}
    (hbundle : bundleId ∈ validObservationRefs bothObservations) :
    (twoInputs oneBitcoinLegs first second).isReady (validObservationRefs bothObservations)
      bitcoinSubject (balanceClaim bundleId oneBitcoin) = true := by
  rw [ReconciliationInputs.isReady, oneBitcoin_statesExpected]
  simp [balanceClaim, hbundle]

/-! ## One assertion for each ready claim -/

section

variable {env : KernelEnvironment} {economicFacts : EconomicFacts} {claimSet : ClaimSet}
variable {evidenceSet : EvidenceSet} {inputs : ReconciliationInputs}
variable {states : List ReconciliationState}

/-- Every ready claim yields one assertion of its instant, subject and quantity exactly when the
decisive claim of each ready claim states the expected quantity, and the same one. -/
theorem certified_iff
    (hinputs : reconciliationInputs env economicFacts claimSet = .ok inputs)
    (hstates : buildReconciliationStates env economicFacts claimSet evidenceSet = .ok states) :
    (∃ checkpoints, buildCheckpoints env states = .ok checkpoints ∧
      (certifiedPositions checkpoints).Perm
        (inputs.readyPositions (validObservationRefs evidenceSet))) ↔
    ∀ subjectRef claim d, (subjectRef, claim) ∈ inputs.claims →
      inputs.isReady (validObservationRefs evidenceSet) subjectRef claim = true →
      inputs.Decisive env subjectRef claim d →
        inputs.statesExpected subjectRef d = true ∧ d.quantity = claim.quantity := by
  have hbalance := claims_balance hinputs
  have hbuild := buildCheckpoints_ok_iff hinputs hstates
  rcases readyRows_spec hinputs (statesFromInputs_of_build hinputs hstates) with
    ⟨ready, hrows, hperm, hready⟩
  have hpositions : ((inputs.readyPositions (validObservationRefs evidenceSet)).map some).Perm
      (ready.map (fun p => ReconciliationInputs.claimPosition p.1.subjectRef p.2)) := by
    rw [readyPositions_some hbalance]
    simpa [Function.comp_def] using
      (hperm.map (fun p => ReconciliationInputs.claimPosition p.1 p.2)).symm
  constructor
  · rintro ⟨checkpoints, hok, hcertified⟩ subjectRef claim d hmem hisready hd
    refine ⟨hbuild.1 ⟨checkpoints, hok⟩ subjectRef claim d hmem hisready hd, ?_⟩
    rcases ready_of_claim hperm hmem hisready with ⟨p, hp, rfl, rfl⟩
    have hclaim := hready p hp
    rcases claim_fields hbalance hclaim.mem with ⟨⟨quantity, hquantity⟩, asOf, hasOf⟩
    have hown : some (asOf, p.1.subjectRef,
        AssertionValue.quantity ⟨quantity, p.1.subjectRef⟩) ∈
          (ready.map (fun p => ReconciliationInputs.claimPosition p.1.subjectRef p.2)) := by
      refine List.mem_map.2 ⟨p, hp, ?_⟩
      simp [ReconciliationInputs.claimPosition, hasOf, hquantity]
    have hcertifiedRow := ((hcertified.map some).trans hpositions).mem_iff.2 hown
    have hrow := ((buildCheckpoints_spec hrows).2 checkpoints hok).1.mem_iff.1 hcertifiedRow
    -- the certified position is that of some ready claim of the same subject and instant
    rcases List.mem_map.1 hrow with ⟨row, hrowmem, hposition⟩
    rcases List.mem_map.1 hrowmem with ⟨q, hq, rfl⟩
    have hqclaim := hready q hq
    rcases hqclaim.rowPosition hbalance with
      ⟨asOf', quantity', d', hd', hasOf', hquantity', _, hposition'⟩
    rw [hposition'] at hposition
    simp only [Option.some.injEq, Prod.mk.injEq, AssertionValue.quantity.injEq,
      QuantityValue.mk.injEq] at hposition
    rcases hposition with ⟨rfl, hsubject, rfl, _⟩
    have hsegment : q.1 = p.1 := by
      have hmade := hqclaim.segmentOf.made
      rw [hsubject] at hmade
      exact Except.ok.inj (hmade.symm.trans hclaim.segmentOf.made)
    rw [hsegment] at hd'
    have hqmem : q.2 ∈ inputs.claimsOf p.1.subjectRef := hsubject ▸ hqclaim.mem
    have hsame : d' = d := by
      rw [← (hclaim.segmentOf.decisive hqmem d').1 hd', ← (hclaim.segmentOf.decisive hclaim.mem d).1 hd]
      refine p.1.decisive_congr env (mem_sortedOn.2 hqmem) (mem_sortedOn.2 hclaim.mem) ?_
      simp [Segment.asOf, hasOf, hasOf']
    rw [← hsame, hquantity', hquantity]
  · intro hall
    rcases hbuild.2 (fun s c d hmem hr hd => (hall s c d hmem hr hd).1) with ⟨checkpoints, hok⟩
    refine ⟨checkpoints, hok, ?_⟩
    refine (List.map_perm_map_iff (Option.some_injective _)).1 ?_
    refine (((buildCheckpoints_spec hrows).2 checkpoints hok).1.trans ?_).trans hpositions.symm
    rw [List.map_map]
    refine List.Perm.of_eq (List.map_congr_left ?_)
    intro p hp
    have hclaim := hready p hp
    rcases hclaim.rowPosition hbalance with
      ⟨asOf, quantity, d, hd, hasOf, hquantity, _, hposition⟩
    have hsame := (hall _ _ d (ReconciliationInputs.mem_claimsOf.1 hclaim.mem) hclaim.ready hd).2
    rw [Function.comp_apply]
    refine hposition.trans ?_
    simp [ReconciliationInputs.claimPosition, hasOf, ← hsame, hquantity]

end

/-- A matching statement before a contradicting one: the builder raises. -/
theorem later_statement_refuses :
    ∃ states, buildReconciliationStates bitcoinEnvironment (bitcoinFacts oneBitcoinLegs)
        (twoStatements oneBitcoin twoBitcoin) bothObservations = .ok states ∧
      ∀ checkpoints, buildCheckpoints bitcoinEnvironment states ≠ .ok checkpoints := by
  rcases twoStates_ok oneBitcoin twoBitcoin with ⟨states, hstates⟩
  refine ⟨states, hstates, ?_⟩
  intro checkpoints hok
  have hmem : (bitcoinSubject, balanceClaim "first" oneBitcoin) ∈
      (twoInputs oneBitcoinLegs oneBitcoin twoBitcoin).claims := List.mem_cons_self
  have hready := oneBitcoin_isReady oneBitcoin twoBitcoin (by decide : "first" ∈ _)
  have hexpected := (buildCheckpoints_ok_iff (twoInputs_ok _ _) hstates).1 ⟨checkpoints, hok⟩
    bitcoinSubject _ _ hmem hready (twoInputs_exists_decisive hmem)
  rw [oneBitcoin_statesExpected] at hexpected
  exact absurd hexpected (by decide)

/-- Two equal statements: both are certified. -/
theorem equal_statements_certified :
    ∃ states, buildReconciliationStates bitcoinEnvironment (bitcoinFacts oneBitcoinLegs)
        (twoStatements oneBitcoin oneBitcoin) bothObservations = .ok states ∧
      ∃ checkpoints, buildCheckpoints bitcoinEnvironment states = .ok checkpoints ∧
        (certifiedPositions checkpoints).Perm
          ((twoInputs oneBitcoinLegs oneBitcoin oneBitcoin).readyPositions
            (validObservationRefs bothObservations)) := by
  rcases twoStates_ok oneBitcoin oneBitcoin with ⟨states, hstates⟩
  refine ⟨states, hstates, (certified_iff (twoInputs_ok _ _) hstates).2 ?_⟩
  intro subjectRef claim d hmem _ hd
  rcases twoInputs_decisive hmem hd with ⟨rfl, rfl⟩
  refine ⟨by simp [oneBitcoin_statesExpected], ?_⟩
  rcases (twoInputs_subject hmem).2 with rfl | rfl <;> rfl

/-! ## Contradicted positions -/

section

variable {env : KernelEnvironment} {economicFacts : EconomicFacts} {claimSet : ClaimSet}
variable {evidenceSet : EvidenceSet} {inputs : ReconciliationInputs}
variable {states : List ReconciliationState}

/-- No filing-ready assertion stands for a position that an accepted claim contradicts. -/
def Uncontradicted (inputs : ReconciliationInputs) (checkpoints : List Checkpoint) : Prop :=
  ∀ checkpoint ∈ checkpoints, ∀ a ∈ checkpoint.checkpointAssertionRecords,
    a.trustLevel = .filingReady → ∀ claim, (a.subjectRef, claim) ∈ inputs.claims →
      claim.observedAt = some a.asOf →
        claim.quantity = some (expectedQuantity (inputs.legsOf a.subjectRef) a.asOf)

/-- Every assertion comes from the row of a ready claim. -/
lemma ready_of_assertion
    (hinputs : reconciliationInputs env economicFacts claimSet = .ok inputs)
    (hstates : buildReconciliationStates env economicFacts claimSet evidenceSet = .ok states)
    {checkpoints : List Checkpoint} (hok : buildCheckpoints env states = .ok checkpoints)
    {checkpoint : Checkpoint} (hcheckpoint : checkpoint ∈ checkpoints)
    {a : CheckpointAssertionRecord} (ha : a ∈ checkpoint.checkpointAssertionRecords) :
    ∃ p, ReadyClaim inputs (validObservationRefs evidenceSet) p ∧
      rowPosition (readyClaimRow env economicFacts.economicFactsId
        (validObservationRefs evidenceSet) inputs p) =
          some (a.asOf, a.subjectRef, a.acceptedValue) := by
  rcases readyRows_spec hinputs (statesFromInputs_of_build hinputs hstates) with
    ⟨ready, hrows, _, hready⟩
  have hmem : some (a.asOf, a.subjectRef, a.acceptedValue) ∈
      (certifiedPositions checkpoints).map some :=
    List.mem_map_of_mem (List.mem_flatMap.2 ⟨checkpoint, hcheckpoint, List.mem_map_of_mem ha⟩)
  have hpositions := ((buildCheckpoints_spec hrows).2 checkpoints hok).1
  rcases List.mem_map.1 (hpositions.mem_iff.1 hmem) with ⟨row, hrow, hposition⟩
  rcases List.mem_map.1 hrow with ⟨p, hp, rfl⟩
  exact ⟨p, hready p hp, hposition⟩

/-- The positions of the assertions are those of the ready claims. -/
lemma assertion_of_ready
    (hinputs : reconciliationInputs env economicFacts claimSet = .ok inputs)
    (hstates : buildReconciliationStates env economicFacts claimSet evidenceSet = .ok states)
    {checkpoints : List Checkpoint} (hok : buildCheckpoints env states = .ok checkpoints)
    (subjectRef : SubjectRef) (asOf : Instant) :
    (∃ checkpoint ∈ checkpoints, ∃ a ∈ checkpoint.checkpointAssertionRecords,
      a.subjectRef = subjectRef ∧ a.asOf = asOf) ↔
      ∃ claim, (subjectRef, claim) ∈ inputs.claims ∧ claim.observedAt = some asOf ∧
        inputs.isReady (validObservationRefs evidenceSet) subjectRef claim = true := by
  have hbalance := claims_balance hinputs
  rcases readyRows_spec hinputs (statesFromInputs_of_build hinputs hstates) with
    ⟨ready, hrows, hperm, hready⟩
  have hpositions := ((buildCheckpoints_spec hrows).2 checkpoints hok).1
  constructor
  · rintro ⟨checkpoint, hcheckpoint, a, ha, rfl, rfl⟩
    rcases ready_of_assertion hinputs hstates hok hcheckpoint ha with ⟨p, hclaim, hposition⟩
    rcases hclaim.rowPosition hbalance with ⟨asOf', quantity, d, _, hasOf, _, _, hposition'⟩
    rw [hposition'] at hposition
    simp only [Option.some.injEq, Prod.mk.injEq] at hposition
    rcases hposition with ⟨hat, hsubject, _⟩
    rw [← hat, ← hsubject]
    exact ⟨p.2, ReconciliationInputs.mem_claimsOf.1 hclaim.mem, hasOf, hclaim.ready⟩
  · rintro ⟨claim, hmem, hasOf, hisready⟩
    rcases ready_of_claim hperm hmem hisready with ⟨p, hp, rfl, rfl⟩
    have hclaim := hready p hp
    rcases hclaim.rowPosition hbalance with ⟨asOf', quantity, d, _, hasOf', _, _, hposition⟩
    have hsame : asOf' = asOf := Option.some.inj (hasOf'.symm.trans hasOf)
    have hrow := hpositions.mem_iff.2
      (List.mem_map.2 ⟨_, List.mem_map_of_mem hp, hposition⟩)
    rcases List.mem_map.1 hrow with ⟨position, hcertified, hpos⟩
    rcases List.mem_flatMap.1 hcertified with ⟨checkpoint, hcheckpoint, hmap⟩
    rcases List.mem_map.1 hmap with ⟨a, ha, rfl⟩
    simp only [Option.some.injEq, Prod.mk.injEq] at hpos
    exact ⟨checkpoint, hcheckpoint, a, ha, hpos.2.1, hpos.1.trans hsame⟩

/-- Every assertion is filing-ready. -/
lemma filingReady_of_build
    (hinputs : reconciliationInputs env economicFacts claimSet = .ok inputs)
    (hstates : buildReconciliationStates env economicFacts claimSet evidenceSet = .ok states)
    {checkpoints : List Checkpoint} (hok : buildCheckpoints env states = .ok checkpoints)
    {checkpoint : Checkpoint} (hcheckpoint : checkpoint ∈ checkpoints)
    {a : CheckpointAssertionRecord} (ha : a ∈ checkpoint.checkpointAssertionRecords) :
    a.trustLevel = .filingReady := by
  rcases readyRows_spec hinputs (statesFromInputs_of_build hinputs hstates) with
    ⟨ready, hrows, _, _⟩
  exact ((buildCheckpoints_spec hrows).2 checkpoints hok).2 checkpoint hcheckpoint a ha

/-- A contradicted position is never certified exactly when no ready claim is contradicted by an
accepted claim of its subject and instant, or the builder fails at some decisive claim. -/
theorem uncontradicted_iff
    (hinputs : reconciliationInputs env economicFacts claimSet = .ok inputs)
    (hstates : buildReconciliationStates env economicFacts claimSet evidenceSet = .ok states) :
    (∀ checkpoints, buildCheckpoints env states = .ok checkpoints →
      Uncontradicted inputs checkpoints) ↔
    (∀ subjectRef claim claim', (subjectRef, claim) ∈ inputs.claims →
      (subjectRef, claim') ∈ inputs.claims →
      inputs.isReady (validObservationRefs evidenceSet) subjectRef claim = true →
      claim'.observedAt = claim.observedAt → claim'.quantity = claim.quantity) ∨
    ∃ subjectRef claim d, (subjectRef, claim) ∈ inputs.claims ∧
      inputs.isReady (validObservationRefs evidenceSet) subjectRef claim = true ∧
      inputs.Decisive env subjectRef claim d ∧ inputs.statesExpected subjectRef d = false := by
  have hbuild := buildCheckpoints_ok_iff hinputs hstates
  -- a ready claim states the expected quantity of its instant
  have hstated : ∀ subjectRef claim asOf,
      inputs.isReady (validObservationRefs evidenceSet) subjectRef claim = true →
      claim.observedAt = some asOf →
        claim.quantity = some (expectedQuantity (inputs.legsOf subjectRef) asOf) := by
    intro subjectRef claim asOf hisready hasOf
    have hexpected := (Bool.and_eq_true_iff.1 hisready).1
    unfold ReconciliationInputs.statesExpected at hexpected
    cases hq : claim.quantity with
    | none => simp [hasOf, hq] at hexpected
    | some quantity =>
        simp only [hasOf, hq, decide_eq_true_eq] at hexpected
        rw [hexpected]
  constructor
  · intro hsafe
    by_cases hfail : ∃ subjectRef claim d, (subjectRef, claim) ∈ inputs.claims ∧
        inputs.isReady (validObservationRefs evidenceSet) subjectRef claim = true ∧
        inputs.Decisive env subjectRef claim d ∧ inputs.statesExpected subjectRef d = false
    · exact Or.inr hfail
    · refine Or.inl ?_
      have hok : ∃ checkpoints, buildCheckpoints env states = .ok checkpoints := by
        refine hbuild.2 ?_
        intro subjectRef claim d hmem hisready hd
        by_contra hwrong
        exact hfail ⟨subjectRef, claim, d, hmem, hisready, hd, by simpa using hwrong⟩
      rcases hok with ⟨checkpoints, hok⟩
      intro subjectRef claim claim' hmem hmem' hisready hsame
      rcases claim_fields (claims_balance hinputs) (ReconciliationInputs.mem_claimsOf.2 hmem) with
        ⟨_, asOf, hasOf⟩
      rcases (assertion_of_ready hinputs hstates hok subjectRef asOf).2
        ⟨claim, hmem, hasOf, hisready⟩ with ⟨checkpoint, hcheckpoint, a, ha, rfl, rfl⟩
      have htrust := filingReady_of_build hinputs hstates hok hcheckpoint ha
      rw [hstated _ claim _ hisready hasOf]
      exact hsafe checkpoints hok checkpoint hcheckpoint a ha htrust claim' hmem'
        (hsame.trans hasOf)
  · rintro (hnone | ⟨subjectRef, claim, d, hmem, hisready, hd, hwrong⟩) checkpoints hok
    · intro checkpoint hcheckpoint a ha _ claim' hmem' hasOf'
      rcases (assertion_of_ready hinputs hstates hok a.subjectRef a.asOf).1
        ⟨checkpoint, hcheckpoint, a, ha, rfl, rfl⟩ with ⟨claim, hmem, hasOf, hisready⟩
      rw [hnone _ claim claim' hmem hmem' hisready (hasOf'.trans hasOf.symm)]
      exact hstated _ claim _ hisready hasOf
    · have hexpected := hbuild.1 ⟨checkpoints, hok⟩ subjectRef claim d hmem hisready hd
      rw [hwrong] at hexpected
      cases hexpected

end

/-- A contradicting statement before a matching one: the position is certified. -/
theorem earlier_statement_masked :
    ∃ states checkpoints,
      reconciliationInputs bitcoinEnvironment (bitcoinFacts oneBitcoinLegs)
          (twoStatements twoBitcoin oneBitcoin) = .ok (twoInputs oneBitcoinLegs twoBitcoin oneBitcoin) ∧
      buildReconciliationStates bitcoinEnvironment (bitcoinFacts oneBitcoinLegs)
          (twoStatements twoBitcoin oneBitcoin) bothObservations = .ok states ∧
      buildCheckpoints bitcoinEnvironment states = .ok checkpoints ∧
      ¬Uncontradicted (twoInputs oneBitcoinLegs twoBitcoin oneBitcoin) checkpoints := by
  rcases twoStates_ok twoBitcoin oneBitcoin with ⟨states, hstates⟩
  have hinputs := twoInputs_ok twoBitcoin oneBitcoin
  have hsecond : (bitcoinSubject, balanceClaim "second" oneBitcoin) ∈
      (twoInputs oneBitcoinLegs twoBitcoin oneBitcoin).claims := List.mem_cons_of_mem _ List.mem_cons_self
  have hready := oneBitcoin_isReady twoBitcoin oneBitcoin (by decide : "second" ∈ _)
  have hok : ∃ checkpoints, buildCheckpoints bitcoinEnvironment states = .ok checkpoints := by
    refine (buildCheckpoints_ok_iff hinputs hstates).2 ?_
    intro subjectRef claim d hmem _ hd
    rcases twoInputs_decisive hmem hd with ⟨rfl, rfl⟩
    simp [oneBitcoin_statesExpected]
  rcases hok with ⟨checkpoints, hok⟩
  refine ⟨states, checkpoints, hinputs, hstates, hok, ?_⟩
  intro hsafe
  rcases (assertion_of_ready hinputs hstates hok bitcoinSubject newYear).2
    ⟨_, hsecond, rfl, hready⟩ with ⟨checkpoint, hcheckpoint, a, ha, hsubject, hasOf⟩
  have htrust := filingReady_of_build hinputs hstates hok hcheckpoint ha
  have hstated := hsafe checkpoint hcheckpoint a ha htrust (balanceClaim "first" twoBitcoin)
    (by rw [hsubject]; exact List.mem_cons_self) (by rw [hasOf]; rfl)
  have hfirst := oneBitcoin_statesExpected twoBitcoin oneBitcoin "first" twoBitcoin
  rw [hsubject, hasOf] at hstated
  simp only [ReconciliationInputs.statesExpected, balanceClaim] at hfirst
  rw [← Option.some.inj hstated] at hfirst
  exact absurd hfirst (by decide)

/-- Two equal statements contradict nothing. -/
theorem equal_statements_uncontradicted :
    ∃ states, buildReconciliationStates bitcoinEnvironment (bitcoinFacts oneBitcoinLegs)
        (twoStatements oneBitcoin oneBitcoin) bothObservations = .ok states ∧
      ∀ checkpoints, buildCheckpoints bitcoinEnvironment states = .ok checkpoints →
        Uncontradicted (twoInputs oneBitcoinLegs oneBitcoin oneBitcoin) checkpoints := by
  rcases twoStates_ok oneBitcoin oneBitcoin with ⟨states, hstates⟩
  refine ⟨states, hstates, (uncontradicted_iff (twoInputs_ok _ _) hstates).2 (Or.inl ?_)⟩
  have hquantity : ∀ subjectRef claim,
      (subjectRef, claim) ∈ (twoInputs oneBitcoinLegs oneBitcoin oneBitcoin).claims →
        claim.quantity = some oneBitcoin := by
    intro subjectRef claim hmem
    rcases (twoInputs_subject hmem).2 with rfl | rfl <;> rfl
  intro subjectRef claim claim' hmem hmem' _ _
  rw [hquantity _ _ hmem, hquantity _ _ hmem']

end Kernel
end Tallylot
