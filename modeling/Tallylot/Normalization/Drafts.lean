import Tallylot.Data.Parts
import Tallylot.Domain.Instruments
import Tallylot.Domain.Issues
import Tallylot.Transactions.Facts

/-!
# Drafts — activity drafts and the facts they compile to

An adapter translates a capture to activity drafts, whose legs claim instruments.  A draft is built
only if it makes a fact with placeholders for the instruments.  Compiling resolves the claims: a draft
becomes a fact if all of them resolve, and else an issue and a review for each leg that is blocked.
-/

namespace Tallylot
namespace Normalization

open Data Domain Transactions

/-! ## Drafts -/

structure EconomicLegDraftFields where
  legId : String
  kind : LegKind
  instrumentIdentityClaims : List InstrumentIdentityClaim
  quantity : Decimal
  subtype : Option String := none
  attributedToLegId : Option String := none
  locationId : Option String := none

/-- The leg of an instrument that a draft describes. -/
def EconomicLegDraftFields.legOf (leg : EconomicLegDraftFields) (instrumentId : String) :
    EconomicLegFields where
  legId := leg.legId
  kind := leg.kind
  instrumentId := instrumentId
  quantity := leg.quantity
  subtype := leg.subtype
  attributedToLegId := leg.attributedToLegId
  locationId := leg.locationId

/-- `EconomicLegDraft.__post_init__` -/
def EconomicLegDraftFields.validate (leg : EconomicLegDraftFields) : Decoded Unit := do
  require (leg.instrumentIdentityClaims ≠ [])
    "draft leg must include at least one instrument identity claim"
  let _ ← economicLeg.build (leg.legOf "draft:placeholder")
  return ()

def economicLegDraft : Constructor EconomicLegDraftFields EconomicLegDraftFields :=
  checkedConstructor EconomicLegDraftFields.validate

abbrev EconomicLegDraft := economicLegDraft.Value

structure EconomicActivityDraftFields where
  activityId : String
  source : String
  adapterId : String
  timestamp : Instant
  locationId : String
  classification : FactSemantics
  legs : List EconomicLegDraft
  legPolicy : FactLegPolicy
  effectiveAt : Option Instant := none
  effectivePrecision : Option TemporalPrecision := none
  description : String := ""
  rawFile : String := ""
  rawRowRef : String := ""
  txHash : String := ""
  providerOperationKey : String := ""
  operationGroupId : String := ""
  confidence : String := "high"
  status : String := "mapped"

/-- The fact of a draft once its legs have instruments. -/
def EconomicActivityDraftFields.factOf (draft : EconomicActivityDraftFields)
    (legs : List Transactions.EconomicLeg) : TransactionFactFields where
  factId := draft.activityId
  source := draft.source
  adapterId := draft.adapterId
  timestamp := draft.timestamp
  locationId := draft.locationId
  semantics := draft.classification
  legs := legs
  legPolicy := draft.legPolicy
  description := draft.description
  providerOperationKey := draft.providerOperationKey
  operationGroupId := draft.operationGroupId
  txHash := if draft.txHash = "" then none else some draft.txHash
  rawFile := draft.rawFile
  rawRowRef := draft.rawRowRef
  confidence := draft.confidence
  status := draft.status
  effectiveAt := draft.effectiveAt
  effectivePrecision := draft.effectivePrecision

/-- `_validated_transaction_fact` -/
def validatedTransactionFact (draft : EconomicActivityDraftFields) : Decoded Transactions.TransactionFact := do
  let legs ← draft.legs.mapM (fun leg => economicLeg.build (leg.val.legOf "draft:placeholder"))
  transactionFact.build (draft.factOf legs)

/-- `effective_at` of a draft and its precision stand together. -/
def requireDraftEffective (effectiveAt : Option Instant)
    (effectivePrecision : Option TemporalPrecision) : Decoded Unit :=
  match effectiveAt, effectivePrecision with
  | none, none => .ok ()
  | none, some _ =>
      .error (.value "economic activity draft effective_precision requires effective_at")
  | some _, none =>
      .error (.value "economic activity draft effective_at requires effective_precision")
  | some value, some precision => do
      let _ ← requireTemporalDatetime value precision "economic activity draft effective_at"
      return ()

/-- `EconomicActivityDraft.__post_init__`; the times are in UTC. -/
def EconomicActivityDraftFields.postInit (draft : EconomicActivityDraftFields) :
    Decoded EconomicActivityDraftFields := do
  let locationId ← requireLocationId draft.locationId "economic activity draft location_id"
  requireDraftEffective draft.effectiveAt draft.effectivePrecision
  require (draft.legs ≠ []) "draft must include at least one leg"
  let _ ← validatedTransactionFact { draft with locationId := locationId }
  return { draft with locationId := locationId }

theorem draft_postInit_eq_ok_iff (draft built : EconomicActivityDraftFields) :
    draft.postInit = .ok built ↔
      ∃ location,
        requireLocationId draft.locationId "economic activity draft location_id" = .ok location ∧
        requireDraftEffective draft.effectiveAt draft.effectivePrecision = .ok () ∧
          draft.legs ≠ [] ∧
            (∃ fact, validatedTransactionFact { draft with locationId := location } = .ok fact) ∧
              built = { draft with locationId := location } := by
  simp only [EconomicActivityDraftFields.postInit, bind_eq_ok_iff, require_eq_ok_iff]
  constructor
  · rintro ⟨location, hlocation, _, heffective, _, hlegs, fact, hfact, hbuilt⟩
    exact ⟨location, hlocation, heffective, hlegs, ⟨fact, hfact⟩, (Except.ok.inj hbuilt).symm⟩
  · rintro ⟨location, hlocation, heffective, hlegs, ⟨fact, hfact⟩, rfl⟩
    exact ⟨location, hlocation, (), heffective, (), hlegs, fact, hfact, rfl⟩

def economicActivityDraft : Constructor EconomicActivityDraftFields EconomicActivityDraftFields where
  make := EconomicActivityDraftFields.postInit
  fields := id
  settled := by
    intro draft built h
    rcases (draft_postInit_eq_ok_iff draft built).1 h with
      ⟨location, hlocation, heffective, hlegs, hfact, rfl⟩
    exact (draft_postInit_eq_ok_iff _ _).2
      ⟨location, (requireLocationId_settled hlocation).2.2, heffective, hlegs, hfact, rfl⟩

abbrev EconomicActivityDraft := economicActivityDraft.Value

/-! ## Compiling -/

/-- A `ValueError` of a constructor. -/
def raised {α : Type} : Except String α → Decoded α
  | .ok a => .ok a
  | .error message => .error (.value message)

/-- `_blocking_identity_issue` -/
def blockingIdentityIssue (draft : EconomicActivityDraftFields) (legId : String) : IssueRecord where
  issueId := draft.activityId ++ ":" ++ legId ++ ":instrument_identity_blocked"
  source := draft.source
  adapterId := draft.adapterId
  severity := "high"
  kind := "instrument_identity_blocked"
  message :=
    "Activity " ++ draft.activityId ++ " could not resolve leg " ++ legId ++
      " to exactly one instrument."
  contextTimestamp := draft.timestamp.timestampText
  rawFile := draft.rawFile
  rawRowRef := draft.rawRowRef

def claimText (claim : InstrumentIdentityClaim) : String :=
  claim.scheme ++ "=" ++ claim.value ++
    (match claim.venue with
      | none => ""
      | some venue => if venue = "" then "" else "@" ++ venue)

/-- `_identity_review` -/
def identityReview (draft : EconomicActivityDraftFields) (legId : String)
    (claims : List InstrumentIdentityClaim) : NormalizationReviewRecord where
  reviewId := draft.activityId ++ ":" ++ legId ++ ":instrument_identity_review"
  source := draft.source
  adapterId := draft.adapterId
  scope := "activity"
  kind := "instrument_identity_review"
  message := "Review required for leg " ++ legId ++ " instrument identity claims."
  contextTimestamp := draft.timestamp.timestampText
  rawFile := draft.rawFile
  rawRowRef := draft.rawRowRef
  fieldName := "instrument_identity_claims"
  originalValue := ", ".intercalate (claims.map claimText)
  normalizedValue := ""

/-- A leg with its instrument, `none` where its claims do not agree on one. -/
def compileLeg (env : KernelEnvironment) (leg : EconomicLegDraft) : Decoded (Option Transactions.EconomicLeg) := do
  match ← raised (resolveInstrumentIdentity env leg.val.instrumentIdentityClaims) with
  | none => return none
  | some instrument =>
      let built ← economicLeg.build (leg.val.legOf instrument.instrumentId)
      return some built

structure CompiledDraft where
  fact : Option Transactions.TransactionFact
  issues : List IssueRecord
  reviews : List NormalizationReviewRecord

/-- `_compile_activity_draft` -/
def compileActivityDraft (env : KernelEnvironment) (draft : EconomicActivityDraft) :
    Decoded CompiledDraft := do
  let legs ← draft.val.legs.mapM (compileLeg env)
  let blocked := ((draft.val.legs.zip legs).filter (fun p => p.2.isNone)).map Prod.fst
  if blocked ≠ [] then
    return {
      fact := none
      issues := blocked.map (fun leg => blockingIdentityIssue draft.val leg.val.legId)
      reviews := blocked.map (fun leg =>
        identityReview draft.val leg.val.legId leg.val.instrumentIdentityClaims) }
  else
    let fact ← transactionFact.build (draft.val.factOf (legs.filterMap id))
    return { fact := some fact, issues := [], reviews := [] }

structure DraftCompilationResult where
  facts : List Transactions.TransactionFact
  issues : List IssueRecord
  reviews : List NormalizationReviewRecord

def compileActivityDraftsWithFeedback (env : KernelEnvironment)
    (drafts : List EconomicActivityDraft) : Decoded DraftCompilationResult := do
  let compiled ← drafts.mapM (compileActivityDraft env)
  return {
    facts := compiled.filterMap CompiledDraft.fact
    issues := compiled.flatMap CompiledDraft.issues
    reviews := compiled.flatMap CompiledDraft.reviews }

/-! ## What compiling keeps -/

/-- All claims of a draft agree on instruments. -/
def Resolved (env : KernelEnvironment) (draft : EconomicActivityDraft) : Prop :=
  ∀ leg ∈ draft.val.legs, ∃ instrument,
    resolveInstrumentIdentity env leg.val.instrumentIdentityClaims = .ok (some instrument)

section

variable {env : KernelEnvironment}

/-- A leg draft makes a leg of every instrument. -/
lemma exists_leg (leg : EconomicLegDraft) {instrumentId : String} (hid : instrumentId ≠ "") :
    ∃ built, economicLeg.build (leg.val.legOf instrumentId) = .ok built ∧
      ∀ placeholder, economicLeg.build (leg.val.legOf "draft:placeholder") = .ok placeholder →
        SameShape placeholder built := by
  have hvalid := checkedConstructor_accepted.1 leg.property
  rcases bind_eq_ok_iff.1 hvalid with ⟨_, _, hbuilds⟩
  rcases bind_eq_ok_iff.1 hbuilds with ⟨placeholder, hplaceholder, _⟩
  rcases (postInit_eq_ok_iff _ _).1 (economicLeg.make_of_build hplaceholder) with
    ⟨hshape, location, hlocation, hfields⟩
  have hmake : (leg.val.legOf instrumentId).postInit =
      .ok { leg.val.legOf instrumentId with locationId := location } :=
    (postInit_eq_ok_iff _ _).2
      ⟨⟨hshape.legId, hid, hshape.quantity, hshape.primary, hshape.attributed, hshape.subtype⟩,
        location, hlocation, rfl⟩
  refine ⟨_, economicLeg.build_of_make hmake, ?_⟩
  intro other hother
  rw [Except.ok.inj (hother.symm.trans hplaceholder)]
  constructor
  all_goals
    rw [hfields]
    rfl

lemma compileLeg_of_resolved {leg : EconomicLegDraft} {instrument : InstrumentRecord}
    (h : resolveInstrumentIdentity env leg.val.instrumentIdentityClaims = .ok (some instrument)) :
    ∃ built, compileLeg env leg = .ok (some built) ∧
      ∀ placeholder, economicLeg.build (leg.val.legOf "draft:placeholder") = .ok placeholder →
        SameShape placeholder built := by
  rcases exists_leg leg (resolved_instrumentId h) with ⟨built, hbuilt, hshape⟩
  refine ⟨built, ?_, hshape⟩
  rw [compileLeg, h, raised, bind_ok]
  dsimp only
  rw [hbuilt]
  rfl

/-- What the constructor of a draft checked. -/
lemma draft_valid (draft : EconomicActivityDraft) :
    ∃ fact, validatedTransactionFact draft.val = .ok fact := by
  have hmake := economicActivityDraft.make_fields draft.property
  rcases (draft_postInit_eq_ok_iff _ _).1 hmake with ⟨location, _, _, _, ⟨fact, hfact⟩, hbuilt⟩
  refine ⟨fact, ?_⟩
  rw [hbuilt]
  exact hfact

/-- Resolved drafts compile to a fact. -/
theorem exists_fact_of_resolved {draft : EconomicActivityDraft} (h : Resolved env draft) :
    ∃ fact, compileActivityDraft env draft =
      .ok { fact := some fact, issues := [], reviews := [] } := by
  rcases draft_valid draft with ⟨placeholderFact, hvalid⟩
  rcases bind_eq_ok_iff.1 hvalid with ⟨placeholders, hplaceholders, hfact⟩
  rcases mapM_ok_pairs hplaceholders with ⟨pairs, hfst, rfl, hpairs⟩
  -- every leg compiles to one of the shape of its placeholder
  have hleg : ∀ p ∈ pairs, ∃ built, compileLeg env p.1 = .ok (some built) ∧ SameShape p.2 built := by
    intro p hp
    rcases h p.1 (hfst ▸ List.mem_map_of_mem hp) with ⟨instrument, hinstrument⟩
    rcases compileLeg_of_resolved hinstrument with ⟨built, hbuilt, hshape⟩
    exact ⟨built, hbuilt, hshape p.2 (hpairs p hp)⟩
  have hlegs : ∃ built, (pairs.map Prod.fst).mapM (compileLeg env) = .ok (built.map some) ∧
      List.Forall₂ SameShape (pairs.map Prod.snd) built := by
    clear hfst hplaceholders hfact hpairs
    induction pairs with
    | nil => exact ⟨[], rfl, List.Forall₂.nil⟩
    | cons p pairs ih =>
        rcases hleg p List.mem_cons_self with ⟨built, hbuilt, hshape⟩
        rcases ih (fun q hq => hleg q (List.mem_cons_of_mem _ hq)) with ⟨rest, hrest, hshapes⟩
        refine ⟨built :: rest, ?_, List.Forall₂.cons hshape hshapes⟩
        rw [List.map_cons, List.mapM_cons, hbuilt, bind_ok, hrest]
        rfl
  rcases hlegs with ⟨legs, hcompiled, hshapes⟩
  rw [hfst] at hcompiled
  rcases (fact_postInit_eq_ok_iff _ _).1 (transactionFact.make_of_build hfact) with
    ⟨location, hlocation, heffective, hchecked, _⟩
  have hmake : (draft.val.factOf legs).postInit =
      .ok { draft.val.factOf legs with locationId := location } :=
    (fact_postInit_eq_ok_iff _ _).2 ⟨location, hlocation, heffective,
      validateFact_congr (fun _ => Iff.rfl) hshapes hchecked, rfl⟩
  have hblocked : ((draft.val.legs.zip (legs.map some)).filter (fun p => p.2.isNone)) = [] := by
    refine List.filter_eq_nil_iff.2 ?_
    intro p hp
    rcases List.mem_map.1 (List.of_mem_zip hp).2 with ⟨leg, _, hsome⟩
    rw [← hsome]
    exact Bool.false_ne_true
  have hid : legs.filterMap (id ∘ some) = legs := List.filterMap_some
  refine ⟨⟨_, _, hmake⟩, ?_⟩
  rw [compileActivityDraft, hcompiled, bind_ok]
  dsimp only
  rw [hblocked, List.map_nil, if_neg (not_not_intro rfl), List.filterMap_map, hid,
    transactionFact.build_of_make hmake]
  rfl

/-- A compiled fact has the fields of its draft, and legs that keep the policy. -/
lemma fields_of_compiled {draft : EconomicActivityDraft} {compiled : CompiledDraft}
    (h : compileActivityDraft env draft = .ok compiled) {fact : Transactions.TransactionFact}
    (hfact : compiled.fact = some fact) :
    ∃ legs location, fact.val = { draft.val.factOf legs with locationId := location } ∧
      validateFact legs draft.val.legPolicy = .ok () := by
  rcases bind_eq_ok_iff.1 h with ⟨legs, _, hmade⟩
  dsimp only at hmade
  split_ifs at hmade with hblocked
  · rw [← Except.ok.inj hmade] at hfact
    cases hfact
  · rcases bind_eq_ok_iff.1 hmade with ⟨built, hbuilt, hcompiled⟩
    rw [← Except.ok.inj hcompiled] at hfact
    rw [← Option.some.inj hfact]
    rcases (fact_postInit_eq_ok_iff _ _).1 (transactionFact.make_of_build hbuilt) with
      ⟨location, _, _, hlegs, hfields⟩
    exact ⟨_, location, hfields, hlegs⟩

/-- A fact has the time of its draft. -/
lemma timestamp_of_compiled {draft : EconomicActivityDraft} {compiled : CompiledDraft}
    (h : compileActivityDraft env draft = .ok compiled) {fact : Transactions.TransactionFact}
    (hfact : compiled.fact = some fact) : fact.val.timestamp = draft.val.timestamp := by
  rcases fields_of_compiled h hfact with ⟨legs, location, hfields, _⟩
  rw [hfields]
  rfl

/-- The legs of a compiled fact keep the policy of its draft. -/
lemma validateFact_of_compiled {draft : EconomicActivityDraft} {compiled : CompiledDraft}
    (h : compileActivityDraft env draft = .ok compiled) {fact : Transactions.TransactionFact}
    (hfact : compiled.fact = some fact) : validateFact fact.val.legs draft.val.legPolicy = .ok () := by
  rcases fields_of_compiled h hfact with ⟨legs, location, hfields, hlegs⟩
  rw [hfields]
  exact hlegs

/-- Resolved drafts compile. -/
theorem exists_compiled {drafts : List EconomicActivityDraft}
    (h : ∀ draft ∈ drafts, Resolved env draft) :
    ∃ result, compileActivityDraftsWithFeedback env drafts = .ok result := by
  have hcompiled : ∃ compiled, drafts.mapM (compileActivityDraft env) = .ok compiled := by
    refine exists_mapM_ok fun draft hdraft => ?_
    rcases exists_fact_of_resolved (h draft hdraft) with ⟨fact, hfact⟩
    exact ⟨_, hfact⟩
  rcases hcompiled with ⟨compiled, hcompiled⟩
  exact ⟨_, bind_eq_ok_iff.2 ⟨compiled, hcompiled, rfl⟩⟩

/-- Compiling the drafts of some times gives the facts of these times. -/
theorem compile_filter {drafts : List EconomicActivityDraft} {result : DraftCompilationResult}
    (h : compileActivityDraftsWithFeedback env drafts = .ok result) (keeps : Instant → Bool) :
    ∃ kept, compileActivityDraftsWithFeedback env
        (drafts.filter (fun draft => keeps draft.val.timestamp)) = .ok kept ∧
      kept.facts = result.facts.filter (fun fact => keeps fact.val.timestamp) := by
  rcases bind_eq_ok_iff.1 h with ⟨compiled, hcompiled, hmade⟩
  rcases mapM_ok_pairs hcompiled with ⟨pairs, rfl, rfl, hpairs⟩
  have hkept : (pairs.map Prod.fst).filter (fun draft => keeps draft.val.timestamp) =
      (pairs.filter (fun p => keeps p.1.val.timestamp)).map Prod.fst := by
    rw [List.filter_map]
    rfl
  have hmapM := mapM_ok_of_pairs
    (fun p (hp : p ∈ pairs.filter (fun p => keeps p.1.val.timestamp)) =>
      hpairs p (List.mem_filter.1 hp).1)
  refine ⟨_, by rw [compileActivityDraftsWithFeedback, hkept, hmapM]; rfl, ?_⟩
  rw [← Except.ok.inj hmade]
  dsimp only
  clear hkept hmapM hmade hcompiled h
  induction pairs with
  | nil => rfl
  | cons p pairs ih =>
      have hrest := ih (fun q hq => hpairs q (List.mem_cons_of_mem _ hq))
      have hp := hpairs p List.mem_cons_self
      cases hfact : p.2.fact with
      | none =>
          rw [List.map_cons, List.filterMap_cons_none hfact, ← hrest, List.filter_cons]
          split_ifs
          · rw [List.map_cons, List.filterMap_cons_none hfact]
          · rfl
      | some fact =>
          rw [List.map_cons, List.filterMap_cons_some hfact, List.filter_cons, List.filter_cons,
            timestamp_of_compiled hp hfact]
          split_ifs
          · rw [List.map_cons, List.filterMap_cons_some hfact, hrest]
          · exact hrest

/-- Resolved drafts have one fact each. -/
lemma length_of_resolved {drafts : List EconomicActivityDraft} {result : DraftCompilationResult}
    (h : compileActivityDraftsWithFeedback env drafts = .ok result)
    (hresolved : ∀ draft ∈ drafts, Resolved env draft) :
    result.facts.length = drafts.length := by
  rcases bind_eq_ok_iff.1 h with ⟨compiled, hcompiled, hmade⟩
  rcases mapM_ok_pairs hcompiled with ⟨pairs, rfl, rfl, hpairs⟩
  rw [← Except.ok.inj hmade]
  dsimp only
  have hsome : ∀ c ∈ pairs.map Prod.snd, (CompiledDraft.fact c).isSome = true := by
    intro c hc
    rcases List.mem_map.1 hc with ⟨p, hp, rfl⟩
    rcases exists_fact_of_resolved (hresolved p.1 (List.mem_map_of_mem hp)) with ⟨fact, hfact⟩
    rw [← Except.ok.inj (hfact.symm.trans (hpairs p hp))]
    rfl
  rw [List.length_filterMap_eq_countP, List.countP_eq_length.2 hsome, List.length_map,
    List.length_map]

end

end Normalization
end Tallylot
