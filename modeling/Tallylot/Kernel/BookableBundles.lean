import Tallylot.Kernel.BookedLegs

/-!
# BookableBundles — when economic facts can be built

Building fails at the first accepted bundle with several activities, or with one that has no event or a
leg without a position.  It succeeds exactly where no accepted bundle is of that kind
(`exists_economicFacts_iff`).
-/

namespace Tallylot
namespace Kernel

open Data Domain

/-! ## Identified instruments -/

lemma strip_scheme {scheme : String} (h : validIdentifierScheme scheme = true) :
    strip scheme = scheme := by
  refine strip_eq_self (fun c hc => ?_)
  have hchar : isSchemeChar c = true := by
    unfold validIdentifierScheme at h
    cases hchars : scheme.toList with
    | nil => simp [hchars] at hc
    | cons first rest =>
        rw [hchars] at h hc
        rw [Bool.and_eq_true, List.all_eq_true] at h
        rcases List.mem_cons.1 hc with rfl | hrest
        · rw [isSchemeChar, h.1, Bool.true_or, Bool.true_or]
        · exact h.2 c hrest
  simp only [isSchemeChar, Char.isDigit, Bool.or_eq_true, Bool.and_eq_true,
    decide_eq_true_eq] at hchar
  rcases hchar with (hlower | ⟨hleast, hmost⟩) | rfl
  · have hbounds := Bool.and_eq_true_iff.1 hlower
    have hleast : 97 ≤ c.toNat := of_decide_eq_true hbounds.1
    have hmost : c.toNat ≤ 122 := of_decide_eq_true hbounds.2
    exact not_isSpaceChar_of_visible (by omega) (by omega)
  · have hleast : 48 ≤ c.toNat := hleast
    have hmost : c.toNat ≤ 57 := hmost
    exact not_isSpaceChar_of_visible (by omega) (by omega)
  · decide

/-- An instrument claim that states an instrument. -/
structure Identified (env : KernelEnvironment) (claim : ClaimRecord) : Prop where
  kind : ∃ kind : InstrumentKind, claim.instrumentKind = kind.value
  scheme : validIdentifierScheme claim.scheme = true
  value : isBlank claim.value = false
  symbol : claim.scheme = "symbol" → isBlank (env.upper (strip claim.value)) = false

/-! ## Bookable bundles -/

/-- A bundle whose activity has an event, and a position for each of its legs. -/
structure Bookable (env : KernelEnvironment) (bundleClaims : List ClaimRecord)
    (activity : ClaimRecord) : Prop where
  effectiveAt : activity.effectiveAt.isSome = true
  kind : activity.activityLabel ∈
    ["reward_income", "asset_migration", "buy", "sell", "receive", "send"]
  owner : ∃ claim, bundleClaims.filter (fun claim => claim.kind = .beneficialOwner) = [claim]
  legs : ∀ legSpec ∈ activity.legSpecs, legSpec.quantity ≠ 0 ∧
    ((claimsById bundleClaims .location).get? legSpec.locationClaimRef).isSome = true ∧
      ∃ ref, legSpec.instrumentClaimRefs.head? = some ref ∧
        ∃ claim, (claimsById bundleClaims .instrument).get? ref = some claim ∧ Identified env claim

section

variable {env : KernelEnvironment} {claimSet : ClaimSet}

lemma exists_ofText_iff {text : String} :
    (∃ kind, InstrumentKind.ofText env text = .ok kind) ↔
      ∃ kind : InstrumentKind, text = kind.value := by
  unfold InstrumentKind.ofText
  constructor
  · rintro ⟨kind, h⟩
    split at h
    · rename_i found hfound
      have hvalue := List.find?_some hfound
      exact ⟨found, (of_decide_eq_true hvalue).symm⟩
    · cases h
  · rintro ⟨kind, rfl⟩
    cases kind <;> exact ⟨_, rfl⟩

lemma exists_normalizeClaim_iff {claim : InstrumentIdentityClaim}
    (hprecision : claim.precisionHint = none)
    (hscheme : validIdentifierScheme claim.scheme = true) :
    (∃ normalized, normalizeClaim env claim = .ok normalized) ↔
      isBlank (if claim.scheme = "symbol" then env.upper (strip claim.value)
        else strip claim.value) = false := by
  unfold normalizeClaim
  simp only [create_eq_ok_iff, exists_eq_left, hprecision, Option.any_none, and_true]
  rw [strip_scheme hscheme]
  exact and_iff_right hscheme

lemma isBlank_strip (text : String) : isBlank (strip text) = isBlank text := by
  rw [Bool.eq_iff_iff, isBlank_iff, isBlank_iff, strip_strip]

/-- Instruments are resolved where their claims identify them. -/
theorem exists_instrumentRef_iff {claim : ClaimRecord} :
    (∃ instrumentId, instrumentRef env claim = .ok instrumentId) ↔ Identified env claim := by
  have hresolve : ∀ identity : InstrumentIdentityClaim, identity.precisionHint = none →
      ((∃ instrumentId record, resolveInstrumentIdentity env [identity] = .ok (some record) ∧
        record.instrumentId = instrumentId) ↔
        ∃ normalized, normalizeClaim env identity = .ok normalized) := by
    intro identity hprecision
    refine (exists_congr (fun instrumentId => resolve_single hprecision instrumentId)).trans ?_
    exact ⟨fun ⟨_, normalized, h, _⟩ => ⟨normalized, h⟩,
      fun ⟨normalized, h⟩ => ⟨_, normalized, h, rfl⟩⟩
  unfold instrumentRef instrumentIdentity
  simp only [except_bind_eq_ok, create_eq_ok_iff]
  constructor
  · rintro ⟨instrumentId, found, ⟨kind, hkind, identity, ⟨rfl, hscheme, hvalue, _⟩, hfound⟩, h⟩
    cases found with
    | none => cases h
    | some record =>
        have hnormalized := (hresolve _ rfl).1 ⟨_, record, hfound, rfl⟩
        rw [exists_normalizeClaim_iff rfl hscheme] at hnormalized
        refine ⟨exists_ofText_iff.1 ⟨kind, hkind⟩, hscheme, hvalue, fun hsymbol => ?_⟩
        rwa [if_pos hsymbol] at hnormalized
  · intro h
    rcases exists_ofText_iff.2 h.kind with ⟨kind, hkind⟩
    have hblank : isBlank (if claim.scheme = "symbol" then env.upper (strip claim.value)
        else strip claim.value) = false := by
      split_ifs with hsymbol
      · exact h.symbol hsymbol
      · rw [isBlank_strip]
        exact h.value
    rcases (hresolve ⟨claim.scheme, claim.value,
      if claim.venue = "" then none else some claim.venue, kind, claim.name, none⟩ rfl).2
        ((exists_normalizeClaim_iff rfl h.scheme).2 hblank) with ⟨instrumentId, record, hfound, hid⟩
    exact ⟨instrumentId, some record, ⟨kind, hkind, _, ⟨rfl, h.scheme, h.value, rfl⟩, hfound⟩,
      congrArg Except.ok hid⟩

lemma exists_eventKind_iff {activityKind : String} :
    (∃ kind, eventKind activityKind = .ok kind) ↔
      activityKind ∈ ["reward_income", "asset_migration", "buy", "sell", "receive", "send"] := by
  unfold eventKind
  simp only [List.mem_cons, List.not_mem_nil, or_false]
  split_ifs with hreward hmigration hmovement
  · exact iff_of_true ⟨_, rfl⟩ (.inl hreward)
  · exact iff_of_true ⟨_, rfl⟩ (.inr (.inl hmigration))
  · exact iff_of_true ⟨_, rfl⟩ (.inr (.inr hmovement))
  · refine iff_of_false (fun ⟨_, h⟩ => by cases h) ?_
    rintro (h | h | h)
    · exact hreward h
    · exact hmigration h
    · exact hmovement h

lemma exists_beneficialOwnerRef_iff {bundleClaims : List ClaimRecord} :
    (∃ ownerRef, beneficialOwnerRef bundleClaims = .ok ownerRef) ↔
      ∃ claim, bundleClaims.filter (fun claim => claim.kind = .beneficialOwner) = [claim] := by
  unfold beneficialOwnerRef
  generalize bundleClaims.filter (fun claim => claim.kind = .beneficialOwner) = owners
  rcases owners with _ | ⟨claim, _ | ⟨other, rest⟩⟩
  · exact iff_of_false (fun ⟨_, h⟩ => by cases h) (fun ⟨_, h⟩ => by cases h)
  · exact iff_of_true ⟨_, rfl⟩ ⟨_, rfl⟩
  · exact iff_of_false (fun ⟨_, h⟩ => by cases h) (fun ⟨_, h⟩ => by cases h)

lemma exists_legForSpec_iff {bundle : AcceptedActivityBundle} {eventId ownerRef : String}
    {legSpec : ClaimLegSpec} :
    (∃ leg, legForSpec env bundle eventId ownerRef legSpec = .ok leg) ↔
      legSpec.quantity ≠ 0 ∧
        ((claimsById bundle.bundleClaims .location).get? legSpec.locationClaimRef).isSome = true ∧
          ∃ ref, legSpec.instrumentClaimRefs.head? = some ref ∧ ∃ claim,
            (claimsById bundle.bundleClaims .instrument).get? ref = some claim ∧
              Identified env claim := by
  simp only [legForSpec_eq_ok_iff]
  constructor
  · rintro ⟨leg, locationClaim, instrumentClaim, instrumentId, hclaims, hleg⟩
    have hquantity := (economicLeg_eq_ok_iff.1 hleg).2.2.2.2.2.2
    rcases hclaims.instrument with ⟨ref, href, hinstrument⟩
    exact ⟨fun hzero => leg.quantity_nonzero (hquantity.trans hzero),
      Option.isSome_iff_exists.2 ⟨_, hclaims.location⟩, ref, href, instrumentClaim, hinstrument,
      exists_instrumentRef_iff.1 ⟨_, hclaims.resolved⟩⟩
  · rintro ⟨hquantity, hlocation, ref, href, instrumentClaim, hinstrument, hidentified⟩
    rcases Option.isSome_iff_exists.1 hlocation with ⟨locationClaim, hlocation⟩
    rcases exists_instrumentRef_iff.2 hidentified with ⟨instrumentId, hresolved⟩
    exact ⟨_, locationClaim, instrumentClaim, instrumentId,
      ⟨hlocation, ⟨ref, href, hinstrument⟩, hresolved⟩, dif_neg hquantity⟩

/-- An accepted activity is booked where its bundle can be. -/
lemma exists_booksActivity_iff {p : ClaimBundleDecisionRecord × ClaimRecord} :
    (∃ booked, BooksActivity env claimSet p booked) ↔
      Bookable env (claimsOfBundle claimSet p.1.acceptedBundleRef) p.2 := by
  constructor
  · rintro ⟨booked, h⟩
    refine ⟨Option.isSome_iff_exists.2 ⟨_, h.effectiveAt⟩, exists_eventKind_iff.1 ⟨_, h.kind⟩,
      exists_beneficialOwnerRef_iff.1 ⟨_, h.owner⟩, fun legSpec hspec => ?_⟩
    rcases mapM_ok_pairs h.legs with ⟨pairs, hspecs, _, hpairs⟩
    have hordered : legSpec ∈ orderedLegSpecs p.2 := mem_sortedOn.2 hspec
    rw [← hspecs] at hordered
    rcases List.mem_map.1 hordered with ⟨q, hq, rfl⟩
    exact exists_legForSpec_iff.1 ⟨_, hpairs q hq⟩
  · intro h
    rcases Option.isSome_iff_exists.1 h.effectiveAt with ⟨effectiveAt, heffective⟩
    rcases exists_eventKind_iff.2 h.kind with ⟨kind, hkind⟩
    rcases exists_beneficialOwnerRef_iff.2 h.owner with ⟨ownerRef, howner⟩
    have hlegs : ∃ legs, (orderedLegSpecs p.2).mapM (legForSpec env (bundleOf claimSet p)
        (stableEventId p.2.bundleId 0) ownerRef) = .ok legs :=
      exists_mapM_ok (fun legSpec hspec =>
        exists_legForSpec_iff.2 (h.legs legSpec (mem_sortedOn.1 hspec)))
    rcases hlegs with ⟨legs, hlegs⟩
    exact ⟨(⟨_, _, _, kind, effectiveAt, effectiveAt, _, ownerRef⟩, legs),
      ⟨rfl, rfl, rfl, heffective, rfl, howner, hkind, rfl⟩, hlegs⟩

/-- The facts of a claim set are built exactly where every accepted bundle has no activity, or one and
can be booked. -/
theorem exists_economicFacts_iff :
    (∃ facts, buildEconomicFacts env claimSet = .ok facts) ↔
      ∀ decision ∈ claimSet.claimBundleDecisionRecords, accepts decision = true →
        activityClaims (claimsOfBundle claimSet decision.acceptedBundleRef) = [] ∨
          ∃ activity, activityClaims (claimsOfBundle claimSet decision.acceptedBundleRef) =
              [activity] ∧
            Bookable env (claimsOfBundle claimSet decision.acceptedBundleRef) activity := by
  have hbooked : (∃ facts, buildEconomicFacts env claimSet = .ok facts) ↔
      (∀ decision ∈ claimSet.claimBundleDecisionRecords,
        (decidedActivities claimSet decision).length ≤ 1) ∧
      ∀ p ∈ bookedActivities claimSet,
        Bookable env (claimsOfBundle claimSet p.1.acceptedBundleRef) p.2 := by
    simp only [buildEconomicFacts_eq_ok_iff, ← exists_booksActivity_iff]
    constructor
    · rintro ⟨_, hone, booked, hbooked, _⟩
      exact ⟨hone, fun p hp => (exists_right_of_forall₂ hbooked hp).imp (fun _ hq => hq.2)⟩
    · rintro ⟨hone, hall⟩
      rcases exists_forall₂ hall with ⟨booked, hbooked⟩
      exact ⟨_, hone, booked, hbooked, rfl⟩
  rw [hbooked]
  constructor
  · rintro ⟨hone, hall⟩ decision hdecision haccepts
    have hlength := hone decision hdecision
    rw [decidedActivities, if_pos haccepts, List.length_map] at hlength
    rcases hclaims : activityClaims (claimsOfBundle claimSet decision.acceptedBundleRef) with
      _ | ⟨activity, _ | ⟨other, rest⟩⟩
    · exact .inl rfl
    · refine .inr ⟨activity, rfl, hall (decision, activity) ?_⟩
      refine List.mem_flatMap.2 ⟨decision, hdecision, ?_⟩
      rw [decidedActivities, if_pos haccepts, hclaims]
      exact List.mem_singleton_self _
    · rw [hclaims] at hlength
      exact absurd hlength (by simp)
  · intro hall
    have hdecided : ∀ decision ∈ claimSet.claimBundleDecisionRecords,
        decidedActivities claimSet decision = [] ∨ ∃ activity,
          decidedActivities claimSet decision = [(decision, activity)] ∧
            Bookable env (claimsOfBundle claimSet decision.acceptedBundleRef) activity := by
      intro decision hdecision
      by_cases haccepts : accepts decision = true
      · rw [decidedActivities, if_pos haccepts]
        rcases hall decision hdecision haccepts with hnone | ⟨activity, hactivity, hbookable⟩
        · exact .inl (by rw [hnone]; rfl)
        · exact .inr ⟨activity, by rw [hactivity]; rfl, hbookable⟩
      · exact .inl (if_neg haccepts)
    constructor
    · intro decision hdecision
      rcases hdecided decision hdecision with hnone | ⟨activity, hactivity, _⟩
      · rw [hnone]
        exact Nat.zero_le 1
      · rw [hactivity]
        exact Nat.le_refl 1
    · intro p hp
      rcases List.mem_flatMap.1 hp with ⟨decision, hdecision, hp⟩
      rcases hdecided decision hdecision with hnone | ⟨activity, hactivity, hbookable⟩
      · rw [hnone] at hp
        exact absurd hp List.not_mem_nil
      · rw [hactivity, List.mem_singleton] at hp
        rw [hp]
        exact hbookable

end

end Kernel
end Tallylot
