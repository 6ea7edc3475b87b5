import Tallylot.Transactions.Models

/-!
# Facts — transaction facts within their leg policy

The constructor of a transaction fact counts its legs by kind and by sign, compares the counts with
the limits of the policy, and checks that legs are attributed to primary legs.  The checks read of a
leg only its id, its kind, its attribution and the sign of its quantity, and of a policy only which
limits it has (`validateFact_congr`).
-/

namespace Tallylot
namespace Transactions

open Data Domain

structure TransactionFactFields where
  factId : String
  source : String
  adapterId : String
  timestamp : Instant
  locationId : String
  semantics : FactSemantics
  legs : List EconomicLeg
  legPolicy : FactLegPolicy
  description : String
  providerOperationKey : String
  operationGroupId : String
  txHash : Option String
  rawFile : String
  rawRowRef : String
  confidence : String
  status : String
  effectiveAt : Option Instant
  effectivePrecision : Option TemporalPrecision

/-! ## Counting legs -/

structure FactLegCounts where
  countsByKind : Dict String Nat
  signedCounts : Dict (String × String) Nat
  legIdsByKind : Dict String String
  seenLegIds : List String

namespace FactLegCounts

def empty : FactLegCounts := ⟨.empty, .empty, .empty, []⟩

/-- `_validate_policy_kind_allowed` -/
def validatePolicyKindAllowed (policy : FactLegPolicy) (kindValue : String) : Decoded Unit :=
  require (∃ limit ∈ policy.val.limits, limit.val.kind.value = kindValue)
    ("transaction fact leg kind " ++ kindValue ++ " is not allowed by declared leg policy")

/-- The step of `fact_leg_counts`. -/
def add (policy : FactLegPolicy) (counts : FactLegCounts) (leg : EconomicLeg) :
    Decoded FactLegCounts := do
  let kindKey := leg.val.kind.value
  validatePolicyKindAllowed policy kindKey
  require (leg.val.legId ∉ counts.seenLegIds)
    ("transaction fact duplicates leg_id " ++ leg.val.legId)
  let signKey := if 0 < leg.val.quantity.coeff then "positive" else "negative"
  return {
    countsByKind := counts.countsByKind.upsert kindKey (fun n => n.getD 0 + 1)
    signedCounts := counts.signedCounts.upsert (kindKey, signKey) (fun n => n.getD 0 + 1)
    legIdsByKind :=
      if kindKey = "primary" then counts.legIdsByKind.set leg.val.legId kindKey
      else counts.legIdsByKind
    seenLegIds := leg.val.legId :: counts.seenLegIds }

end FactLegCounts

def factLegCounts (legs : List EconomicLeg) (policy : FactLegPolicy) : Decoded FactLegCounts :=
  legs.foldlM (FactLegCounts.add policy) FactLegCounts.empty

/-! ## Comparing with the policy -/

def validateFactTotalCount (limit : LegShapeLimit) (totalCount : Nat) : Decoded Unit := do
  require (limit.val.minCount ≤ totalCount)
    ("transaction fact " ++ limit.val.kind.value ++ " legs fall below declared leg policy")
  require ((totalCount : Int) ≤ limit.val.maxCount)
    ("transaction fact " ++ limit.val.kind.value ++ " legs exceed declared leg policy")

/-- `_validate_fact_signed_count`; `positive` chooses the bounds and the label. -/
def validateFactSignedCount (limit : LegShapeLimit) (positive : Bool) (count : Nat) :
    Decoded Unit := do
  let minCount := if positive then limit.val.minPositiveCount else limit.val.minNegativeCount
  let maxCount := if positive then limit.val.maxPositiveCount else limit.val.maxNegativeCount
  let signLabel := if positive then "positive" else "negative"
  validateOptional
    (fun least =>
      require (least ≤ (count : Int))
        ("transaction fact " ++ signLabel ++ " " ++ limit.val.kind.value ++
          " legs fall below declared leg policy"))
    minCount
  validateOptional
    (fun most =>
      require ((count : Int) ≤ most)
        ("transaction fact " ++ signLabel ++ " " ++ limit.val.kind.value ++
          " legs exceed declared leg policy"))
    maxCount

def validateFactLimit (counts : FactLegCounts) (limit : LegShapeLimit) : Decoded Unit := do
  let kindKey := limit.val.kind.value
  validateFactTotalCount limit ((counts.countsByKind.get? kindKey).getD 0)
  validateFactSignedCount limit true ((counts.signedCounts.get? (kindKey, "positive")).getD 0)
  validateFactSignedCount limit false ((counts.signedCounts.get? (kindKey, "negative")).getD 0)

def validateFactCounts (policy : FactLegPolicy) (counts : FactLegCounts) : Decoded Unit :=
  checkAll (validateFactLimit counts) policy.val.limits

/-- `validate_fact_leg_attribution` -/
def validateFactLegAttribution (legs : List EconomicLeg) (legIdsByKind : Dict String String) :
    Decoded Unit :=
  checkAll
    (fun leg =>
      validateOptional
        (fun id =>
          require (id ∈ legIdsByKind.keys)
            ("transaction fact attributed_to_leg_id must reference " ++
              "one primary leg in the same fact"))
        leg.val.attributedToLegId)
    legs

/-- The checks of the legs of a fact. -/
def validateFact (legs : List EconomicLeg) (policy : FactLegPolicy) : Decoded Unit := do
  require (legs ≠ []) "transaction fact must include at least one leg"
  let counts ← factLegCounts legs policy
  validateFactCounts policy counts
  validateFactLegAttribution legs counts.legIdsByKind

/-- What the checks read of a leg. -/
structure SameShape (leg other : EconomicLeg) : Prop where
  legId : leg.val.legId = other.val.legId
  kind : leg.val.kind = other.val.kind
  sign : 0 < leg.val.quantity.coeff ↔ 0 < other.val.quantity.coeff
  attributed : leg.val.attributedToLegId = other.val.attributedToLegId

section Shape

variable {legs others : List EconomicLeg} {policy policy' : FactLegPolicy}

lemma add_congr (hpolicy : ∀ limit, limit ∈ policy.val.limits ↔ limit ∈ policy'.val.limits)
    {leg other : EconomicLeg} (hshape : SameShape leg other) (counts : FactLegCounts) :
    counts.add policy leg = counts.add policy' other := by
  simp only [FactLegCounts.add, FactLegCounts.validatePolicyKindAllowed, hshape.legId, hshape.kind,
    hshape.sign, hpolicy]

lemma foldlM_add_congr (hpolicy : ∀ limit, limit ∈ policy.val.limits ↔ limit ∈ policy'.val.limits)
    (hlegs : List.Forall₂ SameShape legs others) :
    ∀ counts : FactLegCounts,
      legs.foldlM (FactLegCounts.add policy) counts =
        others.foldlM (FactLegCounts.add policy') counts := by
  induction hlegs with
  | nil => exact fun counts => rfl
  | cons hshape _ ih =>
      intro counts
      rw [List.foldlM_cons, List.foldlM_cons, add_congr hpolicy hshape]
      cases counts.add policy' _ with
      | error e => rfl
      | ok next => exact ih next

lemma validateFactLegAttribution_congr (hlegs : List.Forall₂ SameShape legs others)
    (ids : Dict String String) :
    validateFactLegAttribution legs ids = validateFactLegAttribution others ids := by
  induction hlegs with
  | nil => rfl
  | cons hshape _ ih =>
      rw [validateFactLegAttribution, validateFactLegAttribution, checkAll, checkAll,
        hshape.attributed]
      exact congrArg _ (funext fun _ => ih)

/-- Legs of the same shapes pass against a policy of the same limits. -/
theorem validateFact_congr
    (hpolicy : ∀ limit, limit ∈ policy.val.limits ↔ limit ∈ policy'.val.limits)
    (hlegs : List.Forall₂ SameShape legs others) (h : validateFact legs policy = .ok ()) :
    validateFact others policy' = .ok () := by
  simp only [validateFact, bind_eq_ok_iff, require_eq_ok_iff] at h ⊢
  rcases h with ⟨_, hne, counts, hcounts, _, hlimits, hattributed⟩
  refine ⟨(), ?_, counts, ?_, (), ?_, ?_⟩
  · rintro rfl
    cases hlegs
    exact hne rfl
  · rw [← hcounts]
    exact (foldlM_add_congr hpolicy hlegs _).symm
  · rw [validateFactCounts, checkAll_eq_ok_iff] at hlimits ⊢
    exact fun limit hlimit => hlimits limit ((hpolicy limit).2 hlimit)
  · rw [← validateFactLegAttribution_congr hlegs]
    exact hattributed

end Shape

/-! ## The constructor -/

/-- `effective_at` and its precision stand together. -/
def requireEffective (effectiveAt : Option Instant)
    (effectivePrecision : Option TemporalPrecision) : Decoded Unit :=
  match effectiveAt, effectivePrecision with
  | none, none => .ok ()
  | none, some _ => .error (.value "transaction fact effective_precision requires effective_at")
  | some _, none => .error (.value "transaction fact effective_at requires effective_precision")
  | some value, some precision => do
      let _ ← requireTemporalDatetime value precision "transaction fact effective_at"
      return ()

/-- `TransactionFact.__post_init__`; the times are in UTC. -/
def TransactionFactFields.postInit (fact : TransactionFactFields) :
    Decoded TransactionFactFields := do
  let locationId ← requireLocationId fact.locationId "transaction fact location_id"
  requireEffective fact.effectiveAt fact.effectivePrecision
  validateFact fact.legs fact.legPolicy
  return { fact with locationId := locationId }

theorem fact_postInit_eq_ok_iff (fact built : TransactionFactFields) :
    fact.postInit = .ok built ↔
      ∃ location, requireLocationId fact.locationId "transaction fact location_id" = .ok location ∧
        requireEffective fact.effectiveAt fact.effectivePrecision = .ok () ∧
          validateFact fact.legs fact.legPolicy = .ok () ∧
            built = { fact with locationId := location } := by
  simp only [TransactionFactFields.postInit, bind_eq_ok_iff]
  constructor
  · rintro ⟨location, hlocation, _, heffective, _, hlegs, hbuilt⟩
    exact ⟨location, hlocation, heffective, hlegs, (Except.ok.inj hbuilt).symm⟩
  · rintro ⟨location, hlocation, heffective, hlegs, rfl⟩
    exact ⟨location, hlocation, (), heffective, (), hlegs, rfl⟩

def transactionFact : Constructor TransactionFactFields TransactionFactFields where
  make := TransactionFactFields.postInit
  fields := id
  settled := by
    intro fact built h
    rcases (fact_postInit_eq_ok_iff fact built).1 h with
      ⟨location, hlocation, heffective, hlegs, rfl⟩
    exact (fact_postInit_eq_ok_iff _ _).2
      ⟨location, (requireLocationId_settled hlocation).2.2, heffective, hlegs, rfl⟩

abbrev TransactionFact := transactionFact.Value

end Transactions
end Tallylot
