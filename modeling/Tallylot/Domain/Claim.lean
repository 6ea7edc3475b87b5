import Tallylot.Domain.Instruments
import Tallylot.Domain.Temporal

/-!
# Claim — claim records, decisions and claim sets

The constructor of a claim record checks that the fields of its kind are set; a `ClaimRecord` is a
record that passed it.
-/

namespace Tallylot
namespace Domain

open Data

inductive ClaimKind
  | activity
  | balance
  | instrument
  | location
  | beneficialOwner
  | valuation
  deriving DecidableEq, Repr

def ClaimKind.value : ClaimKind → String
  | activity => "activity"
  | balance => "balance"
  | instrument => "instrument"
  | location => "location"
  | beneficialOwner => "beneficial_owner"
  | valuation => "valuation"

inductive ClaimBundleDecisionOutcome
  | accepted
  | blocked
  | deferred
  | superseded
  deriving DecidableEq, Repr

structure ClaimLegSpec where
  slot : Int
  role : String
  quantity : Decimal
  instrumentClaimRefs : List String
  locationClaimRef : String
  subtype : String
  attributedToSlot : Option Int := none
  deriving DecidableEq, Repr

/-- The fields of a claim record. -/
structure ClaimFields where
  bundleId : String
  claimId : String
  kind : ClaimKind
  observationRefs : List String := []
  effectiveAt : Option Instant := none
  precision : Option TemporalPrecision := none
  activityLabel : String := ""
  locationClaimRef : String := ""
  legSpecs : List ClaimLegSpec := []
  instrumentClaimRefs : List String := []
  balanceKind : String := ""
  quantity : Option Decimal := none
  observedAt : Option Instant := none
  scheme : String := ""
  value : String := ""
  venue : String := ""
  instrumentKind : String := ""
  name : String := ""
  locationRef : String := ""
  locationGroupLabel : String := ""
  locationLabel : String := ""
  beneficialOwnerRef : String := ""
  purpose : String := ""
  amount : Option Decimal := none
  currency : String := ""
  valuedAt : Option Instant := none
  deriving DecidableEq, Repr

namespace ClaimFields

/-- A field of another kind is set. -/
def setsOtherThanActivity (c : ClaimFields) : Bool :=
  !c.instrumentClaimRefs.isEmpty || c.balanceKind ≠ "" || c.quantity.isSome ||
    c.observedAt.isSome || c.scheme ≠ "" || c.value ≠ "" || c.venue ≠ "" ||
    c.instrumentKind ≠ "" || c.name ≠ "" || c.locationRef ≠ "" || c.locationGroupLabel ≠ "" ||
    c.locationLabel ≠ "" || c.beneficialOwnerRef ≠ "" || c.purpose ≠ "" || c.amount.isSome ||
    c.currency ≠ "" || c.valuedAt.isSome

/-- `_validate_kind_fields`: the error of the first check that fails. -/
def validateKindFields (c : ClaimFields) : Option String :=
  if c.effectiveAt.isSome && c.precision.isNone then
    some "claim effective_at requires precision"
  else if c.valuedAt.isSome && c.precision.isNone && c.kind ≠ .valuation then
    some "claim valued_at requires precision"
  else
    match c.kind with
    | .activity =>
        if c.activityLabel = "" || c.locationClaimRef = "" || c.legSpecs.isEmpty then
          some "activity claims require activity_label, location_claim_ref, and leg_specs"
        else if c.setsOtherThanActivity then
          some "activity claims must not set balance fields"
        else none
    | .balance =>
        if c.locationClaimRef = "" || c.instrumentClaimRefs.isEmpty || c.balanceKind = "" ||
            c.quantity.isNone || c.observedAt.isNone || c.precision.isNone then
          some
            "balance claims require location, instrument, quantity, observed_at, and precision"
        else none
    | .instrument =>
        if c.scheme = "" || c.value = "" || c.instrumentKind = "" then
          some "instrument claims require scheme, value, and instrument_kind"
        else none
    | .location =>
        if c.locationRef = "" || c.locationGroupLabel = "" || c.locationLabel = "" then
          some
            "location claims require location_ref, location_group_label, and location_label"
        else none
    | .beneficialOwner =>
        if c.beneficialOwnerRef = "" then
          some "beneficial_owner claims require beneficial_owner_ref"
        else none
    | .valuation =>
        if c.purpose = "" || c.amount.isNone || c.currency = "" || c.valuedAt.isNone ||
            c.precision.isNone || c.locationClaimRef = "" || c.instrumentClaimRefs.isEmpty then
          some
            ("valuation claims require purpose, amount, currency, valued_at, precision, " ++
              "location, and instruments")
        else none

end ClaimFields

/-- A claim record that passed the checks of its constructor. -/
structure ClaimRecord extends ClaimFields where
  valid : toClaimFields.validateKindFields = none
  deriving DecidableEq, Repr

structure ClaimBundleDecisionRecord where
  decisionId : String
  outcome : ClaimBundleDecisionOutcome
  acceptedBundleRef : String
  deriving DecidableEq, Repr

structure ClaimSet where
  claimSetId : String
  claimRecords : List ClaimRecord
  claimBundleDecisionRecords : List ClaimBundleDecisionRecord
  deriving DecidableEq, Repr

/-- A balance claim states a quantity, an instant and an instrument. -/
lemma ClaimRecord.balance_fields {claim : ClaimRecord} :
    claim.kind = .balance →
      (∃ q, claim.quantity = some q) ∧ (∃ t, claim.observedAt = some t) ∧
        ∃ ref refs, claim.instrumentClaimRefs = ref :: refs := by
  intro hkind
  have hvalid := claim.valid
  simp only [ClaimFields.validateKindFields, hkind] at hvalid
  split_ifs at hvalid with h1 h2 h3
  simp only [Bool.or_eq_true, not_or, decide_eq_true_eq] at h3
  rcases h3 with ⟨⟨⟨⟨⟨_, hrefs⟩, _⟩, hq⟩, ht⟩, _⟩
  refine ⟨?_, ?_, ?_⟩
  · exact Option.ne_none_iff_exists'.1 (by simpa using hq)
  · exact Option.ne_none_iff_exists'.1 (by simpa using ht)
  · exact List.exists_cons_of_ne_nil (by simpa using hrefs)

end Domain
end Tallylot
