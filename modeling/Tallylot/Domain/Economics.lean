import Tallylot.Domain.Assertion
import Tallylot.Domain.Temporal

/-!
# Economics — economic events, legs and facts
-/

namespace Tallylot
namespace Domain

open Data

inductive EconomicEventKind
  | assetMovement
  | feeOrRebate
  | correction
  deriving DecidableEq, Repr

inductive LifecycleEvent
  | created
  | migrated
  deriving DecidableEq, Repr

inductive EconomicLegRole
  | holdingChange
  | cashChange
  | fee
  | rebate
  deriving DecidableEq, Repr

def EconomicLegRole.value : EconomicLegRole → String
  | holdingChange => "holding_change"
  | cashChange => "cash_change"
  | fee => "fee"
  | rebate => "rebate"

structure EconomicEventRecord where
  eventId : String
  claimBundleId : String
  claimBundleDecisionId : String
  kind : EconomicEventKind
  effectiveAt : Instant
  recordedAt : Instant
  lifecycleEvent : LifecycleEvent
  beneficialOwnerRef : String
  deriving DecidableEq, Repr

/-- A leg that passed the checks of its constructor. -/
structure EconomicLegRecord where
  legId : String
  eventId : String
  role : EconomicLegRole
  subjectRef : SubjectRef
  instrumentRef : List String
  locationRef : List String
  quantity : Decimal
  instrumentRef_nonempty : instrumentRef ≠ []
  locationRef_nonempty : locationRef ≠ []
  quantity_nonzero : quantity ≠ 0
  deriving DecidableEq

structure EconomicFacts where
  economicFactsId : String
  claimSetRefs : List String
  economicEventRecords : List EconomicEventRecord
  economicLegRecords : List EconomicLegRecord
  deriving DecidableEq

def stableEconomicFactsId (env : KernelEnvironment) (claimSetRefs : List String) : String :=
  stableProductId env (Json.strs (sortedOn id claimSetRefs))

def stableEventId (claimBundleId : String) (eventSlot : Int) : String :=
  Json.dumps (Json.arr [Json.str claimBundleId, Json.int eventSlot])

def stableLegId (eventId : String) (role : EconomicLegRole) (subjectRef : SubjectRef)
    (legSlot : Int) : String :=
  Json.dumps
    (Json.arr [Json.str eventId, Json.str role.value, subjectRef.payload, Json.int legSlot])

end Domain
end Tallylot
