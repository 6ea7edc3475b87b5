import Tallylot.Data.Decimal
import Tallylot.Data.Instant

/-!
# Transactions — transaction facts as the balance check reads them
-/

namespace Tallylot
namespace Domain

open Data

structure EconomicLeg where
  instrumentId : String
  quantity : Decimal
  locationId : Option String
  instrument_nonblank : instrumentId ≠ ""
  deriving Repr

lemma EconomicLeg.eq_iff {leg leg' : EconomicLeg} :
    leg = leg' ↔ leg.instrumentId = leg'.instrumentId ∧ leg.quantity = leg'.quantity ∧
      leg.locationId = leg'.locationId := by
  cases leg
  cases leg'
  simp

instance : DecidableEq EconomicLeg := fun _ _ => decidable_of_iff' _ EconomicLeg.eq_iff

structure TransactionFact where
  source : String
  timestamp : Instant
  locationId : String
  legs : List EconomicLeg
  deriving DecidableEq, Repr

/-- Where a leg of a fact happened: at its own location, else at that of the fact. -/
def TransactionFact.legLocation (fact : TransactionFact) (leg : EconomicLeg) : String :=
  leg.locationId.getD fact.locationId

end Domain
end Tallylot
