import Tallylot.Normalization.DraftLegs
import Tallylot.StructuredCsv.Validation

/-!
# Translation — activity drafts of structured CSV rows

A row becomes a draft with a leg for each of its pairs, at the location of its account and wallet, and
under the policy of the pairs that it has.
-/

namespace Tallylot
namespace StructuredCsv

open Data Domain Normalization Transactions

/-! ## Categories -/

def classificationTable : List (String × FactSemantics) :=
  [("trade", ⟨.spotTrade, .assetExchange, .capitalExchange, some .trade⟩),
    ("deposit", ⟨.assetDeposit, .fundingInflow, .nonTaxableTransferIn, some .deposit⟩),
    ("withdrawal", ⟨.assetWithdrawal, .fundingOutflow, .nonTaxableTransferOut, some .withdrawal⟩),
    ("interest_income", ⟨.interestIncome, .incomeRecognition, .ordinaryIncome, some .interestIncome⟩),
    ("reward", ⟨.platformReward, .incomeRecognition, .ordinaryIncome, some .rewardBonus⟩),
    ("expense", ⟨.cashExpense, .expenseRecognition, .nonTaxableExpense, some .expenseNonTaxable⟩),
    ("swap", ⟨.assetSwap, .assetExchange, .nonTaxableAssetMigration, some .swapNonTaxable⟩),
    ("staking_reward", ⟨.stakingReward, .incomeRecognition, .stakingIncome, some .staking⟩),
    ("derivatives_profit", ⟨.derivativeRealizedProfit, .incomeRecognition, .derivativeRealizedGain,
      some .derivativesFuturesProfit⟩),
    ("derivatives_loss", ⟨.derivativeRealizedLoss, .expenseRecognition, .derivativeRealizedLoss,
      some .derivativesFuturesLoss⟩)]

/-- `classification_for_category`; another category is a `KeyError`. -/
def classificationForCategory (category : String) : Decoded FactSemantics :=
  match classificationTable.lookup category with
  | some semantics => .ok semantics
  | none => .error (.key category)

/-! ## Policies -/

def primaryActivityLimit : LegShapeLimit :=
  ⟨⟨.primary, 2, 0, some 1, none, some 1, none⟩, checkedConstructor_accepted.2 rfl⟩

def rebateLimit : LegShapeLimit :=
  ⟨⟨.rebate, 1, 0, some 1, none, some 0, none⟩, checkedConstructor_accepted.2 rfl⟩

/-- The policy with a limit for each kind of legs that there are. -/
def activityPolicy (hasCharge hasRebate : Bool) : FactLegPolicy :=
  ⟨⟨primaryActivityLimit ::
      ((if hasCharge then [chargeLimit] else []) ++ if hasRebate then [rebateLimit] else [])⟩, by
    cases hasCharge <;> cases hasRebate <;> exact checkedConstructor_accepted.2 rfl⟩

def policyOf (hasIn hasOut hasCharge hasRebate : Bool) : FactLegPolicy :=
  if hasIn && hasOut && hasCharge && !hasRebate then twoSidedPrimaryExchangeWithSingleChargePolicy
  else if hasIn && hasOut && !hasCharge && !hasRebate then twoSidedPrimaryExchangePolicy
  else if (hasIn ^^ hasOut) && !hasCharge && !hasRebate then singlePrimaryActivityPolicy
  else activityPolicy hasCharge hasRebate

/-- The cell is not blank. -/
def hasText (row : StructuredRow) (column : Column) : Bool := strip (row.cell column) ≠ ""

def policyForRow (row : StructuredRow) : FactLegPolicy :=
  policyOf (hasText row .assetIn) (hasText row .assetOut)
    (hasText row .chargeAsset && hasText row .chargeAmount)
    (hasText row .rebateAsset && hasText row .rebateAmount)

/-! ## Legs -/

/-- `_side_value` -/
def sideValue (rawValue : String) : Option String :=
  if strip rawValue = "in" then some "primary_in"
  else if strip rawValue = "out" then some "primary_out"
  else none

namespace AmountPair

def legId : AmountPair → String
  | inbound => "primary_in"
  | outbound => "primary_out"
  | charge => "charge"
  | rebate => "rebate"

def kind : AmountPair → LegKind
  | inbound | outbound => .primary
  | charge => .charge
  | rebate => .rebate

/-- The primary leg that the row names for the pair. -/
def attributedTo (pair : AmountPair) (row : StructuredRow) : Option String :=
  pair.side.bind (fun side => sideValue (row.cell side))

end AmountPair

/-- A leg with its quantity, which may be infinite. -/
structure QuantityLeg where
  legId : String
  kind : LegKind
  quantity : SpecialDecimal
  asset : String
  attributedToLegId : Option String
  deriving DecidableEq, Repr

/-- `economic_leg`, which reads of a quantity only whether it is zero. -/
def QuantityLeg.draft (leg : QuantityLeg) : Decoded EconomicLegDraft :=
  symbolLeg leg.legId leg.kind leg.quantity.standIn leg.asset none none leg.attributedToLegId

/-- A leg and the draft that was built of it. -/
structure BuiltLeg where
  leg : QuantityLeg
  draft : EconomicLegDraft
  built : leg.draft = .ok draft

def QuantityLeg.build (leg : QuantityLeg) : Decoded BuiltLeg :=
  match h : leg.draft with
  | .ok draft => .ok ⟨leg, draft, h⟩
  | .error e => .error e

def pairLeg (row : StructuredRow) (pair : AmountPair) (quantity : SpecialDecimal) : QuantityLeg where
  legId := pair.legId
  kind := pair.kind
  quantity := quantity
  asset := row.cell pair.asset
  attributedToLegId := pair.attributedTo row

/-- The leg of a pair that comes in; its amount is read only next to an asset. -/
def receivedLeg (row : StructuredRow) (pair : AmountPair) : Decoded (Option BuiltLeg) :=
  if row.cell pair.asset = "" then .ok none
  else do
    match ← SpecialDecimal.parse (row.cell pair.amount) with
    | none => return none
    | some amount =>
        let built ← (pairLeg row pair amount).build
        return some built

/-- The leg of a pair that goes out. -/
def paidLeg (row : StructuredRow) (pair : AmountPair) (amount : Option SpecialDecimal) :
    Decoded (Option BuiltLeg) :=
  match amount with
  | none => .ok none
  | some amount =>
      if row.cell pair.asset = "" then .ok none
      else do
        let built ← (pairLeg row pair amount.neg).build
        return some built

/-! ## Rows -/

/-- An outbound amount without its sign, and the review of a sign that was dropped. -/
def normalizeOutboundAmount (feedback : Feedback) (index : Nat) (column : Column)
    (rawValue : String) : Decoded (Option SpecialDecimal × Option NormalizationReviewRecord) := do
  match ← SpecialDecimal.parse rawValue with
  | none => return (none, none)
  | some value =>
      if ← value.isNegative then
        return (some value.copyAbs,
          some (feedback.review index "outbound_amount_sign_normalized"
            (column.name ++ " was negative and was normalized to a positive outbound value.")
            column.name (strip rawValue) value.copyAbs.format))
      else return (some value, none)

structure TranslatedRow where
  legs : List BuiltLeg
  draft : EconomicActivityDraft
  reviews : List NormalizationReviewRecord

/-- `translate_row`; counting the legs of a draft compares their quantities with zero. -/
def translateRow (env : KernelEnvironment) (feedback : Feedback) (row : StructuredRow)
    (index : Nat) : Decoded TranslatedRow := do
  let amountOut ← normalizeOutboundAmount feedback index .amountOut (row.cell .amountOut)
  let chargeAmount ← normalizeOutboundAmount feedback index .chargeAmount (row.cell .chargeAmount)
  let inbound ← receivedLeg row .inbound
  let outbound ← paidLeg row .outbound amountOut.1
  let charge ← paidLeg row .charge chargeAmount.1
  let rebate ← receivedLeg row .rebate
  let legs := [inbound, outbound, charge, rebate].filterMap id
  let locationId ← locationIdFromParts env.lower
    [feedback.source, strip (row.cell .account), strip (row.cell .wallet)]
  let timestamp ← parseTimestamp (row.cell .timestamp)
  let semantics ← classificationForCategory (row.cell .category)
  if legs.any (fun built => built.leg.quantity = .nan) then .error .invalidOperation
  else
    let draft ← economicActivityDraft.build
      { activityId := feedback.source ++ ":" ++ toString index
        source := feedback.source
        adapterId := feedback.adapterId
        locationId := locationId
        timestamp := timestamp
        classification := semantics
        legs := legs.map BuiltLeg.draft
        legPolicy := policyForRow row
        description := row.cell .description
        rawFile := transactionsFilename
        rawRowRef := toString index
        txHash := row.cell .txHash
        providerOperationKey := "structured_csv:" ++ row.cell .category }
    return { legs := legs, draft := draft, reviews := [amountOut.2, chargeAmount.2].filterMap id }

end StructuredCsv
end Tallylot
