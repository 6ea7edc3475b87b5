import Tallylot.Data.Dict
import Tallylot.Domain.LocationIdentifiers
import Tallylot.Domain.ValueObjects

/-!
# Models — transaction facts and what their constructors accept

A transaction fact has legs and a policy that limits, for each kind of leg, how many there may be.
Every class checks its fields when it is built: `EconomicLeg`, `LegShapeLimit`, `FactLegPolicy` and
`TransactionFact` are the objects that pass.
-/

namespace Tallylot
namespace Transactions

open Data Domain

/-! ## Classification -/

inductive EconomicKind
  | assetConversion
  | assetDeposit
  | assetMigration
  | assetSwap
  | assetWithdrawal
  | cashExpense
  | cashWithdrawal
  | chainTransferIn
  | derivativeRealizedLoss
  | derivativeRealizedProfit
  | fiatDeposit
  | interestIncome
  | p2pTrade
  | platformReward
  | spotTrade
  | stakingReward
  | stakingTransferIn
  | stakingTransferOut
  deriving DecidableEq, Repr

namespace EconomicKind

def value : EconomicKind → String
  | assetConversion => "asset_conversion"
  | assetDeposit => "asset_deposit"
  | assetMigration => "asset_migration"
  | assetSwap => "asset_swap"
  | assetWithdrawal => "asset_withdrawal"
  | cashExpense => "cash_expense"
  | cashWithdrawal => "cash_withdrawal"
  | chainTransferIn => "chain_transfer_in"
  | derivativeRealizedLoss => "derivative_realized_loss"
  | derivativeRealizedProfit => "derivative_realized_profit"
  | fiatDeposit => "fiat_deposit"
  | interestIncome => "interest_income"
  | p2pTrade => "p2p_trade"
  | platformReward => "platform_reward"
  | spotTrade => "spot_trade"
  | stakingReward => "staking_reward"
  | stakingTransferIn => "staking_transfer_in"
  | stakingTransferOut => "staking_transfer_out"

def members : List EconomicKind :=
  [assetConversion, assetDeposit, assetMigration, assetSwap, assetWithdrawal, cashExpense,
    cashWithdrawal, chainTransferIn, derivativeRealizedLoss, derivativeRealizedProfit, fiatDeposit,
    interestIncome, p2pTrade, platformReward, spotTrade, stakingReward, stakingTransferIn,
    stakingTransferOut]

end EconomicKind

inductive ProjectionHint
  | deposit
  | derivativesFuturesLoss
  | derivativesFuturesProfit
  | expenseNonTaxable
  | interestIncome
  | rewardBonus
  | staking
  | swapNonTaxable
  | trade
  | withdrawal
  deriving DecidableEq, Repr

namespace ProjectionHint

def value : ProjectionHint → String
  | deposit => "deposit"
  | derivativesFuturesLoss => "derivatives_futures_loss"
  | derivativesFuturesProfit => "derivatives_futures_profit"
  | expenseNonTaxable => "expense_non_taxable"
  | interestIncome => "interest_income"
  | rewardBonus => "reward_bonus"
  | staking => "staking"
  | swapNonTaxable => "swap_non_taxable"
  | trade => "trade"
  | withdrawal => "withdrawal"

def members : List ProjectionHint :=
  [deposit, derivativesFuturesLoss, derivativesFuturesProfit, expenseNonTaxable, interestIncome,
    rewardBonus, staking, swapNonTaxable, trade, withdrawal]

end ProjectionHint

inductive AccountingIntentHint
  | assetExchange
  | expenseRecognition
  | fundingInflow
  | fundingOutflow
  | incomeRecognition
  deriving DecidableEq, Repr

namespace AccountingIntentHint

def value : AccountingIntentHint → String
  | assetExchange => "asset_exchange"
  | expenseRecognition => "expense_recognition"
  | fundingInflow => "funding_inflow"
  | fundingOutflow => "funding_outflow"
  | incomeRecognition => "income_recognition"

def members : List AccountingIntentHint :=
  [assetExchange, expenseRecognition, fundingInflow, fundingOutflow, incomeRecognition]

end AccountingIntentHint

inductive TaxTreatmentHint
  | capitalExchange
  | derivativeRealizedGain
  | derivativeRealizedLoss
  | nonTaxableAssetMigration
  | nonTaxableExpense
  | nonTaxableTransferIn
  | nonTaxableTransferOut
  | ordinaryIncome
  | stakingIncome
  deriving DecidableEq, Repr

namespace TaxTreatmentHint

def value : TaxTreatmentHint → String
  | capitalExchange => "capital_exchange"
  | derivativeRealizedGain => "derivative_realized_gain"
  | derivativeRealizedLoss => "derivative_realized_loss"
  | nonTaxableAssetMigration => "non_taxable_asset_migration"
  | nonTaxableExpense => "non_taxable_expense"
  | nonTaxableTransferIn => "non_taxable_transfer_in"
  | nonTaxableTransferOut => "non_taxable_transfer_out"
  | ordinaryIncome => "ordinary_income"
  | stakingIncome => "staking_income"

def members : List TaxTreatmentHint :=
  [capitalExchange, derivativeRealizedGain, derivativeRealizedLoss, nonTaxableAssetMigration,
    nonTaxableExpense, nonTaxableTransferIn, nonTaxableTransferOut, ordinaryIncome, stakingIncome]

end TaxTreatmentHint

/-- `_parse_optional_enum` -/
def parseOptionalEnum {α : Type} (name : String) (members : List α) (value : α → String)
    (text : String) : Decoded (Option α) :=
  if strip text = "" then .ok none
  else
    match ofValue members value (strip text) with
    | some a => .ok (some a)
    | none => .error (.value ("Unsupported " ++ name ++ ": " ++ strip text))

def parseEconomicKind : String → Decoded (Option EconomicKind) :=
  parseOptionalEnum "EconomicKind" EconomicKind.members EconomicKind.value

def parseProjectionHint : String → Decoded (Option ProjectionHint) :=
  parseOptionalEnum "ProjectionHint" ProjectionHint.members ProjectionHint.value

def parseAccountingIntentHint : String → Decoded (Option AccountingIntentHint) :=
  parseOptionalEnum "AccountingIntentHint" AccountingIntentHint.members AccountingIntentHint.value

def parseTaxTreatmentHint : String → Decoded (Option TaxTreatmentHint) :=
  parseOptionalEnum "TaxTreatmentHint" TaxTreatmentHint.members TaxTreatmentHint.value

structure FactSemantics where
  economicKind : EconomicKind
  accountingIntentHint : AccountingIntentHint
  taxTreatmentHint : TaxTreatmentHint
  projectionHint : Option ProjectionHint
  deriving DecidableEq, Repr

/-! ## Leg shape limits -/

inductive LegKind
  | primary
  | charge
  | rebate
  | collateral
  | settlement
  | financing
  | withholding
  | adjustment
  deriving DecidableEq, Repr

namespace LegKind

def value : LegKind → String
  | primary => "primary"
  | charge => "charge"
  | rebate => "rebate"
  | collateral => "collateral"
  | settlement => "settlement"
  | financing => "financing"
  | withholding => "withholding"
  | adjustment => "adjustment"

def members : List LegKind :=
  [primary, charge, rebate, collateral, settlement, financing, withholding, adjustment]

end LegKind

structure LegShapeLimitFields where
  kind : LegKind
  maxCount : Int
  minCount : Int
  maxPositiveCount : Option Int
  minPositiveCount : Option Int
  maxNegativeCount : Option Int
  minNegativeCount : Option Int
  deriving DecidableEq, Repr

def validateNonNegativeCount (value : Int) (label : String) : Decoded Unit :=
  require (0 ≤ value) ("leg shape limit " ++ label ++ " must be non-negative")

def validateOptionalNonNegativeCount (value : Option Int) (label : String) : Decoded Unit :=
  match value with
  | none => .ok ()
  | some value => validateNonNegativeCount value label

def validateOptionalWithinMax (value : Option Int) (label : String) (maxCount : Int) :
    Decoded Unit :=
  match value with
  | none => .ok ()
  | some value =>
      require (value ≤ maxCount) ("leg shape limit " ++ label ++ " must not exceed max_count")

def validateOptionalMinMax (minimum maximum : Option Int) (minLabel maxLabel : String) :
    Decoded Unit :=
  match minimum, maximum with
  | some minimum, some maximum =>
      require (minimum ≤ maximum)
        ("leg shape limit " ++ minLabel ++ " must not exceed " ++ maxLabel)
  | _, _ => .ok ()

def validateLegShapeCounts (limit : LegShapeLimitFields) : Decoded Unit := do
  validateOptionalNonNegativeCount limit.minPositiveCount "min_positive_count"
  validateOptionalNonNegativeCount limit.maxPositiveCount "max_positive_count"
  validateOptionalNonNegativeCount limit.minNegativeCount "min_negative_count"
  validateOptionalNonNegativeCount limit.maxNegativeCount "max_negative_count"
  validateOptionalWithinMax limit.minPositiveCount "min_positive_count" limit.maxCount
  validateOptionalWithinMax limit.maxPositiveCount "max_positive_count" limit.maxCount
  validateOptionalWithinMax limit.minNegativeCount "min_negative_count" limit.maxCount
  validateOptionalWithinMax limit.maxNegativeCount "max_negative_count" limit.maxCount
  validateOptionalMinMax limit.minPositiveCount limit.maxPositiveCount
    "min_positive_count" "max_positive_count"
  validateOptionalMinMax limit.minNegativeCount limit.maxNegativeCount
    "min_negative_count" "max_negative_count"
  match limit.minPositiveCount, limit.minNegativeCount with
  | some positive, some negative =>
      require (positive + negative ≤ limit.maxCount)
        "leg shape limit signed minimum counts must not exceed max_count"
  | _, _ => .ok ()

/-- `LegShapeLimit.__post_init__` -/
def LegShapeLimitFields.validate (limit : LegShapeLimitFields) : Decoded Unit := do
  validateNonNegativeCount limit.minCount "min_count"
  validateNonNegativeCount limit.maxCount "max_count"
  require (limit.minCount ≤ limit.maxCount)
    "leg shape limit min_count must not exceed max_count"
  validateLegShapeCounts limit

def legShapeLimit : Constructor LegShapeLimitFields LegShapeLimitFields :=
  checkedConstructor LegShapeLimitFields.validate

abbrev LegShapeLimit := legShapeLimit.Value

/-- No bound of a limit is negative. -/
structure Nonnegative (limit : LegShapeLimitFields) : Prop where
  maxCount : 0 ≤ limit.maxCount
  minPositive : ∀ least, limit.minPositiveCount = some least → 0 ≤ least
  maxPositive : ∀ most, limit.maxPositiveCount = some most → 0 ≤ most
  minNegative : ∀ least, limit.minNegativeCount = some least → 0 ≤ least
  maxNegative : ∀ most, limit.maxNegativeCount = some most → 0 ≤ most

lemma validateOptionalNonNegativeCount_eq_ok_iff {value : Option Int} {label : String} {u : Unit} :
    validateOptionalNonNegativeCount value label = .ok u ↔ ∀ count, value = some count → 0 ≤ count := by
  cases value with
  | none => simp [validateOptionalNonNegativeCount]
  | some count => simp [validateOptionalNonNegativeCount, validateNonNegativeCount, require_eq_ok_iff]

theorem legShapeLimit_nonneg (limit : LegShapeLimit) : Nonnegative limit.val := by
  have hvalid := checkedConstructor_accepted.1 limit.property
  simp only [LegShapeLimitFields.validate, validateLegShapeCounts, validateNonNegativeCount,
    bind_eq_ok_iff, require_eq_ok_iff, validateOptionalNonNegativeCount_eq_ok_iff] at hvalid
  rcases hvalid with ⟨_, _, _, hmax, _, _, _, hminPositive, _, hmaxPositive, _, hminNegative, _,
    hmaxNegative, _⟩
  exact ⟨hmax, hminPositive, hmaxPositive, hminNegative, hmaxNegative⟩

/-! ## Leg policies -/

structure FactLegPolicyFields where
  limits : List LegShapeLimit

/-- The loop over the limits, with the kinds seen so far. -/
def validateKinds : List LegKind → List LegShapeLimit → Decoded Unit
  | _, [] => .ok ()
  | seen, limit :: limits => do
      require (limit.val.kind ∉ seen)
        ("fact leg policy duplicates kind " ++ limit.val.kind.value)
      validateKinds (limit.val.kind :: seen) limits

/-- `FactLegPolicy.__post_init__` -/
def FactLegPolicyFields.validate (policy : FactLegPolicyFields) : Decoded Unit := do
  require (policy.limits ≠ []) "fact leg policy must declare at least one supported leg kind"
  validateKinds [] policy.limits

def factLegPolicy : Constructor FactLegPolicyFields FactLegPolicyFields :=
  checkedConstructor FactLegPolicyFields.validate

abbrev FactLegPolicy := factLegPolicy.Value

namespace FactLegPolicyFields

def limitFor (policy : FactLegPolicyFields) (kind : LegKind) : Option LegShapeLimit :=
  policy.limits.find? (fun limit => limit.val.kind = kind)

end FactLegPolicyFields

lemma validateKinds_eq_ok_iff (limits : List LegShapeLimit) :
    ∀ (seen : List LegKind) (u : Unit), validateKinds seen limits = .ok u ↔
      (limits.map (fun limit => limit.val.kind)).Nodup ∧
        ∀ limit ∈ limits, limit.val.kind ∉ seen := by
  induction limits with
  | nil => simp [validateKinds]
  | cons limit limits ih =>
      intro seen u
      simp only [validateKinds, bind_eq_ok_iff, require_eq_ok_iff, ih, List.map_cons,
        List.nodup_cons, List.mem_cons, forall_eq_or_imp, not_or, List.mem_map, not_exists, not_and]
      constructor
      · rintro ⟨_, hnew, hnodup, hrest⟩
        exact ⟨⟨fun x hx heq => (hrest x hx).1 heq, hnodup⟩, hnew, fun x hx => (hrest x hx).2⟩
      · rintro ⟨⟨hdistinct, hnodup⟩, hnew, hrest⟩
        exact ⟨(), hnew, hnodup, fun x hx => ⟨hdistinct x hx, hrest x hx⟩⟩

/-- A policy has limits, each of its own kind. -/
theorem factLegPolicy_accepted (policy : FactLegPolicyFields) :
    factLegPolicy.Accepted policy ↔
      policy.limits ≠ [] ∧ (policy.limits.map (fun limit => limit.val.kind)).Nodup := by
  rw [factLegPolicy, checkedConstructor_accepted, FactLegPolicyFields.validate]
  simp [bind_eq_ok_iff, require_eq_ok_iff, validateKinds_eq_ok_iff]

/-- The limit of a kind is the one limit that names it. -/
theorem limitFor_eq_some_iff {policy : FactLegPolicy} {kind : LegKind} {limit : LegShapeLimit} :
    policy.val.limitFor kind = some limit ↔ limit ∈ policy.val.limits ∧ limit.val.kind = kind := by
  have hnodup := ((factLegPolicy_accepted policy.val).1 policy.property).2
  constructor
  · intro h
    exact ⟨List.mem_of_find?_eq_some h, by simpa using List.find?_some h⟩
  · rintro ⟨hlimit, rfl⟩
    cases hfound : policy.val.limitFor limit.val.kind with
    | none =>
        have hno := List.find?_eq_none.1 hfound limit hlimit
        simp at hno
    | some found =>
        have hkind : found.val.kind = limit.val.kind := by simpa using List.find?_some hfound
        have hsame := List.inj_on_of_nodup_map hnodup (List.mem_of_find?_eq_some hfound) hlimit hkind
        rw [hsame]

lemma limitFor_eq_none_iff {policy : FactLegPolicy} {kind : LegKind} :
    policy.val.limitFor kind = none ↔ ∀ limit ∈ policy.val.limits, limit.val.kind ≠ kind := by
  simp [FactLegPolicyFields.limitFor]

/-! ## Legs -/

structure EconomicLegFields where
  legId : String
  kind : LegKind
  instrumentId : String
  quantity : Decimal
  subtype : Option String
  attributedToLegId : Option String
  locationId : Option String
  deriving DecidableEq, Repr

/-- `[a-z][a-z0-9_]*` -/
def isSnakeCase (value : String) : Bool :=
  match value.toList with
  | [] => false
  | c :: cs => isLower c && cs.all isSuffixChar

def validateLegId (value label : String) : Decoded Unit :=
  require (isSnakeCase value = true) (label ++ " must be lowercase snake_case")

/-- A check of an optional field. -/
def validateOptional {α : Type} (validate : α → Decoded Unit) : Option α → Decoded Unit
  | none => .ok ()
  | some a => validate a

/-- The location of a leg, where it has one of its own. -/
def requireLegLocation : Option String → Decoded (Option String)
  | none => .ok none
  | some value => do
      let location ← requireLocationId value "fact leg location_id"
      return some location

/-- `EconomicLeg.__post_init__` -/
def EconomicLegFields.postInit (leg : EconomicLegFields) : Decoded EconomicLegFields := do
  validateLegId leg.legId "fact leg_id"
  require (leg.instrumentId ≠ "") "fact leg instrument_id must not be blank"
  require (leg.quantity ≠ 0) "fact leg quantity must not be zero"
  let locationId ← requireLegLocation leg.locationId
  require (leg.kind = .primary → leg.attributedToLegId = none)
    "primary legs must not declare attributed_to_leg_id"
  validateOptional (fun id => validateLegId id "fact leg attributed_to_leg_id")
    leg.attributedToLegId
  validateOptional
    (fun subtype =>
      require (isSnakeCase subtype = true) "fact leg subtype must be lowercase snake_case")
    leg.subtype
  return { leg with locationId := locationId }

/-- The checks of a leg, apart from its location. -/
structure LegValid (leg : EconomicLegFields) : Prop where
  legId : isSnakeCase leg.legId = true
  instrument : leg.instrumentId ≠ ""
  quantity : leg.quantity ≠ 0
  primary : leg.kind = .primary → leg.attributedToLegId = none
  attributed : ∀ id, leg.attributedToLegId = some id → isSnakeCase id = true
  subtype : ∀ subtype, leg.subtype = some subtype → isSnakeCase subtype = true

lemma validateOptional_eq_ok_iff {α : Type} {validate : α → Decoded Unit} {value : Option α}
    {u : Unit} :
    validateOptional validate value = .ok u ↔ ∀ a, value = some a → validate a = .ok () := by
  cases value with
  | none => simp [validateOptional]
  | some a => simp [validateOptional]

theorem postInit_eq_ok_iff (leg built : EconomicLegFields) :
    leg.postInit = .ok built ↔
      LegValid leg ∧ ∃ location, requireLegLocation leg.locationId = .ok location ∧
        built = { leg with locationId := location } := by
  simp only [EconomicLegFields.postInit, validateLegId, bind_eq_ok_iff, require_eq_ok_iff,
    validateOptional_eq_ok_iff]
  constructor
  · rintro ⟨_, hid, _, hinstrument, _, hquantity, location, hlocation, _, hprimary, _, hattributed, _,
      hsubtype, hbuilt⟩
    exact ⟨⟨hid, hinstrument, hquantity, hprimary, hattributed, hsubtype⟩, location, hlocation,
      (Except.ok.inj hbuilt).symm⟩
  · rintro ⟨hvalid, location, hlocation, rfl⟩
    exact ⟨(), hvalid.legId, (), hvalid.instrument, (), hvalid.quantity, location, hlocation, (),
      hvalid.primary, (), hvalid.attributed, (), hvalid.subtype, rfl⟩

lemma requireLegLocation_settled {value location : Option String}
    (h : requireLegLocation value = .ok location) :
    requireLegLocation location = .ok location := by
  cases value with
  | none =>
      cases h
      rfl
  | some text =>
      rcases bind_eq_ok_iff.1 h with ⟨settled, hsettled, hlocation⟩
      cases hlocation
      simp only [requireLegLocation, (requireLocationId_settled hsettled).2.2, bind_ok]
      rfl

/-- A leg is built again from its own fields. -/
lemma postInit_settled (leg built : EconomicLegFields) (h : leg.postInit = .ok built) :
    built.postInit = .ok built := by
  rcases (postInit_eq_ok_iff leg built).1 h with ⟨hvalid, location, hlocation, rfl⟩
  refine (postInit_eq_ok_iff _ _).2 ⟨?_, location, requireLegLocation_settled hlocation, rfl⟩
  exact ⟨hvalid.legId, hvalid.instrument, hvalid.quantity, hvalid.primary, hvalid.attributed,
    hvalid.subtype⟩

def economicLeg : Constructor EconomicLegFields EconomicLegFields where
  make := EconomicLegFields.postInit
  fields := id
  settled := postInit_settled

abbrev EconomicLeg := economicLeg.Value

end Transactions
end Tallylot
