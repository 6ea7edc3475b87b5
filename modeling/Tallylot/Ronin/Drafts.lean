import Tallylot.Ronin.Rows

/-!
# Drafts — issues and drafts of Ronin rows

A draft of a raw row has a primary leg and, where its transaction has a fee to charge, a charge leg.
Drafts of summary rows have no charge leg.
-/

namespace Tallylot
namespace Ronin

open Data Domain Normalization Transactions

/-! ## Limits -/

/-- The limit of one primary leg, which need not be there. -/
def optionalPrimary : LegShapeLimitFields := ⟨.primary, 1, 0, some 1, none, some 1, none⟩

lemma optionalPrimary_accepted : legShapeLimit.Accepted optionalPrimary :=
  checkedConstructor_accepted.2 rfl

def optionalPrimaryLimit : LegShapeLimit := ⟨optionalPrimary, optionalPrimary_accepted⟩

lemma chargedPolicy_accepted : factLegPolicy.Accepted ⟨[optionalPrimaryLimit, chargeLimit]⟩ :=
  checkedConstructor_accepted.2 rfl

/-- `_single_primary_with_optional_fee_policy` -/
def singlePrimaryWithOptionalFeePolicy (fee : Decimal) : FactLegPolicy :=
  if fee.coeff ≤ 0 then singlePrimaryActivityPolicy
  else ⟨⟨[optionalPrimaryLimit, chargeLimit]⟩, chargedPolicy_accepted⟩

section

variable (env : KernelEnvironment) (source : String)

/-! ## Issues -/

def rowIssue (rawFile rawRowRef issueIdSuffix message : String) : IssueRecord where
  issueId := "ronin:" ++ rawFile ++ ":" ++ rawRowRef ++ ":" ++ issueIdSuffix
  source := source
  adapterId := "ronin"
  severity := "medium"
  kind := "unsupported_row"
  message := message
  rawFile := rawFile
  rawRowRef := rawRowRef

def RoninRawRow.issue (row : RoninRawRow) (issueIdSuffix message : String) : IssueRecord :=
  rowIssue source row.pathName row.rawRowRef issueIdSuffix message

def RoninSummaryRow.issue (row : RoninSummaryRow) (issueIdSuffix message : String) : IssueRecord :=
  rowIssue source row.pathName row.rawRowRef issueIdSuffix message

def symbolIdentityIssue (rawFile rawRowRef : String) : IssueRecord where
  issueId := "ronin:" ++ rawFile ++ ":" ++ rawRowRef ++ ":instrument_identity_blocked"
  source := source
  adapterId := "ronin"
  severity := "medium"
  kind := "instrument_identity_blocked"
  message :=
    "Ronin token rows without immutable contract identity " ++
      "keep a symbol-only instrument id and cannot " ++
        "participate in historical API-backed balance lookup."
  rawFile := rawFile
  rawRowRef := rawRowRef

/-- The leg is a primary one of a token that only its symbol names. -/
def isSymbolOnly (leg : EconomicLegDraft) : Bool :=
  leg.val.kind = .primary &&
    match leg.val.instrumentIdentityClaims with
    | [claim] => claim.scheme = "symbol" && claim.venue = some "ronin" && claim.value ≠ "RON"
    | _ => false

/-- `symbol_identity_issues`: one issue for each draft with such a leg. -/
def symbolIdentityIssues (drafts : List EconomicActivityDraft) : List IssueRecord :=
  (drafts.filter (fun draft => draft.val.legs.any isSymbolOnly)).map (fun draft =>
    symbolIdentityIssue source draft.val.rawFile draft.val.rawRowRef)

/-- `supported_fee_reviews` -/
def supportedFeeReviews (resolution : RoninFeeResolution) (drafts : List EconomicActivityDraft) :
    List NormalizationReviewRecord :=
  if drafts = [] then [] else resolution.review.toList

/-! ## Drafts -/

def roninLocationId (address : String) : String := "evm:ronin:" ++ env.lower (strip address)

/-- The claim of the asset that fees are paid in. -/
def ronClaim : Except String InstrumentIdentityClaim := evmNativeAssetClaim env "ronin" "RON"

/-- `_ronin_instrument_claim` -/
def roninInstrumentClaim (assetSymbol : String) : Except String InstrumentIdentityClaim :=
  if assetSymbol = "RON" then evmNativeAssetClaim env "ronin" assetSymbol
  else InstrumentIdentityClaim.create (symbolClaim assetSymbol (some "ronin"))

def primaryLegId (quantity : Decimal) : String :=
  if 0 < quantity.coeff then "primary_in" else "primary_out"

def primaryLeg (quantity : Decimal) (assetSymbol : String) : Decoded EconomicLegDraft := do
  let claim ← raised (roninInstrumentClaim env assetSymbol)
  economicLegDraft.build
    { legId := primaryLegId quantity
      kind := .primary
      instrumentIdentityClaims := [claim]
      quantity := quantity }

/-- `_fee_legs` -/
def feeLegs (fee : Decimal) (attributedToLegId : String) : Decoded (List EconomicLegDraft) :=
  if fee.coeff ≤ 0 then .ok []
  else do
    let claim ← raised (ronClaim env)
    let leg ← economicLegDraft.build
      { legId := "charge"
        kind := .charge
        instrumentIdentityClaims := [claim]
        quantity := -fee
        subtype := some "network_fee"
        attributedToLegId := some attributedToLegId }
    return [leg]

structure RoninRawDraftContext where
  source : String
  locationId : String
  semantics : FactSemantics
  fee : Decimal := 0

/-- `_transfer_draft` -/
def transferDraft (row : RoninRawRow) (quantity : Decimal) (context : RoninRawDraftContext) :
    Decoded EconomicActivityDraft := do
  let primary ← primaryLeg env quantity row.assetSymbol
  let charges ← feeLegs env context.fee (primaryLegId quantity)
  economicActivityDraft.build
    { activityId := "ronin:" ++ row.pathName ++ ":" ++ row.txHash
      source := context.source
      adapterId := "ronin"
      locationId := context.locationId
      timestamp := row.timestamp
      classification := context.semantics
      legPolicy := singlePrimaryWithOptionalFeePolicy context.fee
      description := "Ronin " ++ row.method ++ " - " ++ row.txHash
      rawFile := row.pathName
      rawRowRef := row.rawRowRef
      txHash := row.txHash
      providerOperationKey := row.method
      legs := primary :: charges }

/-- Something comes in at an owned address, and nothing goes out. -/
def isIncoming (ownedAddresses : List String) (row : RoninRawRow) : Bool :=
  0 < row.inboundQuantity.coeff && row.outboundQuantity = 0 && row.toAddress ∈ ownedAddresses

/-- Something goes out of an owned address, and nothing comes in. -/
def isOutgoing (ownedAddresses : List String) (row : RoninRawRow) : Bool :=
  0 < row.outboundQuantity.coeff && row.inboundQuantity = 0 && row.fromAddress ∈ ownedAddresses

def simpleTransferDraft (ownedAddresses : List String) (row : RoninRawRow)
    (authoritativeFee : Decimal) : Decoded (Option EconomicActivityDraft) :=
  if isIncoming ownedAddresses row then do
    let draft ← transferDraft env row row.inboundQuantity
      ⟨source, roninLocationId env row.toAddress, transferInSemantics, authoritativeFee⟩
    return some draft
  else if isOutgoing ownedAddresses row then do
    let draft ← transferDraft env row (-row.outboundQuantity)
      ⟨source, roninLocationId env row.fromAddress, transferOutSemantics, authoritativeFee⟩
    return some draft
  else .ok none

def stakingTransferOutDraft (row : RoninRawRow) (locationId : String) (fee : Decimal := 0) :
    Decoded EconomicActivityDraft :=
  transferDraft env row (-row.outboundQuantity) ⟨source, locationId, stakingOutSemantics, fee⟩

def stakingRewardDraft (row : RoninRawRow) (locationId : String) (fee : Decimal := 0) :
    Decoded EconomicActivityDraft :=
  transferDraft env row row.inboundQuantity ⟨source, locationId, stakingRewardSemantics, fee⟩

def stakingTransferInDraft (row : RoninRawRow) (locationId : String) (fee : Decimal := 0) :
    Decoded EconomicActivityDraft :=
  transferDraft env row row.inboundQuantity ⟨source, locationId, stakingInSemantics, fee⟩

structure SummaryDraftContext where
  timestamp : Instant
  locationId : String
  quantity : Decimal
  semantics : FactSemantics

def summaryTransferDraft (row : RoninSummaryRow) (context : SummaryDraftContext) :
    Decoded EconomicActivityDraft := do
  let primary ← primaryLeg env context.quantity row.assetSymbol
  economicActivityDraft.build
    { activityId := "ronin:" ++ row.pathName ++ ":" ++ row.txHash ++ ":" ++ toString row.rowIndex
      source := source
      adapterId := "ronin"
      locationId := context.locationId
      timestamp := context.timestamp
      classification := context.semantics
      legPolicy := singlePrimaryActivityPolicy
      description := "Ronin " ++ row.actionType ++ " - " ++ row.txHash
      rawFile := row.pathName
      rawRowRef := row.rawRowRef
      txHash := row.txHash
      providerOperationKey := row.actionType
      legs := [primary] }

/-- The drafts of a reward and its stake, none where the rows are no such pair.  The stake bears the
fee. -/
def rawRestakePairDrafts (ownedAddresses : List String) (rawRows : List RoninRawRow)
    (authoritativeFee : Decimal) : Decoded (Option (List EconomicActivityDraft)) :=
  if rawRows.length ≠ 2 then .ok none
  else
    match rawRows.find? (isIncoming ownedAddresses), rawRows.find? (isOutgoing ownedAddresses) with
    | some rewardRow, some stakeRow =>
        if rewardRow.assetSymbol ≠ stakeRow.assetSymbol then .ok none
        else do
          let reward ← stakingRewardDraft env source rewardRow
            (roninLocationId env rewardRow.toAddress)
          let stake ← stakingTransferOutDraft env source stakeRow
            (roninLocationId env stakeRow.fromAddress) authoritativeFee
          return some [reward, stake]
    | _, _ => .ok none

end

end Ronin
end Tallylot
