import Tallylot.Data.Attempts
import Tallylot.Data.Delimited
import Tallylot.Data.Dict
import Tallylot.Data.Sorted
import Tallylot.Data.SpecialDecimal
import Tallylot.Data.Strptime
import Tallylot.Normalization.DraftLegs

/-!
# RetailRows — translating a retail export

Every row becomes a draft of its own, apart from asset migrations, whose rows are collected by time and
paired at the end.  What a row or a pair raises as a `ValueError` becomes an issue; anything else ends
the translation of the file.
-/

namespace Tallylot
namespace Coinbase

open Data Domain Normalization Transactions

/-! ## Rows -/

/-- `RETAIL_HEADER` -/
inductive RetailColumn
  | id
  | timestamp
  | transactionType
  | asset
  | quantityTransacted
  | priceCurrency
  | priceAtTransaction
  | subtotal
  | total
  | fees
  | notes
  deriving DecidableEq, Repr

/-- The cells of a row, by column. -/
abbrev RetailRow := RetailColumn → String

structure RetailRowContext where
  rowIndex : Nat
  row : RetailRow

/-- The profile's source and the name of its file. -/
structure RetailFile where
  source : String
  name : String

section

variable (env : KernelEnvironment) (row : RetailRow)

def rowId : String := strip (row .id)

/-- `tx_type` -/
def txType : String := env.lower (strip (row .transactionType))

def assetSymbol : String := env.upper (strip (row .asset))

/-- `price_currency` -/
def priceCurrency : String := env.upper (strip (row .priceCurrency))

def transactedQuantity : Decoded (Option SpecialDecimal) :=
  SpecialDecimal.parse (strip (row .quantityTransacted))

end

/-- `_money_decimal` -/
def moneyDecimal (value : String) : Decoded (Option SpecialDecimal) :=
  SpecialDecimal.parse
    (String.ofList ((strip value).toList.filter (fun c => c ≠ '$' && c ≠ ',')))

def retailTimestampFormats : List String :=
  ["%Y-%m-%d %H:%M:%S UTC", "%Y-%m-%dT%H:%M:%S.%fZ", "%Y-%m-%dT%H:%M:%SZ"]

/-- `parse_retail_timestamp` -/
def parseRetailTimestamp (env : KernelEnvironment) (value : String) : Decoded Instant :=
  requireSome
    (retailTimestampFormats.findSome? (fun format => Strptime.readInstant format (strip value)))
    ("unsupported Coinbase retail timestamp: " ++ env.repr value)

/-! ## Descriptions -/

/-- `note.replace("  ", " ")` -/
def replaceDoubleBlanks : List Char → List Char
  | ' ' :: ' ' :: cs => ' ' :: replaceDoubleBlanks cs
  | c :: cs => c :: replaceDoubleBlanks cs
  | [] => []

/-- `note.replace(" for ", " for $", 1)` -/
def insertDollar (note : List Char) : List Char :=
  match cut " for ".toList note with
  | some (front, back) => front ++ " for $".toList ++ back
  | none => note

def coinbaseDescription (txType notes asset : String) (quantity quoteAmount : Option SpecialDecimal) :
    String :=
  let note := strip notes
  if note ≠ "" then
    if txType = "buy" ∧ '$' ∉ note.toList then
      String.ofList (insertDollar (replaceDoubleBlanks note.toList))
    else note
  else
    match if txType = "buy" then quantity else none, quoteAmount with
    | some quantity, some quoteAmount =>
        "Bought " ++ quantity.str ++ " " ++ asset ++ " for " ++ quoteAmount.str
    | _, _ => "Coinbase " ++ (if txType = "" then "transaction" else txType)

/-! ## Legs -/

/-- A leg with its quantity, which may be infinite. -/
structure RetailLeg where
  legId : String
  kind : LegKind
  quantity : SpecialDecimal
  asset : String
  subtype : Option String := none
  attributedToLegId : Option String := none
  deriving DecidableEq, Repr

/-- `economic_leg`, which reads of a quantity only whether it is zero. -/
def RetailLeg.draft (leg : RetailLeg) : Decoded EconomicLegDraft :=
  symbolLeg leg.legId leg.kind leg.quantity.standIn leg.asset (some "coinbase") leg.subtype
    leg.attributedToLegId

/-- A leg and the draft that was built of it. -/
structure BuiltRetailLeg where
  leg : RetailLeg
  draft : EconomicLegDraft
  built : leg.draft = .ok draft

def RetailLeg.build (leg : RetailLeg) : Decoded BuiltRetailLeg :=
  match h : leg.draft with
  | .ok draft => .ok ⟨leg, draft, h⟩
  | .error e => .error e

def primaryLeg (legId : String) (quantity : SpecialDecimal) (asset : String) : RetailLeg where
  legId := legId
  kind := .primary
  quantity := quantity
  asset := asset

def feeLeg (fee : SpecialDecimal) (asset attributedToLegId : String) : RetailLeg where
  legId := "fee"
  kind := .charge
  quantity := fee.neg
  asset := asset
  subtype := some "trading_fee"
  attributedToLegId := some attributedToLegId

/-- `_charge_legs` -/
def chargeLegs (feeAmount : Option SpecialDecimal) (feeAsset attributedToLegId : String) :
    Decoded (List BuiltRetailLeg) :=
  match feeAmount with
  | none => .ok []
  | some fee => do
      if !(← fee.isPositive) || feeAsset = "" then return []
      else
        let built ← (feeLeg fee feeAsset attributedToLegId).build
        return [built]

/-- The total of a trade without its fee: what was paid is less, what was received is more. -/
def correctedTotal (txType : String) (total fee : SpecialDecimal) : Decoded SpecialDecimal :=
  if txType = "buy" then total.sub fee else total.add fee

/-- `_retail_cash_amount` -/
def retailCashAmount (txType : String) (subtotalAmount totalAmount feeAmount : Option SpecialDecimal) :
    Decoded (Option SpecialDecimal) :=
  match subtotalAmount, totalAmount, feeAmount with
  | some subtotal, _, _ => .ok (some subtotal)
  | none, none, _ => .ok none
  | none, some total, none => .ok (some total)
  | none, some total, some fee => do
      if !(← fee.isPositive) then return some total
      else
        let cashAmount ← correctedTotal txType total fee
        return if ← cashAmount.isPositive then some cashAmount else none

/-- The two primary legs of a trade, and the one that its fee is attributed to. -/
def tradeLegs (txType asset priceCurrency : String) (quantity cash : SpecialDecimal) :
    Option (RetailLeg × RetailLeg × String) :=
  if txType = "buy" then
    some (primaryLeg "primary_in" quantity asset, primaryLeg "primary_out" cash.neg priceCurrency,
      "primary_out")
  else if txType = "sell" then
    some (primaryLeg "primary_in" cash priceCurrency, primaryLeg "primary_out" quantity.neg asset,
      "primary_in")
  else none

/-- The leg of a row that is no trade. -/
def singleLeg (txType asset : String) (quantity : SpecialDecimal) : Option RetailLeg :=
  if txType = "reward income" then some (primaryLeg "primary_in" quantity.abs asset)
  else if txType ∈ ["receive", "deposit"] then some (primaryLeg "primary_in" quantity asset)
  else if txType ∈ ["send", "withdrawal", "withdraw"] then
    some (primaryLeg "primary_out" quantity.abs.neg asset)
  else none

/-! ## Drafts -/

structure RetailDraft where
  legs : List BuiltRetailLeg
  draft : EconomicActivityDraft

/-- The constructor of a draft; counting its legs compares their quantities with zero. -/
def buildRetailDraft (legs : List BuiltRetailLeg) (fields : EconomicActivityDraftFields) :
    Decoded RetailDraft :=
  if legs.any (fun built => built.leg.quantity = .nan) then .error .invalidOperation
  else do
    let draft ← economicActivityDraft.build { fields with legs := legs.map BuiltRetailLeg.draft }
    return ⟨legs, draft⟩

/-- `_classification_for_type` -/
def classificationForType (txType : String) : FactSemantics :=
  if txType ∈ ["buy", "sell"] then ⟨.spotTrade, .assetExchange, .capitalExchange, some .trade⟩
  else if txType = "reward income" then
    ⟨.interestIncome, .incomeRecognition, .ordinaryIncome, some .interestIncome⟩
  else if txType ∈ ["receive", "deposit"] then
    ⟨.assetDeposit, .fundingInflow, .nonTaxableTransferIn, some .deposit⟩
  else ⟨.assetWithdrawal, .fundingOutflow, .nonTaxableTransferOut, some .withdrawal⟩

/-- `_draft` -/
def retailDraft (env : KernelEnvironment) (file : RetailFile) (row : RetailRow) (timestamp : Instant)
    (description : String) (legPolicy : FactLegPolicy) (legs : List BuiltRetailLeg) :
    Decoded RetailDraft := do
  let locationId ← locationIdFromParts env.lower [file.source]
  buildRetailDraft legs
    { activityId := "coinbase-retail-" ++ rowId row
      source := file.source
      adapterId := "coinbase"
      locationId := locationId
      timestamp := timestamp
      classification := classificationForType (txType env row)
      legs := []
      legPolicy := legPolicy
      description := description
      rawFile := file.name
      rawRowRef := rowId row
      txHash := "coinbase-retail-" ++ rowId row
      providerOperationKey := txType env row }

/-! ## Single rows -/

/-- The amounts of a row; a blank cell holds none. -/
structure RetailAmounts where
  quantity : Option SpecialDecimal
  subtotal : Option SpecialDecimal
  total : Option SpecialDecimal
  fee : Option SpecialDecimal
  deriving DecidableEq, Repr

def readAmounts (row : RetailRow) : Decoded RetailAmounts := do
  let quantity ← transactedQuantity row
  let subtotal ← moneyDecimal (row .subtotal)
  let total ← moneyDecimal (row .total)
  let fee ← moneyDecimal (row .fees)
  return ⟨quantity, subtotal, total, fee⟩

def unsupportedType (row : RetailRow) : DecodeError :=
  .value ("Unsupported Coinbase retail transaction type: " ++ strip (row .transactionType))

/-- The branches of buying and selling. -/
def tradeDraft (env : KernelEnvironment) (file : RetailFile) (row : RetailRow) (timestamp : Instant)
    (description : String) (quantity : SpecialDecimal) (amounts : RetailAmounts) :
    Decoded RetailDraft := do
  match ← retailCashAmount (txType env row) amounts.subtotal amounts.total amounts.fee with
  | none => .error (unsupportedType row)
  | some cash =>
      match tradeLegs (txType env row) (assetSymbol env row) (priceCurrency env row) quantity cash with
      | none => .error (unsupportedType row)
      | some (inLeg, outLeg, attributedToLegId) => do
          let primaryIn ← inLeg.build
          let primaryOut ← outLeg.build
          let charge ← chargeLegs amounts.fee (priceCurrency env row) attributedToLegId
          retailDraft env file row timestamp description twoSidedPrimaryExchangeWithSingleChargePolicy
            (primaryIn :: primaryOut :: charge)

/-- The branches of rewards, deposits and withdrawals, and the error for any other type. -/
def singleDraft (env : KernelEnvironment) (file : RetailFile) (row : RetailRow) (timestamp : Instant)
    (description : String) (quantity : SpecialDecimal) : Decoded RetailDraft :=
  match singleLeg (txType env row) (assetSymbol env row) quantity with
  | none => .error (unsupportedType row)
  | some leg => do
      let built ← leg.build
      retailDraft env file row timestamp description singlePrimaryActivityPolicy [built]

/-- `normalize_retail_row` -/
def normalizeRetailRow (env : KernelEnvironment) (file : RetailFile) (row : RetailRow) :
    Decoded RetailDraft := do
  let amounts ← readAmounts row
  let description := coinbaseDescription (txType env row) (row .notes) (assetSymbol env row)
    amounts.quantity amounts.total
  let timestamp ← parseRetailTimestamp env (strip (row .timestamp))
  match amounts.quantity with
  -- without a quantity no branch applies, and both errors of the source say the same
  | none => .error (unsupportedType row)
  | some quantity =>
      if txType env row ∈ ["buy", "sell"] then
        tradeDraft env file row timestamp description quantity amounts
      else singleDraft env file row timestamp description quantity

/-! ## Asset migrations -/

/-- The quantity of a row of an asset migration, where a blank cell is zero. -/
def migrationQuantity (row : RetailRow) : Decoded SpecialDecimal := do
  return (← transactedQuantity row).getD (.finite 0)

/-- `normalize_asset_migration` -/
def normalizeAssetMigration (env : KernelEnvironment) (file : RetailFile) (timestamp : String)
    (rows : List RetailRow) : Decoded RetailDraft :=
  if rows.length ≠ 2 then
    .error (.value ("Expected 2 asset-migration rows at " ++ timestamp ++ ", found " ++
      toString rows.length))
  else do
    let negatives ← rows.filterM (fun row => do (← migrationQuantity row).isNegative)
    let positives ← rows.filterM (fun row => do (← migrationQuantity row).isPositive)
    match negatives, positives with
    | [soldRow], [boughtRow] => do
        let soldQuantity ← migrationQuantity soldRow
        match ← transactedQuantity boughtRow with
        | none =>
            .error (.value ("Asset-migration rows at " ++ timestamp ++
              " are missing transacted quantities"))
        | some boughtQuantity => do
            if !(← soldQuantity.abs.isPositive) then
              .error (.value ("Asset-migration rows at " ++ timestamp ++
                " are missing transacted quantities"))
            else
              let locationId ← locationIdFromParts env.lower [file.source]
              let instant ← parseRetailTimestamp env timestamp
              let assetIn ← (primaryLeg "asset_in" boughtQuantity (assetSymbol env boughtRow)).build
              let assetOut ←
                (primaryLeg "asset_out" soldQuantity.abs.neg (assetSymbol env soldRow)).build
              buildRetailDraft [assetIn, assetOut]
                { activityId :=
                    "coinbase-asset-migration-" ++ rowId soldRow ++ "-" ++ rowId boughtRow
                  source := file.source
                  adapterId := "coinbase"
                  locationId := locationId
                  timestamp := instant
                  classification :=
                    ⟨.assetMigration, .assetExchange, .nonTaxableAssetMigration, some .swapNonTaxable⟩
                  legs := []
                  legPolicy := twoSidedPrimaryExchangePolicy
                  description := "Coinbase Asset Migration"
                  rawFile := file.name
                  rawRowRef := rowId soldRow ++ "|" ++ rowId boughtRow
                  providerOperationKey := "asset_migration" }
    | _, _ =>
        .error (.value ("Asset-migration rows at " ++ timestamp ++
          " do not form one positive and one negative leg"))

/-! ## Files -/

/-- What a row or a pair of rows comes to. -/
abbrev RetailOutcome := Sum RetailDraft IssueRecord

def unsupportedRow (file : RetailFile) (ref message rawRowRef : String) : IssueRecord where
  issueId := "coinbase:" ++ file.name ++ ":" ++ ref
  source := file.source
  adapterId := "coinbase"
  severity := "medium"
  kind := "unsupported_row"
  message := message
  rawFile := file.name
  rawRowRef := rawRowRef

/-- The draft, or the issue about a `ValueError`. -/
def outcomeOf (file : RetailFile) (ref rawRowRef : String) (draft : Decoded RetailDraft) :
    Decoded RetailOutcome := do
  match ← attempt draft with
  | .inl draft => return .inl draft
  | .inr message => return .inr (unsupportedRow file ref message rawRowRef)

def rowOutcome (env : KernelEnvironment) (file : RetailFile) (context : RetailRowContext) :
    Decoded RetailOutcome :=
  outcomeOf file
    (if rowId context.row ≠ "" then rowId context.row
      else if txType env context.row ≠ "" then txType env context.row else "row")
    ("row:" ++ toString context.rowIndex) (normalizeRetailRow env file context.row)

def migrationOutcome (env : KernelEnvironment) (file : RetailFile)
    (entry : String × List RetailRow) : Decoded RetailOutcome :=
  outcomeOf file ("asset_migration:" ++ entry.1) entry.1
    (normalizeAssetMigration env file entry.1 entry.2)

structure RetailBatch where
  drafts : List RetailDraft
  issues : List IssueRecord

structure TranslationState extends RetailBatch where
  assetMigrations : Dict String (List RetailRow)

namespace TranslationState

def empty : TranslationState := ⟨⟨[], []⟩, .empty⟩

def record (state : TranslationState) : RetailOutcome → TranslationState
  | .inl draft => { state with drafts := state.drafts ++ [draft] }
  | .inr issue => { state with issues := state.issues ++ [issue] }

def collect (state : TranslationState) (row : RetailRow) : TranslationState :=
  { state with
    assetMigrations :=
      state.assetMigrations.upsert (strip (row .timestamp)) (fun rows => rows.getD [] ++ [row]) }

end TranslationState

/-- The step of the loop over the rows. -/
def addRow (env : KernelEnvironment) (file : RetailFile) (state : TranslationState)
    (context : RetailRowContext) : Decoded TranslationState :=
  if txType env context.row = "asset migration" then .ok (state.collect context.row)
  else do
    let outcome ← rowOutcome env file context
    return state.record outcome

/-- The step of the loop over the collected asset migrations. -/
def addMigration (env : KernelEnvironment) (file : RetailFile) (state : TranslationState)
    (entry : String × List RetailRow) : Decoded TranslationState := do
  let outcome ← migrationOutcome env file entry
  return state.record outcome

/-- `_translate_retail_file` -/
def translateRetailFile (env : KernelEnvironment) (file : RetailFile)
    (contexts : List RetailRowContext) : Decoded RetailBatch := do
  let read ← contexts.foldlM (addRow env file) TranslationState.empty
  let settled ← (sortedOn Prod.fst read.assetMigrations.entries).foldlM (addMigration env file) read
  return settled.toRetailBatch

end Coinbase
end Tallylot
