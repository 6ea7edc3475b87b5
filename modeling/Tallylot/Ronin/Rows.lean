import Tallylot.Data.Firsts
import Tallylot.Data.Shift
import Tallylot.Data.Strptime
import Tallylot.EvmExplorer.Transfers

/-!
# Rows — the rows of Ronin exports

An explorer export lists the asset moves of transactions with UTC times, an action summary lists them
with local times.  A raw row names the fee of its transaction, which counts only where enough of its
digits are shown (`resolveFee`).  The UTC time of a summary row is inferred from the summary rows
whose transactions have raw rows as well (`inferSummaryUtcTimestamp`).
-/

namespace Tallylot
namespace Ronin

open Data Data.Strptime Domain Transactions
open EvmExplorer (cell rowRef startsWith)

/-! ## Files -/

structure RoninFile where
  name : String
  header : List String
  rows : List EvmExplorer.CsvRow

/-- The rows with their numbers (`enumerate(read_csv_rows(path), start=2)`). -/
def RoninFile.numberedRows (file : RoninFile) : List (EvmExplorer.CsvRow × Nat) :=
  file.rows.zipIdx 2

inductive Family
  | explorerExport
  | actionSummary
  deriving DecidableEq, Repr

def explorerHeader : List String :=
  ["Txhash", "Blockno", "UnixTimestamp", "DateTime", "From", "To", "Method", "Token / Collectibles",
    "Value in", "Value out", "TxnFee(RON)", "Status"]

def summaryHeader : List String :=
  ["RoninAddress", "TxnHash", "TxnURL", "Timestamp", "ActionType", "Actions", "AxieID", "AxieURL",
    "LandID", "ItemID", "ETH", "SLP", "AXS", "USDC", "¥/ETH", "¥/SLP", "¥/AXS", "AXS-WETH",
    "SLP-WETH", "USDC-WETH", "From", "To"]

/-- `family_id_for_header`; no family for an empty id. -/
def familyIdForHeader (header : List String) : Option Family :=
  if header = explorerHeader then some .explorerExport
  else if header = summaryHeader then some .actionSummary
  else none

/-- A row of a file, with its number. -/
structure FileRow where
  fileName : String
  index : Nat
  row : EvmExplorer.CsvRow

/-- The rows of the files of one family (`classified_csv_paths`). -/
def familyRows (files : List RoninFile) (family : Family) : List FileRow :=
  (files.filter (fun file => familyIdForHeader file.header = some family)).flatMap (fun file =>
    file.numberedRows.map (fun p => ⟨file.name, p.2, p.1⟩))

/-! ## Cells -/

section

variable (env : KernelEnvironment)

/-- `_asset_symbol` -/
def assetSymbolOf (tokenName : String) : String :=
  if env.lower (strip tokenName) = "axie infinity shard" then "AXS"
  else if env.lower (strip tokenName) = "ron" then "RON"
  else env.upper (strip tokenName)

/-- `_ronin_address` -/
def roninAddress (value : String) : String :=
  let normalized := env.lower (strip value)
  if startsWith "ronin:" normalized then
    "0x" ++ String.ofList (normalized.toList.drop "ronin:".length)
  else normalized

/-- `parse_decimal(cell) or Decimal("0")` -/
def quantityCell (row : EvmExplorer.CsvRow) (column : String) : Decoded Decimal := do
  let parsed ← Decimal.parseDecimal (cell row column)
  return parsed.getD 0

/-- `_parse_utc_timestamp` -/
def parseUtcTimestamp (value : String) : Option Instant :=
  if value = "" then none else readInstant "%Y-%m-%d %H:%M:%S" value

def dayFirst : String := "%d/%m/%Y, %H:%M:%S"

def monthFirst : String := "%m/%d/%Y, %H:%M:%S"

/-- `_parse_summary_local_timestamp`; the wall-clock time is kept as if it were in UTC. -/
def parseSummaryLocalTimestamp (value : String) : Option Instant :=
  if value = "" then none else (readInstant dayFirst value).or (readInstant monthFirst value)

/-! ## Raw rows -/

structure RoninRawRow where
  pathName : String
  rowIndex : Nat
  txHash : String
  timestamp : Instant
  fromAddress : String
  toAddress : String
  method : String
  assetSymbol : String
  inboundQuantity : Decimal
  outboundQuantity : Decimal
  feeText : String
  fee : Decimal
  status : String

def RoninRawRow.rawRowRef (row : RoninRawRow) : String := rowRef row.rowIndex

/-- The raw row of some cells, none without a hash, a time and an asset. -/
def parseRawRow (r : FileRow) : Decoded (Option RoninRawRow) := do
  let inboundQuantity ← quantityCell r.row "Value in"
  let outboundQuantity ← quantityCell r.row "Value out"
  let fee ← quantityCell r.row "TxnFee(RON)"
  let txHash := cell r.row "Txhash"
  let assetSymbol := assetSymbolOf env (cell r.row "Token / Collectibles")
  match parseUtcTimestamp (cell r.row "DateTime") with
  | none => return none
  | some timestamp =>
      if txHash = "" ∨ assetSymbol = "" then return none
      else
        return some
          { pathName := r.fileName
            rowIndex := r.index
            txHash := txHash
            timestamp := timestamp
            fromAddress := roninAddress env (cell r.row "From")
            toAddress := roninAddress env (cell r.row "To")
            method := env.lower (cell r.row "Method")
            assetSymbol := assetSymbol
            inboundQuantity := inboundQuantity
            outboundQuantity := outboundQuantity
            feeText := cell r.row "TxnFee(RON)"
            fee := fee
            status := env.lower (cell r.row "Status") }

/-- The raw rows of a transaction, of which there is at least one. -/
structure RawGroup where
  first : RoninRawRow
  others : List RoninRawRow

def RawGroup.rows (group : RawGroup) : List RoninRawRow := group.first :: group.others

/-- What a raw row says, whichever file says it. -/
structure RawSignature where
  txHash : String
  timestamp : Instant
  fromAddress : String
  toAddress : String
  method : String
  assetSymbol : String
  inboundQuantity : Decimal
  outboundQuantity : Decimal
  feeText : String
  fee : Decimal
  status : String
  deriving DecidableEq

def rawSignature (row : RoninRawRow) : RawSignature where
  txHash := row.txHash
  timestamp := row.timestamp
  fromAddress := row.fromAddress
  toAddress := row.toAddress
  method := row.method
  assetSymbol := row.assetSymbol
  inboundQuantity := row.inboundQuantity
  outboundQuantity := row.outboundQuantity
  feeText := row.feeText
  fee := row.fee
  status := row.status

/-! ## Summary rows -/

structure RoninSummaryRow where
  pathName : String
  rowIndex : Nat
  txHash : String
  localTimestamp : Instant
  actionType : String
  roninAddress : String
  fromAddress : String
  toAddress : String
  assetSymbol : String
  quantity : Decimal

def RoninSummaryRow.rawRowRef (row : RoninSummaryRow) : String := rowRef row.rowIndex

/-- The loop of `_summary_asset_quantity`: the first column that is not zero. -/
def firstAssetQuantity (row : EvmExplorer.CsvRow) : List String → Decoded (String × Decimal)
  | [] => .ok ("", 0)
  | symbol :: symbols => do
      let quantity ← quantityCell row symbol
      if quantity ≠ 0 then return (symbol, quantity) else firstAssetQuantity row symbols

/-- `_summary_asset_quantity` -/
def summaryAssetQuantity (row : EvmExplorer.CsvRow) : Decoded (String × Decimal) :=
  firstAssetQuantity row ["AXS", "RON", "SLP", "USDC", "ETH"]

def parseSummaryRow (r : FileRow) : Decoded (Option RoninSummaryRow) := do
  let asset ← summaryAssetQuantity r.row
  match parseSummaryLocalTimestamp (cell r.row "Timestamp") with
  | none => return none
  | some localTimestamp =>
      if cell r.row "TxnHash" = "" ∨ asset.1 = "" ∨ asset.2 = 0 then return none
      else
        return some
          { pathName := r.fileName
            rowIndex := r.index
            txHash := cell r.row "TxnHash"
            localTimestamp := localTimestamp
            actionType := env.lower (cell r.row "ActionType")
            roninAddress := roninAddress env (cell r.row "RoninAddress")
            fromAddress := roninAddress env (cell r.row "From")
            toAddress := roninAddress env (cell r.row "To")
            assetSymbol := asset.1
            quantity := asset.2 }

end

/-! ## Semantics -/

def transferInSemantics : FactSemantics :=
  ⟨.chainTransferIn, .fundingInflow, .nonTaxableTransferIn, some .deposit⟩

def transferOutSemantics : FactSemantics :=
  ⟨.assetWithdrawal, .fundingOutflow, .nonTaxableTransferOut, some .withdrawal⟩

def stakingOutSemantics : FactSemantics :=
  ⟨.stakingTransferOut, .fundingOutflow, .nonTaxableTransferOut, some .withdrawal⟩

def stakingRewardSemantics : FactSemantics :=
  ⟨.stakingReward, .incomeRecognition, .stakingIncome, some .staking⟩

def stakingInSemantics : FactSemantics :=
  ⟨.stakingTransferIn, .fundingInflow, .nonTaxableTransferIn, some .deposit⟩

/-! ## Times of summary rows -/

/-- The local time of a summary row of a transaction with raw rows, and how far its UTC time is from
it. -/
abbrev Calibration := Instant × Int

/-- `summary_time_calibrations` -/
def summaryTimeCalibrations (rawGroupsByHash : Dict String RawGroup)
    (summaryRows : List RoninSummaryRow) : List Calibration :=
  sortedOn Prod.fst (firsts (summaryRows.filterMap (fun row =>
    (rawGroupsByHash.get? row.txHash).map (fun group =>
      (row.localTimestamp,
        group.first.timestamp.microseconds - row.localTimestamp.microseconds)))))

/-- How far the local time of a calibration is from another local time; local times are whole
seconds. -/
def calibrationDistance (localTimestamp : Instant) (calibration : Calibration) : Nat :=
  (calibration.1.microseconds - localTimestamp.microseconds).natAbs

/-- `infer_summary_utc_timestamp`, by the nearest calibration.  A time outside the years 1 to 9999 is
an `OverflowError`. -/
def inferSummaryUtcTimestamp (localTimestamp : Instant) (calibrations : List Calibration) :
    Decoded (Option Instant) :=
  match calibrations.argmin (calibrationDistance localTimestamp) with
  | none => .ok none
  | some calibration => do
      let utc ← requireSome (localTimestamp.shift calibration.2) "date value out of range"
      return some utc

/-! ## Fees -/

/-- `decimal_fraction_digits` of a text that is a decimal -/
def fractionDigits (text : String) : Nat :=
  let mantissa := text.toList.takeWhile (fun c => c ≠ 'e' && c ≠ 'E')
  ((mantissa.dropWhile (fun c => c ≠ '.')).drop 1).length

/-- `RONIN_FEE_PRECISION`: the least number of fractional digits of a fee that is not zero. -/
def roninFeeDigits : Nat := 9

structure RoninFeeResolution where
  authoritativeFee : Decimal := 0
  review : Option NormalizationReviewRecord := none

def feeReview (source : String) (row : RoninRawRow) : NormalizationReviewRecord where
  reviewId := "ronin:" ++ row.pathName ++ ":" ++ row.rawRowRef ++ ":insufficient_decimal_precision"
  source := source
  adapterId := "ronin"
  scope := "row"
  kind := "insufficient_decimal_precision"
  message :=
    "Ronin explorer TxnFee(RON) did not expose enough fractional digits to prove an authoritative " ++
      "network fee. The fee was omitted from the normalized fact. " ++ "Observed value " ++
        row.feeText ++ " has " ++ toString (fractionDigits row.feeText) ++
          " fractional digits; expected at least " ++ toString roninFeeDigits ++
            " fractional digits for non-zero values."
  contextTimestamp := row.timestamp.timestampText
  rawFile := row.pathName
  rawRowRef := row.rawRowRef
  fieldName := "TxnFee(RON)"
  originalValue := row.feeText

/-- The first positive fee of the rows counts if enough of its digits are shown.  Its text was read as
a decimal, so that its digits can be counted. -/
def resolveFee (source : String) (rows : List RoninRawRow) : RoninFeeResolution :=
  match rows.find? (fun row => 0 < row.fee.coeff) with
  | none => {}
  | some row =>
      if roninFeeDigits ≤ fractionDigits row.feeText then { authoritativeFee := row.fee }
      else { review := some (feeReview source row) }

end Ronin
end Tallylot
