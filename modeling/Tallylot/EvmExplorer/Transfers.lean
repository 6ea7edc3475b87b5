import Tallylot.Data.Dict
import Tallylot.Data.SpecialDecimal
import Tallylot.Domain.AssetClaims
import Tallylot.Domain.IdentifierLocations
import Tallylot.Normalization.DraftLegs

/-!
# Transfers — translating the exports of an EVM explorer

The header of a file says which family it belongs to.  Rows of native and of token transfers become
drafts or issues, rows of internal and of NFT transfers become issues.  A transaction with an NFT row
is left out of the native and the token transfers, and a contract call of the native transfers blocks
the token transfers of its transaction.
-/

namespace Tallylot
namespace EvmExplorer

open Data Domain Normalization Transactions

/-! ## Files -/

/-- What the reader makes of a row: its cells by column, in the order of the header. -/
abbrev CsvRow := Dict String String

structure EvmFile where
  name : String
  header : List String
  rows : List CsvRow

/-- The rows with their numbers (`enumerate(read_csv_rows(path), start=2)`). -/
def EvmFile.numberedRows (file : EvmFile) : List (CsvRow × Nat) := file.rows.zipIdx 2

inductive Family
  | tokenTransfers
  | nftTransfers
  | internalTransfers
  | nativeTransfers
  | portfolioBalances
  deriving DecidableEq, Repr

def nativeRequiredFields : List String := ["Transaction Hash", "DateTime (UTC)", "To"]

def tokenRequiredFields : List String :=
  ["Transaction Hash", "DateTime (UTC)", "From", "To", "TokenValue", "TokenSymbol"]

def nftRequiredFields : List String :=
  ["Transaction Hash", "DateTime (UTC)", "From", "To", "TokenName", "Token ID", "Quantity"]

def nftMinimumFields : List String := ["Transaction Hash", "To", "TokenName"]

def internalRequiredFields : List String :=
  ["Transaction Hash", "DateTime (UTC)", "ParentTxFrom", "ParentTxTo", "From", "TxTo"]

def portfolioRequiredFields : List String :=
  ["Chain", "Token", "Portfolio %", "Price", "Amount", "Value"]

def startsWith (start text : String) : Bool := start.toList.isPrefixOf text.toList

def endsWith (tail text : String) : Bool := tail.toList.isSuffixOf text.toList

/-- `_has_native_value_columns` -/
def hasNativeValueColumns (header : List String) : Bool :=
  header.any (startsWith "Value_IN(") || header.any (startsWith "Value_OUT(")

/-- `family_id_for_header`; no family for an empty id. -/
def familyIdForHeader (header : List String) : Option Family :=
  if tokenRequiredFields ⊆ header then some .tokenTransfers
  else if nftRequiredFields ⊆ header ∨ nftMinimumFields ⊆ header then some .nftTransfers
  else if internalRequiredFields ⊆ header ∧ hasNativeValueColumns header then some .internalTransfers
  else if nativeRequiredFields ⊆ header ∧ hasNativeValueColumns header then some .nativeTransfers
  else if portfolioRequiredFields ⊆ header then some .portfolioBalances
  else none

/-- `classified_csv_paths` -/
def classifiedCsvPaths (files : List EvmFile) : List (EvmFile × Family) :=
  files.filterMap (fun file => (familyIdForHeader file.header).map (fun family => (file, family)))

def nativeSymbolForHeader (header : List String) : String :=
  match header.find? (fun column => startsWith "Value_IN(" column && endsWith ")" column) with
  | some column => String.ofList (column.toList.drop "Value_IN(".length).dropLast
  | none => ""

/-! ## Cells -/

structure EvmEnvironment extends KernelEnvironment where
  /-- `datetime.fromisoformat(text).astimezone(UTC)`, if it can be read -/
  fromisoformat : String → Option Instant

/-- `(row.get(column) or "").strip()` -/
def cell (row : CsvRow) (column : String) : String := strip ((row.get? column).getD "")

/-- `text.replace(",", "")` -/
def removeCommas (text : String) : String := String.ofList (text.toList.filter (fun c => c ≠ ','))

/-- The text of an amount, without its commas. -/
def amountText (value : String) : String := strip (removeCommas value)

/-- The first column that starts with the name has the amount. -/
def valueCell (row : CsvRow) (name : String) : String :=
  ((row.entries.find? (fun e => startsWith (name ++ "(") e.1)).map Prod.snd).getD ""

/-- `parse_amount` -/
def parseAmount (row : CsvRow) (name : String) : Decoded Decimal := do
  let parsed ← SpecialDecimal.parseNumeral (amountText (valueCell row name))
  return parsed.getD 0

def parseUtcTimestamp (env : EvmEnvironment) (value : String) : Option Instant :=
  if value = "" then none else env.fromisoformat (value ++ "+00:00")

structure NativeCells where
  txHash : String
  timestamp : Option Instant
  method : String
  toAddress : String
  fromAddress : String
  amountIn : Decimal
  amountOut : Decimal

def nativeMethod (env : EvmEnvironment) (row : CsvRow) : String := env.lower (cell row "Method")

def nativeCells (env : EvmEnvironment) (row : CsvRow) : Decoded NativeCells := do
  let amountIn ← parseAmount row "Value_IN"
  let amountOut ← parseAmount row "Value_OUT"
  return {
    txHash := cell row "Transaction Hash"
    timestamp := parseUtcTimestamp env (cell row "DateTime (UTC)")
    method := nativeMethod env row
    toAddress := env.lower (cell row "To")
    fromAddress := env.lower (cell row "From")
    amountIn := amountIn
    amountOut := amountOut }

structure TokenCells where
  txHash : String
  timestamp : Option Instant
  toAddress : String
  fromAddress : String
  symbol : String
  amount : Option Decimal
  contractAddress : String

def tokenCells (env : EvmEnvironment) (row : CsvRow) : Decoded TokenCells := do
  let amount ← SpecialDecimal.parseNumeral (amountText ((row.get? "TokenValue").getD ""))
  return {
    txHash := cell row "Transaction Hash"
    timestamp := parseUtcTimestamp env (cell row "DateTime (UTC)")
    toAddress := env.lower (cell row "To")
    fromAddress := env.lower (cell row "From")
    symbol := env.upper (cell row "TokenSymbol")
    amount := amount
    contractAddress := env.lower (cell row "ContractAddress") }

/-! ## Issues -/

def rowRef (index : Nat) : String := "row:" ++ toString index

def rowIssue (source rawFile : String) (index : Nat) (issueSuffix message : String) : IssueRecord where
  issueId := "evm_explorer:" ++ rawFile ++ ":" ++ rowRef index ++ ":" ++ issueSuffix
  source := source
  adapterId := "evm_explorer"
  severity := "medium"
  kind := "unsupported_row"
  message := message
  rawFile := rawFile
  rawRowRef := rowRef index

def tokenIdentityIssue (source rawFile : String) (index : Nat) : IssueRecord where
  issueId := "evm_explorer:" ++ rawFile ++ ":" ++ rowRef index ++ ":instrument_identity_blocked"
  source := source
  adapterId := "evm_explorer"
  severity := "high"
  kind := "instrument_identity_blocked"
  message :=
    "EVM explorer token transfer rows without a valid contract address do not " ++
      "expose immutable contract identity; the normalized fact keeps a symbol-only " ++
        "instrument id and cannot participate in historical API-backed balance lookup."
  rawFile := rawFile
  rawRowRef := rowRef index

def suspiciousAirdropIssue (source rawFile : String) (index : Nat) (tokenName txHash : String) :
    IssueRecord where
  issueId :=
    "evm_explorer:" ++ rawFile ++ ":" ++ (if txHash = "" then toString index else txHash) ++
      ":suspicious_airdrop"
  source := source
  adapterId := "evm_explorer"
  severity := "medium"
  kind := "review_required"
  message := source ++ " received suspicious NFT airdrop " ++ tokenName ++ " in tx " ++ txHash ++ "."
  rawFile := rawFile
  rawRowRef := rowRef index
  status := "needs_review"

/-! ## Drafts -/

/-- The adapter's own `location_id_from_identifier` -/
def locationIdFromIdentifier (lower : String → String) (identifierKind identifierValue networkScope : String) :
    Decoded String := do
  require (identifierKind = "evm_address" ∧ strip networkScope ≠ "")
    "unsupported EVM location identifier"
  return "evm:" ++ lower (strip networkScope) ++ ":" ++ lower (strip identifierValue)

structure EvmDraftContext where
  pathName : String
  rowIndex : Nat
  txHash : String
  timestamp : Instant
  locationId : String
  quantity : Decimal
  instrument : InstrumentIdentityClaim

def draftLeg (context : EvmDraftContext) : EconomicLegDraftFields where
  legId := "primary"
  kind := .primary
  instrumentIdentityClaims := [context.instrument]
  quantity := context.quantity

def transferFields (source : String) (context : EvmDraftContext) (semantics : FactSemantics)
    (leg : EconomicLegDraft) : EconomicActivityDraftFields where
  activityId := "evm_explorer:" ++ context.pathName ++ ":" ++ context.txHash
  source := source
  adapterId := "evm_explorer"
  locationId := context.locationId
  timestamp := context.timestamp
  classification := semantics
  legPolicy := singlePrimaryActivityPolicy
  description := "Transfer - " ++ context.txHash
  rawFile := context.pathName
  rawRowRef := rowRef context.rowIndex
  txHash := context.txHash
  providerOperationKey := "explorer_transfer"
  legs := [leg]

def draftTransfer (source : String) (context : EvmDraftContext) (semantics : FactSemantics) :
    Decoded EconomicActivityDraft := do
  let leg ← economicLegDraft.build (draftLeg context)
  economicActivityDraft.build (transferFields source context semantics leg)

def incoming : FactSemantics :=
  ⟨.chainTransferIn, .fundingInflow, .nonTaxableTransferIn, some .deposit⟩

def outgoing : FactSemantics :=
  ⟨.assetWithdrawal, .fundingOutflow, .nonTaxableTransferOut, some .withdrawal⟩

/-! ## Rows -/

structure EvmTranslationContext where
  ownedAddresses : List String
  networkScope : String
  blockedTxHashes : List String
  unsupportedMethods : Dict String String

/-- What a row adds to the drafts and the issues. -/
structure RowResult where
  drafts : List EconomicActivityDraft := []
  issues : List IssueRecord := []

/-- A row of a file of the profile's source. -/
structure RowPlace where
  source : String
  fileName : String
  index : Nat

def RowPlace.reported (place : RowPlace) (issueSuffix message : String) : RowResult where
  issues := [rowIssue place.source place.fileName place.index issueSuffix message]

section

variable (env : EvmEnvironment) (ctx : EvmTranslationContext) (place : RowPlace)

/-- The draft of a move at an owned address. -/
def bookTransfer (txHash : String) (timestamp : Instant) (address : String) (quantity : Decimal)
    (instrument : Except String InstrumentIdentityClaim) (semantics : FactSemantics) :
    Decoded EconomicActivityDraft := do
  let locationId ← locationIdFromIdentifier env.lower "evm_address" address ctx.networkScope
  let claim ← raised instrument
  draftTransfer place.source
    { pathName := place.fileName
      rowIndex := place.index
      txHash := txHash
      timestamp := timestamp
      locationId := locationId
      quantity := quantity
      instrument := claim }
    semantics

/-- The transfer of a native row whose method is supported. -/
def nativeTransfer (symbol : String) (cells : NativeCells) (timestamp : Instant) :
    Decoded RowResult :=
  if 0 < cells.amountIn.coeff ∧ cells.amountOut = 0 ∧ cells.toAddress ∈ ctx.ownedAddresses then do
    let draft ← bookTransfer env ctx place cells.txHash timestamp cells.toAddress cells.amountIn
      (evmNativeAssetClaim env.toKernelEnvironment ctx.networkScope symbol) incoming
    return { drafts := [draft] }
  else if 0 < cells.amountOut.coeff ∧ cells.amountIn = 0 ∧
      cells.fromAddress ∈ ctx.ownedAddresses then do
    let draft ← bookTransfer env ctx place cells.txHash timestamp cells.fromAddress (-cells.amountOut)
      (evmNativeAssetClaim env.toKernelEnvironment ctx.networkScope symbol) outgoing
    return { drafts := [draft] }
  else
    .ok (place.reported "unsupported_shape"
      "EVM explorer native row does not match a supported simple transfer shape.")

def nativeOutcome (symbol : String) (cells : NativeCells) : Decoded RowResult :=
  match cells.timestamp with
  | none =>
      .ok (place.reported "invalid_row" "EVM explorer row is missing tx hash or timestamp.")
  | some timestamp =>
      if cells.txHash = "" then
        .ok (place.reported "invalid_row" "EVM explorer row is missing tx hash or timestamp.")
      else if cells.txHash ∈ ctx.blockedTxHashes then .ok {}
      else if cells.amountIn.coeff ≤ 0 ∧ cells.amountOut.coeff ≤ 0 then .ok {}
      else if cells.method ∉ ["", "transfer"] then
        .ok (place.reported ("unsupported_method:" ++ cells.method)
          ("Unsupported EVM explorer native method: " ++ cells.method))
      else nativeTransfer env ctx place symbol cells timestamp

/-- The body of the loop of `translate_native_transfers`. -/
def nativeRow (symbol : String) (row : CsvRow) : Decoded RowResult := do
  let cells ← nativeCells env row
  nativeOutcome env ctx place symbol cells

/-- A text that the pattern of addresses matches from end to end. -/
def isEvmAddress (text : String) : Bool := isTaggedRun "0x".toList isHexChar 40 (some 40) text.toList

/-- `token_claim` -/
def tokenClaim (cells : TokenCells) : Except String InstrumentIdentityClaim :=
  if isEvmAddress cells.contractAddress then
    evmErc20AssetClaim env.toKernelEnvironment ctx.networkScope cells.contractAddress cells.symbol
  else InstrumentIdentityClaim.create (symbolClaim cells.symbol (some "evm_explorer"))

/-- The issue of a token that only its symbol names. -/
def tokenIdentityIssues (cells : TokenCells) : List IssueRecord :=
  if isEvmAddress cells.contractAddress then []
  else [tokenIdentityIssue place.source place.fileName place.index]

/-- The transfer of a token row once its token is claimed. -/
def tokenTransfer (cells : TokenCells) (timestamp : Instant) (amount : Decimal)
    (claim : InstrumentIdentityClaim) : Decoded RowResult :=
  if cells.toAddress ∈ ctx.ownedAddresses ∧ cells.fromAddress ∉ ctx.ownedAddresses then do
    let draft ← bookTransfer env ctx place cells.txHash timestamp cells.toAddress amount (.ok claim)
      incoming
    return { drafts := [draft], issues := tokenIdentityIssues place cells }
  else if cells.fromAddress ∈ ctx.ownedAddresses ∧ cells.toAddress ∉ ctx.ownedAddresses then do
    let draft ← bookTransfer env ctx place cells.txHash timestamp cells.fromAddress (-amount)
      (.ok claim) outgoing
    return { drafts := [draft], issues := tokenIdentityIssues place cells }
  else
    .ok (place.reported "unsupported_shape"
      "EVM explorer token row does not match a supported simple transfer shape.")

/-- A token row of a transaction that no NFT row blocks. -/
def tokenUnblocked (cells : TokenCells) (timestamp : Instant) (amount : Decimal) :
    Decoded RowResult :=
  let unsupportedMethod := (ctx.unsupportedMethods.get? cells.txHash).getD ""
  if unsupportedMethod ≠ "" then
    .ok (place.reported ("unsupported_related_method:" ++ unsupportedMethod)
      ("EVM explorer token transfer is linked to an unsupported contract-call transaction " ++
        "method: " ++ unsupportedMethod))
  else do
    let claim ← raised (tokenClaim env ctx cells)
    tokenTransfer env ctx place cells timestamp amount claim

def tokenOutcome (cells : TokenCells) : Decoded RowResult :=
  match cells.timestamp, cells.amount with
  | some timestamp, some amount =>
      if cells.txHash = "" ∨ amount.coeff ≤ 0 ∨ cells.symbol = "" then
        .ok (place.reported "invalid_row" "EVM explorer token row is invalid.")
      else if cells.txHash ∈ ctx.blockedTxHashes then .ok {}
      else tokenUnblocked env ctx place cells timestamp amount
  | _, _ => .ok (place.reported "invalid_row" "EVM explorer token row is invalid.")

/-- The body of the loop of `translate_token_transfers`. -/
def tokenRow (row : CsvRow) : Decoded RowResult := do
  let cells ← tokenCells env row
  tokenOutcome env ctx place cells

/-- The body of the loop of `unsupported_internal_transfer_issues`. -/
def internalIssue : IssueRecord :=
  rowIssue place.source place.fileName place.index "unsupported_internal_trace"
    ("Internal trace rows are present but are not normalized automatically because they may " ++
      "double-count swaps.")

/-- The body of the loop of `nft_transfer_issues`. -/
def nftIssue (ownedAddresses : List String) (row : CsvRow) : IssueRecord :=
  if startsWith "$" (cell row "TokenName") ∧ env.lower (cell row "To") ∈ ownedAddresses then
    suspiciousAirdropIssue place.source place.fileName place.index (cell row "TokenName")
      (cell row "Transaction Hash")
  else
    rowIssue place.source place.fileName place.index "unsupported_nft_activity"
      "NFT transfer rows are present but are not normalized automatically in this phase."

end

/-! ## Files and runs -/

abbrev Translated := List EconomicActivityDraft × List IssueRecord

/-- The drafts and the issues of a loop over rows. -/
def collected (results : List RowResult) : Translated :=
  (results.flatMap RowResult.drafts, results.flatMap RowResult.issues)

section

variable (env : EvmEnvironment) (source : String)

def placeOf (file : EvmFile) (index : Nat) : RowPlace := ⟨source, file.name, index⟩

/-- The symbol of a file's native asset. -/
def nativeSymbol (networkScope : String) (file : EvmFile) : String :=
  if nativeSymbolForHeader file.header = "" then env.upper networkScope
  else nativeSymbolForHeader file.header

def translateNativeTransfers (ctx : EvmTranslationContext) (file : EvmFile) : Decoded Translated := do
  let results ← file.numberedRows.mapM (fun p =>
    nativeRow env ctx (placeOf source file p.2) (nativeSymbol env ctx.networkScope file) p.1)
  return collected results

def translateTokenTransfers (ctx : EvmTranslationContext) (file : EvmFile) : Decoded Translated := do
  let results ← file.numberedRows.mapM (fun p => tokenRow env ctx (placeOf source file p.2) p.1)
  return collected results

def unsupportedInternalTransferIssues (file : EvmFile) : List IssueRecord :=
  file.numberedRows.map (fun p => internalIssue (placeOf source file p.2))

def nftTransferIssues (file : EvmFile) (ownedAddresses : List String) : List IssueRecord :=
  file.numberedRows.map (fun p => nftIssue env (placeOf source file p.2) ownedAddresses p.1)

end

/-- `blocked_nft_tx_hashes` -/
def blockedNftTxHashes (files : List EvmFile) : List String :=
  (((classifiedCsvPaths files).filter (fun p => p.2 = .nftTransfers)).flatMap (fun p =>
    p.1.rows.map (fun row => cell row "Transaction Hash"))).filter (fun txHash => txHash ≠ "")

/-- `unsupported_native_methods`; the last row of a transaction counts. -/
def unsupportedNativeMethods (env : EvmEnvironment) (files : List EvmFile) : Dict String String :=
  Dict.ofList
    ((((classifiedCsvPaths files).filter (fun p => p.2 = .nativeTransfers)).flatMap (fun p =>
      p.1.rows.map (fun row => (cell row "Transaction Hash", nativeMethod env row)))).filter
        (fun e => e.1 ≠ "" && e.2 ∉ ["", "transfer"]))

def translationContext (env : EvmEnvironment) (files : List EvmFile) (ownedAddresses : List String)
    (networkScope : String) : EvmTranslationContext where
  ownedAddresses := ownedAddresses
  networkScope := networkScope
  blockedTxHashes := blockedNftTxHashes files
  unsupportedMethods := unsupportedNativeMethods env files

/-- The files of one family. -/
def translatePath (env : EvmEnvironment) (source : String) (ctx : EvmTranslationContext)
    (path : EvmFile × Family) : Decoded Translated :=
  match path.2 with
  | .nativeTransfers => translateNativeTransfers env source ctx path.1
  | .tokenTransfers => translateTokenTransfers env source ctx path.1
  | .internalTransfers => .ok ([], unsupportedInternalTransferIssues source path.1)
  | .nftTransfers => .ok ([], nftTransferIssues env source path.1 ctx.ownedAddresses)
  | .portfolioBalances => .ok ([], [])

def translateTransactions (env : EvmEnvironment) (source : String) (files : List EvmFile)
    (ownedAddresses : List String) (networkScope : String) : Decoded Translated := do
  let parts ← (classifiedCsvPaths files).mapM
    (translatePath env source (translationContext env files ownedAddresses networkScope))
  return (parts.flatMap Prod.fst, parts.flatMap Prod.snd)

/-- `_network_scope` -/
def networkScope (lower : String → String) (source : String) : String :=
  let lowerSource := (lower source).toList
  if "bsc".toList <:+: lowerSource then "bsc"
  else if "polygon".toList <:+: lowerSource then "polygon"
  else if "arb".toList <:+: lowerSource then "arbitrum"
  else "ethereum"

end EvmExplorer
end Tallylot
