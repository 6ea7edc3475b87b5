import Tallylot.Ronin.Drafts

/-!
# Groups — the transactions of Ronin exports

Raw and summary rows are grouped by transaction.  A transaction with raw rows is translated from them,
a restake from its summary rows where these make a supported group; a transaction of summary rows only
is translated from these.  Every transaction leaves drafts or issues.
-/

namespace Tallylot
namespace Ronin

open Data Domain Normalization Transactions

section

variable (env : KernelEnvironment) (source : String)

/-! ## Summary rows -/

abbrev Translated := List EconomicActivityDraft × List IssueRecord

/-- Positive quantities come in at the row's receiver, if it is an owned address. -/
def arrives (ownedAddresses : List String) (row : RoninSummaryRow) : Bool :=
  0 < row.quantity.coeff && row.toAddress ∈ ownedAddresses

/-- Negative quantities go out of the row's sender, if it is an owned address. -/
def departs (ownedAddresses : List String) (row : RoninSummaryRow) : Bool :=
  row.quantity.coeff < 0 && row.fromAddress ∈ ownedAddresses

/-- A summary draft at the receiver of a row. -/
def arrivalDraft (row : RoninSummaryRow) (timestamp : Instant) (semantics : FactSemantics) :
    Decoded EconomicActivityDraft :=
  summaryTransferDraft env source row
    ⟨timestamp, roninLocationId env row.toAddress, row.quantity, semantics⟩

/-- A summary draft at the sender of a row. -/
def departureDraft (row : RoninSummaryRow) (timestamp : Instant) (semantics : FactSemantics) :
    Decoded EconomicActivityDraft :=
  summaryTransferDraft env source row
    ⟨timestamp, roninLocationId env row.fromAddress, row.quantity, semantics⟩

def translateSummaryTransferRow (ownedAddresses : List String) (row : RoninSummaryRow)
    (timestamp : Instant) : Decoded Translated :=
  if arrives ownedAddresses row then do
    let draft ← arrivalDraft env source row timestamp transferInSemantics
    return ([draft], [])
  else if departs ownedAddresses row then do
    let draft ← departureDraft env source row timestamp transferOutSemantics
    return ([draft], [])
  else
    .ok ([], [row.issue source "unsupported_summary_group"
      "Ronin transfer summary row does not match a supported wallet direction."])

def translateSummaryStakeRow (ownedAddresses : List String) (row : RoninSummaryRow)
    (timestamp : Instant) : Decoded Translated :=
  if departs ownedAddresses row then do
    let draft ← departureDraft env source row timestamp stakingOutSemantics
    return ([draft], [])
  else
    .ok ([], [row.issue source "unsupported_summary_group"
      "Ronin stake summary row does not match a supported wallet outflow."])

/-- `is_supported_restake_pair`, of rows that are there -/
def isSupportedRestakePair (ownedAddresses : List String) (positiveRow negativeRow : RoninSummaryRow) :
    Bool :=
  positiveRow.assetSymbol = negativeRow.assetSymbol &&
    positiveRow.quantity = negativeRow.quantity.abs &&
      positiveRow.toAddress ∈ ownedAddresses && negativeRow.fromAddress ∈ ownedAddresses

/-- The reward and the stake among the rows of a supported pair. -/
def restakePair (ownedAddresses : List String) (rows : List RoninSummaryRow) :
    Option (RoninSummaryRow × RoninSummaryRow) :=
  match rows.find? (fun row => 0 < row.quantity.coeff),
    rows.find? (fun row => row.quantity.coeff < 0) with
  | some positiveRow, some negativeRow =>
      if isSupportedRestakePair ownedAddresses positiveRow negativeRow then
        some (positiveRow, negativeRow)
      else none
  | _, _ => none

def translateSummaryRestakeRows (ownedAddresses : List String) (first : RoninSummaryRow)
    (rows : List RoninSummaryRow) (timestamp : Instant) : Decoded Translated :=
  match restakePair ownedAddresses rows with
  | some pair => do
      let reward ← arrivalDraft env source pair.1 timestamp stakingRewardSemantics
      let stake ← departureDraft env source pair.2 timestamp stakingOutSemantics
      return ([reward, stake], [])
  | none =>
      .ok ([], [first.issue source "unsupported_summary_group"
        "Ronin restake summary rows do not match a supported pair."])

/-- `_translate_supported_summary_group` of rows that share an action -/
def translateSupportedSummaryGroup (ownedAddresses : List String) (first : RoninSummaryRow)
    (others : List RoninSummaryRow) (timestamp : Instant) : Decoded Translated :=
  if first.actionType = "transfer" ∧ others = [] then
    translateSummaryTransferRow env source ownedAddresses first timestamp
  else if first.actionType = "stakeaxs" ∧ others = [] then
    translateSummaryStakeRow env source ownedAddresses first timestamp
  else if first.actionType = "restakeaxs" ∧ others.length = 1 then
    translateSummaryRestakeRows env source ownedAddresses first (first :: others) timestamp
  else
    .ok ([], [first.issue source "unsupported_summary_group"
      ("Ronin summary rows do not match a supported " ++ first.actionType ++ " pattern.")])

/-- `timestamp_override or infer_summary_utc_timestamp(…)` -/
def summaryTimestamp (localTimestamp : Instant) (calibrations : List Calibration)
    (timestampOverride : Option Instant) : Decoded (Option Instant) :=
  match timestampOverride with
  | some timestamp => .ok (some timestamp)
  | none => inferSummaryUtcTimestamp localTimestamp calibrations

/-- Rows that share their local time, once its UTC time was looked for. -/
def translateTimedSummaryGroup (ownedAddresses : List String) (first : RoninSummaryRow)
    (others : List RoninSummaryRow) (timestamp : Option Instant) : Decoded Translated :=
  match timestamp with
  | none =>
      .ok ([], [first.issue source "summary_timestamp_unresolved"
        ("Ronin summary rows require a companion raw export to infer authoritative UTC " ++
          "timestamps.")])
  | some timestamp =>
      if others.any (fun row => row.actionType ≠ first.actionType) then
        .ok ([], [first.issue source "ambiguous_summary_group"
          ("Ronin summary rows disagree on action type for tx " ++ first.txHash ++ ".")])
      else translateSupportedSummaryGroup env source ownedAddresses first others timestamp

def translateSummaryGroup (ownedAddresses : List String) (rows : List RoninSummaryRow)
    (calibrations : List Calibration) (timestampOverride : Option Instant) : Decoded Translated :=
  match rows with
  | [] => .ok ([], [])
  | first :: others =>
      if others.any (fun row => row.localTimestamp ≠ first.localTimestamp) then
        .ok ([], [first.issue source "ambiguous_summary_timestamp"
          ("Ronin summary rows disagree on timestamp for tx " ++ first.txHash ++ ".")])
      else do
        let timestamp ← summaryTimestamp first.localTimestamp calibrations timestampOverride
        translateTimedSummaryGroup env source ownedAddresses first others timestamp

/-! ## Raw rows -/

/-- A draft, or an issue that the row has an unsupported shape. -/
def shaped (row : RoninRawRow) (draft : Option EconomicActivityDraft) (message : String) :
    Translated :=
  match draft with
  | some draft => ([draft], [])
  | none => ([], [row.issue source "unsupported_shape" message])

def translateTransferRawRow (ownedAddresses : List String) (row : RoninRawRow)
    (authoritativeFee : Decimal) : Decoded Translated := do
  let draft ← simpleTransferDraft env source ownedAddresses row authoritativeFee
  return shaped source row draft "Ronin transfer row does not match a supported wallet direction."

def translateStakeRawRow (ownedAddresses : List String) (row : RoninRawRow)
    (authoritativeFee : Decimal) : Decoded Translated :=
  if row.fromAddress ∈ ownedAddresses ∧ 0 < row.outboundQuantity.coeff then do
    let draft ← stakingTransferOutDraft env source row (roninLocationId env row.fromAddress)
      authoritativeFee
    return ([draft], [])
  else
    .ok (shaped source row none "Ronin stake row does not match a supported wallet outflow.")

def translateUnstakeRawRow (ownedAddresses : List String) (row : RoninRawRow)
    (authoritativeFee : Decimal) : Decoded Translated :=
  if row.toAddress ∈ ownedAddresses ∧ 0 < row.inboundQuantity.coeff then do
    let draft ← stakingTransferInDraft env source row (roninLocationId env row.toAddress)
      authoritativeFee
    return ([draft], [])
  else
    .ok (shaped source row none "Ronin unstake row does not match a supported wallet inflow.")

def translateRewardRawRow (ownedAddresses : List String) (row : RoninRawRow)
    (authoritativeFee : Decimal) : Decoded Translated :=
  if row.toAddress ∈ ownedAddresses ∧ 0 < row.inboundQuantity.coeff then do
    let draft ← stakingRewardDraft env source row (roninLocationId env row.toAddress)
      authoritativeFee
    return ([draft], [])
  else
    .ok (shaped source row none "Ronin reward row does not match a supported wallet inflow.")

def translateSupportedRawRow (ownedAddresses : List String) (row : RoninRawRow)
    (authoritativeFee : Decimal) : Decoded Translated :=
  if row.method = "transfer" then
    translateTransferRawRow env source ownedAddresses row authoritativeFee
  else if row.method = "stake" then
    translateStakeRawRow env source ownedAddresses row authoritativeFee
  else if row.method = "unstake" then
    translateUnstakeRawRow env source ownedAddresses row authoritativeFee
  else if row.method = "claimpendingrewards" then
    translateRewardRawRow env source ownedAddresses row authoritativeFee
  else if row.method = "approve" then
    .ok ([], [row.issue source "unsupported_method:approve"
      "Ronin approve rows are recognized but not normalized automatically."])
  else
    .ok ([], [row.issue source ("unsupported_method:" ++ row.method)
      ("Unsupported Ronin explorer method: " ++ row.method)])

def translateRawRow (ownedAddresses : List String) (row : RoninRawRow) (authoritativeFee : Decimal) :
    Decoded Translated :=
  if row.status ≠ "success" then
    .ok ([], [row.issue source "unsupported_status" "Ronin row is not successful."])
  else translateSupportedRawRow env source ownedAddresses row authoritativeFee

/-- What a transaction leaves. -/
structure GroupResult where
  drafts : List EconomicActivityDraft := []
  issues : List IssueRecord := []
  reviews : List NormalizationReviewRecord := []

/-- What drafts and issues leave, with the review of a fee that is not charged. -/
def reviewed (resolution : RoninFeeResolution) (translated : Translated) : GroupResult where
  drafts := translated.1
  issues := translated.2
  reviews := supportedFeeReviews resolution translated.1

/-- The drafts of a restake that its summary rows back, none without summary drafts. -/
def summaryRestake (ownedAddresses : List String) (group : RawGroup)
    (summaryRows : List RoninSummaryRow) : Decoded (Option Translated) := do
  let translated ← translateSummaryGroup env source ownedAddresses summaryRows []
    (some group.first.timestamp)
  return if translated.1 = [] then none else some translated

/-- A transaction of the method `restakerewards`. -/
def translateRestake (ownedAddresses : List String) (group : RawGroup)
    (summaryRows : List RoninSummaryRow) : Decoded GroupResult := do
  let resolution := resolveFee source group.rows
  match ← summaryRestake env source ownedAddresses group summaryRows with
  | some translated => return reviewed resolution translated
  | none =>
      match ← rawRestakePairDrafts env source ownedAddresses group.rows
        resolution.authoritativeFee with
      | some drafts => return reviewed resolution (drafts, [])
      | none =>
          return { issues := [group.first.issue source "unsupported_restake"
            "Ronin restake rows do not match a supported raw or summary-backed pair."] }

/-- `translate_raw_group` -/
def translateRawGroup (ownedAddresses : List String) (group : RawGroup)
    (summaryRows : List RoninSummaryRow) : Decoded GroupResult :=
  if group.others.any (fun row => row.method ≠ group.first.method) then
    .ok { issues := [group.first.issue source "ambiguous_raw_group"
      ("Ronin raw rows disagree on method for tx " ++ group.first.txHash ++ ".")] }
  else if group.first.method = "restakerewards" then
    translateRestake env source ownedAddresses group summaryRows
  else if group.others ≠ [] then
    .ok { issues := [group.first.issue source "unsupported_raw_group"
      ("Ronin emitted " ++ toString group.rows.length ++ " raw rows for " ++ group.first.method ++
        ", which is not a supported grouped shape.")] }
  else do
    let resolution := resolveFee source group.rows
    let translated ← translateRawRow env source ownedAddresses group.first
      resolution.authoritativeFee
    return reviewed resolution translated

/-! ## Files -/

def invalidRawRow (r : FileRow) : IssueRecord :=
  rowIssue source r.fileName (EvmExplorer.rowRef r.index) "invalid_row"
    "Ronin explorer row is missing a supported tx hash, timestamp, or asset amount."

def invalidSummaryRow (r : FileRow) : IssueRecord :=
  rowIssue source r.fileName (EvmExplorer.rowRef r.index) "invalid_row"
    "Ronin summary row is missing a supported tx hash, timestamp, or asset amount."

/-- The rows that could be parsed, and the issues of the others. -/
def parsedOrIssues {α : Type} (issue : FileRow → IssueRecord) (rows : List FileRow)
    (parsed : List (Option α)) : List α × List IssueRecord :=
  (parsed.filterMap id, ((rows.zip parsed).filter (fun p => p.2.isNone)).map (fun p => issue p.1))

end

/-- The rows of every transaction, each row that says something else once. -/
def rowsByHash (rows : List RoninRawRow) : Dict String (Dict RawSignature RoninRawRow) :=
  rows.foldl (fun d row => d.upsert row.txHash (fun group =>
    (group.getD Dict.empty).set (rawSignature row) row)) Dict.empty

def rawRowKey (row : RoninRawRow) : Instant ×ₗ (String ×ₗ Nat) :=
  toLex (row.timestamp, toLex (row.pathName, row.rowIndex))

def rawGroupKey (group : RawGroup) : Instant ×ₗ String :=
  toLex (group.first.timestamp, group.first.txHash)

/-- A group of its rows, none without a row. -/
def RawGroup.ofRows : List RoninRawRow → Option RawGroup
  | [] => none
  | first :: others => some ⟨first, others⟩

/-- The transactions of raw rows. -/
def rawGroups (rows : List RoninRawRow) : List RawGroup :=
  sortedOn rawGroupKey ((rowsByHash rows).values.filterMap (fun group =>
    RawGroup.ofRows (sortedOn rawRowKey group.values)))

/-- What tells the summary rows of a file apart; normal forms of quantities have texts of their own. -/
def summarySignature (row : RoninSummaryRow) : String × String × String × Decimal :=
  (row.txHash, row.actionType, row.assetSymbol, row.quantity)

def summaryRowKey (row : RoninSummaryRow) : Instant ×ₗ (String ×ₗ Nat) :=
  toLex (row.localTimestamp, toLex (row.txHash, row.rowIndex))

section

variable (env : KernelEnvironment) (source : String)

/-- `_collect_raw_groups` -/
def collectRawGroups (files : List RoninFile) : Decoded (List RawGroup × List IssueRecord) := do
  let rows := familyRows files .explorerExport
  let parsed ← rows.mapM (parseRawRow env)
  let collected := parsedOrIssues (invalidRawRow source) rows parsed
  return (rawGroups collected.1, collected.2)

/-- The rows of one action summary, and its issues. -/
def collectSummaryFile (file : RoninFile) : Decoded (List RoninSummaryRow × List IssueRecord) := do
  let rows := familyRows [file] .actionSummary
  let parsed ← rows.mapM (parseSummaryRow env)
  let collected := parsedOrIssues (invalidSummaryRow source) rows parsed
  return (firstsBy summarySignature [] collected.1, collected.2)

/-- `_collect_summary_rows` -/
def collectSummaryRows (files : List RoninFile) :
    Decoded (List RoninSummaryRow × List IssueRecord) := do
  let collected ← files.mapM (collectSummaryFile env source)
  return (sortedOn summaryRowKey (collected.flatMap Prod.fst), collected.flatMap Prod.snd)

/-- The transactions by their hashes, and what their times are inferred from. -/
structure TransactionGroups where
  rawGroupsByHash : Dict String RawGroup
  summaryByHash : Dict String (List RoninSummaryRow)
  calibrations : List Calibration

def transactionsOf (groups : List RawGroup) (summaryRows : List RoninSummaryRow) : TransactionGroups where
  rawGroupsByHash := Dict.ofList (groups.map (fun group => (group.first.txHash, group)))
  summaryByHash := Dict.group RoninSummaryRow.txHash summaryRows
  calibrations :=
    summaryTimeCalibrations (Dict.ofList (groups.map (fun group => (group.first.txHash, group))))
      summaryRows

/-- The hashes in the order in which their transactions are translated. -/
def TransactionGroups.hashes (transactions : TransactionGroups) : List String :=
  sortedOn id (firsts (transactions.rawGroupsByHash.keys ++ transactions.summaryByHash.keys))

/-- The body of the loop of `translate_transactions`. -/
def translateTransaction (ownedAddresses : List String) (transactions : TransactionGroups)
    (txHash : String) : Decoded GroupResult :=
  let summaryGroup := (transactions.summaryByHash.get? txHash).getD []
  match transactions.rawGroupsByHash.get? txHash with
  | some rawGroup => translateRawGroup env source ownedAddresses rawGroup summaryGroup
  | none => do
      let translated ← translateSummaryGroup env source ownedAddresses summaryGroup
        transactions.calibrations none
      return { drafts := translated.1, issues := translated.2 }

/-- `translate_transactions` -/
def translateTransactions (files : List RoninFile) (ownedAddresses : List String) :
    Decoded GroupResult := do
  let raw ← collectRawGroups env source files
  let summary ← collectSummaryRows env source files
  let transactions := transactionsOf raw.1 summary.1
  let results ← transactions.hashes.mapM (translateTransaction env source ownedAddresses transactions)
  let drafts := results.flatMap GroupResult.drafts
  return {
    drafts := drafts
    issues := raw.2 ++ summary.2 ++ results.flatMap GroupResult.issues ++
      symbolIdentityIssues source drafts
    reviews := results.flatMap GroupResult.reviews }

end

end Ronin
end Tallylot
