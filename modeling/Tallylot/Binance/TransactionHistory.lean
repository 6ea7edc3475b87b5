import Tallylot.Binance.Fields
import Tallylot.Data.Parts
import Tallylot.Data.Sorted
import Tallylot.Normalization.DraftLegs
import Mathlib.Data.Prod.Lex

/-!
# TransactionHistory — Binance transaction history to drafts and issues

Rows are grouped by time, account and operation, and every group comes to one outcome: it is skipped,
or one draft is made of it, or it goes under an issue.
-/

namespace Tallylot
namespace Binance

open Data Domain Transactions Normalization

/-- What the normalization reads of a profile: the source and the hint of a cutoff, where it is a
text. -/
structure HistoryProfile where
  source : String
  projectBaselineCutoffTimestamp : Option String

def historicalOnlyIgnoredOperations : List String :=
  ["Isolated Margin Loan", "Isolated Margin Repayment", "Launchpool Subscription/Redemption",
    "Staking Purchase", "Staking Redemption", "Simple Earn Flexible Subscription",
    "Simple Earn Flexible Redemption", "Transfer Between Main Account/Futures and Margin Account",
    "Transfer Between Main and Funding Wallet", "Transfer Between UM Futures and Funding Account",
    "Transfer Between Spot Account and UM Futures Account",
    "Transfer Between Futures Contract Accounts", "Send/Recieve", "P2P Trading",
    "BNB Fee Deduction"]

/-! ## Groups -/

/-- A row with its line number. -/
abbrev NumberedRow := Nat × CsvRow

structure GroupKey where
  time : String
  account : String
  operation : String
  deriving DecidableEq

def GroupKey.order (key : GroupKey) : String ×ₗ String ×ₗ String :=
  toLex (key.time, toLex (key.account, key.operation))

def groupKey (row : NumberedRow) : GroupKey :=
  ⟨field row.2 "Time", field row.2 "Account", field row.2 "Operation"⟩

/-- The rows with data; the first line of a file is its header. -/
def numberedRows (rows : List CsvRow) : List NumberedRow :=
  ((rows.zipIdx 2).map Prod.swap).filter (fun row => !isNoDataRow row.2)

/-- `sorted(grouped_rows.items())` -/
def sortedGroups (rows : List CsvRow) : List (GroupKey × List NumberedRow) :=
  sortedOn (fun e => e.1.order) (Dict.group groupKey (numberedRows rows)).entries

/-! ## Drafts -/

section

variable (env : KernelEnvironment) (profile : HistoryProfile) (fileName : String)

def rewardOperation : String := "ETH 2.0 Staking Rewards"

def dustOperation : String := "Small Assets Exchange BNB"

def convertOperation : String := "Binance Convert"

def p2pOperation : String := "P2P Trading"

/-- `(row.get("Coin") or "").strip().upper()` -/
def coin (row : CsvRow) : String := env.upper (field row "Coin")

/-- A leg of a coin. -/
def coinLeg (legId : String) (quantity : Decimal) (row : CsvRow) : Decoded EconomicLegDraft :=
  symbolLeg legId .primary quantity (coin env row) (some "binance")

def rewardDraft (key : GroupKey) (at' : Instant) (row : NumberedRow) (change : Decimal) :
    Decoded EconomicActivityDraft := do
  let location ← locationIdFromParts env.lower [profile.source, key.account]
  let leg ← coinLeg env "primary_in" change row.2
  economicActivityDraft.build
    { activityId := "binance:" ++ fileName ++ ":row:" ++ toString row.1
      source := profile.source
      adapterId := "binance"
      locationId := location
      timestamp := at'
      classification := ⟨.stakingReward, .incomeRecognition, .stakingIncome, some .staking⟩
      legPolicy := singlePrimaryActivityPolicy
      description := key.operation
      rawFile := fileName
      rawRowRef := "row:" ++ toString row.1
      providerOperationKey := key.operation
      legs := [leg] }

def dustDraft (key : GroupKey) (at' : Instant) (neg pos : NumberedRow) (negChange posChange : Decimal) :
    Decoded EconomicActivityDraft := do
  let location ← locationIdFromParts env.lower [profile.source, key.account]
  let legIn ← coinLeg env "primary_in" posChange pos.2
  let legOut ← coinLeg env "primary_out" (-negChange.abs) neg.2
  economicActivityDraft.build
    { activityId := "binance:" ++ fileName ++ ":small_assets:" ++ coin env neg.2
      source := profile.source
      adapterId := "binance"
      locationId := location
      timestamp := at'
      classification := ⟨.assetConversion, .assetExchange, .capitalExchange, some .trade⟩
      legPolicy := twoSidedPrimaryExchangePolicy
      description := "Binance dust conversion " ++ field neg.2 "Remark"
      rawFile := fileName
      rawRowRef := "row:" ++ toString neg.1
      providerOperationKey := key.operation
      legs := [legIn, legOut] }

/-! ## Outcomes -/

inductive GroupOutcome where
  | skipped
  | drafted (draft : EconomicActivityDraft)
  | unsupported
  | ambiguous (issue : IssueRecord)

/-- `_should_ignore_historical_operation` -/
def shouldIgnoreHistoricalOperation (parsedTime : Instant) (operation : String) : Decoded Bool :=
  match profile.projectBaselineCutoffTimestamp with
  | none => .ok false
  | some cutoff =>
      if operation ∈ historicalOnlyIgnoredOperations then do
        let cutoffTime ← parseTimestamp cutoff
        return decide (parsedTime ≤ cutoffTime)
      else .ok false

/-- `next((item for item in group if …), None)`: the rows after the one found are not parsed. -/
def nextRow (accepts : Decimal → Bool) : List NumberedRow → Decoded (Option (NumberedRow × Decimal))
  | [] => .ok none
  | row :: rows => do
      let change ← rowChange row.2
      if accepts change then return some (row, change) else nextRow accepts rows

def isNegative (d : Decimal) : Bool := d.coeff < 0

def isPositive (d : Decimal) : Bool := 0 < d.coeff

/-- A group of rewards is its first row. -/
def rewardOutcome (key : GroupKey) (at' : Instant) : List NumberedRow → Decoded GroupOutcome
  | [] => .ok .skipped
  | row :: _ => do
      match ← Decimal.parseSettled (field row.2 "Change") with
      | none => return .skipped
      | some change =>
          if isPositive change then
            let draft ← rewardDraft env profile fileName key at' row change
            return .drafted draft
          else return .skipped

/-- A group of dust is its first negative and its first positive row. -/
def dustOutcome (key : GroupKey) (at' : Instant) (group : List NumberedRow) : Decoded GroupOutcome := do
  let negative ← nextRow isNegative group
  let positive ← nextRow isPositive group
  match negative, positive with
  | some neg, some pos =>
      let draft ← dustDraft env profile fileName key at' neg.1 pos.1 neg.2 pos.2
      return .drafted draft
  | _, _ => return .skipped

def groupRef (key : GroupKey) : String := "group:" ++ key.time ++ ":" ++ key.account

def ambiguousIssue (key : GroupKey) : IssueRecord where
  issueId := "binance:" ++ fileName ++ ":" ++ groupRef key
  source := profile.source
  adapterId := "binance"
  severity := "medium"
  kind := "ambiguous_group"
  message := "Unable to safely collapse Binance grouped rows with operations: " ++ key.operation
  rawFile := fileName
  rawRowRef := groupRef key

/-- The body of the loop over the groups. -/
def groupOutcome (convertMatchTimes p2pMatchTimes : List Instant)
    (entry : GroupKey × List NumberedRow) : Decoded GroupOutcome := do
  let key := entry.1
  let parsedTime ← parseTransactionHistoryTimestamp key.time
  if ← shouldIgnoreHistoricalOperation profile parsedTime key.operation then return .skipped
  else if key.operation = rewardOperation then
    rewardOutcome env profile fileName key parsedTime entry.2
  else if key.operation = dustOperation ∧ 2 ≤ entry.2.length then
    dustOutcome env profile fileName key parsedTime entry.2
  else if key.operation = convertOperation ∧ parsedTime ∈ convertMatchTimes then return .skipped
  else if key.operation = p2pOperation ∧ parsedTime ∈ p2pMatchTimes then return .skipped
  else if key.operation = convertOperation then return .ambiguous (ambiguousIssue profile fileName key)
  else return .unsupported

/-! ## The file -/

def GroupOutcome.draft? : GroupOutcome → Option EconomicActivityDraft
  | drafted draft => some draft
  | _ => none

def GroupOutcome.issue? : GroupOutcome → Option IssueRecord
  | ambiguous issue => some issue
  | _ => none

/-- `operation.replace(' ', '_')` -/
def underscored (operation : String) : String :=
  String.ofList (operation.toList.map (fun c => if c = ' ' then '_' else c))

def unsupportedMessage (operation : String) (count : Nat) : String :=
  "Unsupported Binance transaction-history operations: " ++ operation ++ " (" ++ toString count ++
    " grouped rows)"

/-- `_unsupported_group_issues`, of one operation -/
def unsupportedGroupIssue (operation : String) (groups : List GroupKey) : IssueRecord where
  issueId := "binance:" ++ fileName ++ ":unsupported_group:" ++ underscored operation
  source := profile.source
  adapterId := "binance"
  severity := "medium"
  kind := "unsupported_group"
  message := unsupportedMessage operation groups.length
  rawFile := fileName
  rawRowRef := (groups.head?.map groupRef).getD ""

def unsupportedGroupIssues (groups : List GroupKey) : List IssueRecord :=
  (sortedOn Prod.fst (Dict.group GroupKey.operation groups).entries).map
    (fun e => unsupportedGroupIssue profile fileName e.1 e.2)

/-- The groups that go under an issue of their operation. -/
def unsupportedGroups (outcomes : List (GroupKey × GroupOutcome)) : List GroupKey :=
  outcomes.filterMap (fun p =>
    match p.2 with
    | .unsupported => some p.1
    | _ => none)

structure NormalizedHistory where
  drafts : List EconomicActivityDraft
  issues : List IssueRecord

def normalizeTransactionRows (rows : List CsvRow) (convertMatchTimes p2pMatchTimes : List Instant) :
    Decoded NormalizedHistory := do
  let groups := sortedGroups rows
  let outcomes ← groups.mapM (groupOutcome env profile fileName convertMatchTimes p2pMatchTimes)
  return {
    drafts := outcomes.filterMap GroupOutcome.draft?
    issues := outcomes.filterMap GroupOutcome.issue? ++
      unsupportedGroupIssues profile fileName
        (unsupportedGroups ((groups.map Prod.fst).zip outcomes)) }

end

end Binance
end Tallylot
