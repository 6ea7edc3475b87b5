import Tallylot.Data.CsvFile
import Tallylot.Data.Sorted
import Tallylot.Data.Strptime
import Tallylot.Normalization.DraftLegs

/-!
# Operations — Ledger Live operations to drafts

Operation rows are grouped by their hash, over all files.  A group of one row is a transfer, a fee or a
delegation.  A group of a row in and a row out, and at most one row of fees, is a swap, whose legs all
stand at one account.  Every other group goes under an issue.
-/

namespace Tallylot
namespace LedgerLive

open Data Domain Transactions Normalization

/-! ## Rows -/

/-- A row of an operations export, with its file and its line. -/
structure OperationRow where
  fileName : String
  index : Nat
  row : CsvRow

namespace OperationRow

/-- `row.get(column) or ""` -/
def cell (row : OperationRow) (column : String) : String := (row.row.get column).getD ""

/-- `(row.get(column) or "").strip()` -/
def field (row : OperationRow) (column : String) : String := strip (row.cell column)

/-- `f"{path.name}:row:{index}"` -/
def ref (row : OperationRow) : String := row.fileName ++ ":row:" ++ toString row.index

/-- `(row.get("Operation Hash") or row.get("Transaction ID") or "").strip()` -/
def operationHash (row : OperationRow) : String :=
  strip (if row.cell "Operation Hash" ≠ "" then row.cell "Operation Hash"
    else row.cell "Transaction ID")

def operationType (env : KernelEnvironment) (row : OperationRow) : String :=
  env.upper (row.field "Operation Type")

/-- `(row.get("Currency Ticker") or "").strip().upper()` -/
def ticker (env : KernelEnvironment) (row : OperationRow) : String :=
  env.upper (row.field "Currency Ticker")

end OperationRow

/-- The rows of the files, in the order of their paths; the first line of a file is its header. -/
def operationRows (files : List (String × List CsvRow)) : List OperationRow :=
  files.flatMap (fun file => (file.2.zipIdx 2).map (fun row => ⟨file.1, row.2, row.1⟩))

/-! ## Groups -/

/-- The characters before a mark. -/
def before (mark : List Char) : List Char → List Char
  | [] => []
  | c :: cs => if mark.isPrefixOf (c :: cs) then [] else c :: before mark cs

structure OperationGroup where
  operationHash : String
  rows : List OperationRow

namespace OperationGroup

variable (env : KernelEnvironment) (group : OperationGroup)

/-- `grouped_rows[0][0].split(":row:", maxsplit=1)[0]` -/
def rawFile : String :=
  String.ofList (before ":row:".toList ((group.rows.head?.map OperationRow.ref).getD "").toList)

/-- The references of the rows, all under the first row's file. -/
def rawRowRef : String :=
  ";".intercalate (group.rows.map (fun row =>
    group.rawFile ++ ":" ++ String.ofList ((row.ref.toList.dropWhile (fun c => c ≠ ':')).drop 1)))

/-- `group.rows(operation_type)` -/
def rowsOf (operationType : String) : List OperationRow :=
  group.rows.filter (fun row => row.operationType env = operationType)

/-- `group.operation_types == frozenset(types)` -/
def hasTypes (types : List String) : Bool :=
  group.rows.all (fun row => row.operationType env ∈ types) &&
    types.all (fun operationType => group.rowsOf env operationType ≠ [])

end OperationGroup

/-- `sorted(operations_by_hash.items())` -/
def operationGroups (files : List (String × List CsvRow)) : List OperationGroup :=
  (sortedOn Prod.fst
    (Dict.group OperationRow.operationHash
      ((operationRows files).filter (fun row => row.operationHash ≠ ""))).entries).map
    (fun e => ⟨e.1, e.2⟩)

/-! ## Operations of one row -/

structure SingleTypeTranslationSpec where
  operationKey : String
  semantics : FactSemantics
  legId : String
  quantitySign : Int
  reviewKind : String := ""
  reviewMessage : String := ""
  reviewOriginalValue : String := ""

def inSpec : SingleTypeTranslationSpec where
  operationKey := "ledger_live_in"
  semantics := ⟨.chainTransferIn, .fundingInflow, .nonTaxableTransferIn, some .deposit⟩
  legId := "primary_in"
  quantitySign := 1

def outSpec : SingleTypeTranslationSpec where
  operationKey := "ledger_live_out"
  semantics := ⟨.assetWithdrawal, .fundingOutflow, .nonTaxableTransferOut, some .withdrawal⟩
  legId := "primary_out"
  quantitySign := -1

def feesSpec : SingleTypeTranslationSpec where
  operationKey := "ledger_live_fee"
  semantics := ⟨.cashExpense, .expenseRecognition, .nonTaxableExpense, some .expenseNonTaxable⟩
  legId := "primary_fee"
  quantitySign := -1

def delegateSpec : SingleTypeTranslationSpec where
  operationKey := "ledger_live_delegate"
  semantics := ⟨.stakingTransferOut, .fundingOutflow, .nonTaxableTransferOut, some .staking⟩
  legId := "primary_delegate"
  quantitySign := -1
  reviewKind := "staking_delegate_incomplete"
  reviewMessage := "Ledger Live delegate export proves the debited asset movement but not the " ++
    "external staking-side state or validator position."
  reviewOriginalValue := "DELEGATE"

/-- `_SINGLE_TYPE_TRANSLATIONS` -/
def singleTypeTranslations : List (String × SingleTypeTranslationSpec) :=
  [("IN", inSpec), ("OUT", outSpec), ("FEES", feesSpec), ("DELEGATE", delegateSpec)]

section

variable (env : KernelEnvironment) (source : String)

/-- `Decimal(text)` -/
def readAmount (text : String) : Decoded Decimal :=
  match Decimal.readDecimal text with
  | some amount => .ok amount
  | none => .error .invalidOperation

/-- `parse_timestamp` -/
def parseTimestamp (value : String) : Decoded Instant :=
  requireSome (Strptime.readInstant "%Y-%m-%dT%H:%M:%S.%fZ" value)
    "time data does not match format"

/-- A label, else the hash. -/
def placeName (label operationHash : String) : String := if label ≠ "" then label else operationHash

/-- `_single_primary_draft` -/
def singlePrimaryDraft (group : OperationGroup) (spec : SingleTypeTranslationSpec)
    (row : OperationRow) : Decoded (Option EconomicActivityDraft) :=
  if row.field "Operation Amount" = "" || row.ticker env = "" then .ok none
  else do
    let amount ← readAmount (row.field "Operation Amount")
    if amount.coeff ≤ 0 then return none
    else do
      let location ← locationIdFromParts env.lower
        [source, placeName (row.field "Account Name") group.operationHash]
      let timestamp ← parseTimestamp (row.field "Operation Date")
      let leg ← symbolLeg spec.legId .primary (Decimal.fix (spec.quantitySign * amount.coeff) amount.exp)
        (row.ticker env) (some "ledger_live")
      let draft ← economicActivityDraft.build
        { activityId := "ledger_live:" ++ group.rawFile ++ ":" ++ group.operationHash
          source := source
          adapterId := "ledger_live"
          locationId := location
          timestamp := timestamp
          classification := spec.semantics
          legPolicy := singlePrimaryActivityPolicy
          description := row.field "Account Name"
          rawFile := group.rawFile
          rawRowRef := group.rawRowRef
          txHash := group.operationHash
          providerOperationKey := spec.operationKey
          operationGroupId := group.operationHash
          legs := [leg] }
      return some draft

/-- `_unsupported_group_issue` -/
def unsupportedGroupIssue (group : OperationGroup) : IssueRecord where
  issueId := "ledger_live:" ++ group.rawFile ++ ":" ++ group.operationHash ++ ":unsupported_group"
  source := source
  adapterId := "ledger_live"
  severity := "medium"
  kind := "unsupported_group"
  message := "Ledger Live grouped operation has an unsupported or ambiguous leg shape."
  rawFile := group.rawFile
  rawRowRef := group.rawRowRef

/-- `_delegate_review` -/
def delegateReview (group : OperationGroup) (spec : SingleTypeTranslationSpec) :
    NormalizationReviewRecord where
  reviewId := "ledger_live:" ++ group.rawFile ++ ":" ++ group.operationHash ++ ":delegate_incomplete"
  source := source
  adapterId := "ledger_live"
  scope := "activity"
  kind := spec.reviewKind
  message := spec.reviewMessage
  rawFile := group.rawFile
  rawRowRef := group.rawRowRef
  fieldName := "operation_type"
  originalValue := spec.reviewOriginalValue

structure Translation where
  drafts : List EconomicActivityDraft
  issues : List IssueRecord
  reviews : List NormalizationReviewRecord

/-- A group under an issue. -/
def blocked (group : OperationGroup) : Translation := ⟨[], [unsupportedGroupIssue source group], []⟩

/-- The type of a group, if it has only one. -/
def soleType (group : OperationGroup) : Option String :=
  match group.rows with
  | [] => none
  | row :: rows =>
      if rows.all (fun other => other.operationType env = row.operationType env) then
        some (row.operationType env)
      else none

/-- `_translate_single_type_group` -/
def translateSingleTypeGroup (group : OperationGroup) : Decoded (Option Translation) :=
  match (soleType env group).bind (fun operationType => singleTypeTranslations.lookup operationType) with
  | none => .ok none
  | some spec =>
      match group.rows with
      | [row] => do
          match ← singlePrimaryDraft env source group spec row with
          | none => return some (blocked source group)
          | some draft =>
              return some ⟨[draft], [],
                if spec.reviewKind = "" then [] else [delegateReview source group spec]⟩
      | _ => .ok (some (blocked source group))

/-! ## Swaps -/

/-- `_swap_policy` -/
def swapPolicy (feeAmount : Decimal) (feeAsset : String) : FactLegPolicy :=
  if 0 < feeAmount.coeff && feeAsset ≠ "" then twoSidedPrimaryExchangeWithSingleChargePolicy
  else twoSidedPrimaryExchangePolicy

/-- `_charge_legs` -/
def chargeLegs (feeAmount : Decimal) (feeAsset attributedToLegId : String) :
    Decoded (List EconomicLegDraft) :=
  if feeAmount.coeff ≤ 0 || feeAsset = "" then .ok []
  else do
    let leg ← symbolLeg "charge" .charge (-feeAmount) (env.upper (strip feeAsset))
      (some "ledger_live") (some "network_fee") (some attributedToLegId)
    return [leg]

/-- `row.get("Operation Amount") or "0"` -/
def amountText (row : OperationRow) : String :=
  if row.cell "Operation Amount" ≠ "" then row.cell "Operation Amount" else "0"

/-- `(inbound.get("Account Name") or outbound.get("Account Name") or "").strip()` -/
def swapLabel (inbound outbound : OperationRow) : String :=
  strip (if inbound.cell "Account Name" ≠ "" then inbound.cell "Account Name"
    else outbound.cell "Account Name")

def swapDraft (group : OperationGroup) (inbound outbound : OperationRow)
    (fee : Option OperationRow) : Decoded EconomicActivityDraft := do
  let timestamp ← parseTimestamp (inbound.field "Operation Date")
  let feeAmount ← readAmount ((fee.map amountText).getD "0")
  let feeAsset := (fee.map (fun row => row.cell "Currency Ticker")).getD ""
  let location ← locationIdFromParts env.lower
    [source, placeName (swapLabel inbound outbound) group.operationHash]
  let inAmount ← readAmount (strip (amountText inbound))
  let inLeg ← symbolLeg "primary_in" .primary inAmount (inbound.ticker env) (some "ledger_live")
  let outAmount ← readAmount (strip (amountText outbound))
  let outLeg ← symbolLeg "primary_out" .primary (-outAmount) (outbound.ticker env) (some "ledger_live")
  let charge ← chargeLegs env feeAmount feeAsset "primary_out"
  economicActivityDraft.build
    { activityId := "ledger_live:" ++ group.rawFile ++ ":" ++ group.operationHash
      source := source
      adapterId := "ledger_live"
      locationId := location
      timestamp := timestamp
      classification := ⟨.assetSwap, .assetExchange, .capitalExchange, some .trade⟩
      legPolicy := swapPolicy feeAmount feeAsset
      description := swapLabel inbound outbound
      rawFile := group.rawFile
      rawRowRef := group.rawRowRef
      txHash := group.operationHash
      providerOperationKey := "ledger_live_swap"
      operationGroupId := group.operationHash
      legs := inLeg :: outLeg :: charge }

/-- `_translate_swap_group`; of the rows of fees it takes the first. -/
def translateSwapGroup (group : OperationGroup) : Decoded (Option EconomicActivityDraft) :=
  if group.hasTypes env ["IN", "OUT"] || group.hasTypes env ["IN", "OUT", "FEES"] then
    match group.rowsOf env "IN", group.rowsOf env "OUT" with
    | [inbound], [outbound] => do
        let draft ← swapDraft env source group inbound outbound (group.rowsOf env "FEES").head?
        return some draft
    | _, _ => .ok none
  else .ok none

/-! ## All groups -/

/-- `_translate_operation_group` -/
def translateOperationGroup (group : OperationGroup) : Decoded Translation :=
  if 1 < (group.rowsOf env "FEES").length then .ok (blocked source group)
  else do
    match ← translateSingleTypeGroup env source group with
    | some translation => return translation
    | none =>
        match ← translateSwapGroup env source group with
        | some draft => return ⟨[draft], [], []⟩
        | none => return blocked source group

/-- `translate_operations` -/
def translateOperations (files : List (String × List CsvRow)) : Decoded Translation := do
  let translations ← (operationGroups files).mapM (translateOperationGroup env source)
  return {
    drafts := translations.flatMap Translation.drafts
    issues := translations.flatMap Translation.issues
    reviews := translations.flatMap Translation.reviews }

end

end LedgerLive
end Tallylot
