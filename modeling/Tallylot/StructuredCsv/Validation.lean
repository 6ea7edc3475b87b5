import Tallylot.Data.SpecialDecimal
import Tallylot.Data.Text
import Tallylot.Domain.Assertion
import Tallylot.Domain.Issues
import Tallylot.Domain.ValueObjects

/-!
# Validation — rows of a structured CSV file

Seven validators look at a row, and the first that finds something wrong reports it.  A row without an
issue is a `ValidRow`: its texts are there, its pairs of asset and amount are complete, its amounts can
be read, and the sides that its charge and its rebate name have legs.
-/

namespace Tallylot
namespace StructuredCsv

open Data Domain

/-! ## Rows -/

/-- `REQUIRED_HEADER` -/
inductive Column
  | timestamp
  | category
  | assetIn
  | amountIn
  | assetOut
  | amountOut
  | chargeAsset
  | chargeAmount
  | chargeSide
  | rebateAsset
  | rebateAmount
  | rebateSide
  | txHash
  | description
  | account
  | wallet
  deriving DecidableEq, Repr

def Column.name : Column → String
  | timestamp => "timestamp"
  | category => "category"
  | assetIn => "asset_in"
  | amountIn => "amount_in"
  | assetOut => "asset_out"
  | amountOut => "amount_out"
  | chargeAsset => "charge_asset"
  | chargeAmount => "charge_amount"
  | chargeSide => "charge_side"
  | rebateAsset => "rebate_asset"
  | rebateAmount => "rebate_amount"
  | rebateSide => "rebate_side"
  | txHash => "tx_hash"
  | description => "description"
  | account => "account"
  | wallet => "wallet"

/-- A row under the header, as the reader strips its cells. -/
structure StructuredRow where
  cell : Column → String
  stripped : ∀ column, strip (cell column) = cell column

/-- `_row_dict`, which strips every cell -/
def rowDict (cells : Column → String) : StructuredRow where
  cell column := strip (cells column)
  stripped column := strip_strip (cells column)

/-- The pairs of an asset and an amount. -/
inductive AmountPair
  | inbound
  | outbound
  | charge
  | rebate
  deriving DecidableEq, Repr

namespace AmountPair

def all : List AmountPair := [inbound, outbound, charge, rebate]

def asset : AmountPair → Column
  | inbound => .assetIn
  | outbound => .assetOut
  | charge => .chargeAsset
  | rebate => .rebateAsset

def amount : AmountPair → Column
  | inbound => .amountIn
  | outbound => .amountOut
  | charge => .chargeAmount
  | rebate => .rebateAmount

/-- The column that names the primary leg of the pair. -/
def side : AmountPair → Option Column
  | inbound | outbound => none
  | charge => some .chargeSide
  | rebate => some .rebateSide

lemma mem_all (pair : AmountPair) : pair ∈ all := by
  cases pair <;> decide

end AmountPair

/-! ## Feedback -/

def transactionsFilename : String := "transactions.csv"

structure Feedback where
  source : String
  adapterId : String

namespace Feedback

def issue (feedback : Feedback) (index : Nat) (kind message : String) : IssueRecord where
  issueId := feedback.source ++ ":" ++ toString index ++ ":" ++ kind
  source := feedback.source
  adapterId := feedback.adapterId
  severity := "high"
  kind := kind
  message := message
  rawFile := transactionsFilename
  rawRowRef := toString index

/-- `review` of a row -/
def review (feedback : Feedback) (index : Nat)
    (kind message fieldName originalValue normalizedValue : String) :
    NormalizationReviewRecord where
  reviewId := feedback.source ++ ":" ++ toString index ++ ":" ++ kind
  source := feedback.source
  adapterId := feedback.adapterId
  scope := "row"
  kind := kind
  message := message
  rawFile := transactionsFilename
  rawRowRef := toString index
  fieldName := fieldName
  originalValue := originalValue
  normalizedValue := normalizedValue

end Feedback

/-! ## Validators -/

section Validators

variable (env : KernelEnvironment) (feedback : Feedback) (row : StructuredRow) (index : Nat)

def requiredTextColumns : List Column := [.timestamp, .category, .account, .wallet]

def validateRequiredTextFields : Option IssueRecord :=
  let missing := requiredTextColumns.filter (fun column => strip (row.cell column) = "")
  if missing = [] then none
  else
    some (feedback.issue index "missing_required_field"
      ("Missing required field(s): " ++ ", ".intercalate (missing.map Column.name) ++ "."))

/-- The step of `_validate_amount_pairs`. -/
def validateAmountPair (pair : AmountPair) : Option IssueRecord :=
  let assetValue := strip (row.cell pair.asset)
  let amountValue := strip (row.cell pair.amount)
  if decide (assetValue ≠ "") ≠ decide (amountValue ≠ "") then
    some (feedback.issue index "incomplete_amount_pair"
      (pair.asset.name ++ " and " ++ pair.amount.name ++
        " must both be present or both be blank."))
  else
    match pair.side with
    | none => none
    | some side =>
        if strip (row.cell side) ≠ "" ∧ assetValue = "" then
          some (feedback.issue index "incomplete_amount_pair"
            (side.name ++ " requires " ++ pair.asset.name ++ " and " ++ pair.amount.name ++ "."))
        else none

def validateAmountPairs : Option IssueRecord :=
  AmountPair.all.findSome? (validateAmountPair feedback row index)

def validateEventAmountPresence : Option IssueRecord :=
  if strip (row.cell .assetIn) ≠ "" ∨ strip (row.cell .assetOut) ≠ "" then none
  else
    some (feedback.issue index "missing_event_amount"
      "A row must include either an inbound or outbound asset amount.")

def validateTimestampField : Option IssueRecord :=
  match parseTimestamp (strip (row.cell .timestamp)) with
  | .ok _ => none
  | .error _ =>
      some (feedback.issue index "invalid_timestamp"
        ("Unsupported timestamp value: " ++ env.repr (strip (row.cell .timestamp)) ++ "."))

/-- The step of `_validate_numeric_fields`; the comparison with zero raises for a NaN, and an `Overflow`
is not caught. -/
def validateNumericField (pair : AmountPair) : Decoded (Option IssueRecord) :=
  match SpecialDecimal.parse (strip (row.cell pair.amount)) with
  | .error .overflow => .error .overflow
  | .error _ =>
      .ok (some (feedback.issue index "invalid_decimal"
        ("Unsupported decimal value for " ++ pair.amount.name ++ ": " ++
          env.repr (strip (row.cell pair.amount)) ++ ".")))
  | .ok none => .ok none
  | .ok (some value) =>
      if value.isZero then
        .ok (some (feedback.issue index "zero_amount"
          (pair.amount.name ++ " must be greater than zero when present.")))
      else if pair ∈ [.inbound, .rebate] then do
        if ← value.isNegative then
          return some (feedback.issue index "conflicting_amount_sign"
            (pair.amount.name ++ " cannot be negative."))
        else return none
      else .ok none

def validateNumericFields : Decoded (Option IssueRecord) :=
  AmountPair.all.findSomeM? (validateNumericField env feedback row index)

/-- The step of `_validate_side_fields`. -/
def validateSideField (side : Column) : Option IssueRecord :=
  if strip (row.cell side) ≠ "" ∧ strip (row.cell side) ∉ ["in", "out"] then
    some (feedback.issue index "invalid_side_value"
      (side.name ++ " must be 'in', 'out', or blank."))
  else none

def validateSideFields : Option IssueRecord :=
  [Column.chargeSide, .rebateSide].findSome? (validateSideField feedback row index)

def sideAttributionTargets : List (Column × Column × Column) :=
  [(.chargeSide, .chargeAsset, .assetIn), (.rebateSide, .rebateAsset, .assetIn),
    (.chargeSide, .chargeAsset, .assetOut), (.rebateSide, .rebateAsset, .assetOut)]

/-- The step of `_validate_side_attribution_targets`. -/
def validateSideAttributionTarget (target : Column × Column × Column) : Option IssueRecord :=
  let sideValue := strip (row.cell target.1)
  if strip (row.cell target.2.1) = "" then none
  else if sideValue = "" then none
  else if sideValue = "in" ∧ target.2.2 ≠ .assetIn then none
  else if sideValue = "out" ∧ target.2.2 ≠ .assetOut then none
  else if strip (row.cell target.2.2) ≠ "" then none
  else
    some (feedback.issue index "invalid_side_attribution"
      (target.1.name ++ "=" ++ env.repr sideValue ++ " requires a matching " ++ target.2.2.name ++
        " primary leg."))

def validateSideAttributionTargets : Option IssueRecord :=
  sideAttributionTargets.findSome? (validateSideAttributionTarget env feedback row index)

/-- `validate_row`, the first issue of the validators -/
def validateRow : Decoded (Option IssueRecord) :=
  [.ok (validateRequiredTextFields feedback row index),
    .ok (validateAmountPairs feedback row index),
    .ok (validateEventAmountPresence feedback row index),
    .ok (validateTimestampField env feedback row index),
    validateNumericFields env feedback row index,
    .ok (validateSideFields feedback row index),
    .ok (validateSideAttributionTargets env feedback row index)].findSomeM? id

end Validators

/-! ## Rows without an issue -/

/-- Nothing is found if every element is looked at and has nothing. -/
lemma findSomeM?_eq_none {α β : Type} {f : α → Decoded (Option β)} {xs : List α}
    (h : xs.findSomeM? f = .ok none) : ∀ x ∈ xs, f x = .ok none := by
  induction xs with
  | nil => exact fun x hx => absurd hx List.not_mem_nil
  | cons x xs ih =>
      rw [List.findSomeM?] at h
      rcases bind_eq_ok_iff.1 h with ⟨found, hfound, hrest⟩
      cases found with
      | some b => cases hrest
      | none => exact List.forall_mem_cons.2 ⟨hfound, ih hrest⟩

/-- What the validators have checked of a row. -/
structure ValidRow (row : StructuredRow) : Prop where
  required : ∀ column ∈ requiredTextColumns, row.cell column ≠ ""
  pairs : ∀ pair : AmountPair, row.cell pair.asset ≠ "" ↔ row.cell pair.amount ≠ ""
  event : row.cell .assetIn ≠ "" ∨ row.cell .assetOut ≠ ""
  timestamp : ∃ t, parseTimestamp (row.cell .timestamp) = .ok t
  amounts : ∀ (pair : AmountPair), row.cell pair.amount ≠ "" →
    ∃ value, SpecialDecimal.parse (row.cell pair.amount) = .ok (some value) ∧
      value.isZero = false ∧ (pair ∈ [.inbound, .rebate] → value.isNegative = .ok false)
  sides : ∀ side ∈ [Column.chargeSide, .rebateSide],
    row.cell side = "" ∨ row.cell side = "in" ∨ row.cell side = "out"
  targets : ∀ target ∈ sideAttributionTargets, row.cell target.2.1 ≠ "" →
    row.cell target.1 = "in" ∧ target.2.2 = .assetIn ∨
      row.cell target.1 = "out" ∧ target.2.2 = .assetOut → row.cell target.2.2 ≠ ""

section

variable {env : KernelEnvironment} {feedback : Feedback} {row : StructuredRow} {index : Nat}

lemma required_of_none (h : validateRequiredTextFields feedback row index = none) :
    ∀ column ∈ requiredTextColumns, row.cell column ≠ "" := by
  unfold validateRequiredTextFields at h
  dsimp only at h
  split_ifs at h with hmissing
  intro column hcolumn hblank
  have hmem : column ∈ requiredTextColumns.filter (fun column => strip (row.cell column) = "") := by
    rw [List.mem_filter, row.stripped]
    exact ⟨hcolumn, decide_eq_true hblank⟩
  rw [hmissing] at hmem
  cases hmem

lemma pair_of_none {pair : AmountPair} (h : validateAmountPair feedback row index pair = none) :
    row.cell pair.asset ≠ "" ↔ row.cell pair.amount ≠ "" := by
  unfold validateAmountPair at h
  dsimp only at h
  split_ifs at h with hpair
  rw [row.stripped, row.stripped, ne_eq, not_not, decide_eq_decide] at hpair
  exact hpair

lemma event_of_none (h : validateEventAmountPresence feedback row index = none) :
    row.cell .assetIn ≠ "" ∨ row.cell .assetOut ≠ "" := by
  unfold validateEventAmountPresence at h
  split_ifs at h with hevent
  rwa [row.stripped, row.stripped] at hevent

lemma timestamp_of_none (h : validateTimestampField env feedback row index = none) :
    ∃ t, parseTimestamp (row.cell .timestamp) = .ok t := by
  unfold validateTimestampField at h
  rw [row.stripped] at h
  cases hparse : parseTimestamp (row.cell .timestamp) with
  | ok t => exact ⟨t, rfl⟩
  | error e =>
      rw [hparse] at h
      cases h

lemma amount_of_none {pair : AmountPair}
    (h : validateNumericField env feedback row index pair = .ok none)
    (hamount : row.cell pair.amount ≠ "") :
    ∃ value, SpecialDecimal.parse (row.cell pair.amount) = .ok (some value) ∧
      value.isZero = false ∧ (pair ∈ [.inbound, .rebate] → value.isNegative = .ok false) := by
  unfold validateNumericField at h
  rw [row.stripped] at h
  cases hparse : SpecialDecimal.parse (row.cell pair.amount) with
  | error e =>
      rw [hparse] at h
      cases e <;> cases h
  | ok parsed =>
      cases parsed with
      | none =>
          rw [SpecialDecimal.parse_eq_ok_none_iff, row.stripped] at hparse
          exact absurd hparse hamount
      | some value =>
          rw [hparse] at h
          dsimp only at h
          split_ifs at h with hzero hpair
          · cases h
          · rcases bind_eq_ok_iff.1 h with ⟨negative, hsign, hreported⟩
            cases negative with
            | true => cases hreported
            | false => exact ⟨value, rfl, Bool.not_eq_true _ ▸ hzero, fun _ => hsign⟩
          · exact ⟨value, rfl, Bool.not_eq_true _ ▸ hzero, fun h => absurd h hpair⟩

lemma side_of_none {side : Column} (h : validateSideField feedback row index side = none) :
    row.cell side = "" ∨ row.cell side = "in" ∨ row.cell side = "out" := by
  unfold validateSideField at h
  split_ifs at h with hside
  rw [row.stripped, not_and_or, not_not, not_not] at hside
  simpa using hside

lemma target_of_none {target : Column × Column × Column}
    (h : validateSideAttributionTarget env feedback row index target = none)
    (hasset : row.cell target.2.1 ≠ "")
    (hside : row.cell target.1 = "in" ∧ target.2.2 = .assetIn ∨
      row.cell target.1 = "out" ∧ target.2.2 = .assetOut) : row.cell target.2.2 ≠ "" := by
  unfold validateSideAttributionTarget at h
  simp only [row.stripped] at h
  split_ifs at h with hblank hnone hin hout htarget
  · exact absurd hblank hasset
  · rcases hside with ⟨hside, _⟩ | ⟨hside, _⟩
    · exact absurd (hside.symm.trans hnone) (by decide)
    · exact absurd (hside.symm.trans hnone) (by decide)
  · rcases hside with ⟨_, hcolumn⟩ | ⟨hside, _⟩
    · exact absurd hcolumn hin.2
    · exact absurd (hside.symm.trans hin.1) (by decide)
  · rcases hside with ⟨hside, _⟩ | ⟨_, hcolumn⟩
    · exact absurd (hside.symm.trans hout.1) (by decide)
    · exact absurd hcolumn hout.2
  · exact htarget

/-- A row without an issue has passed every validator. -/
theorem validRow_of_none (h : validateRow env feedback row index = .ok none) : ValidRow row := by
  have hall := findSomeM?_eq_none h
  simp only [List.forall_mem_cons, id_eq, Except.ok.injEq] at hall
  rcases hall with ⟨hrequired, hpairs, hevent, htimestamp, hnumeric, hsides, htargets, _⟩
  have hamounts := findSomeM?_eq_none hnumeric
  rw [validateAmountPairs, List.findSome?_eq_none_iff] at hpairs
  rw [validateSideFields, List.findSome?_eq_none_iff] at hsides
  rw [validateSideAttributionTargets, List.findSome?_eq_none_iff] at htargets
  constructor
  · exact required_of_none hrequired
  · exact fun pair => pair_of_none (hpairs pair pair.mem_all)
  · exact event_of_none hevent
  · exact timestamp_of_none htimestamp
  · exact fun pair => amount_of_none (hamounts pair pair.mem_all)
  · exact fun side hside => side_of_none (hsides side hside)
  · exact fun target htarget => target_of_none (htargets target htarget)

end

end StructuredCsv
end Tallylot
