import Tallylot.Balances.Codec
import Tallylot.Data.SpecialDecimal

/-!
# Rows — the cells of a manual balance submission

A submission has a file of balance snapshots, a file of balance references and, optionally, a
location inventory.  Each row is checked cell by cell: the checks report issues, and a row without
issues is parsed.  A quantity that reads as an infinity or a quiet NaN passes the checks of its cell
and is refused by the constructor of the parsed row, which raises (`validateBalanceLikeRow_ok_iff`).
-/

namespace Tallylot
namespace Submission

open Data Domain Balances

/-! ## Contracts -/

structure BalanceSubmissionIssue where
  fileName : String
  rowNumber : String
  columnName : String
  issueKind : String
  message : String
  deriving DecidableEq, Repr

/-- What a check reports, and what it returns. -/
abbrev Reported (α : Type) : Type := List BalanceSubmissionIssue × α

structure BalanceSnapshotSubmissionRow where
  source : String
  account : String
  wallet : String
  instrumentId : String
  quantity : Decimal
  targetAt : Instant
  targetPrecision : TemporalPrecision
  balanceKind : String
  notes : String
  deriving DecidableEq, Repr

structure BalanceReferenceSubmissionRow extends BalanceSnapshotSubmissionRow where
  referenceKind : BalanceReferenceKind
  observedAt : Instant
  observedPrecision : TemporalPrecision
  supportRef : String
  reviewedBy : String
  reviewedAt : Instant
  deriving DecidableEq, Repr

structure LocationInventorySubmissionRow where
  source : String
  account : String
  wallet : String
  identifierKind : String
  identifierValue : String
  networkScope : String
  controller : String
  confidence : String
  notes : String
  deriving DecidableEq, Repr

/-! ## Cells -/

/-- `row.get(field, "").strip()` -/
@[irreducible]
def cell (row : Row) (field : String) : String := strip (row.getD field "")

/-- `str(exc)` -/
def exceptionText : DecodeError → String
  | .value message => message
  | .key name => name
  | .invalidOperation => "[<class 'decimal.ConversionSyntax'>]"
  | .overflow => "[<class 'decimal.Overflow'>]"

section Cells

variable (fileName : String) (rowNumber : Nat)

def rowIssue (columnName issueKind message : String) : BalanceSubmissionIssue :=
  ⟨fileName, toString rowNumber, columnName, issueKind, message⟩

/-- The texts of infinities and quiet NaNs. -/
def isNonFiniteText (text : String) : Bool :=
  (SpecialDecimal.read text).any (fun value => !value.isFinite)

/-- `parse_submission_quantity` -/
def parseSubmissionQuantity (rawQuantity : String) : Reported (Option SpecialDecimal) :=
  if rawQuantity = "" then ([], none)
  else
    match SpecialDecimal.parse rawQuantity with
    | .error e =>
        ([rowIssue fileName rowNumber "quantity" "invalid_decimal"
          ("Could not parse quantity as Decimal: " ++ exceptionText e)], none)
    | .ok (some quantity) => ([], some quantity)
    | .ok none =>
        ([rowIssue fileName rowNumber "quantity" "invalid_decimal"
          "Could not parse quantity as Decimal."], none)

/-- `parse_submission_precision` -/
def parseSubmissionPrecision (columnName rawPrecision : String) :
    Reported (Option TemporalPrecision) :=
  if rawPrecision = "" then ([], none)
  else
    match parseTemporalPrecision rawPrecision with
    | some precision => ([], some precision)
    | none =>
        ([rowIssue fileName rowNumber columnName "invalid_precision"
          ("Unsupported " ++ columnName ++ " '" ++ rawPrecision ++ "'.")], none)

/-- `parse_submission_temporal_value` -/
def parseSubmissionTemporalValue (columnName rawValue : String)
    (precision : Option TemporalPrecision) : Reported (Option Instant) :=
  match precision with
  | none => ([], none)
  | some precision =>
      if rawValue = "" then ([], none)
      else
        match parseTemporalValue rawValue precision with
        | .ok value => ([], some value)
        | .error e =>
            ([rowIssue fileName rowNumber columnName "invalid_timestamp" (exceptionText e)], none)

/-- `parse_submission_reviewed_at` -/
def parseSubmissionReviewedAt (rawReviewedAt : String) : Reported (Option Instant) :=
  if rawReviewedAt = "" then ([], none)
  else
    match parseTimestamp rawReviewedAt with
    | .ok value => ([], some value)
    | .error e =>
        ([rowIssue fileName rowNumber "reviewed_at" "invalid_timestamp" (exceptionText e)], none)

/-- One issue for each blank required field. -/
def missingValues (row : Row) (fields : List String) (message : String → String) :
    List BalanceSubmissionIssue :=
  (fields.filter (fun field => cell row field = "")).map (fun field =>
    rowIssue fileName rowNumber field "missing_required_value" (message field))

/-- The issue of a source that is not the submission's. -/
def sourceMismatch (row : Row) (expectedSource rowName : String) : List BalanceSubmissionIssue :=
  if cell row "source" ≠ "" ∧ cell row "source" ≠ expectedSource then
    [rowIssue fileName rowNumber "source" "source_mismatch"
      (rowName ++ " row source '" ++ cell row "source" ++ "' does not match submission source '" ++
        expectedSource ++ "'.")]
  else []

end Cells

/-! ## Balance rows -/

def balanceFields : List String :=
  ["source", "account", "wallet", "instrument_id", "quantity", "target_at", "target_precision",
    "balance_kind"]

section BalanceRows

variable (fileName : String) (rowNumber : Nat) (row : Row) (expectedSource : String)

/-- The issues that make a balance row invalid apart from its parsed cells. -/
def balanceRowIssues : List BalanceSubmissionIssue :=
  missingValues fileName rowNumber row balanceFields
      (fun field => fileName ++ " rows require a non-blank " ++ field ++ ".") ++
    sourceMismatch fileName rowNumber row expectedSource fileName

def parsedBalanceRow (quantity : Decimal) (precision : TemporalPrecision) (targetAt : Instant) :
    BalanceSnapshotSubmissionRow where
  source := cell row "source"
  account := cell row "account"
  wallet := cell row "wallet"
  instrumentId := cell row "instrument_id"
  quantity := quantity
  targetAt := targetAt
  targetPrecision := precision
  balanceKind := normalizeBalanceKind (cell row "balance_kind")
  notes := cell row "notes"

/-- `_validate_balance_like_row`; the constructor of a row raises on a quantity that is not finite. -/
def validateBalanceLikeRow : Decoded (Reported (Option BalanceSnapshotSubmissionRow)) :=
  let rowIssues := balanceRowIssues fileName rowNumber row expectedSource
  let quantity := parseSubmissionQuantity fileName rowNumber (cell row "quantity")
  let precision :=
    parseSubmissionPrecision fileName rowNumber "target_precision" (cell row "target_precision")
  let targetAt :=
    parseSubmissionTemporalValue fileName rowNumber "target_at" (cell row "target_at") precision.2
  let issues := rowIssues ++ quantity.1 ++ precision.1 ++ targetAt.1
  match quantity.2, precision.2, targetAt.2 with
  | some quantity, some precision, some targetAt =>
      if rowIssues ≠ [] then .ok (issues, none)
      else
        match quantity with
        | .finite quantity => .ok (issues, some (parsedBalanceRow row quantity precision targetAt))
        | .infinite _ | .nan => .error (.value "quantity: Input should be a finite number")
  | _, _, _ => .ok (issues, none)

end BalanceRows

/-! ## What a balance row is checked for -/

/-- The cells of a balance row other than its quantity pass their checks. -/
structure CellsPass (row : Row) (expectedSource : String) : Prop where
  filled : ∀ field ∈ balanceFields, cell row field ≠ ""
  source : cell row "source" = expectedSource
  target : ∃ precision targetAt, parseTemporalPrecision (cell row "target_precision") = some precision ∧
    parseTemporalValue (cell row "target_at") precision = .ok targetAt

/-- A row and what is parsed from it. -/
structure ParsedFrom (row : Row) (expectedSource : String) (parsed : BalanceSnapshotSubmissionRow) :
    Prop where
  filled : ∀ field ∈ balanceFields, cell row field ≠ ""
  source : cell row "source" = expectedSource
  sourceText : parsed.source = cell row "source"
  account : parsed.account = cell row "account"
  wallet : parsed.wallet = cell row "wallet"
  instrumentId : parsed.instrumentId = cell row "instrument_id"
  quantity : SpecialDecimal.parse (cell row "quantity") = .ok (some (.finite parsed.quantity))
  precision : parseTemporalPrecision (cell row "target_precision") = some parsed.targetPrecision
  targetAt : parseTemporalValue (cell row "target_at") parsed.targetPrecision = .ok parsed.targetAt
  balanceKind : parsed.balanceKind = normalizeBalanceKind (cell row "balance_kind")

section RowChecks

variable {fileName : String} {rowNumber : Nat} {row : Row} {expectedSource : String}

lemma missingValues_eq_nil_iff {fields : List String} {message : String → String} :
    missingValues fileName rowNumber row fields message = [] ↔ ∀ field ∈ fields, cell row field ≠ "" := by
  simp [missingValues, List.filter_eq_nil_iff]

lemma balanceRowIssues_eq_nil_iff :
    balanceRowIssues fileName rowNumber row expectedSource = [] ↔
      (∀ field ∈ balanceFields, cell row field ≠ "") ∧ cell row "source" = expectedSource := by
  have hsource : "source" ∈ balanceFields := List.mem_cons_self
  rw [balanceRowIssues, List.append_eq_nil_iff, missingValues_eq_nil_iff, sourceMismatch]
  constructor
  · rintro ⟨hfilled, hmismatch⟩
    refine ⟨hfilled, ?_⟩
    by_contra hne
    rw [if_pos ⟨hfilled _ hsource, hne⟩] at hmismatch
    cases hmismatch
  · rintro ⟨hfilled, hsame⟩
    exact ⟨hfilled, if_neg (fun h => h.2 hsame)⟩

/-- A parse of a cell that is not blank reports an issue or returns what the text says. -/
lemma parseSubmissionQuantity_cases {text : String} (hfilled : text ≠ "") :
    (isNonFiniteText text = true ∧ ∃ special, special.isFinite = false ∧
        parseSubmissionQuantity fileName rowNumber text = ([], some special)) ∨
      isNonFiniteText text = false ∧
        ((∃ quantity, SpecialDecimal.parse text = .ok (some (.finite quantity)) ∧
            parseSubmissionQuantity fileName rowNumber text = ([], some (.finite quantity))) ∨
          ∃ issues, issues ≠ [] ∧
            parseSubmissionQuantity fileName rowNumber text = (issues, none)) := by
  unfold parseSubmissionQuantity
  rw [if_neg hfilled]
  by_cases hspecial : isNonFiniteText text = true
  · rcases (Option.any_eq_true _ _).1 hspecial with ⟨special, hread, hnot⟩
    have hfinite : special.isFinite = false := by simpa using hnot
    rw [(SpecialDecimal.parse_eq_ok_special_iff hfinite).2 hread]
    exact Or.inl ⟨hspecial, special, hfinite, rfl⟩
  · refine Or.inr ⟨by simpa using hspecial, ?_⟩
    cases hparse : SpecialDecimal.parse text with
    | error e => exact Or.inr ⟨_, List.cons_ne_nil _ _, rfl⟩
    | ok parsed =>
        cases parsed with
        | none => exact Or.inr ⟨_, List.cons_ne_nil _ _, rfl⟩
        | some quantity =>
            by_cases hfinite : quantity.isFinite = true
            · rcases SpecialDecimal.exists_of_isFinite hfinite with ⟨d, rfl⟩
              exact Or.inl ⟨d, rfl, rfl⟩
            · rw [Bool.not_eq_true] at hfinite
              refine absurd ((Option.any_eq_true _ _).2 ⟨quantity, ?_, by simpa using hfinite⟩) hspecial
              exact (SpecialDecimal.parse_eq_ok_special_iff hfinite).1 hparse

lemma parseSubmissionPrecision_cases {columnName text : String} (hfilled : text ≠ "") :
    (∃ precision, parseTemporalPrecision text = some precision ∧
        parseSubmissionPrecision fileName rowNumber columnName text = ([], some precision)) ∨
      (parseTemporalPrecision text = none ∧ ∃ issues, issues ≠ [] ∧
        parseSubmissionPrecision fileName rowNumber columnName text = (issues, none)) := by
  unfold parseSubmissionPrecision
  rw [if_neg hfilled]
  cases parseTemporalPrecision text with
  | none => exact Or.inr ⟨rfl, _, List.cons_ne_nil _ _, rfl⟩
  | some precision => exact Or.inl ⟨precision, rfl, rfl⟩

lemma parseSubmissionTemporalValue_cases {columnName text : String} {precision : TemporalPrecision}
    (hfilled : text ≠ "") :
    (∃ value, parseTemporalValue text precision = .ok value ∧
        parseSubmissionTemporalValue fileName rowNumber columnName text (some precision) =
          ([], some value)) ∨
      ((∀ value, parseTemporalValue text precision ≠ .ok value) ∧ ∃ issues, issues ≠ [] ∧
        parseSubmissionTemporalValue fileName rowNumber columnName text (some precision) =
          (issues, none)) := by
  simp only [parseSubmissionTemporalValue]
  rw [if_neg hfilled]
  cases parseTemporalValue text precision with
  | error e => exact Or.inr ⟨nofun, _, List.cons_ne_nil _ _, rfl⟩
  | ok value => exact Or.inl ⟨value, rfl, rfl⟩

/-- What becomes of a balance row: the constructor of its parsed row raises, or it is parsed without
issues, or it has issues. -/
inductive RowOutcome (row : Row) (expectedSource : String) :
    Decoded (Reported (Option BalanceSnapshotSubmissionRow)) → Prop
  | refused (e : DecodeError) (hpass : CellsPass row expectedSource)
      (hspecial : isNonFiniteText (cell row "quantity") = true) : RowOutcome row expectedSource (.error e)
  | parsed (parsed : BalanceSnapshotSubmissionRow) (hparsed : ParsedFrom row expectedSource parsed)
      (hfinite : isNonFiniteText (cell row "quantity") = false) :
      RowOutcome row expectedSource (.ok ([], some parsed))
  | reported (issues : List BalanceSubmissionIssue) (hissues : issues ≠ [])
      (hfails : ¬(CellsPass row expectedSource ∧ isNonFiniteText (cell row "quantity") = true)) :
      RowOutcome row expectedSource (.ok (issues, none))

lemma parsedFrom_parsedBalanceRow {quantity : Decimal} {precision : TemporalPrecision}
    {targetAt : Instant} (hfilled : ∀ field ∈ balanceFields, cell row field ≠ "")
    (hsource : cell row "source" = expectedSource)
    (hquantity : SpecialDecimal.parse (cell row "quantity") = .ok (some (.finite quantity)))
    (hprecision : parseTemporalPrecision (cell row "target_precision") = some precision)
    (htarget : parseTemporalValue (cell row "target_at") precision = .ok targetAt) :
    ParsedFrom row expectedSource (parsedBalanceRow row quantity precision targetAt) where
  filled := hfilled
  source := hsource
  sourceText := rfl
  account := rfl
  wallet := rfl
  instrumentId := rfl
  quantity := hquantity
  precision := hprecision
  targetAt := htarget
  balanceKind := rfl

lemma rowOutcome_of_filled (hfilled : ∀ field ∈ balanceFields, cell row field ≠ "")
    (hsource : cell row "source" = expectedSource) :
    RowOutcome row expectedSource (validateBalanceLikeRow fileName rowNumber row expectedSource) := by
  have hrow : balanceRowIssues fileName rowNumber row expectedSource = [] :=
    balanceRowIssues_eq_nil_iff.2 ⟨hfilled, hsource⟩
  have hquantity := @parseSubmissionQuantity_cases fileName rowNumber (cell row "quantity")
    (hfilled _ (by decide))
  unfold validateBalanceLikeRow
  simp only [hrow]
  rcases @parseSubmissionPrecision_cases fileName rowNumber "target_precision"
      (cell row "target_precision") (hfilled _ (by decide)) with
    ⟨precision, hparsed, hprecision⟩ | ⟨hparsed, issues, hissues, hprecision⟩
  · rw [hprecision]
    rcases @parseSubmissionTemporalValue_cases fileName rowNumber "target_at" (cell row "target_at")
        precision (hfilled _ (by decide)) with
      ⟨targetAt, hat, htarget⟩ | ⟨hat, issues, hissues, htarget⟩
    · rw [htarget]
      rcases hquantity with ⟨hspecial, special, hnot, hquantity⟩ |
        ⟨hfinite, ⟨quantity, hnumber, hquantity⟩ | ⟨issues, hissues, hquantity⟩⟩
      · rw [hquantity]
        have hpass : CellsPass row expectedSource :=
          ⟨hfilled, hsource, precision, targetAt, hparsed, hat⟩
        cases special with
        | finite d => cases hnot
        | infinite negative => exact .refused _ hpass hspecial
        | nan => exact .refused _ hpass hspecial
      · rw [hquantity]
        exact .parsed _ (parsedFrom_parsedBalanceRow hfilled hsource hnumber hparsed hat) hfinite
      · rw [hquantity]
        exact .reported _ (by simp [hissues]) (by simp [hfinite])
    · rw [htarget]
      have hfails : ¬(CellsPass row expectedSource ∧ isNonFiniteText (cell row "quantity") = true) := by
        rintro ⟨⟨_, _, p, value, hp, hvalue⟩, _⟩
        have hsame : p = precision := Option.some.inj (hp.symm.trans hparsed)
        subst hsame
        exact hat value hvalue
      rcases parseSubmissionQuantity fileName rowNumber (cell row "quantity") with
        ⟨quantityIssues, _ | quantity⟩
      · exact .reported _ (by simp [hissues]) hfails
      · exact .reported _ (by simp [hissues]) hfails
  · rw [hprecision]
    have hfails : ¬(CellsPass row expectedSource ∧ isNonFiniteText (cell row "quantity") = true) := by
      rintro ⟨⟨_, _, p, value, hp, hvalue⟩, _⟩
      rw [hparsed] at hp
      cases hp
    rcases parseSubmissionQuantity fileName rowNumber (cell row "quantity") with
      ⟨quantityIssues, _ | quantity⟩
    · exact .reported _ (by simp [hissues]) hfails
    · exact .reported _ (by simp [hissues]) hfails

theorem validateBalanceLikeRow_outcome :
    RowOutcome row expectedSource (validateBalanceLikeRow fileName rowNumber row expectedSource) := by
  by_cases hrow : balanceRowIssues fileName rowNumber row expectedSource = []
  · rcases balanceRowIssues_eq_nil_iff.1 hrow with ⟨hfilled, hsource⟩
    exact rowOutcome_of_filled hfilled hsource
  · have hfails : ¬(CellsPass row expectedSource ∧ isNonFiniteText (cell row "quantity") = true) :=
      fun h => hrow (balanceRowIssues_eq_nil_iff.2 ⟨h.1.filled, h.1.source⟩)
    unfold validateBalanceLikeRow
    dsimp only
    split
    · rw [if_pos hrow]
      exact .reported _ (by simp [hrow]) hfails
    · exact .reported _ (by simp [hrow]) hfails

end RowChecks

/-! ## Reference rows -/

def balanceReferencesFilename : String := "balance_references.csv"

def referenceFields : List String :=
  ["reference_kind", "observed_at", "observed_precision", "reviewed_by", "reviewed_at"]

section ReferenceRows

variable (rowNumber : Nat) (row : Row)

/-- The kind of a reference and its issues; only operator assertions may be submitted. -/
def parseReferenceKind (rawKind : String) : Reported (Option BalanceReferenceKind) :=
  if rawKind = "" then ([], none)
  else
    match ofValue BalanceReferenceKind.members BalanceReferenceKind.value rawKind with
    | none =>
        ([rowIssue balanceReferencesFilename rowNumber "reference_kind" "invalid_reference_kind"
          ("'" ++ rawKind ++ "' is not a valid BalanceReferenceKind")], none)
    | some kind =>
        if kind = .operatorAssertion then ([], some kind)
        else
          ([rowIssue balanceReferencesFilename rowNumber "reference_kind"
            "unsupported_reference_kind"
            ("Manual submission balance_references.csv rows must use " ++
              "reference_kind operator_assertion.")], some kind)

/-- The row of a reference, given the check of the cells that it shares with a snapshot. -/
def checkReferenceRow (base : Reported (Option BalanceSnapshotSubmissionRow)) :
    Reported (Option BalanceReferenceSubmissionRow) :=
  let missing := missingValues balanceReferencesFilename rowNumber row referenceFields
    (fun field => "balance_references.csv rows require a non-blank " ++ field ++ ".")
  let kind := parseReferenceKind rowNumber (cell row "reference_kind")
  let precision := parseSubmissionPrecision balanceReferencesFilename rowNumber
    "observed_precision" (cell row "observed_precision")
  let observedAt := parseSubmissionTemporalValue balanceReferencesFilename rowNumber "observed_at"
    (cell row "observed_at") precision.2
  let reviewedAt :=
    parseSubmissionReviewedAt balanceReferencesFilename rowNumber (cell row "reviewed_at")
  let issues := base.1 ++ missing ++ kind.1 ++ precision.1 ++ observedAt.1 ++ reviewedAt.1
  match base.2, kind.2, precision.2, observedAt.2, reviewedAt.2 with
  | some base, some kindValue, some precision, some observedAt, some reviewedAt =>
      if missing ≠ [] ∨ kind.1 ≠ [] then (issues, none)
      else
        (issues, some {
          base with
          referenceKind := kindValue
          observedAt := observedAt
          observedPrecision := precision
          supportRef := cell row "support_ref"
          reviewedBy := cell row "reviewed_by"
          reviewedAt := reviewedAt })
  | _, _, _, _, _ => (issues, none)

/-- The body of the loop of `validate_balance_reference_rows`. -/
def validateBalanceReferenceRow (expectedSource : String) :
    Decoded (Reported (Option BalanceReferenceSubmissionRow)) := do
  let base ← validateBalanceLikeRow balanceReferencesFilename rowNumber row expectedSource
  return checkReferenceRow rowNumber row base

/-- A reference row and what is parsed from it. -/
structure ReferenceParsedFrom (expectedSource : String) (parsed : BalanceReferenceSubmissionRow) : Prop where
  base : ParsedFrom row expectedSource parsed.toBalanceSnapshotSubmissionRow
  kind : parsed.referenceKind = .operatorAssertion
  reviewedBy : strip parsed.reviewedBy ≠ ""
  observed : parsed.observedPrecision = .date → parsed.observedAt.isMidnight = true

end ReferenceRows

section ReferenceChecks

variable {rowNumber : Nat} {row : Row} {expectedSource : String}

lemma strip_cell (row : Row) (field : String) : strip (cell row field) = cell row field := by
  rw [cell, strip_strip]
/-- Operator assertions are the only kind that a manual submission may hold. -/
lemma parseReferenceKind_cases {text : String} (hfilled : text ≠ "") :
    parseReferenceKind rowNumber text = ([], some .operatorAssertion) ∨
      (parseReferenceKind rowNumber text).1 ≠ [] := by
  unfold parseReferenceKind
  rw [if_neg hfilled]
  cases ofValue BalanceReferenceKind.members BalanceReferenceKind.value text with
  | none => exact Or.inr (List.cons_ne_nil _ _)
  | some kind =>
      by_cases hkind : kind = .operatorAssertion
      · subst hkind
        exact Or.inl rfl
      · dsimp only
        rw [if_neg hkind]
        exact Or.inr (List.cons_ne_nil _ _)

lemma parseSubmissionReviewedAt_cases {fileName text : String} (hfilled : text ≠ "") :
    (∃ value, parseSubmissionReviewedAt fileName rowNumber text = ([], some value)) ∨
      (parseSubmissionReviewedAt fileName rowNumber text).1 ≠ [] := by
  unfold parseSubmissionReviewedAt
  rw [if_neg hfilled]
  cases parseTimestamp text with
  | error e => exact Or.inr (List.cons_ne_nil _ _)
  | ok value => exact Or.inl ⟨value, rfl⟩

/-- Whatever becomes of a reference row, it shows all its issues. -/
lemma checkReferenceRow_issues (base : Reported (Option BalanceSnapshotSubmissionRow)) :
    (checkReferenceRow rowNumber row base).1 =
      base.1 ++ missingValues balanceReferencesFilename rowNumber row referenceFields
          (fun field => "balance_references.csv rows require a non-blank " ++ field ++ ".") ++
        (parseReferenceKind rowNumber (cell row "reference_kind")).1 ++
        (parseSubmissionPrecision balanceReferencesFilename rowNumber "observed_precision"
          (cell row "observed_precision")).1 ++
        (parseSubmissionTemporalValue balanceReferencesFilename rowNumber "observed_at"
          (cell row "observed_at") (parseSubmissionPrecision balanceReferencesFilename rowNumber
            "observed_precision" (cell row "observed_precision")).2).1 ++
        (parseSubmissionReviewedAt balanceReferencesFilename rowNumber (cell row "reviewed_at")).1 := by
  unfold checkReferenceRow
  dsimp only
  split
  · split_ifs <;> rfl
  · rfl

/-- Without issues, a reference is parsed from a parsed balance row. -/
lemma checkReferenceRow_clean {base : Reported (Option BalanceSnapshotSubmissionRow)}
    (hbase : base.1 = [] → ∃ parsed, base.2 = some parsed ∧ ParsedFrom row expectedSource parsed)
    (hclean : (checkReferenceRow rowNumber row base).1 = []) :
    ∃ parsed, (checkReferenceRow rowNumber row base).2 = some parsed ∧
      ReferenceParsedFrom row expectedSource parsed := by
  rw [checkReferenceRow_issues] at hclean
  simp only [List.append_eq_nil_iff, and_assoc] at hclean
  rcases hclean with ⟨hbaseClean, hmissing, hkind, hprecision, hobserved, hreviewed⟩
  have hfilled := missingValues_eq_nil_iff.1 hmissing
  rcases hbase hbaseClean with ⟨parsedBase, hbaseValue, hparsedBase⟩
  have hkindValue := (parseReferenceKind_cases (hfilled "reference_kind" (by decide))).resolve_right
    (fun h => h hkind)
  rcases (parseSubmissionReviewedAt_cases (hfilled "reviewed_at" (by decide))).resolve_right
    (fun h => h hreviewed) with ⟨reviewedAt, hreviewedValue⟩
  rcases @parseSubmissionPrecision_cases balanceReferencesFilename rowNumber "observed_precision"
      (cell row "observed_precision") (hfilled _ (by decide)) with
    ⟨precision, _, hprecisionValue⟩ | ⟨_, issues, hissues, hfailed⟩
  · rw [hprecisionValue] at hobserved
    rcases @parseSubmissionTemporalValue_cases balanceReferencesFilename rowNumber "observed_at"
        (cell row "observed_at") precision (hfilled _ (by decide)) with
      ⟨observedAt, hat, hobservedValue⟩ | ⟨_, issues, hissues, hfailed⟩
    · refine ⟨⟨parsedBase, .operatorAssertion, observedAt, precision, cell row "support_ref",
        cell row "reviewed_by", reviewedAt⟩, ?_, ⟨hparsedBase, rfl, ?_, ?_⟩⟩
      · unfold checkReferenceRow
        simp only [hbaseValue, hkindValue, hprecisionValue, hobservedValue, hreviewedValue, hmissing,
          ne_eq, not_true_eq_false, or_self, if_false]
      · rw [strip_cell]
        exact hfilled "reviewed_by" (by decide)
      · exact isMidnight_of_parseTemporalValue hat
    · rw [hfailed] at hobserved
      exact absurd hobserved hissues
  · rw [hfailed] at hprecision
    exact absurd hprecision hissues

/-- A reference row raises when its balance row does. -/
lemma validateBalanceReferenceRow_outcome :
    ((∃ e, validateBalanceReferenceRow rowNumber row expectedSource = .error e) ∧
        CellsPass row expectedSource ∧ isNonFiniteText (cell row "quantity") = true) ∨
      ((∃ result, validateBalanceReferenceRow rowNumber row expectedSource = .ok result ∧
          (result.1 = [] → ∃ parsed, result.2 = some parsed ∧
            ReferenceParsedFrom row expectedSource parsed)) ∧
        ¬(CellsPass row expectedSource ∧ isNonFiniteText (cell row "quantity") = true)) := by
  have houtcome := @validateBalanceLikeRow_outcome balanceReferencesFilename rowNumber row
    expectedSource
  unfold validateBalanceReferenceRow
  generalize validateBalanceLikeRow balanceReferencesFilename rowNumber row expectedSource = base
    at houtcome
  cases houtcome with
  | refused e hpass hspecial => exact Or.inl ⟨⟨e, rfl⟩, hpass, hspecial⟩
  | parsed parsed hparsed hfinite =>
      refine Or.inr ⟨⟨_, rfl, checkReferenceRow_clean (fun _ => ⟨parsed, rfl, hparsed⟩)⟩, ?_⟩
      simp [hfinite]
  | reported issues hissues hfails =>
      exact Or.inr ⟨⟨_, rfl, checkReferenceRow_clean (fun h => absurd h hissues)⟩, hfails⟩

end ReferenceChecks

/-! ## Location rows -/

def locationInventoryFilename : String := "location_inventory.csv"

def locationFields : List String :=
  ["source", "account", "wallet", "identifier_kind", "identifier_value", "confidence"]

/-- The body of the loop of `validate_location_inventory_rows`; `lower` is `str.lower`. -/
def validateLocationInventoryRow (lower : String → String) (rowNumber : Nat) (row : Row)
    (expectedSource : String) : Reported (Option LocationInventorySubmissionRow) :=
  let issues :=
    missingValues locationInventoryFilename rowNumber row locationFields
        (fun field => "Location inventory rows require a non-blank " ++ field ++ ".") ++
      sourceMismatch locationInventoryFilename rowNumber row expectedSource "Location inventory"
  if issues ≠ [] then (issues, none)
  else
    match locationIdFromParts lower [cell row "source", cell row "account", cell row "wallet"] with
    | .error e =>
        ([rowIssue locationInventoryFilename rowNumber "wallet" "invalid_location_parts"
          (exceptionText e)], none)
    | .ok _ =>
        ([], some {
          source := cell row "source"
          account := cell row "account"
          wallet := cell row "wallet"
          identifierKind := cell row "identifier_kind"
          identifierValue := cell row "identifier_value"
          networkScope := cell row "network_scope"
          controller := cell row "controller"
          confidence := cell row "confidence"
          notes := cell row "notes" })

/-- Without issues, a location row is parsed and its location has an id. -/
lemma validateLocationInventoryRow_clean {lower : String → String} {rowNumber : Nat} {row : Row}
    {expectedSource : String}
    (hclean : (validateLocationInventoryRow lower rowNumber row expectedSource).1 = []) :
    ∃ parsed location, (validateLocationInventoryRow lower rowNumber row expectedSource).2 = some parsed ∧
      locationIdFromParts lower [parsed.source, parsed.account, parsed.wallet] = .ok location := by
  unfold validateLocationInventoryRow at hclean ⊢
  dsimp only at hclean ⊢
  split_ifs at hclean ⊢ with hissues
  · exact absurd hclean hissues
  · cases hparts : locationIdFromParts lower
      [cell row "source", cell row "account", cell row "wallet"] with
    | error e =>
        rw [hparts] at hclean
        cases hclean
    | ok location => exact ⟨_, location, rfl, hparts⟩

end Submission
end Tallylot
