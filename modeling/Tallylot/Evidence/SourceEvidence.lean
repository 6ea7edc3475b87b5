import Tallylot.Balances.Codec
import Tallylot.Data.Dict
import Tallylot.Domain.Instruments
import Tallylot.Evidence.Collection

/-!
# SourceEvidence — balance references from statement rows

The rows of the selected statement documents are read in the order of precedence of the documents.  A
row under a precedence key that was read before is skipped; a row without a quantity or a time, or
without a known instrument, is reported; all others are summed, one sum for each location, instrument,
balance kind, time and document.  Each sum becomes one balance reference.

A turn of the loop first says what becomes of the row (`RowOutcome`), which depends on the rows before
it only through their keys (`Reads`).
-/

namespace Tallylot
namespace Evidence

open Data Domain Balances

/-! ## Rows and their keys -/

/-- What the extraction knows of texts besides the kernel. -/
structure StatementEnvironment extends KernelEnvironment where
  casefold : String → String

/-- The adapter of statement documents, with its claims about the instrument of a row. -/
structure StatementEvidenceAdapter (P : Type) extends StatementDocumentAdapter P where
  resolveStatementInstrumentClaims : StatementDocumentBalanceRow → List InstrumentIdentityClaim

/-- A row in its document; documents are numbered in the order in which they are read. -/
structure PlacedRow where
  document : Nat
  entry : StatementInventoryEntry
  row : StatementDocumentBalanceRow

/-- The key of `_statement_row_precedence_key`. -/
structure PrecedenceKey where
  account : String
  wallet : String
  balanceKind : String
  asset : String
  asOfAt : Option Instant
  asOfPrecision : TemporalPrecision
  asOfText : String
  deriving DecidableEq, Repr

/-- `_statement_row_precedence_key` -/
def statementRowPrecedenceKey (row : StatementDocumentBalanceRow) : PrecedenceKey where
  account := row.account
  wallet := row.wallet
  balanceKind := row.balanceKind
  asset := row.asset
  asOfAt := row.asOfAt
  asOfPrecision := row.asOfPrecision
  asOfText := row.asOfText

def PlacedRow.key (placed : PlacedRow) : PrecedenceKey := statementRowPrecedenceKey placed.row

/-- The key under which rows are summed. -/
structure AggregationKey where
  locationId : String
  instrumentId : String
  balanceKind : String
  asOfAt : Instant
  asOfPrecision : TemporalPrecision
  provenanceRef : String
  deriving DecidableEq, Repr

def AggregationKey.order (key : AggregationKey) :
    String ×ₗ String ×ₗ String ×ₗ Instant ×ₗ String ×ₗ String :=
  toLex (key.locationId, toLex (key.instrumentId, toLex (key.balanceKind,
    toLex (key.asOfAt, toLex (key.asOfPrecision.text, key.provenanceRef)))))

section

variable {P : Type} (env : StatementEnvironment) (adapter : StatementEvidenceAdapter P)
  (profile : StatementProfile)

/-- `_matches_source_label` -/
def matchesSourceLabel (segment : String) : Bool :=
  env.casefold (strip segment) = env.casefold (strip profile.source)

/-- `_statement_row_location_id` -/
def statementRowLocationId (row : StatementDocumentBalanceRow) : Decoded String :=
  let walletSegment := strip row.wallet
  let accountSegment := strip row.account
  if walletSegment ≠ "" ∧ matchesSourceLabel env profile walletSegment = false then
    locationIdFromParts env.lower [profile.source, walletSegment]
  else if accountSegment ≠ "" ∧ matchesSourceLabel env profile accountSegment = false then
    locationIdFromParts env.lower [profile.source, accountSegment]
  else locationIdFromParts env.lower [profile.source]

/-! ## Issues -/

/-- `row_context_timestamp` -/
def rowContextTimestamp (row : StatementDocumentBalanceRow) : Decoded String :=
  match row.asOfAt with
  | none => .ok row.asOfText
  | some asOfAt =>
      (requireTemporalDatetime asOfAt row.asOfPrecision "statement evidence as_of").map
        TemporalValue.text

/-- `missing_quantity_issue` -/
def missingQuantityIssue (placed : PlacedRow) : Decoded IssueRecord := do
  let contextTimestamp ← rowContextTimestamp placed.row
  return statementIssue adapter.toStatementDocumentAdapter profile placed.entry
    (placed.entry.documentProvenance placed.row.rawRowRef)
    { kind := "statement_evidence_missing"
      severity := "high"
      message := adapter.displayName ++ " statement row for " ++
        (if placed.row.asset ≠ "" then placed.row.asset else placed.row.balanceKind) ++
          " did not contain a quantity and timestamp."
      rawRowRef := placed.row.rawRowRef
      contextTimestamp := contextTimestamp }

/-- `instrument_issue` -/
def instrumentIssue (placed : PlacedRow) : Decoded IssueRecord := do
  let contextTimestamp ← rowContextTimestamp placed.row
  return statementIssue adapter.toStatementDocumentAdapter profile placed.entry
    (placed.entry.documentProvenance placed.row.rawRowRef)
    { kind := "instrument_identity_blocked"
      severity := "high"
      message := adapter.displayName ++ " statement evidence could not resolve instrument " ++
        placed.row.asset ++ "."
      rawRowRef := placed.row.rawRowRef
      contextTimestamp := contextTimestamp }

/-- `instrument_review` -/
def instrumentReview (placed : PlacedRow) : Decoded NormalizationReviewRecord := do
  let contextTimestamp ← rowContextTimestamp placed.row
  return {
    reviewId := profile.source ++ ":" ++ placed.entry.identityLabel ++ ":" ++
      placed.row.rawRowRef ++ ":instrument_identity_review"
    source := profile.source
    adapterId := adapter.adapterId
    scope := "balance_reference"
    kind := "instrument_identity_review"
    message := "Review required for " ++ adapter.displayName ++ " statement instrument " ++
      placed.row.asset ++ "."
    contextTimestamp := contextTimestamp
    rawFile := placed.entry.relativePath
    rawProvenance := some (placed.entry.documentProvenance "")
    rawRowRef := placed.row.rawRowRef
    fieldName := "asset"
    originalValue := placed.row.asset }

/-! ## Reading the rows -/

/-- A sum of rows: `quantity`, the anchors and notes of the rows, and what the first row says. -/
structure RowSum where
  quantity : Decimal
  anchors : List String
  notes : List String
  instrumentId : String
  provenance : ProvenanceLocator

/-- `texts.add(text)`, if the text is not blank. -/
def addText (text : String) (texts : List String) : List String :=
  if text = "" ∨ text ∈ texts then texts else texts ++ [text]

/-- What a turn of the loop makes of a row. -/
inductive RowOutcome
  | skipped
  | reported (issue : IssueRecord) (review : Option NormalizationReviewRecord)
  | summed (key : AggregationKey) (quantity : Decimal)
  deriving DecidableEq

/-- The instrument that the adapter's claims resolve to. -/
def resolvedInstrument (row : StatementDocumentBalanceRow) : Decoded (Option InstrumentRecord) :=
  match resolveInstrumentIdentity env.toKernelEnvironment
      (adapter.resolveStatementInstrumentClaims row) with
  | .ok record => .ok record
  | .error message => .error (.value message)

/-- The outcome of a row whose key was read before or not. -/
def rowOutcome (seen : Bool) (placed : PlacedRow) : Decoded RowOutcome := do
  let locationId ← statementRowLocationId env profile placed.row
  if seen then return .skipped
  else
    match placed.row.quantity, placed.row.asOfAt with
    | some quantity, some asOfAt => do
        match ← resolvedInstrument env adapter placed.row with
        | none =>
            let issue ← instrumentIssue adapter profile placed
            let review ← instrumentReview adapter profile placed
            return .reported issue (some review)
        | some record =>
            return .summed
              { locationId := locationId
                instrumentId := record.instrumentId
                balanceKind := placed.row.balanceKind
                asOfAt := asOfAt
                asOfPrecision := placed.row.asOfPrecision
                provenanceRef := (placed.entry.documentProvenance "").toReferenceRef } quantity
    | _, _ => do
        let issue ← missingQuantityIssue adapter profile placed
        return .reported issue none

/-- The state of the loop.  The last field is not in the source: it keeps what became of each row. -/
structure ReferenceLoop where
  seenRows : List PrecedenceKey
  aggregated : Dict AggregationKey RowSum
  issues : List IssueRecord
  reviews : List NormalizationReviewRecord
  outcomes : List (PlacedRow × RowOutcome)

/-- The sum with one more row. -/
def addRow (placed : PlacedRow) (key : AggregationKey) (quantity : Decimal) (sum : Option RowSum) :
    RowSum :=
  let before := sum.getD
    { quantity := 0
      anchors := []
      notes := []
      instrumentId := key.instrumentId
      provenance := placed.entry.documentProvenance placed.row.rawRowRef }
  { before with
    quantity := before.quantity + quantity
    anchors := addText placed.row.rawRowRef before.anchors
    notes := addText placed.row.notes before.notes }

/-- The state after a row with the given outcome. -/
def ReferenceLoop.push (state : ReferenceLoop) (placed : PlacedRow) (outcome : RowOutcome) :
    ReferenceLoop :=
  let outcomes := state.outcomes ++ [(placed, outcome)]
  match outcome with
  | .skipped => { state with outcomes := outcomes }
  | .reported issue review =>
      { state with
        seenRows := state.seenRows ++ [placed.key]
        issues := state.issues ++ [issue]
        reviews := state.reviews ++ review.toList
        outcomes := outcomes }
  | .summed key quantity =>
      { state with
        seenRows := state.seenRows ++ [placed.key]
        aggregated := state.aggregated.upsert key (addRow placed key quantity)
        outcomes := outcomes }

/-- One turn of the loop over the rows. -/
def referenceStep (state : ReferenceLoop) (placed : PlacedRow) : Decoded ReferenceLoop := do
  let outcome ← rowOutcome env adapter profile (placed.key ∈ state.seenRows) placed
  return state.push placed outcome

/-! ## References -/

/-- `_reference_balance_kind` -/
def referenceBalanceKind (balanceKind : String) : String :=
  if strip balanceKind ∈ ["asset_balance", "cash_closing_balance"] then "available"
  else strip balanceKind

/-- One turn of the loop of `_references_from_aggregated_rows`. -/
def referenceOfSum (key : AggregationKey) (sum : RowSum) : Decoded AcceptedReference := do
  let target ← balanceTarget.build
    { source := profile.source
      locationId := key.locationId
      instrumentId := sum.instrumentId
      balanceKind := referenceBalanceKind key.balanceKind
      targetAt := key.asOfAt
      targetPrecision := key.asOfPrecision }
  let anchors := " + ".intercalate (sortedOn id sum.anchors)
  balanceReference.build
    { target := target
      quantity := sum.quantity
      referenceKind := .sourceDocument
      observedAt := key.asOfAt
      observedPrecision := key.asOfPrecision
      supportRef :=
        { sum.provenance with
          anchor := if anchors ≠ "" then anchors else sum.provenance.anchor }.toReferenceRef
      providerFamily := ""
      providerLocator := ""
      providerBlockRef := ""
      reviewedBy := ""
      reviewedAt := none
      notes := " | ".intercalate (sortedOn id sum.notes) }

/-- `_references_from_aggregated_rows` -/
def referencesFromAggregatedRows (aggregated : Dict AggregationKey RowSum) :
    Decoded (List AcceptedReference) :=
  (sortedOn (fun entry => entry.1.order) aggregated.entries).mapM
    (fun entry => referenceOfSum profile entry.1 entry.2)

/-- What the extraction returns, and what became of the rows. -/
structure StatementBalanceReferenceBatch where
  balanceReferences : List AcceptedReference
  issues : List IssueRecord
  reviews : List NormalizationReviewRecord
  outcomes : List (PlacedRow × RowOutcome)

/-- The rows of the documents, in the order in which they are read. -/
def placedRows (documents : List RecognizedDocument) : List PlacedRow :=
  documents.zipIdx.flatMap (fun document =>
    document.1.2.rows.map (fun row => ⟨document.2, document.1.1, row⟩))

/-- `_balance_references_from_statement_documents` -/
def balanceReferencesFromStatementDocuments (documents : List RecognizedDocument)
    (issues : List IssueRecord) (reviews : List NormalizationReviewRecord) :
    Decoded StatementBalanceReferenceBatch := do
  let state ← (placedRows documents).foldlM (referenceStep env adapter profile)
    ⟨[], Dict.empty, issues, reviews, []⟩
  let references ← referencesFromAggregatedRows profile state.aggregated
  return ⟨references, state.issues, state.reviews, state.outcomes⟩

/-- The selected documents, the ones of higher precedence first. -/
def documentsByPrecedence (selected : List RecognizedDocument) : List RecognizedDocument :=
  (sortedOn (fun document : RecognizedDocument =>
    toLex (documentPrecedenceValue document.2, document.1.relativePath)) selected.reverse).reverse

/-- `extract_source_balance_references_from_collection`, given the selected documents of the
collection, its issues and its reviews. -/
def extractSourceBalanceReferencesFromCollection (selected : List RecognizedDocument)
    (issues : List IssueRecord) (reviews : List NormalizationReviewRecord) :
    Decoded StatementBalanceReferenceBatch :=
  if selected = [] then .ok ⟨[], issues, reviews, []⟩
  else
    balanceReferencesFromStatementDocuments env adapter profile (documentsByPrecedence selected)
      issues reviews

/-! ## What becomes of a row -/

variable {env adapter profile}

/-- A row whose quantity is summed, under a key of its location, instrument and document. -/
structure Summable (env : StatementEnvironment) (adapter : StatementEvidenceAdapter P)
    (profile : StatementProfile) (placed : PlacedRow) (key : AggregationKey) (quantity : Decimal) :
    Prop where
  quantity : placed.row.quantity = some quantity
  asOfAt : placed.row.asOfAt = some key.asOfAt
  location : statementRowLocationId env profile placed.row = .ok key.locationId
  instrument : ∃ record, resolvedInstrument env adapter placed.row = .ok (some record) ∧
    record.instrumentId = key.instrumentId
  balanceKind : placed.row.balanceKind = key.balanceKind
  asOfPrecision : placed.row.asOfPrecision = key.asOfPrecision
  provenanceRef : (placed.entry.documentProvenance "").toReferenceRef = key.provenanceRef

/-- A row that no check stops. -/
structure Readable (env : StatementEnvironment) (adapter : StatementEvidenceAdapter P)
    (profile : StatementProfile) (placed : PlacedRow) : Prop where
  dated : ∀ asOfAt, placed.row.asOfAt = some asOfAt → placed.row.asOfPrecision = .date →
    asOfAt.isMidnight = true
  claimed : placed.row.quantity ≠ none → placed.row.asOfAt ≠ none →
    ∃ record, resolvedInstrument env adapter placed.row = .ok record

lemma rowContextTimestamp_ok_iff {row : StatementDocumentBalanceRow} :
    (∃ text, rowContextTimestamp row = .ok text) ↔
      ∀ asOfAt, row.asOfAt = some asOfAt → row.asOfPrecision = .date →
        asOfAt.isMidnight = true := by
  cases hasOf : row.asOfAt with
  | none =>
      refine iff_of_true ⟨row.asOfText, ?_⟩ (fun _ h => by cases h)
      rw [rowContextTimestamp, hasOf]
  | some asOfAt =>
      rw [rowContextTimestamp, hasOf]
      dsimp only
      rw [requireTemporalDatetime]
      by_cases h : row.asOfPrecision = .date → asOfAt.isMidnight = true
      · rw [dif_pos h]
        exact iff_of_true ⟨_, rfl⟩ (fun other hother => Option.some.inj hother ▸ h)
      · rw [dif_neg h]
        refine iff_of_false ?_ (fun hall => h (hall asOfAt rfl))
        rintro ⟨_, htext⟩
        cases htext

lemma rowOutcome_seen {placed : PlacedRow} {outcome : RowOutcome} :
    rowOutcome env adapter profile true placed = .ok outcome ↔
      (∃ location, statementRowLocationId env profile placed.row = .ok location) ∧
        outcome = .skipped := by
  simp only [rowOutcome, bind_eq_ok_iff, if_true]
  constructor
  · rintro ⟨location, hlocation, houtcome⟩
    cases houtcome
    exact ⟨⟨location, hlocation⟩, rfl⟩
  · rintro ⟨⟨location, hlocation⟩, rfl⟩
    exact ⟨location, hlocation, rfl⟩

/-- The outcome of a row whose key is new. -/
inductive NewOutcome (env : StatementEnvironment) (adapter : StatementEvidenceAdapter P)
    (profile : StatementProfile) (placed : PlacedRow) : RowOutcome → Prop
  | missing (issue : IssueRecord) (hmissing : placed.row.quantity = none ∨ placed.row.asOfAt = none)
      (hissue : missingQuantityIssue adapter profile placed = .ok issue) :
      NewOutcome env adapter profile placed (.reported issue none)
  | unresolved (issue : IssueRecord) (review : NormalizationReviewRecord)
      (hquantity : placed.row.quantity ≠ none) (hasOf : placed.row.asOfAt ≠ none)
      (hresolved : resolvedInstrument env adapter placed.row = .ok none)
      (hissue : instrumentIssue adapter profile placed = .ok issue)
      (hreview : instrumentReview adapter profile placed = .ok review) :
      NewOutcome env adapter profile placed (.reported issue (some review))
  | summed (key : AggregationKey) (quantity : Decimal)
      (h : Summable env adapter profile placed key quantity) :
      NewOutcome env adapter profile placed (.summed key quantity)

lemma rowOutcome_new {placed : PlacedRow} {outcome : RowOutcome} :
    rowOutcome env adapter profile false placed = .ok outcome ↔
      (∃ location, statementRowLocationId env profile placed.row = .ok location) ∧
        NewOutcome env adapter profile placed outcome := by
  simp only [rowOutcome, bind_eq_ok_iff, Bool.false_eq_true, if_false]
  constructor
  · rintro ⟨location, hlocation, houtcome⟩
    refine ⟨⟨location, hlocation⟩, ?_⟩
    split at houtcome
    · rename_i quantity asOfAt hquantity hasOf
      rcases bind_eq_ok_iff.1 houtcome with ⟨resolved, hresolved, houtcome⟩
      cases resolved with
      | none =>
          simp only [bind_eq_ok_iff] at houtcome
          rcases houtcome with ⟨issue, hissue, review, hreview, houtcome⟩
          cases houtcome
          refine .unresolved issue review ?_ ?_ hresolved hissue hreview
          · rw [hquantity]
            exact Option.some_ne_none _
          · rw [hasOf]
            exact Option.some_ne_none _
      | some record =>
          cases houtcome
          exact .summed _ _ ⟨hquantity, hasOf, hlocation, ⟨record, hresolved, rfl⟩, rfl, rfl, rfl⟩
    · rename_i hnot
      simp only [bind_eq_ok_iff] at houtcome
      rcases houtcome with ⟨issue, hissue, houtcome⟩
      cases houtcome
      refine .missing issue ?_ hissue
      by_contra hsome
      rcases not_or.1 hsome with ⟨hquantity, hasOf⟩
      rcases Option.ne_none_iff_exists'.1 hquantity with ⟨quantity, hquantity⟩
      rcases Option.ne_none_iff_exists'.1 hasOf with ⟨asOfAt, hasOf⟩
      exact hnot quantity asOfAt hquantity hasOf
  · rintro ⟨⟨location, hlocation⟩, hnew⟩
    refine ⟨location, hlocation, ?_⟩
    cases hnew with
    | missing issue hmissing hissue =>
        split
        · rename_i quantity asOfAt hquantity hasOf
          rcases hmissing with hmissing | hmissing
          · rw [hquantity] at hmissing
            cases hmissing
          · rw [hasOf] at hmissing
            cases hmissing
        · exact bind_eq_ok_iff.2 ⟨issue, hissue, rfl⟩
    | unresolved issue review hquantity hasOf hresolved hissue hreview =>
        split
        · refine bind_eq_ok_iff.2 ⟨none, hresolved, ?_⟩
          exact bind_eq_ok_iff.2 ⟨issue, hissue, bind_eq_ok_iff.2 ⟨review, hreview, rfl⟩⟩
        · rename_i hnot
          rcases Option.ne_none_iff_exists'.1 hquantity with ⟨quantity, hquantity⟩
          rcases Option.ne_none_iff_exists'.1 hasOf with ⟨asOfAt, hasOf⟩
          exact absurd hasOf (hnot quantity asOfAt hquantity)
    | summed key quantity h =>
        rcases h.instrument with ⟨record, hrecord, hinstrument⟩
        have hsame : location = key.locationId := Except.ok.inj (hlocation.symm.trans h.location)
        split
        · rename_i quantity' asOfAt hquantity hasOf
          have hquantity' := Option.some.inj (hquantity.symm.trans h.quantity)
          have hasOf' := Option.some.inj (hasOf.symm.trans h.asOfAt)
          refine bind_eq_ok_iff.2 ⟨some record, hrecord, ?_⟩
          subst hquantity' hasOf' hsame
          dsimp only
          rw [h.balanceKind, h.asOfPrecision, h.provenanceRef, hinstrument]
          rfl
        · rename_i hnot
          exact absurd h.asOfAt (hnot quantity key.asOfAt h.quantity)

/-- A located row whose key is new has an outcome unless a check stops it. -/
lemma exists_rowOutcome {placed : PlacedRow} {location : String}
    (hlocation : statementRowLocationId env profile placed.row = .ok location)
    (hreadable : Readable env adapter profile placed) :
    ∃ outcome, rowOutcome env adapter profile false placed = .ok outcome := by
  rcases rowContextTimestamp_ok_iff.2 hreadable.dated with ⟨text, htext⟩
  have hmissing : ∃ issue, missingQuantityIssue adapter profile placed = .ok issue :=
    ⟨_, bind_eq_ok_iff.2 ⟨text, htext, rfl⟩⟩
  have hissue : ∃ issue, instrumentIssue adapter profile placed = .ok issue :=
    ⟨_, bind_eq_ok_iff.2 ⟨text, htext, rfl⟩⟩
  have hreview : ∃ review, instrumentReview adapter profile placed = .ok review :=
    ⟨_, bind_eq_ok_iff.2 ⟨text, htext, rfl⟩⟩
  rcases hmissing with ⟨missing, hmissing⟩
  rcases hissue with ⟨issue, hissue⟩
  rcases hreview with ⟨review, hreview⟩
  cases hquantity : placed.row.quantity with
  | none => exact ⟨_, rowOutcome_new.2 ⟨⟨location, hlocation⟩, .missing missing (Or.inl hquantity) hmissing⟩⟩
  | some quantity =>
      cases hasOf : placed.row.asOfAt with
      | none => exact ⟨_, rowOutcome_new.2 ⟨⟨location, hlocation⟩, .missing missing (Or.inr hasOf) hmissing⟩⟩
      | some asOfAt =>
          have hquantity' : placed.row.quantity ≠ none := by simp [hquantity]
          have hasOf' : placed.row.asOfAt ≠ none := by simp [hasOf]
          rcases hreadable.claimed hquantity' hasOf' with ⟨resolved, hresolved⟩
          cases resolved with
          | none =>
              exact ⟨_, rowOutcome_new.2 ⟨⟨location, hlocation⟩,
                .unresolved issue review hquantity' hasOf' hresolved hissue hreview⟩⟩
          | some record =>
              refine ⟨_, rowOutcome_new.2 ⟨⟨location, hlocation⟩, .summed
                ⟨location, record.instrumentId, placed.row.balanceKind, asOfAt,
                  placed.row.asOfPrecision,
                  (placed.entry.documentProvenance "").toReferenceRef⟩ quantity
                ⟨hquantity, hasOf, hlocation, ⟨record, hresolved, rfl⟩, rfl, rfl, rfl⟩⟩⟩

lemma claimed_of_new {placed : PlacedRow} {outcome : RowOutcome}
    (h : NewOutcome env adapter profile placed outcome) (hquantity : placed.row.quantity ≠ none)
    (hasOf : placed.row.asOfAt ≠ none) :
    ∃ record, resolvedInstrument env adapter placed.row = .ok record := by
  cases h with
  | missing issue hmissing hissue =>
      rcases hmissing with hmissing | hmissing
      · exact absurd hmissing hquantity
      · exact absurd hmissing hasOf
  | unresolved issue review _ _ hresolved => exact ⟨none, hresolved⟩
  | summed key quantity h =>
      rcases h.instrument with ⟨record, hrecord, _⟩
      exact ⟨some record, hrecord⟩

lemma dated_of_reported {placed : PlacedRow} {issue : IssueRecord}
    {review : Option NormalizationReviewRecord}
    (h : NewOutcome env adapter profile placed (.reported issue review)) :
    ∀ asOfAt, placed.row.asOfAt = some asOfAt → placed.row.asOfPrecision = .date →
      asOfAt.isMidnight = true := by
  apply rowContextTimestamp_ok_iff.1
  cases h with
  | missing _ _ hissue =>
      rcases bind_eq_ok_iff.1 hissue with ⟨text, htext, _⟩
      exact ⟨text, htext⟩
  | unresolved _ _ _ _ _ hissue =>
      rcases bind_eq_ok_iff.1 hissue with ⟨text, htext, _⟩
      exact ⟨text, htext⟩

/-! ## Runs of the loop -/

/-- The outcomes of rows that are read in turn. -/
inductive Reads (env : StatementEnvironment) (adapter : StatementEvidenceAdapter P)
    (profile : StatementProfile) : List PlacedRow → List (PlacedRow × RowOutcome) → Prop
  | nil : Reads env adapter profile [] []
  | snoc {rows : List PlacedRow} {outcomes : List (PlacedRow × RowOutcome)} {placed : PlacedRow}
      {outcome : RowOutcome} (hreads : Reads env adapter profile rows outcomes)
      (houtcome : rowOutcome env adapter profile (placed.key ∈ rows.map PlacedRow.key) placed =
        .ok outcome) :
      Reads env adapter profile (rows ++ [placed]) (outcomes ++ [(placed, outcome)])

/-- The state of the loop after rows with the given outcomes. -/
def stateAfter (issues : List IssueRecord) (reviews : List NormalizationReviewRecord)
    (outcomes : List (PlacedRow × RowOutcome)) : ReferenceLoop :=
  outcomes.foldl (fun state outcome => state.push outcome.1 outcome.2)
    ⟨[], Dict.empty, issues, reviews, []⟩

lemma stateAfter_snoc (issues : List IssueRecord) (reviews : List NormalizationReviewRecord)
    (outcomes : List (PlacedRow × RowOutcome)) (outcome : PlacedRow × RowOutcome) :
    stateAfter issues reviews (outcomes ++ [outcome]) =
      (stateAfter issues reviews outcomes).push outcome.1 outcome.2 := by
  simp [stateAfter]

lemma seenRows_push (state : ReferenceLoop) (placed : PlacedRow) (outcome : RowOutcome) :
    (state.push placed outcome).seenRows =
      if outcome = .skipped then state.seenRows else state.seenRows ++ [placed.key] := by
  cases outcome <;> simp [ReferenceLoop.push]

/-- The keys that were seen are the keys of the rows. -/
lemma mem_seenRows {rows : List PlacedRow} {outcomes : List (PlacedRow × RowOutcome)}
    (h : Reads env adapter profile rows outcomes) (issues : List IssueRecord)
    (reviews : List NormalizationReviewRecord) (key : PrecedenceKey) :
    key ∈ (stateAfter issues reviews outcomes).seenRows ↔ key ∈ rows.map PlacedRow.key := by
  induction h with
  | nil => simp [stateAfter]
  | @snoc rows outcomes placed outcome hreads houtcome ih =>
      rw [stateAfter_snoc, seenRows_push, List.map_append, List.mem_append, ← ih]
      by_cases hskipped : outcome = .skipped
      · -- A skipped row has the key of a row before it.
        have hseen : placed.key ∈ rows.map PlacedRow.key := by
          by_contra hnew
          rw [decide_eq_false hnew, hskipped] at houtcome
          cases (rowOutcome_new.1 houtcome).2
        rw [if_pos hskipped]
        constructor
        · exact Or.inl
        · rintro (h | h)
          · exact h
          · rw [List.map_singleton, List.mem_singleton] at h
            rw [ih, h]
            exact hseen
      · rw [if_neg hskipped, List.mem_append]
        rfl

/-- The loop returns the state after the outcomes of the rows. -/
lemma foldlM_referenceStep (issues : List IssueRecord) (reviews : List NormalizationReviewRecord)
    (rows : List PlacedRow) (state : ReferenceLoop) :
    rows.foldlM (referenceStep env adapter profile) ⟨[], Dict.empty, issues, reviews, []⟩ =
        .ok state ↔
      ∃ outcomes, Reads env adapter profile rows outcomes ∧
        state = stateAfter issues reviews outcomes := by
  induction rows using List.reverseRecOn generalizing state with
  | nil =>
      constructor
      · intro h
        cases h
        exact ⟨[], .nil, rfl⟩
      · rintro ⟨outcomes, hreads, rfl⟩
        generalize hrows : ([] : List PlacedRow) = rows at hreads
        cases hreads with
        | nil => rfl
        | snoc => simp at hrows
  | append_singleton rows placed ih =>
      rw [List.foldlM_append, bind_eq_ok_iff]
      constructor
      · rintro ⟨before, hbefore, hstep⟩
        rcases (ih before).1 hbefore with ⟨outcomes, hreads, rfl⟩
        rw [List.foldlM_cons, bind_eq_ok_iff] at hstep
        rcases hstep with ⟨after, hstep, hafter⟩
        cases hafter
        rcases bind_eq_ok_iff.1 hstep with ⟨outcome, houtcome, hpush⟩
        cases hpush
        rw [decide_eq_decide.2 (mem_seenRows hreads issues reviews placed.key)] at houtcome
        exact ⟨_, .snoc hreads houtcome,
          (stateAfter_snoc issues reviews outcomes (placed, outcome)).symm⟩
      · rintro ⟨all, hreads, rfl⟩
        generalize hrows : rows ++ [placed] = rows' at hreads
        cases hreads with
        | nil => simp at hrows
        | @snoc before outcomes last outcome hreads houtcome =>
            rcases List.append_inj' hrows rfl with ⟨rfl, hlast⟩
            cases hlast
            refine ⟨stateAfter issues reviews outcomes, (ih _).2 ⟨outcomes, hreads, rfl⟩, ?_⟩
            rw [List.foldlM_cons, bind_eq_ok_iff]
            refine ⟨_, bind_eq_ok_iff.2 ⟨outcome, ?_, rfl⟩, ?_⟩
            · rw [decide_eq_decide.2 (mem_seenRows hreads issues reviews placed.key)]
              exact houtcome
            · rw [stateAfter_snoc]
              rfl

end

end Evidence
end Tallylot
