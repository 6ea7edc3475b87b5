import Tallylot.Data.Dict
import Tallylot.Data.Parts
import Tallylot.Data.Sorted
import Tallylot.Submission.Rows

/-!
# Validation — the checks of a manual balance submission

The files are read under fixed headers, each row is checked, and the rows of a file are compared with
each other by the texts of their cells, and with those of the other file by their parsed values.  A
submission is blocked by any issue.

`validate_ok_iff` says when the validation raises, and `clean_of_validated` what a validation without
issues says of the rows.
-/

namespace Tallylot
namespace Submission

open Data Domain Balances

/-! ## Files -/

def balanceSnapshotsFilename : String := "balance_snapshots.csv"

def balanceSnapshotsHeader : List String :=
  ["source", "account", "wallet", "instrument_id", "quantity", "target_at", "target_precision",
    "balance_kind", "notes"]

def balanceReferencesHeader : List String :=
  ["source", "account", "wallet", "instrument_id", "quantity", "target_at", "target_precision",
    "balance_kind", "reference_kind", "observed_at", "observed_precision", "support_ref",
    "reviewed_by", "reviewed_at", "notes"]

def locationInventoryHeader : List String :=
  ["source", "account", "wallet", "identifier_kind", "identifier_value", "network_scope",
    "controller", "confidence", "notes"]

/-- A file as `csv.reader` gives it. -/
structure SubmissionFile where
  header : List String
  rawRows : List (List String)

/-- The files of a submission, where they are there. -/
structure SubmissionPackage where
  balanceSnapshots : Option SubmissionFile
  balanceReferences : Option SubmissionFile
  locationInventory : Option SubmissionFile

abbrev NumberedRow : Type := Nat × Row

/-- The text of a tuple of texts. -/
def tupleText (values : List String) : String :=
  "(" ++ ", ".intercalate (values.map (fun value => "'" ++ value ++ "'")) ++ ")"

/-- The cells of a row by their fields; cells that are missing are blank. -/
def rowOfCells (header rawRow : List String) : Row :=
  header.zipIdx.map (fun field => (field.1, rawRow.getD field.2 ""))

/-- `_read_rows` -/
def readRows (fileName : String) (header : List String) (file : SubmissionFile) :
    Reported (List NumberedRow) :=
  if file.header ≠ header then
    ([⟨fileName, "1", "", "invalid_header",
      "Header mismatch for " ++ fileName ++ ". Expected " ++ tupleText header ++ " but found " ++
        tupleText file.header ++ "."⟩], [])
  else
    let numbered := file.rawRows.zipIdx 2
    ((numbered.filter (fun raw => raw.1.drop header.length ≠ [])).map (fun raw =>
        rowIssue fileName raw.2 "" "unexpected_extra_value"
          (fileName ++ " row has unexpected extra values beyond the declared header.")),
      numbered.map (fun raw => (raw.2, rowOfCells header raw.1)))

/-- `_read_required_rows` -/
def readRequiredRows (fileName : String) (header : List String) :
    Option SubmissionFile → Reported (List NumberedRow)
  | some file => readRows fileName header file
  | none =>
      ([⟨fileName, "", "", "missing_required_file",
        "Required submission file is missing: " ++ fileName⟩], [])

/-- `_read_optional_rows` -/
def readOptionalRows (fileName : String) (header : List String) :
    Option SubmissionFile → Reported (List NumberedRow)
  | some file => readRows fileName header file
  | none => ([], [])

/-- `_has_required_file_issue` -/
def hasRequiredFileIssue (issues : List BalanceSubmissionIssue) (fileName : String) : Bool :=
  issues.any (fun issue =>
    issue.fileName = fileName ∧ issue.issueKind ∈ ["missing_required_file", "invalid_header"])

/-! ## Rows of a file against each other -/

/-- The rows seen so far under their keys, and the issues. -/
structure DuplicateScan where
  seen : Dict (List String) Nat
  issues : List BalanceSubmissionIssue

def duplicateKey (fields : List String) (row : Row) : List String := fields.map (cell row)

/-- The step of `collect_duplicate_rows`; a row of blank cells has no key. -/
def DuplicateScan.add (fileName : String) (fields : List String) (scan : DuplicateScan)
    (row : NumberedRow) : DuplicateScan :=
  let key := duplicateKey fields row.2
  if ∀ text ∈ key, text = "" then scan
  else
    match scan.seen.get? key with
    | none => { scan with seen := scan.seen.set key row.1 }
    | some firstRow =>
        { scan with
          issues := scan.issues ++ [rowIssue fileName row.1 "" "duplicate_row"
            ("Row duplicates the logical key first seen on row " ++ toString firstRow ++ ".")] }

/-- `collect_duplicate_rows` -/
def collectDuplicateRows (fileName : String) (rows : List NumberedRow) (fields : List String) :
    List BalanceSubmissionIssue :=
  (rows.foldl (DuplicateScan.add fileName fields) ⟨.empty, []⟩).issues

def balanceKeyFields : List String :=
  ["source", "account", "wallet", "instrument_id", "target_at", "target_precision", "balance_kind"]

def locationKeyFields : List String :=
  ["source", "account", "wallet", "identifier_kind", "identifier_value", "network_scope"]

/-! ## Snapshots against references -/

/-- `_LogicalBalanceKey` -/
structure LogicalBalanceKey where
  source : String
  account : String
  wallet : String
  instrumentId : String
  quantity : Decimal
  asOfAt : Instant
  asOfPrecision : TemporalPrecision
  balanceKind : String
  deriving DecidableEq, Repr

/-- `_logical_balance_key` -/
def logicalBalanceKey (row : BalanceSnapshotSubmissionRow) : LogicalBalanceKey where
  source := row.source
  account := row.account
  wallet := row.wallet
  instrumentId := row.instrumentId
  quantity := row.quantity
  asOfAt := row.targetAt
  asOfPrecision := row.targetPrecision
  balanceKind := row.balanceKind

/-- The keys that stand once on one side and not at all on the other.  The issues do not name their
keys, so that the order of the keys does not show. -/
def unmatchedKeys (counts others : Dict LogicalBalanceKey Nat) : List LogicalBalanceKey :=
  counts.keys.filter (fun key => (counts.get? key).getD 0 = 1 ∧ (others.get? key).getD 0 = 0)

/-- `collect_balance_reference_mismatches` -/
def collectBalanceReferenceMismatches (balanceRows : List BalanceSnapshotSubmissionRow)
    (referenceRows : List BalanceReferenceSubmissionRow) : List BalanceSubmissionIssue :=
  let balanceCounts := Dict.tally logicalBalanceKey balanceRows
  let referenceCounts := Dict.tally (fun row => logicalBalanceKey row.toBalanceSnapshotSubmissionRow)
    referenceRows
  (unmatchedKeys balanceCounts referenceCounts).map (fun _ =>
      ⟨balanceSnapshotsFilename, "", "", "missing_matching_reference",
        "Each balance_snapshots.csv row must have exactly one " ++
          "matching balance_references.csv row."⟩) ++
    (unmatchedKeys referenceCounts balanceCounts).map (fun _ =>
      ⟨balanceReferencesFilename, "", "", "orphan_reference",
        "Each balance_references.csv row must match exactly one balance_snapshots.csv row."⟩)

/-! ## Conflicting locations -/

/-- Source, account and wallet, in the order in which they compare. -/
abbrev LogicalLocation : Type := String ×ₗ String ×ₗ String

def logicalLocation (row : LocationInventorySubmissionRow) : LogicalLocation :=
  toLex (row.source, toLex (row.account, row.wallet))

/-- `collect_location_inventory_conflicts` -/
def collectLocationInventoryConflicts (lower : String → String)
    (rows : List LocationInventorySubmissionRow) : List BalanceSubmissionIssue :=
  let highConfidenceRows := rows.filter (fun row => lower (strip row.confidence) = "high")
  let highConfidenceKeys := Dict.group logicalLocation highConfidenceRows
  let conflicting := (sortedOn id highConfidenceKeys.keys).filter (fun location =>
    1 < (((highConfidenceKeys.get? location).getD []).map (fun row =>
      (row.identifierKind, row.identifierValue, row.networkScope))).dedup.length)
  conflicting.map (fun location =>
    ⟨locationInventoryFilename, "", "confidence", "conflicting_high_confidence_identity",
      "More than one high-confidence identity row maps to the same logical location " ++
        (ofLex location).1 ++ "/" ++ (ofLex (ofLex location).2).1 ++ "/" ++
          (ofLex (ofLex location).2).2 ++ "."⟩)

/-! ## The validation -/

structure BalanceSubmissionValidationResult where
  balanceSnapshotRows : List BalanceSnapshotSubmissionRow
  balanceReferenceRows : List BalanceReferenceSubmissionRow
  locationInventoryRows : List LocationInventorySubmissionRow
  issues : List BalanceSubmissionIssue

/-- The issues of all rows, and the rows that were parsed. -/
def gathered {α : Type} (rows : List (Reported (Option α))) : Reported (List α) :=
  (rows.flatMap Prod.fst, rows.filterMap Prod.snd)

/-- `validate_balance_rows` -/
def validateBalanceRows (rows : List NumberedRow) (expectedSource : String) :
    Decoded (Reported (List BalanceSnapshotSubmissionRow)) := do
  let checked ← rows.mapM (fun row =>
    validateBalanceLikeRow balanceSnapshotsFilename row.1 row.2 expectedSource)
  return gathered checked

/-- `validate_balance_reference_rows` -/
def validateBalanceReferenceRows (rows : List NumberedRow) (expectedSource : String) :
    Decoded (Reported (List BalanceReferenceSubmissionRow)) := do
  let checked ← rows.mapM (fun row => validateBalanceReferenceRow row.1 row.2 expectedSource)
  return gathered checked

/-- `validate_location_inventory_rows` -/
def validateLocationInventoryRows (lower : String → String) (rows : List NumberedRow)
    (expectedSource : String) : Reported (List LocationInventorySubmissionRow) :=
  gathered (rows.map (fun row => validateLocationInventoryRow lower row.1 row.2 expectedSource))

namespace SubmissionPackage

/-- The rows of the snapshot file, with the issues of reading it. -/
def snapshotRows (package : SubmissionPackage) : Reported (List NumberedRow) :=
  readRequiredRows balanceSnapshotsFilename balanceSnapshotsHeader package.balanceSnapshots

def referenceRows (package : SubmissionPackage) : Reported (List NumberedRow) :=
  readRequiredRows balanceReferencesFilename balanceReferencesHeader package.balanceReferences

def locationRows (package : SubmissionPackage) : Reported (List NumberedRow) :=
  readOptionalRows locationInventoryFilename locationInventoryHeader package.locationInventory

end SubmissionPackage

/-- The issues of reading, of the rows and of the rows of each file against each other. -/
def fileIssues (lower : String → String) (package : SubmissionPackage)
    (parsedBalances : Reported (List BalanceSnapshotSubmissionRow))
    (parsedReferences : Reported (List BalanceReferenceSubmissionRow))
    (parsedLocations : Reported (List LocationInventorySubmissionRow)) :
    List BalanceSubmissionIssue :=
  package.snapshotRows.1 ++ package.referenceRows.1 ++ package.locationRows.1 ++
    parsedBalances.1 ++ parsedReferences.1 ++ parsedLocations.1 ++
    collectDuplicateRows balanceSnapshotsFilename package.snapshotRows.2 balanceKeyFields ++
    collectDuplicateRows balanceReferencesFilename package.referenceRows.2 balanceKeyFields ++
    collectDuplicateRows locationInventoryFilename package.locationRows.2 locationKeyFields ++
    collectLocationInventoryConflicts lower parsedLocations.2

/-- `validate_balance_submission` -/
def validateBalanceSubmission (lower : String → String) (package : SubmissionPackage)
    (expectedSource : String) : Decoded BalanceSubmissionValidationResult := do
  let parsedBalances ← validateBalanceRows package.snapshotRows.2 expectedSource
  let parsedReferences ← validateBalanceReferenceRows package.referenceRows.2 expectedSource
  let parsedLocations := validateLocationInventoryRows lower package.locationRows.2 expectedSource
  let issues := fileIssues lower package parsedBalances parsedReferences parsedLocations
  let mismatches :=
    if hasRequiredFileIssue issues balanceSnapshotsFilename ∨
        hasRequiredFileIssue issues balanceReferencesFilename then []
    else collectBalanceReferenceMismatches parsedBalances.2 parsedReferences.2
  return ⟨parsedBalances.2, parsedReferences.2, parsedLocations.2, issues ++ mismatches⟩

/-! ## Rows without issues -/

section Gathered

variable {α β : Type} {check : α → Decoded (Reported (Option β))} {rows : List α}

/-- Where every check without issues parses its row, rows without issues are all parsed. -/
lemma forall₂_gathered {good : α → β → Prop} {checked : List (Reported (Option β))}
    (hchecked : rows.mapM check = .ok checked) (hclean : (gathered checked).1 = [])
    (hgood : ∀ row ∈ rows, ∀ result, check row = .ok result → result.1 = [] →
      ∃ parsed, result.2 = some parsed ∧ good row parsed) :
    List.Forall₂ good rows (gathered checked).2 := by
  rcases mapM_ok_pairs hchecked with ⟨pairs, rfl, rfl, hpairs⟩
  clear hchecked
  induction pairs with
  | nil => exact List.Forall₂.nil
  | cons p pairs ih =>
      simp only [gathered, List.map_cons, List.flatMap_cons, List.append_eq_nil_iff] at hclean
      rcases hgood p.1 (by simp) p.2 (hpairs p List.mem_cons_self) hclean.1 with
        ⟨parsed, hparsed, hrow⟩
      have hrest := ih (fun row hrow => hgood row (List.mem_cons_of_mem _ hrow))
        (fun q hq => hpairs q (List.mem_cons_of_mem _ hq)) hclean.2
      simp only [gathered, List.map_cons, List.filterMap_cons, hparsed]
      exact List.Forall₂.cons hrow hrest

end Gathered

/-! ## Keys without duplicates -/

section Duplicates

variable {fileName : String} {fields : List String}

lemma add_new {scan : DuplicateScan} {row : NumberedRow}
    (hkey : ¬∀ text ∈ duplicateKey fields row.2, text = "")
    (hclean : (scan.add fileName fields row).issues = []) :
    scan.issues = [] ∧ scan.seen.get? (duplicateKey fields row.2) = none ∧
      (scan.add fileName fields row).seen = scan.seen.set (duplicateKey fields row.2) row.1 := by
  unfold DuplicateScan.add at hclean ⊢
  dsimp only at hclean ⊢
  rw [if_neg hkey] at hclean ⊢
  cases hseen : scan.seen.get? (duplicateKey fields row.2) with
  | none =>
      rw [hseen] at hclean
      exact ⟨hclean, rfl, rfl⟩
  | some firstRow =>
      rw [hseen] at hclean
      exact absurd (List.append_eq_nil_iff.1 hclean).2 (List.cons_ne_nil _ _)

/-- A scan that reports nothing has met every key once. -/
lemma nodup_of_scan {rows : List NumberedRow}
    (hkeys : ∀ row ∈ rows, ¬∀ text ∈ duplicateKey fields row.2, text = "") :
    ∀ scan : DuplicateScan, (rows.foldl (DuplicateScan.add fileName fields) scan).issues = [] →
      scan.issues = [] ∧ (rows.map (fun row => duplicateKey fields row.2)).Nodup ∧
        ∀ row ∈ rows, scan.seen.get? (duplicateKey fields row.2) = none := by
  induction rows with
  | nil => exact fun scan hclean => ⟨hclean, List.nodup_nil, by simp⟩
  | cons row rows ih =>
      intro scan hclean
      rw [List.foldl_cons] at hclean
      rcases ih (fun other hother => hkeys other (List.mem_cons_of_mem _ hother)) _ hclean with
        ⟨hstep, hnodup, hfresh⟩
      rcases add_new (hkeys row List.mem_cons_self) hstep with ⟨hissues, hnew, hseen⟩
      rw [hseen] at hfresh
      have hother : ∀ other ∈ rows, duplicateKey fields other.2 ≠ duplicateKey fields row.2 ∧
          scan.seen.get? (duplicateKey fields other.2) = none := by
        intro other hother
        have hget := hfresh other hother
        rw [Dict.get?_set] at hget
        split_ifs at hget with hsame
        exact ⟨hsame, hget⟩
      refine ⟨hissues, ?_, ?_⟩
      · rw [List.map_cons, List.nodup_cons]
        refine ⟨?_, hnodup⟩
        intro hmem
        rcases List.mem_map.1 hmem with ⟨other, hmem, hsame⟩
        exact (hother other hmem).1 hsame
      · intro other hmem
        rcases List.mem_cons.1 hmem with rfl | hmem
        · exact hnew
        · exact (hother other hmem).2

theorem nodup_of_collectDuplicateRows {rows : List NumberedRow}
    (hkeys : ∀ row ∈ rows, ¬∀ text ∈ duplicateKey fields row.2, text = "")
    (hclean : collectDuplicateRows fileName rows fields = []) :
    (rows.map (fun row => duplicateKey fields row.2)).Nodup :=
  (nodup_of_scan hkeys _ hclean).2.1

end Duplicates

/-! ## Keys that stand on both sides -/

/-- Without unmatched keys, a key that stands once on one side stands on the other. -/
lemma matched_of_unmatchedKeys {α β : Type} {key : α → LogicalBalanceKey} {key' : β → LogicalBalanceKey}
    {xs : List α} {ys : List β} (h : unmatchedKeys (Dict.tally key xs) (Dict.tally key' ys) = [])
    (hnodup : (xs.map key).Nodup) {x : α} (hx : x ∈ xs) : ∃ y ∈ ys, key' y = key x := by
  have honce : xs.countP (fun y => key y = key x) = 1 := by
    have hcount := List.count_eq_one_of_mem hnodup (List.mem_map_of_mem hx)
    rw [List.count_eq_countP, List.countP_map] at hcount
    rw [← hcount]
    exact List.countP_congr (fun y _ => by simp)
  have hnot := List.filter_eq_nil_iff.1 h (key x)
    ((Dict.mem_keys_tally key xs _).2 (List.mem_map_of_mem hx))
  rw [Dict.getD_get?_tally, Dict.getD_get?_tally, honce] at hnot
  have hpos : 0 < ys.countP (fun y => key' y = key x) := by
    rw [Nat.pos_iff_ne_zero]
    intro hzero
    exact hnot (by simp [hzero])
  simpa using List.countP_pos_iff.1 hpos

/-! ## What a validation says -/

/-- A row of which the constructor of its parsed row refuses the quantity. -/
def Refused (expectedSource : String) (row : NumberedRow) : Prop :=
  CellsPass row.2 expectedSource ∧ isNonFiniteText (cell row.2 "quantity") = true

/-- What a validation without issues says of the rows. -/
structure Clean (lower : String → String) (package : SubmissionPackage) (expectedSource : String)
    (result : BalanceSubmissionValidationResult) : Prop where
  snapshots : List.Forall₂ (fun row parsed => ParsedFrom row.2 expectedSource parsed)
    package.snapshotRows.2 result.balanceSnapshotRows
  references : List.Forall₂ (fun row parsed => ReferenceParsedFrom row.2 expectedSource parsed)
    package.referenceRows.2 result.balanceReferenceRows
  locations : ∀ row ∈ result.locationInventoryRows, ∃ location,
    locationIdFromParts lower [row.source, row.account, row.wallet] = .ok location
  snapshotKeys :
    (package.snapshotRows.2.map (fun row => duplicateKey balanceKeyFields row.2)).Nodup
  referenceKeys :
    (package.referenceRows.2.map (fun row => duplicateKey balanceKeyFields row.2)).Nodup
  mismatches :
    collectBalanceReferenceMismatches result.balanceSnapshotRows result.balanceReferenceRows = []

section Validated

variable {lower : String → String} {package : SubmissionPackage} {expectedSource : String}

/-- The validation raises exactly on a quantity that the constructor of a row refuses. -/
theorem validateBalanceSubmission_ok_iff :
    (∃ result, validateBalanceSubmission lower package expectedSource = .ok result) ↔
      ∀ row ∈ package.snapshotRows.2 ++ package.referenceRows.2, ¬Refused expectedSource row := by
  constructor
  · rintro ⟨result, h⟩
    simp only [validateBalanceSubmission, validateBalanceRows, validateBalanceReferenceRows,
      bind_eq_ok_iff] at h
    rcases h with ⟨_, ⟨snapshots, hsnapshots, _⟩, _, ⟨references, hreferences, _⟩, _⟩
    rcases mapM_ok_pairs hsnapshots with ⟨pairs, hrows, _, hpairs⟩
    rcases mapM_ok_pairs hreferences with ⟨pairs', hrows', _, hpairs'⟩
    intro row hrow hrefused
    rcases List.mem_append.1 hrow with hrow | hrow
    · rw [← hrows] at hrow
      rcases List.mem_map.1 hrow with ⟨⟨row, result⟩, hp, rfl⟩
      have houtcome := @validateBalanceLikeRow_outcome balanceSnapshotsFilename row.1 row.2
        expectedSource
      rw [hpairs _ hp] at houtcome
      cases houtcome with
      | parsed parsed hparsed hfinite => simp [hfinite, Refused] at hrefused
      | reported issues hissues hfails => exact hfails hrefused
    · rw [← hrows'] at hrow
      rcases List.mem_map.1 hrow with ⟨p, hp, rfl⟩
      rcases @validateBalanceReferenceRow_outcome p.1.1 p.1.2 expectedSource with
        ⟨⟨e, he⟩, _⟩ | ⟨_, hfails⟩
      · rw [hpairs' p hp] at he
        cases he
      · exact hfails hrefused
  · intro h
    have hsnapshots : ∀ row ∈ package.snapshotRows.2, ∃ result,
        validateBalanceLikeRow balanceSnapshotsFilename row.1 row.2 expectedSource = .ok result := by
      intro row hrow
      have houtcome := @validateBalanceLikeRow_outcome balanceSnapshotsFilename row.1 row.2
        expectedSource
      generalize validateBalanceLikeRow balanceSnapshotsFilename row.1 row.2 expectedSource = result
        at houtcome ⊢
      cases houtcome with
      | refused e hpass hspecial =>
          exact absurd ⟨hpass, hspecial⟩ (h row (List.mem_append_left _ hrow))
      | parsed parsed hparsed hfinite => exact ⟨_, rfl⟩
      | reported issues hissues hfails => exact ⟨_, rfl⟩
    have hreferences : ∀ row ∈ package.referenceRows.2, ∃ result,
        validateBalanceReferenceRow row.1 row.2 expectedSource = .ok result := by
      intro row hrow
      rcases @validateBalanceReferenceRow_outcome row.1 row.2 expectedSource with
        ⟨_, hrefused⟩ | ⟨⟨result, hresult, _⟩, _⟩
      · exact absurd hrefused (h row (List.mem_append_right _ hrow))
      · exact ⟨result, hresult⟩
    rcases exists_mapM_ok hsnapshots with ⟨snapshots, hsnapshots⟩
    rcases exists_mapM_ok hreferences with ⟨references, hreferences⟩
    simp only [validateBalanceSubmission, validateBalanceRows, validateBalanceReferenceRows,
      bind_eq_ok_iff]
    exact ⟨_, _, ⟨snapshots, hsnapshots, rfl⟩, _, ⟨references, hreferences, rfl⟩, rfl⟩

/-- A parsed row has a key of texts that are not blank. -/
lemma duplicateKey_filled {row : Row} {parsed : BalanceSnapshotSubmissionRow}
    (h : ParsedFrom row expectedSource parsed) :
    ¬∀ text ∈ duplicateKey balanceKeyFields row, text = "" := by
  intro hblank
  refine h.filled "source" (by decide) (hblank _ (List.mem_map_of_mem ?_))
  decide

theorem clean_of_validated {result : BalanceSubmissionValidationResult}
    (hvalidated : validateBalanceSubmission lower package expectedSource = .ok result)
    (hclean : result.issues = []) : Clean lower package expectedSource result := by
  simp only [validateBalanceSubmission, validateBalanceRows, validateBalanceReferenceRows,
    bind_eq_ok_iff] at hvalidated
  rcases hvalidated with ⟨_, ⟨snapshots, hsnapshots, hgathered⟩, _, ⟨references, hreferences,
    hgathered'⟩, hresult⟩
  cases hgathered
  cases hgathered'
  cases hresult
  rcases List.append_eq_nil_iff.1 hclean with ⟨hissues, hmismatches⟩
  rw [hissues] at hmismatches
  have hmatched : collectBalanceReferenceMismatches (gathered snapshots).2 (gathered references).2 = [] :=
    hmismatches
  simp only [fileIssues, List.append_eq_nil_iff, and_assoc] at hissues
  rcases hissues with ⟨_, _, _, hsnapshotRows, hreferenceRows, hlocationRows, hsnapshotKeys,
    hreferenceKeys, _, _⟩
  have hparsedSnapshots : List.Forall₂ (fun row parsed => ParsedFrom row.2 expectedSource parsed)
      package.snapshotRows.2 (gathered snapshots).2 := by
    refine forall₂_gathered hsnapshots hsnapshotRows ?_
    rintro row - result hresult hclean
    have houtcome := @validateBalanceLikeRow_outcome balanceSnapshotsFilename row.1 row.2
      expectedSource
    rw [hresult] at houtcome
    cases houtcome with
    | parsed parsed hparsed hfinite => exact ⟨parsed, rfl, hparsed⟩
    | reported issues hissues hfails => exact absurd hclean hissues
  have hparsedReferences : List.Forall₂
      (fun row parsed => ReferenceParsedFrom row.2 expectedSource parsed)
      package.referenceRows.2 (gathered references).2 := by
    refine forall₂_gathered hreferences hreferenceRows ?_
    rintro row - result hresult hclean
    rcases @validateBalanceReferenceRow_outcome row.1 row.2 expectedSource with
      ⟨⟨e, he⟩, _⟩ | ⟨⟨result', hresult', hparsed⟩, _⟩
    · rw [hresult] at he
      cases he
    · have hsame : result' = result := Except.ok.inj (hresult'.symm.trans hresult)
      subst hsame
      exact hparsed hclean
  refine ⟨hparsedSnapshots, hparsedReferences, ?_, nodup_of_collectDuplicateRows ?_ hsnapshotKeys,
    nodup_of_collectDuplicateRows ?_ hreferenceKeys, hmatched⟩
  · intro parsed hparsed
    rcases List.mem_filterMap.1 hparsed with ⟨result, hresult, hsome⟩
    rcases List.mem_map.1 hresult with ⟨row, _, rfl⟩
    have hrow := List.flatMap_eq_nil_iff.1 hlocationRows _ hresult
    rcases validateLocationInventoryRow_clean hrow with ⟨parsed', location, hparsed', hlocation⟩
    have hsame : parsed' = parsed := Option.some.inj (hparsed'.symm.trans hsome)
    subst hsame
    exact ⟨location, hlocation⟩
  · intro row hrow
    rcases exists_right_of_forall₂ hparsedSnapshots hrow with ⟨parsed, _, hparsed⟩
    exact duplicateKey_filled hparsed
  · intro row hrow
    rcases exists_right_of_forall₂ hparsedReferences hrow with ⟨parsed, _, hparsed⟩
    exact duplicateKey_filled hparsed.base

end Validated

end Submission
end Tallylot
