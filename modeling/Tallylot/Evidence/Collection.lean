import Tallylot.Data.Parts
import Tallylot.Data.Sorted
import Tallylot.Data.Text
import Tallylot.Domain.Issues
import Tallylot.Evidence.Builder
import Mathlib.Data.List.MinMax

/-!
# Collection — statement documents of a capture

The statement documents of a capture are the PDF files of its inventory that an adapter recognizes and
reads rows from.  The latest one is selected, by the dates at which the documents took effect or, if
none is dated so, by the dates of the statements; with it go the documents of the same statement date.

The adapter, the text extraction and the files on disk are parameters.
-/

namespace Tallylot
namespace Evidence

open Data Domain

/-! ## Inventory entries -/

/-- The path under which a document is named in provenance. -/
def DocumentInventoryEntry.documentPath (entry : DocumentInventoryEntry) : String :=
  if entry.archiveSourcePath ≠ "" then entry.archiveSourcePath else entry.relativePath

/-- An inventory entry.  It names a file, so the check of `ProvenanceLocator` for blank paths passes. -/
structure StatementInventoryEntry extends DocumentInventoryEntry where
  suffix : String
  captureUid : String
  sourcePath : String := ""
  evidenceRole : String := ""
  statementKind : String := ""
  originalityClass : String := ""
  named : isBlank toDocumentInventoryEntry.documentPath = false

namespace StatementInventoryEntry

/-- `_entry_locator` -/
def locator (entry : StatementInventoryEntry) : String × String :=
  (entry.relativePath, entry.archiveMemberPath)

/-- `_entry_display_path` -/
def displayPath (entry : StatementInventoryEntry) : String :=
  if entry.archiveMemberPath ≠ "" then entry.documentPath ++ "::" ++ entry.archiveMemberPath
  else entry.documentPath

/-- `_entry_identity_label` -/
def identityLabel (entry : StatementInventoryEntry) : String :=
  if entry.archiveMemberPath ≠ "" then entry.documentPath ++ "::" ++ entry.archiveMemberPath
  else entry.relativePath

/-- `document_provenance` -/
def documentProvenance (entry : StatementInventoryEntry) (anchor : String) : ProvenanceLocator where
  captureUid := entry.captureUid
  relativePath := entry.documentPath
  archiveMemberPath := entry.archiveMemberPath
  locatorKind := "raw_file"
  anchor := anchor

end StatementInventoryEntry

/-! ## Adapters and files -/

structure ParsedStatementDocument extends StatementDocumentParseResult where
  recognized : Bool

/-- The hooks of an adapter for statement documents. -/
structure StatementDocumentAdapter (P : Type) where
  adapterId : String
  displayName : String
  matchStatementDocument : P → String → Int
  parseStatementDocument : P → String → ParsedStatementDocument

/-- The files that inventory entries name. -/
structure CaptureFiles (P : Type) where
  path : String → P
  /-- A path below the raw directory. -/
  below : String → P
  present : P → Bool
  extractPdfText : P → String

structure StatementProfile where
  source : String
  adapterId : String
  fileInventory : List StatementInventoryEntry

abbrev RecognizedDocument := StatementInventoryEntry × StatementDocumentParseResult

section

variable {P : Type}

/-- `inventory_path` -/
def inventoryPath (files : CaptureFiles P) (entry : StatementInventoryEntry) : Option P :=
  ((if entry.sourcePath ≠ "" then [files.path entry.sourcePath] else []) ++
    [files.below entry.relativePath]).find? files.present

/-- Whether an entry can be a statement document of the profile's adapter.  Only ASCII letters have
lower case letters of `.pdf`. -/
def isStatementCandidate (profile : StatementProfile) (entry : StatementInventoryEntry) : Bool :=
  String.ofList (entry.suffix.toList.map Char.toLower) = ".pdf" &&
    (entry.evidenceRole = "" || entry.evidenceRole = "statement_source") &&
    (entry.statementKind = "" || entry.statementKind = profile.adapterId) &&
    (entry.originalityClass = "" || entry.originalityClass = "upstream_original")

/-- `statement_document_candidates` -/
def statementDocumentCandidates (files : CaptureFiles P) (profile : StatementProfile) :
    List (StatementInventoryEntry × P) :=
  sortedOn (fun item => toLex item.1.locator)
    (profile.fileInventory.filterMap (fun entry =>
      if isStatementCandidate profile entry then
        (inventoryPath files entry).map (fun path => (entry, path))
      else none))

/-! ## Issues -/

structure StatementIssueDetails where
  kind : String
  severity : String
  message : String
  rawRowRef : String := ""
  contextTimestamp : String := ""

/-- `statement_issue` -/
def statementIssue (adapter : StatementDocumentAdapter P) (profile : StatementProfile)
    (entry : StatementInventoryEntry) (provenance : ProvenanceLocator)
    (details : StatementIssueDetails) : IssueRecord where
  issueId := profile.source ++ ":" ++ entry.identityLabel ++ ":" ++ details.kind
  source := profile.source
  adapterId := adapter.adapterId
  severity := details.severity
  kind := details.kind
  message := details.message
  contextTimestamp := details.contextTimestamp
  rawFile := entry.relativePath
  rawProvenance := some { provenance with anchor := "" }
  rawRowRef := details.rawRowRef

def unrecognizedIssue (adapter : StatementDocumentAdapter P) (profile : StatementProfile)
    (entry : StatementInventoryEntry) : IssueRecord :=
  statementIssue adapter profile entry (entry.documentProvenance "")
    { kind := "statement_document_unrecognized"
      severity := "medium"
      message := adapter.displayName ++ " could not recognize statement document " ++
        entry.relativePath ++ "." }

def missingRowsIssue (adapter : StatementDocumentAdapter P) (profile : StatementProfile)
    (entry : StatementInventoryEntry) : IssueRecord :=
  statementIssue adapter profile entry (entry.documentProvenance "")
    { kind := "statement_evidence_missing"
      severity := "high"
      message := adapter.displayName ++ " statement document " ++ entry.relativePath ++
        " was recognized but no balance rows were extracted." }

def missingAsOfIssue (adapter : StatementDocumentAdapter P) (profile : StatementProfile)
    (entry : StatementInventoryEntry) : IssueRecord :=
  statementIssue adapter profile entry (entry.documentProvenance "")
    { kind := "statement_document_missing_as_of"
      severity := "high"
      message := adapter.displayName ++ " statement document " ++ entry.relativePath ++
        " was recognized but no statement date could be determined." }

/-- `ambiguous_statement_issue` -/
def ambiguousStatementIssue (adapter : StatementDocumentAdapter P) (profile : StatementProfile)
    (matchedPaths : List String) (entry : StatementInventoryEntry) : IssueRecord :=
  statementIssue adapter profile entry (entry.documentProvenance "")
    { kind := "statement_document_ambiguous"
      severity := "high"
      message := adapter.displayName ++
        " matched multiple latest statement documents for one capture: " ++
          String.intercalate ", " matchedPaths ++ "." }

/-! ## Reading the candidates -/

/-- What a candidate turns out to be. -/
inductive Reading
  | ignored
  | rejected (issue : IssueRecord)
  | recognized (document : RecognizedDocument)

namespace Reading

def issue? : Reading → Option IssueRecord
  | rejected issue => some issue
  | _ => none

def document? : Reading → Option RecognizedDocument
  | recognized document => some document
  | _ => none

end Reading

/-- One turn of the loop over the candidates. -/
def readCandidate (adapter : StatementDocumentAdapter P) (files : CaptureFiles P)
    (profile : StatementProfile) (candidate : StatementInventoryEntry × P) : Reading :=
  let text := files.extractPdfText candidate.2
  if adapter.matchStatementDocument candidate.2 text ≤ 0 then .ignored
  else
    let parsed := adapter.parseStatementDocument candidate.2 text
    if parsed.recognized = false then .rejected (unrecognizedIssue adapter profile candidate.1)
    else if parsed.rows = [] then .rejected (missingRowsIssue adapter profile candidate.1)
    else .recognized (candidate.1, parsed.toStatementDocumentParseResult)

/-- The recognized documents, in the order of the candidates. -/
def recognizedDocuments (adapter : StatementDocumentAdapter P) (files : CaptureFiles P)
    (profile : StatementProfile) : List RecognizedDocument :=
  ((statementDocumentCandidates files profile).map (readCandidate adapter files profile)).filterMap
    Reading.document?

def readingIssues (adapter : StatementDocumentAdapter P) (files : CaptureFiles P)
    (profile : StatementProfile) : List IssueRecord :=
  ((statementDocumentCandidates files profile).map (readCandidate adapter files profile)).filterMap
    Reading.issue?

/-! ## The latest documents -/

/-- The documents with the greatest of the dates that `date` gives, if it gives any. -/
def latestBy (date : StatementDocumentParseResult → Option Instant)
    (documents : List RecognizedDocument) : List RecognizedDocument :=
  match (documents.filterMap (fun document => date document.2)).max? with
  | none => []
  | some latest => documents.filter (fun document => date document.2 = some latest)

/-- `latest_recognized_documents` -/
def latestRecognizedDocuments (documents : List RecognizedDocument) : List RecognizedDocument :=
  if documents.any (fun document => document.2.documentEffectiveAt.isSome) then
    latestBy StatementDocumentParseResult.documentEffectiveAt documents
  else latestBy StatementDocumentParseResult.statementAsOfAt documents

/-- `datetime.min` in UTC. -/
def datetimeMin : Instant := ⟨1, 1, 1, 0, 0, 0, 0, Instant.isDay_min⟩

/-- `document_precedence_value` -/
def documentPrecedenceValue (parsed : StatementDocumentParseResult) : Instant :=
  (parsed.documentEffectiveAt.or parsed.statementAsOfAt).getD datetimeMin

/-- `evidence_documents_for_latest_snapshot` -/
def evidenceDocumentsForLatestSnapshot (recognized : List RecognizedDocument)
    (latest : RecognizedDocument) : List RecognizedDocument :=
  let candidates :=
    match latest.2.statementAsOfAt with
    | none => [latest]
    | some asOf => recognized.filter (fun document => document.2.statementAsOfAt = some asOf)
  (sortedOn (fun document : RecognizedDocument =>
    toLex (documentPrecedenceValue document.2, toLex document.1.locator)) candidates.reverse).reverse

/-! ## Collecting -/

/-- `statement_as_of_precision` -/
def statementAsOfPrecision (parsed : StatementDocumentParseResult) : Option TemporalPrecision :=
  let precisions := (parsed.rows.filter (fun row => row.asOfAt.isSome)).map
    StatementDocumentBalanceRow.asOfPrecision
  if precisions = [] then none
  else if .timestamp ∈ precisions then some .timestamp
  else some .date

/-- `document_effective_precision` -/
def documentEffectivePrecision (parsed : StatementDocumentParseResult) :
    Option TemporalPrecision :=
  parsed.documentEffectiveAt.map (fun _ => .date)

def collectedDocument (status : EvidenceMemberStatus) (document : RecognizedDocument) :
    CollectedStatementDocument where
  entry := document.1.toDocumentInventoryEntry
  parsed := document.2
  locator := document.1.locator
  memberStatus := status
  selected := status = .selected
  statementAsOfPrecision := statementAsOfPrecision document.2
  documentEffectivePrecision := documentEffectivePrecision document.2

/-- The recognized documents with the statuses that `status` gives them, in the order of their
locators. -/
def collectWith (status : RecognizedDocument → EvidenceMemberStatus)
    (recognized : List RecognizedDocument) : List CollectedStatementDocument :=
  sortedOn (fun document => toLex document.locator)
    (recognized.map (fun document => collectedDocument (status document) document))

/-- Selection among the recognized documents, and the issues that it adds. -/
def selectDocuments (adapter : StatementDocumentAdapter P) (profile : StatementProfile)
    (recognized : List RecognizedDocument) (issues : List IssueRecord) :
    StatementDocumentCollectionResult :=
  let latestDocuments := latestRecognizedDocuments recognized
  match latestDocuments with
  | [] =>
      { collectedDocuments := collectWith (fun _ => .blocked) recognized
        issues := issues ++
          recognized.map (fun document => missingAsOfIssue adapter profile document.1) }
  | [latest] =>
      let selectedKeys := (evidenceDocumentsForLatestSnapshot recognized latest).map
        (fun document => document.1.locator)
      { collectedDocuments :=
          collectWith (fun document =>
            if document.1.locator ∈ selectedKeys then .selected else .superseded) recognized
        issues := issues }
  | _ :: _ :: _ =>
      let latestKeys := latestDocuments.map (fun document => document.1.locator)
      let matchedPaths := latestDocuments.map (fun document => document.1.displayPath)
      { collectedDocuments :=
          collectWith (fun document =>
            if document.1.locator ∈ latestKeys then .blocked else .superseded) recognized
        issues := issues ++ latestDocuments.map (fun document =>
          ambiguousStatementIssue adapter profile matchedPaths document.1) }

/-- `collect_source_statement_documents_from_inventory` -/
def collectSourceStatementDocumentsFromInventory (adapter : StatementDocumentAdapter P)
    (files : CaptureFiles P) (profile : StatementProfile) : StatementDocumentCollectionResult :=
  if (statementDocumentCandidates files profile).isEmpty then ⟨[], []⟩
  else
    selectDocuments adapter profile (recognizedDocuments adapter files profile)
      (readingIssues adapter files profile)

end

/-! ## What the latest documents are -/

section Latest

variable {documents : List RecognizedDocument} {document : RecognizedDocument}

/-- A document with a date that no other document exceeds. -/
def IsLatestBy (date : StatementDocumentParseResult → Option Instant)
    (documents : List RecognizedDocument) (document : RecognizedDocument) : Prop :=
  document ∈ documents ∧
    ∃ t, date document.2 = some t ∧ ∀ other ∈ documents, ∀ u, date other.2 = some u → u ≤ t

/-- A latest document: by effective date if any document has one, else by the date of the statement. -/
def IsLatest (documents : List RecognizedDocument) (document : RecognizedDocument) : Prop :=
  ((∃ other ∈ documents, other.2.documentEffectiveAt ≠ none) ∧
      IsLatestBy StatementDocumentParseResult.documentEffectiveAt documents document) ∨
    ((∀ other ∈ documents, other.2.documentEffectiveAt = none) ∧
      IsLatestBy StatementDocumentParseResult.statementAsOfAt documents document)

/-- A document list without any date. -/
def Undated (documents : List RecognizedDocument) : Prop :=
  ∀ document ∈ documents,
    document.2.documentEffectiveAt = none ∧ document.2.statementAsOfAt = none

lemma mem_latestBy (date : StatementDocumentParseResult → Option Instant) :
    document ∈ latestBy date documents ↔ IsLatestBy date documents document := by
  unfold latestBy IsLatestBy
  cases hmax : (documents.filterMap (fun document => date document.2)).max? with
  | none =>
      have hnone := List.max?_eq_none_iff.1 hmax
      refine iff_of_false List.not_mem_nil ?_
      rintro ⟨hmem, t, ht, _⟩
      have hdate : t ∈ documents.filterMap (fun document => date document.2) :=
        List.mem_filterMap.2 ⟨document, hmem, ht⟩
      rw [hnone] at hdate
      exact List.not_mem_nil hdate
  | some latest =>
      rcases List.max?_eq_some_iff.1 hmax with ⟨hlatest, hgreatest⟩
      rw [List.mem_filter, decide_eq_true_eq]
      refine and_congr_right (fun hmem => ?_)
      constructor
      · intro hdate
        refine ⟨latest, hdate, fun other hother u hu => ?_⟩
        exact hgreatest u (List.mem_filterMap.2 ⟨other, hother, hu⟩)
      · rintro ⟨t, ht, hbound⟩
        rcases List.mem_filterMap.1 hlatest with ⟨other, hother, hu⟩
        have hle := hbound other hother latest hu
        have hge := hgreatest t (List.mem_filterMap.2 ⟨document, hmem, ht⟩)
        rw [ht, le_antisymm hge hle]

lemma mem_latestRecognizedDocuments :
    document ∈ latestRecognizedDocuments documents ↔ IsLatest documents document := by
  unfold latestRecognizedDocuments IsLatest
  by_cases hdated : ∃ other ∈ documents, other.2.documentEffectiveAt ≠ none
  · have hany : documents.any (fun document => document.2.documentEffectiveAt.isSome) = true := by
      simpa [List.any_eq_true, Option.isSome_iff_ne_none] using hdated
    have hnot : ¬∀ other ∈ documents, other.2.documentEffectiveAt = none := by
      simpa using hdated
    rw [if_pos hany, mem_latestBy]
    simp only [hdated, hnot, true_and, false_and, or_false]
  · have hany : ¬documents.any (fun document => document.2.documentEffectiveAt.isSome) = true := by
      simpa [List.any_eq_true, Option.isSome_iff_ne_none] using hdated
    have hall : ∀ other ∈ documents, other.2.documentEffectiveAt = none := by
      simpa using hdated
    rw [if_neg hany, mem_latestBy, or_iff_right (fun h => hdated h.1), and_iff_right hall]

/-- Some document is a latest one unless no document is dated. -/
lemma latestBy_eq_nil_iff (date : StatementDocumentParseResult → Option Instant) :
    latestBy date documents = [] ↔ ∀ document ∈ documents, date document.2 = none := by
  unfold latestBy
  cases hmax : (documents.filterMap (fun document => date document.2)).max? with
  | none =>
      have hnone := List.max?_eq_none_iff.1 hmax
      refine iff_of_true rfl (fun document hmem => ?_)
      exact List.filterMap_eq_nil_iff.1 hnone document hmem
  | some latest =>
      rcases List.max?_eq_some_iff.1 hmax with ⟨hlatest, _⟩
      rcases List.mem_filterMap.1 hlatest with ⟨other, hother, hdate⟩
      refine iff_of_false ?_ ?_
      · exact List.ne_nil_of_mem (List.mem_filter.2 ⟨hother, decide_eq_true hdate⟩)
      · intro hall
        rw [hall other hother] at hdate
        cases hdate

lemma latestRecognizedDocuments_eq_nil_iff :
    latestRecognizedDocuments documents = [] ↔ Undated documents := by
  unfold latestRecognizedDocuments Undated
  by_cases hany : documents.any (fun document => document.2.documentEffectiveAt.isSome) = true
  · rw [if_pos hany, latestBy_eq_nil_iff]
    rcases List.any_eq_true.1 hany with ⟨other, hother, hsome⟩
    have hdated := Option.isSome_iff_ne_none.1 hsome
    exact iff_of_false (fun h => hdated (h other hother)) (fun h => hdated (h other hother).1)
  · rw [if_neg hany, latestBy_eq_nil_iff]
    have hnone : ∀ document ∈ documents, document.2.documentEffectiveAt = none := by
      simpa [List.any_eq_true] using hany
    exact ⟨fun h document hmem => ⟨hnone document hmem, h document hmem⟩,
      fun h document hmem => (h document hmem).2⟩

lemma latestBy_sublist (date : StatementDocumentParseResult → Option Instant) :
    (latestBy date documents).Sublist documents := by
  unfold latestBy
  split
  · exact List.nil_sublist _
  · exact List.filter_sublist

lemma latestRecognizedDocuments_sublist :
    (latestRecognizedDocuments documents).Sublist documents := by
  unfold latestRecognizedDocuments
  split
  · exact latestBy_sublist _
  · exact latestBy_sublist _

end Latest

/-! ## What is collected -/

/-- Every recognized document is collected once, with the status that `status` gives it. -/
structure SelectionSound (recognized : List RecognizedDocument)
    (result : StatementDocumentCollectionResult)
    (status : RecognizedDocument → EvidenceMemberStatus) : Prop where
  once :
    result.collectedDocuments.Perm
      (recognized.map (fun document => collectedDocument (status document) document))
  someSelected :
    (∃ document ∈ recognized, status document = .selected) ↔
      ∃! document, IsLatest recognized document
  selectedIff :
    ∀ latest, IsLatest recognized latest →
      (∀ other, IsLatest recognized other → other = latest) →
        ∀ document ∈ recognized,
          status document = .selected ↔
            document = latest ∨
              (latest.2.statementAsOfAt ≠ none ∧
                document.2.statementAsOfAt = latest.2.statementAsOfAt)
  blocked :
    (∀ document ∈ recognized, status document ≠ .selected) →
      ∀ document ∈ recognized, IsLatest recognized document ∨ Undated recognized →
        status document = .blocked ∧
          ∃ issue ∈ result.issues,
            issueMatchesStatementDocument issue (collectedDocument .blocked document) = true ∧
              issue.kind ∈ ["statement_document_ambiguous", "statement_document_missing_as_of"]

section Selection

variable {P : Type} (adapter : StatementDocumentAdapter P) (profile : StatementProfile)
  {recognized : List RecognizedDocument}

lemma collectWith_perm (status : RecognizedDocument → EvidenceMemberStatus) :
    (collectWith status recognized).Perm
      (recognized.map (fun document => collectedDocument (status document) document)) :=
  sortedOn_perm _ _

/-- The issues of a document are found by its provenance. -/
lemma issueMatches_self (entry : StatementInventoryEntry) (details : StatementIssueDetails)
    (document : RecognizedDocument) (status : EvidenceMemberStatus) (h : document.1 = entry) :
    issueMatchesStatementDocument
        (statementIssue adapter profile entry (entry.documentProvenance "") details)
        (collectedDocument status document) = true := by
  subst h
  by_cases harchive : document.1.archiveSourcePath = ""
  · simp [issueMatchesStatementDocument, statementIssue, StatementInventoryEntry.documentProvenance,
      DocumentInventoryEntry.documentPath, collectedDocument, harchive]
  · simp [issueMatchesStatementDocument, statementIssue, StatementInventoryEntry.documentProvenance,
      DocumentInventoryEntry.documentPath, collectedDocument, harchive]

lemma mem_evidenceDocuments {latest document : RecognizedDocument} (hlatest : latest ∈ recognized)
    (hmem : document ∈ recognized) :
    document ∈ evidenceDocumentsForLatestSnapshot recognized latest ↔
      document = latest ∨
        (latest.2.statementAsOfAt ≠ none ∧
          document.2.statementAsOfAt = latest.2.statementAsOfAt) := by
  unfold evidenceDocumentsForLatestSnapshot
  cases hasOf : latest.2.statementAsOfAt with
  | none => simp
  | some asOf =>
      simp only [List.mem_reverse, mem_sortedOn, List.mem_filter, hmem, true_and,
        decide_eq_true_eq, ne_eq, reduceCtorEq, not_false_eq_true]
      constructor
      · exact Or.inr
      · rintro (rfl | h)
        · exact hasOf
        · exact h

lemma evidenceDocuments_subset {latest document : RecognizedDocument}
    (hlatest : latest ∈ recognized)
    (hmem : document ∈ evidenceDocumentsForLatestSnapshot recognized latest) :
    document ∈ recognized := by
  unfold evidenceDocumentsForLatestSnapshot at hmem
  cases hasOf : latest.2.statementAsOfAt with
  | none =>
      simp only [hasOf, List.mem_reverse, mem_sortedOn, List.mem_singleton] at hmem
      exact hmem ▸ hlatest
  | some asOf =>
      simp only [hasOf, List.mem_reverse, mem_sortedOn] at hmem
      exact (List.mem_filter.1 hmem).1

lemma isLatest_mem {document : RecognizedDocument} (h : IsLatest recognized document) :
    document ∈ recognized :=
  latestRecognizedDocuments_sublist.subset (mem_latestRecognizedDocuments.2 h)

/-- No document is dated: all are blocked. -/
lemma undated_sound (issues : List IssueRecord)
    (hcases : latestRecognizedDocuments recognized = []) :
    SelectionSound recognized (selectDocuments adapter profile recognized issues)
      (fun _ => .blocked) := by
  have hnone : ∀ document, ¬IsLatest recognized document := by
    intro document h
    rw [← mem_latestRecognizedDocuments, hcases] at h
    exact List.not_mem_nil h
  refine ⟨?_, ?_, ?_, ?_⟩
  · simp only [selectDocuments, hcases]
    exact collectWith_perm _
  · simp [hnone, ExistsUnique]
  · intro latest h
    exact absurd h (hnone latest)
  · intro _ document hdocument _
    refine ⟨rfl, missingAsOfIssue adapter profile document.1, ?_, ?_, ?_⟩
    · simp only [selectDocuments, hcases]
      exact List.mem_append_right _ (List.mem_map.2 ⟨document, hdocument, rfl⟩)
    · exact issueMatches_self adapter profile document.1 _ document _ rfl
    · simp [missingAsOfIssue, statementIssue]

variable (hnodup : (recognized.map (fun document => document.1.locator)).Nodup)

include hnodup

/-- Among recognized documents a locator stands for its document. -/
lemma locator_mem_map_iff {documents : List RecognizedDocument} {document : RecognizedDocument}
    (hsub : ∀ other ∈ documents, other ∈ recognized) (hmem : document ∈ recognized) :
    document.1.locator ∈ documents.map (fun document => document.1.locator) ↔
      document ∈ documents := by
  constructor
  · intro h
    rcases List.mem_map.1 h with ⟨other, hother, hlocator⟩
    have heq := List.inj_on_of_nodup_map hnodup (hsub other hother) hmem hlocator
    exact heq ▸ hother
  · intro h
    exact List.mem_map_of_mem h

/-- One latest document: it is selected, and the documents of its statement date with it. -/
lemma unique_sound (issues : List IssueRecord) {latest : RecognizedDocument}
    (hcases : latestRecognizedDocuments recognized = [latest]) :
    SelectionSound recognized (selectDocuments adapter profile recognized issues)
      (fun document =>
        if document.1.locator ∈ (evidenceDocumentsForLatestSnapshot recognized latest).map
            (fun document => document.1.locator) then .selected
        else .superseded) := by
  have hlatest : ∀ document, IsLatest recognized document ↔ document = latest := by
    intro document
    rw [← mem_latestRecognizedDocuments, hcases, List.mem_singleton]
  have hself : IsLatest recognized latest := (hlatest latest).2 rfl
  have hmem := isLatest_mem hself
  have hselected : ∀ document ∈ recognized,
      (if document.1.locator ∈ (evidenceDocumentsForLatestSnapshot recognized latest).map
          (fun document => document.1.locator) then EvidenceMemberStatus.selected
        else .superseded) = .selected ↔
        document = latest ∨
          (latest.2.statementAsOfAt ≠ none ∧
            document.2.statementAsOfAt = latest.2.statementAsOfAt) := by
    intro document hdocument
    rw [ite_eq_left_iff, ← mem_evidenceDocuments hmem hdocument,
      ← locator_mem_map_iff hnodup (fun other hother => evidenceDocuments_subset hmem hother)
        hdocument]
    simp
  refine ⟨?_, ?_, ?_, ?_⟩
  · simp only [selectDocuments, hcases]
    exact collectWith_perm _
  · exact iff_of_true ⟨latest, hmem, (hselected latest hmem).2 (Or.inl rfl)⟩
      ⟨latest, hself, fun document h => (hlatest document).1 h⟩
  · intro other hother _ document hdocument
    rw [(hlatest other).1 hother]
    exact hselected document hdocument
  · intro hno
    exact absurd ((hselected latest hmem).2 (Or.inl rfl)) (hno latest hmem)

/-- Several latest documents: they are blocked. -/
lemma several_sound (issues : List IssueRecord) {latest second : RecognizedDocument}
    {rest : List RecognizedDocument}
    (hcases : latestRecognizedDocuments recognized = latest :: second :: rest) :
    SelectionSound recognized (selectDocuments adapter profile recognized issues)
      (fun document =>
        if document.1.locator ∈ (latest :: second :: rest).map
            (fun document => document.1.locator) then .blocked
        else .superseded) := by
  have hlatest : ∀ document,
      document ∈ latest :: second :: rest ↔ IsLatest recognized document := by
    intro document
    rw [← hcases]
    exact mem_latestRecognizedDocuments
  have hfirst : IsLatest recognized latest := (hlatest latest).1 List.mem_cons_self
  have hsecond : IsLatest recognized second :=
    (hlatest second).1 (List.mem_cons_of_mem _ List.mem_cons_self)
  have hdistinct : (latest :: second :: rest).Nodup := by
    rw [← hcases]
    exact latestRecognizedDocuments_sublist.nodup (List.Nodup.of_map _ hnodup)
  have hne : latest ≠ second := by
    intro heq
    exact (List.nodup_cons.1 hdistinct).1 (heq ▸ List.mem_cons_self)
  refine ⟨?_, ?_, ?_, ?_⟩
  · simp only [selectDocuments, hcases]
    exact collectWith_perm _
  · refine iff_of_false ?_ ?_
    · rintro ⟨document, _, h⟩
      split_ifs at h
    · rintro ⟨document, _, hunique⟩
      exact hne ((hunique latest hfirst).trans (hunique second hsecond).symm)
  · intro other _ hunique
    exact absurd ((hunique latest hfirst).trans (hunique second hsecond).symm) hne
  · intro _ document hdocument hwhich
    have hdocumentLatest : IsLatest recognized document := by
      rcases hwhich with h | h
      · exact h
      · have hnil := latestRecognizedDocuments_eq_nil_iff.2 h
        rw [hcases] at hnil
        cases hnil
    have hkey := (locator_mem_map_iff hnodup
      (fun other hother => isLatest_mem ((hlatest other).1 hother)) hdocument).2
        ((hlatest document).2 hdocumentLatest)
    refine ⟨if_pos hkey, ambiguousStatementIssue adapter profile
      ((latest :: second :: rest).map (fun document => document.1.displayPath)) document.1,
        ?_, ?_, ?_⟩
    · simp only [selectDocuments, hcases]
      exact List.mem_append_right _
        (List.mem_map.2 ⟨document, (hlatest document).2 hdocumentLatest, rfl⟩)
    · exact issueMatches_self adapter profile document.1 _ document _ rfl
    · simp [ambiguousStatementIssue, statementIssue]

theorem selectDocuments_sound (issues : List IssueRecord) :
    ∃ status, SelectionSound recognized (selectDocuments adapter profile recognized issues)
      status := by
  rcases hcases : latestRecognizedDocuments recognized with _ | ⟨latest, _ | ⟨second, rest⟩⟩
  · exact ⟨_, undated_sound adapter profile issues hcases⟩
  · exact ⟨_, unique_sound adapter profile hnodup issues hcases⟩
  · exact ⟨_, several_sound adapter profile hnodup issues hcases⟩

end Selection

/-! ## The whole collection -/

section Collecting

variable {P : Type} (adapter : StatementDocumentAdapter P) (files : CaptureFiles P)

lemma document?_readCandidate {profile : StatementProfile} {candidate : StatementInventoryEntry × P}
    {document : RecognizedDocument}
    (h : (readCandidate adapter files profile candidate).document? = some document) :
    document.1 = candidate.1 := by
  simp only [readCandidate] at h
  split_ifs at h
  · cases h
  · cases h
  · cases h
  · cases h
    rfl

/-- The recognized documents have the locators of their candidates. -/
lemma recognized_nodup {profile : StatementProfile}
    (hnodup : ((statementDocumentCandidates files profile).map
      (fun candidate => candidate.1.locator)).Nodup) :
    ((recognizedDocuments adapter files profile).map
      (fun document => document.1.locator)).Nodup := by
  rw [recognizedDocuments, List.filterMap_map]
  refine hnodup.sublist (filterMap_keys_sublist ?_ _)
  intro candidate document h
  rw [document?_readCandidate adapter files h]

lemma collect_eq (profile : StatementProfile) :
    collectSourceStatementDocumentsFromInventory adapter files profile =
      selectDocuments adapter profile (recognizedDocuments adapter files profile)
        (readingIssues adapter files profile) := by
  unfold collectSourceStatementDocumentsFromInventory
  split_ifs with hempty
  · have hnil := List.isEmpty_iff.1 hempty
    simp [recognizedDocuments, readingIssues, hnil, selectDocuments, latestRecognizedDocuments,
      latestBy, collectWith]
  · rfl

/-- Candidates with distinct locators come in the same order, whatever the order of the inventory. -/
lemma candidates_perm {profile : StatementProfile} {inventory : List StatementInventoryEntry}
    (hnodup : ((statementDocumentCandidates files profile).map
      (fun candidate => candidate.1.locator)).Nodup)
    (hperm : inventory.Perm profile.fileInventory) :
    statementDocumentCandidates files { profile with fileInventory := inventory } =
      statementDocumentCandidates files profile := by
  refine (sortedOn_eq_of_perm (hperm.filterMap _).symm ?_).symm
  intro a ha b hb hkey
  exact List.inj_on_of_nodup_map hnodup (mem_sortedOn.2 ha) (mem_sortedOn.2 hb)
    (toLex.injective hkey)

/-- Statement documents with distinct locators are collected soundly, and the order of the inventory
does not matter. -/
theorem collect_sound (profile : StatementProfile)
    (hnodup : ((statementDocumentCandidates files profile).map
      (fun candidate => candidate.1.locator)).Nodup) :
    (∃ status,
      SelectionSound (recognizedDocuments adapter files profile)
        (collectSourceStatementDocumentsFromInventory adapter files profile) status) ∧
      ∀ inventory : List StatementInventoryEntry, inventory.Perm profile.fileInventory →
        collectSourceStatementDocumentsFromInventory adapter files
            { profile with fileInventory := inventory } =
          collectSourceStatementDocumentsFromInventory adapter files profile := by
  constructor
  · rw [collect_eq]
    exact selectDocuments_sound adapter profile (recognized_nodup adapter files hnodup) _
  · intro inventory hperm
    have hcandidates := candidates_perm files hnodup hperm
    rw [collect_eq, collect_eq]
    unfold recognizedDocuments readingIssues
    rw [hcandidates]
    rfl

end Collecting

section Examples

def januaryEntry : StatementInventoryEntry :=
  { relativePath := "2024-01.pdf", suffix := ".pdf", captureUid := "c1", named := by decide }

def februaryEntry : StatementInventoryEntry :=
  { relativePath := "2024-02.PDF", suffix := ".PDF", captureUid := "c1", named := by decide }

/-- An adapter that dates the document by its path. -/
def pathAdapter : StatementDocumentAdapter String where
  adapterId := "platform"
  displayName := "Platform"
  matchStatementDocument := fun _ _ => 1
  parseStatementDocument := fun path _ =>
    { recognized := true
      statementAsOfAt :=
        some (if path = "2024-01.pdf" then ⟨2024, 1, 31, 0, 0, 0, 0, by decide⟩
          else ⟨2024, 2, 29, 0, 0, 0, 0, by decide⟩)
      rows :=
        [{ account := "", wallet := "", balanceKind := "asset_balance", asset := "BTC",
           quantity := none, asOfAt := none, asOfPrecision := .date }] }

def presentFiles : CaptureFiles String where
  path := id
  below := id
  present := fun _ => true
  extractPdfText := id

def twoStatements : StatementProfile where
  source := "platform"
  adapterId := "platform"
  fileInventory := [februaryEntry, januaryEntry]

theorem collect_sound_twoStatements :
    (∃ status,
      SelectionSound (recognizedDocuments pathAdapter presentFiles twoStatements)
        (collectSourceStatementDocumentsFromInventory pathAdapter presentFiles twoStatements)
          status) ∧
      ∀ inventory : List StatementInventoryEntry, inventory.Perm twoStatements.fileInventory →
        collectSourceStatementDocumentsFromInventory pathAdapter presentFiles
            { twoStatements with fileInventory := inventory } =
          collectSourceStatementDocumentsFromInventory pathAdapter presentFiles twoStatements :=
  collect_sound pathAdapter presentFiles twoStatements (by decide +kernel)

end Examples

end Evidence
end Tallylot
