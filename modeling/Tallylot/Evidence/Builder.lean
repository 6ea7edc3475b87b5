import Tallylot.Data.Path
import Tallylot.Evidence.Models
import Tallylot.Translation.Planner

/-!
# Builder — the evidence set of a Coinbase capture

The builder records the retail exports with the status that the translation plan gives them, and the
statement documents with their observations.  Ids start with the id of the set, which ends in a
fingerprint of the records; the builder therefore gives ids twice, first under a provisional set id.

`none` stands for an exception: a candidate without a decision or without a member path, a record
without an id, or a time that is stated as a date and is not a midnight.  The last one is raised by
the first fingerprint; here the record of such an observation is not built.
-/

namespace Tallylot
namespace Evidence

open Data Domain Translation

/-! ## Collected statement documents -/

structure DocumentInventoryEntry where
  relativePath : String
  archiveSourcePath : String := ""
  archiveMemberPath : String := ""
  deriving DecidableEq, Repr

structure StatementDocumentBalanceRow where
  account : String
  wallet : String
  balanceKind : String
  asset : String
  quantity : Option Decimal
  asOfAt : Option Instant
  asOfPrecision : TemporalPrecision
  asOfText : String := ""
  rawRowRef : String := ""
  notes : String := ""
  stakedQuantity : String := ""
  valueAmount : String := ""
  valueCurrency : String := ""
  priceAmount : String := ""
  priceCurrency : String := ""
  deriving DecidableEq, Repr

structure StatementDocumentParseResult where
  statementAsOfAt : Option Instant
  rows : List StatementDocumentBalanceRow
  documentEffectiveAt : Option Instant := none
  deriving DecidableEq, Repr

structure CollectedStatementDocument where
  entry : DocumentInventoryEntry
  parsed : StatementDocumentParseResult
  locator : String × String
  memberStatus : EvidenceMemberStatus
  selected : Bool
  statementAsOfPrecision : Option TemporalPrecision
  documentEffectivePrecision : Option TemporalPrecision
  deriving DecidableEq, Repr

structure StatementDocumentCollectionResult where
  collectedDocuments : List CollectedStatementDocument
  issues : List IssueRecord

/-- `[*document.locator]` -/
def CollectedStatementDocument.locatorParts (document : CollectedStatementDocument) : List String :=
  [document.locator.1, document.locator.2]

/-! ## Statement records -/

def issueMatchesStatementDocument (issue : IssueRecord) (document : CollectedStatementDocument) :
    Bool :=
  match issue.rawProvenance with
  | some provenance =>
      provenance.relativePath =
          (if document.entry.archiveSourcePath ≠ "" then document.entry.archiveSourcePath
            else document.entry.relativePath) &&
        provenance.archiveMemberPath = document.entry.archiveMemberPath
  | none => issue.rawFile = document.entry.relativePath

def statementSelectionBasis (document : CollectedStatementDocument)
    (documents : StatementDocumentCollectionResult) : EvidenceSelectionBasis :=
  let issueKinds :=
    (documents.issues.filter (fun issue => issueMatchesStatementDocument issue document)).map
      IssueRecord.kind
  if "statement_document_ambiguous" ∈ issueKinds then .ambiguousOverlap
  else if "statement_document_missing_as_of" ∈ issueKinds then .upstreamGap
  else if document.memberStatus = .superseded then .freshness
  else if document.selected &&
      documents.collectedDocuments.any (fun item => item.memberStatus = .superseded) then
    .freshness
  else .singleMember

def statementBlockingGapRefs (document : CollectedStatementDocument)
    (documents : StatementDocumentCollectionResult) : List String :=
  if document.memberStatus ≠ .blocked then []
  else
    sortedOn id
      ((documents.issues.filter (fun issue =>
          issueMatchesStatementDocument issue document &&
            issue.kind ∈
              ["statement_document_ambiguous", "statement_document_missing_as_of"])).map
        IssueRecord.issueId)

structure PendingObservation where
  memberKind : EvidenceMemberKind
  memberLocator : List String
  record : EvidenceObservationRecord
  deriving DecidableEq, Repr

def statementKey (locator : List String) : List String := "statement_document" :: locator

def statementSelection (documents : StatementDocumentCollectionResult)
    (document : CollectedStatementDocument) : EvidenceSelectionRecord where
  evidenceSetId := ""
  selectionId := ""
  key := statementKey document.locatorParts
  fingerprint := ""
  basis := statementSelectionBasis document documents
  blockingGapRefs := statementBlockingGapRefs document documents

/-- What all records of a capture share. -/
structure CaptureContext where
  profile : SourceProfile
  captureUid : String
  captureManifestFingerprint : String

def CaptureContext.memberRecord (context : CaptureContext) (kind : EvidenceMemberKind)
    (locator : List String) (status : EvidenceMemberStatus) : EvidenceMemberRecord where
  evidenceSetId := ""
  selectionId := ""
  memberId := ""
  sourceSlug := context.profile.source
  adapterId := context.profile.adapterId
  captureUid := context.captureUid
  kind := kind
  locator := locator
  status := status
  captureManifestFingerprint := context.captureManifestFingerprint

def statementMember (context : CaptureContext) (document : CollectedStatementDocument) :
    EvidenceMemberRecord :=
  context.memberRecord .statementDocumentFile document.locatorParts document.memberStatus

def documentObservation (context : CaptureContext) (document : CollectedStatementDocument) :
    Option PendingObservation := do
  let documentEffectiveAt ←
    StatedTime.ofParts document.parsed.documentEffectiveAt document.documentEffectivePrecision
  let statementAsOf ←
    StatedTime.ofParts document.parsed.statementAsOfAt document.statementAsOfPrecision
  some
    { memberKind := .statementDocumentFile
      memberLocator := document.locatorParts
      record :=
        { evidenceSetId := ""
          memberId := ""
          observationId := ""
          kind := .statementDocument
          key := ["document"]
          statementKind := context.profile.adapterId
          documentEffectiveAt := documentEffectiveAt
          statementAsOf := statementAsOf } }

def rowKey (row : StatementDocumentBalanceRow) (index : Nat) : String :=
  if row.rawRowRef ≠ "" then row.rawRowRef else "row:" ++ toString index

def rowObservation (document : CollectedStatementDocument) (row : StatementDocumentBalanceRow)
    (index : Nat) : Option PendingObservation := do
  let observedAt ← StatedTime.ofParts row.asOfAt (some row.asOfPrecision)
  some
    { memberKind := .statementDocumentFile
      memberLocator := document.locatorParts
      record :=
        { evidenceSetId := ""
          memberId := ""
          observationId := ""
          kind := .statementBalanceRow
          key := [rowKey row index]
          observedAt := observedAt
          locationGroupLabel := row.account
          locationLabel := row.wallet
          balanceKind := row.balanceKind
          instrumentSymbol := row.asset
          quantity := row.quantity
          notes := row.notes
          stakedQuantityText := row.stakedQuantity
          valueAmountText := row.valueAmount
          valueCurrency := row.valueCurrency
          priceAmountText := row.priceAmount
          priceCurrency := row.priceCurrency } }

/-- The observations of one document, which are none unless it is selected. -/
def statementObservations (context : CaptureContext) (document : CollectedStatementDocument) :
    Option (List PendingObservation) :=
  if document.selected then do
    let first ← documentObservation context document
    let rows ← document.parsed.rows.zipIdx.mapM (fun r => rowObservation document r.1 r.2)
    some (first :: rows)
  else some []

/-! ## Retail records -/

def retailKey : List String := ["retail_activity_export_file"]

def retailSelectionBasis (plannerResult : TranslationInputPlanningResult) :
    EvidenceSelectionBasis :=
  let decisions := plannerResult.plan.decisions
  if decisions.any (fun decision =>
      decision.status ∈ [.blockedPartialOverlap, .blockedAmbiguousFreshness]) then
    .ambiguousOverlap
  else if decisions.any (fun decision => decision.status.isBlocked) then .upstreamGap
  else if decisions.any (fun decision => decision.status = .supersededIdentical) then .duplicate
  else if decisions.any (fun decision => decision.status = .supersededReplaced) then .coverage
  else
    match decisions.filter (fun decision => decision.status = .selected) with
    | [] => .upstreamGap
    | [decision] => if decision.replacesCandidateIds ≠ [] then .freshness else .singleMember
    | _ => .coverage

def retailSelectionGapRefs (plannerResult : TranslationInputPlanningResult) : List String :=
  sortedOn id
    ((plannerResult.plan.decisions.filter (fun decision => decision.status.isBlocked)).map
      (fun decision => "translation_input_plan:" ++ decision.status.text)).dedup

def retailSelectionRecords (plannerResult : TranslationInputPlanningResult) :
    List EvidenceSelectionRecord :=
  if plannerResult.candidates.isEmpty then []
  else
    [ { evidenceSetId := ""
        selectionId := ""
        key := retailKey
        fingerprint := ""
        basis := retailSelectionBasis plannerResult
        blockingGapRefs := retailSelectionGapRefs plannerResult } ]

def retailMemberStatus (status : TranslationPlanDecisionStatus) : EvidenceMemberStatus :=
  if status = .selected then .selected
  else if startsWithText status.text "superseded" then .superseded
  else .blocked

def retailMember (context : CaptureContext) (decisions : List TranslationPlanDecision)
    (candidate : TranslationInputCandidate) : Option EvidenceMemberRecord := do
  let decision ← decisions.find? (fun item => item.candidateId = candidate.candidateId)
  let path ← candidate.memberRelativePaths.head?
  some
    (context.memberRecord .retailActivityExportFile [path, ""]
      (retailMemberStatus decision.status))

def retailMemberRecords (context : CaptureContext)
    (plannerResult : TranslationInputPlanningResult) : Option (List EvidenceMemberRecord) :=
  (plannerResult.candidates.mapM (retailMember context plannerResult.plan.decisions)).map
    (sortedOn EvidenceMemberRecord.locator)

/-! ## Ids -/

def memberSelectionKey (member : EvidenceMemberRecord) : List String :=
  match member.kind with
  | .retailActivityExportFile => retailKey
  | .statementDocumentFile => statementKey member.locator

def identifySelection (evidenceSetId : String) (selection : EvidenceSelectionRecord) :
    EvidenceSelectionRecord :=
  { selection with
    evidenceSetId := evidenceSetId
    selectionId := stableSelectionId evidenceSetId selection.key }

def identifyMember (evidenceSetId : String) (selectionIdsByKey : Dict (List String) String)
    (member : EvidenceMemberRecord) : Option EvidenceMemberRecord :=
  (selectionIdsByKey.get? (memberSelectionKey member)).map (fun selectionId =>
    { member with
      evidenceSetId := evidenceSetId
      selectionId := selectionId
      memberId := stableMemberId evidenceSetId member.kind member.locator })

def identifyObservation (evidenceSetId : String)
    (memberIdsByLocator : Dict (EvidenceMemberKind × List String) String)
    (observation : PendingObservation) : Option EvidenceObservationRecord :=
  (memberIdsByLocator.get? (observation.memberKind, observation.memberLocator)).map
    (fun memberId =>
      { observation.record with
        evidenceSetId := evidenceSetId
        memberId := memberId
        observationId :=
          stableObservationId memberId observation.record.kind observation.record.key })

structure IdentifiedRecords where
  selections : List EvidenceSelectionRecord
  members : List EvidenceMemberRecord
  observations : List EvidenceObservationRecord

/-- All records with their ids below one set id. -/
def identifyRecords (evidenceSetId : String) (selections : List EvidenceSelectionRecord)
    (members : List EvidenceMemberRecord) (observations : List PendingObservation) :
    Option IdentifiedRecords := do
  let selectionIdsByKey :=
    Dict.ofList
      (selections.map (fun selection =>
        (selection.key, stableSelectionId evidenceSetId selection.key)))
  let membersWithIds ← members.mapM (identifyMember evidenceSetId selectionIdsByKey)
  let memberIdsByLocator :=
    Dict.ofList
      (membersWithIds.map (fun member => ((member.kind, member.locator), member.memberId)))
  let observationsWithIds ←
    observations.mapM (identifyObservation evidenceSetId memberIdsByLocator)
  some
    { selections := selections.map (identifySelection evidenceSetId)
      members := membersWithIds
      observations := observationsWithIds }

/-! ## The evidence set -/

section

variable (sha256 : String → String)

/-- Selections with their own fingerprints. -/
def finalizeSelections (records : IdentifiedRecords) : Option (List EvidenceSelectionRecord) :=
  let fingerprints :=
    selectionRecordFingerprints sha256 records.selections records.members records.observations
  records.selections.mapM (fun selection =>
    (fingerprints.get? selection.selectionId).map (fun fingerprint =>
      { selection with fingerprint := fingerprint }))

/-- The records in the order in which a set lists them. -/
def finishedSet (context : CaptureContext) (evidenceSetId selectionFingerprint : String)
    (records : IdentifiedRecords) : EvidenceSet where
  evidenceSetId := evidenceSetId
  selectionFingerprint := selectionFingerprint
  captureManifestFingerprint := context.captureManifestFingerprint
  evidenceSelectionRecords := sortedOn EvidenceSelectionRecord.selectionId records.selections
  evidenceMemberRecords :=
    sortedOn
      (fun member =>
        (toLex (member.selectionId, toLex (member.status.value, member.memberId)) :
          String ×ₗ String ×ₗ String))
      records.members
  evidenceObservationRecords :=
    sortedOn
      (fun observation =>
        (toLex (observation.memberId, observation.observationId) : String ×ₗ String))
      records.observations

/-- Ids and fingerprints of the collected records. -/
def assembleEvidenceSet (context : CaptureContext) (selections : List EvidenceSelectionRecord)
    (members : List EvidenceMemberRecord) (observations : List PendingObservation) :
    Option EvidenceSet := do
  let setId := stableEvidenceSetId context.profile.source context.profile.adapterId
    context.captureUid
  let provisionalSetId :=
    setId
      (selectionFingerprintForRecords sha256 selections members
        (observations.map PendingObservation.record))
  let records ← identifyRecords provisionalSetId selections members observations
  let finalizedSelections ← finalizeSelections sha256 records
  let selectionFingerprint :=
    selectionFingerprintForRecords sha256 finalizedSelections records.members records.observations
  let evidenceSetId := setId selectionFingerprint
  if evidenceSetId ≠ provisionalSetId then
    let final ← identifyRecords evidenceSetId finalizedSelections members observations
    some (finishedSet context evidenceSetId selectionFingerprint final)
  else
    some
      (finishedSet context evidenceSetId selectionFingerprint
        { records with selections := finalizedSelections })

/-- `some none` is the result without an evidence set. -/
def buildEvidenceSetForProfile (context : CaptureContext)
    (plannerResult : TranslationInputPlanningResult)
    (statementDocuments : StatementDocumentCollectionResult) : Option (Option EvidenceSet) := do
  if context.profile.adapterId ≠ "coinbase" then some none
  else
    let retailMembers ← retailMemberRecords context plannerResult
    let statementRecords ←
      statementDocuments.collectedDocuments.mapM (statementObservations context)
    let allSelections :=
      retailSelectionRecords plannerResult ++
        statementDocuments.collectedDocuments.map (statementSelection statementDocuments)
    let allMembers :=
      retailMembers ++ statementDocuments.collectedDocuments.map (statementMember context)
    if allSelections.isEmpty || allMembers.isEmpty then some none
    else
      (assembleEvidenceSet sha256 context allSelections allMembers statementRecords.flatten).map
        some

end

end Evidence
end Tallylot
