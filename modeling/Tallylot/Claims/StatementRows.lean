import Tallylot.Claims.CoinbaseStatements
import Tallylot.Evidence.Agreement

/-!
# StatementRows — the rows of selected statements in the evidence set

The evidence set holds the rows of the selected statement documents, each under the member of its
document.  The claims read them from there, member by member; documents whose locators have distinct
texts get back their own rows.
-/

namespace Tallylot
namespace Claims

open Data Evidence Translation
open Domain hiding EvidenceObservationRecord EvidenceSet

/-- Recognized statement documents with their statuses, and the issues of the collection. -/
structure StatementCollection where
  documents : List (RecognizedDocument × EvidenceMemberStatus)
  issues : List IssueRecord

namespace StatementCollection

def result (collection : StatementCollection) : StatementDocumentCollectionResult where
  collectedDocuments :=
    collection.documents.map (fun document => collectedDocument document.2 document.1)
  issues := collection.issues

def selected (collection : StatementCollection) : List RecognizedDocument :=
  (collection.documents.filter (fun document => document.2 = .selected)).map Prod.fst

end StatementCollection

/-- A row with its place in its document. -/
structure RowPlace where
  document : RecognizedDocument
  row : StatementDocumentBalanceRow
  index : Nat

def documentPlaces (document : RecognizedDocument) : List RowPlace :=
  document.2.rows.zipIdx.map (fun r => ⟨document, r.1, r.2⟩)

def rowPlaces (selected : List RecognizedDocument) : List RowPlace :=
  selected.flatMap documentPlaces

/-- The text of a document's locator, which the id of its member ends in. -/
def locatorText (document : RecognizedDocument) : String :=
  memberText .statementDocumentFile [document.1.locator.1, document.1.locator.2]

instance : Inhabited PendingObservation where
  default :=
    { memberKind := .statementDocumentFile
      memberLocator := []
      record :=
        { evidenceSetId := ""
          memberId := ""
          observationId := ""
          kind := .statementBalanceRow
          key := []
          observedAt := ⟨none, none, StatedTime.unstated_midnight⟩
          documentEffectiveAt := ⟨none, none, StatedTime.unstated_midnight⟩
          statementAsOf := ⟨none, none, StatedTime.unstated_midnight⟩ } }

/-- The observation of a row before ids are given. -/
def RowPlace.pending (place : RowPlace) : PendingObservation :=
  (rowObservation (collectedDocument .selected place.document) place.row place.index).getD default

/-- A row as it is found in the evidence set. -/
def observedAs (context : CaptureContext) (evidenceSetId : String) (place : RowPlace) :
    EvidenceMemberRecord × EvidenceObservationRecord :=
  (namedMember evidenceSetId (statementMember context (collectedDocument .selected place.document)),
    namedObservation evidenceSetId place.pending)

section

variable {sha256 : String → String} {context : CaptureContext}
  {plannerResult : TranslationInputPlanningResult} {collection : StatementCollection}
  {evidenceSet : EvidenceSet}

/-- The row observations of a collected document. -/
def pendingRows (context : CaptureContext) (document : CollectedStatementDocument) :
    List PendingObservation :=
  ((statementObservations context document).getD default).filter (fun observation =>
    observation.record.kind = .statementBalanceRow)

lemma rowObservation_eq_some {document : CollectedStatementDocument}
    {row : StatementDocumentBalanceRow} {index : Nat} {pending : PendingObservation}
    (h : rowObservation document row index = some pending) :
    ∃ observedAt, StatedTime.ofParts row.asOfAt (some row.asOfPrecision) = some observedAt ∧
      pending.memberKind = .statementDocumentFile ∧
      pending.memberLocator = document.locatorParts ∧
      pending.record.kind = .statementBalanceRow ∧ pending.record.key = [rowKey row index] ∧
      pending.record.observedAt = observedAt ∧ pending.record.locationGroupLabel = row.account ∧
      pending.record.locationLabel = row.wallet ∧ pending.record.balanceKind = row.balanceKind ∧
      pending.record.instrumentSymbol = row.asset ∧ pending.record.quantity = row.quantity := by
  simp only [rowObservation, Option.bind_eq_bind, Option.bind_eq_some_iff, Option.some.injEq] at h
  rcases h with ⟨observedAt, hstated, rfl⟩
  exact ⟨observedAt, hstated, rfl, rfl, rfl, rfl, rfl, rfl, rfl, rfl, rfl, rfl⟩

lemma documentObservation_kind {document : CollectedStatementDocument}
    {pending : PendingObservation} (h : documentObservation context document = some pending) :
    pending.record.kind = .statementDocument := by
  simp only [documentObservation, Option.bind_eq_bind, Option.bind_eq_some_iff,
    Option.some.injEq] at h
  rcases h with ⟨_, _, _, _, rfl⟩
  rfl

/-- A selected document gives its rows. -/
lemma pendingRows_selected {document : RecognizedDocument}
    (hsome : (statementObservations context (collectedDocument .selected document)).isSome) :
    pendingRows context (collectedDocument .selected document) =
        (documentPlaces document).map RowPlace.pending ∧
      ∀ place ∈ documentPlaces document, rowObservation (collectedDocument .selected document)
        place.row place.index = some place.pending := by
  rcases Option.isSome_iff_exists.1 hsome with ⟨observations, hobservations⟩
  have hselected : (collectedDocument .selected document).selected = true := rfl
  have hrun := hobservations
  simp only [statementObservations, hselected, if_true, Option.bind_eq_bind,
    Option.bind_eq_some_iff, Option.some.injEq] at hrun
  rcases hrun with ⟨first, hfirst, rows, hrows, rfl⟩
  rcases mapM_eq_some_iff.1 hrows with ⟨hall, rfl⟩
  have hplaces : ∀ place ∈ documentPlaces document,
      rowObservation (collectedDocument .selected document) place.row place.index =
        some place.pending := by
    intro place hplace
    rcases List.mem_map.1 hplace with ⟨r, hr, rfl⟩
    rcases Option.isSome_iff_exists.1 (hall r hr) with ⟨pending, hpending⟩
    rw [RowPlace.pending, hpending, Option.getD_some]
  refine ⟨?_, hplaces⟩
  have hkinds : ∀ observation ∈ (documentPlaces document).map RowPlace.pending,
      observation.record.kind = .statementBalanceRow := by
    intro observation hobservation
    rcases List.mem_map.1 hobservation with ⟨place, hplace, rfl⟩
    rcases rowObservation_eq_some (hplaces place hplace) with ⟨_, _, _, _, hkind, _⟩
    exact hkind
  have hlist : document.2.rows.zipIdx.map (fun r =>
      (rowObservation (collectedDocument .selected document) r.1 r.2).getD default) =
        (documentPlaces document).map RowPlace.pending := by
    rw [documentPlaces, List.map_map]
    rfl
  have hnot : ¬first.record.kind = .statementBalanceRow := by
    rw [documentObservation_kind hfirst]
    decide
  rw [pendingRows, hobservations, Option.getD_some, List.filter_cons_of_neg (by simpa using hnot)]
  rw [List.filter_eq_self.2 (fun observation hobservation => ?_)]
  · exact hlist
  · exact decide_eq_true (hkinds observation (hlist ▸ hobservation))

/-- Documents that are not selected have no rows in the evidence set. -/
lemma pendingRows_unselected {document : RecognizedDocument} {status : EvidenceMemberStatus}
    (h : status ≠ .selected) : pendingRows context (collectedDocument status document) = [] := by
  have hselected : (collectedDocument status document).selected = false := decide_eq_false h
  simp [pendingRows, statementObservations, hselected]

/-- The row observations of a collection are those of its selected documents. -/
lemma flatMap_pendingRows (documents : List (RecognizedDocument × EvidenceMemberStatus)) :
    (documents.map (fun document => collectedDocument document.2 document.1)).flatMap
        (pendingRows context) =
      ((documents.filter (fun document => document.2 = .selected)).map Prod.fst).flatMap
        (fun document => pendingRows context (collectedDocument .selected document)) := by
  induction documents with
  | nil => rfl
  | cons document documents ih =>
      rw [List.map_cons, List.flatMap_cons, ih]
      by_cases h : document.2 = .selected
      · rw [List.filter_cons_of_pos (by simpa using h), List.map_cons, List.flatMap_cons, h]
      · rw [List.filter_cons_of_neg (by simpa using h), pendingRows_unselected h, List.nil_append]

/-- The selected statement members are those of the selected documents. -/
lemma filter_statementMembers (documents : List (RecognizedDocument × EvidenceMemberStatus)) :
    (documents.map (fun document =>
        statementMember context (collectedDocument document.2 document.1))).filter (fun member =>
          member.kind = .statementDocumentFile ∧ member.status = .selected) =
      ((documents.filter (fun document => document.2 = .selected)).map Prod.fst).map
        (fun document => statementMember context (collectedDocument .selected document)) := by
  induction documents with
  | nil => rfl
  | cons document documents ih =>
      rcases document with ⟨recognized, status⟩
      rw [List.map_cons, List.filter_cons, List.filter_cons, ih]
      cases status <;> rfl

/-- The rows of the evidence set are the rows of the selected documents. -/
theorem rowObservations_perm
    (hbuild : buildEvidenceSetForProfile sha256 context plannerResult collection.result =
      some (some evidenceSet))
    (hapart : (collection.selected.map locatorText).Nodup) :
    (rowObservations evidenceSet).Perm
        ((rowPlaces collection.selected).map (observedAs context evidenceSet.evidenceSetId)) ∧
      ∀ place ∈ rowPlaces collection.selected,
        rowObservation (collectedDocument .selected place.document) place.row place.index =
          some place.pending := by
  rcases build_run hbuild with ⟨retailMembers, pending, hretail, hpending, hassemble, _⟩
  rcases assembleEvidenceSet_run sha256 context (linked_records hretail hpending) with
    ⟨assembled, hrun, hassembled, hobservations⟩
  rw [hassemble, Option.some.injEq] at hrun
  subst hrun
  rcases mapM_eq_some_iff.1 hpending with ⟨hall, hpendingRows⟩
  set setId := evidenceSet.evidenceSetId with hsetId
  have hsome : ∀ document ∈ collection.selected,
      (statementObservations context (collectedDocument .selected document)).isSome := by
    intro document hdocument
    rcases List.mem_map.1 hdocument with ⟨⟨recognized, status⟩, hmem, rfl⟩
    rcases List.mem_filter.1 hmem with ⟨hmem, hstatus⟩
    have hstatus : status = .selected := of_decide_eq_true hstatus
    exact hstatus ▸ hall _ (List.mem_map_of_mem hmem)
  refine ⟨?_, ?_⟩
  · -- The members of the set that are selected statements, and the rows under each of them.
    have hmembers : (evidenceSet.evidenceMemberRecords.filter (fun member =>
        member.kind = .statementDocumentFile ∧ member.status = .selected)).Perm
          (collection.selected.map (fun document =>
            namedMember setId (statementMember context (collectedDocument .selected document)))) := by
      have hnone : retailMembers.filter (fun member =>
          member.kind = .statementDocumentFile ∧ member.status = .selected) = [] := by
        refine List.filter_eq_nil_iff.2 (fun member hmember => ?_)
        rcases (mem_retailMemberRecords hretail).1 member hmember with ⟨_, _, hmade⟩
        rcases retailMember_eq_some.1 hmade with ⟨_, _, _, _, rfl⟩
        rw [decide_eq_true_eq]
        rintro ⟨hkind, _⟩
        cases hkind
      refine (hassembled.members_perm.filter _).trans (List.Perm.of_eq ?_)
      rw [List.filter_map]
      have hfilter : (allMembers context retailMembers collection.result).filter (fun member =>
          member.kind = .statementDocumentFile ∧ member.status = .selected) =
            collection.selected.map (fun document =>
              statementMember context (collectedDocument .selected document)) := by
        rw [allMembers, List.filter_append, hnone, List.nil_append, StatementCollection.result,
          List.map_map]
        exact filter_statementMembers collection.documents
      refine (congrArg (List.map (namedMember setId)) hfilter).trans ?_
      rw [List.map_map]
      rfl
    have hrows : ∀ document ∈ collection.selected,
        (evidenceSet.evidenceObservationRecords.filter (fun observation =>
          observation.memberId = (namedMember setId (statementMember context
            (collectedDocument .selected document))).memberId ∧
              observation.kind = .statementBalanceRow)).Perm
          ((documentPlaces document).map (fun place =>
            namedObservation setId place.pending)) := by
      intro document hdocument
      refine (hobservations.filter _).trans (List.Perm.of_eq ?_)
      have htext : ∀ observation : PendingObservation,
          (namedObservation setId observation).memberId = (namedMember setId
            (statementMember context (collectedDocument .selected document))).memberId ↔
              observation.memberText = locatorText document :=
        fun observation => stableMemberId_inj setId
      have hfilter : (pending.flatten.filter (fun observation =>
          observation.record.kind = .statementBalanceRow)).filter (fun observation =>
            observation.memberText = locatorText document) =
              (documentPlaces document).map RowPlace.pending := by
        have hpart : ∀ other ∈ collection.selected,
            ∀ observation ∈ pendingRows context (collectedDocument .selected other),
              observation.memberText = locatorText other := by
          intro other hother observation hobservation
          rcases Option.isSome_iff_exists.1 (hsome other hother) with ⟨observations, hrun⟩
          have hmem := List.mem_of_mem_filter hobservation
          rw [hrun, Option.getD_some] at hmem
          rcases statementObservations_locator hrun observation hmem with ⟨hkind, hlocator⟩
          rw [PendingObservation.memberText, hkind, hlocator]
          rfl
        rw [hpendingRows, ← List.flatMap_def, List.filter_flatMap]
        refine (congrArg (List.filter _) (flatMap_pendingRows collection.documents)).trans ?_
        refine (filter_flatMap_key hpart _).trans ?_
        rw [filter_key_eq_singleton hapart hdocument, List.flatMap_singleton]
        exact (pendingRows_selected (hsome document hdocument)).1
      rw [List.filter_map]
      refine (congrArg (List.map (namedObservation setId)) ?_).trans (List.map_map ..)
      rw [← hfilter, List.filter_filter]
      refine List.filter_congr (fun observation _ => ?_)
      rw [Function.comp_apply, ← Bool.decide_and]
      exact decide_eq_decide.2 (and_congr_left' (htext observation))
    refine (hmembers.flatMap_right _).trans ?_
    rw [rowPlaces, List.map_flatMap, List.flatMap_map]
    refine List.Perm.flatMap_left _ (fun document hdocument => ?_)
    refine ((hrows document hdocument).map _).trans (List.Perm.of_eq ?_)
    rw [List.map_map]
    refine List.map_congr_left (fun place hplace => ?_)
    rcases List.mem_map.1 hplace with ⟨r, _, rfl⟩
    rfl
  · intro place hplace
    rcases List.mem_flatMap.1 hplace with ⟨document, hdocument, hplace⟩
    have hdoc : place.document = document := by
      rcases List.mem_map.1 hplace with ⟨r, _, rfl⟩
      rfl
    rw [hdoc]
    exact (pendingRows_selected (hsome document hdocument)).2 place hplace

end

end Claims
end Tallylot
