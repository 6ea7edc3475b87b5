import Tallylot.Evidence.Builder

/-!
# Reconstruction — a translation plan from an evidence set

The plan is read back from the retail members of an evidence set.  With the result of the planner at
hand, its order of the selected ids and its decisions are reused where they match the members.

`none` stands for an `IndexError`: a retail member whose locator is empty.
-/

namespace Tallylot
namespace Evidence

open Data Domain Translation

/-- `_candidate_id_from_locator` -/
def candidateIdFromLocator (locator : List String) : Option String :=
  locator.head?.map (fun path => "coinbase:retail_export:" ++ path)

def retailSelectionRecord (evidenceSet : EvidenceSet) : EvidenceSelectionRecord :=
  (evidenceSet.evidenceSelectionRecords.find? (fun selection => selection.key = retailKey)).getD
    { evidenceSetId := evidenceSet.evidenceSetId
      selectionId := evidenceSet.evidenceSetId ++ ":retail_activity_export_file"
      key := retailKey
      fingerprint := ""
      basis := .singleMember
      blockingGapRefs := [] }

def selectedDecisionReason (totalCandidates : Nat) (selectedCandidateIds : List String) : String :=
  if totalCandidates = 1 || 1 < selectedCandidateIds.length then
    "candidate is disjoint within its selection group"
  else "winner selected for deterministic translation input planning"

def supersededDecisionStatus (selection : EvidenceSelectionRecord) :
    TranslationPlanDecisionStatus :=
  if selection.basis = .duplicate then .supersededIdentical else .supersededReplaced

def blockedDecisionStatus (selection : EvidenceSelectionRecord) : TranslationPlanDecisionStatus :=
  let statuses : List TranslationPlanDecisionStatus :=
    [ .blockedUnknownCoverage, .blockedIncomparableCandidates, .blockedInvalidCandidate,
      .blockedPartialOverlap, .blockedAmbiguousFreshness ]
  match statuses.find? (fun status =>
      "translation_input_plan:" ++ status.text ∈ selection.blockingGapRefs) with
  | some status => status
  | none =>
      if selection.basis = .ambiguousOverlap then .blockedAmbiguousFreshness
      else .blockedIncomparableCandidates

def blockedDecisionReason : TranslationPlanDecisionStatus → String
  | .blockedUnknownCoverage =>
      "translation input planning cannot compare multiple candidates when " ++
        "any candidate has unknown event-time coverage"
  | .blockedIncomparableCandidates =>
      "overlapping candidates are marked incomparable by the adapter"
  | .blockedInvalidCandidate => "candidate validation errors prevent deterministic planning"
  | .blockedPartialOverlap =>
      "replaceable range candidates overlap, but the freshest winner does " ++
        "not fully supersede the overlapping set"
  | _ => "replaceable range candidates do not have a unique freshest winner"

def plannerStatusMatchesMember (memberStatus : EvidenceMemberStatus)
    (plannerStatus : TranslationPlanDecisionStatus) : Bool :=
  match memberStatus with
  | .selected => plannerStatus = .selected
  | .superseded => plannerStatus ∈ [.supersededIdentical, .supersededReplaced]
  | .blocked => plannerStatus.isBlocked

/-- The decision that stands for a member without a planner decision. -/
def memberDecision (selection : EvidenceSelectionRecord) (totalCandidates : Nat)
    (selectedCandidateIds : List String) (candidateId : String)
    (memberStatus : EvidenceMemberStatus) : TranslationPlanDecision :=
  match memberStatus with
  | .selected =>
      { candidateId := candidateId
        status := .selected
        reason := selectedDecisionReason totalCandidates selectedCandidateIds }
  | .superseded =>
      { candidateId := candidateId
        status := supersededDecisionStatus selection
        reason := "superseded by the selected translation input candidate" }
  | .blocked =>
      { candidateId := candidateId
        status := blockedDecisionStatus selection
        reason := blockedDecisionReason (blockedDecisionStatus selection) }

def plannerDecisionsByCandidate (planningResult : Option TranslationInputPlanningResult) :
    Dict String TranslationPlanDecision :=
  Dict.ofList
    ((planningResult.map (fun result => result.plan.decisions)).getD [] |>.map (fun decision =>
      (decision.candidateId, decision)))

/-- The decision about one retail member. -/
def reconstructedDecision (plannerDecisions : Dict String TranslationPlanDecision)
    (selection : EvidenceSelectionRecord) (totalCandidates : Nat)
    (selectedCandidateIds : List String) (candidateId : String)
    (memberStatus : EvidenceMemberStatus) : TranslationPlanDecision :=
  let rebuilt :=
    memberDecision selection totalCandidates selectedCandidateIds candidateId memberStatus
  match plannerDecisions.get? candidateId with
  | some decision =>
      if plannerStatusMatchesMember memberStatus decision.status then decision else rebuilt
  | none => rebuilt

section

variable {F : Type} [LinearOrder F] (env : PlannerEnvironment F)

/-- The selected ids in the order of the planner, where it knows them. -/
def plannerOrderedIds (selectedIds : List String) (result : TranslationInputPlanningResult) :
    List String :=
  let orderedIds := result.plan.selectedCandidateIds.filter (fun i => i ∈ selectedIds)
  if orderedIds.toFinset = selectedIds.toFinset then orderedIds
  else
    let candidatesById :=
      Dict.ofList
        (result.candidates.map (fun candidate => (candidate.candidateId, candidate)))
    let sortable := candidatesById.entries.filter (fun entry => entry.1 ∈ selectedIds)
    let orderedSortableIds :=
      (sortedOn (fun entry => selectedCandidateSortKey env entry.2) sortable).map Prod.fst
    orderedSortableIds ++
      sortedOn id (selectedIds.filter (fun i => i ∉ orderedSortableIds))

/-- `_selected_candidate_ids`, from the ids of the selected members. -/
def reconstructedSelectedIds (memberIds : List String)
    (planningResult : Option TranslationInputPlanningResult) : List String :=
  let selectedIds := memberIds.dedup
  match planningResult with
  | some result => if selectedIds = [] then [] else plannerOrderedIds env selectedIds result
  | none => sortedOn id selectedIds

def reconstructTranslationInputPlan (evidenceSet : EvidenceSet)
    (planningResult : Option TranslationInputPlanningResult) : Option TranslationInputPlan := do
  let retailMembers :=
    evidenceSet.evidenceMemberRecords.filter (fun member =>
      member.kind = .retailActivityExportFile)
  let keyed ← retailMembers.mapM (fun member =>
    (candidateIdFromLocator member.locator).map (fun candidateId => (candidateId, member)))
  let selectedCandidateIds :=
    reconstructedSelectedIds env
      ((keyed.filter (fun k => k.2.status = .selected)).map Prod.fst) planningResult
  let decisions :=
    (sortedOn (fun k => k.2.locator) keyed).map (fun k =>
      reconstructedDecision (plannerDecisionsByCandidate planningResult)
        (retailSelectionRecord evidenceSet) keyed.length selectedCandidateIds k.1 k.2.status)
  some
    { selectedCandidateIds := selectedCandidateIds
      decisions := sortedOn TranslationPlanDecision.candidateId decisions
      blocked := decisions.any (fun decision => decision.status.isBlocked) }

end

end Evidence
end Tallylot
