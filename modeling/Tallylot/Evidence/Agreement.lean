import Tallylot.Evidence.Fingerprints
import Tallylot.Evidence.Reconstruction
import Tallylot.Translation.Soundness

/-!
# Agreement — evidence sets and translation plans

An evidence set of a Coinbase capture keeps what the translation plan decided, and its id does not
depend on the order in which candidates, decisions and documents were collected
(`evidence_set_agrees`).  The second part needs the locators of the documents to stay apart when
they are joined with colons; `reordered_documents` shows two that do not.
-/

namespace Tallylot
namespace Evidence

open Data Domain Translation

/-- What the Coinbase adapter fixes of a candidate: one member file, which gives the id. -/
def IsRetailCandidate (candidate : TranslationInputCandidate) : Prop :=
  ∃ path, candidate.memberRelativePaths = [path] ∧
    candidate.candidateId = "coinbase:retail_export:" ++ path

/-! ## What the builder collects -/

section

variable {sha256 : String → String} {context : CaptureContext}
  {plannerResult : TranslationInputPlanningResult} {documents : StatementDocumentCollectionResult}

/-- The selections of a capture. -/
def allSelections (plannerResult : TranslationInputPlanningResult)
    (documents : StatementDocumentCollectionResult) : List EvidenceSelectionRecord :=
  retailSelectionRecords plannerResult ++
    documents.collectedDocuments.map (statementSelection documents)

/-- The members of a capture, after its retail members. -/
def allMembers (context : CaptureContext) (retailMembers : List EvidenceMemberRecord)
    (documents : StatementDocumentCollectionResult) : List EvidenceMemberRecord :=
  retailMembers ++ documents.collectedDocuments.map (statementMember context)

lemma mem_retailMemberRecords {retailMembers : List EvidenceMemberRecord}
    (hrun : retailMemberRecords context plannerResult = some retailMembers) :
    (∀ member ∈ retailMembers, ∃ candidate ∈ plannerResult.candidates,
      retailMember context plannerResult.plan.decisions candidate = some member) ∧
    ∀ candidate ∈ plannerResult.candidates, ∃ member ∈ retailMembers,
      retailMember context plannerResult.plan.decisions candidate = some member := by
  rcases Option.map_eq_some_iff.1 hrun with ⟨members, hmapM, rfl⟩
  rcases mapM_some_pairs hmapM with ⟨pairs, hfst, hsnd, hpairs⟩
  constructor
  · intro member hmember
    rw [mem_sortedOn, ← hsnd] at hmember
    rcases List.mem_map.1 hmember with ⟨p, hp, rfl⟩
    exact ⟨p.1, hfst ▸ List.mem_map_of_mem hp, hpairs p hp⟩
  · intro candidate hcandidate
    rw [← hfst] at hcandidate
    rcases List.mem_map.1 hcandidate with ⟨p, hp, rfl⟩
    exact ⟨p.2, mem_sortedOn.2 (hsnd ▸ List.mem_map_of_mem hp), hpairs p hp⟩

lemma retailMember_eq_some {decisions : List TranslationPlanDecision}
    {candidate : TranslationInputCandidate} {member : EvidenceMemberRecord} :
    retailMember context decisions candidate = some member ↔
      ∃ decision path,
        decisions.find? (fun item => item.candidateId = candidate.candidateId) = some decision ∧
        candidate.memberRelativePaths.head? = some path ∧
        member = context.memberRecord .retailActivityExportFile [path, ""]
          (retailMemberStatus decision.status) := by
  simp [retailMember, Option.bind_eq_some_iff, @eq_comm _ member]

/-- The pending observations of a document carry its locator. -/
lemma statementObservations_locator {document : CollectedStatementDocument}
    {pending : List PendingObservation}
    (hrun : statementObservations context document = some pending) :
    ∀ observation ∈ pending, observation.memberKind = .statementDocumentFile ∧
      observation.memberLocator = document.locatorParts := by
  have hdocument : ∀ {observation}, documentObservation context document = some observation →
      observation.memberKind = .statementDocumentFile ∧
        observation.memberLocator = document.locatorParts := by
    intro observation h
    simp only [documentObservation, Option.bind_eq_bind, Option.bind_eq_some_iff,
      Option.some.injEq] at h
    rcases h with ⟨_, _, _, _, rfl⟩
    exact ⟨rfl, rfl⟩
  have hrow : ∀ {row index observation}, rowObservation document row index = some observation →
      observation.memberKind = .statementDocumentFile ∧
        observation.memberLocator = document.locatorParts := by
    intro row index observation h
    simp only [rowObservation, Option.bind_eq_bind, Option.bind_eq_some_iff,
      Option.some.injEq] at h
    rcases h with ⟨_, _, rfl⟩
    exact ⟨rfl, rfl⟩
  unfold statementObservations at hrun
  split_ifs at hrun
  · simp only [Option.bind_eq_bind, Option.bind_eq_some_iff, Option.some.injEq] at hrun
    rcases hrun with ⟨first, hfirst, rows, hrows, rfl⟩
    intro observation hobservation
    rcases List.mem_cons.1 hobservation with rfl | hmem
    · exact hdocument hfirst
    · rcases mapM_some_pairs hrows with ⟨pairs, _, hsnd, hpairs⟩
      rw [← hsnd] at hmem
      rcases List.mem_map.1 hmem with ⟨p, hp, rfl⟩
      exact hrow (hpairs p hp)
  · cases hrun
    simp

lemma mem_allMembers {retailMembers : List EvidenceMemberRecord}
    (hrun : retailMemberRecords context plannerResult = some retailMembers)
    {member : EvidenceMemberRecord} (hmember : member ∈ allMembers context retailMembers documents) :
    (member ∈ retailMembers ∧ plannerResult.candidates ≠ [] ∧
        member.kind = .retailActivityExportFile) ∨
      ∃ document ∈ documents.collectedDocuments, member = statementMember context document := by
  rcases List.mem_append.1 hmember with hretail | hstatement
  · rcases (mem_retailMemberRecords hrun).1 member hretail with ⟨candidate, hcandidate, hmade⟩
    rcases retailMember_eq_some.1 hmade with ⟨_, _, _, _, rfl⟩
    exact Or.inl ⟨hretail, List.ne_nil_of_mem hcandidate, rfl⟩
  · rcases List.mem_map.1 hstatement with ⟨document, hdocument, rfl⟩
    exact Or.inr ⟨document, hdocument, rfl⟩

/-- Members of a capture are told by their kind, locator and status. -/
lemma memberRecord_of_mem {retailMembers : List EvidenceMemberRecord}
    (hrun : retailMemberRecords context plannerResult = some retailMembers)
    {member : EvidenceMemberRecord} (hmember : member ∈ allMembers context retailMembers documents) :
    member = context.memberRecord member.kind member.locator member.status := by
  rcases mem_allMembers hrun hmember with ⟨hretail, _, _⟩ | ⟨document, _, rfl⟩
  · rcases (mem_retailMemberRecords hrun).1 member hretail with ⟨candidate, _, hmade⟩
    rcases retailMember_eq_some.1 hmade with ⟨_, _, _, _, rfl⟩
    rfl
  · rfl

/-- The collected records are linked. -/
lemma linked_records {retailMembers : List EvidenceMemberRecord}
    {pending : List (List PendingObservation)}
    (hretail : retailMemberRecords context plannerResult = some retailMembers)
    (hpending : documents.collectedDocuments.mapM (statementObservations context) = some pending) :
    Linked (allSelections plannerResult documents) (allMembers context retailMembers documents)
      pending.flatten := by
  have hretailSelection : plannerResult.candidates ≠ [] →
      retailKey ∈ (allSelections plannerResult documents).map EvidenceSelectionRecord.key := by
    intro hne
    simp [allSelections, retailSelectionRecords, hne]
  have hstatement : ∀ document ∈ documents.collectedDocuments,
      statementKey document.locatorParts ∈
        (allSelections plannerResult documents).map EvidenceSelectionRecord.key := by
    intro document hdocument
    have hmem : statementSelection documents document ∈ allSelections plannerResult documents :=
      List.mem_append_right _ (List.mem_map_of_mem hdocument)
    exact List.mem_map_of_mem hmem
  constructor
  · intro selection hselection
    rcases List.mem_append.1 hselection with hmem | hmem
    · unfold retailSelectionRecords at hmem
      split_ifs at hmem
      · simp at hmem
      · rw [List.mem_singleton.1 hmem]
        simp [retailKey]
    · rcases List.mem_map.1 hmem with ⟨document, _, rfl⟩
      simp [statementSelection, statementKey]
  · intro member hmember
    rcases mem_allMembers hretail hmember with ⟨_, hne, hkind⟩ | ⟨document, hdocument, rfl⟩
    · rw [memberSelectionKey, hkind]
      exact hretailSelection hne
    · exact hstatement document hdocument
  · intro observation hobservation
    rcases mapM_some_pairs hpending with ⟨pairs, hfst, hsnd, hpairs⟩
    rw [← hsnd] at hobservation
    rcases List.mem_flatten.1 hobservation with ⟨observations, hmem, hobs⟩
    rcases List.mem_map.1 hmem with ⟨p, hp, rfl⟩
    have hdocument : p.1 ∈ documents.collectedDocuments := hfst ▸ List.mem_map_of_mem hp
    rcases statementObservations_locator (hpairs p hp) observation hobs with ⟨hkind, hlocator⟩
    refine ⟨statementMember context p.1, List.mem_append_right _ (List.mem_map_of_mem hdocument),
      ?_⟩
    rw [hkind, hlocator]
    rfl

/-- A run that gives an evidence set collects records and assembles the set from them. -/
lemma build_run {evidenceSet : EvidenceSet}
    (hbuild : buildEvidenceSetForProfile sha256 context plannerResult documents =
      some (some evidenceSet)) :
    ∃ retailMembers pending,
      retailMemberRecords context plannerResult = some retailMembers ∧
      documents.collectedDocuments.mapM (statementObservations context) = some pending ∧
      assembleEvidenceSet sha256 context (allSelections plannerResult documents)
        (allMembers context retailMembers documents) pending.flatten = some evidenceSet ∧
      context.profile.adapterId = "coinbase" ∧ allSelections plannerResult documents ≠ [] ∧
      allMembers context retailMembers documents ≠ [] := by
  unfold buildEvidenceSetForProfile at hbuild
  split_ifs at hbuild with hadapter
  · simp at hbuild
  · simp only [Option.bind_eq_bind, Option.bind_eq_some_iff] at hbuild
    rcases hbuild with ⟨retailMembers, hretail, pending, hpending, hrest⟩
    split_ifs at hrest with hempty
    · simp at hrest
    · rcases Option.map_eq_some_iff.1 hrest with ⟨assembled, hassembled, hsome⟩
      rw [Option.some.inj hsome] at hassembled
      have hne : allSelections plannerResult documents ≠ [] ∧
          allMembers context retailMembers documents ≠ [] := by
        simpa [allSelections, allMembers] using hempty
      exact ⟨retailMembers, pending, hretail, hpending, hassembled, not_not.1 hadapter, hne.1,
        hne.2⟩

/-- A run that gives an evidence set, as the collected records and the set assembled from them. -/
theorem build_spec {evidenceSet : EvidenceSet}
    (hbuild : buildEvidenceSetForProfile sha256 context plannerResult documents =
      some (some evidenceSet)) :
    ∃ retailMembers pending,
      retailMemberRecords context plannerResult = some retailMembers ∧
      documents.collectedDocuments.mapM (statementObservations context) = some pending ∧
      Assembled sha256 context (allSelections plannerResult documents)
        (allMembers context retailMembers documents) pending.flatten evidenceSet ∧
      context.profile.adapterId = "coinbase" ∧ allSelections plannerResult documents ≠ [] ∧
      allMembers context retailMembers documents ≠ [] := by
  rcases build_run hbuild with ⟨retailMembers, pending, hretail, hpending, hassembled, hrest⟩
  rcases assembleEvidenceSet_spec sha256 context (linked_records hretail hpending) with
    ⟨assembled, hrun, hspec⟩
  rw [hassembled, Option.some.injEq] at hrun
  exact ⟨retailMembers, pending, hretail, hpending, hrun ▸ hspec, hrest⟩

/-- Collected records give an evidence set. -/
theorem build_of_records {retailMembers : List EvidenceMemberRecord}
    {pending : List (List PendingObservation)}
    (hadapter : context.profile.adapterId = "coinbase")
    (hretail : retailMemberRecords context plannerResult = some retailMembers)
    (hpending : documents.collectedDocuments.mapM (statementObservations context) = some pending)
    (hselections : allSelections plannerResult documents ≠ [])
    (hmembers : allMembers context retailMembers documents ≠ []) :
    ∃ evidenceSet,
      buildEvidenceSetForProfile sha256 context plannerResult documents =
        some (some evidenceSet) ∧
      Assembled sha256 context (allSelections plannerResult documents)
        (allMembers context retailMembers documents) pending.flatten evidenceSet := by
  rcases assembleEvidenceSet_spec sha256 context (linked_records hretail hpending) with
    ⟨evidenceSet, hassembled, hspec⟩
  refine ⟨evidenceSet, ?_, hspec⟩
  have hselections' := hselections
  have hmembers' := hmembers
  unfold allSelections at hselections' hassembled
  unfold allMembers at hmembers' hassembled
  simp_all [buildEvidenceSetForProfile]

end

/-! ## Plans -/

/-- The three classes of statuses: selected, superseded and blocked. -/
def SameClass (left right : TranslationPlanDecisionStatus) : Prop :=
  (left = .selected ↔ right = .selected) ∧ left.isSuperseded = right.isSuperseded ∧
    left.isBlocked = right.isBlocked

instance (left right : TranslationPlanDecisionStatus) : Decidable (SameClass left right) :=
  inferInstanceAs (Decidable (_ ∧ _))

/-- Two plans for the same candidates select and block alike. -/
structure PlansAgree (candidates : List TranslationInputCandidate)
    (plan rebuilt : TranslationInputPlan) : Prop where
  selected : ∀ i, i ∈ rebuilt.selectedCandidateIds ↔ i ∈ plan.selectedCandidateIds
  decided : ∀ c ∈ candidates, ∃ d ∈ plan.decisions, ∃ d' ∈ rebuilt.decisions,
    d.candidateId = c.candidateId ∧ d'.candidateId = c.candidateId
  classes : ∀ d ∈ plan.decisions, ∀ d' ∈ rebuilt.decisions, d.candidateId = d'.candidateId →
    SameClass d.status d'.status
  blocked : rebuilt.blocked = plan.blocked

lemma blockedDecisionStatus_isBlocked (selection : EvidenceSelectionRecord) :
    (blockedDecisionStatus selection).isBlocked = true := by
  simp only [blockedDecisionStatus]
  split
  · rename_i status hfind
    have hmem := List.mem_of_find?_eq_some hfind
    simp only [List.mem_cons, List.not_mem_nil, or_false] at hmem
    rcases hmem with rfl | rfl | rfl | rfl | rfl <;> decide
  · split_ifs <;> decide

/-- A member keeps the class of its decision, and the decision made from the member gets it back. -/
lemma memberDecision_sameClass (selection : EvidenceSelectionRecord) (total : Nat)
    (selectedIds : List String) (i : String) (status : TranslationPlanDecisionStatus) :
    SameClass status
      (memberDecision selection total selectedIds i (retailMemberStatus status)).status := by
  have hstatus : retailMemberStatus status = .selected ∧ status = .selected ∨
      retailMemberStatus status = .superseded ∧
        (status = .supersededIdentical ∨ status = .supersededReplaced) ∨
      retailMemberStatus status = .blocked ∧ status ≠ .selected ∧ status.isSuperseded = false ∧
        status.isBlocked = true := by
    cases status <;> decide
  rcases hstatus with ⟨hmember, rfl⟩ | ⟨hmember, hsup⟩ | ⟨hmember, hne, hsup, hblocked⟩
  · rw [hmember]
    exact ⟨Iff.rfl, rfl, rfl⟩
  · rw [hmember]
    have hback : supersededDecisionStatus selection = .supersededIdentical ∨
        supersededDecisionStatus selection = .supersededReplaced := by
      unfold supersededDecisionStatus
      split_ifs <;> simp
    simp only [memberDecision]
    rcases hsup with rfl | rfl <;> rcases hback with hback | hback <;> rw [hback] <;> decide
  · rw [hmember]
    have hback := blockedDecisionStatus_isBlocked selection
    simp only [memberDecision]
    rcases (blockedDecisionStatus selection).cases_of_status with h | h | h
    · exact absurd hback (by simp [h.2.2])
    · exact absurd hback (by simp [h.2.2])
    · exact ⟨iff_of_false hne h.1, by rw [hsup, h.2.1], by rw [hblocked, hback]⟩

lemma sameClass_blocked {left right : TranslationPlanDecisionStatus} (h : SameClass left right) :
    left.isBlocked = right.isBlocked := h.2.2

/-- The retail members of a set, as far as a plan is read back from them: each comes from a
decision, and each decision has one. -/
structure MembersOf (evidenceSet : EvidenceSet) (decisions : List TranslationPlanDecision) :
    Prop where
  member : ∀ member ∈ evidenceSet.evidenceMemberRecords,
    member.kind = .retailActivityExportFile →
      ∃ d ∈ decisions, candidateIdFromLocator member.locator = some d.candidateId ∧
        member.status = retailMemberStatus d.status
  decision : ∀ d ∈ decisions, ∃ member ∈ evidenceSet.evidenceMemberRecords,
    member.kind = .retailActivityExportFile ∧
      candidateIdFromLocator member.locator = some d.candidateId ∧
        member.status = retailMemberStatus d.status

section

variable {F : Type} [LinearOrder F] (env : PlannerEnvironment F)

lemma status_selected_iff (status : TranslationPlanDecisionStatus) :
    retailMemberStatus status = .selected ↔ status = .selected := by
  cases status <;> decide

omit [LinearOrder F] in
/-- The retail members with their candidate ids correspond to the decisions. -/
lemma keyed_members {evidenceSet : EvidenceSet} {decisions : List TranslationPlanDecision}
    (h : MembersOf evidenceSet decisions) :
    ∃ keyed : List (String × EvidenceMemberRecord),
      (evidenceSet.evidenceMemberRecords.filter (fun member =>
          member.kind = .retailActivityExportFile)).mapM (fun member =>
        (candidateIdFromLocator member.locator).map (fun candidateId => (candidateId, member))) =
          some keyed ∧
      (∀ k ∈ keyed, ∃ d ∈ decisions, d.candidateId = k.1 ∧
        k.2.status = retailMemberStatus d.status) ∧
      ∀ d ∈ decisions, ∃ k ∈ keyed, d.candidateId = k.1 ∧
        k.2.status = retailMemberStatus d.status := by
  have hstep : ∀ member ∈ evidenceSet.evidenceMemberRecords.filter (fun member =>
        member.kind = .retailActivityExportFile), ∃ k : String × EvidenceMemberRecord,
      (candidateIdFromLocator member.locator).map (fun candidateId => (candidateId, member)) =
        some k ∧ (candidateIdFromLocator member.locator = some k.1 ∧ k.2 = member) := by
    intro member hmember
    rcases List.mem_filter.1 hmember with ⟨hmem, hkind⟩
    rcases h.member member hmem (of_decide_eq_true hkind) with ⟨d, _, hid, _⟩
    exact ⟨(d.candidateId, member), by rw [hid]; rfl, hid, rfl⟩
  rcases mapM_pairs hstep with ⟨pairs, hmapM, hfst, hpairs⟩
  refine ⟨pairs.map Prod.snd, hmapM, ?_, ?_⟩
  · intro k hk
    rcases List.mem_map.1 hk with ⟨p, hp, rfl⟩
    rcases hpairs p hp with ⟨hid, hsame⟩
    have hmember : p.1 ∈ pairs.map Prod.fst := List.mem_map_of_mem hp
    rw [hfst] at hmember
    rcases List.mem_filter.1 hmember with ⟨hmem, hkind⟩
    rcases h.member p.1 hmem (of_decide_eq_true hkind) with ⟨d, hd, hid', hstatus⟩
    exact ⟨d, hd, Option.some.inj (hid'.symm.trans hid), by rw [hsame, hstatus]⟩
  · intro d hd
    rcases h.decision d hd with ⟨member, hmem, hkind, hid, hstatus⟩
    have hmember : member ∈ pairs.map Prod.fst := by
      rw [hfst]
      exact List.mem_filter.2 ⟨hmem, by simpa using hkind⟩
    rcases List.mem_map.1 hmember with ⟨p, hp, rfl⟩
    rcases hpairs p hp with ⟨hid', hsame⟩
    exact ⟨p.2, List.mem_map_of_mem hp, Option.some.inj (hid.symm.trans hid'),
      by rw [hsame, hstatus]⟩

/-- The plan rebuilt from the members agrees with the plan the members were made from. -/
theorem rebuilt_agrees {evidenceSet : EvidenceSet} {plan : TranslationInputPlan}
    {candidates : List TranslationInputCandidate}
    (hmembers : MembersOf evidenceSet plan.decisions)
    (hnd : (plan.decisions.map TranslationPlanDecision.candidateId).Nodup)
    (hdecided : ∀ i, i ∈ plan.decisions.map TranslationPlanDecision.candidateId ↔
      i ∈ candidates.map TranslationInputCandidate.candidateId)
    (hselected : ∀ i, i ∈ plan.selectedCandidateIds ↔
      ∃ d ∈ plan.decisions, d.candidateId = i ∧ d.status = .selected)
    (hblocked : plan.blocked = plan.decisions.any (fun d => d.status.isBlocked)) :
    ∃ rebuilt, reconstructTranslationInputPlan env evidenceSet none = some rebuilt ∧
      PlansAgree candidates plan rebuilt := by
  rcases keyed_members hmembers with ⟨keyed, hkeyed, hback, hforth⟩
  refine ⟨_, by simp only [reconstructTranslationInputPlan, hkeyed,
    Option.bind_eq_bind, Option.bind_some]; rfl, ?_⟩
  have hrebuilt : ∀ k : String × EvidenceMemberRecord, ∀ selection total selectedIds,
      reconstructedDecision (plannerDecisionsByCandidate none) selection total selectedIds k.1
        k.2.status = memberDecision selection total selectedIds k.1 k.2.status := by
    intro k selection total selectedIds
    rfl
  have hids : ∀ selection total selectedIds i status,
      (memberDecision selection total selectedIds i status).candidateId = i := by
    intro selection total selectedIds i status
    cases status <;> rfl
  simp only [hrebuilt]
  constructor
  · intro i
    rw [hselected]
    simp only [reconstructedSelectedIds, mem_sortedOn, List.mem_dedup, List.mem_map,
      List.mem_filter, decide_eq_true_eq]
    constructor
    · rintro ⟨k, ⟨hk, hsel⟩, rfl⟩
      rcases hback k hk with ⟨d, hd, hid, hstatus⟩
      exact ⟨d, hd, hid, (status_selected_iff _).1 (hstatus ▸ hsel)⟩
    · rintro ⟨d, hd, rfl, hsel⟩
      rcases hforth d hd with ⟨k, hk, hid, hstatus⟩
      exact ⟨k, ⟨hk, hstatus ▸ (status_selected_iff _).2 hsel⟩, hid.symm⟩
  · intro c hc
    rcases List.mem_map.1 ((hdecided _).2 (List.mem_map_of_mem hc)) with ⟨d, hd, hid⟩
    rcases hforth d hd with ⟨k, hk, hkid, _⟩
    refine ⟨d, hd, _, mem_sortedOn.2 (List.mem_map.2 ⟨k, mem_sortedOn.2 hk, rfl⟩), hid, ?_⟩
    rw [hids, ← hkid, hid]
  · intro d hd d' hd' hid
    rcases List.mem_map.1 (mem_sortedOn.1 hd') with ⟨k, hk, rfl⟩
    rcases hback k (mem_sortedOn.1 hk) with ⟨source, hsource, hsid, hstatus⟩
    rw [hids] at hid
    have hsame : source = d :=
      List.inj_on_of_nodup_map hnd hsource hd (hsid.trans hid.symm)
    rw [← hsame, hstatus]
    exact memberDecision_sameClass _ _ _ _ _
  · rw [hblocked, Bool.eq_iff_iff]
    simp only [List.any_eq_true, List.mem_map]
    constructor
    · rintro ⟨_, ⟨k, hk, rfl⟩, hb⟩
      rcases hback k (mem_sortedOn.1 hk) with ⟨d, hd, _, hstatus⟩
      rw [hstatus] at hb
      exact ⟨d, hd, (sameClass_blocked (memberDecision_sameClass _ _ _ _ _)).trans hb⟩
    · rintro ⟨d, hd, hb⟩
      rcases hforth d hd with ⟨k, hk, _, hstatus⟩
      refine ⟨_, ⟨k, mem_sortedOn.2 hk, rfl⟩, ?_⟩
      rw [hstatus]
      exact (sameClass_blocked (memberDecision_sameClass _ _ _ _ _)).symm.trans hb

end

section

variable {sha256 : String → String} {context : CaptureContext}
  {plannerResult : TranslationInputPlanningResult} {documents : StatementDocumentCollectionResult}

lemma retailMember_spec {candidate : TranslationInputCandidate} {member : EvidenceMemberRecord}
    (hshape : IsRetailCandidate candidate)
    (hmade : retailMember context plannerResult.plan.decisions candidate = some member) :
    ∃ d ∈ plannerResult.plan.decisions, d.candidateId = candidate.candidateId ∧
      candidateIdFromLocator member.locator = some candidate.candidateId ∧
      member.kind = .retailActivityExportFile ∧ member.status = retailMemberStatus d.status := by
  rcases retailMember_eq_some.1 hmade with ⟨d, path, hfind, hpath, rfl⟩
  rcases hshape with ⟨path', hpaths, hid⟩
  have hsame : path' = path := by simpa [hpaths] using hpath
  have hfound : d.candidateId = candidate.candidateId := by
    simpa using List.find?_some hfind
  refine ⟨d, List.mem_of_find?_eq_some hfind, hfound, ?_, rfl, rfl⟩
  rw [hid, hsame]
  rfl

/-- Retail members exist for every decided retail candidate. -/
lemma retailMemberRecords_defined (context : CaptureContext)
    (hshape : ∀ c ∈ plannerResult.candidates, IsRetailCandidate c)
    (hdecided : ∀ i ∈ plannerResult.candidates.map TranslationInputCandidate.candidateId,
      i ∈ plannerResult.plan.decisions.map TranslationPlanDecision.candidateId) :
    ∃ retailMembers, retailMemberRecords context plannerResult = some retailMembers := by
  have hstep : ∀ c ∈ plannerResult.candidates, ∃ member,
      retailMember context plannerResult.plan.decisions c = some member ∧ True := by
    intro c hc
    rcases hshape c hc with ⟨path, hpaths, _⟩
    rcases List.mem_map.1 (hdecided _ (List.mem_map_of_mem hc)) with ⟨d, hd, hid⟩
    cases hfind : plannerResult.plan.decisions.find? (fun item =>
        item.candidateId = c.candidateId) with
    | none => exact absurd hid (by simpa using List.find?_eq_none.1 hfind d hd)
    | some d' =>
        exact ⟨_, retailMember_eq_some.2 ⟨d', path, hfind, by rw [hpaths]; rfl, rfl⟩, trivial⟩
  rcases mapM_pairs hstep with ⟨pairs, hmapM, _, _⟩
  exact ⟨_, by rw [retailMemberRecords, hmapM, Option.map_some]⟩

lemma membersOf_assembled {retailMembers : List EvidenceMemberRecord}
    {pending : List PendingObservation} {evidenceSet : EvidenceSet}
    (hassembled : Assembled sha256 context (allSelections plannerResult documents)
      (allMembers context retailMembers documents) pending evidenceSet)
    (hretail : retailMemberRecords context plannerResult = some retailMembers)
    (hshape : ∀ c ∈ plannerResult.candidates, IsRetailCandidate c)
    (hnd : (plannerResult.plan.decisions.map TranslationPlanDecision.candidateId).Nodup)
    (hdecided : ∀ i, i ∈ plannerResult.plan.decisions.map TranslationPlanDecision.candidateId →
      i ∈ plannerResult.candidates.map TranslationInputCandidate.candidateId) :
    MembersOf evidenceSet plannerResult.plan.decisions := by
  have hmade := mem_retailMemberRecords hretail
  constructor
  · intro member hmember hkind
    rcases List.mem_map.1 (hassembled.members_perm.mem_iff.1 hmember) with ⟨source, hsource, rfl⟩
    rcases mem_allMembers hretail hsource with ⟨hsource, _, _⟩ | ⟨document, _, rfl⟩
    · rcases hmade.1 source hsource with ⟨c, hc, hmade⟩
      rcases retailMember_spec (hshape c hc) hmade with ⟨d, hd, hid, hlocator, _, hstatus⟩
      exact ⟨d, hd, hlocator.trans (congrArg some hid.symm), hstatus⟩
    · cases hkind
  · intro d hd
    rcases List.mem_map.1 (hdecided _ (List.mem_map_of_mem hd)) with ⟨c, hc, hcd⟩
    rcases hmade.2 c hc with ⟨member, hmember, hmade⟩
    rcases retailMember_spec (hshape c hc) hmade with ⟨d', hd', hid, hlocator, hkind, hstatus⟩
    have hsame : d' = d := List.inj_on_of_nodup_map hnd hd' hd (hid.trans hcd)
    subst hsame
    refine ⟨namedMember evidenceSet.evidenceSetId member, ?_, hkind, ?_, hstatus⟩
    · exact hassembled.members_perm.mem_iff.2
        (List.mem_map_of_mem (List.mem_append_left _ hmember))
    · exact hlocator.trans (congrArg some hid.symm)

end

/-! ## The order in which records were collected -/

section

variable {plannerResult : TranslationInputPlanningResult}
  {decisions' : List TranslationPlanDecision}

/-- The same result with candidates and decisions in another order. -/
def reordered (plannerResult : TranslationInputPlanningResult)
    (candidates' : List TranslationInputCandidate) (decisions' : List TranslationPlanDecision) :
    TranslationInputPlanningResult :=
  { plannerResult with
    candidates := candidates'
    plan := { plannerResult.plan with decisions := decisions' } }

lemma find?_decision (hnd : (plannerResult.plan.decisions.map
      TranslationPlanDecision.candidateId).Nodup)
    (hdecisions : plannerResult.plan.decisions.Perm decisions') (i : String) :
    decisions'.find? (fun item => item.candidateId = i) =
      plannerResult.plan.decisions.find? (fun item => item.candidateId = i) := by
  have hsort : sortedOn TranslationPlanDecision.candidateId plannerResult.plan.decisions =
      sortedOn TranslationPlanDecision.candidateId decisions' :=
    sortedOn_eq_of_perm hdecisions (fun d hd d' hd' h => List.inj_on_of_nodup_map hnd hd hd' h)
  rw [← List.head?_filter, ← List.head?_filter,
    (sortedOn_eq_iff TranslationPlanDecision.candidateId _ _).1 hsort i]

lemma retailSelectionBasis_perm (candidates' : List TranslationInputCandidate)
    (hdecisions : plannerResult.plan.decisions.Perm decisions') :
    retailSelectionBasis (reordered plannerResult candidates' decisions') =
      retailSelectionBasis plannerResult := by
  have hany : ∀ p : TranslationPlanDecision → Bool,
      decisions'.any p = plannerResult.plan.decisions.any p :=
    fun p => hdecisions.symm.any_eq
  have hselected := hdecisions.filter (fun decision => decision.status = .selected)
  simp only [retailSelectionBasis, reordered, hany]
  split_ifs <;> try rfl
  cases hfilter : plannerResult.plan.decisions.filter
      (fun decision => decision.status = .selected) with
  | nil =>
      rw [hfilter] at hselected
      rw [List.nil_perm.1 hselected]
  | cons d rest =>
      rw [hfilter] at hselected
      cases rest with
      | nil => rw [List.singleton_perm.1 hselected]
      | cons d' rest =>
          have hlength := hselected.length_eq
          cases hfilter' : decisions'.filter (fun decision => decision.status = .selected) with
          | nil => simp [hfilter'] at hlength
          | cons e rest' =>
              cases rest' with
              | nil => simp [hfilter'] at hlength
              | cons e' rest' => rfl

lemma retailSelectionRecords_perm {candidates' : List TranslationInputCandidate}
    (hcandidates : plannerResult.candidates.Perm candidates')
    (hdecisions : plannerResult.plan.decisions.Perm decisions') :
    retailSelectionRecords (reordered plannerResult candidates' decisions') =
      retailSelectionRecords plannerResult := by
  have hempty : candidates'.isEmpty = plannerResult.candidates.isEmpty := by
    rw [Bool.eq_iff_iff, List.isEmpty_iff, List.isEmpty_iff]
    constructor
    · rintro rfl
      exact List.perm_nil.1 hcandidates
    · intro h
      rw [h] at hcandidates
      exact List.nil_perm.1 hcandidates
  have hrefs : retailSelectionGapRefs (reordered plannerResult candidates' decisions') =
      retailSelectionGapRefs plannerResult := by
    refine (sortedOn_eq_of_perm ?_ Function.injective_id.injOn).symm
    exact ((hdecisions.filter _).map _).dedup
  have hcandidates' : (reordered plannerResult candidates' decisions').candidates =
    candidates' := rfl
  simp only [retailSelectionRecords, retailSelectionBasis_perm candidates' hdecisions, hrefs,
    hcandidates', hempty]

/-- Retail members of a reordered result are the same up to their order. -/
lemma retailMemberRecords_perm {context : CaptureContext}
    {candidates' : List TranslationInputCandidate} {retailMembers : List EvidenceMemberRecord}
    (hnd : (plannerResult.plan.decisions.map TranslationPlanDecision.candidateId).Nodup)
    (hcandidates : plannerResult.candidates.Perm candidates')
    (hdecisions : plannerResult.plan.decisions.Perm decisions')
    (hretail : retailMemberRecords context plannerResult = some retailMembers) :
    ∃ retailMembers',
      retailMemberRecords context (reordered plannerResult candidates' decisions') =
        some retailMembers' ∧ retailMembers.Perm retailMembers' := by
  have hmember : retailMember context decisions' =
      retailMember context plannerResult.plan.decisions := by
    funext candidate
    simp only [retailMember, find?_decision hnd hdecisions]
  rcases Option.map_eq_some_iff.1 hretail with ⟨members, hmapM, rfl⟩
  rcases mapM_perm hcandidates hmapM with ⟨members', hmapM', hperm⟩
  refine ⟨sortedOn EvidenceMemberRecord.locator members', ?_, ?_⟩
  · have hmapM'' : candidates'.mapM (retailMember context decisions') = some members' := by
      rw [hmember]
      exact hmapM'
    simp only [retailMemberRecords, reordered, hmapM'', Option.map_some]
  · exact (sortedOn_perm _ _).trans (hperm.trans (sortedOn_perm _ _).symm)

end

section

variable {documents : StatementDocumentCollectionResult}
  {collected' : List CollectedStatementDocument}

/-- The same collection with its documents in another order. -/
def recollected (documents : StatementDocumentCollectionResult)
    (collected' : List CollectedStatementDocument) : StatementDocumentCollectionResult :=
  { documents with collectedDocuments := collected' }

/-- No two documents have locators with the same text when joined with colons. -/
def LocatorsApart (documents : StatementDocumentCollectionResult) : Prop :=
  (documents.collectedDocuments.map (fun document => colonJoin document.locatorParts)).Nodup

instance (documents : StatementDocumentCollectionResult) : Decidable (LocatorsApart documents) :=
  inferInstanceAs (Decidable (List.Nodup _))

lemma statementSelection_perm (hperm : documents.collectedDocuments.Perm collected') :
    statementSelection (recollected documents collected') = statementSelection documents := by
  have hany : ∀ p : CollectedStatementDocument → Bool,
      collected'.any p = documents.collectedDocuments.any p :=
    fun p => hperm.symm.any_eq
  funext document
  simp only [statementSelection, statementSelectionBasis, statementBlockingGapRefs, recollected,
    hany]

/-- The selection keys of a capture are distinct. -/
lemma selectionKeys_nodup (plannerResult : TranslationInputPlanningResult)
    (hapart : LocatorsApart documents) :
    ((allSelections plannerResult documents).map EvidenceSelectionRecord.key).Nodup := by
  rw [allSelections, List.map_append, List.nodup_append]
  refine ⟨?_, ?_, ?_⟩
  · unfold retailSelectionRecords
    split_ifs <;> simp
  · rw [List.map_map]
    refine List.Nodup.of_map (fun key => colonJoin key.tail) ?_
    rw [List.map_map]
    exact hapart
  · intro key hkey key' hkey' hsame
    have hretail : key = retailKey := by
      rcases List.mem_map.1 hkey with ⟨selection, hselection, rfl⟩
      unfold retailSelectionRecords at hselection
      split_ifs at hselection
      · simp at hselection
      · rw [List.mem_singleton.1 hselection]
    rcases List.mem_map.1 hkey' with ⟨selection, hselection, rfl⟩
    rcases List.mem_map.1 hselection with ⟨document, _, rfl⟩
    rw [hretail] at hsame
    exact absurd (congrArg List.length hsame) (by
      simp [retailKey, statementSelection, statementKey, CollectedStatementDocument.locatorParts])

/-- The observations of one text, as the documents of that text give them. -/
lemma pending_filter {context : CaptureContext} {collected : List CollectedStatementDocument}
    {pending : List (List PendingObservation)}
    (hrun : collected.mapM (statementObservations context) = some pending) (text : String) :
    pending.flatten.filter (fun observation => observation.memberText = text) =
      (collected.filter (fun document =>
        memberText .statementDocumentFile document.locatorParts = text)).flatMap
          (fun document => (statementObservations context document).getD default) := by
  rcases mapM_eq_some_iff.1 hrun with ⟨hsome, rfl⟩
  rw [← List.flatMap_def]
  refine filter_flatMap_key ?_ text
  intro document hdocument observation hobservation
  rcases Option.isSome_iff_exists.1 (hsome document hdocument) with ⟨observations, hobs⟩
  have hmem : observation ∈ observations := by
    simpa [hobs] using hobservation
  rcases statementObservations_locator hobs observation hmem with ⟨hkind, hlocator⟩
  rw [PendingObservation.memberText, hkind, hlocator]

/-- Documents that stay apart give every member its observations in the same order. -/
lemma pending_filter_perm {context : CaptureContext}
    {pending pending' : List (List PendingObservation)} (hapart : LocatorsApart documents)
    (hperm : documents.collectedDocuments.Perm collected')
    (hpending : documents.collectedDocuments.mapM (statementObservations context) = some pending)
    (hpending' : collected'.mapM (statementObservations context) = some pending') (text : String) :
    pending'.flatten.filter (fun observation => observation.memberText = text) =
      pending.flatten.filter (fun observation => observation.memberText = text) := by
  set documentText : CollectedStatementDocument → String := fun document =>
    memberText .statementDocumentFile document.locatorParts with hdocumentText
  have hsorted : sortedOn documentText documents.collectedDocuments =
      sortedOn documentText collected' := by
    refine sortedOn_eq_of_perm hperm ?_
    intro document hdocument document' hdocument' hsame
    have htext : colonJoin document.locatorParts = colonJoin document'.locatorParts :=
      (colonJoin_cons_inj _ (List.cons_ne_nil _ _) (List.cons_ne_nil _ _)).1 hsame
    exact List.inj_on_of_nodup_map hapart hdocument hdocument' htext
  rw [pending_filter hpending, pending_filter hpending',
    (sortedOn_eq_iff documentText _ _).1 hsorted text]

/-- Reordered inputs give an evidence set of the same id. -/
theorem build_reordered {sha256 : String → String} {context : CaptureContext}
    {plannerResult : TranslationInputPlanningResult} {evidenceSet : EvidenceSet}
    {candidates' : List TranslationInputCandidate} {decisions' : List TranslationPlanDecision}
    (hnd : (plannerResult.plan.decisions.map TranslationPlanDecision.candidateId).Nodup)
    (hapart : LocatorsApart documents)
    (hbuild : buildEvidenceSetForProfile sha256 context plannerResult documents =
      some (some evidenceSet))
    (hcandidates : plannerResult.candidates.Perm candidates')
    (hdecisions : plannerResult.plan.decisions.Perm decisions')
    (hdocuments : documents.collectedDocuments.Perm collected') :
    ∃ evidenceSet',
      buildEvidenceSetForProfile sha256 context (reordered plannerResult candidates' decisions')
          (recollected documents collected') = some (some evidenceSet') ∧
        evidenceSet'.evidenceSetId = evidenceSet.evidenceSetId := by
  rcases build_spec hbuild with ⟨retailMembers, pending, hretail, hpending, hassembled, hadapter,
    hselections, hmembers⟩
  rcases retailMemberRecords_perm hnd hcandidates hdecisions hretail with
    ⟨retailMembers', hretail', hretailPerm⟩
  rcases mapM_perm hdocuments hpending with ⟨pending', hpending', _⟩
  have hselectionsPerm : (allSelections plannerResult documents).Perm
      (allSelections (reordered plannerResult candidates' decisions')
        (recollected documents collected')) := by
    rw [allSelections, allSelections, retailSelectionRecords_perm hcandidates hdecisions,
      statementSelection_perm hdocuments]
    exact (hdocuments.map _).append_left _
  have hmembersPerm : (allMembers context retailMembers documents).Perm
      (allMembers context retailMembers' (recollected documents collected')) :=
    hretailPerm.append (hdocuments.map _)
  rcases @build_of_records sha256 context _ _ retailMembers' pending' hadapter hretail' hpending'
      (fun h => hselections (List.perm_nil.1 (h ▸ hselectionsPerm)))
      (fun h => hmembers (List.perm_nil.1 (h ▸ hmembersPerm))) with
    ⟨evidenceSet', hbuild', hassembled'⟩
  refine ⟨evidenceSet', hbuild', ?_⟩
  have hcontents := contentFingerprint_perm sha256 hselectionsPerm
    (selectionKeys_nodup plannerResult hapart) hmembersPerm
    (by
      intro member hmember member' hmember' hkind hlocator hstatus
      rw [memberRecord_of_mem hretail hmember, memberRecord_of_mem hretail hmember', hkind,
        hlocator, hstatus])
    (fun member _ => pending_filter_perm hapart hdocuments hpending hpending' _)
  rw [hassembled'.id_eq, hassembled.id_eq, hcontents]

end

/-! ## The claim of the two layers -/

section

variable {F : Type} [LinearOrder F]

/-- The evidence set of a Coinbase capture agrees with the translation plan, and its id is a
function of what was collected, in any order. -/
theorem evidence_set_agrees (env : PlannerEnvironment F) (sha256 : String → String)
    (context : CaptureContext) (candidates : List TranslationInputCandidate)
    (captureMetadata : Option CaptureMetadata) (plannerResult : TranslationInputPlanningResult)
    (documents : StatementDocumentCollectionResult) (evidenceSet : EvidenceSet)
    (hshape : ∀ c ∈ candidates, IsRetailCandidate c)
    (hplan : planTranslationInputs env context.profile candidates captureMetadata =
      some plannerResult)
    (hbuild : buildEvidenceSetForProfile sha256 context plannerResult documents =
      some (some evidenceSet)) :
    (∃ rebuilt, reconstructTranslationInputPlan env evidenceSet none = some rebuilt ∧
      PlansAgree plannerResult.candidates plannerResult.plan rebuilt) ∧
    (LocatorsApart documents →
      ∀ candidates' decisions' collected', plannerResult.candidates.Perm candidates' →
      plannerResult.plan.decisions.Perm decisions' →
        documents.collectedDocuments.Perm collected' →
          ∃ evidenceSet',
            buildEvidenceSetForProfile sha256 context
                (reordered plannerResult candidates' decisions')
                (recollected documents collected') = some (some evidenceSet') ∧
              evidenceSet'.evidenceSetId = evidenceSet.evidenceSetId) ∧
    evidenceSet.evidenceSetId =
      stableEvidenceSetId context.profile.source context.profile.adapterId context.captureUid
        (selectionFingerprintForRecords sha256 evidenceSet.evidenceSelectionRecords
          evidenceSet.evidenceMemberRecords evidenceSet.evidenceObservationRecords) := by
  rcases planTranslationInputs_spec env context.profile candidates captureMetadata hplan with
    ⟨contexts, pairs, hplanned⟩
  rcases build_spec hbuild with ⟨retailMembers, pending, hretail, _, hassembled, _, _, _⟩
  have hperm : plannerResult.candidates.Perm candidates := by
    rw [hplanned.ordered]
    exact sortedOn_perm _ _
  have hdecided : ∀ i, i ∈ plannerResult.plan.decisions.map TranslationPlanDecision.candidateId ↔
      i ∈ plannerResult.candidates.map TranslationInputCandidate.candidateId := by
    intro i
    rw [hplanned.decided i, (hperm.map _).mem_iff]
  refine ⟨?_, ?_, ?_⟩
  · refine rebuilt_agrees env ?_ hplanned.nodup hdecided hplanned.selected hplanned.blocked
    exact membersOf_assembled hassembled hretail
      (fun c hc => hshape c (hperm.mem_iff.1 hc)) hplanned.nodup (fun i => (hdecided i).1)
  · intro hapart candidates' decisions' collected' hcandidates hdecisions hdocuments
    exact build_reordered hplanned.nodup hapart hbuild hcandidates hdecisions hdocuments
  · rw [hassembled.fingerprint_eq]
    exact hassembled.id_eq

end

/-! ## A capture with two exports and a statement -/

def yearEnd : Instant := ⟨2024, 12, 31, 0, 0, 0, 0, Instant.isDay_endOfYear⟩

/-- A selected statement with one balance. -/
def yearEndStatement (relativePath archiveMemberPath asset : String) :
    CollectedStatementDocument where
  entry := { relativePath := relativePath, archiveMemberPath := archiveMemberPath }
  parsed :=
    { statementAsOfAt := some yearEnd
      rows :=
        [ { account := "Main"
            wallet := "Spot"
            balanceKind := "spot"
            asset := asset
            quantity := some ⟨15, -1, by decide⟩
            asOfAt := some yearEnd
            asOfPrecision := .date } ] }
  locator := (relativePath, archiveMemberPath)
  memberStatus := .selected
  selected := true
  statementAsOfPrecision := some .date
  documentEffectivePrecision := none

def statementContext : CaptureContext := ⟨⟨"coinbase", "coinbase", []⟩, "capture-1", "manifest-1"⟩

/-- What the planner returns without candidates. -/
def noRetailPlan : TranslationInputPlanningResult := ⟨[], ⟨[], [], false⟩, []⟩

/-- A member of an archive whose name has a colon. -/
def bitcoinStatement : CollectedStatementDocument := yearEndStatement "a" "b:c.pdf" "BTC"

def statementsOf (collected : List CollectedStatementDocument) :
    StatementDocumentCollectionResult := ⟨collected, []⟩

def pendingOf (collected : List CollectedStatementDocument) : List (List PendingObservation) :=
  collected.map (fun document => (statementObservations statementContext document).getD [])

def retailMonth : TranslationInputCandidate :=
  { monthCandidate with candidateId := "coinbase:retail_export:month.csv" }

def retailYear : TranslationInputCandidate :=
  { yearCandidate with candidateId := "coinbase:retail_export:year.csv" }

theorem evidence_set_agrees_capture :
    ∃ plannerResult evidenceSet rebuilt,
      planTranslationInputs rankEnvironment statementContext.profile [retailMonth, retailYear]
        none = some plannerResult ∧
      buildEvidenceSetForProfile id statementContext plannerResult
        (statementsOf [bitcoinStatement]) = some (some evidenceSet) ∧
      reconstructTranslationInputPlan rankEnvironment evidenceSet none = some rebuilt ∧
      PlansAgree plannerResult.candidates plannerResult.plan rebuilt := by
  have hends : (planTranslationInputs rankEnvironment statementContext.profile
      [retailMonth, retailYear] none).isSome = true := by
    decide +kernel
  rcases Option.isSome_iff_exists.1 hends with ⟨plannerResult, hrun⟩
  rcases planTranslationInputs_spec rankEnvironment statementContext.profile
    [retailMonth, retailYear] none hrun with ⟨contexts, pairs, hplanned⟩
  have hshape : ∀ c ∈ [retailMonth, retailYear], IsRetailCandidate c := by
    intro c hc
    rcases List.mem_pair.1 hc with rfl | rfl
    · exact ⟨"month.csv", rfl, rfl⟩
    · exact ⟨"year.csv", rfl, rfl⟩
  have hperm : plannerResult.candidates.Perm [retailMonth, retailYear] := by
    rw [hplanned.ordered]
    exact sortedOn_perm _ _
  rcases retailMemberRecords_defined statementContext
    (fun c hc => hshape c (hperm.mem_iff.1 hc))
    (fun i hi => (hplanned.decided i).2 ((hperm.map _).mem_iff.1 hi)) with
    ⟨retailMembers, hretail⟩
  rcases @build_of_records id statementContext plannerResult (statementsOf [bitcoinStatement])
    retailMembers (pendingOf [bitcoinStatement]) rfl hretail rfl
    (List.append_ne_nil_of_right_ne_nil _ (List.cons_ne_nil _ _))
    (List.append_ne_nil_of_right_ne_nil _ (List.cons_ne_nil _ _)) with ⟨evidenceSet, hbuild, _⟩
  rcases (evidence_set_agrees rankEnvironment id statementContext [retailMonth, retailYear] none
    plannerResult (statementsOf [bitcoinStatement]) evidenceSet hshape hrun hbuild).1 with ⟨rebuilt, hrebuilt, hagree⟩
  exact ⟨plannerResult, evidenceSet, rebuilt, hrun, hbuild, hrebuilt, hagree⟩

/-! ## Two locators of one text -/

/-- A member of an archive in a folder whose name has a colon. -/
def etherStatement : CollectedStatementDocument := yearEndStatement "a:b" "c.pdf" "ETH"

/-- The observations of the two documents are not told apart. -/
lemma symbols_of_member :
    (memberObservations (pendingOf [bitcoinStatement, etherStatement]).flatten
        (statementMember statementContext bitcoinStatement)).map
          (fun observation => observation.record.instrumentSymbol) = ["BTC", "ETH", "", ""] ∧
      (memberObservations (pendingOf [etherStatement, bitcoinStatement]).flatten
        (statementMember statementContext bitcoinStatement)).map
          (fun observation => observation.record.instrumentSymbol) = ["ETH", "BTC", "", ""] := by
  decide +kernel

lemma semanticPayload_symbol {left right : EvidenceObservationRecord}
    (h : left.semanticPayload.chars = right.semanticPayload.chars) :
    left.instrumentSymbol = right.instrumentSymbol := by
  have hfield : ∀ observation : EvidenceObservationRecord, ∀ fields,
      observation.semanticPayload = Json.obj fields →
        ("instrument_symbol", Json.str observation.instrumentSymbol) ∈ fields ∧
          (fields.map Prod.fst).Nodup := by
    rintro observation fields ⟨⟩
    simp
  have hvalue := Json.fieldChars_inj h (hfield right _ rfl).2 (hfield left _ rfl).1
    (hfield right _ rfl).1
  exact (Json.strChars_append_inj (congrArg (fun cs => cs ++ []) hvalue)).1

/-- Two documents share their observations, which then come in the order of the documents. -/
theorem reordered_documents :
    planTranslationInputs rankEnvironment statementContext.profile [] none = some noRetailPlan ∧
    ∃ evidenceSet evidenceSet',
      buildEvidenceSetForProfile id statementContext noRetailPlan
          (statementsOf [bitcoinStatement, etherStatement]) = some (some evidenceSet) ∧
      buildEvidenceSetForProfile id statementContext noRetailPlan
          (statementsOf [etherStatement, bitcoinStatement]) = some (some evidenceSet') ∧
      evidenceSet'.evidenceSetId ≠ evidenceSet.evidenceSetId := by
  refine ⟨rfl, ?_⟩
  rcases @build_of_records id statementContext noRetailPlan
    (statementsOf [bitcoinStatement, etherStatement]) []
    (pendingOf [bitcoinStatement, etherStatement]) rfl rfl rfl
    (List.cons_ne_nil _ _) (List.cons_ne_nil _ _) with ⟨evidenceSet, hbuild, hassembled⟩
  rcases @build_of_records id statementContext noRetailPlan
    (statementsOf [etherStatement, bitcoinStatement]) []
    (pendingOf [etherStatement, bitcoinStatement]) rfl rfl rfl
    (List.cons_ne_nil _ _) (List.cons_ne_nil _ _) with ⟨evidenceSet', hbuild', hassembled'⟩
  refine ⟨evidenceSet, evidenceSet', hbuild, hbuild', ?_⟩
  intro hids
  rw [hassembled.id_eq, hassembled'.id_eq] at hids
  have hcontents := stableEvidenceSetId_inj _ _ _ hids
  have hselections : sortedOn EvidenceSelectionRecord.key
        (allSelections noRetailPlan (statementsOf [etherStatement, bitcoinStatement])) =
      sortedOn EvidenceSelectionRecord.key
        (allSelections noRetailPlan (statementsOf [bitcoinStatement, etherStatement])) := by
    refine sortedOn_eq_of_perm (List.Perm.swap _ _ _) ?_
    refine List.inj_on_of_nodup_map ?_
    decide +kernel
  have hmembers : ∀ key,
      sortedOn memberOrder (keyMembers
          (allMembers statementContext [] (statementsOf [etherStatement, bitcoinStatement])) key) =
        sortedOn memberOrder (keyMembers
          (allMembers statementContext [] (statementsOf [bitcoinStatement, etherStatement]))
            key) := by
    intro key
    refine sortedOn_eq_of_perm ((List.Perm.swap _ _ _).filter _) ?_
    intro member hmember member' hmember' horder
    have hnd : ((allMembers statementContext []
        (statementsOf [etherStatement, bitcoinStatement])).map memberOrder).Nodup := by
      decide +kernel
    exact List.inj_on_of_nodup_map hnd (List.mem_of_mem_filter hmember)
      (List.mem_of_mem_filter hmember') horder
  have hsame := @observations_of_contentFingerprint id Function.injective_id _ _ _ _ _ _
    hselections hmembers hcontents
    (statementSelection (statementsOf [bitcoinStatement, etherStatement]) bitcoinStatement)
    (by decide +kernel) (statementMember statementContext bitcoinStatement) (by decide +kernel)
  rcases symbols_of_member with ⟨hfirst, hsecond⟩
  rcases List.map_eq_cons_iff.1 hfirst with ⟨first, rest, hleft, hbitcoin, _⟩
  rcases List.map_eq_cons_iff.1 hsecond with ⟨first', rest', hright, hether, _⟩
  rw [hleft, hright, List.map_cons, List.map_cons] at hsame
  have hsymbol := semanticPayload_symbol (List.cons.inj hsame).1
  rw [hbitcoin, hether] at hsymbol
  exact absurd hsymbol (by decide)

end Evidence
end Tallylot
