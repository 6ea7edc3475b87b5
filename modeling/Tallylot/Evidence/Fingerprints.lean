import Tallylot.Data.Parts
import Tallylot.Evidence.Builder

/-!
# Fingerprints — the fingerprint of identified records

Once the records have ids, members and observations are grouped by equal ids, and two ids below one
set id are equal exactly when their keys have the same text when joined with colons.  A fingerprint
therefore depends on the contents of the records and on nothing else:

* not on the set id the ids start with, nor on the fingerprints that selections have
  (`fingerprint_named`);
* not on the order in which a finished set lists its records (`fingerprint_finished`);
* not on the order in which they were collected, as long as no two records share an id
  (`contentFingerprint_perm`).
-/

namespace Tallylot
namespace Evidence

open Data Domain Translation

/-! ## Records with ids -/

lemma memberSelectionKey_ne_nil (member : EvidenceMemberRecord) :
    memberSelectionKey member ≠ [] := by
  unfold memberSelectionKey
  cases member.kind <;> simp [retailKey, statementKey]

/-- A member with its ids below a set id. -/
def namedMember (evidenceSetId : String) (member : EvidenceMemberRecord) : EvidenceMemberRecord :=
  { member with
    evidenceSetId := evidenceSetId
    selectionId := stableSelectionId evidenceSetId (memberSelectionKey member)
    memberId := stableMemberId evidenceSetId member.kind member.locator }

/-- An observation with its ids below a set id. -/
def namedObservation (evidenceSetId : String) (observation : PendingObservation) :
    EvidenceObservationRecord :=
  let memberId := stableMemberId evidenceSetId observation.memberKind observation.memberLocator
  { observation.record with
    evidenceSetId := evidenceSetId
    memberId := memberId
    observationId := stableObservationId memberId observation.record.kind observation.record.key }

/-- Every member has its selection among the records, every observation its member. -/
structure Linked (selections : List EvidenceSelectionRecord) (members : List EvidenceMemberRecord)
    (observations : List PendingObservation) : Prop where
  keyed : ∀ selection ∈ selections, selection.key ≠ []
  memberOf :
    ∀ member ∈ members, memberSelectionKey member ∈ selections.map EvidenceSelectionRecord.key
  observationOf :
    ∀ observation ∈ observations, ∃ member ∈ members,
      (member.kind, member.locator) = (observation.memberKind, observation.memberLocator)

section

variable {selections : List EvidenceSelectionRecord} {members : List EvidenceMemberRecord}
  {observations : List PendingObservation}

/-- Linked records get all their ids. -/
theorem identifyRecords_eq (h : Linked selections members observations) (evidenceSetId : String) :
    identifyRecords evidenceSetId selections members observations =
      some
        { selections := selections.map (identifySelection evidenceSetId)
          members := members.map (namedMember evidenceSetId)
          observations := observations.map (namedObservation evidenceSetId) } := by
  have hmembers :
      members.mapM
          (identifyMember evidenceSetId
            (Dict.ofList
              (selections.map (fun selection =>
                (selection.key, stableSelectionId evidenceSetId selection.key))))) =
        some (members.map (namedMember evidenceSetId)) := by
    refine mapM_eq_map ?_
    intro member hmember
    have hget := Dict.get?_ofList_map EvidenceSelectionRecord.key (stableSelectionId evidenceSetId)
      (h.memberOf member hmember)
    simp only [identifyMember, hget, Option.map_some, namedMember]
  have hobservations :
      observations.mapM
          (identifyObservation evidenceSetId
            (Dict.ofList
              ((members.map (namedMember evidenceSetId)).map (fun member =>
                ((member.kind, member.locator), member.memberId))))) =
        some (observations.map (namedObservation evidenceSetId)) := by
    refine mapM_eq_map ?_
    intro observation hobservation
    rcases h.observationOf observation hobservation with ⟨member, hmember, hlocator⟩
    have hget := Dict.get?_ofList_map
      (fun member : EvidenceMemberRecord => (member.kind, member.locator))
      (fun place => stableMemberId evidenceSetId place.1 place.2)
      (List.mem_map.2 ⟨member, hmember, hlocator⟩)
    rw [List.map_map]
    simp only [identifyObservation, Function.comp_def, namedMember, hget, Option.map_some,
      namedObservation]
  simp only [identifyRecords, hmembers, Option.bind_eq_bind, Option.bind_some, hobservations]

end

/-! ## Contents -/

/-- The text by which a member and its observations find each other. -/
def memberText (kind : EvidenceMemberKind) (locator : List String) : String :=
  colonJoin (kind.value :: locator)

def PendingObservation.memberText (observation : PendingObservation) : String :=
  Evidence.memberText observation.memberKind observation.memberLocator

def contentMemberPayload (observations : List PendingObservation) (member : EvidenceMemberRecord) :
    Json :=
  Json.obj
    (member.semanticFields ++
      [ ("observations",
          Json.arr
            ((sortedOn (fun observation => observationOrder observation.record)
                (observations.filter (fun observation =>
                  observation.memberText = memberText member.kind member.locator))).map
              (fun observation => observation.record.semanticPayload))) ])

/-- The members whose selection key has the text of a selection's key. -/
def keyMembers (members : List EvidenceMemberRecord) (key : List String) :
    List EvidenceMemberRecord :=
  members.filter (fun member => colonJoin (memberSelectionKey member) = colonJoin key)

def contentSemantics (members : List EvidenceMemberRecord)
    (observations : List PendingObservation) (selection : EvidenceSelectionRecord) : Json :=
  Json.obj
    [ ("basis", Json.str selection.basis.value),
      ("blocking_gap_refs", Json.strs (sortedOn id selection.blockingGapRefs)),
      ("key", Json.strs selection.key),
      ("members",
        Json.arr
          ((sortedOn memberOrder (keyMembers members selection.key)).map
            (contentMemberPayload observations))) ]

/-- The fingerprint of collected records, grouped by the texts of their keys instead of by ids. -/
def contentFingerprint (sha256 : String → String) (selections : List EvidenceSelectionRecord)
    (members : List EvidenceMemberRecord) (observations : List PendingObservation) : String :=
  hashPayload sha256
    (Json.arr
      ((sortedOn EvidenceSelectionRecord.key selections).map
        (contentSemantics members observations)))

section

variable (evidenceSetId : String)

lemma stableMemberId_inj {kind kind' : EvidenceMemberKind} {locator locator' : List String} :
    stableMemberId evidenceSetId kind locator = stableMemberId evidenceSetId kind' locator' ↔
      memberText kind locator = memberText kind' locator' :=
  colonJoin_cons_inj evidenceSetId (List.cons_ne_nil _ _) (List.cons_ne_nil _ _)

lemma belongsTo_named (observation : PendingObservation) (member : EvidenceMemberRecord) :
    belongsTo (namedObservation evidenceSetId observation) (namedMember evidenceSetId member) =
      decide (observation.memberText = memberText member.kind member.locator) := by
  have hblank : (namedObservation evidenceSetId observation).memberId ≠ "" :=
    colonJoin_cons_ne_blank evidenceSetId (List.cons_ne_nil _ _)
  have hid : (namedObservation evidenceSetId observation).memberId =
      (namedMember evidenceSetId member).memberId ↔
        observation.memberText = memberText member.kind member.locator :=
    stableMemberId_inj evidenceSetId
  simp [belongsTo, hblank, hid]

lemma isMemberOf_named {selection : EvidenceSelectionRecord} (member : EvidenceMemberRecord)
    (hkey : selection.key ≠ [])
    (hid : selection.selectionId = stableSelectionId evidenceSetId selection.key) :
    isMemberOf (namedMember evidenceSetId member) selection =
      decide (colonJoin (memberSelectionKey member) = colonJoin selection.key) := by
  have hne := memberSelectionKey_ne_nil member
  have hblank : (namedMember evidenceSetId member).selectionId ≠ "" :=
    colonJoin_cons_ne_blank evidenceSetId hne
  have hiff : (namedMember evidenceSetId member).selectionId = selection.selectionId ↔
      colonJoin (memberSelectionKey member) = colonJoin selection.key := by
    rw [hid]
    exact colonJoin_cons_inj evidenceSetId hne hkey
  simp [isMemberOf, hblank, hiff]

lemma memberPayload_named (observations : List PendingObservation)
    (member : EvidenceMemberRecord) :
    memberPayload (observations.map (namedObservation evidenceSetId))
        (namedMember evidenceSetId member) =
      contentMemberPayload observations member := by
  have hfilter : (observations.map (namedObservation evidenceSetId)).filter (fun observation =>
        belongsTo observation (namedMember evidenceSetId member)) =
      (observations.filter (fun observation =>
        observation.memberText = memberText member.kind member.locator)).map
          (namedObservation evidenceSetId) := by
    rw [List.filter_map]
    simp only [Function.comp_def, belongsTo_named]
  rw [memberPayload, hfilter, sortedOn_map, List.map_map]
  rfl

lemma semanticsPayload_named {selection : EvidenceSelectionRecord}
    (members : List EvidenceMemberRecord) (observations : List PendingObservation)
    (hkey : selection.key ≠ [])
    (hid : selection.selectionId = stableSelectionId evidenceSetId selection.key) :
    selectionSemanticsPayload selection
        ((members.map (namedMember evidenceSetId)).filter (fun member =>
          isMemberOf member selection))
        (observations.map (namedObservation evidenceSetId)) =
      contentSemantics members observations selection := by
  have hfilter : (members.map (namedMember evidenceSetId)).filter (fun member =>
        isMemberOf member selection) =
      (keyMembers members selection.key).map (namedMember evidenceSetId) := by
    rw [List.filter_map]
    simp only [Function.comp_def, isMemberOf_named evidenceSetId _ hkey hid, keyMembers]
  rw [selectionSemanticsPayload, hfilter, sortedOn_map, List.map_map]
  simp only [Function.comp_def, memberPayload_named]
  rfl

/-- The fingerprint of records with ids is that of their contents. -/
theorem fingerprint_named (sha256 : String → String) {selections : List EvidenceSelectionRecord}
    (members : List EvidenceMemberRecord) (observations : List PendingObservation)
    (hselections : ∀ selection ∈ selections, selection.key ≠ [] ∧
      selection.selectionId = stableSelectionId evidenceSetId selection.key) :
    selectionFingerprintForRecords sha256 selections (members.map (namedMember evidenceSetId))
        (observations.map (namedObservation evidenceSetId)) =
      contentFingerprint sha256 selections members observations := by
  rw [selectionFingerprintForRecords, contentFingerprint]
  congr 2
  refine List.map_congr_left ?_
  intro selection hselection
  rcases hselections selection (mem_sortedOn.1 hselection) with ⟨hkey, hid⟩
  exact semanticsPayload_named evidenceSetId members observations hkey hid

end

/-- Contents do not see ids and fingerprints of selections. -/
lemma contentFingerprint_map (sha256 : String → String)
    (change : EvidenceSelectionRecord → EvidenceSelectionRecord)
    (hkey : ∀ selection, (change selection).key = selection.key)
    (hbasis : ∀ selection, (change selection).basis = selection.basis)
    (hrefs : ∀ selection, (change selection).blockingGapRefs = selection.blockingGapRefs)
    (selections : List EvidenceSelectionRecord) (members : List EvidenceMemberRecord)
    (observations : List PendingObservation) :
    contentFingerprint sha256 (selections.map change) members observations =
      contentFingerprint sha256 selections members observations := by
  have hsemantics : ∀ selection, contentSemantics members observations (change selection) =
      contentSemantics members observations selection := by
    intro selection
    simp only [contentSemantics, hkey, hbasis, hrefs]
  simp only [contentFingerprint, sortedOn_map, hkey, List.map_map, Function.comp_def, hsemantics]

/-- Contents agree when every group of records sorts to the same list. -/
theorem contentFingerprint_congr (sha256 : String → String)
    {selections selections' : List EvidenceSelectionRecord}
    {members members' : List EvidenceMemberRecord}
    {observations observations' : List PendingObservation}
    (hselections : sortedOn EvidenceSelectionRecord.key selections' =
      sortedOn EvidenceSelectionRecord.key selections)
    (hmembers : ∀ key, sortedOn memberOrder (keyMembers members' key) =
      sortedOn memberOrder (keyMembers members key))
    (hobservations : ∀ member ∈ members,
      sortedOn (fun observation : PendingObservation => observationOrder observation.record)
          (observations'.filter (fun observation =>
            observation.memberText = memberText member.kind member.locator)) =
        sortedOn (fun observation => observationOrder observation.record)
          (observations.filter (fun observation =>
            observation.memberText = memberText member.kind member.locator))) :
    contentFingerprint sha256 selections' members' observations' =
      contentFingerprint sha256 selections members observations := by
  have hsemantics : contentSemantics members' observations' =
      contentSemantics members observations := by
    funext selection
    have hpayloads : (sortedOn memberOrder (keyMembers members selection.key)).map
          (contentMemberPayload observations') =
        (sortedOn memberOrder (keyMembers members selection.key)).map
          (contentMemberPayload observations) := by
      refine List.map_congr_left ?_
      intro member hmember
      have hmem : member ∈ keyMembers members selection.key := mem_sortedOn.1 hmember
      simp only [contentMemberPayload, hobservations member (List.mem_of_mem_filter hmem)]
    simp only [contentSemantics, hmembers, hpayloads]
  simp only [contentFingerprint, hselections, hsemantics]

/-- The sorted observations of one member. -/
def memberObservations (observations : List PendingObservation) (member : EvidenceMemberRecord) :
    List PendingObservation :=
  sortedOn (fun observation => observationOrder observation.record)
    (observations.filter (fun observation =>
      observation.memberText = memberText member.kind member.locator))

/-- Under an injective hash, contents of one fingerprint have the same observations in every
member. -/
theorem observations_of_contentFingerprint {sha256 : String → String}
    (hinj : Function.Injective sha256) {selections selections' : List EvidenceSelectionRecord}
    {members members' : List EvidenceMemberRecord}
    {observations observations' : List PendingObservation}
    (hselections : sortedOn EvidenceSelectionRecord.key selections' =
      sortedOn EvidenceSelectionRecord.key selections)
    (hmembers : ∀ key, sortedOn memberOrder (keyMembers members' key) =
      sortedOn memberOrder (keyMembers members key))
    (h : contentFingerprint sha256 selections' members' observations' =
      contentFingerprint sha256 selections members observations)
    {selection : EvidenceSelectionRecord} (hselection : selection ∈ selections)
    {member : EvidenceMemberRecord} (hmember : member ∈ keyMembers members selection.key) :
    (memberObservations observations' member).map
        (fun observation => observation.record.semanticPayload.chars) =
      (memberObservations observations member).map
        (fun observation => observation.record.semanticPayload.chars) := by
  have hchars := String.ofList_injective (hinj h)
  rw [hselections] at hchars
  have hselectionChars : (contentSemantics members' observations' selection).chars =
      (contentSemantics members observations selection).chars := by
    have hitems := Json.itemChars_inj hchars
    rw [List.map_map, List.map_map] at hitems
    exact List.map_inj_left.1 hitems selection (mem_sortedOn.2 hselection)
  -- the members are the fourth field of a selection
  have hfourth : ∀ {f g h k : String × Json}, k ∈ [f, g, h, k] := by simp
  have hmembersChars := @Json.fieldChars_inj _ _ hselectionChars (by simp) "members" _ _
    hfourth hfourth
  rw [hmembers] at hmembersChars
  have hmemberChars : (contentMemberPayload observations' member).chars =
      (contentMemberPayload observations member).chars := by
    have hitems := Json.itemChars_inj hmembersChars
    rw [List.map_map, List.map_map] at hitems
    exact List.map_inj_left.1 hitems member (mem_sortedOn.2 hmember)
  have hobservations := @Json.fieldChars_inj _ _ hmemberChars
    (by simp [EvidenceMemberRecord.semanticFields]) "observations" _ _
    (List.mem_append_right _ List.mem_cons_self) (List.mem_append_right _ List.mem_cons_self)
  simpa [List.map_map, Function.comp_def, memberObservations] using
    Json.itemChars_inj hobservations

/-! ## The order of the records -/

/-- The text of a selection key tells the kinds of members apart. -/
lemma kind_of_selectionKey {member member' : EvidenceMemberRecord} :
    colonJoin (memberSelectionKey member) = colonJoin (memberSelectionKey member') →
      member.kind = member'.kind := by
  have hstatement : ∀ locator, (colonJoin (statementKey locator)).toList.head? = some 's' := by
    intro locator
    cases locator with
    | nil => rfl
    | cons part parts =>
        rw [statementKey, colonJoin_cons _ (List.cons_ne_nil _ _), String.toList_append,
          List.head?_append_of_ne_nil _ (by decide)]
        rfl
  have hretail : (colonJoin retailKey).toList.head? = some 'r' := rfl
  have hhead : ∀ m : EvidenceMemberRecord,
      (colonJoin (memberSelectionKey m)).toList.head? =
        some (if m.kind = .retailActivityExportFile then 'r' else 's') := by
    intro m
    unfold memberSelectionKey
    cases m.kind with
    | retailActivityExportFile => exact hretail
    | statementDocumentFile => exact hstatement m.locator
  intro h
  have hsame := (hhead member).symm.trans ((congrArg (fun t => t.toList.head?) h).trans
    (hhead member'))
  cases hkind : member.kind <;> cases hkind' : member'.kind <;>
    simp [hkind, hkind'] at hsame ⊢

/-- Members of one selection in one place of the order have one locator and one kind. -/
lemma member_of_memberOrder {member member' : EvidenceMemberRecord}
    (hkey : colonJoin (memberSelectionKey member) = colonJoin (memberSelectionKey member'))
    (horder : memberOrder member = memberOrder member') :
    member.kind = member'.kind ∧ member.locator = member'.locator ∧
      member.status = member'.status := by
  have hpair := Prod.mk.inj (congrArg ofLex horder)
  exact ⟨kind_of_selectionKey hkey, hpair.2, EvidenceMemberStatus.value_injective hpair.1⟩

section

variable (sha256 : String → String) (context : CaptureContext)

/-- The fingerprint of a finished set, taken from its records again. -/
theorem fingerprint_finished (evidenceSetId fingerprint : String)
    {selections : List EvidenceSelectionRecord} (members : List EvidenceMemberRecord)
    (observations : List PendingObservation)
    (hselections : ∀ selection ∈ selections, selection.key ≠ [] ∧
      selection.selectionId = stableSelectionId evidenceSetId selection.key) :
    let finished := finishedSet context evidenceSetId fingerprint
      { selections := selections
        members := members.map (namedMember evidenceSetId)
        observations := observations.map (namedObservation evidenceSetId) }
    selectionFingerprintForRecords sha256 finished.evidenceSelectionRecords
        finished.evidenceMemberRecords finished.evidenceObservationRecords =
      contentFingerprint sha256 selections members observations := by
  simp only [finishedSet, sortedOn_map]
  rw [fingerprint_named evidenceSetId sha256 _ _
    (fun selection hselection => hselections selection (mem_sortedOn.1 hselection))]
  refine contentFingerprint_congr sha256 ?_ ?_ ?_
  · refine sortedOn_sortedOn ?_
    intro selection hselection selection' hselection' hkey
    rw [(hselections selection hselection).2, (hselections selection' hselection').2, hkey]
  · intro key
    refine sortedOn_filter_sortedOn ?_
    intro member _ member' _ hmember hmember' horder
    have hsame : colonJoin (memberSelectionKey member) =
        colonJoin (memberSelectionKey member') :=
      (of_decide_eq_true hmember).trans (of_decide_eq_true hmember').symm
    rcases member_of_memberOrder hsame horder with ⟨hkind, hlocator, hstatus⟩
    simp only [namedMember, memberSelectionKey, hkind, hlocator, hstatus]
  · intro member hmember
    refine sortedOn_filter_sortedOn ?_
    intro observation _ observation' _ htext htext' horder
    have hsame : observation.memberText = observation'.memberText :=
      (of_decide_eq_true htext).trans (of_decide_eq_true htext').symm
    have hid : (namedObservation evidenceSetId observation).memberId =
        (namedObservation evidenceSetId observation').memberId :=
      (stableMemberId_inj evidenceSetId).2 hsame
    have hpair := Prod.mk.inj (congrArg ofLex horder)
    have hkind := EvidenceObservationKind.value_injective hpair.1
    have hkey : observation.record.key = observation'.record.key := hpair.2
    have hobservation : (namedObservation evidenceSetId observation).observationId =
        (namedObservation evidenceSetId observation').observationId :=
      congrArg₂ (fun memberId parts => colonJoin (memberId :: parts)) hid
        (congrArg₂ (fun kind key => EvidenceObservationKind.value kind :: key) hkind hkey)
    rw [hid, hobservation]

/-- Records in another order have the same contents, when members of one place of the order are
equal and the observations of every member come in the same order. -/
theorem contentFingerprint_perm {selections selections' : List EvidenceSelectionRecord}
    {members members' : List EvidenceMemberRecord}
    {observations observations' : List PendingObservation}
    (hselections : selections.Perm selections')
    (hkeys : (selections.map EvidenceSelectionRecord.key).Nodup)
    (hmembers : members.Perm members')
    (hties : ∀ member ∈ members, ∀ member' ∈ members, member.kind = member'.kind →
      member.locator = member'.locator → member.status = member'.status → member = member')
    (hobservations : ∀ member ∈ members,
      observations'.filter (fun observation =>
          observation.memberText = memberText member.kind member.locator) =
        observations.filter (fun observation =>
          observation.memberText = memberText member.kind member.locator)) :
    contentFingerprint sha256 selections' members' observations' =
      contentFingerprint sha256 selections members observations := by
  refine contentFingerprint_congr sha256 ?_ ?_ ?_
  · refine (sortedOn_eq_of_perm hselections ?_).symm
    intro selection hselection selection' hselection' hkey
    exact List.inj_on_of_nodup_map hkeys hselection hselection' hkey
  · intro key
    refine (sortedOn_eq_of_perm (hmembers.filter _) ?_).symm
    intro member hmember member' hmember' horder
    rcases List.mem_filter.1 hmember with ⟨hmem, hkey⟩
    rcases List.mem_filter.1 hmember' with ⟨hmem', hkey'⟩
    rcases member_of_memberOrder
      ((of_decide_eq_true hkey).trans (of_decide_eq_true hkey').symm) horder with
      ⟨hkind, hlocator, hstatus⟩
    exact hties member hmem member' hmem' hkind hlocator hstatus
  · intro member hmember
    rw [hobservations member hmember]

/-! ## The assembled set -/

/-- A selection with its fingerprint from a table. -/
def withFingerprint (fingerprints : Dict String String) (selection : EvidenceSelectionRecord) :
    EvidenceSelectionRecord :=
  { selection with fingerprint := (fingerprints.get? selection.selectionId).getD "" }

lemma finalizeSelections_eq (records : IdentifiedRecords) :
    finalizeSelections sha256 records =
      some
        (records.selections.map
          (withFingerprint
            (selectionRecordFingerprints sha256 records.selections records.members
              records.observations))) := by
  refine mapM_eq_map ?_
  intro selection hselection
  set fingerprints := selectionRecordFingerprints sha256 records.selections records.members
    records.observations with hfingerprints
  have hkey : selection.selectionId ∈ fingerprints.keys := by
    rw [hfingerprints, selectionRecordFingerprints, Dict.mem_keys_ofList, List.map_map]
    exact List.mem_map_of_mem hselection
  cases hget : fingerprints.get? selection.selectionId with
  | none => exact absurd hkey ((Dict.get?_eq_none_iff _ _).1 hget)
  | some fingerprint => simp [withFingerprint, hget]

/-- What the builder promises of linked records: the id of the set comes from their contents, and
so does the fingerprint that is taken from the finished records. -/
structure Assembled (selections : List EvidenceSelectionRecord)
    (members : List EvidenceMemberRecord) (observations : List PendingObservation)
    (evidenceSet : EvidenceSet) : Prop where
  id_eq :
    evidenceSet.evidenceSetId =
      stableEvidenceSetId context.profile.source context.profile.adapterId context.captureUid
        (contentFingerprint sha256 selections members observations)
  fingerprint_eq :
    selectionFingerprintForRecords sha256 evidenceSet.evidenceSelectionRecords
        evidenceSet.evidenceMemberRecords evidenceSet.evidenceObservationRecords =
      contentFingerprint sha256 selections members observations
  members_perm :
    evidenceSet.evidenceMemberRecords.Perm
      (members.map (namedMember evidenceSet.evidenceSetId))

/-- The assembled set also has all observations, with ids below its own. -/
theorem assembleEvidenceSet_run {selections : List EvidenceSelectionRecord}
    {members : List EvidenceMemberRecord} {observations : List PendingObservation}
    (h : Linked selections members observations) :
    ∃ evidenceSet,
      assembleEvidenceSet sha256 context selections members observations = some evidenceSet ∧
        Assembled sha256 context selections members observations evidenceSet ∧
          evidenceSet.evidenceObservationRecords.Perm
            (observations.map (namedObservation evidenceSet.evidenceSetId)) := by
  set setId := stableEvidenceSetId context.profile.source context.profile.adapterId
    context.captureUid with hsetId
  set provisionalSetId := setId (selectionFingerprintForRecords sha256 selections members
    (observations.map PendingObservation.record)) with hprovisional
  set fingerprints := selectionRecordFingerprints sha256
    (selections.map (identifySelection provisionalSetId))
    (members.map (namedMember provisionalSetId))
    (observations.map (namedObservation provisionalSetId)) with hfingerprints
  set finalized := (selections.map (identifySelection provisionalSetId)).map
    (withFingerprint fingerprints) with hfinalized
  set content := contentFingerprint sha256 selections members observations with hcontent
  have hids : ∀ selection ∈ finalized, selection.key ≠ [] ∧
      selection.selectionId = stableSelectionId provisionalSetId selection.key := by
    intro selection hselection
    rw [hfinalized, List.map_map] at hselection
    rcases List.mem_map.1 hselection with ⟨source, hsource, rfl⟩
    exact ⟨h.keyed source hsource, rfl⟩
  -- neither pass of giving ids changes the contents
  have hcontents : contentFingerprint sha256 finalized members observations = content := by
    rw [hfinalized, List.map_map]
    exact contentFingerprint_map sha256
      (fun selection =>
        withFingerprint fingerprints (identifySelection provisionalSetId selection))
      (fun _ => rfl) (fun _ => rfl) (fun _ => rfl) _ _ _
  have hcontents' : ∀ newId,
      contentFingerprint sha256 (finalized.map (identifySelection newId)) members observations =
        content := by
    intro newId
    exact (contentFingerprint_map sha256 (identifySelection newId) (fun _ => rfl) (fun _ => rfl)
      (fun _ => rfl) _ _ _).trans hcontents
  have hfirst : selectionFingerprintForRecords sha256 finalized
      (members.map (namedMember provisionalSetId))
      (observations.map (namedObservation provisionalSetId)) = content :=
    (fingerprint_named provisionalSetId sha256 members observations hids).trans hcontents
  have hlinked : Linked finalized members observations := by
    refine ⟨fun selection hselection => (hids selection hselection).1, ?_, h.observationOf⟩
    intro member hmember
    have hkeys : finalized.map EvidenceSelectionRecord.key =
        selections.map EvidenceSelectionRecord.key := by
      rw [hfinalized, List.map_map, List.map_map]
      rfl
    rw [hkeys]
    exact h.memberOf member hmember
  have hrun : assembleEvidenceSet sha256 context selections members observations =
      if setId content ≠ provisionalSetId then
        some (finishedSet context (setId content) content
          { selections := finalized.map (identifySelection (setId content))
            members := members.map (namedMember (setId content))
            observations := observations.map (namedObservation (setId content)) })
      else
        some (finishedSet context (setId content) content
          { selections := finalized
            members := members.map (namedMember provisionalSetId)
            observations := observations.map (namedObservation provisionalSetId) }) := by
    simp only [assembleEvidenceSet, ← hsetId, ← hprovisional, identifyRecords_eq h,
      Option.bind_eq_bind, Option.bind_some, finalizeSelections_eq, ← hfingerprints, ← hfinalized,
      hfirst, identifyRecords_eq hlinked]
  rw [hrun]
  split_ifs with hsame
  · refine ⟨_, rfl, ⟨rfl, ?_, sortedOn_perm _ _⟩, sortedOn_perm _ _⟩
    refine (fingerprint_finished sha256 context (setId content) content members observations
      ?_).trans (hcontents' (setId content))
    intro selection hselection
    rcases List.mem_map.1 hselection with ⟨source, hsource, rfl⟩
    exact ⟨(hids source hsource).1, rfl⟩
  · have hid : setId content = provisionalSetId := not_not.1 hsame
    refine ⟨_, rfl, ⟨rfl, ?_, ?_⟩, ?_⟩
    · exact (fingerprint_finished sha256 context provisionalSetId content members observations
        hids).trans hcontents
    · refine (sortedOn_perm _ _).trans ?_
      simp only [finishedSet, hid, List.Perm.refl]
    · refine (sortedOn_perm _ _).trans ?_
      simp only [finishedSet, hid, List.Perm.refl]

theorem assembleEvidenceSet_spec {selections : List EvidenceSelectionRecord}
    {members : List EvidenceMemberRecord} {observations : List PendingObservation}
    (h : Linked selections members observations) :
    ∃ evidenceSet,
      assembleEvidenceSet sha256 context selections members observations = some evidenceSet ∧
        Assembled sha256 context selections members observations evidenceSet := by
  rcases assembleEvidenceSet_run sha256 context h with ⟨evidenceSet, hrun, hspec, _⟩
  exact ⟨evidenceSet, hrun, hspec⟩

end

end Evidence
end Tallylot
