import Tallylot.Claims.StatementSums

/-!
# StatementParity — balance claims and balance references of statement rows

The rows of the selected statements reach the reconciliation twice: as balance claims, one for each
row, and as balance references, which skip rows and add others up.  The two agree on the positions
and on their quantities exactly when no row is left out or rounded away (`statement_parity_iff`).
-/

namespace Tallylot
namespace Claims

open Data Evidence Balances
open Domain hiding EvidenceObservationRecord EvidenceSet

/-! ## Agreement -/

/-- Claims and references of the same groups, with the same sums; and no row without a quantity has a
claim that states one. -/
structure StatementParity (evidenceSet : EvidenceSet) (claims : List (SubjectRef × ClaimRecord))
    (references : List AcceptedReference) : Prop where
  groups : ∀ g, (∃ c ∈ claims, claimGroup c = some g) ↔ ∃ r ∈ references, referenceGroup r = g
  totals : ∀ g, groupTotal claimGroup claimQuantity g claims =
    groupTotal (fun r => some (referenceGroup r)) referenceQuantity g references
  observed : ∀ row ∈ rowObservations evidenceSet, row.2.quantity = none →
    ∀ c ∈ claims, row.2.observationId ∈ c.2.observationRefs → c.2.quantity = none

/-! ## Rows in the evidence set -/

/-- No two selected documents share a member, and no two of their rows share a scope. -/
structure ScopesApart (selected : List RecognizedDocument) : Prop where
  members : (selected.map locatorText).Nodup
  rows : ((rowPlaces selected).map (fun place =>
    colonJoin [place.document.1.locator.1, place.document.1.locator.2,
      rowKey place.row place.index])).Nodup

/-! ## Rows without references of their own -/

lemma toString_nat_inj {m n : Nat} (h : toString m = toString n) : m = n := by
  have hdigits : Nat.toDigits 10 m = Nat.toDigits 10 n := String.ofList_injective h
  rw [← @Nat.ofDigitChars_ten_toDigits m, hdigits, Nat.ofDigitChars_ten_toDigits]

/-- The text after the last separator is told from the text before it. -/
lemma append_cons_inj_right {α : Type*} {c : α} {front front' back back' : List α}
    (h : front ++ c :: back = front' ++ c :: back') (hback : c ∉ back) (hback' : c ∉ back') :
    front = front' ∧ back = back' := by
  rcases List.append_eq_append_iff.1 h with ⟨mid, hfront, hmid⟩ | ⟨mid, hfront, hmid⟩
  · cases mid with
    | nil =>
        rw [hfront, List.append_nil]
        exact ⟨rfl, (List.cons.inj hmid).2⟩
    | cons d mid =>
        rw [(List.cons.inj hmid).2] at hback
        exact absurd (List.mem_append_right _ List.mem_cons_self) hback
  · cases mid with
    | nil =>
        rw [hfront, List.append_nil]
        exact ⟨rfl, (List.cons.inj hmid).2.symm⟩
    | cons d mid =>
        rw [(List.cons.inj hmid).2] at hback'
        exact absurd (List.mem_append_right _ List.mem_cons_self) hback'

lemma colon_not_mem_digits (n : Nat) : ':' ∉ (toString n).toList := by
  intro hmem
  have hdigit := Nat.isDigit_of_mem_toDigits (by decide) (by decide) (show ':' ∈ Nat.toDigits 10 n by
    simpa [Nat.repr] using hmem)
  revert hdigit
  decide

/-- A row text with an index is told from others by what stands before the index, and by the index. -/
lemma rowText_inj {a b a' b' : String} {m n : Nat}
    (h : colonJoin [a, b, "row:" ++ toString m] = colonJoin [a', b', "row:" ++ toString n]) :
    colonJoin [a, b] = colonJoin [a', b'] ∧ m = n := by
  have hchars : ∀ (x y : String) (i : Nat), (colonJoin [x, y, "row:" ++ toString i]).toList =
      ((colonJoin [x, y]).toList ++ [':', 'r', 'o', 'w']) ++ ':' :: (toString i).toList := by
    intro x y i
    rw [colonJoin_cons x (List.cons_ne_nil _ _), colonJoin_pair, colonJoin_pair]
    simp
  have hlists := congrArg String.toList h
  rw [hchars, hchars] at hlists
  rcases append_cons_inj_right hlists (colon_not_mem_digits m) (colon_not_mem_digits n) with
    ⟨hfront, hback⟩
  exact ⟨String.toList_inj.1 (List.append_cancel_right hfront),
    toString_nat_inj (String.toList_inj.1 hback)⟩

/-- Documents with locators of different texts, whose rows have no references of their own, have
scopes of their own. -/
theorem scopesApart_of_unreferenced {selected : List RecognizedDocument}
    (hmembers : (selected.map locatorText).Nodup)
    (hrefs : ∀ row ∈ selectedRows selected, row.rawRowRef = "") : ScopesApart selected := by
  refine ⟨hmembers, ?_⟩
  have htext : ∀ place ∈ rowPlaces selected, ∀ place' ∈ rowPlaces selected,
      colonJoin [place.document.1.locator.1, place.document.1.locator.2,
          rowKey place.row place.index] =
        colonJoin [place'.document.1.locator.1, place'.document.1.locator.2,
          rowKey place'.row place'.index] →
      locatorText place.document = locatorText place'.document ∧ place.index = place'.index := by
    have hkey : ∀ place ∈ rowPlaces selected,
        rowKey place.row place.index = "row:" ++ toString place.index := by
      intro place hplace
      have hrow : place.row ∈ selectedRows selected := by
        rw [← rowPlaces_map_row]
        exact List.mem_map_of_mem hplace
      rw [rowKey, if_neg (not_not.2 (hrefs place.row hrow))]
    intro place hplace place' hplace' h
    rw [hkey place hplace, hkey place' hplace'] at h
    rcases rowText_inj h with ⟨hlocators, hindex⟩
    refine ⟨?_, hindex⟩
    exact (colonJoin_cons_inj _ (List.cons_ne_nil _ _) (List.cons_ne_nil _ _)).2 hlocators
  rw [rowPlaces, List.map_flatMap, List.nodup_flatMap]
  constructor
  · intro document hdocument
    have hindices : ((documentPlaces document).map RowPlace.index).Nodup := by
      rw [documentPlaces, List.map_map]
      have hrange : document.2.rows.zipIdx.map Prod.snd = List.range' 0 document.2.rows.length :=
        List.zipIdx_map_snd 0 document.2.rows
      exact hrange ▸ List.nodup_range'
    refine List.pairwise_map.2 ((List.pairwise_map.1 hindices).imp_of_mem ?_)
    intro place place' hplace hplace' hne htexts
    have hmem : ∀ p ∈ documentPlaces document, p ∈ rowPlaces selected :=
      fun p hp => List.mem_flatMap.2 ⟨document, hdocument, hp⟩
    exact hne (htext place (hmem place hplace) place' (hmem place' hplace') htexts).2
  · refine (List.pairwise_map.1 hmembers).imp_of_mem ?_
    intro document document' hdocument hdocument' hne
    rw [Function.onFun, List.disjoint_left]
    intro text htext₁ htext₂
    rcases List.mem_map.1 htext₁ with ⟨place, hplace, rfl⟩
    rcases List.mem_map.1 htext₂ with ⟨place', hplace', hsame⟩
    have hdoc : ∀ d : RecognizedDocument, ∀ p ∈ documentPlaces d, p.document = d := by
      intro d p hp
      rcases List.mem_map.1 hp with ⟨r, _, rfl⟩
      rfl
    have hlocators := (htext place (List.mem_flatMap.2 ⟨document, hdocument, hplace⟩) place'
      (List.mem_flatMap.2 ⟨document', hdocument', hplace'⟩) hsame.symm).1
    rw [hdoc document place hplace, hdoc document' place' hplace'] at hlocators
    exact hne hlocators

section Claimed

variable {sha256 : String → String} {context : CaptureContext} {env : StatementEnvironment}
  {selected : List RecognizedDocument}

lemma ofParts_eq_some {moment : Option Instant} {precision : Option TemporalPrecision}
    {stated : StatedTime} (h : StatedTime.ofParts moment precision = some stated) :
    stated.moment = moment ∧ stated.precision = precision ∧
      ∀ t, moment = some t → precision = some .date → t.isMidnight = true := by
  have hmidnight := stated.midnight
  unfold StatedTime.ofParts at h
  split at h
  · cases h
    exact ⟨rfl, rfl, hmidnight⟩
  · split at h
    · cases h
      exact ⟨rfl, rfl, hmidnight⟩
    · cases h

/-- A row as the claims see it. -/
structure ObservedRow (context : CaptureContext) (row : StatementDocumentBalanceRow)
    (observed : EvidenceMemberRecord × EvidenceObservationRecord) : Prop where
  sourceSlug : observed.1.sourceSlug = context.profile.source
  account : observed.2.locationGroupLabel = row.account
  wallet : observed.2.locationLabel = row.wallet
  balanceKind : observed.2.balanceKind = row.balanceKind
  asset : observed.2.instrumentSymbol = row.asset
  quantity : observed.2.quantity = row.quantity
  moment : observed.2.observedAt.moment = row.asOfAt
  precision : observed.2.observedAt.precision = some row.asOfPrecision
  midnight : ∀ t, row.asOfAt = some t → row.asOfPrecision = .date → t.isMidnight = true
  id_ne_blank : observed.2.observationId ≠ ""

lemma observedRow_of_pending {place : RowPlace} {evidenceSetId : String}
    (h : rowObservation (collectedDocument .selected place.document) place.row place.index =
      some place.pending) :
    ObservedRow context place.row (observedAs context evidenceSetId place) ∧
      (observedAs context evidenceSetId place).1.memberId =
        stableMemberId evidenceSetId .statementDocumentFile
          [place.document.1.locator.1, place.document.1.locator.2] ∧
      (observedAs context evidenceSetId place).2.key = [rowKey place.row place.index] := by
  rcases rowObservation_eq_some h with ⟨observedAt, hstated, _, _, _, hkey, htime, haccount,
    hwallet, hkind, hasset, hquantity⟩
  rcases ofParts_eq_some hstated with ⟨hmoment, hprecision, hmidnight⟩
  refine ⟨⟨rfl, haccount, hwallet, hkind, hasset, hquantity, ?_, ?_, ?_, ?_⟩, rfl, hkey⟩
  · exact (congrArg StatedTime.moment htime).trans hmoment
  · exact (congrArg StatedTime.precision htime).trans hprecision
  · exact fun t ht hdate => hmidnight t ht (congrArg some hdate)
  · exact colonJoin_cons_ne_blank _ (List.cons_ne_nil _ _)

lemma ObservedRow.claimable {row : StatementDocumentBalanceRow}
    {observed : EvidenceMemberRecord × EvidenceObservationRecord}
    (h : ObservedRow context row observed) :
    ClaimableObservation env observed ↔ row.asOfAt ≠ none ∧ row.balanceKind ≠ "" ∧
      row.asset ≠ "" ∧ row.account ≠ "" ∧ row.wallet ≠ "" ∧
        ∃ locationRef, statementLocationRef env context.profile.source row.account row.wallet =
          .ok locationRef := by
  have hprecision : observed.2.observedAt.precision ≠ none := by
    rw [h.precision]
    exact Option.some_ne_none _
  rw [← h.moment, ← h.balanceKind, ← h.asset, ← h.account, ← h.wallet, ← h.sourceSlug]
  constructor
  · intro hc
    exact ⟨hc.observedAt, hc.balanceKind, hc.symbol, hc.groupLabel, hc.label, hc.located⟩
  · rintro ⟨htime, hkind, hsymbol, hgroup, hlabel, hlocated⟩
    exact ⟨htime, hprecision, hkind, hsymbol, hgroup, hlabel, hlocated⟩

/-- A row at a position is one that the claims take and whose symbol has an instrument. -/
lemma ObservedRow.positioned {row : StatementDocumentBalanceRow}
    {observed : EvidenceMemberRecord × EvidenceObservationRecord}
    (h : ObservedRow context row observed) :
    PositionedRow env context.profile.source row ↔ ClaimableObservation env observed ∧
      isBlank row.asset = false ∧
        ∃ instrumentId, symbolInstrumentId env.toKernelEnvironment row.asset =
          some instrumentId := by
  rw [h.claimable]
  constructor
  · intro hrow
    refine ⟨⟨hrow.asOfAt, hrow.balanceKind, ?_, hrow.account, hrow.wallet, hrow.located⟩,
      hrow.asset, hrow.resolved⟩
    intro hempty
    have hblank := hrow.asset
    rw [hempty] at hblank
    cases hblank
  · rintro ⟨⟨htime, hkind, _, haccount, hwallet, hlocated⟩, hasset, hresolved⟩
    exact ⟨htime, haccount, hwallet, hkind, hasset, hlocated, hresolved⟩

lemma ObservedRow.group {row : StatementDocumentBalanceRow}
    {observed : EvidenceMemberRecord × EvidenceObservationRecord}
    (h : ObservedRow context row observed) :
    observationGroup env observed = rowGroup env context.profile.source row := by
  rw [observationGroup, rowGroup, h.sourceSlug, h.account, h.wallet, h.asset, h.moment]

lemma ObservedRow.quantity_eq {row : StatementDocumentBalanceRow}
    {observed : EvidenceMemberRecord × EvidenceObservationRecord}
    (h : ObservedRow context row observed) :
    observationQuantity observed = rowQuantity row := by
  rw [observationQuantity, rowQuantity, h.quantity]

/-- The scope of a row ends in the locator of its document and in its own key. -/
lemma scopeId_eq {claimSetId evidenceSetId : String} {place : RowPlace}
    (h : rowObservation (collectedDocument .selected place.document) place.row place.index =
      some place.pending) :
    (rowScope claimSetId (observedAs context evidenceSetId place)).id =
      claimSetId ++ (":" ++ (evidenceSetId ++ (":" ++
        (EvidenceMemberKind.statementDocumentFile.value ++ (":" ++
          colonJoin [place.document.1.locator.1, place.document.1.locator.2,
            rowKey place.row place.index]))))) := by
  rcases @observedRow_of_pending context place evidenceSetId h with ⟨_, hmember, hkey⟩
  have hne : ∀ (first : String) (rest : List String), first :: rest ≠ [] :=
    fun first rest => List.cons_ne_nil first rest
  rw [rowScope, hmember, hkey, List.getLast?_singleton, Option.getD_some, ClaimScope.id,
    stableClaimScopeId, ClaimScope.key, colonJoin_cons _ (hne _ _), colonJoin_pair,
    stableMemberId, colonJoin_cons _ (hne _ _), colonJoin_cons _ (hne _ _), colonJoin_pair,
    colonJoin_cons _ (hne _ _), colonJoin_pair]
  simp only [String.append_assoc]

lemma scopes_nodup {claimSetId evidenceSetId : String} (hapart : ScopesApart selected)
    (hpending : ∀ place ∈ rowPlaces selected,
      rowObservation (collectedDocument .selected place.document) place.row place.index =
        some place.pending) :
    ((rowPlaces selected).map (fun place =>
      (rowScope claimSetId (observedAs context evidenceSetId place)).id)).Nodup := by
  have hnd := hapart.rows.map (f := fun text => claimSetId ++ (":" ++ (evidenceSetId ++ (":" ++
    (EvidenceMemberKind.statementDocumentFile.value ++ (":" ++ text))))))
    (fun a b h => by simpa only [String.append_right_inj] using h)
  rw [List.map_map] at hnd
  refine (congrArg List.Nodup (List.map_congr_left (fun place hplace => ?_))).mpr hnd
  exact scopeId_eq (hpending place hplace)

end Claimed

/-! ## The claims of a collection -/

/-- The balance claims that the reconciliation reads from the statement scopes. -/
def balanceClaims (env : StatementEnvironment) (claimSetId : String) (evidenceSet : EvidenceSet) :
    Decoded (List (SubjectRef × ClaimRecord)) := do
  let result ← statementScopeClaims env claimSetId evidenceSet
  match positionedClaims env.toKernelEnvironment (result.claimSet claimSetId) with
  | .ok claims => .ok claims
  | .error message => .error (.value message)

lemma balanceClaims_eq_ok_iff {env : StatementEnvironment} {claimSetId : String}
    {evidenceSet : EvidenceSet} {claims : List (SubjectRef × ClaimRecord)} :
    balanceClaims env claimSetId evidenceSet = .ok claims ↔
      ∃ result, statementScopeClaims env claimSetId evidenceSet = .ok result ∧
        positionedClaims env.toKernelEnvironment (result.claimSet claimSetId) = .ok claims := by
  rw [balanceClaims, bind_eq_ok_iff]
  refine exists_congr (fun result => and_congr_right (fun _ => ?_))
  cases positionedClaims env.toKernelEnvironment (result.claimSet claimSetId) with
  | ok positioned =>
      exact ⟨fun h => congrArg Except.ok (Except.ok.inj h),
        fun h => congrArg Except.ok (Except.ok.inj h)⟩
  | error message => exact iff_of_false (fun h => by cases h) (fun h => by cases h)

section Claims

variable {sha256 : String → String} {context : CaptureContext} {env : StatementEnvironment}
  {plannerResult : Translation.TranslationInputPlanningResult} {collection : StatementCollection}
  {evidenceSet : EvidenceSet} {claimSetId : String}

/-- The rows of the evidence set are the selected rows, as the claims see them. -/
lemma observed_rows
    (hbuild : buildEvidenceSetForProfile sha256 context plannerResult collection.result =
      some (some evidenceSet)) (hapart : ScopesApart collection.selected) :
    ∀ place ∈ rowPlaces collection.selected, ∃ observed ∈ rowObservations evidenceSet,
      observed = observedAs context evidenceSet.evidenceSetId place ∧
        ObservedRow context place.row observed := by
  rcases rowObservations_perm hbuild hapart.members with ⟨hperm, hpending⟩
  intro place hplace
  refine ⟨_, hperm.mem_iff.2 (List.mem_map_of_mem hplace), rfl, ?_⟩
  exact (observedRow_of_pending (hpending place hplace)).1

lemma row_of_observed
    (hbuild : buildEvidenceSetForProfile sha256 context plannerResult collection.result =
      some (some evidenceSet)) (hapart : ScopesApart collection.selected)
    {observed : EvidenceMemberRecord × EvidenceObservationRecord}
    (hobserved : observed ∈ rowObservations evidenceSet) :
    ∃ row ∈ selectedRows collection.selected,
      ObservedRow context row observed ∧ observed.2.key ≠ [] := by
  rcases rowObservations_perm hbuild hapart.members with ⟨hperm, hpending⟩
  rcases List.mem_map.1 (hperm.mem_iff.1 hobserved) with ⟨place, hplace, rfl⟩
  rcases @observedRow_of_pending context place evidenceSet.evidenceSetId (hpending place hplace)
    with ⟨hrow, _, hkey⟩
  refine ⟨place.row, ?_, hrow, ?_⟩
  · rw [← rowPlaces_map_row]
    exact List.mem_map_of_mem hplace
  · rw [hkey]
    exact List.cons_ne_nil _ _

/-- The claims of a collection are made of the scopes of its rows. -/
lemma madeOf_of_ok
    (hbuild : buildEvidenceSetForProfile sha256 context plannerResult collection.result =
      some (some evidenceSet)) (hapart : ScopesApart collection.selected)
    {result : StatementClaims} (h : statementScopeClaims env claimSetId evidenceSet = .ok result) :
    ∃ scopes, scopes.map Prod.fst = rowObservations evidenceSet ∧
      MadeOf env claimSetId (documentObservationIdByMemberId evidenceSet) scopes
        (result.claimSet claimSetId) := by
  rcases rowObservations_perm hbuild hapart.members with ⟨hperm, hpending⟩
  simp only [statementScopeClaims, bind_eq_ok_iff] at h
  rcases h with ⟨scopeList, hscopes, claims, hclaims, hresult⟩
  rcases mapM_ok_pairs hscopes with ⟨scopes, hfst, hsnd, hrun⟩
  refine ⟨scopes, hfst, ?_, ?_, ?_, ?_⟩
  · exact fun s hs => isScopeOf_of_ok (hrun s hs)
  · rw [← Except.ok.inj hresult]
    refine (canonicalClaimRecords_perm hclaims).trans (List.Perm.of_eq ?_)
    rw [← hsnd, List.flatMap_map]
  · rw [← Except.ok.inj hresult]
    refine (sortedOn_perm _ _).trans (List.Perm.of_eq ?_)
    rw [← hsnd, List.map_map]
    rfl
  · have hids : scopes.map (fun s => (rowScope claimSetId s.1).id) =
        (rowObservations evidenceSet).map (fun row => (rowScope claimSetId row).id) := by
      rw [← hfst, List.map_map]
      rfl
    rw [hids, (hperm.map _).nodup_iff, List.map_map]
    exact scopes_nodup hapart hpending

/-- Claims are made exactly when every row can be claimed. -/
lemma exists_statementScopeClaims
    (hkeys : ∀ row ∈ rowObservations evidenceSet, row.2.key ≠ []) :
    (∃ result, statementScopeClaims env claimSetId evidenceSet = .ok result) ↔
      ∀ row ∈ rowObservations evidenceSet, ClaimableObservation env row := by
  constructor
  · rintro ⟨result, hresult⟩ row hrow
    simp only [statementScopeClaims, bind_eq_ok_iff] at hresult
    rcases hresult with ⟨scopeList, hscopes, _⟩
    rcases mapM_ok_pairs hscopes with ⟨scopes, hfst, _, hrun⟩
    rw [← hfst] at hrow
    rcases List.mem_map.1 hrow with ⟨s, hs, rfl⟩
    have hkey : s.1.2.key ≠ [] := hkeys s.1 (hfst ▸ List.mem_map_of_mem hs)
    exact (exists_statementScope hkey).1 ⟨s.2, hrun s hs⟩
  · intro h
    have hscopes : ∃ scopes, (rowObservations evidenceSet).mapM (statementScope env claimSetId
        (documentObservationIdByMemberId evidenceSet)) = .ok scopes :=
      exists_mapM_ok (fun row hrow => (exists_statementScope (hkeys row hrow)).2 (h row hrow))
    rcases hscopes with ⟨scopes, hscopes⟩
    have hdated : ∀ claim ∈ scopes.flatMap StatementScope.claims, DatedClaim claim := by
      intro claim hclaim
      rcases List.mem_flatMap.1 hclaim with ⟨scope, hscope, hclaim⟩
      rcases mapM_ok_pairs hscopes with ⟨pairs, _, hsnd, hrun⟩
      rw [← hsnd] at hscope
      rcases List.mem_map.1 hscope with ⟨s, hs, rfl⟩
      rcases isScopeOf_of_ok (hrun s hs) with ⟨_, hisScope⟩
      exact (hisScope.claims claim hclaim).dated
    rcases exists_canonicalClaimRecords hdated with ⟨claims, hclaims⟩
    exact ⟨_, bind_eq_ok_iff.2 ⟨scopes, hscopes, bind_eq_ok_iff.2 ⟨claims, hclaims, rfl⟩⟩⟩

/-- The balances get positions exactly when every row has one. -/
theorem exists_balanceClaims
    (hbuild : buildEvidenceSetForProfile sha256 context plannerResult collection.result =
      some (some evidenceSet)) (hapart : ScopesApart collection.selected) :
    (∃ claims, balanceClaims env claimSetId evidenceSet = .ok claims) ↔
      ∀ row ∈ selectedRows collection.selected, PositionedRow env context.profile.source row := by
  have hkeys : ∀ row ∈ rowObservations evidenceSet, row.2.key ≠ [] := by
    intro row hrow
    rcases row_of_observed hbuild hapart hrow with ⟨_, _, _, hkey⟩
    exact hkey
  constructor
  · rintro ⟨claims, hclaims⟩ row hrow
    rcases balanceClaims_eq_ok_iff.1 hclaims with ⟨result, hresult, hpositioned⟩
    rw [← rowPlaces_map_row] at hrow
    rcases List.mem_map.1 hrow with ⟨place, hplace, rfl⟩
    rcases observed_rows hbuild hapart place hplace with ⟨observed, hobserved, _, hrow⟩
    have hclaimable := (exists_statementScopeClaims hkeys).1 ⟨result, hresult⟩ observed hobserved
    rcases madeOf_of_ok hbuild hapart hresult with ⟨scopes, hfst, hmade⟩
    rw [← hfst] at hobserved
    rcases List.mem_map.1 hobserved with ⟨s, hs, rfl⟩
    -- The balance of the row has been given a subject.
    rcases positionedClaims_spec hpositioned with ⟨haccepted, hsubjects⟩
    have hbalance : s.2.balance ∈ claims.map Prod.snd := by
      rw [haccepted]
      exact hmade.accepted_perm.mem_iff.2 (List.mem_map_of_mem hs)
    rcases List.mem_map.1 hbalance with ⟨c, hc, hcs⟩
    have hsubject := hsubjects c hc
    rw [hcs] at hsubject
    rcases (hmade.subjectRef_iff hs).1 hsubject with ⟨_, instrumentId, _, hblank, hid, _⟩
    rw [hrow.asset] at hblank hid
    exact hrow.positioned.2 ⟨hclaimable, hblank, instrumentId, hid⟩
  · intro hrows
    have hclaimable : ∀ observed ∈ rowObservations evidenceSet,
        ClaimableObservation env observed := by
      intro observed hobserved
      rcases row_of_observed hbuild hapart hobserved with ⟨row, hrow, hobservedRow, _⟩
      exact (hobservedRow.positioned.1 (hrows row hrow)).1
    rcases (@exists_statementScopeClaims env evidenceSet claimSetId hkeys).2 hclaimable with
      ⟨result, hresult⟩
    rcases madeOf_of_ok hbuild hapart hresult with ⟨scopes, hfst, hmade⟩
    have hpositioned : ∃ claims, positionedClaims env.toKernelEnvironment
        (result.claimSet claimSetId) = .ok claims := by
      refine exists_positionedClaims (fun claim hclaim => ?_)
      rcases List.mem_map.1 (hmade.accepted_perm.mem_iff.1 hclaim) with ⟨s, hs, rfl⟩
      have hobserved : s.1 ∈ rowObservations evidenceSet := hfst ▸ List.mem_map_of_mem hs
      rcases row_of_observed hbuild hapart hobserved with ⟨row, hrow, hobservedRow, _⟩
      rcases hobservedRow.positioned.1 (hrows row hrow) with ⟨hclaim, hblank, instrumentId, hid⟩
      rcases hclaim.located with ⟨locationRef, hlocated⟩
      rw [← hobservedRow.asset] at hblank hid
      exact ⟨_, (hmade.subjectRef_iff hs).2
        ⟨locationRef, instrumentId, hlocated, hblank, hid, rfl⟩⟩
    rcases hpositioned with ⟨claims, hclaims⟩
    exact ⟨claims, balanceClaims_eq_ok_iff.2 ⟨result, hresult, hclaims⟩⟩

/-- The claims have the positions and the quantities of the selected rows. -/
theorem balanceClaims_perm
    (hbuild : buildEvidenceSetForProfile sha256 context plannerResult collection.result =
      some (some evidenceSet)) (hapart : ScopesApart collection.selected)
    {claims : List (SubjectRef × ClaimRecord)}
    (hclaims : balanceClaims env claimSetId evidenceSet = .ok claims) :
    (claims.map (fun c => (claimGroup c, claimQuantity c))).Perm
      ((selectedRows collection.selected).map (fun row =>
        (rowGroup env context.profile.source row, rowQuantity row))) := by
  rcases balanceClaims_eq_ok_iff.1 hclaims with ⟨result, hresult, hpositioned⟩
  rcases madeOf_of_ok hbuild hapart hresult with ⟨scopes, hfst, hmade⟩
  rcases rowObservations_perm hbuild hapart.members with ⟨hperm, hpending⟩
  have hscopes : scopes.map (fun s => (observationGroup env s.1, observationQuantity s.1)) =
      (rowObservations evidenceSet).map (fun row =>
        (observationGroup env row, observationQuantity row)) := by
    rw [← hfst, List.map_map]
    rfl
  refine (hmade.claims_perm hpositioned).trans ?_
  rw [hscopes]
  refine (hperm.map _).trans (List.Perm.of_eq ?_)
  rw [← rowPlaces_map_row, List.map_map, List.map_map]
  refine List.map_congr_left (fun place hplace => ?_)
  have hrow := (@observedRow_of_pending context place evidenceSet.evidenceSetId
    (hpending place hplace)).1
  rw [Function.comp_apply, Function.comp_apply, hrow.group, hrow.quantity_eq]

/-- Every row has a claim that states a quantity, under the id of its observation. -/
lemma claim_of_observed
    (hbuild : buildEvidenceSetForProfile sha256 context plannerResult collection.result =
      some (some evidenceSet)) (hapart : ScopesApart collection.selected)
    {claims : List (SubjectRef × ClaimRecord)}
    (hclaims : balanceClaims env claimSetId evidenceSet = .ok claims)
    {observed : EvidenceMemberRecord × EvidenceObservationRecord}
    (hobserved : observed ∈ rowObservations evidenceSet) :
    ∃ c ∈ claims, observed.2.observationId ∈ c.2.observationRefs ∧ c.2.quantity ≠ none := by
  rcases balanceClaims_eq_ok_iff.1 hclaims with ⟨result, hresult, hpositioned⟩
  rcases madeOf_of_ok hbuild hapart hresult with ⟨scopes, hfst, hmade⟩
  rcases row_of_observed hbuild hapart hobserved with ⟨_, _, hrow, _⟩
  rw [← hfst] at hobserved
  rcases List.mem_map.1 hobserved with ⟨s, hs, rfl⟩
  have hbalance : s.2.balance ∈ claims.map Prod.snd := by
    rw [(positionedClaims_spec hpositioned).1]
    exact hmade.accepted_perm.mem_iff.2 (List.mem_map_of_mem hs)
  rcases List.mem_map.1 hbalance with ⟨c, hc, hcs⟩
  rcases hmade.ofRows s hs with ⟨_, hscope⟩
  refine ⟨c, hc, ?_, ?_⟩
  · have hrefs : c.2.observationRefs =
        observationRefs (documentObservationIdByMemberId evidenceSet) s.1 := by
      rw [hcs]
      exact congrArg ClaimFields.observationRefs hscope.balance
    rw [hrefs]
    exact List.mem_filter.2 ⟨List.mem_cons_self, decide_eq_true hrow.id_ne_blank⟩
  · have hquantity : c.2.quantity = some (s.1.2.quantity.getD 0) := by
      rw [hcs]
      exact congrArg ClaimFields.quantity hscope.balance
    rw [hquantity]
    exact Option.some_ne_none _

/-! ## Parity -/

variable {P : Type} {hooks : StatementDocumentAdapter P}
  {inventory : List StatementInventoryEntry} {reviews : List NormalizationReviewRecord}

/-- The balance references of a collection, for the profile whose evidence is claimed. -/
def balanceReferences (env : StatementEnvironment) (hooks : StatementDocumentAdapter P)
    (context : CaptureContext) (inventory : List StatementInventoryEntry)
    (collection : StatementCollection) (reviews : List NormalizationReviewRecord) :
    Decoded StatementBalanceReferenceBatch :=
  extractSourceBalanceReferencesFromCollection env
    (coinbaseStatementAdapter env.toKernelEnvironment hooks)
    ⟨context.profile.source, context.profile.adapterId, inventory⟩ collection.selected
    collection.issues reviews

/-- Claims and references of claimable rows have the same groups, and the sums of the claims are those
of the references and what is lost. -/
lemma claims_and_references
    (hbuild : buildEvidenceSetForProfile sha256 context plannerResult collection.result =
      some (some evidenceSet)) (hapart : ScopesApart collection.selected)
    {claims : List (SubjectRef × ClaimRecord)}
    (hclaims : balanceClaims env claimSetId evidenceSet = .ok claims)
    (hrows : ∀ row ∈ selectedRows collection.selected, ClaimableRow env context.profile.source row)
    {batch : StatementBalanceReferenceBatch}
    (hbatch : balanceReferences env hooks context inventory collection reviews = .ok batch)
    (g : BalanceGroup) :
    ((∃ c ∈ claims, claimGroup c = some g) ↔
        ∃ r ∈ batch.balanceReferences, referenceGroup r = g) ∧
      groupTotal claimGroup claimQuantity g claims =
        groupTotal (fun r => some (referenceGroup r)) referenceQuantity g
            batch.balanceReferences +
          lostQuantity env context.profile.source
            (placedRows (documentsByPrecedence collection.selected)) g := by
  set slug := context.profile.source with hslug
  set rows := placedRows (documentsByPrecedence collection.selected) with hrowsDef
  rw [balanceReferences, extract_eq] at hbatch
  rcases batch_eq_ok_iff.1 hbatch with ⟨outcomes, references, hreads, hreferences, rfl⟩
  have hperm := placedRows_perm collection.selected
  have hplaced : ∀ placed ∈ rows, ClaimableRow env slug placed.row :=
    fun placed hmem => hrows placed.row (hperm.mem_iff.1 (List.mem_map_of_mem hmem))
  have hclaimed : (claims.map (fun c => (claimGroup c, claimQuantity c))).Perm
      (rows.map (fun placed => (rowGroup env slug placed.row, rowQuantity placed.row))) := by
    refine (balanceClaims_perm hbuild hapart hclaims).trans ?_
    have hmap := hperm.symm.map (fun row => (rowGroup env slug row, rowQuantity row))
    rwa [List.map_map] at hmap
  have hreferred : (references.map (fun r => (some (referenceGroup r), referenceQuantity r))).Perm
      ((sumKeys env slug rows).map (fun key =>
        (some (keyGroup key), roundedSum env slug (firstRows rows) key))) := by
    have hmap := (references_of_rows hreads hplaced hreferences).map
      (fun r : BalanceGroup × ℚ => (some r.1, r.2))
    rwa [List.map_map, List.map_map] at hmap
  constructor
  · calc
      (∃ c ∈ claims, claimGroup c = some g)
          ↔ ∃ placed ∈ rows, rowGroup env slug placed.row = some g :=
            exists_group_of_perm hclaimed
      _ ↔ ∃ key ∈ sumKeys env slug rows, keyGroup key = g := exists_row_iff env slug rows g
      _ ↔ ∃ r ∈ references, referenceGroup r = g := by
            simpa only [Option.some.injEq] using (exists_group_of_perm (g := g) hreferred).symm
  · calc
      groupTotal claimGroup claimQuantity g claims
          = groupTotal (fun placed => rowGroup env slug placed.row)
              (fun placed => rowQuantity placed.row) g rows := groupTotal_of_perm hclaimed
      _ = groupTotal (fun key => some (keyGroup key)) (roundedSum env slug (firstRows rows)) g
              (sumKeys env slug rows) + lostQuantity env slug rows g :=
            groupTotal_rows env slug rows g
      _ = groupTotal (fun r => some (referenceGroup r)) referenceQuantity g references +
            lostQuantity env slug rows g := by
            rw [groupTotal_of_perm hreferred]

/-- Claimable rows make references. -/
lemma exists_balanceReferences
    (hbuild : buildEvidenceSetForProfile sha256 context plannerResult collection.result =
      some (some evidenceSet)) (hapart : ScopesApart collection.selected)
    (hrows : ∀ row ∈ selectedRows collection.selected,
      ClaimableRow env context.profile.source row) :
    ∃ batch, balanceReferences env hooks context inventory collection reviews = .ok batch := by
  have hselected : ∀ placed ∈ placedRows (documentsByPrecedence collection.selected),
      placed.row ∈ selectedRows collection.selected :=
    fun placed hplaced => (placedRows_perm _).mem_iff.1 (List.mem_map_of_mem hplaced)
  have hmidnight : ∀ row ∈ selectedRows collection.selected, ∀ asOfAt, row.asOfAt = some asOfAt →
      row.asOfPrecision = .date → asOfAt.isMidnight = true := by
    intro row hrow
    rw [← rowPlaces_map_row] at hrow
    rcases List.mem_map.1 hrow with ⟨place, hplace, rfl⟩
    rcases observed_rows hbuild hapart place hplace with ⟨_, _, _, hobserved⟩
    exact hobserved.midnight
  rcases @exists_batch _ env hooks
    ⟨context.profile.source, context.profile.adapterId, inventory⟩ _
    (fun placed hplaced => hrows placed.row (hselected placed hplaced))
    (fun placed hplaced => hmidnight placed.row (hselected placed hplaced)) collection.issues
    reviews with ⟨outcomes, references, hreads, hreferences⟩
  rw [balanceReferences, extract_eq]
  exact ⟨_, batch_eq_ok_iff.2 ⟨outcomes, references, hreads, hreferences, rfl⟩⟩

/-- Rows whose claims and references agree state their quantities. -/
lemma claimable_of_parity
    (hbuild : buildEvidenceSetForProfile sha256 context plannerResult collection.result =
      some (some evidenceSet)) (hapart : ScopesApart collection.selected)
    {claims : List (SubjectRef × ClaimRecord)} {references : List AcceptedReference}
    (hclaims : balanceClaims env claimSetId evidenceSet = .ok claims)
    (hparity : StatementParity evidenceSet claims references) :
    ∀ row ∈ selectedRows collection.selected, ClaimableRow env context.profile.source row := by
  intro row hrow
  have hpositioned := (exists_balanceClaims hbuild hapart).1 ⟨claims, hclaims⟩ row hrow
  refine ⟨hpositioned, fun hnone => ?_⟩
  rw [← rowPlaces_map_row] at hrow
  rcases List.mem_map.1 hrow with ⟨place, hplace, rfl⟩
  rcases observed_rows hbuild hapart place hplace with ⟨observed, hmem, _, hobserved⟩
  -- Its claim states a quantity that the row does not.
  rcases claim_of_observed hbuild hapart hclaims hmem with ⟨c, hc, hrefs, hquantity⟩
  exact hquantity (hparity.observed observed hmem (hobserved.quantity.trans hnone) c hc hrefs)

/-- The claims and the references of a collection agree exactly when every row can be claimed and
states its quantity, and nothing is lost from any group to repeated rows and to rounding. -/
theorem statement_parity_iff (sha256 : String → String) (context : CaptureContext)
    (env : StatementEnvironment) (hooks : StatementDocumentAdapter P)
    (plannerResult : Translation.TranslationInputPlanningResult)
    (inventory : List StatementInventoryEntry) (collection : StatementCollection)
    (reviews : List NormalizationReviewRecord) (claimSetId : String) (evidenceSet : EvidenceSet)
    (hbuild : buildEvidenceSetForProfile sha256 context plannerResult collection.result =
      some (some evidenceSet)) (hapart : ScopesApart collection.selected) :
    (∃ claims batch, balanceClaims env claimSetId evidenceSet = .ok claims ∧
        balanceReferences env hooks context inventory collection reviews = .ok batch ∧
          StatementParity evidenceSet claims batch.balanceReferences) ↔
      (∀ row ∈ selectedRows collection.selected, ClaimableRow env context.profile.source row) ∧
        ∀ g, lostQuantity env context.profile.source
          (placedRows (documentsByPrecedence collection.selected)) g = 0 := by
  constructor
  · rintro ⟨claims, batch, hclaims, hbatch, hparity⟩
    have hrows := claimable_of_parity hbuild hapart hclaims hparity
    refine ⟨hrows, fun g => ?_⟩
    have htotal := (claims_and_references hbuild hapart hclaims hrows hbatch g).2
    rw [hparity.totals g] at htotal
    exact left_eq_add.1 htotal
  · rintro ⟨hrows, hlost⟩
    rcases (@exists_balanceClaims _ _ env _ _ _ claimSetId hbuild hapart).2
      (fun row hrow => (hrows row hrow).toPositionedRow) with ⟨claims, hclaims⟩
    rcases @exists_balanceReferences _ _ _ _ _ _ _ hooks inventory reviews hbuild hapart hrows with
      ⟨batch, hbatch⟩
    refine ⟨claims, batch, hclaims, hbatch, ?_, ?_, ?_⟩
    · exact fun g => (claims_and_references hbuild hapart hclaims hrows hbatch g).1
    · intro g
      have htotal := (claims_and_references hbuild hapart hclaims hrows hbatch g).2
      rwa [hlost g, add_zero] at htotal
    · intro observed hobserved hnone
      rcases row_of_observed hbuild hapart hobserved with ⟨row, hrow, hrowOf, _⟩
      exact absurd (hrowOf.quantity.symm.trans hnone) (hrows row hrow).quantity

end Claims

/-! ## A statement of April -/

/-- A balance of April, with or without its quantity. -/
def aprilHolding (asset : String) (quantity : Option Decimal) : StatementDocumentBalanceRow where
  account := "Coinbase"
  wallet := "Coinbase"
  balanceKind := "asset_balance"
  asset := asset
  quantity := quantity
  asOfAt := some ⟨2024, 4, 30, 0, 0, 0, 0, Instant.isDay_endOfApril⟩
  asOfPrecision := .timestamp

def aprilStatement (holdings : List (String × Option Decimal)) : StatementCollection where
  documents :=
    [((aprilEntry,
      { statementAsOfAt := some ⟨2024, 4, 30, 0, 0, 0, 0, Instant.isDay_endOfApril⟩
        rows := holdings.map (fun holding => aprilHolding holding.1 holding.2) }), .selected)]
  issues := []

section April

variable {holdings : List (String × Option Decimal)}

lemma selectedRows_april : selectedRows (aprilStatement holdings).selected =
    holdings.map (fun holding => aprilHolding holding.1 holding.2) :=
  List.append_nil _

lemma scopesApart_april : ScopesApart (aprilStatement holdings).selected :=
  scopesApart_of_unreferenced (List.nodup_singleton _) (fun row hrow => by
    rw [selectedRows_april] at hrow
    rcases List.mem_map.1 hrow with ⟨holding, _, rfl⟩
    rfl)

lemma exists_aprilEvidence (hsome : ((aprilStatement holdings).result.collectedDocuments.mapM
    (statementObservations statementContext)).isSome = true) :
    ∃ evidenceSet, buildEvidenceSetForProfile id statementContext noRetailPlan
      (aprilStatement holdings).result = some (some evidenceSet) := by
  rcases Option.isSome_iff_exists.1 hsome with ⟨pending, hpending⟩
  rcases @build_of_records id statementContext noRetailPlan (aprilStatement holdings).result [] pending
    rfl rfl hpending (List.cons_ne_nil _ _) (List.cons_ne_nil _ _) with ⟨evidenceSet, hbuild, _⟩
  exact ⟨evidenceSet, hbuild⟩

lemma positioned_april {asset : String} (quantity : Option Decimal) (hasset : isBlank asset = false)
    (hresolved : (symbolInstrumentId plainEnvironment.toKernelEnvironment asset).isSome = true) :
    PositionedRow plainEnvironment "coinbase" (aprilHolding asset quantity) where
  asOfAt := Option.some_ne_none _
  account := show "Coinbase" ≠ "" by decide
  wallet := show "Coinbase" ≠ "" by decide
  balanceKind := show "asset_balance" ≠ "" by decide
  asset := hasset
  located := by
    have hok : (statementLocationRef plainEnvironment "coinbase" "Coinbase" "Coinbase").toOption.isSome =
        true := by decide +kernel
    cases hlocated : statementLocationRef plainEnvironment "coinbase" "Coinbase" "Coinbase" with
    | error e =>
        rw [hlocated] at hok
        cases hok
    | ok locationRef => exact ⟨locationRef, hlocated⟩
  resolved := Option.isSome_iff_exists.1 hresolved

end April

/-- Three balances, of distinct assets. -/
def aprilHoldings : List (String × Option Decimal) :=
  [("BTC", some (Decimal.ofParts 5 (-1))), ("ETH", some (Decimal.ofParts 2 0)),
    ("CAD", some (Decimal.ofParts 12345 (-2)))]

lemma april_exact (key : AggregationKey) :
    Decimal.ExactSums 0 (keyQuantities plainEnvironment "coinbase" key
      (placedRows (documentsByPrecedence (aprilStatement aprilHoldings).selected))) := by
  have hsub : (keyQuantities plainEnvironment "coinbase" key
      (placedRows (documentsByPrecedence (aprilStatement aprilHoldings).selected))).Sublist
        ((placedRows (documentsByPrecedence (aprilStatement aprilHoldings).selected)).filterMap
          (fun placed => placed.row.quantity)) :=
    List.filter_sublist.filterMap _
  have hquantities : (placedRows (documentsByPrecedence (aprilStatement aprilHoldings).selected)).filterMap
      (fun placed => placed.row.quantity) = aprilHoldings.filterMap Prod.snd := by
    decide +kernel
  rw [hquantities] at hsub
  have hplaces : ∀ d ∈ aprilHoldings.filterMap Prod.snd, -((2 : Nat) : Int) ≤ d.exp := by
    decide +kernel
  have hsum := (hsub.map (fun d => |d.toRat|)).sum_le_sum (fun q hq => by
    rcases List.mem_map.1 hq with ⟨d, _, rfl⟩
    exact abs_nonneg _)
  have htotal : (((aprilHoldings.filterMap Prod.snd).map (fun d => |d.toRat|)).sum : ℚ) < 1000 := by
    decide +kernel
  refine @Decimal.exactSums_of_small 2 _ 0 (by decide) (fun d hd => hplaces d (hsub.subset hd)) ?_
  rw [Decimal.toRat_zero, abs_zero, zero_add]
  calc
    _ ≤ (1000 : ℚ) * 10 ^ 2 := mul_le_mul_of_nonneg_right (hsum.trans htotal.le) (by norm_num)
    _ < 10 ^ Decimal.precision := by norm_num [Decimal.precision]

/-- The claims and the references of the three balances agree. -/
theorem aprilHoldings_agree :
    ∃ evidenceSet claims batch, buildEvidenceSetForProfile id statementContext noRetailPlan
        (aprilStatement aprilHoldings).result = some (some evidenceSet) ∧
      balanceClaims plainEnvironment "claims" evidenceSet = .ok claims ∧
        balanceReferences plainEnvironment symbolAdapter.toStatementDocumentAdapter statementContext []
          (aprilStatement aprilHoldings) [] = .ok batch ∧
        StatementParity evidenceSet claims batch.balanceReferences := by
  rcases @exists_aprilEvidence aprilHoldings (by decide +kernel) with ⟨evidenceSet, hbuild⟩
  have hrows : ∀ holding ∈ aprilHoldings, isBlank holding.1 = false ∧ holding.2 ≠ none ∧
      (symbolInstrumentId plainEnvironment.toKernelEnvironment holding.1).isSome = true := by
    decide +kernel
  have hclaimable : ∀ row ∈ selectedRows (aprilStatement aprilHoldings).selected,
      ClaimableRow plainEnvironment "coinbase" row := by
    intro row hrow
    rw [selectedRows_april] at hrow
    rcases List.mem_map.1 hrow with ⟨holding, hholding, rfl⟩
    rcases hrows holding hholding with ⟨hasset, hquantity, hresolved⟩
    exact ⟨positioned_april _ hasset hresolved, hquantity⟩
  have hlost : ∀ g, lostQuantity plainEnvironment "coinbase"
      (placedRows (documentsByPrecedence (aprilStatement aprilHoldings).selected)) g = 0 :=
    lostQuantity_eq_zero (by decide +kernel) april_exact
  rcases (statement_parity_iff id statementContext plainEnvironment
    symbolAdapter.toStatementDocumentAdapter noRetailPlan [] (aprilStatement aprilHoldings) [] "claims"
    evidenceSet hbuild scopesApart_april).2 ⟨hclaimable, hlost⟩ with ⟨claims, batch, hparity⟩
  exact ⟨evidenceSet, claims, batch, hbuild, hparity⟩

/-- The balance without a quantity is claimed, with a quantity that the statement does not have. -/
theorem unquantified_row_claimed :
    ∃ evidenceSet claims, buildEvidenceSetForProfile id statementContext noRetailPlan
        (aprilStatement [("BTC", none)]).result = some (some evidenceSet) ∧
      balanceClaims plainEnvironment "claims" evidenceSet = .ok claims ∧
      ∀ references, ¬StatementParity evidenceSet claims references := by
  rcases @exists_aprilEvidence [("BTC", none)] (by decide +kernel) with ⟨evidenceSet, hbuild⟩
  have hclaims : ∃ claims, balanceClaims plainEnvironment "claims" evidenceSet = .ok claims := by
    refine (exists_balanceClaims hbuild scopesApart_april).2 (fun row hrow => ?_)
    rw [List.mem_singleton.1 hrow]
    exact positioned_april none (by decide) (by decide +kernel)
  rcases hclaims with ⟨claims, hclaims⟩
  refine ⟨evidenceSet, claims, hbuild, hclaims, fun references hparity => ?_⟩
  have hrow := claimable_of_parity hbuild scopesApart_april hclaims hparity (aprilHolding "BTC" none)
    List.mem_cons_self
  exact hrow.quantity rfl

end Claims
end Tallylot
