import Tallylot.Claims.Records
import Tallylot.Data.Dict
import Tallylot.Domain.Evidence
import Tallylot.Evidence.SourceEvidence

/-!
# CoinbaseStatements — claims from the rows of Coinbase statements

Every row observation of a selected statement document has a scope of its own, with one accepted
bundle of four claims: the balance, its owner, its instrument and its location.  A row without a
quantity is claimed with the quantity zero.
-/

namespace Tallylot
namespace Claims

open Data Evidence
open Domain hiding EvidenceObservationRecord EvidenceSet

/-- `instrument_kind_for_symbol` -/
def instrumentKindForSymbol (env : KernelEnvironment) (symbol : String) : InstrumentKind :=
  if env.upper (strip symbol) ∈ ["CAD", "USD"] then .fiat else .crypto

/-- `_statement_location_ref` -/
def statementLocationRef (env : StatementEnvironment)
    (sourceSlug locationGroupLabel locationLabel : String) : Decoded String :=
  let walletSegment := strip locationLabel
  let accountSegment := strip locationGroupLabel
  if walletSegment ≠ "" ∧ env.casefold walletSegment ≠ env.casefold (strip sourceSlug) then
    locationIdFromParts env.lower [sourceSlug, walletSegment]
  else if accountSegment ≠ "" ∧ env.casefold accountSegment ≠ env.casefold (strip sourceSlug) then
    locationIdFromParts env.lower [sourceSlug, accountSegment]
  else locationIdFromParts env.lower [sourceSlug]

/-! ## The claims of a scope -/

section Fields

variable (scope : ClaimScope) (observation : EvidenceObservationRecord)
  (observationRefs : List String)

def balanceClaimFields : ClaimFields where
  bundleId := scope.bundleId
  claimId := scope.claimId .balance "0"
  kind := .balance
  observationRefs := observationRefs
  effectiveAt := observation.observedAt.moment
  precision := observation.observedAt.precision
  locationClaimRef := scope.claimId .location "0"
  instrumentClaimRefs := [scope.claimId .instrument "0"]
  balanceKind := observation.balanceKind
  -- The quantity of a row without one is zero.
  quantity := some (observation.quantity.getD 0)
  observedAt := observation.observedAt.moment

def beneficialOwnerClaimFields : ClaimFields where
  bundleId := scope.bundleId
  claimId := scope.claimId .beneficialOwner "0"
  kind := .beneficialOwner
  observationRefs := observationRefs
  beneficialOwnerRef := filingBeneficialOwnerRef

def instrumentClaimFields (env : KernelEnvironment) : ClaimFields where
  bundleId := scope.bundleId
  claimId := scope.claimId .instrument "0"
  kind := .instrument
  observationRefs := observationRefs
  scheme := "symbol"
  value := observation.instrumentSymbol
  venue := "coinbase"
  instrumentKind := (instrumentKindForSymbol env observation.instrumentSymbol).value
  name := observation.instrumentSymbol

def locationClaimFields (locationRef : String) : ClaimFields where
  bundleId := scope.bundleId
  claimId := scope.claimId .location "0"
  kind := .location
  observationRefs := observationRefs
  locationRef := locationRef
  locationGroupLabel := observation.locationGroupLabel
  locationLabel := observation.locationLabel

end Fields

/-- What one row observation adds to a claim set. -/
structure StatementScope where
  balance : ClaimRecord
  beneficialOwner : ClaimRecord
  instrument : ClaimRecord
  location : ClaimRecord
  bundle : ClaimBundleRecord
  decision : ClaimBundleDecisionRecord

def StatementScope.claims (s : StatementScope) : List ClaimRecord :=
  [s.balance, s.beneficialOwner, s.instrument, s.location]

/-- `document_observation_id_by_member_id` -/
def documentObservationIdByMemberId (evidenceSet : EvidenceSet) : Dict String String :=
  Dict.ofList
    ((evidenceSet.evidenceObservationRecords.filter (fun observation =>
      observation.kind = .statementDocument)).map (fun observation =>
        (observation.memberId, observation.observationId)))

/-- The rows of the selected statement documents, in the order of the two loops. -/
def rowObservations (evidenceSet : EvidenceSet) :
    List (EvidenceMemberRecord × EvidenceObservationRecord) :=
  (evidenceSet.evidenceMemberRecords.filter (fun member =>
    member.kind = .statementDocumentFile ∧ member.status = .selected)).flatMap (fun member =>
      (evidenceSet.evidenceObservationRecords.filter (fun observation =>
        observation.memberId = member.memberId ∧ observation.kind = .statementBalanceRow)).map
          (fun observation => (member, observation)))

def observationRefs (documents : Dict String String)
    (row : EvidenceMemberRecord × EvidenceObservationRecord) : List String :=
  [row.2.observationId, (documents.get? row.1.memberId).getD ""].filter (fun ref => ref ≠ "")

/-- One turn of the inner loop of `statement_scope_claims`. -/
def statementScope (env : StatementEnvironment) (claimSetId : String)
    (documents : Dict String String) (row : EvidenceMemberRecord × EvidenceObservationRecord) :
    Decoded StatementScope := do
  let rowKey ← requireSome row.2.key.getLast? "tuple index out of range"
  let scope : ClaimScope := ⟨claimSetId, row.1.memberId, rowKey⟩
  let refs := observationRefs documents row
  let balance ← recordClaim (balanceClaimFields scope row.2 refs)
  let beneficialOwner ← recordClaim (beneficialOwnerClaimFields scope refs)
  let instrument ← recordClaim (instrumentClaimFields scope row.2 refs env.toKernelEnvironment)
  let locationRef ← statementLocationRef env row.1.sourceSlug row.2.locationGroupLabel
    row.2.locationLabel
  let location ← recordClaim (locationClaimFields scope row.2 refs locationRef)
  return {
    balance := balance
    beneficialOwner := beneficialOwner
    instrument := instrument
    location := location
    bundle :=
      { scopeId := scope.id
        bundleId := scope.bundleId
        key := "default"
        scopeKey := scope.key
        claimRefs := [balance.claimId, beneficialOwner.claimId, instrument.claimId,
          location.claimId] }
    decision :=
      { decisionId := stableClaimBundleDecisionId scope.id
        outcome := .accepted
        acceptedBundleRef := scope.bundleId } }

/-- What `statement_scope_claims` returns. -/
structure StatementClaims where
  claimRecords : List ClaimRecord
  bundleRecords : List ClaimBundleRecord
  decisionRecords : List ClaimBundleDecisionRecord

/-- `statement_scope_claims` -/
def statementScopeClaims (env : StatementEnvironment) (claimSetId : String)
    (evidenceSet : EvidenceSet) : Decoded StatementClaims := do
  let scopes ← (rowObservations evidenceSet).mapM
    (statementScope env claimSetId (documentObservationIdByMemberId evidenceSet))
  let claims ← canonicalClaimRecords (scopes.flatMap StatementScope.claims)
  return {
    claimRecords := claims
    bundleRecords := canonicalClaimBundleRecords (scopes.map StatementScope.bundle)
    decisionRecords := canonicalClaimBundleDecisionRecords (scopes.map StatementScope.decision) }

/-! ## What a scope holds -/

section Spec

variable {env : StatementEnvironment} {claimSetId : String} {documents : Dict String String}
  {row : EvidenceMemberRecord × EvidenceObservationRecord} {result : StatementScope}

/-- The scope of a row. -/
def rowScope (claimSetId : String) (row : EvidenceMemberRecord × EvidenceObservationRecord) :
    ClaimScope :=
  ⟨claimSetId, row.1.memberId, row.2.key.getLast?.getD ""⟩

/-- The records of a row, with its location. -/
structure IsScopeOf (env : StatementEnvironment) (claimSetId : String)
    (documents : Dict String String) (row : EvidenceMemberRecord × EvidenceObservationRecord)
    (locationRef : String) (result : StatementScope) : Prop where
  located : statementLocationRef env row.1.sourceSlug row.2.locationGroupLabel
    row.2.locationLabel = .ok locationRef
  balance : result.balance.toClaimFields =
    balanceClaimFields (rowScope claimSetId row) row.2 (observationRefs documents row)
  beneficialOwner : result.beneficialOwner.toClaimFields =
    beneficialOwnerClaimFields (rowScope claimSetId row) (observationRefs documents row)
  instrument : result.instrument.toClaimFields =
    instrumentClaimFields (rowScope claimSetId row) row.2 (observationRefs documents row)
      env.toKernelEnvironment
  location : result.location.toClaimFields =
    locationClaimFields (rowScope claimSetId row) row.2 (observationRefs documents row) locationRef
  decision : result.decision =
    ⟨(rowScope claimSetId row).id, .accepted, (rowScope claimSetId row).bundleId⟩

lemma isScopeOf_of_ok (h : statementScope env claimSetId documents row = .ok result) :
    ∃ locationRef, IsScopeOf env claimSetId documents row locationRef result := by
  simp only [statementScope, bind_eq_ok_iff, recordClaim_eq_ok_iff] at h
  rcases h with ⟨rowKey, hkey, balance, hbalance, owner, howner, instrument, hinstrument,
    locationRef, hlocated, location, hlocation, hresult⟩
  have hscope : rowScope claimSetId row = ⟨claimSetId, row.1.memberId, rowKey⟩ := by
    cases hlast : row.2.key.getLast? with
    | none =>
        rw [hlast] at hkey
        cases hkey
    | some last =>
        rw [hlast] at hkey
        rw [rowScope, hlast, Option.getD_some, ← Except.ok.inj hkey]
  rw [← hscope] at hbalance howner hinstrument hlocation hresult
  cases hresult
  exact ⟨locationRef, hlocated, hbalance, howner, hinstrument, hlocation, rfl⟩

/-- The claims of a scope have kinds of their own. -/
lemma IsScopeOf.kinds {locationRef : String}
    (h : IsScopeOf env claimSetId documents row locationRef result) :
    result.claims.map (fun claim => claim.kind) =
      [.balance, .beneficialOwner, .instrument, .location] := by
  have hbalance : result.balance.kind = .balance := congrArg ClaimFields.kind h.balance
  have howner : result.beneficialOwner.kind = .beneficialOwner :=
    congrArg ClaimFields.kind h.beneficialOwner
  have hinstrument : result.instrument.kind = .instrument :=
    congrArg ClaimFields.kind h.instrument
  have hlocation : result.location.kind = .location := congrArg ClaimFields.kind h.location
  simp [StatementScope.claims, hbalance, howner, hinstrument, hlocation]

lemma IsScopeOf.eq_of_kind {locationRef : String}
    (h : IsScopeOf env claimSetId documents row locationRef result) {claim claim' : ClaimRecord}
    (hclaim : claim ∈ result.claims) (hclaim' : claim' ∈ result.claims)
    (hkind : claim.kind = claim'.kind) : claim = claim' := by
  have hnd : (result.claims.map (fun claim => claim.kind)).Nodup := by
    rw [h.kinds]
    decide
  exact List.inj_on_of_nodup_map hnd hclaim hclaim' hkind

/-- The ids of a scope's claims come from the scope and their kinds. -/
structure ClaimOfScope (scope : ClaimScope) (claim : ClaimRecord) : Prop where
  bundleId : claim.bundleId = scope.bundleId
  claimId : claim.claimId = scope.claimId claim.kind "0"
  dated : DatedClaim claim

lemma claimOfScope_of_fields {scope : ClaimScope} {fields : ClaimFields} {claim : ClaimRecord}
    (h : claim.toClaimFields = fields) (hbundle : fields.bundleId = scope.bundleId)
    (hid : fields.claimId = scope.claimId fields.kind "0")
    (hdated : ∀ t, fields.effectiveAt = some t → fields.precision = some .date →
      t.isMidnight = true) : ClaimOfScope scope claim := by
  subst h
  exact ⟨hbundle, hid, hdated⟩

lemma IsScopeOf.claims {locationRef : String}
    (h : IsScopeOf env claimSetId documents row locationRef result) :
    ∀ claim ∈ result.claims, ClaimOfScope (rowScope claimSetId row) claim := by
  intro claim hclaim
  simp only [StatementScope.claims, List.mem_cons, List.not_mem_nil, or_false] at hclaim
  rcases hclaim with rfl | rfl | rfl | rfl
  · exact claimOfScope_of_fields h.balance rfl rfl row.2.observedAt.midnight
  · exact claimOfScope_of_fields h.beneficialOwner rfl rfl (fun _ h => by cases h)
  · exact claimOfScope_of_fields h.instrument rfl rfl (fun _ h => by cases h)
  · exact claimOfScope_of_fields h.location rfl rfl (fun _ h => by cases h)

/-- What the constructors of a row's claims check. -/
structure ClaimableObservation (env : StatementEnvironment)
    (row : EvidenceMemberRecord × EvidenceObservationRecord) : Prop where
  observedAt : row.2.observedAt.moment ≠ none
  precision : row.2.observedAt.precision ≠ none
  balanceKind : row.2.balanceKind ≠ ""
  symbol : row.2.instrumentSymbol ≠ ""
  groupLabel : row.2.locationGroupLabel ≠ ""
  label : row.2.locationLabel ≠ ""
  located : ∃ locationRef, statementLocationRef env row.1.sourceSlug row.2.locationGroupLabel
    row.2.locationLabel = .ok locationRef

lemma valid_balanceClaimFields {scope : ClaimScope} {observation : EvidenceObservationRecord}
    {refs : List String} :
    (balanceClaimFields scope observation refs).validateKindFields = none ↔
      observation.balanceKind ≠ "" ∧ observation.observedAt.moment ≠ none ∧
        observation.observedAt.precision ≠ none := by
  cases hmoment : observation.observedAt.moment <;>
    cases hprecision : observation.observedAt.precision <;>
      simp [ClaimFields.validateKindFields, balanceClaimFields, scope.claimId_ne_blank, hmoment,
        hprecision]

lemma valid_beneficialOwnerClaimFields {scope : ClaimScope} {refs : List String} :
    (beneficialOwnerClaimFields scope refs).validateKindFields = none := by
  simp [ClaimFields.validateKindFields, beneficialOwnerClaimFields, filingBeneficialOwnerRef]

lemma instrumentKind_value_ne_blank (kind : InstrumentKind) : kind.value ≠ "" := by
  cases kind <;> decide

lemma valid_instrumentClaimFields {kernel : KernelEnvironment} {scope : ClaimScope}
    {observation : EvidenceObservationRecord} {refs : List String} :
    (instrumentClaimFields scope observation refs kernel).validateKindFields = none ↔
      observation.instrumentSymbol ≠ "" := by
  unfold instrumentClaimFields
  simp [ClaimFields.validateKindFields, instrumentKind_value_ne_blank]

lemma valid_locationClaimFields {scope : ClaimScope} {observation : EvidenceObservationRecord}
    {refs : List String} {locationRef : String} :
    (locationClaimFields scope observation refs locationRef).validateKindFields = none ↔
      locationRef ≠ "" ∧ observation.locationGroupLabel ≠ "" ∧ observation.locationLabel ≠ "" := by
  unfold locationClaimFields
  simp [ClaimFields.validateKindFields, and_assoc]

lemma statementLocationRef_ne_blank {sourceSlug groupLabel label locationRef : String}
    (h : statementLocationRef env sourceSlug groupLabel label = .ok locationRef) :
    locationRef ≠ "" := by
  have hparts : ∃ parts, locationIdFromParts env.lower parts = .ok locationRef := by
    unfold statementLocationRef at h
    dsimp only at h
    split_ifs at h
    · exact ⟨_, h⟩
    · exact ⟨_, h⟩
    · exact ⟨_, h⟩
  rcases hparts with ⟨parts, hparts⟩
  have hrequired := requireLocationId_of_parts hparts "location_ref"
  rintro rfl
  cases hrequired

/-- A row has claims exactly when the constructors accept them. -/
lemma exists_statementScope (hkey : row.2.key ≠ []) :
    (∃ result, statementScope env claimSetId documents row = .ok result) ↔
      ClaimableObservation env row := by
  constructor
  · rintro ⟨result, hresult⟩
    rcases isScopeOf_of_ok hresult with ⟨locationRef, h⟩
    have hbalance := valid_balanceClaimFields.1 (h.balance ▸ result.balance.valid)
    have hinstrument := valid_instrumentClaimFields.1 (h.instrument ▸ result.instrument.valid)
    have hlocation := valid_locationClaimFields.1 (h.location ▸ result.location.valid)
    exact ⟨hbalance.2.1, hbalance.2.2, hbalance.1, hinstrument, hlocation.2.1, hlocation.2.2,
      ⟨locationRef, h.located⟩⟩
  · intro h
    rcases h.located with ⟨locationRef, hlocated⟩
    have hrowKey : row.2.key.getLast? = some (row.2.key.getLast hkey) :=
      List.getLast?_eq_some_getLast hkey
    set scope : ClaimScope := ⟨claimSetId, row.1.memberId, row.2.key.getLast hkey⟩ with hscope
    set refs := observationRefs documents row with hrefs
    rcases exists_recordClaim.2 (@valid_balanceClaimFields scope row.2 refs |>.2
      ⟨h.balanceKind, h.observedAt, h.precision⟩) with ⟨balance, hbalance⟩
    rcases exists_recordClaim.2 (@valid_beneficialOwnerClaimFields scope refs) with
      ⟨owner, howner⟩
    rcases exists_recordClaim.2 (@valid_instrumentClaimFields env.toKernelEnvironment scope row.2
      refs |>.2 h.symbol) with ⟨instrument, hinstrument⟩
    rcases exists_recordClaim.2 (@valid_locationClaimFields scope row.2 refs locationRef |>.2
      ⟨statementLocationRef_ne_blank hlocated, h.groupLabel, h.label⟩) with ⟨location, hlocation⟩
    simp only [statementScope, hrowKey, requireSome_some, bind_eq_ok_iff]
    exact ⟨_, _, rfl, balance, hbalance, owner, howner, instrument, hinstrument, locationRef,
      hlocated, location, hlocation, rfl⟩

end Spec

end Claims
end Tallylot
