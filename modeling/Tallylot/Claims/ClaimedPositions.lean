import Tallylot.Claims.StatementRows
import Tallylot.Data.Totals
import Tallylot.Kernel.Reconciliation

/-!
# ClaimedPositions — the positions that statement claims are about

The reconciliation reads the position of a balance claim from the claims of its bundle: the location
and the instrument that the balance refers to, and the owner.  Where the scopes of the rows have
distinct ids, every row gets back the position that its own labels and symbol name.
-/

namespace Tallylot
namespace Claims

open Data Evidence
open Domain hiding EvidenceObservationRecord EvidenceSet
open Kernel (acceptedBalanceClaims acceptedBundleRefs subjectRefForBalanceClaim instrumentIdentity)

/-- A position at an instant. -/
abbrev BalanceGroup := SubjectRef × Instant

/-! ## Instruments -/

/-- The claim of `resolve_statement_instrument_claims` about a symbol, with a display name. -/
def symbolClaim (env : KernelEnvironment) (symbol displayName : String) : InstrumentIdentityClaim where
  scheme := "symbol"
  value := symbol
  venue := some "coinbase"
  kindHint := instrumentKindForSymbol env symbol
  displayName := displayName
  precisionHint := none

/-- `resolve_statement_instrument_claims` of the Coinbase adapter. -/
def coinbaseInstrumentClaims (env : KernelEnvironment) (row : StatementDocumentBalanceRow) :
    List InstrumentIdentityClaim :=
  [symbolClaim env row.asset ""]

/-- The Coinbase adapter with any way of recognizing and parsing documents. -/
def coinbaseStatementAdapter {P : Type} (env : KernelEnvironment)
    (hooks : StatementDocumentAdapter P) : StatementEvidenceAdapter P where
  toStatementDocumentAdapter := hooks
  resolveStatementInstrumentClaims := coinbaseInstrumentClaims env

/-- The id of the instrument of a symbol, unless the symbol has none. -/
def symbolInstrumentId (env : KernelEnvironment) (symbol : String) : Option String :=
  match normalizeClaim env (symbolClaim env symbol "") with
  | .ok normalized => some (instrumentIdText normalized)
  | .error _ => none

lemma normalize_displayName {env : KernelEnvironment} {symbol : String} (displayName : String) :
    (match normalizeClaim env (symbolClaim env symbol displayName) with
      | .ok normalized => some (instrumentIdText normalized)
      | .error _ => none) = symbolInstrumentId env symbol := by
  unfold symbolInstrumentId normalizeClaim InstrumentIdentityClaim.create symbolClaim
  dsimp only
  split_ifs <;> rfl

/-- A symbol resolves to its instrument, whatever it is displayed as. -/
lemma resolve_symbol {env : KernelEnvironment} {symbol displayName instrumentId : String} :
    (∃ record, resolveInstrumentIdentity env [symbolClaim env symbol displayName] =
        .ok (some record) ∧ record.instrumentId = instrumentId) ↔
      symbolInstrumentId env symbol = some instrumentId := by
  rw [resolve_single rfl, ← normalize_displayName displayName]
  cases normalizeClaim env (symbolClaim env symbol displayName) with
  | error message => exact iff_of_false (fun ⟨_, h, _⟩ => by cases h) (fun h => by cases h)
  | ok normalized =>
      constructor
      · rintro ⟨other, hother, hid⟩
        rw [← Except.ok.inj hother] at hid
        exact congrArg some hid
      · intro h
        exact ⟨normalized, rfl, Option.some.inj h⟩

lemma resolvedInstrument_coinbase {P : Type} {env : StatementEnvironment}
    {hooks : StatementDocumentAdapter P} {row : StatementDocumentBalanceRow}
    {instrumentId : String} :
    (∃ record, resolvedInstrument env (coinbaseStatementAdapter env.toKernelEnvironment hooks) row =
        .ok (some record) ∧ record.instrumentId = instrumentId) ↔
      symbolInstrumentId env.toKernelEnvironment row.asset = some instrumentId := by
  rw [← @resolve_symbol _ _ "" instrumentId]
  have hresolve : ∀ record, resolvedInstrument env
      (coinbaseStatementAdapter env.toKernelEnvironment hooks) row = .ok (some record) ↔
        resolveInstrumentIdentity env.toKernelEnvironment
          [symbolClaim env.toKernelEnvironment row.asset ""] = .ok (some record) := by
    intro record
    have hclaims : (coinbaseStatementAdapter env.toKernelEnvironment
        hooks).resolveStatementInstrumentClaims row =
          [symbolClaim env.toKernelEnvironment row.asset ""] := rfl
    rw [resolvedInstrument, hclaims]
    cases resolveInstrumentIdentity env.toKernelEnvironment
      [symbolClaim env.toKernelEnvironment row.asset ""] with
    | ok resolved =>
        exact ⟨fun h => congrArg Except.ok (Except.ok.inj h),
          fun h => congrArg Except.ok (Except.ok.inj h)⟩
    | error message => exact iff_of_false (fun h => by cases h) (fun h => by cases h)
  constructor
  · rintro ⟨record, hrecord, hid⟩
    exact ⟨record, (hresolve record).1 hrecord, hid⟩
  · rintro ⟨record, hrecord, hid⟩
    exact ⟨record, (hresolve record).2 hrecord, hid⟩

/-- The kind of a symbol is read back from its text. -/
lemma ofText_value (env : KernelEnvironment) (kind : InstrumentKind) :
    InstrumentKind.ofText env kind.value = .ok kind := by
  cases kind <;> rfl

lemma instrumentIdentity_of_fields {env : KernelEnvironment} {scope : ClaimScope}
    {observation : EvidenceObservationRecord} {refs : List String} {claim : ClaimRecord}
    (h : claim.toClaimFields = instrumentClaimFields scope observation refs env)
    {instrumentId : String} :
    (∃ record, instrumentIdentity env claim = .ok (some record) ∧
        record.instrumentId = instrumentId) ↔
      isBlank observation.instrumentSymbol = false ∧
        symbolInstrumentId env observation.instrumentSymbol = some instrumentId := by
  set symbol := observation.instrumentSymbol with hsymbol
  have hidentity : instrumentIdentity env claim =
      (InstrumentIdentityClaim.create (symbolClaim env symbol symbol)).bind
        (fun identity => resolveInstrumentIdentity env [identity]) := by
    have hscheme : claim.scheme = "symbol" := congrArg ClaimFields.scheme h
    have hvalue : claim.value = symbol := congrArg ClaimFields.value h
    have hvenue : claim.venue = "coinbase" := congrArg ClaimFields.venue h
    have hkind : claim.instrumentKind = (instrumentKindForSymbol env symbol).value :=
      congrArg ClaimFields.instrumentKind h
    have hname : claim.name = symbol := congrArg ClaimFields.name h
    rw [instrumentIdentity, hscheme, hvalue, hvenue, hkind, hname, ofText_value]
    rfl
  have hcreate : ∀ built, InstrumentIdentityClaim.create (symbolClaim env symbol symbol) =
      .ok built ↔ built = symbolClaim env symbol symbol ∧ isBlank symbol = false := by
    intro built
    rw [create_eq_ok_iff]
    refine and_congr_right (fun _ => ?_)
    have hscheme : validIdentifierScheme "symbol" = true := by decide
    exact ⟨fun hvalid => hvalid.2.1, fun hvalue => ⟨hscheme, hvalue, rfl⟩⟩
  rw [hidentity]
  cases hbuilt : InstrumentIdentityClaim.create (symbolClaim env symbol symbol) with
  | error message =>
      refine iff_of_false (fun ⟨_, h, _⟩ => by cases h) (fun hblank => ?_)
      have hok := (hcreate _).2 ⟨rfl, hblank.1⟩
      rw [hbuilt] at hok
      cases hok
  | ok built =>
      have hok := (hcreate built).1 hbuilt
      rw [hok.1, ← @resolve_symbol env symbol symbol instrumentId, Except.bind]
      exact ⟨fun hrecord => ⟨hok.2, hrecord⟩, fun hrecord => hrecord.2⟩

/-! ## Positions of claims -/

/-- The accepted balance claims with their subjects, as the reconciliation reads them. -/
def positionedClaims (env : KernelEnvironment) (claimSet : ClaimSet) :
    Except String (List (SubjectRef × ClaimRecord)) :=
  (acceptedBalanceClaims claimSet).mapM (fun claim => do
    let subjectRef ← subjectRefForBalanceClaim env claimSet claim
    .ok (subjectRef, claim))

/-- The position and the instant of a claim. -/
def claimGroup (claim : SubjectRef × ClaimRecord) : Option BalanceGroup :=
  claim.2.observedAt.map (fun t => (claim.1, t))

def claimQuantity (claim : SubjectRef × ClaimRecord) : ℚ :=
  (claim.2.quantity.map Decimal.toRat).getD 0

def StatementClaims.claimSet (claims : StatementClaims) (claimSetId : String) : ClaimSet where
  claimSetId := claimSetId
  claimRecords := claims.claimRecords
  claimBundleDecisionRecords := claims.decisionRecords

/-- A claim set made of the scopes of rows, whose ids are distinct. -/
structure MadeOf (env : StatementEnvironment) (claimSetId : String)
    (documents : Dict String String)
    (scopes : List ((EvidenceMemberRecord × EvidenceObservationRecord) × StatementScope))
    (claimSet : ClaimSet) : Prop where
  ofRows : ∀ s ∈ scopes, ∃ locationRef, IsScopeOf env claimSetId documents s.1 locationRef s.2
  claims : claimSet.claimRecords.Perm (scopes.flatMap (fun s => s.2.claims))
  decisions : claimSet.claimBundleDecisionRecords.Perm (scopes.map (fun s => s.2.decision))
  distinct : (scopes.map (fun s => (rowScope claimSetId s.1).id)).Nodup

section Made

variable {env : StatementEnvironment} {claimSetId : String} {documents : Dict String String}
  {scopes : List ((EvidenceMemberRecord × EvidenceObservationRecord) × StatementScope)}
  {claimSet : ClaimSet}

/-- The claims of a bundle are the claims of its scope. -/
lemma MadeOf.mem_bundle (h : MadeOf env claimSetId documents scopes claimSet)
    {s : (EvidenceMemberRecord × EvidenceObservationRecord) × StatementScope} (hs : s ∈ scopes)
    {claim : ClaimRecord} :
    claim ∈ claimSet.claimRecords.filter (fun item =>
        item.bundleId = (rowScope claimSetId s.1).bundleId) ↔ claim ∈ s.2.claims := by
  rw [List.mem_filter, h.claims.mem_iff, decide_eq_true_eq, List.mem_flatMap]
  constructor
  · rintro ⟨⟨s', hs', hclaim⟩, hbundle⟩
    rcases h.ofRows s' hs' with ⟨_, hscope⟩
    have hid := ClaimScope.bundleId_inj.1 ((hscope.claims claim hclaim).bundleId.symm.trans hbundle)
    rwa [← List.inj_on_of_nodup_map h.distinct hs' hs hid]
  · intro hclaim
    rcases h.ofRows s hs with ⟨_, hscope⟩
    exact ⟨⟨s, hs, hclaim⟩, (hscope.claims claim hclaim).bundleId⟩

lemma MadeOf.mem_acceptedBundleRefs (h : MadeOf env claimSetId documents scopes claimSet)
    {s : (EvidenceMemberRecord × EvidenceObservationRecord) × StatementScope} (hs : s ∈ scopes) :
    (rowScope claimSetId s.1).bundleId ∈ acceptedBundleRefs claimSet := by
  rcases h.ofRows s hs with ⟨_, hscope⟩
  refine List.mem_map.2 ⟨s.2.decision, List.mem_filter.2 ⟨?_, ?_⟩, ?_⟩
  · exact h.decisions.mem_iff.2 (List.mem_map_of_mem hs)
  · simp [hscope.decision, ClaimScope.bundleId_ne_blank]
  · rw [hscope.decision]

/-- The accepted balance claims are the balances of the scopes. -/
lemma MadeOf.accepted_perm (h : MadeOf env claimSetId documents scopes claimSet) :
    (acceptedBalanceClaims claimSet).Perm (scopes.map (fun s => s.2.balance)) := by
  refine (h.claims.filter _).trans (List.Perm.of_eq ?_)
  rw [List.filter_flatMap, List.map_eq_flatMap]
  refine List.flatMap_congr (fun s hs => ?_)
  rcases h.ofRows s hs with ⟨_, hscope⟩
  have hbundle : s.2.balance.bundleId ∈ acceptedBundleRefs claimSet := by
    rw [(hscope.claims s.2.balance List.mem_cons_self).bundleId]
    exact h.mem_acceptedBundleRefs hs
  have hkinds := hscope.kinds
  simp only [StatementScope.claims, List.map_cons, List.map_nil, List.cons.injEq, and_true] at hkinds
  rcases hkinds with ⟨hbalance, howner, hinstrument, hlocation⟩
  simp [StatementScope.claims, hbalance, howner, hinstrument, hlocation, hbundle]

/-- A claim of a scope is found by its id among the claims of the bundle. -/
lemma MadeOf.find_claim (h : MadeOf env claimSetId documents scopes claimSet)
    {s : (EvidenceMemberRecord × EvidenceObservationRecord) × StatementScope} (hs : s ∈ scopes)
    {claim : ClaimRecord} (hclaim : claim ∈ s.2.claims) :
    (claimSet.claimRecords.filter (fun item =>
        item.bundleId = (rowScope claimSetId s.1).bundleId)).find? (fun item =>
          item.claimId = (rowScope claimSetId s.1).claimId claim.kind "0") = some claim := by
  rcases h.ofRows s hs with ⟨locationRef, hscope⟩
  refine find?_eq_some_of_unique ((h.mem_bundle hs).2 hclaim) ?_ (fun other hother hid => ?_)
  · exact decide_eq_true (hscope.claims claim hclaim).claimId
  · have hother := (h.mem_bundle hs).1 hother
    have hsame := (hscope.claims other hother).claimId.symm.trans (of_decide_eq_true hid)
    exact hscope.eq_of_kind hother hclaim (ClaimScope.kind_of_claimId hsame)

/-- The subject of a scope's balance is its owner, its location and its instrument. -/
lemma MadeOf.subjectRef (h : MadeOf env claimSetId documents scopes claimSet)
    {s : (EvidenceMemberRecord × EvidenceObservationRecord) × StatementScope} (hs : s ∈ scopes)
    {kernel : KernelEnvironment} {subject : SubjectRef} :
    subjectRefForBalanceClaim kernel claimSet s.2.balance = .ok subject ↔
      ∃ record, instrumentIdentity kernel s.2.instrument = .ok (some record) ∧
        subject = positionSubjectRef s.2.beneficialOwner.beneficialOwnerRef
          s.2.location.locationRef record.instrumentId := by
  rcases h.ofRows s hs with ⟨locationRef, hscope⟩
  have hbundle : s.2.balance.bundleId = (rowScope claimSetId s.1).bundleId :=
    (hscope.claims s.2.balance List.mem_cons_self).bundleId
  have hkinds := hscope.kinds
  simp only [StatementScope.claims, List.map_cons, List.map_nil, List.cons.injEq, and_true] at hkinds
  rcases hkinds with ⟨_, howner, hinstrument, hlocation⟩
  have hmemOwner : s.2.beneficialOwner ∈ s.2.claims := by simp [StatementScope.claims]
  have hmemInstrument : s.2.instrument ∈ s.2.claims := by simp [StatementScope.claims]
  have hmemLocation : s.2.location ∈ s.2.claims := by simp [StatementScope.claims]
  have hfindOwner : (claimSet.claimRecords.filter (fun item =>
      item.bundleId = (rowScope claimSetId s.1).bundleId)).find? (fun item =>
        item.kind = .beneficialOwner) = some s.2.beneficialOwner := by
    have hlisted := (h.mem_bundle hs).2 hmemOwner
    have hunique : ∀ other ∈ claimSet.claimRecords.filter (fun item =>
        item.bundleId = (rowScope claimSetId s.1).bundleId),
        decide (other.kind = .beneficialOwner) = true → other = s.2.beneficialOwner := by
      intro other hother hkind
      exact hscope.eq_of_kind ((h.mem_bundle hs).1 hother) hmemOwner
        ((of_decide_eq_true hkind).trans howner.symm)
    exact find?_eq_some_of_unique hlisted (decide_eq_true howner) hunique
  have hfindLocation := h.find_claim hs hmemLocation
  have hfindInstrument := h.find_claim hs hmemInstrument
  have hlocationRef : s.2.balance.locationClaimRef =
      (rowScope claimSetId s.1).claimId .location "0" :=
    congrArg ClaimFields.locationClaimRef hscope.balance
  have hrefs : s.2.balance.instrumentClaimRefs.head? =
      some ((rowScope claimSetId s.1).claimId .instrument "0") := by
    rw [congrArg ClaimFields.instrumentClaimRefs hscope.balance]
    rfl
  rw [hlocation] at hfindLocation
  rw [hinstrument] at hfindInstrument
  unfold subjectRefForBalanceClaim
  dsimp only
  rw [hbundle, hfindOwner, hlocationRef, hfindLocation, hrefs]
  dsimp only
  rw [hfindInstrument]
  dsimp only
  cases instrumentIdentity kernel s.2.instrument with
  | error message =>
      constructor
      · intro h
        cases h
      · rintro ⟨_, h, _⟩
        cases h
  | ok resolved =>
      cases resolved with
      | none =>
          constructor
          · intro h
            cases h
          · rintro ⟨_, h, _⟩
            cases h
      | some record =>
          constructor
          · intro h
            exact ⟨record, rfl, (Except.ok.inj h).symm⟩
          · rintro ⟨other, hother, rfl⟩
            cases hother
            rfl

/-! ## Positions of rows -/

/-- The position and the instant that labels, a symbol and a time name. -/
def namedGroup (env : StatementEnvironment) (sourceSlug account wallet symbol : String)
    (moment : Option Instant) : Option BalanceGroup :=
  match statementLocationRef env sourceSlug account wallet,
      symbolInstrumentId env.toKernelEnvironment symbol, moment with
  | .ok locationRef, some instrumentId, some asOf =>
      some (positionSubjectRef filingBeneficialOwnerRef locationRef instrumentId, asOf)
  | _, _, _ => none

lemma namedGroup_eq {env : StatementEnvironment}
    {sourceSlug account wallet symbol locationRef instrumentId : String}
    (hlocated : statementLocationRef env sourceSlug account wallet = .ok locationRef)
    (hid : symbolInstrumentId env.toKernelEnvironment symbol = some instrumentId)
    (moment : Option Instant) :
    namedGroup env sourceSlug account wallet symbol moment =
      moment.map (fun t =>
        (positionSubjectRef filingBeneficialOwnerRef locationRef instrumentId, t)) := by
  unfold namedGroup
  rw [hlocated, hid]
  cases moment <;> rfl

def observationGroup (env : StatementEnvironment)
    (row : EvidenceMemberRecord × EvidenceObservationRecord) : Option BalanceGroup :=
  namedGroup env row.1.sourceSlug row.2.locationGroupLabel row.2.locationLabel
    row.2.instrumentSymbol row.2.observedAt.moment

def observationQuantity (row : EvidenceMemberRecord × EvidenceObservationRecord) : ℚ :=
  (row.2.quantity.getD 0).toRat

lemma positionedClaims_spec {kernel : KernelEnvironment} {claims : List (SubjectRef × ClaimRecord)}
    (h : positionedClaims kernel claimSet = .ok claims) :
    claims.map Prod.snd = acceptedBalanceClaims claimSet ∧
      ∀ c ∈ claims, subjectRefForBalanceClaim kernel claimSet c.2 = .ok c.1 := by
  rcases mapM_ok_pairs h with ⟨pairs, hfst, hsnd, hpairs⟩
  have hread : ∀ p ∈ pairs, p.2.2 = p.1 ∧
      subjectRefForBalanceClaim kernel claimSet p.1 = .ok p.2.1 := by
    intro p hp
    have hrun := hpairs p hp
    cases hsubject : subjectRefForBalanceClaim kernel claimSet p.1 with
    | error message =>
        rw [hsubject] at hrun
        cases hrun
    | ok subject =>
        rw [hsubject] at hrun
        have hpair := Prod.mk.inj (Except.ok.inj hrun)
        exact ⟨hpair.2.symm, congrArg Except.ok hpair.1⟩
  constructor
  · rw [← hsnd, ← hfst, List.map_map]
    exact List.map_congr_left (fun p hp => (hread p hp).1)
  · intro c hc
    rw [← hsnd] at hc
    rcases List.mem_map.1 hc with ⟨p, hp, rfl⟩
    rw [(hread p hp).1]
    exact (hread p hp).2

lemma exists_positionedClaims {kernel : KernelEnvironment}
    (h : ∀ claim ∈ acceptedBalanceClaims claimSet,
      ∃ subject, subjectRefForBalanceClaim kernel claimSet claim = .ok subject) :
    ∃ claims, positionedClaims kernel claimSet = .ok claims := by
  refine exists_mapM_ok (fun claim hclaim => ?_)
  rcases h claim hclaim with ⟨subject, hsubject⟩
  exact ⟨(subject, claim), by rw [hsubject]; rfl⟩

/-- The subject of a scope's balance in terms of its row. -/
lemma MadeOf.subjectRef_iff (h : MadeOf env claimSetId documents scopes claimSet)
    {s : (EvidenceMemberRecord × EvidenceObservationRecord) × StatementScope} (hs : s ∈ scopes)
    {subject : SubjectRef} :
    subjectRefForBalanceClaim env.toKernelEnvironment claimSet s.2.balance = .ok subject ↔
      ∃ locationRef instrumentId, statementLocationRef env s.1.1.sourceSlug
          s.1.2.locationGroupLabel s.1.2.locationLabel = .ok locationRef ∧
        isBlank s.1.2.instrumentSymbol = false ∧
        symbolInstrumentId env.toKernelEnvironment s.1.2.instrumentSymbol = some instrumentId ∧
        subject = positionSubjectRef filingBeneficialOwnerRef locationRef instrumentId := by
  rcases h.ofRows s hs with ⟨locationRef, hscope⟩
  have howner : s.2.beneficialOwner.beneficialOwnerRef = filingBeneficialOwnerRef :=
    congrArg ClaimFields.beneficialOwnerRef hscope.beneficialOwner
  have hlocation : s.2.location.locationRef = locationRef :=
    congrArg ClaimFields.locationRef hscope.location
  rw [h.subjectRef hs, howner, hlocation]
  constructor
  · rintro ⟨record, hrecord, hsubject⟩
    rcases (instrumentIdentity_of_fields hscope.instrument).1 ⟨record, hrecord, rfl⟩ with
      ⟨hblank, hid⟩
    exact ⟨locationRef, record.instrumentId, hscope.located, hblank, hid, hsubject⟩
  · rintro ⟨location, instrumentId, hlocated, hblank, hid, hsubject⟩
    rcases (instrumentIdentity_of_fields hscope.instrument).2 ⟨hblank, hid⟩ with
      ⟨record, hrecord, rfl⟩
    have hsame : locationRef = location := Except.ok.inj (hscope.located.symm.trans hlocated)
    exact ⟨record, hrecord, hsame ▸ hsubject⟩

/-- The claims have the positions and the quantities of the rows. -/
theorem MadeOf.claims_perm (h : MadeOf env claimSetId documents scopes claimSet)
    {claims : List (SubjectRef × ClaimRecord)}
    (hclaims : positionedClaims env.toKernelEnvironment claimSet = .ok claims) :
    (claims.map (fun c => (claimGroup c, claimQuantity c))).Perm
      (scopes.map (fun s => (observationGroup env s.1, observationQuantity s.1))) := by
  rcases positionedClaims_spec hclaims with ⟨haccepted, hsubjects⟩
  set summary : ClaimRecord → Option BalanceGroup × ℚ := fun claim =>
    (match subjectRefForBalanceClaim env.toKernelEnvironment claimSet claim with
      | .ok subject => claimGroup (subject, claim)
      | .error _ => none, (claim.quantity.map Decimal.toRat).getD 0) with hsummary
  have hleft : claims.map (fun c => (claimGroup c, claimQuantity c)) =
      (claims.map Prod.snd).map summary := by
    rw [List.map_map]
    refine List.map_congr_left (fun c hc => ?_)
    rw [Function.comp_apply, hsummary]
    dsimp only
    rw [hsubjects c hc]
    rfl
  have hright : (scopes.map (fun s => s.2.balance)).map summary =
      scopes.map (fun s => (observationGroup env s.1, observationQuantity s.1)) := by
    rw [List.map_map]
    refine List.map_congr_left (fun s hs => ?_)
    have hmem : s.2.balance ∈ claims.map Prod.snd := by
      rw [haccepted]
      exact h.accepted_perm.mem_iff.2 (List.mem_map_of_mem hs)
    rcases List.mem_map.1 hmem with ⟨c, hc, hbalance⟩
    have hsubject := hsubjects c hc
    rw [hbalance] at hsubject
    rcases (h.subjectRef_iff hs).1 hsubject with
      ⟨locationRef, instrumentId, hlocated, _, hid, hc1⟩
    rcases h.ofRows s hs with ⟨_, hscope⟩
    have hobserved : s.2.balance.observedAt = s.1.2.observedAt.moment :=
      congrArg ClaimFields.observedAt hscope.balance
    have hquantity : s.2.balance.quantity = some (s.1.2.quantity.getD 0) :=
      congrArg ClaimFields.quantity hscope.balance
    rw [Function.comp_apply, hsummary]
    dsimp only
    rw [hsubject, hquantity, observationGroup, namedGroup_eq hlocated hid]
    dsimp only
    rw [claimGroup, hobserved, hc1]
    rfl
  rw [hleft, haccepted, ← hright]
  exact h.accepted_perm.map summary

end Made

end Claims
end Tallylot
