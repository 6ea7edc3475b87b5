import Tallylot.Submission.Validation

/-!
# Materialize — balance records from a validated submission

The parsed rows of a submission become balance snapshots, balance references and location records.
The validation compares rows by the texts of their cells and by their parsed values; the records are
compared by match keys, in which accounts and wallets appear as slugs.

`submittable_iff` says when a validation without issues is enough.
-/

namespace Tallylot
namespace Submission

open Data Domain Balances

/-! ## Records -/

def manualSubmissionEvidenceKind : String := "manual_submission"

section Records

variable (lower : String → String)

/-- `_location_id_for_submission_row` -/
def locationIdForSubmissionRow (source account wallet : String) : Decoded String :=
  if account = wallet then locationIdFromParts lower [source, account]
  else locationIdFromParts lower [source, account, wallet]

/-- The target of a row. -/
def balanceTargetFromRow (row : BalanceSnapshotSubmissionRow) : Decoded AcceptedTarget := do
  let locationId ← locationIdForSubmissionRow lower row.source row.account row.wallet
  balanceTarget.build {
    source := row.source
    locationId := locationId
    instrumentId := row.instrumentId
    balanceKind := row.balanceKind
    targetAt := row.targetAt
    targetPrecision := row.targetPrecision }

/-- `_balance_snapshot_from_row` -/
def balanceSnapshotFromRow (row : BalanceSnapshotSubmissionRow) : Decoded AcceptedSnapshot := do
  let target ← balanceTargetFromRow lower row
  balanceSnapshot.build {
    target := target
    quantity := row.quantity
    snapshotBasis := manualSubmissionEvidenceKind
    notes := row.notes }

/-- `_balance_reference_from_row` -/
def balanceReferenceFromRow (row : BalanceReferenceSubmissionRow) : Decoded AcceptedReference := do
  let target ← balanceTargetFromRow lower row.toBalanceSnapshotSubmissionRow
  balanceReference.build {
    target := target
    quantity := row.quantity
    referenceKind := row.referenceKind
    observedAt := row.observedAt
    observedPrecision := row.observedPrecision
    supportRef := row.supportRef
    providerFamily := ""
    providerLocator := ""
    providerBlockRef := ""
    reviewedBy := row.reviewedBy
    reviewedAt := some row.reviewedAt
    notes := row.notes }

/-- A location record; the fields that a submission leaves at their defaults are not shown. -/
structure LocationInventoryRecord where
  source : String
  locationId : String
  locationKind : String
  locationLabel : String
  parentLocationId : Option String
  locationPath : List String
  identifierKind : String
  identifierValue : String
  captureRootRef : String
  normalizedIdentifier : String
  displayIdentifier : String
  networkScope : String
  controller : String
  parentLocationLabel : String
  evidenceKind : String
  evidencePath : String
  confidence : String
  notes : String
  deriving DecidableEq, Repr

/-- `normalized_identifier` -/
def normalizedIdentifier (identifierKind identifierValue : String) : String :=
  if identifierKind ∈ ["evm_address", "address_alias"] then lower (strip identifierValue)
  else strip identifierValue

/-- The account of a wallet that is not the account itself. -/
def parentLocationIdForRow (row : LocationInventorySubmissionRow) : Decoded (Option String) :=
  if row.account = row.wallet then .ok none
  else (locationIdFromParts lower [row.source, row.account]).map some

/-- `_location_inventory_record_from_row` -/
def locationInventoryRecordFromRow (submissionRoot : String) (row : LocationInventorySubmissionRow) :
    Decoded LocationInventoryRecord := do
  let locationId ← locationIdForSubmissionRow lower row.source row.account row.wallet
  let accountLevel := decide (row.account = row.wallet)
  let parentLocationId ← parentLocationIdForRow lower row
  return {
    source := row.source
    locationId := locationId
    locationKind := if accountLevel then "account" else "subaccount"
    locationLabel := row.wallet
    parentLocationId := parentLocationId
    locationPath := if accountLevel then [row.wallet] else [row.account, row.wallet]
    identifierKind := row.identifierKind
    identifierValue := row.identifierValue
    captureRootRef := submissionRoot
    normalizedIdentifier := normalizedIdentifier lower row.identifierKind row.identifierValue
    displayIdentifier := row.identifierValue
    networkScope := row.networkScope
    controller := row.controller
    parentLocationLabel := if accountLevel then "" else row.account
    evidenceKind := manualSubmissionEvidenceKind
    evidencePath := locationInventoryFilename
    confidence := row.confidence
    notes := row.notes }

structure MaterializedBalanceSubmission where
  balanceSnapshots : List AcceptedSnapshot
  balanceReferences : List AcceptedReference
  locationInventory : List LocationInventoryRecord

/-- `materialize_balance_submission` -/
def materializeBalanceSubmission (submissionRoot : String)
    (result : BalanceSubmissionValidationResult) : Decoded MaterializedBalanceSubmission := do
  let snapshots ← result.balanceSnapshotRows.mapM (balanceSnapshotFromRow lower)
  let references ← result.balanceReferenceRows.mapM (balanceReferenceFromRow lower)
  let locations ←
    result.locationInventoryRows.mapM (locationInventoryRecordFromRow lower submissionRoot)
  return ⟨snapshots, references, locations⟩

end Records

/-! ## What a submission promises -/

def snapshotKey (snapshot : AcceptedSnapshot) : BalanceTargetMatchKey :=
  balanceTargetMatchKey snapshot.val.target.val

def referenceKey (reference : AcceptedReference) : BalanceTargetMatchKey :=
  balanceTargetMatchKey reference.val.target.val

/-- A reference of the same balance as a snapshot. -/
def SameBalance (snapshot : AcceptedSnapshot) (reference : AcceptedReference) : Prop :=
  snapshotKey snapshot = referenceKey reference ∧ snapshot.val.quantity = reference.val.quantity

/-- Snapshots and references stand to each other as the sides of a bijection. -/
structure Paired (snapshots : List AcceptedSnapshot) (references : List AcceptedReference) : Prop where
  reference : ∀ i : Fin snapshots.length, ∃! j : Fin references.length,
    SameBalance (snapshots.get i) (references.get j)
  snapshot : ∀ j : Fin references.length, ∃! i : Fin snapshots.length,
    SameBalance (snapshots.get i) (references.get j)

/-- The validation returns, and what it accepts becomes records without double keys that stand in
pairs. -/
def Submittable (lower : String → String) (package : SubmissionPackage)
    (expectedSource submissionRoot : String) : Prop :=
  ∃ result, validateBalanceSubmission lower package expectedSource = .ok result ∧
    (result.issues = [] → ∃ materialized,
      materializeBalanceSubmission lower submissionRoot result = .ok materialized ∧
        (materialized.balanceSnapshots.map snapshotKey).Nodup ∧
          Paired materialized.balanceSnapshots materialized.balanceReferences)

/-! ## What the rows must be for that -/

section Keys

variable (lower : String → String)

/-- The match key of a parsed row, if its account and wallet have slugs. -/
def submissionMatchKey (row : BalanceSnapshotSubmissionRow) : Option BalanceTargetMatchKey :=
  match locationIdForSubmissionRow lower row.source row.account row.wallet with
  | .error _ => none
  | .ok location =>
      some (toLex (row.source, toLex (location, toLex (row.instrumentId,
        toLex (row.balanceKind, row.targetAt)))))

/-- The match key that the cells of a row spell. -/
def rowMatchKey (row : Row) : Option BalanceTargetMatchKey := do
  let precision ← parseTemporalPrecision (cell row "target_precision")
  let targetAt ← (parseTemporalValue (cell row "target_at") precision).toOption
  let location ← (locationIdForSubmissionRow lower (cell row "source") (cell row "account")
    (cell row "wallet")).toOption
  return toLex (cell row "source", toLex (location, toLex (cell row "instrument_id",
    toLex (normalizeBalanceKind (cell row "balance_kind"), targetAt))))

/-- No two spellings of one match key stand in the rows. -/
def SpelledOnce (rows : List NumberedRow) : Prop :=
  ∀ row ∈ rows, ∀ other ∈ rows, rowMatchKey lower row.2 = rowMatchKey lower other.2 →
    duplicateKey balanceKeyFields row.2 = duplicateKey balanceKeyFields other.2

/-- Every account and wallet has a slug, and every balance is spelled in one way in its file. -/
structure WellSpelled (package : SubmissionPackage) : Prop where
  located : ∀ row ∈ package.snapshotRows.2 ++ package.referenceRows.2, ∃ location,
    locationIdForSubmissionRow lower (cell row.2 "source") (cell row.2 "account")
      (cell row.2 "wallet") = .ok location
  snapshots : SpelledOnce lower package.snapshotRows.2
  references : SpelledOnce lower package.referenceRows.2

end Keys

/-! ## Records of parsed rows -/

section Built

variable {lower : String → String} {row : Row} {expectedSource : String}

/-- The cells of a parsed row spell the match key of what is parsed. -/
lemma rowMatchKey_of_parsed {parsed : BalanceSnapshotSubmissionRow}
    (h : ParsedFrom row expectedSource parsed) :
    rowMatchKey lower row = submissionMatchKey lower parsed := by
  simp only [rowMatchKey, submissionMatchKey, h.precision, h.sourceText, h.account, h.wallet,
    h.instrumentId, h.balanceKind, Option.bind_eq_bind, Option.bind_some, h.targetAt]
  cases locationIdForSubmissionRow lower (cell row "source") (cell row "account")
    (cell row "wallet") with
  | error e => rfl
  | ok location => rfl

lemma submissionMatchKey_isSome_iff {parsed : BalanceSnapshotSubmissionRow} :
    (∃ key, submissionMatchKey lower parsed = some key) ↔ ∃ location,
      locationIdForSubmissionRow lower parsed.source parsed.account parsed.wallet = .ok location := by
  unfold submissionMatchKey
  cases locationIdForSubmissionRow lower parsed.source parsed.account parsed.wallet with
  | error e => simp
  | ok location => simp

/-- The match key of a row is a part of its logical key. -/
lemma submissionMatchKey_of_logicalBalanceKey {a b : BalanceSnapshotSubmissionRow}
    (h : logicalBalanceKey a = logicalBalanceKey b) :
    submissionMatchKey lower a = submissionMatchKey lower b := by
  simp only [logicalBalanceKey, LogicalBalanceKey.mk.injEq] at h
  rcases h with ⟨hsource, haccount, hwallet, hinstrument, _, hat, _, hkind⟩
  simp only [submissionMatchKey, hsource, haccount, hwallet, hinstrument, hat, hkind]

lemma requireLocationId_of_submissionRow {source account wallet location : String}
    (h : locationIdForSubmissionRow lower source account wallet = .ok location) (label : String) :
    requireLocationId location label = .ok location := by
  unfold locationIdForSubmissionRow at h
  split_ifs at h
  · exact requireLocationId_of_parts h label
  · exact requireLocationId_of_parts h label

/-- A target is built exactly of the rows whose location has an id. -/
lemma exists_balanceTargetFromRow {parsed : BalanceSnapshotSubmissionRow}
    (h : ParsedFrom row expectedSource parsed) :
    (∃ target, balanceTargetFromRow lower parsed = .ok target) ↔
      ∃ key, submissionMatchKey lower parsed = some key := by
  rw [submissionMatchKey_isSome_iff]
  simp only [balanceTargetFromRow, bind_eq_ok_iff]
  constructor
  · rintro ⟨_, location, hlocation, _⟩
    exact ⟨location, hlocation⟩
  · rintro ⟨location, hlocation⟩
    have hinstrument : parsed.instrumentId ≠ "" := by
      rw [h.instrumentId]
      exact h.filled "instrument_id" (by decide)
    rcases @exists_postInit ⟨parsed.source, location, parsed.instrumentId, parsed.balanceKind,
        parsed.targetAt, parsed.targetPrecision⟩ location hinstrument
        (requireLocationId_of_submissionRow hlocation _)
        (isMidnight_of_parseTemporalValue h.targetAt) with ⟨target, htarget⟩
    exact ⟨⟨target, _, htarget⟩, location, hlocation, balanceTarget.build_of_make htarget⟩

lemma matchKey_of_balanceTargetFromRow {parsed : BalanceSnapshotSubmissionRow}
    (h : ParsedFrom row expectedSource parsed) {target : AcceptedTarget}
    (htarget : balanceTargetFromRow lower parsed = .ok target) :
    submissionMatchKey lower parsed = some (balanceTargetMatchKey target.val) := by
  simp only [balanceTargetFromRow, bind_eq_ok_iff] at htarget
  rcases htarget with ⟨location, hlocation, hbuild⟩
  rcases postInit_eq_ok (balanceTarget.make_of_build hbuild) with
    ⟨hsource, hid, hinstrument, hkind, hat, _⟩
  have hsame : target.val.locationId = location :=
    Except.ok.inj (hid.symm.trans (requireLocationId_of_submissionRow hlocation _))
  -- the kind of a parsed row is normalised already
  have hnormal : normalizeBalanceKind parsed.balanceKind = parsed.balanceKind := by
    rw [h.balanceKind, normalizeBalanceKind_settled]
  simp only [submissionMatchKey, hlocation, balanceTargetMatchKey, hsource, hsame, hinstrument,
    hkind, hnormal, hat]

/-- A snapshot is built exactly of the rows that have a match key. -/
lemma exists_balanceSnapshotFromRow {parsed : BalanceSnapshotSubmissionRow}
    (h : ParsedFrom row expectedSource parsed) :
    (∃ snapshot, balanceSnapshotFromRow lower parsed = .ok snapshot) ↔
      ∃ key, submissionMatchKey lower parsed = some key := by
  rw [← exists_balanceTargetFromRow h]
  simp only [balanceSnapshotFromRow, bind_eq_ok_iff]
  constructor
  · rintro ⟨_, target, htarget, _⟩
    exact ⟨target, htarget⟩
  · rintro ⟨target, htarget⟩
    have hbasis : strip manualSubmissionEvidenceKind ≠ "" := by decide
    have hmake : balanceSnapshot.make ⟨target, parsed.quantity, manualSubmissionEvidenceKind,
        parsed.notes⟩ = .ok ⟨target, parsed.quantity, manualSubmissionEvidenceKind, parsed.notes⟩ :=
      bind_eq_ok_iff.2 ⟨(), require_eq_ok_iff.2 hbasis, rfl⟩
    exact ⟨_, target, htarget, balanceSnapshot.build_of_make hmake⟩

lemma key_of_balanceSnapshotFromRow {parsed : BalanceSnapshotSubmissionRow}
    (h : ParsedFrom row expectedSource parsed) {snapshot : AcceptedSnapshot}
    (hsnapshot : balanceSnapshotFromRow lower parsed = .ok snapshot) :
    submissionMatchKey lower parsed = some (snapshotKey snapshot) ∧
      snapshot.val.quantity = parsed.quantity := by
  simp only [balanceSnapshotFromRow, bind_eq_ok_iff] at hsnapshot
  rcases hsnapshot with ⟨target, htarget, hbuild⟩
  rcases bind_eq_ok_iff.1 (balanceSnapshot.make_of_build hbuild) with ⟨_, _, hfields⟩
  rw [snapshotKey, ← Except.ok.inj hfields]
  exact ⟨matchKey_of_balanceTargetFromRow h htarget, rfl⟩

/-- A reference is built exactly of the rows that have a match key: it is reviewed and names no
provider. -/
lemma exists_balanceReferenceFromRow {parsed : BalanceReferenceSubmissionRow}
    (h : ReferenceParsedFrom row expectedSource parsed) :
    (∃ reference, balanceReferenceFromRow lower parsed = .ok reference) ↔
      ∃ key, submissionMatchKey lower parsed.toBalanceSnapshotSubmissionRow = some key := by
  rw [← exists_balanceTargetFromRow h.base]
  simp only [balanceReferenceFromRow, bind_eq_ok_iff]
  constructor
  · rintro ⟨_, target, htarget, _⟩
    exact ⟨target, htarget⟩
  · rintro ⟨target, htarget⟩
    set fields : BalanceReferenceFields := ⟨target, parsed.quantity, parsed.referenceKind,
      parsed.observedAt, parsed.observedPrecision, parsed.supportRef, "", "", "", parsed.reviewedBy,
      some parsed.reviewedAt, parsed.notes⟩ with hfields
    have hblank : strip "" = "" := by decide
    have hvalid : fields.stripped.validate = .ok () := by
      simp only [BalanceReferenceFields.validate, bind_eq_ok_iff, require_eq_ok_iff,
        BalanceReferenceFields.stripped, hfields, h.kind, hblank]
      exact ⟨(), fun _ => h.reviewedBy, (), fun _ => rfl, (), fun _ => h.reviewedBy, (),
        fun hkind => (by cases hkind), fun _ => ⟨trivial, trivial, trivial⟩⟩
    have hmake : balanceReference.make fields = .ok fields.stripped :=
      (reference_postInit_eq_ok_iff _ _).2 ⟨⟨_, dif_pos h.observed⟩, hvalid, rfl⟩
    exact ⟨_, target, htarget, balanceReference.build_of_make hmake⟩

lemma key_of_balanceReferenceFromRow {parsed : BalanceReferenceSubmissionRow}
    (h : ReferenceParsedFrom row expectedSource parsed) {reference : AcceptedReference}
    (hreference : balanceReferenceFromRow lower parsed = .ok reference) :
    submissionMatchKey lower parsed.toBalanceSnapshotSubmissionRow = some (referenceKey reference) ∧
      reference.val.quantity = parsed.quantity := by
  simp only [balanceReferenceFromRow, bind_eq_ok_iff] at hreference
  rcases hreference with ⟨target, htarget, hbuild⟩
  rcases (reference_postInit_eq_ok_iff _ _).1 (balanceReference.make_of_build hbuild) with
    ⟨_, _, hfields⟩
  rw [referenceKey, hfields]
  exact ⟨matchKey_of_balanceTargetFromRow h.base htarget, rfl⟩

/-- A location record is built of every row that was parsed. -/
lemma exists_locationInventoryRecordFromRow {submissionRoot location : String}
    {parsed : LocationInventorySubmissionRow}
    (h : locationIdFromParts lower [parsed.source, parsed.account, parsed.wallet] = .ok location) :
    ∃ record, locationInventoryRecordFromRow lower submissionRoot parsed = .ok record := by
  simp only [locationIdFromParts, bind_eq_ok_iff, require_eq_ok_iff, List.map_cons, List.map_nil,
    List.mem_cons, not_or] at h
  rcases h with ⟨_, _, _, ⟨hsource, haccount, hwallet, _⟩, _⟩
  have hparent : ∃ parent, locationIdFromParts lower [parsed.source, parsed.account] = .ok parent := by
    simp only [locationIdFromParts, bind_eq_ok_iff, require_eq_ok_iff, List.map_cons, List.map_nil,
      List.mem_cons, not_or]
    exact ⟨_, (), List.cons_ne_nil _ _, (), ⟨hsource, haccount, List.not_mem_nil⟩, rfl⟩
  have hlocation : ∃ location,
      locationIdForSubmissionRow lower parsed.source parsed.account parsed.wallet = .ok location := by
    unfold locationIdForSubmissionRow
    split_ifs
    · exact hparent
    · simp only [locationIdFromParts, bind_eq_ok_iff, require_eq_ok_iff, List.map_cons, List.map_nil,
        List.mem_cons, not_or]
      exact ⟨_, (), List.cons_ne_nil _ _, (), ⟨hsource, haccount, hwallet, List.not_mem_nil⟩, rfl⟩
  have hparentRow : ∃ parent, parentLocationIdForRow lower parsed = .ok parent := by
    unfold parentLocationIdForRow
    split_ifs
    · exact ⟨none, rfl⟩
    · rcases hparent with ⟨parent, hparent⟩
      rw [hparent]
      exact ⟨some parent, rfl⟩
  rcases hlocation with ⟨location, hlocation⟩
  rcases hparentRow with ⟨parent, hparentRow⟩
  simp only [locationInventoryRecordFromRow, bind_eq_ok_iff]
  exact ⟨_, location, hlocation, parent, hparentRow, rfl⟩

end Built

/-! ## Pairs -/

section Pairs

variable {α β κ : Type}

/-- Distinct keys tell the places of a list apart. -/
lemma get_inj_of_nodup {key : α → κ} {xs : List α} (hnodup : (xs.map key).Nodup)
    {i j : Fin xs.length} (h : key (xs.get i) = key (xs.get j)) : i = j := by
  have hmapped : (⟨i.1, by simp⟩ : Fin (xs.map key).length) = ⟨j.1, by simp⟩ := by
    apply List.nodup_iff_injective_get.1 hnodup
    simpa using h
  exact Fin.ext (Fin.mk.inj hmapped)

/-- A relation that follows distinct keys relates an element to at most one place of a list. -/
lemma existsUnique_get {related : α → β → Prop} {key : α → κ} {key' : β → κ} {ys : List β}
    (hnodup : (ys.map key').Nodup) (hkey : ∀ x y, related x y → key x = key' y) {x : α}
    (h : ∃ y ∈ ys, related x y) : ∃! j : Fin ys.length, related x (ys.get j) := by
  rcases h with ⟨y, hy, hrelated⟩
  rcases List.mem_iff_get.1 hy with ⟨j, rfl⟩
  refine ⟨j, hrelated, ?_⟩
  intro j' hrelated'
  exact get_inj_of_nodup hnodup ((hkey _ _ hrelated').symm.trans (hkey _ _ hrelated))

/-- Distinct keys on both sides and a partner for every element make a bijection. -/
lemma paired_of_partners {snapshots : List AcceptedSnapshot} {references : List AcceptedReference}
    (hsnapshots : (snapshots.map snapshotKey).Nodup) (hreferences : (references.map referenceKey).Nodup)
    (hpartner : ∀ snapshot ∈ snapshots, ∃ reference ∈ references, SameBalance snapshot reference)
    (hpartner' : ∀ reference ∈ references, ∃ snapshot ∈ snapshots, SameBalance snapshot reference) :
    Paired snapshots references where
  reference := fun i => existsUnique_get hreferences (fun _ _ h => h.1)
    (hpartner _ (List.get_mem _ i))
  snapshot := fun j =>
    @existsUnique_get _ _ _ (fun reference snapshot => SameBalance snapshot reference) referenceKey
      snapshotKey snapshots hsnapshots (fun _ _ h => h.1.symm) _ (hpartner' _ (List.get_mem _ j))

/-- The references of distinct snapshots are distinct. -/
lemma referenceKeys_nodup {snapshots : List AcceptedSnapshot} {references : List AcceptedReference}
    (hsnapshots : (snapshots.map snapshotKey).Nodup) (h : Paired snapshots references) :
    (references.map referenceKey).Nodup := by
  rw [List.nodup_iff_injective_get]
  rintro ⟨j, hj⟩ ⟨j', hj'⟩ hsame
  rw [List.length_map] at hj hj'
  have hkeys : referenceKey (references.get ⟨j, hj⟩) = referenceKey (references.get ⟨j', hj'⟩) := by
    simpa using hsame
  rcases h.snapshot ⟨j, hj⟩ with ⟨i, hi, _⟩
  rcases h.snapshot ⟨j', hj'⟩ with ⟨i', hi', _⟩
  -- both references belong to one snapshot, which has only one
  have hindex : i = i' := get_inj_of_nodup hsnapshots (hi.1.trans (hkeys.trans hi'.1.symm))
  subst hindex
  rcases h.reference i with ⟨k, _, hunique⟩
  have hboth : (⟨j, hj⟩ : Fin references.length) = ⟨j', hj'⟩ :=
    (hunique _ hi).trans (hunique _ hi').symm
  simpa using hboth

/-- Records of parsed rows have the match keys that the rows spell, in their order. -/
lemma keys_built {lower : String → String} {good : NumberedRow → α → Prop} {build : α → Decoded β}
    {key : β → BalanceTargetMatchKey} {rows : List NumberedRow} {parsed : List α}
    (hgood : List.Forall₂ good rows parsed)
    (hkey : ∀ row p b, good row p → build p = .ok b → rowMatchKey lower row.2 = some (key b)) :
    ∀ built : List β, parsed.mapM build = .ok built →
      built.map (fun b => some (key b)) = rows.map (fun row => rowMatchKey lower row.2) := by
  induction hgood with
  | nil =>
      intro built h
      cases h
      rfl
  | @cons row p rows parsed hrow _ ih =>
      intro built h
      rw [List.mapM_cons] at h
      simp only [bind_eq_ok_iff] at h
      rcases h with ⟨b, hb, rest, hrest, hbuilt⟩
      cases hbuilt
      rw [List.map_cons, List.map_cons, ih rest hrest, hkey row p b hrow hb]

/-- Rows without two spellings of a match key have records without double keys. -/
lemma nodup_of_spelledOnce {lower : String → String} {rows : List NumberedRow}
    {keys : List BalanceTargetMatchKey} (hkeys : keys.map some = rows.map (fun row => rowMatchKey lower row.2))
    (hraw : (rows.map (fun row => duplicateKey balanceKeyFields row.2)).Nodup) :
    keys.Nodup ↔ SpelledOnce lower rows := by
  have hinjective : Function.Injective (some : BalanceTargetMatchKey → _) := Option.some_injective _
  rw [← List.nodup_map_iff hinjective, hkeys]
  constructor
  · intro hnodup row hrow other hother hsame
    rw [List.inj_on_of_nodup_map hnodup hrow hother hsame]
  · intro hspelled
    refine List.Nodup.map_on ?_ (List.Nodup.of_map _ hraw)
    intro row hrow other hother hsame
    exact List.inj_on_of_nodup_map hraw hrow hother (hspelled row hrow other hother hsame)

end Pairs

/-! ## The submission -/

section Submitted

variable {lower : String → String} {package : SubmissionPackage} {expectedSource submissionRoot : String}
  {result : BalanceSubmissionValidationResult}

lemma snapshotKeys_built (hclean : Clean lower package expectedSource result)
    {snapshots : List AcceptedSnapshot}
    (hbuilt : result.balanceSnapshotRows.mapM (balanceSnapshotFromRow lower) = .ok snapshots) :
    (snapshots.map snapshotKey).map some =
      package.snapshotRows.2.map (fun row => rowMatchKey lower row.2) := by
  rw [List.map_map]
  refine keys_built hclean.snapshots ?_ snapshots hbuilt
  intro row parsed snapshot hparsed hsnapshot
  rw [rowMatchKey_of_parsed hparsed, (key_of_balanceSnapshotFromRow hparsed hsnapshot).1]

lemma referenceKeys_built (hclean : Clean lower package expectedSource result)
    {references : List AcceptedReference}
    (hbuilt : result.balanceReferenceRows.mapM (balanceReferenceFromRow lower) = .ok references) :
    (references.map referenceKey).map some =
      package.referenceRows.2.map (fun row => rowMatchKey lower row.2) := by
  rw [List.map_map]
  refine keys_built hclean.references ?_ references hbuilt
  intro row parsed reference hparsed hreference
  rw [rowMatchKey_of_parsed hparsed.base, (key_of_balanceReferenceFromRow hparsed hreference).1]

/-- Distinct match keys come from distinct logical keys. -/
lemma logicalKeys_nodup {α β : Type} {base : α → BalanceSnapshotSubmissionRow} {build : α → Decoded β}
    {key : β → BalanceTargetMatchKey} {parsed : List α} {built : List β}
    (hbuilt : parsed.mapM build = .ok built)
    (hkey : ∀ p ∈ parsed, ∀ b, build p = .ok b → submissionMatchKey lower (base p) = some (key b))
    (hnodup : (built.map key).Nodup) : (parsed.map (fun p => logicalBalanceKey (base p))).Nodup := by
  rcases mapM_ok_pairs hbuilt with ⟨pairs, rfl, rfl, hpairs⟩
  have hkeys : (pairs.map Prod.fst).map (fun p => submissionMatchKey lower (base p)) =
      ((pairs.map Prod.snd).map key).map some := by
    simp only [List.map_map]
    refine List.map_congr_left (fun pair hpair => ?_)
    exact hkey _ (List.mem_map_of_mem hpair) _ (hpairs pair hpair)
  have hmatch := hnodup.map (Option.some_injective _)
  rw [← hkeys] at hmatch
  refine List.Nodup.map_on ?_ (List.Nodup.of_map _ hmatch)
  intro p hp q hq hsame
  exact List.inj_on_of_nodup_map hmatch hp hq (submissionMatchKey_of_logicalBalanceKey hsame)

/-- What becomes of one side has a partner wherever its row has one. -/
lemma partner_of_logicalKey {p : BalanceSnapshotSubmissionRow} {r : BalanceReferenceSubmissionRow}
    {row other : Row} (hp : ParsedFrom row expectedSource p) (hr : ReferenceParsedFrom other expectedSource r)
    {snapshot : AcceptedSnapshot} {reference : AcceptedReference}
    (hsnapshot : balanceSnapshotFromRow lower p = .ok snapshot)
    (hreference : balanceReferenceFromRow lower r = .ok reference)
    (hsame : logicalBalanceKey r.toBalanceSnapshotSubmissionRow = logicalBalanceKey p) :
    SameBalance snapshot reference := by
  rcases key_of_balanceSnapshotFromRow hp hsnapshot with ⟨hkey, hquantity⟩
  rcases key_of_balanceReferenceFromRow hr hreference with ⟨hkey', hquantity'⟩
  have hkeys := @submissionMatchKey_of_logicalBalanceKey lower _ _ hsame
  rw [hkey, hkey'] at hkeys
  refine ⟨(Option.some.inj hkeys).symm, ?_⟩
  rw [hquantity, hquantity']
  exact (congrArg LogicalBalanceKey.quantity hsame).symm

/-- Every row that passed becomes a record when its account and wallet have slugs. -/
lemma materialized_of_located (hclean : Clean lower package expectedSource result)
    (hlocated : ∀ row ∈ package.snapshotRows.2 ++ package.referenceRows.2, ∃ location,
      locationIdForSubmissionRow lower (cell row.2 "source") (cell row.2 "account")
        (cell row.2 "wallet") = .ok location) :
    ∃ snapshots references locations,
      result.balanceSnapshotRows.mapM (balanceSnapshotFromRow lower) = .ok snapshots ∧
        result.balanceReferenceRows.mapM (balanceReferenceFromRow lower) = .ok references ∧
          materializeBalanceSubmission lower submissionRoot result =
            .ok ⟨snapshots, references, locations⟩ := by
  have hkey : ∀ {row : NumberedRow} {parsed : BalanceSnapshotSubmissionRow},
      row ∈ package.snapshotRows.2 ++ package.referenceRows.2 →
        ParsedFrom row.2 expectedSource parsed → ∃ key, submissionMatchKey lower parsed = some key := by
    intro row parsed hrow hparsed
    rw [submissionMatchKey_isSome_iff, hparsed.sourceText, hparsed.account, hparsed.wallet]
    exact hlocated row hrow
  have hsnapshots : ∀ parsed ∈ result.balanceSnapshotRows, ∃ snapshot,
      balanceSnapshotFromRow lower parsed = .ok snapshot := by
    intro parsed hmem
    rcases exists_left_of_forall₂ hclean.snapshots hmem with ⟨row, hrow, hparsed⟩
    exact (exists_balanceSnapshotFromRow hparsed).2 (hkey (List.mem_append_left _ hrow) hparsed)
  have hreferences : ∀ parsed ∈ result.balanceReferenceRows, ∃ reference,
      balanceReferenceFromRow lower parsed = .ok reference := by
    intro parsed hmem
    rcases exists_left_of_forall₂ hclean.references hmem with ⟨row, hrow, hparsed⟩
    exact (exists_balanceReferenceFromRow hparsed).2
      (hkey (List.mem_append_right _ hrow) hparsed.base)
  have hlocations : ∀ parsed ∈ result.locationInventoryRows, ∃ record,
      locationInventoryRecordFromRow lower submissionRoot parsed = .ok record := by
    intro parsed hmem
    rcases hclean.locations parsed hmem with ⟨location, hlocation⟩
    exact exists_locationInventoryRecordFromRow hlocation
  rcases exists_mapM_ok hsnapshots with ⟨snapshots, hsnapshots⟩
  rcases exists_mapM_ok hreferences with ⟨references, hreferences⟩
  rcases exists_mapM_ok hlocations with ⟨locations, hlocations⟩
  refine ⟨snapshots, references, locations, hsnapshots, hreferences, ?_⟩
  simp only [materializeBalanceSubmission, hsnapshots, hreferences, hlocations]
  rfl

/-- Without two spellings of a balance, the records have distinct keys and stand in pairs. -/
lemma submitted_of_wellSpelled (hclean : Clean lower package expectedSource result)
    (hspelled : WellSpelled lower package) :
    ∃ materialized, materializeBalanceSubmission lower submissionRoot result = .ok materialized ∧
      (materialized.balanceSnapshots.map snapshotKey).Nodup ∧
        Paired materialized.balanceSnapshots materialized.balanceReferences := by
  rcases @materialized_of_located lower package expectedSource submissionRoot result hclean
    hspelled.located with ⟨snapshots, references, locations, hsnapshots, hreferences, hmaterialized⟩
  have hsnapshotKeys := (nodup_of_spelledOnce (snapshotKeys_built hclean hsnapshots)
    hclean.snapshotKeys).2 hspelled.snapshots
  have hreferenceKeys := (nodup_of_spelledOnce (referenceKeys_built hclean hreferences)
    hclean.referenceKeys).2 hspelled.references
  refine ⟨_, hmaterialized, hsnapshotKeys, paired_of_partners hsnapshotKeys hreferenceKeys ?_ ?_⟩
  all_goals
    rcases mapM_ok_pairs hsnapshots with ⟨pairs, hrows, hbuilt, hpairs⟩
    rcases mapM_ok_pairs hreferences with ⟨pairs', hrows', hbuilt', hpairs'⟩
    have hmismatches := List.append_eq_nil_iff.1 hclean.mismatches
  · have hlogical := @logicalKeys_nodup lower _ _ id _ _ _ _ hsnapshots (fun p hp b hb => by
      rcases exists_left_of_forall₂ hclean.snapshots hp with ⟨row, _, hparsed⟩
      exact (key_of_balanceSnapshotFromRow hparsed hb).1) hsnapshotKeys
    intro snapshot hsnapshot
    dsimp only at hsnapshot
    rw [← hbuilt] at hsnapshot
    rcases List.mem_map.1 hsnapshot with ⟨pair, hpair, rfl⟩
    have hp : pair.1 ∈ result.balanceSnapshotRows := hrows ▸ List.mem_map_of_mem hpair
    rcases matched_of_unmatchedKeys (List.map_eq_nil_iff.1 hmismatches.1) hlogical hp with
      ⟨r, hr, hsame⟩
    rcases List.mem_map.1 (hrows'.symm ▸ hr) with ⟨pair', hpair', rfl⟩
    rcases exists_left_of_forall₂ hclean.snapshots hp with ⟨row, _, hparsed⟩
    rcases exists_left_of_forall₂ hclean.references hr with ⟨other, _, hparsed'⟩
    exact ⟨pair'.2, hbuilt' ▸ List.mem_map_of_mem hpair',
      partner_of_logicalKey hparsed hparsed' (hpairs pair hpair) (hpairs' pair' hpair') hsame⟩
  · have hlogical := @logicalKeys_nodup lower _ _
      BalanceReferenceSubmissionRow.toBalanceSnapshotSubmissionRow _ _ _ _ hreferences
      (fun p hp b hb => by
        rcases exists_left_of_forall₂ hclean.references hp with ⟨row, _, hparsed⟩
        exact (key_of_balanceReferenceFromRow hparsed hb).1) hreferenceKeys
    intro reference hreference
    dsimp only at hreference
    rw [← hbuilt'] at hreference
    rcases List.mem_map.1 hreference with ⟨pair', hpair', rfl⟩
    have hr : pair'.1 ∈ result.balanceReferenceRows := hrows' ▸ List.mem_map_of_mem hpair'
    rcases matched_of_unmatchedKeys (List.map_eq_nil_iff.1 hmismatches.2) hlogical hr with
      ⟨p, hp, hsame⟩
    rcases List.mem_map.1 (hrows.symm ▸ hp) with ⟨pair, hpair, rfl⟩
    rcases exists_left_of_forall₂ hclean.snapshots hp with ⟨row, _, hparsed⟩
    rcases exists_left_of_forall₂ hclean.references hr with ⟨other, _, hparsed'⟩
    exact ⟨pair.2, hbuilt ▸ List.mem_map_of_mem hpair,
      partner_of_logicalKey hparsed hparsed' (hpairs pair hpair) (hpairs' pair' hpair') hsame.symm⟩

/-- Records with distinct keys that stand in pairs come from rows that spell each balance once. -/
lemma wellSpelled_of_submitted (hclean : Clean lower package expectedSource result)
    {materialized : MaterializedBalanceSubmission}
    (hmaterialized : materializeBalanceSubmission lower submissionRoot result = .ok materialized)
    (hnodup : (materialized.balanceSnapshots.map snapshotKey).Nodup)
    (hpaired : Paired materialized.balanceSnapshots materialized.balanceReferences) :
    WellSpelled lower package := by
  simp only [materializeBalanceSubmission, bind_eq_ok_iff] at hmaterialized
  rcases hmaterialized with ⟨snapshots, hsnapshots, references, hreferences, locations, _, hbuilt⟩
  cases hbuilt
  dsimp only at hnodup hpaired
  refine ⟨?_, (nodup_of_spelledOnce (snapshotKeys_built hclean hsnapshots) hclean.snapshotKeys).1 hnodup,
    (nodup_of_spelledOnce (referenceKeys_built hclean hreferences) hclean.referenceKeys).1
      (referenceKeys_nodup hnodup hpaired)⟩
  have hlocation : ∀ {row : NumberedRow} {parsed : BalanceSnapshotSubmissionRow},
      ParsedFrom row.2 expectedSource parsed → (∃ key, submissionMatchKey lower parsed = some key) →
        ∃ location, locationIdForSubmissionRow lower (cell row.2 "source") (cell row.2 "account")
          (cell row.2 "wallet") = .ok location := by
    intro row parsed hparsed hkey
    rw [submissionMatchKey_isSome_iff, hparsed.sourceText, hparsed.account, hparsed.wallet] at hkey
    exact hkey
  rcases mapM_ok_pairs hsnapshots with ⟨pairs, hrows, _, hpairs⟩
  rcases mapM_ok_pairs hreferences with ⟨pairs', hrows', _, hpairs'⟩
  intro row hrow
  rcases List.mem_append.1 hrow with hrow | hrow
  · rcases exists_right_of_forall₂ hclean.snapshots hrow with ⟨parsed, hmem, hparsed⟩
    rcases List.mem_map.1 (hrows.symm ▸ hmem) with ⟨pair, hpair, rfl⟩
    exact hlocation hparsed ((exists_balanceSnapshotFromRow hparsed).1 ⟨_, hpairs pair hpair⟩)
  · rcases exists_right_of_forall₂ hclean.references hrow with ⟨parsed, hmem, hparsed⟩
    rcases List.mem_map.1 (hrows'.symm ▸ hmem) with ⟨pair, hpair, rfl⟩
    exact hlocation hparsed.base
      ((exists_balanceReferenceFromRow hparsed).1 ⟨_, hpairs' pair hpair⟩)

end Submitted

/-- A submission is sound exactly when no row that passes its checks holds a quantity that is no
finite number and, where the validation reports nothing, every account and wallet has a slug and no
file spells one balance in two ways. -/
theorem submittable_iff (lower : String → String) (package : SubmissionPackage)
    (expectedSource submissionRoot : String) :
    Submittable lower package expectedSource submissionRoot ↔
      (∀ row ∈ package.snapshotRows.2 ++ package.referenceRows.2, ¬Refused expectedSource row) ∧
        ∀ result, validateBalanceSubmission lower package expectedSource = .ok result →
          result.issues = [] → WellSpelled lower package := by
  constructor
  · rintro ⟨result, hvalidated, hpromise⟩
    refine ⟨validateBalanceSubmission_ok_iff.1 ⟨result, hvalidated⟩, ?_⟩
    intro other hother hissues
    have hsame : other = result := Except.ok.inj (hother.symm.trans hvalidated)
    subst hsame
    rcases hpromise hissues with ⟨materialized, hmaterialized, hnodup, hpaired⟩
    exact wellSpelled_of_submitted (clean_of_validated hvalidated hissues) hmaterialized hnodup hpaired
  · rintro ⟨hfinite, hspelled⟩
    rcases validateBalanceSubmission_ok_iff.2 hfinite with ⟨result, hvalidated⟩
    refine ⟨result, hvalidated, fun hissues => ?_⟩
    exact submitted_of_wellSpelled (clean_of_validated hvalidated hissues)
      (hspelled result hvalidated hissues)

namespace Unslugged

/-- Lower case of ASCII letters. -/
def asciiLower (text : String) : String := String.ofList (text.toList.map Char.toLower)

/-- One balance with its reference, in an account that is named by a dash. -/
def package : SubmissionPackage where
  balanceSnapshots := some ⟨balanceSnapshotsHeader,
    [["kraken", "-", "-", "btc", "1.5", "2024-01-31", "date", "available", ""]]⟩
  balanceReferences := some ⟨balanceReferencesHeader,
    [["kraken", "-", "-", "btc", "1.5", "2024-01-31", "date", "available", "operator_assertion",
      "2024-01-31", "date", "statement.pdf", "operator", "2024-02-01 09:00:00", ""]]⟩
  locationInventory := none

/-- The validation reports nothing, and the account has no location id. -/
theorem not_submittable : ¬Submittable asciiLower package "kraken" "/submission" := by
  have hissues : (validateBalanceSubmission asciiLower package "kraken").map
      (fun result => result.issues) = .ok [] := by
    decide +kernel
  have hraises : (validateBalanceSubmission asciiLower package "kraken" >>=
      materializeBalanceSubmission asciiLower "/submission").isOk = false := by
    decide +kernel
  rintro ⟨result, hvalidated, hpromise⟩
  rw [hvalidated] at hissues hraises
  rcases hpromise (Except.ok.inj hissues) with ⟨materialized, hmaterialized, _⟩
  have hok : (materializeBalanceSubmission asciiLower "/submission" result).isOk = false := hraises
  rw [hmaterialized] at hok
  cases hok

end Unslugged

end Submission
end Tallylot
