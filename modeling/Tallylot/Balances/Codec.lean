import Tallylot.Balances.Models
import Tallylot.Data.DecimalContext
import Tallylot.Domain.LocationIdentifiers
import Tallylot.Domain.ValueObjects

/-!
# Codec — balance snapshots and references as rows

The constructors of the balance records, the rows that their objects write and the decoders of these
rows.  An object that is read back has its times at the second and its quantity rounded to the
context (`snapshotFromRow_toRow`, `referenceFromRow_toRow`).
-/

namespace Tallylot
namespace Balances

open Data Domain

/-! ## Targets -/

structure BalanceTargetFields where
  source : String
  locationId : String
  instrumentId : String
  balanceKind : String
  targetAt : Instant
  targetPrecision : TemporalPrecision

/-- `normalize_balance_kind` -/
def normalizeBalanceKind (balanceKind : String) : String :=
  if strip balanceKind = "" then "available" else strip balanceKind

lemma normalizeBalanceKind_settled (balanceKind : String) :
    normalizeBalanceKind (normalizeBalanceKind balanceKind) = normalizeBalanceKind balanceKind := by
  have havailable : strip "available" = "available" := by decide
  by_cases h : strip balanceKind = ""
  · simp [normalizeBalanceKind, h, havailable]
  · simp [normalizeBalanceKind, h, strip_strip]

/-- `BalanceTarget.__post_init__` -/
def BalanceTargetFields.postInit (fields : BalanceTargetFields) : Decoded BalanceTarget :=
  if h : fields.instrumentId = "" then
    .error (.value "balance target instrument_id must not be blank")
  else do
    let locationId ← requireLocationId fields.locationId "balance target location_id"
    let target ←
      requireTemporalDatetime fields.targetAt fields.targetPrecision "balance target target_at"
    return {
      source := fields.source
      locationId := locationId
      instrumentId := fields.instrumentId
      balanceKind := normalizeBalanceKind fields.balanceKind
      target := target
      instrument_nonblank := h }

def BalanceTarget.fields (target : BalanceTarget) : BalanceTargetFields where
  source := target.source
  locationId := target.locationId
  instrumentId := target.instrumentId
  balanceKind := target.balanceKind
  targetAt := target.targetAt
  targetPrecision := target.targetPrecision

/-- A target whose location and balance kind are in the form that the constructor gives them. -/
structure TargetSettled (target : BalanceTarget) : Prop where
  location :
    requireLocationId target.locationId "balance target location_id" = .ok target.locationId
  balanceKind : normalizeBalanceKind target.balanceKind = target.balanceKind

lemma postInit_fields {target : BalanceTarget} (h : TargetSettled target) :
    target.fields.postInit = .ok target := by
  have htarget := requireTemporalDatetime_self target.target "balance target target_at"
  have hinstrument : ¬target.fields.instrumentId = "" := target.instrument_nonblank
  rw [BalanceTargetFields.postInit, dif_neg hinstrument]
  simp only [BalanceTarget.fields, BalanceTarget.targetAt, BalanceTarget.targetPrecision,
    h.location, h.balanceKind, htarget, bind_ok]
  rfl

lemma targetSettled_of_postInit {fields : BalanceTargetFields} {target : BalanceTarget}
    (h : fields.postInit = .ok target) : TargetSettled target := by
  unfold BalanceTargetFields.postInit at h
  split at h
  · cases h
  · simp only [bind_eq_ok_iff] at h
    rcases h with ⟨location, hlocation, value, hvalue, htarget⟩
    cases htarget
    exact ⟨(requireLocationId_settled hlocation).2.2, normalizeBalanceKind_settled _⟩

/-- What the constructor makes of the fields that it accepts. -/
lemma postInit_eq_ok {fields : BalanceTargetFields} {target : BalanceTarget}
    (h : fields.postInit = .ok target) :
    target.source = fields.source ∧
      requireLocationId fields.locationId "balance target location_id" = .ok target.locationId ∧
        target.instrumentId = fields.instrumentId ∧
          target.balanceKind = normalizeBalanceKind fields.balanceKind ∧
            target.targetAt = fields.targetAt ∧ target.targetPrecision = fields.targetPrecision := by
  unfold BalanceTargetFields.postInit at h
  split at h
  · cases h
  · simp only [bind_eq_ok_iff] at h
    rcases h with ⟨location, hlocation, value, hvalue, htarget⟩
    rcases requireTemporalDatetime_eq_ok hvalue with ⟨hinstant, hprecision⟩
    cases htarget
    exact ⟨rfl, hlocation, rfl, rfl, hinstant, hprecision⟩

lemma exists_postInit {fields : BalanceTargetFields} {location : String}
    (hinstrument : fields.instrumentId ≠ "")
    (hlocation : requireLocationId fields.locationId "balance target location_id" = .ok location)
    (hdated : fields.targetPrecision = .date → fields.targetAt.isMidnight = true) :
    ∃ target, fields.postInit = .ok target := by
  have htarget : requireTemporalDatetime fields.targetAt fields.targetPrecision
      "balance target target_at" = .ok ⟨fields.targetAt, fields.targetPrecision, hdated⟩ :=
    dif_pos hdated
  rw [BalanceTargetFields.postInit, dif_neg hinstrument, hlocation, htarget]
  exact ⟨_, rfl⟩

def balanceTarget : Constructor BalanceTargetFields BalanceTarget where
  make := BalanceTargetFields.postInit
  fields := BalanceTarget.fields
  settled := fun _ _ h => postInit_fields (targetSettled_of_postInit h)

/-- The targets that the constructor accepts. -/
abbrev AcceptedTarget := balanceTarget.Value

lemma targetSettled (target : AcceptedTarget) : TargetSettled target.val := by
  rcases target.property with ⟨fields, h⟩
  exact targetSettled_of_postInit h

/-! ## Snapshots -/

structure BalanceSnapshotFields where
  target : AcceptedTarget
  quantity : Decimal
  snapshotBasis : String
  notes : String

/-- `BalanceSnapshot.__post_init__` -/
def BalanceSnapshotFields.validate (snapshot : BalanceSnapshotFields) : Decoded Unit :=
  require (strip snapshot.snapshotBasis ≠ "") "balance snapshot snapshot_basis must not be blank"

def balanceSnapshot : Constructor BalanceSnapshotFields BalanceSnapshotFields :=
  checkedConstructor BalanceSnapshotFields.validate

/-- The snapshots that the constructor accepts. -/
abbrev AcceptedSnapshot := balanceSnapshot.Value

/-- The snapshot as the balance check reads it. -/
def AcceptedSnapshot.snapshot (snapshot : AcceptedSnapshot) : BalanceSnapshot where
  target := snapshot.val.target.val
  quantity := snapshot.val.quantity
  snapshotBasis := snapshot.val.snapshotBasis
  notes := snapshot.val.notes

/-! ## References -/

namespace BalanceReferenceKind

def members : List BalanceReferenceKind := [sourceDocument, networkApi, operatorAssertion]

end BalanceReferenceKind

structure BalanceReferenceFields where
  target : AcceptedTarget
  quantity : Decimal
  referenceKind : BalanceReferenceKind
  observedAt : Instant
  observedPrecision : TemporalPrecision
  supportRef : String
  providerFamily : String
  providerLocator : String
  providerBlockRef : String
  reviewedBy : String
  reviewedAt : Option Instant
  notes : String

/-- The reference with its texts stripped. -/
def BalanceReferenceFields.stripped (reference : BalanceReferenceFields) : BalanceReferenceFields :=
  { reference with
    reviewedBy := strip reference.reviewedBy
    providerFamily := strip reference.providerFamily
    providerLocator := strip reference.providerLocator
    providerBlockRef := strip reference.providerBlockRef
    supportRef := strip reference.supportRef }

/-- The checks of the stripped texts. -/
def BalanceReferenceFields.validate (reference : BalanceReferenceFields) : Decoded Unit := do
  require (reference.referenceKind = .operatorAssertion → reference.reviewedBy ≠ "")
    "operator assertion balance references require reviewed_by"
  require (reference.referenceKind = .operatorAssertion → reference.reviewedAt.isSome = true)
    "operator assertion balance references require reviewed_at"
  require (reference.reviewedAt.isSome = true → reference.reviewedBy ≠ "")
    "balance reference reviewed_at requires reviewed_by"
  require (reference.referenceKind = .networkApi → reference.providerFamily ≠ "")
    "network api balance references require provider_family"
  require (reference.referenceKind ≠ .networkApi →
      reference.providerFamily = "" ∧ reference.providerLocator = "" ∧
        reference.providerBlockRef = "")
    "only network api balance references may set provider fields"

/-- `BalanceReference.__post_init__` -/
def BalanceReferenceFields.postInit (reference : BalanceReferenceFields) :
    Decoded BalanceReferenceFields := do
  let _ ← requireTemporalDatetime reference.observedAt reference.observedPrecision
    "balance reference observed_at"
  reference.stripped.validate
  return reference.stripped

lemma stripped_stripped (reference : BalanceReferenceFields) :
    reference.stripped.stripped = reference.stripped := by
  simp [BalanceReferenceFields.stripped, strip_strip]

theorem reference_postInit_eq_ok_iff (reference built : BalanceReferenceFields) :
    reference.postInit = .ok built ↔
      (∃ observed, requireTemporalDatetime reference.observedAt reference.observedPrecision
          "balance reference observed_at" = .ok observed) ∧
        reference.stripped.validate = .ok () ∧ built = reference.stripped := by
  simp only [BalanceReferenceFields.postInit, bind_eq_ok_iff]
  constructor
  · rintro ⟨observed, hobserved, _, hvalid, hbuilt⟩
    exact ⟨⟨observed, hobserved⟩, hvalid, (Except.ok.inj hbuilt).symm⟩
  · rintro ⟨⟨observed, hobserved⟩, hvalid, rfl⟩
    exact ⟨observed, hobserved, (), hvalid, rfl⟩

def balanceReference : Constructor BalanceReferenceFields BalanceReferenceFields where
  make := BalanceReferenceFields.postInit
  fields := id
  settled := by
    intro reference built h
    rcases (reference_postInit_eq_ok_iff reference built).1 h with ⟨hobserved, hvalid, rfl⟩
    refine (reference_postInit_eq_ok_iff _ _).2 ⟨hobserved, ?_, (stripped_stripped _).symm⟩
    rwa [id, stripped_stripped]

/-- The references that the constructor accepts. -/
abbrev AcceptedReference := balanceReference.Value

/-- A reference to a source document needs no review and no provider. -/
lemma exists_build_sourceDocument {reference : BalanceReferenceFields}
    (hkind : reference.referenceKind = .sourceDocument) (hreviewed : reference.reviewedAt = none)
    (hprovider : reference.providerFamily = "" ∧ reference.providerLocator = "" ∧
      reference.providerBlockRef = "")
    (hdated : reference.observedPrecision = .date → reference.observedAt.isMidnight = true) :
    ∃ built, balanceReference.build reference = .ok built := by
  have hblank : strip "" = "" := by decide
  have hvalid : reference.stripped.validate = .ok () := by
    simp only [BalanceReferenceFields.validate, bind_eq_ok_iff, require_eq_ok_iff,
      BalanceReferenceFields.stripped, hkind, hreviewed, hprovider, hblank]
    simp
  have hmake : balanceReference.make reference = .ok reference.stripped :=
    (reference_postInit_eq_ok_iff _ _).2 ⟨⟨_, dif_pos hdated⟩, hvalid, rfl⟩
  exact ⟨_, balanceReference.build_of_make hmake⟩

lemma reference_postInit (reference : AcceptedReference) :
    (∃ observed, requireTemporalDatetime reference.val.observedAt reference.val.observedPrecision
        "balance reference observed_at" = .ok observed) ∧
      reference.val.validate = .ok () ∧ reference.val.stripped = reference.val := by
  rcases (reference_postInit_eq_ok_iff reference.val reference.val).1
    (balanceReference.make_fields reference.property) with ⟨hobserved, hvalid, hstripped⟩
  exact ⟨hobserved, hstripped ▸ hvalid, hstripped.symm⟩

/-- The reference as the balance check reads it; what its constructor checked are its fields. -/
def AcceptedReference.reference (reference : AcceptedReference) : BalanceReference where
  target := reference.val.target.val
  quantity := reference.val.quantity
  referenceKind := reference.val.referenceKind
  observed := ⟨reference.val.observedAt, reference.val.observedPrecision, by
    rcases (reference_postInit reference).1 with ⟨observed, h⟩
    rcases requireTemporalDatetime_eq_ok h with ⟨hinstant, hprecision⟩
    rw [← hinstant, ← hprecision]
    exact observed.midnight⟩
  supportRef := reference.val.supportRef
  providerFamily := reference.val.providerFamily
  providerLocator := reference.val.providerLocator
  providerBlockRef := reference.val.providerBlockRef
  reviewedBy := reference.val.reviewedBy
  reviewedAt := reference.val.reviewedAt
  notes := reference.val.notes
  reviewed := by
    have h := (reference_postInit reference).2.1
    simp only [BalanceReferenceFields.validate, bind_eq_ok_iff, require_eq_ok_iff] at h
    rcases h with ⟨_, hby, _, hat, _⟩
    exact fun hkind => ⟨hby hkind, hat hkind⟩
  reviewer := by
    have h := (reference_postInit reference).2.1
    simp only [BalanceReferenceFields.validate, bind_eq_ok_iff, require_eq_ok_iff] at h
    rcases h with ⟨_, _, _, _, _, hreviewer, _⟩
    exact hreviewer
  provider := by
    have h := (reference_postInit reference).2.1
    simp only [BalanceReferenceFields.validate, bind_eq_ok_iff, require_eq_ok_iff] at h
    rcases h with ⟨_, _, _, _, _, _, _, hprovider, _⟩
    exact hprovider
  noProvider := by
    have h := (reference_postInit reference).2.1
    simp only [BalanceReferenceFields.validate, bind_eq_ok_iff, require_eq_ok_iff] at h
    rcases h with ⟨_, _, _, _, _, _, _, _, hnone⟩
    exact hnone

/-! ## Writing -/

namespace AcceptedTarget

/-- `BalanceTarget.to_row` -/
def toRow (target : AcceptedTarget) : Row :=
  [ ("source", target.val.source),
    ("location_id", target.val.locationId),
    ("instrument_id", target.val.instrumentId),
    ("balance_kind", target.val.balanceKind),
    ("target_at", target.val.target.text),
    ("target_precision", target.val.targetPrecision.text)]

end AcceptedTarget

/-- `BalanceSnapshot.to_row` -/
def BalanceSnapshotFields.toRow (snapshot : BalanceSnapshotFields) : Decoded Row := do
  let quantity ← snapshot.quantity.formatDecimal
  return AcceptedTarget.toRow snapshot.target ++
    [ ("quantity", quantity),
      ("snapshot_basis", snapshot.snapshotBasis),
      ("notes", snapshot.notes)]

/-- `BalanceReference.to_row` -/
def BalanceReferenceFields.toRow (reference : BalanceReferenceFields) : Decoded Row := do
  let quantity ← reference.quantity.formatDecimal
  let observed ← requireTemporalDatetime reference.observedAt reference.observedPrecision
    "balance reference observed_at"
  return AcceptedTarget.toRow reference.target ++
    [ ("quantity", quantity),
      ("reference_kind", reference.referenceKind.value),
      ("observed_at", observed.text),
      ("observed_precision", reference.observedPrecision.text),
      ("support_ref", reference.supportRef),
      ("provider_family", reference.providerFamily),
      ("provider_locator", reference.providerLocator),
      ("provider_block_ref", reference.providerBlockRef),
      ("reviewed_by", reference.reviewedBy),
      ("reviewed_at", (reference.reviewedAt.map Instant.timestampText).getD ""),
      ("notes", reference.notes)]

/-! ## Reading -/

/-- A precision that a row must state. -/
def requiredPrecision (row : Row) (column : String) : Decoded TemporalPrecision := do
  let text ← row.text column
  requireSome (parseTemporalPrecision text) ("missing required enum field: " ++ column)

def requiredQuantity (row : Row) : Decoded Decimal := do
  let text ← row.text "quantity"
  let parsed ← Decimal.parseSettled text
  requireSome parsed "missing required decimal field: quantity"

/-- The target of a row, given its precision. -/
def targetFromRow (row : Row) (precision : TemporalPrecision) : Decoded AcceptedTarget := do
  let source ← row.text "source"
  let locationId ← row.text "location_id"
  let instrumentId ← row.text "instrument_id"
  let targetAtText ← row.text "target_at"
  let targetAt ← parseTemporalValue targetAtText precision
  balanceTarget.build
    { source := source
      locationId := locationId
      instrumentId := instrumentId
      balanceKind := normalizeBalanceKind (row.getD "balance_kind" "")
      targetAt := targetAt
      targetPrecision := precision }

/-- `balance_snapshot_from_row` -/
def balanceSnapshotFromRow (row : Row) : Decoded AcceptedSnapshot := do
  let precision ← requiredPrecision row "target_precision"
  let quantity ← requiredQuantity row
  let target ← targetFromRow row precision
  balanceSnapshot.build
    { target := target
      quantity := quantity
      snapshotBasis := row.getD "snapshot_basis" ""
      notes := row.getD "notes" "" }

/-- The review time, where the row has one. -/
def reviewedAtFromRow (row : Row) : Decoded (Option Instant) :=
  if strip (row.getD "reviewed_at" "") = "" then .ok none
  else do
    let text ← row.text "reviewed_at"
    let reviewedAt ← parseTimestamp text
    return some reviewedAt

/-- `balance_reference_from_row` -/
def balanceReferenceFromRow (row : Row) : Decoded AcceptedReference := do
  let targetPrecision ← requiredPrecision row "target_precision"
  let observedPrecision ← requiredPrecision row "observed_precision"
  let kindText ← row.text "reference_kind"
  let referenceKind ←
    requireSome (ofValue BalanceReferenceKind.members BalanceReferenceKind.value (strip kindText))
      "missing required enum field: reference_kind"
  let quantity ← requiredQuantity row
  let target ← targetFromRow row targetPrecision
  let observedAtText ← row.text "observed_at"
  let observedAt ← parseTemporalValue observedAtText observedPrecision
  let reviewedAt ← reviewedAtFromRow row
  balanceReference.build
    { target := target
      quantity := quantity
      referenceKind := referenceKind
      observedAt := observedAt
      observedPrecision := observedPrecision
      supportRef := row.getD "support_ref" ""
      providerFamily := row.getD "provider_family" ""
      providerLocator := row.getD "provider_locator" ""
      providerBlockRef := row.getD "provider_block_ref" ""
      reviewedBy := row.getD "reviewed_by" ""
      reviewedAt := reviewedAt
      notes := row.getD "notes" "" }

end Balances
end Tallylot
