import Tallylot.Balances.Codec

/-!
# RoundTrip — balance records read back from their rows
-/

namespace Tallylot
namespace Balances

open Data Domain

/-! ## Settled values -/

/-- The target with its time at the second. -/
def BalanceTarget.settled (target : BalanceTarget) : BalanceTarget :=
  { target with target := target.target.settled }

lemma targetSettled_settled {target : BalanceTarget} (h : TargetSettled target) :
    TargetSettled target.settled :=
  ⟨h.location, h.balanceKind⟩

def settledTarget (target : AcceptedTarget) : AcceptedTarget :=
  ⟨target.val.settled, target.val.settled.fields,
    postInit_fields (targetSettled_settled (targetSettled target))⟩

def BalanceSnapshotFields.settled (snapshot : BalanceSnapshotFields) : BalanceSnapshotFields :=
  { snapshot with
    target := settledTarget snapshot.target
    quantity := snapshot.quantity.quantize }

/-- A snapshot with its time at the second and its quantity rounded. -/
def settledSnapshot (snapshot : AcceptedSnapshot) : AcceptedSnapshot :=
  ⟨snapshot.val.settled, by
    have hvalid := checkedConstructor_accepted.1 snapshot.property
    exact checkedConstructor_accepted.2 hvalid⟩

def BalanceReferenceFields.settled (reference : BalanceReferenceFields) : BalanceReferenceFields :=
  { reference with
    target := settledTarget reference.target
    quantity := reference.quantity.quantize
    observedAt := reference.observedAt.wholeSecond
    reviewedAt := reference.reviewedAt.map Instant.wholeSecond }

lemma settled_postInit (reference : AcceptedReference) :
    reference.val.settled.postInit = .ok reference.val.settled := by
  rcases reference_postInit reference with ⟨⟨observed, hobserved⟩, hvalid, hstripped⟩
  rcases requireTemporalDatetime_eq_ok hobserved with ⟨hinstant, hprecision⟩
  have hsame : reference.val.settled.stripped = reference.val.settled := by
    calc
      reference.val.settled.stripped = reference.val.stripped.settled := rfl
      _ = reference.val.settled := by rw [hstripped]
  have hvalid' : reference.val.settled.validate = .ok () := by
    simp only [BalanceReferenceFields.validate, bind_eq_ok_iff, require_eq_ok_iff] at hvalid ⊢
    simpa [BalanceReferenceFields.settled] using hvalid
  refine (reference_postInit_eq_ok_iff _ _).2 ⟨⟨observed.settled, ?_⟩, ?_, hsame.symm⟩
  · have hat : observed.settled.instant = reference.val.settled.observedAt :=
      congrArg Instant.wholeSecond hinstant
    have hstated : observed.settled.precision = reference.val.settled.observedPrecision := hprecision
    rw [← hat, ← hstated]
    exact requireTemporalDatetime_self _ _
  · rw [hsame]
    exact hvalid'

/-- A reference with its times at the second and its quantity rounded. -/
def settledReference (reference : AcceptedReference) : AcceptedReference :=
  ⟨reference.val.settled, reference.val.settled, settled_postInit reference⟩

/-! ## Columns read back -/

lemma requiredPrecision_of_text {row : Row} {column : String} {precision : TemporalPrecision}
    (h : row.text column = .ok precision.text) : requiredPrecision row column = .ok precision := by
  simp only [requiredPrecision, h, bind_ok, parseTemporalPrecision_text, requireSome_some]

lemma requiredQuantity_of_text {row : Row} {quantity : Decimal} (hrange : quantity.InRange)
    (h : row.text "quantity" = .ok quantity.format) :
    requiredQuantity row = .ok quantity.quantize := by
  simp only [requiredQuantity, h, bind_ok, Decimal.parseSettled_format hrange, requireSome_some]

/-- The columns of a target are read back in any row that starts with them. -/
lemma targetFromRow_append (target : AcceptedTarget) (columns : Row) :
    targetFromRow (AcceptedTarget.toRow target ++ columns) target.val.target.precision =
      .ok (settledTarget target) := by
  have hsettled := targetSettled target
  set row := AcceptedTarget.toRow target ++ columns with hrow
  have hsource : row.text "source" = .ok target.val.source := by
    simp [hrow, Row.text, AcceptedTarget.toRow]
  have hlocation : row.text "location_id" = .ok target.val.locationId := by
    simp [hrow, Row.text, AcceptedTarget.toRow, List.lookup_cons]
  have hinstrument : row.text "instrument_id" = .ok target.val.instrumentId := by
    simp [hrow, Row.text, AcceptedTarget.toRow, List.lookup_cons]
  have hkind : row.getD "balance_kind" "" = target.val.balanceKind := by
    simp [hrow, Row.getD, AcceptedTarget.toRow, List.lookup_cons]
  have hat : row.text "target_at" = .ok target.val.target.text := by
    simp [hrow, Row.text, AcceptedTarget.toRow, List.lookup_cons]
  simp only [targetFromRow, hsource, hlocation, hinstrument, hkind, hat, bind_ok,
    hsettled.balanceKind, TemporalValue.parse_text]
  exact balanceTarget.build_fields (settledTarget target)

/-- The row of a snapshot is read as the snapshot with its values settled. -/
theorem snapshotFromRow_toRow {snapshot : AcceptedSnapshot} (hrange : snapshot.val.quantity.InRange) :
    (snapshot.val.toRow >>= balanceSnapshotFromRow) = .ok (settledSnapshot snapshot) := by
  simp only [BalanceSnapshotFields.toRow, Decimal.formatDecimal_of_inRange hrange, bind_ok]
  change balanceSnapshotFromRow _ = _
  generalize hcolumns : AcceptedTarget.toRow snapshot.val.target ++ _ = row
  have hprecision : requiredPrecision row "target_precision" =
      .ok snapshot.val.target.val.target.precision := by
    refine requiredPrecision_of_text ?_
    simp [← hcolumns, Row.text, AcceptedTarget.toRow, List.lookup_cons, BalanceTarget.targetPrecision]
  have hquantity : requiredQuantity row = .ok snapshot.val.quantity.quantize := by
    refine requiredQuantity_of_text hrange ?_
    simp [← hcolumns, Row.text, AcceptedTarget.toRow, List.lookup_cons]
  have htarget : targetFromRow row snapshot.val.target.val.target.precision =
      .ok (settledTarget snapshot.val.target) := by
    rw [← hcolumns]
    exact targetFromRow_append snapshot.val.target _
  have hbasis : row.getD "snapshot_basis" "" = snapshot.val.snapshotBasis := by
    simp [← hcolumns, Row.getD, AcceptedTarget.toRow, List.lookup_cons]
  have hnotes : row.getD "notes" "" = snapshot.val.notes := by
    simp [← hcolumns, Row.getD, AcceptedTarget.toRow, List.lookup_cons]
  simp only [balanceSnapshotFromRow, hprecision, hquantity, htarget, hbasis, hnotes, bind_ok]
  exact balanceSnapshot.build_fields (settledSnapshot snapshot)

/-- The row of a reference is read as the reference with its values settled. -/
theorem referenceFromRow_toRow {reference : AcceptedReference}
    (hrange : reference.val.quantity.InRange) :
    (reference.val.toRow >>= balanceReferenceFromRow) = .ok (settledReference reference) := by
  rcases reference_postInit reference with ⟨⟨observed, hobserved⟩, _⟩
  rcases requireTemporalDatetime_eq_ok hobserved with ⟨hinstant, hobservedPrecision⟩
  simp only [BalanceReferenceFields.toRow, Decimal.formatDecimal_of_inRange hrange, hobserved, bind_ok]
  change balanceReferenceFromRow _ = _
  generalize hcolumns : AcceptedTarget.toRow reference.val.target ++ _ = row
  have hprecision : requiredPrecision row "target_precision" =
      .ok reference.val.target.val.target.precision := by
    refine requiredPrecision_of_text ?_
    simp [← hcolumns, Row.text, AcceptedTarget.toRow, List.lookup_cons, BalanceTarget.targetPrecision]
  have hprecision' : requiredPrecision row "observed_precision" =
      .ok reference.val.observedPrecision := by
    refine requiredPrecision_of_text ?_
    simp [← hcolumns, Row.text, AcceptedTarget.toRow, List.lookup_cons]
  have hkind : row.text "reference_kind" = .ok reference.val.referenceKind.value := by
    simp [← hcolumns, Row.text, AcceptedTarget.toRow, List.lookup_cons]
  have hquantity : requiredQuantity row = .ok reference.val.quantity.quantize := by
    refine requiredQuantity_of_text hrange ?_
    simp [← hcolumns, Row.text, AcceptedTarget.toRow, List.lookup_cons]
  have htarget : targetFromRow row reference.val.target.val.target.precision =
      .ok (settledTarget reference.val.target) := by
    rw [← hcolumns]
    exact targetFromRow_append reference.val.target _
  have hobservedAt : row.text "observed_at" = .ok observed.text := by
    simp [← hcolumns, Row.text, AcceptedTarget.toRow, List.lookup_cons]
  have hreviewedAt : reviewedAtFromRow row =
      .ok (reference.val.reviewedAt.map Instant.wholeSecond) := by
    have hcolumn : row.getD "reviewed_at" "" =
        (reference.val.reviewedAt.map Instant.timestampText).getD "" := by
      simp [← hcolumns, Row.getD, AcceptedTarget.toRow, List.lookup_cons]
    have htext : row.text "reviewed_at" =
        .ok ((reference.val.reviewedAt.map Instant.timestampText).getD "") := by
      simp [← hcolumns, Row.text, AcceptedTarget.toRow, List.lookup_cons]
    have hempty : strip "" = "" := by decide
    rw [reviewedAtFromRow, hcolumn, htext]
    cases reference.val.reviewedAt with
    | none => simp [hempty]
    | some t =>
        simp only [Option.map_some, Option.getD_some, Instant.stripped_timestampText,
          Instant.timestampText_ne_empty, if_false, bind_ok, parseTimestamp_text]
        rfl
  have hsupport : row.getD "support_ref" "" = reference.val.supportRef := by
    simp [← hcolumns, Row.getD, AcceptedTarget.toRow, List.lookup_cons]
  have hfamily : row.getD "provider_family" "" = reference.val.providerFamily := by
    simp [← hcolumns, Row.getD, AcceptedTarget.toRow, List.lookup_cons]
  have hlocator : row.getD "provider_locator" "" = reference.val.providerLocator := by
    simp [← hcolumns, Row.getD, AcceptedTarget.toRow, List.lookup_cons]
  have hblock : row.getD "provider_block_ref" "" = reference.val.providerBlockRef := by
    simp [← hcolumns, Row.getD, AcceptedTarget.toRow, List.lookup_cons]
  have hreviewedBy : row.getD "reviewed_by" "" = reference.val.reviewedBy := by
    simp [← hcolumns, Row.getD, AcceptedTarget.toRow, List.lookup_cons]
  have hnotes : row.getD "notes" "" = reference.val.notes := by
    simp [← hcolumns, Row.getD, AcceptedTarget.toRow, List.lookup_cons]
  have hkindOf : ofValue BalanceReferenceKind.members BalanceReferenceKind.value
      (strip reference.val.referenceKind.value) = some reference.val.referenceKind := by
    cases reference.val.referenceKind <;> decide
  have hparse : parseTemporalValue observed.text reference.val.observedPrecision =
      .ok reference.val.observedAt.wholeSecond := by
    rw [← hinstant, ← hobservedPrecision]
    exact observed.parse_text
  simp only [balanceReferenceFromRow, hprecision, hprecision', hkind, hkindOf, requireSome_some,
    hquantity, htarget, hobservedAt, hparse, hreviewedAt, hsupport, hfamily, hlocator, hblock,
    hreviewedBy, hnotes, bind_ok]
  exact balanceReference.build_fields (settledReference reference)

end Balances
end Tallylot
