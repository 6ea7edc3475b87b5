import Tallylot.Balances.RoundTrip
import Tallylot.Transactions.RoundTrip

/-!
# RowCodecs — which records their rows show whole

A record can be written when its quantities lie in the range of the context and its years show four
digits.  Reading its row back then never fails, and it gives the record with its times at the second
and its quantities rounded.  A record is `Shown` by its row when its times are whole seconds and its
quantities fit the context; these are exactly the records that are read back as they were.
-/

namespace Tallylot
namespace Storage

open Data Transactions Balances
open Domain (TemporalValue requireLocationId)

/-- A year that every platform writes with four digits, as `%Y` reads it. -/
def FourDigitYear (t : Instant) : Prop := 1000 ≤ t.year

instance (t : Instant) : Decidable (FourDigitYear t) := inferInstanceAs (Decidable (_ ≤ _))

/-! ## Facts -/

structure FactWritable (fact : TransactionFactFields) : Prop where
  timestamp : FourDigitYear fact.timestamp
  effectiveAt : ∀ t, fact.effectiveAt = some t → FourDigitYear t
  quantities : ∀ leg ∈ fact.legs, leg.val.quantity.InRange

/-- One fact, but for the order of its limits and a blank hash. -/
def SameFact (fact other : TransactionFactFields) : Prop :=
  other.legPolicy.val.limits.Perm fact.legPolicy.val.limits ∧
    other =
      { fact with
        legPolicy := other.legPolicy
        txHash := settledHash fact.txHash }

def FactShown (fact : TransactionFactFields) : Prop :=
  fact.timestamp.microsecond = 0 ∧
    (∀ t, fact.effectiveAt = some t → t.microsecond = 0) ∧
      ∀ leg ∈ fact.legs, leg.val.quantity.Fits

lemma map_wholeSecond_eq_iff (value : Option Instant) :
    value.map Instant.wholeSecond = value ↔ ∀ t, value = some t → t.microsecond = 0 := by
  cases value with
  | none => simp
  | some t => simp [Instant.wholeSecond_eq_iff]

lemma settledLeg_eq_iff (leg : EconomicLeg) : settledLeg leg = leg ↔ leg.val.quantity.Fits := by
  rw [← Decimal.quantize_eq_iff]
  constructor
  · intro h
    exact congrArg (fun leg : EconomicLeg => leg.val.quantity) h
  · intro h
    exact economicLeg.value_ext (by simp only [settledLeg, EconomicLegFields.settled, h])

lemma map_settledLeg_eq_iff (legs : List EconomicLeg) :
    legs.map settledLeg = legs ↔ ∀ leg ∈ legs, leg.val.quantity.Fits := by
  calc
    legs.map settledLeg = legs ↔ legs.map settledLeg = legs.map id := by rw [List.map_id]
    _ ↔ ∀ leg ∈ legs, settledLeg leg = leg := List.map_inj_left
    _ ↔ ∀ leg ∈ legs, leg.val.quantity.Fits := by simp only [settledLeg_eq_iff]

/-- A settled fact is the fact exactly when the row shows it whole. -/
theorem sameFact_settled_iff (fact : TransactionFact) :
    SameFact fact.val (settledFact fact).val ↔ FactShown fact.val := by
  have hlimits : (settledFact fact).val.legPolicy.val.limits.Perm fact.val.legPolicy.val.limits :=
    sortedOn_perm _ fact.val.legPolicy.val.limits
  rw [SameFact, FactShown, ← map_settledLeg_eq_iff, ← map_wholeSecond_eq_iff,
    ← Instant.wholeSecond_eq_iff]
  rw [and_iff_right hlimits]
  constructor
  · intro h
    exact ⟨congrArg TransactionFactFields.timestamp h, congrArg TransactionFactFields.effectiveAt h,
      congrArg TransactionFactFields.legs h⟩
  · rintro ⟨htimestamp, heffective, hlegs⟩
    simp only [settledFact, TransactionFactFields.settled, htimestamp, heffective, hlegs]

/-! ## Balance records -/

structure SnapshotWritable (snapshot : BalanceSnapshotFields) : Prop where
  targetAt : FourDigitYear snapshot.target.val.target.instant
  quantity : snapshot.quantity.InRange

structure ReferenceWritable (reference : BalanceReferenceFields) : Prop where
  targetAt : FourDigitYear reference.target.val.target.instant
  observedAt : FourDigitYear reference.observedAt
  reviewedAt : ∀ t, reference.reviewedAt = some t → FourDigitYear t
  quantity : reference.quantity.InRange

def SnapshotShown (snapshot : BalanceSnapshotFields) : Prop :=
  snapshot.target.val.target.instant.microsecond = 0 ∧ snapshot.quantity.Fits

def ReferenceShown (reference : BalanceReferenceFields) : Prop :=
  reference.target.val.target.instant.microsecond = 0 ∧ reference.quantity.Fits ∧
    reference.observedAt.microsecond = 0 ∧
      ∀ t, reference.reviewedAt = some t → t.microsecond = 0

lemma settledTarget_eq_iff (target : AcceptedTarget) :
    settledTarget target = target ↔ target.val.target.instant.microsecond = 0 := by
  rw [← TemporalValue.settled_eq_iff]
  constructor
  · intro h
    exact congrArg (fun target : AcceptedTarget => target.val.target) h
  · intro h
    exact balanceTarget.value_ext (by simp only [settledTarget, BalanceTarget.settled, h])

theorem settledSnapshot_eq_iff (snapshot : AcceptedSnapshot) :
    settledSnapshot snapshot = snapshot ↔ SnapshotShown snapshot.val := by
  rw [SnapshotShown, ← settledTarget_eq_iff, ← Decimal.quantize_eq_iff]
  constructor
  · intro h
    exact ⟨congrArg (fun snapshot : AcceptedSnapshot => snapshot.val.target) h,
      congrArg (fun snapshot : AcceptedSnapshot => snapshot.val.quantity) h⟩
  · rintro ⟨htarget, hquantity⟩
    exact balanceSnapshot.value_ext (by
      simp only [settledSnapshot, BalanceSnapshotFields.settled, htarget, hquantity])

theorem settledReference_eq_iff (reference : AcceptedReference) :
    settledReference reference = reference ↔ ReferenceShown reference.val := by
  rw [ReferenceShown, ← settledTarget_eq_iff, ← Decimal.quantize_eq_iff,
    ← map_wholeSecond_eq_iff, ← Instant.wholeSecond_eq_iff]
  constructor
  · intro h
    exact ⟨congrArg (fun reference : AcceptedReference => reference.val.target) h,
      congrArg (fun reference : AcceptedReference => reference.val.quantity) h,
      congrArg (fun reference : AcceptedReference => reference.val.observedAt) h,
      congrArg (fun reference : AcceptedReference => reference.val.reviewedAt) h⟩
  · rintro ⟨htarget, hquantity, hobserved, hreviewed⟩
    exact balanceReference.value_ext (by
      simp only [settledReference, BalanceReferenceFields.settled, htarget, hquantity, hobserved,
        hreviewed])

/-! ## All row codecs -/

/-- Rows are read back as settled records, and as the records themselves exactly where the rows show
them whole. -/
theorem row_codecs_settle :
    (∀ fact : TransactionFact, FactWritable fact.val →
      (toRow fact.val >>= factFromRow) = .ok (settledFact fact) ∧
        (SameFact fact.val (settledFact fact).val ↔ FactShown fact.val)) ∧
      (∀ snapshot : AcceptedSnapshot, SnapshotWritable snapshot.val →
        (snapshot.val.toRow >>= balanceSnapshotFromRow) = .ok (settledSnapshot snapshot) ∧
          (settledSnapshot snapshot = snapshot ↔ SnapshotShown snapshot.val)) ∧
        ∀ reference : AcceptedReference, ReferenceWritable reference.val →
          (reference.val.toRow >>= balanceReferenceFromRow) = .ok (settledReference reference) ∧
            (settledReference reference = reference ↔ ReferenceShown reference.val) := by
  refine ⟨fun fact h => ⟨?_, sameFact_settled_iff fact⟩,
    fun snapshot h => ⟨?_, settledSnapshot_eq_iff snapshot⟩,
    fun reference h => ⟨?_, settledReference_eq_iff reference⟩⟩
  · exact factFromRow_toRow h.quantities
  · exact snapshotFromRow_toRow h.quantity
  · exact referenceFromRow_toRow h.quantity

lemma cash_location :
    requireLocationId "bank:checking" "balance target location_id" = .ok "bank:checking" := by
  decide +kernel

/-- A cash account. -/
def cashTarget (t : Instant) : BalanceTarget where
  source := "bank"
  locationId := "bank:checking"
  instrumentId := "usd"
  balanceKind := "available"
  target := TemporalValue.ofInstant t
  instrument_nonblank := by decide

lemma cash_settled (t : Instant) : TargetSettled (cashTarget t) := by
  have hlocation : (cashTarget t).locationId = "bank:checking" := rfl
  have hkind : (cashTarget t).balanceKind = "available" := rfl
  constructor
  · rw [hlocation]
    exact cash_location
  · rw [hkind]
    decide

def acceptedCash (t : Instant) : AcceptedTarget :=
  ⟨cashTarget t, (cashTarget t).fields, postInit_fields (cash_settled t)⟩

def cashSnapshot (t : Instant) (quantity : Decimal) : AcceptedSnapshot :=
  have hbasis : strip "statement" ≠ "" := by decide
  ⟨⟨acceptedCash t, quantity, "statement", ""⟩,
    checkedConstructor_accepted.2 (require_eq_ok_iff.2 hbasis)⟩

/-- A second and a microsecond. -/
def lateInstant : Instant := ⟨2024, 1, 1, 0, 0, 0, 1, by decide⟩

/-- A number of 29 digits. -/
def longQuantity : Decimal := ⟨10000000000000000000000000001, 0, by decide⟩

/-- A number above the context. -/
def hugeQuantity : Decimal := ⟨1, 1000000, by decide⟩

/-- What a statement says of the account, a microsecond past the hour. -/
def cashReference : AcceptedReference :=
  have hblank : strip "" = "" := by decide
  let fields : BalanceReferenceFields :=
    { target := acceptedCash lateInstant
      quantity := longQuantity
      referenceKind := .sourceDocument
      observedAt := lateInstant
      observedPrecision := .timestamp
      supportRef := ""
      providerFamily := ""
      providerLocator := ""
      providerBlockRef := ""
      reviewedBy := ""
      reviewedAt := none
      notes := "" }
  ⟨fields, fields, (reference_postInit_eq_ok_iff _ _).2
    ⟨⟨_, dif_pos (fun h => by cases h)⟩, by decide +kernel, by
      simp only [fields, BalanceReferenceFields.stripped, hblank]⟩⟩

def depositedLeg : EconomicLeg :=
  let fields : EconomicLegFields :=
    { legId := "deposited"
      kind := .primary
      instrumentId := "usd"
      quantity := longQuantity
      subtype := none
      attributedToLegId := none
      locationId := none }
  ⟨fields, fields, (postInit_eq_ok_iff _ _).2
    ⟨⟨by decide, by decide, by decide, fun _ => rfl, nofun, nofun⟩, none, rfl, rfl⟩⟩

/-- At most one primary leg. -/
def onePrimary : FactLegPolicy :=
  ⟨⟨[⟨⟨.primary, 1, 0, none, none, none, none⟩, checkedConstructor_accepted.2 (by decide)⟩]⟩,
    (factLegPolicy_accepted _).2 ⟨List.cons_ne_nil _ _, List.nodup_singleton _⟩⟩

def depositFields : TransactionFactFields where
  factId := "deposit-1"
  source := "bank"
  adapterId := "bank"
  timestamp := lateInstant
  locationId := "bank:checking"
  semantics := ⟨.fiatDeposit, .fundingInflow, .nonTaxableTransferIn, none⟩
  legs := [depositedLeg]
  legPolicy := onePrimary
  description := ""
  providerOperationKey := ""
  operationGroupId := ""
  txHash := some ""
  rawFile := "statement.csv"
  rawRowRef := "1"
  confidence := "high"
  status := "mapped"
  effectiveAt := none
  effectivePrecision := none

def deposit : TransactionFact :=
  ⟨depositFields, depositFields, (fact_postInit_eq_ok_iff _ _).2
    ⟨"bank:checking", by decide +kernel, rfl, by decide +kernel, rfl⟩⟩

/-- A fact, a snapshot and a reference with a microsecond and 29 digits are all read back, and none as
it was. -/
theorem cash_rows_settle :
    ((toRow deposit.val >>= factFromRow) = .ok (settledFact deposit) ∧
        ¬SameFact deposit.val (settledFact deposit).val) ∧
      ((cashSnapshot lateInstant longQuantity).val.toRow >>= balanceSnapshotFromRow) =
          .ok (settledSnapshot (cashSnapshot lateInstant longQuantity)) ∧
        (cashReference.val.toRow >>= balanceReferenceFromRow) = .ok (settledReference cashReference) ∧
          settledReference cashReference ≠ cashReference := by
  have hrange : longQuantity.InRange := by decide
  have hdeposit := row_codecs_settle.1 deposit
    ⟨by decide, nofun, fun leg hleg => by
      rcases List.mem_singleton.1 hleg with rfl
      exact hrange⟩
  have hsnapshot := row_codecs_settle.2.1 (cashSnapshot lateInstant longQuantity) ⟨by decide, hrange⟩
  have hreference := row_codecs_settle.2.2 cashReference ⟨by decide, by decide, nofun, hrange⟩
  refine ⟨⟨hdeposit.1, fun h => ?_⟩, hsnapshot.1, hreference.1, fun h => ?_⟩
  · exact absurd (hdeposit.2.1 h).1 (by decide)
  · exact absurd (hreference.2.1 h).2.1 (by decide)

/-- A microsecond is not shown, neither is the last of 29 digits, and a number above the context is not
even written. -/
theorem snapshots_not_shown :
    ((cashSnapshot lateInstant 0).val.toRow >>= balanceSnapshotFromRow) ≠
        .ok (cashSnapshot lateInstant 0) ∧
      ((cashSnapshot lateInstant.wholeSecond longQuantity).val.toRow >>= balanceSnapshotFromRow) ≠
          .ok (cashSnapshot lateInstant.wholeSecond longQuantity) ∧
        (cashSnapshot lateInstant.wholeSecond hugeQuantity).val.toRow = .error .overflow := by
  have hkept : ∀ snapshot : AcceptedSnapshot, snapshot.val.quantity.InRange →
      (snapshot.val.toRow >>= balanceSnapshotFromRow) = .ok snapshot → SnapshotShown snapshot.val := by
    intro snapshot hrange h
    rw [snapshotFromRow_toRow hrange] at h
    exact (settledSnapshot_eq_iff snapshot).1 (Except.ok.inj h)
  refine ⟨?_, ?_, ?_⟩
  · intro h
    have hmicrosecond : lateInstant.microsecond = 0 := (hkept _ (by decide) h).1
    exact absurd hmicrosecond (by decide)
  · intro h
    have hfits : longQuantity.Fits := (hkept _ (by decide) h).2
    exact absurd hfits (by decide)
  · have hformat : hugeQuantity.formatDecimal = .error .overflow := by decide
    change (hugeQuantity.formatDecimal >>= _) = _
    rw [hformat]
    rfl

end Storage
end Tallylot
