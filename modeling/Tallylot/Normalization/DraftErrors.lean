import Tallylot.Data.Attempts
import Tallylot.Normalization.DraftLegs

/-!
# DraftErrors — drafts fail with a `ValueError`

Legs, facts and drafts check ids, locations, quantities and policies.  Each of the checks raises a
`ValueError`, so that an adapter can report a draft that is refused.
-/

namespace Tallylot
namespace Normalization

open Data Domain Transactions

lemma catchable_raised {α : Type} {x : Except String α} : Catchable (raised x) := by
  cases x with
  | ok a => exact catchable_ok
  | error message => exact catchable_value

lemma catchable_validateOptional {α : Type} {validate : α → Decoded Unit} {value : Option α}
    (h : ∀ a, Catchable (validate a)) : Catchable (validateOptional validate value) := by
  cases value with
  | none => exact catchable_ok
  | some a => exact h a

lemma catchable_requireLocationId {value label : String} :
    Catchable (requireLocationId value label) :=
  catchable_bind catchable_require fun _ => catchable_bind catchable_require fun _ => catchable_pure

lemma catchable_locationIdFromParts {lower : String → String} {parts : List String} :
    Catchable (locationIdFromParts lower parts) :=
  catchable_bind catchable_require fun _ => catchable_bind catchable_require fun _ => catchable_pure

/-! ## Legs -/

lemma catchable_postInit_leg (leg : EconomicLegFields) : Catchable leg.postInit := by
  refine catchable_bind catchable_require fun _ => catchable_bind catchable_require fun _ =>
    catchable_bind catchable_require fun _ => catchable_bind ?_ fun _ =>
      catchable_bind catchable_require fun _ => catchable_bind ?_ fun _ =>
        catchable_bind ?_ fun _ => catchable_pure
  · cases leg.locationId with
    | none => exact catchable_ok
    | some text => exact catchable_bind catchable_requireLocationId fun _ => catchable_pure
  · exact catchable_validateOptional fun _ => catchable_require
  · exact catchable_validateOptional fun _ => catchable_require

lemma catchable_buildLeg (leg : EconomicLegFields) : Catchable (economicLeg.build leg) :=
  catchable_build (catchable_postInit_leg leg)

lemma catchable_symbolLeg {legId value : String} {kind : LegKind} {quantity : Decimal}
    {venue subtype attributedToLegId : Option String} :
    Catchable (symbolLeg legId kind quantity value venue subtype attributedToLegId) := by
  refine catchable_bind catchable_raised fun claim => catchable_build ?_
  refine catchable_bind (catchable_bind catchable_require fun _ => ?_) fun _ => catchable_pure
  exact catchable_bind (catchable_buildLeg _) fun _ => catchable_pure

/-! ## Facts -/

lemma catchable_validateFact {legs : List Transactions.EconomicLeg} {policy : FactLegPolicy} :
    Catchable (validateFact legs policy) := by
  have hsigned : ∀ limit positive count, Catchable (validateFactSignedCount limit positive count) :=
    fun limit positive count => catchable_bind (catchable_validateOptional fun _ => catchable_require)
      fun _ => catchable_validateOptional fun _ => catchable_require
  refine catchable_bind catchable_require fun _ => catchable_bind ?_ fun counts =>
    catchable_bind ?_ fun _ => ?_
  · refine catchable_foldlM (fun counts leg _ => ?_) _
    exact catchable_bind catchable_require fun _ => catchable_bind catchable_require fun _ =>
      catchable_pure
  · refine catchable_checkAll fun limit _ => catchable_bind ?_ fun _ =>
      catchable_bind (hsigned _ _ _) fun _ => hsigned _ _ _
    exact catchable_bind catchable_require fun _ => catchable_require
  · exact catchable_checkAll fun leg _ => catchable_validateOptional fun _ => catchable_require

lemma catchable_temporal {value : Instant} {precision : TemporalPrecision} {label : String} :
    Catchable (requireTemporalDatetime value precision label) := by
  unfold requireTemporalDatetime
  split_ifs
  · exact catchable_ok
  · exact catchable_value

lemma catchable_buildFact (fact : TransactionFactFields) : Catchable (transactionFact.build fact) := by
  refine catchable_build (catchable_bind catchable_requireLocationId fun _ => catchable_bind ?_ fun _ =>
    catchable_bind catchable_validateFact fun _ => catchable_pure)
  cases fact.effectiveAt with
  | none =>
      cases fact.effectivePrecision with
      | none => exact catchable_ok
      | some precision => exact catchable_value
  | some value =>
      cases fact.effectivePrecision with
      | none => exact catchable_value
      | some precision => exact catchable_bind catchable_temporal fun _ => catchable_pure

/-! ## Drafts -/

theorem catchable_buildDraft (fields : EconomicActivityDraftFields) :
    Catchable (economicActivityDraft.build fields) := by
  refine catchable_build (catchable_bind catchable_requireLocationId fun _ => catchable_bind ?_ fun _ =>
    catchable_bind catchable_require fun _ => catchable_bind ?_ fun _ => catchable_pure)
  · cases fields.effectiveAt with
    | none =>
        cases fields.effectivePrecision with
        | none => exact catchable_ok
        | some precision => exact catchable_value
    | some value =>
        cases fields.effectivePrecision with
        | none => exact catchable_value
        | some precision => exact catchable_bind catchable_temporal fun _ => catchable_pure
  · exact catchable_bind (catchable_mapM fun leg _ => catchable_buildLeg _) fun _ =>
      catchable_buildFact _

end Normalization
end Tallylot
