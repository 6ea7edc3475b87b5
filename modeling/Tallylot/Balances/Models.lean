import Tallylot.Data.Decimal
import Tallylot.Domain.Temporal
import Mathlib.Data.Prod.Lex
import Mathlib.Data.String.Basic

/-!
# Models — balance targets, snapshots, references and assertions

The constructors of the balance records check their fields; a check that later code relies on is a
field of the structure here.  Location ids and balance kinds are the texts that the constructors
normalise to.
-/

namespace Tallylot
namespace Balances

open Data Domain

/-! ## Targets -/

@[ext]
structure BalanceTarget where
  source : String
  locationId : String
  instrumentId : String
  balanceKind : String
  target : TemporalValue
  instrument_nonblank : instrumentId ≠ ""
  deriving DecidableEq, Repr

namespace BalanceTarget

def targetAt (t : BalanceTarget) : Instant := t.target.instant

def targetPrecision (t : BalanceTarget) : TemporalPrecision := t.target.precision

end BalanceTarget

/-- Source, location, instrument, balance kind and instant, in the order in which they compare. -/
abbrev BalanceTargetMatchKey : Type :=
  String ×ₗ String ×ₗ String ×ₗ String ×ₗ Instant

/-- The exact-instant identity for balance matching.  The precision is not part of it. -/
def balanceTargetMatchKey (t : BalanceTarget) : BalanceTargetMatchKey :=
  toLex (t.source, toLex (t.locationId, toLex (t.instrumentId, toLex (t.balanceKind, t.targetAt))))

/-! ## Snapshots and references -/

structure BalanceSnapshot where
  target : BalanceTarget
  quantity : Decimal
  snapshotBasis : String
  notes : String := ""
  deriving DecidableEq, Repr

inductive BalanceReferenceKind
  | sourceDocument
  | networkApi
  | operatorAssertion
  deriving DecidableEq, Repr

namespace BalanceReferenceKind

def value : BalanceReferenceKind → String
  | sourceDocument => "source_document"
  | networkApi => "network_api"
  | operatorAssertion => "operator_assertion"

/-- The value with spaces, as messages show it. -/
def label : BalanceReferenceKind → String
  | sourceDocument => "source document"
  | networkApi => "network api"
  | operatorAssertion => "operator assertion"

lemma value_injective : Function.Injective value := by
  intro a b h
  cases a <;> cases b <;> first | rfl | exact absurd h (by decide)

end BalanceReferenceKind

structure BalanceReference where
  target : BalanceTarget
  quantity : Decimal
  referenceKind : BalanceReferenceKind
  observed : TemporalValue
  supportRef : String
  providerFamily : String
  providerLocator : String
  providerBlockRef : String
  reviewedBy : String
  reviewedAt : Option Instant
  notes : String
  reviewed : referenceKind = .operatorAssertion → reviewedBy ≠ "" ∧ reviewedAt.isSome = true
  reviewer : reviewedAt.isSome = true → reviewedBy ≠ ""
  provider : referenceKind = .networkApi → providerFamily ≠ ""
  noProvider : referenceKind ≠ .networkApi →
    providerFamily = "" ∧ providerLocator = "" ∧ providerBlockRef = ""
  deriving DecidableEq, Repr

/-! ## Assertions -/

inductive BalanceAssertionStatus
  | matched
  | drift
  | missingSnapshot
  | missingReference
  | referenceConflict
  deriving DecidableEq, Repr

namespace BalanceAssertionStatus

def value : BalanceAssertionStatus → String
  | matched => "matched"
  | drift => "drift"
  | missingSnapshot => "missing_snapshot"
  | missingReference => "missing_reference"
  | referenceConflict => "reference_conflict"

/-- The value with spaces, as messages show it. -/
def label : BalanceAssertionStatus → String
  | matched => "matched"
  | drift => "drift"
  | missingSnapshot => "missing snapshot"
  | missingReference => "missing reference"
  | referenceConflict => "reference conflict"

end BalanceAssertionStatus

structure BalanceAssertion where
  target : BalanceTarget
  snapshotQuantity : Option Decimal
  referenceQuantity : Option Decimal
  difference : Decimal
  status : BalanceAssertionStatus
  selectedReferenceKind : Option BalanceReferenceKind
  snapshotBasis : String
  observed : Option TemporalValue
  observationGap : String
  supportRef : String
  providerFamily : String
  providerBlockRef : String
  notes : String
  deriving DecidableEq, Repr

end Balances
end Tallylot
