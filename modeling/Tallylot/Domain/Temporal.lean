import Tallylot.Data.Instant

/-!
# Temporal — instants with a stated precision

A temporal value is either a timestamp or a date.  A date is an instant at midnight UTC, which the
constructors of the domain records check; here the check is a field of `TemporalValue`.
-/

namespace Tallylot
namespace Domain

open Data

inductive TemporalPrecision
  | timestamp
  | date
  deriving DecidableEq, Repr

namespace TemporalPrecision

def text : TemporalPrecision → String
  | timestamp => "timestamp"
  | date => "date"

lemma text_injective : Function.Injective text := by
  intro a b h
  cases a <;> cases b <;> first | rfl | exact absurd h (by decide)

end TemporalPrecision

/-- An instant and its precision; dates are midnights. -/
@[ext]
structure TemporalValue where
  instant : Instant
  precision : TemporalPrecision
  midnight : precision = .date → instant.isMidnight = true
  deriving DecidableEq, Repr

namespace TemporalValue

/-- A timestamp. -/
def ofInstant (t : Instant) : TemporalValue := ⟨t, .timestamp, fun h => absurd h (by decide)⟩

/-- `format_temporal_value` -/
def text (v : TemporalValue) : String :=
  match v.precision with
  | .timestamp => v.instant.timestampText
  | .date => v.instant.dateText

end TemporalValue

end Domain
end Tallylot
