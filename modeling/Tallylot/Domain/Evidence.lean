import Mathlib.Tactic.Common

/-!
# Evidence — the observations of an evidence set
-/

namespace Tallylot
namespace Domain

structure EvidenceObservationRecord where
  observationId : String
  deriving DecidableEq, Repr

structure EvidenceSet where
  evidenceObservationRecords : List EvidenceObservationRecord
  deriving DecidableEq, Repr

end Domain
end Tallylot
