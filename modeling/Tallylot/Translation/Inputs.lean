import Tallylot.Data.Dict
import Tallylot.Data.Json
import Tallylot.Domain.Issues
import Tallylot.Domain.Temporal
import Mathlib.Data.Prod.Lex
import Mathlib.Order.WithBot

/-!
# Inputs — candidates, decisions and plans of the translation-input planner

An adapter describes what it could translate as candidates.  The planner gives each of them a
decision.

The hash, the quoting of a path in an error text and the floating-point arithmetic of the freshness
values are the environment of the planner.  Timestamps of one kind, naive or aware, compare by their
instant; those of different kinds are not equal, and to compare them by order is an error.
-/

namespace Tallylot
namespace Translation

open Data Domain

/-! ## Candidates -/

/-- A `datetime`: an aware one by its instant, a naive one by what its clock shows. -/
structure Timestamp where
  instant : Instant
  /-- In microseconds; none of a naive one. -/
  utcoffset : Option Int := some 0
  deriving DecidableEq, Repr

namespace Timestamp

def isNaive (t : Timestamp) : Bool := t.utcoffset.isNone

/-- What `==` looks at. -/
def clock (t : Timestamp) : Bool ×ₗ Instant := toLex (t.isNaive, t.instant)

/-- `left > right`; `none` stands for a `TypeError`. -/
def after (left right : Timestamp) : Option Bool :=
  if left.isNaive = right.isNaive then some (right.instant < left.instant) else none

end Timestamp

inductive TranslationCoverageMode
  | bounded
  | unboundedStart
  | unboundedEnd
  | unknown
  deriving DecidableEq, Repr

inductive TranslationSelectionMode
  | appendableRange
  | replaceableRange
  | exclusiveSnapshot
  deriving DecidableEq, Repr

def TranslationSelectionMode.value : TranslationSelectionMode → String
  | appendableRange => "appendable_range"
  | replaceableRange => "replaceable_range"
  | exclusiveSnapshot => "exclusive_snapshot"

inductive TranslationFreshnessKind
  | exportTimestamp
  | captureCompletedAt
  | adapterRank
  | unknown
  deriving DecidableEq, Repr

def TranslationFreshnessKind.value : TranslationFreshnessKind → String
  | exportTimestamp => "export_timestamp"
  | captureCompletedAt => "capture_completed_at"
  | adapterRank => "adapter_rank"
  | unknown => "unknown"

structure TranslationCoverageWindow where
  startAt : Option Timestamp
  startPrecision : Option TemporalPrecision
  endAt : Option Timestamp
  endPrecision : Option TemporalPrecision
  mode : TranslationCoverageMode
  deriving DecidableEq, Repr

structure TranslationFreshness where
  kind : TranslationFreshnessKind
  timestamp : Option Timestamp
  rank : Option Int
  deriving DecidableEq, Repr

structure TranslationInputCandidate where
  candidateId : String
  selectionGroup : String
  familyId : String
  memberRelativePaths : List String
  selectionMode : TranslationSelectionMode
  coverage : TranslationCoverageWindow
  freshness : TranslationFreshness
  contentFingerprint : String
  comparisonKey : String
  description : String
  comparable : Bool
  deriving DecidableEq, Repr

/-- `==` of two coverage windows. -/
def TranslationCoverageWindow.same (left right : TranslationCoverageWindow) : Bool :=
  left.startAt.map Timestamp.clock = right.startAt.map Timestamp.clock &&
    left.startPrecision = right.startPrecision &&
    left.endAt.map Timestamp.clock = right.endAt.map Timestamp.clock &&
    left.endPrecision = right.endPrecision &&
    left.mode = right.mode

/-! ## Decisions -/

inductive TranslationPlanDecisionStatus
  | selected
  | supersededIdentical
  | supersededReplaced
  | blockedPartialOverlap
  | blockedAmbiguousFreshness
  | blockedUnknownCoverage
  | blockedIncomparableCandidates
  | blockedInvalidCandidate
  deriving DecidableEq, Repr

namespace TranslationPlanDecisionStatus

def text : TranslationPlanDecisionStatus → String
  | selected => "selected"
  | supersededIdentical => "superseded_identical"
  | supersededReplaced => "superseded_replaced"
  | blockedPartialOverlap => "blocked_partial_overlap"
  | blockedAmbiguousFreshness => "blocked_ambiguous_freshness"
  | blockedUnknownCoverage => "blocked_unknown_coverage"
  | blockedIncomparableCandidates => "blocked_incomparable_candidates"
  | blockedInvalidCandidate => "blocked_invalid_candidate"

/-- `status.startswith("blocked")` -/
def isBlocked (status : TranslationPlanDecisionStatus) : Bool :=
  "blocked".toList.isPrefixOf status.text.toList

/-- The two superseded statuses. -/
def isSuperseded (status : TranslationPlanDecisionStatus) : Bool :=
  status = supersededIdentical || status = supersededReplaced

/-- Every status is exactly one of selected, superseded and blocked. -/
lemma cases_of_status (status : TranslationPlanDecisionStatus) :
    (status = selected ∧ status.isSuperseded = false ∧ status.isBlocked = false) ∨
      (status ≠ selected ∧ status.isSuperseded = true ∧ status.isBlocked = false) ∨
      (status ≠ selected ∧ status.isSuperseded = false ∧ status.isBlocked = true) := by
  cases status <;> decide

end TranslationPlanDecisionStatus

structure TranslationPlanDecision where
  candidateId : String
  status : TranslationPlanDecisionStatus
  reason : String
  replacesCandidateIds : List String := []
  conflictsWithCandidateIds : List String := []
  deriving DecidableEq, Repr

structure TranslationInputPlan where
  selectedCandidateIds : List String
  decisions : List TranslationPlanDecision
  blocked : Bool
  deriving DecidableEq, Repr

/-! ## What the planner reads -/

structure FileInventoryEntry where
  relativePath : String
  sha256 : String
  deriving DecidableEq, Repr

structure SourceProfile where
  source : String
  adapterId : String
  fileInventory : List FileInventoryEntry
  deriving DecidableEq, Repr

structure CaptureMetadata where
  intakeCompletedAt : Timestamp
  deriving DecidableEq, Repr

/-- The hash, the quoting of strings and the freshness values, which are floating-point numbers; `⊥`
stands for an `OverflowError`. -/
structure PlannerEnvironment (F : Type) where
  sha256 : String → String
  repr : String → String
  negInf : F
  /-- `timestamp()` of an aware timestamp -/
  timestampValue : Instant → F
  /-- `timestamp()` of a naive timestamp, which stands for the local time -/
  localTimestampValue : Instant → WithBot F
  /-- `float(rank)` -/
  rankValue : Int → WithBot F
  neg : F → F

/-- `translation_input_content_fingerprint` -/
def translationInputContentFingerprint {F : Type} (env : PlannerEnvironment F)
    (memberSha256s : List String) (familyId selectionGroup : String)
    (selectionMode : TranslationSelectionMode) : String :=
  env.sha256
    (Json.dumps
      (Json.obj
        [ ("family_id", Json.str familyId),
          ("member_sha256s", Json.strs (sortedOn id memberSha256s)),
          ("selection_group", Json.str selectionGroup),
          ("selection_mode", Json.str selectionMode.value) ]))

end Translation
end Tallylot
