import Tallylot.Data.Text
import Tallylot.Translation.Selection

/-!
# Planner — validation of the candidates and the translation plan

`planTranslationInputs` validates the candidates, decides group by group and collects the decisions
by candidate id.  A group with an invalid candidate, with a candidate of unknown coverage among
others, with candidates that share some but not all members, or with mixed selection modes is
blocked as a whole.  A naive timestamp makes its candidate invalid; where it is compared with an aware
one the planner raises a `TypeError`, for which `none` stands.
-/

namespace Tallylot
namespace Translation

open Data Domain

variable {F : Type}

/-! ## Validation -/

structure CandidateContext where
  candidate : TranslationInputCandidate
  memberEntries : List FileInventoryEntry
  validationErrors : List String

def CandidateContext.valid (context : CandidateContext) : Bool := context.validationErrors.isEmpty

/-- One error text, when the condition holds. -/
def errorIf (condition : Bool) (text : String) : List String := if condition then [text] else []

/-- `require_utc_datetime` as the validation uses it. -/
def validateUtcDatetime (value : Option Timestamp) (label : String) : List String :=
  errorIf (value.any (fun t => t.utcoffset ≠ some 0)) (label ++ " must be timezone-aware UTC")

def validateKnownCoverageMode (coverage : TranslationCoverageWindow) : List String :=
  match coverage.mode with
  | .bounded =>
      errorIf (coverage.startAt.isNone || coverage.endAt.isNone)
          "bounded coverage requires start_at and end_at" ++
        errorIf (coverage.startPrecision.isNone || coverage.endPrecision.isNone)
          "bounded coverage requires start_precision and end_precision"
  | .unboundedStart =>
      errorIf (coverage.startAt.isSome || coverage.startPrecision.isSome)
          "unbounded_start coverage cannot carry a start bound" ++
        errorIf (coverage.endAt.isNone || coverage.endPrecision.isNone)
          "unbounded_start coverage requires an end bound"
  | .unboundedEnd =>
      errorIf (coverage.endAt.isSome || coverage.endPrecision.isSome)
          "unbounded_end coverage cannot carry an end bound" ++
        errorIf (coverage.startAt.isNone || coverage.startPrecision.isNone)
          "unbounded_end coverage requires a start bound"
  | .unknown => []

/-- `start_at > end_at` of two bounds that are both there. -/
def startsAfterEnd (coverage : TranslationCoverageWindow) : Option Bool :=
  match coverage.startAt, coverage.endAt with
  | some startAt, some endAt => startAt.after endAt
  | _, _ => some false

def validateCoverage (coverage : TranslationCoverageWindow) : Option (List String) :=
  if coverage.mode = .unknown then
    some
      (errorIf
        (coverage.startAt.isSome || coverage.startPrecision.isSome || coverage.endAt.isSome ||
          coverage.endPrecision.isSome)
        "unknown coverage cannot carry bounds or precisions")
  else do
    let isAfter ← startsAfterEnd coverage
    some
      (validateKnownCoverageMode coverage ++
        validateUtcDatetime coverage.startAt "coverage start_at" ++
        validateUtcDatetime coverage.endAt "coverage end_at" ++
        errorIf isAfter "coverage start_at must not be after end_at")

def validateFreshness (freshness : TranslationFreshness)
    (captureMetadata : Option CaptureMetadata) : List String :=
  match freshness.kind with
  | .unknown =>
      errorIf (freshness.timestamp.isSome || freshness.rank.isSome)
        "unknown freshness cannot carry timestamp or rank"
  | .adapterRank =>
      errorIf freshness.rank.isNone "adapter_rank freshness requires rank" ++
        errorIf freshness.timestamp.isSome "adapter_rank freshness cannot carry timestamp"
  | kind =>
      errorIf freshness.timestamp.isNone (kind.value ++ " freshness requires timestamp") ++
        errorIf freshness.rank.isSome (kind.value ++ " freshness cannot carry rank") ++
        validateUtcDatetime freshness.timestamp (kind.value ++ " freshness timestamp") ++
        errorIf
          (kind = .captureCompletedAt &&
            (match captureMetadata, freshness.timestamp with
              | some metadata, some t => decide (t.clock ≠ metadata.intakeCompletedAt.clock)
              | _, _ => false))
          "capture_completed_at freshness must match the capture metadata completion time"

def duplicatedCandidateIds (candidates : List TranslationInputCandidate) : List String :=
  ((candidates.map TranslationInputCandidate.candidateId).dedup).filter (fun i =>
    1 < (candidates.map TranslationInputCandidate.candidateId).count i)

section

variable (env : PlannerEnvironment F)

def validateCandidate (candidate : TranslationInputCandidate)
    (inventoryByPath : Dict String FileInventoryEntry) (captureMetadata : Option CaptureMetadata)
    (duplicateCandidateIds : List String) : Option CandidateContext := do
  let memberEntries := candidate.memberRelativePaths.filterMap inventoryByPath.get?
  let expectedFingerprint :=
    translationInputContentFingerprint env
      (sortedOn id (memberEntries.map FileInventoryEntry.sha256))
      candidate.familyId candidate.selectionGroup candidate.selectionMode
  let coverageErrors ← validateCoverage candidate.coverage
  some {
    candidate := candidate
    memberEntries := memberEntries
    validationErrors :=
      errorIf (candidate.candidateId ∈ duplicateCandidateIds)
          ("candidate id " ++ env.repr candidate.candidateId ++ " is duplicated") ++
        errorIf (isBlank candidate.selectionGroup) "selection_group must be a non-empty string" ++
        errorIf (isBlank candidate.familyId) "family_id must be a non-empty string" ++
        errorIf (isBlank candidate.comparisonKey) "comparison_key must be a non-empty string" ++
        errorIf (isBlank candidate.description) "description must be a non-empty string" ++
        errorIf candidate.memberRelativePaths.isEmpty
          "candidate must include at least one member path" ++
        errorIf
          (candidate.memberRelativePaths.dedup.length ≠ candidate.memberRelativePaths.length)
          "candidate member paths must be unique" ++
        (candidate.memberRelativePaths.filter (fun path =>
            (inventoryByPath.get? path).isNone)).map (fun path =>
          "member path " ++ env.repr path ++ " was not found in profile inventory") ++
        (if isBlank candidate.contentFingerprint then ["content_fingerprint must be non-empty"]
          else
            errorIf
              (!memberEntries.isEmpty && candidate.contentFingerprint ≠ expectedFingerprint)
              "content_fingerprint does not match candidate member inventory") ++
        coverageErrors ++
        validateFreshness candidate.freshness captureMetadata }

def validateCandidates (candidates : List TranslationInputCandidate)
    (inventoryByPath : Dict String FileInventoryEntry) (captureMetadata : Option CaptureMetadata) :
    Option (Dict String CandidateContext) := do
  let contexts ← candidates.mapM (fun candidate =>
    validateCandidate env candidate inventoryByPath captureMetadata
      (duplicatedCandidateIds candidates))
  some (Dict.ofList (contexts.map (fun context => (context.candidate.candidateId, context))))

end

/-! ## Groups -/

def groupContexts (contexts : Dict String CandidateContext) :
    Dict String (List CandidateContext) :=
  Dict.ofList
    ((Dict.group (fun context : CandidateContext => context.candidate.selectionGroup)
        contexts.values).entries.map (fun g =>
      (g.1, sortedOn (fun context : CandidateContext => context.candidate.candidateId) g.2)))

structure GroupFailure where
  status : TranslationPlanDecisionStatus
  reason : String

def hasInvalidMemberOverlap (contexts : List CandidateContext) : Bool :=
  (combinations contexts).any (fun p =>
    let leftMembers := p.1.candidate.memberRelativePaths
    let rightMembers := p.2.candidate.memberRelativePaths
    leftMembers.any (fun path => path ∈ rightMembers) &&
      sortedOn id leftMembers ≠ sortedOn id rightMembers)

/-- The entry of one group in `group_failures`. -/
def groupFailure (contexts : List CandidateContext) : Option GroupFailure :=
  if contexts.any (fun context => !context.valid) then
    some
      { status := .blockedInvalidCandidate
        reason := "candidate validation errors prevent deterministic planning" }
  else if 1 < contexts.length &&
      contexts.any (fun context => context.candidate.coverage.mode = .unknown) then
    some
      { status := .blockedUnknownCoverage
        reason :=
          "translation input planning cannot compare multiple candidates " ++
            "when any candidate has unknown event-time coverage" }
  else if hasInvalidMemberOverlap contexts then
    some
      { status := .blockedInvalidCandidate
        reason :=
          "candidate members overlap inside one selection group without " ++
            "an exact alternative candidate definition" }
  else none

def groupPolicy (candidates : List TranslationInputCandidate) :
    Option TranslationSelectionMode :=
  let modes := (candidates.map TranslationInputCandidate.selectionMode).dedup
  if .exclusiveSnapshot ∈ modes then some .exclusiveSnapshot
  else if modes.length = 1 then modes.head?
  else none

/-! ## Decisions group by group -/

def invalidGroupIssues (profile : SourceProfile) (contexts : List CandidateContext)
    (status : TranslationPlanDecisionStatus) (reason : String) : List IssueRecord :=
  let candidateIds := sortedOn id (contexts.map (fun context => context.candidate.candidateId))
  contexts.map (fun context =>
    issueForCandidate profile context.candidate status reason
      (candidateIds.filter (fun i => i ≠ context.candidate.candidateId)))

/-- The decisions of a group that is blocked before its candidates are compared. -/
def invalidGroup (profile : SourceProfile) (contexts : List CandidateContext)
    (status : TranslationPlanDecisionStatus) (reason : String)
    (decisionReason : CandidateContext → String) : PlannedGroup where
  decisions :=
    contexts.map (fun context =>
      { candidateId := context.candidate.candidateId
        status := status
        reason := decisionReason context
        conflictsWithCandidateIds :=
          otherCandidateIds (contexts.map CandidateContext.candidate)
            context.candidate.candidateId })
  issues := invalidGroupIssues profile contexts status reason

def mixedPolicyReason : String :=
  "translation input candidates in the same selection group must share " ++
    "appendable_range or replaceable_range semantics, unless the group " ++
      "contains exclusive_snapshot candidates"

/-- `start_at or MIN_COVERAGE_BOUND` -/
def startClock (candidate : TranslationInputCandidate) : Bool ×ₗ Instant :=
  (candidate.coverage.startAt.getD { instant := minCoverageBound }).clock

/-- `end_at or MAX_COVERAGE_BOUND` -/
def endClock (candidate : TranslationInputCandidate) : Bool ×ₗ Instant :=
  (candidate.coverage.endAt.getD { instant := maxCoverageBound }).clock

/-- The keys of the two candidates can be compared: the first bounds that differ are of one kind. -/
def SortComparable (left right : TranslationInputCandidate) : Prop :=
  (ofLex (startClock left)).1 = (ofLex (startClock right)).1 ∧
    (startClock left = startClock right →
      (ofLex (endClock left)).1 = (ofLex (endClock right)).1)

instance (left right : TranslationInputCandidate) : Decidable (SortComparable left right) :=
  inferInstanceAs (Decidable (_ ∧ _))

section

variable [LinearOrder F] (env : PlannerEnvironment F)

/-- The body of the loop over the groups. -/
def decideGroup (profile : SourceProfile) (contexts : List CandidateContext) :
    Option PlannedGroup :=
  match groupFailure contexts with
  | some failure =>
      some
        (invalidGroup profile contexts failure.status failure.reason (fun context =>
          if context.validationErrors.isEmpty then failure.reason
          else String.intercalate "; " context.validationErrors))
  | none =>
      match groupPolicy (contexts.map CandidateContext.candidate) with
      | none =>
          some
            (invalidGroup profile contexts .blockedInvalidCandidate mixedPolicyReason
              (fun _ => mixedPolicyReason))
      | some policy => planGroup env profile (contexts.map CandidateContext.candidate) policy

omit [LinearOrder F] in
def selectedCandidateSortKey (candidate : TranslationInputCandidate) :
    (Bool ×ₗ Instant) ×ₗ (Bool ×ₗ Instant) ×ₗ Int ×ₗ WithBot F ×ₗ String :=
  toLex
    (startClock candidate,
      toLex
        (endClock candidate,
          toLex
            (-freshnessPrecedence candidate.freshness.kind,
              toLex
                ((freshnessSortNumericValue env candidate.freshness).map env.neg,
                  candidate.candidateId))))

/-- `none` stands for a decision without a context, for a key that is too large to compute and for two
keys that cannot be compared; a sort that ends has compared what stands side by side in the end. -/
def buildTranslationPlan (contexts : Dict String CandidateContext)
    (decisions : Dict String TranslationPlanDecision) : Option TranslationInputPlan := do
  let items ← decisions.entries.mapM (fun item =>
    (contexts.get? item.1).map (fun context => (context.candidate, item)))
  if (∀ i ∈ items, HasFreshness env i.1) ∧
      ∀ left ∈ items, ∀ right ∈ items, SortComparable left.1 right.1 then
    some {
      selectedCandidateIds :=
        ((sortedOn (fun i => selectedCandidateSortKey env i.1) items).filter (fun i =>
          i.2.2.status = .selected)).map (fun i => i.2.1)
      decisions := (sortedOn Prod.fst decisions.entries).map Prod.snd
      blocked := decisions.values.any (fun d => d.status.isBlocked) }
  else none

structure TranslationInputPlanningResult where
  candidates : List TranslationInputCandidate
  plan : TranslationInputPlan
  issues : List IssueRecord

def invalidCandidateIssue (profile : SourceProfile) (context : CandidateContext) : IssueRecord where
  issueId :=
    profile.adapterId ++ ":" ++ context.candidate.candidateId ++ ":" ++ "blocked_invalid_candidate"
  source := profile.source
  adapterId := profile.adapterId
  severity := "high"
  kind := "blocked_invalid_candidate"
  message := String.intercalate "; " context.validationErrors
  rawFile := context.candidate.memberRelativePaths.headD ""
  status := "needs_review"

def planTranslationInputs (profile : SourceProfile) (candidates : List TranslationInputCandidate)
    (captureMetadata : Option CaptureMetadata) : Option TranslationInputPlanningResult := do
  let orderedCandidates := sortedOn TranslationInputCandidate.candidateId candidates
  let contexts ← validateCandidates env orderedCandidates
    (Dict.ofList (profile.fileInventory.map (fun entry => (entry.relativePath, entry))))
    captureMetadata
  let planned ← (groupContexts contexts).values.mapM (decideGroup env profile)
  let plan ← buildTranslationPlan env contexts
    (Dict.ofList
      ((planned.flatMap PlannedGroup.decisions).map (fun d => (d.candidateId, d))))
  some
    { candidates := orderedCandidates
      plan := plan
      issues :=
        (contexts.values.filter (fun context => !context.valid)).map
            (invalidCandidateIssue profile) ++
          planned.flatMap PlannedGroup.issues }

end

end Translation
end Tallylot
