import Tallylot.Translation.Overlap

/-!
# Selection — freshness and the selection rules of one group

The candidates of an exclusive group have one winner.  The candidates of a range group are split
into overlap components, and each component has one winner: any of its identical candidates, or the
freshest one if it covers all others.  A component without such a winner is blocked.

`none` stands for the errors of indexing an empty tuple, of a traversal that does not end and of a
freshness value that is too large; only the last one happens for a group with a candidate.
-/

namespace Tallylot
namespace Translation

open Data Domain

variable {F : Type} [LinearOrder F] (env : PlannerEnvironment F)

/-! ## Freshness -/

def freshnessPrecedence : TranslationFreshnessKind → Int
  | .exportTimestamp => 3
  | .captureCompletedAt => 2
  | .adapterRank => 1
  | .unknown => 0

omit [LinearOrder F] in
/-- `timestamp.astimezone(UTC).timestamp()` -/
def timestampNumber (t : Timestamp) : WithBot F :=
  if t.isNaive then env.localTimestampValue t.instant else env.timestampValue t.instant

omit [LinearOrder F] in
def freshnessSortNumericValue (freshness : TranslationFreshness) : WithBot F :=
  match freshness.kind with
  | .exportTimestamp | .captureCompletedAt =>
      (freshness.timestamp.map (timestampNumber env)).getD env.negInf
  | .adapterRank => (freshness.rank.map env.rankValue).getD env.negInf
  | .unknown => env.negInf

omit [LinearOrder F] in
/-- The freshness of the candidate has a value. -/
def HasFreshness (candidate : TranslationInputCandidate) : Prop :=
  freshnessSortNumericValue env candidate.freshness ≠ ⊥

instance (candidate : TranslationInputCandidate) : Decidable (HasFreshness env candidate) :=
  inferInstanceAs (Decidable (_ ≠ _))

omit [LinearOrder F] in
def freshnessSortKey (freshness : TranslationFreshness) : Int ×ₗ WithBot F :=
  toLex (freshnessPrecedence freshness.kind, freshnessSortNumericValue env freshness)

def allIdenticalCandidates : List TranslationInputCandidate → Option Bool
  | [] => none
  | first :: rest =>
      some
        (rest.all (fun c =>
          c.coverage.same first.coverage && c.contentFingerprint = first.contentFingerprint))

def freshestCandidates :
    List TranslationInputCandidate → Option (List TranslationInputCandidate)
  | [] => some []
  | first :: rest =>
      let highestKey :=
        rest.foldl (fun key c => max key (freshnessSortKey env c.freshness))
          (freshnessSortKey env first.freshness)
      if ∀ c ∈ first :: rest, HasFreshness env c then
        some ((first :: rest).filter (fun c => freshnessSortKey env c.freshness = highestKey))
      else none

omit [LinearOrder F] in
def duplicateWinnerKey (candidate : TranslationInputCandidate) : Int ×ₗ WithBot F ×ₗ String :=
  toLex
    (-freshnessPrecedence candidate.freshness.kind,
      toLex
        ((freshnessSortNumericValue env candidate.freshness).map env.neg, candidate.candidateId))

def deterministicDuplicateWinner (candidates : List TranslationInputCandidate) :
    Option TranslationInputCandidate :=
  if ∀ c ∈ candidates, HasFreshness env c then
    (sortedOn (duplicateWinnerKey env) candidates).head?
  else none

omit [LinearOrder F] in
/-- `freshest or candidates` -/
def orAll (freshest candidates : List TranslationInputCandidate) : List TranslationInputCandidate :=
  if freshest = [] then candidates else freshest

lemma mem_of_freshestCandidates {candidates freshest : List TranslationInputCandidate}
    (h : freshestCandidates env candidates = some freshest) : ∀ c ∈ freshest, c ∈ candidates := by
  intro c hc
  cases candidates with
  | nil =>
      rw [← Option.some.inj h] at hc
      cases hc
  | cons first rest =>
      unfold freshestCandidates at h
      dsimp only at h
      split_ifs at h
      rw [← Option.some.inj h] at hc
      exact (List.mem_filter.1 hc).1

omit [LinearOrder F] in
lemma mem_of_orAll {freshest candidates : List TranslationInputCandidate}
    (h : ∀ c ∈ freshest, c ∈ candidates) : ∀ c ∈ orAll freshest candidates, c ∈ candidates := by
  unfold orAll
  split_ifs
  · exact fun _ hc => hc
  · exact h

/-- A winner is one of the candidates. -/
lemma mem_of_winner {candidates freshest : List TranslationInputCandidate}
    {winner : TranslationInputCandidate} (hfreshest : freshestCandidates env candidates = some freshest)
    (hwinner : deterministicDuplicateWinner env (orAll freshest candidates) = some winner) :
    winner ∈ candidates := by
  unfold deterministicDuplicateWinner at hwinner
  split_ifs at hwinner
  exact mem_of_orAll (mem_of_freshestCandidates env hfreshest) winner
    (mem_sortedOn.1 (List.mem_of_head? hwinner))

/-- Where every candidate has a freshness, there are freshest ones and a winner among them. -/
lemma exists_winner {candidates : List TranslationInputCandidate} (hne : candidates ≠ [])
    (hfresh : ∀ c ∈ candidates, HasFreshness env c) :
    ∃ freshest, freshestCandidates env candidates = some freshest ∧
      ∃ winner, deterministicDuplicateWinner env (orAll freshest candidates) = some winner := by
  have hfreshest : ∃ freshest, freshestCandidates env candidates = some freshest := by
    cases candidates with
    | nil => exact absurd rfl hne
    | cons first rest => exact ⟨_, if_pos hfresh⟩
  rcases hfreshest with ⟨freshest, hrun⟩
  have hall : orAll freshest candidates ≠ [] := by
    unfold orAll
    split_ifs with hnone
    · exact hne
    · exact hnone
  rcases head?_sortedOn (duplicateWinnerKey env) hall with ⟨winner, _, hwinner⟩
  refine ⟨freshest, hrun, winner, ?_⟩
  have hsub := mem_of_orAll (mem_of_freshestCandidates env hrun)
  rw [deterministicDuplicateWinner, if_pos (fun c hc => hfresh c (hsub c hc)), hwinner]

/-! ## Decisions and issues of a group -/

structure PlannedGroup where
  decisions : List TranslationPlanDecision
  issues : List IssueRecord
  deriving DecidableEq

/-- `sorted` ids of the other candidates. -/
def otherCandidateIds (candidates : List TranslationInputCandidate) (candidateId : String) :
    List String :=
  sortedOn id
    ((candidates.filter (fun other => other.candidateId ≠ candidateId)).map
      TranslationInputCandidate.candidateId)

def issueForCandidate (profile : SourceProfile) (candidate : TranslationInputCandidate)
    (status : TranslationPlanDecisionStatus) (reason : String)
    (conflictsWithCandidateIds : List String) : IssueRecord where
  issueId := profile.adapterId ++ ":" ++ candidate.candidateId ++ ":" ++ status.text
  source := profile.source
  adapterId := profile.adapterId
  severity := "high"
  kind := status.text
  message :=
    reason ++
      (if conflictsWithCandidateIds = [] then ""
        else " Conflicts: " ++ String.intercalate ", " conflictsWithCandidateIds ++ ".")
  rawFile := candidate.memberRelativePaths.headD ""
  status := "needs_review"

def blockedGroup (profile : SourceProfile) (candidates : List TranslationInputCandidate)
    (status : TranslationPlanDecisionStatus) (reason : String) : PlannedGroup where
  decisions :=
    candidates.map (fun candidate =>
      { candidateId := candidate.candidateId
        status := status
        reason := reason
        conflictsWithCandidateIds := otherCandidateIds candidates candidate.candidateId })
  issues :=
    candidates.map (fun candidate =>
      issueForCandidate profile candidate status reason
        (otherCandidateIds candidates candidate.candidateId))

def supersededStatus (candidate winner : TranslationInputCandidate) :
    TranslationPlanDecisionStatus :=
  if candidate.coverage.same winner.coverage &&
      candidate.contentFingerprint = winner.contentFingerprint then
    .supersededIdentical
  else .supersededReplaced

def buildSupersessionPlan (candidates : List TranslationInputCandidate)
    (winner : TranslationInputCandidate) : PlannedGroup where
  decisions :=
    { candidateId := winner.candidateId
      status := .selected
      reason := "winner selected for deterministic translation input planning"
      replacesCandidateIds := otherCandidateIds candidates winner.candidateId } ::
      (candidates.filter (fun c => c.candidateId ≠ winner.candidateId)).map (fun candidate =>
        { candidateId := candidate.candidateId
          status := supersededStatus candidate winner
          reason := "superseded by the selected translation input candidate"
          conflictsWithCandidateIds := [winner.candidateId] })
  issues := []

def selectedAlone (candidate : TranslationInputCandidate) (reason : String) : PlannedGroup where
  decisions := [{ candidateId := candidate.candidateId, status := .selected, reason := reason }]
  issues := []

/-! ## Selection rules -/

def planExclusiveGroup (profile : SourceProfile) :
    List TranslationInputCandidate → Option PlannedGroup
  | [candidate] =>
      some (selectedAlone candidate "exclusive snapshot group contains one candidate")
  | candidates => do
      let freshest ← freshestCandidates env candidates
      let identical ← allIdenticalCandidates candidates
      if freshest.length ≠ 1 ∧ identical = false then
        some
          (blockedGroup profile candidates .blockedAmbiguousFreshness
            "exclusive snapshot candidates do not have a unique freshest winner")
      else
        let winner ← deterministicDuplicateWinner env (orAll freshest candidates)
        some (buildSupersessionPlan candidates winner)

def incomparabilityReason (candidates : List TranslationInputCandidate) : Option String :=
  if candidates.any (fun c => !c.comparable) then
    some "overlapping candidates are marked incomparable by the adapter"
  else if ((candidates.map TranslationInputCandidate.comparisonKey).dedup).length ≠ 1 then
    some "overlapping candidates do not share a comparison key"
  else none

def winnerContainsAllCandidates (winner : TranslationInputCandidate)
    (candidates : List TranslationInputCandidate) : Bool :=
  match coverageBounds winner.coverage with
  | none => false
  | some (winnerStart, winnerEnd) =>
      candidates.all (fun candidate =>
        match coverageBounds candidate.coverage with
        | none => false
        | some (candidateStart, candidateEnd) =>
            !(candidateStart < winnerStart || winnerEnd < candidateEnd))

def planAppendableComponent (profile : SourceProfile)
    (candidates : List TranslationInputCandidate) : Option PlannedGroup := do
  let identical ← allIdenticalCandidates candidates
  if identical = false then
    some
      (blockedGroup profile candidates .blockedPartialOverlap
        ("appendable range candidates overlap and cannot be merged without " ++
          "an exact identical replacement"))
  else
    let freshest ← freshestCandidates env candidates
    let winner ← deterministicDuplicateWinner env (orAll freshest candidates)
    some (buildSupersessionPlan candidates winner)

def planReplaceableComponent (profile : SourceProfile)
    (candidates : List TranslationInputCandidate) : Option PlannedGroup := do
  let freshest ← freshestCandidates env candidates
  let identical ← allIdenticalCandidates candidates
  if freshest.length ≠ 1 ∧ identical = false then
    some
      (blockedGroup profile candidates .blockedAmbiguousFreshness
        "replaceable range candidates do not have a unique freshest winner")
  else
    let winner ← deterministicDuplicateWinner env (orAll freshest candidates)
    if winnerContainsAllCandidates winner candidates then
      some (buildSupersessionPlan candidates winner)
    else
      some
        (blockedGroup profile candidates .blockedPartialOverlap
          ("replaceable range candidates overlap, but the freshest winner does " ++
            "not fully supersede the overlapping set"))

def planOverlapComponent (profile : SourceProfile) (selectionMode : TranslationSelectionMode) :
    List TranslationInputCandidate → Option PlannedGroup
  | [candidate] =>
      some (selectedAlone candidate "candidate is disjoint within its selection group")
  | candidates =>
      match incomparabilityReason candidates with
      | some reason =>
          some (blockedGroup profile candidates .blockedIncomparableCandidates reason)
      | none =>
          if selectionMode = .appendableRange then planAppendableComponent env profile candidates
          else planReplaceableComponent env profile candidates

def planGroup (profile : SourceProfile) (candidates : List TranslationInputCandidate)
    (selectionMode : TranslationSelectionMode) : Option PlannedGroup :=
  if selectionMode = .exclusiveSnapshot then planExclusiveGroup env profile candidates
  else do
    let parts ← overlapComponents candidates
    let planned ← parts.mapM (planOverlapComponent env profile selectionMode)
    some ⟨planned.flatMap PlannedGroup.decisions, planned.flatMap PlannedGroup.issues⟩

end Translation
end Tallylot
