import Tallylot.Balances.Assertions
import Tallylot.Balances.Targets
import Tallylot.Data.Text

/-!
# Check — the balance check of one source directory

The check plans targets and snapshots from the facts, the snapshot rows and the stored references,
resolves the targets, rewrites the reference file and compares.  A source is the files that the check
reads; the instants of a request are parsed values, with the message of a failed parse in their place.
-/

namespace Tallylot
namespace Balances

open Data Domain

/-! ## Inputs -/

inductive BalanceInputMode
  | factBacked
  | manualOnly
  | empty
  deriving DecidableEq, Repr

/-- What a check reads of a source directory; a missing file of facts or references has no rows. -/
structure BalanceSource where
  name : String
  facts : List TransactionFact
  snapshotRows : Option (List BalanceSnapshot)
  references : List BalanceReference
  timezone : Except String TimeZone

structure BalanceSourceInputs where
  source : String
  inputMode : BalanceInputMode
  timezone : Except String TimeZone
  targets : List BalanceTarget
  snapshots : List BalanceSnapshot
  references : List BalanceReference

def factBackedTargets (source : BalanceSource) : List BalanceTarget :=
  if source.references ≠ [] then referenceTargets source.references
  else latestBalanceTargets source.facts

def buildBalanceSourceInputs (source : BalanceSource) : BalanceSourceInputs :=
  let inputs := fun mode targets snapshots =>
    (⟨source.name, mode, source.timezone, targets, snapshots, source.references⟩ :
      BalanceSourceInputs)
  if source.facts ≠ [] then
    let targets := factBackedTargets source
    inputs .factBacked targets (deriveBalanceSnapshots source.facts targets).1
  else
    match source.snapshotRows with
    | some rows => inputs .manualOnly (rows.map BalanceSnapshot.target) rows
    | none => inputs .empty [] []

/-! ## Requests -/

/-- One `as_of` value of a request. -/
inductive RequestedTime
  | asOf (value : AsOfValue)
  | invalid (message : String)

structure BalanceCheckRequest where
  sources : List String
  asOfValues : List RequestedTime
  timezone : Option (Except String TimeZone)
  hydrateMissingReferences : Bool
  referencePolicy : String

def parseTargetTimeValues (values : List RequestedTime) (timezone : Except String TimeZone) :
    Except String (List (AsOfValue × Instant)) :=
  match values with
  | [] => .ok []
  | values => do
      let zone ← timezone
      values.mapM (fun value =>
        match value with
        | .asOf value => .ok (value, value.instant zone)
        | .invalid message => .error message)

def normalizeReferencePolicy (referencePolicy : String) : Except String String :=
  let normalized := String.ofList ((strip referencePolicy).toList.map Char.toLower)
  if normalized ≠ "default" then
    .error ("unsupported balance reference_policy: " ++ referencePolicy)
  else .ok normalized

/-! ## Plans -/

inductive BalanceCheckStatus
  | clean
  | issues
  | failed
  | noBalanceTargets
  | notRunnable
  deriving DecidableEq, Repr

structure CheckPlan where
  targets : List BalanceTarget
  snapshots : List BalanceSnapshot
  snapshotIssues : List IssueRecord
  status : BalanceCheckStatus := .clean
  notRunnableReason : String := ""

def selectTargetsForRequestedTimes (targets : List BalanceTarget) (requestedTimes : List Instant) :
    List BalanceTarget :=
  targets.filter (fun t => t.targetAt ∈ requestedTimes)

/-- The plan of a source with facts for named instants. -/
def factBackedCheckPlan (facts : List TransactionFact) (references : List BalanceReference)
    (times : List (AsOfValue × Instant)) (zone : TimeZone) : CheckPlan :=
  let selected := selectReferenceTargetsForAsOfValues references (times.map Prod.fst) zone
  let targets :=
    if selected ≠ [] then selected else targetsForAsOfValues facts (times.map Prod.snd)
  let derived := deriveBalanceSnapshots facts targets
  if targets = [] then
    { targets := [], snapshots := [], snapshotIssues := [], status := .noBalanceTargets }
  else if selected = [] then
    { targets := targets, snapshots := derived.1, snapshotIssues := derived.2 }
  else
    { targets := targets
      snapshots := derived.1
      snapshotIssues := derived.2 ++ missingFactCoverageIssues facts targets }

/-- The plan of a source without facts for named instants. -/
def manualCheckPlan (inputs : BalanceSourceInputs) (requestedTimes : List Instant) : CheckPlan :=
  let targets := selectTargetsForRequestedTimes inputs.targets requestedTimes
  if targets = [] then
    { targets := [], snapshots := [], snapshotIssues := [], status := .noBalanceTargets }
  else
    { targets := targets
      snapshots := inputs.snapshots.filter (fun snapshot => snapshot.target ∈ targets)
      snapshotIssues := [] }

def buildCheckPlan (request : BalanceCheckRequest) (source : BalanceSource) :
    Except String CheckPlan := do
  let inputs := buildBalanceSourceInputs source
  let timezone := request.timezone.getD inputs.timezone
  let times ← parseTargetTimeValues request.asOfValues timezone
  let _ ← normalizeReferencePolicy request.referencePolicy
  match inputs.inputMode with
  | .empty =>
      .ok
        { targets := []
          snapshots := []
          snapshotIssues := []
          status := .notRunnable
          notRunnableReason := "no_balance_inputs" }
  | mode =>
      if times = [] then
        .ok
          { targets := inputs.targets
            snapshots := inputs.snapshots
            snapshotIssues :=
              if mode = .factBacked ∧ inputs.references ≠ [] then
                missingFactCoverageIssues source.facts inputs.targets
              else [] }
      else if mode = .factBacked then do
        let zone ← timezone
        .ok (factBackedCheckPlan source.facts inputs.references times zone)
      else .ok (manualCheckPlan inputs (times.map Prod.snd))

/-! ## The reference file -/

/-- Target, kind, observation and support of a reference. -/
abbrev CacheKey := BalanceTarget × String × Instant × String × String

def cacheKey (reference : BalanceReference) : CacheKey :=
  (reference.target, reference.referenceKind.value, reference.observed.instant,
    reference.observed.precision.text, reference.supportRef)

/-- The order of the reference file. -/
def cacheOrder (key : CacheKey) :
    String ×ₗ String ×ₗ String ×ₗ String ×ₗ Instant ×ₗ String ×ₗ Instant :=
  toLex (key.1.source, toLex (key.1.locationId, toLex (key.1.instrumentId,
    toLex (key.1.balanceKind, toLex (key.1.targetAt, toLex (key.2.1, key.2.2.1))))))

def mergedReferences (existing resolved : List BalanceReference) :
    Dict CacheKey BalanceReference :=
  Dict.ofList ((existing ++ resolved).map (fun reference => (cacheKey reference, reference)))

/-- What `persist_balance_reference_cache` writes. -/
def persistedReferences (existing resolved : List BalanceReference) : List BalanceReference :=
  (sortedOn (fun e => cacheOrder e.1) (mergedReferences existing resolved).entries).map Prod.snd

/-! ## The check -/

structure BalanceCheckSummaryRecord where
  source : String
  checkStatus : BalanceCheckStatus
  notRunnableReason : String
  assertionCount : Nat
  issueCount : Nat
  minAssertionDate : String
  maxAssertionDate : String
  latestCleanCheckedDate : String
  latestResolvedReferenceCheckedDate : String
  errorMessage : String
  deriving DecidableEq, Repr

/-- What a check writes about a source. -/
structure BalanceCheckResult where
  assertions : List BalanceAssertion
  issues : List IssueRecord
  record : BalanceCheckSummaryRecord
  deriving DecidableEq, Repr

/-- `text[:10]` -/
def datePart (text : String) : String := String.ofList (text.toList.take 10)

def assertionDates (assertion : BalanceAssertion) : List String :=
  datePart assertion.target.target.text ::
    (assertion.observed.map (fun observed => datePart observed.text)).toList

def matchedDates (assertions : List BalanceAssertion) : List String :=
  (assertions.filter (fun assertion => assertion.status = .matched)).map (fun assertion =>
    datePart assertion.target.target.text)

/-- `max(dates) if dates else ""` -/
def latestText : List String → String
  | [] => ""
  | text :: texts => texts.foldl max text

/-- `min(dates) if dates else ""` -/
def earliestText : List String → String
  | [] => ""
  | text :: texts => texts.foldl min text

def checkStatus (issueCount : Nat) : BalanceCheckStatus :=
  if issueCount = 0 then .clean else .issues

def summaryRecord (source : String) (assertions : List BalanceAssertion)
    (issues : List IssueRecord) : BalanceCheckSummaryRecord :=
  let allDates := assertions.flatMap assertionDates
  let status := checkStatus issues.length
  { source := source
    checkStatus := status
    notRunnableReason := ""
    assertionCount := assertions.length
    issueCount := issues.length
    minAssertionDate := earliestText allDates
    maxAssertionDate := latestText allDates
    latestCleanCheckedDate :=
      if status = .clean then latestText (matchedDates assertions) else ""
    latestResolvedReferenceCheckedDate := latestText (matchedDates assertions)
    errorMessage := "" }

/-- The record of a source that was not compared. -/
def emptyRecord (source : String) (status : BalanceCheckStatus) (notRunnableReason errorMessage : String) :
    BalanceCheckSummaryRecord where
  source := source
  checkStatus := status
  notRunnableReason := notRunnableReason
  assertionCount := 0
  issueCount := 0
  minAssertionDate := ""
  maxAssertionDate := ""
  latestCleanCheckedDate := ""
  latestResolvedReferenceCheckedDate := ""
  errorMessage := errorMessage

/-- Comparison of a plan's snapshots with the resolved references. -/
def comparePlan (source : String) (plan : CheckPlan)
    (resolved : List BalanceReference × List IssueRecord) : BalanceCheckResult :=
  let result := assertBalanceTargets plan.snapshots resolved.1
  -- missing references are the resolver's to report
  let assertionIssues :=
    result.issues.filter (fun issue => issue.kind ≠ "balance_missing_reference")
  let allIssues := plan.snapshotIssues ++ resolved.2 ++ assertionIssues
  ⟨result.assertions, allIssues, summaryRecord source result.assertions allIssues⟩

/-- The result of checking a source and the source with its rewritten reference file. -/
def checkSourceInput (providers : Option BalanceProviders) (request : BalanceCheckRequest)
    (source : BalanceSource) : BalanceCheckResult × BalanceSource :=
  match buildCheckPlan request source with
  | .error message => (⟨[], [], emptyRecord source.name .failed "" message⟩, source)
  | .ok plan =>
      if plan.status ≠ .clean then
        (⟨[], [], emptyRecord source.name plan.status plan.notRunnableReason ""⟩, source)
      else
        let resolved :=
          resolve source.references plan.targets request.hydrateMissingReferences providers
        (comparePlan source.name plan resolved,
          { source with references := persistedReferences source.references resolved.1 })

/-- The check of the sources that a run has selected, in their order. -/
def checkSources (providers : Option BalanceProviders) (request : BalanceCheckRequest)
    (sources : List BalanceSource) : List (BalanceCheckResult × BalanceSource) :=
  sources.map (checkSourceInput providers request)

end Balances
end Tallylot
