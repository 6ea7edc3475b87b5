import Tallylot.Normalization.CompatibilityFacts
import Tallylot.Normalization.Window

/-!
# NormalizeSource — one normalization run

A run translates a capture, keeps the drafts inside the window and compiles them to facts.  Where
economic facts are built, their facts replace the compiled ones; they come from the claim set of the
whole translation, so the window does not reach them.  A run respects its window exactly when it has no
economic facts, or nothing of the capture lies outside (`window_respected_iff`).
-/

namespace Tallylot
namespace Normalization

open Data Domain Transactions

/-! ## Runs -/

/-- A capture as its translation gives it, with the batch and what the target products are built
from.  No adapter reads the hints of the window, so a translation does not depend on the request. -/
structure TranslatedCapture where
  drafts : List EconomicActivityDraft
  issues : List IssueRecord
  reviews : List NormalizationReviewRecord
  /-- The economic facts and the products they are projected with; `none` without a claim set. -/
  targetProducts : Option CompatibilityInputs
  /-- The row times that the context resolver finds. -/
  resolve : String → String → Option ProvenanceLocator → Decoded String

def enrichIssueContextTimestamps (capture : TranslatedCapture) (issues : List IssueRecord) :
    Decoded (List IssueRecord) :=
  issues.mapM (fun issue =>
    if issue.contextTimestamp ≠ "" then return issue
    else do
      let contextTimestamp ← capture.resolve issue.rawFile issue.rawRowRef issue.rawProvenance
      if contextTimestamp = "" then return issue
      else return { issue with contextTimestamp := contextTimestamp })

def enrichReviewContextTimestamps (capture : TranslatedCapture)
    (reviews : List NormalizationReviewRecord) : Decoded (List NormalizationReviewRecord) :=
  reviews.mapM (fun review =>
    if review.contextTimestamp ≠ "" then return review
    else do
      let contextTimestamp ← capture.resolve review.rawFile review.rawRowRef review.rawProvenance
      if contextTimestamp = "" then return review
      else return { review with contextTimestamp := contextTimestamp })

/-- What a run writes. -/
structure NormalizationOutputs where
  facts : List Transactions.TransactionFact
  issues : List IssueRecord
  reviews : List NormalizationReviewRecord

/-- The counts of `normalization_summary.json`. -/
structure NormalizationSummary where
  factCount : Nat
  issueCount : Nat
  reviewCount : Nat
  factsOutsideWindow : Nat
  issuesOutsideWindow : Nat
  reviewsOutsideWindow : Nat

structure NormalizationRun where
  outputs : NormalizationOutputs
  summary : NormalizationSummary

/-- The facts of the target products, where there are products with an id. -/
def targetFacts (env : KernelEnvironment) (capture : TranslatedCapture) :
    Decoded (Option (List Transactions.TransactionFact)) :=
  match capture.targetProducts with
  | none => return none
  | some inputs => do
      let facts ← inputs.facts env
      if inputs.economicFacts.economicFactsId = "" then return none else return some facts

/-- `NormalizeSourceUseCase.execute` -/
def execute (env : KernelEnvironment) (capture : TranslatedCapture) (request : NormalizeRequest) :
    Decoded NormalizationRun := do
  let (drafts, factsOutsideWindow) ← filterDraftsByWindow request capture.drafts
  let compiled ← compileActivityDraftsWithFeedback env drafts
  let enrichedIssues ← enrichIssueContextTimestamps capture (capture.issues ++ compiled.issues)
  let (issueRecords, issuesOutsideWindow) ← filterIssuesByWindow request enrichedIssues
  let enrichedReviews ←
    enrichReviewContextTimestamps capture (capture.reviews ++ compiled.reviews)
  let (reviewRecords, reviewsOutsideWindow) ← filterReviewsByWindow request enrichedReviews
  let outputs : NormalizationOutputs :=
    { facts := compiled.facts, issues := issueRecords, reviews := reviewRecords }
  let targetFacts ← targetFacts env capture
  let outputs :=
    match targetFacts with
    | none => outputs
    | some facts => { outputs with facts := facts }
  return {
    outputs := outputs
    summary :=
      { factCount := outputs.facts.length
        issueCount := outputs.issues.length
        reviewCount := outputs.reviews.length
        factsOutsideWindow := factsOutsideWindow
        issuesOutsideWindow := issuesOutsideWindow
        reviewsOutsideWindow := reviewsOutsideWindow } }

/-! ## What a run writes -/

section

variable {env : KernelEnvironment} {capture : TranslatedCapture}

/-- The facts of a run and how many drafts it left out. -/
structure RunFacts (env : KernelEnvironment) (capture : TranslatedCapture) (window : Window)
    (run : NormalizationRun) (compiled : DraftCompilationResult) : Prop where
  compiles : compileActivityDraftsWithFeedback env
    (capture.drafts.filter (fun draft => window.contains draft.val.timestamp)) = .ok compiled
  facts : targetFacts env capture = .ok none ∧ run.outputs.facts = compiled.facts ∨
    targetFacts env capture = .ok (some run.outputs.facts)
  factCount : run.summary.factCount = run.outputs.facts.length
  outside : run.summary.factsOutsideWindow =
    capture.drafts.countP (fun draft => window.excludes draft.val.timestamp)

lemma runFacts_of_execute {request : NormalizeRequest} {window : Window}
    (hwindow : parseWindow request = .ok window) {run : NormalizationRun}
    (h : execute env capture request = .ok run) :
    ∃ compiled, RunFacts env capture window run compiled := by
  rw [execute, filterDrafts_eq_ok hwindow, bind_ok] at h
  dsimp only at h
  rcases bind_eq_ok_iff.1 h with ⟨compiled, hcompiled, h⟩
  rcases bind_eq_ok_iff.1 h with ⟨enrichedIssues, _, h⟩
  rcases bind_eq_ok_iff.1 h with ⟨⟨issueRecords, issuesOutside⟩, _, h⟩
  rcases bind_eq_ok_iff.1 h with ⟨enrichedReviews, _, h⟩
  rcases bind_eq_ok_iff.1 h with ⟨⟨reviewRecords, reviewsOutside⟩, _, h⟩
  rcases bind_eq_ok_iff.1 h with ⟨projected, hprojected, h⟩
  have hrun := (Except.ok.inj h).symm
  refine ⟨compiled, hcompiled, ?_, ?_, ?_⟩
  · cases projected with
    | none => exact Or.inl ⟨hprojected, by rw [hrun]⟩
    | some facts => exact Or.inr (by rw [hprojected, hrun])
  · rw [hrun]
  · rw [hrun]

/-- The unbounded request. -/
def wholeRequest : NormalizeRequest := {}

lemma parseWindow_whole : parseWindow wholeRequest = .ok ⟨none, none⟩ := rfl

/-- The run with the window writes the facts of the run without one that lie inside, and its counts
add up to the count of that run. -/
structure WindowRespected (window : Window) (whole run : NormalizationRun) : Prop where
  facts : run.outputs.facts =
    whole.outputs.facts.filter (fun fact => window.contains fact.val.timestamp)
  counts : run.summary.factCount + run.summary.factsOutsideWindow = whole.summary.factCount

/-- Nothing replaces the compiled facts, or the window contains all drafts and all events. -/
def WithinWindow (capture : TranslatedCapture) (window : Window) : Prop :=
  ∀ inputs, capture.targetProducts = some inputs → inputs.economicFacts.economicFactsId ≠ "" →
    (∀ draft ∈ capture.drafts, window.contains draft.val.timestamp = true) ∧
      ∀ event ∈ inputs.economicFacts.economicEventRecords,
        window.contains event.effectiveAt = true

lemma targetFacts_eq_none_iff {projected : Option (List Transactions.TransactionFact)}
    (h : targetFacts env capture = .ok projected) :
    projected = none ↔ ∀ inputs, capture.targetProducts = some inputs →
      inputs.economicFacts.economicFactsId = "" := by
  unfold targetFacts at h
  split at h
  · rename_i hnone
    exact iff_of_true (Except.ok.inj h).symm
      (fun inputs hinputs => by rw [hnone] at hinputs; cases hinputs)
  · rename_i inputs hsome
    rcases bind_eq_ok_iff.1 h with ⟨facts, _, hmade⟩
    split_ifs at hmade with hid
    · exact iff_of_true (Except.ok.inj hmade).symm
        (fun other hother => Option.some.inj (hsome.symm.trans hother) ▸ hid)
    · refine iff_of_false (fun hnone => ?_) (fun hall => hid (hall inputs hsome))
      rw [hnone] at hmade
      cases hmade

lemma targetFacts_eq_some {facts : List Transactions.TransactionFact}
    (h : targetFacts env capture = .ok (some facts)) :
    ∃ inputs, capture.targetProducts = some inputs ∧
      inputs.economicFacts.economicFactsId ≠ "" ∧ inputs.facts env = .ok facts := by
  unfold targetFacts at h
  split at h
  · cases h
  · rename_i inputs hsome
    rcases bind_eq_ok_iff.1 h with ⟨projected, hprojected, hmade⟩
    split_ifs at hmade with hid
    · cases hmade
    · rw [← Option.some.inj (Except.ok.inj hmade)]
      exact ⟨inputs, hsome, hid, hprojected⟩

/-- Without economic facts a run respects its window. -/
lemma respected_of_compiled {window : Window} {whole run : NormalizationRun}
    {compiled kept : DraftCompilationResult}
    (hwhole : RunFacts env capture ⟨none, none⟩ whole compiled)
    (hrun : RunFacts env capture window run kept)
    (hresolved : ∀ draft ∈ capture.drafts, Resolved env draft)
    (hnone : targetFacts env capture = .ok none) : WindowRespected window whole run := by
  have hfacts : ∀ {w : Window} {r : NormalizationRun} {c : DraftCompilationResult},
      RunFacts env capture w r c → r.outputs.facts = c.facts := by
    intro w r c h
    rcases h.facts with ⟨_, hsame⟩ | hsome
    · exact hsame
    · cases Except.ok.inj (hnone.symm.trans hsome)
  have hall : capture.drafts.filter (fun draft =>
      Window.contains ⟨none, none⟩ draft.val.timestamp) = capture.drafts :=
    List.filter_eq_self.2 (fun _ _ => rfl)
  have hcompiled := hwhole.compiles
  rw [hall] at hcompiled
  rcases compile_filter hcompiled window.contains with ⟨kept', hkept', hkeptFacts⟩
  rw [Except.ok.inj (hkept'.symm.trans hrun.compiles)] at hkeptFacts
  constructor
  · rw [hfacts hrun, hfacts hwhole, hkeptFacts]
  · have hlength := length_of_resolved hrun.compiles
      (fun draft hdraft => hresolved draft (List.mem_filter.1 hdraft).1)
    rw [hrun.factCount, hrun.outside, hwhole.factCount, hfacts hrun, hfacts hwhole, hlength,
      length_kept_add_excluded, length_of_resolved hcompiled hresolved]

/-- With economic facts a run respects its window where nothing lies outside. -/
lemma respected_iff_of_projected {window : Window} {whole run : NormalizationRun}
    {compiled kept : DraftCompilationResult}
    (hwhole : RunFacts env capture ⟨none, none⟩ whole compiled)
    (hrun : RunFacts env capture window run kept) {facts : List Transactions.TransactionFact}
    (hsome : targetFacts env capture = .ok (some facts)) :
    WindowRespected window whole run ↔
      (∀ draft ∈ capture.drafts, window.contains draft.val.timestamp = true) ∧
        ∀ fact ∈ facts, window.contains fact.val.timestamp = true := by
  have hfacts : ∀ {w : Window} {r : NormalizationRun} {c : DraftCompilationResult},
      RunFacts env capture w r c → r.outputs.facts = facts := by
    intro w r c h
    rcases h.facts with ⟨hnone, _⟩ | hsame
    · cases Except.ok.inj (hsome.symm.trans hnone)
    · exact Option.some.inj (Except.ok.inj (hsame.symm.trans hsome))
  have hcounted : run.summary.factCount + run.summary.factsOutsideWindow =
      whole.summary.factCount ↔
        ∀ draft ∈ capture.drafts, window.contains draft.val.timestamp = true := by
    rw [hrun.factCount, hrun.outside, hwhole.factCount, hfacts hrun, hfacts hwhole]
    rw [Nat.add_eq_left, List.countP_eq_zero]
    simp only [Window.contains, Bool.not_eq_true', Bool.not_eq_true]
  have hkept : run.outputs.facts =
      whole.outputs.facts.filter (fun fact => window.contains fact.val.timestamp) ↔
        ∀ fact ∈ facts, window.contains fact.val.timestamp = true := by
    rw [hfacts hrun, hfacts hwhole, eq_comm, List.filter_eq_self]
  rw [← hcounted, ← hkept]
  exact ⟨fun h => ⟨h.counts, h.facts⟩, fun h => ⟨h.2, h.1⟩⟩

/-- A run with a window and the run without one, all identities resolved: the window is respected
exactly when there are no economic facts, or nothing of the capture lies outside. -/
theorem window_respected_iff {request : NormalizeRequest} {window : Window}
    (hwindow : parseWindow request = .ok window)
    (hresolved : ∀ draft ∈ capture.drafts, Resolved env draft) {whole run : NormalizationRun}
    (hwhole : execute env capture wholeRequest = .ok whole)
    (hrun : execute env capture request = .ok run) :
    WindowRespected window whole run ↔ WithinWindow capture window := by
  rcases runFacts_of_execute parseWindow_whole hwhole with ⟨compiled, hcompiled⟩
  rcases runFacts_of_execute hwindow hrun with ⟨kept, hkept⟩
  rcases hcompiled.facts with ⟨hnone, _⟩ | hsome
  · refine iff_of_true (respected_of_compiled hcompiled hkept hresolved hnone) ?_
    intro inputs hinputs hid
    exact absurd ((targetFacts_eq_none_iff hnone).1 rfl inputs hinputs) hid
  · rw [respected_iff_of_projected hcompiled hkept hsome]
    rcases targetFacts_eq_some hsome with ⟨inputs, hinputs, hid, hprojected⟩
    have htimes := CompatibilityInputs.timestamps_perm hprojected
    have hevents : (∀ fact ∈ whole.outputs.facts, window.contains fact.val.timestamp = true) ↔
        ∀ event ∈ inputs.economicFacts.economicEventRecords,
          window.contains event.effectiveAt = true := by
      rw [← List.forall_mem_map (f := fun fact : Transactions.TransactionFact => fact.val.timestamp)
        (P := fun time => window.contains time = true)]
      rw [← List.forall_mem_map (f := EconomicEventRecord.effectiveAt)
        (P := fun time => window.contains time = true)]
      exact forall_congr' (fun time => imp_congr_left htimes.mem_iff)
    rw [hevents]
    constructor
    · intro h other hother _
      rw [← Option.some.inj (hinputs.symm.trans hother)]
      exact h
    · intro h
      exact h inputs hinputs hid

end

/-! ## A reward before the window -/

def plainEnvironment : KernelEnvironment where
  sha256 := id
  subjectText := fun _ => ""
  repr := fun text => "'" ++ text ++ "'"
  upper := id
  lower := id

def firstOfJanuary : Instant := ⟨2024, 1, 1, 0, 0, 0, 0, Instant.isDay_newYear⟩

def oneCoin : Decimal := ⟨1, 0, Decimal.one_canonical⟩

def rewardLegFields : EconomicLegDraftFields where
  legId := "received"
  kind := .primary
  instrumentIdentityClaims := [⟨"symbol", "BTC", none, .unknown, "", none⟩]
  quantity := oneCoin

lemma rewardLeg_valid : rewardLegFields.validate = .ok () := rfl

def rewardLeg : EconomicLegDraft := ⟨rewardLegFields, checkedConstructor_accepted.2 rewardLeg_valid⟩

def rewardDraftFields : EconomicActivityDraftFields where
  activityId := "coinbase-retail-1"
  source := "coinbase"
  adapterId := "coinbase"
  timestamp := firstOfJanuary
  locationId := "coinbase"
  classification := ⟨.platformReward, .incomeRecognition, .ordinaryIncome, none⟩
  legs := [rewardLeg]
  legPolicy := singlePrimaryActivityPolicy
  rawRowRef := "1"

lemma rewardDraft_valid : rewardDraftFields.postInit = .ok rewardDraftFields := rfl

def rewardDraft : EconomicActivityDraft :=
  ⟨rewardDraftFields, rewardDraftFields, rewardDraft_valid⟩

def rewardEvent : EconomicEventRecord where
  eventId := "event"
  claimBundleId := "reward"
  claimBundleDecisionId := "reward"
  kind := .assetMovement
  effectiveAt := firstOfJanuary
  recordedAt := firstOfJanuary
  lifecycleEvent := .created
  beneficialOwnerRef := "me"

lemma coinbase_ne_nil : ["coinbase"] ≠ [] := List.cons_ne_nil _ _

def rewardLegRecord : EconomicLegRecord where
  legId := "[\"event\",\"holding_change\",[],0]"
  eventId := "event"
  role := .holdingChange
  subjectRef := positionSubjectRef "me" "coinbase" "BTC"
  instrumentRef := ["BTC"]
  locationRef := ["coinbase"]
  quantity := oneCoin
  instrumentRef_nonempty := by decide
  locationRef_nonempty := coinbase_ne_nil
  quantity_nonzero := by decide

def rewardClaims : List SourcedClaim :=
  [ { bundleId := "reward"
      claimId := "activity"
      kind := .activity
      effectiveAt := some firstOfJanuary
      precision := some .timestamp
      activityLabel := "reward_income"
      locationClaimRef := "location"
      legSpecs := [⟨0, "received", oneCoin, ["instrument"], "location", "", none⟩]
      key := ["retail", "1"]
      memberRefs := ["export"]
      valid := rfl },
    { bundleId := "reward"
      claimId := "location"
      kind := .location
      locationRef := "coinbase"
      locationGroupLabel := "Coinbase"
      locationLabel := "Coinbase"
      key := []
      memberRefs := []
      valid := rfl },
    { bundleId := "reward"
      claimId := "instrument"
      kind := .instrument
      scheme := "symbol"
      value := "BTC"
      instrumentKind := "crypto"
      key := []
      memberRefs := []
      valid := rfl } ]

def rewardExport : Evidence.EvidenceMemberRecord where
  evidenceSetId := "evidence"
  selectionId := "retail"
  memberId := "export"
  sourceSlug := "coinbase"
  adapterId := "coinbase"
  captureUid := "capture"
  kind := .retailActivityExportFile
  locator := ["exports/retail.csv"]
  status := .selected
  captureManifestFingerprint := ""

def rewardFields : DraftProjectionFieldRecord where
  claimBundleId := "reward"
  economicKind := "platform_reward"
  projectionHint := ""
  accountingIntentHint := "income_recognition"
  taxTreatmentHint := "ordinary_income"
  description := ""
  txHashOrNull := ""
  operationGroupIdOrNull := ""
  confidence := "high"
  status := "mapped"
  draftOrder := 0

def rewardProducts (events : List EconomicEventRecord) : CompatibilityInputs where
  economicFacts := ⟨"facts", ["claims"], events, [rewardLegRecord]⟩
  claimSet := ⟨"claims", rewardClaims⟩
  evidenceMembers := [rewardExport]
  draftProjectionFieldRecords := [rewardFields]

/-- A capture of one reward, with or without target products. -/
def rewardCapture (products : Option CompatibilityInputs) : TranslatedCapture where
  drafts := [rewardDraft]
  issues := []
  reviews := []
  targetProducts := products
  resolve := fun _ _ _ => .ok ""

def rewardRequest : NormalizeRequest where
  windowStart := some "2025-01-01 00:00:00"

def rewardWindow : Window := ⟨some ⟨2025, 1, 1, 0, 0, 0, 0, by decide⟩, none⟩

lemma rewardWindow_parsed : parseWindow rewardRequest = .ok rewardWindow := by
  decide +kernel

lemma rewardDraft_resolved (products : Option CompatibilityInputs) :
    ∀ draft ∈ (rewardCapture products).drafts, Resolved plainEnvironment draft := by
  intro draft hdraft leg hleg
  rw [List.mem_singleton.1 hdraft] at hleg
  rw [List.mem_singleton.1 hleg]
  exact ⟨_, rfl⟩

/-- A reward before the window: the run still writes its fact, and counts its draft as left out. -/
theorem reward_written_outside_window :
    ∃ whole run,
      execute plainEnvironment (rewardCapture (some (rewardProducts [rewardEvent]))) wholeRequest =
          .ok whole ∧
      execute plainEnvironment (rewardCapture (some (rewardProducts [rewardEvent]))) rewardRequest =
          .ok run ∧
      parseWindow rewardRequest = .ok rewardWindow ∧
      (∀ draft ∈ (rewardCapture (some (rewardProducts [rewardEvent]))).drafts,
        Resolved plainEnvironment draft) ∧
      (∃ fact ∈ run.outputs.facts, rewardWindow.contains fact.val.timestamp = false) ∧
      ¬WindowRespected rewardWindow whole run := by
  rcases exists_of_isOk (by decide +kernel : (execute plainEnvironment
    (rewardCapture (some (rewardProducts [rewardEvent]))) wholeRequest).isOk = true) with
    ⟨whole, hwhole⟩
  rcases exists_of_isOk (by decide +kernel : (execute plainEnvironment
    (rewardCapture (some (rewardProducts [rewardEvent]))) rewardRequest).isOk = true) with
    ⟨run, hrun⟩
  rcases runFacts_of_execute rewardWindow_parsed hrun with ⟨kept, hkept⟩
  have houtside : rewardWindow.contains firstOfJanuary = false := by decide +kernel
  have hproducts : targetFacts plainEnvironment (rewardCapture (some (rewardProducts [rewardEvent]))) =
      .ok (some run.outputs.facts) := by
    rcases hkept.facts with ⟨hnone, _⟩ | hsome
    · have hid := (targetFacts_eq_none_iff hnone).1 rfl _ rfl
      exact absurd hid (by decide)
    · exact hsome
  have hfact : ∃ fact ∈ run.outputs.facts, rewardWindow.contains fact.val.timestamp = false := by
    rcases targetFacts_eq_some hproducts with ⟨inputs, hinputs, _, hprojected⟩
    rw [← Option.some.inj hinputs] at hprojected
    have htimes := (CompatibilityInputs.timestamps_perm hprojected).mem_iff.2
      (List.mem_singleton.2 rfl)
    rcases List.mem_map.1 htimes with ⟨fact, hfact, htime⟩
    exact ⟨fact, hfact, by rw [htime]; exact houtside⟩
  refine ⟨whole, run, hwhole, hrun, rewardWindow_parsed, rewardDraft_resolved _, hfact, ?_⟩
  intro hrespected
  rcases hfact with ⟨fact, hfact, hfactOutside⟩
  rw [hrespected.facts] at hfact
  have hinside := (List.mem_filter.1 hfact).2
  rw [hfactOutside] at hinside
  cases hinside

/-- Without target products the reward is left out and counted. -/
theorem reward_left_out :
    ∃ whole run, execute plainEnvironment (rewardCapture none) wholeRequest = .ok whole ∧
      execute plainEnvironment (rewardCapture none) rewardRequest = .ok run ∧
      WindowRespected rewardWindow whole run := by
  rcases exists_of_isOk (by decide +kernel :
    (execute plainEnvironment (rewardCapture none) wholeRequest).isOk = true) with ⟨whole, hwhole⟩
  rcases exists_of_isOk (by decide +kernel :
    (execute plainEnvironment (rewardCapture none) rewardRequest).isOk = true) with ⟨run, hrun⟩
  refine ⟨whole, run, hwhole, hrun, ?_⟩
  refine (window_respected_iff rewardWindow_parsed (rewardDraft_resolved none) hwhole hrun).2 ?_
  intro inputs hinputs
  cases hinputs

end Normalization
end Tallylot
