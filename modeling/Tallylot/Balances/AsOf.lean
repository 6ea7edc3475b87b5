import Tallylot.Balances.Check
import Tallylot.Balances.Conflicts
import Tallylot.Data.Parts

/-!
# AsOf — which requested times have a target in the plan

The targets of a plan come from the references as soon as one reference answers one requested time,
and from the facts only when none does.  A requested time without a reference is then left out of
the plan, beside others that have one (`answered_iff`).
-/

namespace Tallylot
namespace Balances

open Data Domain

/-! ## Requested times and targets -/

/-- The instant is one that the value asks for: on its date, or at its instant. -/
def AsOfValue.Names (zone : TimeZone) (at' : Instant) : AsOfValue → Prop
  | date d => zone.dateOf at' = d
  | timestamp t => at' = t

lemma selects_iff {zone : TimeZone} {t : BalanceTarget} {value : AsOfValue} :
    value.selects zone t = true ↔ value.Names zone t.targetAt := by
  cases value <;> exact decide_eq_true_iff

/-- One of the targets is at the requested time. -/
def Answered (zone : TimeZone) (targets : List BalanceTarget) (value : AsOfValue) : Prop :=
  ∃ t ∈ targets, value.Names zone t.targetAt

lemma Answered.mono {zone : TimeZone} {targets targets' : List BalanceTarget} {value : AsOfValue}
    (h : Answered zone targets value) (hsub : ∀ t ∈ targets, t ∈ targets') :
    Answered zone targets' value := by
  rcases h with ⟨t, ht, hnames⟩
  exact ⟨t, hsub t ht, hnames⟩

/-! ## The targets of a plan -/

section Targets

variable {zone : TimeZone} {references : List BalanceReference} {facts : List TransactionFact}
  {values : List AsOfValue}

lemma mem_orderedTargets {ts : List BalanceTarget} {t : BalanceTarget} :
    t ∈ orderedTargets ts ↔ t ∈ ts := by
  constructor
  · intro h
    rcases List.mem_map.1 h with ⟨entry, hentry, rfl⟩
    exact (mem_entries_targets.1 (mem_sortedOn.1 hentry)).1
  · intro h
    refine List.mem_map.2 ⟨(targetIdentity t, t), mem_sortedOn.2 ?_, rfl⟩
    exact mem_entries_targets.2 ⟨h, rfl⟩

/-- The references' targets. -/
def storedTargets (references : List BalanceReference) : List BalanceTarget :=
  references.map BalanceReference.target

lemma mem_selectReferenceTargets {t : BalanceTarget} :
    t ∈ selectReferenceTargetsForAsOfValues references values zone ↔
      t ∈ storedTargets references ∧ ∃ value ∈ values, value.Names zone t.targetAt := by
  rw [selectReferenceTargetsForAsOfValues, mem_orderedTargets, List.mem_flatMap]
  constructor
  · rintro ⟨value, hvalue, ht⟩
    rcases List.mem_filter.1 ht with ⟨hstored, hselects⟩
    exact ⟨hstored, value, hvalue, selects_iff.1 hselects⟩
  · rintro ⟨hstored, value, hvalue, hnames⟩
    exact ⟨value, hvalue, List.mem_filter.2 ⟨hstored, selects_iff.2 hnames⟩⟩

/-- The selection keeps every reference target that answers a requested time. -/
lemma answered_selectReferenceTargets {value : AsOfValue} (hvalue : value ∈ values) :
    Answered zone (selectReferenceTargetsForAsOfValues references values zone) value ↔
      Answered zone (storedTargets references) value := by
  constructor
  · intro h
    exact h.mono fun t ht => (mem_selectReferenceTargets.1 ht).1
  · rintro ⟨t, ht, hnames⟩
    exact ⟨t, mem_selectReferenceTargets.2 ⟨ht, value, hvalue, hnames⟩, hnames⟩

lemma selectReferenceTargets_ne_nil_iff :
    selectReferenceTargetsForAsOfValues references values zone ≠ [] ↔
      ∃ value ∈ values, Answered zone (storedTargets references) value := by
  constructor
  · intro h
    rcases List.exists_mem_of_ne_nil _ h with ⟨t, ht⟩
    rcases mem_selectReferenceTargets.1 ht with ⟨hstored, value, hvalue, hnames⟩
    exact ⟨value, hvalue, t, hstored, hnames⟩
  · rintro ⟨value, hvalue, t, hstored, hnames⟩
    exact List.ne_nil_of_mem (mem_selectReferenceTargets.2 ⟨hstored, value, hvalue, hnames⟩)

/-- The instants that the values stand for. -/
def requestedInstants (zone : TimeZone) (values : List AsOfValue) : List Instant :=
  values.map (AsOfValue.instant zone)

/-- One of the requested instants is at the requested time. -/
def InstantOf (zone : TimeZone) (values : List AsOfValue) (value : AsOfValue) : Prop :=
  ∃ at' ∈ requestedInstants zone values, value.Names zone at'

/-- Targets from the facts are at the requested instants, and at each of them. -/
lemma answered_targetsForAsOfValues {value : AsOfValue}
    (hne : targetsForAsOfValues facts (requestedInstants zone values) ≠ []) :
    Answered zone (targetsForAsOfValues facts (requestedInstants zone values)) value ↔
      InstantOf zone values value := by
  constructor
  · rintro ⟨t, ht, hnames⟩
    rcases List.mem_flatMap.1 ht with ⟨key, _, hkey⟩
    rcases List.mem_map.1 hkey with ⟨at', hat, rfl⟩
    exact ⟨at', hat, hnames⟩
  · rintro ⟨at', hat, hnames⟩
    -- Some balance has a target, so every balance has one at each of the instants.
    rcases List.exists_mem_of_ne_nil _ hne with ⟨t, ht⟩
    rcases List.mem_flatMap.1 ht with ⟨key, hkey, _⟩
    exact ⟨key.target at', List.mem_flatMap.2 ⟨key, hkey, List.mem_map_of_mem hat⟩, hnames⟩

lemma mem_selectTargetsForRequestedTimes {targets : List BalanceTarget} {instants : List Instant}
    {t : BalanceTarget} :
    t ∈ selectTargetsForRequestedTimes targets instants ↔ t ∈ targets ∧ t.targetAt ∈ instants := by
  rw [selectTargetsForRequestedTimes, List.mem_filter, decide_eq_true_eq]

end Targets

/-! ## The plan of a request -/

section Plan

variable {request : BalanceCheckRequest} {source : BalanceSource} {plan : CheckPlan}
  {zone : TimeZone} {values : List AsOfValue}

lemma parseTargetTimeValues_asOf (hne : values ≠ []) :
    parseTargetTimeValues (values.map RequestedTime.asOf) (.ok zone) =
      .ok (values.map (fun value => (value, value.instant zone))) := by
  rcases List.exists_cons_of_ne_nil hne with ⟨value, rest, rfl⟩
  exact mapM_ok_map (fun _ _ => rfl)

/-- A request for named instants, in the time zone that counts for it. -/
structure Requests (request : BalanceCheckRequest) (source : BalanceSource) (zone : TimeZone)
    (values : List AsOfValue) : Prop where
  asOf : request.asOfValues = values.map RequestedTime.asOf
  named : values ≠ []
  timezone : request.timezone.getD source.timezone = .ok zone

lemma timezone_inputs (source : BalanceSource) :
    (buildBalanceSourceInputs source).timezone = source.timezone := by
  unfold buildBalanceSourceInputs
  dsimp only
  split
  · rfl
  · split <;> rfl

/-- The plan that the mode of the source makes for named instants. -/
def planFor (source : BalanceSource) (zone : TimeZone) (values : List AsOfValue) :
    BalanceInputMode → CheckPlan
  | .empty =>
      { targets := []
        snapshots := []
        snapshotIssues := []
        status := .notRunnable
        notRunnableReason := "no_balance_inputs" }
  | .factBacked =>
      factBackedCheckPlan source.facts source.references
        (values.map (fun value => (value, value.instant zone))) zone
  | .manualOnly =>
      manualCheckPlan (buildBalanceSourceInputs source) (requestedInstants zone values)

lemma references_inputs (source : BalanceSource) :
    (buildBalanceSourceInputs source).references = source.references := by
  unfold buildBalanceSourceInputs
  dsimp only
  split
  · rfl
  · split <;> rfl

lemma plan_eq (h : buildCheckPlan request source = .ok plan)
    (hrequest : Requests request source zone values) :
    plan = planFor source zone values (buildBalanceSourceInputs source).inputMode := by
  have htimes : values.map (fun value => (value, value.instant zone)) ≠ [] := by
    simpa using hrequest.named
  unfold buildCheckPlan at h
  dsimp only at h
  rw [timezone_inputs, hrequest.asOf, hrequest.timezone,
    parseTargetTimeValues_asOf hrequest.named] at h
  rcases except_bind_eq_ok.1 h with ⟨_, hparsed, hrest⟩
  cases hparsed
  rcases except_bind_eq_ok.1 hrest with ⟨_, _, hplan⟩
  cases hmode : (buildBalanceSourceInputs source).inputMode with
  | empty =>
      rw [hmode] at hplan
      exact (Except.ok.inj hplan).symm
  | factBacked =>
      rw [hmode] at hplan
      simp only [if_neg htimes, if_true] at hplan
      rw [references_inputs] at hplan
      exact (Except.ok.inj hplan).symm
  | manualOnly =>
      rw [hmode] at hplan
      simp only [if_neg htimes, reduceCtorEq, if_false, List.map_map] at hplan
      exact (Except.ok.inj hplan).symm

lemma targets_factBacked {facts : List TransactionFact} {references : List BalanceReference}
    {times : List (AsOfValue × Instant)} (h : (factBackedCheckPlan facts references times zone).status =
      .clean) :
    (factBackedCheckPlan facts references times zone).targets ≠ [] ∧
      (factBackedCheckPlan facts references times zone).targets =
        if selectReferenceTargetsForAsOfValues references (times.map Prod.fst) zone ≠ [] then
          selectReferenceTargetsForAsOfValues references (times.map Prod.fst) zone
        else targetsForAsOfValues facts (times.map Prod.snd) := by
  unfold factBackedCheckPlan at h ⊢
  dsimp only at h ⊢
  split_ifs at h ⊢
  · exact ⟨‹_›, rfl⟩
  · exact ⟨‹_›, rfl⟩
  · contradiction

lemma targets_manual {inputs : BalanceSourceInputs} {instants : List Instant}
    (h : (manualCheckPlan inputs instants).status = .clean) :
    (manualCheckPlan inputs instants).targets =
      selectTargetsForRequestedTimes inputs.targets instants := by
  unfold manualCheckPlan at h ⊢
  dsimp only at h ⊢
  split_ifs at h ⊢ with hnone
  rfl

/-- Every requested time is answered by the references, or by the facts where no time is answered by
a reference, or by the snapshot rows of a source without facts. -/
inductive TimesCovered (source : BalanceSource) (zone : TimeZone) (values : List AsOfValue) : Prop
  | byReferences (facts : source.facts ≠ [])
      (all : ∀ value ∈ values, Answered zone (storedTargets source.references) value)
  | byFacts (facts : source.facts ≠ [])
      (none : ∀ value ∈ values, ¬Answered zone (storedTargets source.references) value)
      (instants : ∀ value ∈ values, InstantOf zone values value)
  | byRows (facts : source.facts = [])
      (rows : ∀ value ∈ values, ∃ row ∈ source.snapshotRows.getD [],
        row.target.targetAt ∈ requestedInstants zone values ∧ value.Names zone row.target.targetAt)

lemma covered_factBacked_iff (hfacts : source.facts ≠ [])
    (hclean : (planFor source zone values .factBacked).status = .clean) :
    (∀ value ∈ values, Answered zone (planFor source zone values .factBacked).targets value) ↔
      TimesCovered source zone values := by
  rcases targets_factBacked hclean with ⟨hsome, htargets⟩
  have hfst : (values.map (fun value => (value, value.instant zone))).map Prod.fst = values := by
    rw [List.map_map]
    exact List.map_id _
  have hsnd : (values.map (fun value => (value, value.instant zone))).map Prod.snd =
      requestedInstants zone values := List.map_map
  rw [hfst, hsnd] at htargets
  change (planFor source zone values .factBacked).targets = _ at htargets
  change (planFor source zone values .factBacked).targets ≠ [] at hsome
  rw [htargets] at hsome ⊢
  by_cases hselected : selectReferenceTargetsForAsOfValues source.references values zone ≠ []
  · rw [if_pos hselected]
    constructor
    · intro hall
      exact .byReferences hfacts fun value hvalue =>
        (answered_selectReferenceTargets hvalue).1 (hall value hvalue)
    · intro hcovered value hvalue
      cases hcovered with
      | byReferences _ hall => exact (answered_selectReferenceTargets hvalue).2 (hall value hvalue)
      | byFacts _ hnone _ =>
          rcases selectReferenceTargets_ne_nil_iff.1 hselected with ⟨other, hother, hanswered⟩
          exact absurd hanswered (hnone other hother)
      | byRows hnil _ => exact absurd hnil hfacts
  · rw [if_neg hselected] at hsome ⊢
    have hnone : ∀ value ∈ values, ¬Answered zone (storedTargets source.references) value :=
      fun value hvalue hanswered =>
        hselected (selectReferenceTargets_ne_nil_iff.2 ⟨value, hvalue, hanswered⟩)
    constructor
    · intro hall
      exact .byFacts hfacts hnone fun value hvalue =>
        (answered_targetsForAsOfValues hsome).1 (hall value hvalue)
    · intro hcovered value hvalue
      cases hcovered with
      | byReferences _ hall => exact absurd (hall value hvalue) (hnone value hvalue)
      | byFacts _ _ hinstants =>
          exact (answered_targetsForAsOfValues hsome).2 (hinstants value hvalue)
      | byRows hnil _ => exact absurd hnil hfacts

lemma covered_manual_iff {rows : List BalanceSnapshot} (hfacts : source.facts = [])
    (hrows : source.snapshotRows = some rows)
    (hclean : (planFor source zone values .manualOnly).status = .clean) :
    (∀ value ∈ values, Answered zone (planFor source zone values .manualOnly).targets value) ↔
      TimesCovered source zone values := by
  have hinputs : (buildBalanceSourceInputs source).targets = rows.map BalanceSnapshot.target := by
    unfold buildBalanceSourceInputs
    simp only [hfacts, hrows, ne_eq, not_true_eq_false, if_false]
  have htargets := targets_manual hclean
  rw [hinputs] at htargets
  change (planFor source zone values .manualOnly).targets = _ at htargets
  rw [htargets]
  constructor
  · intro hall
    refine .byRows hfacts fun value hvalue => ?_
    rcases hall value hvalue with ⟨t, ht, hnames⟩
    rcases mem_selectTargetsForRequestedTimes.1 ht with ⟨hrow, hat⟩
    rcases List.mem_map.1 hrow with ⟨row, hmem, rfl⟩
    exact ⟨row, by rwa [hrows], hat, hnames⟩
  · intro hcovered value hvalue
    cases hcovered with
    | byReferences hsome _ => exact absurd hfacts hsome
    | byFacts hsome _ _ => exact absurd hfacts hsome
    | byRows _ hall =>
        rcases hall value hvalue with ⟨row, hmem, hat, hnames⟩
        rw [hrows] at hmem
        exact ⟨row.target, mem_selectTargetsForRequestedTimes.2 ⟨List.mem_map_of_mem hmem, hat⟩,
          hnames⟩

/-- A runnable plan has a target for every requested time exactly if the times are covered. -/
theorem answered_iff (h : buildCheckPlan request source = .ok plan) (hclean : plan.status = .clean)
    (hrequest : Requests request source zone values) :
    (∀ value ∈ values, Answered zone plan.targets value) ↔ TimesCovered source zone values := by
  have hplan := plan_eq h hrequest
  by_cases hfacts : source.facts = []
  · rcases hrows : source.snapshotRows with _ | rows
    · have hmode : (buildBalanceSourceInputs source).inputMode = .empty := by
        unfold buildBalanceSourceInputs
        simp only [hfacts, hrows, ne_eq, not_true_eq_false, if_false]
      rw [hplan, hmode] at hclean
      cases hclean
    · have hmode : (buildBalanceSourceInputs source).inputMode = .manualOnly := by
        unfold buildBalanceSourceInputs
        simp only [hfacts, hrows, ne_eq, not_true_eq_false, if_false]
      rw [hplan, hmode] at hclean ⊢
      exact covered_manual_iff hfacts hrows hclean
  · have hmode : (buildBalanceSourceInputs source).inputMode = .factBacked := by
      unfold buildBalanceSourceInputs
      simp only [ne_eq, hfacts, not_false_eq_true, if_true]
    rw [hplan, hmode] at hclean ⊢
    exact covered_factBacked_iff hfacts hclean

end Plan

/-! ## A date that is left out -/

/-- The zone of UTC; dates that no calendar has stand for new year's day. -/
def utcZone : TimeZone where
  midnight d :=
    if h : (1 ≤ d.year ∧ d.year ≤ 9999) ∧ (1 ≤ d.month ∧ d.month ≤ 12) ∧
        (1 ≤ d.day ∧ d.day ≤ daysInMonth d.year d.month) then
      ⟨d.year, d.month, d.day, 0, 0, 0, 0, h.1, h.2.1, h.2.2, by decide, by decide, by decide,
        by decide⟩
    else newYear
  dateOf t := ⟨t.year, t.month, t.day⟩

lemma bitcoin_ne_empty : "asset:btc@coinbase" ≠ "" := by decide

/-- A source with a fact and the statement of new year's day. -/
def statementSource : BalanceSource where
  name := "coinbase"
  facts := [⟨"coinbase", newYear, "platform:coinbase",
    [⟨"asset:btc@coinbase", Decimal.ofParts 5 (-1), none, bitcoin_ne_empty⟩]⟩]
  snapshotRows := none
  references := [statementReference]
  timezone := .ok utcZone

/-- New year's day, and a date that no reference is about. -/
def newYearAndMarch : List AsOfValue := [.date ⟨2024, 1, 1⟩, .date ⟨2024, 3, 1⟩]

def asOfRequest (values : List AsOfValue) : BalanceCheckRequest where
  sources := []
  asOfValues := values.map RequestedTime.asOf
  timezone := none
  hydrateMissingReferences := false
  referencePolicy := "default"

lemma requests_asOf {values : List AsOfValue} (h : values ≠ []) :
    Requests (asOfRequest values) statementSource utcZone values :=
  ⟨rfl, h, rfl⟩

/-- The plan of a request to the source is clean and has the target of the statement. -/
def PlansStatement (values : List AsOfValue) : Prop :=
  ∃ plan, buildCheckPlan (asOfRequest values) statementSource = .ok plan ∧ plan.status = .clean ∧
    plan.targets = [bitcoinTarget .date]

lemma plansStatement_of_eq {values : List AsOfValue}
    (h : (buildCheckPlan (asOfRequest values) statementSource).toOption.map
      (fun plan => (plan.status, plan.targets)) = some (.clean, [bitcoinTarget .date])) :
    PlansStatement values := by
  cases hplan : buildCheckPlan (asOfRequest values) statementSource with
  | error message =>
      rw [hplan] at h
      cases h
  | ok plan =>
      rw [hplan] at h
      have hpair := Option.some.inj h
      exact ⟨plan, hplan, congrArg Prod.fst hpair, congrArg Prod.snd hpair⟩

/-- The statement answers the one date, and the other is left out of a clean plan. -/
theorem date_left_out :
    ¬∀ (request : BalanceCheckRequest) (source : BalanceSource) (plan : CheckPlan) (zone : TimeZone)
        (values : List AsOfValue), buildCheckPlan request source = .ok plan → plan.status = .clean →
      Requests request source zone values →
        ∀ value ∈ values, Answered zone plan.targets value := by
  intro h
  have hplans : PlansStatement newYearAndMarch := plansStatement_of_eq (by decide +kernel)
  rcases hplans with ⟨plan, hplan, hclean, htargets⟩
  have hanswered := h _ _ plan utcZone newYearAndMarch hplan hclean
    (requests_asOf (List.cons_ne_nil _ _)) (.date ⟨2024, 3, 1⟩)
    (List.mem_cons_of_mem _ (List.mem_singleton.2 rfl))
  rw [htargets] at hanswered
  rcases hanswered with ⟨t, ht, hnames⟩
  rw [List.mem_singleton.1 ht] at hnames
  exact absurd hnames (by decide : ¬utcZone.dateOf newYear = ⟨2024, 3, 1⟩)

def march : Instant := ⟨2024, 3, 1, 0, 0, 0, 0, by decide⟩

/-- The statement of March. -/
def marchReference : BalanceReference :=
  { statementReference with
    target := { bitcoinTarget .date with target := ⟨march, .date, fun _ => by decide⟩ }
    observed := ⟨march, .date, fun _ => by decide⟩
    supportRef := "march.pdf" }

/-- The source with both statements. -/
def statementsSource : BalanceSource :=
  { statementSource with references := [statementReference, marchReference] }

/-- Each statement answers its date. -/
theorem newYear_and_march_answered :
    ∃ plan, buildCheckPlan (asOfRequest newYearAndMarch) statementsSource = .ok plan ∧
      plan.status = .clean ∧ ∀ value ∈ newYearAndMarch, Answered utcZone plan.targets value := by
  have hclean : (buildCheckPlan (asOfRequest newYearAndMarch) statementsSource).toOption.any
      (fun plan => plan.status = .clean) = true := by
    decide +kernel
  cases hplan : buildCheckPlan (asOfRequest newYearAndMarch) statementsSource with
  | error message =>
      rw [hplan] at hclean
      cases hclean
  | ok plan =>
      rw [hplan] at hclean
      have hstatus : plan.status = .clean := of_decide_eq_true hclean
      refine ⟨plan, rfl, hstatus, ?_⟩
      refine (answered_iff hplan hstatus ⟨rfl, List.cons_ne_nil _ _, rfl⟩).2
        (.byReferences (List.cons_ne_nil _ _) ?_)
      intro value hvalue
      rcases List.mem_pair.1 hvalue with rfl | rfl
      · exact ⟨statementReference.target, by decide +kernel, rfl⟩
      · exact ⟨marchReference.target, by decide +kernel, rfl⟩

end Balances
end Tallylot
