import Tallylot.Balances.Conflicts
import Mathlib.Data.Finset.Card

/-!
# Inspect — what inspection counts and what the check reports

Inspection intersects sets of keys that contain the stripped texts of a target, its instant and its
precision; the check looks references up by match key.  The two agree when the keys do
(`inspection_agrees`), and the keys disagree when a target and a reference, or two targets, differ in
precision alone.
-/

namespace Tallylot
namespace Balances

open Data Domain

/-! ## Inspection -/

abbrev InspectKey := String × String × String × String × String × String

/-- `_target_key` -/
def targetKey (t : BalanceTarget) : InspectKey :=
  (strip t.source, strip t.locationId, strip t.instrumentId,
    if strip t.balanceKind = "" then "available" else strip t.balanceKind,
    strip t.targetAt.isoText, t.targetPrecision.text)

def targetKeys (targets : List BalanceTarget) : Finset InspectKey :=
  (targets.map targetKey).toFinset

def referenceKeysOfKind (references : List BalanceReference) (kind : BalanceReferenceKind) :
    Finset InspectKey :=
  targetKeys ((references.filter (fun r => r.referenceKind = kind)).map BalanceReference.target)

def allReferenceKeys (references : List BalanceReference) : Finset InspectKey :=
  referenceKeysOfKind references .sourceDocument ∪ referenceKeysOfKind references .networkApi ∪
    referenceKeysOfKind references .operatorAssertion

inductive BalanceOfflineReadyStatus
  | ready
  | missingReferences
  | noBalanceTargets
  | noBalanceInputs
  deriving DecidableEq, Repr

structure BalanceInspectRecord where
  source : String
  inputMode : BalanceInputMode
  targetCount : Nat
  snapshotCount : Nat
  referenceRowCount : Nat
  matchedReferenceCount : Nat
  missingReferenceCount : Nat
  sourceDocumentCount : Nat
  networkApiCount : Nat
  operatorAssertionCount : Nat
  offlineReady : BalanceOfflineReadyStatus
  deriving DecidableEq, Repr

def offlineReadyStatus (inputMode : BalanceInputMode) (targetCount matchedReferenceCount : Nat) :
    BalanceOfflineReadyStatus :=
  if inputMode = .empty then .noBalanceInputs
  else if targetCount = 0 then .noBalanceTargets
  else if matchedReferenceCount < targetCount then .missingReferences
  else .ready

def buildInspectRecord (inputs : BalanceSourceInputs) : BalanceInspectRecord :=
  let keys := targetKeys inputs.targets
  let matchedReferenceCount := (keys ∩ allReferenceKeys inputs.references).card
  { source := inputs.source
    inputMode := inputs.inputMode
    targetCount := keys.card
    snapshotCount := (targetKeys (inputs.snapshots.map BalanceSnapshot.target)).card
    referenceRowCount := inputs.references.length
    matchedReferenceCount := matchedReferenceCount
    missingReferenceCount := keys.card - matchedReferenceCount
    sourceDocumentCount := (keys ∩ referenceKeysOfKind inputs.references .sourceDocument).card
    networkApiCount := (keys ∩ referenceKeysOfKind inputs.references .networkApi).card
    operatorAssertionCount :=
      (keys ∩ referenceKeysOfKind inputs.references .operatorAssertion).card
    offlineReady := offlineReadyStatus inputs.inputMode keys.card matchedReferenceCount }

/-! ## Keys that agree -/

/-- Inspection finds a reference for the target. -/
def Inspected (references : List BalanceReference) (t : BalanceTarget) : Prop :=
  ∃ r ∈ references, targetKey r.target = targetKey t

/-- The check finds a reference for the target. -/
def Matched (references : List BalanceReference) (t : BalanceTarget) : Prop :=
  ∃ r ∈ references, balanceTargetMatchKey r.target = balanceTargetMatchKey t

instance (references : List BalanceReference) (t : BalanceTarget) :
    Decidable (Inspected references t) := inferInstanceAs (Decidable (∃ r ∈ references, _))

instance (references : List BalanceReference) (t : BalanceTarget) :
    Decidable (Matched references t) := inferInstanceAs (Decidable (∃ r ∈ references, _))

/-- Both keys find the same references, and tell the same unmatched targets apart. -/
structure KeysAgree (references : List BalanceReference) (targets : List BalanceTarget) : Prop where
  found : ∀ t ∈ targets, Inspected references t ↔ Matched references t
  apart : ∀ t ∈ targets, ∀ u ∈ targets, ¬Matched references t → ¬Matched references u →
    (targetKey t = targetKey u ↔ balanceTargetMatchKey t = balanceTargetMatchKey u)

lemma mem_allReferenceKeys {references : List BalanceReference} {key : InspectKey} :
    key ∈ allReferenceKeys references ↔ ∃ r ∈ references, targetKey r.target = key := by
  simp only [allReferenceKeys, referenceKeysOfKind, targetKeys, Finset.mem_union, List.mem_toFinset,
    List.mem_map, List.mem_filter, decide_eq_true_eq]
  constructor
  · rintro ((⟨_, ⟨r, ⟨hr, _⟩, rfl⟩, hkey⟩ | ⟨_, ⟨r, ⟨hr, _⟩, rfl⟩, hkey⟩) |
      ⟨_, ⟨r, ⟨hr, _⟩, rfl⟩, hkey⟩) <;> exact ⟨r, hr, hkey⟩
  · rintro ⟨r, hr, hkey⟩
    cases hkind : r.referenceKind with
    | sourceDocument => exact Or.inl (Or.inl ⟨_, ⟨r, ⟨hr, hkind⟩, rfl⟩, hkey⟩)
    | networkApi => exact Or.inl (Or.inr ⟨_, ⟨r, ⟨hr, hkind⟩, rfl⟩, hkey⟩)
    | operatorAssertion => exact Or.inr ⟨_, ⟨r, ⟨hr, hkind⟩, rfl⟩, hkey⟩

/-- Keys of the targets for which inspection misses a reference. -/
lemma missingReferenceCount_eq (inputs : BalanceSourceInputs) :
    (buildInspectRecord inputs).missingReferenceCount =
      ((inputs.targets.toFinset.filter (fun t => ¬Inspected inputs.references t)).image
        targetKey).card := by
  have hmissing : targetKeys inputs.targets \ allReferenceKeys inputs.references =
      (inputs.targets.toFinset.filter (fun t => ¬Inspected inputs.references t)).image targetKey := by
    ext key
    simp only [Finset.mem_sdiff, mem_allReferenceKeys, targetKeys, List.mem_toFinset, List.mem_map,
      Finset.mem_image, Finset.mem_filter]
    constructor
    · rintro ⟨⟨t, ht, rfl⟩, hnone⟩
      exact ⟨t, ⟨ht, hnone⟩, rfl⟩
    · rintro ⟨t, ⟨ht, hnone⟩, rfl⟩
      exact ⟨⟨t, ht, rfl⟩, hnone⟩
  have hcard := Finset.card_sdiff_add_card_inter (targetKeys inputs.targets)
    (allReferenceKeys inputs.references)
  rw [hmissing] at hcard
  simp only [buildInspectRecord]
  omega

/-- Inspection calls a source with targets ready when it misses no reference. -/
lemma offlineReady_iff {inputs : BalanceSourceInputs} (hmode : inputs.inputMode ≠ .empty)
    (htargets : inputs.targets ≠ []) :
    (buildInspectRecord inputs).offlineReady = .ready ↔
      (buildInspectRecord inputs).missingReferenceCount = 0 := by
  have hcount : (targetKeys inputs.targets).card ≠ 0 := by
    rcases List.exists_mem_of_ne_nil _ htargets with ⟨t, ht⟩
    have hmem : targetKey t ∈ targetKeys inputs.targets :=
      List.mem_toFinset.2 (List.mem_map_of_mem ht)
    exact Finset.card_ne_zero_of_mem hmem
  simp only [buildInspectRecord, offlineReadyStatus, if_neg hmode, if_neg hcount]
  split_ifs with hlt
  · simpa using Nat.sub_ne_zero_of_lt hlt
  · simpa using Nat.sub_eq_zero_of_le (not_lt.1 hlt)

/-! ## The check without named instants -/

/-- The default check without as-of values. -/
def offlineCheckRequest : BalanceCheckRequest where
  sources := []
  asOfValues := []
  timezone := none
  hydrateMissingReferences := false
  referencePolicy := "default"

/-- Targets for which the resolver reports a missing reference, as match keys. -/
def missingMatchKeys (references : List BalanceReference) (targets : List BalanceTarget) :
    List BalanceTargetMatchKey :=
  ((unresolvedTargets references targets).map balanceTargetMatchKey).dedup

lemma mem_unresolvedTargets {references : List BalanceReference} {targets : List BalanceTarget}
    {t : BalanceTarget} :
    t ∈ unresolvedTargets references targets ↔ t ∈ targets ∧ ¬Matched references t := by
  simp [unresolvedTargets, matchingReferences_eq, List.filter_eq_nil_iff, Matched]

lemma length_missingMatchKeys (references : List BalanceReference) (targets : List BalanceTarget) :
    (missingMatchKeys references targets).length =
      ((targets.toFinset.filter (fun t => ¬Matched references t)).image
        balanceTargetMatchKey).card := by
  rw [missingMatchKeys, ← List.card_toFinset]
  congr 1
  ext key
  simp only [List.mem_toFinset, List.mem_map, mem_unresolvedTargets, Finset.mem_image,
    Finset.mem_filter]

lemma offlinePlan {source : BalanceSource} (htargets : (buildBalanceSourceInputs source).targets ≠ []) :
    ∃ plan, buildCheckPlan offlineCheckRequest source = .ok plan ∧ plan.status = .clean ∧
      plan.targets = (buildBalanceSourceInputs source).targets ∧
      ∀ issue ∈ plan.snapshotIssues, issue.kind ≠ "missing_balance_reference" := by
  have hpolicy : normalizeReferencePolicy "default" = .ok "default" := by decide
  have hmode : (buildBalanceSourceInputs source).inputMode ≠ .empty := by
    unfold buildBalanceSourceInputs at htargets ⊢
    by_cases hfacts : source.facts ≠ []
    · simp [if_pos hfacts]
    · simp only [if_neg hfacts] at htargets ⊢
      cases hrows : source.snapshotRows with
      | some rows => simp
      | none => simp [hrows] at htargets
  have hcoverage : ∀ issue ∈ missingFactCoverageIssues source.facts
      (buildBalanceSourceInputs source).targets, issue.kind ≠ "missing_balance_reference" := by
    intro issue hissue
    rcases List.mem_map.1 hissue with ⟨t, _, rfl⟩
    change "missing_fact_coverage_for_reference_target" ≠ _
    decide
  simp only [buildCheckPlan, offlineCheckRequest, parseTargetTimeValues, hpolicy, bind, Except.bind]
  cases hinput : (buildBalanceSourceInputs source).inputMode with
  | empty => exact absurd hinput hmode
  | factBacked =>
      refine ⟨_, rfl, rfl, rfl, ?_⟩
      dsimp only
      split_ifs
      · exact hcoverage
      · simp
  | manualOnly =>
      refine ⟨_, rfl, rfl, rfl, ?_⟩
      simp

/-- The check reports a missing reference exactly for the unmatched targets. -/
lemma check_reports_iff (providers : Option BalanceProviders) {source : BalanceSource}
    (htargets : (buildBalanceSourceInputs source).targets ≠ []) :
    (∀ issue ∈ (checkSourceInput providers offlineCheckRequest source).1.issues,
        issue.kind ≠ "missing_balance_reference") ↔
      missingMatchKeys source.references (buildBalanceSourceInputs source).targets = [] := by
  rcases offlinePlan htargets with ⟨plan, hplan, hstatus, hsame, hsnapshot⟩
  have hassertion : ∀ issue ∈ (assertBalanceTargets plan.snapshots
      (plan.targets.flatMap (matchingReferences source.references))).issues,
      issue.kind ≠ "missing_balance_reference" := by
    intro issue hissue
    rcases kind_of_issue hissue with hkind | hkind | ⟨status, hkind⟩
    · rw [hkind]
      decide
    · rw [hkind]
      decide
    · rw [hkind]
      cases status <;> decide
  rw [issues_of_offline hplan hstatus rfl, ← hsame]
  constructor
  · intro hnone
    have hnil : unresolvedTargets source.references plan.targets = [] := by
      by_contra hne
      rcases List.exists_mem_of_ne_nil _ hne with ⟨t, ht⟩
      refine hnone (missingReferenceIssue source.references "missing_balance_reference" t) ?_ rfl
      exact List.mem_append_left _ (List.mem_append_right _ (List.mem_map_of_mem ht))
    simp [missingMatchKeys, hnil]
  · intro hnone issue hissue
    have hnil : unresolvedTargets source.references plan.targets = [] := by
      by_contra hne
      rcases List.exists_mem_of_ne_nil _ hne with ⟨t, ht⟩
      have hmem : balanceTargetMatchKey t ∈ missingMatchKeys source.references plan.targets :=
        List.mem_dedup.2 (List.mem_map_of_mem ht)
      rw [hnone] at hmem
      cases hmem
    rw [hnil, List.map_nil, List.append_nil] at hissue
    rcases List.mem_append.1 hissue with h | h
    · exact hsnapshot issue h
    · exact hassertion issue (List.mem_filter.1 h).1

/-- Inspection and the offline check of a source report the same missing references. -/
def InspectionAgrees (providers : Option BalanceProviders) (source : BalanceSource) : Prop :=
  let inputs := buildBalanceSourceInputs source
  ((buildInspectRecord inputs).offlineReady = .ready ↔
      ∀ issue ∈ (checkSourceInput providers offlineCheckRequest source).1.issues,
        issue.kind ≠ "missing_balance_reference") ∧
    (buildInspectRecord inputs).missingReferenceCount =
      (missingMatchKeys source.references inputs.targets).length

/-! ## Equal counts -/

section

variable {α β γ : Type} [DecidableEq β] [DecidableEq γ]

/-- A key that tells fewer elements apart has at most as many values, and as many only when it tells
the same elements apart. -/
lemma card_image_le_of_kernel {s : Finset α} {f : α → β} {g : α → γ}
    (h : ∀ a ∈ s, ∀ b ∈ s, f a = f b → g a = g b) :
    (s.image g).card ≤ (s.image f).card ∧
      ((s.image g).card = (s.image f).card → ∀ a ∈ s, ∀ b ∈ s, g a = g b → f a = f b) := by
  have hpairs : ((s.image (fun a => (f a, g a))).image Prod.fst).card =
      (s.image (fun a => (f a, g a))).card := by
    refine Finset.card_image_of_injOn ?_
    intro p hp q hq hpq
    rcases Finset.mem_image.1 hp with ⟨a, ha, rfl⟩
    rcases Finset.mem_image.1 hq with ⟨b, hb, rfl⟩
    exact Prod.ext hpq (h a ha b hb hpq)
  have hfst : (s.image (fun a => (f a, g a))).image Prod.fst = s.image f := by
    rw [Finset.image_image]
    rfl
  have hsnd : (s.image (fun a => (f a, g a))).image Prod.snd = s.image g := by
    rw [Finset.image_image]
    rfl
  rw [hfst] at hpairs
  rw [← hsnd, hpairs]
  refine ⟨Finset.card_image_le, ?_⟩
  intro hcard a ha b hb hab
  have hinj := Finset.card_image_iff.1 hcard
  have hsame := hinj (Finset.mem_coe.2 (Finset.mem_image_of_mem _ ha))
    (Finset.mem_coe.2 (Finset.mem_image_of_mem _ hb)) hab
  exact congrArg Prod.fst hsame

end

/-- The texts of a target have no white space at their ends. -/
def StrippedTarget (t : BalanceTarget) : Prop :=
  Stripped t.source ∧ Stripped t.locationId ∧ Stripped t.instrumentId ∧ Stripped t.balanceKind ∧
    t.balanceKind ≠ ""

lemma stripped_isoText (t : Instant) : Stripped t.isoText := by
  have hdigit : ∀ n : Nat, isSpaceChar (Instant.digit n) = false := by
    intro n
    have hlt : n % 10 < 10 := Nat.mod_lt _ (by decide)
    unfold Instant.digit
    generalize n % 10 = k at hlt ⊢
    interval_cases k <;> rfl
  have hends : ∃ middle, t.isoChars = Instant.digit (t.year / 1000) :: (middle ++ ['0']) :=
    ⟨(t.isoChars.drop 1).take (t.isoChars.length - 2), by
      simp only [Instant.isoChars, Instant.dateChars, Instant.timeChars, Instant.pad4,
        Instant.pad2, Instant.pad6]
      split <;> rfl⟩
  rcases hends with ⟨middle, hends⟩
  rw [Instant.isoText, hends]
  exact stripped_ofList (hdigit _) (by decide)

/-- Stripped targets of one inspection key have one match key. -/
lemma matchKey_of_targetKey {t u : BalanceTarget} (ht : StrippedTarget t) (hu : StrippedTarget u) :
    targetKey t = targetKey u → balanceTargetMatchKey t = balanceTargetMatchKey u := by
  intro h
  rcases ht with ⟨ht1, ht2, ht3, ht4, ht5⟩
  rcases hu with ⟨hu1, hu2, hu3, hu4, hu5⟩
  unfold Stripped at ht1 ht2 ht3 ht4 hu1 hu2 hu3 hu4
  have hiso : ∀ i : Instant, strip i.isoText = i.isoText := stripped_isoText
  simp only [targetKey, ht1, ht2, ht3, ht4, hu1, hu2, hu3, hu4, if_neg ht5, if_neg hu5, hiso,
    Prod.mk.injEq] at h
  rcases h with ⟨h1, h2, h3, h4, h5, _⟩
  simp only [balanceTargetMatchKey, h1, h2, h3, h4, Instant.isoText_injective h5]

section

variable {references : List BalanceReference} {targets : List BalanceTarget}

lemma counts_of_keysAgree (h : KeysAgree references targets) :
    ((targets.toFinset.filter (fun t => ¬Inspected references t)).image targetKey).card =
      ((targets.toFinset.filter (fun t => ¬Matched references t)).image
        balanceTargetMatchKey).card := by
  have hsame : targets.toFinset.filter (fun t => ¬Inspected references t) =
      targets.toFinset.filter (fun t => ¬Matched references t) := by
    refine Finset.filter_congr ?_
    intro t ht
    rw [h.found t (List.mem_toFinset.1 ht)]
  rw [hsame]
  have hmem : ∀ t ∈ targets.toFinset.filter (fun t => ¬Matched references t),
      t ∈ targets ∧ ¬Matched references t := by
    intro t ht
    have hfilter := Finset.mem_filter.1 ht
    exact ⟨List.mem_toFinset.1 hfilter.1, hfilter.2⟩
  refine le_antisymm ?_ ?_
  · refine (card_image_le_of_kernel ?_).1
    intro t ht u hu hkey
    exact (h.apart t (hmem t ht).1 u (hmem u hu).1 (hmem t ht).2 (hmem u hu).2).2 hkey
  · refine (card_image_le_of_kernel ?_).1
    intro t ht u hu hkey
    exact (h.apart t (hmem t ht).1 u (hmem u hu).1 (hmem t ht).2 (hmem u hu).2).1 hkey

lemma keysAgree_of_counts (hstripped : ∀ t ∈ targets, StrippedTarget t)
    (hreferences : ∀ r ∈ references, StrippedTarget r.target)
    (hcount : ((targets.toFinset.filter (fun t => ¬Inspected references t)).image targetKey).card =
      ((targets.toFinset.filter (fun t => ¬Matched references t)).image
        balanceTargetMatchKey).card) :
    KeysAgree references targets := by
  have hmem : ∀ t ∈ targets.toFinset.filter (fun t => ¬Matched references t),
      t ∈ targets ∧ ¬Matched references t := by
    intro t ht
    have hfilter := Finset.mem_filter.1 ht
    exact ⟨List.mem_toFinset.1 hfilter.1, hfilter.2⟩
  have hmatched : ∀ t ∈ targets, Inspected references t → Matched references t := by
    rintro t ht ⟨r, hr, hkey⟩
    exact ⟨r, hr, matchKey_of_targetKey (hreferences r hr) (hstripped t ht) hkey⟩
  have hsubset : targets.toFinset.filter (fun t => ¬Matched references t) ⊆
      targets.toFinset.filter (fun t => ¬Inspected references t) := by
    intro t ht
    have hfilter := Finset.mem_filter.1 ht
    exact Finset.mem_filter.2
      ⟨hfilter.1, fun hin => hfilter.2 (hmatched t (List.mem_toFinset.1 hfilter.1) hin)⟩
  have himages := Finset.image_subset_image (f := targetKey) hsubset
  have hkernel := @card_image_le_of_kernel BalanceTarget InspectKey BalanceTargetMatchKey _ _
    (targets.toFinset.filter (fun t => ¬Matched references t)) targetKey balanceTargetMatchKey
    (fun t ht u hu hkey =>
      matchKey_of_targetKey (hstripped t (hmem t ht).1) (hstripped u (hmem u hu).1) hkey)
  -- the unmatched targets have as many inspection keys as the uninspected ones
  have hle := Finset.card_le_card himages
  have hequal := Finset.eq_of_subset_of_card_le himages (by omega)
  constructor
  · intro t ht
    refine ⟨hmatched t ht, ?_⟩
    intro hin
    by_contra hnot
    have hkey : targetKey t ∈
        (targets.toFinset.filter (fun t => ¬Matched references t)).image targetKey := by
      rw [hequal]
      exact Finset.mem_image_of_mem _ (Finset.mem_filter.2 ⟨List.mem_toFinset.2 ht, hnot⟩)
    rcases Finset.mem_image.1 hkey with ⟨u, hu, hutkey⟩
    have hsame := matchKey_of_targetKey (hstripped u (hmem u hu).1) (hstripped t ht) hutkey
    rcases hin with ⟨r, hr, hrkey⟩
    exact (hmem u hu).2 ⟨r, hr, hrkey.trans hsame.symm⟩
  · intro t ht u hu hnt hnu
    refine ⟨matchKey_of_targetKey (hstripped t ht) (hstripped u hu), ?_⟩
    intro hkey
    refine hkernel.2 (by omega) t ?_ u ?_ hkey
    · exact Finset.mem_filter.2 ⟨List.mem_toFinset.2 ht, hnt⟩
    · exact Finset.mem_filter.2 ⟨List.mem_toFinset.2 hu, hnu⟩

end

/-- Inspection agrees with the check where the keys agree, and, for texts without white space at
their ends, nowhere else. -/
theorem inspection_agrees (providers : Option BalanceProviders) (source : BalanceSource)
    (htargets : (buildBalanceSourceInputs source).targets ≠ []) :
    (KeysAgree source.references (buildBalanceSourceInputs source).targets →
      InspectionAgrees providers source) ∧
    ((∀ t ∈ (buildBalanceSourceInputs source).targets, StrippedTarget t) →
      (∀ r ∈ source.references, StrippedTarget r.target) →
        InspectionAgrees providers source →
          KeysAgree source.references (buildBalanceSourceInputs source).targets) := by
  have hreferences : (buildBalanceSourceInputs source).references = source.references := by
    unfold buildBalanceSourceInputs
    dsimp only
    split
    · rfl
    · split <;> rfl
  have hmode : (buildBalanceSourceInputs source).inputMode ≠ .empty := by
    rcases offlinePlan htargets with ⟨plan, hplan, hstatus, _⟩
    intro hempty
    simp only [buildCheckPlan, offlineCheckRequest, parseTargetTimeValues, bind, Except.bind,
      hempty] at hplan
    have hpolicy : normalizeReferencePolicy "default" = .ok "default" := by decide
    rw [hpolicy] at hplan
    rw [← Except.ok.inj hplan] at hstatus
    cases hstatus
  have hmissing := missingReferenceCount_eq (buildBalanceSourceInputs source)
  rw [hreferences] at hmissing
  constructor
  · intro hagree
    have hcount : (buildInspectRecord (buildBalanceSourceInputs source)).missingReferenceCount =
        (missingMatchKeys source.references (buildBalanceSourceInputs source).targets).length := by
      rw [hmissing, length_missingMatchKeys, counts_of_keysAgree hagree]
    refine ⟨?_, hcount⟩
    rw [offlineReady_iff hmode htargets, check_reports_iff providers htargets, hcount]
    exact List.length_eq_zero_iff
  · rintro hstripped hstored ⟨_, hcount⟩
    rw [hmissing, length_missingMatchKeys] at hcount
    exact keysAgree_of_counts hstripped hstored hcount

/-- A snapshot of a date, and an operator's reference for its midnight. -/
def dateSource (precision : TemporalPrecision) : BalanceSource where
  name := "coinbase"
  facts := []
  snapshotRows := some
    [{ target := bitcoinTarget precision, quantity := Decimal.ofParts 5 (-1),
       snapshotBasis := "manual" }]
  references := [operatorReference]
  timezone := .error "unknown timezone"

/-- Inspection misses the reference that the check finds. -/
theorem midnight_reference_not_inspected :
    ¬∀ (providers : Option BalanceProviders) (source : BalanceSource),
      (buildBalanceSourceInputs source).targets ≠ [] → InspectionAgrees providers source := by
  intro h
  have hagrees := (h none (dateSource .date) (by decide)).2
  have hinspected : (buildInspectRecord
      (buildBalanceSourceInputs (dateSource .date))).missingReferenceCount = 1 := by
    decide +kernel
  have hchecked : missingMatchKeys (dateSource .date).references
      (buildBalanceSourceInputs (dateSource .date)).targets = [] := by
    decide +kernel
  rw [hinspected, hchecked] at hagrees
  cases hagrees

/-- A snapshot of the reference's own precision. -/
theorem inspection_agrees_timestamp : InspectionAgrees none (dateSource .timestamp) := by
  refine (inspection_agrees none (dateSource .timestamp) (by decide)).1 ?_
  constructor
  · decide +kernel
  · intro t ht u hu _ _
    rw [List.mem_singleton.1 ht, List.mem_singleton.1 hu]
    simp

end Balances
end Tallylot
