import Tallylot.Balances.Comparison
import Tallylot.Data.Firsts

/-!
# Rerun — the offline check on its own output

An offline check reads the reference file and rewrites it, one reference for each cache key, in the
order of the keys.  A second check then reads the first occurrences of the references in that order.
It finds the same targets (`plan_congr`), and the same result unless dropping or moving references
changed a selection or the closest reference of a message (`repeats_iff`).
-/

namespace Tallylot
namespace Balances

open Data Domain

/-! ## The rewritten file -/

/-- The place of a reference in the rewritten file. -/
def fileOrder (reference : BalanceReference) := cacheOrder (cacheKey reference)

/-- The references as the rewritten file has them, before repeated ones are dropped. -/
def fileSorted (references : List BalanceReference) : List BalanceReference :=
  sortedOn fileOrder references

/-- Where cache keys tell the references apart, the file keeps the first of each. -/
lemma persistedReferences_eq {existing resolved : List BalanceReference}
    (hkeys : Set.InjOn cacheKey {r | r ∈ existing}) (hsub : resolved ⊆ existing) :
    persistedReferences existing resolved = firsts (fileSorted existing) := by
  have hall : Set.InjOn cacheKey {r | r ∈ existing ++ resolved} := by
    refine hkeys.mono ?_
    intro r hr
    rcases List.mem_append.1 hr with h | h
    · exact h
    · exact hsub h
  rw [persistedReferences, mergedReferences, values_ofList hall, firsts_append_of_subset hsub,
    sortedOn_map, List.map_map, fileSorted, ← sortedOn_firsts]
  exact List.map_id _

lemma mem_persisted {existing resolved : List BalanceReference} (hsub : resolved ⊆ existing)
    {r : BalanceReference} (h : r ∈ persistedReferences existing resolved) : r ∈ existing := by
  rcases List.mem_map.1 h with ⟨e, he, rfl⟩
  have hentry := Dict.mem_of_mem_entries_ofList (mem_sortedOn.1 he)
  rcases List.mem_map.1 hentry with ⟨r', hr', hpair⟩
  rw [← (Prod.mk.inj hpair).2]
  rcases List.mem_append.1 hr' with h | h
  · exact h
  · exact hsub h

/-- The file has one reference for each cache key of the references. -/
lemma persisted_of_key {existing resolved : List BalanceReference} {r : BalanceReference}
    (h : r ∈ existing) : ∃ r' ∈ persistedReferences existing resolved, cacheKey r' = cacheKey r := by
  have hkey : cacheKey r ∈ (mergedReferences existing resolved).keys := by
    rw [mergedReferences, Dict.mem_keys_ofList, List.map_map]
    exact List.mem_map.2 ⟨r, List.mem_append_left _ h, rfl⟩
  rcases List.mem_map.1 hkey with ⟨e, he, hsame⟩
  have hentry := Dict.mem_of_mem_entries_ofList he
  rcases List.mem_map.1 hentry with ⟨r', _, hpair⟩
  refine ⟨e.2, List.mem_map.2 ⟨e, mem_sortedOn.2 he, rfl⟩, ?_⟩
  rw [← hsame, ← hpair]

lemma eq_of_persisted {existing resolved : List BalanceReference} {r r' : BalanceReference}
    (h : r ∈ persistedReferences existing resolved)
    (h' : r' ∈ persistedReferences existing resolved) (hkey : cacheKey r = cacheKey r') : r = r' := by
  have hentry : ∀ {r : BalanceReference}, r ∈ persistedReferences existing resolved →
      (mergedReferences existing resolved).get? (cacheKey r) = some r := by
    intro r hr
    rcases List.mem_map.1 hr with ⟨e, he, rfl⟩
    have he := mem_sortedOn.1 he
    rcases List.mem_map.1 (Dict.mem_of_mem_entries_ofList he) with ⟨r', _, hpair⟩
    rw [Dict.get?_eq_some_iff]
    have hfst : cacheKey e.2 = e.1 := by
      rw [← hpair]
    rwa [hfst]
  exact Option.some.inj ((hentry h).symm.trans (hkey ▸ hentry h'))

/-- No reference is lost exactly when cache keys tell the references apart. -/
theorem persisted_complete_iff {existing resolved : List BalanceReference}
    (hsub : resolved ⊆ existing) :
    (∀ r ∈ existing, r ∈ persistedReferences existing resolved) ↔
      Set.InjOn cacheKey {r | r ∈ existing} := by
  constructor
  · intro h r hr r' hr' hkey
    exact eq_of_persisted (h r hr) (h r' hr') hkey
  · intro hkeys r hr
    rw [persistedReferences_eq hkeys hsub]
    simpa [fileSorted] using hr

/-! ## The plan of the second run -/

lemma references_nil_iff {references others : List BalanceReference}
    (h : ∀ t, t ∈ references.map BalanceReference.target ↔
      t ∈ others.map BalanceReference.target) : references = [] ↔ others = [] := by
  rw [← List.map_eq_nil_iff (f := BalanceReference.target), List.eq_nil_iff_forall_not_mem,
    ← List.map_eq_nil_iff (f := BalanceReference.target), List.eq_nil_iff_forall_not_mem]
  exact forall_congr' (fun t => not_congr (h t))

/-- Inputs read the targets of the references only, as a set. -/
lemma inputs_congr (source : BalanceSource) {references : List BalanceReference}
    (h : ∀ t, t ∈ references.map BalanceReference.target ↔
      t ∈ source.references.map BalanceReference.target) :
    buildBalanceSourceInputs { source with references := references } =
      { buildBalanceSourceInputs source with references := references } := by
  have hnil : references = [] ↔ source.references = [] := references_nil_iff h
  have htargets : factBackedTargets { source with references := references } =
      factBackedTargets source := by
    unfold factBackedTargets referenceTargets
    by_cases hempty : source.references = []
    · simp [hempty, hnil.2 hempty]
    · have hother : references ≠ [] := fun heq => hempty (hnil.1 heq)
      simp only [ne_eq, hempty, hother, not_false_eq_true, if_true]
      exact orderedTargets_congr h
  unfold buildBalanceSourceInputs
  by_cases hfacts : source.facts ≠ []
  · simp only [if_pos hfacts, htargets]
  · simp only [if_neg hfacts]
    cases source.snapshotRows <;> rfl

/-- A plan reads the targets of the references only, as a set. -/
theorem plan_congr (request : BalanceCheckRequest) (source : BalanceSource)
    {references : List BalanceReference}
    (h : ∀ t, t ∈ references.map BalanceReference.target ↔
      t ∈ source.references.map BalanceReference.target) :
    buildCheckPlan request { source with references := references } =
      buildCheckPlan request source := by
  have hnil : references = [] ↔ source.references = [] := references_nil_iff h
  have hselected : ∀ values zone, selectReferenceTargetsForAsOfValues references values zone =
      selectReferenceTargetsForAsOfValues source.references values zone := by
    intro values zone
    refine orderedTargets_congr ?_
    intro t
    simp only [List.mem_flatMap, List.mem_filter, h]
  have hplan : ∀ times zone, factBackedCheckPlan source.facts references times zone =
      factBackedCheckPlan source.facts source.references times zone := by
    intro times zone
    unfold factBackedCheckPlan
    rw [hselected]
  have hstored : (buildBalanceSourceInputs source).references = source.references := by
    unfold buildBalanceSourceInputs
    by_cases hfacts : source.facts ≠ []
    · simp only [if_pos hfacts]
    · simp only [if_neg hfacts]
      cases source.snapshotRows <;> rfl
  unfold buildCheckPlan
  rw [inputs_congr source h]
  simp only [hstored, hplan, ne_eq, hnil, manualCheckPlan]

/-! ## Selections of the second run -/

/-- Targets of one match key have the same references. -/
lemma filter_resolved (references : List BalanceReference) (targets : List BalanceTarget)
    (key : BalanceTargetMatchKey) :
    (targets.flatMap (matchingReferences references)).filter
        (fun r => balanceTargetMatchKey r.target = key) =
      (targets.filter (fun t => balanceTargetMatchKey t = key)).flatMap (fun _ =>
        references.filter (fun r => balanceTargetMatchKey r.target = key)) := by
  induction targets with
  | nil => rfl
  | cons t targets ih =>
      rw [List.flatMap_cons, List.filter_append, ih, matchingReferences_eq, List.filter_filter]
      by_cases hkey : balanceTargetMatchKey t = key
      · rw [List.filter_cons_of_pos (by simpa using hkey), List.flatMap_cons]
        congr 1
        exact List.filter_congr (by simp [hkey])
      · rw [List.filter_cons_of_neg (by simpa using hkey)]
        have hnone : references.filter (fun r => decide (balanceTargetMatchKey r.target = key) &&
            decide (balanceTargetMatchKey r.target = balanceTargetMatchKey t)) = [] := by
          refine List.filter_eq_nil_iff.2 ?_
          intro r _ h
          simp only [Bool.and_eq_true, decide_eq_true_eq] at h
          exact hkey (h.2.symm.trans h.1)
        rw [hnone, List.nil_append]

/-- Repeated references stay on top as often as they are repeated. -/
lemma length_topReferences {α : Type} (xs : List α) (references : List BalanceReference) :
    (topReferences (xs.flatMap (fun _ => references))).length =
      xs.length * (topReferences references).length := by
  cases xs with
  | nil => simpa using topReferences_eq_nil_iff.2 rfl
  | cons x xs =>
      have hmem : ∀ r, r ∈ (x :: xs).flatMap (fun _ => references) ↔ r ∈ references := by
        intro r
        rw [List.mem_flatMap]
        exact ⟨fun ⟨_, _, hr⟩ => hr, fun hr => ⟨x, List.mem_cons_self, hr⟩⟩
      have hkind : topKindAmong ((x :: xs).flatMap (fun _ => references)) referencePrecedence =
          topKindAmong references referencePrecedence := by
        unfold topKindAmong
        congr 1
        funext kind
        rw [Bool.eq_iff_iff, List.any_eq_true, List.any_eq_true]
        simp only [hmem]
      unfold topReferences
      rw [hkind]
      cases topKindAmong references referencePrecedence with
      | none => simp
      | some kind =>
          simp [List.filter_flatMap, List.length_flatMap, Nat.add_mul, Nat.add_comm]

/-- A selection sees which references there are, and whether there are two. -/
lemma selectionOf_congr {t : BalanceTarget} {xs ys : List BalanceReference}
    (hmem : ∀ r, r ∈ xs ↔ r ∈ ys)
    (hkind : ∀ r ∈ xs, ∀ r' ∈ xs, r.referenceKind = r'.referenceKind)
    (htwo : 2 ≤ xs.length ↔ 2 ≤ ys.length) : selectionOf t xs = selectionOf t ys := by
  match xs, ys with
  | [], [] => rfl
  | [], b :: _ => simpa using hmem b
  | a :: _, [] => simpa using hmem a
  | [a], [b] =>
      have hab : a = b := by simpa using hmem a
      rw [hab]
  | [_], _ :: _ :: _ => simp at htwo
  | _ :: _ :: _, [_] => simp at htwo
  | a :: _ :: _, b :: _ :: _ =>
      have hab := hkind a List.mem_cons_self b ((hmem b).2 List.mem_cons_self)
      simp only [selectionOf, hab]

/-! ## When a second run repeats the first -/

/-- The references of the highest kind for a target. -/
def topFor (references : List BalanceReference) (t : BalanceTarget) : List BalanceReference :=
  topReferences
    (references.filter (fun r => balanceTargetMatchKey r.target = balanceTargetMatchKey t))

/-- Number of targets with the match key of a target. -/
def sharers (targets : List BalanceTarget) (t : BalanceTarget) : Nat :=
  (targets.filter (fun u => balanceTargetMatchKey u = balanceTargetMatchKey t)).length

/-- The references of the balance of a target, at its instant or another one, that no other reference of
the balance is closer than. -/
def closestReferences (t : BalanceTarget) (references : List BalanceReference) :
    List BalanceReference :=
  references.filter (fun r => sameBalance r.target t ∧
    ∀ r' ∈ references, sameBalance r'.target t → referenceDistance t r ≤ referenceDistance t r')

/-- What dropping repeated references and sorting the others must not change. -/
structure RerunSafe (targets : List BalanceTarget) (references : List BalanceReference) : Prop where
  /-- The rewritten file has room for every reference. -/
  keys : Set.InjOn cacheKey {r | r ∈ references}
  /-- A target whose match key no other target has is not selected from copies of one reference. -/
  alone : ∀ t ∈ targets,
    sharers targets t = 1 →
      (topFor references t).length ≤ 1 ∨ ∃ r ∈ topFor references t, ∃ r' ∈ topFor references t, r ≠ r'
  /-- Of the closest references to a target without a reference, the first one in the stored order and
  the first one in the order of the file have one kind and one time. -/
  nearest : ∀ t ∈ targets,
    (∀ r ∈ references, balanceTargetMatchKey r.target ≠ balanceTargetMatchKey t) →
      ((closestReferences t (fileSorted references)).head?).map
          (fun r => (r.referenceKind, r.target.target.text)) =
        ((closestReferences t references).head?).map
          (fun r => (r.referenceKind, r.target.target.text))

/-- The references that the second run reads. -/
def rewritten (references : List BalanceReference) : List BalanceReference :=
  firsts (fileSorted references)

lemma mem_rewritten {references : List BalanceReference} {r : BalanceReference} :
    r ∈ rewritten references ↔ r ∈ references := by
  simp [rewritten, fileSorted]

lemma mem_topFor_rewritten {references : List BalanceReference} {t : BalanceTarget}
    {r : BalanceReference} : r ∈ topFor (rewritten references) t ↔ r ∈ topFor references t := by
  refine mem_topReferences_congr ?_ r
  intro r
  rw [List.mem_filter, List.mem_filter, mem_rewritten]

lemma nodup_topFor_rewritten (references : List BalanceReference) (t : BalanceTarget) :
    (topFor (rewritten references) t).Nodup := by
  unfold topFor topReferences
  cases topKindAmong _ referencePrecedence with
  | none => exact List.nodup_nil
  | some kind => exact ((nodup_firsts _).filter _).filter _

lemma unresolved_rewritten (references : List BalanceReference) (targets : List BalanceTarget) :
    unresolvedTargets (rewritten references) targets = unresolvedTargets references targets := by
  unfold unresolvedTargets
  refine List.filter_congr ?_
  intro t _
  rw [matchingReferences_eq, matchingReferences_eq, decide_eq_decide, List.filter_eq_nil_iff,
    List.filter_eq_nil_iff]
  simp only [mem_rewritten]

lemma nearest_rewritten (t : BalanceTarget) (references : List BalanceReference) :
    nearestReference t (rewritten references) = nearestReference t (fileSorted references) := by
  rw [nearestReference, rewritten, filter_firsts, argmin_firsts]
  rfl

lemma nearestReference_eq (t : BalanceTarget) (references : List BalanceReference) :
    nearestReference t references = (closestReferences t references).head? := by
  rw [nearestReference, argmin_eq_head?, closestReferences, List.filter_filter]
  congr 1
  refine List.filter_congr ?_
  intro r _
  simp only [List.mem_filter, and_imp, Bool.decide_and, Bool.decide_eq_true, Bool.and_comm]

/-- Targets without a stored reference, and what holds of them. -/
lemma forall_unresolved {references : List BalanceReference} {targets : List BalanceTarget}
    {P : BalanceTarget → Prop} :
    (∀ t ∈ unresolvedTargets references targets, P t) ↔
      ∀ t ∈ targets,
        (∀ r ∈ references, balanceTargetMatchKey r.target ≠ balanceTargetMatchKey t) → P t := by
  simp only [unresolvedTargets, matchingReferences_eq, List.mem_filter, decide_eq_true_eq,
    List.filter_eq_nil_iff, and_imp, ne_eq]

lemma label_append_inj {k k' : BalanceReferenceKind} {a b : String}
    (h : k.label ++ " " ++ ("reference target_at is " ++ a ++ ".") =
      k'.label ++ " " ++ ("reference target_at is " ++ b ++ ".")) : k = k' ∧ a = b := by
  have hhead : k.label.toList.head? = k'.label.toList.head? := by
    have hfirst := congrArg (fun s => s.toList.head?) h
    cases k <;> cases k' <;> simp [BalanceReferenceKind.label, String.toList_append] at hfirst ⊢
  have hkind : k = k' := by
    cases k <;> cases k' <;> simp [BalanceReferenceKind.label] at hhead <;> rfl
  subst hkind
  exact ⟨rfl, by simpa [← String.toList_inj, String.toList_append] using h⟩

lemma append_nested (a b k s r t e : String) :
    a ++ b ++ k ++ s ++ r ++ t ++ e = a ++ (b ++ (k ++ s ++ (r ++ t ++ e))) := by
  simp only [String.append_assoc]

/-- Text of a message after the text that all messages share. -/
def nearestText : Option BalanceReference → String
  | none => ""
  | some nearest =>
      " Closest available " ++ (nearest.referenceKind.label ++ " " ++
        ("reference target_at is " ++ nearest.target.target.text ++ "."))

lemma missingReferenceMessage_eq (r : Option BalanceReference) :
    missingReferenceMessage r =
      "No balance reference satisfied the requested target." ++ nearestText r := by
  have hsplit : "No balance reference satisfied the requested target. " ++ "Closest available " =
      "No balance reference satisfied the requested target." ++ " Closest available " := by
    decide +kernel
  cases r with
  | none => exact String.append_empty.symm
  | some nearest =>
      calc
        missingReferenceMessage (some nearest)
            = "No balance reference satisfied the requested target. " ++ "Closest available " ++
                nearest.referenceKind.label ++ " " ++ "reference target_at is " ++
                nearest.target.target.text ++ "." := rfl
        _ = "No balance reference satisfied the requested target." ++ " Closest available " ++
                nearest.referenceKind.label ++ " " ++ "reference target_at is " ++
                nearest.target.target.text ++ "." := by rw [hsplit]
        _ = "No balance reference satisfied the requested target." ++ nearestText (some nearest) :=
          append_nested _ _ _ _ _ _ _

lemma nearestText_ne (r : BalanceReference) : nearestText none ≠ nearestText (some r) := by
  intro h
  have hempty := (String.append_eq_empty_iff.1 h.symm).1
  exact absurd hempty (by decide)

/-- A message names the kind and the target time of the nearest reference. -/
lemma missingReferenceMessage_inj {r r' : Option BalanceReference} :
    missingReferenceMessage r = missingReferenceMessage r' ↔
      r.map (fun r => (r.referenceKind, r.target.target.text)) =
        r'.map (fun r => (r.referenceKind, r.target.target.text)) := by
  rw [missingReferenceMessage_eq, missingReferenceMessage_eq, String.append_right_inj]
  match r, r' with
  | none, none => exact iff_of_true rfl rfl
  | none, some r' => exact iff_of_false (nearestText_ne r') (Option.some_ne_none _).symm
  | some r, none => exact iff_of_false (nearestText_ne r).symm (Option.some_ne_none _)
  | some r, some r' =>
      refine (String.append_right_inj " Closest available ").trans ?_
      constructor
      · intro h
        rcases label_append_inj h with ⟨hkind, htext⟩
        rw [Option.map_some, Option.map_some, hkind, htext]
      · intro h
        rcases Prod.mk.inj (Option.some.inj h) with ⟨hkind, htext⟩
        rw [hkind, htext]

/-! ## The second run -/

/-- The request without hydration. -/
def offline (request : BalanceCheckRequest) : BalanceCheckRequest :=
  { request with hydrateMissingReferences := false }

/-- The comparison of a plan with the stored references. -/
def compareStored (source : String) (plan : CheckPlan) (references : List BalanceReference) :
    BalanceCheckResult :=
  comparePlan source plan
    (plan.targets.flatMap (matchingReferences references),
      (unresolvedTargets references plan.targets).map
        (missingReferenceIssue references "missing_balance_reference"))

/-- The reference file after an offline check of a plan. -/
def storedAfter (plan : CheckPlan) (references : List BalanceReference) : List BalanceReference :=
  persistedReferences references (plan.targets.flatMap (matchingReferences references))

lemma matched_subset (references : List BalanceReference) (targets : List BalanceTarget) :
    targets.flatMap (matchingReferences references) ⊆ references := by
  intro r hr
  rcases List.mem_flatMap.1 hr with ⟨t, _, ht⟩
  rw [matchingReferences_eq] at ht
  exact (List.mem_filter.1 ht).1

/-- An offline check of a runnable plan. -/
lemma offline_check {providers : Option BalanceProviders} {request : BalanceCheckRequest}
    {source : BalanceSource} {plan : CheckPlan}
    (hplan : buildCheckPlan (offline request) source = .ok plan) (hstatus : plan.status = .clean) :
    checkSourceInput providers (offline request) source =
      (compareStored source.name plan source.references,
        { source with references := storedAfter plan source.references }) := by
  rw [check_of_plan hplan hstatus]
  simp only [offline, resolve_offline, compareStored, storedAfter]

/-- The rewritten file has the targets of the references. -/
lemma mem_targets_storedAfter (plan : CheckPlan) (references : List BalanceReference)
    (t : BalanceTarget) :
    t ∈ (storedAfter plan references).map BalanceReference.target ↔
      t ∈ references.map BalanceReference.target := by
  have hsub := matched_subset references plan.targets
  constructor
  · intro h
    rcases List.mem_map.1 h with ⟨r, hr, rfl⟩
    exact List.mem_map_of_mem (mem_persisted hsub hr)
  · intro h
    rcases List.mem_map.1 h with ⟨r, hr, rfl⟩
    rcases @persisted_of_key _ (plan.targets.flatMap (matchingReferences references)) _ hr with
      ⟨r', hr', hkey⟩
    have htarget : r'.target = r.target := congrArg Prod.fst hkey
    exact List.mem_map.2 ⟨r', hr', htarget⟩

/-- The second offline check compares the same plan with the rewritten file. -/
lemma second_check {providers : Option BalanceProviders} {request : BalanceCheckRequest}
    {source : BalanceSource} {plan : CheckPlan}
    (hplan : buildCheckPlan (offline request) source = .ok plan) (hstatus : plan.status = .clean) :
    (checkSourceInput providers (offline request)
        (checkSourceInput providers (offline request) source).2).1 =
      compareStored source.name plan (storedAfter plan source.references) := by
  have hsecond : buildCheckPlan (offline request)
      { source with references := storedAfter plan source.references } = .ok plan := by
    rw [plan_congr _ _ (mem_targets_storedAfter plan source.references), hplan]
  rw [offline_check hplan hstatus, offline_check hsecond hstatus]

/-- The references of the highest kind that a comparison has for the key of a target. -/
def topResolved (references : List BalanceReference) (targets : List BalanceTarget)
    (t : BalanceTarget) : List BalanceReference :=
  topReferences ((targets.flatMap (matchingReferences references)).filter
    (fun r => balanceTargetMatchKey r.target = balanceTargetMatchKey t))

lemma sharers_pos {targets : List BalanceTarget} {t : BalanceTarget} (h : t ∈ targets) :
    0 < sharers targets t :=
  List.length_pos_of_mem (List.mem_filter.2 ⟨h, by simp⟩)

lemma length_topResolved (references : List BalanceReference) (targets : List BalanceTarget)
    (t : BalanceTarget) :
    (topResolved references targets t).length =
      sharers targets t * (topFor references t).length := by
  rw [topResolved, filter_resolved, length_topReferences]
  rfl

lemma mem_topResolved {references : List BalanceReference} {targets : List BalanceTarget}
    {t : BalanceTarget} (h : t ∈ targets) {r : BalanceReference} :
    r ∈ topResolved references targets t ↔ r ∈ topFor references t := by
  refine mem_topReferences_congr ?_ r
  intro r
  rw [filter_resolved, List.mem_flatMap]
  constructor
  · rintro ⟨_, _, hr⟩
    exact hr
  · intro hr
    exact ⟨t, List.mem_filter.2 ⟨h, by simp⟩, hr⟩

/-- Both runs see a conflict for a target, or neither does. -/
lemma conflict_rewritten_iff {references : List BalanceReference} {targets : List BalanceTarget}
    {t : BalanceTarget} (ht : t ∈ targets) :
    (2 ≤ (topResolved (rewritten references) targets t).length ↔
        2 ≤ (topResolved references targets t).length) ↔
      (sharers targets t = 1 → (topFor references t).length ≤ 1 ∨
        ∃ r ∈ topFor references t, ∃ r' ∈ topFor references t, r ≠ r') := by
  have hpos := sharers_pos ht
  have htwo := two_le_length_iff (nodup_topFor_rewritten references t)
  simp only [mem_topFor_rewritten] at htwo
  rw [length_topResolved, length_topResolved]
  by_cases hone : sharers targets t = 1
  · rw [hone, Nat.one_mul, Nat.one_mul, htwo]
    constructor
    · intro hsame _
      by_cases hlength : (topFor references t).length ≤ 1
      · exact Or.inl hlength
      · exact Or.inr (hsame.2 (by omega))
    · intro halone
      constructor
      · rintro ⟨r, hr, r', hr', hne⟩
        exact two_le_length_of_ne hr hr' hne
      · intro hlong
        rcases halone rfl with hshort | hdistinct
        · omega
        · exact hdistinct
  · -- copies for two targets are a conflict as soon as there is a reference
    have hmany : ∀ m, 2 ≤ sharers targets t * m ↔ m ≠ 0 := by
      intro m
      constructor
      · rintro h rfl
        omega
      · intro hm
        calc
          2 ≤ sharers targets t := by omega
          _ ≤ sharers targets t * m := Nat.le_mul_of_pos_right _ (Nat.pos_of_ne_zero hm)
    have hempty : (topFor (rewritten references) t).length ≠ 0 ↔
        (topFor references t).length ≠ 0 := by
      rw [ne_eq, ne_eq, List.length_eq_zero_iff, List.length_eq_zero_iff,
        List.eq_nil_iff_forall_not_mem, List.eq_nil_iff_forall_not_mem]
      simp only [mem_topFor_rewritten]
    rw [hmany, hmany]
    exact iff_of_true hempty (fun h => absurd h hone)

/-- The selection of the second run. -/
lemma selection_rewritten {references : List BalanceReference} {targets : List BalanceTarget}
    {t : BalanceTarget} (ht : t ∈ targets)
    (hconflict : 2 ≤ (topResolved (rewritten references) targets t).length ↔
      2 ≤ (topResolved references targets t).length) :
    selectionOf t (topResolved (rewritten references) targets t) =
      selectionOf t (topResolved references targets t) := by
  refine selectionOf_congr ?_ ?_ hconflict
  · intro r
    rw [mem_topResolved ht, mem_topResolved ht, mem_topFor_rewritten]
  · intro r hr r' hr'
    exact kind_of_mem_topReferences hr hr'

/-! ## Assertions of the second run -/

/-- Assertion and issues of a snapshot with its selection. -/
def assertSnapshot (snapshot : BalanceSnapshot) (selection : Selection) :
    BalanceAssertion × List IssueRecord :=
  (buildAssertion snapshot.target (some snapshot) selection,
    selection.issues ++
      if (buildAssertion snapshot.target (some snapshot) selection).status ≠ .matched then
        [assertionIssue (buildAssertion snapshot.target (some snapshot) selection)]
      else [])

lemma status_assertSnapshot {snapshot : BalanceSnapshot} {selection : Selection} :
    (assertSnapshot snapshot selection).1.status = .referenceConflict ↔
      selection.status = some .referenceConflict := by
  constructor
  · exact status_buildAssertion_conflict
  · intro h
    simp [assertSnapshot, buildAssertion, assertionStatus, h]

/-- In a comparison of a covered plan every key is that of a snapshot. -/
lemma compareKey_of_covered {plan : CheckPlan} (hcovered : plan.Covered)
    (references : List BalanceReference) {key : BalanceTargetMatchKey}
    (hkey : key ∈ comparisonKeys plan.snapshots
      (plan.targets.flatMap (matchingReferences references))) :
    ∃ snapshot ∈ plan.snapshots, snapshot.target ∈ plan.targets ∧
      balanceTargetMatchKey snapshot.target = key ∧ ∀ references,
        compareKey plan.snapshots (plan.targets.flatMap (matchingReferences references)) key =
          some (assertSnapshot snapshot
            (selectionOf snapshot.target (topResolved references plan.targets snapshot.target))) := by
  have hsome : ∃ snapshot ∈ plan.snapshots, balanceTargetMatchKey snapshot.target = key := by
    rcases mem_comparisonKeys.1 hkey with h | ⟨r, hr, hrkey⟩
    · exact h
    · rcases List.mem_flatMap.1 hr with ⟨t, ht, hmatch⟩
      rw [matchingReferences_eq] at hmatch
      rcases hcovered.snapshot_of_target t ht with ⟨snapshot, hsnapshot, rfl⟩
      have hsame := of_decide_eq_true (List.mem_filter.1 hmatch).2
      exact ⟨snapshot, hsnapshot, hsame.symm.trans hrkey⟩
  cases hfind : plan.snapshots.find? (fun s => balanceTargetMatchKey s.target = key) with
  | none =>
      rcases hsome with ⟨snapshot, hsnapshot, hsame⟩
      exact absurd (by simpa using hsame) (List.find?_eq_none.1 hfind snapshot hsnapshot)
  | some snapshot =>
      have hmem := List.mem_of_find?_eq_some hfind
      have hsame : balanceTargetMatchKey snapshot.target = key := by
        simpa using List.find?_some hfind
      refine ⟨snapshot, hmem, hcovered.target_of_snapshot snapshot hmem, hsame, ?_⟩
      intro references
      rw [compareKey, hfind, assertKey]
      simp only [assertionTarget?, Option.map_some, Option.some_or, selectedReference_eq, topResolved,
        hsame, assertSnapshot]

lemma mem_resolved_rewritten {references : List BalanceReference} {targets : List BalanceTarget}
    {r : BalanceReference} :
    r ∈ targets.flatMap (matchingReferences (rewritten references)) ↔
      r ∈ targets.flatMap (matchingReferences references) := by
  simp only [List.mem_flatMap, matchingReferences_eq, List.mem_filter, mem_rewritten]

lemma comparisonKeys_rewritten (snapshots : List BalanceSnapshot)
    (references : List BalanceReference) (targets : List BalanceTarget) :
    comparisonKeys snapshots (targets.flatMap (matchingReferences (rewritten references))) =
      comparisonKeys snapshots (targets.flatMap (matchingReferences references)) := by
  have hmem : ∀ key,
      key ∈ comparisonKeys snapshots (targets.flatMap (matchingReferences (rewritten references))) ↔
        key ∈ comparisonKeys snapshots (targets.flatMap (matchingReferences references)) := by
    intro key
    rw [mem_comparisonKeys, mem_comparisonKeys]
    simp only [mem_resolved_rewritten]
  refine sortedOn_eq_of_perm ?_ (fun _ _ _ _ h => h)
  refine (List.perm_ext_iff_of_nodup (List.nodup_dedup _) (List.nodup_dedup _)).2 ?_
  intro key
  simpa [comparisonKeys, mem_sortedOn] using hmem key

lemma eq_of_filterMap_eq {α β : Type} {f g : α → Option β} {xs : List α}
    (hf : ∀ a ∈ xs, (f a).isSome) (hg : ∀ a ∈ xs, (g a).isSome)
    (h : xs.filterMap f = xs.filterMap g) : ∀ a ∈ xs, f a = g a := by
  induction xs with
  | nil => simp
  | cons x xs ih =>
      rcases Option.isSome_iff_exists.1 (hf x List.mem_cons_self) with ⟨b, hb⟩
      rcases Option.isSome_iff_exists.1 (hg x List.mem_cons_self) with ⟨c, hc⟩
      rw [List.filterMap_cons_some hb, List.filterMap_cons_some hc] at h
      rcases List.cons.inj h with ⟨hbc, htail⟩
      intro a ha
      rcases List.mem_cons.1 ha with rfl | ha
      · rw [hb, hc, hbc]
      · exact ih (fun a ha => hf a (List.mem_cons_of_mem _ ha))
          (fun a ha => hg a (List.mem_cons_of_mem _ ha)) htail a ha

/-- Where every selection sees a conflict in both files or in neither, the comparisons agree. -/
lemma comparison_rewritten {plan : CheckPlan} (hcovered : plan.Covered)
    {references : List BalanceReference}
    (h : ∀ t ∈ plan.targets, sharers plan.targets t = 1 → (topFor references t).length ≤ 1 ∨
      ∃ r ∈ topFor references t, ∃ r' ∈ topFor references t, r ≠ r') :
    assertBalanceTargets plan.snapshots
        (plan.targets.flatMap (matchingReferences (rewritten references))) =
      assertBalanceTargets plan.snapshots
        (plan.targets.flatMap (matchingReferences references)) := by
  have hpairs : (comparisonKeys plan.snapshots
        (plan.targets.flatMap (matchingReferences references))).filterMap
          (compareKey plan.snapshots
            (plan.targets.flatMap (matchingReferences (rewritten references)))) =
      (comparisonKeys plan.snapshots
        (plan.targets.flatMap (matchingReferences references))).filterMap
          (compareKey plan.snapshots (plan.targets.flatMap (matchingReferences references))) := by
    refine List.filterMap_congr ?_
    intro key hkey
    rcases compareKey_of_covered hcovered references hkey with ⟨first, _, hfirst, _, hall⟩
    rw [hall, hall, selection_rewritten hfirst ((conflict_rewritten_iff hfirst).2 (h _ hfirst))]
  rw [assertBalanceTargets_eq, assertBalanceTargets_eq, comparisonKeys_rewritten, hpairs]

/-- The assertions agree exactly where every selection sees a conflict in both files or in neither. -/
lemma assertions_rewritten_iff {plan : CheckPlan} (hcovered : plan.Covered)
    (references : List BalanceReference) :
    (assertBalanceTargets plan.snapshots
        (plan.targets.flatMap (matchingReferences (rewritten references)))).assertions =
      (assertBalanceTargets plan.snapshots
        (plan.targets.flatMap (matchingReferences references))).assertions ↔
    ∀ t ∈ plan.targets, sharers plan.targets t = 1 → (topFor references t).length ≤ 1 ∨
      ∃ r ∈ topFor references t, ∃ r' ∈ topFor references t, r ≠ r' := by
  constructor
  · intro h t ht
    rw [assertBalanceTargets_eq, assertBalanceTargets_eq, comparisonKeys_rewritten] at h
    simp only [List.map_filterMap] at h
    have hpointwise := eq_of_filterMap_eq
      (fun key hkey => by
        rcases compareKey_of_covered hcovered _ hkey with ⟨_, _, _, _, hall⟩
        rw [hall]
        rfl)
      (fun key hkey => by
        rcases compareKey_of_covered hcovered _ hkey with ⟨_, _, _, _, hall⟩
        rw [hall]
        rfl) h
    rcases hcovered.snapshot_of_target t ht with ⟨snapshot, hsnapshot, rfl⟩
    have hkey : balanceTargetMatchKey snapshot.target ∈ comparisonKeys plan.snapshots
        (plan.targets.flatMap (matchingReferences references)) :=
      mem_comparisonKeys.2 (Or.inl ⟨snapshot, hsnapshot, rfl⟩)
    rcases compareKey_of_covered hcovered references hkey with ⟨first, _, _, hsame, hall⟩
    have hassertion := hpointwise _ hkey
    rw [hall, hall, Option.map_some, Option.map_some, Option.some_inj] at hassertion
    have hstatus := congrArg (fun a => a.status = .referenceConflict) hassertion
    simp only [status_assertSnapshot, status_selectionOf, eq_iff_iff] at hstatus
    refine (conflict_rewritten_iff ht).1 ?_
    simpa only [topResolved, hsame] using hstatus
  · intro h
    exact congrArg BalanceAssertionResult.assertions (comparison_rewritten hcovered h)

/-- The messages about unmatched targets agree where they name the same nearest references. -/
lemma messages_rewritten_iff (references : List BalanceReference) (targets : List BalanceTarget) :
    (unresolvedTargets references targets).map
        (missingReferenceIssue (rewritten references) "missing_balance_reference") =
      (unresolvedTargets references targets).map
        (missingReferenceIssue references "missing_balance_reference") ↔
    ∀ t ∈ targets,
      (∀ r ∈ references, balanceTargetMatchKey r.target ≠ balanceTargetMatchKey t) →
        ((closestReferences t (fileSorted references)).head?).map
            (fun r => (r.referenceKind, r.target.target.text)) =
          ((closestReferences t references).head?).map
            (fun r => (r.referenceKind, r.target.target.text)) := by
  rw [List.map_inj_left, ← forall_unresolved]
  refine forall₂_congr ?_
  intro t _
  rw [← nearestReference_eq, ← nearestReference_eq, ← nearest_rewritten, ← missingReferenceMessage_inj]
  constructor
  · intro h
    exact congrArg IssueRecord.message h
  · intro h
    rw [missingReferenceIssue, missingReferenceIssue, h]

lemma compareStored_rewritten_iff {source : String} {plan : CheckPlan} (hcovered : plan.Covered)
    {references : List BalanceReference} (hkeys : Set.InjOn cacheKey {r | r ∈ references}) :
    compareStored source plan (rewritten references) = compareStored source plan references ↔
      RerunSafe plan.targets references := by
  have hassertions := assertions_rewritten_iff hcovered references
  have hmessages := messages_rewritten_iff references plan.targets
  unfold compareStored comparePlan
  rw [unresolved_rewritten]
  constructor
  · intro h
    rcases BalanceCheckResult.mk.inj h with ⟨hsame, hissues, _⟩
    -- the messages stand between issues of the same number
    rw [List.append_assoc, List.append_assoc, List.append_cancel_left_eq] at hissues
    have hsegment := (List.append_inj hissues (by simp)).1
    exact ⟨hkeys, hassertions.1 hsame, hmessages.1 hsegment⟩
  · intro h
    rw [comparison_rewritten hcovered h.alone, hmessages.2 h.nearest]

/-- What the second of two offline checks of a source finds. -/
def Repeats (providers : Option BalanceProviders) (request : BalanceCheckRequest)
    (source : BalanceSource) : Prop :=
  (checkSourceInput providers (offline request)
      (checkSourceInput providers (offline request) source).2).1 =
    (checkSourceInput providers (offline request) source).1 ∧
  ∀ r ∈ source.references, r ∈ (checkSourceInput providers (offline request) source).2.references

lemma repeats_iff (providers : Option BalanceProviders) (request : BalanceCheckRequest)
    (source : BalanceSource) :
    Repeats providers request source ↔
      ∀ plan, buildCheckPlan (offline request) source = .ok plan → plan.status = .clean →
        RerunSafe plan.targets source.references := by
  unfold Repeats
  have hstill : ∀ result, checkSourceInput providers (offline request) source = (result, source) →
      ((checkSourceInput providers (offline request)
          (checkSourceInput providers (offline request) source).2).1 =
        (checkSourceInput providers (offline request) source).1 ∧
      ∀ r ∈ source.references,
        r ∈ (checkSourceInput providers (offline request) source).2.references) := by
    intro result h
    rw [h]
    exact ⟨congrArg Prod.fst h, fun r hr => hr⟩
  cases hplan : buildCheckPlan (offline request) source with
  | error message =>
      refine iff_of_true ?_ (fun plan h => by cases h)
      exact hstill ⟨[], [], emptyRecord source.name .failed "" message⟩
        (by rw [checkSourceInput, hplan])
  | ok plan =>
      by_cases hstatus : plan.status = .clean
      · have hfile := persisted_complete_iff (matched_subset source.references plan.targets)
        have hcovered := covered_of_plan hplan
        have hsecond := @second_check providers request source plan hplan hstatus
        rw [hsecond, offline_check hplan hstatus]
        constructor
        · rintro ⟨hsame, hkept⟩ plan' h _
          have hkeys := hfile.1 hkept
          rw [storedAfter,
            persistedReferences_eq hkeys (matched_subset source.references plan.targets)] at hsame
          rw [← Except.ok.inj h]
          exact (compareStored_rewritten_iff hcovered hkeys).1 hsame
        · intro h
          have hsafe := h plan rfl hstatus
          refine ⟨?_, hfile.2 hsafe.keys⟩
          rw [storedAfter,
            persistedReferences_eq hsafe.keys (matched_subset source.references plan.targets)]
          exact (compareStored_rewritten_iff hcovered hsafe.keys).2 hsafe
      · refine iff_of_true ?_ ?_
        · refine hstill ⟨[], [], emptyRecord source.name plan.status plan.notRunnableReason ""⟩ ?_
          rw [checkSourceInput, hplan]
          simp only [hstatus, ne_eq, not_false_eq_true, if_true]
        · intro plan' h hclean
          rw [← Except.ok.inj h] at hclean
          exact absurd hclean hstatus

end Balances
end Tallylot
