import Tallylot.Balances.Check
import Tallylot.Data.Parts
import Mathlib.Data.List.Induction

/-!
# Comparison — one assertion for each match key

`assertBalanceTargets` makes one assertion for each match key that occurs among the snapshots or the
references (`matchKeys_assertions`), from the first snapshot and all references of that key.  The
plans of the check have a snapshot for every target and no others (`CheckPlan.Covered`).
-/

namespace Tallylot
namespace Balances

open Data Domain

/-! ## Keys -/

/-- The index keeps the first snapshot of a key. -/
lemma get?_indexSnapshots (snapshots : List BalanceSnapshot) (key : BalanceTargetMatchKey) :
    (indexSnapshots snapshots).indexed.get? key =
      snapshots.find? (fun snapshot => balanceTargetMatchKey snapshot.target = key) := by
  have hloop : ∀ (snapshots : List BalanceSnapshot) (acc : SnapshotIndexing),
      (snapshots.foldl indexSnapshot acc).indexed.get? key =
        (acc.indexed.get? key).or
          (snapshots.find? (fun snapshot => balanceTargetMatchKey snapshot.target = key)) := by
    intro snapshots
    induction snapshots with
    | nil => simp
    | cons x xs ih =>
        intro acc
        rw [List.foldl_cons, ih]
        by_cases hx : (acc.indexed.get? (balanceTargetMatchKey x.target)).isSome
        · by_cases hkey : balanceTargetMatchKey x.target = key
          · rw [hkey] at hx
            rcases Option.isSome_iff_exists.1 hx with ⟨s, hs⟩
            simp [indexSnapshot, hkey, hs]
          · simp [indexSnapshot, hx, hkey]
        · by_cases hkey : balanceTargetMatchKey x.target = key
          · have hnone : acc.indexed.get? key = none := by simpa [hkey] using hx
            simp [indexSnapshot, hkey, hnone, Dict.get?_set]
          · simp [indexSnapshot, hx, hkey, Dict.get?_set, Ne.symm hkey]
  simpa [indexSnapshots] using hloop snapshots ⟨Dict.empty, Dict.empty, []⟩

lemma mem_keys_indexSnapshots {snapshots : List BalanceSnapshot} {key : BalanceTargetMatchKey} :
    key ∈ (indexSnapshots snapshots).indexed.keys ↔
      ∃ snapshot ∈ snapshots, balanceTargetMatchKey snapshot.target = key := by
  have hnone := Dict.get?_eq_none_iff (indexSnapshots snapshots).indexed key
  rw [get?_indexSnapshots, List.find?_eq_none] at hnone
  constructor
  · intro hmem
    by_contra hno
    refine hnone.1 ?_ hmem
    intro snapshot hsnapshot hkey
    exact hno ⟨snapshot, hsnapshot, by simpa using hkey⟩
  · rintro ⟨snapshot, hsnapshot, hkey⟩
    by_contra hnot
    exact hnone.2 hnot snapshot hsnapshot (by simpa using hkey)

/-- The keys of a comparison, in their order. -/
def comparisonKeys (snapshots : List BalanceSnapshot) (references : List BalanceReference) :
    List BalanceTargetMatchKey :=
  sortedOn id
    ((indexSnapshots snapshots).indexed.keys ++ (referencesByTarget references).keys).dedup

lemma nodup_comparisonKeys (snapshots : List BalanceSnapshot) (references : List BalanceReference) :
    (comparisonKeys snapshots references).Nodup :=
  ((sortedOn_perm _ _).nodup_iff).2 (List.nodup_dedup _)

lemma mem_comparisonKeys {snapshots : List BalanceSnapshot} {references : List BalanceReference}
    {key : BalanceTargetMatchKey} :
    key ∈ comparisonKeys snapshots references ↔
      (∃ snapshot ∈ snapshots, balanceTargetMatchKey snapshot.target = key) ∨
        ∃ reference ∈ references, balanceTargetMatchKey reference.target = key := by
  rw [comparisonKeys, mem_sortedOn, List.mem_dedup, List.mem_append, mem_keys_indexSnapshots]
  simp [referencesByTarget, Dict.mem_keys_group]

/-! ## The assertion of a key -/

/-- Assertion and issues of one key. -/
def compareKey (snapshots : List BalanceSnapshot) (references : List BalanceReference)
    (key : BalanceTargetMatchKey) : Option (BalanceAssertion × List IssueRecord) :=
  assertKey (snapshots.find? (fun snapshot => balanceTargetMatchKey snapshot.target = key))
    (references.filter (fun reference => balanceTargetMatchKey reference.target = key))

lemma assertBalanceTargets_eq (snapshots : List BalanceSnapshot)
    (references : List BalanceReference) :
    assertBalanceTargets snapshots references =
      { assertions :=
          ((comparisonKeys snapshots references).filterMap
            (compareKey snapshots references)).map Prod.fst
        issues :=
          (indexSnapshots snapshots).issues ++
            (((comparisonKeys snapshots references).filterMap
              (compareKey snapshots references)).map Prod.snd).flatten } := by
  have hkey : ∀ key, assertKey ((indexSnapshots snapshots).indexed.get? key)
      (((referencesByTarget references).get? key).getD []) =
        compareKey snapshots references key := by
    intro key
    have hgroup : ((referencesByTarget references).get? key).getD [] =
        references.filter (fun r => balanceTargetMatchKey r.target = key) :=
      Dict.getD_get?_group _ references key
    rw [compareKey, hgroup, get?_indexSnapshots]
  simp only [assertBalanceTargets, comparisonKeys, hkey]

/-- Every key of a comparison has an assertion, about a target of that key. -/
lemma compareKey_some {snapshots : List BalanceSnapshot} {references : List BalanceReference}
    {key : BalanceTargetMatchKey} (h : key ∈ comparisonKeys snapshots references) :
    ∃ p, compareKey snapshots references key = some p ∧ balanceTargetMatchKey p.1.target = key := by
  have htarget : ∃ t, assertionTarget?
      (snapshots.find? (fun snapshot => balanceTargetMatchKey snapshot.target = key))
      (references.filter (fun reference => balanceTargetMatchKey reference.target = key)) = some t ∧
        balanceTargetMatchKey t = key := by
    cases hfind : snapshots.find? (fun s => balanceTargetMatchKey s.target = key) with
    | some snapshot =>
        exact ⟨snapshot.target, rfl, by simpa using List.find?_some hfind⟩
    | none =>
        have hsome : ∃ reference ∈ references, balanceTargetMatchKey reference.target = key := by
          rcases mem_comparisonKeys.1 h with ⟨snapshot, hsnapshot, hkey⟩ | hreference
          · exact absurd (by simpa using hkey) (List.find?_eq_none.1 hfind snapshot hsnapshot)
          · exact hreference
        cases hfilter : references.filter (fun r => balanceTargetMatchKey r.target = key) with
        | nil =>
            rcases hsome with ⟨reference, hreference, hkey⟩
            exact absurd (by simpa using hkey) (List.filter_eq_nil_iff.1 hfilter reference hreference)
        | cons reference rest =>
            have hmem : reference ∈
                references.filter (fun r => balanceTargetMatchKey r.target = key) := by
              simp [hfilter]
            exact ⟨reference.target, rfl, by simpa using (List.mem_filter.1 hmem).2⟩
  rcases htarget with ⟨t, ht, hkey⟩
  exact ⟨_, by rw [compareKey, assertKey, ht]; rfl, hkey⟩

/-- The assertions of a comparison are those of its keys, in their order. -/
theorem matchKeys_assertions (snapshots : List BalanceSnapshot)
    (references : List BalanceReference) :
    (assertBalanceTargets snapshots references).assertions.map
        (fun assertion => balanceTargetMatchKey assertion.target) =
      comparisonKeys snapshots references := by
  rw [assertBalanceTargets_eq]
  have hkeys : ∀ keys : List BalanceTargetMatchKey,
      (∀ key ∈ keys, key ∈ comparisonKeys snapshots references) →
        ((keys.filterMap (compareKey snapshots references)).map Prod.fst).map
          (fun assertion => balanceTargetMatchKey assertion.target) = keys := by
    intro keys
    induction keys with
    | nil => simp
    | cons key keys ih =>
        intro hall
        rcases compareKey_some (hall key List.mem_cons_self) with ⟨p, hp, hkey⟩
        have htail := ih (fun k hk => hall k (List.mem_cons_of_mem _ hk))
        rw [List.filterMap_cons_some hp, List.map_cons, List.map_cons, hkey, htail]
  exact hkeys _ (fun key h => h)

/-- A key of a comparison has one assertion. -/
lemma assertion_of_key {snapshots : List BalanceSnapshot} {references : List BalanceReference}
    {key : BalanceTargetMatchKey} (h : key ∈ comparisonKeys snapshots references) :
    ((assertBalanceTargets snapshots references).assertions.filter (fun assertion =>
      balanceTargetMatchKey assertion.target = key)).length = 1 := by
  have hcount : ((assertBalanceTargets snapshots references).assertions.map
      (fun assertion => balanceTargetMatchKey assertion.target)).count key = 1 := by
    rw [matchKeys_assertions]
    exact List.count_eq_one_of_mem (nodup_comparisonKeys _ _) h
  rw [List.count, List.countP_map, List.countP_eq_length_filter] at hcount
  refine Eq.trans (congrArg List.length (List.filter_congr ?_)) hcount
  intro assertion _
  exact (beq_eq_decide _ _).symm

/-- An assertion comes from the comparison of its key. -/
lemma compareKey_of_assertion {snapshots : List BalanceSnapshot}
    {references : List BalanceReference} {assertion : BalanceAssertion}
    (h : assertion ∈ (assertBalanceTargets snapshots references).assertions) :
    ∃ issues, compareKey snapshots references (balanceTargetMatchKey assertion.target) =
      some (assertion, issues) := by
  rw [assertBalanceTargets_eq] at h
  rcases List.mem_map.1 h with ⟨p, hp, rfl⟩
  rcases List.mem_filterMap.1 hp with ⟨key, hkey, hcompared⟩
  rcases compareKey_some hkey with ⟨p', hcompared', hsame⟩
  have hp' : p = p' := Option.some.inj (hcompared.symm.trans hcompared')
  rw [hp', hsame]
  exact ⟨p'.2, hcompared'⟩

/-! ## Selection -/

/-- The highest kind of some references. -/
def topKindAmong (references : List BalanceReference) (kinds : List BalanceReferenceKind) :
    Option BalanceReferenceKind :=
  kinds.find? (fun kind => references.any (fun reference => reference.referenceKind = kind))

/-- The references of the highest kind. -/
def topReferences (references : List BalanceReference) : List BalanceReference :=
  match topKindAmong references referencePrecedence with
  | none => []
  | some kind => references.filter (fun reference => reference.referenceKind = kind)

/-- What is selected from references of one kind. -/
def selectionOf (t : BalanceTarget) : List BalanceReference → Selection
  | [] => ⟨none, none, []⟩
  | [reference] => ⟨some reference, none, []⟩
  | reference :: _ => ⟨none, some .referenceConflict, [conflictIssue t reference.referenceKind]⟩

lemma selectedReference_eq (t : BalanceTarget) (references : List BalanceReference) :
    selectedReference t references = selectionOf t (topReferences references) := by
  have hkinds : ∀ kinds, selectedReferenceAmong t references kinds =
      selectionOf t
        (match topKindAmong references kinds with
        | none => []
        | some kind => references.filter (fun reference => reference.referenceKind = kind)) := by
    intro kinds
    induction kinds with
    | nil => rfl
    | cons kind kinds ih =>
        cases hfilter : references.filter (fun reference => reference.referenceKind = kind) with
        | nil =>
            have hany : references.any (fun reference => reference.referenceKind = kind) = false := by
              simpa [List.filter_eq_nil_iff] using hfilter
            simpa [selectedReferenceAmong, topKindAmong, hfilter, List.find?_cons, hany] using ih
        | cons reference rest =>
            have hmem : reference ∈
                references.filter (fun reference => reference.referenceKind = kind) := by
              simp [hfilter]
            have hany : references.any (fun reference => reference.referenceKind = kind) = true :=
              List.any_eq_true.2 ⟨reference, (List.mem_filter.1 hmem).1, (List.mem_filter.1 hmem).2⟩
            have hkind : reference.referenceKind = kind := by
              simpa using (List.mem_filter.1 hmem).2
            cases rest with
            | nil => simp [selectedReferenceAmong, topKindAmong, hfilter, hany, selectionOf]
            | cons other rest =>
                simp [selectedReferenceAmong, topKindAmong, hfilter, hany, selectionOf, hkind]
  exact hkinds referencePrecedence

lemma topReferences_eq_nil_iff {references : List BalanceReference} :
    topReferences references = [] ↔ references = [] := by
  constructor
  · intro h
    by_contra hne
    rcases List.exists_mem_of_ne_nil _ hne with ⟨reference, hreference⟩
    unfold topReferences at h
    cases hkind : topKindAmong references referencePrecedence with
    | none =>
        have hnot := List.find?_eq_none.1 hkind reference.referenceKind
          (by cases reference.referenceKind <;> decide)
        refine hnot (List.any_eq_true.2 ⟨reference, hreference, by simp⟩)
    | some kind =>
        have hany := List.find?_some hkind
        rcases List.any_eq_true.1 hany with ⟨r, hr, hrkind⟩
        simp only [hkind, List.filter_eq_nil_iff] at h
        exact h r hr hrkind
  · rintro rfl
    rfl

/-- A single reference is on top. -/
lemma topReferences_singleton (reference : BalanceReference) :
    topReferences [reference] = [reference] := by
  have hkind : topKindAmong [reference] referencePrecedence = some reference.referenceKind := by
    unfold topKindAmong
    cases hkind : reference.referenceKind <;> simp [referencePrecedence, hkind]
  simp [topReferences, hkind]

/-- At most one reference is selected without a conflict. -/
lemma selectedReference_of_le_one {t : BalanceTarget} {references : List BalanceReference}
    (h : references.length ≤ 1) :
    selectedReference t references = ⟨references.head?, none, []⟩ := by
  rw [selectedReference_eq]
  match references with
  | [] => rfl
  | [reference] =>
      rw [topReferences_singleton]
      rfl
  | _ :: _ :: rest => simp at h

/-- Only the set of the references decides which of them are on top. -/
lemma mem_topReferences_congr {xs ys : List BalanceReference} (h : ∀ r, r ∈ xs ↔ r ∈ ys)
    (r : BalanceReference) : r ∈ topReferences xs ↔ r ∈ topReferences ys := by
  have hkind : topKindAmong xs referencePrecedence = topKindAmong ys referencePrecedence := by
    unfold topKindAmong
    congr 1
    funext kind
    rw [Bool.eq_iff_iff, List.any_eq_true, List.any_eq_true]
    simp only [h]
  unfold topReferences
  rw [hkind]
  cases topKindAmong ys referencePrecedence with
  | none => rfl
  | some kind => simp [h]

lemma kind_of_mem_topReferences {references : List BalanceReference} {r r' : BalanceReference}
    (h : r ∈ topReferences references) (h' : r' ∈ topReferences references) :
    r.referenceKind = r'.referenceKind := by
  unfold topReferences at h h'
  cases hkind : topKindAmong references referencePrecedence with
  | none => simp [hkind] at h
  | some kind =>
      simp only [hkind, List.mem_filter, decide_eq_true_eq] at h h'
      exact h.2.trans h'.2.symm

lemma two_le_length_of_ne {α : Type} {xs : List α} {a b : α} (ha : a ∈ xs) (hb : b ∈ xs)
    (hne : a ≠ b) : 2 ≤ xs.length := by
  match xs with
  | [] => cases ha
  | [c] =>
      rw [List.mem_singleton] at ha hb
      exact absurd (ha.trans hb.symm) hne
  | _ :: _ :: _ => simp

lemma two_le_length_iff {α : Type} {xs : List α} (h : xs.Nodup) :
    2 ≤ xs.length ↔ ∃ a ∈ xs, ∃ b ∈ xs, a ≠ b := by
  constructor
  · intro hlength
    match xs with
    | [] => simp at hlength
    | [_] => simp at hlength
    | a :: b :: rest =>
        have hab : a ≠ b := fun heq => (List.nodup_cons.1 h).1 (heq ▸ List.mem_cons_self)
        exact ⟨a, by simp, b, by simp, hab⟩
  · rintro ⟨a, ha, b, hb, hne⟩
    exact two_le_length_of_ne ha hb hne

lemma status_buildAssertion_conflict {t : BalanceTarget} {snapshot : Option BalanceSnapshot}
    {selection : Selection} :
    (buildAssertion t snapshot selection).status = .referenceConflict →
      selection.status = some .referenceConflict := by
  intro h
  by_contra hne
  simp only [buildAssertion, assertionStatus, if_neg hne] at h
  cases hs : snapshot with
  | none => simp [hs] at h
  | some s =>
      cases hr : selection.reference with
      | none => simp [hs, hr] at h
      | some r =>
          simp only [hs, hr] at h
          split at h <;> cases h

lemma status_selectionOf {t : BalanceTarget} {references : List BalanceReference} :
    (selectionOf t references).status = some .referenceConflict ↔ 2 ≤ references.length := by
  match references with
  | [] => simp [selectionOf]
  | [_] => simp [selectionOf]
  | _ :: _ :: _ => simp [selectionOf]

/-- A conflict is reported for a key with two or more references of the highest kind. -/
lemma length_of_conflict {snapshots : List BalanceSnapshot} {references : List BalanceReference}
    {assertion : BalanceAssertion}
    (h : assertion ∈ (assertBalanceTargets snapshots references).assertions)
    (hstatus : assertion.status = .referenceConflict) :
    2 ≤ (topReferences (references.filter (fun r =>
      balanceTargetMatchKey r.target = balanceTargetMatchKey assertion.target))).length := by
  rcases compareKey_of_assertion h with ⟨issues, hcompared⟩
  rcases Option.map_eq_some_iff.1 hcompared with ⟨t, _, hpair⟩
  have hassertion := congrArg Prod.fst hpair
  dsimp only at hassertion
  rw [← hassertion] at hstatus
  have hselection := status_buildAssertion_conflict hstatus
  rwa [selectedReference_eq, status_selectionOf] at hselection

lemma conflict_of_length {references : List BalanceReference} {key : BalanceTargetMatchKey}
    (snapshots : List BalanceSnapshot)
    (h : 2 ≤ (topReferences (references.filter (fun r =>
      balanceTargetMatchKey r.target = key))).length) :
    ∃ assertion ∈ (assertBalanceTargets snapshots references).assertions,
      balanceTargetMatchKey assertion.target = key ∧ assertion.status = .referenceConflict := by
  have hkey : key ∈ comparisonKeys snapshots references := by
    refine mem_comparisonKeys.2 (Or.inr ?_)
    by_contra hnone
    have hempty : references.filter (fun r => balanceTargetMatchKey r.target = key) = [] := by
      refine List.filter_eq_nil_iff.2 ?_
      intro r hr hrkey
      exact hnone ⟨r, hr, by simpa using hrkey⟩
    rw [hempty] at h
    exact absurd h (by decide)
  rcases compareKey_some hkey with ⟨p, hp, hpkey⟩
  refine ⟨p.1, ?_, hpkey, ?_⟩
  · rw [assertBalanceTargets_eq]
    exact List.mem_map_of_mem (List.mem_filterMap.2 ⟨key, hkey, hp⟩)
  · rcases Option.map_eq_some_iff.1 hp with ⟨t, _, rfl⟩
    have hselection : (selectedReference t (references.filter (fun r =>
        balanceTargetMatchKey r.target = key))).status = some .referenceConflict := by
      rw [selectedReference_eq]
      exact status_selectionOf.2 h
    simp only [buildAssertion, assertionStatus, hselection, if_true]

/-- The references on top are those that no other reference precedes. -/
lemma mem_topReferences {references : List BalanceReference} {r : BalanceReference} :
    r ∈ topReferences references ↔ r ∈ references ∧ ∀ r' ∈ references,
      referencePrecedence.idxOf r.referenceKind ≤ referencePrecedence.idxOf r'.referenceKind := by
  have hnodup : referencePrecedence.Nodup := by decide
  unfold topReferences
  cases htop : topKindAmong references referencePrecedence with
  | none =>
      refine iff_of_false (List.not_mem_nil) ?_
      rintro ⟨hr, _⟩
      have hnot := List.find?_eq_none.1 htop r.referenceKind
        (by cases r.referenceKind <;> decide)
      exact hnot (List.any_eq_true.2 ⟨r, hr, by simp⟩)
  | some kind =>
      rcases List.find?_eq_some_iff_append.1 htop with ⟨hany, higher, lower, hkinds, hhigher⟩
      have hkind : kind ∉ higher := by
        rw [hkinds, List.nodup_append] at hnodup
        intro hin
        exact hnodup.2.2 kind hin kind (by simp) rfl
      have hplace : referencePrecedence.idxOf kind = higher.length := by
        rw [hkinds, List.idxOf_append_of_notMem hkind]
        simp
      have hleast : ∀ r' ∈ references,
          higher.length ≤ referencePrecedence.idxOf r'.referenceKind := by
        intro r' hr'
        have hnot : r'.referenceKind ∉ higher := by
          intro hin
          have hnone := hhigher _ hin
          rw [Bool.not_eq_true', List.any_eq_false] at hnone
          exact hnone r' hr' (by simp)
        rw [hkinds, List.idxOf_append_of_notMem hnot]
        exact Nat.le_add_right _ _
      simp only [List.mem_filter, decide_eq_true_eq]
      constructor
      · rintro ⟨hr, hrkind⟩
        refine ⟨hr, ?_⟩
        rwa [hrkind, hplace]
      · rintro ⟨hr, hfirst⟩
        refine ⟨hr, ?_⟩
        rcases List.any_eq_true.1 hany with ⟨r', hr', hr'kind⟩
        have hle := hfirst r' hr'
        rw [of_decide_eq_true hr'kind, hplace] at hle
        -- both kinds stand at one place of the precedence
        have hsame : referencePrecedence.idxOf r.referenceKind = referencePrecedence.idxOf kind := by
          rw [hplace]
          exact le_antisymm hle (hleast r hr)
        exact (List.idxOf_inj (by cases r.referenceKind <;> decide)).1 hsame

/-! ## Issues of a comparison -/

lemma kind_of_duplicate {snapshots : List BalanceSnapshot} {issue : IssueRecord} :
    issue ∈ (indexSnapshots snapshots).issues → issue.kind = "duplicate_balance_snapshot" := by
  have hloop : ∀ (snapshots : List BalanceSnapshot) (acc : SnapshotIndexing),
      (∀ issue ∈ acc.issues, issue.kind = "duplicate_balance_snapshot") →
        ∀ issue ∈ (snapshots.foldl indexSnapshot acc).issues,
          issue.kind = "duplicate_balance_snapshot" := by
    intro snapshots
    induction snapshots with
    | nil =>
        intro acc hacc
        exact hacc
    | cons x xs ih =>
        intro acc hacc
        refine ih (indexSnapshot acc x) ?_
        unfold indexSnapshot
        dsimp only
        split_ifs
        · intro issue hissue
          rcases List.mem_append.1 hissue with h | h
          · exact hacc issue h
          · rw [List.mem_singleton.1 h]
            rfl
        · exact hacc
  exact hloop snapshots _ (by simp) issue

/-- Snapshots of different keys are no duplicates. -/
lemma indexSnapshots_issues {snapshots : List BalanceSnapshot}
    (h : (snapshots.map (fun snapshot => balanceTargetMatchKey snapshot.target)).Nodup) :
    (indexSnapshots snapshots).issues = [] := by
  induction snapshots using List.reverseRecOn with
  | nil => rfl
  | append_singleton snapshots snapshot ih =>
      rw [List.map_append, List.nodup_append] at h
      have hnew : ¬((indexSnapshots snapshots).indexed.get?
          (balanceTargetMatchKey snapshot.target)).isSome = true := by
        rw [get?_indexSnapshots, List.find?_isSome]
        rintro ⟨other, hother, hkey⟩
        exact h.2.2 _ (List.mem_map_of_mem hother) _ (List.mem_singleton.2 rfl) (by simpa using hkey)
      rw [indexSnapshots, List.foldl_append, ← indexSnapshots, List.foldl_cons, List.foldl_nil,
        indexSnapshot]
      dsimp only
      rw [if_neg hnew]
      exact ih h.1

lemma kind_of_selection {t : BalanceTarget} {references : List BalanceReference}
    {issue : IssueRecord} :
    issue ∈ (selectionOf t references).issues → issue.kind = "conflicting_balance_references" := by
  intro h
  match references with
  | [] => simp [selectionOf] at h
  | [_] => simp [selectionOf] at h
  | r :: _ :: _ =>
      rw [List.mem_singleton.1 h]
      rfl

/-- The assertions of a comparison and what they report. -/
lemma mem_comparison {snapshots : List BalanceSnapshot} {references : List BalanceReference}
    {key : BalanceTargetMatchKey} {p : BalanceAssertion × List IssueRecord}
    (h : compareKey snapshots references key = some p) :
    p.2 = (selectedReference p.1.target
        (references.filter (fun r => balanceTargetMatchKey r.target = key))).issues ++
      if p.1.status ≠ .matched then [assertionIssue p.1] else [] := by
  rcases Option.map_eq_some_iff.1 h with ⟨t, _, rfl⟩
  rfl

lemma kind_of_issue {snapshots : List BalanceSnapshot} {references : List BalanceReference}
    {issue : IssueRecord} :
    issue ∈ (assertBalanceTargets snapshots references).issues →
      issue.kind = "duplicate_balance_snapshot" ∨ issue.kind = "conflicting_balance_references" ∨
        ∃ status : BalanceAssertionStatus, issue.kind = "balance_" ++ status.value := by
  intro h
  rw [assertBalanceTargets_eq] at h
  rcases List.mem_append.1 h with h | h
  · exact Or.inl (kind_of_duplicate h)
  · rcases List.mem_flatten.1 h with ⟨issues, hissues, hissue⟩
    rcases List.mem_map.1 hissues with ⟨p, hp, rfl⟩
    rcases List.mem_filterMap.1 hp with ⟨key, _, hkey⟩
    rw [mem_comparison hkey] at hissue
    rcases List.mem_append.1 hissue with hsel | hown
    · rw [selectedReference_eq] at hsel
      exact Or.inr (Or.inl (kind_of_selection hsel))
    · split_ifs at hown
      · rw [List.mem_singleton.1 hown]
        exact Or.inr (Or.inr ⟨p.1.status, rfl⟩)
      · cases hown

/-- The issues where every key has one snapshot and one reference at most are those of assertions. -/
theorem kind_of_issue_apart {snapshots : List BalanceSnapshot} {references : List BalanceReference}
    (hsnapshots : (snapshots.map (fun snapshot => balanceTargetMatchKey snapshot.target)).Nodup)
    (hreferences : (references.map (fun reference =>
      balanceTargetMatchKey reference.target)).Nodup) {issue : IssueRecord}
    (h : issue ∈ (assertBalanceTargets snapshots references).issues) :
    ∃ status : BalanceAssertionStatus, issue.kind = "balance_" ++ status.value := by
  rw [assertBalanceTargets_eq, indexSnapshots_issues hsnapshots, List.nil_append] at h
  rcases List.mem_flatten.1 h with ⟨issues, hissues, hissue⟩
  rcases List.mem_map.1 hissues with ⟨p, hp, rfl⟩
  rcases List.mem_filterMap.1 hp with ⟨key, _, hkey⟩
  rw [mem_comparison hkey, selectedReference_of_le_one (length_filter_key_le_one hreferences key),
    List.nil_append] at hissue
  split_ifs at hissue
  · rw [List.mem_singleton.1 hissue]
    exact ⟨p.1.status, rfl⟩
  · cases hissue

/-- An assertion that is not matched is reported. -/
lemma issue_of_assertion {snapshots : List BalanceSnapshot} {references : List BalanceReference}
    {assertion : BalanceAssertion} :
    assertion ∈ (assertBalanceTargets snapshots references).assertions →
      assertion.status ≠ .matched →
        assertionIssue assertion ∈ (assertBalanceTargets snapshots references).issues := by
  intro hmem hstatus
  rw [assertBalanceTargets_eq] at hmem ⊢
  rcases List.mem_map.1 hmem with ⟨p, hp, rfl⟩
  rcases List.mem_filterMap.1 hp with ⟨key, _, hkey⟩
  refine List.mem_append_right _ (List.mem_flatten.2 ⟨p.2, List.mem_map_of_mem hp, ?_⟩)
  rw [mem_comparison hkey]
  exact List.mem_append_right _ (by simp [hstatus])

/-! ## Plans -/

/-- Every target of the plan has a snapshot, and every snapshot is about a target of the plan. -/
structure CheckPlan.Covered (plan : CheckPlan) : Prop where
  snapshot_of_target : ∀ t ∈ plan.targets, ∃ snapshot ∈ plan.snapshots, snapshot.target = t
  target_of_snapshot : ∀ snapshot ∈ plan.snapshots, snapshot.target ∈ plan.targets

lemma covered_derived (facts : List TransactionFact) (targets : List BalanceTarget)
    (issues : List IssueRecord) (status : BalanceCheckStatus) (reason : String) :
    (CheckPlan.mk targets (deriveBalanceSnapshots facts targets).1 issues status reason).Covered := by
  constructor
  · intro t ht
    exact ⟨deriveBalanceSnapshot facts t, List.mem_map_of_mem ht, rfl⟩
  · intro snapshot hsnapshot
    rcases List.mem_map.1 hsnapshot with ⟨t, ht, rfl⟩
    exact ht

lemma covered_nil (status : BalanceCheckStatus) (reason : String) :
    (CheckPlan.mk [] [] [] status reason).Covered :=
  ⟨by simp, by simp⟩

lemma covered_rows (rows : List BalanceSnapshot) (issues : List IssueRecord)
    (status : BalanceCheckStatus) (reason : String) :
    (CheckPlan.mk (rows.map BalanceSnapshot.target) rows issues status reason).Covered := by
  constructor
  · intro t ht
    rcases List.mem_map.1 ht with ⟨snapshot, hsnapshot, rfl⟩
    exact ⟨snapshot, hsnapshot, rfl⟩
  · intro snapshot hsnapshot
    exact List.mem_map_of_mem hsnapshot

/-- Inputs of a source cover each other. -/
lemma covered_inputs (source : BalanceSource) (issues : List IssueRecord)
    (status : BalanceCheckStatus) (reason : String) :
    (CheckPlan.mk (buildBalanceSourceInputs source).targets
      (buildBalanceSourceInputs source).snapshots issues status reason).Covered := by
  unfold buildBalanceSourceInputs
  by_cases hfacts : source.facts ≠ []
  · simp only [if_pos hfacts]
    exact covered_derived _ _ _ _ _
  · simp only [if_neg hfacts]
    cases source.snapshotRows with
    | some rows => exact covered_rows _ _ _ _
    | none => exact ⟨by simp, by simp⟩

lemma covered_factBacked (facts : List TransactionFact) (references : List BalanceReference)
    (times : List (AsOfValue × Instant)) (zone : TimeZone) :
    (factBackedCheckPlan facts references times zone).Covered := by
  unfold factBackedCheckPlan
  dsimp only
  split_ifs
  all_goals first
    | exact covered_nil _ _
    | exact covered_derived _ _ _ _ _

lemma covered_manual (source : BalanceSource) (requestedTimes : List Instant) :
    (manualCheckPlan (buildBalanceSourceInputs source) requestedTimes).Covered := by
  have hinputs := covered_inputs source [] .clean ""
  unfold manualCheckPlan
  dsimp only
  split_ifs with hnone
  · exact covered_nil _ _
  · constructor
    · intro t ht
      rcases hinputs.snapshot_of_target t (List.mem_filter.1 ht).1 with ⟨snapshot, hsnapshot, rfl⟩
      exact ⟨snapshot, List.mem_filter.2 ⟨hsnapshot, by simpa using ht⟩, rfl⟩
    · intro snapshot hsnapshot
      simpa using (List.mem_filter.1 hsnapshot).2

/-- Every plan is covered. -/
theorem covered_of_plan {request : BalanceCheckRequest} {source : BalanceSource} {plan : CheckPlan}
    (h : buildCheckPlan request source = .ok plan) : plan.Covered := by
  unfold buildCheckPlan at h
  dsimp only [bind, Except.bind] at h
  split at h
  · cases h
  · split at h
    · cases h
    · split at h
      · rw [← Except.ok.inj h]
        exact covered_nil _ _
      · split_ifs at h
        · rw [← Except.ok.inj h]
          exact covered_inputs _ _ _ _
        · rw [← Except.ok.inj h]
          exact covered_inputs _ _ _ _
        · split at h
          · cases h
          · rw [← Except.ok.inj h]
            exact covered_factBacked _ _ _ _
        · rw [← Except.ok.inj h]
          exact covered_manual _ _

/-! ## The check -/

/-- The check of a runnable plan. -/
lemma check_of_plan {providers : Option BalanceProviders} {request : BalanceCheckRequest}
    {source : BalanceSource} {plan : CheckPlan} (hplan : buildCheckPlan request source = .ok plan)
    (hstatus : plan.status = .clean) :
    checkSourceInput providers request source =
      (comparePlan source.name plan
          (resolve source.references plan.targets request.hydrateMissingReferences providers),
        { source with
          references := persistedReferences source.references
            (resolve source.references plan.targets request.hydrateMissingReferences
              providers).1 }) := by
  unfold checkSourceInput
  rw [hplan]
  simp only [hstatus, ne_eq, not_true_eq_false, if_false]

/-- The issues of an offline check of a runnable plan. -/
lemma issues_of_offline {providers : Option BalanceProviders} {request : BalanceCheckRequest}
    {source : BalanceSource} {plan : CheckPlan} (hplan : buildCheckPlan request source = .ok plan)
    (hstatus : plan.status = .clean) (hoffline : request.hydrateMissingReferences = false) :
    (checkSourceInput providers request source).1.issues =
      plan.snapshotIssues ++
        (unresolvedTargets source.references plan.targets).map
          (missingReferenceIssue source.references "missing_balance_reference") ++
        ((assertBalanceTargets plan.snapshots
          (plan.targets.flatMap (matchingReferences source.references))).issues.filter
            (fun issue => issue.kind ≠ "balance_missing_reference")) := by
  rw [check_of_plan hplan hstatus, hoffline, resolve_offline]
  rfl

end Balances
end Tallylot
