import Tallylot.Balances.Conflicts
import Tallylot.Data.Firsts

/-!
# Precedence — what the references of lower kinds decide

A comparison makes one assertion for each key, matched by the single reference of the highest kind
(`status_matched_iff`), and reports every further snapshot of a key once (`duplicateIssues_eq`).  The
references of lower kinds are left out of the selection (`topReferences_filter`), but without a
snapshot the assertion is about the target of the first reference of any kind, and a target shows a
precision that its key leaves out.
-/

namespace Tallylot
namespace Balances

open Data Domain

/-! ## The highest kind -/

/-- Place in the order of precedence, the highest first. -/
def BalanceReferenceKind.rank : BalanceReferenceKind → Nat
  | .sourceDocument => 0
  | .networkApi => 1
  | .operatorAssertion => 2

/-- No reference is of a higher kind. -/
def IsTop (references : List BalanceReference) (reference : BalanceReference) : Prop :=
  ∀ other ∈ references, reference.referenceKind.rank ≤ other.referenceKind.rank

instance (references : List BalanceReference) (reference : BalanceReference) :
    Decidable (IsTop references reference) :=
  inferInstanceAs (Decidable (∀ _ ∈ _, _))

lemma topKindAmong_eq_some {references : List BalanceReference} {kind : BalanceReferenceKind}
    (h : topKindAmong references referencePrecedence = some kind) :
    (∃ reference ∈ references, reference.referenceKind = kind) ∧
      ∀ reference ∈ references, kind.rank ≤ reference.referenceKind.rank := by
  rw [topKindAmong, List.find?_eq_some_iff_append] at h
  rcases h with ⟨hany, before, after, hkinds, hbefore⟩
  rcases List.any_eq_true.1 hany with ⟨reference, hmem, hkind⟩
  refine ⟨⟨reference, hmem, by simpa using hkind⟩, fun other hother => ?_⟩
  by_contra hlower
  -- A kind above the one found stands before it in the order, and no reference is of such a kind.
  have hearlier : other.referenceKind ∈ before := by
    have hsorted : (before ++ kind :: after).Pairwise (fun k k' => k.rank < k'.rank) := by
      rw [← hkinds]
      decide
    have hmember : other.referenceKind ∈ before ++ kind :: after := by
      rw [← hkinds]
      cases other.referenceKind <;> decide
    rcases List.mem_append.1 hmember with hmember | hmember
    · exact hmember
    · have hafter := (List.pairwise_append.1 hsorted).2.1
      rcases List.mem_cons.1 hmember with hsame | hlate
      · exact absurd (Nat.le_of_eq (congrArg BalanceReferenceKind.rank hsame.symm)) hlower
      · exact absurd (List.rel_of_pairwise_cons hafter hlate).le hlower
  have hnone := hbefore _ hearlier
  rw [Bool.not_eq_true', List.any_eq_false] at hnone
  exact hnone other hother (by simp)

/-- The references on top are those that no other outranks. -/
lemma topReferences_eq_filter (references : List BalanceReference) :
    topReferences references = references.filter (fun reference => IsTop references reference) := by
  rcases hkind : topKindAmong references referencePrecedence with _ | kind
  · have hnil : topReferences references = [] := by rw [topReferences, hkind]
    rw [topReferences_eq_nil_iff.1 hnil, topReferences_eq_nil_iff.2 rfl, List.filter_nil]
  · rcases topKindAmong_eq_some hkind with ⟨⟨top, htop, htopKind⟩, hleast⟩
    rw [topReferences, hkind]
    refine List.filter_congr fun reference hmem => ?_
    rw [decide_eq_decide]
    constructor
    · rintro rfl
      exact hleast
    · intro hall
      have hle := hall top htop
      have hge := hleast reference hmem
      rw [htopKind] at hle
      revert hle hge
      cases reference.referenceKind <;> cases kind <;> simp [BalanceReferenceKind.rank]

/-- The references that are no lower than a kind. -/
def keptAbove (kind : BalanceReferenceKind) (references : List BalanceReference) :
    List BalanceReference :=
  references.filter (fun reference => reference.referenceKind.rank ≤ kind.rank)

/-- With a reference of some kind, the lower ones are never on top. -/
theorem topReferences_keptAbove {references : List BalanceReference} {kind : BalanceReferenceKind}
    (h : keptAbove kind references ≠ []) :
    topReferences (keptAbove kind references) = topReferences references := by
  rcases List.exists_mem_of_ne_nil _ h with ⟨high, hhigh⟩
  rcases List.mem_filter.1 hhigh with ⟨hmem, hrank⟩
  rw [decide_eq_true_eq] at hrank
  rw [topReferences_eq_filter, topReferences_eq_filter, keptAbove, List.filter_filter]
  refine List.filter_congr fun reference hreference => ?_
  rw [Bool.eq_iff_iff, Bool.and_eq_true, decide_eq_true_eq, decide_eq_true_eq, decide_eq_true_eq]
  constructor
  · rintro ⟨htop, hkept⟩ other hother
    by_cases hlow : other.referenceKind.rank ≤ kind.rank
    · exact htop other (List.mem_filter.2 ⟨hother, decide_eq_true hlow⟩)
    · exact le_trans hkept (Nat.le_of_not_le hlow)
  · intro htop
    exact ⟨fun other hother => htop other (List.mem_filter.1 hother).1, le_trans (htop high hmem) hrank⟩

/-! ## One assertion for each key -/

section Comparison

variable {snapshots : List BalanceSnapshot} {references references' : List BalanceReference}

/-- The references of a key. -/
def referencesOf (references : List BalanceReference) (key : BalanceTargetMatchKey) :
    List BalanceReference :=
  references.filter (fun reference => balanceTargetMatchKey reference.target = key)

/-- The first snapshot of a key. -/
def snapshotOf (snapshots : List BalanceSnapshot) (key : BalanceTargetMatchKey) :
    Option BalanceSnapshot :=
  snapshots.find? (fun snapshot => balanceTargetMatchKey snapshot.target = key)

/-- The key occurs among the snapshots or the references. -/
def Occurs (snapshots : List BalanceSnapshot) (references : List BalanceReference)
    (key : BalanceTargetMatchKey) : Prop :=
  (∃ snapshot ∈ snapshots, balanceTargetMatchKey snapshot.target = key) ∨
    ∃ reference ∈ references, balanceTargetMatchKey reference.target = key

/-- The assertions of a key. -/
def assertionsOf (snapshots : List BalanceSnapshot) (references : List BalanceReference)
    (key : BalanceTargetMatchKey) : List BalanceAssertion :=
  (assertBalanceTargets snapshots references).assertions.filter
    (fun assertion => balanceTargetMatchKey assertion.target = key)

/-- The first snapshot, and the only reference of the highest kind, of the same quantity. -/
def MatchedBy (snapshots : List BalanceSnapshot) (references : List BalanceReference)
    (key : BalanceTargetMatchKey) : Prop :=
  ∃ snapshot reference, snapshotOf snapshots key = some snapshot ∧
    (referencesOf references key).filter (fun r => IsTop (referencesOf references key) r) =
      [reference] ∧ snapshot.quantity = reference.quantity

lemma assertionsOf_eq {key : BalanceTargetMatchKey} (h : Occurs snapshots references key) :
    ∃ t, assertionTarget? (snapshotOf snapshots key) (referencesOf references key) = some t ∧
      balanceTargetMatchKey t = key ∧ assertionsOf snapshots references key =
        [buildAssertion t (snapshotOf snapshots key)
          (selectedReference t (referencesOf references key))] := by
  rcases List.length_eq_one_iff.1 (assertion_of_key (mem_comparisonKeys.2 h)) with ⟨assertion, hone⟩
  have hmem : assertion ∈ assertionsOf snapshots references key := by
    rw [assertionsOf, hone]
    exact List.mem_singleton.2 rfl
  rcases List.mem_filter.1 hmem with ⟨hassertion, hkey⟩
  rw [decide_eq_true_eq] at hkey
  rcases compareKey_of_assertion hassertion with ⟨issues, hcompared⟩
  rw [hkey, compareKey, assertKey] at hcompared
  rcases Option.map_eq_some_iff.1 hcompared with ⟨t, ht, hpair⟩
  have hbuilt : buildAssertion t (snapshotOf snapshots key)
      (selectedReference t (referencesOf references key)) = assertion := congrArg Prod.fst hpair
  refine ⟨t, ht, ?_, by rw [hbuilt]; exact hone⟩
  rw [← hkey, ← hbuilt]
  rfl

/-- A single reference of the quantity of the snapshot makes a match, and nothing else does. -/
lemma assertionStatus_selectionOf (t : BalanceTarget) (snapshot : Option BalanceSnapshot)
    (top : List BalanceReference) :
    assertionStatus snapshot (selectionOf t top).reference (selectionOf t top).status = .matched ↔
      ∃ s reference, snapshot = some s ∧ top = [reference] ∧ s.quantity = reference.quantity := by
  rcases snapshot with _ | s
  · refine iff_of_false ?_ (by rintro ⟨_, _, ⟨⟩, _⟩)
    rcases top with _ | ⟨reference, _ | ⟨other, rest⟩⟩ <;> rintro ⟨⟩
  · rcases top with _ | ⟨reference, _ | ⟨other, rest⟩⟩
    · refine iff_of_false (by rintro ⟨⟩) (by rintro ⟨_, _, _, ⟨⟩, _⟩)
    · have hstatus : assertionStatus (some s) (selectionOf t [reference]).reference
          (selectionOf t [reference]).status =
            if s.quantity ≠ reference.quantity then .drift else .matched := rfl
      rw [hstatus]
      by_cases hquantity : s.quantity = reference.quantity
      · rw [if_neg (not_not_intro hquantity)]
        exact iff_of_true rfl ⟨s, reference, rfl, rfl, hquantity⟩
      · rw [if_pos hquantity]
        refine iff_of_false (by rintro ⟨⟩) ?_
        rintro ⟨s', reference', hs, hreference, hsame⟩
        cases hs
        cases hreference
        exact hquantity hsame
    · refine iff_of_false (by rintro ⟨⟩) (by rintro ⟨_, _, _, ⟨⟩, _⟩)

/-- An assertion is matched exactly by the first snapshot and the only reference on top. -/
theorem status_matched_iff {key : BalanceTargetMatchKey} {t : BalanceTarget} :
    (buildAssertion t (snapshotOf snapshots key)
      (selectedReference t (referencesOf references key))).status = .matched ↔
        MatchedBy snapshots references key := by
  rw [status_buildAssertion, selectedReference_eq, assertionStatus_selectionOf,
    topReferences_eq_filter, MatchedBy]

end Comparison

/-! ## One issue for each further snapshot -/

/-- The snapshots of a key after its first one. -/
def furtherSnapshots (snapshots : List BalanceSnapshot) : List BalanceSnapshot :=
  repeatsBy (fun snapshot => balanceTargetMatchKey snapshot.target) [] snapshots

def duplicateKind : String := "duplicate_balance_snapshot"

/-- The issue reports the snapshot as a duplicate. -/
def ReportsDuplicate (snapshot : BalanceSnapshot) (issue : IssueRecord) : Prop :=
  ∃ count, issue = duplicateIssue snapshot.target duplicateKind count

def duplicateIssues (issues : List IssueRecord) : List IssueRecord :=
  issues.filter (fun issue => issue.kind = duplicateKind)

lemma indexSnapshots_reports (snapshots : List BalanceSnapshot) :
    List.Forall₂ ReportsDuplicate (furtherSnapshots snapshots) (indexSnapshots snapshots).issues := by
  -- The indexed keys are the seen ones, and each repeated snapshot appends its issue.
  have hloop : ∀ (snapshots : List BalanceSnapshot) (acc : SnapshotIndexing)
      (seen : List BalanceTargetMatchKey), (∀ key, (acc.indexed.get? key).isSome ↔ key ∈ seen) →
        ∃ new, (snapshots.foldl indexSnapshot acc).issues = acc.issues ++ new ∧
          List.Forall₂ ReportsDuplicate
            (repeatsBy (fun snapshot => balanceTargetMatchKey snapshot.target) seen snapshots) new := by
    intro snapshots
    induction snapshots with
    | nil =>
      intro acc seen _
      exact ⟨[], (List.append_nil _).symm, List.Forall₂.nil⟩
    | cons snapshot snapshots ih =>
      intro acc seen hseen
      rw [List.foldl_cons, repeatsBy]
      by_cases hkey : balanceTargetMatchKey snapshot.target ∈ seen
      · have hsome := (hseen _).2 hkey
        rcases ih (indexSnapshot acc snapshot) seen (by simpa [indexSnapshot, hsome] using hseen) with
          ⟨new, hnew, hreports⟩
        rw [if_pos hkey, hnew]
        simp only [indexSnapshot, hsome, if_true]
        rw [List.append_assoc]
        exact ⟨_, rfl, List.Forall₂.cons ⟨_, rfl⟩ hreports⟩
      · have hnone : ¬(acc.indexed.get? (balanceTargetMatchKey snapshot.target)).isSome = true :=
          fun h => hkey ((hseen _).1 h)
        have hstep : indexSnapshot acc snapshot =
            { acc with indexed := acc.indexed.set (balanceTargetMatchKey snapshot.target) snapshot } :=
          if_neg hnone
        have hseen' : ∀ key, ((indexSnapshot acc snapshot).indexed.get? key).isSome ↔
            key ∈ balanceTargetMatchKey snapshot.target :: seen := by
          intro key
          rw [hstep, List.mem_cons, Dict.get?_set]
          by_cases hsame : key = balanceTargetMatchKey snapshot.target
          · simp [hsame]
          · simpa [hsame] using hseen key
        rcases ih (indexSnapshot acc snapshot) _ hseen' with ⟨new, hnew, hreports⟩
        rw [if_neg hkey, hnew, hstep]
        exact ⟨new, rfl, hreports⟩
  rcases hloop snapshots ⟨Dict.empty, Dict.empty, []⟩ [] (by simp) with ⟨new, hnew, hreports⟩
  rw [indexSnapshots, hnew]
  exact hreports

lemma kind_of_compareKey {snapshots : List BalanceSnapshot} {references : List BalanceReference}
    {key : BalanceTargetMatchKey} {p : BalanceAssertion × List IssueRecord}
    (h : compareKey snapshots references key = some p) {issue : IssueRecord} (hissue : issue ∈ p.2) :
    issue.kind ≠ duplicateKind := by
  rw [mem_comparison h, selectedReference_eq] at hissue
  rcases List.mem_append.1 hissue with hselection | hown
  · rw [kind_of_selection hselection]
    decide
  · split_ifs at hown
    · rw [List.mem_singleton.1 hown]
      have hkind : (assertionIssue p.1).kind = "balance_" ++ p.1.status.value := rfl
      rw [hkind]
      cases p.1.status <;> decide
    · cases hown

/-- The duplicate issues report the further snapshots, one each and in their order. -/
theorem duplicateIssues_eq (snapshots : List BalanceSnapshot) (references : List BalanceReference) :
    List.Forall₂ ReportsDuplicate (furtherSnapshots snapshots)
      (duplicateIssues (assertBalanceTargets snapshots references).issues) := by
  have hfirst : duplicateIssues (indexSnapshots snapshots).issues = (indexSnapshots snapshots).issues :=
    List.filter_eq_self.2 fun issue hissue => decide_eq_true (kind_of_duplicate hissue)
  have hrest : duplicateIssues (((comparisonKeys snapshots references).filterMap
      (compareKey snapshots references)).map Prod.snd).flatten = [] := by
    rw [duplicateIssues, List.filter_eq_nil_iff]
    intro issue hissue
    rcases List.mem_flatten.1 hissue with ⟨issues, hissues, hmem⟩
    rcases List.mem_map.1 hissues with ⟨p, hp, rfl⟩
    rcases List.mem_filterMap.1 hp with ⟨key, _, hkey⟩
    rw [decide_eq_true_eq]
    exact kind_of_compareKey hkey hmem
  rw [assertBalanceTargets_eq, duplicateIssues, List.filter_append, ← duplicateIssues,
    ← duplicateIssues, hfirst, hrest, List.append_nil]
  exact indexSnapshots_reports snapshots

/-! ## Lower kinds -/

section Lower

variable {snapshots : List BalanceSnapshot} {references references' : List BalanceReference}
  {key : BalanceTargetMatchKey} {kind : BalanceReferenceKind}

/-- The target of the first reference of a key. -/
def firstTarget (references : List BalanceReference) (key : BalanceTargetMatchKey) :
    Option BalanceTarget :=
  (referencesOf references key).head?.map BalanceReference.target

/-- The references differ in kinds below the given one only, and the key has one that is not below. -/
def LowerChange (kind : BalanceReferenceKind) (key : BalanceTargetMatchKey)
    (references references' : List BalanceReference) : Prop :=
  keptAbove kind references = keptAbove kind references' ∧
    ∃ reference ∈ keptAbove kind references, balanceTargetMatchKey reference.target = key

/-- What a comparison promises: one assertion for each key that occurs and for no other, matched by
the right snapshot and reference, and one duplicate issue for each further snapshot. -/
structure Compared (snapshots : List BalanceSnapshot) (references : List BalanceReference) : Prop where
  one : ∀ key, Occurs snapshots references key → (assertionsOf snapshots references key).length = 1
  others : ∀ key, ¬Occurs snapshots references key → assertionsOf snapshots references key = []
  matched : ∀ key, ∀ assertion ∈ assertionsOf snapshots references key,
    assertion.status = .matched ↔ MatchedBy snapshots references key
  duplicates : List.Forall₂ ReportsDuplicate (furtherSnapshots snapshots)
    (duplicateIssues (assertBalanceTargets snapshots references).issues)

lemma occurs_of_mem {assertion : BalanceAssertion} (h : assertion ∈ assertionsOf snapshots references key) :
    Occurs snapshots references key := by
  rcases List.mem_filter.1 h with ⟨hmem, hkey⟩
  refine mem_comparisonKeys.1 ?_
  rw [← matchKeys_assertions]
  exact List.mem_map.2 ⟨assertion, hmem, by simpa using hkey⟩

theorem compared (snapshots : List BalanceSnapshot) (references : List BalanceReference) :
    Compared snapshots references where
  one key h := by
    rcases assertionsOf_eq h with ⟨_, _, _, hone⟩
    rw [hone, List.length_singleton]
  others key h := List.eq_nil_iff_forall_not_mem.2 fun _ hmem => h (occurs_of_mem hmem)
  matched key assertion hmem := by
    rcases assertionsOf_eq (occurs_of_mem hmem) with ⟨_, _, _, hone⟩
    rw [hone] at hmem
    rw [List.mem_singleton.1 hmem]
    exact status_matched_iff
  duplicates := duplicateIssues_eq snapshots references

lemma referencesOf_keptAbove (kind : BalanceReferenceKind) (references : List BalanceReference)
    (key : BalanceTargetMatchKey) :
    keptAbove kind (referencesOf references key) = referencesOf (keptAbove kind references) key := by
  rw [keptAbove, referencesOf, referencesOf, keptAbove, List.filter_filter, List.filter_filter]
  exact List.filter_congr fun reference _ => Bool.and_comm _ _

/-- A change of lower kinds leaves what is selected as it was. -/
lemma topReferences_lowerChange (h : LowerChange kind key references references') :
    topReferences (referencesOf references key) = topReferences (referencesOf references' key) := by
  rcases h with ⟨hsame, reference, hmem, hkey⟩
  have hkept : reference ∈ referencesOf (keptAbove kind references) key :=
    List.mem_filter.2 ⟨hmem, decide_eq_true hkey⟩
  have hne : keptAbove kind (referencesOf references key) ≠ [] := by
    rw [referencesOf_keptAbove]
    exact List.ne_nil_of_mem hkept
  have hne' : keptAbove kind (referencesOf references' key) ≠ [] := by
    rw [referencesOf_keptAbove, ← hsame]
    exact List.ne_nil_of_mem hkept
  calc
    topReferences (referencesOf references key)
        = topReferences (keptAbove kind (referencesOf references key)) :=
          (topReferences_keptAbove hne).symm
    _ = topReferences (keptAbove kind (referencesOf references' key)) := by
          rw [referencesOf_keptAbove, referencesOf_keptAbove, hsame]
    _ = topReferences (referencesOf references' key) := topReferences_keptAbove hne'

lemma target_buildAssertion (t : BalanceTarget) (snapshot : Option BalanceSnapshot)
    (selection : Selection) : (buildAssertion t snapshot selection).target = t := rfl

lemma assertionTarget?_eq : assertionTarget? (snapshotOf snapshots key) (referencesOf references key) =
    ((snapshotOf snapshots key).map BalanceSnapshot.target).or (firstTarget references key) := rfl

/-- Two runs that differ in lower kinds make the same assertion for a key with a higher one, beside
all else that a comparison promises, exactly if the key has a snapshot or the first reference of the
key has the same target in both. -/
theorem undisturbed_iff (snapshots : List BalanceSnapshot)
    (h : LowerChange kind key references references') :
    (Compared snapshots references ∧ Compared snapshots references' ∧
        assertionsOf snapshots references key = assertionsOf snapshots references' key) ↔
      (snapshotOf snapshots key).isSome = true ∨
        firstTarget references key = firstTarget references' key := by
  have htop := topReferences_lowerChange h
  rcases h with ⟨hsame, reference, hmem, hkey⟩
  have hmem' := hmem
  rw [hsame] at hmem'
  have hoccurs : Occurs snapshots references key :=
    Or.inr ⟨reference, (List.mem_filter.1 hmem).1, hkey⟩
  have hoccurs' : Occurs snapshots references' key :=
    Or.inr ⟨reference, (List.mem_filter.1 hmem').1, hkey⟩
  rcases assertionsOf_eq hoccurs with ⟨t, ht, _, hone⟩
  rcases assertionsOf_eq hoccurs' with ⟨t', ht', _, hone'⟩
  have hassertions : assertionsOf snapshots references key = assertionsOf snapshots references' key ↔
      t = t' := by
    rw [hone, hone', selectedReference_eq, selectedReference_eq, htop, List.cons.injEq]
    constructor
    · rintro ⟨hbuilt, _⟩
      rw [← target_buildAssertion t (snapshotOf snapshots key)
        (selectionOf t (topReferences (referencesOf references' key))), hbuilt, target_buildAssertion]
    · rintro rfl
      exact ⟨rfl, rfl⟩
  rw [hassertions]
  rw [assertionTarget?_eq] at ht ht'
  rcases hsnapshot : snapshotOf snapshots key with _ | snapshot
  · rw [hsnapshot, Option.map_none, Option.none_or] at ht ht'
    rw [ht, ht', Option.some.injEq]
    constructor
    · rintro ⟨_, _, htarget⟩
      exact Or.inr htarget
    · rintro (hnone | htarget)
      · cases hnone
      · exact ⟨compared _ _, compared _ _, htarget⟩
  · rw [hsnapshot, Option.map_some, Option.some_or] at ht ht'
    exact iff_of_true ⟨compared _ _, compared _ _, Option.some.inj (ht.symm.trans ht')⟩ (Or.inl rfl)

end Lower

/-- Adding the operator's note, of a lower kind, changes the assertion about the statement: it is now
about a timestamp. -/
theorem note_changes_assertion :
    ¬ ∀ (snapshots : List BalanceSnapshot) (references references' : List BalanceReference)
        (kind : BalanceReferenceKind) (key : BalanceTargetMatchKey),
      LowerChange kind key references references' →
        assertionsOf snapshots references key = assertionsOf snapshots references' key := by
  intro h
  have hlower : LowerChange .sourceDocument (balanceTargetMatchKey (bitcoinTarget .date))
      [statementReference] [operatorReference, statementReference] :=
    ⟨rfl, statementReference, List.mem_singleton.2 rfl, rfl⟩
  have hsame := h [] _ _ _ _ hlower
  have htargets := congrArg (List.map BalanceAssertion.target) hsame
  have hdate : (assertionsOf [] [statementReference]
      (balanceTargetMatchKey (bitcoinTarget .date))).map BalanceAssertion.target =
        [bitcoinTarget .date] := by
    decide +kernel
  have htimestamp : (assertionsOf [] [operatorReference, statementReference]
      (balanceTargetMatchKey (bitcoinTarget .date))).map BalanceAssertion.target =
        [bitcoinTarget .timestamp] := by
    decide +kernel
  rw [hdate, htimestamp] at htargets
  exact absurd htargets (by decide)

/-- Where the statement comes first, the note changes nothing. -/
theorem undisturbed_iff_note :
    (Compared [] [statementReference] ∧ Compared [] [statementReference, operatorReference] ∧
        assertionsOf [] [statementReference] (balanceTargetMatchKey (bitcoinTarget .date)) =
          assertionsOf [] [statementReference, operatorReference]
            (balanceTargetMatchKey (bitcoinTarget .date))) := by
  have hlower : LowerChange .sourceDocument (balanceTargetMatchKey (bitcoinTarget .date))
      [statementReference] [statementReference, operatorReference] :=
    ⟨rfl, statementReference, List.mem_singleton.2 rfl, rfl⟩
  exact (undisturbed_iff [] hlower).2 (Or.inr (by decide +kernel))

end Balances
end Tallylot
