import Tallylot.Balances.Inspect
import Tallylot.Data.Delimited

/-!
# IssueIds — which issues of one check share an id

An id joins source, location, instrument, balance kind and issue kind with colons, and for some kinds
one more detail.  It leaves out the instant of the target, and the parts may hold colons themselves.
`checkSubjects` lists what the issues of a check are about, in their order; the ids tell them apart
exactly when no two subjects are `AtOtherInstant` or `SpeltAlike`.
-/

namespace Tallylot
namespace Balances

open Data Domain

/-! ## Subjects -/

/-- What an issue is about: a target, the kind of the issue, and what else its id shows. -/
structure IssueSubject where
  target : BalanceTarget
  kind : String
  detail : Option String
  deriving DecidableEq, Repr

namespace IssueSubject

def issueId (s : IssueSubject) : String := issueIdOf s.target (s.kind :: s.detail.toList)

/-- The texts that every id shows. -/
def texts (s : IssueSubject) : List String :=
  [s.target.source, s.target.locationId, s.target.instrumentId, s.target.balanceKind, s.kind]

/-- The pieces between the colons of the id. -/
def pieces (s : IssueSubject) : List (List Char) :=
  (s.texts ++ s.detail.toList).flatMap (fun text => text.toList.splitOn ':')

/-- The ids tell the subjects apart if these have different match keys or kinds. -/
def ToldApart (s u : IssueSubject) : Prop :=
  (balanceTargetMatchKey s.target ≠ balanceTargetMatchKey u.target ∨ s.kind ≠ u.kind) →
    s.issueId ≠ u.issueId

/-- One balance and one kind of issue, at two instants. -/
def AtOtherInstant (s u : IssueSubject) : Prop :=
  s.texts = u.texts ∧ s.detail = u.detail ∧ s.target.targetAt ≠ u.target.targetAt

/-- Different texts with the same pieces. -/
def SpeltAlike (s u : IssueSubject) : Prop := s.texts ≠ u.texts ∧ s.pieces = u.pieces

end IssueSubject

lemma issueId_eq_iff {s u : IssueSubject} : s.issueId = u.issueId ↔ s.pieces = u.pieces := by
  have hid : ∀ v : IssueSubject, v.issueId.toList =
      [':'].intercalate ((v.texts ++ v.detail.toList).map String.toList) := by
    intro v
    have hparts : v.issueId = ":".intercalate (v.texts ++ v.detail.toList) := rfl
    rw [hparts, String.toList_intercalate]
    rfl
  have hne : ∀ v : IssueSubject, (v.texts ++ v.detail.toList).map String.toList ≠ [] := by
    intro v
    simp [IssueSubject.texts]
  rw [← String.toList_inj, hid, hid, intercalate_eq_iff (hne s) (hne u), List.flatMap_map,
    List.flatMap_map]
  rfl

lemma matchKey_ne_or_kind_ne_iff {s u : IssueSubject} :
    (balanceTargetMatchKey s.target ≠ balanceTargetMatchKey u.target ∨ s.kind ≠ u.kind) ↔
      s.texts ≠ u.texts ∨ s.target.targetAt ≠ u.target.targetAt := by
  rw [← not_and_or, ← not_and_or]
  refine not_congr ?_
  unfold balanceTargetMatchKey IssueSubject.texts
  simp only [toLex_inj, Prod.mk.injEq, List.cons.injEq, and_true]
  tauto

/-- Details are one piece at most, so texts that agree leave them to agree. -/
lemma detail_eq_of_pieces {s u : IssueSubject} (htexts : s.texts = u.texts)
    (h : s.issueId = u.issueId) : s.detail = u.detail := by
  have hid : ":".intercalate (s.texts ++ s.detail.toList) =
      ":".intercalate (s.texts ++ u.detail.toList) := by
    have hu : u.issueId = ":".intercalate (s.texts ++ u.detail.toList) := by
      rw [htexts]
      rfl
    exact h.trans hu
  rw [← String.toList_inj] at hid
  cases hs : s.detail with
  | none =>
      cases hu : u.detail with
      | none => rfl
      | some detail => simp [hs, hu, IssueSubject.texts] at hid
  | some detail =>
      cases hu : u.detail with
      | none => simp [hs, hu, IssueSubject.texts] at hid
      | some other =>
          have hchars : detail.toList = other.toList := by
            simpa [hs, hu, IssueSubject.texts] using hid
          rw [String.toList_inj.1 hchars]

theorem toldApart_iff {s u : IssueSubject} :
    s.ToldApart u ↔ ¬ (s.AtOtherInstant u ∨ s.SpeltAlike u) := by
  unfold IssueSubject.ToldApart
  rw [matchKey_ne_or_kind_ne_iff]
  constructor
  · rintro h (⟨htexts, hdetail, hinstant⟩ | ⟨htexts, hpieces⟩)
    · refine h (.inr hinstant) (issueId_eq_iff.2 ?_)
      rw [IssueSubject.pieces, IssueSubject.pieces, htexts, hdetail]
    · exact h (.inl htexts) (issueId_eq_iff.2 hpieces)
  · intro hnone hdiffer hid
    by_cases htexts : s.texts = u.texts
    · exact hnone (.inl ⟨htexts, detail_eq_of_pieces htexts hid,
        hdiffer.resolve_left (fun hne => hne htexts)⟩)
    · exact hnone (.inr ⟨htexts, issueId_eq_iff.1 hid⟩)

/-! ## The subjects of a check -/

def missingFactsSubjects (facts : List TransactionFact) (targets : List BalanceTarget) :
    List IssueSubject :=
  (targets.filter (fun t => facts.all (fun fact => fact.source ≠ t.source))).map (fun t =>
    ⟨t, "missing_facts_for_balance_target", none⟩)

def missingCoverageSubjects (facts : List TransactionFact) (targets : List BalanceTarget) :
    List IssueSubject :=
  (targets.filter (fun t => !hasFactCoverageForTarget facts t)).map (fun t =>
    ⟨t, "missing_fact_coverage_for_reference_target", none⟩)

/-- The subjects of the issues of a plan. -/
def planSubjects (request : BalanceCheckRequest) (source : BalanceSource) (plan : CheckPlan) :
    List IssueSubject :=
  let inputs := buildBalanceSourceInputs source
  let timezone := request.timezone.getD inputs.timezone
  let coverage := missingCoverageSubjects source.facts plan.targets
  if inputs.inputMode ≠ .factBacked then []
  else
    match parseTargetTimeValues request.asOfValues timezone, timezone with
    | .ok [], _ => if inputs.references ≠ [] then coverage else []
    | .ok (time :: times), .ok zone =>
        missingFactsSubjects source.facts plan.targets ++
          if selectReferenceTargetsForAsOfValues inputs.references ((time :: times).map Prod.fst)
              zone ≠ [] then coverage
          else []
    | _, _ => []

def providerSubject (result : BalanceProviderResult) : IssueSubject :=
  ⟨result.target,
    if result.issueKind = "" then "balance_reference_unresolved" else result.issueKind, none⟩

/-- The subjects of the targets that the providers leave open. -/
def hydrateSubjects (providers : BalanceProviders) (targets : List BalanceTarget) :
    List IssueSubject :=
  let unsupported := targets.filter (fun t => (providers.providerForRequests t).isNone)
  let requested :=
    targets.filterMap (fun t => (providers.providerForRequests t).map (fun p => (p, t)))
  let results :=
    (Dict.group Prod.fst requested).entries.flatMap
      (fun group => providers.fetchReferences group.1 (group.2.map Prod.snd))
  unsupported.map (fun t => ⟨t, "unsupported_balance_provider", none⟩) ++
    (results.filter (fun result => result.reference.isNone)).map providerSubject

/-- The subjects of the targets without a reference. -/
def resolveSubjects (existing : List BalanceReference) (targets : List BalanceTarget)
    (hydrateMissing : Bool) (providers : Option BalanceProviders) : List IssueSubject :=
  let unresolved := unresolvedTargets existing targets
  match hydrateMissing && unresolved ≠ [], providers with
  | true, some providers => hydrateSubjects providers unresolved
  | _, _ => unresolved.map (fun t => ⟨t, "missing_balance_reference", none⟩)

/-- The subjects of the snapshots after the first of their key, numbered. -/
def duplicateSubjects : List BalanceTargetMatchKey → List BalanceSnapshot → List IssueSubject
  | _, [] => []
  | seen, snapshot :: snapshots =>
      let key := balanceTargetMatchKey snapshot.target
      (if key ∈ seen then
        [⟨snapshot.target, "duplicate_balance_snapshot", some (toString (seen.count key))⟩]
      else []) ++ duplicateSubjects (key :: seen) snapshots

/-- The subject of several references of the highest kind. -/
def conflictSubjects (t : BalanceTarget) : List BalanceReference → List IssueSubject
  | reference :: _ :: _ =>
      [⟨t, "conflicting_balance_references", some reference.referenceKind.value⟩]
  | _ => []

/-- The subjects of the assertion of a key. -/
def assertionSubjects (snapshots : List BalanceSnapshot) (references : List BalanceReference)
    (key : BalanceTargetMatchKey) : List IssueSubject :=
  match compareKey snapshots references key with
  | none => []
  | some (assertion, _) =>
      conflictSubjects assertion.target
          (topReferences (references.filter (fun r => balanceTargetMatchKey r.target = key))) ++
        if assertion.status ≠ .matched then
          [⟨assertion.target, "balance_" ++ assertion.status.value, none⟩]
        else []

/-- The subjects of a comparison; missing references are the resolver's to report. -/
def comparisonSubjects (snapshots : List BalanceSnapshot) (references : List BalanceReference) :
    List IssueSubject :=
  (duplicateSubjects [] snapshots ++
    (comparisonKeys snapshots references).flatMap (assertionSubjects snapshots references)).filter
      (fun s => s.kind ≠ "balance_missing_reference")

/-- What the issues of a check are about, in their order. -/
def checkSubjects (providers : Option BalanceProviders) (request : BalanceCheckRequest)
    (source : BalanceSource) : List IssueSubject :=
  match buildCheckPlan request source with
  | .error _ => []
  | .ok plan =>
      if plan.status ≠ .clean then []
      else
        let resolved :=
          resolve source.references plan.targets request.hydrateMissingReferences providers
        planSubjects request source plan ++
          resolveSubjects source.references plan.targets request.hydrateMissingReferences
            providers ++
          comparisonSubjects plan.snapshots resolved.1

/-! ## Reports -/

/-- The issue is about the subject, and its id is made of it. -/
def Reports (s : IssueSubject) (issue : IssueRecord) : Prop :=
  ∃ message rawFile,
    issue = targetIssue s.target (s.kind :: s.detail.toList) s.kind message rawFile

lemma Reports.issueId {s : IssueSubject} {issue : IssueRecord} (h : Reports s issue) :
    issue.issueId = s.issueId := by
  rcases h with ⟨_, _, rfl⟩
  rfl

lemma Reports.kind {s : IssueSubject} {issue : IssueRecord} (h : Reports s issue) :
    issue.kind = s.kind := by
  rcases h with ⟨_, _, rfl⟩
  rfl

lemma reports_map {α : Type} {subject : α → IssueSubject} {issue : α → IssueRecord}
    (h : ∀ x, Reports (subject x) (issue x)) (xs : List α) :
    List.Forall₂ Reports (xs.map subject) (xs.map issue) := by
  induction xs with
  | nil => exact List.Forall₂.nil
  | cons x xs ih => exact List.Forall₂.cons (h x) ih

lemma reports_append {subjects subjects' : List IssueSubject} {issues issues' : List IssueRecord}
    (h : List.Forall₂ Reports subjects issues) (h' : List.Forall₂ Reports subjects' issues') :
    List.Forall₂ Reports (subjects ++ subjects') (issues ++ issues') := by
  induction h with
  | nil => exact h'
  | cons hfirst _ ih => exact List.Forall₂.cons hfirst ih

lemma reports_filter {accepts : String → Bool} {subjects : List IssueSubject}
    {issues : List IssueRecord} (h : List.Forall₂ Reports subjects issues) :
    List.Forall₂ Reports (subjects.filter (fun s => accepts s.kind))
      (issues.filter (fun issue => accepts issue.kind)) := by
  induction h with
  | nil => exact List.Forall₂.nil
  | @cons s issue _ _ hfirst _ ih =>
      have hkind := hfirst.kind
      by_cases haccepted : accepts s.kind = true
      · rw [List.filter_cons_of_pos (by simpa using haccepted),
          List.filter_cons_of_pos (by simpa [hkind] using haccepted)]
        exact List.Forall₂.cons hfirst ih
      · rw [List.filter_cons_of_neg (by simpa using haccepted),
          List.filter_cons_of_neg (by simpa [hkind] using haccepted)]
        exact ih

/-! ### The plan and the resolver -/

lemma reports_missingFacts (facts : List TransactionFact) (targets : List BalanceTarget) :
    List.Forall₂ Reports (missingFactsSubjects facts targets)
      (deriveBalanceSnapshots facts targets).2 :=
  reports_map (fun _ => ⟨_, _, rfl⟩) _

lemma reports_missingCoverage (facts : List TransactionFact) (targets : List BalanceTarget) :
    List.Forall₂ Reports (missingCoverageSubjects facts targets)
      (missingFactCoverageIssues facts targets) :=
  reports_map (fun _ => ⟨_, _, rfl⟩) _

lemma reports_factBackedPlan {facts : List TransactionFact} {references : List BalanceReference}
    {times : List (AsOfValue × Instant)} {zone : TimeZone}
    (hclean : (factBackedCheckPlan facts references times zone).status = .clean) :
    List.Forall₂ Reports
      (missingFactsSubjects facts (factBackedCheckPlan facts references times zone).targets ++
        if selectReferenceTargetsForAsOfValues references (times.map Prod.fst) zone ≠ [] then
          missingCoverageSubjects facts (factBackedCheckPlan facts references times zone).targets
        else [])
      (factBackedCheckPlan facts references times zone).snapshotIssues := by
  unfold factBackedCheckPlan at hclean ⊢
  dsimp only at hclean ⊢
  by_cases hselected : selectReferenceTargetsForAsOfValues references (times.map Prod.fst) zone = []
  · simp only [hselected, ne_eq, not_true_eq_false, if_false, if_true, List.append_nil] at hclean ⊢
    by_cases htargets : targetsForAsOfValues facts (times.map Prod.snd) = []
    · rw [if_pos htargets] at hclean
      cases hclean
    · rw [if_neg htargets]
      exact reports_missingFacts _ _
  · simp only [hselected, ne_eq, not_false_eq_true, if_true, if_false] at hclean ⊢
    exact reports_append (reports_missingFacts _ _) (reports_missingCoverage _ _)

lemma reports_plan {request : BalanceCheckRequest} {source : BalanceSource} {plan : CheckPlan}
    (h : buildCheckPlan request source = .ok plan) (hclean : plan.status = .clean) :
    List.Forall₂ Reports (planSubjects request source plan) plan.snapshotIssues := by
  unfold buildCheckPlan at h
  dsimp only at h
  rcases except_bind_eq_ok.1 h with ⟨times, htimes, hrest⟩
  rcases except_bind_eq_ok.1 hrest with ⟨_, _, hplan⟩
  unfold planSubjects
  dsimp only
  rw [htimes]
  cases hmode : (buildBalanceSourceInputs source).inputMode with
  | empty =>
      rw [hmode] at hplan
      cases hplan
      cases hclean
  | manualOnly =>
      rw [hmode] at hplan
      have hissues : plan.snapshotIssues = [] := by
        simp only [reduceCtorEq, false_and, if_false] at hplan
        split_ifs at hplan
        · cases hplan
          rfl
        · cases hplan
          unfold manualCheckPlan
          dsimp only
          split_ifs
          · rfl
          · rfl
      rw [hissues]
      exact List.Forall₂.nil
  | factBacked =>
      rw [hmode] at hplan
      rw [if_neg (by simp)]
      cases times with
      | nil =>
          simp only [true_and, if_true] at hplan
          cases hplan
          dsimp only
          split_ifs
          · exact reports_missingCoverage _ _
          · exact List.Forall₂.nil
      | cons time times =>
          simp only [reduceCtorEq, if_false, if_true] at hplan
          rcases except_bind_eq_ok.1 hplan with ⟨zone, hzone, hplan⟩
          rw [hzone]
          cases hplan
          exact reports_factBackedPlan hclean

lemma reports_resolve (existing : List BalanceReference) (targets : List BalanceTarget)
    (hydrateMissing : Bool) (providers : Option BalanceProviders) :
    List.Forall₂ Reports (resolveSubjects existing targets hydrateMissing providers)
      (resolve existing targets hydrateMissing providers).2 := by
  unfold resolveSubjects resolve
  simp only [foldl_matchTarget, List.nil_append]
  have hmissing : List.Forall₂ Reports
      ((unresolvedTargets existing targets).map (fun t =>
        (⟨t, "missing_balance_reference", none⟩ : IssueSubject)))
      ((unresolvedTargets existing targets).map
        (missingReferenceIssue existing "missing_balance_reference")) :=
    reports_map (fun _ => ⟨_, _, rfl⟩) _
  cases hydrateMissing && decide (unresolvedTargets existing targets ≠ []) with
  | false => exact hmissing
  | true =>
      cases providers with
      | none => exact hmissing
      | some providers =>
          exact reports_append (reports_map (fun _ => ⟨_, _, rfl⟩) _)
            (reports_map (fun _ => ⟨_, _, rfl⟩) _)

/-! ### The comparison -/

/-- What the indexing of snapshots knows of the keys seen so far. -/
structure Indexed (acc : SnapshotIndexing) (seen : List BalanceTargetMatchKey) : Prop where
  indexed : ∀ key, (acc.indexed.get? key).isSome ↔ key ∈ seen
  counted : ∀ key ∈ seen, (acc.duplicateCounts.get? key).getD 0 + 1 = seen.count key
  fresh : ∀ key, key ∉ seen → acc.duplicateCounts.get? key = none

lemma indexed_step {acc : SnapshotIndexing} {seen : List BalanceTargetMatchKey}
    (h : Indexed acc seen) (snapshot : BalanceSnapshot) :
    Indexed (indexSnapshot acc snapshot) (balanceTargetMatchKey snapshot.target :: seen) := by
  set key := balanceTargetMatchKey snapshot.target with hkey
  by_cases hseen : key ∈ seen
  · have hsome := (h.indexed key).2 hseen
    have hstep : indexSnapshot acc snapshot =
        { acc with
          duplicateCounts := acc.duplicateCounts.set key (seen.count key)
          issues := acc.issues ++
            [duplicateIssue snapshot.target "duplicate_balance_snapshot" (seen.count key)] } := by
      rw [← h.counted key hseen]
      unfold indexSnapshot
      dsimp only
      rw [← hkey, if_pos hsome]
    rw [hstep]
    refine ⟨fun k => ?_, fun k hk => ?_, fun k hk => ?_⟩
    · rw [h.indexed k, List.mem_cons]
      exact ⟨.inr, fun hmem => hmem.elim (fun heq => heq ▸ hseen) id⟩
    · dsimp only
      rw [Dict.get?_set]
      by_cases hsame : k = key
      · rw [if_pos hsame, hsame, Option.getD_some, List.count_cons_self]
      · rw [if_neg hsame, List.count_cons_of_ne (Ne.symm hsame)]
        exact h.counted k ((List.mem_cons.1 hk).resolve_left hsame)
    · rw [List.mem_cons, not_or] at hk
      dsimp only
      rw [Dict.get?_set, if_neg hk.1]
      exact h.fresh k hk.2
  · have hnone : ¬ (acc.indexed.get? key).isSome = true := fun hsome => hseen ((h.indexed key).1 hsome)
    have hstep : indexSnapshot acc snapshot =
        { acc with indexed := acc.indexed.set key snapshot } := by
      unfold indexSnapshot
      dsimp only
      rw [← hkey, if_neg hnone]
    rw [hstep]
    refine ⟨fun k => ?_, fun k hk => ?_, fun k hk => ?_⟩
    · dsimp only
      rw [Dict.get?_set, List.mem_cons, ← h.indexed k]
      by_cases hsame : k = key
      · simp [hsame]
      · simp [hsame]
    · dsimp only
      by_cases hsame : k = key
      · rw [hsame, h.fresh key hseen, List.count_cons_self, List.count_eq_zero_of_not_mem hseen]
        rfl
      · rw [List.count_cons_of_ne (Ne.symm hsame)]
        exact h.counted k ((List.mem_cons.1 hk).resolve_left hsame)
    · rw [List.mem_cons, not_or] at hk
      exact h.fresh k hk.2

lemma reports_duplicates (snapshots : List BalanceSnapshot) :
    List.Forall₂ Reports (duplicateSubjects [] snapshots) (indexSnapshots snapshots).issues := by
  -- the loop appends the issues of the snapshots that are left to those reported before
  have hloop : ∀ (snapshots : List BalanceSnapshot) (acc : SnapshotIndexing)
      (seen : List BalanceTargetMatchKey), Indexed acc seen →
        ∃ new, (snapshots.foldl indexSnapshot acc).issues = acc.issues ++ new ∧
          List.Forall₂ Reports (duplicateSubjects seen snapshots) new := by
    intro snapshots
    induction snapshots with
    | nil =>
        intro acc seen _
        exact ⟨[], (List.append_nil _).symm, List.Forall₂.nil⟩
    | cons snapshot snapshots ih =>
        intro acc seen hindexed
        rcases ih _ _ (indexed_step hindexed snapshot) with ⟨new, hnew, hreports⟩
        rw [List.foldl_cons, hnew, duplicateSubjects]
        by_cases hkey : balanceTargetMatchKey snapshot.target ∈ seen
        · have hsome := (hindexed.indexed _).2 hkey
          have hcount := hindexed.counted _ hkey
          rw [if_pos hkey, ← hcount]
          simp only [indexSnapshot, hsome, if_true]
          rw [List.append_assoc]
          exact ⟨_, rfl, List.Forall₂.cons ⟨_, _, rfl⟩ hreports⟩
        · have hnone : ¬ (acc.indexed.get? (balanceTargetMatchKey snapshot.target)).isSome = true :=
            fun h => hkey ((hindexed.indexed _).1 h)
          have hissues : (indexSnapshot acc snapshot).issues = acc.issues := by
            unfold indexSnapshot
            dsimp only
            rw [if_neg hnone]
          rw [if_neg hkey, hissues, List.nil_append]
          exact ⟨new, rfl, hreports⟩
  have hstart : Indexed ⟨Dict.empty, Dict.empty, []⟩ [] :=
    ⟨by simp, fun key hkey => absurd hkey List.not_mem_nil, by simp⟩
  rcases hloop snapshots _ [] hstart with ⟨new, hnew, hreports⟩
  rw [indexSnapshots, hnew]
  exact hreports

lemma reports_conflict (t : BalanceTarget) (top : List BalanceReference) :
    List.Forall₂ Reports (conflictSubjects t top) (selectionOf t top).issues := by
  match top with
  | [] => exact List.Forall₂.nil
  | [_] => exact List.Forall₂.nil
  | _ :: _ :: _ => exact List.Forall₂.cons ⟨_, _, rfl⟩ List.Forall₂.nil

lemma reports_assertions (snapshots : List BalanceSnapshot) (references : List BalanceReference)
    (keys : List BalanceTargetMatchKey) :
    List.Forall₂ Reports (keys.flatMap (assertionSubjects snapshots references))
      ((keys.filterMap (compareKey snapshots references)).map Prod.snd).flatten := by
  induction keys with
  | nil => exact List.Forall₂.nil
  | cons key keys ih =>
      rw [List.flatMap_cons]
      cases hkey : compareKey snapshots references key with
      | none =>
          rw [List.filterMap_cons_none hkey, assertionSubjects, hkey]
          exact ih
      | some p =>
          rw [List.filterMap_cons_some hkey, List.map_cons, List.flatten_cons, assertionSubjects,
            hkey, mem_comparison hkey, selectedReference_eq]
          refine reports_append (reports_append (reports_conflict _ _) ?_) ih
          split_ifs
          · exact List.Forall₂.cons ⟨_, _, rfl⟩ List.Forall₂.nil
          · exact List.Forall₂.nil

lemma reports_comparison (snapshots : List BalanceSnapshot) (references : List BalanceReference) :
    List.Forall₂ Reports (comparisonSubjects snapshots references)
      ((assertBalanceTargets snapshots references).issues.filter
        (fun issue => issue.kind ≠ "balance_missing_reference")) := by
  rw [assertBalanceTargets_eq]
  exact @reports_filter (fun kind => kind ≠ "balance_missing_reference") _ _
    (reports_append (reports_duplicates snapshots) (reports_assertions snapshots references _))

/-- The issues of a check report its subjects, in their order. -/
theorem reports_check (providers : Option BalanceProviders) (request : BalanceCheckRequest)
    (source : BalanceSource) :
    List.Forall₂ Reports (checkSubjects providers request source)
      (checkSourceInput providers request source).1.issues := by
  unfold checkSubjects checkSourceInput
  cases hplan : buildCheckPlan request source with
  | error message => exact List.Forall₂.nil
  | ok plan =>
      dsimp only
      split_ifs with hclean
      · exact List.Forall₂.nil
      · exact reports_append (reports_append (reports_plan hplan (not_not.1 hclean))
          (reports_resolve _ _ _ _)) (reports_comparison _ _)

/-! ## Unique ids -/

/-- The issues are told apart by their ids if they are about different match keys or of different
kinds. -/
def IdsUnique (subjects : List IssueSubject) (issues : List IssueRecord) : Prop :=
  (subjects.zip issues).Pairwise (fun a b =>
    (balanceTargetMatchKey a.1.target ≠ balanceTargetMatchKey b.1.target ∨ a.2.kind ≠ b.2.kind) →
      a.2.issueId ≠ b.2.issueId)

lemma idsUnique_iff {subjects : List IssueSubject} {issues : List IssueRecord}
    (h : List.Forall₂ Reports subjects issues) :
    IdsUnique subjects issues ↔
      subjects.Pairwise (fun s u => ¬ (s.AtOtherInstant u ∨ s.SpeltAlike u)) := by
  have hzip : ∀ p ∈ subjects.zip issues, Reports p.1 p.2 := by
    intro p hp
    exact List.forall₂_zip h hp
  have hsubjects : subjects = (subjects.zip issues).map Prod.fst := by
    rw [List.map_fst_zip (Nat.le_of_eq h.length_eq)]
  unfold IdsUnique
  conv_rhs => rw [hsubjects, List.pairwise_map]
  refine List.Pairwise.iff_of_mem ?_
  intro a b ha hb
  rw [(hzip a ha).kind, (hzip b hb).kind, (hzip a ha).issueId, (hzip b hb).issueId]
  exact toldApart_iff

/-- The ids of the issues of a check are unique exactly when no two of its subjects are one balance
and kind at two instants, or different texts with the same pieces. -/
theorem issue_ids_unique_iff (providers : Option BalanceProviders) (request : BalanceCheckRequest)
    (source : BalanceSource) :
    List.Forall₂ Reports (checkSubjects providers request source)
        (checkSourceInput providers request source).1.issues ∧
      (IdsUnique (checkSubjects providers request source)
          (checkSourceInput providers request source).1.issues ↔
        (checkSubjects providers request source).Pairwise
          (fun s u => ¬ (s.AtOtherInstant u ∨ s.SpeltAlike u))) :=
  ⟨reports_check providers request source, idsUnique_iff (reports_check providers request source)⟩

/-! ## One balance on two days -/

def nextDay : Instant := ⟨2024, 1, 2, 0, 0, 0, 0, by decide⟩

/-- A manual source with a balance of two days, and no references. -/
def twoDaySource : BalanceSource where
  name := "coinbase"
  facts := []
  snapshotRows := some
    [{ target := bitcoinTarget .date, quantity := Decimal.ofParts 5 (-1), snapshotBasis := "manual" },
      { target := { bitcoinTarget .date with target := ⟨nextDay, .date, fun _ => by decide⟩ },
        quantity := Decimal.ofParts 5 (-1), snapshotBasis := "manual" }]
  references := []
  timezone := .error "unknown timezone"

/-- The missing references of the two days are reported under one id. -/
theorem issue_ids_not_unique :
    ¬ ∀ (providers : Option BalanceProviders) (request : BalanceCheckRequest)
        (source : BalanceSource),
      IdsUnique (checkSubjects providers request source)
        (checkSourceInput providers request source).1.issues := by
  intro h
  have hunique := (idsUnique_iff (reports_check none offlineCheckRequest twoDaySource)).1
    (h none offlineCheckRequest twoDaySource)
  have hsubjects : checkSubjects none offlineCheckRequest twoDaySource =
      [⟨bitcoinTarget .date, "missing_balance_reference", none⟩,
        ⟨{ bitcoinTarget .date with target := ⟨nextDay, .date, fun _ => by decide⟩ },
          "missing_balance_reference", none⟩] := by
    decide +kernel
  rw [hsubjects] at hunique
  refine (List.pairwise_cons.1 hunique).1 _ List.mem_cons_self (.inl ⟨rfl, rfl, ?_⟩)
  decide

end Balances
end Tallylot
