import Tallylot.Translation.Planner
import Tallylot.Translation.Winners

/-!
# Soundness — what a translation plan promises

A run that ends gives every candidate one decision.  When the plan is not blocked, every candidate was
valid, so that the candidate ids are distinct and the groups hold all candidates; each group is then
sound on its own, and its decisions are those of the plan.  The planner fails on timestamps of which one
is naive and one is aware, and on freshness values that no float holds, and only there
(`plan_sound_iff`).
-/

namespace Tallylot
namespace Translation

open Data Domain

/-! ## One group -/

def contextId (context : CandidateContext) : String := context.candidate.candidateId

lemma groupPolicy_some {candidates : List TranslationInputCandidate}
    {policy : TranslationSelectionMode} :
    groupPolicy candidates = some policy →
      (policy = .exclusiveSnapshot ↔
        ∃ c ∈ candidates, c.selectionMode = .exclusiveSnapshot) := by
  intro h
  have hmem : .exclusiveSnapshot ∈ (candidates.map TranslationInputCandidate.selectionMode).dedup ↔
      ∃ c ∈ candidates, c.selectionMode = .exclusiveSnapshot := by
    simp
  simp only [groupPolicy] at h
  split at h
  · rename_i hex
    cases h
    exact iff_of_true rfl (hmem.1 hex)
  · rename_i hex
    split at h
    · refine iff_of_false ?_ (fun hc => hex (hmem.2 hc))
      rintro rfl
      exact hex (List.mem_of_mem_head? h)
    · cases h

lemma blocked_of_groupFailure {contexts : List CandidateContext} {failure : GroupFailure} :
    groupFailure contexts = some failure → failure.status.isBlocked = true := by
  intro h
  unfold groupFailure at h
  split_ifs at h <;> cases h <;> decide

lemma invalidGroup_ids (profile : SourceProfile) (contexts : List CandidateContext)
    (status : TranslationPlanDecisionStatus) (reason : String)
    (decisionReason : CandidateContext → String) :
    (invalidGroup profile contexts status reason decisionReason).decisions.map
      TranslationPlanDecision.candidateId = contexts.map contextId := by
  simp [invalidGroup, Function.comp_def, contextId]

lemma invalidGroup_blocked {contexts : List CandidateContext}
    {status : TranslationPlanDecisionStatus} (hne : contexts ≠ [])
    (hstatus : status.isBlocked = true) (profile : SourceProfile) (reason : String)
    (decisionReason : CandidateContext → String) :
    ¬Unblocked (invalidGroup profile contexts status reason decisionReason).decisions := by
  intro hun
  rcases List.exists_mem_of_ne_nil contexts hne with ⟨context, hcontext⟩
  have hblocked := hun _ (List.mem_map_of_mem hcontext)
  simp [hstatus] at hblocked

section

variable {F : Type} [LinearOrder F] (env : PlannerEnvironment F) (profile : SourceProfile)

/-- A decided group has one decision per candidate; unless blocked, its candidates are valid and
its decisions are sound. -/
structure GroupDecided (contexts : List CandidateContext) (group : PlannedGroup) : Prop where
  ids :
    (group.decisions.map TranslationPlanDecision.candidateId).Perm (contexts.map contextId)
  valid : Unblocked group.decisions → ∀ context ∈ contexts, context.valid = true
  sound :
    Unblocked group.decisions →
      GroupSound (contexts.map CandidateContext.candidate) group.decisions

lemma groupDecided_invalidGroup {contexts : List CandidateContext}
    {status : TranslationPlanDecisionStatus} (hne : contexts ≠ [])
    (hstatus : status.isBlocked = true) (reason : String)
    (decisionReason : CandidateContext → String) :
    GroupDecided contexts (invalidGroup profile contexts status reason decisionReason) where
  ids := List.Perm.of_eq (invalidGroup_ids profile contexts status reason decisionReason)
  valid := fun hun => absurd hun (invalidGroup_blocked hne hstatus profile reason decisionReason)
  sound := fun hun => absurd hun (invalidGroup_blocked hne hstatus profile reason decisionReason)

/-- What is known of a group that did not fail. -/
lemma groupFailure_none {contexts : List CandidateContext} (h : groupFailure contexts = none) :
    (∀ context ∈ contexts, context.valid = true) ∧
      (1 < (contexts.map CandidateContext.candidate).length →
        ∀ c ∈ contexts.map CandidateContext.candidate, c.coverage.mode ≠ .unknown) := by
  unfold groupFailure at h
  split_ifs at h with hinvalid hunknown
  refine ⟨by simpa using hinvalid, ?_⟩
  intro hlen c hc hmode
  rcases List.mem_map.1 hc with ⟨context, hcontext, rfl⟩
  refine hunknown (Bool.and_eq_true_iff.2 ⟨by simpa using hlen, ?_⟩)
  exact List.any_eq_true.2 ⟨context, hcontext, by simpa using hmode⟩

theorem decideGroup_decided {contexts : List CandidateContext} (hne : contexts ≠ [])
    (hnd : (contexts.map contextId).Nodup) {group : PlannedGroup}
    (h : decideGroup env profile contexts = some group) : GroupDecided contexts group := by
  have hmap : (contexts.map CandidateContext.candidate).map TranslationInputCandidate.candidateId =
      contexts.map contextId := by
    simp [Function.comp_def, contextId]
  have hnd' : ((contexts.map CandidateContext.candidate).map
      TranslationInputCandidate.candidateId).Nodup := hmap ▸ hnd
  unfold decideGroup at h
  cases hfailure : groupFailure contexts with
  | some failure =>
      rw [hfailure] at h
      rw [← Option.some.inj h]
      exact groupDecided_invalidGroup profile hne (blocked_of_groupFailure hfailure) _ _
  | none =>
      rw [hfailure] at h
      rcases groupFailure_none hfailure with ⟨hvalid, hknown⟩
      cases hpolicy : groupPolicy (contexts.map CandidateContext.candidate) with
      | none =>
          rw [hpolicy] at h
          rw [← Option.some.inj h]
          exact groupDecided_invalidGroup profile hne (by decide) _ _
      | some policy =>
          rw [hpolicy] at h
          have hex := groupPolicy_some hpolicy
          by_cases hmode : policy = .exclusiveSnapshot
          · subst hmode
            rcases planGroup_exclusive env profile hnd' (by simpa using hne) h with ⟨hids, hwinner⟩
            refine ⟨hmap ▸ hids, fun _ => hvalid, fun hun => ?_⟩
            refine ⟨fun _ => hwinner hun, ?_, ?_⟩
            · intro hrange
              rcases hex.1 rfl with ⟨c, hc, hcmode⟩
              exact absurd hcmode (hrange c hc)
            · intro hrange
              rcases hex.1 rfl with ⟨c, hc, hcmode⟩
              exact absurd hcmode (hrange c hc)
          · rcases planRangeGroup_sound env profile hnd' hmode hknown h with ⟨hids, hrange⟩
            refine ⟨hmap ▸ hids, fun _ => hvalid, fun hun => ?_⟩
            exact ⟨fun hsome => absurd (hex.2 hsome) hmode, fun _ => (hrange hun).1,
              fun _ => (hrange hun).2⟩

lemma exists_decideGroup {contexts : List CandidateContext} (hne : contexts ≠ [])
    (hnd : (contexts.map contextId).Nodup)
    (hfresh : ∀ context ∈ contexts, HasFreshness env context.candidate) :
    ∃ group, decideGroup env profile contexts = some group := by
  unfold decideGroup
  cases groupFailure contexts with
  | some failure => exact ⟨_, rfl⟩
  | none =>
      cases groupPolicy (contexts.map CandidateContext.candidate) with
      | none => exact ⟨_, rfl⟩
      | some policy =>
          refine exists_planGroup env profile ?_ policy (by simpa using hne) ?_
          · rw [List.map_map]
            exact hnd
          · intro c hc
            rcases List.mem_map.1 hc with ⟨context, hcontext, rfl⟩
            exact hfresh context hcontext

end

/-! ## The groups of the contexts -/

section

variable {contexts : Dict String CandidateContext}

lemma values_groupContexts :
    (groupContexts contexts).values =
      (Dict.group (fun context : CandidateContext => context.candidate.selectionGroup)
        contexts.values).entries.map (fun g => sortedOn contextId g.2) := by
  rw [Dict.values, groupContexts, Dict.entries_ofList]
  · rw [List.map_map]
    rfl
  · rw [List.map_map]
    exact Dict.keys_nodup _

lemma flatten_groupContexts : (groupContexts contexts).values.flatten.Perm contexts.values := by
  rw [values_groupContexts, ← List.flatMap_def]
  refine List.Perm.trans ?_
    (Dict.flatten_group (fun context : CandidateContext => context.candidate.selectionGroup)
      contexts.values)
  exact List.Perm.flatMap_left _ (fun g _ => sortedOn_perm contextId g.2)

/-- A group holds the contexts of one selection group, and at least one of them. -/
lemma mem_groupContexts {group : List CandidateContext} :
    group ∈ (groupContexts contexts).values →
      group ≠ [] ∧ ∃ g, ∀ context, context ∈ group ↔
        context ∈ contexts.values ∧ context.candidate.selectionGroup = g := by
  intro h
  rw [values_groupContexts] at h
  rcases List.mem_map.1 h with ⟨⟨g, members⟩, hmem, rfl⟩
  rcases Dict.mem_entries_group hmem with ⟨hne, hmembers⟩
  refine ⟨?_, g, ?_⟩
  · rcases List.exists_mem_of_ne_nil members hne with ⟨context, hcontext⟩
    exact List.ne_nil_of_mem (mem_sortedOn.2 hcontext)
  · intro context
    simp [hmembers]

end

/-! ## Validated candidates -/

/-- The two bounds of a window are of one kind, if they are compared. -/
def BoundsComparable (coverage : TranslationCoverageWindow) : Prop :=
  coverage.mode = .unknown ∨
    ∀ startAt ∈ coverage.startAt, ∀ endAt ∈ coverage.endAt, startAt.isNaive = endAt.isNaive

lemma exists_startsAfterEnd_iff {coverage : TranslationCoverageWindow} :
    (∃ isAfter, startsAfterEnd coverage = some isAfter) ↔
      ∀ startAt ∈ coverage.startAt, ∀ endAt ∈ coverage.endAt, startAt.isNaive = endAt.isNaive := by
  unfold startsAfterEnd
  cases hstart : coverage.startAt with
  | none => exact iff_of_true ⟨_, rfl⟩ (fun _ h => by cases h)
  | some startAt =>
      cases hend : coverage.endAt with
      | none => exact iff_of_true ⟨_, rfl⟩ (fun _ _ _ h => by cases h)
      | some endAt =>
          simp only [Timestamp.after, Option.mem_some_iff]
          split_ifs with hkind
          · refine iff_of_true ⟨_, rfl⟩ ?_
            rintro _ rfl _ rfl
            exact hkind
          · exact iff_of_false (fun ⟨_, h⟩ => by cases h) (fun h => hkind (h _ rfl _ rfl))

lemma exists_validateCoverage_iff {coverage : TranslationCoverageWindow} :
    (∃ errors, validateCoverage coverage = some errors) ↔ BoundsComparable coverage := by
  unfold validateCoverage BoundsComparable
  split_ifs with hmode
  · exact iff_of_true ⟨_, rfl⟩ (.inl hmode)
  · rw [or_iff_right hmode, ← exists_startsAfterEnd_iff]
    constructor
    · rintro ⟨errors, h⟩
      rcases Option.bind_eq_some_iff.1 h with ⟨isAfter, hafter, _⟩
      exact ⟨isAfter, hafter⟩
    · rintro ⟨isAfter, hafter⟩
      exact ⟨_, Option.bind_eq_some_iff.2 ⟨isAfter, hafter, rfl⟩⟩

section

variable {F : Type} {env : PlannerEnvironment F} {candidate : TranslationInputCandidate}
  {inventory : Dict String FileInventoryEntry} {metadata : Option CaptureMetadata}
  {duplicates : List String}

lemma exists_validateCandidate_iff :
    (∃ context, validateCandidate env candidate inventory metadata duplicates = some context) ↔
      BoundsComparable candidate.coverage := by
  rw [← exists_validateCoverage_iff]
  constructor
  · rintro ⟨context, h⟩
    rcases Option.bind_eq_some_iff.1 h with ⟨errors, herrors, _⟩
    exact ⟨errors, herrors⟩
  · rintro ⟨errors, herrors⟩
    exact ⟨_, Option.bind_eq_some_iff.2 ⟨errors, herrors, rfl⟩⟩

lemma candidate_of_validateCandidate {context : CandidateContext}
    (h : validateCandidate env candidate inventory metadata duplicates = some context) :
    context.candidate = candidate := by
  rcases Option.bind_eq_some_iff.1 h with ⟨_, _, hcontext⟩
  rw [← Option.some.inj hcontext]

lemma not_duplicated_of_valid {context : CandidateContext}
    (h : validateCandidate env candidate inventory metadata duplicates = some context)
    (hvalid : context.valid = true) : candidate.candidateId ∉ duplicates := by
  intro hdup
  rcases Option.bind_eq_some_iff.1 h with ⟨_, _, hcontext⟩
  rw [← Option.some.inj hcontext] at hvalid
  simp [CandidateContext.valid, errorIf, hdup] at hvalid

end

section

variable {F : Type} {env : PlannerEnvironment F} {candidates : List TranslationInputCandidate}
  {inventory : Dict String FileInventoryEntry} {metadata : Option CaptureMetadata}

/-- Every candidate is validated, if their bounds can be compared. -/
lemma exists_validateCandidates_iff :
    (∃ contexts, validateCandidates env candidates inventory metadata = some contexts) ↔
      ∀ c ∈ candidates, BoundsComparable c.coverage := by
  constructor
  · rintro ⟨contexts, h⟩ c hc
    rcases Option.bind_eq_some_iff.1 h with ⟨validated, hvalidated, _⟩
    rcases mapM_some_pairs hvalidated with ⟨pairs, hfst, _, hpairs⟩
    rw [← hfst] at hc
    rcases List.mem_map.1 hc with ⟨p, hp, rfl⟩
    exact exists_validateCandidate_iff.1 ⟨p.2, hpairs p hp⟩
  · intro h
    have hstep : ∀ c ∈ candidates, ∃ context, validateCandidate env c inventory metadata
        (duplicatedCandidateIds candidates) = some context ∧ context.candidate = c := by
      intro c hc
      rcases exists_validateCandidate_iff.2 (h c hc) with ⟨context, hcontext⟩
      exact ⟨context, hcontext, candidate_of_validateCandidate hcontext⟩
    rcases mapM_pairs hstep with ⟨pairs, hmap, _, _⟩
    exact ⟨_, Option.bind_eq_some_iff.2 ⟨_, hmap, rfl⟩⟩

/-- The contexts are those of the candidates, by their ids. -/
lemma contexts_of_validateCandidates {contexts : Dict String CandidateContext}
    (h : validateCandidates env candidates inventory metadata = some contexts) :
    ∃ validated : List CandidateContext,
      contexts = Dict.ofList (validated.map (fun context => (contextId context, context))) ∧
      validated.map CandidateContext.candidate = candidates ∧
      ∀ context ∈ validated, context.valid = true →
        contextId context ∉ duplicatedCandidateIds candidates := by
  rcases Option.bind_eq_some_iff.1 h with ⟨validated, hvalidated, hcontexts⟩
  rcases mapM_some_pairs hvalidated with ⟨pairs, hfst, rfl, hpairs⟩
  have hcandidate : ∀ p ∈ pairs, p.2.candidate = p.1 :=
    fun p hp => candidate_of_validateCandidate (hpairs p hp)
  refine ⟨pairs.map Prod.snd, (Option.some.inj hcontexts).symm, ?_, ?_⟩
  · rw [List.map_map, ← hfst]
    exact List.map_congr_left hcandidate
  · intro context hcontext hvalid
    rcases List.mem_map.1 hcontext with ⟨p, hp, rfl⟩
    rw [contextId, hcandidate p hp]
    exact not_duplicated_of_valid (hpairs p hp) hvalid

variable {contexts : Dict String CandidateContext}
  (h : validateCandidates env candidates inventory metadata = some contexts)

include h

lemma contextIds_validateCandidates : contexts.values.map contextId = contexts.keys := by
  rcases contexts_of_validateCandidates h with ⟨validated, rfl, _, _⟩
  simp only [Dict.values, Dict.keys, List.map_map]
  refine List.map_congr_left ?_
  intro e he
  rcases List.mem_map.1 (Dict.mem_of_mem_entries_ofList he) with ⟨context, _, rfl⟩
  rfl

lemma contextIds_nodup : (contexts.values.map contextId).Nodup := by
  rw [contextIds_validateCandidates h]
  exact contexts.keys_nodup

lemma mem_contextIds {i : String} :
    i ∈ contexts.values.map contextId ↔
      i ∈ candidates.map TranslationInputCandidate.candidateId := by
  rw [contextIds_validateCandidates h]
  rcases contexts_of_validateCandidates h with ⟨validated, rfl, rfl, _⟩
  rw [Dict.mem_keys_ofList, List.map_map, List.map_map]
  rfl

/-- The context of an id is that of the last candidate with the id. -/
lemma mem_contexts_iff {c : TranslationInputCandidate} :
    c ∈ contexts.values.map CandidateContext.candidate ↔
      (candidates.filter (fun x => x.candidateId = c.candidateId)).getLast? = some c := by
  have hids := contextIds_validateCandidates h
  rcases contexts_of_validateCandidates h with ⟨validated, hcontexts, rfl, _⟩
  -- The entry of the id holds the last context that was written under it.
  have hget : (contexts.get? c.candidateId).map CandidateContext.candidate =
      ((validated.map CandidateContext.candidate).filter
        (fun x => x.candidateId = c.candidateId)).getLast? := by
    rw [hcontexts, Dict.get?_ofList, List.filter_map, List.filter_map, List.getLast?_map,
      List.getLast?_map, Option.map_map, Option.map_map]
    rfl
  rw [← hget, Option.map_eq_some_iff]
  constructor
  · intro hc
    rcases List.mem_map.1 hc with ⟨context, hcontext, rfl⟩
    rcases List.mem_map.1 hcontext with ⟨⟨i, entry⟩, he, rfl⟩
    have hkey : i = contextId entry := by
      rw [hcontexts] at he
      rcases List.mem_map.1 (Dict.mem_of_mem_entries_ofList he) with ⟨k, _, hk⟩
      rw [← (Prod.mk.inj hk).1, (Prod.mk.inj hk).2]
    exact ⟨entry, (Dict.get?_eq_some_iff _ _ _).2 (hkey ▸ he), rfl⟩
  · rintro ⟨context, hcontext, hsame⟩
    have hentry := (Dict.get?_eq_some_iff _ _ _).1 hcontext
    exact List.mem_map.2 ⟨context, List.mem_map.2 ⟨_, hentry, rfl⟩, hsame⟩

/-- When every context is valid, no id is repeated and every candidate has its context. -/
theorem candidates_of_valid (hvalid : ∀ context ∈ contexts.values, context.valid = true) :
    (candidates.map TranslationInputCandidate.candidateId).Nodup ∧
      contexts.values.map CandidateContext.candidate = candidates := by
  rcases contexts_of_validateCandidates h with ⟨validated, hcontexts, hcandidates, hduplicated⟩
  have hnd : (candidates.map TranslationInputCandidate.candidateId).Nodup := by
    refine List.nodup_iff_count_le_one.2 ?_
    intro i
    by_contra hcount
    have hi : i ∈ candidates.map TranslationInputCandidate.candidateId :=
      List.count_pos_iff.1 (by omega)
    rcases List.mem_map.1 ((mem_contextIds h).2 hi) with ⟨context, hcontext, rfl⟩
    have hok := hvalid context hcontext
    rcases List.mem_map.1 hcontext with ⟨e, he, rfl⟩
    rw [hcontexts] at he
    rcases List.mem_map.1 (Dict.mem_of_mem_entries_ofList he) with ⟨k, hk, rfl⟩
    refine hduplicated k hk hok ?_
    rw [duplicatedCandidateIds, List.mem_filter]
    exact ⟨List.mem_dedup.2 hi, decide_eq_true (not_le.1 hcount)⟩
  refine ⟨hnd, ?_⟩
  have hkeys : ((validated.map (fun context => (contextId context, context))).map Prod.fst).Nodup := by
    rw [List.map_map]
    rw [← hcandidates, List.map_map] at hnd
    exact hnd
  rw [hcontexts, Dict.values, Dict.entries_ofList hkeys, ← hcandidates, List.map_map, List.map_map]
  rfl

end

/-! ## The plan -/

section

variable {F : Type} [LinearOrder F] (env : PlannerEnvironment F)

/-- Where every decision has a context, the plan is made if the candidates of the contexts can be
sorted. -/
lemma exists_buildTranslationPlan {contexts : Dict String CandidateContext}
    {decisions : Dict String TranslationPlanDecision}
    (hcontexts : ∀ i ∈ decisions.keys, i ∈ contexts.keys)
    (hfresh : ∀ context ∈ contexts.values, HasFreshness env context.candidate)
    (hsort : ∀ left ∈ contexts.values, ∀ right ∈ contexts.values,
      SortComparable left.candidate right.candidate) :
    ∃ plan, buildTranslationPlan env contexts decisions = some plan := by
  have hstep : ∀ item ∈ decisions.entries, ∃ i : TranslationInputCandidate × _,
      (contexts.get? item.1).map (fun context => (context.candidate, item)) = some i ∧
        ∃ context ∈ contexts.values, i.1 = context.candidate := by
    intro item hitem
    have hkey : item.1 ∈ contexts.keys := hcontexts item.1 (List.mem_map_of_mem hitem)
    cases hget : contexts.get? item.1 with
    | none => exact absurd hkey ((Dict.get?_eq_none_iff _ _).1 hget)
    | some context =>
        have hentry := (Dict.get?_eq_some_iff _ _ _).1 hget
        exact ⟨_, rfl, context, List.mem_map.2 ⟨_, hentry, rfl⟩, rfl⟩
  rcases mapM_pairs hstep with ⟨pairs, hmap, _, hpairs⟩
  have hmem : ∀ i ∈ pairs.map Prod.snd, ∃ context ∈ contexts.values, i.1 = context.candidate := by
    intro i hi
    rcases List.mem_map.1 hi with ⟨p, hp, rfl⟩
    exact hpairs p hp
  have hsortable : (∀ i ∈ pairs.map Prod.snd, HasFreshness env i.1) ∧
      ∀ left ∈ pairs.map Prod.snd, ∀ right ∈ pairs.map Prod.snd,
        SortComparable left.1 right.1 := by
    constructor
    · intro i hi
      rcases hmem i hi with ⟨context, hcontext, hsame⟩
      rw [hsame]
      exact hfresh context hcontext
    · intro left hleft right hright
      rcases hmem left hleft with ⟨context, hcontext, hsame⟩
      rcases hmem right hright with ⟨context', hcontext', hsame'⟩
      rw [hsame, hsame']
      exact hsort context hcontext context' hcontext'
  rw [buildTranslationPlan, hmap]
  exact ⟨_, if_pos hsortable⟩

/-- A plan holds all decisions and selects by their status, and its candidates could be sorted. -/
theorem buildTranslationPlan_spec {contexts : Dict String CandidateContext}
    {decisions : Dict String TranslationPlanDecision} {plan : TranslationInputPlan}
    (h : buildTranslationPlan env contexts decisions = some plan) :
    plan.decisions.Perm decisions.values ∧
      plan.blocked = decisions.values.any (fun d => d.status.isBlocked) ∧
      (∀ i, i ∈ plan.selectedCandidateIds ↔
        ∃ d, (i, d) ∈ decisions.entries ∧ d.status = .selected) ∧
      ∃ sorted : List TranslationInputCandidate,
        (∀ i ∈ decisions.keys, ∃ context, contexts.get? i = some context ∧
          context.candidate ∈ sorted) ∧
        (∀ c ∈ sorted, HasFreshness env c) ∧
        ∀ left ∈ sorted, ∀ right ∈ sorted, SortComparable left right := by
  rcases Option.bind_eq_some_iff.1 h with ⟨items, hitems, hplan⟩
  rcases mapM_some_pairs hitems with ⟨pairs, hfst, rfl, hpairs⟩
  have hstep : ∀ p ∈ pairs, ∃ context, contexts.get? p.1.1 = some context ∧
      p.2 = (context.candidate, p.1) := by
    intro p hp
    rcases Option.map_eq_some_iff.1 (hpairs p hp) with ⟨context, hcontext, hitem⟩
    exact ⟨context, hcontext, hitem.symm⟩
  have hentries : (pairs.map Prod.snd).map Prod.snd = decisions.entries := by
    rw [← hfst, List.map_map]
    refine List.map_congr_left (fun p hp => ?_)
    rcases hstep p hp with ⟨context, _, hitem⟩
    exact congrArg Prod.snd hitem
  split_ifs at hplan with hsortable
  rw [← Option.some.inj hplan]
  refine ⟨(sortedOn_perm _ _).map _, rfl, ?_, (pairs.map Prod.snd).map Prod.fst, ?_, ?_, ?_⟩
  · intro i
    rw [← hentries]
    simp only [List.mem_map, List.mem_filter, mem_sortedOn, decide_eq_true_eq]
    constructor
    · rintro ⟨item, ⟨hmem, hsel⟩, rfl⟩
      exact ⟨item.2.2, ⟨item, hmem, rfl⟩, hsel⟩
    · rintro ⟨d, ⟨item, hmem, hitem⟩, hsel⟩
      exact ⟨item, ⟨hmem, by rw [hitem]; exact hsel⟩, by rw [hitem]⟩
  · intro i hi
    rw [Dict.keys, ← hfst, List.map_map] at hi
    rcases List.mem_map.1 hi with ⟨p, hp, rfl⟩
    rcases hstep p hp with ⟨context, hcontext, hitem⟩
    refine ⟨context, hcontext, List.mem_map.2 ⟨p.2, List.mem_map_of_mem hp, ?_⟩⟩
    rw [hitem]
  · intro c hc
    rcases List.mem_map.1 hc with ⟨i, hi, rfl⟩
    exact hsortable.1 i hi
  · intro left hleft right hright
    rcases List.mem_map.1 hleft with ⟨i, hi, rfl⟩
    rcases List.mem_map.1 hright with ⟨j, hj, rfl⟩
    exact hsortable.2 i hi j hj

/-- A sound group stays sound among the decisions of other groups. -/
lemma GroupSound.transfer {members members' : List TranslationInputCandidate}
    {decisions decisions' : List TranslationPlanDecision} (h : GroupSound members decisions)
    (hmembers : ∀ x, x ∈ members' ↔ x ∈ members) (hsub : ∀ d ∈ decisions, d ∈ decisions')
    (hown : ∀ x ∈ members, ∀ d ∈ decisions', d.candidateId = x.candidateId → d ∈ decisions) :
    GroupSound members' decisions' := by
  have hselected : ∀ x ∈ members, Selected decisions' x → Selected decisions x := by
    rintro x hx ⟨d, hd, hdx, hsel⟩
    exact ⟨d, hown x hx d hd hdx, hdx, hsel⟩
  have hselected' : ∀ x, Selected decisions x → Selected decisions' x := by
    rintro x ⟨d, hd, hdx, hsel⟩
    exact ⟨d, hsub d hd, hdx, hsel⟩
  constructor
  · rintro ⟨c, hc, hmode⟩
    rcases h.exclusive ⟨c, (hmembers c).1 hc, hmode⟩ with ⟨w, hw, hsel, huniq⟩
    refine ⟨w, (hmembers w).2 hw, hselected' w hsel, ?_⟩
    intro x hx hxsel
    exact huniq x ((hmembers x).1 hx) (hselected x ((hmembers x).1 hx) hxsel)
  · intro hrange x hx y hy hxy hselx hsely
    have hx' := (hmembers x).1 hx
    have hy' := (hmembers y).1 hy
    exact h.disjoint (fun c hc => hrange c ((hmembers c).2 hc)) x hx' y hy' hxy
      (hselected x hx' hselx) (hselected y hy' hsely)
  · rintro hrange x hx ⟨d, hd, hdx, hsup⟩
    have hx' := (hmembers x).1 hx
    rcases h.contained (fun c hc => hrange c ((hmembers c).2 hc)) x hx'
      ⟨d, hown x hx' d hd hdx, hdx, hsup⟩ with ⟨w, hw, hsel, hwithin⟩
    exact ⟨w, (hmembers w).2 hw, hselected' w hsel, hwithin⟩

lemma countP_eq_one {decisions : List TranslationPlanDecision} {i : String}
    (hnd : (decisions.map TranslationPlanDecision.candidateId).Nodup)
    (hi : i ∈ decisions.map TranslationPlanDecision.candidateId) :
    decisions.countP (fun d => d.candidateId = i) = 1 := by
  calc
    decisions.countP (fun d => d.candidateId = i)
        = (decisions.map TranslationPlanDecision.candidateId).count i := by
          rw [List.count, List.countP_map]
          exact List.countP_congr (by simp)
    _ = 1 := List.count_eq_one_of_mem hnd hi

/-- The groups of the contexts with their decisions. -/
lemma decided_groups (profile : SourceProfile) {contexts : Dict String CandidateContext}
    (hnd : (contexts.values.map contextId).Nodup) {planned : List PlannedGroup}
    (h : (groupContexts contexts).values.mapM (decideGroup env profile) = some planned) :
    ∃ pairs : List (List CandidateContext × PlannedGroup),
      pairs.map Prod.snd = planned ∧
      (pairs.flatMap Prod.fst).Perm contexts.values ∧
      ∀ p ∈ pairs, GroupDecided p.1 p.2 ∧ ∃ g, ∀ context, context ∈ p.1 ↔
        context ∈ contexts.values ∧ context.candidate.selectionGroup = g := by
  have hflat := @flatten_groupContexts contexts
  rcases mapM_some_pairs h with ⟨pairs, hfst, hsnd, hpairs⟩
  refine ⟨pairs, hsnd, ?_, ?_⟩
  · rwa [List.flatMap_def, hfst]
  · intro p hp
    have hgroup : p.1 ∈ (groupContexts contexts).values := hfst ▸ List.mem_map_of_mem hp
    rcases mem_groupContexts hgroup with ⟨hne, hmembers⟩
    have hgroupnd : (p.1.map contextId).Nodup :=
      (((hflat.map contextId).nodup_iff).2 hnd).sublist
        ((List.sublist_flatten_of_mem hgroup).map _)
    exact ⟨decideGroup_decided env profile hne hgroupnd (hpairs p hp), hmembers⟩

section

variable (profile : SourceProfile) (candidates : List TranslationInputCandidate)
  (captureMetadata : Option CaptureMetadata)

/-- The contexts in which a run of the planner decides. -/
def plannerContexts : Option (Dict String CandidateContext) :=
  validateCandidates env (sortedOn TranslationInputCandidate.candidateId candidates)
    (Dict.ofList (profile.fileInventory.map (fun entry => (entry.relativePath, entry))))
    captureMetadata

/-- The plan of a run: the decisions are those of the groups, one for every candidate, and the
selected ids and the blocked flag are read off them. -/
structure Planned (contexts : Dict String CandidateContext)
    (pairs : List (List CandidateContext × PlannedGroup))
    (result : TranslationInputPlanningResult) : Prop where
  ordered : result.candidates = sortedOn TranslationInputCandidate.candidateId candidates
  validated : plannerContexts env profile candidates captureMetadata = some contexts
  parts : (pairs.flatMap Prod.fst).Perm contexts.values
  groups : ∀ p ∈ pairs, GroupDecided p.1 p.2 ∧ ∃ g, ∀ context, context ∈ p.1 ↔
    context ∈ contexts.values ∧ context.candidate.selectionGroup = g
  decisions : result.plan.decisions.Perm (pairs.flatMap (fun p => p.2.decisions))
  nodup : (result.plan.decisions.map TranslationPlanDecision.candidateId).Nodup
  decided : ∀ i, i ∈ result.plan.decisions.map TranslationPlanDecision.candidateId ↔
    i ∈ candidates.map TranslationInputCandidate.candidateId
  selected : ∀ i, i ∈ result.plan.selectedCandidateIds ↔
    ∃ d ∈ result.plan.decisions, d.candidateId = i ∧ d.status = .selected
  blocked : result.plan.blocked = result.plan.decisions.any (fun d => d.status.isBlocked)
  fresh : ∀ context ∈ contexts.values, HasFreshness env context.candidate
  sortable : ∀ left ∈ contexts.values, ∀ right ∈ contexts.values,
    SortComparable left.candidate right.candidate

lemma mem_sorted_ids {i : String} :
    i ∈ (sortedOn TranslationInputCandidate.candidateId candidates).map
        TranslationInputCandidate.candidateId ↔
      i ∈ candidates.map TranslationInputCandidate.candidateId :=
  ((sortedOn_perm _ _).map _).mem_iff

theorem planTranslationInputs_spec {result : TranslationInputPlanningResult}
    (h : planTranslationInputs env profile candidates captureMetadata = some result) :
    ∃ contexts pairs, Planned env profile candidates captureMetadata contexts pairs result := by
  rcases Option.bind_eq_some_iff.1 h with ⟨contexts, hcontexts, h⟩
  rcases Option.bind_eq_some_iff.1 h with ⟨planned, hplanned, h⟩
  rcases Option.bind_eq_some_iff.1 h with ⟨plan, hplan, hresult⟩
  have hctxnd := contextIds_nodup hcontexts
  rcases decided_groups env profile hctxnd hplanned with ⟨pairs, rfl, hperm, hpairs⟩
  set decisions := pairs.flatMap (fun p => p.2.decisions) with hdecisions
  have hflat : (pairs.map Prod.snd).flatMap PlannedGroup.decisions = decisions := by
    rw [hdecisions, List.flatMap_map]
  have hids : (decisions.map TranslationPlanDecision.candidateId).Perm
      (contexts.values.map contextId) :=
    (rows_perm contextId TranslationPlanDecision.candidateId PlannedGroup.decisions
      (fun p hp => (hpairs p hp).1.ids)).trans (hperm.map contextId)
  have hidsnd : (decisions.map TranslationPlanDecision.candidateId).Nodup :=
    hids.nodup_iff.2 hctxnd
  have hkeynd : ((decisions.map (fun d => (d.candidateId, d))).map Prod.fst).Nodup := by
    rw [List.map_map]
    exact hidsnd
  have hentries := Dict.entries_ofList hkeynd
  rw [hflat] at hplan
  rcases buildTranslationPlan_spec env hplan with
    ⟨hplanperm, hblocked, hselected, sorted, hsorted, hfresh, hsort⟩
  have hvalues : (Dict.ofList (decisions.map (fun d => (d.candidateId, d)))).values = decisions := by
    rw [Dict.values, hentries, List.map_map]
    exact List.map_id _
  rw [hvalues] at hplanperm hblocked
  -- Every context has a decision, so that its candidate was among those that were sorted.
  have hstands : ∀ context ∈ contexts.values, context.candidate ∈ sorted := by
    intro context hcontext
    have hid : contextId context ∈ contexts.values.map contextId := List.mem_map_of_mem hcontext
    have hkey : contextId context ∈ (Dict.ofList (decisions.map (fun d => (d.candidateId, d)))).keys := by
      rw [Dict.keys, hentries, List.map_map]
      exact hids.mem_iff.2 hid
    rcases hsorted _ hkey with ⟨other, hother, hmem⟩
    have hvalue : other ∈ contexts.values :=
      List.mem_map.2 ⟨_, (Dict.get?_eq_some_iff _ _ _).1 hother, rfl⟩
    have hotherId : contextId other = contextId context := by
      rcases contexts_of_validateCandidates hcontexts with ⟨validated, rfl, _, _⟩
      have hentry := Dict.mem_of_mem_entries_ofList ((Dict.get?_eq_some_iff _ _ _).1 hother)
      rcases List.mem_map.1 hentry with ⟨k, _, hk⟩
      rw [← (Prod.mk.inj hk).1, ← (Prod.mk.inj hk).2]
    rwa [← List.inj_on_of_nodup_map hctxnd hvalue hcontext hotherId]
  rw [← Option.some.inj hresult]
  refine ⟨contexts, pairs, rfl, hcontexts, hperm, hpairs, hplanperm, ?_, ?_, ?_, ?_, ?_, ?_⟩
  · exact ((hplanperm.map _).nodup_iff).2 hidsnd
  · intro i
    rw [((hplanperm.map _).trans hids).mem_iff, mem_contextIds hcontexts]
    exact mem_sorted_ids candidates
  · intro i
    rw [hselected, hentries]
    constructor
    · rintro ⟨d, hd, hsel⟩
      rcases List.mem_map.1 hd with ⟨d', hd', heq⟩
      rcases Prod.mk.inj heq with ⟨hid, rfl⟩
      exact ⟨d', hplanperm.mem_iff.2 hd', hid, hsel⟩
    · rintro ⟨d, hd, hdi, hsel⟩
      exact ⟨d, List.mem_map.2 ⟨d, hplanperm.mem_iff.1 hd, by rw [hdi]⟩, hsel⟩
  · rw [hblocked]
    exact (hplanperm.any_eq).symm
  · exact fun context hcontext => hfresh _ (hstands context hcontext)
  · exact fun left hleft right hright => hsort _ (hstands left hleft) _ (hstands right hright)

/-- The last candidate of its id, which is the one that is planned. -/
def LastOfId (c : TranslationInputCandidate) : Prop :=
  (candidates.filter (fun x => x.candidateId = c.candidateId)).getLast? = some c

/-- The timestamps of the candidates that the planner compares are of one kind, and their freshness
has a value. -/
structure Plannable : Prop where
  bounds : ∀ c ∈ candidates, BoundsComparable c.coverage
  fresh : ∀ c, LastOfId candidates c → HasFreshness env c
  sortable : ∀ left right, LastOfId candidates left → LastOfId candidates right →
    SortComparable left right

omit [LinearOrder F] in
lemma lastOfId_iff {contexts : Dict String CandidateContext}
    (h : plannerContexts env profile candidates captureMetadata = some contexts)
    {c : TranslationInputCandidate} :
    LastOfId candidates c ↔ c ∈ contexts.values.map CandidateContext.candidate := by
  rw [mem_contexts_iff h, filter_sortedOn, LastOfId]

/-- The planner ends exactly where its candidates can be planned. -/
theorem exists_plan_iff :
    (∃ result, planTranslationInputs env profile candidates captureMetadata = some result) ↔
      Plannable env candidates := by
  constructor
  · rintro ⟨result, hrun⟩
    rcases planTranslationInputs_spec env profile candidates captureMetadata hrun with
      ⟨contexts, pairs, hplanned⟩
    have hlast : ∀ c, LastOfId candidates c → ∃ context ∈ contexts.values, context.candidate = c :=
      fun c hc => List.mem_map.1
        ((lastOfId_iff env profile candidates captureMetadata hplanned.validated).1 hc)
    refine ⟨?_, ?_, ?_⟩
    · intro c hc
      exact exists_validateCandidates_iff.1 ⟨contexts, hplanned.validated⟩ c (mem_sortedOn.2 hc)
    · intro c hc
      rcases hlast c hc with ⟨context, hcontext, rfl⟩
      exact hplanned.fresh context hcontext
    · intro left right hleft hright
      rcases hlast left hleft with ⟨context, hcontext, rfl⟩
      rcases hlast right hright with ⟨other, hother, rfl⟩
      exact hplanned.sortable context hcontext other hother
  · intro h
    have hvalidated : ∃ contexts,
        plannerContexts env profile candidates captureMetadata = some contexts :=
      exists_validateCandidates_iff.2 (fun c hc => h.bounds c (mem_sortedOn.1 hc))
    rcases hvalidated with ⟨contexts, hcontexts⟩
    have hlast : ∀ context ∈ contexts.values, LastOfId candidates context.candidate :=
      fun context hcontext => (lastOfId_iff env profile candidates captureMetadata hcontexts).2
        (List.mem_map_of_mem hcontext)
    have hctxnd := contextIds_nodup hcontexts
    have hflat := @flatten_groupContexts contexts
    have hstep : ∀ group ∈ (groupContexts contexts).values, ∃ planned,
        decideGroup env profile group = some planned ∧ True := by
      intro group hgroup
      have hgroupnd : (group.map contextId).Nodup :=
        (((hflat.map contextId).nodup_iff).2 hctxnd).sublist
          ((List.sublist_flatten_of_mem hgroup).map _)
      have hgroupFresh : ∀ context ∈ group, HasFreshness env context.candidate :=
        fun context hcontext => h.fresh _
          (hlast context (hflat.mem_iff.1 (List.mem_flatten.2 ⟨group, hgroup, hcontext⟩)))
      rcases exists_decideGroup env profile (mem_groupContexts hgroup).1 hgroupnd hgroupFresh with
        ⟨planned, hplanned⟩
      exact ⟨planned, hplanned, trivial⟩
    rcases mapM_pairs hstep with ⟨groups, hplanned, _, _⟩
    rcases decided_groups env profile hctxnd hplanned with ⟨pairs, hsnd, hperm, hpairs⟩
    have hkeys : ∀ i ∈ (Dict.ofList (((groups.map Prod.snd).flatMap PlannedGroup.decisions).map
        (fun d => (d.candidateId, d)))).keys, i ∈ contexts.keys := by
      intro i hi
      rw [Dict.mem_keys_ofList, List.map_map, ← hsnd, List.flatMap_map] at hi
      rw [← contextIds_validateCandidates hcontexts]
      exact ((rows_perm contextId TranslationPlanDecision.candidateId PlannedGroup.decisions
        (fun p hp => (hpairs p hp).1.ids)).trans (hperm.map contextId)).mem_iff.1 hi
    rcases exists_buildTranslationPlan env hkeys
      (fun context hcontext => h.fresh _ (hlast context hcontext))
      (fun left hleft right hright => h.sortable _ _ (hlast left hleft) (hlast right hright)) with
      ⟨plan, hplan⟩
    exact ⟨_, Option.bind_eq_some_iff.2 ⟨contexts, hcontexts,
      Option.bind_eq_some_iff.2 ⟨_, hplanned, Option.bind_eq_some_iff.2 ⟨plan, hplan, rfl⟩⟩⟩⟩

/-- The planner ends and decides every candidate exactly once; unless the plan is blocked, every
selection group is sound. -/
def PlanSound : Prop :=
  ∃ result, planTranslationInputs env profile candidates captureMetadata = some result ∧
    (∀ c ∈ candidates,
      result.plan.decisions.countP (fun d => d.candidateId = c.candidateId) = 1) ∧
    (∀ c ∈ candidates,
      c.candidateId ∈ result.plan.selectedCandidateIds ↔ Selected result.plan.decisions c) ∧
    (result.plan.blocked = false → ∀ g : String,
      GroupSound (candidates.filter (fun c => c.selectionGroup = g)) result.plan.decisions)

omit [LinearOrder F] in
/-- What a run promises of its groups. -/
lemma Planned.groupSound {contexts : Dict String CandidateContext}
    {pairs : List (List CandidateContext × PlannedGroup)} {result : TranslationInputPlanningResult}
    (h : Planned env profile candidates captureMetadata contexts pairs result)
    (hunblocked : result.plan.blocked = false) (g : String) :
    GroupSound (candidates.filter (fun c => c.selectionGroup = g)) result.plan.decisions := by
  have hctxnd := contextIds_nodup h.validated
  have hperm := h.parts
  have hpairs := h.groups
  have hplanperm := h.decisions
  have hun : ∀ p ∈ pairs, Unblocked p.2.decisions := by
    intro p hp d hd
    rw [h.blocked] at hunblocked
    simpa using List.any_eq_false.1 hunblocked d
      (hplanperm.mem_iff.2 (List.mem_flatMap.2 ⟨p, hp, hd⟩))
  have hvalid : ∀ context ∈ contexts.values, context.valid = true := by
    intro context hcontext
    rcases List.mem_flatMap.1 (hperm.mem_iff.2 hcontext) with ⟨p, hp, hmem⟩
    exact (hpairs p hp).1.valid (hun p hp) context hmem
  have hall := (candidates_of_valid h.validated hvalid).2
  rcases (candidates.filter (fun c => c.selectionGroup = g)).eq_nil_or_concat with
    hnil | ⟨_, c, hc⟩
  · rw [hnil]
    exact ⟨by simp, by simp, by simp⟩
  -- The group of `c` is one of the decided groups, and holds the candidates of `g`.
  · have hcmem : c ∈ candidates.filter (fun c => c.selectionGroup = g) := by
      rw [hc]
      simp
    have hcg := List.mem_filter.1 hcmem
    have hcordered : c ∈ contexts.values.map CandidateContext.candidate := by
      rw [hall]
      exact mem_sortedOn.2 hcg.1
    rcases List.mem_map.1 hcordered with ⟨context, hcontext, rfl⟩
    rcases List.mem_flatMap.1 (hperm.mem_iff.2 hcontext) with ⟨p, hp, hmem⟩
    rcases (hpairs p hp).2 with ⟨g', hg'⟩
    have hgg : g' = g := by
      rw [← ((hg' context).1 hmem).2]
      simpa using hcg.2
    refine ((hpairs p hp).1.sound (hun p hp)).transfer ?_ ?_ ?_
    · intro x
      have hx : x ∈ candidates ↔ x ∈ contexts.values.map CandidateContext.candidate := by
        rw [hall, mem_sortedOn]
      rw [List.mem_filter, hx]
      simp only [List.mem_map, hg', hgg, decide_eq_true_eq]
      constructor
      · rintro ⟨⟨k, hk, rfl⟩, hkg⟩
        exact ⟨k, ⟨hk, hkg⟩, rfl⟩
      · rintro ⟨k, ⟨hk, hkg⟩, rfl⟩
        exact ⟨⟨k, hk, rfl⟩, hkg⟩
    · intro d hd
      exact hplanperm.mem_iff.2 (List.mem_flatMap.2 ⟨p, hp, hd⟩)
    · intro x hx d hd hdx
      rcases List.mem_map.1 hx with ⟨k, hk, rfl⟩
      exact mem_rows_of_part contextId TranslationPlanDecision.candidateId
        PlannedGroup.decisions (fun q hq => (hpairs q hq).1.ids)
        (((hperm.map contextId).nodup_iff).2 hctxnd) hp hk (hplanperm.mem_iff.1 hd) hdx

/-- The plan is sound exactly where the candidates can be planned at all. -/
theorem plan_sound_iff :
    PlanSound env profile candidates captureMetadata ↔ Plannable env candidates := by
  rw [← exists_plan_iff env profile candidates captureMetadata]
  constructor
  · rintro ⟨result, hrun, _⟩
    exact ⟨result, hrun⟩
  · rintro ⟨result, hrun⟩
    rcases planTranslationInputs_spec env profile candidates captureMetadata hrun with
      ⟨contexts, pairs, h⟩
    refine ⟨result, hrun, ?_, fun c _ => h.selected c.candidateId, ?_⟩
    · intro c hc
      exact countP_eq_one h.nodup ((h.decided _).2 (List.mem_map_of_mem hc))
    · exact h.groupSound env profile candidates captureMetadata

end

end

/-! ## A month inside a year -/

def monthDigest : String := "ee4d988c65de860fabbfbcd27f73d50bbebe3fba37fe419284f4811389c30bdc"

def yearDigest : String := "4cb4ea25583c25647247ae96fc90225d99ad7a6fabc3e2c2fd13c502e323cd9e"

def monthFingerprint : String := "d8327d3bb08b5a60c337151d13fe5d522a276213121052e33b279d9b4ec42fc0"

def yearFingerprint : String := "150439acc5f37ba14f2def8ce5e56c2304b401c5a50a8ec3490ea7dec7c966cb"

/-- The digests of the two texts that are hashed; ranks stand for themselves. -/
def rankEnvironment : PlannerEnvironment Int where
  sha256 := fun text =>
    if text =
        Json.dumps
          (Json.obj
            [ ("family_id", Json.str "trades"),
              ("member_sha256s", Json.strs [monthDigest]),
              ("selection_group", Json.str "trades"),
              ("selection_mode", Json.str "replaceable_range") ]) then
      monthFingerprint
    else yearFingerprint
  repr := fun text => "'" ++ text ++ "'"
  negInf := -1000000000000000000
  timestampValue := Instant.microseconds
  localTimestampValue := fun t => (t.microseconds : Int)
  rankValue := fun rank => rank
  neg := fun value => -value

def rangeCandidate (name fingerprint : String) (startAt endAt : Instant) (rank : Int) :
    TranslationInputCandidate where
  candidateId := name
  selectionGroup := "trades"
  familyId := "trades"
  memberRelativePaths := [name ++ ".csv"]
  selectionMode := .replaceableRange
  coverage := ⟨some ⟨startAt, some 0⟩, some .date, some ⟨endAt, some 0⟩, some .date, .bounded⟩
  freshness := ⟨.adapterRank, none, some rank⟩
  contentFingerprint := fingerprint
  comparisonKey := "trades"
  description := "trades"
  comparable := true

def monthCandidate : TranslationInputCandidate :=
  rangeCandidate "month" monthFingerprint ⟨2024, 5, 1, 0, 0, 0, 0, Instant.isDay_startOfMay⟩
    ⟨2024, 5, 31, 0, 0, 0, 0, Instant.isDay_endOfMay⟩ 1

def yearCandidate : TranslationInputCandidate :=
  rangeCandidate "year" yearFingerprint ⟨2024, 1, 1, 0, 0, 0, 0, Instant.isDay_newYear⟩
    ⟨2024, 12, 31, 0, 0, 0, 0, Instant.isDay_endOfYear⟩ 2

def tradesProfile : SourceProfile :=
  ⟨"coinbase", "coinbase", [⟨"month.csv", monthDigest⟩, ⟨"year.csv", yearDigest⟩]⟩

lemma plannable_trades : Plannable rankEnvironment [monthCandidate, yearCandidate] := by
  have hmem : ∀ c, LastOfId [monthCandidate, yearCandidate] c → c = monthCandidate ∨ c = yearCandidate :=
    fun c hc => List.mem_pair.1 (List.mem_of_mem_filter (List.mem_of_getLast? hc))
  refine ⟨?_, ?_, ?_⟩
  · simp only [List.forall_mem_cons]
    refine ⟨.inr ?_, .inr ?_, fun _ h => by cases h⟩
    · rintro _ ⟨⟩ _ ⟨⟩
      rfl
    · rintro _ ⟨⟩ _ ⟨⟩
      rfl
  · intro c hc
    rcases hmem c hc with rfl | rfl
    · exact WithBot.coe_ne_bot
    · exact WithBot.coe_ne_bot
  · intro left right hleft hright
    rcases hmem left hleft with rfl | rfl
    · rcases hmem right hright with rfl | rfl
      · exact ⟨rfl, fun _ => rfl⟩
      · exact ⟨rfl, fun _ => rfl⟩
    · rcases hmem right hright with rfl | rfl
      · exact ⟨rfl, fun _ => rfl⟩
      · exact ⟨rfl, fun _ => rfl⟩

theorem plan_sound_iff_nested :
    ∃ result,
      planTranslationInputs rankEnvironment tradesProfile [monthCandidate, yearCandidate] none =
        some result ∧
      result.plan.blocked = false ∧ result.plan.selectedCandidateIds = ["year"] ∧
      GroupSound ([monthCandidate, yearCandidate].filter (fun c => c.selectionGroup = "trades"))
        result.plan.decisions := by
  rcases (plan_sound_iff rankEnvironment tradesProfile [monthCandidate, yearCandidate] none).2
    plannable_trades with ⟨result, hresult, _, _, hsound⟩
  have hrun : (planTranslationInputs rankEnvironment tradesProfile [monthCandidate, yearCandidate]
      none).map (fun r => (r.plan.blocked, r.plan.selectedCandidateIds)) =
        some (false, ["year"]) := by
    decide +kernel
  rw [hresult] at hrun
  rcases Prod.mk.inj (Option.some.inj hrun) with ⟨hun, hids⟩
  exact ⟨result, hresult, hun, hids, hsound hun "trades"⟩

/-- A month whose start is naive. -/
def naiveCandidate : TranslationInputCandidate :=
  { monthCandidate with
    coverage :=
      ⟨some ⟨⟨2024, 5, 1, 0, 0, 0, 0, Instant.isDay_startOfMay⟩, none⟩, some .date,
        some ⟨⟨2024, 5, 31, 0, 0, 0, 0, Instant.isDay_endOfMay⟩, some 0⟩, some .date, .bounded⟩ }

/-- The candidate is not reported as invalid: the comparison of its bounds ends the run. -/
theorem naive_start_raises :
    ¬∀ (env : PlannerEnvironment Int) (profile : SourceProfile)
      (candidates : List TranslationInputCandidate) (captureMetadata : Option CaptureMetadata),
      PlanSound env profile candidates captureMetadata := by
  intro h
  rcases h rankEnvironment tradesProfile [naiveCandidate] none with ⟨result, hrun, _⟩
  have hnone : (planTranslationInputs rankEnvironment tradesProfile [naiveCandidate] none).isSome =
      false := by
    decide +kernel
  rw [hrun] at hnone
  cases hnone

end Translation
end Tallylot
