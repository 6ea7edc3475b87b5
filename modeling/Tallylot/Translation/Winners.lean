import Tallylot.Data.Parts
import Tallylot.Translation.Selection

/-!
# Winners — what the selection rules decide

Every rule settles its candidates: it gives each of them one decision, and unless it blocks, exactly
one candidate is selected and stands for the others (`Settles`).  A range group is settled component
by component, so that its selected candidates are pairwise disjoint and cover the superseded ones
(`GroupSound`).
-/

namespace Tallylot
namespace Translation

open Data Domain

/-! ## Decisions of candidates -/

def Selected (decisions : List TranslationPlanDecision) (candidate : TranslationInputCandidate) :
    Prop :=
  ∃ d ∈ decisions, d.candidateId = candidate.candidateId ∧ d.status = .selected

def Superseded (decisions : List TranslationPlanDecision) (candidate : TranslationInputCandidate) :
    Prop :=
  ∃ d ∈ decisions, d.candidateId = candidate.candidateId ∧ d.status.isSuperseded = true

def Unblocked (decisions : List TranslationPlanDecision) : Prop :=
  ∀ d ∈ decisions, d.status.isBlocked = false

/-- One decision for each candidate; unless blocked, one winner that is `good`. -/
structure Settles (good : TranslationInputCandidate → Prop)
    (candidates : List TranslationInputCandidate) (group : PlannedGroup) : Prop where
  ids :
    (group.decisions.map TranslationPlanDecision.candidateId).Perm
      (candidates.map TranslationInputCandidate.candidateId)
  winner :
    Unblocked group.decisions →
      ∃ w ∈ candidates, good w ∧
        ∀ d ∈ group.decisions, d.status = .selected ↔ d.candidateId = w.candidateId

/-- The other candidates lie within the coverage of `w`. -/
def CoversOthers (candidates : List TranslationInputCandidate) (w : TranslationInputCandidate) :
    Prop :=
  ∀ c ∈ candidates, c.candidateId ≠ w.candidateId → CoverageWithin c.coverage w.coverage

section

variable {good : TranslationInputCandidate → Prop} {candidates : List TranslationInputCandidate}

lemma settles_selectedAlone {candidate : TranslationInputCandidate} (hgood : good candidate)
    (reason : String) : Settles good [candidate] (selectedAlone candidate reason) where
  ids := by simp [selectedAlone]
  winner := by
    intro _
    exact ⟨candidate, by simp, hgood, by simp [selectedAlone]⟩

lemma settles_blockedGroup {status : TranslationPlanDecisionStatus} (hne : candidates ≠ [])
    (hblocked : status.isBlocked = true) (profile : SourceProfile) (reason : String) :
    Settles good candidates (blockedGroup profile candidates status reason) where
  ids := by simp [blockedGroup, Function.comp_def]
  winner := by
    intro hun
    rcases List.exists_mem_of_ne_nil candidates hne with ⟨c, hc⟩
    have := hun _ (List.mem_map_of_mem hc)
    simp [hblocked] at this

lemma supersededStatus_ne_selected (candidate winner : TranslationInputCandidate) :
    supersededStatus candidate winner ≠ .selected := by
  unfold supersededStatus
  split <;> simp

lemma settles_buildSupersessionPlan {winner : TranslationInputCandidate}
    (hnd : (candidates.map TranslationInputCandidate.candidateId).Nodup)
    (hwinner : winner ∈ candidates) (hgood : good winner) :
    Settles good candidates (buildSupersessionPlan candidates winner) where
  ids := by
    have hids : (buildSupersessionPlan candidates winner).decisions.map
        TranslationPlanDecision.candidateId =
          winner.candidateId :: (candidates.map TranslationInputCandidate.candidateId).filter
            (fun i => i ≠ winner.candidateId) := by
      simp [buildSupersessionPlan, List.filter_map, Function.comp_def]
    rw [hids]
    refine (List.perm_ext_iff_of_nodup ?_ hnd).2 ?_
    · exact List.nodup_cons.2 ⟨by simp, hnd.filter _⟩
    · intro i
      by_cases hi : i = winner.candidateId
      · simp [hi, List.mem_map_of_mem hwinner]
      · simp [hi]
  winner := by
    intro _
    refine ⟨winner, hwinner, hgood, ?_⟩
    intro d hd
    rcases List.mem_cons.1 hd with rfl | hd
    · simp
    · rcases List.mem_map.1 hd with ⟨c, hc, rfl⟩
      have hne : c.candidateId ≠ winner.candidateId := by
        simpa using (List.mem_filter.1 hc).2
      simp [hne, supersededStatus_ne_selected]

/-! ## Windows of identical and of covering candidates -/

lemma allIdenticalCandidates_spec {candidates : List TranslationInputCandidate} :
    candidates ≠ [] → ∃ identical, allIdenticalCandidates candidates = some identical ∧
      (identical = true → ∀ x ∈ candidates, ∀ y ∈ candidates,
        coverageBounds x.coverage = coverageBounds y.coverage) := by
  intro hne
  cases candidates with
  | nil => exact absurd rfl hne
  | cons first rest =>
      refine ⟨_, rfl, ?_⟩
      intro hall
      have hfirst : ∀ x ∈ first :: rest,
          coverageBounds x.coverage = coverageBounds first.coverage := by
        intro x hx
        rcases List.mem_cons.1 hx with rfl | hx
        · rfl
        · have hsame := List.all_eq_true.1 hall x hx
          exact coverageBounds_eq_of_same (Bool.and_eq_true_iff.1 hsame).1
      intro x hx y hy
      exact (hfirst x hx).trans (hfirst y hy).symm

lemma coverageBounds_of_known {coverage : TranslationCoverageWindow} :
    coverage.mode ≠ .unknown → ∃ b, coverageBounds coverage = some b := by
  intro h
  exact ⟨_, if_neg h⟩

lemma winnerContainsAllCandidates_spec {winner : TranslationInputCandidate} :
    winnerContainsAllCandidates winner candidates = true → CoversOthers candidates winner := by
  intro h c hc _
  unfold winnerContainsAllCandidates at h
  cases hw : coverageBounds winner.coverage with
  | none => simp [hw] at h
  | some w =>
      simp only [hw] at h
      have hcov := List.all_eq_true.1 h c hc
      cases hb : coverageBounds c.coverage with
      | none => simp [hb] at hcov
      | some b =>
          simp only [hb, Bool.not_eq_true', Bool.or_eq_false_iff, decide_eq_false_iff_not,
            not_lt] at hcov
          exact ⟨b, w, hb, hw, hcov.1, hcov.2⟩

end

/-! ## The rules -/

section

variable {F : Type} [LinearOrder F] (env : PlannerEnvironment F) (profile : SourceProfile)
variable {candidates : List TranslationInputCandidate} (hne : candidates ≠ [])
variable (hnd : (candidates.map TranslationInputCandidate.candidateId).Nodup)

include hne

section

include hnd

theorem planExclusiveGroup_settles {group : PlannedGroup}
    (h : planExclusiveGroup env profile candidates = some group) :
    Settles (fun _ => True) candidates group := by
  match candidates with
  | [] => exact absurd rfl hne
  | [candidate] =>
      rw [← Option.some.inj h]
      exact settles_selectedAlone trivial _
  | first :: second :: rest =>
      simp only [planExclusiveGroup, Option.bind_eq_bind, Option.bind_eq_some_iff] at h
      rcases h with ⟨freshest, hfreshest, identical, _, h⟩
      split_ifs at h
      · rw [← Option.some.inj h]
        exact settles_blockedGroup hne (by decide) _ _
      · rcases Option.bind_eq_some_iff.1 h with ⟨winner, hwinner, hgroup⟩
        rw [← Option.some.inj hgroup]
        exact settles_buildSupersessionPlan hnd (mem_of_winner env hfreshest hwinner) trivial

theorem planAppendableComponent_settles (hknown : ∀ c ∈ candidates, c.coverage.mode ≠ .unknown)
    {group : PlannedGroup} (h : planAppendableComponent env profile candidates = some group) :
    Settles (CoversOthers candidates) candidates group := by
  rcases allIdenticalCandidates_spec hne with ⟨identical, hid, hsame⟩
  simp only [planAppendableComponent, hid, Option.bind_eq_bind, Option.bind_some] at h
  split_ifs at h with hidentical
  · rw [← Option.some.inj h]
    exact settles_blockedGroup hne (by decide) _ _
  · rcases Option.bind_eq_some_iff.1 h with ⟨freshest, hfreshest, h⟩
    rcases Option.bind_eq_some_iff.1 h with ⟨winner, hwinner, hgroup⟩
    have hmem := mem_of_winner env hfreshest hwinner
    rw [← Option.some.inj hgroup]
    refine settles_buildSupersessionPlan hnd hmem ?_
    intro c hc _
    rcases coverageBounds_of_known (hknown winner hmem) with ⟨b, hb⟩
    have hcb := (hsame (by simpa using hidentical) c hc winner hmem).trans hb
    exact ⟨b, b, hcb, hb, le_rfl, le_rfl⟩

theorem planReplaceableComponent_settles {group : PlannedGroup}
    (h : planReplaceableComponent env profile candidates = some group) :
    Settles (CoversOthers candidates) candidates group := by
  simp only [planReplaceableComponent, Option.bind_eq_bind, Option.bind_eq_some_iff] at h
  rcases h with ⟨freshest, hfreshest, identical, _, h⟩
  split_ifs at h
  · rw [← Option.some.inj h]
    exact settles_blockedGroup hne (by decide) _ _
  · rcases Option.bind_eq_some_iff.1 h with ⟨winner, hwinner, h⟩
    split_ifs at h with hall
    · rw [← Option.some.inj h]
      exact settles_buildSupersessionPlan hnd (mem_of_winner env hfreshest hwinner)
        (winnerContainsAllCandidates_spec hall)
    · rw [← Option.some.inj h]
      exact settles_blockedGroup hne (by decide) _ _

theorem planOverlapComponent_settles {selectionMode : TranslationSelectionMode}
    (hknown : 1 < candidates.length → ∀ c ∈ candidates, c.coverage.mode ≠ .unknown)
    {group : PlannedGroup}
    (h : planOverlapComponent env profile selectionMode candidates = some group) :
    Settles (CoversOthers candidates) candidates group := by
  match candidates with
  | [] => exact absurd rfl hne
  | [candidate] =>
      rw [← Option.some.inj h]
      refine settles_selectedAlone ?_ _
      intro c hc hcne
      exact absurd (congrArg _ (List.mem_singleton.1 hc)) hcne
  | first :: second :: rest =>
      simp only [planOverlapComponent] at h
      split at h
      · rw [← Option.some.inj h]
        exact settles_blockedGroup hne (by decide) _ _
      · split_ifs at h
        · exact planAppendableComponent_settles env profile hne hnd (hknown (by simp)) h
        · exact planReplaceableComponent_settles env profile hne hnd h

end

/-! ## Where the rules decide -/

variable (hfresh : ∀ c ∈ candidates, HasFreshness env c)

include hfresh

lemma exists_planExclusiveGroup :
    ∃ group, planExclusiveGroup env profile candidates = some group := by
  rcases allIdenticalCandidates_spec hne with ⟨identical, hid, _⟩
  rcases exists_winner env hne hfresh with ⟨freshest, hfreshest, winner, hwinner⟩
  match candidates with
  | [] => exact absurd rfl hne
  | [candidate] => exact ⟨_, rfl⟩
  | first :: second :: rest =>
      simp only [planExclusiveGroup, hfreshest, hid, hwinner, Option.bind_eq_bind, Option.bind_some]
      split_ifs
      · exact ⟨_, rfl⟩
      · exact ⟨_, rfl⟩

lemma exists_planOverlapComponent (selectionMode : TranslationSelectionMode) :
    ∃ group, planOverlapComponent env profile selectionMode candidates = some group := by
  rcases allIdenticalCandidates_spec hne with ⟨identical, hid, _⟩
  rcases exists_winner env hne hfresh with ⟨freshest, hfreshest, winner, hwinner⟩
  match candidates with
  | [] => exact absurd rfl hne
  | [candidate] => exact ⟨_, rfl⟩
  | first :: second :: rest =>
      simp only [planOverlapComponent, planAppendableComponent, planReplaceableComponent, hfreshest,
        hid, hwinner, Option.bind_eq_bind, Option.bind_some]
      split
      · exact ⟨_, rfl⟩
      · split_ifs <;> exact ⟨_, rfl⟩

end

/-! ## Groups -/

/-- What a group that is not blocked promises. -/
structure GroupSound (candidates : List TranslationInputCandidate)
    (decisions : List TranslationPlanDecision) : Prop where
  exclusive :
    (∃ c ∈ candidates, c.selectionMode = .exclusiveSnapshot) →
      ∃ w ∈ candidates, Selected decisions w ∧ ∀ c ∈ candidates, Selected decisions c → c = w
  disjoint :
    (∀ c ∈ candidates, c.selectionMode ≠ .exclusiveSnapshot) →
      ∀ x ∈ candidates, ∀ y ∈ candidates, x ≠ y → Selected decisions x → Selected decisions y →
        coverageRelation x.coverage y.coverage = .disjoint
  contained :
    (∀ c ∈ candidates, c.selectionMode ≠ .exclusiveSnapshot) →
      ∀ x ∈ candidates, Superseded decisions x →
        ∃ w ∈ candidates, Selected decisions w ∧ CoverageWithin x.coverage w.coverage

lemma Settles.selected_iff {good : TranslationInputCandidate → Prop}
    {candidates : List TranslationInputCandidate} {group : PlannedGroup}
    (h : Settles good candidates group) {w c : TranslationInputCandidate}
    (hw : ∀ d ∈ group.decisions, d.status = .selected ↔ d.candidateId = w.candidateId)
    (hc : c ∈ candidates) :
    Selected group.decisions c ↔ c.candidateId = w.candidateId := by
  constructor
  · rintro ⟨d, hd, hdc, hsel⟩
    rw [← hdc]
    exact (hw d hd).1 hsel
  · intro hcw
    rcases List.mem_map.1 (h.ids.mem_iff.2 (List.mem_map_of_mem hc)) with ⟨d, hd, hdc⟩
    exact ⟨d, hd, hdc, (hw d hd).2 (hdc.trans hcw)⟩

/-- The winner of the part that a superseded candidate belongs to covers it. -/
lemma Settles.covered {candidates : List TranslationInputCandidate} {group : PlannedGroup}
    (h : Settles (CoversOthers candidates) candidates group) (hun : Unblocked group.decisions)
    {x : TranslationInputCandidate} (hx : x ∈ candidates) :
    Superseded group.decisions x →
      ∃ w ∈ candidates, Selected group.decisions w ∧ CoverageWithin x.coverage w.coverage := by
  rintro ⟨d, hd, hdx, hsup⟩
  rcases h.winner hun with ⟨w, hw, hcovers, hsel⟩
  refine ⟨w, hw, (h.selected_iff hsel hw).2 rfl, hcovers x hx ?_⟩
  intro hxw
  have hstatus : d.status = .selected := (hsel d hd).2 (hdx.trans hxw)
  rw [hstatus] at hsup
  exact absurd hsup (by decide)

section

variable {F : Type} [LinearOrder F] (env : PlannerEnvironment F) (profile : SourceProfile)
variable {candidates : List TranslationInputCandidate}
variable (hnd : (candidates.map TranslationInputCandidate.candidateId).Nodup)

include hnd

/-- A range group is planned where its candidates have a freshness. -/
lemma exists_planGroup (selectionMode : TranslationSelectionMode) (hne : candidates ≠ [])
    (hfresh : ∀ c ∈ candidates, HasFreshness env c) :
    ∃ group, planGroup env profile candidates selectionMode = some group := by
  by_cases hmode : selectionMode = .exclusiveSnapshot
  · rcases exists_planExclusiveGroup env profile hne hfresh with ⟨group, hgroup⟩
    exact ⟨group, by rw [planGroup, if_pos hmode, hgroup]⟩
  · rcases overlapComponents_spec hnd with ⟨parts, hparts, hperm, hconn⟩
    have hstep : ∀ part ∈ parts, ∃ group,
        planOverlapComponent env profile selectionMode part = some group ∧ True := by
      intro part hpart
      have hpartFresh : ∀ c ∈ part, HasFreshness env c := fun c hc =>
        hfresh c (hperm.mem_iff.1 (List.mem_flatten.2 ⟨part, hpart, hc⟩))
      rcases exists_planOverlapComponent env profile (hconn part hpart).1 hpartFresh selectionMode with
        ⟨group, hgroup⟩
      exact ⟨group, hgroup, trivial⟩
    rcases mapM_pairs hstep with ⟨pairs, hmap, _, _⟩
    simp only [planGroup, if_neg hmode, hparts, hmap, Option.bind_eq_bind, Option.bind_some]
    exact ⟨_, rfl⟩

/-- The parts of a range group with their planned decisions. -/
lemma planGroup_parts {selectionMode : TranslationSelectionMode}
    (hmode : selectionMode ≠ .exclusiveSnapshot)
    (hknown : 1 < candidates.length → ∀ c ∈ candidates, c.coverage.mode ≠ .unknown)
    {group : PlannedGroup} (h : planGroup env profile candidates selectionMode = some group) :
    ∃ pairs : List (List TranslationInputCandidate × PlannedGroup),
      group = ⟨(pairs.map Prod.snd).flatMap PlannedGroup.decisions,
        (pairs.map Prod.snd).flatMap PlannedGroup.issues⟩ ∧
      (pairs.flatMap Prod.fst).Perm candidates ∧
      ∀ p ∈ pairs, Settles (CoversOthers p.1) p.1 p.2 ∧
        ∀ x ∈ p.1, ∀ y, y ∈ p.1 ↔ Relation.ReflTransGen (Overlapping candidates) x y := by
  rcases overlapComponents_spec hnd with ⟨parts, hparts, hperm, hconn⟩
  simp only [planGroup, if_neg hmode, hparts, Option.bind_eq_bind, Option.bind_some] at h
  rcases Option.bind_eq_some_iff.1 h with ⟨planned, hplanned, hgroup⟩
  rcases mapM_some_pairs hplanned with ⟨pairs, hfst, rfl, hpairs⟩
  refine ⟨pairs, (Option.some.inj hgroup).symm, ?_, ?_⟩
  · rwa [List.flatMap_def, hfst]
  · intro p hp
    have hpart : p.1 ∈ parts := hfst ▸ List.mem_map_of_mem hp
    have hsub : ∀ c ∈ p.1, c ∈ candidates := fun c hc =>
      hperm.mem_iff.1 (List.mem_flatten.2 ⟨p.1, hpart, hc⟩)
    have hlen : p.1.length ≤ candidates.length := by
      rw [← hperm.length_eq]
      exact (List.sublist_flatten_of_mem hpart).length_le
    have hpartnd : (p.1.map TranslationInputCandidate.candidateId).Nodup := by
      have hflat := ((hperm.map TranslationInputCandidate.candidateId).nodup_iff).2 hnd
      exact hflat.sublist ((List.sublist_flatten_of_mem hpart).map _)
    exact ⟨planOverlapComponent_settles env profile (hconn p.1 hpart).1 hpartnd
      (fun hone c hc => hknown (lt_of_lt_of_le hone hlen) c (hsub c hc)) (hpairs p hp),
      (hconn p.1 hpart).2⟩

/-- A planned range group has one decision per candidate, and unless blocked is sound. -/
theorem planRangeGroup_sound {selectionMode : TranslationSelectionMode}
    (hmode : selectionMode ≠ .exclusiveSnapshot)
    (hknown : 1 < candidates.length → ∀ c ∈ candidates, c.coverage.mode ≠ .unknown)
    {group : PlannedGroup} (h : planGroup env profile candidates selectionMode = some group) :
    (group.decisions.map TranslationPlanDecision.candidateId).Perm
        (candidates.map TranslationInputCandidate.candidateId) ∧
      (Unblocked group.decisions →
        (∀ x ∈ candidates, ∀ y ∈ candidates, x ≠ y → Selected group.decisions x →
          Selected group.decisions y → coverageRelation x.coverage y.coverage = .disjoint) ∧
        ∀ x ∈ candidates, Superseded group.decisions x →
          ∃ w ∈ candidates, Selected group.decisions w ∧
            CoverageWithin x.coverage w.coverage) := by
  rcases planGroup_parts env profile hnd hmode hknown h with ⟨pairs, rfl, hperm, hpairs⟩
  constructor
  · have hrows := rows_perm TranslationInputCandidate.candidateId
      TranslationPlanDecision.candidateId PlannedGroup.decisions (fun p hp => (hpairs p hp).1.ids)
    simpa [List.flatMap_map] using hrows.trans (hperm.map _)
  · simp only [List.flatMap_map]
    intro hun
    have hnd' : ((pairs.flatMap Prod.fst).map TranslationInputCandidate.candidateId).Nodup :=
      ((hperm.map _).nodup_iff).2 hnd
    -- a candidate belongs to a part, and its decision to the plan of that part
    have hpart : ∀ x ∈ candidates, ∃ p ∈ pairs, x ∈ p.1 := by
      intro x hx
      simpa using List.mem_flatMap.1 (hperm.mem_iff.2 hx)
    have hlocal : ∀ p ∈ pairs, ∀ x ∈ p.1, ∀ d ∈ pairs.flatMap (fun q => q.2.decisions),
        d.candidateId = x.candidateId → d ∈ p.2.decisions := by
      intro p hp x hx d hd hdx
      exact mem_rows_of_part TranslationInputCandidate.candidateId
        TranslationPlanDecision.candidateId PlannedGroup.decisions
        (fun q hq => (hpairs q hq).1.ids) hnd' hp hx hd hdx
    have hunpart : ∀ p ∈ pairs, Unblocked p.2.decisions := by
      intro p hp d hd
      exact hun d (List.mem_flatMap.2 ⟨p, hp, hd⟩)
    refine ⟨?_, ?_⟩
    · intro x hx y hy hxy hselx hsely
      by_contra hoverlap
      rcases hpart x hx with ⟨p, hp, hxp⟩
      have hids : x.candidateId ≠ y.candidateId := fun h =>
        hxy (eq_of_candidateId hnd hx hy h)
      -- windows that are not disjoint put the two candidates into one part, which has one winner
      have hyp : y ∈ p.1 :=
        ((hpairs p hp).2 x hxp y).2 (Relation.ReflTransGen.single ⟨hx, hy, hids, hoverlap⟩)
      rcases hselx with ⟨d, hd, hdx, hdsel⟩
      rcases hsely with ⟨e, he, hey, hesel⟩
      rcases (hpairs p hp).1.winner (hunpart p hp) with ⟨w, _, _, hw⟩
      have hdw := (hw d (hlocal p hp x hxp d hd hdx)).1 hdsel
      have hew := (hw e (hlocal p hp y hyp e he hey)).1 hesel
      exact hids (hdx.symm.trans (hdw.trans (hew.symm.trans hey)))
    · intro x hx hsup
      rcases hpart x hx with ⟨p, hp, hxp⟩
      rcases hsup with ⟨d, hd, hdx, hdsup⟩
      have hsup' : Superseded p.2.decisions x := ⟨d, hlocal p hp x hxp d hd hdx, hdx, hdsup⟩
      rcases (hpairs p hp).1.covered (hunpart p hp) hxp hsup' with
        ⟨w, hw, ⟨e, he, hew, hesel⟩, hwithin⟩
      refine ⟨w, hperm.mem_iff.1 (List.mem_flatMap.2 ⟨p, hp, hw⟩), ?_, hwithin⟩
      exact ⟨e, List.mem_flatMap.2 ⟨p, hp, he⟩, hew, hesel⟩

/-- An exclusive group has one decision per candidate, and unless blocked exactly one winner. -/
theorem planGroup_exclusive (hne : candidates ≠ []) {group : PlannedGroup}
    (h : planGroup env profile candidates .exclusiveSnapshot = some group) :
    (group.decisions.map TranslationPlanDecision.candidateId).Perm
        (candidates.map TranslationInputCandidate.candidateId) ∧
      (Unblocked group.decisions →
        ∃ w ∈ candidates, Selected group.decisions w ∧
          ∀ c ∈ candidates, Selected group.decisions c → c = w) := by
  rw [planGroup, if_pos rfl] at h
  have hsettles := planExclusiveGroup_settles env profile hne hnd h
  refine ⟨hsettles.ids, fun hun => ?_⟩
  rcases hsettles.winner hun with ⟨w, hw, _, hsel⟩
  refine ⟨w, hw, (hsettles.selected_iff hsel hw).2 rfl, ?_⟩
  intro c hc hcsel
  exact eq_of_candidateId hnd hc hw ((hsettles.selected_iff hsel hc).1 hcsel)

end

end Translation
end Tallylot
