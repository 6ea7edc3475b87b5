import Tallylot.Data.Parts
import Tallylot.Kernel.Checkpoint
import Tallylot.Kernel.Reconciliation

/-!
# Certification — from ready proposals to assertions

`buildCheckpoints` certifies the position of every ready row, or fails at a row that is not
certifiable (`buildCheckpoints_spec`).  For the states of the reconciliation builder, the row of a
ready claim holds the target of its *decisive* claim: the last claim of the subject, in the order of
observation, that has the same target id (`readyRows_perm`).
-/

namespace Tallylot
namespace Kernel

open Data Domain

/-- Instant, subject and value. -/
abbrev Position := Instant × SubjectRef × AssertionValue

/-! ## Checkpoints of any states -/

def certifiedPositions (checkpoints : List Checkpoint) : List Position :=
  checkpoints.flatMap (fun checkpoint =>
    checkpoint.checkpointAssertionRecords.map (fun a => (a.asOf, a.subjectRef, a.acceptedValue)))

/-- A row that passes the checks of the builder; `observedValue` is what it certifies. -/
structure Certifiable (row : ReadyCheckpointRow) (observedValue : QuantityValue) : Prop where
  observed : row.target.observedValue = some (.quantity observedValue)
  expected : ∃ expectedValue, row.target.expectedValue = .quantity expectedValue
  status : row.target.observationStatus = .observed
  matched : row.target.comparisonOutcome = some .matched

lemma checkpointAssertion_ok {env : KernelEnvironment} {checkpointId : String} {asOf : Instant}
    {row : ReadyCheckpointRow} {assertion : CheckpointAssertionRecord} :
    checkpointAssertion env checkpointId asOf row = .ok assertion →
      ∃ observedValue, Certifiable row observedValue ∧ assertion.asOf = asOf ∧
        assertion.subjectRef = row.target.subjectRef ∧
        assertion.acceptedValue = .quantity observedValue ∧
        assertion.trustLevel = .filingReady := by
  intro h
  unfold checkpointAssertion at h
  split at h
  · rename_i observedValue hobserved
    split at h
    · rename_i expectedValue hexpected
      by_cases hstatus : row.target.observationStatus = .observed
      · by_cases hmatched : row.target.comparisonOutcome = some .matched
        · simp only [hstatus, hmatched, ne_eq, not_true_eq_false, if_false,
            Except.ok.injEq] at h
          rw [← h]
          exact ⟨observedValue, ⟨hobserved, ⟨expectedValue, hexpected⟩, hstatus, hmatched⟩,
            rfl, rfl, rfl, rfl⟩
        · simp [hstatus, hmatched] at h
      · simp [hstatus] at h
    · cases h
  · cases h

lemma checkpointAssertion_of_certifiable {env : KernelEnvironment} {checkpointId : String}
    {asOf : Instant} {row : ReadyCheckpointRow} {observedValue : QuantityValue} :
    Certifiable row observedValue →
      ∃ assertion, checkpointAssertion env checkpointId asOf row = .ok assertion := by
  intro h
  rcases h.expected with ⟨expectedValue, hexpected⟩
  simp only [checkpointAssertion, h.observed, hexpected, h.status, h.matched, ne_eq,
    not_true_eq_false, if_false]
  exact ⟨_, rfl⟩

/-- What the assertion of a row says: `none` for rows that are not certifiable. -/
def rowPosition (row : ReadyCheckpointRow) : Option Position :=
  row.target.observedValue.map (fun value => (row.proposal.asOf, row.target.subjectRef, value))

/-- One checkpoint certifies the positions of its rows. -/
lemma checkpointFor_ok {env : KernelEnvironment} {asOf : Instant} {rows : List ReadyCheckpointRow}
    {checkpoint : Checkpoint} (hasOf : ∀ row ∈ rows, row.proposal.asOf = asOf) :
    checkpointFor env asOf rows = .ok checkpoint →
      (∀ row ∈ rows, ∃ observedValue, Certifiable row observedValue) ∧
      (checkpoint.checkpointAssertionRecords.map (fun a =>
        some (a.asOf, a.subjectRef, a.acceptedValue))).Perm (rows.map rowPosition) ∧
      ∀ a ∈ checkpoint.checkpointAssertionRecords, a.trustLevel = .filingReady := by
  intro h
  set checkpointId := stableCheckpointId env (reconciliationStateRefs rows) asOf with hid
  cases hassertions : rows.mapM (checkpointAssertion env checkpointId asOf) with
  | error e => simp [checkpointFor, ← hid, hassertions, bind, Except.bind] at h
  | ok assertions =>
      have hrecords : checkpoint.checkpointAssertionRecords =
          canonicalCheckpointAssertionRecords assertions := by
        simp only [checkpointFor, ← hid, hassertions, bind, Except.bind, Except.ok.injEq] at h
        rw [← h]
        rfl
      rcases mapM_ok_pairs hassertions with ⟨pairs, hfst, hsnd, hpairs⟩
      have hrow : ∀ row ∈ rows, ∃ assertion,
          checkpointAssertion env checkpointId asOf row = .ok assertion := by
        intro row hrow
        rw [← hfst] at hrow
        rcases List.mem_map.1 hrow with ⟨p, hp, rfl⟩
        exact ⟨p.2, hpairs p hp⟩
      refine ⟨?_, ?_, ?_⟩
      · intro row hmem
        rcases hrow row hmem with ⟨assertion, hassertion⟩
        rcases checkpointAssertion_ok hassertion with ⟨observedValue, hcert, _⟩
        exact ⟨observedValue, hcert⟩
      · rw [hrecords]
        refine ((sortedOn_perm _ _).map _).trans (List.Perm.of_eq ?_)
        rw [← hfst, ← hsnd, List.map_map, List.map_map]
        refine List.map_congr_left ?_
        intro p hp
        rcases checkpointAssertion_ok (hpairs p hp) with
          ⟨observedValue, hcert, hat, hsubject, hvalue, _⟩
        have hmem : p.1 ∈ rows := hfst ▸ List.mem_map_of_mem hp
        simp [rowPosition, hcert.observed, hat, hsubject, hvalue, hasOf p.1 hmem]
      · intro a ha
        rw [hrecords] at ha
        have ha' : a ∈ assertions := mem_sortedOn.1 ha
        rw [← hsnd] at ha'
        rcases List.mem_map.1 ha' with ⟨p, hp, rfl⟩
        rcases checkpointAssertion_ok (hpairs p hp) with ⟨_, _, _, _, _, htrust⟩
        exact htrust

lemma checkpointFor_of_certifiable {env : KernelEnvironment} {asOf : Instant}
    {rows : List ReadyCheckpointRow} :
    (∀ row ∈ rows, ∃ observedValue, Certifiable row observedValue) →
      ∃ checkpoint, checkpointFor env asOf rows = .ok checkpoint := by
  intro h
  have hrow : ∀ row ∈ rows, ∃ assertion, checkpointAssertion env
      (stableCheckpointId env (reconciliationStateRefs rows) asOf) asOf row = .ok assertion := by
    intro row hrow
    rcases h row hrow with ⟨_, hcert⟩
    exact checkpointAssertion_of_certifiable hcert
  rcases exists_mapM_ok hrow with ⟨assertions, hassertions⟩
  refine ⟨checkpointOf env asOf rows assertions, ?_⟩
  simp only [checkpointFor, hassertions, bind, Except.bind]

/-- The builder succeeds exactly when every ready row is certifiable, and then it certifies the
position of every row and no other. -/
theorem buildCheckpoints_spec {env : KernelEnvironment} {states : List ReconciliationState}
    {rows : List ReadyCheckpointRow} (hrows : readyRows env states = .ok rows) :
    ((∃ checkpoints, buildCheckpoints env states = .ok checkpoints) ↔
      ∀ row ∈ rows, ∃ observedValue, Certifiable row observedValue) ∧
    ∀ checkpoints, buildCheckpoints env states = .ok checkpoints →
      ((certifiedPositions checkpoints).map some).Perm (rows.map rowPosition) ∧
      ∀ checkpoint ∈ checkpoints, ∀ a ∈ checkpoint.checkpointAssertionRecords,
        a.trustLevel = .filingReady := by
  set groups := sortedOn Prod.fst
    (Dict.group (fun row : ReadyCheckpointRow => row.proposal.asOf) rows).entries with hgroups
  have hbuild : buildCheckpoints env states =
      groups.mapM (fun entry => checkpointFor env entry.1 entry.2) := by
    simp only [buildCheckpoints, hrows, bind, Except.bind, hgroups]
  have hgroup : ∀ entry ∈ groups, ∀ row ∈ entry.2, row ∈ rows ∧ row.proposal.asOf = entry.1 := by
    intro entry hentry row hrow
    have hmem := (Dict.mem_entries_group (mem_sortedOn.1 hentry)).2
    rw [hmem] at hrow
    simpa using List.mem_filter.1 hrow
  have hflat : (groups.flatMap Prod.snd).Perm rows :=
    ((sortedOn_perm _ _).flatMap_right _).trans (Dict.flatten_group _ _)
  have hspec : ∀ checkpoints, buildCheckpoints env states = .ok checkpoints →
      (∀ row ∈ rows, ∃ observedValue, Certifiable row observedValue) ∧
      ((certifiedPositions checkpoints).map some).Perm (rows.map rowPosition) ∧
      ∀ checkpoint ∈ checkpoints, ∀ a ∈ checkpoint.checkpointAssertionRecords,
        a.trustLevel = .filingReady := by
    intro checkpoints hok
    rw [hbuild] at hok
    rcases mapM_ok_pairs hok with ⟨pairs, hfst, hsnd, hpairs⟩
    have hpair : ∀ p ∈ pairs, _ := fun p hp =>
      checkpointFor_ok
        (fun row hrow => (hgroup p.1 (hfst ▸ List.mem_map_of_mem hp) row hrow).2) (hpairs p hp)
    refine ⟨?_, ?_, ?_⟩
    · intro row hrow
      rcases List.mem_flatMap.1 (hflat.mem_iff.2 hrow) with ⟨entry, hentry, hmem⟩
      rw [← hfst] at hentry
      rcases List.mem_map.1 hentry with ⟨p, hp, rfl⟩
      exact (hpair p hp).1 row hmem
    · refine List.Perm.trans ?_ (hflat.map rowPosition)
      rw [← hfst, ← hsnd]
      clear hok hfst hsnd
      induction pairs with
      | nil => simp [certifiedPositions]
      | cons p pairs ih =>
          have htail := ih (fun q hq => hpairs q (List.mem_cons_of_mem _ hq))
            (fun q hq => hpair q (List.mem_cons_of_mem _ hq))
          have hhead := (hpair p List.mem_cons_self).2.1
          simp only [certifiedPositions, List.map_cons, List.flatMap_cons, List.map_append,
            List.map_map] at htail ⊢
          exact List.Perm.append hhead htail
    · intro checkpoint hcheckpoint
      rw [← hsnd] at hcheckpoint
      rcases List.mem_map.1 hcheckpoint with ⟨p, hp, rfl⟩
      exact (hpair p hp).2.2
  refine ⟨⟨?_, ?_⟩, fun checkpoints hok => (hspec checkpoints hok).2⟩
  · rintro ⟨checkpoints, hok⟩
    exact (hspec checkpoints hok).1
  · intro hcert
    rw [hbuild]
    refine exists_mapM_ok ?_
    intro entry hentry
    exact checkpointFor_of_certifiable
      (fun row hrow => hcert row (hgroup entry hentry row hrow).1)

end Kernel
end Tallylot
