import Tallylot.Captures.Registry
import Tallylot.Data.Dict
import Tallylot.Data.Log
import Tallylot.Data.Sorted
import Mathlib.Data.String.Basic

/-!
# Assembly — how a source assembly classifies captures

A source assembly reads the registry, groups the rows of its source into one history per capture,
and sorts every history into included, excluded or pending.  It then appends a status record for
each included and each excluded capture, so that its own records are part of the histories that the
next assembly reads.
-/

namespace Tallylot
namespace Captures

open Data

/-! ## Capture histories -/

/-- The rows of one capture in one source, oldest first.  A history is never empty. -/
structure CaptureHistory where
  rows : List CaptureRow
  nonempty : rows ≠ []

namespace CaptureHistory

def latest (history : CaptureHistory) : CaptureRow := history.rows.getLast history.nonempty

def statuses (history : CaptureHistory) : List CaptureStatus := history.rows.map CaptureRow.status

end CaptureHistory

def captureHistory? (rows : List CaptureRow) : Option CaptureHistory :=
  if h : rows = [] then none else some ⟨rows, h⟩

/-- Histories of a source, in the order of their capture uids. -/
def captureRowHistoriesForSource (rows : List CaptureRow) (source : String) :
    List CaptureHistory :=
  let historyByUid :=
    Dict.group CaptureRow.captureUid
      (rows.filter (fun row => row.source = source && row.captureUid ≠ ""))
  (sortedOn id historyByUid.keys).filterMap
    (fun uid => captureHistory? ((historyByUid.get? uid).getD []))

/-! ## Classification -/

def assemblyIncludedStatus (status : CaptureStatus) : Bool :=
  status ∈ [CaptureStatus.normalized, .assemblyIncluded]

def assemblyExcludedStatus (status : CaptureStatus) : Bool :=
  status ∈ [CaptureStatus.captureBlocked, .duplicateBlocked, .overlapReviewRequired, .superseded]

def captureHistoryIsIncludable (history : CaptureHistory) : Bool :=
  if assemblyIncludedStatus history.latest.status then true
  else if history.latest.status ≠ .assemblyExcluded then false
  else
    latestIndex assemblyExcludedStatus history.statuses <
      latestIndex assemblyIncludedStatus history.statuses

def captureHistoryIsPolicyExcluded (history : CaptureHistory) : Bool :=
  if assemblyExcludedStatus history.latest.status then true
  else
    latestIndex assemblyIncludedStatus history.statuses <
      latestIndex assemblyExcludedStatus history.statuses

/-- Included, excluded and pending rows. -/
structure CapturePartition where
  included : List CaptureRow
  excluded : List CaptureRow
  pending : List CaptureRow
  deriving DecidableEq, Repr

def CapturePartition.add (partition : CapturePartition) (history : CaptureHistory) :
    CapturePartition :=
  if captureHistoryIsIncludable history then
    { partition with included := partition.included ++ [history.latest] }
  else if captureHistoryIsPolicyExcluded history then
    { partition with excluded := partition.excluded ++ [history.latest] }
  else { partition with pending := partition.pending ++ [history.latest] }

def partitionCaptureRows (histories : List CaptureHistory) : CapturePartition :=
  histories.foldl CapturePartition.add ⟨[], [], []⟩

/-! ## The status records of an assembly run -/

def exclusionNotes (row : CaptureRow) : String :=
  "Excluded from source assembly from status " ++ row.status.text ++ "."

/-- The status requests of one assembly run, in the order in which they are appended. -/
def assemblyRequests (rootPresent : String → Bool) (source : String) (rows : List CaptureRow) :
    List StatusRequest :=
  let partition := partitionCaptureRows (captureRowHistoriesForSource rows source)
  let missing := partition.included.filter (fun row => !rootPresent row.captureUid)
  partition.included.map
      (fun row =>
        { captureUid := row.captureUid
          status := if row ∉ missing then .assemblyIncluded else .assemblyExcluded }) ++
    partition.excluded.map
      (fun row =>
        { captureUid := row.captureUid
          status := .assemblyExcluded
          notes := exclusionNotes row })

/-- The registry after assembling `source`, where `rootPresent` says which captures have their
normalized root on disk. -/
def assembleSource (rootPresent : String → Bool) (source : String) (rows : List CaptureRow) :
    List CaptureRow :=
  (assemblyRequests rootPresent source rows).foldl appendCaptureStatusRecord rows

/-! ## Classes, capture by capture -/

inductive CaptureClass
  | included
  | excluded
  | pending
  deriving DecidableEq, Repr

def captureClass (history : CaptureHistory) : CaptureClass :=
  if captureHistoryIsIncludable history then .included
  else if captureHistoryIsPolicyExcluded history then .excluded
  else .pending

lemma partition_foldl (histories : List CaptureHistory) (p : CapturePartition) :
    histories.foldl CapturePartition.add p =
      { included :=
          p.included ++
            (histories.filter (fun h => captureClass h = .included)).map CaptureHistory.latest
        excluded :=
          p.excluded ++
            (histories.filter (fun h => captureClass h = .excluded)).map CaptureHistory.latest
        pending :=
          p.pending ++
            (histories.filter (fun h => captureClass h = .pending)).map CaptureHistory.latest } := by
  induction histories generalizing p with
  | nil => simp
  | cons h hs ih =>
      rw [List.foldl_cons, ih]
      by_cases hi : captureHistoryIsIncludable h
      · simp [CapturePartition.add, captureClass, hi]
      · by_cases he : captureHistoryIsPolicyExcluded h
        · simp [CapturePartition.add, captureClass, hi, he]
        · simp [CapturePartition.add, captureClass, hi, he]

theorem partitionCaptureRows_eq (histories : List CaptureHistory) :
    partitionCaptureRows histories =
      { included :=
          (histories.filter (fun h => captureClass h = .included)).map CaptureHistory.latest
        excluded :=
          (histories.filter (fun h => captureClass h = .excluded)).map CaptureHistory.latest
        pending :=
          (histories.filter (fun h => captureClass h = .pending)).map CaptureHistory.latest } := by
  simp [partitionCaptureRows, partition_foldl]

def sourceRows (rows : List CaptureRow) (source captureUid : String) : List CaptureRow :=
  rows.filter (fun row => row.source = source && row.captureUid = captureUid)

/-- The history of a capture in a source; rows without a capture uid have none. -/
def sourceHistory? (rows : List CaptureRow) (source captureUid : String) : Option CaptureHistory :=
  if captureUid = "" then none else captureHistory? (sourceRows rows source captureUid)

/-- The class that an assembly of `source` gives to a capture. -/
def captureClassOf (rows : List CaptureRow) (source captureUid : String) : Option CaptureClass :=
  (sourceHistory? rows source captureUid).map captureClass

lemma rows_of_captureHistory? {rows : List CaptureRow} {history : CaptureHistory} :
    captureHistory? rows = some history → history.rows = rows := by
  intro h
  by_cases hr : rows = []
  · simp [captureHistory?, hr] at h
  · have : (⟨rows, hr⟩ : CaptureHistory) = history := by simpa [captureHistory?, hr] using h
    rw [← this]

lemma captureHistory?_eq_none_iff (rows : List CaptureRow) :
    captureHistory? rows = none ↔ rows = [] := by
  by_cases hr : rows = []
  · simp [captureHistory?, hr]
  · simp [captureHistory?, hr]

lemma captureUid_latest {rows : List CaptureRow} {source captureUid : String}
    {history : CaptureHistory} :
    sourceHistory? rows source captureUid = some history →
      history.latest.captureUid = captureUid := by
  intro h
  by_cases hu : captureUid = ""
  · simp [sourceHistory?, hu] at h
  · have hrows : history.rows = sourceRows rows source captureUid :=
      rows_of_captureHistory? (by simpa [sourceHistory?, hu] using h)
    have hmem : history.latest ∈ sourceRows rows source captureUid := by
      rw [← hrows]
      exact List.getLast_mem history.nonempty
    have hboth := (List.mem_filter.1 hmem).2
    simp only [Bool.and_eq_true, decide_eq_true_eq] at hboth
    exact hboth.2

/-- The captures of a source, in the order in which an assembly visits them. -/
def sourceUids (rows : List CaptureRow) (source : String) : List String :=
  sortedOn id
    (Dict.group CaptureRow.captureUid
      (rows.filter (fun row => row.source = source && row.captureUid ≠ ""))).keys

lemma mem_sourceUids {rows : List CaptureRow} {source captureUid : String} :
    captureUid ∈ sourceUids rows source ↔ (sourceHistory? rows source captureUid).isSome := by
  have hmem : captureUid ∈ sourceUids rows source ↔
      captureUid ≠ "" ∧ ∃ row ∈ rows, row.source = source ∧ row.captureUid = captureUid := by
    simp only [sourceUids, mem_sortedOn, Dict.mem_keys_group, List.mem_map, List.mem_filter,
      Bool.and_eq_true, decide_eq_true_eq]
    constructor
    · rintro ⟨row, ⟨hrow, hsource, huid⟩, rfl⟩
      exact ⟨huid, row, hrow, hsource, rfl⟩
    · rintro ⟨huid, row, hrow, hsource, rfl⟩
      exact ⟨row, ⟨hrow, hsource, huid⟩, rfl⟩
  rw [hmem]
  by_cases hu : captureUid = ""
  · simp [sourceHistory?, hu]
  · have hnone : captureHistory? (sourceRows rows source captureUid) = none ↔
        ¬∃ row ∈ rows, row.source = source ∧ row.captureUid = captureUid := by
      rw [captureHistory?_eq_none_iff]
      simp [sourceRows, List.filter_eq_nil_iff]
    simp only [sourceHistory?, hu, if_false, ne_eq, not_false_eq_true, true_and]
    rw [Option.isSome_iff_ne_none, ne_eq, hnone, not_not]

lemma captureRowHistoriesForSource_eq (rows : List CaptureRow) (source : String) :
    captureRowHistoriesForSource rows source =
      (sourceUids rows source).filterMap (sourceHistory? rows source) := by
  unfold captureRowHistoriesForSource sourceUids
  refine List.filterMap_congr ?_
  intro uid huid
  have hne : uid ≠ "" := by
    have hkey := (Dict.mem_keys_group _ _ _).1 (mem_sortedOn.1 huid)
    rcases List.mem_map.1 hkey with ⟨row, hrow, rfl⟩
    have hboth := (List.mem_filter.1 hrow).2
    simp only [Bool.and_eq_true, decide_eq_true_eq] at hboth
    exact hboth.2
  have hfilter :
      (rows.filter (fun row => row.source = source && row.captureUid ≠ "")).filter
          (fun row => row.captureUid = uid) = sourceRows rows source uid := by
    rw [List.filter_filter]
    refine List.filter_congr ?_
    intro row _
    by_cases hrow : row.captureUid = uid
    · simp [hrow, hne]
    · simp [hrow]
  rw [Dict.getD_get?_group, hfilter]
  simp [sourceHistory?, hne]

lemma sourceUids_strictlySorted (rows : List CaptureRow) (source : String) :
    (sourceUids rows source).Pairwise (· < ·) := by
  have hle := pairwise_sortedOn (id : String → String)
    (Dict.group CaptureRow.captureUid
      (rows.filter (fun row => row.source = source && row.captureUid ≠ ""))).keys
  have hne : (sourceUids rows source).Nodup :=
    (sortedOn_perm _ _).nodup_iff.2 (Dict.keys_nodup _)
  exact (hle.and hne).imp (by intro a b hab; exact lt_of_le_of_ne hab.1 hab.2)

/-- The capture uids of the three parts. -/
def CapturePartition.uids (partition : CapturePartition) :
    List String × List String × List String :=
  (partition.included.map CaptureRow.captureUid, partition.excluded.map CaptureRow.captureUid,
    partition.pending.map CaptureRow.captureUid)

/-- The captures of a source that an assembly puts in one class. -/
def classUids (rows : List CaptureRow) (source : String) (c : CaptureClass) : List String :=
  (sourceUids rows source).filter (fun uid => captureClassOf rows source uid = some c)

lemma mem_classUids {rows : List CaptureRow} {source uid : String} {c : CaptureClass} :
    uid ∈ classUids rows source c ↔ captureClassOf rows source uid = some c := by
  simp only [classUids, List.mem_filter, mem_sourceUids, decide_eq_true_eq]
  constructor
  · exact And.right
  · intro h
    refine ⟨?_, h⟩
    cases hh : sourceHistory? rows source uid with
    | none => simp [captureClassOf, hh] at h
    | some history => rfl

lemma latestUids_eq (rows : List CaptureRow) (source : String) (c : CaptureClass)
    (uids : List String) :
    (((uids.filterMap (sourceHistory? rows source)).filter (fun h => captureClass h = c)).map
        CaptureHistory.latest).map CaptureRow.captureUid =
      uids.filter (fun uid => captureClassOf rows source uid = some c) := by
  induction uids with
  | nil => rfl
  | cons uid uids ih =>
      cases hh : sourceHistory? rows source uid with
      | none =>
          have hc : captureClassOf rows source uid = none := by simp [captureClassOf, hh]
          simpa [hh, hc] using ih
      | some history =>
          have hc : captureClassOf rows source uid = some (captureClass history) := by
            simp [captureClassOf, hh]
          by_cases hclass : captureClass history = c
          · simpa [hh, hc, hclass, captureUid_latest hh] using ih
          · simpa [hh, hc, hclass] using ih

theorem partition_uids_eq (rows : List CaptureRow) (source : String) :
    (partitionCaptureRows (captureRowHistoriesForSource rows source)).uids =
      (classUids rows source .included, classUids rows source .excluded,
        classUids rows source .pending) := by
  simp only [partitionCaptureRows_eq, CapturePartition.uids, captureRowHistoriesForSource_eq,
    latestUids_eq, classUids]

/-- Two registries are partitioned alike exactly when they give every capture the same class. -/
theorem partition_uids_eq_iff (rows rows' : List CaptureRow) (source : String) :
    (partitionCaptureRows (captureRowHistoriesForSource rows source)).uids =
        (partitionCaptureRows (captureRowHistoriesForSource rows' source)).uids ↔
      ∀ uid, captureClassOf rows source uid = captureClassOf rows' source uid := by
  rw [partition_uids_eq, partition_uids_eq]
  constructor
  · intro h uid
    simp only [Prod.mk.injEq] at h
    have hsame : ∀ c, captureClassOf rows source uid = some c ↔
        captureClassOf rows' source uid = some c := by
      intro c
      rw [← mem_classUids, ← mem_classUids]
      cases c with
      | included => rw [h.1]
      | excluded => rw [h.2.1]
      | pending => rw [h.2.2]
    exact Option.ext hsame
  · intro h
    have huids : sourceUids rows source = sourceUids rows' source := by
      have hmem : ∀ uid, uid ∈ sourceUids rows source ↔ uid ∈ sourceUids rows' source := by
        intro uid
        have hclass := congrArg Option.isSome (h uid)
        simpa [mem_sourceUids, captureClassOf] using hclass
      have hperm := (List.perm_ext_iff_of_nodup
        ((sourceUids_strictlySorted rows source).imp ne_of_lt)
        ((sourceUids_strictlySorted rows' source).imp ne_of_lt)).2 hmem
      refine hperm.eq_of_pairwise ?_ (sourceUids_strictlySorted rows source)
        (sourceUids_strictlySorted rows' source)
      intro a b _ _ hab hba
      exact absurd hab (lt_asymm hba)
    have hclass : ∀ c, classUids rows source c = classUids rows' source c := by
      intro c
      simp only [classUids, huids, h]
    rw [hclass, hclass, hclass]

lemma classUids_nodup (rows : List CaptureRow) (source : String) (c : CaptureClass) :
    (classUids rows source c).Nodup :=
  ((sourceUids_strictlySorted rows source).imp ne_of_lt).filter _

/-! ## The requests of a run, capture by capture -/

lemma filter_key_of_mem {α : Type} {key : α → String} {xs : List α} {x : α} :
    (xs.map key).Nodup → x ∈ xs → xs.filter (fun y => key y = key x) = [x] := by
  intro hnd hx
  induction xs with
  | nil => cases hx
  | cons y ys ih =>
      have hnd' : key y ∉ ys.map key ∧ (ys.map key).Nodup := by simpa using hnd
      rcases List.mem_cons.1 hx with rfl | hmem
      · have hnil : ys.filter (fun z => key z = key x) = [] := by
          rw [List.filter_eq_nil_iff]
          intro z hz hkey
          exact hnd'.1 (List.mem_map.2 ⟨z, hz, by simpa using hkey⟩)
        simp [hnil]
      · have hne : key y ≠ key x := by
          intro h
          exact hnd'.1 (List.mem_map.2 ⟨x, hmem, h.symm⟩)
        simpa [hne] using ih hnd'.2 hmem

lemma filter_key_of_notMem {α : Type} {key : α → String} {xs : List α} {k : String} :
    k ∉ xs.map key → xs.filter (fun y => key y = k) = [] := by
  intro h
  rw [List.filter_eq_nil_iff]
  intro y hy hkey
  exact h (List.mem_map.2 ⟨y, hy, by simpa using hkey⟩)

/-- The statuses that an assembly run asks for a capture. -/
def assemblyStatuses (rootPresent : String → Bool) (uid : String) :
    Option CaptureClass → List CaptureStatus
  | some .included => [if rootPresent uid then .assemblyIncluded else .assemblyExcluded]
  | some .excluded => [.assemblyExcluded]
  | _ => []

theorem assemblyRequests_statuses (rootPresent : String → Bool) (source : String)
    (rows : List CaptureRow) (uid : String) :
    ((assemblyRequests rootPresent source rows).filter (fun r => r.captureUid = uid)).map
        StatusRequest.status =
      assemblyStatuses rootPresent uid (captureClassOf rows source uid) := by
  have huids := partition_uids_eq rows source
  simp only [CapturePartition.uids, Prod.mk.injEq] at huids
  rcases huids with ⟨hinc, hexc, _⟩
  set partition := partitionCaptureRows (captureRowHistoriesForSource rows source) with hp
  have hincNodup : (partition.included.map CaptureRow.captureUid).Nodup := by
    rw [hinc]
    exact classUids_nodup rows source _
  have hexcNodup : (partition.excluded.map CaptureRow.captureUid).Nodup := by
    rw [hexc]
    exact classUids_nodup rows source _
  simp only [assemblyRequests, ← hp, List.filter_append, List.filter_map, Function.comp_def,
    List.map_append, List.map_map]
  by_cases hi : captureClassOf rows source uid = some .included
  · have hmem : uid ∈ partition.included.map CaptureRow.captureUid := by
      rw [hinc]
      exact mem_classUids.2 hi
    have hnot : uid ∉ partition.excluded.map CaptureRow.captureUid := by
      rw [hexc, mem_classUids, hi]
      simp
    rcases List.mem_map.1 hmem with ⟨row, hrow, rfl⟩
    rw [filter_key_of_mem hincNodup hrow, filter_key_of_notMem hnot, hi]
    by_cases hroot : rootPresent row.captureUid
    · simp [assemblyStatuses, hroot]
    · simp [assemblyStatuses, hroot, hrow]
  · have hnoti : uid ∉ partition.included.map CaptureRow.captureUid := by
      rw [hinc, mem_classUids]
      exact hi
    rw [filter_key_of_notMem hnoti]
    by_cases he : captureClassOf rows source uid = some .excluded
    · have hmem : uid ∈ partition.excluded.map CaptureRow.captureUid := by
        rw [hexc]
        exact mem_classUids.2 he
      rcases List.mem_map.1 hmem with ⟨row, hrow, rfl⟩
      rw [filter_key_of_mem hexcNodup hrow, he]
      rfl
    · have hnote : uid ∉ partition.excluded.map CaptureRow.captureUid := by
        rw [hexc, mem_classUids]
        exact he
      rw [filter_key_of_notMem hnote]
      cases hc : captureClassOf rows source uid with
      | none => rfl
      | some c =>
          cases c with
          | included => exact absurd hc hi
          | excluded => exact absurd hc he
          | pending => rfl

end Captures
end Tallylot
