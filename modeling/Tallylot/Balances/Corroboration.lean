import Tallylot.Balances.Models
import Tallylot.Data.Dict
import Tallylot.Data.Parts
import Tallylot.Data.Path
import Tallylot.Data.Sorted
import Tallylot.Domain.Issues
import Tallylot.Translation.Overlap

/-!
# Corroboration — comparing the balances of shared locations across sources

Location inventories of different sources can name the same identity on the same network.  For each
identity, every two sources with exactly one high-confidence location are compared, once for each join
key that one of them has a snapshot for.

A source that has two snapshots under one join key is reported, and yet compared by the first of them
(`corroborated_iff`).
-/

namespace Tallylot
namespace Balances

open Data Domain

/-! ## Inputs and results -/

structure LocationInventoryRecord where
  source : String
  locationId : String
  normalizedIdentifier : String
  networkScope : String
  confidence : String
  deriving DecidableEq, Repr

structure CrossSourceInputs where
  source : String
  snapshots : List BalanceSnapshot
  locationInventory : List LocationInventoryRecord
  deriving DecidableEq, Repr

structure CrossSourceAssertionRecord where
  leftSource : String
  rightSource : String
  normalizedIdentifier : String
  networkScope : String
  instrumentId : String
  balanceKind : String
  leftLocationId : String
  rightLocationId : String
  leftQuantity : String
  rightQuantity : String
  quantityDifference : String
  status : String
  asOfAt : String
  asOfPrecision : String
  notes : String
  deriving DecidableEq, Repr

structure CrossSourceCorroborationResult where
  assertions : List CrossSourceAssertionRecord
  issues : List IssueRecord

/-! ## Identities -/

/-- An identity that several sources can share: an identifier on a network. -/
abbrev SharedIdentity := String × String

/-- `_IdentityRecord` -/
structure IdentityRecord where
  source : String
  locationId : String
  normalizedIdentifier : String
  networkScope : String
  confidence : String
  deriving DecidableEq, Repr

def IdentityRecord.identity (record : IdentityRecord) : SharedIdentity :=
  (record.normalizedIdentifier, record.networkScope)

/-- Whether a location is known with high confidence; only ASCII letters have the lower case letters of
`high`. -/
def IdentityRecord.isHigh (record : IdentityRecord) : Bool :=
  String.ofList (record.confidence.toList.map Char.toLower) = "high"

def inventoryBySource (sourceInputs : List CrossSourceInputs) :
    Dict String (List LocationInventoryRecord) :=
  Dict.ofList (sourceInputs.map (fun input => (input.source, input.locationInventory)))

def snapshotsBySource (sourceInputs : List CrossSourceInputs) :
    Dict String (List BalanceSnapshot) :=
  Dict.ofList (sourceInputs.map (fun input => (input.source, input.snapshots)))

/-- The identity records of all inventories; rows without an identity or a network have none. -/
def identityRecords (sourceInputs : List CrossSourceInputs) : List IdentityRecord :=
  ((inventoryBySource sourceInputs).values.flatMap id).filterMap (fun row =>
    if row.normalizedIdentifier = "" ∨ row.networkScope = "" then none
    else
      some
        { source := row.source
          locationId := row.locationId
          normalizedIdentifier := row.normalizedIdentifier
          networkScope := row.networkScope
          confidence := row.confidence })

def identitiesByGroup (sourceInputs : List CrossSourceInputs) :
    Dict SharedIdentity (List IdentityRecord) :=
  Dict.group IdentityRecord.identity (identityRecords sourceInputs)

/-! ## Issues -/

def crossSourceIssue (source : String) (identity : SharedIdentity) (kind message suffix : String) :
    IssueRecord where
  issueId := source ++ ":" ++ identity.2 ++ ":" ++ identity.1 ++ ":" ++ kind ++
    (if suffix = "" then "" else ":" ++ suffix)
  source := source
  adapterId := "reconciliation"
  severity := "medium"
  kind := kind
  message := message

def lowConfidenceIssue (identity : SharedIdentity) (source : String) : IssueRecord :=
  crossSourceIssue source identity "cross_source_low_confidence_identity"
    ("Cross-source corroboration skipped because the location identity " ++
      "confidence was not high.") ""

def ambiguousLocationIssue (identity : SharedIdentity) (source : String) : IssueRecord :=
  crossSourceIssue source identity "cross_source_ambiguous_identity"
    ("Cross-source corroboration skipped because more than one high-confidence " ++
      "location matched the same shared identity in one source.") ""

def ambiguousRowIssue (identity : SharedIdentity) (source : String) (count : Nat) : IssueRecord :=
  crossSourceIssue source identity "cross_source_ambiguous_identity"
    ("Cross-source corroboration skipped because more than one balance row " ++
      "matched the same shared join key in one source.") (toString count)

/-! ## Eligible sources -/

def highConfidenceRows (rows : List IdentityRecord) : List IdentityRecord :=
  rows.filter IdentityRecord.isHigh

/-- The sources of a group with their only high-confidence record. -/
def eligibleIdentities (rows : List IdentityRecord) : List (String × IdentityRecord) :=
  (Dict.group IdentityRecord.source rows).entries.filterMap (fun group =>
    match highConfidenceRows group.2 with
    | [record] => some (group.1, record)
    | _ => none)

def identityIssues (identity : SharedIdentity) (rows : List IdentityRecord) : List IssueRecord :=
  (Dict.group IdentityRecord.source rows).entries.filterMap (fun group =>
    match highConfidenceRows group.2 with
    | [] => some (lowConfidenceIssue identity group.1)
    | [_] => none
    | _ :: _ :: _ => some (ambiguousLocationIssue identity group.1))

/-! ## Join keys -/

/-- `_normalize_instrument_id` -/
def joinInstrumentId (value : String) : String :=
  if startsWithText value "symbol:" && value.toList.contains '@' then
    String.ofList (value.toList.takeWhile (fun c => c ≠ '@'))
  else value

structure JoinKey where
  instrumentId : String
  balanceKind : String
  targetAt : Instant
  targetPrecision : TemporalPrecision
  deriving DecidableEq, Repr

def joinKeyOf (snapshot : BalanceSnapshot) : JoinKey where
  instrumentId := joinInstrumentId snapshot.target.instrumentId
  balanceKind := snapshot.target.balanceKind
  targetAt := snapshot.target.targetAt
  targetPrecision := snapshot.target.targetPrecision

/-- The texts by which join keys are sorted. -/
def JoinKey.order (key : JoinKey) : String ×ₗ String ×ₗ String ×ₗ String :=
  toLex (key.instrumentId, toLex (key.balanceKind, toLex (key.targetAt.isoText,
    key.targetPrecision.text)))

/-- Snapshots under their join keys, the duplicates counted, and an issue for each duplicate. -/
structure JoinIndex where
  indexed : Dict JoinKey BalanceSnapshot
  duplicateCounts : Dict JoinKey Nat
  issues : List IssueRecord

/-- One turn of the loop of `_index_join_rows`. -/
def indexJoinRow (identity : SharedIdentity) (source : String) (index : JoinIndex)
    (snapshot : BalanceSnapshot) : JoinIndex :=
  let key := joinKeyOf snapshot
  match index.indexed.get? key with
  | some _ =>
      let count := (index.duplicateCounts.get? key).getD 0 + 1
      { index with
        duplicateCounts := index.duplicateCounts.set key count
        issues := index.issues ++ [ambiguousRowIssue identity source count] }
  | none => { index with indexed := index.indexed.set key snapshot }

/-- `_index_join_rows` -/
def indexJoinRows (identity : SharedIdentity) (source : String)
    (snapshots : List BalanceSnapshot) : JoinIndex :=
  snapshots.foldl (indexJoinRow identity source) ⟨Dict.empty, Dict.empty, []⟩

/-- The snapshots of a source, at a location. -/
def snapshotsAt (sourceInputs : List CrossSourceInputs) (source locationId : String) :
    List BalanceSnapshot :=
  (((snapshotsBySource sourceInputs).get? source).getD []).filter (fun snapshot =>
    snapshot.target.locationId = locationId)

def joinIndexOf (sourceInputs : List CrossSourceInputs) (identity : SharedIdentity)
    (record : String × IdentityRecord) : JoinIndex :=
  indexJoinRows identity record.1 (snapshotsAt sourceInputs record.1 record.2.locationId)

/-! ## Comparisons -/

/-- `_ComparablePair` -/
structure ComparablePair where
  identity : SharedIdentity
  joinKey : JoinKey
  leftSource : String
  leftIdentity : IdentityRecord
  leftSnapshot : Option BalanceSnapshot
  rightSource : String
  rightIdentity : IdentityRecord
  rightSnapshot : Option BalanceSnapshot
  deriving DecidableEq, Repr

def assertionStatusText (left right : Option BalanceSnapshot) : String :=
  match left, right with
  | none, _ => "missing_left"
  | some _, none => "missing_right"
  | some l, some r => if l.quantity ≠ r.quantity then "drift" else "matched"

def statusNotes (status : String) : String :=
  if status = "missing_left" then
    "No comparable left-side balance row was available for this shared identity."
  else if status = "missing_right" then
    "No comparable right-side balance row was available for this shared identity."
  else if status = "drift" then
    "Comparable sources resolved to the same shared identity but reported different quantities."
  else "Comparable sources resolved to the same shared identity and quantity."

/-- `_build_assertion` -/
def buildCrossSourceAssertion (pair : ComparablePair) : CrossSourceAssertionRecord :=
  let status := assertionStatusText pair.leftSnapshot pair.rightSnapshot
  let snapshot := pair.leftSnapshot.or pair.rightSnapshot
  { leftSource := pair.leftSource
    rightSource := pair.rightSource
    normalizedIdentifier := pair.identity.1
    networkScope := pair.identity.2
    instrumentId := pair.joinKey.instrumentId
    balanceKind := pair.joinKey.balanceKind
    leftLocationId := if pair.leftSnapshot.isSome then pair.leftIdentity.locationId else ""
    rightLocationId := if pair.rightSnapshot.isSome then pair.rightIdentity.locationId else ""
    leftQuantity := (pair.leftSnapshot.map (fun s => s.quantity.format)).getD ""
    rightQuantity := (pair.rightSnapshot.map (fun s => s.quantity.format)).getD ""
    quantityDifference :=
      match pair.leftSnapshot, pair.rightSnapshot with
      | some l, some r => (l.quantity - r.quantity).format
      | _, _ => ""
    status := status
    asOfAt := (snapshot.map (fun s => s.target.target.text)).getD ""
    asOfPrecision := (snapshot.map (fun s => s.target.targetPrecision.text)).getD ""
    notes := statusNotes status }

/-- The join keys of two sources, each once, in order. -/
def joinKeys (left right : JoinIndex) : List JoinKey :=
  sortedOn JoinKey.order ((left.indexed.keys ++ right.indexed.keys).dedup)

/-- The comparisons of two sources. -/
def sourcePairs (sourceInputs : List CrossSourceInputs) (identity : SharedIdentity)
    (sources : (String × IdentityRecord) × (String × IdentityRecord)) : List ComparablePair :=
  let left := joinIndexOf sourceInputs identity sources.1
  let right := joinIndexOf sourceInputs identity sources.2
  (joinKeys left right).map (fun key =>
    { identity := identity
      joinKey := key
      leftSource := sources.1.1
      leftIdentity := sources.1.2
      leftSnapshot := left.indexed.get? key
      rightSource := sources.2.1
      rightIdentity := sources.2.2
      rightSnapshot := right.indexed.get? key })

/-- The comparisons for one shared identity; a single source has nothing to compare with. -/
def groupPairs (sourceInputs : List CrossSourceInputs)
    (group : SharedIdentity × List IdentityRecord) : List ComparablePair :=
  (Translation.combinations (sortedOn Prod.fst (eligibleIdentities group.2))).flatMap
    (sourcePairs sourceInputs group.1)

def groupIssues (sourceInputs : List CrossSourceInputs)
    (group : SharedIdentity × List IdentityRecord) : List IssueRecord :=
  identityIssues group.1 group.2 ++
    if (eligibleIdentities group.2).length < 2 then []
    else (eligibleIdentities group.2).flatMap (fun record =>
      (joinIndexOf sourceInputs group.1 record).issues)

def sortedGroups (sourceInputs : List CrossSourceInputs) :
    List (SharedIdentity × List IdentityRecord) :=
  sortedOn (fun group => toLex group.1) (identitiesByGroup sourceInputs).entries

def comparablePairs (sourceInputs : List CrossSourceInputs) : List ComparablePair :=
  (sortedGroups sourceInputs).flatMap (groupPairs sourceInputs)

/-- `build_cross_source_corroboration` -/
def buildCrossSourceCorroboration (sourceInputs : List CrossSourceInputs) :
    CrossSourceCorroborationResult where
  assertions := (comparablePairs sourceInputs).map buildCrossSourceAssertion
  issues := (sortedGroups sourceInputs).flatMap (groupIssues sourceInputs)

/-! ## What the index of a source holds -/

section Index

variable {identity : SharedIdentity} {source : String}

lemma get?_foldl_indexJoinRow (snapshots : List BalanceSnapshot) (index : JoinIndex) (key : JoinKey) :
    (snapshots.foldl (indexJoinRow identity source) index).indexed.get? key =
      (index.indexed.get? key).or (snapshots.find? (fun snapshot => joinKeyOf snapshot = key)) := by
  induction snapshots generalizing index with
  | nil => simp
  | cons snapshot snapshots ih =>
      rw [List.foldl_cons, ih, List.find?_cons]
      cases hget : index.indexed.get? (joinKeyOf snapshot) with
      | some kept =>
          by_cases hkey : joinKeyOf snapshot = key
          · simp [indexJoinRow, hget, ← hkey]
          · simp [indexJoinRow, hget, hkey]
      | none =>
          by_cases hkey : joinKeyOf snapshot = key
          · simp [indexJoinRow, hget, ← hkey, Dict.get?_set]
          · have hother : key ≠ joinKeyOf snapshot := fun h => hkey h.symm
            simp [indexJoinRow, hget, hkey, hother, Dict.get?_set]

/-- A source is indexed under exactly the join keys of its snapshots. -/
lemma mem_keys_indexJoinRows (snapshots : List BalanceSnapshot) (key : JoinKey) :
    key ∈ (indexJoinRows identity source snapshots).indexed.keys ↔
      snapshots.filter (fun snapshot => joinKeyOf snapshot = key) ≠ [] := by
  have hget := @get?_foldl_indexJoinRow identity source snapshots ⟨Dict.empty, Dict.empty, []⟩ key
  rw [Dict.get?_empty, Option.none_or] at hget
  rw [← not_iff_not, ← Dict.get?_eq_none_iff, indexJoinRows, hget, List.find?_eq_none, not_not,
    List.filter_eq_nil_iff]

end Index

/-! ## Which comparisons are made -/

section Comparisons

variable (sourceInputs : List CrossSourceInputs)

/-- The high-confidence records of a source for an identity. -/
def highRecords (identity : SharedIdentity) (source : String) : List IdentityRecord :=
  (identityRecords sourceInputs).filter (fun record =>
    record.identity = identity && record.source = source && record.isHigh)

/-- The snapshots of a source, at a location, under a join key. -/
def matching (source locationId : String) (key : JoinKey) : List BalanceSnapshot :=
  (snapshotsAt sourceInputs source locationId).filter (fun snapshot => joinKeyOf snapshot = key)

/-- What a comparison is about. -/
def ComparablePair.comparison (pair : ComparablePair) :
    SharedIdentity × (String × String) × JoinKey :=
  (pair.identity, (pair.leftSource, pair.rightSource), pair.joinKey)

def comparisons : List (SharedIdentity × (String × String) × JoinKey) :=
  (comparablePairs sourceInputs).map ComparablePair.comparison

variable {sourceInputs}

lemma mem_sortedGroups {identity : SharedIdentity} {rows : List IdentityRecord} :
    (identity, rows) ∈ sortedGroups sourceInputs ↔
      rows ≠ [] ∧
        rows = (identityRecords sourceInputs).filter (fun record => record.identity = identity) := by
  rw [sortedGroups, mem_sortedOn, identitiesByGroup, Dict.mem_entries_group_iff]

lemma mem_eligibleIdentities {rows : List IdentityRecord} {source : String} {record : IdentityRecord} :
    (source, record) ∈ eligibleIdentities rows ↔
      rows.filter (fun r => r.source = source && r.isHigh) = [record] := by
  have hhigh : ∀ source : String,
      highConfidenceRows (rows.filter (fun r => r.source = source)) =
        rows.filter (fun r => r.source = source && r.isHigh) := by
    intro source
    rw [highConfidenceRows, List.filter_filter]
    exact List.filter_congr (fun r _ => Bool.and_comm _ _)
  rw [eligibleIdentities, List.mem_filterMap]
  constructor
  · rintro ⟨⟨s, ys⟩, hgroup, hsome⟩
    rcases Dict.mem_entries_group_iff.1 hgroup with ⟨_, rfl⟩
    simp only at hsome
    split at hsome
    · rename_i r hr
      cases hsome
      rw [← hhigh]
      exact hr
    · cases hsome
  · intro h
    have hne : rows.filter (fun r => r.source = source) ≠ [] := by
      intro hnil
      rw [← hhigh, hnil] at h
      cases h
    refine ⟨(source, rows.filter (fun r => r.source = source)),
      Dict.mem_entries_group_iff.2 ⟨hne, rfl⟩, ?_⟩
    simp only [hhigh, h]

/-- A source is eligible for an identity when it has one high-confidence record for it. -/
lemma mem_eligible_iff {identity : SharedIdentity} {rows : List IdentityRecord}
    (hgroup : (identity, rows) ∈ sortedGroups sourceInputs) {source : String}
    {record : IdentityRecord} :
    (source, record) ∈ eligibleIdentities rows ↔
      highRecords sourceInputs identity source = [record] := by
  rcases mem_sortedGroups.1 hgroup with ⟨_, rfl⟩
  rw [mem_eligibleIdentities, List.filter_filter, highRecords]
  have hfilter : (identityRecords sourceInputs).filter
      (fun r => (r.source = source && r.isHigh) && r.identity = identity) =
        (identityRecords sourceInputs).filter
          (fun r => r.identity = identity && r.source = source && r.isHigh) := by
    refine List.filter_congr (fun r _ => ?_)
    rw [Bool.and_comm, Bool.and_assoc]
  rw [hfilter]

lemma exists_group {identity : SharedIdentity} {source : String} {record : IdentityRecord}
    (h : highRecords sourceInputs identity source = [record]) :
    ∃ rows, (identity, rows) ∈ sortedGroups sourceInputs := by
  refine ⟨_, mem_sortedGroups.2 ⟨?_, rfl⟩⟩
  have hmem : record ∈ highRecords sourceInputs identity source := h ▸ List.mem_cons_self
  rcases List.mem_filter.1 hmem with ⟨hrecord, hcond⟩
  simp only [Bool.and_eq_true, decide_eq_true_eq] at hcond
  exact List.ne_nil_of_mem (List.mem_filter.2 ⟨hrecord, decide_eq_true hcond.1.1⟩)

lemma eligible_nodup (rows : List IdentityRecord) :
    ((eligibleIdentities rows).map Prod.fst).Nodup := by
  refine (Dict.group IdentityRecord.source rows).keys_nodup.sublist ?_
  refine filterMap_keys_sublist (fun group record h => ?_) _
  split at h
  · cases h
    rfl
  · cases h

/-- Eligible sources in order. -/
lemma pairwise_eligible (rows : List IdentityRecord) :
    (sortedOn Prod.fst (eligibleIdentities rows)).Pairwise (fun a b => a.1 < b.1) := by
  have hnodup : ((sortedOn Prod.fst (eligibleIdentities rows)).map Prod.fst).Nodup :=
    (((sortedOn_perm Prod.fst (eligibleIdentities rows)).map Prod.fst).nodup_iff).2
      (eligible_nodup rows)
  have hle := pairwise_sortedOn Prod.fst (eligibleIdentities rows)
  rw [List.Nodup, List.pairwise_map] at hnodup
  exact (hle.and hnodup).imp (fun h => lt_of_le_of_ne h.1 h.2)

lemma mem_joinKeys {identity : SharedIdentity} {left right : String × IdentityRecord}
    {key : JoinKey} :
    key ∈ joinKeys (joinIndexOf sourceInputs identity left)
        (joinIndexOf sourceInputs identity right) ↔
      matching sourceInputs left.1 left.2.locationId key ≠ [] ∨
        matching sourceInputs right.1 right.2.locationId key ≠ [] := by
  rw [joinKeys, mem_sortedOn, List.mem_dedup, List.mem_append, joinIndexOf, joinIndexOf,
    mem_keys_indexJoinRows, mem_keys_indexJoinRows, matching, matching]

/-- Two sources are compared in the order of their names, if each has one high-confidence record. -/
theorem mem_comparablePairs {pair : ComparablePair} (hpair : pair ∈ comparablePairs sourceInputs) :
    highRecords sourceInputs pair.identity pair.leftSource = [pair.leftIdentity] ∧
      highRecords sourceInputs pair.identity pair.rightSource = [pair.rightIdentity] ∧
        pair.leftSource < pair.rightSource := by
  rcases List.mem_flatMap.1 hpair with ⟨⟨identity, rows⟩, hgroup, hpair⟩
  rcases List.mem_flatMap.1 hpair with ⟨⟨left, right⟩, hsources, hpair⟩
  rcases (Translation.mem_combinations_iff_of_pairwise (fun _ _ h => not_lt_of_gt h)
    (pairwise_eligible rows)).1 hsources with ⟨hleft, hright, hlt⟩
  rcases List.mem_map.1 hpair with ⟨key, _, rfl⟩
  exact ⟨(mem_eligible_iff hgroup).1 (mem_sortedOn.1 hleft),
    (mem_eligible_iff hgroup).1 (mem_sortedOn.1 hright), hlt⟩

theorem mem_comparisons {identity : SharedIdentity} {s t : String} {key : JoinKey} :
    (identity, (s, t), key) ∈ comparisons sourceInputs ↔
      s < t ∧ ∃ left right, highRecords sourceInputs identity s = [left] ∧
        highRecords sourceInputs identity t = [right] ∧
          (matching sourceInputs s left.locationId key ≠ [] ∨
            matching sourceInputs t right.locationId key ≠ []) := by
  constructor
  · intro h
    rcases List.mem_map.1 h with ⟨pair, hpair, hcomparison⟩
    cases hcomparison
    rcases mem_comparablePairs hpair with ⟨hleft, hright, hlt⟩
    refine ⟨hlt, _, _, hleft, hright, ?_⟩
    rcases List.mem_flatMap.1 hpair with ⟨group, _, hpair⟩
    rcases List.mem_flatMap.1 hpair with ⟨sources, _, hpair⟩
    rcases List.mem_map.1 hpair with ⟨key, hkey, rfl⟩
    exact mem_joinKeys.1 hkey
  · rintro ⟨hlt, left, right, hleft, hright, hkey⟩
    rcases exists_group hleft with ⟨rows, hgroup⟩
    have hcombination : ((s, left), (t, right)) ∈
        Translation.combinations (sortedOn Prod.fst (eligibleIdentities rows)) := by
      refine (Translation.mem_combinations_iff_of_pairwise (fun _ _ h => not_lt_of_gt h)
        (pairwise_eligible rows)).2 ⟨?_, ?_, hlt⟩
      · exact mem_sortedOn.2 ((mem_eligible_iff hgroup).2 hleft)
      · exact mem_sortedOn.2 ((mem_eligible_iff hgroup).2 hright)
    refine List.mem_map.2 ⟨_, List.mem_flatMap.2 ⟨_, hgroup, List.mem_flatMap.2 ⟨_, hcombination,
      List.mem_map.2 ⟨key, ?_, rfl⟩⟩⟩, rfl⟩
    exact mem_joinKeys.2 hkey

/-- No comparison is made twice. -/
theorem nodup_comparisons : (comparisons sourceInputs).Nodup := by
  rw [comparisons, comparablePairs, List.map_flatMap]
  refine @nodup_flatMap_of_label _ _ _ _ Prod.fst Prod.fst _ ?_ ?_ ?_
  · intro group _ comparison hcomparison
    rcases List.mem_map.1 hcomparison with ⟨pair, hpair, rfl⟩
    rcases List.mem_flatMap.1 hpair with ⟨sources, _, hpair⟩
    rcases List.mem_map.1 hpair with ⟨key, _, rfl⟩
    rfl
  · rw [sortedGroups]
    exact (((sortedOn_perm _ _).map Prod.fst).nodup_iff).2 (identitiesByGroup sourceInputs).keys_nodup
  · intro group _
    rw [groupPairs, List.map_flatMap]
    refine @nodup_flatMap_of_label _ _ _ _ (fun comparison => comparison.2.1)
      (fun sources => (sources.1.1, sources.2.1)) _ ?_ ?_ ?_
    · intro sources _ comparison hcomparison
      rcases List.mem_map.1 hcomparison with ⟨pair, hpair, rfl⟩
      rcases List.mem_map.1 hpair with ⟨key, _, rfl⟩
      rfl
    · have hsorted := pairwise_eligible group.2
      have hnodup : (sortedOn Prod.fst (eligibleIdentities group.2)).Nodup := by
        refine hsorted.imp ?_
        intro a b h heq
        rw [heq] at h
        exact lt_irrefl _ h
      refine (Translation.nodup_combinations hnodup).map_on ?_
      intro p hp q hq heq
      have hinj := List.inj_on_of_nodup_map
        ((((sortedOn_perm Prod.fst (eligibleIdentities group.2)).map Prod.fst).nodup_iff).2
          (eligible_nodup group.2))
      have hpmem := Translation.mem_of_combinations hp
      have hqmem := Translation.mem_of_combinations hq
      exact Prod.ext (hinj hpmem.1 hqmem.1 (Prod.mk.inj heq).1)
        (hinj hpmem.2 hqmem.2 (Prod.mk.inj heq).2)
    · intro sources _
      rw [sourcePairs, List.map_map]
      refine List.Nodup.map ?_ ?_
      · intro key key' heq
        exact (Prod.mk.inj (Prod.mk.inj heq).2).2
      · rw [joinKeys, (sortedOn_perm _ _).nodup_iff]
        exact List.nodup_dedup _

/-! ## Corroboration -/

variable (sourceInputs)

/-- A source has exactly one high-confidence location for an identity. -/
def SingleLocation (identity : SharedIdentity) (source locationId : String) : Prop :=
  highRecords sourceInputs identity source ≠ [] ∧
    ∀ record ∈ highRecords sourceInputs identity source, record.locationId = locationId

/-- No assertion rests on an ambiguous join key, and every two sources with one location each are
compared once per join key of either. -/
structure Corroborated : Prop where
  unambiguous :
    ∀ pair ∈ comparablePairs sourceInputs,
      (matching sourceInputs pair.leftSource pair.leftIdentity.locationId pair.joinKey).length ≤ 1 ∧
        (matching sourceInputs pair.rightSource pair.rightIdentity.locationId
          pair.joinKey).length ≤ 1
  once :
    ∀ identity s t location location' key, s ≠ t → SingleLocation sourceInputs identity s location →
      SingleLocation sourceInputs identity t location' →
        (matching sourceInputs s location key ≠ [] ∨ matching sourceInputs t location' key ≠ []) →
          (comparisons sourceInputs).count (identity, (s, t), key) +
            (comparisons sourceInputs).count (identity, (t, s), key) = 1

/-- Inputs in which no duplicate gets in the way. -/
structure WithoutDuplicates : Prop where
  /-- Of two sources with one high-confidence record each, neither has two snapshots under a key. -/
  snapshots :
    ∀ identity s t left right, s ≠ t → highRecords sourceInputs identity s = [left] →
      highRecords sourceInputs identity t = [right] →
        ∀ key, (matching sourceInputs s left.locationId key).length ≤ 1
  /-- Of two sources with one location each and a snapshot there, neither lists its location twice. -/
  records :
    ∀ identity s t location location' key, s ≠ t → SingleLocation sourceInputs identity s location →
      SingleLocation sourceInputs identity t location' →
        (matching sourceInputs s location key ≠ [] ∨ matching sourceInputs t location' key ≠ []) →
          (highRecords sourceInputs identity s).length = 1

variable {sourceInputs}

lemma record_of_singleLocation {identity : SharedIdentity} {source location : String}
    (h : SingleLocation sourceInputs identity source location)
    (hlength : (highRecords sourceInputs identity source).length = 1) :
    ∃ record, highRecords sourceInputs identity source = [record] ∧ record.locationId = location := by
  rcases List.length_eq_one_iff.1 hlength with ⟨record, hrecord⟩
  exact ⟨record, hrecord, h.2 record (hrecord ▸ List.mem_cons_self)⟩

lemma count_comparisons (comparison : SharedIdentity × (String × String) × JoinKey) :
    (comparisons sourceInputs).count comparison =
      if comparison ∈ comparisons sourceInputs then 1 else 0 := by
  split_ifs with h
  · exact List.count_eq_one_of_mem nodup_comparisons h
  · exact List.count_eq_zero_of_not_mem h

/-- Two sources with one record each are compared once per join key of either. -/
lemma count_of_records {identity : SharedIdentity} {s t : String} {left right : IdentityRecord}
    {key : JoinKey} (hne : s ≠ t) (hleft : highRecords sourceInputs identity s = [left])
    (hright : highRecords sourceInputs identity t = [right])
    (hkey : matching sourceInputs s left.locationId key ≠ [] ∨
      matching sourceInputs t right.locationId key ≠ []) :
    (comparisons sourceInputs).count (identity, (s, t), key) +
      (comparisons sourceInputs).count (identity, (t, s), key) = 1 := by
  rw [count_comparisons, count_comparisons]
  rcases lt_or_gt_of_ne hne with hlt | hlt
  · have hmem := mem_comparisons.2 ⟨hlt, left, right, hleft, hright, hkey⟩
    have hnot : (identity, (t, s), key) ∉ comparisons sourceInputs := by
      intro h
      exact lt_asymm hlt (mem_comparisons.1 h).1
    rw [if_pos hmem, if_neg hnot]
  · have hmem := mem_comparisons.2 ⟨hlt, right, left, hright, hleft, hkey.symm⟩
    have hnot : (identity, (s, t), key) ∉ comparisons sourceInputs := by
      intro h
      exact lt_asymm hlt (mem_comparisons.1 h).1
    rw [if_neg hnot, if_pos hmem]

/-- A compared source has one high-confidence record for the identity. -/
lemma length_of_counted {identity : SharedIdentity} {s t : String} {key : JoinKey}
    (h : (comparisons sourceInputs).count (identity, (s, t), key) +
      (comparisons sourceInputs).count (identity, (t, s), key) = 1) :
    (highRecords sourceInputs identity s).length = 1 := by
  rw [count_comparisons, count_comparisons] at h
  by_cases hst : (identity, (s, t), key) ∈ comparisons sourceInputs
  · rcases mem_comparisons.1 hst with ⟨_, left, _, hleft, _⟩
    rw [hleft, List.length_singleton]
  · by_cases hts : (identity, (t, s), key) ∈ comparisons sourceInputs
    · rcases mem_comparisons.1 hts with ⟨_, _, right, _, hright, _⟩
      rw [hright, List.length_singleton]
    · rw [if_neg hst, if_neg hts] at h
      cases h

/-- A pair with the given sources in the given order. -/
lemma exists_pair {identity : SharedIdentity} {s t : String} {key : JoinKey}
    (h : (identity, (s, t), key) ∈ comparisons sourceInputs) :
    ∃ pair ∈ comparablePairs sourceInputs, pair.identity = identity ∧ pair.leftSource = s ∧
      pair.rightSource = t ∧ pair.joinKey = key := by
  rcases List.mem_map.1 h with ⟨pair, hpair, hcomparison⟩
  cases hcomparison
  exact ⟨pair, hpair, rfl, rfl, rfl, rfl⟩

lemma matching_of_corroborated (hcorroborated : Corroborated sourceInputs)
    {identity : SharedIdentity} {s t : String} {left right : IdentityRecord} (hne : s ≠ t)
    (hleft : highRecords sourceInputs identity s = [left])
    (hright : highRecords sourceInputs identity t = [right]) (key : JoinKey) :
    (matching sourceInputs s left.locationId key).length ≤ 1 := by
  by_cases hempty : matching sourceInputs s left.locationId key = []
  · rw [hempty]
    exact Nat.zero_le _
  rcases lt_or_gt_of_ne hne with hlt | hlt
  · have hmem := mem_comparisons.2 ⟨hlt, left, right, hleft, hright, Or.inl hempty⟩
    rcases exists_pair hmem with ⟨pair, hpair, hidentity, hsource, _, hjoin⟩
    have hrecord := (mem_comparablePairs hpair).1
    rw [hidentity, hsource, hleft, List.singleton_inj] at hrecord
    have hlength := (hcorroborated.unambiguous pair hpair).1
    rwa [hsource, ← hrecord, hjoin] at hlength
  · have hmem := mem_comparisons.2 ⟨hlt, right, left, hright, hleft, Or.inr hempty⟩
    rcases exists_pair hmem with ⟨pair, hpair, hidentity, _, hsource, hjoin⟩
    have hrecord := (mem_comparablePairs hpair).2.1
    rw [hidentity, hsource, hleft, List.singleton_inj] at hrecord
    have hlength := (hcorroborated.unambiguous pair hpair).2
    rwa [hsource, ← hrecord, hjoin] at hlength

lemma corroborated_of_withoutDuplicates (h : WithoutDuplicates sourceInputs) :
    Corroborated sourceInputs := by
  constructor
  · intro pair hpair
    rcases mem_comparablePairs hpair with ⟨hleft, hright, hlt⟩
    exact ⟨h.snapshots _ _ _ _ _ hlt.ne hleft hright _,
      h.snapshots _ _ _ _ _ hlt.ne' hright hleft _⟩
  · intro identity s t location location' key hne hs ht hkey
    have hslength := h.records _ _ _ _ _ _ hne hs ht hkey
    have htlength := h.records _ _ _ _ _ _ hne.symm ht hs hkey.symm
    rcases record_of_singleLocation hs hslength with ⟨left, hleft, rfl⟩
    rcases record_of_singleLocation ht htlength with ⟨right, hright, rfl⟩
    exact count_of_records hne hleft hright hkey

end Comparisons

/-- Sources are corroborated as they should be exactly when no duplicates get in the way. -/
theorem corroborated_iff (sourceInputs : List CrossSourceInputs) :
    Corroborated sourceInputs ↔ WithoutDuplicates sourceInputs := by
  refine ⟨fun h => ⟨?_, ?_⟩, corroborated_of_withoutDuplicates⟩
  · intro identity s t left right hne hleft hright key
    exact matching_of_corroborated h hne hleft hright key
  · intro identity s t location location' key hne hs ht hkey
    exact length_of_counted (h.once identity s t location location' key hne hs ht hkey)

/-- A location that two sources list, under the same identifier. -/
def sharedLocation (source : String) : LocationInventoryRecord :=
  ⟨source, "ledger", "0xabc", "ethereum", "high"⟩

/-- The balance of an instrument at the shared location, at midnight of the first of January 2024. -/
def sharedBalance (source instrumentId : String) (h : instrumentId ≠ "") : BalanceSnapshot where
  target := ⟨source, "ledger", instrumentId, "available",
    ⟨⟨2024, 1, 1, 0, 0, 0, 0, Instant.isDay_newYear⟩, .timestamp, by decide⟩, h⟩
  quantity := 0
  snapshotBasis := "export"

/-- The first source has two instruments whose ids agree before the `@`. -/
def twoVariants : List CrossSourceInputs :=
  [⟨"kraken", [sharedBalance "kraken" "symbol:USDC@a" (by decide),
      sharedBalance "kraken" "symbol:USDC@b" (by decide)], [sharedLocation "kraken"]⟩,
    ⟨"ledger", [sharedBalance "ledger" "symbol:USDC@a" (by decide)], [sharedLocation "ledger"]⟩]

theorem twoVariants_not_corroborated : ¬Corroborated twoVariants := by
  intro h
  have hleft : highRecords twoVariants ("0xabc", "ethereum") "kraken" =
      [⟨"kraken", "ledger", "0xabc", "ethereum", "high"⟩] := by decide +kernel
  have hright : highRecords twoVariants ("0xabc", "ethereum") "ledger" =
      [⟨"ledger", "ledger", "0xabc", "ethereum", "high"⟩] := by decide +kernel
  have hlength := matching_of_corroborated h (by decide) hleft hright
    ⟨"symbol:USDC", "available", ⟨2024, 1, 1, 0, 0, 0, 0, Instant.isDay_newYear⟩, .timestamp⟩
  exact absurd hlength (by decide +kernel)

end Balances
end Tallylot
