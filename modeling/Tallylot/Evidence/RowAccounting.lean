import Tallylot.Evidence.SourceEvidence

/-!
# RowAccounting — what becomes of the statement rows

Each row should be summed into one balance reference, be reported, or give way to a row of a document
of higher precedence that is summed; and the references should not match one another.

Rows can be lost, and references can match (`rowsAccounted_iff`): a row also gives way to a row of its
own document, or to a row that is itself only reported, and a reference forgets the document and the
raw balance kind of its sum.
-/

namespace Tallylot
namespace Evidence

open Data Domain Balances

section

variable {P : Type} {env : StatementEnvironment} {adapter : StatementEvidenceAdapter P}
  {profile : StatementProfile}

/-! ## What a run leaves -/

section Run

variable {rows : List PlacedRow} {outcomes : List (PlacedRow × RowOutcome)}

/-- A row whose key no row before it has. -/
def IsLeader (rows : List PlacedRow) (placed : PlacedRow) : Prop :=
  ∃ before after, rows = before ++ placed :: after ∧ placed.key ∉ before.map PlacedRow.key

lemma IsLeader.append {placed : PlacedRow} (h : IsLeader rows placed) (more : List PlacedRow) :
    IsLeader (rows ++ more) placed := by
  rcases h with ⟨before, after, rfl, hnew⟩
  exact ⟨before, after ++ more, by simp, hnew⟩

lemma rows_of_reads (h : Reads env adapter profile rows outcomes) :
    outcomes.map Prod.fst = rows := by
  induction h with
  | nil => rfl
  | snoc _ _ ih => simp [ih]

lemma located_of_reads (h : Reads env adapter profile rows outcomes) :
    ∀ placed ∈ rows, ∃ location, statementRowLocationId env profile placed.row = .ok location := by
  induction h with
  | nil => exact fun _ h => absurd h List.not_mem_nil
  | @snoc rows outcomes placed outcome hreads houtcome ih =>
      intro other hother
      rcases List.mem_append.1 hother with hother | hother
      · exact ih other hother
      · rw [List.mem_singleton] at hother
        rw [hother]
        cases hseen : decide (placed.key ∈ rows.map PlacedRow.key) with
        | true =>
            rw [hseen] at houtcome
            exact (rowOutcome_seen.1 houtcome).1
        | false =>
            rw [hseen] at houtcome
            exact (rowOutcome_new.1 houtcome).1

/-- Only leaders have outcomes of their own. -/
lemma new_of_reads (h : Reads env adapter profile rows outcomes) {placed : PlacedRow}
    {outcome : RowOutcome} (hmem : (placed, outcome) ∈ outcomes) (hne : outcome ≠ .skipped) :
    IsLeader rows placed ∧ NewOutcome env adapter profile placed outcome := by
  induction h with
  | nil => exact absurd hmem List.not_mem_nil
  | @snoc rows outcomes last lastOutcome hreads houtcome ih =>
      rcases List.mem_append.1 hmem with hmem | hmem
      · rcases ih hmem with ⟨hleader, hnew⟩
        exact ⟨hleader.append _, hnew⟩
      · rw [List.mem_singleton] at hmem
        cases hmem
        by_cases hseen : placed.key ∈ rows.map PlacedRow.key
        · rw [decide_eq_true hseen] at houtcome
          exact absurd (rowOutcome_seen.1 houtcome).2 hne
        · rw [decide_eq_false hseen] at houtcome
          exact ⟨⟨rows, [], rfl, hseen⟩, (rowOutcome_new.1 houtcome).2⟩

/-- Every leader has an outcome of its own. -/
lemma outcome_of_leader (h : Reads env adapter profile rows outcomes) {placed : PlacedRow}
    (hleader : IsLeader rows placed) :
    ∃ outcome, (placed, outcome) ∈ outcomes ∧ NewOutcome env adapter profile placed outcome := by
  induction h with
  | nil =>
      rcases hleader with ⟨before, after, hrows, _⟩
      simp at hrows
  | @snoc rows outcomes last lastOutcome hreads houtcome ih =>
      rcases hleader with ⟨before, after, hrows, hnew⟩
      rcases List.eq_nil_or_concat after with rfl | ⟨front, final, rfl⟩
      · rcases List.append_inj' hrows rfl with ⟨rfl, hlast⟩
        cases hlast
        rw [decide_eq_false hnew] at houtcome
        exact ⟨lastOutcome, List.mem_append_right _ List.mem_cons_self,
          (rowOutcome_new.1 houtcome).2⟩
      · have hshift : rows ++ [last] = (before ++ placed :: front) ++ [final] := by
          simpa using hrows
        rcases List.append_inj' hshift rfl with ⟨hfront, _⟩
        rcases ih ⟨before, front, hfront, hnew⟩ with ⟨outcome, hmem, houtcome'⟩
        exact ⟨outcome, List.mem_append_left _ hmem, houtcome'⟩

/-- A row is skipped exactly where a row before it has its key. -/
lemma skipped_of_reads (h : Reads env adapter profile rows outcomes) {placed : PlacedRow}
    (hskipped : (placed, .skipped) ∈ outcomes) :
    ∃ before after, rows = before ++ placed :: after ∧ placed.key ∈ before.map PlacedRow.key := by
  induction h with
  | nil => exact absurd hskipped List.not_mem_nil
  | @snoc rows outcomes last lastOutcome hreads houtcome ih =>
      rcases List.mem_append.1 hskipped with hskipped | hskipped
      · rcases ih hskipped with ⟨before, after, rfl, hseen⟩
        exact ⟨before, after ++ [last], by simp, hseen⟩
      · rw [List.mem_singleton] at hskipped
        cases hskipped
        refine ⟨rows, [], rfl, ?_⟩
        by_contra hnew
        rw [decide_eq_false hnew] at houtcome
        cases (rowOutcome_new.1 houtcome).2

lemma skipped_of_seen (h : Reads env adapter profile rows outcomes) {before after : List PlacedRow}
    {placed : PlacedRow} (hrows : rows = before ++ placed :: after)
    (hseen : placed.key ∈ before.map PlacedRow.key) : (placed, .skipped) ∈ outcomes := by
  induction h generalizing after with
  | nil => simp at hrows
  | @snoc rows outcomes last lastOutcome hreads houtcome ih =>
      rcases List.eq_nil_or_concat after with rfl | ⟨front, final, rfl⟩
      · rcases List.append_inj' hrows rfl with ⟨rfl, hlast⟩
        cases hlast
        rw [decide_eq_true hseen] at houtcome
        rw [(rowOutcome_seen.1 houtcome).2]
        exact List.mem_append_right _ List.mem_cons_self
      · have hshift : rows ++ [last] = (before ++ placed :: front) ++ [final] := by
          simpa using hrows
        rcases List.append_inj' hshift rfl with ⟨hfront, _⟩
        exact List.mem_append_left _ (ih hfront)

/-- Rows that no check stops can be read. -/
lemma exists_reads (hlocated : ∀ placed ∈ rows,
      ∃ location, statementRowLocationId env profile placed.row = .ok location)
    (hreadable : ∀ placed, IsLeader rows placed → Readable env adapter profile placed) :
    ∃ outcomes, Reads env adapter profile rows outcomes := by
  induction rows using List.reverseRecOn with
  | nil => exact ⟨[], .nil⟩
  | append_singleton rows placed ih =>
      rcases ih (fun other hother => hlocated other (List.mem_append_left _ hother))
        (fun other hother => hreadable other (hother.append _)) with ⟨outcomes, hreads⟩
      rcases hlocated placed (List.mem_append_right _ List.mem_cons_self) with ⟨location, hlocation⟩
      by_cases hseen : placed.key ∈ rows.map PlacedRow.key
      · refine ⟨_, @Reads.snoc _ _ _ _ _ _ _ .skipped hreads ?_⟩
        rw [decide_eq_true hseen]
        exact rowOutcome_seen.2 ⟨⟨location, hlocation⟩, rfl⟩
      · have hleader : IsLeader (rows ++ [placed]) placed := ⟨rows, [], rfl, hseen⟩
        rcases exists_rowOutcome hlocation (hreadable placed hleader) with ⟨outcome, houtcome⟩
        refine ⟨_, @Reads.snoc _ _ _ _ _ _ _ outcome hreads ?_⟩
        rw [decide_eq_false hseen]
        exact houtcome

/-! ## The sums -/

/-- The quantities that are summed under a key, in the order of the rows. -/
def summedQuantities (key : AggregationKey) (outcomes : List (PlacedRow × RowOutcome)) :
    List Decimal :=
  outcomes.filterMap (fun outcome =>
    match outcome.2 with
    | .summed key' quantity => if key' = key then some quantity else none
    | _ => none)

/-- The issue that reports a row. -/
def RowOutcome.issue? : RowOutcome → Option IssueRecord
  | .reported issue _ => some issue
  | _ => none

lemma issues_stateAfter (issues : List IssueRecord) (reviews : List NormalizationReviewRecord)
    (outcomes : List (PlacedRow × RowOutcome)) :
    (stateAfter issues reviews outcomes).issues =
      issues ++ outcomes.filterMap (fun outcome => outcome.2.issue?) := by
  induction outcomes using List.reverseRecOn with
  | nil => simp [stateAfter]
  | append_singleton outcomes outcome ih =>
      rw [stateAfter_snoc, List.filterMap_append]
      rcases outcome with ⟨placed, outcome⟩
      cases outcome <;> simp [ReferenceLoop.push, RowOutcome.issue?, ih]

lemma outcomes_stateAfter (issues : List IssueRecord) (reviews : List NormalizationReviewRecord)
    (outcomes : List (PlacedRow × RowOutcome)) :
    (stateAfter issues reviews outcomes).outcomes = outcomes := by
  induction outcomes using List.reverseRecOn with
  | nil => rfl
  | append_singleton outcomes outcome ih =>
      rw [stateAfter_snoc]
      rcases outcome with ⟨placed, outcome⟩
      cases outcome <;> simp [ReferenceLoop.push, ih]

/-- The sum under a key, where a row is summed under it. -/
lemma sum_stateAfter (issues : List IssueRecord) (reviews : List NormalizationReviewRecord)
    (outcomes : List (PlacedRow × RowOutcome)) (key : AggregationKey) :
    ((stateAfter issues reviews outcomes).aggregated.get? key).map
        (fun sum => (sum.quantity, sum.instrumentId)) =
      if summedQuantities key outcomes = [] then none
      else some ((summedQuantities key outcomes).foldl (· + ·) 0, key.instrumentId) := by
  induction outcomes using List.reverseRecOn with
  | nil => simp [stateAfter, summedQuantities]
  | append_singleton outcomes outcome ih =>
      rcases outcome with ⟨placed, outcome⟩
      rw [stateAfter_snoc]
      have hsplit : summedQuantities key (outcomes ++ [(placed, outcome)]) =
          summedQuantities key outcomes ++ summedQuantities key [(placed, outcome)] :=
        List.filterMap_append
      cases outcome with
      | skipped =>
          have hlast : summedQuantities key [(placed, .skipped)] = [] := rfl
          rw [hsplit, hlast, List.append_nil]
          exact ih
      | reported issue review =>
          have hlast : summedQuantities key [(placed, .reported issue review)] = [] := rfl
          rw [hsplit, hlast, List.append_nil]
          exact ih
      | summed key' quantity =>
          by_cases hkey : key' = key
          · subst hkey
            have hlast : summedQuantities key' [(placed, .summed key' quantity)] = [quantity] := by
              simp [summedQuantities]
            rw [hsplit, hlast, if_neg (by simp), List.foldl_append]
            simp only [ReferenceLoop.push, Dict.get?_upsert, if_true, Option.map_some,
              List.foldl_cons, List.foldl_nil]
            cases hsum : (stateAfter issues reviews outcomes).aggregated.get? key' with
            | none =>
                rw [hsum, Option.map_none] at ih
                split_ifs at ih with hempty
                rw [hempty]
                rfl
            | some sum =>
                rw [hsum, Option.map_some] at ih
                split_ifs at ih with hempty
                have hpair := Prod.mk.inj (Option.some.inj ih)
                simp [addRow, hpair.1, hpair.2]
          · have hother : ¬key = key' := fun h => hkey h.symm
            have hlast : summedQuantities key [(placed, .summed key' quantity)] = [] := by
              simp [summedQuantities, hkey]
            rw [hsplit, hlast, List.append_nil, ← ih]
            simp [ReferenceLoop.push, Dict.get?_upsert, hother]

lemma mem_summedQuantities {outcomes : List (PlacedRow × RowOutcome)} {key : AggregationKey} :
    summedQuantities key outcomes ≠ [] ↔
      ∃ placed quantity, (placed, RowOutcome.summed key quantity) ∈ outcomes := by
  constructor
  · intro hne
    rcases List.exists_mem_of_ne_nil _ hne with ⟨quantity, hquantity⟩
    rcases List.mem_filterMap.1 hquantity with ⟨⟨placed, outcome⟩, hmem, hsome⟩
    cases outcome with
    | skipped => cases hsome
    | reported => cases hsome
    | summed key' quantity' =>
        dsimp only at hsome
        split_ifs at hsome with hkey
        exact ⟨placed, quantity', hkey ▸ hmem⟩
  · rintro ⟨placed, quantity, hmem⟩
    have hquantity : quantity ∈ summedQuantities key outcomes :=
      List.mem_filterMap.2 ⟨_, hmem, by simp⟩
    exact List.ne_nil_of_mem hquantity

/-- The keys of the sums are the keys under which rows are summed. -/
lemma mem_keys_stateAfter (issues : List IssueRecord) (reviews : List NormalizationReviewRecord)
    (outcomes : List (PlacedRow × RowOutcome)) (key : AggregationKey) :
    key ∈ (stateAfter issues reviews outcomes).aggregated.keys ↔
      ∃ placed quantity, (placed, RowOutcome.summed key quantity) ∈ outcomes := by
  rw [← mem_summedQuantities, ← not_iff_not, ← Dict.get?_eq_none_iff, not_not]
  have hsum := sum_stateAfter issues reviews outcomes key
  constructor
  · intro h
    rw [h, Option.map_none] at hsum
    by_contra hne
    rw [if_neg hne] at hsum
    cases hsum
  · intro h
    rw [if_pos h, Option.map_eq_none_iff] at hsum
    exact hsum

/-! ## The references -/

/-- A balance reference is the sum under a key. -/
structure IsSum (profile : StatementProfile) (outcomes : List (PlacedRow × RowOutcome))
    (key : AggregationKey) (reference : AcceptedReference) : Prop where
  quantity : reference.val.quantity = (summedQuantities key outcomes).foldl (· + ·) 0
  source : reference.val.target.val.source = profile.source
  location : reference.val.target.val.locationId = key.locationId
  instrument : reference.val.target.val.instrumentId = key.instrumentId
  balanceKind : reference.val.target.val.balanceKind =
    normalizeBalanceKind (referenceBalanceKind key.balanceKind)
  targetAt : reference.val.target.val.targetAt = key.asOfAt

lemma requireLocationId_of_row {row : StatementDocumentBalanceRow} {location : String}
    (h : statementRowLocationId env profile row = .ok location) (label : String) :
    requireLocationId location label = .ok location := by
  unfold statementRowLocationId at h
  dsimp only at h
  split_ifs at h
  · exact requireLocationId_of_parts h label
  · exact requireLocationId_of_parts h label
  · exact requireLocationId_of_parts h label

lemma instrumentId_ne_empty {row : StatementDocumentBalanceRow} {record : InstrumentRecord}
    (h : resolvedInstrument env adapter row = .ok (some record)) : record.instrumentId ≠ "" := by
  unfold resolvedInstrument at h
  split at h
  · rename_i resolved hresolved
    cases h
    exact resolved_instrumentId hresolved
  · cases h

/-- Sums of rows make references, at midnights and for timestamps. -/
lemma exists_reference {placed : PlacedRow} {key : AggregationKey} {quantity : Decimal}
    (h : Summable env adapter profile placed key quantity) {sum : RowSum}
    (hsum : sum.instrumentId = key.instrumentId)
    (hdated : key.asOfPrecision = .date → key.asOfAt.isMidnight = true) :
    ∃ reference, referenceOfSum profile key sum = .ok reference := by
  rcases h.instrument with ⟨record, hrecord, hinstrument⟩
  have hnonblank : sum.instrumentId ≠ "" := by
    rw [hsum, ← hinstrument]
    exact instrumentId_ne_empty hrecord
  have htarget : ∃ target, balanceTarget.make
      { source := profile.source
        locationId := key.locationId
        instrumentId := sum.instrumentId
        balanceKind := referenceBalanceKind key.balanceKind
        targetAt := key.asOfAt
        targetPrecision := key.asOfPrecision } = .ok target :=
    exists_postInit hnonblank (requireLocationId_of_row h.location _) hdated
  rcases htarget with ⟨target, htarget⟩
  rw [referenceOfSum, balanceTarget.build_of_make htarget]
  exact exists_build_sourceDocument rfl rfl ⟨rfl, rfl, rfl⟩ hdated

lemma isSum_of_reference {outcomes : List (PlacedRow × RowOutcome)} {key : AggregationKey}
    {sum : RowSum} {reference : AcceptedReference}
    (hlocation : requireLocationId key.locationId "balance target location_id" =
      .ok key.locationId)
    (hinstrument : sum.instrumentId = key.instrumentId)
    (hquantity : sum.quantity = (summedQuantities key outcomes).foldl (· + ·) 0)
    (h : referenceOfSum profile key sum = .ok reference) :
    IsSum profile outcomes key reference ∧
      (key.asOfPrecision = .date → key.asOfAt.isMidnight = true) := by
  rcases bind_eq_ok_iff.1 h with ⟨target, htarget, hreference⟩
  rcases postInit_eq_ok (balanceTarget.make_of_build htarget) with
    ⟨hsource, hlocation', hid, hkind, hat, hprecision⟩
  rcases (reference_postInit_eq_ok_iff _ _).1 (balanceReference.make_of_build hreference) with
    ⟨_, _, hbuilt⟩
  have htargetOf : reference.val.target = target := by rw [hbuilt]; rfl
  constructor
  · constructor
    · rw [hbuilt, ← hquantity]
      rfl
    · rw [htargetOf, hsource]
    · rw [htargetOf]
      exact Except.ok.inj (hlocation'.symm.trans hlocation)
    · rw [htargetOf, hid, hinstrument]
    · rw [htargetOf, hkind]
    · rw [htargetOf, hat]
  · intro hdate
    have hmidnight := target.val.target.midnight (hprecision.trans hdate)
    rwa [show target.val.target.instant = key.asOfAt from hat] at hmidnight

/-- The references are the sums under the keys of the summed rows, one for each. -/
lemma sums_of_references (hreads : Reads env adapter profile rows outcomes)
    {issues : List IssueRecord} {reviews : List NormalizationReviewRecord}
    {references : List AcceptedReference}
    (h : referencesFromAggregatedRows profile (stateAfter issues reviews outcomes).aggregated =
      .ok references) :
    ∃ sums : List (AggregationKey × AcceptedReference), sums.map Prod.snd = references ∧
      (sums.map Prod.fst).Nodup ∧
        (∀ s ∈ sums, IsSum profile outcomes s.1 s.2 ∧
          (s.1.asOfPrecision = .date → s.1.asOfAt.isMidnight = true)) ∧
          ∀ key, key ∈ sums.map Prod.fst ↔
            ∃ placed quantity, (placed, RowOutcome.summed key quantity) ∈ outcomes := by
  rcases mapM_ok_pairs h with ⟨pairs, hfst, hsnd, hpairs⟩
  have hperm : (pairs.map Prod.fst).Perm (stateAfter issues reviews outcomes).aggregated.entries :=
    hfst ▸ sortedOn_perm _ _
  have hkeys : ((pairs.map (fun p => (p.1.1, p.2))).map Prod.fst).Perm
      (stateAfter issues reviews outcomes).aggregated.keys := by
    have hmap := hperm.map Prod.fst
    rw [List.map_map] at hmap ⊢
    exact hmap
  refine ⟨pairs.map (fun p => (p.1.1, p.2)), ?_, ?_, ?_, ?_⟩
  · rw [← hsnd, List.map_map]
    rfl
  · exact hkeys.nodup_iff.2 (Dict.keys_nodup _)
  · intro s hs
    rcases List.mem_map.1 hs with ⟨⟨⟨key, sum⟩, reference⟩, hp, rfl⟩
    have hentry := hperm.subset (List.mem_map_of_mem hp)
    have hget := ((stateAfter issues reviews outcomes).aggregated.get?_eq_some_iff key sum).2 hentry
    have hsum := sum_stateAfter issues reviews outcomes key
    rw [hget, Option.map_some] at hsum
    split_ifs at hsum with hempty
    have hpair := Prod.mk.inj (Option.some.inj hsum)
    rcases mem_summedQuantities.1 hempty with ⟨placed, quantity, hmem⟩
    have hnew := (new_of_reads hreads hmem (by simp)).2
    cases hnew with
    | summed _ _ hsummable =>
        have hlocation := requireLocationId_of_row hsummable.location "balance target location_id"
        exact isSum_of_reference hlocation hpair.2 hpair.1 (hpairs _ hp)
  · intro key
    rw [hkeys.mem_iff, mem_keys_stateAfter]

lemma exists_references (hreads : Reads env adapter profile rows outcomes)
    (hdated : ∀ placed, IsLeader rows placed → ∀ asOfAt, placed.row.asOfAt = some asOfAt →
      placed.row.asOfPrecision = .date → asOfAt.isMidnight = true)
    (issues : List IssueRecord) (reviews : List NormalizationReviewRecord) :
    ∃ references, referencesFromAggregatedRows profile
      (stateAfter issues reviews outcomes).aggregated = .ok references := by
  refine exists_mapM_ok (fun entry hentry => ?_)
  rcases entry with ⟨key, sum⟩
  rw [mem_sortedOn] at hentry
  have hget := ((stateAfter issues reviews outcomes).aggregated.get?_eq_some_iff key sum).2 hentry
  have hsum := sum_stateAfter issues reviews outcomes key
  rw [hget, Option.map_some] at hsum
  split_ifs at hsum with hempty
  have hpair := Prod.mk.inj (Option.some.inj hsum)
  rcases mem_summedQuantities.1 hempty with ⟨placed, quantity, hmem⟩
  rcases new_of_reads hreads hmem (by simp) with ⟨hleader, hnew⟩
  cases hnew with
  | summed _ _ hsummable =>
      refine exists_reference hsummable hpair.2 (fun hdate => ?_)
      exact hdated placed hleader key.asOfAt hsummable.asOfAt
        (hsummable.asOfPrecision.trans hdate)

end Run

/-! ## Accounting for the rows -/

/-- Every row is summed into one reference, reported, or skipped because of a row of a document of
higher precedence that is summed; and no two references have one match key. -/
structure RowsAccounted (profile : StatementProfile) (rows : List PlacedRow)
    (issues : List IssueRecord) (batch : StatementBalanceReferenceBatch) : Prop where
  rows : batch.outcomes.map Prod.fst = rows
  summed : ∃ sums : List (AggregationKey × AcceptedReference),
    sums.map Prod.snd = batch.balanceReferences ∧ (sums.map Prod.fst).Nodup ∧
      (∀ s ∈ sums, IsSum profile batch.outcomes s.1 s.2) ∧
        ∀ key, key ∈ sums.map Prod.fst ↔
          ∃ placed quantity, (placed, RowOutcome.summed key quantity) ∈ batch.outcomes
  quantities : ∀ placed key quantity, (placed, RowOutcome.summed key quantity) ∈ batch.outcomes →
    placed.row.quantity = some quantity
  reported : batch.issues =
    issues ++ batch.outcomes.filterMap (fun outcome => outcome.2.issue?)
  skipped : ∀ placed, (placed, RowOutcome.skipped) ∈ batch.outcomes →
    ∃ used key quantity, (used, RowOutcome.summed key quantity) ∈ batch.outcomes ∧
      used.key = placed.key ∧ used.document < placed.document
  apart : (batch.balanceReferences.map (fun reference =>
    balanceTargetMatchKey reference.val.target.val)).Nodup

/-- Two keys under which the references would have one match key. -/
def SameTarget (key key' : AggregationKey) : Prop :=
  key.locationId = key'.locationId ∧ key.instrumentId = key'.instrumentId ∧
    normalizeBalanceKind (referenceBalanceKind key.balanceKind) =
      normalizeBalanceKind (referenceBalanceKind key'.balanceKind) ∧
        key.asOfAt = key'.asOfAt

/-- Rows that no check stops, and whose keys tell them apart as far as they must be. -/
structure RowsUnambiguous (env : StatementEnvironment) (adapter : StatementEvidenceAdapter P)
    (profile : StatementProfile) (rows : List PlacedRow) : Prop where
  located : ∀ placed ∈ rows,
    ∃ location, statementRowLocationId env profile placed.row = .ok location
  readable : ∀ placed, IsLeader rows placed → Readable env adapter profile placed
  /-- A row that is not the first of its key follows one that can be summed, in another document. -/
  followers : ∀ before placed after, rows = before ++ placed :: after →
    placed.key ∈ before.map PlacedRow.key →
      ∃ leader key quantity, IsLeader rows leader ∧ leader.key = placed.key ∧
        Summable env adapter profile leader key quantity ∧ leader.document < placed.document
  /-- First rows of their keys that are summed for one target agree on the document and the kind. -/
  targets : ∀ placed placed' key key' quantity quantity', IsLeader rows placed →
    IsLeader rows placed' → Summable env adapter profile placed key quantity →
      Summable env adapter profile placed' key' quantity' → SameTarget key key' → key = key'

lemma sameTarget_iff {outcomes : List (PlacedRow × RowOutcome)}
    {s s' : AggregationKey × AcceptedReference} (h : IsSum profile outcomes s.1 s.2)
    (h' : IsSum profile outcomes s'.1 s'.2) :
    balanceTargetMatchKey s.2.val.target.val = balanceTargetMatchKey s'.2.val.target.val ↔
      SameTarget s.1 s'.1 := by
  simp only [balanceTargetMatchKey, SameTarget, EmbeddingLike.apply_eq_iff_eq, Prod.mk.injEq,
    h.source, h'.source, h.location, h'.location, h.instrument, h'.instrument, h.balanceKind,
    h'.balanceKind, h.targetAt, h'.targetAt, true_and]

lemma extract_eq (selected : List RecognizedDocument) (issues : List IssueRecord)
    (reviews : List NormalizationReviewRecord) :
    extractSourceBalanceReferencesFromCollection env adapter profile selected issues reviews =
      balanceReferencesFromStatementDocuments env adapter profile (documentsByPrecedence selected)
        issues reviews := by
  unfold extractSourceBalanceReferencesFromCollection
  split_ifs with hempty
  · rw [hempty]
    rfl
  · rfl

lemma batch_eq_ok_iff {documents : List RecognizedDocument} {issues : List IssueRecord}
    {reviews : List NormalizationReviewRecord} {batch : StatementBalanceReferenceBatch} :
    balanceReferencesFromStatementDocuments env adapter profile documents issues reviews =
        .ok batch ↔
      ∃ outcomes references, Reads env adapter profile (placedRows documents) outcomes ∧
        referencesFromAggregatedRows profile (stateAfter issues reviews outcomes).aggregated =
          .ok references ∧
          batch = ⟨references, (stateAfter issues reviews outcomes).issues,
            (stateAfter issues reviews outcomes).reviews, outcomes⟩ := by
  simp only [balanceReferencesFromStatementDocuments, bind_eq_ok_iff, foldlM_referenceStep]
  constructor
  · rintro ⟨_, ⟨outcomes, hreads, rfl⟩, references, hreferences, hbatch⟩
    refine ⟨outcomes, references, hreads, hreferences, ?_⟩
    rw [← Except.ok.inj hbatch, outcomes_stateAfter]
  · rintro ⟨outcomes, references, hreads, hreferences, rfl⟩
    refine ⟨_, ⟨outcomes, hreads, rfl⟩, references, hreferences, ?_⟩
    rw [outcomes_stateAfter]
    rfl

section Accounting

variable {rows : List PlacedRow} {outcomes : List (PlacedRow × RowOutcome)}
  {issues : List IssueRecord} {reviews : List NormalizationReviewRecord}
  {references : List AcceptedReference}

lemma summable_of_reads (hreads : Reads env adapter profile rows outcomes) {placed : PlacedRow}
    {key : AggregationKey} {quantity : Decimal}
    (hmem : (placed, RowOutcome.summed key quantity) ∈ outcomes) :
    IsLeader rows placed ∧ Summable env adapter profile placed key quantity := by
  rcases new_of_reads hreads hmem (by simp) with ⟨hleader, hnew⟩
  cases hnew with
  | summed _ _ h => exact ⟨hleader, h⟩

/-- A row that can be summed is summed if it is the first of its key. -/
lemma summed_of_leader (hreads : Reads env adapter profile rows outcomes) {placed : PlacedRow}
    {key : AggregationKey} {quantity : Decimal} (hleader : IsLeader rows placed)
    (h : Summable env adapter profile placed key quantity) :
    (placed, RowOutcome.summed key quantity) ∈ outcomes := by
  rcases outcome_of_leader hreads hleader with ⟨outcome, hmem, hnew⟩
  have hlocated : ∃ location, statementRowLocationId env profile placed.row = .ok location :=
    ⟨_, h.location⟩
  have hok := rowOutcome_new.2 ⟨hlocated, hnew⟩
  rw [rowOutcome_new.2 ⟨hlocated, .summed key quantity h⟩] at hok
  rwa [Except.ok.inj hok]

lemma readable_of_reads (hreads : Reads env adapter profile rows outcomes)
    (hreferences : referencesFromAggregatedRows profile
      (stateAfter issues reviews outcomes).aggregated = .ok references)
    {placed : PlacedRow} (hleader : IsLeader rows placed) :
    Readable env adapter profile placed := by
  rcases outcome_of_leader hreads hleader with ⟨outcome, hmem, hnew⟩
  refine ⟨?_, claimed_of_new hnew⟩
  cases outcome with
  | skipped => cases hnew
  | reported issue review => exact dated_of_reported hnew
  | summed key quantity =>
      -- The reference of the sum has been built, so its time is a midnight if it is a date.
      rcases sums_of_references hreads hreferences with ⟨sums, _, _, hsums, hkeys⟩
      rcases List.mem_map.1 ((hkeys key).2 ⟨placed, quantity, hmem⟩) with ⟨s, hs, rfl⟩
      rcases summable_of_reads hreads hmem with ⟨_, hsummable⟩
      intro asOfAt hasOf hdate
      rw [Option.some.inj (hasOf.symm.trans hsummable.asOfAt)]
      exact (hsums s hs).2 (hsummable.asOfPrecision.symm.trans hdate)

lemma unambiguous_of_accounted (hreads : Reads env adapter profile rows outcomes)
    (hreferences : referencesFromAggregatedRows profile
      (stateAfter issues reviews outcomes).aggregated = .ok references)
    (h : RowsAccounted profile rows issues
      ⟨references, (stateAfter issues reviews outcomes).issues,
        (stateAfter issues reviews outcomes).reviews, outcomes⟩) :
    RowsUnambiguous env adapter profile rows := by
  refine ⟨located_of_reads hreads, fun placed => readable_of_reads hreads hreferences, ?_, ?_⟩
  · intro before placed after hrows hseen
    rcases h.skipped placed (skipped_of_seen hreads hrows hseen) with
      ⟨used, key, quantity, hused, hkey, hdocument⟩
    rcases summable_of_reads hreads hused with ⟨hleader, hsummable⟩
    exact ⟨used, key, quantity, hleader, hkey, hsummable, hdocument⟩
  · intro placed placed' key key' quantity quantity' hleader hleader' hsummable hsummable' htarget
    rcases sums_of_references hreads hreferences with ⟨sums, hsnd, _, hsums, hkeys⟩
    have hmem := summed_of_leader hreads hleader hsummable
    have hmem' := summed_of_leader hreads hleader' hsummable'
    rcases List.mem_map.1 ((hkeys key).2 ⟨placed, quantity, hmem⟩) with ⟨s, hs, rfl⟩
    rcases List.mem_map.1 ((hkeys key').2 ⟨placed', quantity', hmem'⟩) with ⟨s', hs', rfl⟩
    have hnodup := h.apart
    dsimp only at hnodup
    rw [← hsnd, List.map_map] at hnodup
    have hsame := List.inj_on_of_nodup_map hnodup hs hs'
      ((sameTarget_iff (hsums s hs).1 (hsums s' hs').1).2 htarget)
    rw [hsame]

lemma accounted_of_unambiguous (hreads : Reads env adapter profile rows outcomes)
    (hreferences : referencesFromAggregatedRows profile
      (stateAfter issues reviews outcomes).aggregated = .ok references)
    (h : RowsUnambiguous env adapter profile rows) :
    RowsAccounted profile rows issues
      ⟨references, (stateAfter issues reviews outcomes).issues,
        (stateAfter issues reviews outcomes).reviews, outcomes⟩ := by
  rcases sums_of_references hreads hreferences with ⟨sums, hsnd, hnodup, hsums, hkeys⟩
  refine ⟨rows_of_reads hreads, ⟨sums, hsnd, hnodup, fun s hs => (hsums s hs).1, hkeys⟩, ?_,
    issues_stateAfter issues reviews outcomes, ?_, ?_⟩
  · intro placed key quantity hmem
    exact (summable_of_reads hreads hmem).2.quantity
  · intro placed hskipped
    rcases skipped_of_reads hreads hskipped with ⟨before, after, hrows, hseen⟩
    rcases h.followers before placed after hrows hseen with
      ⟨leader, key, quantity, hleader, hkey, hsummable, hdocument⟩
    exact ⟨leader, key, quantity, summed_of_leader hreads hleader hsummable, hkey, hdocument⟩
  · dsimp only
    rw [← hsnd, List.map_map]
    have hdistinct : sums.Nodup := hnodup.of_map
    refine hdistinct.map_on (fun s hs s' hs' hmatch => ?_)
    have htarget := (sameTarget_iff (hsums s hs).1 (hsums s' hs').1).1 hmatch
    rcases (hkeys s.1).1 (List.mem_map_of_mem hs) with ⟨placed, quantity, hmem⟩
    rcases (hkeys s'.1).1 (List.mem_map_of_mem hs') with ⟨placed', quantity', hmem'⟩
    rcases summable_of_reads hreads hmem with ⟨hleader, hsummable⟩
    rcases summable_of_reads hreads hmem' with ⟨hleader', hsummable'⟩
    have hkey := h.targets placed placed' s.1 s'.1 quantity quantity' hleader hleader' hsummable
      hsummable' htarget
    exact List.inj_on_of_nodup_map hnodup hs hs' hkey

end Accounting

/-- Every row is accounted for, and no two references match one another, exactly when no check stops
a row and the keys of the rows are unambiguous. -/
theorem rowsAccounted_iff (env : StatementEnvironment) (adapter : StatementEvidenceAdapter P)
    (profile : StatementProfile) (selected : List RecognizedDocument) (issues : List IssueRecord)
    (reviews : List NormalizationReviewRecord) :
    (∃ batch, extractSourceBalanceReferencesFromCollection env adapter profile selected issues
        reviews = .ok batch ∧
      RowsAccounted profile (placedRows (documentsByPrecedence selected)) issues batch) ↔
      RowsUnambiguous env adapter profile (placedRows (documentsByPrecedence selected)) := by
  rw [extract_eq]
  constructor
  · rintro ⟨batch, hbatch, haccounted⟩
    rcases batch_eq_ok_iff.1 hbatch with ⟨outcomes, references, hreads, hreferences, rfl⟩
    exact unambiguous_of_accounted hreads hreferences haccounted
  · intro h
    rcases exists_reads h.located h.readable with ⟨outcomes, hreads⟩
    rcases exists_references hreads (fun placed hleader => (h.readable placed hleader).dated)
      issues reviews with ⟨references, hreferences⟩
    exact ⟨_, batch_eq_ok_iff.2 ⟨outcomes, references, hreads, hreferences, rfl⟩,
      accounted_of_unambiguous hreads hreferences h⟩

end

/-- Texts are taken as they are. -/
def plainEnvironment : StatementEnvironment where
  sha256 := id
  subjectText := fun _ => ""
  repr := id
  upper := id
  lower := id
  casefold := id

/-- An adapter whose assets are symbols of its venue. -/
def symbolAdapter : StatementEvidenceAdapter Unit where
  adapterId := "coinbase"
  displayName := "Coinbase"
  matchStatementDocument := fun _ _ => 1
  parseStatementDocument := fun _ _ => { statementAsOfAt := none, rows := [], recognized := true }
  resolveStatementInstrumentClaims := fun row =>
    [⟨"symbol", row.asset, some "coinbase", .crypto, row.asset, none⟩]

def coinbaseProfile : StatementProfile := ⟨"coinbase", "coinbase", []⟩

def aprilEntry : StatementInventoryEntry where
  relativePath := "april.pdf"
  suffix := ".pdf"
  captureUid := "capture"
  named := by decide

/-- A balance of April, on a line of the statement. -/
def aprilRow (quantity : Decimal) (line : String) : StatementDocumentBalanceRow where
  account := ""
  wallet := ""
  balanceKind := "asset_balance"
  asset := "btc"
  quantity := some quantity
  asOfAt := some ⟨2024, 4, 30, 0, 0, 0, 0, Instant.isDay_endOfApril⟩
  asOfPrecision := .date
  rawRowRef := line

/-- A statement that lists one asset on two lines. -/
def twoLines : List RecognizedDocument :=
  [(aprilEntry,
    { statementAsOfAt := some ⟨2024, 4, 30, 0, 0, 0, 0, Instant.isDay_endOfApril⟩
      rows := [aprilRow 0 "line:1", aprilRow ⟨1, 0, Decimal.one_canonical⟩ "line:2"] })]

/-- The second line is skipped because of the first one. -/
theorem twoLines_not_accounted :
    ¬∃ batch, extractSourceBalanceReferencesFromCollection plainEnvironment symbolAdapter
        coinbaseProfile twoLines [] [] = .ok batch ∧
      RowsAccounted coinbaseProfile (placedRows (documentsByPrecedence twoLines)) [] batch := by
  rintro ⟨batch, hbatch, haccounted⟩
  rw [extract_eq] at hbatch
  rcases batch_eq_ok_iff.1 hbatch with ⟨outcomes, references, hreads, _, rfl⟩
  have hrows : placedRows (documentsByPrecedence twoLines) =
      [⟨0, aprilEntry, aprilRow 0 "line:1"⟩] ++ ⟨0, aprilEntry, aprilRow ⟨1, 0, Decimal.one_canonical⟩ "line:2"⟩ :: [] := rfl
  have hskipped := skipped_of_seen hreads hrows List.mem_cons_self
  rcases haccounted.skipped _ hskipped with ⟨used, _, _, _, _, hdocument⟩
  exact Nat.not_lt_zero _ hdocument

end Evidence
end Tallylot
