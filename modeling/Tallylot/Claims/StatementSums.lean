import Tallylot.Claims.ClaimedPositions
import Tallylot.Data.Firsts
import Tallylot.Evidence.RowAccounting

/-!
# StatementSums — the balance references of statement rows

The references add up the rows that are the first of their precedence key, under the keys of the
sums.  A group of references has what its rows state, less what the skipped rows state and what
rounding takes from the sums (`lostQuantity`).
-/

namespace Tallylot
namespace Claims

open Data Evidence Balances
open Domain hiding EvidenceObservationRecord EvidenceSet

/-! ## Rows -/

/-- A row that is claimed at a position: its time, labels, balance kind and symbol are there, and the
labels and the symbol name a location and an instrument. -/
structure PositionedRow (env : StatementEnvironment) (sourceSlug : String)
    (row : StatementDocumentBalanceRow) : Prop where
  asOfAt : row.asOfAt ≠ none
  account : row.account ≠ ""
  wallet : row.wallet ≠ ""
  balanceKind : row.balanceKind ≠ ""
  asset : isBlank row.asset = false
  located : ∃ locationRef, statementLocationRef env sourceSlug row.account row.wallet =
    .ok locationRef
  resolved : ∃ instrumentId, symbolInstrumentId env.toKernelEnvironment row.asset = some instrumentId

/-- A row that both ways can read. -/
structure ClaimableRow (env : StatementEnvironment) (sourceSlug : String)
    (row : StatementDocumentBalanceRow) : Prop extends PositionedRow env sourceSlug row where
  quantity : row.quantity ≠ none

def selectedRows (selected : List RecognizedDocument) : List StatementDocumentBalanceRow :=
  selected.flatMap (fun document => document.2.rows)

lemma rowPlaces_map_row (selected : List RecognizedDocument) :
    (rowPlaces selected).map RowPlace.row = selectedRows selected := by
  rw [rowPlaces, selectedRows, List.map_flatMap]
  refine List.flatMap_congr (fun document _ => ?_)
  rw [documentPlaces, List.map_map]
  exact List.zipIdx_map_fst 0 document.2.rows

lemma placedRows_map_row (documents : List RecognizedDocument) :
    (placedRows documents).map PlacedRow.row = selectedRows documents := by
  rw [placedRows, selectedRows, List.map_flatMap]
  have hrows : ∀ document : RecognizedDocument × Nat,
      (document.1.2.rows.map (fun row => (⟨document.2, document.1.1, row⟩ : PlacedRow))).map
        PlacedRow.row = document.1.2.rows := by
    intro document
    rw [List.map_map]
    exact List.map_id _
  simp only [hrows]
  calc
    documents.zipIdx.flatMap (fun document => document.1.2.rows)
        = (documents.zipIdx.map Prod.fst).flatMap (fun document => document.2.rows) := by
          rw [List.flatMap_map]
    _ = documents.flatMap (fun document => document.2.rows) := by rw [List.zipIdx_map_fst]

/-- The rows are read in another order than the documents are collected. -/
lemma placedRows_perm (selected : List RecognizedDocument) :
    ((placedRows (documentsByPrecedence selected)).map PlacedRow.row).Perm
      (selectedRows selected) := by
  rw [placedRows_map_row]
  have hdocuments : (documentsByPrecedence selected).Perm selected :=
    (List.reverse_perm _).trans ((sortedOn_perm _ _).trans (List.reverse_perm selected))
  exact hdocuments.flatMap_right _

/-! ## Groups and keys -/

/-- The key under which a row is summed, if its location, instrument and time are known. -/
def sumKey (env : StatementEnvironment) (sourceSlug : String) (placed : PlacedRow) :
    Option AggregationKey :=
  match statementLocationRef env sourceSlug placed.row.account placed.row.wallet,
      symbolInstrumentId env.toKernelEnvironment placed.row.asset, placed.row.asOfAt with
  | .ok locationRef, some instrumentId, some asOfAt =>
      some
        { locationId := locationRef
          instrumentId := instrumentId
          balanceKind := placed.row.balanceKind
          asOfAt := asOfAt
          asOfPrecision := placed.row.asOfPrecision
          provenanceRef := (placed.entry.documentProvenance "").toReferenceRef }
  | _, _, _ => none

/-- The group in which the sum of a key is counted. -/
def keyGroup (key : AggregationKey) : BalanceGroup :=
  (positionSubjectRef filingBeneficialOwnerRef key.locationId key.instrumentId, key.asOfAt)

/-- The group of a row. -/
def rowGroup (env : StatementEnvironment) (sourceSlug : String)
    (row : StatementDocumentBalanceRow) : Option BalanceGroup :=
  namedGroup env sourceSlug row.account row.wallet row.asset row.asOfAt

def rowQuantity (row : StatementDocumentBalanceRow) : ℚ := (row.quantity.getD 0).toRat

/-- The quantities of the rows of a key, in the order of the rows. -/
def keyQuantities (env : StatementEnvironment) (sourceSlug : String) (key : AggregationKey)
    (rows : List PlacedRow) : List Decimal :=
  (rows.filter (fun placed => sumKey env sourceSlug placed = some key)).filterMap
    (fun placed => placed.row.quantity)

/-- The sum under a key, rounded to the precision of the decimal context at every row. -/
def roundedSum (env : StatementEnvironment) (sourceSlug : String) (rows : List PlacedRow)
    (key : AggregationKey) : ℚ :=
  ((keyQuantities env sourceSlug key rows).foldl (· + ·) 0).toRat

/-- What rounding takes from the sum under a key. -/
def roundingLoss (env : StatementEnvironment) (sourceSlug : String) (rows : List PlacedRow)
    (key : AggregationKey) : ℚ :=
  groupTotal (sumKey env sourceSlug) (fun placed => rowQuantity placed.row) key rows -
    roundedSum env sourceSlug rows key

/-- The rows that the references read: the first of every precedence key. -/
def firstRows (rows : List PlacedRow) : List PlacedRow := firstsBy PlacedRow.key [] rows

/-- The rows that the references skip: they repeat the precedence key of a row before them. -/
def repeatedRows (rows : List PlacedRow) : List PlacedRow := repeatsBy PlacedRow.key [] rows

/-- The keys under which rows are summed, each once. -/
def sumKeys (env : StatementEnvironment) (sourceSlug : String) (rows : List PlacedRow) :
    List AggregationKey :=
  ((firstRows rows).filterMap (sumKey env sourceSlug)).dedup

/-- What the references leave out of a group: the repeated rows, and what rounding takes from the
sums of the others. -/
def lostQuantity (env : StatementEnvironment) (sourceSlug : String) (rows : List PlacedRow)
    (g : BalanceGroup) : ℚ :=
  groupTotal (fun placed => rowGroup env sourceSlug placed.row)
      (fun placed => rowQuantity placed.row) g (repeatedRows rows) +
    (((sumKeys env sourceSlug rows).filter (fun key => keyGroup key = g)).map
      (roundingLoss env sourceSlug (firstRows rows))).sum

/-- The position and the instant of a balance reference. -/
def referenceGroup (reference : AcceptedReference) : BalanceGroup :=
  (positionSubjectRef filingBeneficialOwnerRef reference.val.target.val.locationId
    reference.val.target.val.instrumentId, reference.val.target.val.targetAt)

def referenceQuantity (reference : AcceptedReference) : ℚ := reference.val.quantity.toRat

section Reading

variable {P : Type} {env : StatementEnvironment} {hooks : StatementDocumentAdapter P}
  {profile : StatementProfile} {rows : List PlacedRow} {outcomes : List (PlacedRow × RowOutcome)}

/-- Both ways locate a row alike. -/
lemma statementRowLocationId_eq (row : StatementDocumentBalanceRow) :
    statementRowLocationId env profile row =
      statementLocationRef env profile.source row.account row.wallet := by
  unfold statementRowLocationId statementLocationRef matchesSourceLabel
  simp only [strip_strip, decide_eq_false_iff_not, ne_eq]

lemma rowGroup_eq_map_sumKey (placed : PlacedRow) {sourceSlug : String} :
    rowGroup env sourceSlug placed.row = (sumKey env sourceSlug placed).map keyGroup := by
  unfold rowGroup namedGroup sumKey
  cases statementLocationRef env sourceSlug placed.row.account placed.row.wallet with
  | error e => rfl
  | ok locationRef =>
      cases symbolInstrumentId env.toKernelEnvironment placed.row.asset with
      | none => rfl
      | some instrumentId => cases placed.row.asOfAt <;> rfl

lemma sumKey_eq_some {placed : PlacedRow} {sourceSlug : String} {key : AggregationKey} :
    sumKey env sourceSlug placed = some key ↔
      statementLocationRef env sourceSlug placed.row.account placed.row.wallet =
          .ok key.locationId ∧
        symbolInstrumentId env.toKernelEnvironment placed.row.asset = some key.instrumentId ∧
          placed.row.asOfAt = some key.asOfAt ∧ placed.row.balanceKind = key.balanceKind ∧
            placed.row.asOfPrecision = key.asOfPrecision ∧
              (placed.entry.documentProvenance "").toReferenceRef = key.provenanceRef := by
  unfold sumKey
  constructor
  · intro h
    split at h
    · rename_i hlocation hinstrument hasOf
      cases h
      exact ⟨hlocation, hinstrument, hasOf, rfl, rfl, rfl⟩
    · cases h
  · rintro ⟨hlocation, hinstrument, hasOf, hkind, hprecision, hprovenance⟩
    rw [hlocation, hinstrument, hasOf, hkind, hprecision, hprovenance]

/-- A row is summed under its key. -/
lemma summable_iff {placed : PlacedRow} {key : AggregationKey} {quantity : Decimal} :
    Summable env (coinbaseStatementAdapter env.toKernelEnvironment hooks) profile placed key
        quantity ↔
      placed.row.quantity = some quantity ∧ sumKey env profile.source placed = some key := by
  rw [sumKey_eq_some]
  constructor
  · intro h
    have hlocation := h.location
    rw [statementRowLocationId_eq] at hlocation
    exact ⟨h.quantity, hlocation, resolvedInstrument_coinbase.1 h.instrument, h.asOfAt,
      h.balanceKind, h.asOfPrecision, h.provenanceRef⟩
  · rintro ⟨hquantity, hlocation, hinstrument, hasOf, hkind, hprecision, hprovenance⟩
    rw [← statementRowLocationId_eq] at hlocation
    exact ⟨hquantity, hasOf, hlocation, resolvedInstrument_coinbase.2 hinstrument, hkind,
      hprecision, hprovenance⟩

lemma ClaimableRow.summable {placed : PlacedRow}
    (h : ClaimableRow env profile.source placed.row) :
    ∃ key quantity, Summable env (coinbaseStatementAdapter env.toKernelEnvironment hooks) profile
      placed key quantity := by
  rcases Option.ne_none_iff_exists'.1 h.quantity with ⟨quantity, hquantity⟩
  rcases Option.ne_none_iff_exists'.1 h.asOfAt with ⟨asOfAt, hasOf⟩
  rcases h.located with ⟨locationRef, hlocated⟩
  rcases h.resolved with ⟨instrumentId, hid⟩
  refine ⟨⟨locationRef, instrumentId, placed.row.balanceKind, asOfAt, placed.row.asOfPrecision,
    (placed.entry.documentProvenance "").toReferenceRef⟩, quantity, summable_iff.2 ⟨hquantity, ?_⟩⟩
  exact sumKey_eq_some.2 ⟨hlocated, hid, hasOf, rfl, rfl, rfl⟩

/-- The quantities that are summed under a key are those of the first rows of their precedence
keys. -/
theorem summedQuantities_eq
    (hreads : Reads env (coinbaseStatementAdapter env.toKernelEnvironment hooks) profile rows
      outcomes)
    (hrows : ∀ placed ∈ rows, ClaimableRow env profile.source placed.row) (key : AggregationKey) :
    summedQuantities key outcomes =
      keyQuantities env profile.source key (firstRows rows) := by
  unfold firstRows
  induction hreads with
  | nil => rfl
  | @snoc rows outcomes placed outcome hreads houtcome ih =>
      have hbefore := ih (fun other hother => hrows other (List.mem_append_left _ hother))
      have hclaimable := hrows placed (List.mem_append_right _ List.mem_cons_self)
      have hsplit : summedQuantities key (outcomes ++ [(placed, outcome)]) =
          summedQuantities key outcomes ++ summedQuantities key [(placed, outcome)] :=
        List.filterMap_append
      rw [hsplit, hbefore, firstsBy_concat]
      by_cases hseen : placed.key ∈ rows.map PlacedRow.key
      · -- A row of a key that was read before is skipped.
        rw [decide_eq_true hseen] at houtcome
        rw [(rowOutcome_seen.1 houtcome).2, if_pos (Or.inr hseen), List.append_nil]
        exact List.append_nil _
      · rcases @ClaimableRow.summable _ _ hooks _ _ hclaimable with ⟨key', quantity, hsummable⟩
        have hnew := rowOutcome_new.2 ⟨⟨_, hsummable.location⟩, .summed key' quantity hsummable⟩
        rw [decide_eq_false hseen] at houtcome
        rw [← Except.ok.inj (hnew.symm.trans houtcome),
          if_neg (not_or.2 ⟨List.not_mem_nil, hseen⟩), keyQuantities, keyQuantities,
          List.filter_append, List.filterMap_append]
        refine congrArg _ ?_
        rcases summable_iff.1 hsummable with ⟨hquantity, hkey⟩
        by_cases hsame : key' = key
        · simp [summedQuantities, hsame, hkey, hquantity]
        · simp [summedQuantities, hsame, hkey]

lemma mem_sumKeys {sourceSlug : String} {key : AggregationKey} :
    key ∈ sumKeys env sourceSlug rows ↔
      ∃ placed ∈ firstRows rows, sumKey env sourceSlug placed = some key := by
  rw [sumKeys, List.mem_dedup, List.mem_filterMap]

lemma keyQuantities_ne_nil {sourceSlug : String}
    (hrows : ∀ placed ∈ rows, ClaimableRow env sourceSlug placed.row) {key : AggregationKey} :
    keyQuantities env sourceSlug key rows ≠ [] ↔
      ∃ placed ∈ rows, sumKey env sourceSlug placed = some key := by
  constructor
  · intro hne
    rcases List.exists_mem_of_ne_nil _ hne with ⟨quantity, hquantity⟩
    rcases List.mem_filterMap.1 hquantity with ⟨placed, hplaced, _⟩
    rcases List.mem_filter.1 hplaced with ⟨hmem, hkey⟩
    exact ⟨placed, hmem, of_decide_eq_true hkey⟩
  · rintro ⟨placed, hmem, hkey⟩
    rcases Option.ne_none_iff_exists'.1 (hrows placed hmem).quantity with ⟨quantity, hquantity⟩
    have hquantities : quantity ∈ keyQuantities env sourceSlug key rows :=
      List.mem_filterMap.2 ⟨placed, List.mem_filter.2 ⟨hmem, decide_eq_true hkey⟩, hquantity⟩
    exact List.ne_nil_of_mem hquantities

/-- The references of claimable rows: one for each key, with the rounded sum of its first rows. -/
theorem references_of_rows
    (hreads : Reads env (coinbaseStatementAdapter env.toKernelEnvironment hooks) profile rows
      outcomes)
    (hrows : ∀ placed ∈ rows, ClaimableRow env profile.source placed.row)
    {issues : List IssueRecord} {reviews : List NormalizationReviewRecord}
    {references : List AcceptedReference}
    (hreferences : referencesFromAggregatedRows profile
      (stateAfter issues reviews outcomes).aggregated = .ok references) :
    (references.map (fun r => (referenceGroup r, referenceQuantity r))).Perm
      ((sumKeys env profile.source rows).map (fun key =>
        (keyGroup key, roundedSum env profile.source (firstRows rows) key))) := by
  rcases sums_of_references hreads hreferences with ⟨sums, hsnd, hnodup, hsums, hkeys⟩
  have hfirsts : ∀ placed ∈ firstRows rows,
      ClaimableRow env profile.source placed.row :=
    fun placed hplaced => hrows placed (mem_of_mem_firstsBy _ hplaced)
  have hperm : (sums.map Prod.fst).Perm (sumKeys env profile.source rows) := by
    refine (List.perm_ext_iff_of_nodup hnodup (List.nodup_dedup _)).2 (fun key => ?_)
    rw [hkeys key, ← mem_summedQuantities, summedQuantities_eq hreads hrows,
      keyQuantities_ne_nil hfirsts]
    exact mem_sumKeys.symm
  have hread : references.map (fun r => (referenceGroup r, referenceQuantity r)) =
      (sums.map Prod.fst).map (fun key =>
        (keyGroup key, roundedSum env profile.source (firstRows rows) key)) := by
    rw [← hsnd, List.map_map, List.map_map]
    refine List.map_congr_left (fun s hs => ?_)
    have hsum := (hsums s hs).1
    rw [Function.comp_apply, Function.comp_apply, referenceGroup, referenceQuantity, keyGroup,
      hsum.location, hsum.instrument, hsum.targetAt, hsum.quantity,
      summedQuantities_eq hreads hrows, roundedSum]
  rw [hread]
  exact hperm.map _

/-- Claimable rows whose dates are midnights make references. -/
theorem exists_batch
    (hrows : ∀ placed ∈ rows, ClaimableRow env profile.source placed.row)
    (hdated : ∀ placed ∈ rows, ∀ asOfAt, placed.row.asOfAt = some asOfAt →
      placed.row.asOfPrecision = .date → asOfAt.isMidnight = true)
    (issues : List IssueRecord) (reviews : List NormalizationReviewRecord) :
    ∃ outcomes references, Reads env (coinbaseStatementAdapter env.toKernelEnvironment hooks)
        profile rows outcomes ∧
      referencesFromAggregatedRows profile (stateAfter issues reviews outcomes).aggregated =
        .ok references := by
  have hleader : ∀ placed, IsLeader rows placed → placed ∈ rows := by
    rintro placed ⟨before, after, hsplit, _⟩
    rw [hsplit]
    exact List.mem_append_right _ List.mem_cons_self
  have hreads : ∃ outcomes, Reads env (coinbaseStatementAdapter env.toKernelEnvironment hooks)
      profile rows outcomes := by
    refine exists_reads (fun placed hplaced => ?_) (fun placed hplaced => ⟨?_, fun _ _ => ?_⟩)
    · rcases @ClaimableRow.summable _ _ hooks _ _ (hrows placed hplaced) with ⟨key, _, hsummable⟩
      exact ⟨key.locationId, hsummable.location⟩
    · exact hdated placed (hleader placed hplaced)
    · rcases @ClaimableRow.summable _ _ hooks _ _ (hrows placed (hleader placed hplaced)) with
        ⟨_, _, hsummable⟩
      rcases hsummable.instrument with ⟨record, hrecord, _⟩
      exact ⟨some record, hrecord⟩
  rcases hreads with ⟨outcomes, hreads⟩
  rcases exists_references hreads (fun placed hplaced => hdated placed (hleader placed hplaced))
    issues reviews with ⟨references, hreferences⟩
  exact ⟨outcomes, references, hreads, hreferences⟩

/-! ## What is lost -/

/-- The rows of a group state what the references state, and what is lost. -/
theorem groupTotal_rows (env : StatementEnvironment) (sourceSlug : String) (rows : List PlacedRow)
    (g : BalanceGroup) :
    groupTotal (fun placed => rowGroup env sourceSlug placed.row)
        (fun placed => rowQuantity placed.row) g rows =
      groupTotal (fun key => some (keyGroup key))
          (roundedSum env sourceSlug (firstRows rows)) g (sumKeys env sourceSlug rows) +
        lostQuantity env sourceSlug rows g := by
  have hsplit := @groupTotal_perm _ _ _ _ _ (fun placed => rowGroup env sourceSlug placed.row)
    (fun placed => rowQuantity placed.row) g _ _ (firstsBy_append_repeatsBy PlacedRow.key [] rows)
  rw [groupTotal_append] at hsplit
  set keys := (sumKeys env sourceSlug rows).filter (fun key => keyGroup key = g) with hkeys
  have hfirsts : groupTotal (fun placed => rowGroup env sourceSlug placed.row)
      (fun placed => rowQuantity placed.row) g (firstRows rows) =
        (keys.map (fun key => groupTotal (sumKey env sourceSlug)
          (fun placed => rowQuantity placed.row) key (firstRows rows))).sum := by
    apply groupTotal_keys
    · exact fun placed _ => rowGroup_eq_map_sumKey placed
    · exact List.nodup_dedup _
    · exact fun placed hplaced key hkey => mem_sumKeys.2 ⟨placed, hplaced, hkey⟩
  have hrounded : groupTotal (fun key => some (keyGroup key))
      (roundedSum env sourceSlug (firstRows rows)) g (sumKeys env sourceSlug rows) =
        (keys.map (roundedSum env sourceSlug (firstRows rows))).sum := by
    simp only [groupTotal, Option.some.injEq, hkeys]
  have hlosses : (keys.map (fun key => groupTotal (sumKey env sourceSlug)
      (fun placed => rowQuantity placed.row) key (firstRows rows))).sum =
        (keys.map (roundedSum env sourceSlug (firstRows rows))).sum +
          (keys.map (roundingLoss env sourceSlug (firstRows rows))).sum := by
    rw [← List.sum_map_add]
    refine congrArg List.sum (List.map_congr_left (fun key _ => ?_))
    rw [roundingLoss, add_sub_cancel]
  calc
    groupTotal (fun placed => rowGroup env sourceSlug placed.row)
          (fun placed => rowQuantity placed.row) g rows
        = groupTotal (fun placed => rowGroup env sourceSlug placed.row)
            (fun placed => rowQuantity placed.row) g (firstRows rows) +
          groupTotal (fun placed => rowGroup env sourceSlug placed.row)
            (fun placed => rowQuantity placed.row) g (repeatedRows rows) := hsplit.symm
    _ = groupTotal (fun key => some (keyGroup key))
            (roundedSum env sourceSlug (firstRows rows)) g (sumKeys env sourceSlug rows) +
          lostQuantity env sourceSlug rows g := by
          rw [hfirsts, hlosses, hrounded, lostQuantity, ← hkeys]
          ring

/-- The rows are in the groups of the keys. -/
theorem exists_row_iff (env : StatementEnvironment) (sourceSlug : String) (rows : List PlacedRow)
    (g : BalanceGroup) :
    (∃ placed ∈ rows, rowGroup env sourceSlug placed.row = some g) ↔
      ∃ key ∈ sumKeys env sourceSlug rows, keyGroup key = g := by
  constructor
  · rintro ⟨placed, hplaced, hgroup⟩
    -- The first row of the precedence key is in the same group.
    rcases exists_firstsBy PlacedRow.key hplaced List.not_mem_nil with ⟨first, hfirst, hkey⟩
    have hsame : rowGroup env sourceSlug first.row = some g := by
      have hparts := PrecedenceKey.mk.inj hkey
      rw [← hgroup, rowGroup, rowGroup, hparts.1, hparts.2.1, hparts.2.2.2.1, hparts.2.2.2.2.1]
    rw [rowGroup_eq_map_sumKey, Option.map_eq_some_iff] at hsame
    rcases hsame with ⟨key, hsumKey, hg⟩
    exact ⟨key, mem_sumKeys.2 ⟨first, hfirst, hsumKey⟩, hg⟩
  · rintro ⟨key, hkey, rfl⟩
    rcases mem_sumKeys.1 hkey with ⟨placed, hplaced, hsumKey⟩
    refine ⟨placed, mem_of_mem_firstsBy _ hplaced, ?_⟩
    rw [rowGroup_eq_map_sumKey, hsumKey, Option.map_some]

lemma sum_keyQuantities {sourceSlug : String} {rows : List PlacedRow} {key : AggregationKey} :
    ((keyQuantities env sourceSlug key rows).map Decimal.toRat).sum =
      groupTotal (sumKey env sourceSlug) (fun placed => rowQuantity placed.row) key rows := by
  rw [keyQuantities, groupTotal]
  induction rows.filter (fun placed => sumKey env sourceSlug placed = some key) with
  | nil => rfl
  | cons placed rows ih =>
      rw [List.map_cons, List.sum_cons, ← ih, List.filterMap_cons, rowQuantity]
      cases placed.row.quantity with
      | none => simp
      | some quantity => simp

/-- Nothing is lost where no row repeats another and the sums need no rounding. -/
theorem lostQuantity_eq_zero {sourceSlug : String} {rows : List PlacedRow}
    (hdistinct : (rows.map PlacedRow.key).Nodup)
    (hexact : ∀ key, Decimal.ExactSums 0 (keyQuantities env sourceSlug key rows))
    (g : BalanceGroup) : lostQuantity env sourceSlug rows g = 0 := by
  rcases firstsBy_of_nodup PlacedRow.key hdistinct (fun _ _ => List.not_mem_nil) with
    ⟨hfirsts, hrepeats⟩
  have hlosses : ∀ key, roundingLoss env sourceSlug (firstRows rows) key = 0 := by
    intro key
    rw [roundingLoss, roundedSum, firstRows, hfirsts, Decimal.toRat_foldl_add _ _ (hexact key),
      Decimal.toRat_zero, zero_add, sum_keyQuantities, sub_self]
  rw [lostQuantity, repeatedRows, hrepeats, groupTotal, List.filter_nil, List.map_nil,
    List.sum_nil, zero_add]
  refine List.sum_eq_zero (fun loss hloss => ?_)
  rcases List.mem_map.1 hloss with ⟨key, _, rfl⟩
  exact hlosses key

end Reading

end Claims
end Tallylot
