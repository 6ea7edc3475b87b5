import Tallylot.Ronin.Outcomes

/-!
# LocalTimes — the times of transactions of summary rows only

The UTC time of a summary row is inferred from the paired row, one of a transaction with raw rows,
whose local time is nearest to its own.  Local times are read day first where they can be, so that a
row of a month-first export may be read as another day.  The time that is inferred is the true one
exactly where the row and its nearest paired row are displaced alike (`summary_times_iff`).
-/

namespace Tallylot
namespace Ronin

open Data Data.Strptime Domain Normalization Transactions

/-! ## Paired rows -/

/-- The row is one of a transaction with raw rows. -/
def Paired (groups : List RawGroup) (row : RoninSummaryRow) : Prop :=
  ∃ group ∈ groups, group.first.txHash = row.txHash

/-- How near another row lies, by the local times as they are read; of rows that are equally near the
first one is nearer. -/
def nearness (row other : RoninSummaryRow) : Nat ×ₗ (Instant ×ₗ (String ×ₗ Nat)) :=
  toLex ((other.localTimestamp.microseconds - row.localTimestamp.microseconds).natAbs,
    summaryRowKey other)

/-- The other row is the nearest paired one. -/
structure IsNearest (groups : List RawGroup) (summaryRows : List RoninSummaryRow)
    (row other : RoninSummaryRow) : Prop where
  mem : other ∈ summaryRows
  paired : Paired groups other
  least : ∀ another ∈ summaryRows, Paired groups another →
    nearness row other ≤ nearness row another

/-- How far the local time that is read for a row lies from the one that it prints, which is the true
time of its transaction and the offset of the export. -/
def displacement (utc : String → Instant) (offset : Int) (row : RoninSummaryRow) : Int :=
  row.localTimestamp.microseconds - ((utc row.txHash).microseconds + offset)

/-- The true time of a transaction, from the local time of its row. -/
def trueCalibration (utc : String → Instant) (row : RoninSummaryRow) : Calibration :=
  (row.localTimestamp, (utc row.txHash).microseconds - row.localTimestamp.microseconds)

section

variable {rows : List RoninRawRow} {summaryRows : List RoninSummaryRow} {utc : String → Instant}

/-- The rows that the calibrations are made of. -/
def pairedRows (groups : List RawGroup) (summaryRows : List RoninSummaryRow) :
    List RoninSummaryRow :=
  summaryRows.filter (fun row =>
    ((transactionsOf groups summaryRows).rawGroupsByHash.get? row.txHash).isSome)

lemma mem_pairedRows {row : RoninSummaryRow} :
    row ∈ pairedRows (rawGroups rows) summaryRows ↔
      row ∈ summaryRows ∧ Paired (rawGroups rows) row := by
  rw [pairedRows, List.mem_filter]
  refine and_congr_right (fun _ => ?_)
  constructor
  · intro hsome
    rcases Option.isSome_iff_exists.1 hsome with ⟨group, hgroup⟩
    exact ⟨group, mem_of_rawGroupsByHash hgroup⟩
  · rintro ⟨group, hgroup, hhash⟩
    rw [← hhash, rawGroupsByHash_eq hgroup]
    rfl

/-- Where raw rows show true times, a paired row is calibrated by its true time. -/
lemma calibrations_eq (hraw : ∀ group ∈ rawGroups rows, group.first.timestamp = utc group.first.txHash)
    (hsorted : summaryRows.Pairwise (fun a b => summaryRowKey a ≤ summaryRowKey b)) :
    (transactionsOf (rawGroups rows) summaryRows).calibrations =
      firsts ((pairedRows (rawGroups rows) summaryRows).map (trueCalibration utc)) := by
  have hcalibrations : summaryRows.filterMap (fun row =>
      ((transactionsOf (rawGroups rows) summaryRows).rawGroupsByHash.get? row.txHash).map
        (fun group => (row.localTimestamp,
          group.first.timestamp.microseconds - row.localTimestamp.microseconds))) =
      (pairedRows (rawGroups rows) summaryRows).map (trueCalibration utc) := by
    rw [pairedRows, ← List.filterMap_eq_map, List.filterMap_filter]
    refine List.filterMap_congr (fun row _ => ?_)
    cases hget : (transactionsOf (rawGroups rows) summaryRows).rawGroupsByHash.get? row.txHash with
    | none => rfl
    | some group =>
        rcases mem_of_rawGroupsByHash hget with ⟨hgroup, hhash⟩
        simp [trueCalibration, hraw group hgroup, hhash]
  have hordered : ((pairedRows (rawGroups rows) summaryRows).map (trueCalibration utc)).Pairwise
      (fun a b => a.1 ≤ b.1) := by
    refine List.pairwise_map.2 ((hsorted.filter _).imp (fun hle => ?_))
    rcases (Prod.Lex.le_iff.1 hle) with hlt | heq
    · exact hlt.le
    · exact heq.1.le
  have hstays : sortedOn Prod.fst ((pairedRows (rawGroups rows) summaryRows).map
      (trueCalibration utc)) = (pairedRows (rawGroups rows) summaryRows).map (trueCalibration utc) :=
    List.Pairwise.insertionSort_eq hordered
  calc
    (transactionsOf (rawGroups rows) summaryRows).calibrations
        = sortedOn Prod.fst (firsts ((pairedRows (rawGroups rows) summaryRows).map
            (trueCalibration utc))) := by
          rw [← hcalibrations]
          rfl
    _ = firsts ((pairedRows (rawGroups rows) summaryRows).map (trueCalibration utc)) := by
          rw [sortedOn_firsts, hstays]

/-- The nearest paired row gives the time. -/
lemma exists_nearest {row c : RoninSummaryRow}
    (hsorted : summaryRows.Pairwise (fun a b => summaryRowKey a ≤ summaryRowKey b))
    (hmin : (pairedRows (rawGroups rows) summaryRows).argmin (fun other =>
      calibrationDistance row.localTimestamp (trueCalibration utc other)) = some c) :
    IsNearest (rawGroups rows) summaryRows row c := by
  have hmem := mem_pairedRows.1 (List.argmin_mem hmin)
  refine ⟨hmem.1, hmem.2, fun another hanother hpaired => ?_⟩
  exact argmin_least (hsorted.filter _) hmin another (mem_pairedRows.2 ⟨hanother, hpaired⟩)

/-- What is inferred for a row: nothing without paired rows, else its local time and the distance of
the nearest one to its true time. -/
theorem inferred_spec
    (hraw : ∀ group ∈ rawGroups rows, group.first.timestamp = utc group.first.txHash)
    (hsorted : summaryRows.Pairwise (fun a b => summaryRowKey a ≤ summaryRowKey b))
    {row : RoninSummaryRow} {time : Option Instant}
    (h : inferSummaryUtcTimestamp row.localTimestamp
      (transactionsOf (rawGroups rows) summaryRows).calibrations = .ok time) :
    (time = none ∧ ∀ c, ¬IsNearest (rawGroups rows) summaryRows row c) ∨
      ∃ timestamp c, time = some timestamp ∧ IsNearest (rawGroups rows) summaryRows row c ∧
        timestamp.microseconds = row.localTimestamp.microseconds +
          ((utc c.txHash).microseconds - c.localTimestamp.microseconds) := by
  rw [inferSummaryUtcTimestamp, calibrations_eq hraw hsorted, argmin_firsts, argmin_map] at h
  cases hmin : (pairedRows (rawGroups rows) summaryRows).argmin (fun other =>
      calibrationDistance row.localTimestamp (trueCalibration utc other)) with
  | none =>
      rw [hmin] at h
      refine .inl ⟨(Except.ok.inj h).symm, fun c hnearest => ?_⟩
      have hmem := mem_pairedRows.2 ⟨hnearest.mem, hnearest.paired⟩
      rw [List.argmin_eq_none.1 hmin] at hmem
      cases hmem
  | some c =>
      rw [hmin] at h
      rcases bind_eq_ok_iff.1 h with ⟨timestamp, hshift, hval⟩
      refine .inr ⟨timestamp, c, (Except.ok.inj hval).symm, exists_nearest hsorted hmin, ?_⟩
      exact Instant.microseconds_shift (requireSome_eq_ok_iff.1 hshift)

/-- Rows that are nearest to a row are displaced alike. -/
lemma displacement_of_nearest {groups : List RawGroup} {offset : Int}
    {row c c' : RoninSummaryRow} (h : IsNearest groups summaryRows row c)
    (h' : IsNearest groups summaryRows row c') :
    displacement utc offset c = displacement utc offset c' := by
  have hsame : nearness row c = nearness row c' :=
    le_antisymm (h.least c' h'.mem h'.paired) (h'.least c h.mem h.paired)
  simp only [nearness, summaryRowKey, toLex_inj, Prod.mk.injEq] at hsame
  rw [displacement, displacement, hsame.2.1, hsame.2.2.1]

/-- The time that is inferred is the true one where the nearest paired row is displaced alike. -/
theorem inferred_true_iff
    (hraw : ∀ group ∈ rawGroups rows, group.first.timestamp = utc group.first.txHash)
    (hsorted : summaryRows.Pairwise (fun a b => summaryRowKey a ≤ summaryRowKey b)) (offset : Int)
    {row : RoninSummaryRow} {timestamp : Instant}
    (h : inferSummaryUtcTimestamp row.localTimestamp
      (transactionsOf (rawGroups rows) summaryRows).calibrations = .ok (some timestamp)) :
    timestamp = utc row.txHash ↔ ∀ c, IsNearest (rawGroups rows) summaryRows row c →
      displacement utc offset c = displacement utc offset row := by
  rcases inferred_spec hraw hsorted h with ⟨hnone, _⟩ | ⟨_, c, htime, hnearest, hmicro⟩
  · cases hnone
  · cases htime
    have halike : timestamp = utc row.txHash ↔
        displacement utc offset c = displacement utc offset row := by
      rw [← Instant.microseconds_inj, hmicro, displacement, displacement]
      constructor <;> intro heq <;> linarith
    rw [halike]
    exact ⟨fun heq c' hnearest' => (displacement_of_nearest hnearest' hnearest).trans heq,
      fun hall => hall c hnearest⟩

end

/-! ## Exports -/

section

variable {env : KernelEnvironment} {source : String} {ownedAddresses : List String}
  {rows : List RoninRawRow} {summaryRows : List RoninSummaryRow} {utc : String → Instant}

/-- The drafts of transactions of summary rows only have the true times of their transactions. -/
def TrueTimes (utc : String → Instant) (groups : List RawGroup) (run : GroupResult) : Prop :=
  ∀ draft ∈ run.drafts, (∀ group ∈ groups, group.first.txHash ≠ draft.val.txHash) →
    draft.val.timestamp = utc draft.val.txHash

/-- The rows of every supported transaction of summary rows only are displaced as their nearest paired
rows are. -/
def DisplacedAlike (utc : String → Instant) (offset : Int) (ownedAddresses : List String)
    (groups : List RawGroup) (summaryRows : List RoninSummaryRow) : Prop :=
  ∀ txHash, (∀ group ∈ groups, group.first.txHash ≠ txHash) →
    SupportedSummary ownedAddresses (summaryRowsOf summaryRows txHash) →
      ∀ row ∈ summaryRowsOf summaryRows txHash, ∀ c, IsNearest groups summaryRows row c →
        displacement utc offset c = displacement utc offset row

/-- The rows of a supported group share their local time. -/
lemma localTimestamp_of_supported {rows : List RoninSummaryRow} {row : RoninSummaryRow}
    (h : SupportedSummary ownedAddresses rows) (hrow : row ∈ rows) (calibrations : List Calibration) :
    foundTime calibrations none rows = inferSummaryUtcTimestamp row.localTimestamp calibrations := by
  cases rows with
  | nil => cases hrow
  | cons first others =>
      rcases List.mem_cons.1 hrow with rfl | hrow
      · rfl
      · rw [h.1 row hrow]
        rfl

theorem trueTimes_iff {run : GroupResult}
    (hrun : IsRun env source ownedAddresses rows summaryRows run)
    (hraw : ∀ group ∈ rawGroups rows, group.first.timestamp = utc group.first.txHash)
    (hsorted : summaryRows.Pairwise (fun a b => summaryRowKey a ≤ summaryRowKey b)) (offset : Int) :
    TrueTimes utc (rawGroups rows) run ↔
      DisplacedAlike utc offset ownedAddresses (rawGroups rows) summaryRows := by
  constructor
  · intro htrue txHash hunpaired hsupported row hrow c hnearest
    have hhash : txHash ∈ (transactionsOf (rawGroups rows) summaryRows).hashes := by
      rw [TransactionGroups.hashes, mem_sortedOn, mem_firsts, List.mem_append]
      exact .inr ((Dict.mem_keys_group _ _ _).2
        (List.mem_map.2 ⟨row, (List.mem_filter.1 hrow).1, txHash_of_summaryRowsOf hrow⟩))
    rcases drafts_of_summaryGroup hrun hunpaired hhash with ⟨translated, hdrafts, houtcome⟩
    rcases houtcome.found hsupported with ⟨time, htime⟩
    have hinferred := (localTimestamp_of_supported hsupported hrow _).symm.trans htime
    rcases inferred_spec hraw hsorted hinferred with ⟨_, hno⟩ | ⟨timestamp, _, rfl, _⟩
    · exact absurd hnearest (hno c)
    · rcases List.exists_mem_of_ne_nil _ (houtcome.leaves timestamp htime hsupported) with
        ⟨draft, hdraft⟩
      rcases houtcome.left (List.ne_nil_of_mem hdraft) with ⟨other, hother, _, hfrom⟩
      have hsame : other = timestamp := Option.some.inj (Except.ok.inj (hother.symm.trans htime))
      rw [← hdrafts] at hdraft
      rcases List.mem_filter.1 hdraft with ⟨hmem, hdraftHash⟩
      have hdraftHash := of_decide_eq_true hdraftHash
      have hdraftTime := htrue draft hmem (fun group hgroup => hdraftHash ▸ hunpaired group hgroup)
      rw [(hfrom draft (hdrafts ▸ hdraft)).timestamp, hsame, hdraftHash,
        ← txHash_of_summaryRowsOf hrow] at hdraftTime
      exact (inferred_true_iff hraw hsorted offset hinferred).1 hdraftTime c hnearest
  · intro halike draft hdraft hunpaired
    have hhash := txHash_mem_hashes hrun hdraft
    rcases drafts_of_summaryGroup hrun hunpaired hhash with ⟨translated, hdrafts, houtcome⟩
    have hmem : draft ∈ translated.1 := by
      rw [← hdrafts]
      exact List.mem_filter.2 ⟨hdraft, decide_eq_true rfl⟩
    rcases houtcome.left (List.ne_nil_of_mem hmem) with ⟨timestamp, htime, hsupported, hfrom⟩
    rcases (hfrom draft hmem).txHash with ⟨row, hrow, hdraftHash⟩
    have hinferred := (localTimestamp_of_supported hsupported hrow _).symm.trans htime
    rw [(hfrom draft hmem).timestamp, hdraftHash]
    exact (inferred_true_iff hraw hsorted offset hinferred).2
      (halike _ hunpaired hsupported row hrow)

/-! ## Printed times -/

/-- Every summary row prints the local time of its transaction, by one format and with one offset. -/
structure PrintsLocalTimes (files : List RoninFile) (format : String) (utc : String → Instant)
    (offset : Int) : Prop where
  format_eq : format = dayFirst ∨ format = monthFirst
  printed : ∀ r ∈ familyRows files .actionSummary, ∃ printed,
    readInstant format (EvmExplorer.cell r.row "Timestamp") = some printed ∧
      printed.microseconds = (utc (EvmExplorer.cell r.row "TxnHash")).microseconds + offset

/-- A row of an export was read from the cells of one of its rows. -/
lemma exists_row_of_collected {files : List RoninFile} {summaryIssues : List IssueRecord}
    (hsummary : collectSummaryRows env source files = .ok (summaryRows, summaryIssues))
    {row : RoninSummaryRow} (hrow : row ∈ summaryRows) :
    ∃ r ∈ familyRows files .actionSummary, parseSummaryRow env r = .ok (some row) := by
  rcases bind_eq_ok_iff.1 hsummary with ⟨collected, hcollected, hval⟩
  have hrows : summaryRows = sortedOn summaryRowKey (collected.flatMap Prod.fst) :=
    (congrArg Prod.fst (Except.ok.inj hval)).symm
  rw [hrows, mem_sortedOn] at hrow
  rcases List.mem_flatMap.1 hrow with ⟨part, hpart, hmem⟩
  rcases mapM_ok_pairs hcollected with ⟨pairs, hfiles, rfl, hpairs⟩
  rcases List.mem_map.1 hpart with ⟨p, hp, rfl⟩
  rcases bind_eq_ok_iff.1 (hpairs p hp) with ⟨parsed, hparsed, hpartVal⟩
  rw [← Except.ok.inj hpartVal] at hmem
  rcases List.mem_filterMap.1 (mem_of_mem_firstsBy _ hmem) with ⟨_, hfound, rfl⟩
  rcases mapM_ok_pairs hparsed with ⟨cells, hcells, rfl, hall⟩
  rcases List.mem_map.1 hfound with ⟨q, hq, hsome⟩
  refine ⟨q.1, ?_, (hall q hq).trans (congrArg Except.ok hsome)⟩
  have hinFile : q.1 ∈ familyRows [p.1] .actionSummary := hcells ▸ List.mem_map_of_mem hq
  rcases List.mem_flatMap.1 hinFile with ⟨file, hfile, hinRows⟩
  rw [List.mem_filter, List.mem_singleton] at hfile
  refine List.mem_flatMap.2 ⟨file, List.mem_filter.2 ⟨?_, hfile.2⟩, hinRows⟩
  rw [hfile.1, ← hfiles]
  exact List.mem_map_of_mem hp

lemma cells_of_parseSummaryRow {r : FileRow} {row : RoninSummaryRow}
    (h : parseSummaryRow env r = .ok (some row)) :
    parseSummaryLocalTimestamp (EvmExplorer.cell r.row "Timestamp") = some row.localTimestamp ∧
      EvmExplorer.cell r.row "TxnHash" = row.txHash := by
  rcases bind_eq_ok_iff.1 h with ⟨asset, _, h⟩
  cases htime : parseSummaryLocalTimestamp (EvmExplorer.cell r.row "Timestamp") with
  | none =>
      rw [htime] at h
      cases Except.ok.inj h
  | some localTimestamp =>
      rw [htime] at h
      dsimp only at h
      split_ifs at h
      · cases Except.ok.inj h
      · rw [← Option.some.inj (Except.ok.inj h)]
        exact ⟨rfl, rfl⟩

/-- A row of a day-first export is read as it is printed. -/
lemma displacement_dayFirst {files : List RoninFile} {summaryIssues : List IssueRecord} {offset : Int}
    (hsummary : collectSummaryRows env source files = .ok (summaryRows, summaryIssues))
    (hprints : PrintsLocalTimes files dayFirst utc offset) {row : RoninSummaryRow}
    (hrow : row ∈ summaryRows) : displacement utc offset row = 0 := by
  rcases exists_row_of_collected hsummary hrow with ⟨r, hr, hparsed⟩
  rcases cells_of_parseSummaryRow hparsed with ⟨hread, hhash⟩
  rcases hprints.printed r hr with ⟨printed, hprinted, hmicro⟩
  unfold parseSummaryLocalTimestamp at hread
  split_ifs at hread
  rw [hprinted, Option.some_or, Option.some.injEq] at hread
  rw [displacement, ← hread, hmicro, hhash]
  exact Int.sub_self _

/-- The rows of an export stand in order. -/
lemma sorted_of_collected {files : List RoninFile} {summaryIssues : List IssueRecord}
    (hsummary : collectSummaryRows env source files = .ok (summaryRows, summaryIssues)) :
    summaryRows.Pairwise (fun a b => summaryRowKey a ≤ summaryRowKey b) := by
  rcases bind_eq_ok_iff.1 hsummary with ⟨collected, _, hval⟩
  have hrows : summaryRows = sortedOn summaryRowKey (collected.flatMap Prod.fst) :=
    (congrArg Prod.fst (Except.ok.inj hval)).symm
  rw [hrows]
  exact pairwise_sortedOn _ _

/-- The times of a day-first export are true, those of a month-first one exactly where its rows are
displaced as their nearest paired rows are. -/
theorem summary_times_iff {files : List RoninFile} {groups : List RawGroup}
    {rawIssues summaryIssues : List IssueRecord} {run : GroupResult} {format : String} {offset : Int}
    (hraw : collectRawGroups env source files = .ok (groups, rawIssues))
    (hsummary : collectSummaryRows env source files = .ok (summaryRows, summaryIssues))
    (hrun : translateTransactions env source files ownedAddresses = .ok run)
    (hprints : PrintsLocalTimes files format utc offset)
    (htimes : ∀ group ∈ groups, ∀ row ∈ group.rows, row.timestamp = utc row.txHash) :
    (format = dayFirst → TrueTimes utc groups run) ∧
      (TrueTimes utc groups run ↔ DisplacedAlike utc offset ownedAddresses groups summaryRows) := by
  rcases isRun_of_translated hraw hsummary hrun with ⟨parsed, _, rfl, hisRun⟩
  have hfirst : ∀ group ∈ rawGroups (parsed.filterMap id),
      group.first.timestamp = utc group.first.txHash :=
    fun group hgroup => htimes group hgroup group.first List.mem_cons_self
  have hiff := trueTimes_iff hisRun hfirst (sorted_of_collected hsummary) offset
  refine ⟨?_, hiff⟩
  rintro rfl
  refine hiff.2 (fun txHash _ _ row hrow c hnearest => ?_)
  rw [displacement_dayFirst hsummary hprints hnearest.mem,
    displacement_dayFirst hsummary hprints (List.mem_filter.1 hrow).1]

end

/-! ## An export -/

/-- A raw row of a transfer to the wallet. -/
def transferRow (txHash time : String) : EvmExplorer.CsvRow :=
  Dict.ofList
    [("Txhash", txHash), ("DateTime", time), ("From", "ronin:other"), ("To", walletAddress),
      ("Method", "transfer"), ("Token / Collectibles", "Axie Infinity Shard"), ("Value in", "5"),
      ("Status", "Success")]

/-- A summary row of a transfer to the wallet. -/
def summaryTransferRow (txHash time : String) : EvmExplorer.CsvRow :=
  Dict.ofList
    [("TxnHash", txHash), ("Timestamp", time), ("ActionType", "Transfer"), ("AXS", "5"),
      ("From", "ronin:other"), ("To", walletAddress)]

/-- A transaction with a raw row, at the end of April, and one without. -/
def summaryFiles (printed unpaired : String) : List RoninFile :=
  [{ name := "export.csv"
     header := explorerHeader
     rows := [transferRow "0xaaa" "2024-04-30 00:00:00"] },
    { name := "summary.csv"
      header := summaryHeader
      rows := [summaryTransferRow "0xaaa" printed, summaryTransferRow "0xbbb" unpaired] }]

/-- The second transaction is of the next day. -/
def trueTime (txHash : String) : Instant :=
  if txHash = "0xbbb" then ⟨2024, 5, 1, 0, 0, 0, 0, Instant.isDay_startOfMay⟩
  else ⟨2024, 4, 30, 0, 0, 0, 0, Instant.isDay_endOfApril⟩

lemma timestamp_summaryTransferRow (txHash time : String) :
    EvmExplorer.cell (summaryTransferRow txHash time) "Timestamp" = strip time := rfl

lemma txnHash_summaryTransferRow (txHash time : String) :
    EvmExplorer.cell (summaryTransferRow txHash time) "TxnHash" = strip txHash := rfl

lemma printsLocalTimes_summaryFiles {format printed unpaired : String}
    (hformat : format = dayFirst ∨ format = monthFirst)
    (hprinted : readInstant format (strip printed) = some (trueTime "0xaaa"))
    (hunpaired : readInstant format (strip unpaired) = some (trueTime "0xbbb")) :
    PrintsLocalTimes (summaryFiles printed unpaired) format trueTime 0 := by
  refine ⟨hformat, fun r hr => ?_⟩
  have hrows : familyRows (summaryFiles printed unpaired) .actionSummary =
      [⟨"summary.csv", 2, summaryTransferRow "0xaaa" printed⟩,
        ⟨"summary.csv", 3, summaryTransferRow "0xbbb" unpaired⟩] := rfl
  rw [hrows] at hr
  have haaa : strip "0xaaa" = "0xaaa" := by decide
  have hbbb : strip "0xbbb" = "0xbbb" := by decide
  rcases List.mem_cons.1 hr with rfl | hr
  · rw [timestamp_summaryTransferRow, txnHash_summaryTransferRow, haaa]
    exact ⟨_, hprinted, (Int.add_zero _).symm⟩
  · rw [List.mem_singleton.1 hr, timestamp_summaryTransferRow, txnHash_summaryTransferRow, hbbb]
    exact ⟨_, hunpaired, (Int.add_zero _).symm⟩

/-- The raw rows of an export show the true time of the only transaction that they are of. -/
def showsTrueTimes (raw : List RawGroup × List IssueRecord) : Bool :=
  raw.1.all (fun group => group.first.txHash = "0xaaa" &&
    group.rows.all (fun row => row.timestamp = trueTime row.txHash))

lemma showsTrueTimes_iff {raw : List RawGroup × List IssueRecord} (h : showsTrueTimes raw = true) :
    (∀ group ∈ raw.1, group.first.txHash = "0xaaa") ∧
      ∀ group ∈ raw.1, ∀ row ∈ group.rows, row.timestamp = trueTime row.txHash := by
  simpa [showsTrueTimes, List.all_eq_true, forall_and] using h

/-- In a month-first export, the 1st of May is read as the 5th of January. -/
theorem month_first_misread :
    ¬∀ (env : KernelEnvironment) (source : String) (ownedAddresses : List String)
        (files : List RoninFile) (groups : List RawGroup) (summaryRows : List RoninSummaryRow)
        (rawIssues summaryIssues : List IssueRecord) (run : GroupResult) (format : String)
        (utc : String → Instant) (offset : Int),
      collectRawGroups env source files = .ok (groups, rawIssues) →
        collectSummaryRows env source files = .ok (summaryRows, summaryIssues) →
          translateTransactions env source files ownedAddresses = .ok run →
            PrintsLocalTimes files format utc offset →
              (∀ group ∈ groups, ∀ row ∈ group.rows, row.timestamp = utc row.txHash) →
                (∃ row ∈ summaryRows, Paired groups row) → TrueTimes utc groups run := by
  intro h
  have hgroups : (collectRawGroups asciiEnvironment "wallet"
      (summaryFiles "04/30/2024, 00:00:00" "05/01/2024, 00:00:00")).toOption.any
        (fun raw => raw.1 ≠ [] && showsTrueTimes raw) = true := by
    decide +kernel
  have hpaired : (collectSummaryRows asciiEnvironment "wallet"
      (summaryFiles "04/30/2024, 00:00:00" "05/01/2024, 00:00:00")).toOption.any
        (fun summary => summary.1.any (fun row => row.txHash = "0xaaa")) = true := by
    decide +kernel
  have hmisread : (translateTransactions asciiEnvironment "wallet"
      (summaryFiles "04/30/2024, 00:00:00" "05/01/2024, 00:00:00") [walletAddress]).toOption.any
        (fun run => run.drafts.any (fun draft => draft.val.txHash = "0xbbb" &&
          draft.val.timestamp ≠ trueTime "0xbbb")) = true := by
    decide +kernel
  rcases exists_of_any hgroups with ⟨raw, hraw, hfacts⟩
  rcases exists_of_any hpaired with ⟨summary, hsummary, hrows⟩
  rcases exists_of_any hmisread with ⟨run, hrun, hdrafts⟩
  rw [Bool.and_eq_true, decide_eq_true_eq] at hfacts
  rcases showsTrueTimes_iff hfacts.2 with ⟨hhashes, htimes⟩
  rcases List.exists_mem_of_ne_nil _ hfacts.1 with ⟨group, hgroup⟩
  rcases List.any_eq_true.1 hrows with ⟨row, hrow, hhash⟩
  have hpairedRow : Paired raw.1 row :=
    ⟨group, hgroup, (hhashes group hgroup).trans (of_decide_eq_true hhash).symm⟩
  have htrue := h _ _ _ _ _ _ _ _ _ _ _ _ hraw hsummary hrun
    (printsLocalTimes_summaryFiles (.inr rfl) (by decide +kernel) (by decide +kernel)) htimes
    ⟨row, hrow, hpairedRow⟩
  rcases List.any_eq_true.1 hdrafts with ⟨draft, hdraft, hmisread⟩
  rw [Bool.and_eq_true, decide_eq_true_eq, decide_eq_true_eq] at hmisread
  refine hmisread.2 (hmisread.1 ▸ htrue draft hdraft (fun group hgroup => ?_))
  rw [hhashes group hgroup, hmisread.1]
  decide

/-- In a day-first export, the 1st of May is the 1st of May. -/
theorem summary_times_iff_dayFirst : ∃ groups rawIssues run,
    collectRawGroups asciiEnvironment "wallet"
        (summaryFiles "30/04/2024, 00:00:00" "01/05/2024, 00:00:00") = .ok (groups, rawIssues) ∧
      translateTransactions asciiEnvironment "wallet"
          (summaryFiles "30/04/2024, 00:00:00" "01/05/2024, 00:00:00") [walletAddress] = .ok run ∧
        TrueTimes trueTime groups run := by
  have hgroups : (collectRawGroups asciiEnvironment "wallet"
      (summaryFiles "30/04/2024, 00:00:00" "01/05/2024, 00:00:00")).toOption.any
        showsTrueTimes = true := by
    decide +kernel
  have hsummary : (collectSummaryRows asciiEnvironment "wallet"
      (summaryFiles "30/04/2024, 00:00:00" "01/05/2024, 00:00:00")).isOk = true := by
    decide +kernel
  have hrun : (translateTransactions asciiEnvironment "wallet"
      (summaryFiles "30/04/2024, 00:00:00" "01/05/2024, 00:00:00") [walletAddress]).isOk = true := by
    decide +kernel
  rcases exists_of_any hgroups with ⟨raw, hraw, hfacts⟩
  rcases exists_of_isOk hsummary with ⟨summary, hsummary⟩
  rcases exists_of_isOk hrun with ⟨run, hrun⟩
  refine ⟨raw.1, raw.2, run, hraw, hrun, ?_⟩
  exact (summary_times_iff hraw hsummary hrun
    (printsLocalTimes_summaryFiles (.inl rfl) (by decide +kernel) (by decide +kernel))
    (showsTrueTimes_iff hfacts).2).1 rfl

end Ronin
end Tallylot
