import Tallylot.Data.DecimalContext
import Tallylot.EvmExplorer.SettledRows

/-!
# Accounting — what becomes of the transfers of a run

A run adds what its rows add (`exists_run`), and each of its transfers is booked, reported or skipped,
exactly one of these.  This fails only where an amount is out of reach of the decimal context, or is
booked or dropped as another one than the row shows, and for the native moves one way between two owned
addresses, which are booked at one of them (`transfers_accounted_iff`).
-/

namespace Tallylot
namespace EvmExplorer

open Data Domain Normalization Transactions

/-! ## Rows of files -/

/-- A row of a file, with the number that its issues give. -/
structure FileRow where
  file : EvmFile
  family : Family
  index : Nat
  row : CsvRow

def rowsOf (path : EvmFile × Family) : List FileRow :=
  path.1.numberedRows.map (fun p => ⟨path.1, path.2, p.2, p.1⟩)

/-- The rows of a run, file by file. -/
def fileRows (files : List EvmFile) : List FileRow := (classifiedCsvPaths files).flatMap rowsOf

def FileRow.place (source : String) (r : FileRow) : RowPlace := placeOf source r.file r.index

section

variable (env : EvmEnvironment) (source : String) (ctx : EvmTranslationContext)

/-- What a row adds, by the family of its file. -/
def translateRow (r : FileRow) : Decoded RowResult :=
  match r.family with
  | .nativeTransfers =>
      nativeRow env ctx (r.place source) (nativeSymbol env ctx.networkScope r.file) r.row
  | .tokenTransfers => tokenRow env ctx (r.place source) r.row
  | .internalTransfers => .ok { issues := [internalIssue (r.place source)] }
  | .nftTransfers => .ok { issues := [nftIssue env (r.place source) ctx.ownedAddresses r.row] }
  | .portfolioBalances => .ok {}

omit env source ctx in
/-- Rows with an issue each add their issues. -/
lemma collected_issues {α : Type} (issue : α → IssueRecord) (xs : List α) :
    collected (xs.map (fun x => { issues := [issue x] })) = ([], xs.map issue) := by
  rw [collected, List.flatMap_map, List.flatMap_map]
  exact Prod.ext (List.flatMap_eq_nil_iff.2 (fun _ _ => rfl)) List.map_eq_flatMap.symm

/-- The loop of every family is a loop over the rows of the file. -/
lemma translatePath_eq (path : EvmFile × Family) : translatePath env source ctx path =
    (rowsOf path).mapM (translateRow env source ctx) >>= fun results => .ok (collected results) := by
  rcases path with ⟨file, family⟩
  cases family with
  | nativeTransfers =>
      rw [rowsOf, List.mapM_map]
      rfl
  | tokenTransfers =>
      rw [rowsOf, List.mapM_map]
      rfl
  | internalTransfers =>
      -- The source lists these issues without translating a row.
      have hrows : (rowsOf (file, .internalTransfers)).mapM (translateRow env source ctx) =
          .ok (file.numberedRows.map (fun p =>
            { issues := [internalIssue (placeOf source file p.2)] })) :=
        mapM_ok_map (fun _ _ => rfl)
      rw [hrows, bind_ok, collected_issues]
      rfl
  | nftTransfers =>
      have hrows : (rowsOf (file, .nftTransfers)).mapM (translateRow env source ctx) =
          .ok (file.numberedRows.map (fun p =>
            { issues := [nftIssue env (placeOf source file p.2) ctx.ownedAddresses p.1] })) :=
        mapM_ok_map (fun _ _ => rfl)
      rw [hrows, bind_ok, collected_issues]
      rfl
  | portfolioBalances =>
      have hrows : (rowsOf (file, .portfolioBalances)).mapM (translateRow env source ctx) =
          .ok (file.numberedRows.map (fun _ => {})) :=
        mapM_ok_map (fun _ _ => rfl)
      rw [hrows, bind_ok]
      simp [translatePath, collected]

end

/-- Where every row can be translated, a run adds what its rows add, in their order. -/
theorem exists_run {env : EvmEnvironment} {source : String} {files : List EvmFile}
    {ownedAddresses : List String} {scope : String}
    (h : ∀ r ∈ fileRows files, ∃ result,
      translateRow env source (translationContext env files ownedAddresses scope) r = .ok result) :
    ∃ results,
      (fileRows files).mapM
          (translateRow env source (translationContext env files ownedAddresses scope)) = .ok results ∧
        translateTransactions env source files ownedAddresses scope = .ok (collected results) := by
  generalize hctx : translationContext env files ownedAddresses scope = ctx at h ⊢
  -- The results file by file, from which both the loop over files and the loop over rows are read.
  have hfiles : ∃ parts, (classifiedCsvPaths files).mapM
      (fun path => (rowsOf path).mapM (translateRow env source ctx)) = .ok parts :=
    exists_mapM_ok (fun path hpath =>
      exists_mapM_ok (fun r hr => h r (List.mem_flatMap.2 ⟨path, hpath, hr⟩)))
  rcases hfiles with ⟨parts, hparts⟩
  rcases mapM_ok_pairs hparts with ⟨pairs, hpaths, rfl, hpairs⟩
  refine ⟨pairs.flatMap Prod.snd, ?_, ?_⟩
  · rw [fileRows, ← hpaths, List.flatMap_map]
    exact mapM_flatMap (fun p hp => hpairs p hp)
  · have htranslated : (pairs.map Prod.fst).mapM (translatePath env source ctx) =
        .ok (pairs.map (fun p => collected p.2)) := by
      refine mapM_ok_map (fun p hp => ?_)
      rw [translatePath_eq, hpairs p hp, bind_ok]
    rw [translateTransactions, hctx, ← hpaths, htranslated, bind_ok]
    simp only [collected, List.flatMap_map, List.flatMap_assoc]
    rfl

/-! ## Runs -/

/-- The amount cells of a row are blank or numerals. -/
def AmountsReadable (r : FileRow) : Prop := ∀ text ∈ amountTexts r.family r.row, IsAmount text

/-- The amount cells of a row are in reach of the decimal type and of its context. -/
def AmountsManageable (r : FileRow) : Prop := ∀ text ∈ amountTexts r.family r.row, Manageable text

/-- The row has a transfer that is lost, or booked between two owned addresses or of another amount. -/
def SpoiltRow (env : EvmEnvironment) (ctx : EvmTranslationContext) (r : FileRow) : Prop :=
  (∃ transfer, Transfers env r.family r.row transfer) ∧
    match r.family with
    | .nativeTransfers => ∃ cells, nativeCells env r.row = .ok cells ∧
        SpoiltNative ctx cells (shownValue r.row "Value_IN") (shownValue r.row "Value_OUT")
    | .tokenTransfers => ∃ cells amount, tokenCells env r.row = .ok cells ∧
        shownToken r.row = some amount ∧ SpoiltToken ctx cells amount
    | _ => False

/-- What the row leaves: its transfer is settled, and without a transfer it has no draft. -/
def RowSettled (env : EvmEnvironment) (ctx : EvmTranslationContext) (source : String) (r : FileRow)
    (result : RowResult) : Prop :=
  (∀ transfer, Transfers env r.family r.row transfer →
      Settled ctx (r.place source) transfer (SpoiltRow env ctx r) result) ∧
    ((∀ transfer, ¬Transfers env r.family r.row transfer) → result.drafts = [])

section

variable {env : EvmEnvironment} {ctx : EvmTranslationContext}

lemma spoiltRow_native {file : EvmFile} {index : Nat} {row : CsvRow} {cells : NativeCells}
    (hcells : nativeCells env row = .ok cells)
    (htransfer : ∃ transfer, Transfers env .nativeTransfers row transfer) :
    SpoiltRow env ctx ⟨file, .nativeTransfers, index, row⟩ =
      SpoiltNative ctx cells (shownValue row "Value_IN") (shownValue row "Value_OUT") := by
  refine propext ⟨?_, fun h => ⟨htransfer, cells, hcells, h⟩⟩
  rintro ⟨_, others, hothers, h⟩
  exact Except.ok.inj (hothers.symm.trans hcells) ▸ h

lemma spoiltRow_token {file : EvmFile} {index : Nat} {row : CsvRow} {cells : TokenCells}
    {amount : Decimal} (hcells : tokenCells env row = .ok cells) (hamount : shownToken row = some amount)
    (htransfer : ∃ transfer, Transfers env .tokenTransfers row transfer) :
    SpoiltRow env ctx ⟨file, .tokenTransfers, index, row⟩ = SpoiltToken ctx cells amount := by
  refine propext ⟨?_, fun h => ⟨htransfer, cells, amount, hcells, hamount, h⟩⟩
  rintro ⟨_, others, other, hothers, hother, h⟩
  cases Except.ok.inj (hothers.symm.trans hcells)
  cases Option.some.inj (hother.symm.trans hamount)
  exact h

/-- A row of a family without transfers has no draft either. -/
lemma rowSettled_of_none {source : String} {r : FileRow} {result : RowResult}
    (hnone : ∀ transfer, ¬Transfers env r.family r.row transfer) (hdrafts : result.drafts = []) :
    RowSettled env ctx source r result :=
  ⟨fun transfer h => absurd h (hnone transfer), fun _ => hdrafts⟩

variable (hcase : CaseMaps env.toKernelEnvironment) (hscope : ctx.networkScope ∈ networkScopes)
  (howned : ∀ address ∈ ctx.ownedAddresses, OwnedAddress env.lower address) (source : String)

include hcase hscope howned

lemma exists_translated_native {file : EvmFile} {index : Nat} {row : CsvRow}
    (hreadable : ∀ text ∈ amountTexts .nativeTransfers row, IsAmount text)
    (hmanageable : ∀ text ∈ amountTexts .nativeTransfers row, Manageable text) :
    ∃ result, translateRow env source ctx ⟨file, .nativeTransfers, index, row⟩ = .ok result ∧
      RowSettled env ctx source ⟨file, .nativeTransfers, index, row⟩ result := by
  rcases (@exists_nativeCells_iff env row hreadable).2 hmanageable with ⟨cells, hcells⟩
  rcases amounts_of_nativeCells hreadable hcells with ⟨hin, hout⟩
  have hinOver : ¬(shownValue row "Value_IN").Overflows :=
    not_overflows_shownValue (hmanageable _ List.mem_cons_self)
  have houtOver : ¬(shownValue row "Value_OUT").Overflows :=
    not_overflows_shownValue (hmanageable _ (List.mem_cons_of_mem _ List.mem_cons_self))
  by_cases hsome : ∃ transfer, Transfers env .nativeTransfers row transfer
  · rcases id hsome with ⟨_, hfound⟩
    rcases (transfers_native_iff hcells).1 hfound with ⟨hhash, _, timestamp, htime, _⟩
    rcases settled_native hcase hscope howned (placeOf source file index)
      (nativeSymbol env ctx.networkScope file) hin hout hinOver houtOver hhash htime with
      ⟨result, hresult, hsettled⟩
    refine ⟨result, bind_eq_ok_iff.2 ⟨cells, hcells, hresult⟩, ?_, fun hnone => absurd hfound (hnone _)⟩
    intro transfer htransfer
    rcases (transfers_native_iff hcells).1 htransfer with ⟨_, _, timestamp', htime', rfl⟩
    cases Option.some.inj (htime'.symm.trans htime)
    rw [spoiltRow_native hcells hsome]
    exact hsettled
  · have hnone : ∀ timestamp, cells.timestamp = some timestamp → cells.txHash ≠ "" →
        ¬(0 < cells.amountIn.coeff ∨ 0 < cells.amountOut.coeff) := by
      intro timestamp htime hhash hpositive
      rw [hin, hout] at hpositive
      exact hsome ⟨_, .native hcells hhash htime
        (hpositive.imp Decimal.pos_of_rounded_pos Decimal.pos_of_rounded_pos)⟩
    rcases nativeOutcome_of_no_transfer hnone with ⟨result, hresult, hdrafts⟩
    exact ⟨result, bind_eq_ok_iff.2 ⟨cells, hcells, hresult⟩,
      rowSettled_of_none (not_exists.1 hsome) hdrafts⟩

lemma exists_translated_token {file : EvmFile} {index : Nat} {row : CsvRow}
    (hreadable : ∀ text ∈ amountTexts .tokenTransfers row, IsAmount text)
    (hmanageable : ∀ text ∈ amountTexts .tokenTransfers row, Manageable text) :
    ∃ result, translateRow env source ctx ⟨file, .tokenTransfers, index, row⟩ = .ok result ∧
      RowSettled env ctx source ⟨file, .tokenTransfers, index, row⟩ result := by
  rcases (@exists_tokenCells_iff env row hreadable).2 hmanageable with ⟨cells, hcells⟩
  have hread := amount_of_tokenCells hreadable hcells
  by_cases hsome : ∃ transfer, Transfers env .tokenTransfers row transfer
  · rcases id hsome with ⟨_, hfound⟩
    rcases (transfers_token_iff hcells).1 hfound with ⟨hhash, timestamp, amount, htime, hamount, _⟩
    have hover : ¬amount.Overflows :=
      not_overflows_of_shown (hmanageable _ List.mem_cons_self) hamount
    rw [hamount] at hread
    rcases settled_token hcase hscope howned (placeOf source file index) hcells hover hhash htime hread
      with ⟨result, hresult, hsettled⟩
    refine ⟨result, bind_eq_ok_iff.2 ⟨cells, hcells, hresult⟩, ?_, fun hnone => absurd hfound (hnone _)⟩
    intro transfer htransfer
    rcases (transfers_token_iff hcells).1 htransfer with
      ⟨_, timestamp', amount', htime', hamount', _, rfl⟩
    cases Option.some.inj (htime'.symm.trans htime)
    cases Option.some.inj (hamount'.symm.trans hamount)
    rw [spoiltRow_token hcells hamount hsome]
    exact hsettled
  · have hnone : ∀ timestamp amount, cells.timestamp = some timestamp → cells.amount = some amount →
        cells.txHash ≠ "" → ¬0 < amount.coeff := by
      intro timestamp amount htime hamount hhash hpositive
      rw [hread] at hamount
      rcases Option.map_eq_some_iff.1 hamount with ⟨shown, hshown, rfl⟩
      exact hsome ⟨_, .token hcells hhash htime hshown (Decimal.pos_of_rounded_pos hpositive)⟩
    rcases tokenOutcome_of_no_transfer hnone with ⟨result, hresult, hdrafts⟩
    exact ⟨result, bind_eq_ok_iff.2 ⟨cells, hcells, hresult⟩,
      rowSettled_of_none (not_exists.1 hsome) hdrafts⟩

/-- Every row whose amounts can be read is translated, and settled. -/
theorem exists_translated_row {r : FileRow} (hreadable : AmountsReadable r)
    (hmanageable : AmountsManageable r) :
    ∃ result, translateRow env source ctx r = .ok result ∧ RowSettled env ctx source r result := by
  rcases r with ⟨file, family, index, row⟩
  cases family with
  | nativeTransfers => exact exists_translated_native hcase hscope howned source hreadable hmanageable
  | tokenTransfers => exact exists_translated_token hcase hscope howned source hreadable hmanageable
  | internalTransfers => exact ⟨_, rfl, rowSettled_of_none (fun _ h => by cases h) rfl⟩
  | nftTransfers => exact ⟨_, rfl, rowSettled_of_none (fun _ h => by cases h) rfl⟩
  | portfolioBalances => exact ⟨_, rfl, rowSettled_of_none (fun _ h => by cases h) rfl⟩

omit hcase hscope howned in
/-- A row that is translated has had its amounts read. -/
lemma manageable_of_translated {r : FileRow} (hreadable : AmountsReadable r) {result : RowResult}
    (h : translateRow env source ctx r = .ok result) : AmountsManageable r := by
  rcases r with ⟨file, family, index, row⟩
  cases family with
  | nativeTransfers =>
      rcases bind_eq_ok_iff.1 h with ⟨cells, hcells, _⟩
      exact (@exists_nativeCells_iff env row hreadable).1 ⟨cells, hcells⟩
  | tokenTransfers =>
      rcases bind_eq_ok_iff.1 h with ⟨cells, hcells, _⟩
      exact (@exists_tokenCells_iff env row hreadable).1 ⟨cells, hcells⟩
  | internalTransfers => exact fun _ hmem => by cases hmem
  | nftTransfers => exact fun _ hmem => by cases hmem
  | portfolioBalances => exact fun _ hmem => by cases hmem

end

/-! ## Accounting -/

section

variable (env : EvmEnvironment) (source : String) (files : List EvmFile)
  (ownedAddresses : List String)

/-- The context of a run of the source. -/
def runContext : EvmTranslationContext :=
  translationContext env files ownedAddresses (networkScope env.lower source)

/-- An NFT row of the transaction has an issue in the run. -/
def NftIssued (txHash : String) : Prop :=
  ∃ r ∈ fileRows files, r.family = .nftTransfers ∧ cell r.row "Transaction Hash" = txHash ∧
    ∃ result, translateRow env source (runContext env source files ownedAddresses) r = .ok result ∧
      ∃ issue ∈ result.issues, issue.rawFile = r.file.name ∧ issue.rawRowRef = rowRef r.index

/-- A row's transfer is booked, reported or skipped, and exactly one of these; and what a row has
drafted is a transfer that is booked. -/
structure RowAccounted (r : FileRow) (result : RowResult) : Prop where
  transfers : ∀ transfer, Transfers env r.family r.row transfer →
    ExactlyOne (Booked (runContext env source files ownedAddresses) (r.place source) transfer result)
      (Reported (r.place source) result)
      (Skipped (NftIssued env source files ownedAddresses transfer.txHash) result)
  drafts : result.drafts ≠ [] → ∃ transfer, Transfers env r.family r.row transfer ∧
    Booked (runContext env source files ownedAddresses) (r.place source) transfer result

/-- The run makes what its rows add, and every row is accounted for. -/
def Accounted : Prop :=
  (∃ results,
      (fileRows files).mapM (translateRow env source (runContext env source files ownedAddresses)) =
        .ok results ∧
      translateTransactions env source files ownedAddresses (networkScope env.lower source) =
        .ok (collected results)) ∧
    ∀ r ∈ fileRows files, ∃ result,
      translateRow env source (runContext env source files ownedAddresses) r = .ok result ∧
        RowAccounted env source files ownedAddresses r result

end

section

variable {env : EvmEnvironment} {source : String} {files : List EvmFile}
  {ownedAddresses : List String}

/-- A transaction is blocked by an NFT row, which has an issue. -/
lemma nftIssued_of_blocked {txHash : String} (h : txHash ∈ blockedNftTxHashes files) :
    NftIssued env source files ownedAddresses txHash := by
  rcases List.mem_flatMap.1 (List.mem_filter.1 h).1 with ⟨⟨file, family⟩, hpath, hrow⟩
  rcases List.mem_filter.1 hpath with ⟨hclassified, hfamily⟩
  cases of_decide_eq_true hfamily
  rcases List.mem_map.1 hrow with ⟨row, hrow, hhash⟩
  have hnumbered : row ∈ file.numberedRows.map Prod.fst := by
    rw [EvmFile.numberedRows, List.zipIdx_map_fst]
    exact hrow
  rcases List.mem_map.1 hnumbered with ⟨⟨_, index⟩, hindex, rfl⟩
  refine ⟨⟨file, .nftTransfers, index, _⟩, List.mem_flatMap.2 ⟨_, hclassified, ?_⟩, rfl, hhash, _, rfl,
    _, List.mem_singleton_self _, ?_⟩
  · exact List.mem_map.2 ⟨_, hindex, rfl⟩
  · unfold nftIssue
    split_ifs
    · exact ⟨rfl, rfl⟩
    · exact ⟨rfl, rfl⟩

/-- Every NFT row has an issue, so that exactly those transactions are blocked. -/
lemma blocked_iff_nftIssued {txHash : String} (hhash : txHash ≠ "") :
    txHash ∈ blockedNftTxHashes files ↔ NftIssued env source files ownedAddresses txHash := by
  refine ⟨nftIssued_of_blocked, ?_⟩
  rintro ⟨r, hr, hfamily, hcell, _⟩
  rcases List.mem_flatMap.1 hr with ⟨⟨file, family⟩, hpath, hrow⟩
  rcases List.mem_map.1 hrow with ⟨⟨row, index⟩, hindex, rfl⟩
  have hmem : row ∈ file.rows := by
    have hnumbered := List.mem_map_of_mem (f := Prod.fst) hindex
    rwa [EvmFile.numberedRows, List.zipIdx_map_fst] at hnumbered
  refine List.mem_filter.2 ⟨List.mem_flatMap.2 ⟨(file, family), ?_, ?_⟩, decide_eq_true hhash⟩
  · exact List.mem_filter.2 ⟨hpath, decide_eq_true hfamily⟩
  · exact List.mem_map.2 ⟨row, hmem, hcell⟩

/-- A settled row is accounted for exactly where it is not spoilt. -/
lemma rowAccounted_iff {r : FileRow} {result : RowResult}
    (h : RowSettled env (runContext env source files ownedAddresses) source r result) :
    RowAccounted env source files ownedAddresses r result ↔
      ¬SpoiltRow env (runContext env source files ownedAddresses) r := by
  constructor
  · intro haccounted hspoilt
    rcases hspoilt.1 with ⟨transfer, htransfer⟩
    exact ((h.1 transfer htransfer).exactlyOne_iff (blocked_iff_nftIssued htransfer.hash_ne)).1
      (haccounted.transfers transfer htransfer) hspoilt
  · intro hfine
    -- A row that has drafted something is neither reported nor skipped, and so it is booked.
    have htransfers : ∀ transfer, Transfers env r.family r.row transfer →
        ExactlyOne
          (Booked (runContext env source files ownedAddresses) (r.place source) transfer result)
          (Reported (r.place source) result)
          (Skipped (NftIssued env source files ownedAddresses transfer.txHash) result) :=
      fun transfer htransfer =>
        ((h.1 transfer htransfer).exactlyOne_iff (blocked_iff_nftIssued htransfer.hash_ne)).2 hfine
    refine ⟨htransfers, fun hdrafts => ?_⟩
    by_cases hsome : ∃ transfer, Transfers env r.family r.row transfer
    · rcases hsome with ⟨transfer, htransfer⟩
      rcases htransfers transfer htransfer with hbooked | hreported | hskipped
      · exact ⟨transfer, htransfer, hbooked.1⟩
      · exact absurd hreported.2.1.1 hdrafts
      · exact absurd hskipped.2.2.1 hdrafts
    · exact absurd (h.2 (not_exists.1 hsome)) hdrafts

lemma not_spoilt_of_accounted {r : FileRow}
    (hsettled : ∃ result,
      translateRow env source (runContext env source files ownedAddresses) r = .ok result ∧
        RowSettled env (runContext env source files ownedAddresses) source r result)
    (haccounted : ∃ result,
      translateRow env source (runContext env source files ownedAddresses) r = .ok result ∧
        RowAccounted env source files ownedAddresses r result) :
    ¬SpoiltRow env (runContext env source files ownedAddresses) r := by
  rcases hsettled with ⟨result, hresult, hsettled⟩
  rcases haccounted with ⟨other, hother, haccounted⟩
  cases Except.ok.inj (hother.symm.trans hresult)
  exact (rowAccounted_iff hsettled).1 haccounted

section

variable (hcase : CaseMaps env.toKernelEnvironment)
  (howned : ∀ address ∈ ownedAddresses, OwnedAddress env.lower address)
  (hreadable : ∀ r ∈ fileRows files, AmountsReadable r)

include hcase howned hreadable

lemma exists_settled_row {r : FileRow} (hr : r ∈ fileRows files) (hmanageable : AmountsManageable r) :
    ∃ result, translateRow env source (runContext env source files ownedAddresses) r = .ok result ∧
      RowSettled env (runContext env source files ownedAddresses) source r result :=
  @exists_translated_row env (runContext env source files ownedAddresses) hcase
    (networkScope_mem env.lower source) howned source r (hreadable r hr) hmanageable

/-- A run is accounted for exactly where every amount can be managed, and no row is lost, or booked
between two owned addresses or with another amount than it shows. -/
theorem transfers_accounted_iff : Accounted env source files ownedAddresses ↔
    ∀ r ∈ fileRows files,
      AmountsManageable r ∧ ¬SpoiltRow env (runContext env source files ownedAddresses) r := by
  have hsettled := @exists_settled_row env source files ownedAddresses hcase howned hreadable
  constructor
  · intro haccounted r hr
    rcases haccounted.2 r hr with ⟨result, hresult, hrow⟩
    have hmanageable := manageable_of_translated source (hreadable r hr) hresult
    exact ⟨hmanageable, not_spoilt_of_accounted (hsettled hr hmanageable) ⟨result, hresult, hrow⟩⟩
  · intro hfine
    refine ⟨exists_run (fun r hr => (hsettled hr (hfine r hr).1).imp (fun _ h => h.1)), fun r hr => ?_⟩
    rcases hsettled hr (hfine r hr).1 with ⟨result, hresult, h⟩
    exact ⟨result, hresult, (rowAccounted_iff h).2 (hfine r hr).2⟩

end

end

/-! ## A wallet with two addresses -/

/-- The lower case of ASCII letters, and one time of day that can be read. -/
def walletEnvironment : EvmEnvironment where
  sha256 := id
  subjectText _ := ""
  repr := id
  upper := id
  lower := lowerLetters
  fromisoformat text :=
    if text = "2024-01-01 00:00:00+00:00" then some ⟨2024, 1, 1, 0, 0, 0, 0, Instant.isDay_newYear⟩ else none

lemma caseMaps_walletEnvironment : CaseMaps walletEnvironment.toKernelEnvironment :=
  ⟨lowersAscii_lowerLetters, fun _ h => h, rfl⟩

def hotAddress : String := "0x52908400098527886e0f7030069857d2e4169ee7"

def coldAddress : String := "0xde709f2102306220921060314715629080e2fb77"

/-- The native export of the address, with one row in it or none. -/
def nativeExport (address : String) (rows : List CsvRow) : EvmFile where
  name := "export-" ++ address ++ ".csv"
  header :=
    ["Transaction Hash", "DateTime (UTC)", "From", "To", "Value_IN(ETH)", "Value_OUT(ETH)"]
  rows := rows

/-- One ETH for the first address. -/
def incomingRow (fromAddress : String) : CsvRow :=
  Dict.ofList
    [("Transaction Hash", "0xabc"), ("DateTime (UTC)", "2024-01-01 00:00:00"),
      ("From", fromAddress), ("To", hotAddress), ("Value_IN(ETH)", "1"), ("Value_OUT(ETH)", "")]

def walletFiles (fromAddress : String) : List EvmFile :=
  [nativeExport hotAddress [incomingRow fromAddress], nativeExport coldAddress []]

lemma fileRows_walletFiles (fromAddress : String) : fileRows (walletFiles fromAddress) =
    [⟨nativeExport hotAddress [incomingRow fromAddress], .nativeTransfers, 2,
      incomingRow fromAddress⟩] := rfl

/-- The cells of the row, for an address in lower case. -/
def incomingCells (fromAddress : String) : NativeCells :=
  ⟨"0xabc", some ⟨2024, 1, 1, 0, 0, 0, 0, Instant.isDay_newYear⟩, "", hotAddress, fromAddress,
    Decimal.ofParts 1 0, 0⟩

lemma amountTexts_incomingRow {fromAddress : String}
    (hin : valueCell (incomingRow fromAddress) "Value_IN" = "1")
    (hout : valueCell (incomingRow fromAddress) "Value_OUT" = "") :
    amountTexts .nativeTransfers (incomingRow fromAddress) = [amountText "1", amountText ""] := by
  rw [amountTexts, hin, hout]

lemma amountsReadable_walletFiles {fromAddress : String}
    (hin : valueCell (incomingRow fromAddress) "Value_IN" = "1")
    (hout : valueCell (incomingRow fromAddress) "Value_OUT" = "") :
    ∀ r ∈ fileRows (walletFiles fromAddress), AmountsReadable r := by
  intro r hr
  rw [fileRows_walletFiles, List.mem_singleton] at hr
  rw [hr, AmountsReadable, amountTexts_incomingRow hin hout]
  simp only [List.forall_mem_cons]
  refine ⟨.inr ⟨Decimal.ofParts 1 0, by decide +kernel⟩, .inl (by decide +kernel), ?_⟩
  exact fun _ hmem => by cases hmem

lemma amountsManageable_walletFiles {fromAddress : String}
    (hin : valueCell (incomingRow fromAddress) "Value_IN" = "1")
    (hout : valueCell (incomingRow fromAddress) "Value_OUT" = "") :
    ∀ r ∈ fileRows (walletFiles fromAddress), AmountsManageable r := by
  have hone : Decimal.readParts (strip (amountText "1")) = some (1, 0) := by decide +kernel
  have hnone : Decimal.readParts (strip (amountText "")) = none := by decide +kernel
  intro r hr
  rw [fileRows_walletFiles, List.mem_singleton] at hr
  rw [hr, AmountsManageable, amountTexts_incomingRow hin hout]
  simp only [List.forall_mem_cons, Manageable, hone, hnone, Option.some.injEq, forall_eq']
  exact ⟨⟨by decide +kernel, by decide +kernel⟩, fun _ hparts => (nomatch hparts),
    fun _ hmem => by cases hmem⟩

lemma ownedAddress_wallet : ∀ address ∈ [hotAddress, coldAddress],
    OwnedAddress walletEnvironment.lower address := by
  simp only [List.forall_mem_cons]
  exact ⟨⟨hotAddress, by decide +kernel, by decide +kernel⟩,
    ⟨coldAddress, by decide +kernel, by decide +kernel⟩, fun _ h => by cases h⟩

lemma nativeCells_incomingRow_cold : nativeCells walletEnvironment (incomingRow coldAddress) =
    .ok (incomingCells coldAddress) := rfl

/-- One ETH from one address of the wallet to the other, by the export of the first. -/
lemma spoiltRow_walletFiles : SpoiltRow walletEnvironment
    (runContext walletEnvironment "wallet" (walletFiles coldAddress) [hotAddress, coldAddress])
    ⟨nativeExport hotAddress [incomingRow coldAddress], .nativeTransfers, 2,
      incomingRow coldAddress⟩ := by
  have hpositive : 0 < (shownValue (incomingRow coldAddress) "Value_IN").rounded.coeff := by decide
  have hnothing : (shownValue (incomingRow coldAddress) "Value_OUT").rounded = 0 := by decide
  have hto : hotAddress ∈ [hotAddress, coldAddress] := List.mem_cons_self
  have hfrom : coldAddress ∈ [hotAddress, coldAddress] :=
    List.mem_cons_of_mem _ List.mem_cons_self
  exact ⟨⟨_, .native nativeCells_incomingRow_cold (by decide) rfl
    (.inl (Decimal.pos_of_rounded_pos hpositive))⟩, _, nativeCells_incomingRow_cold,
    .arrives List.not_mem_nil List.mem_cons_self ⟨hpositive, hnothing, hto⟩ (.inl hfrom)⟩

/-- The move is booked at the address that receives it, and nowhere at the address that sends it. -/
theorem own_move_booked_once :
    ¬∀ (env : EvmEnvironment) (source : String) (files : List EvmFile) (ownedAddresses : List String),
      CaseMaps env.toKernelEnvironment →
        (∀ address ∈ ownedAddresses, OwnedAddress env.lower address) →
          (∀ r ∈ fileRows files, AmountsReadable r) → Accounted env source files ownedAddresses := by
  intro h
  have hreadable :=
    @amountsReadable_walletFiles coldAddress (by decide +kernel) (by decide +kernel)
  have haccounted := h walletEnvironment "wallet" (walletFiles coldAddress)
    [hotAddress, coldAddress] caseMaps_walletEnvironment ownedAddress_wallet hreadable
  have hrow := (fileRows_walletFiles coldAddress).symm ▸ List.mem_singleton_self _
  have hsettled := @exists_settled_row walletEnvironment "wallet" (walletFiles coldAddress)
    [hotAddress, coldAddress] caseMaps_walletEnvironment ownedAddress_wallet hreadable _ hrow
    (amountsManageable_walletFiles (by decide +kernel) (by decide +kernel) _ hrow)
  exact not_spoilt_of_accounted hsettled (haccounted.2 _ hrow) spoiltRow_walletFiles

/-- A deposit from an address of somebody else is accounted for. -/
theorem transfers_accounted_iff_deposit : Accounted walletEnvironment "wallet"
    (walletFiles "0x8617e340b3d01fa5f11f306f4090fd50e238070d") [hotAddress, coldAddress] := by
  have hcells : nativeCells walletEnvironment
      (incomingRow "0x8617e340b3d01fa5f11f306f4090fd50e238070d") =
        .ok (incomingCells "0x8617e340b3d01fa5f11f306f4090fd50e238070d") := rfl
  refine (transfers_accounted_iff caseMaps_walletEnvironment ownedAddress_wallet
    (amountsReadable_walletFiles (by decide +kernel) (by decide +kernel))).2 ?_
  intro r hr
  refine ⟨amountsManageable_walletFiles (by decide +kernel) (by decide +kernel) r hr, ?_⟩
  rw [fileRows_walletFiles, List.mem_singleton] at hr
  rw [hr]
  rintro ⟨_, cells, hsame, hspoilt⟩
  cases Except.ok.inj (hsame.symm.trans hcells)
  cases hspoilt with
  | vanishes _ hnone _ => exact absurd hnone (by decide)
  | leaves _ _ hleaves _ => exact absurd hleaves.1 (by decide)
  | arrives _ _ _ hspoilt =>
      rcases hspoilt with hfrom | houtside
      · exact absurd hfrom (by decide)
      · exact houtside (by decide)

end EvmExplorer
end Tallylot
