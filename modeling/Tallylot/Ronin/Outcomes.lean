import Tallylot.Data.Parts
import Tallylot.Ronin.Groups

/-!
# Outcomes — what becomes of a transaction

Every transaction has the rows of its hash (`rows_of_rawGroups`, `summaryByHash_eq`), and its drafts
have that hash (`draft_txHash`), so that the drafts of a run are told apart by the transactions that
they come from (`drafts_of_hash`).  A summary group leaves drafts exactly where it is supported, all at
the time that was found for it (`summaryGroup_drafts`).
-/

namespace Tallylot
namespace Ronin

open Data Domain Normalization Transactions

/-! ## Drafts -/

/-- A draft shows the fields that it is built from, but for its location. -/
lemma fields_of_build {fields : EconomicActivityDraftFields} {draft : EconomicActivityDraft}
    (h : economicActivityDraft.build fields = .ok draft) :
    ∃ location, draft.val = { fields with locationId := location } := by
  rcases (draft_postInit_eq_ok_iff _ _).1 (economicActivityDraft.make_of_build h) with
    ⟨location, _, _, _, _, hval⟩
  exact ⟨location, hval⟩

section

variable {env : KernelEnvironment} {source : String} {ownedAddresses : List String}

lemma kind_of_primaryLeg {quantity : Decimal} {assetSymbol : String} {leg : EconomicLegDraft}
    (h : primaryLeg env quantity assetSymbol = .ok leg) : leg.val.kind = .primary := by
  rcases bind_eq_ok_iff.1 h with ⟨claim, _, hleg⟩
  rw [val_of_build_leg hleg]

/-- A draft of a summary row: a move of its transaction, without a charge. -/
structure FromSummary (rows : List RoninSummaryRow) (timestamp : Instant)
    (draft : EconomicActivityDraft) : Prop where
  txHash : ∃ row ∈ rows, draft.val.txHash = row.txHash
  timestamp : draft.val.timestamp = timestamp
  primary : ∀ leg ∈ draft.val.legs, leg.val.kind = .primary

lemma fromSummary_of_draft {rows : List RoninSummaryRow} {row : RoninSummaryRow}
    {context : SummaryDraftContext} {draft : EconomicActivityDraft} (hrow : row ∈ rows)
    (h : summaryTransferDraft env source row context = .ok draft) :
    FromSummary rows context.timestamp draft := by
  rcases bind_eq_ok_iff.1 h with ⟨leg, hleg, hdraft⟩
  rcases fields_of_build hdraft with ⟨location, hval⟩
  constructor
  · exact ⟨row, hrow, congrArg EconomicActivityDraftFields.txHash hval⟩
  · exact congrArg EconomicActivityDraftFields.timestamp hval
  · rw [hval]
    intro other hother
    rw [List.mem_singleton.1 hother]
    exact kind_of_primaryLeg hleg

/-! ## Summary groups -/

/-- The rows of a group make one of the supported shapes of its action. -/
def SupportedAction (ownedAddresses : List String) (first : RoninSummaryRow)
    (others : List RoninSummaryRow) : Prop :=
  (first.actionType = "transfer" ∧ others = [] ∧
      (arrives ownedAddresses first = true ∨ departs ownedAddresses first = true)) ∨
    (first.actionType = "stakeaxs" ∧ others = [] ∧ departs ownedAddresses first = true) ∨
      (first.actionType = "restakeaxs" ∧ others.length = 1 ∧
        (restakePair ownedAddresses (first :: others)).isSome = true)

/-- The rows share their time and their action, and are supported. -/
def SupportedSummary (ownedAddresses : List String) : List RoninSummaryRow → Prop
  | [] => False
  | first :: others =>
      (∀ row ∈ others, row.localTimestamp = first.localTimestamp) ∧
        (∀ row ∈ others, row.actionType = first.actionType) ∧
          SupportedAction ownedAddresses first others

/-- Both rows of a pair are rows of the group. -/
lemma mem_of_restakePair {rows : List RoninSummaryRow} {pair : RoninSummaryRow × RoninSummaryRow}
    (h : restakePair ownedAddresses rows = some pair) : pair.1 ∈ rows ∧ pair.2 ∈ rows := by
  unfold restakePair at h
  split at h
  · rename_i positiveRow negativeRow hpositive hnegative
    split_ifs at h
    rw [← Option.some.inj h]
    exact ⟨List.mem_of_find?_eq_some hpositive, List.mem_of_find?_eq_some hnegative⟩
  · cases h

/-- The drafts that some rows leave at a time, if they are of a supported shape. -/
def Leaves (rows : List RoninSummaryRow) (timestamp : Instant) (supported : Prop)
    (translated : Translated) : Prop :=
  (∀ draft ∈ translated.1, FromSummary rows timestamp draft) ∧ (translated.1 ≠ [] ↔ supported)

lemma leaves_nothing {rows : List RoninSummaryRow} {timestamp : Instant} {supported : Prop}
    {issues : List IssueRecord} (h : ¬supported) : Leaves rows timestamp supported ([], issues) :=
  ⟨List.forall_mem_nil _, iff_of_false (fun hne => hne rfl) h⟩

/-- One draft is left where there is one. -/
lemma leaves_draft {row : RoninSummaryRow} {context : SummaryDraftContext} {supported : Prop}
    {translated : Translated} (hsupported : supported)
    (h : (summaryTransferDraft env source row context >>= fun draft => .ok ([draft], [])) =
      .ok translated) : Leaves [row] context.timestamp supported translated := by
  rcases bind_eq_ok_iff.1 h with ⟨draft, hdraft, hval⟩
  rw [← Except.ok.inj hval]
  exact ⟨List.forall_mem_singleton.2 (fromSummary_of_draft List.mem_cons_self hdraft),
    iff_of_true (List.cons_ne_nil _ _) hsupported⟩

lemma leaves_transferRow {row : RoninSummaryRow} {timestamp : Instant} {translated : Translated}
    (h : translateSummaryTransferRow env source ownedAddresses row timestamp = .ok translated) :
    Leaves [row] timestamp
      (arrives ownedAddresses row = true ∨ departs ownedAddresses row = true) translated := by
  unfold translateSummaryTransferRow at h
  split_ifs at h with harrives hdeparts
  · exact leaves_draft (.inl harrives) h
  · exact leaves_draft (.inr hdeparts) h
  · rw [← Except.ok.inj h]
    exact leaves_nothing (fun hmoves => hmoves.elim harrives hdeparts)

lemma leaves_stakeRow {row : RoninSummaryRow} {timestamp : Instant} {translated : Translated}
    (h : translateSummaryStakeRow env source ownedAddresses row timestamp = .ok translated) :
    Leaves [row] timestamp (departs ownedAddresses row = true) translated := by
  unfold translateSummaryStakeRow at h
  split_ifs at h with hdeparts
  · exact leaves_draft hdeparts h
  · rw [← Except.ok.inj h]
    exact leaves_nothing hdeparts

lemma leaves_restakeRows {first : RoninSummaryRow} {rows : List RoninSummaryRow} {timestamp : Instant}
    {translated : Translated}
    (h : translateSummaryRestakeRows env source ownedAddresses first rows timestamp =
      .ok translated) :
    Leaves rows timestamp ((restakePair ownedAddresses rows).isSome = true) translated := by
  unfold translateSummaryRestakeRows at h
  split at h
  · rename_i pair hpair
    rcases mem_of_restakePair hpair with ⟨hpositive, hnegative⟩
    rcases bind_eq_ok_iff.1 h with ⟨reward, hreward, hrest⟩
    rcases bind_eq_ok_iff.1 hrest with ⟨stake, hstake, hval⟩
    rw [← Except.ok.inj hval]
    refine ⟨?_, iff_of_true (List.cons_ne_nil _ _) (Option.isSome_of_eq_some hpair)⟩
    simp only [List.forall_mem_cons]
    exact ⟨fromSummary_of_draft hpositive hreward, fromSummary_of_draft hnegative hstake,
      List.forall_mem_nil _⟩
  · rename_i hpair
    rw [← Except.ok.inj h]
    exact leaves_nothing (by rw [hpair, Option.isSome_none]; exact Bool.false_ne_true)

/-- Rows that share their action leave drafts where they make a supported shape of it. -/
lemma leaves_supported {first : RoninSummaryRow} {others : List RoninSummaryRow}
    {timestamp : Instant} {translated : Translated}
    (h : translateSupportedSummaryGroup env source ownedAddresses first others timestamp =
      .ok translated) :
    Leaves (first :: others) timestamp (SupportedAction ownedAddresses first others) translated := by
  unfold translateSupportedSummaryGroup at h
  split_ifs at h with htransfer hstake hrestake
  · have hshape : SupportedAction ownedAddresses first others ↔
        (arrives ownedAddresses first = true ∨ departs ownedAddresses first = true) := by
      simp [SupportedAction, htransfer]
    rw [hshape, htransfer.2]
    exact leaves_transferRow h
  · have hshape : SupportedAction ownedAddresses first others ↔
        departs ownedAddresses first = true := by
      simp [SupportedAction, hstake]
    rw [hshape, hstake.2]
    exact leaves_stakeRow h
  · have hshape : SupportedAction ownedAddresses first others ↔
        (restakePair ownedAddresses (first :: others)).isSome = true := by
      simp [SupportedAction, hrestake]
    rw [hshape]
    exact leaves_restakeRows h
  · rw [← Except.ok.inj h]
    refine leaves_nothing ?_
    rintro (⟨haction, hothers, _⟩ | ⟨haction, hothers, _⟩ | ⟨haction, hothers, _⟩)
    · exact htransfer ⟨haction, hothers⟩
    · exact hstake ⟨haction, hothers⟩
    · exact hrestake ⟨haction, hothers⟩

/-- The time that is found for a group of rows. -/
def foundTime (calibrations : List Calibration) (timestampOverride : Option Instant) :
    List RoninSummaryRow → Decoded (Option Instant)
  | [] => .ok none
  | first :: _ => summaryTimestamp first.localTimestamp calibrations timestampOverride

/-- A group leaves drafts where it is supported and a time is found for it, all at that time. -/
structure SummaryOutcome (ownedAddresses : List String) (rows : List RoninSummaryRow)
    (time : Decoded (Option Instant)) (translated : Translated) : Prop where
  left : translated.1 ≠ [] → ∃ timestamp, time = .ok (some timestamp) ∧
    SupportedSummary ownedAddresses rows ∧
      ∀ draft ∈ translated.1, FromSummary rows timestamp draft
  leaves : ∀ timestamp, time = .ok (some timestamp) → SupportedSummary ownedAddresses rows →
    translated.1 ≠ []
  found : SupportedSummary ownedAddresses rows → ∃ timestamp, time = .ok timestamp

lemma summaryOutcome_nothing {rows : List RoninSummaryRow} {time : Decoded (Option Instant)}
    {issues : List IssueRecord} (h : ¬SupportedSummary ownedAddresses rows) :
    SummaryOutcome ownedAddresses rows time ([], issues) :=
  ⟨fun hne => absurd rfl hne, fun _ _ hsupported => absurd hsupported h,
    fun hsupported => absurd hsupported h⟩

lemma shared_of_not_any {α κ : Type} [DecidableEq κ] {key : α → κ} {first : α} {others : List α}
    (h : ¬others.any (fun row => key row ≠ key first) = true) :
    ∀ row ∈ others, key row = key first := by
  intro row hrow
  by_contra hne
  exact h (List.any_eq_true.2 ⟨row, hrow, decide_eq_true hne⟩)

theorem summaryGroup_outcome {rows : List RoninSummaryRow} {calibrations : List Calibration}
    {timestampOverride : Option Instant} {translated : Translated}
    (h : translateSummaryGroup env source ownedAddresses rows calibrations timestampOverride =
      .ok translated) :
    SummaryOutcome ownedAddresses rows (foundTime calibrations timestampOverride rows)
      translated := by
  cases rows with
  | nil =>
      rw [← Except.ok.inj h]
      exact summaryOutcome_nothing id
  | cons first others =>
      unfold translateSummaryGroup at h
      dsimp only at h
      split_ifs at h with hambiguous
      · rw [← Except.ok.inj h]
        refine summaryOutcome_nothing (fun hsupported => ?_)
        rcases List.any_eq_true.1 hambiguous with ⟨row, hrow, hne⟩
        exact of_decide_eq_true hne (hsupported.1 row hrow)
      · rcases bind_eq_ok_iff.1 h with ⟨found, hfound, hrest⟩
        rw [foundTime, hfound]
        cases found with
        | none =>
            rw [← Except.ok.inj hrest]
            refine ⟨fun hne => absurd rfl hne, fun _ hsome _ => ?_, fun _ => ⟨none, rfl⟩⟩
            cases hsome
        | some timestamp =>
            unfold translateTimedSummaryGroup at hrest
            dsimp only at hrest
            split_ifs at hrest with haction
            · rw [← Except.ok.inj hrest]
              refine summaryOutcome_nothing (fun hsupported => ?_)
              rcases List.any_eq_true.1 haction with ⟨row, hrow, hne⟩
              exact of_decide_eq_true hne (hsupported.2.1 row hrow)
            · rcases leaves_supported hrest with ⟨hdrafts, hsupported⟩
              exact ⟨fun hne => ⟨timestamp, rfl, ⟨shared_of_not_any hambiguous,
                shared_of_not_any haction, hsupported.1 hne⟩, hdrafts⟩,
                fun _ _ hall => hsupported.2 hall.2.2, fun _ => ⟨_, rfl⟩⟩

end

/-! ## Raw rows -/

section

variable {env : KernelEnvironment} {source : String} {ownedAddresses : List String}

/-- A draft of a raw row: a move of its transaction, and the charge of a fee. -/
structure FromRaw (env : KernelEnvironment) (row : RoninRawRow) (fee : Decimal)
    (draft : EconomicActivityDraft) : Prop where
  txHash : draft.val.txHash = row.txHash
  legs : ∃ primary charges attributedToLegId, draft.val.legs = primary :: charges ∧
    primary.val.kind = .primary ∧ feeLegs env fee attributedToLegId = .ok charges

lemma fromRaw_of_draft {row : RoninRawRow} {quantity : Decimal} {context : RoninRawDraftContext}
    {draft : EconomicActivityDraft} (h : transferDraft env row quantity context = .ok draft) :
    FromRaw env row context.fee draft := by
  rcases bind_eq_ok_iff.1 h with ⟨primary, hprimary, hrest⟩
  rcases bind_eq_ok_iff.1 hrest with ⟨charges, hcharges, hdraft⟩
  rcases fields_of_build hdraft with ⟨location, hval⟩
  exact ⟨congrArg EconomicActivityDraftFields.txHash hval, primary, charges, _,
    congrArg EconomicActivityDraftFields.legs hval, kind_of_primaryLeg hprimary, hcharges⟩

/-- Nothing, or the draft of a row. -/
def LeavesRow (env : KernelEnvironment) (row : RoninRawRow) (fee : Decimal)
    (drafts : List EconomicActivityDraft) : Prop :=
  drafts = [] ∨ ∃ draft, drafts = [draft] ∧ FromRaw env row fee draft

lemma leavesRow_of_draft {row : RoninRawRow} {quantity : Decimal} {context : RoninRawDraftContext}
    {translated : Translated}
    (h : (transferDraft env row quantity context >>= fun draft => .ok ([draft], [])) =
      .ok translated) : LeavesRow env row context.fee translated.1 := by
  rcases bind_eq_ok_iff.1 h with ⟨draft, hdraft, hval⟩
  rw [← Except.ok.inj hval]
  exact .inr ⟨draft, rfl, fromRaw_of_draft hdraft⟩

lemma leavesRow_transfer {row : RoninRawRow} {fee : Decimal} {translated : Translated}
    (h : translateTransferRawRow env source ownedAddresses row fee = .ok translated) :
    LeavesRow env row fee translated.1 := by
  rcases bind_eq_ok_iff.1 h with ⟨shape, hshape, hval⟩
  rw [← Except.ok.inj hval]
  unfold simpleTransferDraft at hshape
  split_ifs at hshape
  · rcases bind_eq_ok_iff.1 hshape with ⟨draft, hdraft, hsome⟩
    rw [← Except.ok.inj hsome]
    exact .inr ⟨draft, rfl, fromRaw_of_draft hdraft⟩
  · rcases bind_eq_ok_iff.1 hshape with ⟨draft, hdraft, hsome⟩
    rw [← Except.ok.inj hsome]
    exact .inr ⟨draft, rfl, fromRaw_of_draft hdraft⟩
  · rw [← Except.ok.inj hshape]
    exact .inl rfl

/-- A row leaves nothing, or its draft, and this only if it is successful. -/
lemma rawRow_drafts {row : RoninRawRow} {fee : Decimal} {translated : Translated}
    (h : translateRawRow env source ownedAddresses row fee = .ok translated) :
    translated.1 = [] ∨
      row.status = "success" ∧ ∃ draft, translated.1 = [draft] ∧ FromRaw env row fee draft := by
  unfold translateRawRow at h
  split_ifs at h with hstatus
  · rw [← Except.ok.inj h]
    exact .inl rfl
  · have hleaves : LeavesRow env row fee translated.1 := by
      unfold translateSupportedRawRow translateStakeRawRow translateUnstakeRawRow
        translateRewardRawRow at h
      split_ifs at h
      · exact leavesRow_transfer h
      · exact leavesRow_of_draft h
      · exact .inl (congrArg Prod.fst (Except.ok.inj h)).symm
      · exact leavesRow_of_draft h
      · exact .inl (congrArg Prod.fst (Except.ok.inj h)).symm
      · exact leavesRow_of_draft h
      · exact .inl (congrArg Prod.fst (Except.ok.inj h)).symm
      · exact .inl (congrArg Prod.fst (Except.ok.inj h)).symm
      · exact .inl (congrArg Prod.fst (Except.ok.inj h)).symm
    exact hleaves.imp_right (fun hdraft => ⟨not_not.1 hstatus, hdraft⟩)

/-- The rows are a reward and its stake. -/
def RestakeRows (ownedAddresses : List String) (rows : List RoninRawRow) : Prop :=
  rows.length = 2 ∧ ∃ rewardRow stakeRow,
    rows.find? (isIncoming ownedAddresses) = some rewardRow ∧
      rows.find? (isOutgoing ownedAddresses) = some stakeRow ∧
        rewardRow.assetSymbol = stakeRow.assetSymbol

/-- A reward without a charge, and a stake that bears the fee. -/
def IsRestakePair (env : KernelEnvironment) (rows : List RoninRawRow) (fee : Decimal)
    (drafts : List EconomicActivityDraft) : Prop :=
  ∃ rewardRow ∈ rows, ∃ stakeRow ∈ rows, ∃ reward stake, drafts = [reward, stake] ∧
    FromRaw env rewardRow 0 reward ∧ FromRaw env stakeRow fee stake

lemma rawRestakePairDrafts_eq {rows : List RoninRawRow} {fee : Decimal}
    {drafts : Option (List EconomicActivityDraft)}
    (h : rawRestakePairDrafts env source ownedAddresses rows fee = .ok drafts) :
    (drafts = none ∧ ¬RestakeRows ownedAddresses rows) ∨
      RestakeRows ownedAddresses rows ∧ ∃ pair, drafts = some pair ∧
        IsRestakePair env rows fee pair := by
  unfold rawRestakePairDrafts at h
  split_ifs at h with hlength
  · exact .inl ⟨(Except.ok.inj h).symm, fun hrows => hlength hrows.1⟩
  · split at h
    · rename_i rewardRow stakeRow hreward hstake
      split_ifs at h with hasset
      · refine .inl ⟨(Except.ok.inj h).symm, ?_⟩
        rintro ⟨_, reward, stake, hreward', hstake', hsame⟩
        rw [hreward] at hreward'
        rw [hstake] at hstake'
        cases hreward'
        cases hstake'
        exact hasset hsame
      · rcases bind_eq_ok_iff.1 h with ⟨reward, hrewardDraft, hrest⟩
        rcases bind_eq_ok_iff.1 hrest with ⟨stake, hstakeDraft, hval⟩
        refine .inr ⟨⟨not_not.1 hlength, rewardRow, stakeRow, hreward, hstake, not_not.1 hasset⟩,
          [reward, stake], (Except.ok.inj hval).symm, ?_⟩
        exact ⟨rewardRow, List.mem_of_find?_eq_some hreward, stakeRow,
          List.mem_of_find?_eq_some hstake, reward, stake, rfl, fromRaw_of_draft hrewardDraft,
          fromRaw_of_draft hstakeDraft⟩
    · rename_i hnone
      refine .inl ⟨(Except.ok.inj h).symm, ?_⟩
      rintro ⟨_, reward, stake, hreward, hstake, _⟩
      exact hnone reward stake hreward hstake

/-- Every raw row of the transaction has the method `restakerewards`. -/
def IsRestake (group : RawGroup) : Prop := ∀ row ∈ group.rows, row.method = "restakerewards"

/-- What a transaction with raw rows leaves. -/
inductive RawOutcome (env : KernelEnvironment) (source : String) (ownedAddresses : List String)
    (group : RawGroup) (summaryRows : List RoninSummaryRow) (drafts : List EconomicActivityDraft) :
    Prop where
  | nothing
      (drafts_nil : drafts = [])
      (unsupported : IsRestake group →
        ¬SupportedSummary ownedAddresses summaryRows ∧ ¬RestakeRows ownedAddresses group.rows)
  | row
      (method : ¬IsRestake group)
      (status : ∀ row ∈ group.rows, row.status = "success")
      (draft : ∃ draft, drafts = [draft] ∧
        FromRaw env group.first (resolveFee source group.rows).authoritativeFee draft)
  | summaryBacked
      (method : IsRestake group)
      (supported : SupportedSummary ownedAddresses summaryRows)
      (left : drafts ≠ [])
      (fromSummary : ∀ draft ∈ drafts, FromSummary summaryRows group.first.timestamp draft)
  | rawPair
      (method : IsRestake group)
      (unsupported : ¬SupportedSummary ownedAddresses summaryRows)
      (restake : RestakeRows ownedAddresses group.rows)
      (pair : IsRestakePair env group.rows (resolveFee source group.rows).authoritativeFee drafts)

lemma restake_outcome {group : RawGroup} {summaryRows : List RoninSummaryRow} {result : GroupResult}
    (hmethod : IsRestake group)
    (h : translateRestake env source ownedAddresses group summaryRows = .ok result) :
    RawOutcome env source ownedAddresses group summaryRows result.drafts := by
  rcases bind_eq_ok_iff.1 h with ⟨backed, hbacked, hrest⟩
  rcases bind_eq_ok_iff.1 hbacked with ⟨translated, htranslated, hval⟩
  have houtcome := summaryGroup_outcome htranslated
  by_cases hnil : translated.1 = []
  · rw [← Except.ok.inj hval, if_pos hnil] at hrest
    have hunsupported : ¬SupportedSummary ownedAddresses summaryRows := by
      intro hsupported
      cases summaryRows with
      | nil => exact hsupported
      | cons first others => exact houtcome.leaves group.first.timestamp rfl hsupported hnil
    rcases bind_eq_ok_iff.1 hrest with ⟨pair, hpair, hresult⟩
    rcases rawRestakePairDrafts_eq hpair with ⟨rfl, hno⟩ | ⟨hrows, drafts, rfl, hdrafts⟩
    · refine .nothing ?_ (fun _ => ⟨hunsupported, hno⟩)
      rw [← Except.ok.inj hresult]
    · refine .rawPair hmethod hunsupported hrows ?_
      rw [← Except.ok.inj hresult]
      exact hdrafts
  · rw [← Except.ok.inj hval, if_neg hnil] at hrest
    rcases houtcome.left hnil with ⟨timestamp, htime, hsupported, hdrafts⟩
    have htimestamp : timestamp = group.first.timestamp := by
      cases summaryRows with
      | nil => exact hsupported.elim
      | cons first others => exact (Option.some.inj (Except.ok.inj htime)).symm
    refine .summaryBacked hmethod hsupported ?_ ?_
    · rw [← Except.ok.inj hrest]
      exact hnil
    · rw [← Except.ok.inj hrest, ← htimestamp]
      exact hdrafts

theorem rawGroup_outcome {group : RawGroup} {summaryRows : List RoninSummaryRow}
    {result : GroupResult}
    (h : translateRawGroup env source ownedAddresses group summaryRows = .ok result) :
    RawOutcome env source ownedAddresses group summaryRows result.drafts := by
  unfold translateRawGroup at h
  split_ifs at h with hambiguous hrestake hothers
  · refine .nothing ?_ (fun hmethod => ?_)
    · rw [← Except.ok.inj h]
    · rcases List.any_eq_true.1 hambiguous with ⟨row, hrow, hne⟩
      exact absurd ((hmethod row (List.mem_cons_of_mem _ hrow)).trans
        (hmethod group.first List.mem_cons_self).symm) (of_decide_eq_true hne)
  · refine restake_outcome ?_ h
    intro row hrow
    rcases List.mem_cons.1 hrow with rfl | hrow
    · exact hrestake
    · exact (shared_of_not_any hambiguous row hrow).trans hrestake
  · refine .nothing ?_ (fun hmethod => absurd (hmethod group.first List.mem_cons_self) hrestake)
    rw [← Except.ok.inj h]
  · rcases bind_eq_ok_iff.1 h with ⟨translated, htranslated, hval⟩
    have hmethod : ¬IsRestake group := fun hall => hrestake (hall group.first List.mem_cons_self)
    rw [← Except.ok.inj hval]
    rcases rawRow_drafts htranslated with hnil | ⟨hstatus, hdraft⟩
    · exact .nothing hnil (fun hall => absurd hall hmethod)
    · refine .row hmethod (fun row hrow => ?_) hdraft
      rw [RawGroup.rows, not_not.1 hothers] at hrow
      rw [List.mem_singleton.1 hrow]
      exact hstatus

end

/-! ## The rows of a transaction -/

/-- The rows of every hash are rows of that hash. -/
lemma rowsByHash_spec (rows : List RoninRawRow) :
    ∀ e ∈ (rowsByHash rows).entries, ∀ row ∈ e.2.values, row ∈ rows ∧ row.txHash = e.1 := by
  have hall : ∀ txHash group, (rowsByHash rows).get? txHash = some group →
      ∀ row ∈ group.values, row ∈ rows ∧ row.txHash = txHash := by
    induction rows using List.reverseRecOn with
    | nil =>
        intro txHash group h
        cases h
    | append_singleton rows raw ih =>
        intro txHash group h row hrow
        have hstep : rowsByHash (rows ++ [raw]) = (rowsByHash rows).upsert raw.txHash (fun group =>
            (group.getD Dict.empty).set (rawSignature raw) raw) := by
          rw [rowsByHash, List.foldl_append]
          rfl
        rw [hstep, Dict.get?_upsert] at h
        split_ifs at h with hhash
        · rw [← Option.some.inj h] at hrow
          rcases List.mem_map.1 hrow with ⟨e, he, rfl⟩
          -- An entry is the one that was written last, or was there before.
          have hget := (Dict.get?_eq_some_iff _ _ _).2 he
          rw [Dict.get?_set] at hget
          split_ifs at hget with hsignature
          · rw [← Option.some.inj hget]
            exact ⟨List.mem_append_right _ List.mem_cons_self, hhash.symm⟩
          · cases hold : (rowsByHash rows).get? raw.txHash with
            | none =>
                rw [hold] at hget
                cases hget
            | some old =>
                rw [hold] at hget
                have hmem : e.2 ∈ old.values :=
                  List.mem_map_of_mem ((Dict.get?_eq_some_iff _ _ _).1 hget)
                rcases ih _ _ hold _ hmem with ⟨hin, heq⟩
                exact ⟨List.mem_append_left _ hin, heq.trans hhash.symm⟩
        · rcases ih _ _ h _ hrow with ⟨hin, heq⟩
          exact ⟨List.mem_append_left _ hin, heq⟩
  intro e he
  exact hall e.1 e.2 ((Dict.get?_eq_some_iff _ _ _).2 he)

lemma rows_of_ofRows {rows : List RoninRawRow} {group : RawGroup}
    (h : RawGroup.ofRows rows = some group) : group.rows = rows := by
  cases rows with
  | nil => cases h
  | cons first others =>
      rw [← Option.some.inj h]
      rfl

/-- A transaction has rows of its hash only. -/
theorem rows_of_rawGroups {rows : List RoninRawRow} {group : RawGroup} (h : group ∈ rawGroups rows) :
    ∀ row ∈ group.rows, row ∈ rows ∧ row.txHash = group.first.txHash := by
  rcases List.mem_filterMap.1 (mem_sortedOn.1 h) with ⟨values, hvalues, hgroup⟩
  rcases List.mem_map.1 hvalues with ⟨e, he, rfl⟩
  have hrows : ∀ row ∈ group.rows, row ∈ rows ∧ row.txHash = e.1 := by
    intro row hrow
    rw [rows_of_ofRows hgroup, mem_sortedOn] at hrow
    exact rowsByHash_spec rows e he row hrow
  intro row hrow
  exact ⟨(hrows row hrow).1,
    (hrows row hrow).2.trans (hrows group.first List.mem_cons_self).2.symm⟩

/-- Every hash has one transaction. -/
theorem nodup_rawGroups (rows : List RoninRawRow) :
    ((rawGroups rows).map (fun group => group.first.txHash)).Nodup := by
  have hlabels : ∀ e ∈ (rowsByHash rows).entries, ∀ group,
      RawGroup.ofRows (sortedOn rawRowKey e.2.values) = some group → group.first.txHash = e.1 := by
    intro e he group hgroup
    have hfirst : group.first ∈ group.rows := List.mem_cons_self
    rw [rows_of_ofRows hgroup, mem_sortedOn] at hfirst
    exact (rowsByHash_spec rows e he _ hfirst).2
  have hkeys : (rowsByHash rows).entries.Pairwise (fun e e' => e.1 ≠ e'.1) :=
    List.pairwise_map.1 (rowsByHash rows).nodup_keys
  rw [rawGroups, ((sortedOn_perm _ _).map _).nodup_iff, Dict.values, List.filterMap_map]
  refine List.pairwise_map.2 (List.Pairwise.filterMap _ ?_ (List.Pairwise.and_mem.1 hkeys))
  rintro e e' ⟨he, he', hne⟩ group hgroup group' hgroup' heq
  exact hne ((hlabels e he group hgroup).symm.trans (heq.trans (hlabels e' he' group' hgroup')))

/-! ## Runs -/

section

variable {env : KernelEnvironment} {source : String} {ownedAddresses : List String}
  {rows : List RoninRawRow} {summaryRows : List RoninSummaryRow}

/-- A transaction with raw rows is found by its hash. -/
lemma rawGroupsByHash_eq {group : RawGroup} (h : group ∈ rawGroups rows) :
    (transactionsOf (rawGroups rows) summaryRows).rawGroupsByHash.get? group.first.txHash =
      some group := by
  have hnodup : (((rawGroups rows).map (fun group => (group.first.txHash, group))).map
      Prod.fst).Nodup := by
    rw [List.map_map]
    exact nodup_rawGroups rows
  rw [Dict.get?_eq_some_iff, transactionsOf, Dict.entries_ofList hnodup]
  exact List.mem_map_of_mem h

/-- Only transactions with raw rows are found. -/
lemma mem_of_rawGroupsByHash {txHash : String} {group : RawGroup}
    (h : (transactionsOf (rawGroups rows) summaryRows).rawGroupsByHash.get? txHash = some group) :
    group ∈ rawGroups rows ∧ group.first.txHash = txHash := by
  rcases List.mem_map.1 (Dict.mem_of_mem_entries_ofList ((Dict.get?_eq_some_iff _ _ _).1 h)) with
    ⟨other, hother, heq⟩
  rw [Prod.mk.injEq] at heq
  exact ⟨heq.2 ▸ hother, heq.2 ▸ heq.1⟩

/-- The summary rows of a transaction. -/
def summaryRowsOf (summaryRows : List RoninSummaryRow) (txHash : String) : List RoninSummaryRow :=
  summaryRows.filter (fun row => row.txHash = txHash)

lemma summaryByHash_eq (groups : List RawGroup) (txHash : String) :
    ((transactionsOf groups summaryRows).summaryByHash.get? txHash).getD [] =
      summaryRowsOf summaryRows txHash :=
  Dict.getD_get?_group _ _ _

lemma txHash_of_summaryRowsOf {txHash : String} {row : RoninSummaryRow}
    (h : row ∈ summaryRowsOf summaryRows txHash) : row.txHash = txHash :=
  of_decide_eq_true (List.mem_filter.1 h).2

lemma txHash_of_summaryGroup {txHash : String} {calibrations : List Calibration}
    {timestampOverride : Option Instant} {translated : Translated}
    (h : translateSummaryGroup env source ownedAddresses (summaryRowsOf summaryRows txHash)
      calibrations timestampOverride = .ok translated) :
    ∀ draft ∈ translated.1, draft.val.txHash = txHash := by
  intro draft hdraft
  rcases (summaryGroup_outcome h).left (List.ne_nil_of_mem hdraft) with ⟨_, _, _, hdrafts⟩
  rcases (hdrafts draft hdraft).txHash with ⟨row, hrow, heq⟩
  exact heq.trans (txHash_of_summaryRowsOf hrow)

lemma txHash_of_rawGroup {group : RawGroup} {result : GroupResult} (hgroup : group ∈ rawGroups rows)
    (h : translateRawGroup env source ownedAddresses group
      (summaryRowsOf summaryRows group.first.txHash) = .ok result) :
    ∀ draft ∈ result.drafts, draft.val.txHash = group.first.txHash := by
  intro draft hdraft
  cases rawGroup_outcome h with
  | nothing hnil _ =>
      rw [hnil] at hdraft
      cases hdraft
  | row _ _ hrow =>
      rcases hrow with ⟨other, hdrafts, hfrom⟩
      rw [hdrafts] at hdraft
      rw [List.mem_singleton.1 hdraft]
      exact hfrom.txHash
  | summaryBacked _ _ _ hdrafts =>
      rcases (hdrafts draft hdraft).txHash with ⟨row, hrow, heq⟩
      exact heq.trans (txHash_of_summaryRowsOf hrow)
  | rawPair _ _ _ hpair =>
      rcases hpair with ⟨rewardRow, hreward, stakeRow, hstake, reward, stake, hdrafts, hfrom, hfrom'⟩
      rw [hdrafts] at hdraft
      rcases List.mem_cons.1 hdraft with rfl | hdraft
      · exact hfrom.txHash.trans (rows_of_rawGroups hgroup rewardRow hreward).2
      · rw [List.mem_singleton.1 hdraft]
        exact hfrom'.txHash.trans (rows_of_rawGroups hgroup stakeRow hstake).2

/-- The drafts of a transaction have its hash. -/
lemma txHash_of_transaction {txHash : String} {result : GroupResult}
    (h : translateTransaction env source ownedAddresses
      (transactionsOf (rawGroups rows) summaryRows) txHash = .ok result) :
    ∀ draft ∈ result.drafts, draft.val.txHash = txHash := by
  unfold translateTransaction at h
  rw [summaryByHash_eq] at h
  dsimp only at h
  split at h
  · rename_i group hgroup
    rcases mem_of_rawGroupsByHash hgroup with ⟨hmem, rfl⟩
    exact txHash_of_rawGroup hmem h
  · rcases bind_eq_ok_iff.1 h with ⟨translated, htranslated, hval⟩
    rw [← Except.ok.inj hval]
    exact txHash_of_summaryGroup htranslated

/-- The drafts of a hash. -/
def draftsOf (run : GroupResult) (txHash : String) : List EconomicActivityDraft :=
  run.drafts.filter (fun draft => draft.val.txHash = txHash)

/-- A run over the transactions of some rows. -/
structure IsRun (env : KernelEnvironment) (source : String) (ownedAddresses : List String)
    (rows : List RoninRawRow) (summaryRows : List RoninSummaryRow) (run : GroupResult) : Prop where
  translated : ∃ results,
    (transactionsOf (rawGroups rows) summaryRows).hashes.mapM
        (translateTransaction env source ownedAddresses
          (transactionsOf (rawGroups rows) summaryRows)) = .ok results ∧
      run.drafts = results.flatMap GroupResult.drafts

/-- The drafts of a hash are those that its transaction leaves. -/
theorem drafts_of_hash {run : GroupResult} (hrun : IsRun env source ownedAddresses rows summaryRows run)
    {txHash : String} (hhash : txHash ∈ (transactionsOf (rawGroups rows) summaryRows).hashes) :
    ∃ result, translateTransaction env source ownedAddresses
        (transactionsOf (rawGroups rows) summaryRows) txHash = .ok result ∧
      draftsOf run txHash = result.drafts := by
  rcases hrun.translated with ⟨results, hresults, hdrafts⟩
  rcases mapM_ok_pairs hresults with ⟨pairs, hhashes, rfl, hpairs⟩
  have hnodup : (pairs.map Prod.fst).Nodup := by
    rw [hhashes, TransactionGroups.hashes, (sortedOn_perm _ _).nodup_iff]
    exact nodup_firsts _
  rw [← hhashes] at hhash
  rcases List.mem_map.1 hhash with ⟨p, hp, rfl⟩
  refine ⟨p.2, hpairs p hp, ?_⟩
  have hlabels : ∀ q ∈ pairs, ∀ draft ∈ q.2.drafts, draft.val.txHash = q.1 :=
    fun q hq => txHash_of_transaction (hpairs q hq)
  rw [draftsOf, hdrafts, List.flatMap_map, filter_flatMap_key hlabels,
    filter_key_eq_singleton hnodup hp, List.flatMap_singleton]

/-- Every draft is one of a transaction that the run translates. -/
lemma txHash_mem_hashes {run : GroupResult}
    (hrun : IsRun env source ownedAddresses rows summaryRows run) {draft : EconomicActivityDraft}
    (hdraft : draft ∈ run.drafts) :
    draft.val.txHash ∈ (transactionsOf (rawGroups rows) summaryRows).hashes := by
  rcases hrun.translated with ⟨results, hresults, hdrafts⟩
  rcases mapM_ok_pairs hresults with ⟨pairs, hhashes, rfl, hpairs⟩
  rw [hdrafts] at hdraft
  rcases List.mem_flatMap.1 hdraft with ⟨result, hresult, hmem⟩
  rcases List.mem_map.1 hresult with ⟨p, hp, rfl⟩
  rw [txHash_of_transaction (hpairs p hp) draft hmem, ← hhashes]
  exact List.mem_map_of_mem hp

/-- The drafts of a transaction with raw rows. -/
theorem drafts_of_rawGroup {run : GroupResult}
    (hrun : IsRun env source ownedAddresses rows summaryRows run) {group : RawGroup}
    (hgroup : group ∈ rawGroups rows) :
    RawOutcome env source ownedAddresses group (summaryRowsOf summaryRows group.first.txHash)
      (draftsOf run group.first.txHash) := by
  have hget := @rawGroupsByHash_eq rows summaryRows group hgroup
  have hhash : group.first.txHash ∈ (transactionsOf (rawGroups rows) summaryRows).hashes := by
    rw [TransactionGroups.hashes, mem_sortedOn, mem_firsts, List.mem_append]
    refine .inl ?_
    by_contra hno
    rw [(Dict.get?_eq_none_iff _ _).2 hno] at hget
    cases hget
  rcases drafts_of_hash hrun hhash with ⟨result, hresult, hdrafts⟩
  rw [hdrafts]
  unfold translateTransaction at hresult
  rw [summaryByHash_eq, hget] at hresult
  exact rawGroup_outcome hresult

/-- The drafts of a transaction of summary rows only. -/
theorem drafts_of_summaryGroup {run : GroupResult}
    (hrun : IsRun env source ownedAddresses rows summaryRows run) {txHash : String}
    (hunpaired : ∀ group ∈ rawGroups rows, group.first.txHash ≠ txHash)
    (hhash : txHash ∈ (transactionsOf (rawGroups rows) summaryRows).hashes) :
    ∃ translated : Translated, draftsOf run txHash = translated.1 ∧
      SummaryOutcome ownedAddresses (summaryRowsOf summaryRows txHash)
        (foundTime (transactionsOf (rawGroups rows) summaryRows).calibrations none
          (summaryRowsOf summaryRows txHash)) translated := by
  have hget : (transactionsOf (rawGroups rows) summaryRows).rawGroupsByHash.get? txHash = none := by
    refine Option.eq_none_iff_forall_ne_some.2 (fun group hgroup => ?_)
    rcases mem_of_rawGroupsByHash hgroup with ⟨hmem, heq⟩
    exact hunpaired group hmem heq
  rcases drafts_of_hash hrun hhash with ⟨result, hresult, hdrafts⟩
  unfold translateTransaction at hresult
  rw [summaryByHash_eq, hget] at hresult
  rcases bind_eq_ok_iff.1 hresult with ⟨translated, htranslated, hval⟩
  refine ⟨translated, ?_, summaryGroup_outcome htranslated⟩
  rw [hdrafts, ← Except.ok.inj hval]

/-- A run over some files is a run over their rows. -/
lemma isRun_of_translated {files : List RoninFile} {groups : List RawGroup}
    {summaryIssues rawIssues : List IssueRecord} {run : GroupResult}
    (hraw : collectRawGroups env source files = .ok (groups, rawIssues))
    (hsummary : collectSummaryRows env source files = .ok (summaryRows, summaryIssues))
    (hrun : translateTransactions env source files ownedAddresses = .ok run) :
    ∃ parsed, (familyRows files .explorerExport).mapM (parseRawRow env) = .ok parsed ∧
      groups = rawGroups (parsed.filterMap id) ∧
        IsRun env source ownedAddresses (parsed.filterMap id) summaryRows run := by
  rcases bind_eq_ok_iff.1 hraw with ⟨parsed, hparsed, hval⟩
  have hgroups : groups = rawGroups (parsed.filterMap id) :=
    (congrArg Prod.fst (Except.ok.inj hval)).symm
  refine ⟨parsed, hparsed, hgroups, ⟨?_⟩⟩
  rw [translateTransactions, hraw, bind_ok, hsummary, bind_ok] at hrun
  rcases bind_eq_ok_iff.1 hrun with ⟨results, hresults, hrun⟩
  rw [← hgroups]
  refine ⟨results, hresults, ?_⟩
  rw [← Except.ok.inj hrun]

end

/-! ## A wallet -/

/-- The lower case of ASCII letters. -/
def asciiEnvironment : KernelEnvironment where
  sha256 := id
  subjectText _ := ""
  repr := id
  upper := id
  lower := lowerLetters

/-- An owned address, shortened. -/
def walletAddress : String := "0x5290"

end Ronin
end Tallylot
