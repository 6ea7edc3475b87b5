import Tallylot.Ronin.Outcomes

/-!
# Fees — the statuses and the fees of Ronin transactions

A transaction with a raw row that is not successful leaves no draft, and the drafts of any other one
charge its fee once, except for restakes: the status of their rows is not looked at, and a restake that
its summary rows back is drafted without the fee (`statuses_and_fees_iff`).
-/

namespace Tallylot
namespace Ronin

open Data Domain Normalization Transactions

/-! ## Charges -/

section

variable (env : KernelEnvironment)

/-- The leg charges the asset that fees are paid in. -/
def isRonCharge (leg : EconomicLegDraft) : Bool :=
  leg.val.kind = .charge &&
    match ronClaim env with
    | .ok claim => leg.val.instrumentIdentityClaims = [claim]
    | .error _ => false

/-- What some drafts charge of that asset. -/
def ronCharged (drafts : List EconomicActivityDraft) : ℚ :=
  (drafts.map (fun draft =>
    ((draft.val.legs.filter (isRonCharge env)).map (fun leg => leg.val.quantity.toRat)).sum)).sum

end

variable {env : KernelEnvironment} {source : String} {ownedAddresses : List String}
  {rows : List RoninRawRow} {summaryRows : List RoninSummaryRow}

lemma isRonCharge_primary {leg : EconomicLegDraft} (h : leg.val.kind = .primary) :
    isRonCharge env leg = false := by
  rw [isRonCharge, h]
  rfl

/-- Drafts of summary rows charge nothing. -/
lemma ronCharged_fromSummary {timestamp : Instant} {drafts : List EconomicActivityDraft}
    (h : ∀ draft ∈ drafts, FromSummary summaryRows timestamp draft) : ronCharged env drafts = 0 := by
  refine List.sum_eq_zero (fun charged hcharged => ?_)
  rcases List.mem_map.1 hcharged with ⟨draft, hdraft, rfl⟩
  have hnone : draft.val.legs.filter (isRonCharge env) = [] := by
    refine List.filter_eq_nil_iff.2 (fun leg hleg => ?_)
    rw [isRonCharge_primary ((h draft hdraft).primary leg hleg)]
    exact Bool.false_ne_true
  rw [hnone]
  rfl

/-- The charge legs of a fee charge the fee. -/
lemma charged_feeLegs {fee : Decimal} (hfits : fee.Fits) (hnonneg : 0 ≤ fee.coeff)
    {attributedToLegId : String} {legs : List EconomicLegDraft}
    (h : feeLegs env fee attributedToLegId = .ok legs) :
    ((legs.filter (isRonCharge env)).map (fun leg => leg.val.quantity.toRat)).sum = -fee.toRat := by
  unfold feeLegs at h
  split_ifs at h with hzero
  · have hfee : fee = 0 := by
      have hcoeff : fee.coeff = 0 := le_antisymm hzero hnonneg
      rw [← Decimal.toRat_eq_zero_iff, Decimal.toRat, hcoeff, Int.cast_zero, zero_mul]
    rw [← Except.ok.inj h, hfee, Decimal.toRat_zero, neg_zero]
    rfl
  · rcases bind_eq_ok_iff.1 h with ⟨claim, hclaim, hrest⟩
    rcases bind_eq_ok_iff.1 hrest with ⟨leg, hleg, hval⟩
    have hfields := val_of_build_leg hleg
    have hcharge : isRonCharge env leg = true := by
      rw [isRonCharge, raised_eq_ok_iff.1 hclaim, hfields]
      simp
    rw [← Except.ok.inj hval, List.filter_singleton, hcharge]
    simp [hfields, Decimal.toRat_neg hfits]

/-- The draft of a raw row charges the fee that it is drafted with. -/
lemma ronCharged_fromRaw {row : RoninRawRow} {fee : Decimal} (hfits : fee.Fits)
    (hnonneg : 0 ≤ fee.coeff) {draft : EconomicActivityDraft} (h : FromRaw env row fee draft) :
    ronCharged env [draft] = -fee.toRat := by
  rcases h.legs with ⟨primary, charges, attributedToLegId, hlegs, hprimary, hcharges⟩
  have hcharged := charged_feeLegs hfits hnonneg hcharges
  rw [ronCharged, List.map_singleton, List.sum_singleton, hlegs, List.filter_cons_of_neg, hcharged]
  rw [isRonCharge_primary hprimary]
  exact Bool.false_ne_true

/-- A pair charges the fee of its stake. -/
lemma ronCharged_pair {fee : Decimal} (hfits : fee.Fits) (hnonneg : 0 ≤ fee.coeff)
    {drafts : List EconomicActivityDraft} (h : IsRestakePair env rows fee drafts) :
    ronCharged env drafts = -fee.toRat := by
  rcases h with ⟨rewardRow, _, stakeRow, _, reward, stake, rfl, hreward, hstake⟩
  have hzero : (0 : Decimal).Fits := by decide
  have hsplit : ronCharged env [reward, stake] = ronCharged env [reward] + ronCharged env [stake] := by
    simp [ronCharged]
  rw [hsplit, ronCharged_fromRaw hzero (Int.le_refl 0) hreward,
    ronCharged_fromRaw hfits hnonneg hstake, Decimal.toRat_zero, neg_zero, zero_add]

/-! ## Fees of transactions -/

lemma fits_of_quantityCell {row : EvmExplorer.CsvRow} {column : String} {quantity : Decimal}
    (h : quantityCell row column = .ok quantity) : quantity.Fits := by
  rcases bind_eq_ok_iff.1 h with ⟨parsed, hparsed, hval⟩
  rw [← Except.ok.inj hval]
  cases parsed with
  | none => exact (by decide : (0 : Decimal).Fits)
  | some d => exact Decimal.fits_of_parseDecimal hparsed

lemma fits_of_parseRawRow {r : FileRow} {row : RoninRawRow}
    (h : parseRawRow env r = .ok (some row)) : row.fee.Fits := by
  rcases bind_eq_ok_iff.1 h with ⟨inbound, _, h⟩
  rcases bind_eq_ok_iff.1 h with ⟨outbound, _, h⟩
  rcases bind_eq_ok_iff.1 h with ⟨fee, hfee, h⟩
  dsimp only at h
  split at h
  · cases Except.ok.inj h
  · split_ifs at h
    · cases Except.ok.inj h
    · rw [← Option.some.inj (Except.ok.inj h)]
      exact fits_of_quantityCell hfee

/-- The fee that counts is no negative one, and is charged exactly. -/
lemma authoritativeFee_spec (hfits : ∀ row ∈ rows, row.fee.Fits) :
    (resolveFee source rows).authoritativeFee.Fits ∧
      0 ≤ (resolveFee source rows).authoritativeFee.coeff := by
  have hzero : (0 : Decimal).Fits := by decide
  unfold resolveFee
  split
  · exact ⟨hzero, Int.le_refl 0⟩
  · rename_i row hrow
    split_ifs
    · have hpositive : 0 < row.fee.coeff := by simpa using List.find?_some hrow
      exact ⟨hfits row (List.mem_of_find?_eq_some hrow), hpositive.le⟩
    · exact ⟨hzero, Int.le_refl 0⟩

/-! ## Transactions -/

/-- Every raw row of the transaction is successful. -/
def Successful (group : RawGroup) : Prop := ∀ row ∈ group.rows, row.status = "success"

/-- No draft of a transaction one of whose raw rows is not successful. -/
def StatusHeeded (group : RawGroup) (drafts : List EconomicActivityDraft) : Prop :=
  (∃ row ∈ group.rows, row.status ≠ "success") → drafts = []

/-- Where there are drafts, they charge the fee of the transaction. -/
def FeeCharged (env : KernelEnvironment) (source : String) (group : RawGroup)
    (drafts : List EconomicActivityDraft) : Prop :=
  drafts ≠ [] → ronCharged env drafts = -(resolveFee source group.rows).authoritativeFee.toRat

/-- A restake is successful where it leaves drafts, and without a fee where its summary rows back it. -/
def SoundRestake (source : String) (ownedAddresses : List String) (group : RawGroup)
    (summaryRows : List RoninSummaryRow) : Prop :=
  IsRestake group →
    (SupportedSummary ownedAddresses summaryRows →
        Successful group ∧ (resolveFee source group.rows).authoritativeFee = 0) ∧
      (¬SupportedSummary ownedAddresses summaryRows → RestakeRows ownedAddresses group.rows →
        Successful group)

lemma statusHeeded_iff {group : RawGroup} {drafts : List EconomicActivityDraft} (h : drafts ≠ []) :
    StatusHeeded group drafts ↔ Successful group := by
  constructor
  · intro hheeded row hrow
    by_contra hstatus
    exact h (hheeded ⟨row, hrow, hstatus⟩)
  · rintro hall ⟨row, hrow, hstatus⟩
    exact absurd (hall row hrow) hstatus

/-- A transaction heeds its statuses and charges its fee exactly where it is a sound restake or none. -/
theorem rawOutcome_sound_iff {group : RawGroup} (hfits : ∀ row ∈ group.rows, row.fee.Fits)
    {drafts : List EconomicActivityDraft}
    (h : RawOutcome env source ownedAddresses group summaryRows drafts) :
    StatusHeeded group drafts ∧ FeeCharged env source group drafts ↔
      SoundRestake source ownedAddresses group summaryRows := by
  rcases @authoritativeFee_spec source group.rows hfits with ⟨hfee, hnonneg⟩
  cases h with
  | nothing hnil hno =>
      refine iff_of_true ⟨fun _ => hnil, fun hne => absurd hnil hne⟩ (fun hmethod => ?_)
      rcases hno hmethod with ⟨hunsupported, hrows⟩
      exact ⟨fun hsupported => absurd hsupported hunsupported,
        fun _ hrestake => absurd hrestake hrows⟩
  | row hmethod hstatus hdraft =>
      rcases hdraft with ⟨draft, rfl, hfrom⟩
      refine iff_of_true ⟨?_, fun _ => ronCharged_fromRaw hfee hnonneg hfrom⟩
        (fun hall => absurd hall hmethod)
      exact (statusHeeded_iff (List.cons_ne_nil _ _)).2 hstatus
  | summaryBacked hmethod hsupported hleft hdrafts =>
      rw [statusHeeded_iff hleft]
      have hcharged : FeeCharged env source group drafts ↔
          (resolveFee source group.rows).authoritativeFee = 0 := by
        rw [FeeCharged, ronCharged_fromSummary hdrafts, ← Decimal.toRat_eq_zero_iff, zero_eq_neg]
        exact ⟨fun hzero => hzero hleft, fun hzero _ => hzero⟩
      rw [hcharged]
      exact ⟨fun hsound _ => ⟨fun _ => hsound, fun hno => absurd hsupported hno⟩,
        fun hsound => (hsound hmethod).1 hsupported⟩
  | rawPair hmethod hunsupported hrows hpair =>
      have hleft : drafts ≠ [] := by
        rcases hpair with ⟨_, _, _, _, _, _, rfl, _⟩
        exact List.cons_ne_nil _ _
      rw [statusHeeded_iff hleft]
      constructor
      · rintro ⟨hsuccessful, _⟩ _
        exact ⟨fun hsupported => absurd hsupported hunsupported, fun _ _ => hsuccessful⟩
      · intro hsound
        exact ⟨(hsound hmethod).2 hunsupported hrows, fun _ => ronCharged_pair hfee hnonneg hpair⟩

/-! ## Runs -/

/-- The rows of a transaction were read from cells, so that their fees fit the context. -/
lemma fits_of_collected {files : List RoninFile} {groups : List RawGroup}
    {rawIssues : List IssueRecord}
    (hraw : collectRawGroups env source files = .ok (groups, rawIssues)) {group : RawGroup}
    (hgroup : group ∈ groups) : ∀ row ∈ group.rows, row.fee.Fits := by
  rcases bind_eq_ok_iff.1 hraw with ⟨parsed, hparsed, hval⟩
  have hgroups : groups = rawGroups (parsed.filterMap id) :=
    (congrArg Prod.fst (Except.ok.inj hval)).symm
  intro row hrow
  rw [hgroups] at hgroup
  rcases List.mem_filterMap.1 (rows_of_rawGroups hgroup row hrow).1 with ⟨_, hmem, rfl⟩
  rcases mapM_ok_pairs hparsed with ⟨pairs, _, rfl, hpairs⟩
  rcases List.mem_map.1 hmem with ⟨p, hp, hsome⟩
  exact fits_of_parseRawRow ((hpairs p hp).trans (congrArg Except.ok hsome))

/-- What a run leaves of a transaction with raw rows. -/
theorem outcome_of_run {files : List RoninFile} {groups : List RawGroup}
    {rawIssues summaryIssues : List IssueRecord} {run : GroupResult}
    (hraw : collectRawGroups env source files = .ok (groups, rawIssues))
    (hsummary : collectSummaryRows env source files = .ok (summaryRows, summaryIssues))
    (hrun : translateTransactions env source files ownedAddresses = .ok run) {group : RawGroup}
    (hgroup : group ∈ groups) :
    RawOutcome env source ownedAddresses group (summaryRowsOf summaryRows group.first.txHash)
      (draftsOf run group.first.txHash) := by
  rcases isRun_of_translated hraw hsummary hrun with ⟨parsed, _, rfl, hisRun⟩
  exact drafts_of_rawGroup hisRun hgroup

/-- Exactly the runs whose restakes are successful where they leave drafts, and without a fee where
their summary rows back them, heed all statuses and charge all fees once. -/
theorem statuses_and_fees_iff {files : List RoninFile} {groups : List RawGroup}
    {rawIssues summaryIssues : List IssueRecord} {run : GroupResult}
    (hraw : collectRawGroups env source files = .ok (groups, rawIssues))
    (hsummary : collectSummaryRows env source files = .ok (summaryRows, summaryIssues))
    (hrun : translateTransactions env source files ownedAddresses = .ok run) :
    (∀ group ∈ groups, StatusHeeded group (draftsOf run group.first.txHash) ∧
        FeeCharged env source group (draftsOf run group.first.txHash)) ↔
      ∀ group ∈ groups, SoundRestake source ownedAddresses group
        (summaryRowsOf summaryRows group.first.txHash) := by
  refine forall₂_congr (fun group hgroup => ?_)
  exact rawOutcome_sound_iff (fits_of_collected hraw hgroup)
    (outcome_of_run hraw hsummary hrun hgroup)

/-! ## A restake -/

/-- A raw row of the method `restakeRewards`. -/
def restakeRow (fromAddress toAddress valueIn valueOut status : String) : EvmExplorer.CsvRow :=
  Dict.ofList
    [("Txhash", "0xabc"), ("DateTime", "2024-01-01 00:00:00"), ("From", fromAddress),
      ("To", toAddress), ("Method", "restakeRewards"), ("Token / Collectibles", "Axie Infinity Shard"),
      ("Value in", valueIn), ("Value out", valueOut), ("TxnFee(RON)", "0.000051876"),
      ("Status", status)]

/-- An export with a reward and its stake. -/
def restakeFiles (status : String) : List RoninFile :=
  [{ name := "export.csv"
     header := explorerHeader
     rows :=
      [restakeRow "ronin:pool" walletAddress "5" "" status,
        restakeRow walletAddress "ronin:pool" "" "5" status] }]

lemma summaryRows_restakeFiles (status : String) :
    collectSummaryRows asciiEnvironment "wallet" (restakeFiles status) = .ok ([], []) := rfl

/-- A restake that failed is drafted all the same. -/
theorem failed_restake_drafted :
    ¬∀ (env : KernelEnvironment) (source : String) (ownedAddresses : List String)
        (files : List RoninFile) (groups : List RawGroup) (summaryRows : List RoninSummaryRow)
        (rawIssues summaryIssues : List IssueRecord) (run : GroupResult),
      collectRawGroups env source files = .ok (groups, rawIssues) →
        collectSummaryRows env source files = .ok (summaryRows, summaryIssues) →
          translateTransactions env source files ownedAddresses = .ok run →
            ∀ group ∈ groups, StatusHeeded group (draftsOf run group.first.txHash) ∧
              FeeCharged env source group (draftsOf run group.first.txHash) := by
  intro h
  have hfailed : (collectRawGroups asciiEnvironment "wallet" (restakeFiles "Failed")).toOption.any
      (fun raw => raw.1.any (fun group => group.first.txHash = "0xabc" &&
        group.rows.any (fun row => row.status ≠ "success"))) = true := by
    decide +kernel
  have hdrafted : (translateTransactions asciiEnvironment "wallet" (restakeFiles "Failed")
      [walletAddress]).toOption.any (fun run => (draftsOf run "0xabc").length = 2) = true := by
    decide +kernel
  rcases exists_of_any hfailed with ⟨raw, hraw, hgroups⟩
  rcases exists_of_any hdrafted with ⟨run, hrun, hdrafts⟩
  rcases List.any_eq_true.1 hgroups with ⟨group, hgroup, hfacts⟩
  rw [Bool.and_eq_true, decide_eq_true_eq, List.any_eq_true] at hfacts
  rcases hfacts with ⟨hhash, row, hrow, hstatus⟩
  have hheeded := (h _ _ _ _ _ _ _ _ _ hraw (summaryRows_restakeFiles "Failed") hrun group hgroup).1
  rw [hhash] at hheeded
  have hnil := hheeded ⟨row, hrow, of_decide_eq_true hstatus⟩
  rw [hnil] at hdrafts
  exact absurd hdrafts (by decide)

/-- A restake that succeeded leaves drafts that charge its fee once. -/
theorem statuses_and_fees_iff_restake : ∃ groups rawIssues run,
    collectRawGroups asciiEnvironment "wallet" (restakeFiles "Success") = .ok (groups, rawIssues) ∧
      translateTransactions asciiEnvironment "wallet" (restakeFiles "Success") [walletAddress] =
          .ok run ∧
        (∀ group ∈ groups, StatusHeeded group (draftsOf run group.first.txHash) ∧
          FeeCharged asciiEnvironment "wallet" group (draftsOf run group.first.txHash)) := by
  have hsuccess : (collectRawGroups asciiEnvironment "wallet" (restakeFiles "Success")).toOption.any
      (fun raw => raw.1.all (fun group => group.rows.all (fun row => row.status = "success"))) =
        true := by
    decide +kernel
  have hok : (translateTransactions asciiEnvironment "wallet" (restakeFiles "Success")
      [walletAddress]).isOk = true := by
    decide +kernel
  rcases exists_of_any hsuccess with ⟨raw, hraw, hstatuses⟩
  rcases exists_of_isOk hok with ⟨run, hrun⟩
  refine ⟨raw.1, raw.2, run, hraw, hrun, ?_⟩
  refine (statuses_and_fees_iff hraw (summaryRows_restakeFiles "Success") hrun).2 ?_
  intro group hgroup _
  have hsuccessful : Successful group := by
    intro row hrow
    exact of_decide_eq_true (List.all_eq_true.1 (List.all_eq_true.1 hstatuses group hgroup) row hrow)
  exact ⟨fun hsupported => hsupported.elim, fun _ _ => hsuccessful⟩

end Ronin
end Tallylot
