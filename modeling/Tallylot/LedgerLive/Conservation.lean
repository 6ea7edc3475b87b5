import Tallylot.Data.Totals
import Tallylot.LedgerLive.Operations

/-!
# Conservation — what Ledger Live operations book

Rows state amounts of assets at their accounts.  What the drafts book of an asset at an account is what
the rows state of it, over the groups that are not under an issue, if every swap has its rows at one
account (`Placed`).
-/

namespace Tallylot
namespace LedgerLive

open Data Domain Transactions Normalization

/-! ## What rows state -/

/-- Rows in bring an amount, the others take it. -/
def statedSign (operationType : String) : ℚ :=
  if operationType = "IN" then 1
  else if operationType = "OUT" || operationType = "FEES" || operationType = "DELEGATE" then -1
  else 0

/-- The amount that a row shows. -/
def shownAmount (row : OperationRow) : Decimal :=
  (Decimal.readDecimal (row.field "Operation Amount")).getD 0

def ledgerClaim (asset : String) : List InstrumentIdentityClaim :=
  [symbolClaim asset (some "ledger_live")]

/-- Where and of what. -/
abbrev Holding := String × List InstrumentIdentityClaim

section

variable (env : KernelEnvironment) (source : String)

def statedAmount (row : OperationRow) : ℚ :=
  statedSign (row.operationType env) * (shownAmount row).toRat

/-- The location of a row's own account; a row without one stands at its hash. -/
def accountLocation (row : OperationRow) : Option String :=
  (locationIdFromParts env.lower
    [source, placeName (row.field "Account Name") row.operationHash]).toOption

def statedHolding (row : OperationRow) : Option Holding :=
  (accountLocation env source row).map (fun location => (location, ledgerClaim (row.ticker env)))

def bookedHolding (leg : BookedLeg) : Option Holding := some (leg.locationId, leg.instrument)

def bookedAmount (leg : BookedLeg) : ℚ := leg.quantity.toRat

/-- The group is under an issue. -/
def Covered (result : Translation) (group : OperationGroup) : Prop :=
  unsupportedGroupIssue source group ∈ result.issues

instance (result : Translation) (group : OperationGroup) : Decidable (Covered source result group) :=
  inferInstanceAs (Decidable (_ ∈ _))

/-- The rows of the groups that are under no issue. -/
def uncoveredRows (files : List (String × List CsvRow)) (result : Translation) : List OperationRow :=
  ((operationGroups files).filter (fun group => ¬Covered source result group)).flatMap
    OperationGroup.rows

/-- At every account, the drafts book of every asset what the rows state of it. -/
def Balanced (files : List (String × List CsvRow)) (result : Translation) : Prop :=
  ∀ location asset,
    groupTotal bookedHolding bookedAmount (location, ledgerClaim asset)
        (result.drafts.flatMap bookedLegs) =
      groupTotal (statedHolding env source) (statedAmount env) (location, ledgerClaim asset)
        (uncoveredRows source files result)

/-- Every row is in a group that has a draft or an issue. -/
def Accounted (files : List (String × List CsvRow)) (result : Translation) : Prop :=
  ∀ row ∈ operationRows files, ∃ group ∈ operationGroups files, row ∈ group.rows ∧
    (Covered source result group ∨ ∃ draft ∈ result.drafts, draft.val.txHash = group.operationHash)

/-- A swap whose rows are booked where they stand: all amounts are at one account, the fee is positive
and of a named asset, and what is negated fits the context. -/
structure SwapPlaced (inbound outbound : OperationRow) (fees : List OperationRow) : Prop where
  account : ∀ row ∈ inbound :: outbound :: fees, shownAmount row ≠ 0 →
    accountLocation env source row =
      (locationIdFromParts env.lower
        [source, placeName (swapLabel inbound outbound) inbound.operationHash]).toOption
  charged : ∀ row ∈ fees, shownAmount row ≠ 0 →
    0 < (shownAmount row).coeff ∧ row.cell "Currency Ticker" ≠ ""
  fits : ∀ row ∈ outbound :: fees, (shownAmount row).Fits

instance (inbound outbound : OperationRow) (fees : List OperationRow) :
    Decidable (SwapPlaced env source inbound outbound fees) :=
  decidable_of_iff
    ((∀ row ∈ inbound :: outbound :: fees, shownAmount row ≠ 0 →
        accountLocation env source row =
          (locationIdFromParts env.lower
            [source, placeName (swapLabel inbound outbound) inbound.operationHash]).toOption) ∧
      (∀ row ∈ fees, shownAmount row ≠ 0 →
        0 < (shownAmount row).coeff ∧ row.cell "Currency Ticker" ≠ "") ∧
      ∀ row ∈ outbound :: fees, (shownAmount row).Fits)
    ⟨fun h => ⟨h.1, h.2.1, h.2.2⟩, fun h => ⟨h.account, h.charged, h.fits⟩⟩

/-- The group's rows are booked where they stand. -/
structure Placed (group : OperationGroup) : Prop where
  alone : ∀ row, group.rows = [row] → (shownAmount row).Fits
  swap : ∀ inbound outbound, group.rowsOf env "IN" = [inbound] → group.rowsOf env "OUT" = [outbound] →
    SwapPlaced env source inbound outbound (group.rowsOf env "FEES")

end

/-! ## Groups -/

section Groups

variable {env : KernelEnvironment} {source : String} {group : OperationGroup} {t : Translation}

/-- What a group is translated to. -/
inductive Translated (env : KernelEnvironment) (source : String) (group : OperationGroup) :
    Translation → Prop
  | blocked : Translated env source group (blocked source group)
  | alone {spec : SingleTypeTranslationSpec} {row : OperationRow} {draft : EconomicActivityDraft}
      {reviews : List NormalizationReviewRecord} (hrows : group.rows = [row])
      (hspec : singleTypeTranslations.lookup (row.operationType env) = some spec)
      (hdraft : singlePrimaryDraft env source group spec row = .ok (some draft)) :
      Translated env source group ⟨[draft], [], reviews⟩
  | swap {inbound outbound : OperationRow} {draft : EconomicActivityDraft}
      (htypes : ∀ row ∈ group.rows, row.operationType env ∈ ["IN", "OUT", "FEES"])
      (hin : group.rowsOf env "IN" = [inbound]) (hout : group.rowsOf env "OUT" = [outbound])
      (hfees : (group.rowsOf env "FEES").length ≤ 1)
      (hdraft : swapDraft env source group inbound outbound (group.rowsOf env "FEES").head? =
        .ok draft) :
      Translated env source group ⟨[draft], [], []⟩

lemma types_of_hasTypes
    (h : (group.hasTypes env ["IN", "OUT"] || group.hasTypes env ["IN", "OUT", "FEES"]) = true) :
    ∀ row ∈ group.rows, row.operationType env ∈ ["IN", "OUT", "FEES"] := by
  intro row hrow
  rw [Bool.or_eq_true] at h
  rcases h with h | h
  · rw [OperationGroup.hasTypes, Bool.and_eq_true, List.all_eq_true] at h
    have hmem : row.operationType env ∈ ["IN", "OUT"] := of_decide_eq_true (h.1 row hrow)
    exact List.mem_append_left ["FEES"] hmem
  · rw [OperationGroup.hasTypes, Bool.and_eq_true, List.all_eq_true] at h
    exact of_decide_eq_true (h.1 row hrow)

lemma soleType_of_rows {row : OperationRow} (hrows : group.rows = [row]) :
    soleType env group = some (row.operationType env) := by
  simp [soleType, hrows]

lemma translated_of_singleType (h : translateSingleTypeGroup env source group = .ok (some t)) :
    Translated env source group t := by
  unfold translateSingleTypeGroup at h
  split at h
  · cases h
  · rename_i spec hspec
    split at h
    · rename_i row hrows
      rcases bind_eq_ok_iff.1 h with ⟨draft, hdraft, ht⟩
      rcases Option.bind_eq_some_iff.1 hspec with ⟨operationType, hsole, hlookup⟩
      rw [soleType_of_rows hrows] at hsole
      cases hsole
      cases draft with
      | none =>
          cases ht
          exact .blocked
      | some draft =>
          cases ht
          exact .alone hrows hlookup hdraft
    · cases h
      exact .blocked

theorem translated_of_translateOperationGroup
    (h : translateOperationGroup env source group = .ok t) : Translated env source group t := by
  unfold translateOperationGroup at h
  split_ifs at h with hfees
  · cases h
    exact .blocked
  · rcases bind_eq_ok_iff.1 h with ⟨single, hsingle, hrest⟩
    cases single with
    | some translation =>
        cases hrest
        exact translated_of_singleType hsingle
    | none =>
        rcases bind_eq_ok_iff.1 hrest with ⟨swap, hswap, ht⟩
        cases swap with
        | none =>
            cases ht
            exact .blocked
        | some draft =>
            cases ht
            unfold translateSwapGroup at hswap
            split_ifs at hswap with htypes
            · split at hswap
              · rename_i inbound outbound hin hout
                rcases bind_eq_ok_iff.1 hswap with ⟨draft', hdraft, hsome⟩
                cases hsome
                exact .swap (types_of_hasTypes htypes) hin hout (Nat.le_of_not_lt hfees) hdraft
              · cases hswap
            · cases hswap

lemma issues_of_translated (h : Translated env source group t) :
    t = LedgerLive.blocked source group ∨ t.issues = [] := by
  cases h with
  | blocked => exact Or.inl rfl
  | alone _ _ _ => exact Or.inr rfl
  | swap _ _ _ _ _ => exact Or.inr rfl

/-! ## One group -/

/-- What a draft books of a holding. -/
abbrev bookedTotal (holding : Holding) (draft : EconomicActivityDraft) : ℚ :=
  groupTotal bookedHolding bookedAmount holding (bookedLegs draft)

lemma readAmount_eq_ok_iff {text : String} {amount : Decimal} :
    readAmount text = .ok amount ↔ Decimal.readDecimal text = some amount := by
  unfold readAmount
  split
  · rename_i amount' hread
    rw [hread, Except.ok.injEq, Option.some.injEq]
  · rename_i hread
    rw [hread]
    exact iff_of_false (fun h => by cases h) (fun h => by cases h)

lemma toRat_fix_sign {amount : Decimal} {sign : Int} (hfits : amount.Fits)
    (hsign : sign = 1 ∨ sign = -1) :
    (Decimal.fix (sign * amount.coeff) amount.exp).toRat = sign * amount.toRat := by
  have hsize : (sign * amount.coeff).natAbs < 10 ^ Decimal.precision := by
    have hnatAbs : (sign * amount.coeff).natAbs = amount.coeff.natAbs := by
      rcases hsign with rfl | rfl <;> simp
    rw [hnatAbs]
    exact hfits
  rw [Decimal.toRat_fix _ hsize, Int.cast_mul, Decimal.toRat, mul_assoc]

lemma specs_stated : ∀ p ∈ singleTypeTranslations,
    (p.2.quantitySign = 1 ∨ p.2.quantitySign = -1) ∧ (p.2.quantitySign : ℚ) = statedSign p.1 := by
  decide +kernel

lemma lookup_specs {operationType : String} {spec : SingleTypeTranslationSpec}
    (h : singleTypeTranslations.lookup operationType = some spec) :
    (spec.quantitySign = 1 ∨ spec.quantitySign = -1) ∧
      (spec.quantitySign : ℚ) = statedSign operationType := by
  rcases List.lookup_eq_some_iff.1 h with ⟨before, after, hsplit, _⟩
  refine specs_stated (operationType, spec) ?_
  rw [hsplit]
  exact List.mem_append_right _ List.mem_cons_self

/-- The draft of a group of one row has one leg at the row's own account. -/
lemma singlePrimaryDraft_eq_ok {spec : SingleTypeTranslationSpec} {row : OperationRow}
    {draft : EconomicActivityDraft}
    (h : singlePrimaryDraft env source group spec row = .ok (some draft)) :
    draft.val.txHash = group.operationHash ∧
      ∃ location, locationIdFromParts env.lower
          [source, placeName (row.field "Account Name") group.operationHash] = .ok location ∧
        (bookedLegs draft).map (fun leg => (bookedHolding leg, bookedAmount leg)) =
          [(some (location, ledgerClaim (row.ticker env)),
            (Decimal.fix (spec.quantitySign * (shownAmount row).coeff) (shownAmount row).exp).toRat)] := by
  unfold singlePrimaryDraft at h
  split_ifs at h with hblank
  · cases h
  rcases bind_eq_ok_iff.1 h with ⟨amount, hamount, hrest⟩
  split_ifs at hrest with hpos
  · cases hrest
  rcases bind_eq_ok_iff.1 hrest with ⟨location, hlocation, hrest⟩
  rcases bind_eq_ok_iff.1 hrest with ⟨timestamp, _, hrest⟩
  rcases bind_eq_ok_iff.1 hrest with ⟨leg, hleg, hrest⟩
  rcases bind_eq_ok_iff.1 hrest with ⟨draft', hdraft, hsome⟩
  cases hsome
  have hval := @val_of_build_draft _ _ _ _ hlocation hdraft
  rcases val_of_symbolLeg hleg with ⟨_, _, hquantity, hclaim, hnone⟩
  have hshown : shownAmount row = amount := by
    rw [shownAmount, readAmount_eq_ok_iff.1 hamount]
    rfl
  refine ⟨by rw [hval], location, hlocation, ?_⟩
  rw [bookedLegs, hval, List.map_map, List.map_singleton, hshown]
  dsimp only [Function.comp_apply, bookedHolding, bookedAmount]
  rw [hnone, hquantity, hclaim]
  rfl

/-- The draft of a group of one row books what the row states. -/
lemma bookedLegs_singlePrimaryDraft {spec : SingleTypeTranslationSpec} {row : OperationRow}
    {draft : EconomicActivityDraft}
    (hspec : singleTypeTranslations.lookup (row.operationType env) = some spec)
    (hhash : row.operationHash = group.operationHash) (hfits : (shownAmount row).Fits)
    (h : singlePrimaryDraft env source group spec row = .ok (some draft)) :
    (bookedLegs draft).map (fun leg => (bookedHolding leg, bookedAmount leg)) =
      [(statedHolding env source row, statedAmount env row)] := by
  rcases singlePrimaryDraft_eq_ok h with ⟨_, location, hlocation, hlegs⟩
  rcases lookup_specs hspec with ⟨hsign, hstated⟩
  have hplace : accountLocation env source row = some location := by
    rw [accountLocation, hhash, hlocation]
    rfl
  rw [hlegs, statedHolding, hplace, statedAmount, ← hstated, toRat_fix_sign hfits hsign]
  rfl

lemma readDecimal_strip (text : String) :
    Decimal.readDecimal (strip text) = Decimal.readDecimal text := by
  unfold Decimal.readDecimal Decimal.readParts
  rw [strip_strip]

/-- What is read of an amount's text is the amount that the row shows. -/
lemma shownAmount_of_read {row : OperationRow} {amount : Decimal}
    (h : Decimal.readDecimal (amountText row) = some amount) : shownAmount row = amount := by
  rw [shownAmount, OperationRow.field, readDecimal_strip]
  unfold amountText at h
  split_ifs at h with hcell
  · rw [h]
    rfl
  · -- A blank amount is read as zero.
    rw [not_not] at hcell
    have hzero : Decimal.readDecimal "0" = some 0 := by decide +kernel
    have hnone : Decimal.readDecimal "" = none := by decide +kernel
    rw [hzero] at h
    rw [hcell, hnone, ← Option.some.inj h]
    rfl

/-- The charge that a swap books for a row of fees. -/
def bookedCharge (env : KernelEnvironment) (location : String) (row : OperationRow) :
    List (Option Holding × ℚ) :=
  if (shownAmount row).coeff ≤ 0 || row.cell "Currency Ticker" = "" then []
  else [(some (location, ledgerClaim (row.ticker env)), (-shownAmount row).toRat)]

lemma bookedCharge_of_chargeLegs {location asset : String} {timestamp : Instant} {row : OperationRow}
    {legs : List EconomicLegDraft} (hasset : row.cell "Currency Ticker" = asset)
    (h : chargeLegs env (shownAmount row) asset "primary_out" = .ok legs) :
    legs.map (fun leg =>
        (bookedHolding ⟨leg.val.locationId.getD location, timestamp, leg.val.instrumentIdentityClaims,
            leg.val.quantity⟩, leg.val.quantity.toRat)) = bookedCharge env location row := by
  unfold chargeLegs at h
  rw [bookedCharge, hasset]
  split_ifs at h with hnone
  · rw [if_pos hnone]
    cases h
    rfl
  · rw [if_neg hnone]
    rcases bind_eq_ok_iff.1 h with ⟨leg, hleg, hlegs⟩
    cases hlegs
    rcases val_of_symbolLeg hleg with ⟨_, _, hquantity, hclaim, hplace⟩
    rw [List.map_singleton, hquantity, hclaim, hplace, OperationRow.ticker, OperationRow.field, hasset]
    rfl

/-- The draft of a swap books at one place what its rows show. -/
lemma bookedLegs_swapDraft {inbound outbound : OperationRow} {fee : Option OperationRow}
    {draft : EconomicActivityDraft}
    (h : swapDraft env source group inbound outbound fee = .ok draft) :
    ∃ location,
      locationIdFromParts env.lower
          [source, placeName (swapLabel inbound outbound) group.operationHash] = .ok location ∧
        draft.val.txHash = group.operationHash ∧
          (bookedLegs draft).map (fun leg => (bookedHolding leg, bookedAmount leg)) =
            (some (location, ledgerClaim (inbound.ticker env)), (shownAmount inbound).toRat) ::
              (some (location, ledgerClaim (outbound.ticker env)), (-shownAmount outbound).toRat) ::
                fee.toList.flatMap (bookedCharge env location) := by
  rcases bind_eq_ok_iff.1 h with ⟨timestamp, _, hrest⟩
  rcases bind_eq_ok_iff.1 hrest with ⟨feeAmount, hfee, hrest⟩
  dsimp only at hrest
  rcases bind_eq_ok_iff.1 hrest with ⟨location, hlocation, hrest⟩
  rcases bind_eq_ok_iff.1 hrest with ⟨inAmount, hinAmount, hrest⟩
  rcases bind_eq_ok_iff.1 hrest with ⟨inLeg, hinLeg, hrest⟩
  rcases bind_eq_ok_iff.1 hrest with ⟨outAmount, houtAmount, hrest⟩
  rcases bind_eq_ok_iff.1 hrest with ⟨outLeg, houtLeg, hrest⟩
  rcases bind_eq_ok_iff.1 hrest with ⟨charge, hcharge, hdraft⟩
  have hval := @val_of_build_draft _ _ _ _ hlocation hdraft
  rcases val_of_symbolLeg hinLeg with ⟨_, _, hinQuantity, hinClaim, hinPlace⟩
  rcases val_of_symbolLeg houtLeg with ⟨_, _, houtQuantity, houtClaim, houtPlace⟩
  rw [readAmount_eq_ok_iff, readDecimal_strip] at hinAmount houtAmount
  have hcharges : charge.map (fun leg =>
      (bookedHolding ⟨leg.val.locationId.getD location, timestamp, leg.val.instrumentIdentityClaims,
          leg.val.quantity⟩, leg.val.quantity.toRat)) =
        fee.toList.flatMap (bookedCharge env location) := by
    cases fee with
    | none =>
        rw [Option.map_none, Option.getD_none, readAmount_eq_ok_iff] at hfee
        have hzero : Decimal.readDecimal "0" = some 0 := by decide +kernel
        rw [hzero] at hfee
        cases hfee
        cases hcharge
        rfl
    | some row =>
        rw [Option.map_some, Option.getD_some, readAmount_eq_ok_iff] at hfee
        rw [← shownAmount_of_read hfee] at hcharge
        rw [bookedCharge_of_chargeLegs rfl hcharge, Option.toList_some, List.flatMap_singleton]
  refine ⟨location, hlocation, by rw [hval], ?_⟩
  rw [← hcharges, shownAmount_of_read hinAmount, shownAmount_of_read houtAmount, bookedLegs, hval,
    List.map_map, List.map_cons, List.map_cons]
  dsimp only [Function.comp_apply, bookedHolding, bookedAmount]
  rw [hinQuantity, hinClaim, hinPlace, houtQuantity, houtClaim, houtPlace]
  rfl

/-- The total of a holding over entries. -/
abbrev entryTotal (holding : Holding) (entries : List (Option Holding × ℚ)) : ℚ :=
  groupTotal Prod.fst Prod.snd holding entries

lemma entryTotal_cons (holding : Holding) (entry : Option Holding × ℚ)
    (entries : List (Option Holding × ℚ)) :
    entryTotal holding (entry :: entries) = entryTotal holding [entry] + entryTotal holding entries :=
  groupTotal_append [entry] entries

lemma entryTotal_zero (holding : Holding) (place : Option Holding) :
    entryTotal holding [(place, 0)] = 0 := by
  by_cases h : place = some holding <;> simp [groupTotal, h]

/-- A row that shows an amount at the swap's place is booked as it states. -/
lemma entryTotal_row {row : OperationRow} {location : String} {booked : ℚ} (holding : Holding)
    (hplace : shownAmount row ≠ 0 → accountLocation env source row = some location)
    (hamount : statedAmount env row = booked) :
    entryTotal holding [(some (location, ledgerClaim (row.ticker env)), booked)] =
      entryTotal holding [(statedHolding env source row, statedAmount env row)] := by
  by_cases hzero : shownAmount row = 0
  · have hnone : statedAmount env row = 0 := by
      rw [statedAmount, hzero, Decimal.toRat_zero, mul_zero]
    rw [← hamount, hnone, entryTotal_zero, entryTotal_zero]
  · rw [← hamount, statedHolding, hplace hzero]
    rfl

lemma statedAmount_in {row : OperationRow} (h : row.operationType env = "IN") :
    statedAmount env row = (shownAmount row).toRat := by
  rw [statedAmount, h, statedSign, if_pos rfl, one_mul]

lemma statedAmount_out {row : OperationRow}
    (h : row.operationType env = "OUT" ∨ row.operationType env = "FEES")
    (hfits : (shownAmount row).Fits) : statedAmount env row = (-shownAmount row).toRat := by
  have hsign : statedSign (row.operationType env) = -1 := by
    rcases h with h | h <;> rw [h] <;> decide +kernel
  rw [statedAmount, hsign, neg_one_mul, Decimal.toRat_neg hfits]

/-- A row of fees that shows no amount, or a positive one of a named asset, is booked as it states. -/
lemma entryTotal_fee {row : OperationRow} {location : String} (holding : Holding)
    (htype : row.operationType env = "FEES") (hfits : (shownAmount row).Fits)
    (hplace : shownAmount row ≠ 0 → accountLocation env source row = some location)
    (hcharged : shownAmount row ≠ 0 → 0 < (shownAmount row).coeff ∧ row.cell "Currency Ticker" ≠ "") :
    entryTotal holding (bookedCharge env location row) =
      entryTotal holding [(statedHolding env source row, statedAmount env row)] := by
  unfold bookedCharge
  split_ifs with hnone
  · have hzero : shownAmount row = 0 := by
      by_contra hne
      rcases hcharged hne with ⟨hpos, hticker⟩
      rw [Bool.or_eq_true, decide_eq_true_eq, decide_eq_true_eq] at hnone
      rcases hnone with hle | hblank
      · exact absurd hpos (not_lt.2 hle)
      · exact hticker hblank
    have hstated : statedAmount env row = 0 := by
      rw [statedAmount, hzero, Decimal.toRat_zero, mul_zero]
    rw [hstated, entryTotal_zero]
    rfl
  · exact entryTotal_row holding hplace (statedAmount_out (Or.inr htype) hfits)

lemma type_of_mem_rowsOf {row : OperationRow} {operationType : String}
    (h : row ∈ group.rowsOf env operationType) : row.operationType env = operationType := by
  simpa using (List.mem_filter.1 h).2

/-- The rows of a swap are its row in, its row out and its rows of fees. -/
lemma rows_perm (htypes : ∀ row ∈ group.rows, row.operationType env ∈ ["IN", "OUT", "FEES"]) :
    (group.rowsOf env "IN" ++ (group.rowsOf env "OUT" ++ group.rowsOf env "FEES")).Perm group.rows := by
  have hperm := @flatMap_filter_perm _ _ _ (OperationRow.operationType env) ["IN", "OUT", "FEES"]
    (by decide) group.rows htypes
  simpa [OperationGroup.rowsOf] using hperm

lemma txHash_of_translated (h : Translated env source group t) :
    t = LedgerLive.blocked source group ∨ ∃ draft ∈ t.drafts, draft.val.txHash = group.operationHash := by
  cases h with
  | blocked => exact Or.inl rfl
  | @alone spec row draft reviews _ _ hdraft =>
      exact Or.inr ⟨draft, List.mem_singleton.2 rfl, (singlePrimaryDraft_eq_ok hdraft).1⟩
  | @swap inbound outbound draft _ _ _ _ hdraft =>
      rcases bookedLegs_swapDraft hdraft with ⟨_, _, htx, _⟩
      exact Or.inr ⟨draft, List.mem_singleton.2 rfl, htx⟩

/-- A group that is no swap of several accounts books what its rows state, or goes under its issue. -/
theorem groupTotal_of_translated (h : Translated env source group t)
    (hhash : ∀ row ∈ group.rows, row.operationHash = group.operationHash)
    (hplaced : t.issues = [] → Placed env source group) (holding : Holding) :
    (t = blocked source group) ∨
      (t.issues = [] ∧ (∃ draft ∈ t.drafts, draft.val.txHash = group.operationHash) ∧
        groupTotal bookedHolding bookedAmount holding (t.drafts.flatMap bookedLegs) =
          groupTotal (statedHolding env source) (statedAmount env) holding group.rows) := by
  cases h with
  | blocked => exact Or.inl rfl
  | @alone spec row draft reviews hrows hspec hdraft =>
      have hrow : row.operationHash = group.operationHash := hhash row (hrows ▸ List.mem_singleton.2 rfl)
      have hlegs := bookedLegs_singlePrimaryDraft hspec hrow ((hplaced rfl).alone row hrows) hdraft
      refine Or.inr ⟨rfl, ⟨draft, List.mem_singleton.2 rfl, (singlePrimaryDraft_eq_ok hdraft).1⟩, ?_⟩
      rw [List.flatMap_singleton, hrows]
      exact groupTotal_of_perm (by rw [hlegs]; rfl)
  | @swap inbound outbound draft htypes hin hout hfees hdraft =>
      rcases bookedLegs_swapDraft hdraft with ⟨location, hlocation, htx, hlegs⟩
      have hswap := (hplaced rfl).swap inbound outbound hin hout
      refine Or.inr ⟨rfl, ⟨draft, List.mem_singleton.2 rfl, htx⟩, ?_⟩
      have hinType := @type_of_mem_rowsOf env _ _ _ (hin ▸ List.mem_singleton.2 rfl :
        inbound ∈ group.rowsOf env "IN")
      have houtType := @type_of_mem_rowsOf env _ _ _ (hout ▸ List.mem_singleton.2 rfl :
        outbound ∈ group.rowsOf env "OUT")
      have hinHash : inbound.operationHash = group.operationHash := by
        refine hhash inbound (List.mem_filter.1 (hin ▸ List.mem_singleton.2 rfl :
          inbound ∈ group.rowsOf env "IN")).1
      have hplace : ∀ row ∈ inbound :: outbound :: group.rowsOf env "FEES", shownAmount row ≠ 0 →
          accountLocation env source row = some location := by
        intro row hrow hne
        rw [hswap.account row hrow hne, hinHash, hlocation]
        rfl
      -- The row of fees, if there is one.
      have hfee : entryTotal holding
          ((group.rowsOf env "FEES").head?.toList.flatMap (bookedCharge env location)) =
            entryTotal holding ((group.rowsOf env "FEES").map (fun row =>
              (statedHolding env source row, statedAmount env row))) := by
        rcases hrows : group.rowsOf env "FEES" with _ | ⟨fee, _ | ⟨other, rest⟩⟩
        · rfl
        · have hmem : fee ∈ group.rowsOf env "FEES" := hrows ▸ List.mem_singleton.2 rfl
          rw [List.head?_cons, Option.toList_some, List.flatMap_singleton]
          exact entryTotal_fee holding (type_of_mem_rowsOf hmem)
            (hswap.fits fee (List.mem_cons_of_mem _ hmem))
            (hplace fee (List.mem_cons_of_mem _ (List.mem_cons_of_mem _ hmem)))
            (hswap.charged fee hmem)
        · rw [hrows] at hfees
          exact absurd hfees (by simp)
      calc
        groupTotal bookedHolding bookedAmount holding ([draft].flatMap bookedLegs)
            = entryTotal holding ((bookedLegs draft).map (fun leg =>
                (bookedHolding leg, bookedAmount leg))) := by
              rw [List.flatMap_singleton, entryTotal, groupTotal_map]
        _ = entryTotal holding ((inbound :: outbound :: group.rowsOf env "FEES").map (fun row =>
                (statedHolding env source row, statedAmount env row))) := by
              rw [hlegs, entryTotal_cons, @entryTotal_cons holding (some _, (-shownAmount outbound).toRat),
                hfee, List.map_cons, List.map_cons, entryTotal_cons holding (statedHolding _ _ _, _),
                @entryTotal_cons holding (statedHolding env source outbound, _),
                entryTotal_row holding (hplace inbound List.mem_cons_self) (statedAmount_in hinType),
                entryTotal_row holding (hplace outbound (List.mem_cons_of_mem _ List.mem_cons_self))
                  (statedAmount_out (Or.inl houtType) (hswap.fits outbound List.mem_cons_self))]
        _ = groupTotal (statedHolding env source) (statedAmount env) holding
              (inbound :: outbound :: group.rowsOf env "FEES") := groupTotal_map _ _
        _ = groupTotal (statedHolding env source) (statedAmount env) holding group.rows := by
              have hperm := rows_perm htypes
              rw [hin, hout] at hperm
              exact groupTotal_perm hperm

end Groups

/-! ## All groups -/

section Files

variable {env : KernelEnvironment} {source : String} {files : List (String × List CsvRow)}
  {result : Translation}

lemma mem_operationGroups {group : OperationGroup} :
    group ∈ operationGroups files ↔
      group.rows ≠ [] ∧ group.rows = ((operationRows files).filter
        (fun row => row.operationHash ≠ "")).filter (fun row => row.operationHash = group.operationHash) := by
  rw [operationGroups, List.mem_map]
  constructor
  · rintro ⟨entry, hentry, rfl⟩
    exact Dict.mem_entries_group (mem_sortedOn.1 hentry)
  · intro h
    exact ⟨(group.operationHash, group.rows), mem_sortedOn.2 (Dict.mem_entries_group_iff.2 h), rfl⟩

lemma operationHash_of_mem {group : OperationGroup} (hgroup : group ∈ operationGroups files) :
    ∀ row ∈ group.rows, row.operationHash = group.operationHash := by
  intro row hrow
  rw [(mem_operationGroups.1 hgroup).2] at hrow
  simpa using (List.mem_filter.1 hrow).2

lemma eq_of_operationHash {group other : OperationGroup} (hgroup : group ∈ operationGroups files)
    (hother : other ∈ operationGroups files) (h : group.operationHash = other.operationHash) :
    group = other := by
  have hrows : group.rows = other.rows := by
    rw [(mem_operationGroups.1 hgroup).2, (mem_operationGroups.1 hother).2, h]
  rcases group with ⟨hash, rows⟩
  rcases other with ⟨hash', rows'⟩
  cases h
  cases hrows
  rfl

/-- Groups with the same issue have the same hash. -/
lemma operationHash_of_issue {group other : OperationGroup}
    (h : unsupportedGroupIssue source group = unsupportedGroupIssue source other) :
    group.operationHash = other.operationHash := by
  have hfile : group.rawFile = other.rawFile := congrArg IssueRecord.rawFile h
  have hid := congrArg String.toList (congrArg IssueRecord.issueId h)
  simp only [unsupportedGroupIssue, hfile, String.toList_append, List.append_assoc,
    List.append_cancel_left_eq, List.append_cancel_right_eq] at hid
  exact String.toList_injective hid

/-- A group with what it is translated to. -/
abbrev Turn := OperationGroup × Translation

lemma turns_of_translate (h : translateOperations env source files = .ok result) :
    ∃ turns : List Turn, turns.map Prod.fst = operationGroups files ∧
      (∀ turn ∈ turns, translateOperationGroup env source turn.1 = .ok turn.2) ∧
      result.drafts = turns.flatMap (fun turn => turn.2.drafts) ∧
      result.issues = turns.flatMap (fun turn => turn.2.issues) := by
  rcases bind_eq_ok_iff.1 h with ⟨translations, htranslations, hresult⟩
  rcases mapM_ok_pairs htranslations with ⟨turns, hfst, rfl, hturns⟩
  refine ⟨turns, hfst, hturns, ?_, ?_⟩
  · rw [← Except.ok.inj hresult]
    exact List.flatMap_map _ _ _
  · rw [← Except.ok.inj hresult]
    exact List.flatMap_map _ _ _

/-- Exactly the groups that are blocked are under an issue. -/
lemma covered_iff_blocked {turns : List Turn} {turn : Turn}
    (hgroups : turns.map Prod.fst = operationGroups files)
    (hturns : ∀ turn ∈ turns, translateOperationGroup env source turn.1 = .ok turn.2)
    (hissues : result.issues = turns.flatMap (fun turn => turn.2.issues)) (hturn : turn ∈ turns) :
    Covered source result turn.1 ↔ turn.2 = blocked source turn.1 := by
  have hmem : ∀ turn ∈ turns, turn.1 ∈ operationGroups files := fun turn hturn =>
    hgroups ▸ List.mem_map_of_mem hturn
  rw [Covered, hissues, List.mem_flatMap]
  constructor
  · rintro ⟨other, hother, hissue⟩
    have hblocked : other.2 = blocked source other.1 := by
      rcases issues_of_translated (translated_of_translateOperationGroup (hturns other hother)) with
        hblocked | hnone
      · exact hblocked
      · rw [hnone] at hissue
        cases hissue
    rw [hblocked] at hissue
    have hsame := eq_of_operationHash (hmem turn hturn) (hmem other hother)
      (operationHash_of_issue (List.mem_singleton.1 hissue))
    have htranslation := hturns turn hturn
    rw [hsame, hturns other hother, hblocked, ← hsame] at htranslation
    exact (Except.ok.inj htranslation).symm
  · intro hblocked
    refine ⟨turn, hturn, ?_⟩
    rw [hblocked]
    exact List.mem_singleton.2 rfl

lemma flatMap_filter_eq {α β : Type} (keep : α → Prop) [DecidablePred keep] (f : α → List β)
    (xs : List α) :
    (xs.filter (fun x => keep x)).flatMap f = xs.flatMap (fun x => if keep x then f x else []) := by
  induction xs with
  | nil => rfl
  | cons x xs ih =>
      by_cases h : keep x
      · rw [List.filter_cons_of_pos (by simpa using h), List.flatMap_cons, List.flatMap_cons, ih, if_pos h]
      · rw [List.filter_cons_of_neg (by simpa using h), List.flatMap_cons, ih, if_neg h,
          List.nil_append]

/-- If the swaps that are booked have their rows at one account, the books are balanced. -/
lemma balanced_of_placed (h : translateOperations env source files = .ok result)
    (hplaced : ∀ group ∈ operationGroups files, ¬Covered source result group →
      Placed env source group) :
    Balanced env source files result := by
  rcases turns_of_translate h with ⟨turns, hgroups, hturns, hdrafts, hissues⟩
  intro location asset
  have hgroup : ∀ turn ∈ turns, turn.1 ∈ operationGroups files := fun turn hturn =>
    hgroups ▸ List.mem_map_of_mem hturn
  -- Group by group, what is booked is what is stated.
  have hturn : ∀ turn ∈ turns,
      groupTotal bookedHolding bookedAmount (location, ledgerClaim asset)
          (turn.2.drafts.flatMap bookedLegs) =
        groupTotal (statedHolding env source) (statedAmount env) (location, ledgerClaim asset)
          (if ¬Covered source result turn.1 then turn.1.rows else []) := by
    intro turn hturn
    have hcovered := covered_iff_blocked hgroups hturns hissues hturn
    have htranslated := translated_of_translateOperationGroup (hturns turn hturn)
    by_cases hblocked : turn.2 = blocked source turn.1
    · rw [if_neg (not_not_intro (hcovered.2 hblocked)), hblocked]
      rfl
    · rcases groupTotal_of_translated htranslated (operationHash_of_mem (hgroup turn hturn))
        (fun _ => hplaced turn.1 (hgroup turn hturn) (fun hc => hblocked (hcovered.1 hc)))
        (location, ledgerClaim asset) with hb | ⟨_, _, htotal⟩
      · exact absurd hb hblocked
      · rw [if_pos (fun hc => hblocked (hcovered.1 hc))]
        exact htotal
  calc
    groupTotal bookedHolding bookedAmount (location, ledgerClaim asset)
        (result.drafts.flatMap bookedLegs)
        = (turns.map (fun turn => groupTotal bookedHolding bookedAmount (location, ledgerClaim asset)
            (turn.2.drafts.flatMap bookedLegs))).sum := by
          rw [hdrafts, List.flatMap_assoc, groupTotal_flatMap]
    _ = (turns.map (fun turn => groupTotal (statedHolding env source) (statedAmount env)
            (location, ledgerClaim asset)
            (if ¬Covered source result turn.1 then turn.1.rows else []))).sum :=
          congrArg List.sum (List.map_congr_left hturn)
    _ = groupTotal (statedHolding env source) (statedAmount env) (location, ledgerClaim asset)
          (uncoveredRows source files result) := by
          rw [uncoveredRows, flatMap_filter_eq, ← hgroups, List.flatMap_map, groupTotal_flatMap]

/-- Exactly the rows without a hash are in no group. -/
lemma accounted_iff (h : translateOperations env source files = .ok result) :
    Accounted source files result ↔ ∀ row ∈ operationRows files, row.operationHash ≠ "" := by
  rcases turns_of_translate h with ⟨turns, hgroups, hturns, hdrafts, hissues⟩
  constructor
  · intro haccounted row hrow
    rcases haccounted row hrow with ⟨group, hgroup, hmem, _⟩
    rw [(mem_operationGroups.1 hgroup).2] at hmem
    simpa using (List.mem_filter.1 (List.mem_filter.1 hmem).1).2
  · intro hhashed row hrow
    have hmem : row ∈ ((operationRows files).filter (fun row => row.operationHash ≠ "")).filter
        (fun other => other.operationHash = row.operationHash) :=
      List.mem_filter.2 ⟨List.mem_filter.2 ⟨hrow, by simpa using hhashed row hrow⟩, by simp⟩
    have hgroup : OperationGroup.mk row.operationHash _ ∈ operationGroups files :=
      mem_operationGroups.2 ⟨List.ne_nil_of_mem hmem, rfl⟩
    refine ⟨_, hgroup, hmem, ?_⟩
    rw [← hgroups] at hgroup
    rcases List.mem_map.1 hgroup with ⟨turn, hturn, hfst⟩
    rw [← hfst, covered_iff_blocked hgroups hturns hissues hturn]
    rcases txHash_of_translated (translated_of_translateOperationGroup (hturns turn hturn)) with
      hblocked | ⟨draft, hdraft, htx⟩
    · exact Or.inl hblocked
    · refine Or.inr ⟨draft, ?_, htx⟩
      rw [hdrafts]
      exact List.mem_flatMap.2 ⟨turn, hturn, hdraft⟩

end Files

/-! ## A swap between two accounts -/

def plainEnvironment : KernelEnvironment where
  sha256 := id
  subjectText := fun _ => ""
  repr := fun text => "'" ++ text ++ "'"
  upper := String.toUpper
  lower := String.toLower

def operationRow (operationType ticker amount account : String) : CsvRow :=
  CsvRow.ofTexts
    [("Operation Date", "2026-03-23T10:11:12.000Z"), ("Operation Type", operationType),
      ("Currency Ticker", ticker), ("Operation Amount", amount), ("Account Name", account),
      ("Operation Hash", "op-1")]

/-- Bitcoin for ether, each in its own account. -/
def swapFiles : List (String × List CsvRow) :=
  [("operations.csv",
    [operationRow "IN" "BTC" "0.01" "Bitcoin 1", operationRow "OUT" "ETH" "0.5" "Ethereum 1"])]

/-- Bitcoin for ether at one account, with a fee in bitcoin. -/
def accountSwapFiles : List (String × List CsvRow) :=
  [("operations.csv",
    [operationRow "IN" "ETH" "1.5" "Ledger 1", operationRow "OUT" "BTC" "0.1" "Ledger 1",
      operationRow "FEES" "BTC" "0.0002" "Ledger 1"])]

lemma accountSwap_placed :
    ∀ group ∈ operationGroups accountSwapFiles, Placed plainEnvironment "ledger" group := by
  have hrows : ∀ group ∈ operationGroups accountSwapFiles, group.rows.length ≠ 1 ∧
      ∀ inbound ∈ group.rowsOf plainEnvironment "IN", ∀ outbound ∈ group.rowsOf plainEnvironment "OUT",
        SwapPlaced plainEnvironment "ledger" inbound outbound
          (group.rowsOf plainEnvironment "FEES") := by
    decide +kernel
  intro group hgroup
  rcases hrows group hgroup with ⟨hlength, hswap⟩
  refine ⟨fun row hrow => absurd (congrArg List.length hrow) hlength, ?_⟩
  intro inbound outbound hin hout
  exact hswap inbound (hin ▸ List.mem_singleton.2 rfl) outbound (hout ▸ List.mem_singleton.2 rfl)

end LedgerLive
end Tallylot
