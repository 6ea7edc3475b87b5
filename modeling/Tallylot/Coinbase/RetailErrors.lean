import Tallylot.Coinbase.RetailRows
import Tallylot.Normalization.DraftErrors

/-!
# RetailErrors — what a row of a retail export raises

Only a `ValueError` becomes an issue.  The other failures are those of `decimal`: an amount that does not
read or is too large for the context, the comparison of a NaN, the sum of infinities of different signs,
and a sum that is too large.  `ComparableRow` says when none of them happens on the way through a row,
`ComparableMigration` when none happens in a pair.
-/

namespace Tallylot
namespace Coinbase

open Data Domain Normalization Transactions

/-! ## Conditions -/

/-- The source names a location. -/
def SourceNamed (env : KernelEnvironment) (file : RetailFile) : Prop :=
  ∃ location, locationIdFromParts env.lower [file.source] = .ok location

/-- The exact total of a trade without its fee. -/
def exactTotal (txType : String) (total fee : Decimal) : Decimal :=
  if txType = "buy" then total.exactDifference fee else total.exactSum fee

/-- A total and its fee have a corrected total that can be compared: there is no NaN, the two are no
infinities that cancel, and numbers stay within the context. -/
structure Correctable (txType : String) (total fee : SpecialDecimal) : Prop where
  comparable : total ≠ .nan
  apart : ¬(fee = .infinite false ∧ total = .infinite (txType ≠ "buy"))
  bounded : ∀ t f, total = .finite t → fee = .finite f → ¬(exactTotal txType t f).Overflows

/-- What a trade compares: its fee if the cash is taken from the total, the corrected total, and the
fee and the quantities of legs that are built. -/
structure ComparableTrade (env : KernelEnvironment) (file : RetailFile) (row : RetailRow)
    (quantity : SpecialDecimal) (amounts : RetailAmounts) : Prop where
  fee : amounts.subtotal = none → amounts.total ≠ none → amounts.fee ≠ some .nan
  corrected : amounts.subtotal = none → ∀ total fee, amounts.total = some total →
    amounts.fee = some fee → fee.isPositive = .ok true → Correctable (txType env row) total fee
  legs : ∀ cash, retailCashAmount (txType env row) amounts.subtotal amounts.total amounts.fee =
      .ok (some cash) → isBlank (assetSymbol env row) = false → isBlank (priceCurrency env row) = false →
    quantity.isZero = false → cash.isZero = false →
      amounts.fee ≠ some .nan ∧ (SourceNamed env file → quantity ≠ .nan ∧ cash ≠ .nan)

/-- The types of rows that are no trades. -/
def singleTypes : List String :=
  ["reward income", "receive", "deposit", "send", "withdrawal", "withdraw"]

/-- The amounts of the row can be read and, as far as the row gets, compared. -/
def ComparableRow (env : KernelEnvironment) (file : RetailFile) (row : RetailRow) : Prop :=
  ∃ amounts, readAmounts row = .ok amounts ∧
    ∀ quantity, amounts.quantity = some quantity →
      (∃ timestamp, parseRetailTimestamp env (strip (row .timestamp)) = .ok timestamp) →
        (txType env row ∈ ["buy", "sell"] → ComparableTrade env file row quantity amounts) ∧
          (txType env row ∈ singleTypes → isBlank (assetSymbol env row) = false →
            SourceNamed env file → quantity ≠ .nan)

/-- The quantities of two rows can be read and compared. -/
def ComparableMigration (rows : List RetailRow) : Prop :=
  rows.length = 2 → ∀ row ∈ rows,
    ∃ quantity, transactedQuantity row = .ok quantity ∧ quantity ≠ some .nan

/-! ## Legs -/

lemma build_of_draft {leg : RetailLeg} {draft : EconomicLegDraft} (h : leg.draft = .ok draft) :
    leg.build = .ok ⟨leg, draft, h⟩ := by
  unfold RetailLeg.build
  split
  · rename_i built hbuilt
    cases hbuilt.symm.trans h
    rfl
  · rename_i e herror
    cases herror.symm.trans h

lemma leg_of_build {leg : RetailLeg} {built : BuiltRetailLeg} (h : leg.build = .ok built) :
    built.leg = leg := by
  unfold RetailLeg.build at h
  split at h
  · rw [← Except.ok.inj h]
  · cases h

lemma catchable_buildRetailLeg (leg : RetailLeg) : Catchable leg.build := by
  intro e he
  unfold RetailLeg.build at he
  split at he
  · cases he
  · rename_i e' he'
    exact catchable_symbolLeg e (he'.trans (congrArg Except.error (Except.error.inj he)))

/-- What the constructors of a leg have checked. -/
lemma checked_of_draft {leg : RetailLeg} {draft : EconomicLegDraft} (h : leg.draft = .ok draft) :
    isBlank leg.asset = false ∧ leg.quantity.isZero = false := by
  rcases bind_eq_ok_iff.1 h with ⟨claim, hclaim, hmade⟩
  rcases create_eq_ok_iff.1 (raised_eq_ok_iff.1 hclaim) with ⟨_, _, hasset, _⟩
  rcases bind_eq_ok_iff.1 (economicLegDraft.make_of_build hmade) with ⟨_, hvalid, _⟩
  rcases bind_eq_ok_iff.1 hvalid with ⟨_, _, hleg⟩
  rcases bind_eq_ok_iff.1 hleg with ⟨placeholder, hplaceholder, _⟩
  rcases (postInit_eq_ok_iff _ _).1 (economicLeg.make_of_build hplaceholder) with ⟨hchecked, _⟩
  refine ⟨hasset, ?_⟩
  rw [Bool.eq_false_iff, ne_eq, ← SpecialDecimal.standIn_eq_zero_iff]
  exact hchecked.quantity

lemma checked_of_build {leg : RetailLeg} {built : BuiltRetailLeg} (h : leg.build = .ok built) :
    isBlank leg.asset = false ∧ leg.quantity.isZero = false := by
  rw [← leg_of_build h]
  exact checked_of_draft built.built

lemma exists_build_primary {legId asset : String} {quantity : SpecialDecimal}
    (hid : isSnakeCase legId = true) (hasset : isBlank asset = false)
    (hquantity : quantity.isZero = false) :
    ∃ built, (primaryLeg legId quantity asset).build = .ok built := by
  have hne : quantity.standIn ≠ 0 := by
    rw [ne_eq, SpecialDecimal.standIn_eq_zero_iff, hquantity]
    exact Bool.false_ne_true
  rcases @exists_symbolLeg _ _ _ _ (some "coinbase") none none hasset (legValid_primary hid hne) with
    ⟨draft, hdraft, _⟩
  have hbuilt : (primaryLeg legId quantity asset).draft = .ok draft := hdraft
  exact ⟨_, build_of_draft hbuilt⟩

lemma exists_build_primary_iff {legId asset : String} {quantity : SpecialDecimal}
    (hid : isSnakeCase legId = true) :
    (∃ built, (primaryLeg legId quantity asset).build = .ok built) ↔
      isBlank asset = false ∧ quantity.isZero = false := by
  constructor
  · rintro ⟨built, hbuilt⟩
    exact checked_of_build hbuilt
  · rintro ⟨hasset, hquantity⟩
    exact exists_build_primary hid hasset hquantity

/-! ## Fees -/

/-- The leg of a fee that is charged. -/
def feeLegs (feeAmount : Option SpecialDecimal) (feeAsset attributedToLegId : String) :
    List RetailLeg :=
  match feeAmount with
  | none => []
  | some fee =>
      if fee.isPositive = .ok true ∧ feeAsset ≠ "" then [feeLeg fee feeAsset attributedToLegId] else []

lemma ne_nan_of_mem_feeLegs {feeAmount : Option SpecialDecimal} {feeAsset attributedToLegId : String}
    {leg : RetailLeg} (h : leg ∈ feeLegs feeAmount feeAsset attributedToLegId) :
    leg.quantity ≠ .nan := by
  cases feeAmount with
  | none => cases h
  | some fee =>
      unfold feeLegs at h
      dsimp only at h
      split_ifs at h with hcharged
      · rw [List.mem_singleton.1 h]
        exact fun hnan => SpecialDecimal.ne_nan_of_isPositive_ok hcharged.1
          (SpecialDecimal.neg_eq_nan_iff.1 hnan)
      · cases h

lemma catchable_chargeLegs_iff {feeAmount : Option SpecialDecimal}
    {feeAsset attributedToLegId : String} :
    Catchable (chargeLegs feeAmount feeAsset attributedToLegId) ↔ feeAmount ≠ some .nan := by
  cases feeAmount with
  | none => exact iff_of_true catchable_ok (fun h => by cases h)
  | some fee =>
      rw [chargeLegs, catchable_bind_iff, catchable_iff_of_uncaught SpecialDecimal.uncaught_isPositive,
        SpecialDecimal.exists_isPositive_iff, ne_eq, ne_eq, Option.some.injEq]
      refine and_iff_left fun positive _ => ?_
      split_ifs
      · exact catchable_pure
      · exact catchable_bind (catchable_buildRetailLeg _) fun _ => catchable_pure

lemma legs_of_chargeLegs {feeAmount : Option SpecialDecimal} {feeAsset attributedToLegId : String}
    {charge : List BuiltRetailLeg}
    (h : chargeLegs feeAmount feeAsset attributedToLegId = .ok charge) :
    charge.map BuiltRetailLeg.leg = feeLegs feeAmount feeAsset attributedToLegId := by
  cases feeAmount with
  | none =>
      cases h
      rfl
  | some fee =>
      rcases bind_eq_ok_iff.1 h with ⟨positive, hpositive, hrest⟩
      rw [feeLegs]
      split_ifs at hrest with hnone
      · rw [← Except.ok.inj hrest, if_neg]
        · rfl
        · rintro ⟨hsign, hasset⟩
          rw [hsign] at hpositive
          cases Except.ok.inj hpositive
          exact hasset (by simpa using hnone)
      · rcases bind_eq_ok_iff.1 hrest with ⟨built, hbuilt, hcharge⟩
        have hcharged : positive = true ∧ feeAsset ≠ "" := by simpa using hnone
        rw [← Except.ok.inj hcharge, if_pos ⟨hcharged.1 ▸ hpositive, hcharged.2⟩]
        exact congrArg (fun leg => [leg]) (leg_of_build hbuilt)

/-- The fee of a named asset is charged unless it is a NaN. -/
lemma exists_chargeLegs {feeAmount : Option SpecialDecimal} {feeAsset attributedToLegId : String}
    (hfee : feeAmount ≠ some .nan) (hasset : isBlank feeAsset = false)
    (hid : isSnakeCase attributedToLegId = true) :
    ∃ charge, chargeLegs feeAmount feeAsset attributedToLegId = .ok charge := by
  cases feeAmount with
  | none => exact ⟨[], rfl⟩
  | some fee =>
      rcases SpecialDecimal.exists_isPositive_iff.2 (fun hnan => hfee (congrArg some hnan)) with
        ⟨positive, hpositive⟩
      rw [chargeLegs, hpositive, bind_ok]
      split_ifs with hnone
      · exact ⟨[], rfl⟩
      · have hsign : positive = true := by
          rw [Bool.or_eq_true, not_or] at hnone
          simpa using hnone.1
        have hne : fee.neg.standIn ≠ 0 := by
          rw [ne_eq, SpecialDecimal.standIn_eq_zero_iff, SpecialDecimal.isZero_neg]
          exact SpecialDecimal.not_isZero_of_isPositive (hsign ▸ hpositive)
        rcases @exists_symbolLeg _ _ _ _ (some "coinbase") _ _ hasset
          (@legValid_charge "fee" "trading_fee" attributedToLegId _ (by decide) hne (by decide) hid) with
          ⟨draft, hdraft, _⟩
        have hbuilt : (feeLeg fee feeAsset attributedToLegId).draft = .ok draft := hdraft
        rw [build_of_draft hbuilt, bind_ok]
        exact ⟨_, rfl⟩

/-! ## Drafts -/

lemma catchable_buildRetailDraft_iff {legs : List BuiltRetailLeg} {fields : EconomicActivityDraftFields} :
    Catchable (buildRetailDraft legs fields) ↔ ∀ built ∈ legs, built.leg.quantity ≠ .nan := by
  unfold buildRetailDraft
  split_ifs with hnan
  · refine iff_of_false not_catchable_invalidOperation ?_
    rcases List.any_eq_true.1 hnan with ⟨built, hbuilt, hquantity⟩
    exact fun h => h built hbuilt (of_decide_eq_true hquantity)
  · refine iff_of_true (catchable_bind (catchable_buildDraft _) fun _ => catchable_pure) ?_
    intro built hbuilt hquantity
    exact hnan (List.any_eq_true.2 ⟨built, hbuilt, decide_eq_true hquantity⟩)

lemma catchable_retailDraft_iff {env : KernelEnvironment} {file : RetailFile} {row : RetailRow}
    {timestamp : Instant} {description : String} {legPolicy : FactLegPolicy}
    {legs : List BuiltRetailLeg} :
    Catchable (retailDraft env file row timestamp description legPolicy legs) ↔
      (SourceNamed env file → ∀ built ∈ legs, built.leg.quantity ≠ .nan) := by
  unfold retailDraft
  rw [catchable_bind_iff]
  constructor
  · rintro ⟨_, h⟩ ⟨location, hlocation⟩
    exact catchable_buildRetailDraft_iff.1 (h location hlocation)
  · intro h
    refine ⟨catchable_locationIdFromParts, fun location hlocation => ?_⟩
    exact catchable_buildRetailDraft_iff.2 (h ⟨location, hlocation⟩)

/-! ## Amounts -/

lemma uncaught_readAmounts {row : RetailRow} : Uncaught (readAmounts row) :=
  uncaught_bind SpecialDecimal.uncaught_parse fun _ =>
    uncaught_bind SpecialDecimal.uncaught_parse fun _ =>
      uncaught_bind SpecialDecimal.uncaught_parse fun _ =>
        uncaught_bind SpecialDecimal.uncaught_parse fun _ => uncaught_pure

lemma uncaught_correctedTotal {txType : String} {total fee : SpecialDecimal} :
    Uncaught (correctedTotal txType total fee) := by
  unfold correctedTotal
  split_ifs
  · exact SpecialDecimal.uncaught_sub
  · exact SpecialDecimal.uncaught_add

lemma correctable_infinite {txType : String} {negative : Bool} {fee : Decimal} :
    Correctable txType (.infinite negative) (.finite fee) where
  comparable := fun h => by cases h
  apart := fun h => by cases h.1
  bounded := fun _ _ h => by cases h

/-- The numbers of a total and of a fee have a sum within the context. -/
lemma correctable_finite_iff {txType : String} {total fee : Decimal} :
    Correctable txType (.finite total) (.finite fee) ↔ ¬(exactTotal txType total fee).Overflows := by
  constructor
  · exact fun h => h.bounded total fee rfl rfl
  · intro h
    refine ⟨(fun hnan => by cases hnan), (fun hinf => by cases hinf.1), ?_⟩
    rintro _ _ ⟨⟩ ⟨⟩
    exact h

/-- A corrected total can be compared unless it is made of a NaN or of opposite infinities, or leaves
the context. -/
lemma exists_correctedTotal_iff {txType : String} {total fee : SpecialDecimal}
    (hfee : fee.isPositive = .ok true) :
    (∃ cash, correctedTotal txType total fee = .ok cash ∧ cash ≠ .nan) ↔
      Correctable txType total fee := by
  have hnan : (∃ cash, correctedTotal txType .nan fee = .ok cash ∧ cash ≠ .nan) ↔
      Correctable txType .nan fee := by
    refine iff_of_false ?_ (fun h => h.comparable rfl)
    rintro ⟨cash, hcash, hne⟩
    unfold correctedTotal at hcash
    split_ifs at hcash
    · exact hne (Except.ok.inj hcash).symm
    · exact hne (Except.ok.inj hcash).symm
  cases fee with
  | nan => cases hfee
  | finite fee =>
      cases total with
      | nan => exact hnan
      | finite total =>
          rw [correctable_finite_iff, ← SpecialDecimal.exists_map_finite_iff, exactTotal, correctedTotal]
          split_ifs
          · exact Iff.rfl
          · exact Iff.rfl
      | infinite negative =>
          refine iff_of_true ?_ correctable_infinite
          unfold correctedTotal
          split_ifs
          · exact ⟨_, rfl, (fun h => by cases h)⟩
          · exact ⟨_, rfl, (fun h => by cases h)⟩
  | infinite sign =>
      have hsign : sign = false := by simpa using Except.ok.inj hfee
      subst hsign
      cases total with
      | nan => exact hnan
      | finite total =>
          refine iff_of_true ?_ ⟨(fun h => by cases h), (fun h => by cases h.2), (fun _ _ _ h => by cases h)⟩
          unfold correctedTotal
          split_ifs
          · exact ⟨_, rfl, (fun h => by cases h)⟩
          · exact ⟨_, rfl, (fun h => by cases h)⟩
      | infinite negative =>
          have happart : Correctable txType (.infinite negative) (.infinite false) ↔
              ¬(SpecialDecimal.infinite negative = .infinite (txType ≠ "buy")) := by
            constructor
            · exact fun h hsame => h.apart ⟨rfl, hsame⟩
            · exact fun h => ⟨(fun hnan => by cases hnan), (fun hinf => h hinf.2),
                (fun _ _ ht => by cases ht)⟩
          rw [happart]
          unfold correctedTotal
          by_cases hbuy : txType = "buy"
          · rw [if_pos hbuy, decide_eq_false (not_not_intro hbuy)]
            cases negative <;> simp [SpecialDecimal.sub]
          · rw [if_neg hbuy, decide_eq_true hbuy]
            cases negative <;> simp [SpecialDecimal.add]

lemma retailCashAmount_total {txType : String} (total fee : SpecialDecimal) :
    retailCashAmount txType none (some total) (some fee) = (do
      if !(← fee.isPositive) then return some total
      else
        let cash ← correctedTotal txType total fee
        return if ← cash.isPositive then some cash else none) := rfl

lemma uncaught_retailCashAmount {txType : String} {subtotal total fee : Option SpecialDecimal} :
    Uncaught (retailCashAmount txType subtotal total fee) := by
  cases subtotal with
  | some subtotal => exact uncaught_ok
  | none =>
      cases total with
      | none => exact uncaught_ok
      | some total =>
          cases fee with
          | none => exact uncaught_ok
          | some fee =>
              rw [retailCashAmount_total]
              refine uncaught_bind SpecialDecimal.uncaught_isPositive fun positive => ?_
              cases positive with
              | false => exact uncaught_pure
              | true =>
                  refine uncaught_bind uncaught_correctedTotal fun cash => ?_
                  exact uncaught_bind SpecialDecimal.uncaught_isPositive fun _ => uncaught_pure

/-- The cash of a trade is compared only where it is a total that a fee corrects. -/
lemma exists_retailCashAmount_iff {txType : String} {subtotal total fee : Option SpecialDecimal} :
    (∃ cash, retailCashAmount txType subtotal total fee = .ok cash) ↔
      (subtotal = none → total ≠ none → fee ≠ some .nan) ∧
        (subtotal = none → ∀ t f, total = some t → fee = some f → f.isPositive = .ok true →
          Correctable txType t f) := by
  cases subtotal with
  | some subtotal => exact iff_of_true ⟨_, rfl⟩ ⟨(fun h => by cases h), (fun h => by cases h)⟩
  | none =>
      cases total with
      | none => exact iff_of_true ⟨_, rfl⟩ ⟨(fun _ h => absurd rfl h), (fun _ t f h => by cases h)⟩
      | some total =>
          cases fee with
          | none => exact iff_of_true ⟨_, rfl⟩ ⟨(fun _ _ h => by cases h), (fun _ t f _ h => by cases h)⟩
          | some fee =>
              rw [retailCashAmount_total]
              constructor
              · rintro ⟨cash, hcash⟩
                rcases bind_eq_ok_iff.1 hcash with ⟨positive, hpositive, hcash⟩
                refine ⟨(fun _ _ h => ?_), ?_⟩
                · rw [Option.some.inj h] at hpositive
                  cases hpositive
                · rintro _ t f ht hf hsign
                  cases ht
                  cases hf
                  rw [hsign] at hpositive
                  cases Except.ok.inj hpositive
                  rcases bind_eq_ok_iff.1 hcash with ⟨sum, hsum, hcash⟩
                  rcases bind_eq_ok_iff.1 hcash with ⟨_, hcompared, _⟩
                  exact (exists_correctedTotal_iff hsign).1
                    ⟨sum, hsum, SpecialDecimal.ne_nan_of_isPositive_ok hcompared⟩
              · rintro ⟨hnan, hsum⟩
                have hfee : fee ≠ .nan := by
                  rintro rfl
                  exact hnan rfl (fun h => by cases h) rfl
                rcases SpecialDecimal.exists_isPositive_iff.2 hfee with ⟨positive, hpositive⟩
                cases positive with
                | false => exact ⟨some total, by rw [hpositive]; rfl⟩
                | true =>
                    rcases (exists_correctedTotal_iff hpositive).2
                      (hsum rfl total fee rfl rfl hpositive) with ⟨cash, hcash, hne⟩
                    rcases SpecialDecimal.exists_isPositive_iff.2 hne with ⟨compared, hcompared⟩
                    refine ⟨if compared then some cash else none, ?_⟩
                    rw [hpositive, bind_ok, if_neg (by decide), hcash, bind_ok, hcompared]
                    rfl

/-! ## Trades -/

/-- The primary legs of a trade are built where both instruments are named and no quantity is zero. -/
lemma exists_tradeLegs {txType : String} (htrade : txType ∈ ["buy", "sell"])
    (asset priceCurrency : String) (quantity cash : SpecialDecimal) :
    ∃ inLeg outLeg attributedToLegId,
      tradeLegs txType asset priceCurrency quantity cash = some (inLeg, outLeg, attributedToLegId) ∧
        isSnakeCase attributedToLegId = true ∧
          ((∃ built, inLeg.build = .ok built) ∧ (∃ built, outLeg.build = .ok built) ↔
            (isBlank asset = false ∧ quantity.isZero = false) ∧
              (isBlank priceCurrency = false ∧ cash.isZero = false)) ∧
            (inLeg.quantity ≠ .nan ∧ outLeg.quantity ≠ .nan ↔ quantity ≠ .nan ∧ cash ≠ .nan) := by
  have hin : isSnakeCase "primary_in" = true := by decide
  have hout : isSnakeCase "primary_out" = true := by decide
  rcases List.mem_pair.1 htrade with rfl | rfl
  · refine ⟨_, _, _, rfl, hout, ?_, ?_⟩
    · rw [exists_build_primary_iff hin, exists_build_primary_iff hout, SpecialDecimal.isZero_neg]
    · exact and_congr Iff.rfl (not_congr SpecialDecimal.neg_eq_nan_iff)
  · refine ⟨_, _, _, rfl, hin, ?_, ?_⟩
    · rw [exists_build_primary_iff hin, exists_build_primary_iff hout, SpecialDecimal.isZero_neg,
        and_comm]
    · rw [and_comm]
      exact and_congr (not_congr SpecialDecimal.neg_eq_nan_iff) Iff.rfl

theorem catchable_tradeDraft_iff {env : KernelEnvironment} {file : RetailFile} {row : RetailRow}
    {timestamp : Instant} {description : String} {quantity : SpecialDecimal} {amounts : RetailAmounts}
    (htrade : txType env row ∈ ["buy", "sell"]) :
    Catchable (tradeDraft env file row timestamp description quantity amounts) ↔
      ComparableTrade env file row quantity amounts := by
  unfold tradeDraft
  rw [catchable_bind_iff, catchable_iff_of_uncaught uncaught_retailCashAmount,
    exists_retailCashAmount_iff]
  constructor
  · rintro ⟨⟨hfee, hcorrected⟩, hrest⟩
    refine ⟨hfee, hcorrected, ?_⟩
    intro cash hcash hasset hcurrency hquantity hzero
    rcases exists_tradeLegs htrade (assetSymbol env row) (priceCurrency env row) quantity cash with
      ⟨inLeg, outLeg, attributed, hlegs, hid, hbuilds, hnans⟩
    rcases hbuilds.2 ⟨⟨hasset, hquantity⟩, hcurrency, hzero⟩ with
      ⟨⟨primaryIn, hprimaryIn⟩, primaryOut, hprimaryOut⟩
    have hbuilt := hrest _ hcash
    dsimp only at hbuilt
    rw [hlegs] at hbuilt
    dsimp only at hbuilt
    rw [hprimaryIn, bind_ok, hprimaryOut, bind_ok, catchable_bind_iff, catchable_chargeLegs_iff] at hbuilt
    refine ⟨hbuilt.1, fun hnamed => ?_⟩
    rcases exists_chargeLegs hbuilt.1 hcurrency hid with ⟨charge, hcharge⟩
    have hcomparable := catchable_retailDraft_iff.1 (hbuilt.2 charge hcharge) hnamed
    have hfirst := hcomparable primaryIn List.mem_cons_self
    have hsecond := hcomparable primaryOut (List.mem_cons_of_mem _ List.mem_cons_self)
    rw [leg_of_build hprimaryIn] at hfirst
    rw [leg_of_build hprimaryOut] at hsecond
    exact hnans.1 ⟨hfirst, hsecond⟩
  · intro h
    refine ⟨⟨h.fee, h.corrected⟩, fun found hfound => ?_⟩
    cases found with
    | none => exact catchable_value
    | some cash =>
        rcases exists_tradeLegs htrade (assetSymbol env row) (priceCurrency env row) quantity cash with
          ⟨inLeg, outLeg, attributed, hlegs, _, hbuilds, hnans⟩
        dsimp only
        rw [hlegs]
        dsimp only
        refine catchable_bind_iff.2 ⟨catchable_buildRetailLeg _, fun primaryIn hprimaryIn => ?_⟩
        refine catchable_bind_iff.2 ⟨catchable_buildRetailLeg _, fun primaryOut hprimaryOut => ?_⟩
        rcases hbuilds.1 ⟨⟨primaryIn, hprimaryIn⟩, primaryOut, hprimaryOut⟩ with
          ⟨⟨hasset, hquantity⟩, hcurrency, hzero⟩
        rcases h.legs cash hfound hasset hcurrency hquantity hzero with ⟨hfee, hcomparable⟩
        refine catchable_bind_iff.2 ⟨catchable_chargeLegs_iff.2 hfee, fun charge hcharge => ?_⟩
        rw [catchable_retailDraft_iff]
        intro hnamed
        rcases hnans.2 (hcomparable hnamed) with ⟨hfirst, hsecond⟩
        refine List.forall_mem_cons.2 ⟨leg_of_build hprimaryIn ▸ hfirst,
          List.forall_mem_cons.2 ⟨leg_of_build hprimaryOut ▸ hsecond, fun built hbuilt => ?_⟩⟩
        refine ne_nan_of_mem_feeLegs (?_ : built.leg ∈ feeLegs amounts.fee (priceCurrency env row) attributed)
        rw [← legs_of_chargeLegs hcharge]
        exact List.mem_map_of_mem hbuilt

/-! ## Other rows -/

lemma exists_singleLeg {txType : String} (hsingle : txType ∈ singleTypes) (asset : String)
    (quantity : SpecialDecimal) :
    ∃ leg, singleLeg txType asset quantity = some leg ∧
      ((∃ built, leg.build = .ok built) ↔ isBlank asset = false ∧ quantity.isZero = false) ∧
        (leg.quantity ≠ .nan ↔ quantity ≠ .nan) := by
  have hin : isSnakeCase "primary_in" = true := by decide
  have hout : isSnakeCase "primary_out" = true := by decide
  simp only [singleTypes, List.mem_cons, List.not_mem_nil, or_false] at hsingle
  rcases hsingle with rfl | rfl | rfl | rfl | rfl | rfl
  · refine ⟨_, rfl, ?_, not_congr SpecialDecimal.abs_eq_nan_iff⟩
    rw [exists_build_primary_iff hin, SpecialDecimal.isZero_abs]
  · exact ⟨_, rfl, exists_build_primary_iff hin, Iff.rfl⟩
  · exact ⟨_, rfl, exists_build_primary_iff hin, Iff.rfl⟩
  all_goals
    refine ⟨_, rfl, ?_, not_congr (SpecialDecimal.neg_eq_nan_iff.trans SpecialDecimal.abs_eq_nan_iff)⟩
    rw [exists_build_primary_iff hout, SpecialDecimal.isZero_neg, SpecialDecimal.isZero_abs]

lemma singleLeg_eq_none {txType : String} (h : txType ∉ singleTypes) (asset : String)
    (quantity : SpecialDecimal) : singleLeg txType asset quantity = none := by
  simp only [singleTypes, List.mem_cons, List.not_mem_nil, or_false, not_or] at h
  rcases h with ⟨hreward, hreceive, hdeposit, hsend, hwithdrawal, hwithdraw⟩
  unfold singleLeg
  rw [if_neg hreward, if_neg (by simp [hreceive, hdeposit]), if_neg (by simp [hsend, hwithdrawal, hwithdraw])]

theorem catchable_singleDraft_iff {env : KernelEnvironment} {file : RetailFile} {row : RetailRow}
    {timestamp : Instant} {description : String} {quantity : SpecialDecimal} :
    Catchable (singleDraft env file row timestamp description quantity) ↔
      (txType env row ∈ singleTypes → isBlank (assetSymbol env row) = false →
        SourceNamed env file → quantity ≠ .nan) := by
  unfold singleDraft
  by_cases hsingle : txType env row ∈ singleTypes
  · rcases exists_singleLeg hsingle (assetSymbol env row) quantity with ⟨leg, hleg, hbuilds, hnan⟩
    rw [hleg]
    dsimp only
    constructor
    · rintro h _ hasset hnamed rfl
      rcases hbuilds.2 ⟨hasset, rfl⟩ with ⟨built, hbuilt⟩
      have hdraft := (catchable_bind_iff.1 h).2 built hbuilt
      have hcomparable := catchable_retailDraft_iff.1 hdraft hnamed built List.mem_cons_self
      rw [leg_of_build hbuilt] at hcomparable
      exact hnan.1 hcomparable rfl
    · intro h
      refine catchable_bind_iff.2 ⟨catchable_buildRetailLeg _, fun built hbuilt => ?_⟩
      rw [catchable_retailDraft_iff]
      intro hnamed
      refine List.forall_mem_singleton.2 ?_
      rw [leg_of_build hbuilt]
      exact hnan.2 (h hsingle (hbuilds.1 ⟨built, hbuilt⟩).1 hnamed)
  · rw [singleLeg_eq_none hsingle]
    exact iff_of_true catchable_value (fun h => absurd h hsingle)

/-! ## Rows -/

lemma not_single_of_trade {txType : String} (h : txType ∈ ["buy", "sell"]) : txType ∉ singleTypes := by
  rcases List.mem_pair.1 h with rfl | rfl
  · decide
  · decide

/-- A row fails with a `ValueError`, if at all, exactly where its amounts can be compared. -/
theorem catchable_normalizeRetailRow_iff {env : KernelEnvironment} {file : RetailFile}
    {row : RetailRow} :
    Catchable (normalizeRetailRow env file row) ↔ ComparableRow env file row := by
  unfold normalizeRetailRow
  rw [catchable_bind_iff, catchable_iff_of_uncaught uncaught_readAmounts]
  constructor
  · rintro ⟨⟨amounts, hamounts⟩, hrest⟩
    refine ⟨amounts, hamounts, ?_⟩
    rintro quantity hquantity ⟨timestamp, htimestamp⟩
    have hdraft := (catchable_bind_iff.1 (hrest amounts hamounts)).2 timestamp htimestamp
    rw [hquantity] at hdraft
    dsimp only at hdraft
    split_ifs at hdraft with htrade
    · exact ⟨fun _ => (catchable_tradeDraft_iff htrade).1 hdraft,
        fun hsingle => absurd hsingle (not_single_of_trade htrade)⟩
    · exact ⟨fun h => absurd h htrade, catchable_singleDraft_iff.1 hdraft⟩
  · rintro ⟨amounts, hamounts, h⟩
    refine ⟨⟨amounts, hamounts⟩, fun read hread => ?_⟩
    cases hamounts.symm.trans hread
    refine catchable_bind_iff.2 ⟨catchable_requireSome, fun timestamp htimestamp => ?_⟩
    cases hquantity : amounts.quantity with
    | none => exact catchable_value
    | some quantity =>
        rcases h quantity hquantity ⟨timestamp, htimestamp⟩ with ⟨htrades, hsingles⟩
        dsimp only
        split_ifs with htrade
        · exact (catchable_tradeDraft_iff htrade).2 (htrades htrade)
        · exact catchable_singleDraft_iff.2 hsingles

/-- No amount is an infinity or a NaN. -/
def RetailAmounts.isFinite (amounts : RetailAmounts) : Bool :=
  [amounts.quantity, amounts.subtotal, amounts.total, amounts.fee].all
    (fun value => value.all SpecialDecimal.isFinite)

lemma isFinite_of_retailCashAmount {txType : String} {amounts : RetailAmounts}
    (hfinite : amounts.isFinite = true) {cash : SpecialDecimal}
    (hcash : retailCashAmount txType amounts.subtotal amounts.total amounts.fee = .ok (some cash)) :
    cash.isFinite = true := by
  simp only [RetailAmounts.isFinite, List.all_cons, List.all_nil, Bool.and_true,
    Bool.and_eq_true] at hfinite
  rcases hfinite with ⟨_, hsubtotal, htotal, hfee⟩
  cases hs : amounts.subtotal with
  | some subtotal =>
      rw [hs] at hsubtotal hcash
      cases hcash
      exact hsubtotal
  | none =>
      cases ht : amounts.total with
      | none =>
          rw [hs, ht] at hcash
          cases hcash
      | some total =>
          rw [ht] at htotal
          cases hf : amounts.fee with
          | none =>
              rw [hs, ht, hf] at hcash
              cases hcash
              exact htotal
          | some fee =>
              rw [hf] at hfee
              rw [hs, ht, hf, retailCashAmount_total] at hcash
              rcases SpecialDecimal.exists_of_isFinite htotal with ⟨t, rfl⟩
              rcases SpecialDecimal.exists_of_isFinite hfee with ⟨f, rfl⟩
              rcases bind_eq_ok_iff.1 hcash with ⟨positive, _, hcash⟩
              split_ifs at hcash
              · cases hcash
                rfl
              · rcases bind_eq_ok_iff.1 hcash with ⟨sum, hsum, hcash⟩
                rcases bind_eq_ok_iff.1 hcash with ⟨compared, _, hcash⟩
                have hfound : (if compared = true then some sum else none) = some cash :=
                  Except.ok.inj hcash
                split_ifs at hfound
                rw [← Option.some.inj hfound]
                unfold correctedTotal at hsum
                split_ifs at hsum
                · rw [← (SpecialDecimal.map_finite_eq_ok_iff.1 hsum).2]
                  rfl
                · rw [← (SpecialDecimal.map_finite_eq_ok_iff.1 hsum).2]
                  rfl

/-- A row of plain numbers raises nothing but a `ValueError`, if its total and fee keep within the
context together. -/
theorem comparableRow_of_finite {env : KernelEnvironment} {file : RetailFile} {row : RetailRow}
    {amounts : RetailAmounts} (hamounts : readAmounts row = .ok amounts)
    (hfinite : amounts.isFinite = true)
    (hbounded : amounts.subtotal = none → ∀ t f, amounts.total = some (.finite t) →
      amounts.fee = some (.finite f) → ¬(exactTotal (txType env row) t f).Overflows) :
    ComparableRow env file row := by
  have hall : ∀ value ∈ [amounts.quantity, amounts.subtotal, amounts.total, amounts.fee],
      ∀ v, value = some v → v ≠ .nan ∧ ∀ negative, v ≠ .infinite negative := by
    intro value hvalue v hv
    have hv' : v.isFinite = true := by
      have hone := List.all_eq_true.1 hfinite value hvalue
      rw [hv] at hone
      exact hone
    rcases SpecialDecimal.exists_of_isFinite hv' with ⟨d, rfl⟩
    exact ⟨(fun h => by cases h), fun _ h => by cases h⟩
  simp only [List.forall_mem_cons] at hall
  rcases hall with ⟨hquantity, _, htotal, hfee, _⟩
  refine ⟨amounts, hamounts, fun quantity hq _ => ⟨fun _ => ?_, fun _ _ _ => (hquantity _ hq).1⟩⟩
  constructor
  · exact fun _ _ hnan => (hfee _ hnan).1 rfl
  · intro hnone total fee ht hf _
    refine ⟨(htotal _ ht).1, fun h => (htotal _ ht).2 _ h.2, ?_⟩
    rintro t f rfl rfl
    exact hbounded hnone t f ht hf
  · intro cash hcash _ _ _ _
    refine ⟨fun hnan => (hfee _ hnan).1 rfl, fun _ => ⟨(hquantity _ hq).1, ?_⟩⟩
    rcases SpecialDecimal.exists_of_isFinite (isFinite_of_retailCashAmount hfinite hcash) with ⟨d, rfl⟩
    exact fun h => by cases h

/-! ## Asset migrations -/

lemma uncaught_migrationQuantity {row : RetailRow} : Uncaught (migrationQuantity row) :=
  uncaught_bind SpecialDecimal.uncaught_parse fun _ => uncaught_pure

lemma exists_migrationQuantity_iff {row : RetailRow} :
    (∃ quantity, migrationQuantity row = .ok quantity ∧ quantity ≠ .nan) ↔
      ∃ quantity, transactedQuantity row = .ok quantity ∧ quantity ≠ some .nan := by
  constructor
  · rintro ⟨quantity, hquantity, hnan⟩
    rcases bind_eq_ok_iff.1 hquantity with ⟨parsed, hparsed, hvalue⟩
    refine ⟨parsed, hparsed, ?_⟩
    rintro rfl
    exact hnan (Except.ok.inj hvalue).symm
  · rintro ⟨parsed, hparsed, hnan⟩
    refine ⟨parsed.getD (.finite 0), bind_eq_ok_iff.2 ⟨parsed, hparsed, rfl⟩, ?_⟩
    cases parsed with
    | none => exact fun h => by cases h
    | some quantity => exact fun h => hnan (congrArg some h)

/-- Two rows fail with a `ValueError`, if at all, exactly where their quantities can be compared. -/
theorem catchable_normalizeAssetMigration_iff {env : KernelEnvironment} {file : RetailFile}
    {timestamp : String} {rows : List RetailRow} :
    Catchable (normalizeAssetMigration env file timestamp rows) ↔ ComparableMigration rows := by
  unfold normalizeAssetMigration
  split_ifs with hlength
  · exact iff_of_true catchable_value (fun h => absurd h hlength)
  have hnegative : ∀ row, Uncaught (do (← migrationQuantity row).isNegative) := fun row =>
    uncaught_bind uncaught_migrationQuantity fun _ => SpecialDecimal.uncaught_isNegative
  have hpositive : ∀ row, Uncaught (do (← migrationQuantity row).isPositive) := fun row =>
    uncaught_bind uncaught_migrationQuantity fun _ => SpecialDecimal.uncaught_isPositive
  rw [catchable_bind_iff, catchable_iff_of_uncaught (uncaught_filterM hnegative)]
  constructor
  · rintro ⟨⟨negatives, hnegatives⟩, _⟩ _ row hrow
    rcases (of_filterM hnegatives).1 row hrow with ⟨negative, hcompared⟩
    rcases bind_eq_ok_iff.1 hcompared with ⟨quantity, hquantity, hsign⟩
    exact exists_migrationQuantity_iff.1
      ⟨quantity, hquantity, SpecialDecimal.exists_isNegative_iff.1 ⟨negative, hsign⟩⟩
  · intro h
    have hquantities : ∀ row ∈ rows, ∃ quantity, migrationQuantity row = .ok quantity ∧
        quantity ≠ .nan := fun row hrow =>
      exists_migrationQuantity_iff.2 (h (not_not.1 hlength) row hrow)
    refine ⟨exists_filterM fun row hrow => ?_, fun negatives hnegatives => ?_⟩
    · rcases hquantities row hrow with ⟨quantity, hquantity, hnan⟩
      rcases SpecialDecimal.exists_isNegative_iff.2 hnan with ⟨negative, hsign⟩
      exact ⟨negative, bind_eq_ok_iff.2 ⟨quantity, hquantity, hsign⟩⟩
    rw [catchable_bind_iff, catchable_iff_of_uncaught (uncaught_filterM hpositive)]
    refine ⟨exists_filterM fun row hrow => ?_, fun positives hpositives => ?_⟩
    · rcases hquantities row hrow with ⟨quantity, hquantity, hnan⟩
      rcases SpecialDecimal.exists_isPositive_iff.2 hnan with ⟨positive, hsign⟩
      exact ⟨positive, bind_eq_ok_iff.2 ⟨quantity, hquantity, hsign⟩⟩
    split
    · rename_i soldRow boughtRow
      have hsold := hquantities soldRow ((of_filterM hnegatives).2 soldRow List.mem_cons_self).1
      have hbought := hquantities boughtRow ((of_filterM hpositives).2 boughtRow List.mem_cons_self).1
      rcases hsold with ⟨sold, hsold, hsoldNan⟩
      rcases exists_migrationQuantity_iff.1 hbought with ⟨bought, hbought, hboughtNan⟩
      have habs : sold.abs ≠ .nan := fun hnan => hsoldNan (SpecialDecimal.abs_eq_nan_iff.1 hnan)
      rcases SpecialDecimal.exists_isPositive_iff.2 habs with ⟨positive, hsign⟩
      rw [hsold, bind_ok, hbought, bind_ok]
      cases bought with
      | none => exact catchable_value
      | some bought =>
          dsimp only
          rw [hsign, bind_ok]
          refine iteInduction (fun _ => catchable_value) fun _ => ?_
          refine catchable_bind catchable_locationIdFromParts fun _ =>
            catchable_bind catchable_requireSome fun _ => ?_
          refine catchable_bind_iff.2 ⟨catchable_buildRetailLeg _, fun assetIn hassetIn => ?_⟩
          refine catchable_bind_iff.2 ⟨catchable_buildRetailLeg _, fun assetOut hassetOut => ?_⟩
          refine catchable_buildRetailDraft_iff.2 (List.forall_mem_cons.2 ⟨?_,
            List.forall_mem_singleton.2 ?_⟩)
          · rw [leg_of_build hassetIn]
            exact fun hnan => hboughtNan (congrArg some hnan)
          · rw [leg_of_build hassetOut]
            exact fun hnan => habs (SpecialDecimal.neg_eq_nan_iff.1 hnan)
    · exact catchable_value

end Coinbase
end Tallylot
