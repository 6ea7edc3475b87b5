import Tallylot.Binance.Conservation
import Tallylot.Binance.Numerals
import Tallylot.Data.Parts
import Tallylot.Normalization.DraftLegs
import Mathlib.Data.List.ReduceOption

/-!
# SpotTrades — Binance spot trades to drafts

A row names its pair without a delimiter and prints its amounts with their assets behind them.  It
becomes a draft with a leg of the base asset, a leg of the quote asset and a leg of the fee.  Rows are
read by themselves, so what becomes of one does not depend on the others.

`tradeLegs` are the legs that a printed trade stands for.  The draft has them exactly if the row is
`Legible`: the quote is the first one of the list that the pair ends in, the assets' digits are not
read as the amounts', and the amounts fit the context.
-/

namespace Tallylot
namespace Binance

open Data Domain Transactions Normalization

section

variable (env : KernelEnvironment) (source fileName : String)

/-! ## Drafts -/

inductive SpotSide where
  | sell
  | buy
  deriving DecidableEq

def SpotSide.name : SpotSide → String
  | .sell => "SELL"
  | .buy => "BUY"

def SpotSide.verb : SpotSide → String
  | .sell => "sell"
  | .buy => "buy"

/-- `_trade_policy` -/
def tradePolicy (feeAmount : Option Decimal) (feeAsset : String) : FactLegPolicy :=
  if feeAmount.isSome && feeAsset ≠ "" then twoSidedPrimaryExchangeWithSingleChargePolicy
  else twoSidedPrimaryExchangePolicy

/-- `_charge_legs` -/
def chargeLegs (feeAmount : Option Decimal) (feeAsset attributedToLegId : String) :
    Decoded (List EconomicLegDraft) :=
  match feeAmount with
  | none => .ok []
  | some amount =>
      if feeAsset = "" then .ok []
      else do
        let leg ← symbolLeg "charge" .charge (-amount) feeAsset (some "binance")
          (some "trading_fee") (some attributedToLegId)
        return [leg]

/-- What a row says about its trade. -/
structure SpotTrade where
  side : SpotSide
  pair : String
  timestamp : Instant
  baseAsset : String
  quoteAsset : String
  executedAmount : Decimal
  quoteAmount : Decimal
  feeAmount : Option Decimal
  feeAsset : String

/-- A primary leg of an asset. -/
def primaryLeg (legId : String) (quantity : Decimal) (asset : String) : Decoded EconomicLegDraft :=
  symbolLeg legId .primary quantity asset (some "binance")

def SpotTrade.legs (trade : SpotTrade) : Decoded (List EconomicLegDraft) :=
  match trade.side with
  | .sell => do
      let base ← primaryLeg "primary_out" (-trade.executedAmount) trade.baseAsset
      let quote ← primaryLeg "primary_in" trade.quoteAmount trade.quoteAsset
      let charge ← chargeLegs trade.feeAmount trade.feeAsset "primary_in"
      return base :: quote :: charge
  | .buy => do
      let base ← primaryLeg "primary_in" trade.executedAmount trade.baseAsset
      let quote ← primaryLeg "primary_out" (-trade.quoteAmount) trade.quoteAsset
      let charge ← chargeLegs trade.feeAmount trade.feeAsset "primary_out"
      return base :: quote :: charge

def spotDraft (index : Nat) (trade : SpotTrade) : Decoded EconomicActivityDraft := do
  let location ← locationIdFromParts env.lower [source, "spot"]
  let legs ← trade.legs
  economicActivityDraft.build
    { activityId := "binance:" ++ fileName ++ ":row:" ++ toString index
      source := source
      adapterId := "binance"
      locationId := location
      timestamp := trade.timestamp
      classification := ⟨.spotTrade, .assetExchange, .capitalExchange, some .trade⟩
      legPolicy := tradePolicy trade.feeAmount trade.feeAsset
      description := "Binance spot " ++ trade.side.verb ++ " " ++ trade.pair
      rawFile := fileName
      rawRowRef := "row:" ++ toString index
      providerOperationKey := "spot:" ++ trade.side.name
      legs := legs }

/-! ## Rows -/

/-- The side that a row has, if it is a supported one. -/
def spotSide (side : String) : Option SpotSide :=
  if side = "SELL" then some .sell else if side = "BUY" then some .buy else none

/-- The body of the loop over the rows. -/
def normalizeSpotRow (numbered : Nat × CsvRow) : Decoded (Option EconomicActivityDraft) := do
  let row := numbered.2
  let pair := env.upper (field row "Pair")
  let (baseAsset, quoteAsset) := splitPair pair
  let (executedAmount, executedAsset) ← amountWithAsset env.upper (cell row "Executed")
  let (quoteAmount, _) ← amountWithAsset env.upper (cell row "Amount")
  let (feeAmount, feeAsset) ← amountWithAsset env.upper (cell row "Fee")
  let timestamp ← parseExportTimestamp (field row "Time") fileName
  match executedAmount, quoteAmount, spotSide (env.upper (field row "Side")) with
  | some executedAmount, some quoteAmount, some side => do
      let draft ← spotDraft env source fileName numbered.1
        { side := side
          pair := pair
          timestamp := timestamp
          baseAsset := if baseAsset ≠ "" then baseAsset else executedAsset
          quoteAsset := quoteAsset
          executedAmount := executedAmount
          quoteAmount := quoteAmount
          feeAmount := feeAmount
          feeAsset := feeAsset }
      return some draft
  | _, _, _ => return none

/-- The rows from a line on. -/
def normalizeSpotRowsFrom (start : Nat) (rows : List CsvRow) : Decoded (List EconomicActivityDraft) := do
  let drafts ← ((rows.zipIdx start).map Prod.swap).mapM (normalizeSpotRow env source fileName)
  return drafts.reduceOption

/-- `normalize_spot_rows`; the first line of a file is its header. -/
def normalizeSpotRows (rows : List CsvRow) : Decoded (List EconomicActivityDraft) :=
  normalizeSpotRowsFrom env source fileName 2 rows

end

/-! ## Printed trades -/

/-- A trade as it is printed. -/
structure PrintedTrade where
  side : SpotSide
  base : Asset
  quote : String
  feeAsset : Asset
  executed : Numeral
  amount : Numeral
  fee : Numeral
  known : quote ∈ quoteCandidates
  executed_pos : 0 < executed.value.coeff
  amount_pos : 0 < amount.value.coeff
  fee_pos : 0 < fee.value.coeff

/-- The row prints the trade. -/
structure Prints (row : CsvRow) (trade : PrintedTrade) : Prop where
  side : row.get "Side" = some trade.side.name
  pair : row.get "Pair" = some (String.ofList (trade.base.chars ++ trade.quote.toList))
  executed : row.get "Executed" = some (String.ofList (trade.executed.chars ++ trade.base.chars))
  amount : row.get "Amount" = some (String.ofList (trade.amount.chars ++ trade.quote.toList))
  fee : row.get "Fee" = some (String.ofList (trade.fee.chars ++ trade.feeAsset.chars))

/-- The instrument that an asset of the venue is. -/
def assetClaim (asset : String) : List InstrumentIdentityClaim := [symbolClaim asset (some "binance")]

/-- Sold is taken out. -/
def SpotSide.sign : SpotSide → ℚ
  | .sell => -1
  | .buy => 1

/-- The legs that a trade stands for. -/
def PrintedTrade.tradeLegs (trade : PrintedTrade) : List (List InstrumentIdentityClaim × ℚ) :=
  [(assetClaim trade.base.name, trade.side.sign * trade.executed.value.toRat),
    (assetClaim trade.quote, -(trade.side.sign * trade.amount.value.toRat)),
    (assetClaim trade.feeAsset.name, -trade.fee.value.toRat)]

/-- Instruments and exact quantities of the legs of a draft. -/
def exactLegs (draft : EconomicActivityDraft) : List (List InstrumentIdentityClaim × ℚ) :=
  (bookedLegs draft).map (fun leg => (leg.instrument, leg.quantity.toRat))

/-! ## Pairs -/

/-- The quote takes a letter of the base. -/
def Swallowed (base : Asset) (quote : String) : Prop :=
  quote = "USD" ∧ ∃ front, front ≠ [] ∧ base.chars = front ++ ['B']

lemma find?_of_takeWhile {α : Type} [DecidableEq α] {accepts : α → Bool} {x : α} {xs : List α}
    (hmem : x ∈ xs) (hx : accepts x = true)
    (hbefore : ∀ y ∈ xs.takeWhile (fun y => y ≠ x), accepts y = false) :
    xs.find? accepts = some x := by
  induction xs with
  | nil => exact absurd hmem List.not_mem_nil
  | cons y ys ih =>
      by_cases hy : y = x
      · rw [hy, List.find?_cons_of_pos hx]
      · have htake : (y :: ys).takeWhile (fun y => y ≠ x) = y :: ys.takeWhile (fun y => y ≠ x) :=
          List.takeWhile_cons_of_pos (by simpa using hy)
        rw [htake] at hbefore
        rw [List.find?_cons_of_neg (by rw [hbefore y List.mem_cons_self]; exact Bool.false_ne_true)]
        exact ih ((List.mem_cons.1 hmem).resolve_left (Ne.symm hy))
          fun z hz => hbefore z (List.mem_cons_of_mem _ hz)

section Pairs

variable {cs : List Char} {quote other : String}

lemma endsInQuote_self (hne : cs ≠ []) :
    endsInQuote (String.ofList (cs ++ quote.toList)) quote = true := by
  have hlength : 0 < cs.length := List.length_pos_iff.2 hne
  rw [endsInQuote, String.toList_ofList, Bool.and_eq_true, decide_eq_true_eq, String.length_ofList,
    List.length_append, String.length_toList]
  exact ⟨List.isSuffixOf_iff_suffix.2 (List.suffix_append _ _), by omega⟩

/-- What a pair ends in ends as its quote does. -/
lemma not_endsInQuote
    (h : (other.toList.drop (other.length - quote.length)).isSuffixOf quote.toList = false) :
    endsInQuote (String.ofList (cs ++ quote.toList)) other = false := by
  rw [endsInQuote, String.toList_ofList, Bool.and_eq_false_iff]
  refine Or.inl ?_
  rw [Bool.eq_false_iff, ne_eq, List.isSuffixOf_iff_suffix] at h ⊢
  intro hsuffix
  have hdrop := (List.drop_suffix (other.length - quote.length) other.toList).trans hsuffix
  refine h (List.suffix_of_suffix_length_le hdrop (List.suffix_append _ _) ?_)
  rw [List.length_drop, String.length_toList, String.length_toList]
  omega

lemma endsInQuote_busd_iff :
    endsInQuote (String.ofList (cs ++ "USD".toList)) "BUSD" = true ↔
      ∃ front, front ≠ [] ∧ cs = front ++ ['B'] := by
  have hchars : (String.ofList (cs ++ "USD".toList)).toList = cs ++ ['U', 'S', 'D'] :=
    String.toList_ofList
  have hbusd : "BUSD".toList = ['B'] ++ ['U', 'S', 'D'] := by decide
  have hfour : "BUSD".length = 4 := by decide
  rw [endsInQuote, Bool.and_eq_true, decide_eq_true_eq, List.isSuffixOf_iff_suffix, hchars, hbusd,
    hfour, ← String.length_toList, hchars, List.length_append]
  constructor
  · rintro ⟨⟨front, hfront⟩, hlength⟩
    rw [← List.append_assoc] at hfront
    have hcs := (List.append_inj' hfront rfl).1
    refine ⟨front, ?_, hcs.symm⟩
    rintro rfl
    rw [← hcs] at hlength
    exact absurd hlength (by decide)
  · rintro ⟨front, hne, rfl⟩
    have hpos : 0 < front.length := List.length_pos_iff.2 hne
    refine ⟨⟨front, by simp⟩, ?_⟩
    rw [List.length_append, List.length_singleton, List.length_cons, List.length_cons,
      List.length_singleton]
    omega

end Pairs

/-- Of the list, a quote ends in a later one only where `BUSD` does in `USD`. -/
lemma earlier_quotes : ∀ quote ∈ quoteCandidates,
    ∀ other ∈ quoteCandidates.takeWhile (fun other => other ≠ quote),
      (quote = "USD" ∧ other = "BUSD") ∨
        (other.toList.drop (other.length - quote.length)).isSuffixOf quote.toList = false := by
  decide +kernel

lemma splitPair_of_find {cs : List Char} {quote : String}
    (h : quoteCandidates.find? (endsInQuote (String.ofList (cs ++ quote.toList))) = some quote) :
    splitPair (String.ofList (cs ++ quote.toList)) = (String.ofList cs, quote) := by
  rw [splitPair, h]
  dsimp only
  rw [String.toList_ofList, String.length_ofList, List.length_append, String.length_toList,
    Nat.add_sub_cancel, List.take_left]

lemma splitPair_printed {base : Asset} {quote : String} (hquote : quote ∈ quoteCandidates)
    (h : ¬Swallowed base quote) :
    splitPair (String.ofList (base.chars ++ quote.toList)) = (base.name, quote) := by
  refine splitPair_of_find (find?_of_takeWhile hquote (endsInQuote_self base.chars_ne_nil) ?_)
  intro other hother
  rcases earlier_quotes quote hquote other hother with ⟨rfl, rfl⟩ | hnone
  · rw [Bool.eq_false_iff, ne_eq, endsInQuote_busd_iff]
    exact fun hfront => h ⟨rfl, hfront⟩
  · exact not_endsInQuote hnone

lemma splitPair_swallowed {front : List Char} (hne : front ≠ []) :
    splitPair (String.ofList ((front ++ ['B']) ++ "USD".toList)) = (String.ofList front, "BUSD") := by
  have hchars : (front ++ ['B']) ++ "USD".toList = front ++ "BUSD".toList := by
    rw [List.append_assoc]
    exact congrArg _ (by decide)
  rw [hchars]
  refine splitPair_of_find (find?_of_takeWhile (by decide) (endsInQuote_self hne) ?_)
  intro other hother
  rcases earlier_quotes "BUSD" (by decide) other hother with ⟨hquote, _⟩ | hnone
  · exact absurd hquote (by decide)
  · exact not_endsInQuote hnone

/-! ## The draft of a trade -/

/-- A leg for the checks of a fact. -/
def modelLeg (legId : String) (kind : LegKind) (coeff : Int) (attributedToLegId : Option String)
    (h : EconomicLegFields.postInit
      ⟨legId, kind, "draft:placeholder", Decimal.ofParts coeff 0, none, attributedToLegId, none⟩ =
        .ok ⟨legId, kind, "draft:placeholder", Decimal.ofParts coeff 0, none, attributedToLegId, none⟩) :
    Transactions.EconomicLeg :=
  ⟨_, _, h⟩

def sellLegs : List Transactions.EconomicLeg :=
  [modelLeg "primary_out" .primary (-1) none rfl, modelLeg "primary_in" .primary 1 none rfl,
    modelLeg "charge" .charge (-1) (some "primary_in") rfl]

def buyLegs : List Transactions.EconomicLeg :=
  [modelLeg "primary_in" .primary 1 none rfl, modelLeg "primary_out" .primary (-1) none rfl,
    modelLeg "charge" .charge (-1) (some "primary_out") rfl]

lemma validateFact_sellLegs :
    validateFact sellLegs twoSidedPrimaryExchangeWithSingleChargePolicy = .ok () := by
  rfl

lemma validateFact_buyLegs :
    validateFact buyLegs twoSidedPrimaryExchangeWithSingleChargePolicy = .ok () := by
  rfl

/-- A positive amount that fits the context, of an asset with a name. -/
structure Bookable (amount : Decimal) (asset : String) : Prop where
  pos : 0 < amount.coeff
  fits : amount.Fits
  named : isBlank asset = false

namespace Bookable

variable {amount : Decimal} {asset : String}

lemma ne_zero (h : Bookable amount asset) : amount ≠ 0 := by
  rintro rfl
  exact absurd h.pos (by decide)

lemma toRat_neg_amount (h : Bookable amount asset) : (-amount).toRat = -amount.toRat :=
  Decimal.toRat_neg h.fits

lemma not_neg_pos (h : Bookable amount asset) : ¬0 < (-amount).coeff := by
  have hpos : 0 < amount.toRat := (Decimal.toRat_pos_iff amount).2 h.pos
  rw [← Decimal.toRat_pos_iff, h.toRat_neg_amount]
  linarith

lemma neg_ne_zero (h : Bookable amount asset) : -amount ≠ 0 := by
  have hpos : 0 < amount.toRat := (Decimal.toRat_pos_iff amount).2 h.pos
  rw [ne_eq, ← Decimal.toRat_eq_zero_iff, h.toRat_neg_amount]
  linarith

lemma exists_in (h : Bookable amount asset) :
    ∃ leg, primaryLeg "primary_in" amount asset = .ok leg ∧
      leg.val = ⟨"primary_in", .primary, assetClaim asset, amount, none, none, none⟩ :=
  exists_symbolLeg h.named (legValid_primary (by decide) h.ne_zero)

lemma exists_out (h : Bookable amount asset) :
    ∃ leg, primaryLeg "primary_out" (-amount) asset = .ok leg ∧
      leg.val = ⟨"primary_out", .primary, assetClaim asset, -amount, none, none, none⟩ :=
  exists_symbolLeg h.named (legValid_primary (by decide) h.neg_ne_zero)

lemma exists_charge (h : Bookable amount asset) {attributedToLegId : String}
    (hattributed : isSnakeCase attributedToLegId = true) :
    ∃ leg, chargeLegs (some amount) asset attributedToLegId = .ok [leg] ∧
      leg.val = ⟨"charge", .charge, assetClaim asset, -amount, some "trading_fee",
        some attributedToLegId, none⟩ := by
  have hasset : asset ≠ "" := by
    rintro rfl
    exact absurd h.named (by decide)
  rcases @exists_symbolLeg _ _ _ _ (some "binance") _ _ h.named
      (@legValid_charge "charge" "trading_fee" _ _ (by decide) h.neg_ne_zero
        (by decide) hattributed) with ⟨leg, hleg, hval⟩
  refine ⟨leg, ?_, hval⟩
  rw [chargeLegs, if_neg hasset, hleg]
  rfl

end Bookable

lemma tradePolicy_of_fee {feeAmount : Decimal} {feeAsset : String} (h : Bookable feeAmount feeAsset) :
    tradePolicy (some feeAmount) feeAsset = twoSidedPrimaryExchangeWithSingleChargePolicy := by
  have hasset : feeAsset ≠ "" := by
    rintro rfl
    exact absurd h.named (by decide)
  rw [tradePolicy, if_pos]
  simpa using hasset

/-- The draft is built of legs that pass the checks of a fact, and books them. -/
lemma exists_spotDraft_of_legs {env : KernelEnvironment} {source fileName location : String}
    (index : Nat) {trade : SpotTrade} {legs : List EconomicLegDraft} {others : List Transactions.EconomicLeg}
    (hlocation : locationIdFromParts env.lower [source, "spot"] = .ok location)
    (hlegs : trade.legs = .ok legs) (hshapes : List.Forall₂ HasShape legs others)
    (hvalid : validateFact others (tradePolicy trade.feeAmount trade.feeAsset) = .ok ()) :
    ∃ draft, spotDraft env source fileName index trade = .ok draft ∧
      exactLegs draft =
        legs.map (fun leg => (leg.val.instrumentIdentityClaims, leg.val.quantity.toRat)) := by
  rcases @exists_build_draft _ _
      { activityId := "binance:" ++ fileName ++ ":row:" ++ toString index
        source := source
        adapterId := "binance"
        locationId := location
        timestamp := trade.timestamp
        classification := ⟨.spotTrade, .assetExchange, .capitalExchange, some .trade⟩
        legPolicy := tradePolicy trade.feeAmount trade.feeAsset
        description := "Binance spot " ++ trade.side.verb ++ " " ++ trade.pair
        rawFile := fileName
        rawRowRef := "row:" ++ toString index
        providerOperationKey := "spot:" ++ trade.side.name
        legs := legs } _ hlocation rfl rfl hshapes hvalid with ⟨draft, hdraft, hval⟩
  refine ⟨draft, ?_, ?_⟩
  · rw [spotDraft, hlocation, bind_ok, hlegs, bind_ok]
    exact hdraft
  · rw [exactLegs, bookedLegs, hval, List.map_map]
    rfl

/-- The draft of a trade whose amounts are positive has its legs as they are. -/
theorem exists_spotDraft {env : KernelEnvironment} {source fileName location : String} (index : Nat)
    {trade : SpotTrade} {feeAmount : Decimal}
    (hlocation : locationIdFromParts env.lower [source, "spot"] = .ok location)
    (hexecuted : Bookable trade.executedAmount trade.baseAsset)
    (hquote : Bookable trade.quoteAmount trade.quoteAsset)
    (hfeeAmount : trade.feeAmount = some feeAmount) (hfee : Bookable feeAmount trade.feeAsset) :
    ∃ draft, spotDraft env source fileName index trade = .ok draft ∧
      exactLegs draft =
        [(assetClaim trade.baseAsset, trade.side.sign * trade.executedAmount.toRat),
          (assetClaim trade.quoteAsset, -(trade.side.sign * trade.quoteAmount.toRat)),
          (assetClaim trade.feeAsset, -feeAmount.toRat)] := by
  rcases trade with ⟨side, pair, timestamp, baseAsset, quoteAsset, executedAmount, quoteAmount, _,
    feeAsset⟩
  dsimp only at *
  subst hfeeAmount
  cases side with
  | sell =>
      rcases hexecuted.exists_out with ⟨base, hbase, hbaseVal⟩
      rcases hquote.exists_in with ⟨quote, hquoteLeg, hquoteVal⟩
      rcases hfee.exists_charge (show isSnakeCase "primary_in" = true by decide) with
        ⟨charge, hcharge, hchargeVal⟩
      have hshapes : List.Forall₂ HasShape [base, quote, charge] sellLegs := by
        refine .cons ?_ (.cons ?_ (.cons ?_ .nil))
        · rw [hasShape_iff, hbaseVal]
          exact ⟨rfl, rfl, iff_of_false hexecuted.not_neg_pos (by decide), rfl⟩
        · rw [hasShape_iff, hquoteVal]
          exact ⟨rfl, rfl, iff_of_true hquote.pos (by decide), rfl⟩
        · rw [hasShape_iff, hchargeVal]
          exact ⟨rfl, rfl, iff_of_false hfee.not_neg_pos (by decide), rfl⟩
      have hlegs : SpotTrade.legs ⟨.sell, pair, timestamp, baseAsset, quoteAsset, executedAmount,
          quoteAmount, some feeAmount, feeAsset⟩ = .ok [base, quote, charge] := by
        rw [SpotTrade.legs, hbase, bind_ok, hquoteLeg, bind_ok, hcharge]
        rfl
      rcases exists_spotDraft_of_legs index hlocation hlegs hshapes
        ((tradePolicy_of_fee hfee).symm ▸ validateFact_sellLegs) with ⟨draft, hdraft, hexact⟩
      refine ⟨draft, hdraft, ?_⟩
      rw [hexact, List.map_cons, List.map_cons, List.map_cons, List.map_nil, hbaseVal, hquoteVal,
        hchargeVal, hexecuted.toRat_neg_amount, hfee.toRat_neg_amount, SpotSide.sign, neg_one_mul,
        neg_one_mul, neg_neg]
  | buy =>
      rcases hexecuted.exists_in with ⟨base, hbase, hbaseVal⟩
      rcases hquote.exists_out with ⟨quote, hquoteLeg, hquoteVal⟩
      rcases hfee.exists_charge (show isSnakeCase "primary_out" = true by decide) with
        ⟨charge, hcharge, hchargeVal⟩
      have hshapes : List.Forall₂ HasShape [base, quote, charge] buyLegs := by
        refine .cons ?_ (.cons ?_ (.cons ?_ .nil))
        · rw [hasShape_iff, hbaseVal]
          exact ⟨rfl, rfl, iff_of_true hexecuted.pos (by decide), rfl⟩
        · rw [hasShape_iff, hquoteVal]
          exact ⟨rfl, rfl, iff_of_false hquote.not_neg_pos (by decide), rfl⟩
        · rw [hasShape_iff, hchargeVal]
          exact ⟨rfl, rfl, iff_of_false hfee.not_neg_pos (by decide), rfl⟩
      have hlegs : SpotTrade.legs ⟨.buy, pair, timestamp, baseAsset, quoteAsset, executedAmount,
          quoteAmount, some feeAmount, feeAsset⟩ = .ok [base, quote, charge] := by
        rw [SpotTrade.legs, hbase, bind_ok, hquoteLeg, bind_ok, hcharge]
        rfl
      rcases exists_spotDraft_of_legs index hlocation hlegs hshapes
        ((tradePolicy_of_fee hfee).symm ▸ validateFact_buyLegs) with ⟨draft, hdraft, hexact⟩
      refine ⟨draft, hdraft, ?_⟩
      rw [hexact, List.map_cons, List.map_cons, List.map_cons, List.map_nil, hbaseVal, hquoteVal,
        hchargeVal, hquote.toRat_neg_amount, hfee.toRat_neg_amount, SpotSide.sign, one_mul, one_mul]

/-! ## What is read of a row -/

/-- The quotes are made of upper-case letters. -/
lemma quote_chars : ∀ quote ∈ quoteCandidates,
    (∀ c ∈ quote.toList, isAssetChar c = true) ∧ quote.toList.takeWhile Char.isDigit = [] ∧
      ∃ c ∈ quote.toList, c.isDigit = false := by
  have hquotes : ∀ quote ∈ quoteCandidates, quote.toList.all isAssetChar = true ∧
      quote.toList.takeWhile Char.isDigit = [] ∧
        quote.toList.any (fun c => !c.isDigit) = true := by
    decide +kernel
  intro quote hquote
  rcases hquotes quote hquote with ⟨hall, hleading, hletter⟩
  rcases List.any_eq_true.1 hletter with ⟨c, hc, hdigit⟩
  exact ⟨List.all_eq_true.1 hall, hleading, c, hc, by simpa using hdigit⟩

def PrintedTrade.quoteAsset (trade : PrintedTrade) : Asset where
  chars := trade.quote.toList
  allowed := (quote_chars trade.quote trade.known).1
  letter := (quote_chars trade.quote trade.known).2.2

lemma isBlank_of_allowed {cs : List Char} (h : ∀ c ∈ cs, isAssetChar c = true) (hne : cs ≠ []) :
    isBlank (String.ofList cs) = false := by
  rw [Bool.eq_false_iff, ne_eq, isBlank_iff, strip_of_allowed h]
  intro hempty
  have hnil := congrArg String.toList hempty
  rw [String.toList_ofList] at hnil
  exact hne hnil

/-- The amount that is read of a number with an asset behind it. -/
def readBefore (n : Numeral) (a : Asset) : Decimal :=
  (n.extend a.leading a.leading_isDigit).value.quantize

/-- Digits behind a positive number leave it positive. -/
lemma readBefore_pos {n : Numeral} (a : Asset) (h : 0 < n.value.coeff) :
    0 < (readBefore n a).coeff := by
  rw [readBefore, Decimal.quantize_pos_iff]
  exact n.value_extend_pos a.leading_isDigit h

section Rows

variable {env : KernelEnvironment} {source fileName location : String} {row : CsvRow}
  {trade : PrintedTrade} {timestamp : Instant}

lemma cell_of_get {column text : String} (h : row.get column = some text) : cell row column = text := by
  rw [cell, h]
  rfl

lemma upper_field (hupper : UpperKeeps env.upper) {column : String} {cs : List Char}
    (h : row.get column = some (String.ofList cs)) (hallowed : ∀ c ∈ cs, isAssetChar c = true) :
    env.upper (field row column) = String.ofList cs := by
  rw [field, cell_of_get h, strip_of_allowed hallowed, hupper cs hallowed]

lemma spotSide_printed (hupper : UpperKeeps env.upper) (hrow : Prints row trade) :
    spotSide (env.upper (field row "Side")) = some trade.side := by
  have hside : row.get "Side" = some (String.ofList trade.side.name.toList) := by
    rw [hrow.side, String.ofList_toList]
  have hallowed : ∀ side : SpotSide, ∀ c ∈ side.name.toList, isAssetChar c = true := by
    intro side
    cases side <;> exact List.all_eq_true.1 (by decide)
  rw [upper_field hupper hside (hallowed trade.side), String.ofList_toList]
  cases trade.side <;> rfl

/-- The legs that are read of a printed trade whose pair is split into `base` and `quote`. -/
def PrintedTrade.readLegs (trade : PrintedTrade) (base quote : String) :
    List (List InstrumentIdentityClaim × ℚ) :=
  [(assetClaim base, trade.side.sign * (readBefore trade.executed trade.base).toRat),
    (assetClaim quote, -(trade.side.sign * (readBefore trade.amount trade.quoteAsset).toRat)),
    (assetClaim (String.ofList trade.feeAsset.trailing),
      -(readBefore trade.fee trade.feeAsset).toRat)]

/-- The body of the loop at a printed trade. -/
theorem exists_normalizeSpotRow (hupper : UpperKeeps env.upper)
    (hlocation : locationIdFromParts env.lower [source, "spot"] = .ok location)
    (hrow : Prints row trade) (htime : parseExportTimestamp (field row "Time") fileName = .ok timestamp)
    {base quote : String}
    (hsplit : splitPair (String.ofList (trade.base.chars ++ trade.quote.toList)) = (base, quote))
    (hbase : isBlank base = false) (hquote : isBlank quote = false) (index : Nat) :
    ∃ draft, normalizeSpotRow env source fileName (index, row) = .ok (some draft) ∧
      exactLegs draft = trade.readLegs base quote := by
  have hpair : env.upper (field row "Pair") =
      String.ofList (trade.base.chars ++ trade.quote.toList) := by
    refine upper_field hupper hrow.pair fun c hc => ?_
    rcases List.mem_append.1 hc with hc | hc
    · exact trade.base.allowed c hc
    · exact trade.quoteAsset.allowed c hc
  have hexecuted := amountWithAsset_printed hupper trade.executed trade.base
  have hamount := amountWithAsset_printed hupper trade.amount trade.quoteAsset
  have hfee := amountWithAsset_printed hupper trade.fee trade.feeAsset
  have hne : base ≠ "" := by
    rintro rfl
    exact absurd hbase (by decide)
  have hfeeAsset : isBlank (String.ofList trade.feeAsset.trailing) = false :=
    isBlank_of_allowed trade.feeAsset.trailing_allowed trade.feeAsset.trailing_ne_nil
  rcases @exists_spotDraft env source fileName location index
    ⟨trade.side, String.ofList (trade.base.chars ++ trade.quote.toList), timestamp, base, quote,
      readBefore trade.executed trade.base, readBefore trade.amount trade.quoteAsset,
      some (readBefore trade.fee trade.feeAsset), String.ofList trade.feeAsset.trailing⟩ _ hlocation
    ⟨readBefore_pos _ trade.executed_pos, Decimal.fits_quantize _, hbase⟩
    ⟨readBefore_pos _ trade.amount_pos, Decimal.fits_quantize _, hquote⟩ rfl
    ⟨readBefore_pos _ trade.fee_pos, Decimal.fits_quantize _, hfeeAsset⟩ with ⟨draft, hdraft, hlegs⟩
  refine ⟨draft, ?_, hlegs⟩
  rw [normalizeSpotRow]
  dsimp only
  rw [hpair, hsplit, cell_of_get hrow.executed, hexecuted, cell_of_get hrow.amount,
    show trade.quote.toList = trade.quoteAsset.chars from rfl, hamount, cell_of_get hrow.fee, hfee,
    htime, spotSide_printed hupper hrow]
  dsimp only [bind_ok]
  rw [if_pos hne]
  exact bind_eq_ok_iff.2 ⟨draft, hdraft, rfl⟩

/-! ## Legible trades -/

lemma assetClaim_inj {a b : String} : assetClaim a = assetClaim b ↔ a = b := by
  constructor
  · intro h
    have hclaim : symbolClaim a (some "binance") = symbolClaim b (some "binance") :=
      List.head_eq_of_cons_eq h
    exact congrArg InstrumentIdentityClaim.value hclaim
  · rintro rfl
    rfl

lemma readBefore_eq_iff_of_letter {n : Numeral} {a : Asset} (h : a.leading = []) :
    readBefore n a = n.value ↔ n.value.Fits := by
  have hextend : n.extend a.leading a.leading_isDigit = n := by
    simp only [h]
    exact n.extend_nil (by simp)
  rw [readBefore, hextend, Decimal.quantize_eq_iff]

/-- A number is read as it is if its asset begins with a letter, or if the asset's digits stand
behind a point and fall away: they are zeros, or the context rounds them down. -/
def ReadAlone (n : Numeral) (a : Asset) : Prop :=
  if a.leading = [] then n.value.Fits else n.fraction ≠ [] ∧ n.FallAway a.leading

lemma readBefore_eq_iff {n : Numeral} (a : Asset) (hpos : 0 < n.value.coeff) :
    readBefore n a = n.value ↔ ReadAlone n a := by
  unfold ReadAlone
  split_ifs with hleading
  · exact readBefore_eq_iff_of_letter hleading
  · have hfalls := fun hfraction => @Numeral.quantize_extend_eq_iff n _ a.leading_isDigit hpos hfraction
    constructor
    · intro h
      have hfraction : n.fraction ≠ [] := fun hnone =>
        Numeral.quantize_extend_ne a.leading_isDigit hpos hnone hleading h
      exact ⟨hfraction, (hfalls hfraction).1 h⟩
    · rintro ⟨hfraction, haway⟩
      exact (hfalls hfraction).2 haway

/-- What a printed trade needs to be read as it is meant. -/
structure Legible (trade : PrintedTrade) : Prop where
  pair : ¬Swallowed trade.base trade.quote
  executed : ReadAlone trade.executed trade.base
  amount : trade.amount.value.Fits
  feeAsset : trade.feeAsset.leading = []
  fee : trade.fee.value.Fits

lemma name_eq_trailing_iff (a : Asset) : String.ofList a.trailing = a.name ↔ a.leading = [] := by
  have hsplit := a.leading_append_trailing
  constructor
  · intro h
    have hchars := congrArg String.toList h
    rw [Asset.name, String.toList_ofList, String.toList_ofList, ← hsplit] at hchars
    have hlength := congrArg List.length hchars
    rw [List.length_append] at hlength
    exact List.eq_nil_of_length_eq_zero (by omega)
  · intro h
    rw [h, List.nil_append] at hsplit
    rw [Asset.name, hsplit]

lemma sign_ne_zero (side : SpotSide) : side.sign ≠ 0 := by
  cases side <;> norm_num [SpotSide.sign]

/-- The legs that are read are those that the trade stands for if it is legible. -/
lemma readLegs_eq_iff (trade : PrintedTrade) (h : ¬Swallowed trade.base trade.quote) :
    trade.readLegs trade.base.name trade.quote = trade.tradeLegs ↔ Legible trade := by
  have hquote : trade.quoteAsset.leading = [] := (quote_chars trade.quote trade.known).2.1
  have hamount : readBefore trade.amount trade.quoteAsset = trade.amount.value ↔
      trade.amount.value.Fits := readBefore_eq_iff_of_letter hquote
  have hexecuted := readBefore_eq_iff trade.base trade.executed_pos
  have hsign := sign_ne_zero trade.side
  simp only [PrintedTrade.readLegs, PrintedTrade.tradeLegs, List.cons.injEq, Prod.mk.injEq, true_and,
    and_true, assetClaim_inj, neg_inj, mul_right_inj' hsign, Decimal.toRat_injective.eq_iff, hamount,
    hexecuted, name_eq_trailing_iff]
  constructor
  · rintro ⟨hexecuted, hamount, hleading, hfee⟩
    exact ⟨h, hexecuted, hamount, hleading, (readBefore_eq_iff_of_letter hleading).1 hfee⟩
  · rintro ⟨_, hexecuted, hamount, hleading, hfee⟩
    exact ⟨hexecuted, hamount, hleading, (readBefore_eq_iff_of_letter hleading).2 hfee⟩

/-! ## Files -/

/-- In every file whose other rows are read, the row becomes a draft with the legs that the trade
stands for, between the drafts of the others. -/
def BooksTrade (env : KernelEnvironment) (source fileName : String) (row : CsvRow)
    (trade : PrintedTrade) : Prop :=
  ∀ before after earlier later,
    normalizeSpotRowsFrom env source fileName 2 before = .ok earlier →
      normalizeSpotRowsFrom env source fileName (before.length + 3) after = .ok later →
        ∃ draft, normalizeSpotRows env source fileName (before ++ row :: after) =
            .ok (earlier ++ draft :: later) ∧ exactLegs draft = trade.tradeLegs

/-- A row is read by itself. -/
lemma normalizeSpotRowsFrom_append {start : Nat} {before after : List CsvRow}
    {earlier later : List EconomicActivityDraft} {draft : EconomicActivityDraft}
    (hbefore : normalizeSpotRowsFrom env source fileName start before = .ok earlier)
    (hrow : normalizeSpotRow env source fileName (start + before.length, row) = .ok (some draft))
    (hafter : normalizeSpotRowsFrom env source fileName (start + before.length + 1) after = .ok later) :
    normalizeSpotRowsFrom env source fileName start (before ++ row :: after) =
      .ok (earlier ++ draft :: later) := by
  rcases bind_eq_ok_iff.1 hbefore with ⟨drafts, hdrafts, hearlier⟩
  rcases bind_eq_ok_iff.1 hafter with ⟨drafts', hdrafts', hlater⟩
  cases hearlier
  cases hlater
  rw [normalizeSpotRowsFrom, List.zipIdx_append, List.zipIdx_cons, List.map_append, List.map_cons,
    List.mapM_append, List.mapM_cons, hdrafts]
  dsimp only [Prod.swap]
  rw [hrow, hdrafts']
  have hkept : (drafts ++ some draft :: drafts').reduceOption =
      drafts.reduceOption ++ draft :: drafts'.reduceOption := by
    rw [List.reduceOption_append, List.reduceOption_cons_of_some]
  exact congrArg Except.ok hkept

/-- A printed trade is booked as what its pair is split into. -/
lemma exists_split (trade : PrintedTrade) :
    ∃ base quote, splitPair (String.ofList (trade.base.chars ++ trade.quote.toList)) = (base, quote) ∧
      isBlank base = false ∧ isBlank quote = false ∧
        (trade.readLegs base quote = trade.tradeLegs ↔ Legible trade) := by
  by_cases hswallowed : Swallowed trade.base trade.quote
  · rcases hswallowed with ⟨husd, front, hne, hchars⟩
    have hfront : ∀ c ∈ front, isAssetChar c = true := fun c hc =>
      trade.base.allowed c (hchars ▸ List.mem_append_left _ hc)
    refine ⟨String.ofList front, "BUSD", ?_, isBlank_of_allowed hfront hne, by decide, ?_⟩
    · rw [hchars, husd]
      exact splitPair_swallowed hne
    · refine iff_of_false (fun h => ?_) fun h => h.pair ⟨husd, front, hne, hchars⟩
      -- The legs of the quote are of two instruments.
      have hquote : assetClaim "BUSD" = assetClaim trade.quote :=
        congrArg Prod.fst (List.head_eq_of_cons_eq (List.tail_eq_of_cons_eq h))
      rw [husd, assetClaim_inj] at hquote
      exact absurd hquote (by decide)
  · have hquote : isBlank trade.quote = false := by
      have hblank := isBlank_of_allowed trade.quoteAsset.allowed trade.quoteAsset.chars_ne_nil
      rwa [show trade.quoteAsset.chars = trade.quote.toList from rfl, String.ofList_toList] at hblank
    exact ⟨trade.base.name, trade.quote, splitPair_printed trade.known hswallowed,
      isBlank_of_allowed trade.base.allowed trade.base.chars_ne_nil, hquote,
      readLegs_eq_iff trade hswallowed⟩

/-- A row that prints a trade is booked as the trade exactly if the trade is legible, and a number
without an asset is read as it is exactly if it fits and does not end in two digits. -/
theorem booked_iff_legible (hupper : UpperKeeps env.upper)
    (hlocation : locationIdFromParts env.lower [source, "spot"] = .ok location)
    (hrow : Prints row trade) (htime : parseExportTimestamp (field row "Time") fileName = .ok timestamp)
    (n : Numeral) :
    (BooksTrade env source fileName row trade ↔ Legible trade) ∧
      (amountWithAsset env.upper (String.ofList n.chars) = .ok (some n.value, "") ↔
        n.value.Fits ∧ ¬EndsInTwoDigits n.chars) := by
  refine ⟨?_, amountWithAsset_bare_iff hupper n⟩
  rcases exists_split trade with ⟨base, quote, hsplit, hbase, hquote, hlegible⟩
  rw [← hlegible]
  constructor
  · intro hbooked
    rcases exists_normalizeSpotRow hupper hlocation hrow htime hsplit hbase hquote 2 with
      ⟨draft, hdraft, hexact⟩
    rcases hbooked [] [] [] [] rfl rfl with ⟨draft', hdraft', hexact'⟩
    have hrows := @normalizeSpotRowsFrom_append env source fileName row 2 [] [] [] [] draft rfl hdraft rfl
    rw [normalizeSpotRows, List.nil_append, List.nil_append] at hdraft'
    rw [List.nil_append, List.nil_append, hdraft'] at hrows
    rw [← hexact, ← hexact', List.head_eq_of_cons_eq (Except.ok.inj hrows)]
  · intro hread before after earlier later hbefore hafter
    rcases exists_normalizeSpotRow hupper hlocation hrow htime hsplit hbase hquote (2 + before.length)
      with ⟨draft, hdraft, hexact⟩
    refine ⟨draft, normalizeSpotRowsFrom_append hbefore hdraft ?_, hexact.trans hread⟩
    rw [show 2 + before.length + 1 = before.length + 3 by omega]
    exact hafter

end Rows

/-! ## A trade of 1INCH -/

lemma toUpper_of_isAssetChar {c : Char} (h : isAssetChar c = true) : c.toUpper = c := by
  have hnot : ¬(97 ≤ c.toNat ∧ c.toNat ≤ 122) := by
    rw [isAssetChar, Bool.or_eq_true] at h
    rcases h with hletter | hdigit
    · have hbounds : 65 ≤ c.toNat ∧ c.toNat ≤ 90 := by simpa using hletter
      omega
    · have hbounds : 48 ≤ c.toNat ∧ c.toNat ≤ 57 := by
        simp only [Char.isDigit, Bool.and_eq_true, decide_eq_true_eq] at hdigit
        exact hdigit
      omega
  refine dif_neg fun hlower => hnot ?_
  have hleast : 97 ≤ c.val.toNat := UInt32.le_iff_toNat_le.1 hlower.1
  have hmost : c.val.toNat ≤ 122 := UInt32.le_iff_toNat_le.1 hlower.2
  exact ⟨hleast, hmost⟩

lemma upperKeeps_toUpper : UpperKeeps String.toUpper := by
  intro cs hcs
  refine String.toList_injective ?_
  rw [String.toUpper, String.toList_map, String.toList_ofList]
  exact (List.map_congr_left fun c hc => toUpper_of_isAssetChar (hcs c hc)).trans (List.map_id cs)

/-- A row of a spot export. -/
def spotRow (pair side executed amount fee : String) : CsvRow :=
  CsvRow.ofTexts
    [("Time", "23-03-23 04:00:00"), ("Pair", pair), ("Side", side), ("Executed", executed),
      ("Amount", amount), ("Fee", fee)]

def bnb : Asset :=
  ⟨['B', 'N', 'B'], List.all_eq_true.1 (by decide), 'B', List.mem_cons_self, by decide⟩

/-- Half a bitcoin for dollars. -/
def bitcoinTrade : PrintedTrade where
  side := .buy
  base := ⟨['B', 'T', 'C'], List.all_eq_true.1 (by decide), 'B', List.mem_cons_self, by decide⟩
  quote := "USDT"
  feeAsset := bnb
  executed := ⟨['0'], ['5'], List.all_eq_true.1 (by decide), by decide⟩
  amount := ⟨['1', '4', '0', '0', '0'], [], List.all_eq_true.1 (by decide), by decide⟩
  fee := ⟨['0'], ['0', '1'], List.all_eq_true.1 (by decide), by decide⟩
  known := by decide
  executed_pos := by decide
  amount_pos := by decide
  fee_pos := by decide

def bitcoinRow : CsvRow := spotRow "BTCUSDT" "BUY" "0.5BTC" "14000USDT" "0.01BNB"

lemma prints_bitcoinRow : Prints bitcoinRow bitcoinTrade where
  side := by decide +kernel
  pair := by decide +kernel
  executed := by decide +kernel
  amount := by decide +kernel
  fee := by decide +kernel

theorem booked_iff_legible_bitcoin :
    (BooksTrade asciiEnvironment "binance" "spot.csv" bitcoinRow bitcoinTrade ↔
        Legible bitcoinTrade) ∧
      (amountWithAsset String.toUpper "0.5" =
          .ok (some bitcoinTrade.executed.value, "") ↔
        bitcoinTrade.executed.value.Fits ∧ ¬EndsInTwoDigits bitcoinTrade.executed.chars) := by
  rcases exists_of_isOk (x := locationIdFromParts asciiEnvironment.lower ["binance", "spot"])
    (by decide +kernel) with ⟨location, hlocation⟩
  rcases exists_of_isOk (x := parseExportTimestamp (field bitcoinRow "Time") "spot.csv")
    (by decide +kernel) with ⟨timestamp, htime⟩
  exact booked_iff_legible upperKeeps_toUpper hlocation prints_bitcoinRow htime bitcoinTrade.executed

/-- Two of 1INCH. -/
def inchTrade : PrintedTrade where
  side := .buy
  base := ⟨['1', 'I', 'N', 'C', 'H'], List.all_eq_true.1 (by decide), 'I',
    List.mem_cons_of_mem _ List.mem_cons_self, by decide⟩
  quote := "USDT"
  feeAsset := bnb
  executed := ⟨['2'], [], List.all_eq_true.1 (by decide), by decide⟩
  amount := ⟨['1'], [], List.all_eq_true.1 (by decide), by decide⟩
  fee := ⟨['0'], ['0', '1'], List.all_eq_true.1 (by decide), by decide⟩
  known := by decide
  executed_pos := by decide
  amount_pos := by decide
  fee_pos := by decide

def inchRow : CsvRow := spotRow "1INCHUSDT" "BUY" "21INCH" "1USDT" "0.01BNB"

lemma prints_inchRow : Prints inchRow inchTrade where
  side := by decide +kernel
  pair := by decide +kernel
  executed := by decide +kernel
  amount := by decide +kernel
  fee := by decide +kernel

/-- Two of 1INCH are booked as twenty-one. -/
theorem inch_misread :
    ¬∀ (env : KernelEnvironment) (source fileName location : String) (row : CsvRow)
        (trade : PrintedTrade) (timestamp : Instant) (n : Numeral),
      UpperKeeps env.upper → locationIdFromParts env.lower [source, "spot"] = .ok location →
        Prints row trade → parseExportTimestamp (field row "Time") fileName = .ok timestamp →
          0 < n.value.coeff →
            BooksTrade env source fileName row trade ∧
              amountWithAsset env.upper (String.ofList n.chars) = .ok (some n.value, "") := by
  intro h
  rcases exists_of_isOk (x := locationIdFromParts asciiEnvironment.lower ["binance", "spot"])
    (by decide +kernel) with ⟨location, hlocation⟩
  rcases exists_of_isOk (x := parseExportTimestamp (field inchRow "Time") "spot.csv")
    (by decide +kernel) with ⟨timestamp, htime⟩
  rcases (h asciiEnvironment "binance" "spot.csv" location inchRow inchTrade timestamp
      inchTrade.executed upperKeeps_toUpper hlocation prints_inchRow htime (by decide)).1
    [] [] [] [] rfl rfl with ⟨draft, hdraft, hexact⟩
  have hlegs : (normalizeSpotRows asciiEnvironment "binance" "spot.csv" [inchRow]).toOption.map
      (fun drafts => drafts.map exactLegs) = some [inchTrade.tradeLegs] := by
    rw [List.nil_append] at hdraft
    rw [hdraft, ← hexact]
    rfl
  have hread : (normalizeSpotRows asciiEnvironment "binance" "spot.csv" [inchRow]).toOption.map
      (fun drafts => drafts.map exactLegs) ≠ some [inchTrade.tradeLegs] := by
    decide +kernel
  exact hread hlegs

end Binance
end Tallylot
