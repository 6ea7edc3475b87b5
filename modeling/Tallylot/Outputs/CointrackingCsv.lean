import Mathlib.Algebra.BigOperators.Group.List.Basic
import Tallylot.Data.DecimalContext
import Tallylot.Data.InstantText
import Tallylot.Data.Parts
import Tallylot.Data.Sorted
import Tallylot.Outputs.RenderPolicy

/-!
# CointrackingCsv — transaction facts as rows of a CoinTracking export

A row has one bought amount, one sold amount and one fee, each with its currency.  The projection of
a fact checks by itself that the legs of the fact have that shape, and raises when they do not; the
rows before are then already in the file.  The render policy of the adapter is checked for all facts
before the file is opened.

The policy is enough for the shape, but two more steps of a row may raise: a quantity is rounded to the
decimal context, in which it may overflow, and a text is encoded, which a lone surrogate cannot be.
`renders_whole_iff` says that these alone stop a rendering, and that otherwise each row moves the
amounts that the legs of its fact move.
-/

namespace Tallylot
namespace Outputs

open Data Transactions
open Domain (isOnchainLocationId)

/-! ## The adapter -/

namespace CointrackingCsv

def adapterId : String := "cointracking_csv"

def primaryLimit : LegShapeLimit :=
  ⟨⟨.primary, 2, 1, some 1, none, some 1, none⟩, checkedConstructor_accepted.2 rfl⟩

lemma chargeLimit_accepted : legShapeLimit.Accepted ⟨.charge, 1, 0, some 0, none, some 1, none⟩ :=
  checkedConstructor_accepted.2 rfl

def chargeLimit : LegShapeLimit :=
  ⟨⟨.charge, 1, 0, some 0, none, some 1, none⟩, chargeLimit_accepted⟩

def renderPolicy : OutputRenderPolicy where
  shapePolicy := ⟨⟨[primaryLimit, chargeLimit]⟩, (factLegPolicy_accepted _).2 (by
    refine ⟨List.cons_ne_nil _ _, ?_⟩
    change [LegKind.primary, LegKind.charge].Nodup
    decide)⟩
  requiresProjectionHint := true

end CointrackingCsv

/-! ## The projection -/

/-- `_COINTRACKING_TYPE_LABELS` -/
def cointrackingTypeLabels : List (ProjectionHint × String) :=
  [(.deposit, "Deposit"),
    (.derivativesFuturesLoss, "Derivatives / Futures Loss"),
    (.derivativesFuturesProfit, "Derivatives / Futures Profit"),
    (.expenseNonTaxable, "Expense (non taxable)"),
    (.interestIncome, "Interest Income"),
    (.rewardBonus, "Reward / Bonus"),
    (.staking, "Staking"),
    (.swapNonTaxable, "Swap (non taxable)"),
    (.trade, "Trade"),
    (.withdrawal, "Withdrawal")]

def typeLabel (hint : ProjectionHint) : Decoded String :=
  match cointrackingTypeLabels.lookup hint with
  | some label => .ok label
  | none => .error (.key hint.value)

section Projection

variable (transaction : TransactionFact)

def unsupportedShape (expectation : String) : String :=
  "fact " ++ transaction.val.factId ++ " has unsupported CoinTracking projection shape: " ++
    expectation

/-- `_single_primary_leg` -/
def singlePrimaryLeg (positive : Bool) : Decoded (Option EconomicLeg) := do
  let matchingLegs := transaction.val.legs.filter (fun leg =>
    leg.val.kind = .primary ∧ decide (0 < leg.val.quantity.coeff) = positive)
  require (matchingLegs.length ≤ 1)
    (unsupportedShape transaction
      ("expected at most one " ++ (if positive then "positive" else "negative") ++ " primary leg"))
  return matchingLegs.head?

/-- `_single_charge_leg` -/
def singleChargeLeg : Decoded (Option EconomicLeg) := do
  let matchingLegs := transaction.val.legs.filter (fun leg => leg.val.kind = .charge)
  require (∀ leg ∈ matchingLegs, leg.val.quantity.coeff < 0)
    (unsupportedShape transaction "charge legs must be negative")
  require (matchingLegs.length ≤ 1)
    (unsupportedShape transaction "expected at most one charge leg")
  return matchingLegs.head?

/-- `_reject_other_non_primary_legs` -/
def rejectOtherNonPrimaryLegs : Decoded Unit :=
  let others := transaction.val.legs.filter (fun leg => leg.val.kind ∉ [LegKind.primary, .charge])
  let unsupportedKinds := sortedOn id (others.map (fun leg => leg.val.kind.value)).dedup
  require (unsupportedKinds = [])
    ("fact " ++ transaction.val.factId ++ " has unsupported CoinTracking projection leg kinds: " ++
      ", ".intercalate unsupportedKinds)

/-- `_exchange_label` -/
def exchangeLabel : String :=
  if isOnchainLocationId transaction.val.locationId then transaction.val.source
  else transaction.val.locationId

/-- `format_decimal` of the quantity of an optional leg. -/
def quantityText : Option EconomicLeg → Decoded String
  | none => .ok ""
  | some leg => leg.val.quantity.formatDecimal

/-- `format_decimal` of its absolute value. -/
def magnitudeText : Option EconomicLeg → Decoded String
  | none => .ok ""
  | some leg => do
      let magnitude ← leg.val.quantity.magnitude
      magnitude.formatDecimal

/-- `transaction.tx_hash or str(transaction.fact_id)` -/
def txId : String :=
  match transaction.val.txHash with
  | none => transaction.val.factId
  | some hash => if hash = "" then transaction.val.factId else hash

def legCurrency (leg : Option EconomicLeg) : String :=
  (leg.map (fun leg => leg.val.instrumentId)).getD ""

/-- The columns of a row with its legs found and their amounts written. -/
def cointrackingColumns (label buy sell fee : String)
    (inboundLeg outboundLeg chargeLeg : Option EconomicLeg) : Row :=
  [("Type", label),
    ("Buy", buy),
    ("Cur.", legCurrency inboundLeg),
    ("Sell", sell),
    ("Cur..1", legCurrency outboundLeg),
    ("Fee", fee),
    ("Cur..2", legCurrency chargeLeg),
    ("Exchange", exchangeLabel transaction),
    ("Group", transaction.val.operationGroupId),
    ("Comment", transaction.val.description),
    ("Date", transaction.val.timestamp.timestampText),
    ("Tx-ID", txId transaction)]

/-- `cointracking_row` -/
def cointrackingRow : Decoded Row := do
  let hint ← requireSome transaction.val.semantics.projectionHint
    ("fact " ++ transaction.val.factId ++ " is missing CoinTracking projection metadata")
  require (∃ leg ∈ transaction.val.legs, leg.val.kind = .primary)
    (unsupportedShape transaction "expected at least one primary leg")
  let inboundLeg ← singlePrimaryLeg transaction true
  let outboundLeg ← singlePrimaryLeg transaction false
  let chargeLeg ← singleChargeLeg transaction
  rejectOtherNonPrimaryLegs transaction
  let label ← typeLabel hint
  let buy ← quantityText inboundLeg
  let sell ← magnitudeText outboundLeg
  let fee ← magnitudeText chargeLeg
  return cointrackingColumns transaction label buy sell fee inboundLeg outboundLeg chargeLeg

end Projection

/-! ## Rendering -/

def cointrackingHeader : List String :=
  ["Type", "Buy", "Cur.", "Sell", "Cur..1", "Fee", "Cur..2", "Exchange", "Group", "Comment", "Date",
    "Tx-ID"]

section Writing

/- The characters that stand for lone surrogates: a text of the source may hold them, and UTF-8 has no
bytes for them. -/
variable (surrogate : Char → Bool)

/-- The text has bytes in the encoding of the file. -/
def Encodable (text : String) : Prop := ∀ c ∈ text.toList, surrogate c = false

instance (text : String) : Decidable (Encodable surrogate text) :=
  List.decidableBAll (fun c => surrogate c = false) text.toList

/-- The row of a fact as it is written, with its columns in the order of the header. -/
def renderedRow (fact : TransactionFact) : Decoded Row := do
  let row ← cointrackingRow fact
  let cells ← cointrackingHeader.mapM (fun field => do
    let cell ← row.text field
    return (field, cell))
  require (∀ cell ∈ cells, Encodable surrogate cell.2)
    "'utf-8' codec can't encode character: surrogates not allowed"
  return cells

structure RenderedArtifact where
  path : String
  rowCount : Nat
  metadata : List (String × String)
  deriving DecidableEq, Repr

/-- The file that a rendering leaves, and what it returns or raises. -/
structure Rendering where
  header : List String
  rows : List Row
  result : Decoded RenderedArtifact

/-- The loop over the facts: the rows written until the end or until a fact raises. -/
def writeRows : List TransactionFact → List Row × Decoded Unit
  | [] => ([], .ok ())
  | fact :: facts =>
      match renderedRow surrogate fact with
      | .error e => ([], .error e)
      | .ok row => (row :: (writeRows facts).1, (writeRows facts).2)

def render (facts : List TransactionFact) (outputPath : String) : Rendering where
  header := cointrackingHeader
  rows := (writeRows surrogate facts).1
  result := do
    (writeRows surrogate facts).2
    return ⟨outputPath, facts.length, [("adapter_id", CointrackingCsv.adapterId)]⟩

end Writing

/-! ## Amounts -/

/-- What a leg moves of an instrument. -/
def legAmount (instrument : String) (leg : EconomicLeg) : ℚ :=
  if leg.val.instrumentId = instrument then leg.val.quantity.toRat else 0

/-- The signed sum of the legs of an instrument. -/
def legsAmount (legs : List EconomicLeg) (instrument : String) : ℚ :=
  (legs.map (legAmount instrument)).sum

/-- The number in a cell; a blank cell moves nothing. -/
def cellAmount (cell : String) : ℚ :=
  match Decimal.parseDecimal cell with
  | .ok (some value) => value.toRat
  | _ => 0

/-- The number in a column, when the column of its currency names the instrument. -/
def columnAmount (row : Row) (column currency instrument : String) : ℚ :=
  if row.getD currency "" = instrument then cellAmount (row.getD column "") else 0

/-- Buy minus Sell minus Fee of an instrument. -/
def rowAmount (row : Row) (instrument : String) : ℚ :=
  columnAmount row "Buy" "Cur." instrument - columnAmount row "Sell" "Cur..1" instrument -
    columnAmount row "Fee" "Cur..2" instrument

/-- What the context keeps of a leg. -/
def roundedAmount (instrument : String) (leg : EconomicLeg) : ℚ :=
  if leg.val.instrumentId = instrument then leg.val.quantity.rounded.toRat else 0

lemma cellAmount_text {value : Decimal} (hfits : value.Fits) : cellAmount value.text = value.toRat := by
  have hparsed := Decimal.parseDecimal_format value
  have hsame : value.quantize = value := Decimal.quantize_of_fits hfits
  have hformat : value.format = value.quantize.text := rfl
  rw [hformat, hsame] at hparsed
  rw [cellAmount, hparsed]

lemma cellAmount_blank : cellAmount "" = 0 := by
  have hblank : Decimal.parseDecimal "" = .ok none := by decide
  rw [cellAmount, hblank]

/-- The text of an optional leg that does not overflow. -/
def shownQuantity (leg : Option EconomicLeg) : String :=
  (leg.map (fun l => l.val.quantity.rounded.text)).getD ""

/-- The same of a negative leg, without its sign. -/
def shownMagnitude (leg : Option EconomicLeg) : String :=
  (leg.map (fun l => l.val.quantity.rounded.copyNegate.text)).getD ""

lemma quantityText_eq_ok_iff {leg : Option EconomicLeg} {text : String} :
    quantityText leg = .ok text ↔
      (∀ l, leg = some l → ¬l.val.quantity.Overflows) ∧ shownQuantity leg = text := by
  cases leg with
  | none => simp [quantityText, shownQuantity]
  | some l => simp [quantityText, shownQuantity, Decimal.formatDecimal_eq_ok_iff]

lemma magnitudeText_eq_ok_iff {leg : Option EconomicLeg} {text : String}
    (hneg : ∀ l, leg = some l → l.val.quantity.coeff < 0) :
    magnitudeText leg = .ok text ↔
      (∀ l, leg = some l → ¬l.val.quantity.Overflows) ∧ shownMagnitude leg = text := by
  cases leg with
  | none => simp [magnitudeText, shownMagnitude]
  | some l =>
      have habs : l.val.quantity.copyAbs = l.val.quantity.copyNegate := if_pos (hneg l rfl)
      have hover := Decimal.overflows_copyNegate_iff l.val.quantity
      simp only [magnitudeText, shownMagnitude, Decimal.magnitude, habs, bind_eq_ok_iff,
        Decimal.finalize_eq_ok_iff, hover, Decimal.formatDecimal_eq_ok_iff, Option.map_some,
        Option.getD_some, Option.some.injEq, forall_eq']
      constructor
      · rintro ⟨_, ⟨hfinite, rfl⟩, _, htext⟩
        rw [Decimal.rounded_rounded (hover.not.2 hfinite), Decimal.rounded_copyNegate] at htext
        exact ⟨hfinite, htext⟩
      · rintro ⟨hfinite, htext⟩
        have hagain := Decimal.rounded_rounded (hover.not.2 hfinite)
        refine ⟨_, ⟨hfinite, rfl⟩, ?_, ?_⟩
        · rw [Decimal.Overflows, hagain]
          exact hover.not.2 hfinite
        · rw [hagain, Decimal.rounded_copyNegate]
          exact htext

/-- What an optional leg keeps, as the number of a cell. -/
lemma cellAmount_shown (instrument : String) (leg : Option EconomicLeg) :
    (if legCurrency leg = instrument then cellAmount (shownQuantity leg) else 0) =
        (leg.toList.map (roundedAmount instrument)).sum ∧
      (if legCurrency leg = instrument then cellAmount (shownMagnitude leg) else 0) =
        -(leg.toList.map (roundedAmount instrument)).sum := by
  cases leg with
  | none => simp [shownQuantity, shownMagnitude, cellAmount_blank]
  | some l =>
      have hfits := Decimal.fits_rounded l.val.quantity
      have hfits' : l.val.quantity.rounded.copyNegate.Fits := by
        rw [Decimal.Fits, (Decimal.copyNegate_parts _).1, Int.natAbs_neg]
        exact hfits
      by_cases hsame : l.val.instrumentId = instrument
      · simp [shownQuantity, shownMagnitude, legCurrency, roundedAmount, hsame, cellAmount_text hfits,
          cellAmount_text hfits', Decimal.toRat_copyNegate]
      · simp [legCurrency, roundedAmount, hsame]

/-! ## What the policy gives -/

/-- The shape that the projection needs, with the legs that it finds. -/
structure CointrackingShape (legs : List EconomicLeg) (inbound outbound charge : Option EconomicLeg) :
    Prop where
  kinds : ∀ leg ∈ legs, leg.val.kind = .primary ∨ leg.val.kind = .charge
  primary : ∃ leg ∈ legs, leg.val.kind = .primary
  inbound : legs.filter (fun leg =>
    leg.val.kind = .primary ∧ decide (0 < leg.val.quantity.coeff) = true) = inbound.toList
  outbound : legs.filter (fun leg =>
    leg.val.kind = .primary ∧ decide (0 < leg.val.quantity.coeff) = false) = outbound.toList
  charge : legs.filter (fun leg => leg.val.kind = .charge) = charge.toList
  charges : ∀ leg ∈ legs, leg.val.kind = .charge → leg.val.quantity.coeff < 0

lemma coeff_ne_zero (leg : EconomicLeg) : leg.val.quantity.coeff ≠ 0 := by
  rcases leg.property with ⟨fields, hmake⟩
  rcases (postInit_eq_ok_iff _ _).1 hmake with ⟨hvalid, location, _, hbuilt⟩
  intro hzero
  have hcoeff : fields.quantity.coeff = 0 := by
    rw [hbuilt] at hzero
    exact hzero
  refine hvalid.quantity (Decimal.toRat_injective ?_)
  rw [Decimal.toRat_zero, Decimal.toRat, hcoeff, Int.cast_zero, zero_mul]

lemma coeff_neg {leg : EconomicLeg} (h : ¬0 < leg.val.quantity.coeff) :
    leg.val.quantity.coeff < 0 :=
  lt_of_le_of_ne (not_lt.1 h) (coeff_ne_zero leg)

lemma toList_head?_of_length_le_one {α : Type*} {xs : List α} (h : xs.length ≤ 1) :
    xs = xs.head?.toList := by
  cases xs with
  | nil => rfl
  | cons x xs =>
      have hnil : xs = [] := List.length_eq_zero_iff.1 (by simpa using h)
      rw [hnil]
      rfl

lemma signedCount_eq_length (legs : List EconomicLeg) (kind : LegKind) (positive : Bool) :
    signedCount legs kind (if positive then "positive" else "negative") =
      (legs.filter (fun leg =>
        leg.val.kind = kind ∧ decide (0 < leg.val.quantity.coeff) = positive)).length := by
  rw [signedCount, List.countP_eq_length_filter]
  congr 1
  refine List.filter_congr (fun leg _ => ?_)
  by_cases hsign : 0 < leg.val.quantity.coeff
  · cases positive with
    | true => simp [signKey, hsign]
    | false => simp [signKey, hsign]
  · cases positive with
    | true => simp [signKey, hsign]
    | false => simp [signKey, hsign]

/-- Facts within the render policy have the shape of a row. -/
theorem exists_cointrackingShape {fact : TransactionFactFields}
    (h : Renderable CointrackingCsv.renderPolicy fact) :
    ∃ inbound outbound charge, CointrackingShape fact.legs inbound outbound charge := by
  have hprimary : LimitMet CointrackingCsv.primaryLimit.val fact.legs :=
    h.limits _ List.mem_cons_self
  have hcharge : LimitMet CointrackingCsv.chargeLimit.val fact.legs :=
    h.limits _ (List.mem_cons_of_mem _ List.mem_cons_self)
  refine ⟨_, _, _, ?kinds, ?primary, toList_head?_of_length_le_one ?inbound,
    toList_head?_of_length_le_one ?outbound, toList_head?_of_length_le_one ?charge, ?charges⟩
  case kinds =>
    intro leg hleg
    rcases h.kinds leg hleg with ⟨limit, hlimit, hkind⟩
    rcases List.mem_cons.1 hlimit with rfl | hlimit
    · exact Or.inl hkind.symm
    · rcases List.mem_singleton.1 hlimit with rfl
      exact Or.inr hkind.symm
  case primary =>
    have hcount : 0 < fact.legs.countP (fun leg => leg.val.kind = .primary) := by
      have hleast : (1 : Int) ≤ fact.legs.countP (fun leg => leg.val.kind = .primary) :=
        hprimary.least
      exact_mod_cast hleast
    simpa using List.countP_pos_iff.1 hcount
  case inbound =>
    have hmost := hprimary.positive.most 1 rfl
    rw [← signedCount_eq_length fact.legs .primary true]
    exact_mod_cast hmost
  case outbound =>
    have hmost := hprimary.negative.most 1 rfl
    rw [← signedCount_eq_length fact.legs .primary false]
    exact_mod_cast hmost
  case charge =>
    have hmost : (fact.legs.countP (fun leg => leg.val.kind = .charge) : Int) ≤ 1 := hcharge.most
    rw [← List.countP_eq_length_filter]
    exact_mod_cast hmost
  case charges =>
    intro leg hleg hkind
    refine coeff_neg (fun hpositive => ?_)
    have hmost := hcharge.positive.most 0 rfl
    have hnone : signedCount fact.legs .charge "positive" = 0 := by
      exact Nat.le_zero.1 (by exact_mod_cast hmost)
    have hno := List.countP_eq_zero.1 hnone leg hleg
    simp [hkind, signKey, hpositive] at hno

/-! ## The row of a fact -/

section Row

variable {legs : List EconomicLeg} {inbound outbound charge : Option EconomicLeg}

/-- Each leg is the inbound, the outbound or the charge leg, and none of them twice. -/
theorem sum_legs_split (h : CointrackingShape legs inbound outbound charge) (amount : EconomicLeg → ℚ) :
    (legs.map amount).sum = (inbound.toList.map amount).sum + (outbound.toList.map amount).sum +
      (charge.toList.map amount).sum := by
  have hother : legs.filter (fun leg => ¬leg.val.kind = .primary) = charge.toList := by
    rw [← h.charge]
    refine List.filter_congr (fun leg hleg => ?_)
    rcases h.kinds leg hleg with hkind | hkind
    · simp [hkind]
    · simp [hkind]
  have hsigns := List.sum_map_filter_add_sum_map_filter_not
    (fun leg : EconomicLeg => decide (0 < leg.val.quantity.coeff) = true) amount
    (legs.filter (fun leg => leg.val.kind = .primary))
  have hin : (legs.filter (fun leg => leg.val.kind = .primary)).filter
      (fun leg => decide (0 < leg.val.quantity.coeff) = true) = inbound.toList := by
    rw [← h.inbound, List.filter_filter]
    refine List.filter_congr (fun leg _ => Bool.eq_iff_iff.2 ?_)
    simp only [Bool.and_eq_true, decide_eq_true_eq]
    exact and_comm
  have hout : (legs.filter (fun leg => leg.val.kind = .primary)).filter
      (fun leg => ¬decide (0 < leg.val.quantity.coeff) = true) = outbound.toList := by
    rw [← h.outbound, List.filter_filter]
    refine List.filter_congr (fun leg _ => Bool.eq_iff_iff.2 ?_)
    simp only [Bool.and_eq_true, decide_eq_true_eq, decide_eq_false_iff_not]
    exact and_comm
  rw [hin, hout] at hsigns
  calc
    (legs.map amount).sum
        = ((legs.filter (fun leg => leg.val.kind = .primary)).map amount).sum +
            ((legs.filter (fun leg => ¬leg.val.kind = .primary)).map amount).sum :=
          (List.sum_map_filter_add_sum_map_filter_not _ _ legs).symm
    _ = (inbound.toList.map amount).sum + (outbound.toList.map amount).sum +
          (charge.toList.map amount).sum := by
          rw [hother, ← hsigns]

/-- The legs that the projection finds are all. -/
lemma mem_legs_iff (h : CointrackingShape legs inbound outbound charge) {leg : EconomicLeg} :
    leg ∈ legs ↔ inbound = some leg ∨ outbound = some leg ∨ charge = some leg := by
  simp only [← Option.mem_toList, ← h.inbound, ← h.outbound, ← h.charge, List.mem_filter,
    Bool.decide_and, Bool.and_eq_true, decide_eq_true_eq]
  constructor
  · intro hleg
    rcases h.kinds leg hleg with hkind | hkind
    · by_cases hsign : 0 < leg.val.quantity.coeff
      · exact Or.inl ⟨hleg, hkind, hsign⟩
      · exact Or.inr (Or.inl ⟨hleg, hkind, decide_eq_false hsign⟩)
    · exact Or.inr (Or.inr ⟨hleg, hkind⟩)
  · rintro (h | h | h) <;> exact h.1

lemma mem_of_toList_eq {p : EconomicLeg → Bool} {leg : EconomicLeg} {found : Option EconomicLeg}
    (h : legs.filter p = found.toList) (hfound : found = some leg) : leg ∈ legs ∧ p leg = true := by
  have hmem : leg ∈ legs.filter p := by
    rw [h, hfound]
    exact List.mem_singleton_self leg
  exact List.mem_filter.1 hmem

lemma length_of_toList_eq {p : EconomicLeg → Bool} {found : Option EconomicLeg}
    (h : legs.filter p = found.toList) : (legs.filter p).length ≤ 1 ∧ (legs.filter p).head? = found := by
  rw [h]
  cases found with
  | none => exact ⟨Nat.zero_le _, rfl⟩
  | some leg => exact ⟨le_rfl, rfl⟩

end Row

section Projected

variable {fact : TransactionFact} {inbound outbound charge : Option EconomicLeg}

lemma singlePrimaryLeg_of_filter {positive : Bool} {found : Option EconomicLeg}
    (h : fact.val.legs.filter (fun leg =>
      leg.val.kind = .primary ∧ decide (0 < leg.val.quantity.coeff) = positive) = found.toList) :
    singlePrimaryLeg fact positive = .ok found := by
  have hlength := length_of_toList_eq h
  simp only [singlePrimaryLeg, bind_eq_ok_iff, require_eq_ok_iff]
  exact ⟨(), hlength.1, congrArg Except.ok hlength.2⟩

lemma singleChargeLeg_of_shape (h : CointrackingShape fact.val.legs inbound outbound charge) :
    singleChargeLeg fact = .ok charge := by
  have hlength := length_of_toList_eq h.charge
  simp only [singleChargeLeg, bind_eq_ok_iff, require_eq_ok_iff]
  refine ⟨(), ?_, (), hlength.1, congrArg Except.ok hlength.2⟩
  intro leg hleg
  have hmem := List.mem_filter.1 hleg
  exact h.charges leg hmem.1 (by simpa using hmem.2)

lemma rejectOtherNonPrimaryLegs_of_shape
    (h : CointrackingShape fact.val.legs inbound outbound charge) :
    rejectOtherNonPrimaryLegs fact = .ok () := by
  have hnone : fact.val.legs.filter (fun leg => leg.val.kind ∉ [LegKind.primary, .charge]) = [] := by
    refine List.filter_eq_nil_iff.2 (fun leg hleg => ?_)
    rcases h.kinds leg hleg with hkind | hkind
    · simp [hkind]
    · simp [hkind]
  rw [rejectOtherNonPrimaryLegs, require_eq_ok_iff, hnone]
  rfl

/-- Every hint has a label. -/
lemma exists_typeLabel (hint : ProjectionHint) : ∃ label, typeLabel hint = .ok label := by
  cases hint <;> exact ⟨_, rfl⟩

/-- The row of a fact whose quantities do not overflow. -/
def shownRow (fact : TransactionFact) (label : String) (inbound outbound charge : Option EconomicLeg) :
    Row :=
  cointrackingColumns fact label (shownQuantity inbound) (shownMagnitude outbound)
    (shownMagnitude charge) inbound outbound charge

/-- The projection accepts the shape, unless a quantity overflows. -/
theorem cointrackingRow_eq_ok_iff (h : CointrackingShape fact.val.legs inbound outbound charge)
    {hint : ProjectionHint} (hhint : fact.val.semantics.projectionHint = some hint) {label : String}
    (hlabel : typeLabel hint = .ok label) {row : Row} :
    cointrackingRow fact = .ok row ↔
      (∀ leg ∈ fact.val.legs, ¬leg.val.quantity.Overflows) ∧
        shownRow fact label inbound outbound charge = row := by
  have hprimary : ∀ message, require (∃ leg ∈ fact.val.legs, leg.val.kind = .primary) message =
      .ok () := fun message => require_eq_ok_iff.2 h.primary
  have hout : ∀ l, outbound = some l → l.val.quantity.coeff < 0 := by
    intro l hl
    have hmem := mem_of_toList_eq h.outbound hl
    exact coeff_neg (of_decide_eq_false (of_decide_eq_true hmem.2).2)
  have hcharge : ∀ l, charge = some l → l.val.quantity.coeff < 0 := by
    intro l hl
    have hmem := mem_of_toList_eq h.charge hl
    exact h.charges l hmem.1 (of_decide_eq_true hmem.2)
  simp only [cointrackingRow, hhint, requireSome_some, bind_ok, hprimary,
    singlePrimaryLeg_of_filter h.inbound, singlePrimaryLeg_of_filter h.outbound,
    singleChargeLeg_of_shape h, rejectOtherNonPrimaryLegs_of_shape h, hlabel, bind_eq_ok_iff,
    quantityText_eq_ok_iff, magnitudeText_eq_ok_iff hout, magnitudeText_eq_ok_iff hcharge]
  constructor
  · rintro ⟨_, ⟨hfinite, rfl⟩, _, ⟨hfinite', rfl⟩, _, ⟨hfinite'', rfl⟩, hrow⟩
    refine ⟨fun leg hleg => ?_, Except.ok.inj hrow⟩
    rcases (mem_legs_iff h).1 hleg with hleg | hleg | hleg
    · exact hfinite leg hleg
    · exact hfinite' leg hleg
    · exact hfinite'' leg hleg
  · rintro ⟨hfinite, hrow⟩
    refine ⟨_, ⟨fun l hl => hfinite l ?_, rfl⟩, _, ⟨fun l hl => hfinite l ?_, rfl⟩, _,
      ⟨fun l hl => hfinite l ?_, rfl⟩, congrArg Except.ok hrow⟩
    · exact (mem_legs_iff h).2 (Or.inl hl)
    · exact (mem_legs_iff h).2 (Or.inr (Or.inl hl))
    · exact (mem_legs_iff h).2 (Or.inr (Or.inr hl))

/-- The row of a fact holds what the context keeps of its legs. -/
theorem rowAmount_shownRow (h : CointrackingShape fact.val.legs inbound outbound charge)
    (label instrument : String) :
    rowAmount (shownRow fact label inbound outbound charge) instrument =
      (fact.val.legs.map (roundedAmount instrument)).sum := by
  have hcells : rowAmount (shownRow fact label inbound outbound charge) instrument =
      (if legCurrency inbound = instrument then cellAmount (shownQuantity inbound) else 0) -
        (if legCurrency outbound = instrument then cellAmount (shownMagnitude outbound) else 0) -
          (if legCurrency charge = instrument then cellAmount (shownMagnitude charge) else 0) := rfl
  rw [hcells, (cellAmount_shown instrument inbound).1, (cellAmount_shown instrument outbound).2,
    (cellAmount_shown instrument charge).2, sum_legs_split h]
  ring

end Projected

/-! ## What stops a row -/

section Encoded

variable {surrogate : Char → Bool} {fact : TransactionFact} {inbound outbound charge : Option EconomicLeg}

/-- The row of a fact can be written: its quantities do not overflow and its texts have bytes. -/
structure Writable (surrogate : Char → Bool) (fact : TransactionFact) : Prop where
  quantities : ∀ leg ∈ fact.val.legs, ¬leg.val.quantity.Overflows
  instruments : ∀ leg ∈ fact.val.legs, Encodable surrogate leg.val.instrumentId
  exchange : Encodable surrogate (exchangeLabel fact)
  group : Encodable surrogate fact.val.operationGroupId
  comment : Encodable surrogate fact.val.description
  txId : Encodable surrogate (txId fact)

/-- What the context rounds away below its least exponent adds up to nothing. -/
def TinyCancel (fact : TransactionFact) : Prop :=
  (∀ leg ∈ fact.val.legs, leg.val.quantity.Fits) →
    ∀ instrument, (fact.val.legs.map (roundedAmount instrument)).sum = legsAmount fact.val.legs instrument

/-- Nothing is rounded away of numbers that fit and reach no lower than the least exponent. -/
lemma tinyCancel_of_least (h : ∀ leg ∈ fact.val.legs, Decimal.etiny ≤ leg.val.quantity.exp) :
    TinyCancel fact := by
  intro hfits instrument
  refine congrArg List.sum (List.map_congr_left (fun leg hleg => ?_))
  have hkept : leg.val.quantity.rounded = leg.val.quantity := by
    rw [Decimal.rounded, if_neg (fun htiny => not_lt.2 (h leg hleg) htiny.1),
      Decimal.quantize_of_fits (hfits leg hleg)]
  rw [roundedAmount, hkept, legAmount]

section Ascii

variable (hascii : ∀ c, c.toNat < 128 → surrogate c = false)

include hascii

lemma encodable_of_ascii {text : String} (h : ∀ c ∈ text.toList, c.toNat < 128) :
    Encodable surrogate text := fun c hc => hascii c (h c hc)

lemma encodable_decimal (d : Decimal) : Encodable surrogate d.text := by
  refine encodable_of_ascii hascii (fun c hc => ?_)
  rw [Decimal.text, String.toList_ofList] at hc
  exact (Decimal.textChar_plain hc).2.2.2

lemma encodable_shown (leg : Option EconomicLeg) :
    Encodable surrogate (shownQuantity leg) ∧ Encodable surrogate (shownMagnitude leg) := by
  cases leg with
  | none => exact ⟨(fun _ hc => by cases hc), fun _ hc => by cases hc⟩
  | some l => exact ⟨encodable_decimal hascii _, encodable_decimal hascii _⟩

lemma encodable_timestampText (t : Instant) : Encodable surrogate t.timestampText := by
  refine encodable_of_ascii hascii (fun c hc => ?_)
  have hdigit : ∀ n, (Instant.digit n).toNat < 128 := fun n => ascii_of_isDigit (Instant.digit_facts n).1
  rw [Instant.timestampText, String.toList_ofList] at hc
  simp only [Instant.dateChars, Instant.timeChars, Instant.pad4, Instant.pad2, List.cons_append,
    List.nil_append, List.mem_cons, List.not_mem_nil, or_false] at hc
  rcases hc with rfl | rfl | rfl | rfl | rfl | rfl | rfl | rfl | rfl | rfl | rfl | rfl | rfl | rfl |
    rfl | rfl | rfl | rfl | rfl
  all_goals first | exact hdigit _ | decide

lemma encodable_label {hint : ProjectionHint} {label : String} (h : typeLabel hint = .ok label) :
    Encodable surrogate label := by
  refine encodable_of_ascii hascii (List.forall_mem_iff_forall_getElem.2 ?_)
  cases hint <;> cases Except.ok.inj h <;> decide

/-- Only texts that the fact brings with it can stop its row. -/
lemma encodable_shownRow_iff (h : CointrackingShape fact.val.legs inbound outbound charge)
    {hint : ProjectionHint} {label : String} (hlabel : typeLabel hint = .ok label) :
    (∀ cell ∈ shownRow fact label inbound outbound charge, Encodable surrogate cell.2) ↔
      (∀ leg ∈ fact.val.legs, Encodable surrogate leg.val.instrumentId) ∧
        Encodable surrogate (exchangeLabel fact) ∧ Encodable surrogate fact.val.operationGroupId ∧
          Encodable surrogate fact.val.description ∧ Encodable surrogate (txId fact) := by
  have hcurrency : ∀ leg : Option EconomicLeg, Encodable surrogate (legCurrency leg) ↔
      ∀ l, leg = some l → Encodable surrogate l.val.instrumentId := by
    intro leg
    cases leg with
    | none => exact iff_of_true (fun _ hc => by cases hc) (fun _ hl => by cases hl)
    | some l => simp [legCurrency]
  have hlegs : (∀ leg ∈ fact.val.legs, Encodable surrogate leg.val.instrumentId) ↔
      Encodable surrogate (legCurrency inbound) ∧ Encodable surrogate (legCurrency outbound) ∧
        Encodable surrogate (legCurrency charge) := by
    rw [hcurrency, hcurrency, hcurrency]
    constructor
    · intro hall
      exact ⟨fun l hl => hall l ((mem_legs_iff h).2 (Or.inl hl)),
        fun l hl => hall l ((mem_legs_iff h).2 (Or.inr (Or.inl hl))),
        fun l hl => hall l ((mem_legs_iff h).2 (Or.inr (Or.inr hl)))⟩
    · rintro ⟨hin, hout, hcharge⟩ leg hleg
      rcases (mem_legs_iff h).1 hleg with hleg | hleg | hleg
      · exact hin leg hleg
      · exact hout leg hleg
      · exact hcharge leg hleg
  have hin := encodable_shown hascii inbound
  have hout := encodable_shown hascii outbound
  have hcharge := encodable_shown hascii charge
  have hdate := encodable_timestampText hascii fact.val.timestamp
  have hlabelled := encodable_label hascii hlabel
  rw [hlegs]
  simp only [shownRow, cointrackingColumns, List.forall_mem_cons, List.not_mem_nil, false_imp_iff,
    implies_true, and_true, hin, hout, hcharge, hdate, hlabelled, true_and, and_assoc]

/-- The row of a fact of the shape is written exactly where nothing stops it. -/
theorem renderedRow_eq_ok_iff (h : CointrackingShape fact.val.legs inbound outbound charge)
    {hint : ProjectionHint} (hhint : fact.val.semantics.projectionHint = some hint) {label : String}
    (hlabel : typeLabel hint = .ok label) {row : Row} :
    renderedRow surrogate fact = .ok row ↔
      Writable surrogate fact ∧ shownRow fact label inbound outbound charge = row := by
  have hcells : cointrackingHeader.mapM (fun field => do
      let cell ← (shownRow fact label inbound outbound charge).text field
      return (field, cell)) = .ok (shownRow fact label inbound outbound charge) := rfl
  have hencoded := encodable_shownRow_iff hascii h hlabel
  simp only [renderedRow, bind_eq_ok_iff, cointrackingRow_eq_ok_iff h hhint hlabel, require_eq_ok_iff]
  constructor
  · rintro ⟨_, ⟨hfinite, rfl⟩, cells, hcells', _, hall, hrow⟩
    rw [hcells] at hcells'
    cases Except.ok.inj hcells'
    rcases hencoded.1 hall with ⟨hinstruments, hexchange, hgroup, hcomment, htxId⟩
    exact ⟨⟨hfinite, hinstruments, hexchange, hgroup, hcomment, htxId⟩, Except.ok.inj hrow⟩
  · rintro ⟨hwritable, hrow⟩
    refine ⟨_, ⟨hwritable.quantities, rfl⟩, _, hcells, (), hencoded.2 ?_, congrArg Except.ok hrow⟩
    exact ⟨hwritable.instruments, hwritable.exchange, hwritable.group, hwritable.comment,
      hwritable.txId⟩

end Ascii

end Encoded

/-! ## A rendering -/

section Rendering

variable {surrogate : Char → Bool} {facts : List TransactionFact}

/-- When every fact has a row, the rows are written to the end; what holds of each holds in order. -/
lemma writeRows_of_rows {good : TransactionFact → Row → Prop}
    (h : ∀ fact ∈ facts, ∃ row, renderedRow surrogate fact = .ok row ∧ good fact row) :
    (writeRows surrogate facts).2 = .ok () ∧
      List.Forall₂ (fun fact row => renderedRow surrogate fact = .ok row ∧ good fact row) facts
        (writeRows surrogate facts).1 := by
  induction facts with
  | nil => exact ⟨rfl, List.Forall₂.nil⟩
  | cons fact facts ih =>
      rcases h fact List.mem_cons_self with ⟨row, hrow, hgood⟩
      have hrest := ih (fun other hother => h other (List.mem_cons_of_mem _ hother))
      rw [writeRows, hrow]
      exact ⟨hrest.1, List.Forall₂.cons ⟨hrow, hgood⟩ hrest.2⟩

/-- The row moves of every instrument what the legs of its fact move, where their quantities have no
more than 28 significant digits. -/
def Conserves (fact : TransactionFact) (row : Row) : Prop :=
  (∀ leg ∈ fact.val.legs, leg.val.quantity.Fits) →
    ∀ instrument, legsAmount fact.val.legs instrument = rowAmount row instrument

/-- The rendering raises nothing, and writes one row for each fact in order. -/
structure RendersWhole (surrogate : Char → Bool) (facts : List TransactionFact) (outputPath : String) :
    Prop where
  result : (render surrogate facts outputPath).result =
    .ok ⟨outputPath, facts.length, [("adapter_id", CointrackingCsv.adapterId)]⟩
  header : (render surrogate facts outputPath).header = cointrackingHeader
  rows : List.Forall₂ (fun fact row => renderedRow surrogate fact = .ok row ∧ Conserves fact row) facts
    (render surrogate facts outputPath).rows

/-- Facts within the render policy are rendered whole exactly where nothing stops the row of one, and
what is rounded away cancels out. -/
theorem renders_whole_iff (hascii : ∀ c, c.toNat < 128 → surrogate c = false) (outputPath : String)
    (haccepted : validateRenderPolicy CointrackingCsv.adapterId CointrackingCsv.renderPolicy facts =
      .ok ()) :
    RendersWhole surrogate facts outputPath ↔
      ∀ fact ∈ facts, Writable surrogate fact ∧ TinyCancel fact := by
  rw [validateRenderPolicy_eq_ok_iff] at haccepted
  -- Of every fact: its row, if it is written, and what the row moves.
  have hrow : ∀ fact ∈ facts, ∃ row, (∀ {written}, renderedRow surrogate fact = .ok written ↔
      Writable surrogate fact ∧ row = written) ∧
        ∀ instrument, rowAmount row instrument = (fact.val.legs.map (roundedAmount instrument)).sum := by
    intro fact hfact
    have hrenderable := haccepted fact hfact
    rcases exists_cointrackingShape hrenderable with ⟨inbound, outbound, charge, hshape⟩
    rcases Option.ne_none_iff_exists'.1 (hrenderable.hint rfl) with ⟨hint, hhint⟩
    rcases exists_typeLabel hint with ⟨label, hlabel⟩
    exact ⟨_, renderedRow_eq_ok_iff hascii hshape hhint hlabel, rowAmount_shownRow hshape label⟩
  constructor
  · intro h fact hfact
    rcases hrow fact hfact with ⟨row, hwritten, hamount⟩
    rcases exists_right_of_forall₂ h.rows hfact with ⟨other, _, hother, hconserved⟩
    rcases hwritten.1 hother with ⟨hwritable, rfl⟩
    exact ⟨hwritable, fun hfits instrument => (hamount instrument).symm.trans
      (hconserved hfits instrument).symm⟩
  · intro h
    have hrows : ∀ fact ∈ facts, ∃ row, renderedRow surrogate fact = .ok row ∧ Conserves fact row := by
      intro fact hfact
      rcases hrow fact hfact with ⟨row, hwritten, hamount⟩
      refine ⟨row, hwritten.2 ⟨(h fact hfact).1, rfl⟩, fun hfits instrument => ?_⟩
      rw [hamount, (h fact hfact).2 hfits]
    have hall := writeRows_of_rows hrows
    refine ⟨?_, rfl, hall.2⟩
    simp only [render, hall.1]
    rfl

end Rendering

namespace Trade

/-- A leg of the trade; a charge names the leg that it belongs to. -/
def legFields (legId : String) (kind : LegKind) (instrumentId : String) (quantity : Decimal)
    (attributed : Option String) : EconomicLegFields :=
  ⟨legId, kind, instrumentId, quantity, none, attributed, none⟩

lemma accepted_leg {legId : String} {kind : LegKind} {instrumentId : String} {quantity : Decimal}
    {attributed : Option String} (hid : isSnakeCase legId = true) (hinstrument : instrumentId ≠ "")
    (hquantity : quantity ≠ 0) (hprimary : kind = .primary → attributed = none)
    (hattributed : ∀ id, attributed = some id → isSnakeCase id = true) :
    economicLeg.Accepted (legFields legId kind instrumentId quantity attributed) :=
  let leg := legFields legId kind instrumentId quantity attributed
  have hvalid : LegValid leg :=
    ⟨hid, hinstrument, hquantity, hprimary, hattributed, fun _ hsubtype => by cases hsubtype⟩
  ⟨leg, (postInit_eq_ok_iff leg leg).2 ⟨hvalid, none, rfl, rfl⟩⟩

def bought : EconomicLeg :=
  ⟨legFields "bought" .primary "btc" (Decimal.ofParts 2 0) none,
    accepted_leg (by decide) (by decide) (by decide) (fun _ => rfl) nofun⟩

def sold : EconomicLeg :=
  ⟨legFields "sold" .primary "eth" (Decimal.ofParts (-35) (-1)) none,
    accepted_leg (by decide) (by decide) (by decide) (fun _ => rfl) nofun⟩

def fee : EconomicLeg :=
  ⟨legFields "fee" .charge "eth" (Decimal.ofParts (-1) (-2)) (some "sold"),
    accepted_leg (by decide) (by decide) (by decide) nofun (by
      rintro id ⟨⟩
      decide)⟩

def fields : TransactionFactFields where
  factId := "trade-1"
  source := "kraken"
  adapterId := "kraken"
  timestamp := ⟨2024, 3, 1, 12, 0, 0, 0, by decide⟩
  locationId := "kraken:spot"
  semantics := ⟨.spotTrade, .assetExchange, .capitalExchange, some .trade⟩
  legs := [bought, sold, fee]
  legPolicy := CointrackingCsv.renderPolicy.shapePolicy
  description := ""
  providerOperationKey := ""
  operationGroupId := ""
  txHash := none
  rawFile := "trades.csv"
  rawRowRef := "1"
  confidence := "high"
  status := "confirmed"
  effectiveAt := none
  effectivePrecision := none

def fact : TransactionFact :=
  ⟨fields, fields, (fact_postInit_eq_ok_iff _ _).2
    ⟨"kraken:spot", by decide +kernel, rfl, by decide +kernel, rfl⟩⟩

/-- The trade is accepted, and its row moves the ether of the sale and of the fee. -/
theorem rendered :
    (render (fun _ => false) [fact] "out.csv").result =
        .ok ⟨"out.csv", 1, [("adapter_id", "cointracking_csv")]⟩ ∧
      ∀ row ∈ (render (fun _ => false) [fact] "out.csv").rows,
        legsAmount fact.val.legs "eth" = rowAmount row "eth" := by
  have hlegs : ∀ leg ∈ fact.val.legs, leg.val.quantity.InContext := by decide
  have hencodable : ∀ text, Encodable (fun _ => false) text := fun _ _ _ => rfl
  have hwritable : Writable (fun _ => false) fact :=
    ⟨by decide, fun _ _ => hencodable _, hencodable _, hencodable _, hencodable _, hencodable _⟩
  have h := (@renders_whole_iff (fun _ => false) [fact] (fun _ _ => rfl) "out.csv" (by decide +kernel)).2
    (fun other hother => by
      rcases List.mem_singleton.1 hother with rfl
      exact ⟨hwritable, tinyCancel_of_least (fun leg hleg => (hlegs leg hleg).least)⟩)
  refine ⟨h.result, fun row hrow => ?_⟩
  rcases exists_left_of_forall₂ h.rows hrow with ⟨other, hother, _, hconserved⟩
  rcases List.mem_singleton.1 hother with rfl
  exact hconserved (fun leg hleg => (hlegs leg hleg).fits) "eth"

/-- The trade with more ether sold than the context can show. -/
def hugeSold : EconomicLeg :=
  ⟨legFields "sold" .primary "eth" ⟨-1, 1000000, by decide⟩ none,
    accepted_leg (by decide) (by decide) (by decide) (fun _ => rfl) nofun⟩

def hugeFields : TransactionFactFields := { fields with legs := [bought, hugeSold, fee] }

def hugeFact : TransactionFact :=
  ⟨hugeFields, hugeFields, (fact_postInit_eq_ok_iff _ _).2
    ⟨"kraken:spot", by decide +kernel, rfl, by decide +kernel, rfl⟩⟩

/-- The policy accepts both trades, and the second stops the file after the row of the first. -/
theorem huge_sale_truncates :
    validateRenderPolicy CointrackingCsv.adapterId CointrackingCsv.renderPolicy [fact, hugeFact] = .ok () ∧
      (render (fun _ => false) [fact, hugeFact] "out.csv").result = .error .overflow ∧
        (render (fun _ => false) [fact, hugeFact] "out.csv").rows.length = 1 := by
  refine ⟨by decide +kernel, by decide +kernel, by decide +kernel⟩

end Trade

end Outputs
end Tallylot
