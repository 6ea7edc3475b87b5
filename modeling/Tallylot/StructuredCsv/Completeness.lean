import Tallylot.StructuredCsv.Translation

/-!
# Completeness — what validation leaves to the translator

The legs of a valid row are built, keep the policy of the row and resolve to instruments.  Yet the
translator also looks the category up, makes parts of a location id out of the account and the wallet,
compares the amounts that are paid with zero, and rounds every amount to the context.  None of the four
is validated, and a valid row is translated to its exact amounts exactly where they do no harm
(`translation_complete_iff`).
-/

namespace Tallylot
namespace StructuredCsv

open Data Domain Normalization Transactions

/-! ## What a row says -/

namespace AmountPair

/-- The quantity that an amount of the pair stands for. -/
def signed : AmountPair → SpecialDecimal → SpecialDecimal
  | inbound, amount | rebate, amount => amount
  | outbound, amount | charge, amount => amount.copyAbs.copyNegate

/-- The quantity that the translator makes of an amount of the pair; a minus rounds. -/
def booked : AmountPair → SpecialDecimal → SpecialDecimal
  | inbound, amount | rebate, amount => amount
  | outbound, amount | charge, amount => amount.copyAbs.neg

end AmountPair

/-- The leg of a pair that is there, with the amount that its cell shows. -/
def expectedLeg (row : StructuredRow) (pair : AmountPair) : Option QuantityLeg :=
  match SpecialDecimal.read (row.cell pair.amount) with
  | some amount =>
      if row.cell pair.asset = "" then none else some (pairLeg row pair (pair.signed amount))
  | none => none

def expectedLegs (row : StructuredRow) : List QuantityLeg :=
  AmountPair.all.filterMap (expectedLeg row)

/-- The leg of a pair that is there, with its amount rounded to the context. -/
def bookedLeg (row : StructuredRow) (pair : AmountPair) : Option QuantityLeg :=
  match SpecialDecimal.parse (row.cell pair.amount) with
  | .ok (some amount) =>
      if row.cell pair.asset = "" then none else some (pairLeg row pair (pair.booked amount))
  | _ => none

def bookedLegs (row : StructuredRow) : List QuantityLeg := AmountPair.all.filterMap (bookedLeg row)

/-- The row is translated to a draft with the legs, and the draft compiles to a fact. -/
structure Translation (env : KernelEnvironment) (feedback : Feedback) (row : StructuredRow)
    (index : Nat) (stated : List QuantityLeg) (result : TranslatedRow)
    (fact : Transactions.TransactionFact) : Prop where
  translated : translateRow env feedback row index = .ok result
  compiled : compileActivityDraft env result.draft =
    .ok { fact := some fact, issues := [], reviews := [] }
  policy : result.draft.val.legPolicy = policyForRow row
  satisfied : validateFact fact.val.legs (policyForRow row) = .ok ()
  legs : result.legs.map BuiltLeg.leg = stated
  drafts : result.draft.val.legs = result.legs.map BuiltLeg.draft
  attributed : ∀ leg ∈ stated, ∀ id, leg.attributedToLegId = some id →
    ∃ primary ∈ stated, primary.kind = .primary ∧ primary.legId = id

/-- What the translator relies on and the validator does not look at. -/
structure Translatable (lower : String → String) (row : StructuredRow) : Prop where
  category : (classificationTable.lookup (row.cell .category)).isSome = true
  account : normalizedLocationPart lower (row.cell .account) ≠ ""
  wallet : normalizedLocationPart lower (row.cell .wallet) ≠ ""
  amountOut : SpecialDecimal.read (row.cell .amountOut) ≠ some .nan
  chargeAmount : SpecialDecimal.read (row.cell .chargeAmount) ≠ some .nan

/-- The context leaves the amounts of a row as they are. -/
def AmountsExact (row : StructuredRow) : Prop :=
  ∀ (pair : AmountPair) (d : Decimal), SpecialDecimal.read (row.cell pair.amount) = some (.finite d) →
    d.InContext

/-! ## Building the legs -/

lemma build_of_draft {leg : QuantityLeg} {draft : EconomicLegDraft} (h : leg.draft = .ok draft) :
    leg.build = .ok ⟨leg, draft, h⟩ := by
  unfold QuantityLeg.build
  split
  · rename_i built hbuilt
    cases hbuilt.symm.trans h
    rfl
  · rename_i e herror
    cases herror.symm.trans h

lemma sideValue_eq_some {text id : String} (h : sideValue text = some id) :
    strip text = "in" ∧ id = "primary_in" ∨ strip text = "out" ∧ id = "primary_out" := by
  unfold sideValue at h
  split_ifs at h with hin hout
  · exact Or.inl ⟨hin, (Option.some.inj h).symm⟩
  · exact Or.inr ⟨hout, (Option.some.inj h).symm⟩

lemma isSnakeCase_of_attributedTo {row : StructuredRow} {pair : AmountPair} {id : String}
    (h : pair.attributedTo row = some id) : isSnakeCase id = true := by
  rcases Option.bind_eq_some_iff.1 h with ⟨side, _, hside⟩
  rcases sideValue_eq_some hside with ⟨_, rfl⟩ | ⟨_, rfl⟩
  · decide
  · decide

lemma isSnakeCase_legId (pair : AmountPair) : isSnakeCase pair.legId = true := by
  cases pair <;> decide

/-- A leg of an asset is built unless its quantity is zero. -/
lemma exists_build {row : StructuredRow} {pair : AmountPair} {quantity : SpecialDecimal}
    (hasset : row.cell pair.asset ≠ "") (hquantity : quantity.standIn ≠ 0) :
    ∃ built, (pairLeg row pair quantity).build = .ok built ∧
      built.leg = pairLeg row pair quantity ∧ built.draft.val =
        ⟨pair.legId, pair.kind, [symbolClaim (row.cell pair.asset) none], quantity.standIn, none,
          pair.attributedTo row, none⟩ := by
  have hnamed : isBlank (row.cell pair.asset) = false := by
    rw [Bool.eq_false_iff, ne_eq, isBlank_iff, row.stripped]
    exact hasset
  have hvalid : LegValid ⟨pair.legId, pair.kind, "draft:placeholder", quantity.standIn, none,
      pair.attributedTo row, none⟩ := by
    constructor
    · exact isSnakeCase_legId pair
    · exact placeholder_ne_blank
    · exact hquantity
    · cases pair with
      | inbound => exact fun _ => rfl
      | outbound => exact fun _ => rfl
      | charge => exact fun h => by cases h
      | rebate => exact fun h => by cases h
    · exact fun _ h => isSnakeCase_of_attributedTo h
    · exact fun _ h => by cases h
  rcases @exists_symbolLeg _ _ _ _ none none _ hnamed hvalid with ⟨draft, hdraft, hval⟩
  have hbuilt : (pairLeg row pair quantity).draft = .ok draft := hdraft
  exact ⟨⟨pairLeg row pair quantity, draft, hbuilt⟩, build_of_draft hbuilt, rfl, hval⟩

/-! ## Shapes of the legs -/

/-- The primary leg that a side names, the one that comes in or the one that goes out. -/
def sideOf (text : String) : Option Bool :=
  if strip text = "in" then some true else if strip text = "out" then some false else none

def primaryId (inward : Bool) : String := if inward then "primary_in" else "primary_out"

lemma sideValue_eq (text : String) : sideValue text = (sideOf text).map primaryId := by
  unfold sideValue sideOf
  split_ifs <;> rfl

def AmountPair.sideOf (pair : AmountPair) (row : StructuredRow) : Option Bool :=
  pair.side.bind (fun side => StructuredCsv.sideOf (row.cell side))

lemma attributedTo_eq (pair : AmountPair) (row : StructuredRow) :
    pair.attributedTo row = (pair.sideOf row).map primaryId := by
  unfold AmountPair.attributedTo AmountPair.sideOf
  cases pair.side with
  | none => rfl
  | some side =>
      rw [Option.bind_some, Option.bind_some]
      exact sideValue_eq (row.cell side)

/-- The fields of a leg for the checks of a fact. -/
def shapeFields (legId : String) (kind : LegKind) (coeff : Int) (attributedToLegId : Option String) :
    EconomicLegFields :=
  ⟨legId, kind, "draft:placeholder", Decimal.ofParts coeff 0, none, attributedToLegId, none⟩

def shapeLeg (legId : String) (kind : LegKind) (coeff : Int) (attributedToLegId : Option String)
    (h : (shapeFields legId kind coeff attributedToLegId).postInit =
      .ok (shapeFields legId kind coeff attributedToLegId)) :
    Transactions.EconomicLeg :=
  ⟨shapeFields legId kind coeff attributedToLegId, _, h⟩

/-- A leg of the shape of those of a pair. -/
def AmountPair.shape : AmountPair → Option Bool → Transactions.EconomicLeg
  | inbound, _ => shapeLeg "primary_in" .primary 1 none rfl
  | outbound, _ => shapeLeg "primary_out" .primary (-1) none rfl
  | charge, none => shapeLeg "charge" .charge (-1) none rfl
  | charge, some true => shapeLeg "charge" .charge (-1) (some "primary_in") rfl
  | charge, some false => shapeLeg "charge" .charge (-1) (some "primary_out") rfl
  | rebate, none => shapeLeg "rebate" .rebate 1 none rfl
  | rebate, some true => shapeLeg "rebate" .rebate 1 (some "primary_in") rfl
  | rebate, some false => shapeLeg "rebate" .rebate 1 (some "primary_out") rfl

/-- Quantities of the pair are not negative. -/
def AmountPair.inward : AmountPair → Bool
  | inbound | rebate => true
  | outbound | charge => false

lemma pos_shape_iff (pair : AmountPair) (side : Option Bool) :
    0 < (pair.shape side).val.quantity.coeff ↔ pair.inward = true := by
  cases pair with
  | inbound => exact iff_of_true (show 0 < (Decimal.ofParts 1 0).coeff by decide) rfl
  | outbound =>
      exact iff_of_false (show ¬0 < (Decimal.ofParts (-1) 0).coeff by decide) Bool.false_ne_true
  | charge =>
      refine iff_of_false ?_ Bool.false_ne_true
      rcases side with _ | ⟨_ | _⟩ <;> decide
  | rebate =>
      refine iff_of_true ?_ rfl
      rcases side with _ | ⟨_ | _⟩ <;> decide

lemma hasShape_shape {row : StructuredRow} {pair : AmountPair} {quantity : Decimal}
    {draft : EconomicLegDraft} {asset : String}
    (hval : draft.val = ⟨pair.legId, pair.kind, [symbolClaim asset none], quantity, none,
      pair.attributedTo row, none⟩) (hsign : 0 < quantity.coeff ↔ pair.inward = true) :
    HasShape draft (pair.shape (pair.sideOf row)) := by
  rw [hasShape_iff, hval, pos_shape_iff]
  dsimp only
  rw [attributedTo_eq]
  cases pair with
  | inbound => exact ⟨rfl, rfl, hsign, rfl⟩
  | outbound => exact ⟨rfl, rfl, hsign, rfl⟩
  | charge =>
      rcases AmountPair.sideOf .charge row with _ | ⟨_ | _⟩
      all_goals exact ⟨rfl, rfl, hsign, rfl⟩
  | rebate =>
      rcases AmountPair.sideOf .rebate row with _ | ⟨_ | _⟩
      all_goals exact ⟨rfl, rfl, hsign, rfl⟩

/-- The legs of the checks for pairs that are there. -/
def shapes (hasIn hasOut : Bool) (charge rebate : Option (Option Bool)) :
    List Transactions.EconomicLeg :=
  (if hasIn then [AmountPair.inbound.shape none] else []) ++
    (if hasOut then [AmountPair.outbound.shape none] else []) ++
      (charge.map AmountPair.charge.shape).toList ++ (rebate.map AmountPair.rebate.shape).toList

/-- A side names a primary leg that is there. -/
def SideKnown (hasIn hasOut : Bool) (pair : Option (Option Bool)) : Prop :=
  ∀ inward, pair = some (some inward) → (if inward then hasIn else hasOut) = true

/-- Legs of these shapes keep the policy of their pairs. -/
lemma validateFact_shapes {hasIn hasOut : Bool} {charge rebate : Option (Option Bool)}
    (hevent : (hasIn || hasOut) = true) (hcharge : SideKnown hasIn hasOut charge)
    (hrebate : SideKnown hasIn hasOut rebate) :
    validateFact (shapes hasIn hasOut charge rebate)
      (policyOf hasIn hasOut charge.isSome rebate.isSome) = .ok () := by
  cases hasIn
  all_goals
    cases hasOut
    all_goals
      rcases charge with _ | _ | ⟨_ | _⟩
      all_goals
        rcases rebate with _ | _ | ⟨_ | _⟩
        all_goals first
          | exact absurd hevent Bool.false_ne_true
          | exact absurd (hcharge _ rfl) Bool.false_ne_true
          | exact absurd (hrebate _ rfl) Bool.false_ne_true
          | rfl

/-! ## The legs of a valid row -/

/-- A pair's leg is the one expected, with a comparable quantity and the shape of the pair. -/
structure BuiltAs (row : StructuredRow) (pair : AmountPair) (found : Option BuiltLeg) : Prop where
  expected : found.map BuiltLeg.leg = bookedLeg row pair
  comparable : ∀ built ∈ found, built.leg.quantity ≠ .nan
  claims : ∀ built ∈ found, ∃ asset, isBlank asset = false ∧
    built.draft.val.instrumentIdentityClaims = [symbolClaim asset none]
  shape : List.Forall₂ HasShape (found.toList.map BuiltLeg.draft)
    (if row.cell pair.asset = "" then [] else [pair.shape (pair.sideOf row)])

lemma builtAs_none {row : StructuredRow} {pair : AmountPair} (hvalid : ValidRow row)
    (hasset : row.cell pair.asset = "") : BuiltAs row pair none := by
  have hamount : row.cell pair.amount = "" := by
    by_contra hne
    exact (hvalid.pairs pair).2 hne hasset
  have hparse : SpecialDecimal.parse (row.cell pair.amount) = .ok none := by
    rw [SpecialDecimal.parse_eq_ok_none_iff, row.stripped, hamount]
  constructor
  · rw [bookedLeg, hparse]
    rfl
  · exact fun built h => by cases h
  · exact fun built h => by cases h
  · rw [if_pos hasset]
    exact .nil

lemma exists_builtAs {row : StructuredRow} {pair : AmountPair} {amount : SpecialDecimal}
    (hasset : row.cell pair.asset ≠ "")
    (hparse : SpecialDecimal.parse (row.cell pair.amount) = .ok (some amount))
    (hnan : pair.booked amount ≠ .nan) (hquantity : (pair.booked amount).standIn ≠ 0)
    (hsign : 0 < (pair.booked amount).standIn.coeff ↔ pair.inward = true) :
    ∃ built, (pairLeg row pair (pair.booked amount)).build = .ok built ∧
      BuiltAs row pair (some built) := by
  rcases exists_build hasset hquantity with ⟨built, hbuilt, hleg, hval⟩
  refine ⟨built, hbuilt, ?_⟩
  constructor
  · rw [bookedLeg, hparse, Option.map_some, hleg]
    dsimp only
    rw [if_neg hasset]
  · intro other hother
    rw [← Option.some.inj hother, hleg]
    exact hnan
  · intro other hother
    rw [← Option.some.inj hother, hval]
    refine ⟨_, ?_, rfl⟩
    rw [Bool.eq_false_iff, ne_eq, isBlank_iff, row.stripped]
    exact hasset
  · rw [if_neg hasset]
    exact .cons (hasShape_shape hval hsign) .nil

lemma ne_zero_of_coeff {d : Decimal} (h : d.coeff ≠ 0) : d ≠ 0 := by
  rintro rfl
  exact h rfl

/-- The leg of a pair that comes in. -/
lemma exists_receivedLeg {row : StructuredRow} {pair : AmountPair} (hvalid : ValidRow row)
    (hpair : pair ∈ [.inbound, .rebate]) :
    ∃ found, receivedLeg row pair = .ok found ∧ BuiltAs row pair found := by
  by_cases hasset : row.cell pair.asset = ""
  · exact ⟨none, by rw [receivedLeg, if_pos hasset], builtAs_none hvalid hasset⟩
  · rcases hvalid.amounts pair ((hvalid.pairs pair).1 hasset) with ⟨amount, hparse, hzero, hsign⟩
    have hpositive := SpecialDecimal.isPositive_of_checks hzero (hsign hpair)
    have hpos := SpecialDecimal.pos_standIn hpositive
    have hin : pair.inward = true ∧ pair.booked amount = amount := by
      rcases List.mem_pair.1 hpair with rfl | rfl
      · exact ⟨rfl, rfl⟩
      · exact ⟨rfl, rfl⟩
    rcases hin with ⟨hinward, hsigned⟩
    rw [← hsigned] at hpositive hpos
    rcases exists_builtAs hasset hparse (SpecialDecimal.ne_nan_of_isPositive hpositive).1
      (ne_zero_of_coeff hpos.ne') (iff_of_true hpos hinward) with ⟨built, hbuilt, has⟩
    rw [hsigned] at hbuilt
    refine ⟨some built, ?_, has⟩
    rw [receivedLeg, if_neg hasset, hparse, bind_ok]
    dsimp only
    rw [hbuilt]
    rfl

/-- An outbound amount that is no NaN is normalized to its magnitude. -/
lemma exists_normalized {feedback : Feedback} {index : Nat} {column : Column} {text : String}
    {amount : SpecialDecimal} (hparse : SpecialDecimal.parse text = .ok (some amount))
    {negative : Bool} (hsign : amount.isNegative = .ok negative) :
    ∃ review, normalizeOutboundAmount feedback index column text =
      .ok (some amount.copyAbs, review) := by
  rw [normalizeOutboundAmount, hparse, bind_ok]
  dsimp only
  rw [hsign, bind_ok]
  cases negative with
  | true => exact ⟨_, rfl⟩
  | false =>
      rw [SpecialDecimal.copyAbs_of_not_negative hsign]
      exact ⟨none, rfl⟩

/-- The leg of a pair that goes out. -/
lemma exists_paidLeg {feedback : Feedback} {index : Nat} {row : StructuredRow} {pair : AmountPair}
    (hvalid : ValidRow row) (hpair : pair ∈ [.outbound, .charge])
    (hnan : SpecialDecimal.read (row.cell pair.amount) ≠ some .nan) :
    ∃ amount found,
      normalizeOutboundAmount feedback index pair.amount (row.cell pair.amount) = .ok amount ∧
        paidLeg row pair amount.1 = .ok found ∧ BuiltAs row pair found := by
  by_cases hasset : row.cell pair.asset = ""
  · have hamount : row.cell pair.amount = "" := by
      by_contra hne
      exact (hvalid.pairs pair).2 hne hasset
    have hparse : SpecialDecimal.parse (row.cell pair.amount) = .ok none := by
      rw [SpecialDecimal.parse_eq_ok_none_iff, row.stripped, hamount]
    refine ⟨(none, none), none, ?_, rfl, builtAs_none hvalid hasset⟩
    rw [normalizeOutboundAmount, hparse]
    rfl
  · rcases hvalid.amounts pair ((hvalid.pairs pair).1 hasset) with ⟨amount, hparse, hzero, _⟩
    have hcomparable : amount ≠ .nan := by
      rintro rfl
      rw [SpecialDecimal.parse_eq_ok_special_iff rfl] at hparse
      exact hnan hparse
    rcases SpecialDecimal.exists_isNegative_iff.2 hcomparable with ⟨negative, hsign⟩
    have hpositive := SpecialDecimal.isPositive_copyAbs hzero hsign
    have hneg := SpecialDecimal.standIn_neg hpositive
    have hout : pair.inward = false ∧ pair.booked amount = amount.copyAbs.neg := by
      rcases List.mem_pair.1 hpair with rfl | rfl
      · exact ⟨rfl, rfl⟩
      · exact ⟨rfl, rfl⟩
    rcases hout with ⟨hinward, hsigned⟩
    have hnotNan : pair.booked amount ≠ .nan := by
      rw [hsigned]
      exact (SpecialDecimal.ne_nan_of_isPositive hpositive).2
    rw [← hsigned] at hneg
    rcases exists_builtAs hasset hparse hnotNan (ne_zero_of_coeff hneg.ne)
      (iff_of_false (not_lt.2 hneg.le) (by rw [hinward]; exact Bool.false_ne_true)) with
      ⟨built, hbuilt, has⟩
    rw [hsigned] at hbuilt
    rcases @exists_normalized feedback index pair.amount _ _ hparse _ hsign with ⟨review, hreview⟩
    refine ⟨_, some built, hreview, ?_, has⟩
    rw [paidLeg, if_neg hasset, hbuilt]
    rfl

/-! ## Complete validation -/

/-- A charge or a rebate of a valid row names a leg that is there. -/
lemma sideKnown_of_valid {row : StructuredRow} (hvalid : ValidRow row) {pair : AmountPair}
    (hpair : pair ∈ [.charge, .rebate]) (hasset : row.cell pair.asset ≠ "") {inward : Bool}
    (hside : pair.sideOf row = some inward) :
    row.cell (if inward then .assetIn else .assetOut) ≠ "" := by
  rcases Option.bind_eq_some_iff.1 hside with ⟨side, hcolumn, hvalue⟩
  have htargets : (side, pair.asset, .assetIn) ∈ sideAttributionTargets ∧
      (side, pair.asset, .assetOut) ∈ sideAttributionTargets := by
    rcases List.mem_pair.1 hpair with rfl | rfl
    · rw [← Option.some.inj hcolumn]
      exact ⟨by decide, by decide⟩
    · rw [← Option.some.inj hcolumn]
      exact ⟨by decide, by decide⟩
  unfold sideOf at hvalue
  split_ifs at hvalue with hin hout
  · rw [← Option.some.inj hvalue]
    rw [row.stripped] at hin
    exact hvalid.targets _ htargets.1 hasset (Or.inl ⟨hin, rfl⟩)
  · rw [← Option.some.inj hvalue]
    rw [row.stripped] at hout
    exact hvalid.targets _ htargets.2 hasset (Or.inr ⟨hout, rfl⟩)

/-- The side of a pair that is there, for the shapes of the legs. -/
def flagOf (row : StructuredRow) (pair : AmountPair) : Option (Option Bool) :=
  if row.cell pair.asset = "" then none else some (pair.sideOf row)

lemma hasText_eq (row : StructuredRow) (column : Column) :
    hasText row column = decide (row.cell column ≠ "") := by
  rw [hasText, row.stripped]

lemma isSome_flagOf (row : StructuredRow) (pair : AmountPair) :
    (flagOf row pair).isSome = decide (row.cell pair.asset ≠ "") := by
  unfold flagOf
  split_ifs with hasset
  · simp [hasset]
  · simp [hasset]

lemma sideKnown_flagOf {row : StructuredRow} (hvalid : ValidRow row) {pair : AmountPair}
    (hpair : pair ∈ [.charge, .rebate]) :
    SideKnown (hasText row .assetIn) (hasText row .assetOut) (flagOf row pair) := by
  intro inward hflag
  unfold flagOf at hflag
  split_ifs at hflag with hasset
  have hside : pair.sideOf row = some inward := Option.some.inj hflag
  have hthere := sideKnown_of_valid hvalid hpair hasset hside
  cases inward with
  | true =>
      have hnamed : row.cell .assetIn ≠ "" := hthere
      have htext : hasText row .assetIn = true := by
        rw [hasText_eq]
        exact decide_eq_true hnamed
      exact htext
  | false =>
      have hnamed : row.cell .assetOut ≠ "" := hthere
      have htext : hasText row .assetOut = true := by
        rw [hasText_eq]
        exact decide_eq_true hnamed
      exact htext

/-- The pairs that are there decide the policy of a valid row. -/
lemma policyForRow_eq {row : StructuredRow} (hvalid : ValidRow row) :
    policyForRow row = policyOf (hasText row .assetIn) (hasText row .assetOut)
      (flagOf row .charge).isSome (flagOf row .rebate).isSome := by
  have hpair : ∀ pair : AmountPair, (hasText row pair.asset && hasText row pair.amount) =
      (flagOf row pair).isSome := by
    intro pair
    rw [isSome_flagOf, hasText_eq, hasText_eq, decide_eq_decide.2 (hvalid.pairs pair), Bool.and_self]
  rw [← hpair .charge, ← hpair .rebate]
  rfl

lemma shapes_eq (row : StructuredRow) :
    shapes (hasText row .assetIn) (hasText row .assetOut) (flagOf row .charge) (flagOf row .rebate) =
      (if row.cell .assetIn = "" then [] else [AmountPair.inbound.shape (AmountPair.inbound.sideOf row)]) ++
        (if row.cell .assetOut = "" then []
          else [AmountPair.outbound.shape (AmountPair.outbound.sideOf row)]) ++
          (if row.cell .chargeAsset = "" then []
            else [AmountPair.charge.shape (AmountPair.charge.sideOf row)]) ++
            (if row.cell .rebateAsset = "" then []
              else [AmountPair.rebate.shape (AmountPair.rebate.sideOf row)]) := by
  have hflag : ∀ pair : AmountPair, ((flagOf row pair).map pair.shape).toList =
      if row.cell pair.asset = "" then [] else [pair.shape (pair.sideOf row)] := by
    intro pair
    unfold flagOf
    split_ifs <;> rfl
  have hprimary : ∀ (column : Column) (leg : Transactions.EconomicLeg),
      (if hasText row column = true then [leg] else []) =
        if row.cell column = "" then [] else [leg] := by
    intro column leg
    rw [hasText_eq]
    by_cases hblank : row.cell column = "" <;> simp [hblank]
  rw [shapes, hflag, hflag, hprimary, hprimary]
  rfl

/-- The parts of a location that keep a character make its id. -/
lemma exists_locationId {lower : String → String} {parts : List String} (hne : parts ≠ [])
    (hparts : ∀ part ∈ parts, normalizedLocationPart lower part ≠ "") :
    ∃ location, locationIdFromParts lower parts = .ok location := by
  refine ⟨_, bind_eq_ok_iff.2 ⟨(), require_eq_ok_iff.2 ?_, bind_eq_ok_iff.2 ⟨(), require_eq_ok_iff.2 ?_,
    rfl⟩⟩⟩
  · simpa using hne
  · intro hmem
    rcases List.mem_map.1 hmem with ⟨part, hpart, hblank⟩
    exact hparts part hpart hblank

/-- A pair that is there has an expected leg. -/
lemma exists_bookedLeg {row : StructuredRow} (hvalid : ValidRow row) {pair : AmountPair}
    (hasset : row.cell pair.asset ≠ "") :
    ∃ quantity, bookedLeg row pair = some (pairLeg row pair quantity) := by
  rcases hvalid.amounts pair ((hvalid.pairs pair).1 hasset) with ⟨amount, hparse, _⟩
  refine ⟨pair.booked amount, ?_⟩
  rw [bookedLeg, hparse]
  dsimp only
  rw [if_neg hasset]

lemma of_bookedLeg {row : StructuredRow} {pair : AmountPair} {leg : QuantityLeg}
    (h : bookedLeg row pair = some leg) :
    row.cell pair.asset ≠ "" ∧ ∃ quantity, leg = pairLeg row pair quantity := by
  unfold bookedLeg at h
  split at h
  · split_ifs at h with hasset
    exact ⟨hasset, _, (Option.some.inj h).symm⟩
  · cases h

/-- A charge or a rebate names an expected leg. -/
lemma attributed_of_valid {row : StructuredRow} (hvalid : ValidRow row) {leg : QuantityLeg}
    (hleg : leg ∈ bookedLegs row) {id : String} (hid : leg.attributedToLegId = some id) :
    ∃ primary ∈ bookedLegs row, primary.kind = .primary ∧ primary.legId = id := by
  rcases List.mem_filterMap.1 hleg with ⟨pair, _, hbooked⟩
  rcases of_bookedLeg hbooked with ⟨hasset, quantity, rfl⟩
  have hside : (pair.sideOf row).map primaryId = some id := (attributedTo_eq pair row).symm.trans hid
  rcases Option.map_eq_some_iff.1 hside with ⟨inward, hinward, rfl⟩
  have hpair : pair ∈ [.charge, .rebate] := by
    cases pair with
    | inbound => cases hinward
    | outbound => cases hinward
    | charge => decide
    | rebate => decide
  have hthere := sideKnown_of_valid hvalid hpair hasset hinward
  cases inward with
  | true =>
      rcases @exists_bookedLeg _ hvalid .inbound hthere with ⟨named, hnamed⟩
      exact ⟨_, List.mem_filterMap.2 ⟨.inbound, AmountPair.mem_all _, hnamed⟩, rfl, rfl⟩
  | false =>
      rcases @exists_bookedLeg _ hvalid .outbound hthere with ⟨named, hnamed⟩
      exact ⟨_, List.mem_filterMap.2 ⟨.outbound, AmountPair.mem_all _, hnamed⟩, rfl, rfl⟩

/-- A valid row with what the translator relies on is translated. -/
theorem exists_translation {env : KernelEnvironment}
    (hupper : ∀ text, isBlank text = false → isBlank (env.upper text) = false)
    {feedback : Feedback} (hsource : normalizedLocationPart env.lower feedback.source ≠ "")
    {row : StructuredRow} (hvalid : ValidRow row) (h : Translatable env.lower row) (index : Nat) :
    ∃ result fact, Translation env feedback row index (bookedLegs row) result fact := by
  rcases exists_receivedLeg hvalid (show AmountPair.inbound ∈ [.inbound, .rebate] by decide) with
    ⟨inbound, hinbound, hinboundAs⟩
  rcases @exists_paidLeg feedback index _ _ hvalid
    (show AmountPair.outbound ∈ [.outbound, .charge] by decide) h.amountOut with
    ⟨amountOut, outbound, hamountOut, houtbound, houtboundAs⟩
  rcases @exists_paidLeg feedback index _ _ hvalid
    (show AmountPair.charge ∈ [.outbound, .charge] by decide) h.chargeAmount with
    ⟨chargeAmount, charge, hchargeAmount, hcharge, hchargeAs⟩
  rcases exists_receivedLeg hvalid (show AmountPair.rebate ∈ [.inbound, .rebate] by decide) with
    ⟨rebate, hrebate, hrebateAs⟩
  have hlocation : ∃ location, locationIdFromParts env.lower
      [feedback.source, strip (row.cell .account), strip (row.cell .wallet)] = .ok location := by
    refine exists_locationId (List.cons_ne_nil _ _) ?_
    simp only [List.forall_mem_cons, row.stripped]
    exact ⟨hsource, h.account, h.wallet, fun part hpart => absurd hpart List.not_mem_nil⟩
  rcases hlocation with ⟨location, hlocation⟩
  rcases hvalid.timestamp with ⟨timestamp, htimestamp⟩
  rcases Option.isSome_iff_exists.1 h.category with ⟨semantics, hsemantics⟩
  have hclassification : classificationForCategory (row.cell .category) = .ok semantics := by
    rw [classificationForCategory, hsemantics]
  set legs := [inbound, outbound, charge, rebate].filterMap id with hlegs
  have hfound : ∀ {p : BuiltLeg → Prop}, (∀ built ∈ inbound, p built) → (∀ built ∈ outbound, p built) →
      (∀ built ∈ charge, p built) → (∀ built ∈ rebate, p built) → ∀ built ∈ legs, p built := by
    intro p hin hout hcharged hrebated built hbuilt
    rcases List.mem_filterMap.1 hbuilt with ⟨found, hfound, hsome⟩
    simp only [List.mem_cons, List.not_mem_nil, or_false] at hfound
    rcases hfound with rfl | rfl | rfl | rfl
    · exact hin built hsome
    · exact hout built hsome
    · exact hcharged built hsome
    · exact hrebated built hsome
  have hcomparable : legs.any (fun built => built.leg.quantity = .nan) = false := by
    rw [List.any_eq_false]
    intro built hbuilt hnan
    exact hfound hinboundAs.comparable houtboundAs.comparable hchargeAs.comparable
      hrebateAs.comparable built hbuilt (of_decide_eq_true hnan)
  have hshapes : List.Forall₂ HasShape (legs.map BuiltLeg.draft)
      (shapes (hasText row .assetIn) (hasText row .assetOut) (flagOf row .charge)
        (flagOf row .rebate)) := by
    have happend : legs = inbound.toList ++ outbound.toList ++ charge.toList ++ rebate.toList := by
      cases inbound <;> cases outbound <;> cases charge <;> cases rebate <;> rfl
    rw [happend, shapes_eq, List.map_append, List.map_append, List.map_append]
    exact List.rel_append (List.rel_append (List.rel_append hinboundAs.shape houtboundAs.shape)
      hchargeAs.shape) hrebateAs.shape
  have hpolicy : validateFact (shapes (hasText row .assetIn) (hasText row .assetOut)
      (flagOf row .charge) (flagOf row .rebate)) (policyForRow row) = .ok () := by
    rw [policyForRow_eq hvalid]
    refine validateFact_shapes ?_ (sideKnown_flagOf hvalid (by decide))
      (sideKnown_flagOf hvalid (by decide))
    rw [hasText_eq, hasText_eq, Bool.or_eq_true, decide_eq_true_eq, decide_eq_true_eq]
    exact hvalid.event
  rcases @exists_build_draft _ _
      { activityId := feedback.source ++ ":" ++ toString index
        source := feedback.source
        adapterId := feedback.adapterId
        locationId := location
        timestamp := timestamp
        classification := semantics
        legs := legs.map BuiltLeg.draft
        legPolicy := policyForRow row
        description := row.cell .description
        rawFile := transactionsFilename
        rawRowRef := toString index
        txHash := row.cell .txHash
        providerOperationKey := "structured_csv:" ++ row.cell .category } _ hlocation rfl rfl hshapes
    hpolicy with ⟨draft, hdraft, hval⟩
  have hresolved : Resolved env draft := by
    intro leg hleg
    rw [hval] at hleg
    rcases List.mem_map.1 hleg with ⟨built, hbuilt, rfl⟩
    rcases hfound hinboundAs.claims houtboundAs.claims hchargeAs.claims hrebateAs.claims built hbuilt with
      ⟨asset, hasset, hclaims⟩
    rw [hclaims]
    exact exists_resolved_symbol hupper hasset none
  rcases exists_fact_of_resolved hresolved with ⟨fact, hfact⟩
  refine ⟨⟨legs, draft, [amountOut.2, chargeAmount.2].filterMap id⟩, fact, ?_⟩
  constructor
  · refine bind_eq_ok_iff.2 ⟨_, hamountOut, bind_eq_ok_iff.2 ⟨_, hchargeAmount, bind_eq_ok_iff.2 ⟨_,
      hinbound, bind_eq_ok_iff.2 ⟨_, houtbound, bind_eq_ok_iff.2 ⟨_, hcharge, bind_eq_ok_iff.2 ⟨_,
        hrebate, bind_eq_ok_iff.2 ⟨_, hlocation, bind_eq_ok_iff.2 ⟨_, htimestamp, bind_eq_ok_iff.2 ⟨_,
          hclassification, ?_⟩⟩⟩⟩⟩⟩⟩⟩⟩
    rw [if_neg (by rw [← hlegs, hcomparable]; exact Bool.false_ne_true)]
    exact bind_eq_ok_iff.2 ⟨draft, hdraft, rfl⟩
  · exact hfact
  · rw [hval]
  · have hsatisfied := validateFact_of_compiled hfact rfl
    rw [hval] at hsatisfied
    exact hsatisfied
  · have hmapped : [inbound, outbound, charge, rebate].map (Option.map BuiltLeg.leg) =
        AmountPair.all.map (bookedLeg row) := by
      rw [List.map_cons, List.map_cons, List.map_cons, List.map_cons, hinboundAs.expected,
        houtboundAs.expected, hchargeAs.expected, hrebateAs.expected]
      rfl
    calc
      legs.map BuiltLeg.leg = ([inbound, outbound, charge, rebate].map (Option.map BuiltLeg.leg)).filterMap id := by
            rw [hlegs, List.map_filterMap, List.filterMap_map]
            rfl
      _ = bookedLegs row := by
            rw [hmapped, List.filterMap_map]
            rfl
  · rw [hval]
  · exact fun leg hleg id hid => attributed_of_valid hvalid hleg hid

/-- A NaN is not normalized. -/
lemma not_nan_of_normalized {feedback : Feedback} {index : Nat} {column : Column} {text : String}
    {amount : Option SpecialDecimal × Option NormalizationReviewRecord}
    (h : normalizeOutboundAmount feedback index column text = .ok amount) :
    SpecialDecimal.read text ≠ some .nan := by
  intro hnan
  rw [normalizeOutboundAmount, (SpecialDecimal.parse_eq_ok_special_iff rfl).2 hnan, bind_ok] at h
  cases h

/-- Everything that the translator relies on holds of the rows that it translates. -/
lemma translatable_of_translated {env : KernelEnvironment} {feedback : Feedback}
    {row : StructuredRow} {index : Nat} {result : TranslatedRow}
    (h : translateRow env feedback row index = .ok result) : Translatable env.lower row := by
  rcases bind_eq_ok_iff.1 h with ⟨_, hamountOut, h⟩
  rcases bind_eq_ok_iff.1 h with ⟨_, hchargeAmount, h⟩
  rcases bind_eq_ok_iff.1 h with ⟨_, _, h⟩
  rcases bind_eq_ok_iff.1 h with ⟨_, _, h⟩
  rcases bind_eq_ok_iff.1 h with ⟨_, _, h⟩
  rcases bind_eq_ok_iff.1 h with ⟨_, _, h⟩
  rcases bind_eq_ok_iff.1 h with ⟨_, hlocation, h⟩
  rcases bind_eq_ok_iff.1 h with ⟨_, _, h⟩
  rcases bind_eq_ok_iff.1 h with ⟨_, hclassification, _⟩
  rcases bind_eq_ok_iff.1 hlocation with ⟨_, _, hlocation⟩
  rcases bind_eq_ok_iff.1 hlocation with ⟨_, hparts, _⟩
  have hnamed : ∀ part ∈ [feedback.source, strip (row.cell .account), strip (row.cell .wallet)],
      normalizedLocationPart env.lower part ≠ "" := by
    intro part hpart hblank
    exact require_eq_ok_iff.1 hparts (List.mem_map.2 ⟨part, hpart, hblank⟩)
  constructor
  · unfold classificationForCategory at hclassification
    cases hlookup : classificationTable.lookup (row.cell .category) with
    | some semantics => rfl
    | none =>
        rw [hlookup] at hclassification
        cases hclassification
  · rw [← row.stripped .account]
    exact hnamed _ (by simp)
  · rw [← row.stripped .wallet]
    exact hnamed _ (by simp)
  · exact not_nan_of_normalized hamountOut
  · exact not_nan_of_normalized hchargeAmount

/-! ## Exact amounts -/

/-- What a pair of a valid row shows, and what is read of it. -/
lemma shown_of_valid {row : StructuredRow} (hvalid : ValidRow row) {pair : AmountPair}
    (hasset : row.cell pair.asset ≠ "") :
    ∃ shown amount, SpecialDecimal.read (row.cell pair.amount) = some shown ∧
      shown.quantize = .ok amount ∧ bookedLeg row pair = some (pairLeg row pair (pair.booked amount)) ∧
        expectedLeg row pair = some (pairLeg row pair (pair.signed shown)) := by
  rcases hvalid.amounts pair ((hvalid.pairs pair).1 hasset) with ⟨amount, hparse, _⟩
  rcases SpecialDecimal.read_of_parse hparse with ⟨shown, hshown, hquantized⟩
  rw [row.stripped] at hshown
  refine ⟨shown, amount, hshown, hquantized, ?_, ?_⟩
  · rw [bookedLeg, hparse]
    exact if_neg hasset
  · rw [expectedLeg, hshown]
    exact if_neg hasset

lemma booked_eq_signed_iff {pair : AmountPair} {shown amount : SpecialDecimal}
    (h : shown.quantize = .ok amount) :
    pair.booked amount = pair.signed shown ↔ ∀ d, shown = .finite d → d.InContext := by
  cases pair with
  | inbound => exact SpecialDecimal.quantize_eq_self_iff h
  | outbound => exact SpecialDecimal.negated_eq_iff h
  | charge => exact SpecialDecimal.negated_eq_iff h
  | rebate => exact SpecialDecimal.quantize_eq_self_iff h

/-- A pair that is not there shows no amount. -/
lemma read_of_blank {row : StructuredRow} (hvalid : ValidRow row) {pair : AmountPair}
    (hasset : row.cell pair.asset = "") :
    SpecialDecimal.read (row.cell pair.amount) = none ∧ bookedLeg row pair = expectedLeg row pair := by
  have hamount : row.cell pair.amount = "" := by
    by_contra hne
    exact (hvalid.pairs pair).2 hne hasset
  have hread : SpecialDecimal.read "" = none := by decide +kernel
  have hparse : SpecialDecimal.parse "" = .ok none := by decide +kernel
  rw [bookedLeg, expectedLeg, hamount, hread, hparse]
  exact ⟨rfl, rfl⟩

lemma legId_injective {pair other : AmountPair} (h : pair.legId = other.legId) : pair = other := by
  have hall : ∀ p ∈ AmountPair.all, ∀ q ∈ AmountPair.all, p.legId = q.legId → p = q := by decide
  exact hall pair pair.mem_all other other.mem_all h

/-- The legs of a valid row are the exact ones exactly where the context leaves its amounts alone. -/
theorem bookedLegs_eq_iff {row : StructuredRow} (hvalid : ValidRow row) :
    bookedLegs row = expectedLegs row ↔ AmountsExact row := by
  constructor
  · intro hsame pair d hread
    have hasset : row.cell pair.asset ≠ "" := by
      intro hblank
      rw [(read_of_blank hvalid hblank).1] at hread
      cases hread
    rcases shown_of_valid hvalid hasset with ⟨shown, amount, hshown, hquantized, hbooked, hexpected⟩
    have hmem : pairLeg row pair (pair.signed shown) ∈ bookedLegs row := by
      rw [hsame]
      exact List.mem_filterMap.2 ⟨pair, pair.mem_all, hexpected⟩
    rcases List.mem_filterMap.1 hmem with ⟨other, _, hother⟩
    -- The leg has the id of its pair.
    have hpair : pair = other := by
      rcases of_bookedLeg hother with ⟨_, quantity, hleg⟩
      exact legId_injective (congrArg QuantityLeg.legId hleg)
    subst hpair
    have hequal : pair.booked amount = pair.signed shown :=
      congrArg QuantityLeg.quantity (Option.some.inj (hbooked.symm.trans hother))
    exact (booked_eq_signed_iff hquantized).1 hequal d (Option.some.inj (hshown.symm.trans hread))
  · intro hexact
    have hleg : ∀ pair, bookedLeg row pair = expectedLeg row pair := by
      intro pair
      by_cases hasset : row.cell pair.asset = ""
      · exact (read_of_blank hvalid hasset).2
      · rcases shown_of_valid hvalid hasset with ⟨shown, amount, hshown, hquantized, hbooked, hexpected⟩
        have hequal : pair.booked amount = pair.signed shown :=
          (booked_eq_signed_iff hquantized).2 fun d hd => hexact pair d (hd ▸ hshown)
        rw [hbooked, hexpected, hequal]
    rw [bookedLegs, expectedLegs, funext hleg]

/-- A row that the validator accepts is translated to its amounts and compiled exactly where its
category is known, its account and wallet make parts of a location id, no amount that it pays is a NaN,
and the context leaves its amounts as they are. -/
theorem translation_complete_iff (env : KernelEnvironment)
    (hupper : ∀ text, isBlank text = false → isBlank (env.upper text) = false) (feedback : Feedback)
    (hsource : ∃ location, locationIdFromParts env.lower [feedback.source] = .ok location)
    (row : StructuredRow) (index : Nat) (hissue : validateRow env feedback row index = .ok none) :
    (∃ result fact, Translation env feedback row index (expectedLegs row) result fact) ↔
      Translatable env.lower row ∧ AmountsExact row := by
  have hnamed : normalizedLocationPart env.lower feedback.source ≠ "" := by
    rcases hsource with ⟨location, hlocation⟩
    rcases bind_eq_ok_iff.1 hlocation with ⟨_, _, hlocation⟩
    rcases bind_eq_ok_iff.1 hlocation with ⟨_, hparts, _⟩
    exact fun hblank => require_eq_ok_iff.1 hparts (by simp [hblank])
  have hvalid := validRow_of_none hissue
  constructor
  · rintro ⟨result, fact, htranslation⟩
    have htranslatable := translatable_of_translated htranslation.translated
    rcases exists_translation hupper hnamed hvalid htranslatable index with ⟨booked, _, hbooked⟩
    have hresult : result = booked :=
      Except.ok.inj (htranslation.translated.symm.trans hbooked.translated)
    subst hresult
    exact ⟨htranslatable, (bookedLegs_eq_iff hvalid).1 (hbooked.legs.symm.trans htranslation.legs)⟩
  · rintro ⟨htranslatable, hexact⟩
    rw [← (bookedLegs_eq_iff hvalid).2 hexact]
    exact exists_translation hupper hnamed hvalid htranslatable index

/-- A trade with a fee, under a category. -/
def feeRow (category : String) : StructuredRow := rowDict fun
  | .timestamp => "2023-08-06 10:00:00"
  | .category => category
  | .assetIn => "BTC"
  | .amountIn => "0.5"
  | .assetOut => "CAD"
  | .amountOut => "20000"
  | .chargeAsset => "CAD"
  | .chargeAmount => "12.5"
  | .chargeSide => "out"
  | .account => "main"
  | .wallet => "spot"
  | _ => ""

def feeFeedback : Feedback := ⟨"exchange", "structured_csv"⟩

/-- Upper and lower case of texts that have the case already. -/
def feeEnvironment : KernelEnvironment where
  sha256 := id
  subjectText _ := ""
  repr := id
  upper := id
  lower := id

theorem translation_complete_iff_fee :
    ∃ result fact, Translation feeEnvironment feeFeedback (feeRow "trade") 2
      (expectedLegs (feeRow "trade")) result fact := by
  refine (translation_complete_iff feeEnvironment (fun _ h => h) feeFeedback ?_ _ 2 ?_).2 ⟨?_, ?_⟩
  · exact ⟨"exchange", by decide +kernel⟩
  · decide +kernel
  · exact ⟨by decide +kernel, by decide +kernel, by decide +kernel, by decide +kernel,
      by decide +kernel⟩
  · have hall : ∀ pair ∈ AmountPair.all, (SpecialDecimal.read ((feeRow "trade").cell pair.amount)).all
        (fun value => match value with
          | .finite d => decide d.InContext
          | _ => true) = true := by
      decide +kernel
    intro pair d hread
    have hpair := hall pair pair.mem_all
    rw [hread] at hpair
    exact of_decide_eq_true hpair

/-- A row with a category that is not in the table passes validation, and is not translated. -/
theorem unknown_category_raises :
    ¬∀ (env : KernelEnvironment) (feedback : Feedback) (row : StructuredRow) (index : Nat),
      (∀ text, isBlank text = false → isBlank (env.upper text) = false) →
        (∃ location, locationIdFromParts env.lower [feedback.source] = .ok location) →
          validateRow env feedback row index = .ok none →
            ∃ result fact, Translation env feedback row index (expectedLegs row) result fact := by
  intro h
  rcases h feeEnvironment feeFeedback (feeRow "airdrop") 2 (fun _ h => h)
    ⟨"exchange", by decide +kernel⟩ (by decide +kernel) with ⟨result, fact, htranslation⟩
  have hcategory := (translatable_of_translated htranslation.translated).category
  exact absurd hcategory (by decide +kernel)

end StructuredCsv
end Tallylot
