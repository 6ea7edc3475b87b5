import Tallylot.Balances.Targets
import Tallylot.Data.DecimalContext
import Tallylot.Data.Parts

/-!
# Snapshots — what a derived snapshot states

A snapshot adds up the legs of its location and instrument in the order of the facts, and the decimal
context rounds every addition, and raises where one overflows.  The sum is exact, and then the same for
every order of the facts, when no addition needs more digits than the context has
(`derived_snapshots`).
-/

namespace Tallylot
namespace Balances

open Data Domain

/-- The sum of the quantities that a target adds up, without rounding. -/
def exactBalance (facts : List TransactionFact) (t : BalanceTarget) : ℚ :=
  ((cutoffQuantities facts t).map Decimal.toRat).sum

section

variable {facts facts' : List TransactionFact} {t : BalanceTarget}

lemma cutoffQuantities_perm (h : facts'.Perm facts) :
    (cutoffQuantities facts' t).Perm (cutoffQuantities facts t) :=
  (h.filter _).flatMap_right _

lemma exactBalance_perm (h : facts'.Perm facts) : exactBalance facts' t = exactBalance facts t :=
  ((cutoffQuantities_perm h).map _).sum_eq

/-- Without rounding, the quantity of a snapshot is the exact sum. -/
lemma quantity_of_exactSums (h : Decimal.ExactSums 0 (cutoffQuantities facts t)) :
    (deriveBalanceSnapshot facts t).quantity.toRat = exactBalance facts t := by
  calc
    (deriveBalanceSnapshot facts t).quantity.toRat
        = Decimal.toRat 0 + ((cutoffQuantities facts t).map Decimal.toRat).sum :=
          Decimal.toRat_foldl_add _ 0 h
    _ = exactBalance facts t := by rw [Decimal.toRat_zero, zero_add, exactBalance]

/-- Quantities of few decimal places and of a small total magnitude. -/
structure SmallQuantities (places : Nat) (quantities : List Decimal) : Prop where
  few : ∀ q ∈ quantities, -(places : Int) ≤ q.exp
  total : (quantities.map (fun q => |q.toRat|)).sum * 10 ^ places < 10 ^ Decimal.precision

lemma SmallQuantities.perm {places : Nat} {quantities quantities' : List Decimal}
    (h : SmallQuantities places quantities) (hperm : quantities'.Perm quantities) :
    SmallQuantities places quantities' where
  few := fun q hq => h.few q (hperm.mem_iff.1 hq)
  total := by
    rw [(hperm.map _).sum_eq]
    exact h.total

lemma SmallQuantities.exactSums {places : Nat} {quantities : List Decimal}
    (h : SmallQuantities places quantities) : Decimal.ExactSums 0 quantities := by
  refine Decimal.exactSums_of_small quantities 0 ?_ h.few ?_
  · exact neg_nonpos.2 (Int.natCast_nonneg places)
  · rw [Decimal.toRat_zero, abs_zero, zero_add]
    exact h.total

/-- Small quantities are added up exactly in every order of the facts. -/
lemma quantity_of_small {places : Nat} (h : SmallQuantities places (cutoffQuantities facts t))
    (hperm : facts'.Perm facts) :
    (deriveBalanceSnapshot facts' t).quantity = (deriveBalanceSnapshot facts t).quantity := by
  apply Decimal.toRat_injective
  calc
    (deriveBalanceSnapshot facts' t).quantity.toRat = exactBalance facts' t :=
          quantity_of_exactSums (h.perm (cutoffQuantities_perm hperm)).exactSums
    _ = exactBalance facts t := exactBalance_perm hperm
    _ = (deriveBalanceSnapshot facts t).quantity.toRat :=
          (quantity_of_exactSums h.exactSums).symm

end

/-- A snapshot in the decimal context, in which the running total may overflow. -/
def contextSnapshot (facts : List TransactionFact) (t : BalanceTarget) : Decoded BalanceSnapshot := do
  let quantity ← Decimal.runningTotal 0 (cutoffQuantities facts t)
  return { deriveBalanceSnapshot facts t with quantity }

/-- `derive_balance_snapshots`, up to its issues. -/
def contextSnapshots (facts : List TransactionFact) (targets : List BalanceTarget) :
    Decoded (List BalanceSnapshot) :=
  targets.mapM (contextSnapshot facts)

def QuantitiesInContext (facts : List TransactionFact) : Prop :=
  ∀ fact ∈ facts, ∀ leg ∈ fact.legs, leg.quantity.InContext

/-- No running total of a target overflows. -/
def TotalBounded (facts : List TransactionFact) (t : BalanceTarget) : Prop :=
  Decimal.SumsBounded 0 (cutoffQuantities facts t)

lemma inContext_of_mem_cutoffQuantities {facts : List TransactionFact} {t : BalanceTarget}
    (h : QuantitiesInContext facts) {d : Decimal} (hd : d ∈ cutoffQuantities facts t) :
    d.InContext := by
  rcases List.mem_flatMap.1 hd with ⟨fact, hfact, hleg⟩
  rcases List.mem_map.1 hleg with ⟨leg, hmem, rfl⟩
  exact h fact (List.mem_of_mem_filter hfact) leg (List.mem_of_mem_filter hmem)

lemma contextSnapshot_of_bounded {facts : List TransactionFact} {t : BalanceTarget}
    (h : QuantitiesInContext facts) (hbounded : TotalBounded facts t) :
    contextSnapshot facts t = .ok (deriveBalanceSnapshot facts t) := by
  have htotal := Decimal.runningTotal_of_bounded (cutoffQuantities facts t) 0 (by decide)
    (fun d hd => inContext_of_mem_cutoffQuantities h hd) hbounded
  rw [contextSnapshot, htotal]
  rfl

lemma QuantitiesInContext.perm {facts facts' : List TransactionFact} (h : QuantitiesInContext facts)
    (hperm : facts'.Perm facts) : QuantitiesInContext facts' :=
  fun fact hfact => h fact (hperm.mem_iff.1 hfact)

/-- Small quantities do not overflow. -/
lemma SmallQuantities.totalBounded {places : Nat} {facts : List TransactionFact} {t : BalanceTarget}
    (h : SmallQuantities places (cutoffQuantities facts t)) (hcontext : QuantitiesInContext facts) :
    TotalBounded facts t := by
  refine Decimal.sumsBounded_of_exactSums _ 0 (by decide)
    (fun d hd => inContext_of_mem_cutoffQuantities hcontext hd) h.exactSums ?_
  rw [Decimal.toRat_zero, abs_zero, zero_add]
  have hnonneg : 0 ≤ ((cutoffQuantities facts t).map (fun q => |q.toRat|)).sum := by
    refine List.sum_nonneg (fun x hx => ?_)
    rcases List.mem_map.1 hx with ⟨d, _, rfl⟩
    exact abs_nonneg _
  exact (le_mul_of_one_le_right hnonneg (one_le_pow₀ (by norm_num))).trans_lt h.total

/-- Where no running total overflows, every target has one snapshot, of the running sum of its
quantities.  It is the exact sum where no addition is rounded, and the same for every order of the
facts where the quantities are small. -/
theorem derived_snapshots {facts : List TransactionFact} (hcontext : QuantitiesInContext facts)
    (targets : List BalanceTarget) :
    ((∀ t ∈ targets, TotalBounded facts t) → ∃ snapshots,
      contextSnapshots facts targets = .ok snapshots ∧
        snapshots.map BalanceSnapshot.target = targets ∧
          ∀ snapshot ∈ snapshots,
            snapshot.quantity =
                (cutoffQuantities facts snapshot.target).foldl (fun quantity d => quantity + d) 0 ∧
              (Decimal.ExactSums 0 (cutoffQuantities facts snapshot.target) →
                snapshot.quantity.toRat = exactBalance facts snapshot.target)) ∧
      ∀ t ∈ targets, ∀ places, SmallQuantities places (cutoffQuantities facts t) →
        ∃ snapshot, (∀ facts', facts'.Perm facts → contextSnapshot facts' t = .ok snapshot) ∧
          snapshot.quantity.toRat = exactBalance facts t := by
  constructor
  · intro hbounded
    refine ⟨targets.map (deriveBalanceSnapshot facts), ?_, ?_, ?_⟩
    · have hmap : (targets.map (fun t => t)).mapM (contextSnapshot facts) =
          .ok (targets.map (deriveBalanceSnapshot facts)) :=
        mapM_ok_map (fun t ht => contextSnapshot_of_bounded hcontext (hbounded t ht))
      rwa [List.map_id'] at hmap
    · rw [List.map_map]
      exact List.map_id targets
    · intro snapshot hsnapshot
      rcases List.mem_map.1 hsnapshot with ⟨t, _, rfl⟩
      exact ⟨rfl, quantity_of_exactSums⟩
  · intro t _ places hsmall
    refine ⟨deriveBalanceSnapshot facts t, fun facts' hperm => ?_, ?_⟩
    · have hcontext' := hcontext.perm hperm
      have hsmall' := hsmall.perm (cutoffQuantities_perm hperm)
      have hquantity := quantity_of_small hsmall hperm
      have hsame : deriveBalanceSnapshot facts' t = deriveBalanceSnapshot facts t :=
        congrArg (fun quantity => (⟨t, quantity, "fact_cutoff", ""⟩ : BalanceSnapshot)) hquantity
      rw [contextSnapshot_of_bounded hcontext' (hsmall'.totalBounded hcontext'), hsame]
    · exact quantity_of_exactSums hsmall.exactSums

/-! ## A large balance and a small one -/

def holdingTarget : BalanceTarget where
  source := "coinbase"
  locationId := "coinbase"
  instrumentId := "eth"
  balanceKind := "available"
  target := ⟨⟨2024, 12, 31, 0, 0, 0, 0, Instant.isDay_endOfYear⟩, .date, by decide⟩
  instrument_nonblank := by decide

def holdingFact (quantity : Decimal) : TransactionFact where
  source := "coinbase"
  timestamp := ⟨2024, 6, 1, 0, 0, 0, 0, by decide⟩
  locationId := "coinbase"
  legs := [⟨"eth", quantity, none, by decide⟩]

/-- Twenty billion come and go, and one unit of the eighteenth decimal place comes in between. -/
def holdingFacts : List TransactionFact :=
  [holdingFact ⟨2, 10, by decide⟩, holdingFact ⟨1, -18, by decide⟩, holdingFact ⟨-2, 10, by decide⟩]

/-- The small quantity is rounded away, and it is not in another order of the facts. -/
theorem holding_rounded_away :
    (deriveBalanceSnapshot holdingFacts holdingTarget).quantity.toRat ≠
        exactBalance holdingFacts holdingTarget ∧
      ∃ facts', facts'.Perm holdingFacts ∧
        (deriveBalanceSnapshot facts' holdingTarget).quantity ≠
          (deriveBalanceSnapshot holdingFacts holdingTarget).quantity := by
  have hquantity : (deriveBalanceSnapshot holdingFacts holdingTarget).quantity = 0 := by
    decide +kernel
  constructor
  · have hquantities : cutoffQuantities holdingFacts holdingTarget =
        [⟨2, 10, by decide⟩, ⟨1, -18, by decide⟩, ⟨-2, 10, by decide⟩] := by decide +kernel
    rw [hquantity, Decimal.toRat_zero, exactBalance, hquantities]
    norm_num [Decimal.toRat]
  · refine ⟨[holdingFact ⟨2, 10, by decide⟩, holdingFact ⟨-2, 10, by decide⟩,
      holdingFact ⟨1, -18, by decide⟩], (List.Perm.swap _ _ _).cons _, ?_⟩
    rw [hquantity]
    decide +kernel

/-- Half a unit, and one of the eighteenth decimal place. -/
def dustFacts : List TransactionFact := [holdingFact ⟨5, -1, by decide⟩, holdingFact ⟨1, -18, by decide⟩]

lemma cutoffQuantities_dust :
    cutoffQuantities dustFacts holdingTarget = [⟨5, -1, by decide⟩, ⟨1, -18, by decide⟩] := by
  decide +kernel

/-- The large holding has its snapshot, and the small one the same exact sum in either order. -/
theorem holdings_derived :
    (∃ snapshots, contextSnapshots holdingFacts [holdingTarget] = .ok snapshots ∧
        snapshots.map BalanceSnapshot.target = [holdingTarget]) ∧
      ∃ snapshot, contextSnapshot dustFacts.reverse holdingTarget = .ok snapshot ∧
        snapshot.quantity.toRat = 1 / 2 + 1 / 10 ^ 18 := by
  have hcontext : ∀ quantities : List Decimal, (∀ q ∈ quantities, q.InContext) →
      QuantitiesInContext (quantities.map holdingFact) := by
    intro quantities hquantities fact hfact leg hleg
    rcases List.mem_map.1 hfact with ⟨q, hq, rfl⟩
    rw [List.mem_singleton.1 hleg]
    exact hquantities q hq
  have hlarge := (derived_snapshots (hcontext
    [⟨2, 10, by decide⟩, ⟨1, -18, by decide⟩, ⟨-2, 10, by decide⟩] (by decide)) [holdingTarget]).1
  have hsmall := (derived_snapshots (hcontext [⟨5, -1, by decide⟩, ⟨1, -18, by decide⟩] (by decide))
    [holdingTarget]).2 holdingTarget (List.mem_singleton.2 rfl) 18
  constructor
  · have hbounded : TotalBounded holdingFacts holdingTarget := by
      have hquantities : cutoffQuantities holdingFacts holdingTarget =
          [⟨2, 10, by decide⟩, ⟨1, -18, by decide⟩, ⟨-2, 10, by decide⟩] := by decide +kernel
      rw [TotalBounded, hquantities]
      exact ⟨by decide, by decide, by decide, trivial⟩
    rcases hlarge (fun t ht => List.mem_singleton.1 ht ▸ hbounded) with ⟨snapshots, h, htargets, _⟩
    exact ⟨snapshots, h, htargets⟩
  · have hdust : SmallQuantities 18 (cutoffQuantities dustFacts holdingTarget) := by
      rw [cutoffQuantities_dust]
      exact ⟨by decide, by norm_num [Decimal.toRat, Decimal.precision]⟩
    rcases hsmall hdust with ⟨snapshot, horders, hexact⟩
    refine ⟨snapshot, horders _ (List.reverse_perm _), hexact.trans ?_⟩
    change exactBalance dustFacts holdingTarget = _
    rw [exactBalance, cutoffQuantities_dust]
    norm_num [Decimal.toRat]

end Balances
end Tallylot
