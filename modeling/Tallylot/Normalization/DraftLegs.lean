import Tallylot.Normalization.CompatibilityFacts
import Tallylot.Normalization.Drafts

/-!
# DraftLegs — the legs that adapters write

Adapters name instruments by symbol claims and put a draft at a location made of parts.  What a draft
books is listed by `bookedLegs`: where, when, what and how much.
-/

namespace Tallylot
namespace Normalization

open Data Domain Transactions

/-- `symbol_claim`, before its constructor checks it. -/
def symbolClaim (value : String) (venue : Option String) : InstrumentIdentityClaim where
  scheme := "symbol"
  value := value
  venue := venue
  kindHint := .unknown
  displayName := ""
  precisionHint := none

/-- `economic_leg` of a symbol claim -/
def symbolLeg (legId : String) (kind : LegKind) (quantity : Decimal) (value : String)
    (venue : Option String) (subtype attributedToLegId : Option String := none) :
    Decoded EconomicLegDraft := do
  let claim ← raised (InstrumentIdentityClaim.create (symbolClaim value venue))
  economicLegDraft.build
    { legId := legId
      kind := kind
      instrumentIdentityClaims := [claim]
      quantity := quantity
      subtype := subtype
      attributedToLegId := attributedToLegId }

lemma raised_eq_ok_iff {α : Type} {x : Except String α} {a : α} : raised x = .ok a ↔ x = .ok a := by
  cases x with
  | ok b => rw [raised, Except.ok.injEq, Except.ok.injEq]
  | error message => exact iff_of_false (fun h => by cases h) (fun h => by cases h)

lemma val_of_build_leg {fields : EconomicLegDraftFields} {leg : EconomicLegDraft}
    (h : economicLegDraft.build fields = .ok leg) : leg.val = fields := by
  rcases bind_eq_ok_iff.1 (economicLegDraft.make_of_build h) with ⟨_, _, hval⟩
  exact (Except.ok.inj hval).symm

lemma val_of_symbolLeg {legId value : String} {kind : LegKind} {quantity : Decimal}
    {venue subtype attributedToLegId : Option String} {leg : EconomicLegDraft}
    (h : symbolLeg legId kind quantity value venue subtype attributedToLegId = .ok leg) :
    leg.val.legId = legId ∧ leg.val.kind = kind ∧ leg.val.quantity = quantity ∧
      leg.val.instrumentIdentityClaims = [symbolClaim value venue] ∧ leg.val.locationId = none := by
  rcases bind_eq_ok_iff.1 h with ⟨claim, hclaim, hleg⟩
  rw [(create_eq_ok_iff.1 (raised_eq_ok_iff.1 hclaim)).1] at hleg
  rw [val_of_build_leg hleg]
  exact ⟨rfl, rfl, rfl, rfl, rfl⟩

lemma symbolScheme_valid : validIdentifierScheme "symbol" = true := by decide +kernel

/-- A leg with claims is built if a leg of its shape is valid. -/
lemma exists_build_leg {fields : EconomicLegDraftFields} (hclaims : fields.instrumentIdentityClaims ≠ [])
    (hplace : fields.locationId = none) (hvalid : LegValid (fields.legOf "draft:placeholder")) :
    ∃ leg, economicLegDraft.build fields = .ok leg ∧ leg.val = fields := by
  have hbuilds : fields.validate = .ok () := by
    refine bind_eq_ok_iff.2 ⟨(), require_eq_ok_iff.2 hclaims, ?_⟩
    have hlocation : requireLegLocation (fields.legOf "draft:placeholder").locationId = .ok none := by
      rw [EconomicLegDraftFields.legOf, hplace]
      rfl
    have hmake : economicLeg.make (fields.legOf "draft:placeholder") = .ok _ :=
      (postInit_eq_ok_iff _ _).2 ⟨hvalid, none, hlocation, rfl⟩
    exact bind_eq_ok_iff.2 ⟨_, economicLeg.build_of_make hmake, rfl⟩
  exact ⟨⟨_, checkedConstructor_accepted.2 hbuilds⟩,
    economicLegDraft.build_of_make (bind_eq_ok_iff.2 ⟨(), hbuilds, rfl⟩), rfl⟩

lemma exists_symbolLeg {legId value : String} {kind : LegKind} {quantity : Decimal}
    {venue subtype attributedToLegId : Option String} (hvalue : isBlank value = false)
    (hvalid : LegValid ⟨legId, kind, "draft:placeholder", quantity, subtype, attributedToLegId, none⟩) :
    ∃ leg, symbolLeg legId kind quantity value venue subtype attributedToLegId = .ok leg ∧
      leg.val = ⟨legId, kind, [symbolClaim value venue], quantity, subtype, attributedToLegId, none⟩ := by
  have hclaim : InstrumentIdentityClaim.create (symbolClaim value venue) =
      .ok (symbolClaim value venue) := create_eq_ok_iff.2 ⟨rfl, symbolScheme_valid, hvalue, rfl⟩
  rcases @exists_build_leg
    ⟨legId, kind, [symbolClaim value venue], quantity, subtype, attributedToLegId, none⟩
    (List.cons_ne_nil _ _) rfl hvalid with ⟨leg, hleg, hval⟩
  refine ⟨leg, ?_, hval⟩
  rw [symbolLeg, hclaim]
  exact hleg

/-- Symbols resolve wherever upper case leaves something of them. -/
lemma exists_resolved_symbol {env : KernelEnvironment}
    (hupper : ∀ text, isBlank text = false → isBlank (env.upper text) = false) {value : String}
    (hvalue : isBlank value = false) (venue : Option String) : ∃ instrument,
      resolveInstrumentIdentity env [symbolClaim value venue] = .ok (some instrument) := by
  have hstripped : isBlank (strip value) = false := by
    rw [Bool.eq_false_iff, ne_eq, isBlank_iff] at hvalue ⊢
    rwa [strip_strip]
  have hscheme : validIdentifierScheme (strip "symbol") = true := by decide +kernel
  have hnormalized : ∃ normalized, normalizeClaim env (symbolClaim value venue) = .ok normalized := by
    refine ⟨_, create_eq_ok_iff.2 ⟨rfl, hscheme, ?_, rfl⟩⟩
    exact (congrArg isBlank (if_pos rfl)).trans (hupper _ hstripped)
  rcases hnormalized with ⟨normalized, hnormalized⟩
  exact ⟨_, resolve_claimedInstrument hnormalized rfl⟩

lemma placeholder_ne_blank : "draft:placeholder" ≠ "" := by decide

lemma legValid_primary {legId : String} {quantity : Decimal} (hid : isSnakeCase legId = true)
    (hquantity : quantity ≠ 0) :
    LegValid ⟨legId, .primary, "draft:placeholder", quantity, none, none, none⟩ where
  legId := hid
  instrument := placeholder_ne_blank
  quantity := hquantity
  primary := fun _ => rfl
  attributed := fun _ h => by cases h
  subtype := fun _ h => by cases h

lemma legValid_charge {legId subtype attributedToLegId : String} {quantity : Decimal}
    (hid : isSnakeCase legId = true) (hquantity : quantity ≠ 0)
    (hsubtype : isSnakeCase subtype = true) (hattributed : isSnakeCase attributedToLegId = true) :
    LegValid ⟨legId, .charge, "draft:placeholder", quantity, some subtype, some attributedToLegId,
      none⟩ where
  legId := hid
  instrument := placeholder_ne_blank
  quantity := hquantity
  primary := fun h => by cases h
  attributed := fun _ h => by
    cases h
    exact hattributed
  subtype := fun _ h => by
    cases h
    exact hsubtype

/-- A leg for the checks of a fact: they read no more of a leg than its shape. -/
structure HasShape (leg : EconomicLegDraft) (other : Transactions.EconomicLeg) : Prop where
  legId : leg.val.legId = other.val.legId
  kind : leg.val.kind = other.val.kind
  sign : 0 < leg.val.quantity.coeff ↔ 0 < other.val.quantity.coeff
  attributed : leg.val.attributedToLegId = other.val.attributedToLegId

lemma hasShape_iff {leg : EconomicLegDraft} {other : Transactions.EconomicLeg} :
    HasShape leg other ↔
      leg.val.legId = other.val.legId ∧ leg.val.kind = other.val.kind ∧
        (0 < leg.val.quantity.coeff ↔ 0 < other.val.quantity.coeff) ∧
          leg.val.attributedToLegId = other.val.attributedToLegId := by
  constructor
  · rintro ⟨hid, hkind, hsign, hattributed⟩
    exact ⟨hid, hkind, hsign, hattributed⟩
  · rintro ⟨hid, hkind, hsign, hattributed⟩
    exact ⟨hid, hkind, hsign, hattributed⟩

/-- The placeholder legs of a draft have the shapes of its legs. -/
lemma exists_placeholders {legs : List EconomicLegDraft} {others : List Transactions.EconomicLeg}
    (h : List.Forall₂ HasShape legs others) :
    ∃ built, legs.mapM (fun leg => economicLeg.build (leg.val.legOf "draft:placeholder")) = .ok built ∧
      List.Forall₂ SameShape others built := by
  induction h with
  | nil => exact ⟨[], rfl, List.Forall₂.nil⟩
  | @cons leg other legs others hshape _ ih =>
      rcases exists_leg leg placeholder_ne_blank with ⟨placeholder, hbuilt, _⟩
      rcases ih with ⟨built, hmapped, hshapes⟩
      rcases (postInit_eq_ok_iff _ _).1 (economicLeg.make_of_build hbuilt) with ⟨_, location, _, hfields⟩
      refine ⟨placeholder :: built, ?_, List.Forall₂.cons ?_ hshapes⟩
      · rw [List.mapM_cons, hbuilt, bind_ok, hmapped]
        rfl
      · constructor
        all_goals rw [hfields]
        exacts [hshape.legId.symm, hshape.kind.symm, hshape.sign.symm, hshape.attributed.symm]

/-- A draft at a supported location is built if legs of the shapes of its legs pass the checks of a
fact. -/
theorem exists_build_draft_at {fields : EconomicActivityDraftFields}
    {others : List Transactions.EconomicLeg}
    (hlocation : ∀ label, requireLocationId fields.locationId label = .ok fields.locationId)
    (heffective : fields.effectiveAt = none) (hprecision : fields.effectivePrecision = none)
    (hshapes : List.Forall₂ HasShape fields.legs others)
    (hvalid : validateFact others fields.legPolicy = .ok ()) :
    ∃ draft, economicActivityDraft.build fields = .ok draft ∧ draft.val = fields := by
  rcases exists_placeholders hshapes with ⟨built, hbuilt, hsame⟩
  have hlegs : fields.legs ≠ [] := by
    intro hnil
    rw [hnil] at hshapes
    cases hshapes
    cases hvalid
  have hdraft : requireDraftEffective fields.effectiveAt fields.effectivePrecision = .ok () := by
    rw [heffective, hprecision]
    rfl
  have hfact : requireEffective fields.effectiveAt fields.effectivePrecision = .ok () := by
    rw [heffective, hprecision]
    rfl
  have hmake : (fields.factOf built).postInit = .ok (fields.factOf built) :=
    (fact_postInit_eq_ok_iff _ _).2 ⟨fields.locationId, hlocation _, hfact,
      validateFact_congr (fun _ => Iff.rfl) hsame hvalid, rfl⟩
  have hvalidated : validatedTransactionFact fields =
      .ok ⟨fields.factOf built, _, hmake⟩ := by
    rw [validatedTransactionFact, hbuilt, bind_ok]
    exact transactionFact.build_of_make hmake
  have hpost : fields.postInit = .ok fields :=
    (draft_postInit_eq_ok_iff _ _).2 ⟨fields.locationId, hlocation _, hdraft, hlegs,
      ⟨_, hvalidated⟩, rfl⟩
  exact ⟨⟨fields, _, hpost⟩, economicActivityDraft.build_of_make hpost, rfl⟩

theorem exists_build_draft {lower : String → String} {parts : List String}
    {fields : EconomicActivityDraftFields} {others : List Transactions.EconomicLeg}
    (hlocation : locationIdFromParts lower parts = .ok fields.locationId)
    (heffective : fields.effectiveAt = none) (hprecision : fields.effectivePrecision = none)
    (hshapes : List.Forall₂ HasShape fields.legs others)
    (hvalid : validateFact others fields.legPolicy = .ok ()) :
    ∃ draft, economicActivityDraft.build fields = .ok draft ∧ draft.val = fields :=
  exists_build_draft_at (requireLocationId_of_parts hlocation) heffective hprecision hshapes hvalid

/-! ## What a draft books -/

/-- A quantity of an instrument at a place and a time. -/
structure BookedLeg where
  locationId : String
  timestamp : Instant
  instrument : List InstrumentIdentityClaim
  quantity : Decimal
  deriving DecidableEq

def bookedLegs (draft : EconomicActivityDraft) : List BookedLeg :=
  draft.val.legs.map (fun leg =>
    ⟨leg.val.locationId.getD draft.val.locationId, draft.val.timestamp,
      leg.val.instrumentIdentityClaims, leg.val.quantity⟩)

/-- A draft at a location that is made of parts keeps its fields. -/
lemma val_of_build_draft {lower : String → String} {parts : List String}
    {fields : EconomicActivityDraftFields} {draft : EconomicActivityDraft}
    (hlocation : locationIdFromParts lower parts = .ok fields.locationId)
    (h : economicActivityDraft.build fields = .ok draft) : draft.val = fields := by
  rcases (draft_postInit_eq_ok_iff _ _).1 (economicActivityDraft.make_of_build h) with
    ⟨location, hrequired, _, _, _, hval⟩
  rw [requireLocationId_of_parts hlocation] at hrequired
  rw [hval, ← Except.ok.inj hrequired]

end Normalization
end Tallylot
