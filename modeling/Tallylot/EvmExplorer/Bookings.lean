import Tallylot.EvmExplorer.Transfers

/-!
# Bookings — the drafts of an EVM explorer

A move at an owned address of a known network can always be booked: its location id is accepted, its
asset has a claim, and its one leg meets the policy of single moves.  Nothing but the shape of the
owned addresses, the known networks and what is relied on of the case maps is used.
-/

namespace Tallylot
namespace EvmExplorer

open Data Domain Normalization Transactions

/-! ## Addresses and networks -/

/-- What is relied on of `str.lower` and `str.upper`. -/
structure CaseMaps (env : KernelEnvironment) : Prop where
  lower : LowersAscii env.lower
  upperVisible : ∀ text, isBlank text = false → isBlank (env.upper text) = false
  upperEmpty : env.upper "" = ""

/-- An address as `_owned_addresses` writes it: a text that the pattern matches, in lower case. -/
def OwnedAddress (lower : String → String) (address : String) : Prop :=
  ∃ text, isEvmAddress text = true ∧ address = lower text

def networkScopes : List String := ["bsc", "polygon", "arbitrum", "ethereum"]

lemma networkScope_mem (lower : String → String) (source : String) :
    networkScope lower source ∈ networkScopes := by
  unfold networkScope
  dsimp only
  split_ifs
  all_goals decide

/-- A text of the characters of a part of a location id. -/
def IsPart (text : String) : Prop := isRun isGenericChar 1 none text.toList = true

namespace IsPart

variable {text : String}

lemma ne_empty (h : IsPart text) : text ≠ "" := by
  intro hempty
  have hne := (isRun_one_iff.1 h).2
  rw [hempty] at hne
  exact hne rfl

lemma isPathChar (h : IsPart text) : ∀ c ∈ text.toList, isPathChar c = true :=
  fun c hc => isPathChar_of_isGenericChar ((isRun_one_iff.1 h).1 c hc)

lemma strip_eq (h : IsPart text) : strip text = text := strip_path h.isPathChar

lemma lower_eq {env : KernelEnvironment} (hlower : LowersAscii env.lower) (h : IsPart text) :
    env.lower text = text := lower_path hlower h.isPathChar

lemma colon_notMem (h : IsPart text) : ':' ∉ text.toList := colon_notMem_of_isRun (by decide) h

end IsPart

lemma isPart_of_mem_networkScopes {scope : String} (h : scope ∈ networkScopes) : IsPart scope := by
  have hall : networkScopes.all (fun s => isRun isGenericChar 1 none s.toList) = true := by decide
  exact List.all_eq_true.1 hall scope h

lemma OwnedAddress.isPart {lower : String → String} (hlower : LowersAscii lower) {address : String}
    (h : OwnedAddress lower address) : IsPart address := by
  rcases h with ⟨text, hpattern, rfl⟩
  exact isRun_lower_address hlower hpattern

/-! ## Locations -/

/-- The location of an address on a network. -/
def evmLocation (scope address : String) : String := "evm:" ++ scope ++ ":" ++ address

section

variable {scope address : String} (hscope : IsPart scope) (haddress : IsPart address)

include hscope haddress

lemma locationIdFromIdentifier_evm {env : KernelEnvironment} (hlower : LowersAscii env.lower) :
    locationIdFromIdentifier env.lower "evm_address" address scope =
      .ok (evmLocation scope address) := by
  have hblank : strip scope ≠ "" := by
    rw [hscope.strip_eq]
    exact hscope.ne_empty
  refine bind_eq_ok_iff.2 ⟨(), require_eq_ok_iff.2 ⟨rfl, hblank⟩, ?_⟩
  rw [hscope.strip_eq, haddress.strip_eq, hscope.lower_eq hlower, haddress.lower_eq hlower]
  rfl

/-- The location ids of the adapter are generic, so that they are accepted unchanged. -/
lemma requireLocationId_evmLocation (label : String) :
    requireLocationId (evmLocation scope address) label = .ok (evmLocation scope address) := by
  apply requireLocationId_of_supported
  have hchars : (evmLocation scope address).toList =
      [':'].intercalate ["evm".toList, scope.toList, address.toList] := by
    simp [evmLocation, List.intercalate]
  have hsplit : (evmLocation scope address).toList.splitOn ':' =
      ["evm".toList, scope.toList, address.toList] := by
    rw [hchars]
    refine List.splitOn_intercalate ':' ?_ (List.cons_ne_nil _ _)
    simp only [List.forall_mem_cons]
    exact ⟨by decide, hscope.colon_notMem, haddress.colon_notMem, fun _ h => by cases h⟩
  rw [isSupportedLocationId_eq, hsplit, isSupportedParts_iff]
  refine .inl (List.all_eq_true.2 ?_)
  simp only [List.forall_mem_cons]
  exact ⟨by decide, hscope, haddress, fun _ h => by cases h⟩

end

/-! ## Drafts -/

/-- The draft has one leg, of the quantity at the address. -/
structure Books (scope : String) (place : RowPlace) (txHash : String) (timestamp : Instant)
    (address : String) (quantity : Decimal) (draft : EconomicActivityDraft) : Prop where
  legs : ∃ leg : EconomicLegDraft, draft.val.legs = [leg] ∧ leg.val.kind = .primary ∧
    leg.val.quantity = quantity ∧ leg.val.locationId = none
  locationId : draft.val.locationId = evmLocation scope address
  timestamp : draft.val.timestamp = timestamp
  txHash : draft.val.txHash = txHash
  rawFile : draft.val.rawFile = place.fileName
  rawRowRef : draft.val.rawRowRef = rowRef place.index

/-- A primary leg of one unit, for the checks of a fact. -/
def unitLeg (coeff : Int)
    (h : EconomicLegFields.postInit
      ⟨"primary", .primary, "draft:placeholder", Decimal.ofParts coeff 0, none, none, none⟩ =
        .ok ⟨"primary", .primary, "draft:placeholder", Decimal.ofParts coeff 0, none, none, none⟩) :
    Transactions.EconomicLeg :=
  ⟨_, _, h⟩

def receivedUnit : Transactions.EconomicLeg := unitLeg 1 rfl

def sentUnit : Transactions.EconomicLeg := unitLeg (-1) rfl

/-- A leg of any amount has the shape of one of the two legs of one unit, and either meets the
policy. -/
lemma exists_shape {leg : EconomicLegDraft} (hid : leg.val.legId = "primary")
    (hkind : leg.val.kind = .primary) (hattributed : leg.val.attributedToLegId = none) :
    ∃ unit, List.Forall₂ HasShape [leg] [unit] ∧
      validateFact [unit] singlePrimaryActivityPolicy = .ok () := by
  -- The checks read of a leg no more than its kind and its sign.
  by_cases hsign : 0 < leg.val.quantity.coeff
  · have hshape : HasShape leg receivedUnit :=
      ⟨hid, hkind, iff_of_true hsign (by decide), hattributed⟩
    exact ⟨receivedUnit, .cons hshape .nil, rfl⟩
  · have hshape : HasShape leg sentUnit :=
      ⟨hid, hkind, iff_of_false hsign (by decide), hattributed⟩
    exact ⟨sentUnit, .cons hshape .nil, rfl⟩

section

variable {env : EvmEnvironment} {ctx : EvmTranslationContext}
  (hcase : CaseMaps env.toKernelEnvironment) (hscope : ctx.networkScope ∈ networkScopes)

include hcase hscope

/-- A move of an amount at an owned address is booked. -/
theorem exists_bookTransfer (place : RowPlace) (txHash : String) (timestamp : Instant)
    {address : String} (howned : OwnedAddress env.lower address) {quantity : Decimal}
    (hquantity : quantity ≠ 0) {instrument : Except String InstrumentIdentityClaim}
    (hclaim : ∃ claim, instrument = .ok claim) (semantics : FactSemantics) :
    ∃ draft,
      bookTransfer env ctx place txHash timestamp address quantity instrument semantics = .ok draft ∧
        Books ctx.networkScope place txHash timestamp address quantity draft := by
  rcases hclaim with ⟨claim, rfl⟩
  have hpart := isPart_of_mem_networkScopes hscope
  have haddress := howned.isPart hcase.lower
  have hlocation := locationIdFromIdentifier_evm hpart haddress hcase.lower
  -- The draft is read through its context, so that the terms stay small.
  generalize hcontext : (⟨place.fileName, place.index, txHash, timestamp,
    evmLocation ctx.networkScope address, quantity, claim⟩ : EvmDraftContext) = context
  have hleg : ∃ leg, economicLegDraft.build (draftLeg context) = .ok leg ∧
      leg.val = draftLeg context := by
    have hprimary : isSnakeCase "primary" = true := by decide
    refine exists_build_leg (List.cons_ne_nil _ _) rfl (legValid_primary hprimary ?_)
    rw [← hcontext]
    exact hquantity
  rcases hleg with ⟨leg, hleg, hval⟩
  have hid : leg.val.legId = "primary" := congrArg EconomicLegDraftFields.legId hval
  have hkind : leg.val.kind = .primary := congrArg EconomicLegDraftFields.kind hval
  have hattributed : leg.val.attributedToLegId = none :=
    congrArg EconomicLegDraftFields.attributedToLegId hval
  have hplace : leg.val.locationId = none := congrArg EconomicLegDraftFields.locationId hval
  have hamount : leg.val.quantity = context.quantity :=
    congrArg EconomicLegDraftFields.quantity hval
  rcases exists_shape hid hkind hattributed with ⟨unit, hshapes, hvalid⟩
  have haccepted : ∀ label, requireLocationId
      (transferFields place.source context semantics leg).locationId label =
        .ok (transferFields place.source context semantics leg).locationId := by
    rw [← hcontext]
    exact requireLocationId_evmLocation hpart haddress
  have hdraft : ∃ draft,
      economicActivityDraft.build (transferFields place.source context semantics leg) = .ok draft ∧
        draft.val = transferFields place.source context semantics leg :=
    exists_build_draft_at haccepted rfl rfl hshapes hvalid
  rcases hdraft with ⟨draft, hdraft, hfields⟩
  refine ⟨draft, ?_, ?_⟩
  · refine bind_eq_ok_iff.2 ⟨_, hlocation, bind_eq_ok_iff.2 ⟨claim, rfl, ?_⟩⟩
    rw [hcontext]
    exact bind_eq_ok_iff.2 ⟨leg, hleg, hdraft⟩
  · subst hcontext
    constructor
    · exact ⟨leg, congrArg EconomicActivityDraftFields.legs hfields, hkind, hamount, hplace⟩
    · exact congrArg EconomicActivityDraftFields.locationId hfields
    · exact congrArg EconomicActivityDraftFields.timestamp hfields
    · exact congrArg EconomicActivityDraftFields.txHash hfields
    · exact congrArg EconomicActivityDraftFields.rawFile hfields
    · exact congrArg EconomicActivityDraftFields.rawRowRef hfields

/-! ## Claims -/

lemma exists_nativeClaim (displayName : String) : ∃ claim,
    evmNativeAssetClaim env.toKernelEnvironment ctx.networkScope displayName = .ok claim := by
  have hpart := isPart_of_mem_networkScopes hscope
  exact exists_evmNativeAssetClaim hcase.lower hpart.ne_empty hpart.isPathChar displayName

omit hscope in
/-- The symbol of a token, once it is not empty, is not blank. -/
lemma isBlank_symbol {row : CsvRow} {cells : TokenCells} (hcells : tokenCells env row = .ok cells)
    (hsymbol : cells.symbol ≠ "") : isBlank cells.symbol = false := by
  rcases bind_eq_ok_iff.1 hcells with ⟨amount, _, hval⟩
  have hupper : cells.symbol = env.upper (cell row "TokenSymbol") :=
    congrArg TokenCells.symbol (Except.ok.inj hval).symm
  rw [hupper] at hsymbol ⊢
  -- A blank cell would have an empty symbol, since nothing in upper case is nothing.
  apply hcase.upperVisible
  rw [Bool.eq_false_iff, ne_eq, isBlank_iff]
  intro hblank
  have hempty : cell row "TokenSymbol" = "" := (strip_strip _).symm.trans hblank
  exact hsymbol (hempty ▸ hcase.upperEmpty)

lemma exists_tokenClaim {row : CsvRow} {cells : TokenCells} (hcells : tokenCells env row = .ok cells)
    (hsymbol : cells.symbol ≠ "") : ∃ claim, tokenClaim env ctx cells = .ok claim := by
  have hpart := isPart_of_mem_networkScopes hscope
  by_cases hcontract : isEvmAddress cells.contractAddress = true
  · -- The contract was lower-cased before it was matched, so that its path is normalised.
    have hlowered : cells.contractAddress = env.lower (cell row "ContractAddress") := by
      rcases bind_eq_ok_iff.1 hcells with ⟨amount, _, hval⟩
      exact congrArg TokenCells.contractAddress (Except.ok.inj hval).symm
    have haddress : IsPart cells.contractAddress := by
      refine isRun_one_iff.2 ⟨fun c hc => ?_, ne_nil_of_isTaggedRun hcontract (by decide)⟩
      refine isGenericChar_of_isAddressChar (isAddressChar_of_mem hcontract c hc) ?_
      rw [hlowered] at hc
      exact hcase.lower.noUpper _ c hc
    rw [tokenClaim, if_pos hcontract]
    exact exists_evmErc20AssetClaim hcase.lower hpart.ne_empty hpart.isPathChar _ haddress.ne_empty
      haddress.isPathChar
  · rw [tokenClaim, if_neg hcontract]
    exact ⟨_, create_eq_ok_iff.2
      ⟨rfl, symbolScheme_valid, isBlank_symbol hcase hcells hsymbol, rfl⟩⟩

end

end EvmExplorer
end Tallylot
