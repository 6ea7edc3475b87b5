import Tallylot.Domain.IdentifierLocations
import Tallylot.Domain.Instruments

/-!
# AssetClaims — identity claims by asset path

An on-chain asset is claimed by its path, which names the network and, for a token, its contract.
Blank networks and contracts are refused; everything else makes a claim.
-/

namespace Tallylot
namespace Domain

open Data

variable (env : KernelEnvironment)

/-- `asset_claim` -/
def assetClaim (assetPath displayName : String) : Except String InstrumentIdentityClaim :=
  if env.lower (strip assetPath) = "" then .error "asset claim path must not be blank"
  else
    InstrumentIdentityClaim.create
      { scheme := "asset"
        value := env.lower (strip assetPath)
        venue := none
        kindHint := .crypto
        displayName := strip displayName
        precisionHint := none }

/-- `evm_native_asset_claim` -/
def evmNativeAssetClaim (network displayName : String) : Except String InstrumentIdentityClaim :=
  if env.lower (strip network) = "" then
    .error "evm native asset claim network must not be blank"
  else
    assetClaim env ("evm:" ++ env.lower (strip network) ++ ":native")
      (if displayName = "" then env.upper (env.lower (strip network)) else displayName)

/-- `evm_erc20_asset_claim` -/
def evmErc20AssetClaim (network contractAddress displayName : String) :
    Except String InstrumentIdentityClaim :=
  if env.lower (strip network) = "" then
    .error "evm erc20 asset claim network must not be blank"
  else if env.lower (strip contractAddress) = "" then
    .error "evm erc20 asset claim contract_address must not be blank"
  else
    assetClaim env
      ("evm:" ++ env.lower (strip network) ++ ":erc20:" ++ env.lower (strip contractAddress))
      (if displayName = "" then env.lower (strip contractAddress) else displayName)

/-! ## Paths -/

/-- `[a-z0-9_.:]` -/
def isPathChar (c : Char) : Bool := isGenericChar c || c = ':'

lemma isPathChar_of_isGenericChar {c : Char} (h : isGenericChar c = true) : isPathChar c = true := by
  rw [isPathChar, h, Bool.true_or]

/-- Path characters are visible characters of ASCII that lower-casing leaves. -/
lemma pathChar_facts {c : Char} (h : isPathChar c = true) :
    c.toNat < 128 ∧ c.toLower = c ∧ isSpaceChar c = false := by
  have hascii : c.toNat < 128 := by
    simp only [isPathChar, isGenericChar, isLower, Bool.or_eq_true, Bool.and_eq_true,
      decide_eq_true_eq] at h
    rcases h with (((h | h) | h) | h) | h
    · exact lt_of_le_of_lt h.2 (by decide)
    · rw [Char.isDigit, Bool.and_eq_true, decide_eq_true_eq, decide_eq_true_eq] at h
      have hmost : c.toNat ≤ 57 := h.2
      exact lt_of_le_of_lt hmost (by decide)
    · rw [h]
      decide
    · rw [h]
      decide
    · rw [h]
      decide
  have hall : ∀ n < 128, isPathChar (Char.ofNat n) = true →
      (Char.ofNat n).toLower = Char.ofNat n ∧ isSpaceChar (Char.ofNat n) = false := by
    decide +kernel
  have hc := hall c.toNat hascii
  rw [Char.ofNat_toNat] at hc
  exact ⟨hascii, hc h⟩

section

variable {env} (hlower : LowersAscii env.lower) {text : String}
  (htext : ∀ c ∈ text.toList, isPathChar c = true)

include htext

omit env in
lemma strip_path : strip text = text :=
  strip_eq_self (fun c hc => (pathChar_facts (htext c hc)).2.2)

include hlower

lemma lower_path : env.lower text = text := by
  have hsame : text.toList.map Char.toLower = text.toList.map id :=
    List.map_congr_left (fun c hc => (pathChar_facts (htext c hc)).2.1)
  rw [hlower.ascii text (fun c hc => (pathChar_facts (htext c hc)).1), hsame, List.map_id,
    String.ofList_toList]

/-- A path is normalised. -/
lemma lower_strip_path : env.lower (strip text) = text := by
  rw [strip_path htext, lower_path hlower htext]

lemma exists_assetClaim (displayName : String) (hne : text ≠ "") :
    ∃ claim, assetClaim env text displayName = .ok claim := by
  have hscheme : validIdentifierScheme "asset" = true := by decide +kernel
  have hvalue : isBlank text = false := by
    rw [Bool.eq_false_iff, ne_eq, isBlank_iff, strip_path htext]
    exact hne
  rw [assetClaim, lower_strip_path hlower htext, if_neg hne]
  exact ⟨_, create_eq_ok_iff.2 ⟨rfl, hscheme, hvalue, rfl⟩⟩

end

section

variable {env} (hlower : LowersAscii env.lower) {network : String} (hne : network ≠ "")
  (hnetwork : ∀ c ∈ network.toList, isPathChar c = true)

include hlower hne hnetwork

theorem exists_evmNativeAssetClaim (displayName : String) :
    ∃ claim, evmNativeAssetClaim env network displayName = .ok claim := by
  rw [evmNativeAssetClaim, lower_strip_path hlower hnetwork, if_neg hne]
  refine exists_assetClaim hlower ?_ _ (fun h => ?_)
  · simp only [String.toList_append, List.mem_append]
    rintro c ((hc | hc) | hc)
    · exact List.all_eq_true.1 (by decide : "evm:".toList.all isPathChar = true) c hc
    · exact hnetwork c hc
    · exact List.all_eq_true.1 (by decide : ":native".toList.all isPathChar = true) c hc
  · have hlength := congrArg String.length h
    simp at hlength

theorem exists_evmErc20AssetClaim {contractAddress : String} (displayName : String)
    (hcontract : contractAddress ≠ "")
    (haddress : ∀ c ∈ contractAddress.toList, isPathChar c = true) :
    ∃ claim, evmErc20AssetClaim env network contractAddress displayName = .ok claim := by
  rw [evmErc20AssetClaim, lower_strip_path hlower hnetwork, if_neg hne,
    lower_strip_path hlower haddress, if_neg hcontract]
  refine exists_assetClaim hlower ?_ _ (fun h => ?_)
  · simp only [String.toList_append, List.mem_append]
    rintro c (((hc | hc) | hc) | hc)
    · exact List.all_eq_true.1 (by decide : "evm:".toList.all isPathChar = true) c hc
    · exact hnetwork c hc
    · exact List.all_eq_true.1 (by decide : ":erc20:".toList.all isPathChar = true) c hc
    · exact haddress c hc
  · have hlength := congrArg String.length h
    simp at hlength

end

end Domain
end Tallylot
