import Mathlib.Data.Char
import Tallylot.Data.Delimited
import Tallylot.Domain.LocationIdentifiers

/-!
# IdentifierLocations — location ids made from on-chain identifiers

The shape of an identifier decides its kind, and the kind the namespace of its location id.  An
identifier of a known kind is accepted again in its namespace.  A network scope and suffix labels are
free texts: the id is accepted exactly when the parts of the scope are generic and every label has
something to keep (`ClosedInputs`).
-/

namespace Tallylot
namespace Domain

open Data

/-! ## Identifiers -/

inductive IdentifierKind
  | btcXpub
  | evmAddress
  | tronAddress
  | btcAddress
  | solanaAddress
  | cardanoAccountKey
  | nearAccount
  | addressAlias
  | unknown
  deriving DecidableEq, Repr

namespace IdentifierKind

def value : IdentifierKind → String
  | btcXpub => "btc_xpub"
  | evmAddress => "evm_address"
  | tronAddress => "tron_address"
  | btcAddress => "btc_address"
  | solanaAddress => "solana_address"
  | cardanoAccountKey => "cardano_account_key"
  | nearAccount => "near_account"
  | addressAlias => "address_alias"
  | unknown => "unknown"

/-- The pattern of the identifiers of a kind. -/
def pattern : IdentifierKind → List Char → Bool
  | btcXpub => isTaggedRun "xpub".toList isBase58Char 1 none
  | evmAddress => isTaggedRun "0x".toList isHexChar 40 (some 40)
  | tronAddress => isTaggedRun "T".toList isBase58Char 33 (some 33)
  | btcAddress => fun cs =>
      isTaggedRun "bc1".toList isBech32Char 11 (some 71) cs ||
        isTaggedRun "1".toList isBase58Char 25 (some 34) cs ||
          isTaggedRun "3".toList isBase58Char 25 (some 34) cs
  | solanaAddress => isRun isBase58Char 32 (some 44)
  | cardanoAccountKey => isRun isHexChar 64 none
  | nearAccount => isRun isNearChar 6 (some 64)
  | addressAlias => fun _ => false
  | unknown => fun _ => false

/-- `_LOCATION_NAMESPACES` -/
def locationNamespace : IdentifierKind → Option String
  | btcXpub | btcAddress => some "bitcoin"
  | cardanoAccountKey => some "cardano"
  | nearAccount => some "near"
  | solanaAddress => some "solana"
  | tronAddress => some "tron"
  | evmAddress | addressAlias | unknown => none

end IdentifierKind

/-- The kinds in the order in which they are tried. -/
def triedKinds : List IdentifierKind :=
  [.btcXpub, .evmAddress, .tronAddress, .btcAddress, .solanaAddress, .cardanoAccountKey,
    .nearAccount]

def identifierKindForValue (identifierValue : String) : IdentifierKind :=
  (triedKinds.find? (fun kind => kind.pattern (strip identifierValue).toList)).getD .unknown

lemma pattern_of_kindForValue {value : String} (h : identifierKindForValue value ≠ .unknown) :
    (identifierKindForValue value).pattern (strip value).toList = true := by
  unfold identifierKindForValue at h ⊢
  cases hfound : triedKinds.find? (fun kind => kind.pattern (strip value).toList) with
  | none =>
      rw [hfound] at h
      exact absurd rfl h
  | some kind => simpa using List.find?_some hfound

/-! ## The builder -/

/-- `normalized_identifier` -/
def normalizedIdentifier (lower : String → String) (kind : IdentifierKind)
    (identifierValue : String) : String :=
  if kind ∈ [.evmAddress, .addressAlias] then lower (strip identifierValue)
  else strip identifierValue

/-- `[a-z0-9]` -/
def isSegmentChar (c : Char) : Bool := isLower c || c.isDigit

/-- `_normalized_location_segment` -/
def normalizedLocationSegment (lower : String → String) (value : String) : String :=
  String.ofList (stripUnderscores (collapseRuns isSegmentChar false (lower (strip value)).toList))

/-- The parts before the suffix. -/
def identifierParts (lower : String → String) (kind : IdentifierKind)
    (identifierValue networkScope : String) : Decoded (List String) :=
  if kind = .evmAddress then do
    require (lower (strip networkScope) ≠ "") "EVM location ids require a network scope"
    return ["evm", lower (strip networkScope), normalizedIdentifier lower kind identifierValue]
  else do
    let name ← requireSome kind.locationNamespace
      ("unsupported location identifier kind: " ++ kind.value)
    return [name, normalizedIdentifier lower kind identifierValue]

/-- `location_id_from_identifier` -/
def locationIdFromIdentifier (lower : String → String) (kind : IdentifierKind)
    (identifierValue networkScope : String) (suffix : List String) : Decoded String := do
  let parts ← identifierParts lower kind identifierValue networkScope
  let normalizedSuffix :=
    (suffix.filter (fun item => !isBlank item)).map (normalizedLocationSegment lower)
  return String.intercalate ":" (parts ++ normalizedSuffix)

/-! ## Segments -/

lemma mem_collapseRuns {keep : Char → Bool} {inRun : Bool} {cs : List Char} {c : Char}
    (h : c ∈ collapseRuns keep inRun cs) : c = '_' ∨ (c ∈ cs ∧ keep c = true) := by
  induction cs generalizing inRun with
  | nil => cases h
  | cons x xs ih =>
      have hrest : ∀ {run : Bool}, c ∈ collapseRuns keep run xs →
          c = '_' ∨ (c ∈ x :: xs ∧ keep c = true) := by
        intro run hrun
        exact (ih hrun).imp_right (fun hkept => ⟨List.mem_cons_of_mem _ hkept.1, hkept.2⟩)
      rw [collapseRuns] at h
      split_ifs at h with hx hrun
      · rcases List.mem_cons.1 h with rfl | h
        · exact .inr ⟨List.mem_cons_self, hx⟩
        · exact hrest h
      · exact hrest h
      · rcases List.mem_cons.1 h with rfl | h
        · exact .inl rfl
        · exact hrest h

lemma mem_collapseRuns_of_keep {keep : Char → Bool} {inRun : Bool} {cs : List Char} {c : Char}
    (h : c ∈ cs) (hkeep : keep c = true) : c ∈ collapseRuns keep inRun cs := by
  induction cs generalizing inRun with
  | nil => cases h
  | cons x xs ih =>
      rw [collapseRuns]
      rcases List.mem_cons.1 h with rfl | h
      · rw [if_pos hkeep]
        exact List.mem_cons_self
      · split_ifs
        · exact List.mem_cons_of_mem _ (ih h)
        · exact ih h
        · exact List.mem_cons_of_mem _ (ih h)

lemma stripUnderscores_eq_nil_iff {cs : List Char} :
    stripUnderscores cs = [] ↔ ∀ c ∈ cs, c = '_' := by
  have hidempotent : (cs.dropWhile (fun c => c = '_')).dropWhile (fun c => c = '_') =
      cs.dropWhile (fun c => c = '_') := List.dropWhile_idempotent ..
  rw [stripUnderscores, List.rdropWhile_eq_nil_iff, ← List.dropWhile_eq_nil_iff, hidempotent,
    List.dropWhile_eq_nil_iff]
  simp

/-- A label normalises to nothing when it has no letter and no digit. -/
lemma normalizedLocationSegment_ne_iff {lower : String → String} {value : String} :
    normalizedLocationSegment lower value ≠ "" ↔
      ∃ c ∈ (lower (strip value)).toList, isSegmentChar c = true := by
  rw [ne_eq, ← String.toList_eq_nil_iff, normalizedLocationSegment, String.toList_ofList,
    stripUnderscores_eq_nil_iff]
  constructor
  · intro h
    by_contra hnone
    refine h (fun c hc => (mem_collapseRuns hc).resolve_right ?_)
    exact fun hkept => hnone ⟨c, hkept⟩
  · rintro ⟨c, hc, hkeep⟩ hall
    rw [hall c (mem_collapseRuns_of_keep hc hkeep)] at hkeep
    revert hkeep
    decide

lemma isSuffixChar_of_mem_segment {lower : String → String} {value : String} {c : Char}
    (h : c ∈ (normalizedLocationSegment lower value).toList) : isSuffixChar c = true := by
  rw [normalizedLocationSegment, String.toList_ofList, stripUnderscores] at h
  have hfront := (List.dropWhile_suffix _).subset ((List.rdropWhile_prefix _ _).subset h)
  rcases mem_collapseRuns hfront with rfl | ⟨_, hkeep⟩
  · decide
  · unfold isSuffixChar
    rw [show (isLower c || c.isDigit) = true from hkeep]
    rfl

/-! ## Runs -/

lemma isRun_one_iff {kind : Char → Bool} {cs : List Char} :
    isRun kind 1 none cs = true ↔ (∀ c ∈ cs, kind c = true) ∧ cs ≠ [] := by
  simp [isRun, Nat.one_le_iff_ne_zero]

lemma isRun_mono {kind kind' : Char → Bool} {least : Nat} {most : Option Nat} {cs : List Char}
    (h : isRun kind least most cs = true) (hleast : 1 ≤ least)
    (hkind : ∀ c ∈ cs, kind c = true → kind' c = true) : isRun kind' 1 none cs = true := by
  simp only [isRun, Bool.and_eq_true, List.all_eq_true, decide_eq_true_eq] at h
  refine isRun_one_iff.2 ⟨fun c hc => hkind c hc (h.1.1 c hc), ?_⟩
  rintro rfl
  have hlength := h.1.2
  rw [List.length_nil] at hlength
  omega

lemma isGenericChar_of_isSuffixChar {c : Char} (h : isSuffixChar c = true) :
    isGenericChar c = true := by
  simp only [isSuffixChar, isGenericChar, Bool.or_eq_true] at h ⊢
  exact .inl h

lemma isGenericRun_of_isSuffixRun {cs : List Char} (h : isRun isSuffixChar 1 none cs = true) :
    isRun isGenericChar 1 none cs = true :=
  isRun_mono h (Nat.le_refl 1) (fun _ _ => isGenericChar_of_isSuffixChar)

lemma ne_nil_of_isRun {kind : Char → Bool} {least : Nat} {most : Option Nat} {cs : List Char}
    (h : isRun kind least most cs = true) (hleast : 1 ≤ least) : cs ≠ [] :=
  (isRun_one_iff.1 (isRun_mono h hleast (fun _ _ hc => hc))).2

lemma ne_nil_of_isTaggedRun {tag : List Char} {kind : Char → Bool} {least : Nat}
    {most : Option Nat} {cs : List Char} (h : isTaggedRun tag kind least most cs = true)
    (hleast : 1 ≤ least) : cs ≠ [] := by
  rintro rfl
  simp only [isTaggedRun, Bool.and_eq_true, List.drop_nil] at h
  exact ne_nil_of_isRun h.2 hleast rfl

/-! ## The parts of an id -/

lemma mem_intercalate_of_mem {sep c : Char} {xss : List (List Char)} {xs : List Char}
    (hxs : xs ∈ xss) (hc : c ∈ xs) : c ∈ [sep].intercalate xss := by
  induction xss with
  | nil => cases hxs
  | cons ys yss ih =>
      cases yss with
      | nil =>
          rw [List.mem_singleton.1 hxs] at hc
          simpa using hc
      | cons zs zss =>
          rw [List.intercalate_cons_cons, List.mem_append, List.mem_append]
          rcases List.mem_cons.1 hxs with rfl | hrest
          · exact .inl (.inl hc)
          · exact .inr (ih hrest)

lemma mem_of_mem_splitOn {sep c : Char} {xs part : List Char} (hpart : part ∈ xs.splitOn sep)
    (hc : c ∈ part) : c ∈ xs := by
  have hmem := @mem_intercalate_of_mem sep c _ _ hpart hc
  rwa [List.intercalate_splitOn] at hmem

/-- `_is_supported_location_id` of the parts. -/
def isSupportedParts (parts : List (List Char)) : Bool :=
  isGenericLocationId parts || isNearLocationId parts || isEvmLocationId parts ||
    isBitcoinLocationId parts || isCardanoLocationId parts || isSolanaLocationId parts ||
      isTronLocationId parts

lemma isSupportedLocationId_eq (value : String) :
    isSupportedLocationId value = isSupportedParts (value.toList.splitOn ':') := rfl

lemma requireLocationId_eq_self_iff {location label : String} :
    requireLocationId location label = .ok location ↔ isSupportedLocationId location = true := by
  constructor
  · intro h
    simp only [requireLocationId, bind_eq_ok_iff, require_eq_ok_iff] at h
    rcases h with ⟨_, _, _, hsupported, hself⟩
    rwa [Except.ok.inj hself] at hsupported
  · exact fun h => requireLocationId_of_supported h label

lemma isSuffix_ne_nil {parts : List (List Char)} (h : isSuffix parts = true) :
    ∀ part ∈ parts, part ≠ [] :=
  fun part hpart => ne_nil_of_isRun (List.all_eq_true.1 h part hpart) (Nat.le_refl 1)

lemma ne_nil_of_isNamespaced {name : String} (hname : name.toList ≠ [])
    {identifier : List Char → Bool} (hid : ∀ cs, identifier cs = true → cs ≠ [])
    {parts : List (List Char)} (h : isNamespaced name identifier parts = true) :
    ∀ part ∈ parts, part ≠ [] := by
  match parts, h with
  | head :: id :: suffix, h =>
      simp only [isNamespaced, Bool.and_eq_true, decide_eq_true_eq] at h
      rcases h with ⟨⟨rfl, hidentifier⟩, hsuffix⟩
      intro part hpart
      rcases List.mem_cons.1 hpart with rfl | hpart
      · exact hname
      · rcases List.mem_cons.1 hpart with rfl | hpart
        · exact hid _ hidentifier
        · exact isSuffix_ne_nil hsuffix part hpart

lemma isEvmLocationId_cons {head network address : List Char} {suffix : List (List Char)} :
    isEvmLocationId (head :: network :: address :: suffix) = true ↔
      head = "evm".toList ∧ isRun isSuffixChar 1 none network = true ∧
        isTaggedRun "0x".toList isHexChar 40 (some 40) address = true ∧
          isSuffix suffix = true := by
  simp only [isEvmLocationId, Bool.and_eq_true, decide_eq_true_eq, and_assoc]

lemma isSupportedParts_iff {parts : List (List Char)} :
    isSupportedParts parts = true ↔
      isGenericLocationId parts = true ∨ isNearLocationId parts = true ∨
        isEvmLocationId parts = true ∨ isBitcoinLocationId parts = true ∨
          isCardanoLocationId parts = true ∨ isSolanaLocationId parts = true ∨
            isTronLocationId parts = true := by
  simp only [isSupportedParts, Bool.or_eq_true, or_assoc]

/-- No part of a supported id is empty. -/
lemma ne_nil_of_supported {parts : List (List Char)} (h : isSupportedParts parts = true) :
    ∀ part ∈ parts, part ≠ [] := by
  rcases isSupportedParts_iff.1 h with h | h | h | h | h | h | h
  · intro part hpart
    exact ne_nil_of_isRun (List.all_eq_true.1 h part hpart) (Nat.le_refl 1)
  · exact ne_nil_of_isNamespaced (by decide) (fun _ hid => ne_nil_of_isRun hid (by decide)) h
  · match parts, h with
    | head :: network :: address :: suffix, h =>
        rcases isEvmLocationId_cons.1 h with ⟨rfl, hnetwork, haddress, hsuffix⟩
        simp only [List.forall_mem_cons]
        exact ⟨by decide, ne_nil_of_isRun hnetwork (Nat.le_refl 1),
          ne_nil_of_isTaggedRun haddress (by decide), isSuffix_ne_nil hsuffix⟩
  · refine ne_nil_of_isNamespaced (by decide) (fun id hid => ?_) h
    simp only [Bool.or_eq_true] at hid
    rcases hid with ((hid | hid) | hid) | hid
    all_goals exact ne_nil_of_isTaggedRun hid (by decide)
  · exact ne_nil_of_isNamespaced (by decide) (fun _ hid => ne_nil_of_isRun hid (by decide)) h
  · exact ne_nil_of_isNamespaced (by decide) (fun _ hid => ne_nil_of_isRun hid (by decide)) h
  · exact ne_nil_of_isNamespaced (by decide)
      (fun _ hid => ne_nil_of_isTaggedRun hid (by decide)) h

lemma isNamespaced_cons {name : String} {identifier : List Char → Bool} {id : List Char}
    {suffix : List (List Char)} (hid : identifier id = true) (hsuffix : isSuffix suffix = true) :
    isNamespaced name identifier (name.toList :: id :: suffix) = true := by
  simp [isNamespaced, hid, hsuffix]

/-- An identifier is accepted in the namespace of its kind. -/
lemma supported_of_pattern {kind : IdentifierKind} {name : String}
    (hname : kind.locationNamespace = some name) {id : List Char} (hid : kind.pattern id = true)
    {suffix : List (List Char)} (hsuffix : isSuffix suffix = true) :
    isSupportedParts (name.toList :: id :: suffix) = true := by
  rw [isSupportedParts_iff]
  cases kind with
  | btcXpub =>
      cases hname
      refine .inr (.inr (.inr (.inl (isNamespaced_cons ?_ hsuffix))))
      simp only [Bool.or_eq_true]
      exact .inl (.inl (.inl hid))
  | btcAddress =>
      cases hname
      simp only [IdentifierKind.pattern, Bool.or_eq_true] at hid
      refine .inr (.inr (.inr (.inl (isNamespaced_cons ?_ hsuffix))))
      simp only [Bool.or_eq_true]
      rcases hid with (hbech32 | hone) | hthree
      · exact .inl (.inl (.inr hbech32))
      · exact .inl (.inr hone)
      · exact .inr hthree
  | cardanoAccountKey =>
      cases hname
      exact .inr (.inr (.inr (.inr (.inl (isNamespaced_cons hid hsuffix)))))
  | nearAccount =>
      cases hname
      exact .inr (.inl (isNamespaced_cons hid hsuffix))
  | solanaAddress =>
      cases hname
      exact .inr (.inr (.inr (.inr (.inr (.inl (isNamespaced_cons hid hsuffix))))))
  | tronAddress =>
      cases hname
      exact .inr (.inr (.inr (.inr (.inr (.inr (isNamespaced_cons hid hsuffix))))))
  | evmAddress => cases hname
  | addressAlias => cases hname
  | unknown => cases hname

/-! ## Colons and capitals -/

lemma mem_of_isTaggedRun {tag : List Char} {kind : Char → Bool} {least : Nat} {most : Option Nat}
    {cs : List Char} (h : isTaggedRun tag kind least most cs = true) :
    ∀ c ∈ cs, c ∈ tag ∨ kind c = true := by
  simp only [isTaggedRun, Bool.and_eq_true, List.isPrefixOf_iff_prefix] at h
  rcases h with ⟨⟨rest, rfl⟩, hrun⟩
  rw [List.drop_left] at hrun
  simp only [isRun, Bool.and_eq_true, List.all_eq_true] at hrun
  intro c hc
  exact (List.mem_append.1 hc).imp_right (hrun.1.1 c)

lemma colon_notMem_of_isRun {kind : Char → Bool} (hkind : kind ':' = false) {least : Nat}
    {most : Option Nat} {cs : List Char} (h : isRun kind least most cs = true) : ':' ∉ cs := by
  simp only [isRun, Bool.and_eq_true, List.all_eq_true] at h
  intro hmem
  rw [h.1.1 _ hmem] at hkind
  cases hkind

lemma colon_notMem_of_isTaggedRun {tag : List Char} (htag : ':' ∉ tag) {kind : Char → Bool}
    (hkind : kind ':' = false) {least : Nat} {most : Option Nat} {cs : List Char}
    (h : isTaggedRun tag kind least most cs = true) : ':' ∉ cs := by
  intro hmem
  rcases mem_of_isTaggedRun h _ hmem with htagged | hcolon
  · exact htag htagged
  · rw [hcolon] at hkind
    cases hkind

lemma colon_notMem_of_pattern {kind : IdentifierKind} {id : List Char}
    (h : kind.pattern id = true) : ':' ∉ id := by
  cases kind with
  | btcXpub => exact colon_notMem_of_isTaggedRun (by decide) (by decide) h
  | evmAddress => exact colon_notMem_of_isTaggedRun (by decide) (by decide) h
  | tronAddress => exact colon_notMem_of_isTaggedRun (by decide) (by decide) h
  | btcAddress =>
      simp only [IdentifierKind.pattern, Bool.or_eq_true] at h
      rcases h with (h | h) | h
      all_goals exact colon_notMem_of_isTaggedRun (by decide) (by decide) h
  | solanaAddress => exact colon_notMem_of_isRun (by decide) h
  | cardanoAccountKey => exact colon_notMem_of_isRun (by decide) h
  | nearAccount => exact colon_notMem_of_isRun (by decide) h
  | addressAlias => cases h
  | unknown => cases h

lemma colon_notMem_namespace {kind : IdentifierKind} {name : String}
    (hname : kind.locationNamespace = some name) : ':' ∉ name.toList := by
  cases kind
  case evmAddress => cases hname
  case addressAlias => cases hname
  case unknown => cases hname
  all_goals
    cases hname
    decide

/-- What is relied on of `str.lower`: ASCII texts are lower-cased letter by letter, and no text keeps
a capital of ASCII. -/
structure LowersAscii (lower : String → String) : Prop where
  ascii : ∀ text, (∀ c ∈ text.toList, c.toNat < 128) →
    lower text = String.ofList (text.toList.map Char.toLower)
  noUpper : ∀ text, ∀ c ∈ (lower text).toList, isUpper c = false

/-- A character of an address, in any case. -/
def isAddressChar (c : Char) : Bool := c = '0' || c = 'x' || isHexChar c

lemma toNat_lt_of_isAddressChar {c : Char} (h : isAddressChar c = true) : c.toNat < 128 := by
  simp only [isAddressChar, Bool.or_eq_true, decide_eq_true_eq] at h
  rcases h with (rfl | rfl) | h
  · decide
  · decide
  · exact lt_of_le_of_lt (isVisible_of_isHexChar h).2 (by decide)

lemma isGenericChar_toLower {c : Char} (h : isAddressChar c = true) :
    isGenericChar c.toLower = true := by
  have hall : ∀ n < 128, isAddressChar (Char.ofNat n) = true →
      isGenericChar (Char.ofNat n).toLower = true := by decide +kernel
  have hc := hall c.toNat (toNat_lt_of_isAddressChar h)
  rw [Char.ofNat_toNat] at hc
  exact hc h

lemma isGenericChar_of_isAddressChar {c : Char} (h : isAddressChar c = true)
    (hupper : isUpper c = false) : isGenericChar c = true := by
  have hall : ∀ n < 128, isAddressChar (Char.ofNat n) = true → isUpper (Char.ofNat n) = false →
      isGenericChar (Char.ofNat n) = true := by decide +kernel
  have hc := hall c.toNat (toNat_lt_of_isAddressChar h)
  rw [Char.ofNat_toNat] at hc
  exact hc h hupper

lemma isAddressChar_of_mem {id : List Char}
    (h : isTaggedRun "0x".toList isHexChar 40 (some 40) id = true) :
    ∀ c ∈ id, isAddressChar c = true := by
  intro c hc
  rcases mem_of_isTaggedRun h c hc with htag | hhex
  · have hletter : c = '0' ∨ c = 'x' := by simpa using htag
    rcases hletter with rfl | rfl
    · rfl
    · rfl
  · rw [isAddressChar, hhex, Bool.or_true]

/-- A lower-cased address is generic. -/
lemma isRun_lower_address {lower : String → String} (hlower : LowersAscii lower) {value : String}
    (h : isTaggedRun "0x".toList isHexChar 40 (some 40) value.toList = true) :
    isRun isGenericChar 1 none (lower value).toList = true := by
  have haddress := isAddressChar_of_mem h
  rw [hlower.ascii value (fun c hc => toNat_lt_of_isAddressChar (haddress c hc)),
    String.toList_ofList, isRun_one_iff]
  refine ⟨?_, fun hnil => ne_nil_of_isTaggedRun h (by decide) (List.map_eq_nil_iff.1 hnil)⟩
  intro c hc
  rcases List.mem_map.1 hc with ⟨d, hd, rfl⟩
  exact isGenericChar_toLower (haddress d hd)

/-! ## Accepted ids -/

lemma isSuffix_iff {parts : List (List Char)}
    (hchars : ∀ part ∈ parts, ∀ c ∈ part, isSuffixChar c = true) :
    isSuffix parts = true ↔ ∀ part ∈ parts, part ≠ [] := by
  refine ⟨isSuffix_ne_nil, fun h => ?_⟩
  rw [isSuffix, List.all_eq_true]
  exact fun part hpart => isRun_one_iff.2 ⟨hchars part hpart, h part hpart⟩

lemma head_of_isNamespaced {name : String} {identifier : List Char → Bool} {head : List Char}
    {rest : List (List Char)} (h : isNamespaced name identifier (head :: rest) = true) :
    head = name.toList := by
  cases rest with
  | nil => cases h
  | cons id suffix =>
      simp only [isNamespaced, Bool.and_eq_true, decide_eq_true_eq] at h
      exact h.1.1

lemma generic_of_isEvmLocationId {scope : List (List Char)} (hscope : scope ≠ [])
    (hcase : ∀ part ∈ scope, ∀ c ∈ part, isUpper c = false) {rest : List (List Char)}
    (h : isEvmLocationId ("evm".toList :: (scope ++ rest)) = true) :
    ∀ part ∈ scope, isRun isGenericChar 1 none part = true := by
  cases scope with
  | nil => exact absurd rfl hscope
  | cons network others =>
      cases others with
      | nil =>
          cases rest with
          | nil => cases h
          | cons address suffix =>
              rw [List.singleton_append, isEvmLocationId_cons] at h
              intro part hpart
              rw [List.mem_singleton.1 hpart]
              exact isGenericRun_of_isSuffixRun h.2.1
      | cons address others =>
          -- the scope itself holds an address
          rw [List.cons_append, List.cons_append, isEvmLocationId_cons] at h
          rcases h with ⟨_, hnetwork, haddress, hsuffix⟩
          have hupper := hcase address (List.mem_cons_of_mem _ List.mem_cons_self)
          have hgeneric : isRun isGenericChar 1 none address = true :=
            isRun_one_iff.2 ⟨fun c hc => isGenericChar_of_isAddressChar
              (isAddressChar_of_mem haddress c hc) (hupper c hc),
              ne_nil_of_isTaggedRun haddress (by decide)⟩
          simp only [List.forall_mem_cons]
          refine ⟨isGenericRun_of_isSuffixRun hnetwork, hgeneric, ?_⟩
          intro part hpart
          exact isGenericRun_of_isSuffixRun
            (List.all_eq_true.1 hsuffix part (List.mem_append_left _ hpart))

/-- An id with an EVM address is accepted when its scope is generic and no label is empty. -/
lemma supported_evm_iff {scope suffix : List (List Char)} {address : List Char}
    (hscope : scope ≠ []) (hcase : ∀ part ∈ scope, ∀ c ∈ part, isUpper c = false)
    (haddress : isRun isGenericChar 1 none address = true)
    (hchars : ∀ part ∈ suffix, ∀ c ∈ part, isSuffixChar c = true) :
    isSupportedParts ("evm".toList :: (scope ++ address :: suffix)) = true ↔
      (∀ part ∈ scope, isRun isGenericChar 1 none part = true) ∧ ∀ part ∈ suffix, part ≠ [] := by
  constructor
  · intro h
    have hne := ne_nil_of_supported h
    refine ⟨?_, fun part hpart => hne part (by simp [hpart])⟩
    rcases isSupportedParts_iff.1 h with h | h | h | h | h | h | h
    · intro part hpart
      exact List.all_eq_true.1 h part (by simp [hpart])
    · exact absurd (head_of_isNamespaced h) (by decide)
    · exact generic_of_isEvmLocationId hscope hcase h
    · exact absurd (head_of_isNamespaced h) (by decide)
    · exact absurd (head_of_isNamespaced h) (by decide)
    · exact absurd (head_of_isNamespaced h) (by decide)
    · exact absurd (head_of_isNamespaced h) (by decide)
  · rintro ⟨hgeneric, hne⟩
    refine isSupportedParts_iff.2 (.inl ?_)
    rw [isGenericLocationId, List.all_eq_true]
    simp only [List.forall_mem_cons, List.forall_mem_append]
    refine ⟨by decide, hgeneric, haddress, fun part hpart => ?_⟩
    exact isGenericRun_of_isSuffixRun (isRun_one_iff.2 ⟨hchars part hpart, hne part hpart⟩)

lemma supported_namespaced_iff {kind : IdentifierKind} {name : String}
    (hname : kind.locationNamespace = some name) {id : List Char} (hid : kind.pattern id = true)
    {suffix : List (List Char)} (hchars : ∀ part ∈ suffix, ∀ c ∈ part, isSuffixChar c = true) :
    isSupportedParts (name.toList :: id :: suffix) = true ↔ ∀ part ∈ suffix, part ≠ [] := by
  constructor
  · exact fun h part hpart => ne_nil_of_supported h part (by simp [hpart])
  · exact fun h => supported_of_pattern hname hid ((isSuffix_iff hchars).2 h)

/-! ## Closed inputs -/

/-- The scope of an EVM address consists of generic parts, and every suffix label has a letter or a
digit to keep. -/
def ClosedInputs (lower : String → String) (identifierValue networkScope : String)
    (suffix : List String) : Prop :=
  (identifierKindForValue identifierValue = .evmAddress →
    ∀ part ∈ (lower (strip networkScope)).toList.splitOn ':',
      isRun isGenericChar 1 none part = true) ∧
  ∀ item ∈ suffix, isBlank item = false →
    ∃ c ∈ (lower (strip item)).toList, isSegmentChar c = true

/-- The segments of the labels that are not blank. -/
def suffixParts (lower : String → String) (suffix : List String) : List (List Char) :=
  ((suffix.filter (fun item => !isBlank item)).map (normalizedLocationSegment lower)).map
    String.toList

lemma isSuffixChar_of_mem_suffixParts {lower : String → String} {suffix : List String} :
    ∀ part ∈ suffixParts lower suffix, ∀ c ∈ part, isSuffixChar c = true := by
  intro part hpart c hc
  rcases List.mem_map.1 hpart with ⟨segment, hsegment, rfl⟩
  rcases List.mem_map.1 hsegment with ⟨item, _, rfl⟩
  exact isSuffixChar_of_mem_segment hc

lemma suffixParts_ne_nil_iff {lower : String → String} {suffix : List String} :
    (∀ part ∈ suffixParts lower suffix, part ≠ []) ↔
      ∀ item ∈ suffix, isBlank item = false →
        ∃ c ∈ (lower (strip item)).toList, isSegmentChar c = true := by
  simp only [suffixParts, List.forall_mem_map, List.mem_filter, Bool.not_eq_true', ne_eq,
    String.toList_eq_nil_iff, and_imp]
  exact forall₂_congr (fun item _ => imp_congr_right (fun _ => normalizedLocationSegment_ne_iff))

/-- The parts of an id: those of its texts before the suffix, and the segments of the suffix. -/
lemma splitOn_location {lower : String → String} {parts suffix : List String} (h : parts ≠ []) :
    (":".intercalate (parts ++
        (suffix.filter (fun item => !isBlank item)).map (normalizedLocationSegment lower))).toList.splitOn
      ':' =
      (parts.map String.toList).flatMap (fun part => part.splitOn ':') ++ suffixParts lower suffix := by
  have hsuffix : (suffixParts lower suffix).flatMap (fun part => part.splitOn ':') =
      suffixParts lower suffix := by
    rw [List.flatMap_congr (g := fun part => [part]), List.flatMap_singleton']
    intro part hpart
    refine List.splitOn_eq_singleton (fun hcolon => ?_)
    exact absurd (isSuffixChar_of_mem_suffixParts part hpart ':' hcolon) (by decide)
  have hchars : (":".intercalate (parts ++
      (suffix.filter (fun item => !isBlank item)).map (normalizedLocationSegment lower))).toList =
        [':'].intercalate (parts.map String.toList ++ suffixParts lower suffix) := by
    simp [suffixParts]
  rw [hchars, splitOn_intercalate_flatMap (by simp [h]), List.flatMap_append, hsuffix]

lemma identifierParts_evm {lower : String → String} {value scope : String} {parts : List String}
    (h : identifierParts lower .evmAddress value scope = .ok parts) :
    parts = ["evm", lower (strip scope), lower (strip value)] := by
  unfold identifierParts at h
  rw [if_pos rfl, bind_eq_ok_iff] at h
  rcases h with ⟨_, _, hparts⟩
  exact (Except.ok.inj hparts).symm

lemma identifierParts_other {lower : String → String} {kind : IdentifierKind} (hkind : kind ≠ .evmAddress)
    {value scope : String} {parts : List String}
    (h : identifierParts lower kind value scope = .ok parts) :
    ∃ name, kind.locationNamespace = some name ∧ parts = [name, strip value] := by
  unfold identifierParts at h
  rw [if_neg hkind, bind_eq_ok_iff] at h
  rcases h with ⟨name, hname, hparts⟩
  rw [requireSome_eq_ok_iff] at hname
  have hplain : normalizedIdentifier lower kind value = strip value := by
    unfold normalizedIdentifier
    rw [if_neg]
    rintro hmem
    cases kind <;> simp_all [IdentifierKind.locationNamespace]
  rw [hplain] at hparts
  exact ⟨name, hname, (Except.ok.inj hparts).symm⟩

section

variable {lower : String → String} (hlower : LowersAscii lower)

include hlower

lemma supported_iff_closedInputs {value scope : String} {suffix : List String} {location : String}
    (h : locationIdFromIdentifier lower (identifierKindForValue value) value scope suffix =
      .ok location) :
    isSupportedLocationId location = true ↔ ClosedInputs lower value scope suffix := by
  rw [locationIdFromIdentifier, bind_eq_ok_iff] at h
  rcases h with ⟨parts, hparts, hlocation⟩
  rw [← Except.ok.inj hlocation, isSupportedLocationId_eq, ClosedInputs, ← suffixParts_ne_nil_iff]
  by_cases hkind : identifierKindForValue value = .evmAddress
  · have hknown : identifierKindForValue value ≠ .unknown := by simp [hkind]
    have hpattern := pattern_of_kindForValue hknown
    rw [hkind] at hparts hpattern
    have haddress := isRun_lower_address hlower hpattern
    have hcolon : (lower (strip value)).toList.splitOn ':' = [(lower (strip value)).toList] :=
      List.splitOn_eq_singleton (colon_notMem_of_isRun (by decide) haddress)
    have hcase : ∀ part ∈ (lower (strip scope)).toList.splitOn ':', ∀ c ∈ part,
        isUpper c = false := by
      exact fun part hpart c hc => hlower.noUpper _ c (mem_of_mem_splitOn hpart hc)
    rw [identifierParts_evm hparts, splitOn_location (by simp)]
    simp only [List.map_cons, List.map_nil, List.flatMap_cons, List.flatMap_nil, hcolon,
      List.append_nil, List.append_assoc, List.singleton_append]
    have hevm : ("evm".toList).splitOn ':' = ["evm".toList] := by decide
    rw [hevm, List.singleton_append, supported_evm_iff (List.splitOn_ne_nil _ _) hcase haddress
      isSuffixChar_of_mem_suffixParts]
    exact and_congr_left (fun _ => ⟨fun h _ => h, fun h => h hkind⟩)
  · rcases identifierParts_other hkind hparts with ⟨name, hname, rfl⟩
    have hunknown : identifierKindForValue value ≠ .unknown := by
      intro hunknown
      rw [hunknown] at hname
      cases hname
    have hpattern := pattern_of_kindForValue hunknown
    have hcolon : (strip value).toList.splitOn ':' = [(strip value).toList] :=
      List.splitOn_eq_singleton (colon_notMem_of_pattern hpattern)
    have hnamespace : name.toList.splitOn ':' = [name.toList] :=
      List.splitOn_eq_singleton (colon_notMem_namespace hname)
    rw [splitOn_location (by simp)]
    simp only [List.map_cons, List.map_nil, List.flatMap_cons, List.flatMap_nil, hcolon,
      hnamespace, List.append_nil, List.cons_append, List.nil_append]
    rw [supported_namespaced_iff hname hpattern isSuffixChar_of_mem_suffixParts]
    exact ⟨fun h => ⟨fun h' => absurd h' hkind, h⟩, fun h => h.2⟩

/-- Ids of identifiers are accepted unchanged exactly for closed inputs, ids of parts always. -/
theorem location_ids_closed :
    (∀ value scope : String, ∀ suffix : List String, ∀ location label : String,
      locationIdFromIdentifier lower (identifierKindForValue value) value scope suffix =
        .ok location →
      (requireLocationId location label = .ok location ↔ ClosedInputs lower value scope suffix)) ∧
    (∀ parts : List String, ∀ location label : String,
      locationIdFromParts lower parts = .ok location →
      requireLocationId location label = .ok location) := by
  refine ⟨fun value scope suffix location label h => ?_, fun _ _ label h => ?_⟩
  · rw [requireLocationId_eq_self_iff]
    exact supported_iff_closedInputs hlower h
  · exact requireLocationId_of_parts h label

end

/-! ## A network with a hyphen -/

def lowerLetters (text : String) : String := String.ofList (text.toList.map Char.toLower)

lemma lowersAscii_lowerLetters : LowersAscii lowerLetters := by
  refine ⟨fun _ _ => rfl, fun text c hc => ?_⟩
  rw [lowerLetters, String.toList_ofList] at hc
  rcases List.mem_map.1 hc with ⟨d, _, rfl⟩
  unfold Char.toLower isUpper
  split_ifs with hupper
  · have hlow : 65 ≤ d.toNat := hupper.1
    have hhigh : d.toNat ≤ 90 := hupper.2
    simp
    omega
  · refine Bool.eq_false_iff.2 (fun hrange => hupper ?_)
    simp only [Bool.and_eq_true, decide_eq_true_eq] at hrange
    exact ⟨hrange.1, hrange.2⟩

def hotWallet : String := "0x52908400098527886E0F7030069857D2E4169EE7"

/-- The scope is kept as it is, and no location id has a hyphen in a network. -/
theorem location_ids_not_closed :
    ¬ ∀ lower : String → String, LowersAscii lower →
      ∀ value scope : String, ∀ suffix : List String, ∀ location label : String,
        locationIdFromIdentifier lower (identifierKindForValue value) value scope suffix =
          .ok location →
        requireLocationId location label = .ok location := by
  intro h
  have hclosed := h lowerLetters lowersAscii_lowerLetters hotWallet "arbitrum-one" []
    "evm:arbitrum-one:0x52908400098527886e0f7030069857d2e4169ee7" "location id"
    (by decide +kernel)
  revert hclosed
  decide +kernel

theorem location_ids_closed_wallet :
    ∃ location : String,
      locationIdFromIdentifier lowerLetters .evmAddress hotWallet "Arbitrum" ["hot wallet"] =
        .ok location ∧ requireLocationId location "location id" = .ok location := by
  have hkind : identifierKindForValue hotWallet = .evmAddress := by decide +kernel
  have hlocation : locationIdFromIdentifier lowerLetters (identifierKindForValue hotWallet) hotWallet
      "Arbitrum" ["hot wallet"] =
        .ok "evm:arbitrum:0x52908400098527886e0f7030069857d2e4169ee7:hot_wallet" := by
    decide +kernel
  refine ⟨_, hkind ▸ hlocation, ?_⟩
  refine ((location_ids_closed lowersAscii_lowerLetters).1 _ _ _ _ _ hlocation).2 ⟨?_, ?_⟩
  · intro _
    decide +kernel
  · intro item hitem _
    rw [List.mem_singleton.1 hitem]
    exact ⟨'h', by decide +kernel, by decide⟩

end Domain
end Tallylot
