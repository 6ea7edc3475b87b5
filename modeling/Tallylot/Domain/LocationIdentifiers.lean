import Tallylot.Data.Decoding

/-!
# LocationIdentifiers — supported location ids

A location id is a chain of parts between colons.  Either all parts are generic, or the first names
an on-chain namespace, the next are the identifier in that namespace, and the rest are a suffix.
-/

namespace Tallylot
namespace Domain

open Data

/-! ## Characters -/

def isLower (c : Char) : Bool := 97 ≤ c.toNat && c.toNat ≤ 122

def isUpper (c : Char) : Bool := 65 ≤ c.toNat && c.toNat ≤ 90

/-- `[a-z0-9_.]` -/
def isGenericChar (c : Char) : Bool := isLower c || c.isDigit || c = '_' || c = '.'

/-- `[a-z0-9_.-]` -/
def isNearChar (c : Char) : Bool := isGenericChar c || c = '-'

/-- `[a-z0-9_]` -/
def isSuffixChar (c : Char) : Bool := isLower c || c.isDigit || c = '_'

/-- `[a-fA-F0-9]` -/
def isHexChar (c : Char) : Bool :=
  c.isDigit || (97 ≤ c.toNat && c.toNat ≤ 102) || (65 ≤ c.toNat && c.toNat ≤ 70)

/-- `[1-9A-HJ-NP-Za-km-z]` -/
def isBase58Char (c : Char) : Bool :=
  (c.isDigit && c ≠ '0') || (isUpper c && c ≠ 'I' && c ≠ 'O') || (isLower c && c ≠ 'l')

/-- `[ac-hj-np-z02-9]` -/
def isBech32Char (c : Char) : Bool :=
  (c.isDigit && c ≠ '1') || (isLower c && c ≠ 'b' && c ≠ 'i' && c ≠ 'o')

/-! ## Patterns -/

/-- A run of between `least` and `most` characters of one kind. -/
def isRun (kind : Char → Bool) (least : Nat) (most : Option Nat) (cs : List Char) : Bool :=
  cs.all kind && least ≤ cs.length && most.all (fun m => cs.length ≤ m)

/-- A fixed text and then a run. -/
def isTaggedRun (tag : List Char) (kind : Char → Bool) (least : Nat) (most : Option Nat)
    (cs : List Char) : Bool :=
  tag.isPrefixOf cs && isRun kind least most (cs.drop tag.length)

def isSuffix (parts : List (List Char)) : Bool := parts.all (isRun isSuffixChar 1 none)

/-- `namespace:identifier` and a suffix. -/
def isNamespaced (name : String) (identifier : List Char → Bool) : List (List Char) → Bool
  | head :: id :: suffix => head = name.toList && identifier id && isSuffix suffix
  | _ => false

def isGenericLocationId (parts : List (List Char)) : Bool := parts.all (isRun isGenericChar 1 none)

def isNearLocationId : List (List Char) → Bool :=
  isNamespaced "near" (isRun isNearChar 6 (some 64))

/-- The network stands between the namespace and the address. -/
def isEvmLocationId : List (List Char) → Bool
  | head :: network :: address :: suffix =>
      head = "evm".toList && isRun isSuffixChar 1 none network &&
        isTaggedRun "0x".toList isHexChar 40 (some 40) address && isSuffix suffix
  | _ => false

def isBitcoinLocationId : List (List Char) → Bool :=
  isNamespaced "bitcoin" (fun id =>
    isTaggedRun "xpub".toList isBase58Char 1 none id ||
      isTaggedRun "bc1".toList isBech32Char 11 (some 71) id ||
        isTaggedRun "1".toList isBase58Char 25 (some 34) id ||
          isTaggedRun "3".toList isBase58Char 25 (some 34) id)

def isCardanoLocationId : List (List Char) → Bool :=
  isNamespaced "cardano" (isRun isHexChar 64 none)

def isSolanaLocationId : List (List Char) → Bool :=
  isNamespaced "solana" (isRun isBase58Char 32 (some 44))

def isTronLocationId : List (List Char) → Bool :=
  isNamespaced "tron" (isTaggedRun "T".toList isBase58Char 33 (some 33))

/-- `_is_supported_location_id` -/
def isSupportedLocationId (value : String) : Bool :=
  let parts := value.toList.splitOn ':'
  isGenericLocationId parts || isNearLocationId parts || isEvmLocationId parts ||
    isBitcoinLocationId parts || isCardanoLocationId parts || isSolanaLocationId parts ||
      isTronLocationId parts

/-- The prefixes of locations on a chain. -/
def onchainLocationPrefixes : List String :=
  ["evm:", "near:", "bitcoin:", "cardano:", "solana:", "tron:"]

def isOnchainLocationId (locationId : String) : Bool :=
  onchainLocationPrefixes.any (fun start => start.toList.isPrefixOf locationId.toList)

/-! ## The check -/

/-- `require_location_id` -/
def requireLocationId (value label : String) : Decoded String := do
  require (strip value ≠ "") (label ++ " must not be blank")
  require (isSupportedLocationId (strip value) = true)
    (label ++ " '" ++ strip value ++ "' is not a supported location id")
  return strip value

/-- A required location id is stripped and required to be itself. -/
theorem requireLocationId_settled {value label location : String}
    (h : requireLocationId value label = .ok location) :
    location = strip value ∧ location ≠ "" ∧ requireLocationId location label = .ok location := by
  simp only [requireLocationId, bind_eq_ok_iff, require_eq_ok_iff] at h
  rcases h with ⟨_, hblank, _, hsupported, hvalue⟩
  have hlocation : location = strip value := (Except.ok.inj hvalue).symm
  subst hlocation
  refine ⟨rfl, hblank, ?_⟩
  simp only [requireLocationId, strip_strip, bind_eq_ok_iff, require_eq_ok_iff]
  exact ⟨(), hblank, (), hsupported, rfl⟩

/-! ## Ids of parts -/

/-- Each run of characters that are not kept becomes one underscore; `inRun` says that the run of the
first character has begun. -/
def collapseRuns (keep : Char → Bool) : Bool → List Char → List Char
  | _, [] => []
  | inRun, c :: cs =>
      if keep c then c :: collapseRuns keep false cs
      else if inRun then collapseRuns keep true cs
      else '_' :: collapseRuns keep true cs

/-- `text.strip("_")` -/
def stripUnderscores (cs : List Char) : List Char :=
  (cs.dropWhile (fun c => c = '_')).rdropWhile (fun c => c = '_')

/-- `_normalized_location_part`; `lower` is `str.lower`. -/
def normalizedLocationPart (lower : String → String) (value : String) : String :=
  String.ofList (stripUnderscores (collapseRuns isGenericChar false (lower (strip value)).toList))

/-- `location_id_from_parts` -/
def locationIdFromParts (lower : String → String) (parts : List String) : Decoded String := do
  let normalizedParts := parts.map (normalizedLocationPart lower)
  require (normalizedParts ≠ []) "location_id parts must not be blank"
  require ("" ∉ normalizedParts) "location_id parts must not be blank"
  return String.intercalate ":" normalizedParts

lemma isGenericChar_of_mem_collapseRuns {inRun : Bool} {cs : List Char} {c : Char}
    (h : c ∈ collapseRuns isGenericChar inRun cs) : isGenericChar c = true := by
  induction cs generalizing inRun with
  | nil => cases h
  | cons x xs ih =>
      rw [collapseRuns] at h
      split_ifs at h with hx hrun
      · rcases List.mem_cons.1 h with rfl | h
        · exact hx
        · exact ih h
      · exact ih h
      · rcases List.mem_cons.1 h with rfl | h
        · decide
        · exact ih h

lemma isGenericChar_of_mem_part {lower : String → String} {value : String} {c : Char}
    (h : c ∈ (normalizedLocationPart lower value).toList) : isGenericChar c = true := by
  rw [normalizedLocationPart, String.toList_ofList, stripUnderscores] at h
  have hfront := (List.rdropWhile_prefix _ _).subset h
  exact isGenericChar_of_mem_collapseRuns ((List.dropWhile_suffix _).subset hfront)

lemma not_isSpaceChar_of_isGenericChar {c : Char} (h : isGenericChar c = true) :
    isSpaceChar c = false := by
  simp only [isGenericChar, isLower, Bool.or_eq_true, Bool.and_eq_true, decide_eq_true_eq] at h
  rcases h with ((⟨hleast, hmost⟩ | hdigit) | rfl) | rfl
  · exact not_isSpaceChar_of_visible (by omega) (by omega)
  · exact not_isSpaceChar_of_isDigit hdigit
  · decide
  · decide

lemma mem_intercalate {sep : Char} {c : Char} {parts : List (List Char)}
    (h : c ∈ [sep].intercalate parts) : c = sep ∨ ∃ part ∈ parts, c ∈ part := by
  induction parts with
  | nil => simp at h
  | cons part parts ih =>
      cases parts with
      | nil => exact Or.inr ⟨part, List.mem_cons_self, by simpa using h⟩
      | cons other parts =>
          rw [List.intercalate_cons_cons, List.mem_append, List.mem_append, List.mem_singleton] at h
          rcases h with (h | h) | h
          · exact Or.inr ⟨part, List.mem_cons_self, h⟩
          · exact Or.inl h
          · rcases ih h with hsep | ⟨name, hname, hc⟩
            · exact Or.inl hsep
            · exact Or.inr ⟨name, List.mem_cons_of_mem _ hname, hc⟩

/-- An id of parts is a supported location id. -/
theorem requireLocationId_of_parts {lower : String → String} {parts : List String}
    {location : String} (h : locationIdFromParts lower parts = .ok location) (label : String) :
    requireLocationId location label = .ok location := by
  simp only [locationIdFromParts, bind_eq_ok_iff, require_eq_ok_iff] at h
  rcases h with ⟨_, hne, _, hblank, hlocation⟩
  have hlocation := (Except.ok.inj hlocation).symm
  subst hlocation
  set names := parts.map (normalizedLocationPart lower) with hnames
  have hgeneric : ∀ cs ∈ names.map String.toList, ∀ c ∈ cs, isGenericChar c = true := by
    intro cs hcs c hc
    rcases List.mem_map.1 hcs with ⟨name, hname, rfl⟩
    rcases List.mem_map.1 hname with ⟨part, _, rfl⟩
    exact isGenericChar_of_mem_part hc
  have hchars : (":".intercalate names).toList = [':'].intercalate (names.map String.toList) := by
    simp
  have hsplit : (":".intercalate names).toList.splitOn ':' = names.map String.toList := by
    rw [hchars, List.splitOn_intercalate]
    · intro cs hcs hcolon
      have hcontra := hgeneric cs hcs ':' hcolon
      revert hcontra
      decide
    · simpa using hne
  have hstrip : strip (":".intercalate names) = ":".intercalate names := by
    apply strip_eq_self
    intro c hc
    rw [hchars] at hc
    rcases mem_intercalate hc with rfl | ⟨cs, hcs, hc⟩
    · decide
    · exact not_isSpaceChar_of_isGenericChar (hgeneric cs hcs c hc)
  have hgenericId : isGenericLocationId (names.map String.toList) = true := by
    rw [isGenericLocationId, List.all_eq_true]
    intro cs hcs
    have hlength : 1 ≤ cs.length := by
      rcases List.mem_map.1 hcs with ⟨name, hname, rfl⟩
      have hname' : name ≠ "" := fun h => hblank (h ▸ hname)
      exact List.length_pos_iff.2 (fun h => hname' (String.toList_eq_nil_iff.1 h))
    simp only [isRun, Option.all_none, Bool.and_true, Bool.and_eq_true, decide_eq_true_eq]
    exact ⟨List.all_eq_true.2 (hgeneric cs hcs), hlength⟩
  have hsupported : isSupportedLocationId (":".intercalate names) = true := by
    simp only [isSupportedLocationId, hsplit, hgenericId, Bool.true_or]
  have hnonblank : ":".intercalate names ≠ "" := by
    intro hempty
    rw [hempty] at hsplit
    cases hcase : names with
    | nil => exact hne hcase
    | cons name rest =>
        rw [hcase] at hsplit hblank
        have hname : [] = name.toList := (List.cons.inj hsplit).1
        exact hblank (List.mem_cons.2 (Or.inl (String.toList_eq_nil_iff.1 hname.symm).symm))
  simp only [requireLocationId, hstrip, bind_eq_ok_iff, require_eq_ok_iff]
  exact ⟨(), hnonblank, (), hsupported, rfl⟩

/-! ## Supported ids -/

/-- A printed character of ASCII. -/
def IsVisible (c : Char) : Prop := 33 ≤ c.toNat ∧ c.toNat ≤ 126

lemma isVisible_of_isDigit {c : Char} (h : c.isDigit = true) : IsVisible c := by
  simp only [Char.isDigit, Bool.and_eq_true, decide_eq_true_eq] at h
  have hleast : 48 ≤ c.toNat := h.1
  have hmost : c.toNat ≤ 57 := h.2
  exact ⟨by omega, by omega⟩

lemma isVisible_of_isLower {c : Char} (h : isLower c = true) : IsVisible c := by
  simp only [isLower, Bool.and_eq_true, decide_eq_true_eq] at h
  exact ⟨by omega, by omega⟩

lemma isVisible_of_isUpper {c : Char} (h : isUpper c = true) : IsVisible c := by
  simp only [isUpper, Bool.and_eq_true, decide_eq_true_eq] at h
  exact ⟨by omega, by omega⟩

lemma isVisible_of_isGenericChar {c : Char} (h : isGenericChar c = true) : IsVisible c := by
  simp only [isGenericChar, Bool.or_eq_true, decide_eq_true_eq] at h
  rcases h with ((hlower | hdigit) | rfl) | rfl
  · exact isVisible_of_isLower hlower
  · exact isVisible_of_isDigit hdigit
  · exact ⟨by decide, by decide⟩
  · exact ⟨by decide, by decide⟩

lemma isVisible_of_isNearChar {c : Char} (h : isNearChar c = true) : IsVisible c := by
  simp only [isNearChar, Bool.or_eq_true, decide_eq_true_eq] at h
  rcases h with hgeneric | rfl
  · exact isVisible_of_isGenericChar hgeneric
  · exact ⟨by decide, by decide⟩

lemma isVisible_of_isSuffixChar {c : Char} (h : isSuffixChar c = true) : IsVisible c := by
  refine isVisible_of_isGenericChar ?_
  simp only [isSuffixChar, isGenericChar, Bool.or_eq_true] at h ⊢
  exact Or.inl h

lemma isVisible_of_isHexChar {c : Char} (h : isHexChar c = true) : IsVisible c := by
  simp only [isHexChar, Bool.or_eq_true, Bool.and_eq_true, decide_eq_true_eq] at h
  rcases h with (hdigit | ⟨hleast, hmost⟩) | ⟨hleast, hmost⟩
  · exact isVisible_of_isDigit hdigit
  · exact ⟨by omega, by omega⟩
  · exact ⟨by omega, by omega⟩

lemma isVisible_of_isBase58Char {c : Char} (h : isBase58Char c = true) : IsVisible c := by
  simp only [isBase58Char, Bool.or_eq_true, Bool.and_eq_true] at h
  rcases h with (⟨hdigit, _⟩ | ⟨⟨hupper, _⟩, _⟩) | ⟨hlower, _⟩
  · exact isVisible_of_isDigit hdigit
  · exact isVisible_of_isUpper hupper
  · exact isVisible_of_isLower hlower

lemma isVisible_of_isBech32Char {c : Char} (h : isBech32Char c = true) : IsVisible c := by
  simp only [isBech32Char, Bool.or_eq_true, Bool.and_eq_true] at h
  rcases h with ⟨hdigit, _⟩ | ⟨⟨⟨hlower, _⟩, _⟩, _⟩
  · exact isVisible_of_isDigit hdigit
  · exact isVisible_of_isLower hlower

lemma visible_of_isRun {kind : Char → Bool} (hkind : ∀ c, kind c = true → IsVisible c) {least : Nat}
    {most : Option Nat} {cs : List Char} (h : isRun kind least most cs = true) :
    ∀ c ∈ cs, IsVisible c := by
  simp only [isRun, Bool.and_eq_true, List.all_eq_true] at h
  exact fun c hc => hkind c (h.1.1 c hc)

lemma visible_of_isTaggedRun {kind : Char → Bool} (hkind : ∀ c, kind c = true → IsVisible c)
    {tag : List Char} (htag : ∀ c ∈ tag, IsVisible c) {least : Nat} {most : Option Nat}
    {cs : List Char} (h : isTaggedRun tag kind least most cs = true) : ∀ c ∈ cs, IsVisible c := by
  simp only [isTaggedRun, Bool.and_eq_true, List.isPrefixOf_iff_prefix] at h
  rcases h with ⟨⟨rest, rfl⟩, hrun⟩
  rw [List.drop_left] at hrun
  intro c hc
  rcases List.mem_append.1 hc with hc | hc
  · exact htag c hc
  · exact visible_of_isRun hkind hrun c hc

lemma visible_of_isSuffix {parts : List (List Char)} (h : isSuffix parts = true) :
    ∀ part ∈ parts, ∀ c ∈ part, IsVisible c := by
  rw [isSuffix, List.all_eq_true] at h
  exact fun part hpart => visible_of_isRun (fun _ => isVisible_of_isSuffixChar) (h part hpart)

lemma visible_of_isNamespaced {name : String} (hname : ∀ c ∈ name.toList, IsVisible c)
    {identifier : List Char → Bool}
    (hid : ∀ cs, identifier cs = true → ∀ c ∈ cs, IsVisible c) {parts : List (List Char)}
    (h : isNamespaced name identifier parts = true) : ∀ part ∈ parts, ∀ c ∈ part, IsVisible c := by
  match parts, h with
  | head :: id :: suffix, h =>
      simp only [isNamespaced, Bool.and_eq_true, decide_eq_true_eq] at h
      rcases h with ⟨⟨rfl, hidentifier⟩, hsuffix⟩
      intro part hpart
      rcases List.mem_cons.1 hpart with rfl | hpart
      · exact hname
      · rcases List.mem_cons.1 hpart with rfl | hpart
        · exact hid _ hidentifier
        · exact visible_of_isSuffix hsuffix part hpart

/-- All parts of a supported location id are printed characters. -/
lemma visible_of_supported {value : String} (h : isSupportedLocationId value = true) :
    ∀ part ∈ value.toList.splitOn ':', ∀ c ∈ part, IsVisible c := by
  have hall : ∀ tag : List Char, tag.all (fun c => 33 ≤ c.toNat && c.toNat ≤ 126) = true →
      ∀ c ∈ tag, IsVisible c := by
    intro tag htag c hc
    have hc' := List.all_eq_true.1 htag c hc
    simpa only [IsVisible, Bool.and_eq_true, decide_eq_true_eq] using hc'
  have hbase58 : ∀ c, isBase58Char c = true → IsVisible c := fun _ => isVisible_of_isBase58Char
  simp only [isSupportedLocationId, Bool.or_eq_true] at h
  rcases h with (((((hgeneric | hnear) | hevm) | hbitcoin) | hcardano) | hsolana) | htron
  · rw [isGenericLocationId, List.all_eq_true] at hgeneric
    exact fun part hpart =>
      visible_of_isRun (fun _ => isVisible_of_isGenericChar) (hgeneric part hpart)
  · exact visible_of_isNamespaced (hall _ (by decide))
      (fun _ => visible_of_isRun (fun _ => isVisible_of_isNearChar)) hnear
  · unfold isEvmLocationId at hevm
    split at hevm
    · rename_i head network address suffix hparts
      rw [hparts]
      simp only [Bool.and_eq_true, decide_eq_true_eq] at hevm
      rcases hevm with ⟨⟨⟨rfl, hnetwork⟩, haddress⟩, hsuffix⟩
      intro part hpart
      rcases List.mem_cons.1 hpart with rfl | hpart
      · exact hall _ (by decide)
      · rcases List.mem_cons.1 hpart with rfl | hpart
        · exact visible_of_isRun (fun _ => isVisible_of_isSuffixChar) hnetwork
        · rcases List.mem_cons.1 hpart with rfl | hpart
          · exact visible_of_isTaggedRun (fun _ => isVisible_of_isHexChar) (hall _ (by decide))
              haddress
          · exact visible_of_isSuffix hsuffix part hpart
    · cases hevm
  · refine visible_of_isNamespaced (hall _ (by decide)) ?_ hbitcoin
    intro cs hcs
    simp only [Bool.or_eq_true] at hcs
    rcases hcs with ((hxpub | hbech32) | hone) | hthree
    · exact visible_of_isTaggedRun hbase58 (hall _ (by decide)) hxpub
    · exact visible_of_isTaggedRun (fun _ => isVisible_of_isBech32Char) (hall _ (by decide)) hbech32
    · exact visible_of_isTaggedRun hbase58 (hall _ (by decide)) hone
    · exact visible_of_isTaggedRun hbase58 (hall _ (by decide)) hthree
  · exact visible_of_isNamespaced (hall _ (by decide))
      (fun _ => visible_of_isRun (fun _ => isVisible_of_isHexChar)) hcardano
  · exact visible_of_isNamespaced (hall _ (by decide)) (fun _ => visible_of_isRun hbase58) hsolana
  · exact visible_of_isNamespaced (hall _ (by decide))
      (fun _ => visible_of_isTaggedRun hbase58 (hall _ (by decide))) htron

/-- A supported location id is required to be itself. -/
theorem requireLocationId_of_supported {value : String} (h : isSupportedLocationId value = true)
    (label : String) : requireLocationId value label = .ok value := by
  have hstrip : strip value = value := by
    apply strip_eq_self
    intro c hc
    rw [← @List.intercalate_splitOn _ value.toList _ _ ':'] at hc
    rcases mem_intercalate hc with rfl | ⟨part, hpart, hc⟩
    · decide
    · have hvisible := visible_of_supported h part hpart c hc
      exact not_isSpaceChar_of_visible hvisible.1 hvisible.2
  have hblank : value ≠ "" := by
    rintro rfl
    exact absurd h (by decide +kernel)
  simp only [requireLocationId, hstrip, bind_eq_ok_iff, require_eq_ok_iff]
  exact ⟨(), hblank, (), h, rfl⟩

end Domain
end Tallylot
