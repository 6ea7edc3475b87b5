import Tallylot.Data.Delimited
import Tallylot.Data.Parts
import Tallylot.Domain.Instruments

/-!
# Instrument ids — what a resolved id tells of the claims

An id joins a scheme, a value and a venue with `:` and `@`.  The scheme holds no `:`, so it is read
back; the value may hold an `@`, and then an id may belong to two keys (`Collides`).  The order of
the claims shows in the display name only.
-/

namespace Tallylot
namespace Domain

open Data

/-! ## Normalized claims -/

/-- What normalizing a claim leaves. -/
structure Normalized (claim : InstrumentIdentityClaim) : Prop where
  scheme : validIdentifierScheme claim.scheme = true
  value : isBlank claim.value = false
  venue : claim.venue ≠ some ""
  displayName : strip claim.displayName = claim.displayName
  precision : ¬ claim.precisionHint.any (fun p => p < 0)

lemma strip_ne_empty {text : String} (h : isBlank text = false) : strip text ≠ "" := by
  rwa [ne_eq, ← isBlank_iff, Bool.not_eq_true]

section

variable {env : KernelEnvironment} (hlower : ∀ text, text ≠ "" → env.lower text ≠ "")

include hlower

lemma normalized_of_ok {claim normalized : InstrumentIdentityClaim}
    (h : normalizeClaim env claim = .ok normalized) : Normalized normalized := by
  unfold normalizeClaim at h
  rcases create_eq_ok_iff.1 h with ⟨rfl, hscheme, hvalue, hprecision⟩
  refine ⟨hscheme, hvalue, ?_, strip_strip _, by simpa using hprecision⟩
  cases hvenue : claim.venue with
  | none => simp
  | some venue =>
      dsimp only
      split_ifs with hblank
      · simp
      · have hne := hlower _ (strip_ne_empty (Bool.not_eq_true _ ▸ hblank))
        simpa using hne

lemma normalized_of_mapM {claims normalized : List InstrumentIdentityClaim}
    (h : claims.mapM (normalizeClaim env) = .ok normalized) :
    ∀ claim ∈ normalized, Normalized claim := by
  rcases mapM_ok_pairs h with ⟨pairs, _, rfl, hpairs⟩
  intro claim hclaim
  rcases List.mem_map.1 hclaim with ⟨p, hp, rfl⟩
  exact normalized_of_ok hlower (hpairs p hp)

end

/-! ## The text of a key -/

def keyText (key : String × String × String) : List Char :=
  key.1.toList ++ ':' :: (key.2.1.toList ++ optionalPart '@' key.2.2.toList)

lemma toList_instrumentIdText {claim : InstrumentIdentityClaim} (h : claim.venue ≠ some "") :
    (instrumentIdText claim).toList = keyText (claimKey claim) := by
  cases hvenue : claim.venue with
  | none => simp [instrumentIdText, keyText, claimKey, hvenue]
  | some venue =>
      have hne : venue.toList ≠ [] := by
        intro hnil
        exact h (hvenue.trans (congrArg some (String.toList_eq_nil_iff.1 hnil)))
      simp [instrumentIdText, keyText, claimKey, hvenue, optionalPart_of_ne_nil hne]

lemma colon_notMem_scheme {scheme : String} (h : validIdentifierScheme scheme = true) :
    ':' ∉ scheme.toList := by
  intro hmem
  unfold validIdentifierScheme at h
  cases hchars : scheme.toList with
  | nil => simp [hchars] at hmem
  | cons c cs =>
      rw [hchars] at hmem
      simp only [hchars, Bool.and_eq_true, List.all_eq_true] at h
      rcases List.mem_cons.1 hmem with rfl | hrest
      · exact absurd h.1 (by decide)
      · exact absurd (h.2 _ hrest) (by decide)

/-- The value of `key` holds, after an `@`, the start of the venue of `key'`. -/
def Collides (key key' : String × String × String) : Prop :=
  key.1 = key'.1 ∧
    Absorbs '@' key.2.1.toList key.2.2.toList key'.2.1.toList key'.2.2.toList

lemma Collides.ne {key key' : String × String × String} (h : Collides key key') : key ≠ key' := by
  rintro rfl
  exact h.2.ne rfl

lemma keyText_eq_iff {key key' : String × String × String}
    (hscheme : validIdentifierScheme key.1 = true) (hscheme' : validIdentifierScheme key'.1 = true) :
    keyText key = keyText key' ↔ key = key' ∨ Collides key key' ∨ Collides key' key := by
  rcases key with ⟨scheme, value, venue⟩
  rcases key' with ⟨scheme', value', venue'⟩
  unfold keyText Collides
  rw [append_sep_inj (colon_notMem_scheme hscheme) (colon_notMem_scheme hscheme'),
    append_optionalPart_eq_iff, String.toList_inj, String.toList_inj, String.toList_inj]
  dsimp only
  rw [Prod.mk.injEq, Prod.mk.injEq, @eq_comm _ scheme' scheme]
  tauto

lemma instrumentIdText_eq_iff {claim claim' : InstrumentIdentityClaim} (h : Normalized claim)
    (h' : Normalized claim') :
    instrumentIdText claim = instrumentIdText claim' ↔
      claimKey claim = claimKey claim' ∨ Collides (claimKey claim) (claimKey claim') ∨
        Collides (claimKey claim') (claimKey claim) := by
  rw [← String.toList_inj, toList_instrumentIdText h.venue, toList_instrumentIdText h'.venue]
  exact keyText_eq_iff h.scheme h'.scheme

/-! ## The resolved record -/

def hintedKinds (claims : List InstrumentIdentityClaim) : List InstrumentKind :=
  ((claims.map InstrumentIdentityClaim.kindHint).filter (fun kind => kind ≠ .unknown)).dedup

def hintedPrecisions (claims : List InstrumentIdentityClaim) : List Int :=
  (claims.filterMap InstrumentIdentityClaim.precisionHint).dedup

/-- The normalized claims are about one instrument. -/
def Agree (claims : List InstrumentIdentityClaim) : Prop :=
  (claims.map claimKey).dedup.length = 1 ∧ (hintedKinds claims).length ≤ 1 ∧
    (hintedPrecisions claims).length ≤ 1

instance (claims : List InstrumentIdentityClaim) : Decidable (Agree claims) :=
  inferInstanceAs (Decidable (_ ∧ _ ∧ _))

def agreedRecord (claims : List InstrumentIdentityClaim) (representative : InstrumentIdentityClaim) :
    InstrumentRecord where
  instrumentId := instrumentIdText representative
  kind := (hintedKinds claims).head?.getD .unknown
  displayName :=
    ((claims.map InstrumentIdentityClaim.displayName).find?
      (fun name => name ≠ "")).getD representative.value
  precision := (hintedPrecisions claims).head?

lemma create_agreedRecord {claims : List InstrumentIdentityClaim}
    {representative : InstrumentIdentityClaim} (hall : ∀ claim ∈ claims, Normalized claim)
    (hmem : representative ∈ claims) :
    InstrumentRecord.create (agreedRecord claims representative) =
      .ok (agreedRecord claims representative) := by
  have hname : ¬ isBlank (agreedRecord claims representative).displayName := by
    unfold agreedRecord
    dsimp only
    cases hfound : (claims.map InstrumentIdentityClaim.displayName).find? (fun name => name ≠ "") with
    | none => exact Bool.eq_false_iff.1 (hall _ hmem).value
    | some name =>
        rcases List.mem_map.1 (List.mem_of_find?_eq_some hfound) with ⟨claim, hclaim, rfl⟩
        rw [Option.getD_some, isBlank_iff, (hall claim hclaim).displayName]
        simpa using List.find?_some hfound
  have hprecision : ¬ (agreedRecord claims representative).precision.any (fun p => p < 0) := by
    unfold agreedRecord
    dsimp only
    cases hhead : (hintedPrecisions claims).head? with
    | none => simp
    | some p =>
        have hp := List.mem_dedup.1 (List.mem_of_mem_head? hhead)
        rcases List.mem_filterMap.1 hp with ⟨claim, hclaim, hhint⟩
        have hnonneg := (hall claim hclaim).precision
        rwa [hhint] at hnonneg
  have hid : ¬ (agreedRecord claims representative).instrumentId = "" :=
    instrumentIdText_ne_blank representative
  unfold InstrumentRecord.create
  rw [if_neg hid, if_neg hname, if_neg hprecision]

/-- What claims resolve to, once they are normalized. -/
theorem resolve_eq {env : KernelEnvironment} {claims normalized : List InstrumentIdentityClaim}
    (h : claims.mapM (normalizeClaim env) = .ok normalized)
    (hall : ∀ claim ∈ normalized, Normalized claim) :
    resolveInstrumentIdentity env claims =
      .ok (if Agree normalized then normalized.head?.map (agreedRecord normalized) else none) := by
  unfold resolveInstrumentIdentity
  rw [h]
  dsimp only [bind, Except.bind]
  by_cases hagree : Agree normalized
  · have hlengths := hagree
    unfold Agree hintedKinds hintedPrecisions at hlengths
    rw [if_pos hagree, if_neg (not_not.2 hlengths.1), if_neg (Nat.not_lt.2 hlengths.2.1),
      if_neg (Nat.not_lt.2 hlengths.2.2)]
    cases normalized with
    | nil => cases hagree.1
    | cons representative rest =>
        have hcreate := create_agreedRecord hall List.mem_cons_self
        unfold agreedRecord hintedKinds hintedPrecisions at hcreate
        dsimp only
        rw [hcreate]
        rfl
  · rw [if_neg hagree]
    split_ifs with hkeys hkinds hprecisions
    · rfl
    · rfl
    · rfl
    · exact absurd ⟨not_not.1 hkeys, Nat.not_lt.1 hkinds, Nat.not_lt.1 hprecisions⟩ hagree

/-! ## The order of the claims -/

/-- The fields of a resolved instrument that its claims decide. -/
def resolvedFields (record : InstrumentRecord) : String × InstrumentKind × Option Int :=
  (record.instrumentId, record.kind, record.precision)

lemma head?_eq_of_perm {α : Type} {xs xs' : List α} (hperm : xs.Perm xs') (h : xs.length ≤ 1) :
    xs.head? = xs'.head? := by
  cases xs with
  | nil => rw [hperm.nil_eq]
  | cons x rest =>
      have hrest : rest = [] := List.length_eq_zero_iff.1 (by simpa using h)
      rw [hrest] at hperm ⊢
      rw [List.singleton_perm.1 hperm]

lemma agree_perm {claims claims' : List InstrumentIdentityClaim} (hperm : claims.Perm claims') :
    Agree claims ↔ Agree claims' := by
  have hkeys := ((hperm.map claimKey).dedup).length_eq
  have hkinds : (hintedKinds claims).Perm (hintedKinds claims') :=
    ((hperm.map InstrumentIdentityClaim.kindHint).filter _).dedup
  have hprecisions : (hintedPrecisions claims).Perm (hintedPrecisions claims') :=
    (hperm.filterMap InstrumentIdentityClaim.precisionHint).dedup
  unfold Agree
  rw [hkeys, hkinds.length_eq, hprecisions.length_eq]

lemma claimKey_eq_of_agree {claims : List InstrumentIdentityClaim} (h : Agree claims)
    {claim claim' : InstrumentIdentityClaim} (hclaim : claim ∈ claims) (hclaim' : claim' ∈ claims) :
    claimKey claim = claimKey claim' := by
  rcases List.length_eq_one_iff.1 h.1 with ⟨key, hkey⟩
  have hall : ∀ c ∈ claims, claimKey c = key := by
    intro c hc
    have hmem := List.mem_dedup.2 (List.mem_map_of_mem (f := claimKey) hc)
    rw [hkey] at hmem
    exact List.mem_singleton.1 hmem
  exact (hall claim hclaim).trans (hall claim' hclaim').symm

lemma resolvedFields_agreedRecord_perm {claims claims' : List InstrumentIdentityClaim}
    (hall : ∀ claim ∈ claims, Normalized claim) (hperm : claims.Perm claims') (hagree : Agree claims)
    {representative representative' : InstrumentIdentityClaim} (hmem : representative ∈ claims)
    (hmem' : representative' ∈ claims') :
    resolvedFields (agreedRecord claims representative) =
      resolvedFields (agreedRecord claims' representative') := by
  have hclaims' := hperm.mem_iff.2 hmem'
  have hid : instrumentIdText representative = instrumentIdText representative' :=
    (instrumentIdText_eq_iff (hall _ hmem) (hall _ hclaims')).2
      (.inl (claimKey_eq_of_agree hagree hmem hclaims'))
  have hkinds : (hintedKinds claims).head? = (hintedKinds claims').head? :=
    head?_eq_of_perm ((hperm.map InstrumentIdentityClaim.kindHint).filter _).dedup hagree.2.1
  have hprecisions : (hintedPrecisions claims).head? = (hintedPrecisions claims').head? :=
    head?_eq_of_perm (hperm.filterMap InstrumentIdentityClaim.precisionHint).dedup hagree.2.2
  unfold resolvedFields agreedRecord
  dsimp only
  rw [hid, hkinds, hprecisions]

lemma resolvedFields_perm {claims claims' : List InstrumentIdentityClaim}
    (hall : ∀ claim ∈ claims, Normalized claim) (hperm : claims.Perm claims') :
    (if Agree claims then claims.head?.map (agreedRecord claims) else none).map resolvedFields =
      (if Agree claims' then claims'.head?.map (agreedRecord claims') else none).map
        resolvedFields := by
  by_cases hagree : Agree claims
  · rw [if_pos hagree, if_pos ((agree_perm hperm).1 hagree)]
    cases claims with
    | nil => rw [hperm.nil_eq]
    | cons representative rest =>
        cases claims' with
        | nil => exact absurd hperm.length_eq (by simp)
        | cons representative' rest' =>
            exact congrArg some (resolvedFields_agreedRecord_perm hall hperm hagree
              List.mem_cons_self List.mem_cons_self)
  · rw [if_neg hagree, if_neg (fun h => hagree ((agree_perm hperm).2 h))]

section

variable {env : KernelEnvironment} (hlower : ∀ text, text ≠ "" → env.lower text ≠ "")

include hlower

/-- The fields that claims resolve to; `none` where a claim is refused, `some none` where the
claims do not agree. -/
lemma resolve_perm {claims claims' : List InstrumentIdentityClaim} (hperm : claims.Perm claims') :
    (resolveInstrumentIdentity env claims).toOption.map (Option.map resolvedFields) =
      (resolveInstrumentIdentity env claims').toOption.map (Option.map resolvedFields) := by
  cases h : claims.mapM (normalizeClaim env) with
  | error message =>
      cases h' : claims'.mapM (normalizeClaim env) with
      | error message' =>
          unfold resolveInstrumentIdentity
          rw [h, h']
          rfl
      | ok normalized' =>
          rcases mapM_ok_perm hperm.symm h' with ⟨normalized, hnormalized, _⟩
          rw [h] at hnormalized
          cases hnormalized
  | ok normalized =>
      rcases mapM_ok_perm hperm h with ⟨normalized', h', hnormalized⟩
      have hall := normalized_of_mapM hlower h
      rw [resolve_eq h hall, resolve_eq h' (normalized_of_mapM hlower h')]
      exact congrArg some (resolvedFields_perm hall hnormalized)

/-- The id of claims that resolve is the id of each of them. -/
lemma instrumentId_eq_of_mem {claims : List InstrumentIdentityClaim} {record : InstrumentRecord}
    (h : resolveInstrumentIdentity env claims = .ok (some record))
    {claim normalized : InstrumentIdentityClaim} (hclaim : claim ∈ claims)
    (hnormalized : normalizeClaim env claim = .ok normalized) :
    record.instrumentId = instrumentIdText normalized := by
  cases hmapM : claims.mapM (normalizeClaim env) with
  | error message =>
      rw [resolveInstrumentIdentity, hmapM] at h
      cases h
  | ok all =>
      have hall := normalized_of_mapM hlower hmapM
      rw [resolve_eq hmapM hall] at h
      have hsome := Except.ok.inj h
      split_ifs at hsome with hagree
      rcases Option.map_eq_some_iff.1 hsome with ⟨representative, hhead, rfl⟩
      have hrepresentative := List.mem_of_mem_head? hhead
      have hmem : normalized ∈ all := by
        rcases mapM_ok_pairs hmapM with ⟨pairs, rfl, rfl, hpairs⟩
        rcases List.mem_map.1 hclaim with ⟨p, hp, rfl⟩
        rw [← Except.ok.inj ((hpairs p hp).symm.trans hnormalized)]
        exact List.mem_map_of_mem hp
      exact (instrumentIdText_eq_iff (hall _ hrepresentative) (hall _ hmem)).2
        (.inl (claimKey_eq_of_agree hagree hrepresentative hmem))

/-- Ids tell the keys of resolved claims apart exactly where no key collides with the other, and
what claims resolve to does not depend on their order. -/
theorem instrument_ids_faithful :
    (∀ claims claims' : List InstrumentIdentityClaim, ∀ record record' : InstrumentRecord,
      resolveInstrumentIdentity env claims = .ok (some record) →
      resolveInstrumentIdentity env claims' = .ok (some record') →
      ∀ claim ∈ claims, ∀ claim' ∈ claims', ∀ normalized normalized' : InstrumentIdentityClaim,
        normalizeClaim env claim = .ok normalized → normalizeClaim env claim' = .ok normalized' →
        ((record.instrumentId = record'.instrumentId ↔
            claimKey normalized = claimKey normalized') ↔
          ¬ (Collides (claimKey normalized) (claimKey normalized') ∨
            Collides (claimKey normalized') (claimKey normalized)))) ∧
    (∀ claims claims' : List InstrumentIdentityClaim, claims.Perm claims' →
      (resolveInstrumentIdentity env claims).toOption.map (Option.map resolvedFields) =
        (resolveInstrumentIdentity env claims').toOption.map (Option.map resolvedFields)) := by
  refine ⟨?_, fun claims claims' hperm => resolve_perm hlower hperm⟩
  intro claims claims' record record' hrecord hrecord' claim hclaim claim' hclaim' normalized
    normalized' h h'
  rw [instrumentId_eq_of_mem hlower hrecord hclaim h,
    instrumentId_eq_of_mem hlower hrecord' hclaim' h',
    instrumentIdText_eq_iff (normalized_of_ok hlower h) (normalized_of_ok hlower h')]
  constructor
  · rintro hiff (hcollides | hcollides)
    · exact hcollides.ne (hiff.1 (.inr (.inl hcollides)))
    · exact hcollides.ne (hiff.1 (.inr (.inr hcollides))).symm
  · intro hnone
    exact ⟨fun h => h.resolve_right hnone, .inl⟩

end

/-! ## A bridged coin -/

def casedEnvironment : KernelEnvironment where
  sha256 := id
  subjectText := fun _ => ""
  repr := fun text => "'" ++ text ++ "'"
  upper := String.toUpper
  lower := String.toLower

lemma casedEnvironment_lower (text : String) (h : text ≠ "") : casedEnvironment.lower text ≠ "" := by
  intro hlower
  have hchars : text.toList.map Char.toLower = [] := by
    rw [← String.toList_map]
    exact String.toList_eq_nil_iff.2 hlower
  exact h (String.toList_eq_nil_iff.1 (List.map_eq_nil_iff.1 hchars))

def bridgedClaim : InstrumentIdentityClaim := ⟨"asset", "usdc@bridge", none, .crypto, "USDC.b", none⟩

def venueClaim : InstrumentIdentityClaim := ⟨"asset", "usdc", some "Bridge", .crypto, "USDC", none⟩

def otherClaim : InstrumentIdentityClaim := ⟨"asset", "usdt", some "Bridge", .crypto, "USDT", none⟩

/-- A bridged coin and a coin at the bridge have one id. -/
theorem instrument_ids_not_faithful :
    ¬ ∀ env : KernelEnvironment, (∀ text, text ≠ "" → env.lower text ≠ "") →
      ∀ claims claims' : List InstrumentIdentityClaim, ∀ record record' : InstrumentRecord,
        resolveInstrumentIdentity env claims = .ok (some record) →
        resolveInstrumentIdentity env claims' = .ok (some record') →
        ∀ claim ∈ claims, ∀ claim' ∈ claims', ∀ normalized normalized' : InstrumentIdentityClaim,
          normalizeClaim env claim = .ok normalized → normalizeClaim env claim' = .ok normalized' →
          (record.instrumentId = record'.instrumentId ↔
            claimKey normalized = claimKey normalized') := by
  intro h
  have hiff := h casedEnvironment casedEnvironment_lower [bridgedClaim] [venueClaim]
    ⟨"asset:usdc@bridge", .crypto, "USDC.b", none⟩ ⟨"asset:usdc@bridge", .crypto, "USDC", none⟩
    (by decide +kernel) (by decide +kernel) bridgedClaim List.mem_cons_self venueClaim
    List.mem_cons_self bridgedClaim ⟨"asset", "usdc", some "bridge", .crypto, "USDC", none⟩
    (by decide +kernel) (by decide +kernel)
  exact absurd (hiff.1 rfl) (by decide)

/-- The bridged coin and another coin at the bridge have two ids. -/
theorem instrument_ids_faithful_bridge :
    ∃ record record' : InstrumentRecord,
      resolveInstrumentIdentity casedEnvironment [bridgedClaim] = .ok (some record) ∧
      resolveInstrumentIdentity casedEnvironment [otherClaim] = .ok (some record') ∧
      record.instrumentId ≠ record'.instrumentId := by
  have hiff := (instrument_ids_faithful casedEnvironment_lower).1 [bridgedClaim] [otherClaim]
    ⟨"asset:usdc@bridge", .crypto, "USDC.b", none⟩ ⟨"asset:usdt@bridge", .crypto, "USDT", none⟩
    (by decide +kernel) (by decide +kernel) bridgedClaim List.mem_cons_self otherClaim
    List.mem_cons_self bridgedClaim ⟨"asset", "usdt", some "bridge", .crypto, "USDT", none⟩
    (by decide +kernel) (by decide +kernel)
  have hapart := hiff.2 (by
    rintro (h | h)
    · exact not_absorbs_of_no_start (by decide) h.2
    · exact not_absorbs_of_no_start (by decide) h.2)
  exact ⟨_, _, by decide +kernel, by decide +kernel, fun hid => absurd (hapart.1 hid) (by decide)⟩

end Domain
end Tallylot
