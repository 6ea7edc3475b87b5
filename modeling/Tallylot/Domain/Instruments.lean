import Tallylot.Data.Text
import Tallylot.Domain.Assertion
import Mathlib.Data.List.Dedup

/-!
# Instruments — identity claims and their resolution

Constructors check their fields and fail with the text of the error.
-/

namespace Tallylot
namespace Domain

open Data

inductive InstrumentKind
  | unknown
  | crypto
  | fiat
  | equity
  | derivative
  deriving DecidableEq, Repr

namespace InstrumentKind

def value : InstrumentKind → String
  | unknown => "unknown"
  | crypto => "crypto"
  | fiat => "fiat"
  | equity => "equity"
  | derivative => "derivative"

/-- `InstrumentKind(text)` -/
def ofText (env : KernelEnvironment) (text : String) : Except String InstrumentKind :=
  match [unknown, crypto, fiat, equity, derivative].find? (fun kind => kind.value = text) with
  | some kind => .ok kind
  | none => .error (env.repr text ++ " is not a valid InstrumentKind")

end InstrumentKind

structure InstrumentIdentityClaim where
  scheme : String
  value : String
  venue : Option String
  kindHint : InstrumentKind
  displayName : String
  precisionHint : Option Int
  deriving DecidableEq, Repr

structure InstrumentRecord where
  instrumentId : String
  kind : InstrumentKind
  displayName : String
  precision : Option Int
  deriving DecidableEq, Repr

def isSchemeChar (c : Char) : Bool := c.isLower || c.isDigit || c = '_'

/-- `^[a-z][a-z0-9_]*$` -/
def validIdentifierScheme (scheme : String) : Bool :=
  match scheme.toList with
  | [] => false
  | c :: cs => c.isLower && cs.all isSchemeChar

/-- The constructor of `InstrumentIdentityClaim`. -/
def InstrumentIdentityClaim.create (claim : InstrumentIdentityClaim) :
    Except String InstrumentIdentityClaim :=
  if validIdentifierScheme claim.scheme = false then
    .error "instrument identifier scheme must be lowercase snake_case"
  else if isBlank claim.value then .error "instrument identity claim value must not be blank"
  else if claim.precisionHint.any (fun p => p < 0) then
    .error "instrument identity claim precision_hint must be non-negative"
  else .ok claim

/-- The constructor of `InstrumentRecord`. -/
def InstrumentRecord.create (record : InstrumentRecord) : Except String InstrumentRecord :=
  if record.instrumentId = "" then .error "instrument_id must not be blank"
  else if isBlank record.displayName then .error "instrument display_name must not be blank"
  else if record.precision.any (fun p => p < 0) then
    .error "instrument precision must be non-negative"
  else .ok record

def normalizeClaim (env : KernelEnvironment) (claim : InstrumentIdentityClaim) :
    Except String InstrumentIdentityClaim :=
  InstrumentIdentityClaim.create
    { scheme := strip claim.scheme
      value := if claim.scheme = "symbol" then env.upper (strip claim.value) else strip claim.value
      venue :=
        match claim.venue with
        | none => none
        | some venue => if isBlank venue then none else some (env.lower (strip venue))
      kindHint := claim.kindHint
      displayName := strip claim.displayName
      precisionHint := claim.precisionHint }

def claimKey (claim : InstrumentIdentityClaim) : String × String × String :=
  (claim.scheme, claim.value, claim.venue.getD "")

def instrumentIdText (claim : InstrumentIdentityClaim) : String :=
  claim.scheme ++ ":" ++ claim.value ++
    (match claim.venue with
      | none => ""
      | some venue => "@" ++ venue)

/-- `none` for claims that do not agree on one instrument. -/
def resolveInstrumentIdentity (env : KernelEnvironment) (claims : List InstrumentIdentityClaim) :
    Except String (Option InstrumentRecord) := do
  let normalizedClaims ← claims.mapM (normalizeClaim env)
  let kinds := ((normalizedClaims.map InstrumentIdentityClaim.kindHint).filter
    (fun kind => kind ≠ .unknown)).dedup
  let precisions := (normalizedClaims.filterMap InstrumentIdentityClaim.precisionHint).dedup
  if (normalizedClaims.map claimKey).dedup.length ≠ 1 then return none
  if 1 < kinds.length then return none
  if 1 < precisions.length then return none
  match normalizedClaims with
  | [] => return none
  | representative :: _ =>
      let displayName :=
        ((normalizedClaims.map InstrumentIdentityClaim.displayName).find?
          (fun name => name ≠ "")).getD representative.value
      let record ← InstrumentRecord.create
        { instrumentId := instrumentIdText representative
          kind := kinds.head?.getD .unknown
          displayName := displayName
          precision := precisions.head? }
      return some record

lemma instrumentId_of_create {record built : InstrumentRecord}
    (h : InstrumentRecord.create record = .ok built) : built = record ∧ built.instrumentId ≠ "" := by
  unfold InstrumentRecord.create at h
  split_ifs at h with hid
  cases h
  exact ⟨rfl, hid⟩

lemma resolved_instrumentId {env : KernelEnvironment} {claims : List InstrumentIdentityClaim}
    {record : InstrumentRecord} (h : resolveInstrumentIdentity env claims = .ok (some record)) :
    record.instrumentId ≠ "" := by
  unfold resolveInstrumentIdentity at h
  cases hclaims : claims.mapM (normalizeClaim env) with
  | error message => simp [hclaims, bind, Except.bind] at h
  | ok normalized =>
      simp only [hclaims, bind, Except.bind] at h
      split_ifs at h
      · cases h
      · cases h
      · cases h
      · cases normalized with
        | nil => cases h
        | cons representative rest =>
            dsimp only at h
            split at h
            · cases h
            · rename_i built hbuilt
              cases h
              exact (instrumentId_of_create hbuilt).2

/-! ## One claim -/

lemma create_eq_ok_iff {claim built : InstrumentIdentityClaim} :
    InstrumentIdentityClaim.create claim = .ok built ↔
      built = claim ∧ validIdentifierScheme claim.scheme = true ∧ isBlank claim.value = false ∧
        claim.precisionHint.any (fun p => p < 0) = false := by
  unfold InstrumentIdentityClaim.create
  split_ifs with hscheme hvalue hprecision
  · refine iff_of_false (fun h => by cases h) (fun h => ?_)
    rw [hscheme] at h
    cases h.2.1
  · refine iff_of_false (fun h => by cases h) (fun h => ?_)
    rw [hvalue] at h
    cases h.2.2.1
  · refine iff_of_false (fun h => by cases h) (fun h => ?_)
    rw [hprecision] at h
    cases h.2.2.2
  · constructor
    · intro h
      exact ⟨(Except.ok.inj h).symm, Bool.not_eq_false _ ▸ hscheme, Bool.not_eq_true _ ▸ hvalue,
        Bool.not_eq_true _ ▸ hprecision⟩
    · rintro ⟨rfl, _⟩
      rfl

lemma instrumentIdText_ne_blank (claim : InstrumentIdentityClaim) : instrumentIdText claim ≠ "" := by
  intro h
  have hchars := congrArg String.toList h
  simp [instrumentIdText] at hchars

/-- What normalizing a claim leaves. -/
lemma normalizeClaim_eq_ok {env : KernelEnvironment} {claim normalized : InstrumentIdentityClaim}
    (h : normalizeClaim env claim = .ok normalized) :
    isBlank normalized.value = false ∧ normalized.displayName = strip claim.displayName ∧
      normalized.precisionHint = claim.precisionHint := by
  unfold normalizeClaim at h
  rcases create_eq_ok_iff.1 h with ⟨rfl, _, hvalue, _⟩
  exact ⟨hvalue, rfl, rfl⟩

/-- The instrument of one normalized claim. -/
def claimedInstrument (normalized : InstrumentIdentityClaim) : InstrumentRecord where
  instrumentId := instrumentIdText normalized
  kind := normalized.kindHint
  displayName := if normalized.displayName ≠ "" then normalized.displayName else normalized.value
  precision := normalized.precisionHint

lemma create_claimedInstrument {env : KernelEnvironment}
    {claim normalized : InstrumentIdentityClaim} (h : normalizeClaim env claim = .ok normalized)
    (hprecision : claim.precisionHint = none) :
    InstrumentRecord.create (claimedInstrument normalized) = .ok (claimedInstrument normalized) := by
  rcases normalizeClaim_eq_ok h with ⟨hvalue, hname, hhint⟩
  have hblank : isBlank (claimedInstrument normalized).displayName = false := by
    unfold claimedInstrument
    dsimp only
    split_ifs with hne
    · rw [Bool.eq_false_iff, ne_eq, isBlank_iff, hname, strip_strip, ← hname]
      exact hne
    · exact hvalue
  have hnone : (claimedInstrument normalized).precision = none := hhint.trans hprecision
  have hid : ¬(claimedInstrument normalized).instrumentId = "" := instrumentIdText_ne_blank normalized
  unfold InstrumentRecord.create
  rw [if_neg hid, hblank, hnone]
  rfl

lemma resolve_claimedInstrument {env : KernelEnvironment}
    {claim normalized : InstrumentIdentityClaim} (h : normalizeClaim env claim = .ok normalized)
    (hprecision : claim.precisionHint = none) :
    resolveInstrumentIdentity env [claim] = .ok (some (claimedInstrument normalized)) := by
  have hcreate := create_claimedInstrument h hprecision
  have hhint : normalized.precisionHint = none :=
    (normalizeClaim_eq_ok h).2.2.trans hprecision
  have hmapM : [claim].mapM (normalizeClaim env) = .ok [normalized] := by
    rw [List.mapM_cons, h]
    rfl
  have hname : ([normalized.displayName].find? (fun name => name ≠ "")).getD normalized.value =
      (claimedInstrument normalized).displayName := by
    by_cases hne : normalized.displayName = "" <;> simp [claimedInstrument, hne]
  have hkind : (([normalized.kindHint].filter (fun kind => kind ≠ .unknown)).dedup).head?.getD
      .unknown = normalized.kindHint := by
    cases normalized.kindHint <;> rfl
  have hkinds : ¬1 < (([normalized.kindHint].filter (fun kind => kind ≠ .unknown)).dedup).length := by
    cases normalized.kindHint <;> decide
  unfold resolveInstrumentIdentity
  rw [hmapM]
  dsimp only [bind, Except.bind]
  have hkeys : ¬([normalized].map claimKey).dedup.length ≠ 1 := by simp
  have hprecisions : ([normalized].filterMap InstrumentIdentityClaim.precisionHint).dedup = [] := by
    simp [hhint]
  have hrecord : (⟨instrumentIdText normalized, normalized.kindHint,
      (claimedInstrument normalized).displayName, none⟩ : InstrumentRecord) =
        claimedInstrument normalized := by
    rw [← hhint]
    rfl
  rw [if_neg hkeys, List.map_singleton, List.map_singleton, if_neg hkinds, hprecisions,
    if_neg (by simp), hkind, hname, List.head?_nil, hrecord, hcreate]
  rfl

/-- One claim without a precision resolves to its instrument once it is normalized. -/
theorem resolve_single {env : KernelEnvironment} {claim : InstrumentIdentityClaim}
    (hprecision : claim.precisionHint = none) (instrumentId : String) :
    (∃ record, resolveInstrumentIdentity env [claim] = .ok (some record) ∧
        record.instrumentId = instrumentId) ↔
      ∃ normalized, normalizeClaim env claim = .ok normalized ∧
        instrumentIdText normalized = instrumentId := by
  cases hnormalized : normalizeClaim env claim with
  | error message =>
      refine iff_of_false ?_ (fun ⟨_, h, _⟩ => by cases h)
      rintro ⟨record, hrecord, _⟩
      rw [resolveInstrumentIdentity, List.mapM_cons, hnormalized] at hrecord
      cases hrecord
  | ok normalized =>
      rw [resolve_claimedInstrument hnormalized hprecision]
      constructor
      · rintro ⟨record, hrecord, hid⟩
        rw [← Option.some.inj (Except.ok.inj hrecord)] at hid
        exact ⟨normalized, rfl, hid⟩
      · rintro ⟨other, hother, hid⟩
        rw [← Except.ok.inj hother] at hid
        exact ⟨claimedInstrument normalized, rfl, hid⟩

end Domain
end Tallylot
