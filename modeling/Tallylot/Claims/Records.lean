import Tallylot.Data.Parts
import Tallylot.Data.Sorted
import Tallylot.Domain.Claim
import Tallylot.Domain.ValueObjects
import Tallylot.Evidence.Models

/-!
# Records — ids and order of claim records

A scope is a row of a member of the evidence set.  The ids of its bundle and of its claims are made
of its own id, so claims of different bundles meet only where their scopes have one id.
-/

namespace Tallylot
namespace Claims

open Data Domain
open Evidence (colonJoin)

def filingBeneficialOwnerRef : String := "filing:beneficial_owner:bounded-slice"

/-! ## Ids -/

def stableClaimSetId (evidenceSetId emitterId : String) : String :=
  colonJoin [evidenceSetId, emitterId]

def stableClaimScopeId (claimSetId : String) (scopeKey : List String) : String :=
  colonJoin (claimSetId :: scopeKey)

def stableClaimBundleId (scopeId key : String) : String := colonJoin [scopeId, key]

def stableClaimId (bundleId : String) (kind : ClaimKind) (key : List String) : String :=
  colonJoin (bundleId :: kind.value :: key)

def stableClaimBundleDecisionId (scopeId : String) : String := scopeId

/-- A row of a member, in a claim set. -/
structure ClaimScope where
  claimSetId : String
  memberId : String
  rowRef : String
  deriving DecidableEq, Repr

namespace ClaimScope

/-- `scope_key` -/
def key (scope : ClaimScope) : List String := [scope.memberId, scope.rowRef]

def id (scope : ClaimScope) : String := stableClaimScopeId scope.claimSetId scope.key

def bundleId (scope : ClaimScope) : String := stableClaimBundleId scope.id "default"

def claimId (scope : ClaimScope) (kind : ClaimKind) (slot : String) : String :=
  stableClaimId scope.bundleId kind (scope.key ++ [kind.value, slot])

end ClaimScope

lemma colonJoin_pair (first second : String) : colonJoin [first, second] = first ++ (":" ++ second) := by
  rw [Evidence.colonJoin_cons first (List.cons_ne_nil _ _), colonJoin, String.intercalate_singleton]

lemma stableClaimBundleId_inj {scopeId scopeId' key : String} :
    stableClaimBundleId scopeId key = stableClaimBundleId scopeId' key ↔ scopeId = scopeId' := by
  rw [stableClaimBundleId, stableClaimBundleId, colonJoin_pair, colonJoin_pair,
    String.append_left_inj]

lemma ClaimScope.bundleId_inj {scope scope' : ClaimScope} :
    scope.bundleId = scope'.bundleId ↔ scope.id = scope'.id :=
  stableClaimBundleId_inj

lemma ClaimScope.bundleId_ne_blank (scope : ClaimScope) : scope.bundleId ≠ "" :=
  Evidence.colonJoin_cons_ne_blank _ (List.cons_ne_nil _ _)

lemma ClaimScope.claimId_ne_blank (scope : ClaimScope) (kind : ClaimKind) (slot : String) :
    scope.claimId kind slot ≠ "" :=
  Evidence.colonJoin_cons_ne_blank _ (List.cons_ne_nil _ _)

/-- A first part without a colon is the text before the first colon. -/
lemma colonJoin_head {first : String} {rest : List String} (hne : rest ≠ [])
    (hcolon : ':' ∉ first.toList) :
    (colonJoin (first :: rest)).toList.takeWhile (fun c => c ≠ ':') = first.toList := by
  have hall : ∀ c ∈ first.toList, decide (c ≠ ':') = true := by
    intro c hc
    rw [decide_eq_true_eq]
    exact fun h => hcolon (h ▸ hc)
  rw [Evidence.colonJoin_cons first hne, String.toList_append, String.toList_append,
    List.takeWhile_append_of_pos hall]
  simp

lemma claimKind_value_injective : Function.Injective ClaimKind.value := by
  intro a b h
  cases a <;> cases b <;> first | rfl | exact absurd h (by decide)

lemma colon_not_mem_value (kind : ClaimKind) : ':' ∉ kind.value.toList := by
  cases kind <;> decide

/-- Claims of one bundle with one id have one kind. -/
lemma ClaimScope.kind_of_claimId {scope : ClaimScope} {kind kind' : ClaimKind}
    {slot slot' : String} (h : scope.claimId kind slot = scope.claimId kind' slot') :
    kind = kind' := by
  have hrest := (Evidence.colonJoin_cons_inj scope.bundleId (List.cons_ne_nil _ _)
    (List.cons_ne_nil _ _)).1 h
  have hhead := congrArg (fun text : String => text.toList.takeWhile (fun c => c ≠ ':')) hrest
  have hne : ∀ rest : List String, scope.key ++ rest ≠ [] :=
    fun rest => List.append_ne_nil_of_left_ne_nil (List.cons_ne_nil _ _) rest
  rw [colonJoin_head (hne _) (colon_not_mem_value kind),
    colonJoin_head (hne _) (colon_not_mem_value kind')] at hhead
  exact claimKind_value_injective (String.toList_inj.1 hhead)

/-! ## Constructors -/

/-- The constructor of `ClaimRecord`. -/
def recordClaim (fields : ClaimFields) : Decoded ClaimRecord :=
  match h : fields.validateKindFields with
  | none => .ok ⟨fields, h⟩
  | some message => .error (.value message)

lemma recordClaim_eq_ok_iff {fields : ClaimFields} {record : ClaimRecord} :
    recordClaim fields = .ok record ↔ record.toClaimFields = fields := by
  unfold recordClaim
  split
  · rename_i hvalid
    constructor
    · intro h
      cases h
      rfl
    · rintro rfl
      rfl
  · rename_i message hvalid
    refine iff_of_false (fun h => by cases h) ?_
    rintro rfl
    rw [record.valid] at hvalid
    cases hvalid

lemma exists_recordClaim {fields : ClaimFields} :
    (∃ record, recordClaim fields = .ok record) ↔ fields.validateKindFields = none := by
  constructor
  · rintro ⟨record, h⟩
    rw [← recordClaim_eq_ok_iff.1 h]
    exact record.valid
  · intro h
    exact ⟨⟨fields, h⟩, recordClaim_eq_ok_iff.2 rfl⟩

structure ClaimBundleRecord where
  scopeId : String
  bundleId : String
  key : String
  scopeKey : List String
  claimRefs : List String
  deriving DecidableEq, Repr

/-! ## Order -/

/-- `_optional_temporal` -/
def optionalTemporal (value : Option Instant) (precision : Option TemporalPrecision)
    (label : String) : Decoded String :=
  match value, precision with
  | some value, some precision =>
      (requireTemporalDatetime value precision label).map TemporalValue.text
  | _, _ => .ok ""

/-- The sort key of a claim record. -/
def claimOrder (claim : ClaimRecord) :
    Decoded (String ×ₗ String ×ₗ String ×ₗ String ×ₗ String) := do
  let effectiveAt ← optionalTemporal claim.effectiveAt claim.precision "claim sort"
  return toLex (claim.bundleId, toLex (claim.kind.value, toLex (effectiveAt,
    toLex ((claim.precision.map TemporalPrecision.text).getD "", claim.claimId))))

/-- `canonical_claim_records` -/
def canonicalClaimRecords (records : List ClaimRecord) : Decoded (List ClaimRecord) := do
  let keyed ← records.mapM (fun claim => (claimOrder claim).map (fun order => (order, claim)))
  return (sortedOn Prod.fst keyed).map Prod.snd

/-- `canonical_claim_bundle_records` -/
def canonicalClaimBundleRecords (records : List ClaimBundleRecord) : List ClaimBundleRecord :=
  sortedOn
    (fun bundle => (toLex (bundle.scopeId, toLex (bundle.key, bundle.bundleId)) :
      String ×ₗ String ×ₗ String))
    records

/-- `canonical_claim_bundle_decision_records`; the id of a decision is the id of its scope. -/
def canonicalClaimBundleDecisionRecords (records : List ClaimBundleDecisionRecord) :
    List ClaimBundleDecisionRecord :=
  sortedOn ClaimBundleDecisionRecord.decisionId records

/-- A record whose effective time is a midnight if it is a date. -/
def DatedClaim (claim : ClaimRecord) : Prop :=
  ∀ t, claim.effectiveAt = some t → claim.precision = some .date → t.isMidnight = true

lemma exists_optionalTemporal {value : Option Instant} {precision : Option TemporalPrecision}
    {label : String} :
    (∃ text, optionalTemporal value precision label = .ok text) ↔
      ∀ t, value = some t → precision = some .date → t.isMidnight = true := by
  cases value with
  | none => exact iff_of_true ⟨"", rfl⟩ (fun t h => by cases h)
  | some t =>
      cases precision with
      | none => exact iff_of_true ⟨"", rfl⟩ (fun t _ h => by cases h)
      | some precision =>
          simp only [optionalTemporal, requireTemporalDatetime]
          by_cases h : precision = .date → t.isMidnight = true
          · rw [dif_pos h]
            refine iff_of_true ⟨_, rfl⟩ (fun u hu hdate => ?_)
            rw [← Option.some.inj hu]
            exact h (Option.some.inj hdate)
          · rw [dif_neg h]
            refine iff_of_false ?_ (fun hall => h ?_)
            · rintro ⟨_, htext⟩
              cases htext
            · exact fun hdate => hall t rfl (congrArg some hdate)

lemma exists_claimOrder {claim : ClaimRecord} :
    (∃ order, claimOrder claim = .ok order) ↔ DatedClaim claim := by
  rw [DatedClaim, ← exists_optionalTemporal]
  constructor
  · rintro ⟨order, horder⟩
    rcases bind_eq_ok_iff.1 horder with ⟨text, htext, _⟩
    exact ⟨text, htext⟩
  · rintro ⟨text, htext⟩
    exact ⟨_, bind_eq_ok_iff.2 ⟨text, htext, rfl⟩⟩

/-- The sorted records are the records. -/
lemma canonicalClaimRecords_perm {records sorted : List ClaimRecord}
    (h : canonicalClaimRecords records = .ok sorted) : sorted.Perm records := by
  rcases bind_eq_ok_iff.1 h with ⟨keyed, hkeyed, hsorted⟩
  cases hsorted
  rcases mapM_ok_pairs hkeyed with ⟨pairs, hfst, hsnd, hpairs⟩
  have hrecords : keyed.map Prod.snd = records := by
    rw [← hfst, ← hsnd, List.map_map]
    refine List.map_congr_left (fun p hp => ?_)
    have hp := hpairs p hp
    cases horder : claimOrder p.1 with
    | error e =>
        rw [horder] at hp
        cases hp
    | ok order =>
        rw [horder] at hp
        rw [Function.comp_apply, ← Except.ok.inj hp]
  rw [← hrecords]
  exact (sortedOn_perm _ _).map _

lemma exists_canonicalClaimRecords {records : List ClaimRecord}
    (h : ∀ claim ∈ records, DatedClaim claim) :
    ∃ sorted, canonicalClaimRecords records = .ok sorted := by
  have hkeyed : ∃ keyed, records.mapM (fun claim =>
      (claimOrder claim).map (fun order => (order, claim))) = .ok keyed := by
    refine exists_mapM_ok (fun claim hclaim => ?_)
    rcases exists_claimOrder.2 (h claim hclaim) with ⟨order, horder⟩
    exact ⟨(order, claim), by rw [horder]; rfl⟩
  rcases hkeyed with ⟨keyed, hkeyed⟩
  exact ⟨_, bind_eq_ok_iff.2 ⟨keyed, hkeyed, rfl⟩⟩

end Claims
end Tallylot
