import Tallylot.Balances.References
import Tallylot.Data.Sorted
import Tallylot.Domain.Transactions

/-!
# Targets — balance targets and snapshots from facts and references

Targets come from the stored references when there are any, else from the facts: the latest instant
of every balance, or the instants that a request names.  Targets made from references depend only on
which targets the references have, not on the order of the references (`orderedTargets_congr`).
-/

namespace Tallylot
namespace Balances

open Data Domain

/-! ## Instants that a request names -/

structure CalendarDate where
  year : Nat
  month : Nat
  day : Nat
  deriving DecidableEq, Repr

/-- A time zone, by what the targets need of it. -/
structure TimeZone where
  midnight : CalendarDate → Instant
  dateOf : Instant → CalendarDate

/-- A parsed target time: a date in the time zone of the request, or an instant. -/
inductive AsOfValue
  | date (d : CalendarDate)
  | timestamp (t : Instant)
  deriving DecidableEq, Repr

def AsOfValue.instant (zone : TimeZone) : AsOfValue → Instant
  | date d => zone.midnight d
  | timestamp t => t

/-- A reference target is selected by its date, or by its instant. -/
def AsOfValue.selects (zone : TimeZone) (t : BalanceTarget) : AsOfValue → Bool
  | date d => zone.dateOf t.targetAt = d
  | timestamp at' => t.targetAt = at'

/-! ## Targets from facts -/

/-- Source, location, instrument and balance kind. -/
structure BalanceKey where
  source : String
  locationId : String
  instrumentId : String
  balanceKind : String
  instrument_nonblank : instrumentId ≠ ""

namespace BalanceKey

lemma eq_iff {key key' : BalanceKey} :
    key = key' ↔ key.source = key'.source ∧ key.locationId = key'.locationId ∧
      key.instrumentId = key'.instrumentId ∧ key.balanceKind = key'.balanceKind := by
  cases key
  cases key'
  simp

instance : DecidableEq BalanceKey := fun _ _ => decidable_of_iff' _ eq_iff

def order (key : BalanceKey) : String ×ₗ String ×ₗ String ×ₗ String :=
  toLex (key.source, toLex (key.locationId, toLex (key.instrumentId, key.balanceKind)))

def target (key : BalanceKey) (at' : Instant) : BalanceTarget where
  source := key.source
  locationId := key.locationId
  instrumentId := key.instrumentId
  balanceKind := key.balanceKind
  target := TemporalValue.ofInstant at'
  instrument_nonblank := key.instrument_nonblank

end BalanceKey

/-- The balance of every leg with the time of its fact. -/
def balanceTimes (facts : List TransactionFact) : List (BalanceKey × Instant) :=
  facts.flatMap (fun fact => fact.legs.map (fun leg =>
    (⟨fact.source, fact.legLocation leg, leg.instrumentId, "available", leg.instrument_nonblank⟩,
      fact.timestamp)))

def latestByKey (facts : List TransactionFact) : Dict BalanceKey Instant :=
  (balanceTimes facts).foldl
    (fun d p => d.upsert p.1 (fun current => (current.map (fun t => max t p.2)).getD p.2))
    Dict.empty

def latestBalanceTargets (facts : List TransactionFact) : List BalanceTarget :=
  (sortedOn (fun e => e.1.order) (latestByKey facts).entries).map (fun e => e.1.target e.2)

def targetsForAsOfValues (facts : List TransactionFact) (requestedTimes : List Instant) :
    List BalanceTarget :=
  (sortedOn BalanceKey.order ((balanceTimes facts).map Prod.fst).dedup).flatMap (fun key =>
    requestedTimes.map key.target)

/-! ## Targets from references -/

/-- `_target_identity` -/
def targetIdentity (t : BalanceTarget) :
    String ×ₗ String ×ₗ String ×ₗ String ×ₗ Instant ×ₗ String :=
  toLex (t.source, toLex (t.locationId, toLex (t.instrumentId, toLex (t.balanceKind,
    toLex (t.targetAt, t.targetPrecision.text)))))

lemma targetIdentity_injective : Function.Injective targetIdentity := by
  intro t u h
  simp only [targetIdentity, toLex_inj, Prod.mk.injEq] at h
  rcases h with ⟨hsource, hlocation, hinstrument, hkind, hat, hprecision⟩
  have hvalue : t.target = u.target :=
    TemporalValue.ext hat (TemporalPrecision.text_injective hprecision)
  exact BalanceTarget.ext hsource hlocation hinstrument hkind hvalue

/-- The targets of a dictionary by identity, in the order of the identities. -/
def orderedTargets (ts : List BalanceTarget) : List BalanceTarget :=
  (sortedOn Prod.fst (Dict.ofList (ts.map (fun t => (targetIdentity t, t)))).entries).map Prod.snd

def referenceTargets (references : List BalanceReference) : List BalanceTarget :=
  orderedTargets (references.map BalanceReference.target)

def selectReferenceTargetsForAsOfValues (references : List BalanceReference)
    (asOfValues : List AsOfValue) (zone : TimeZone) : List BalanceTarget :=
  orderedTargets (asOfValues.flatMap (fun value =>
    (references.map BalanceReference.target).filter (fun t => value.selects zone t)))

lemma mem_entries_targets {ts : List BalanceTarget} {e} :
    e ∈ (Dict.ofList (ts.map (fun t => (targetIdentity t, t)))).entries ↔
      e.2 ∈ ts ∧ e.1 = targetIdentity e.2 := by
  constructor
  · intro he
    rcases List.mem_map.1 (Dict.mem_of_mem_entries_ofList he) with ⟨t, ht, rfl⟩
    exact ⟨ht, rfl⟩
  · rcases e with ⟨identity, t⟩
    rintro ⟨ht, hidentity⟩
    change t ∈ ts at ht
    change identity = targetIdentity t at hidentity
    subst hidentity
    have hkey : targetIdentity t ∈
        (Dict.ofList (ts.map (fun t => (targetIdentity t, t)))).entries.map Prod.fst := by
      refine (Dict.mem_keys_ofList _ _).2 ?_
      exact List.mem_map.2 ⟨_, List.mem_map_of_mem ht, rfl⟩
    rcases List.mem_map.1 hkey with ⟨e, he, hidentity⟩
    rcases List.mem_map.1 (Dict.mem_of_mem_entries_ofList he) with ⟨u, hu, rfl⟩
    have hsame : u = t := targetIdentity_injective hidentity
    rwa [hsame] at he

/-- Only the set of the targets matters. -/
theorem orderedTargets_congr {ts us : List BalanceTarget} (h : ∀ t, t ∈ ts ↔ t ∈ us) :
    orderedTargets ts = orderedTargets us := by
  have hnodup : ∀ ts : List BalanceTarget,
      (Dict.ofList (ts.map (fun t => (targetIdentity t, t)))).entries.Nodup :=
    fun ts => List.Nodup.of_map _ (Dict.nodup_keys _)
  have hperm : (Dict.ofList (ts.map (fun t => (targetIdentity t, t)))).entries.Perm
      (Dict.ofList (us.map (fun t => (targetIdentity t, t)))).entries := by
    refine (List.perm_ext_iff_of_nodup (hnodup ts) (hnodup us)).2 ?_
    intro e
    rw [mem_entries_targets, mem_entries_targets, h]
  refine congrArg (List.map Prod.snd) (sortedOn_eq_of_perm hperm ?_)
  intro e he e' he' hkey
  have hsnd := targetIdentity_injective
    ((mem_entries_targets.1 he).2.symm.trans (hkey.trans (mem_entries_targets.1 he').2))
  exact Prod.ext hkey hsnd

/-! ## Snapshots and coverage -/

def legMatches (fact : TransactionFact) (t : BalanceTarget) (leg : EconomicLeg) : Bool :=
  fact.legLocation leg = t.locationId && leg.instrumentId = t.instrumentId

/-- The quantities that a target adds up, in the order of the facts. -/
def cutoffQuantities (facts : List TransactionFact) (t : BalanceTarget) : List Decimal :=
  (facts.filter (fun fact => fact.source = t.source && fact.timestamp ≤ t.targetAt)).flatMap
    (fun fact => (fact.legs.filter (legMatches fact t)).map EconomicLeg.quantity)

def deriveBalanceSnapshot (facts : List TransactionFact) (t : BalanceTarget) : BalanceSnapshot where
  target := t
  quantity := (cutoffQuantities facts t).foldl (fun quantity d => quantity + d) 0
  snapshotBasis := "fact_cutoff"

def missingFactsIssue (t : BalanceTarget) : IssueRecord :=
  targetIssue t ["missing_facts_for_balance_target"] "missing_facts_for_balance_target"
    "No facts were available to derive the requested balance target." ""

def deriveBalanceSnapshots (facts : List TransactionFact) (targets : List BalanceTarget) :
    List BalanceSnapshot × List IssueRecord :=
  (targets.map (deriveBalanceSnapshot facts),
    (targets.filter (fun t => facts.all (fun fact => fact.source ≠ t.source))).map
      missingFactsIssue)

def hasFactCoverageForTarget (facts : List TransactionFact) (t : BalanceTarget) : Bool :=
  facts.any (fun fact =>
    fact.source = t.source && fact.timestamp ≤ t.targetAt && fact.legs.any (legMatches fact t))

def missingFactCoverageIssue (t : BalanceTarget) : IssueRecord :=
  targetIssue t ["missing_fact_coverage_for_reference_target"]
    "missing_fact_coverage_for_reference_target"
    ("A statement-backed balance target was selected, but no exact fact " ++
      "coverage exists for that source, location, instrument, and target_at. " ++
      "This source gap must be resolved explicitly rather than inferred.") ""

def missingFactCoverageIssues (facts : List TransactionFact) (targets : List BalanceTarget) :
    List IssueRecord :=
  (targets.filter (fun t => !hasFactCoverageForTarget facts t)).map missingFactCoverageIssue

end Balances
end Tallylot
