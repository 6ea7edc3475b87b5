import Tallylot.Balances.Models
import Tallylot.Data.Dict
import Tallylot.Domain.Issues
import Mathlib.Data.List.MinMax

/-!
# References — resolving balance targets against stored references

The resolver groups the stored references by match key, appends the group of every requested target
to the resolved references, and reports the targets without a group, or asks the providers for them.
-/

namespace Tallylot
namespace Balances

open Data Domain

/-! ## Issues about targets -/

def issueIdOf (t : BalanceTarget) (parts : List String) : String :=
  String.intercalate ":" ([t.source, t.locationId, t.instrumentId, t.balanceKind] ++ parts)

/-- An issue of the balance check about a target. -/
def targetIssue (t : BalanceTarget) (idParts : List String) (kind message rawFile : String) :
    IssueRecord where
  issueId := issueIdOf t idParts
  source := t.source
  adapterId := "balances"
  severity := "high"
  kind := kind
  message := message
  contextTimestamp := t.target.text
  rawFile := rawFile

/-- Same source, location, instrument and balance kind, at any instant. -/
def sameBalance (t u : BalanceTarget) : Bool :=
  t.source = u.source && t.locationId = u.locationId && t.instrumentId = u.instrumentId &&
    t.balanceKind = u.balanceKind

/-- Distance of a reference from a target, in microseconds. -/
def referenceDistance (t : BalanceTarget) (reference : BalanceReference) : Nat :=
  (reference.target.targetAt.microseconds - t.targetAt.microseconds).natAbs

/-- The first reference of the balance at the smallest distance. -/
def nearestReference (t : BalanceTarget) (references : List BalanceReference) :
    Option BalanceReference :=
  (references.filter (fun reference => sameBalance reference.target t)).argmin (referenceDistance t)

def missingReferenceMessage : Option BalanceReference → String
  | none => "No balance reference satisfied the requested target."
  | some nearest =>
      "No balance reference satisfied the requested target. " ++
        "Closest available " ++ nearest.referenceKind.label ++ " " ++
        "reference target_at is " ++ nearest.target.target.text ++ "."

def missingReferenceIssue (existing : List BalanceReference) (kind : String) (t : BalanceTarget) :
    IssueRecord :=
  targetIssue t [kind] kind (missingReferenceMessage (nearestReference t existing)) ""

/-! ## Providers -/

structure BalanceProviderResult where
  target : BalanceTarget
  reference : Option BalanceReference
  issueKind : String
  issueMessage : String

/-- The registered providers, numbered.  A provider answers the requests that it is given. -/
structure BalanceProviders where
  providerForRequests : BalanceTarget → Option Nat
  fetchReferences : Nat → List BalanceTarget → List BalanceProviderResult
  answers : ∀ provider requests result reference,
    result ∈ fetchReferences provider requests → result.reference = some reference →
      ∃ t ∈ requests, balanceTargetMatchKey reference.target = balanceTargetMatchKey t

def unresolvedReferenceIssue (result : BalanceProviderResult) : IssueRecord :=
  let kind :=
    if result.issueKind = "" then "balance_reference_unresolved" else result.issueKind
  let message :=
    if result.issueMessage = "" then "Balance reference could not be resolved."
    else result.issueMessage
  targetIssue result.target [kind] kind message ""

def hydrate (providers : BalanceProviders) (targets : List BalanceTarget) :
    List BalanceReference × List IssueRecord :=
  let unsupported := targets.filter (fun t => (providers.providerForRequests t).isNone)
  let requested :=
    targets.filterMap (fun t => (providers.providerForRequests t).map (fun p => (p, t)))
  let results :=
    (Dict.group Prod.fst requested).entries.flatMap
      (fun group => providers.fetchReferences group.1 (group.2.map Prod.snd))
  (results.filterMap BalanceProviderResult.reference,
    unsupported.map (missingReferenceIssue [] "unsupported_balance_provider") ++
      (results.filter (fun result => result.reference.isNone)).map unresolvedReferenceIssue)

/-! ## The resolver -/

def referencesByTarget (existing : List BalanceReference) :
    Dict BalanceTargetMatchKey (List BalanceReference) :=
  Dict.group (fun reference => balanceTargetMatchKey reference.target) existing

def matchingReferences (existing : List BalanceReference) (t : BalanceTarget) :
    List BalanceReference :=
  ((referencesByTarget existing).get? (balanceTargetMatchKey t)).getD []

/-- One turn of the matching loop, on the matched references and the unresolved targets. -/
def matchTarget (existing : List BalanceReference)
    (acc : List BalanceReference × List BalanceTarget) (t : BalanceTarget) :
    List BalanceReference × List BalanceTarget :=
  let matching := matchingReferences existing t
  if matching ≠ [] then (acc.1 ++ matching, acc.2) else (acc.1, acc.2 ++ [t])

def resolve (existing : List BalanceReference) (targets : List BalanceTarget)
    (hydrateMissing : Bool) (providers : Option BalanceProviders) :
    List BalanceReference × List IssueRecord :=
  let acc := targets.foldl (matchTarget existing) ([], [])
  match hydrateMissing && acc.2 ≠ [], providers with
  | true, some providers =>
      let hydrated := hydrate providers acc.2
      (acc.1 ++ hydrated.1, hydrated.2)
  | _, _ => (acc.1, acc.2.map (missingReferenceIssue existing "missing_balance_reference"))

/-! ## What the resolver returns -/

lemma matchingReferences_eq (existing : List BalanceReference) (t : BalanceTarget) :
    matchingReferences existing t =
      existing.filter
        (fun reference => balanceTargetMatchKey reference.target = balanceTargetMatchKey t) := by
  simpa [matchingReferences, referencesByTarget] using
    Dict.getD_get?_group (fun reference : BalanceReference => balanceTargetMatchKey reference.target)
      existing (balanceTargetMatchKey t)

/-- Targets that no stored reference matches. -/
def unresolvedTargets (existing : List BalanceReference) (targets : List BalanceTarget) :
    List BalanceTarget :=
  targets.filter (fun t => matchingReferences existing t = [])

lemma foldl_matchTarget (existing : List BalanceReference) (targets : List BalanceTarget)
    (acc : List BalanceReference × List BalanceTarget) :
    targets.foldl (matchTarget existing) acc =
      (acc.1 ++ targets.flatMap (matchingReferences existing),
        acc.2 ++ unresolvedTargets existing targets) := by
  induction targets generalizing acc with
  | nil => simp [unresolvedTargets]
  | cons t ts ih =>
      rw [List.foldl_cons, ih]
      by_cases h : matchingReferences existing t = []
      · simp [matchTarget, unresolvedTargets, h]
      · simp [matchTarget, unresolvedTargets, h]

/-- References that a resolution takes from the providers. -/
def hydratedReferences (existing : List BalanceReference) (targets : List BalanceTarget)
    (hydrateMissing : Bool) (providers : Option BalanceProviders) : List BalanceReference :=
  match hydrateMissing && unresolvedTargets existing targets ≠ [], providers with
  | true, some providers => (hydrate providers (unresolvedTargets existing targets)).1
  | _, _ => []

theorem resolve_references (existing : List BalanceReference) (targets : List BalanceTarget)
    (hydrateMissing : Bool) (providers : Option BalanceProviders) :
    (resolve existing targets hydrateMissing providers).1 =
      targets.flatMap (matchingReferences existing) ++
        hydratedReferences existing targets hydrateMissing providers := by
  unfold resolve hydratedReferences
  simp only [foldl_matchTarget, List.nil_append]
  cases hydrateMissing && decide (unresolvedTargets existing targets ≠ []) with
  | false => simp
  | true =>
      cases providers with
      | none => simp
      | some providers => simp

/-- Without providers to ask, a resolution reports every unmatched target. -/
theorem resolve_offline (existing : List BalanceReference) (targets : List BalanceTarget)
    (providers : Option BalanceProviders) :
    resolve existing targets false providers =
      (targets.flatMap (matchingReferences existing),
        (unresolvedTargets existing targets).map
          (missingReferenceIssue existing "missing_balance_reference")) := by
  simp [resolve, foldl_matchTarget]

/-- A hydrated reference has the match key of a target that no stored reference matches. -/
theorem matchKey_of_hydrated {existing : List BalanceReference} {targets : List BalanceTarget}
    {hydrateMissing : Bool} {providers : Option BalanceProviders} {reference : BalanceReference} :
    reference ∈ hydratedReferences existing targets hydrateMissing providers →
      ∀ stored ∈ existing,
        balanceTargetMatchKey stored.target ≠ balanceTargetMatchKey reference.target := by
  intro hmem stored hstored hkey
  unfold hydratedReferences at hmem
  cases hb : hydrateMissing && decide (unresolvedTargets existing targets ≠ []) with
  | false =>
      rw [hb] at hmem
      cases hmem
  | true =>
      rw [hb] at hmem
      cases providers with
      | none => cases hmem
      | some providers =>
          simp only [hydrate, List.mem_filterMap, List.mem_flatMap] at hmem
          rcases hmem with ⟨result, ⟨group, hgroup, hresult⟩, href⟩
          rcases providers.answers _ _ _ _ hresult href with ⟨t, ht, htkey⟩
          have hget : (Dict.group Prod.fst _).get? group.1 = some group.2 :=
            (Dict.get?_eq_some_iff _ _ _).2 hgroup
          rw [Dict.get?_group] at hget
          rcases List.mem_map.1 ht with ⟨pair, hpair, rfl⟩
          have hpair' : pair ∈ (unresolvedTargets existing targets).filterMap
              (fun t => (providers.providerForRequests t).map (fun p => (p, t))) := by
            split at hget
            · cases hget
            · rw [← Option.some.inj hget] at hpair
              exact (List.mem_filter.1 hpair).1
          rcases List.mem_filterMap.1 hpair' with ⟨t, ht', hsome⟩
          rcases Option.map_eq_some_iff.1 hsome with ⟨_, _, rfl⟩
          have hnil := (List.mem_filter.1 ht').2
          simp only [decide_eq_true_eq, matchingReferences_eq, List.filter_eq_nil_iff] at hnil
          exact hnil stored hstored (by simpa using hkey.trans htkey)

end Balances
end Tallylot
