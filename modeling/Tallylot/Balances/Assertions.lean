import Tallylot.Balances.References
import Tallylot.Data.Sorted

/-!
# Assertions — comparing snapshots with references

`assertBalanceTargets` indexes snapshots and references by match key and makes one assertion for
each key that occurs.  Among the references of a key, the highest kind that is present decides: one
reference of that kind is selected, two or more are a conflict.
-/

namespace Tallylot
namespace Balances

open Data Domain

/-- Reference kinds, highest precedence first. -/
def referencePrecedence : List BalanceReferenceKind :=
  [.sourceDocument, .networkApi, .operatorAssertion]

/-! ## Indexes -/

def duplicateIssue (t : BalanceTarget) (kind : String) (duplicateIndex : Nat) : IssueRecord :=
  targetIssue t [kind, toString duplicateIndex] kind
    ("Duplicate " ++ t.balanceKind ++ " balance input for " ++ t.locationId ++ " " ++
      t.instrumentId ++ ".") ""

/-- Index, duplicate counts and issues while snapshots are indexed. -/
structure SnapshotIndexing where
  indexed : Dict BalanceTargetMatchKey BalanceSnapshot
  duplicateCounts : Dict BalanceTargetMatchKey Nat
  issues : List IssueRecord

/-- The first snapshot of a key is kept, every later one is reported. -/
def indexSnapshot (acc : SnapshotIndexing) (snapshot : BalanceSnapshot) : SnapshotIndexing :=
  let key := balanceTargetMatchKey snapshot.target
  if (acc.indexed.get? key).isSome then
    let count := (acc.duplicateCounts.get? key).getD 0 + 1
    { acc with
      duplicateCounts := acc.duplicateCounts.set key count
      issues := acc.issues ++
        [duplicateIssue snapshot.target "duplicate_balance_snapshot" count] }
  else { acc with indexed := acc.indexed.set key snapshot }

def indexSnapshots (snapshots : List BalanceSnapshot) : SnapshotIndexing :=
  snapshots.foldl indexSnapshot ⟨Dict.empty, Dict.empty, []⟩

/-! ## Selecting a reference -/

def conflictIssue (t : BalanceTarget) (kind : BalanceReferenceKind) : IssueRecord :=
  targetIssue t ["conflicting_balance_references", kind.value] "conflicting_balance_references"
    ("More than one balance reference with the same precedence " ++
      "matched one balance target.") ""

/-- Selected reference, status forced by the selection, and issues. -/
structure Selection where
  reference : Option BalanceReference
  status : Option BalanceAssertionStatus
  issues : List IssueRecord

def selectedReferenceAmong (t : BalanceTarget) (references : List BalanceReference) :
    List BalanceReferenceKind → Selection
  | [] => ⟨none, none, []⟩
  | kind :: kinds =>
      match references.filter (fun reference => reference.referenceKind = kind) with
      | [] => selectedReferenceAmong t references kinds
      | [reference] => ⟨some reference, none, []⟩
      | _ => ⟨none, some .referenceConflict, [conflictIssue t kind]⟩

def selectedReference (t : BalanceTarget) (references : List BalanceReference) : Selection :=
  selectedReferenceAmong t references referencePrecedence

/-! ## Assertions -/

def assertionStatus (snapshot : Option BalanceSnapshot) (reference : Option BalanceReference)
    (selectionStatus : Option BalanceAssertionStatus) : BalanceAssertionStatus :=
  if selectionStatus = some .referenceConflict then .referenceConflict
  else
    match snapshot, reference with
    | none, _ => .missingSnapshot
    | some _, none => .missingReference
    | some snapshot, some reference =>
        if snapshot.quantity ≠ reference.quantity then .drift else .matched

/-- Whole seconds from the observation to the target. -/
def observationGap (t : BalanceTarget) (reference : BalanceReference) : String :=
  toString
    ((t.targetAt.microseconds - reference.observed.instant.microseconds).tdiv 1000000)

def buildAssertion (t : BalanceTarget) (snapshot : Option BalanceSnapshot)
    (selection : Selection) : BalanceAssertion :=
  let reference := selection.reference
  let snapshotQuantity := snapshot.map BalanceSnapshot.quantity
  let referenceQuantity := reference.map BalanceReference.quantity
  { target := t
    snapshotQuantity := snapshotQuantity
    referenceQuantity := referenceQuantity
    difference := snapshotQuantity.getD 0 - referenceQuantity.getD 0
    status := assertionStatus snapshot reference selection.status
    selectedReferenceKind := reference.map BalanceReference.referenceKind
    snapshotBasis := (snapshot.map BalanceSnapshot.snapshotBasis).getD ""
    observed := reference.map BalanceReference.observed
    observationGap := (reference.map (observationGap t)).getD ""
    supportRef := (reference.map BalanceReference.supportRef).getD ""
    providerFamily := (reference.map BalanceReference.providerFamily).getD ""
    providerBlockRef := (reference.map BalanceReference.providerBlockRef).getD ""
    notes := (reference.map BalanceReference.notes).getD "" }

lemma status_buildAssertion (t : BalanceTarget) (snapshot : Option BalanceSnapshot)
    (selection : Selection) : (buildAssertion t snapshot selection).status =
      assertionStatus snapshot selection.reference selection.status := rfl

def assertionIssue (assertion : BalanceAssertion) : IssueRecord :=
  let kind := "balance_" ++ assertion.status.value
  targetIssue assertion.target [kind] kind
    ("Balance assertion " ++ assertion.status.label ++ " for " ++ assertion.target.locationId ++
      " " ++ assertion.target.instrumentId ++ ".") assertion.supportRef

structure BalanceAssertionResult where
  assertions : List BalanceAssertion
  issues : List IssueRecord
  deriving DecidableEq, Repr

/-- Target of the assertion for a key: the snapshot's, else the first reference's. -/
def assertionTarget? (snapshot : Option BalanceSnapshot) (references : List BalanceReference) :
    Option BalanceTarget :=
  (snapshot.map BalanceSnapshot.target).or (references.head?.map BalanceReference.target)

/-- The assertion and the issues of one key. -/
def assertKey (snapshot : Option BalanceSnapshot) (references : List BalanceReference) :
    Option (BalanceAssertion × List IssueRecord) :=
  (assertionTarget? snapshot references).map
    (fun t =>
      let selection := selectedReference t references
      let assertion := buildAssertion t snapshot selection
      (assertion,
        selection.issues ++
          if assertion.status ≠ .matched then [assertionIssue assertion] else []))

def assertBalanceTargets (snapshots : List BalanceSnapshot) (references : List BalanceReference) :
    BalanceAssertionResult :=
  let snapshotIndex := indexSnapshots snapshots
  let referenceIndex := referencesByTarget references
  let keys := sortedOn id (snapshotIndex.indexed.keys ++ referenceIndex.keys).dedup
  let asserted :=
    keys.filterMap
      (fun key =>
        assertKey (snapshotIndex.indexed.get? key) ((referenceIndex.get? key).getD []))
  { assertions := asserted.map Prod.fst
    issues := snapshotIndex.issues ++ (asserted.map Prod.snd).flatten }

end Balances
end Tallylot
