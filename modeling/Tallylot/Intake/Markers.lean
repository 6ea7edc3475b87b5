import Mathlib.Data.Finset.Basic
import Mathlib.Data.Finset.Dedup
import Mathlib.Data.Multiset.UnionInter
import Mathlib.Data.Prod.Lex
import Tallylot.Data.Dict
import Tallylot.Data.InstantText
import Tallylot.Data.Path
import Tallylot.Data.Text
import Tallylot.Data.Sorted

/-!
# Markers — planned package rows, their date markers and their packages

A package is the rows of one bundle.  Its export marker is read from digits in the names of its
rows: fourteen or twelve digits that begin with `20`, or a dashed date.
-/

namespace Tallylot
namespace Intake

open Data

/-! ## Rows -/

inductive PackageStatus
  | primary
  | duplicatePackageIdentical
  | duplicatePackageSubset
  | mergePrimary
  | mergeMember
  | overlapPartialReview
  | mixedCycleReview
  deriving DecidableEq, Repr

/-- `status.startswith("duplicate_package")` -/
def PackageStatus.isDuplicate : PackageStatus → Bool
  | .duplicatePackageIdentical => true
  | .duplicatePackageSubset => true
  | _ => false

inductive PackageRowStatus
  | packageKeep
  | packageDuplicateSkip
  | packageMergeIntoPrimary
  | packageMergeSupersededSkip
  deriving DecidableEq, Repr

inductive CycleStatus
  | blank
  | singleCycle
  | cycleUnknown
  | mixedCycle
  deriving DecidableEq, Repr

inductive ScopeStatus
  | blank
  | scopeUnknown
  | singleScopePresent
  | matchedScope
  | incompatibleScope
  | partialScope
  deriving DecidableEq, Repr

/-- What the package rules say about a bundle. -/
structure PackageDecision where
  packageStatus : PackageStatus
  packagePrimaryBundleId : String
  packageRelatedBundles : String
  packageCycleStatus : CycleStatus
  packageScopeStatus : ScopeStatus
  packageDecisionReason : String
  deriving DecidableEq, Repr

structure PlannedPackageItem where
  path : String
  relativePath : String
  archiveSourcePath : String
  sourceFolder : String
  captureLabel : String
  category : String
  action : String
  sha256 : String
  bundleId : String
  bundleRelativePath : String
  scopeTokens : List String
  decision : PackageDecision
  packageRowStatus : PackageRowStatus
  placementStatus : String
  deriving DecidableEq, Repr

/-- A row with its index in the plan. -/
abbrev Row := PlannedPackageItem × Nat

/-! ## Date markers -/

/-- The matches of a pattern of fixed length that begins with `20` and stands between characters
other than digits.  No two of them overlap. -/
def findTokens (pattern : List (Char → Bool)) (previous : Bool) : List Char → List (List Char)
  | [] => []
  | c :: cs =>
      let token := (c :: cs).take pattern.length
      let rest := (c :: cs).drop pattern.length
      let here := !previous && token.length = pattern.length &&
        (List.zipWith (fun accepts char => accepts char) pattern token).all id &&
        !(rest.head?.any isDecimalDigit)
      (if here then [token] else []) ++ findTokens pattern (isDecimalDigit c) cs

def digits (n : Nat) : List (Char → Bool) := List.replicate n isDecimalDigit

/-- `20\d{2}` -/
def century : List (Char → Bool) := [(· == '2'), (· == '0')] ++ digits 2

/-- `[-_]` -/
def isDash (c : Char) : Bool := c = '-' || c = '_'

def compactTimestamp14 : List (Char → Bool) := century ++ digits 10

def compactTimestamp12 : List (Char → Bool) := century ++ digits 8

def dashedDate : List (Char → Bool) :=
  century ++ [isDash] ++ digits 2 ++ [isDash] ++ digits 2

/-- Two of the characters. -/
def pairAt (token : List Char) (start : Nat) : List Char := (token.drop start).take 2

/-- `%Y%m%d%H%M%S`, or without the seconds: as many digits as the fields can take. -/
def parseCompact (token : List Char) : Option Instant := do
  let year ← Instant.readNumber 4 4 (token.take 4)
  let month ← Instant.readField 1 12 (pairAt token 4)
  let day ← Instant.readField 1 31 (pairAt token 6)
  let hour ← Instant.readField 0 23 (pairAt token 8)
  let minute ← Instant.readField 0 59 (pairAt token 10)
  let second ← if token.length = 12 then some 0 else Instant.readField 0 61 (pairAt token 12)
  Instant.ofFields year month day hour minute second

def parseDashed (token : List Char) : Option Instant :=
  Instant.readDate (String.ofList (token.map (fun c => if c = '_' then '-' else c)))

/-- `%Y%m%d%H%M` -/
def compactMinute (t : Instant) : List Char :=
  Instant.pad4 t.year ++ Instant.pad2 t.month ++ Instant.pad2 t.day ++ Instant.pad2 t.hour ++
    Instant.pad2 t.minute

def extractDatetimes (text : String) : List Instant :=
  let seconds := (findTokens compactTimestamp14 false text.toList).filterMap parseCompact
  let minutes := (findTokens compactTimestamp12 false text.toList).foldl
    (fun values token =>
      if values.any (fun value => compactMinute value = token) then values
      else values ++ (parseCompact token).toList) seconds
  minutes ++ (findTokens dashedDate false text.toList).filterMap parseDashed

/-- The greatest of some instants. -/
def latest (instants : List Instant) : Option Instant :=
  instants.foldl (fun best t => some (best.elim t (max t))) none

def rowMarker (item : PlannedPackageItem) : Option Instant :=
  latest
    (([item.relativePath, item.archiveSourcePath, item.path, item.bundleId].filter
      (fun field => field ≠ "")).flatMap extractDatetimes)

/-! ## Names -/

def isArchiveRow (item : PlannedPackageItem) : Bool :=
  startsWithText item.bundleRelativePath "archive/"

/-- The rows that are not archives themselves, or all rows where every one is. -/
def materialRows (rows : List Row) : List Row :=
  let content := rows.filter (fun row => !isArchiveRow row.1)
  if content = [] then rows else content

lemma mem_materialRows {rows : List Row} {row : Row} : row ∈ materialRows rows ↔
    row ∈ rows ∧ (isArchiveRow row.1 = false ∨ ∀ other ∈ rows, isArchiveRow other.1 = true) := by
  unfold materialRows
  by_cases hcontent : rows.filter (fun row => !isArchiveRow row.1) = []
  · have hall : ∀ other ∈ rows, isArchiveRow other.1 = true := by
      simpa [List.filter_eq_nil_iff] using hcontent
    simp only [hcontent, if_true]
    exact ⟨fun h => ⟨h, Or.inr hall⟩, And.left⟩
  · rcases List.exists_mem_of_ne_nil _ hcontent with ⟨content, hmem⟩
    rcases List.mem_filter.1 hmem with ⟨hrows, hnot⟩
    simp only [if_neg hcontent, List.mem_filter, Bool.not_eq_true']
    constructor
    · rintro ⟨h, hrow⟩
      exact ⟨h, Or.inl hrow⟩
    · rintro ⟨h, hrow | hall⟩
      · exact ⟨h, hrow⟩
      · simp [hall content hrows] at hnot

lemma materialRows_subset (rows : List Row) : materialRows rows ⊆ rows :=
  fun _ h => (mem_materialRows.1 h).1

def logicalKey (bundleRelativePath : String) : String :=
  let path := PosixPath.parse bundleRelativePath
  let parts :=
    match path.parts with
    | part :: rest => if part ∈ ["archive", "contents"] then rest else part :: rest
    | [] => []
  if parts = [] then path.name else "/".intercalate parts

/-! ## Packages -/

/-- Category, source folder and capture label. -/
abbrev PackageGroupKey := String × String × String

/-- How often each content occurs. -/
def hashesOf (rows : List Row) : Multiset String :=
  (rows.map (fun row => row.1.sha256) : List String)

/-- The rows under each logical name. -/
def logicalRowsOf (rows : List Row) : Dict String (List Row) :=
  Dict.group (fun row => logicalKey row.1.bundleRelativePath) rows

/-- The rows of one bundle, with the counts and names that belong to its material rows. -/
structure BundlePackage where
  groupKey : PackageGroupKey
  bundleId : String
  rows : List Row
  materialRows : List Row
  materialHashes : Multiset String
  logicalRows : Dict String (List Row)
  latestMarker : Option Instant
  cycleDay : Option String
  mixedCycle : Bool
  scopeTokens : Finset String
  materialRows_subset : materialRows ⊆ rows
  materialHashes_eq : materialHashes = hashesOf materialRows
  logicalRows_eq : logicalRows = logicalRowsOf materialRows

def BundlePackage.packageKey (package : BundlePackage) : PackageGroupKey × String :=
  (package.groupKey, package.bundleId)

/-- The contents under each logical name. -/
def BundlePackage.logicalHashes (package : BundlePackage) : List (String × Multiset String) :=
  package.logicalRows.entries.map (fun entry => (entry.1, hashesOf entry.2))

def buildPackage (groupKey : PackageGroupKey) (bundleId : String) (rows : List Row) :
    BundlePackage :=
  let material := materialRows rows
  let markers := rows.filterMap (fun row => rowMarker row.1)
  let markerDays := (markers.map Instant.dateText).dedup
  { groupKey := groupKey
    bundleId := bundleId
    rows := rows
    materialRows := material
    materialHashes := hashesOf material
    logicalRows := logicalRowsOf material
    latestMarker := latest markers
    cycleDay := if markerDays.length = 1 then markerDays.head? else none
    mixedCycle := 1 < markerDays.length
    scopeTokens := (rows.flatMap (fun row => row.1.scopeTokens)).toFinset
    materialRows_subset := materialRows_subset rows
    materialHashes_eq := rfl
    logicalRows_eq := rfl }

/-- `int(marker.strftime("%Y%m%d%H%M%S"))` -/
def compactNumber (t : Instant) : Int :=
  ((((t.year * 100 + t.month) * 100 + t.day) * 100 + t.hour) * 100 + t.minute) * 100 + t.second

def packageSortKey (package : BundlePackage) : Int ×ₗ String ×ₗ Nat ×ₗ String :=
  toLex ((package.latestMarker.map compactNumber).getD (-1),
    toLex (package.cycleDay.getD "",
      toLex (package.materialRows.length, package.bundleId)))

def sameExportCycle (primary candidate : BundlePackage) : Bool :=
  if primary.mixedCycle || candidate.mixedCycle then false
  else
    match primary.cycleDay, candidate.cycleDay with
    | some day, some day' => day = day'
    | _, _ => true

/-- `"single_cycle" if package.cycle_day else "cycle_unknown"` -/
def cycleDayStatus (package : BundlePackage) : CycleStatus :=
  if package.cycleDay.isSome then .singleCycle else .cycleUnknown

def packageCycleStatus (package : BundlePackage) : CycleStatus :=
  if package.mixedCycle then .mixedCycle else cycleDayStatus package

/-! ## Scopes -/

def materialScopeTokens (tokens : Finset String) : Finset String :=
  tokens.filter (fun token => !startsWithText token "label:")

def compatibleScope (primary candidate : BundlePackage) : Bool :=
  let primaryMaterial := materialScopeTokens primary.scopeTokens
  let candidateMaterial := materialScopeTokens candidate.scopeTokens
  if primaryMaterial ≠ ∅ ∧ candidateMaterial ≠ ∅ then
    primaryMaterial ∩ candidateMaterial ≠ ∅
  else if primary.scopeTokens ≠ ∅ ∧ candidate.scopeTokens ≠ ∅ then
    primary.scopeTokens ∩ candidate.scopeTokens ≠ ∅
  else true

def scopeStatus (primary candidate : BundlePackage) : ScopeStatus :=
  let primaryMaterial := materialScopeTokens primary.scopeTokens
  let candidateMaterial := materialScopeTokens candidate.scopeTokens
  if primaryMaterial ≠ ∅ ∧ candidateMaterial ≠ ∅ then
    if primaryMaterial ∩ candidateMaterial ≠ ∅ then .matchedScope else .incompatibleScope
  else if primary.scopeTokens ≠ ∅ ∧ candidate.scopeTokens ≠ ∅ then
    if primary.scopeTokens ∩ candidate.scopeTokens ≠ ∅ then .matchedScope else .incompatibleScope
  else if primary.scopeTokens ≠ ∅ ∨ candidate.scopeTokens ≠ ∅ then .partialScope
  else .scopeUnknown

def overlapReason (status : ScopeStatus) : String :=
  if status = .incompatibleScope then "shared material but explicit scope identifiers differ"
  else "shared material but export-cycle markers or contents do not justify merge"

end Intake
end Tallylot
