import Tallylot.Data.Dict
import Tallylot.Data.Path
import Tallylot.Data.Sorted
import Tallylot.Data.Text
import Mathlib.Data.Prod.Lex

/-!
# SourceLabelMap — rules and issues of the source label map

Every row of the map is read on its own: it is an issue, or it states a source for a scope and a
prefix.  Rows of one scope and prefix become one rule, or an issue where they state different
sources.
-/

namespace Tallylot
namespace Intake

open Data

structure SourceLabelRule where
  incomingCaptureScope : String
  pathPrefix : String
  source : String
  deriving DecidableEq, Repr

structure SourceLabelConfigIssue where
  relativePath : String
  severity : String
  kind : String
  message : String
  incomingCaptureScope : String := ""
  matchingPrefix : String := ""
  reviewCode : String := ""
  deriving DecidableEq, Repr

structure SourceLabelContext where
  rules : List SourceLabelRule
  issues : List SourceLabelConfigIssue
  deriving DecidableEq, Repr

/-! ## Scopes and prefixes -/

/-- `while normalized.startswith("./")` -/
def dropDotSlash : List Char → List Char
  | '.' :: '/' :: rest => dropDotSlash rest
  | chars => chars

/-- `_WINDOWS_ABSOLUTE_PREFIX` -/
def windowsAbsolutePrefix : List Char → Bool
  | letter :: ':' :: '/' :: _ => letter.isAlpha
  | _ => false

/-- `value.replace("\\", "/")` -/
def slashed (value : String) : List Char :=
  value.toList.map (fun c => if c = '\\' then '/' else c)

/-- `_normalize_prefix_root` -/
def normalizePrefixRoot (repr : String → String) (normalized : List Char)
    (originalValue : String) : Except String (List Char) :=
  if normalized = [] then .ok ['.']
  else if normalized.head? = some '/' ∨ windowsAbsolutePrefix normalized = true then
    .error ("Source label map prefix " ++ repr originalValue ++
      " must stay relative to the incoming capture root.")
  else .ok normalized

/-- `_normalize_part` -/
def normalizePart (value : List Char) : Except String String :=
  let segments := (splitChars '/' value).filter (fun segment => segment ≠ [] ∧ segment ≠ ['.'])
  if ['.', '.'] ∈ segments then
    .error "Source label map prefixes must not traverse upward with '..'."
  else if segments = [] then
    .error "Source label map prefixes must identify a path inside the incoming capture."
  else .ok (String.ofList (['/'].intercalate segments))

/-- `normalized.partition("::")` -/
def partitionMember : List Char → List Char × Option (List Char)
  | ':' :: ':' :: rest => ([], some rest)
  | c :: rest => (c :: (partitionMember rest).1, (partitionMember rest).2)
  | [] => ([], none)

/-- `_normalize_prefix` -/
def normalizePrefix (repr : String → String) (value : String) : Except String String := do
  let normalized := slashed value
  if normalized = [] then
    .error "Source label map row must include an incoming_path_prefix value."
  else if normalized = ['.'] then .ok "."
  else
    let normalized ← normalizePrefixRoot repr (dropDotSlash normalized) value
    let parts := partitionMember normalized
    let left ← normalizePart parts.1
    match parts.2 with
    | none => .ok left
    | some member =>
        let right ← normalizePart member
        .ok (left ++ "::" ++ right)

/-- `_normalize_capture_scope` -/
def normalizeCaptureScope (repr : String → String) (value : String) : Except String String :=
  let normalized := slashed value
  if normalized = [] then .ok ""
  else
    match normalizePrefixRoot repr (dropDotSlash normalized) value with
    | .error _ =>
        .error ("Source label map incoming capture scope " ++ repr value ++
          " must stay relative to the operator-managed staging root.")
    | .ok normalized =>
        match normalizePart normalized with
        | .error scopeError =>
            .error ("Source label map incoming capture scope " ++ repr value ++ " " ++
              scopeError.map Char.toLower)
        | .ok scope => .ok scope

/-! ## Rows -/

/-- `(row.get(column) or "").strip()` -/
def cellText (row : Dict String String) (column : String) : String :=
  strip ((row.get? column).getD "")

/-- A row that states a source for a scope and a prefix. -/
structure LabelEntry where
  scope : String
  pathPrefix : String
  line : Nat
  source : String
  deriving DecidableEq, Repr

/-- What a row of the map is read as. -/
inductive RowReading
  | issue (issue : SourceLabelConfigIssue)
  | entry (entry : LabelEntry)
  deriving DecidableEq, Repr

def mapPath : String := "analysis/issues/source_label_map.csv"

def unknownSourceIssue (line : Nat) (scope pathPrefix message : String) :
    SourceLabelConfigIssue where
  relativePath := mapPath ++ ":" ++ toString line
  severity := "error"
  kind := "source_label_map_unknown_source"
  message := message
  incomingCaptureScope := scope
  matchingPrefix := pathPrefix
  reviewCode := "source_map_unknown_source"

/-- One turn of the loop over the rows. -/
def readMapRow (repr : String → String) (inventorySources : List String) (line : Nat)
    (row : Dict String String) : RowReading :=
  let source := cellText row "source"
  match normalizeCaptureScope repr (cellText row "incoming_capture_scope") with
  | .error scopeError =>
      .issue
        { relativePath := mapPath ++ ":" ++ toString line
          severity := "error"
          kind := "source_label_map_invalid_scope"
          message := scopeError
          reviewCode := "source_map_invalid_scope" }
  | .ok scope =>
      match normalizePrefix repr (cellText row "incoming_path_prefix") with
      | .error errorMessage =>
          .issue
            { relativePath := mapPath ++ ":" ++ toString line
              severity := "error"
              kind := "source_label_map_invalid_prefix"
              message := errorMessage
              incomingCaptureScope := scope
              reviewCode := "source_map_invalid_prefix" }
      | .ok pathPrefix =>
          if source = "" then
            .issue (unknownSourceIssue line scope pathPrefix
              "Source label map row must include a source value.")
          else if source ∉ inventorySources then
            .issue (unknownSourceIssue line scope pathPrefix
              ("Mapped source " ++ source ++
                " is not present in analysis/issues/source_inventory.csv."))
          else .entry ⟨scope, pathPrefix, line, source⟩

/-- The readings of the rows; the first row is on line 2. -/
def mapReadings (repr : String → String) (inventorySources : List String)
    (rows : List (Dict String String)) : List RowReading :=
  rows.zipIdx.map (fun row => readMapRow repr inventorySources (row.2 + 2) row.1)

/-! ## Rules and issues -/

/-- `sorted({source for _, source in rows})` -/
def entrySources (entries : List LabelEntry) : List String :=
  sortedOn id (entries.map LabelEntry.source).dedup

def conflictIssue (repr : String → String) (scope pathPrefix : String)
    (entries : List LabelEntry) : SourceLabelConfigIssue where
  relativePath := mapPath
  severity := "error"
  kind := "source_label_map_conflict"
  message := "Conflicting source label map rows for prefix " ++ pathPrefix ++
    (if scope ≠ "" then " within incoming capture scope " ++ repr scope else "") ++ " on lines " ++
    ", ".intercalate (entries.map (fun entry => toString entry.line)) ++ ": " ++
    ", ".intercalate (entrySources entries)
  incomingCaptureScope := scope
  matchingPrefix := pathPrefix
  reviewCode := "source_map_conflict"

/-- The entries of each scope and prefix. -/
def groupedEntries (readings : List RowReading) : Dict (String × String) (List LabelEntry) :=
  Dict.group (fun entry : LabelEntry => (entry.scope, entry.pathPrefix))
    (readings.filterMap (fun reading =>
      match reading with
      | .entry entry => some entry
      | .issue _ => none))

/-- The issue or the rule of a scope and a prefix. -/
def groupOutcome (repr : String → String) (group : (String × String) × List LabelEntry) :
    Sum SourceLabelConfigIssue SourceLabelRule :=
  match entrySources group.2 with
  | [source] => .inr ⟨group.1.1, group.1.2, source⟩
  | _ => .inl (conflictIssue repr group.1.1 group.1.2 group.2)

/-- The order of rules and of matching issues, the most specific last. -/
def labelOrder (scope pathPrefix : String) : Nat ×ₗ Nat ×ₗ String ×ₗ String :=
  toLex (if scope ≠ "" then 1 else 0, toLex (pathPrefix.length, toLex (scope, pathPrefix)))

/-- `sort(key=..., reverse=True)` -/
def sortedReverse {α κ : Type} [LinearOrder κ] (key : α → κ) (xs : List α) : List α :=
  (sortedOn key xs.reverse).reverse

/-- `load_source_label_context`, given the rows of the map and of the source inventory if the files
are there. -/
def loadSourceLabelContext (repr : String → String) (mapRows : Option (List (Dict String String)))
    (inventoryRows : Option (List (Dict String String))) : SourceLabelContext :=
  let inventorySources := ((inventoryRows.getD []).map (fun row => cellText row "source")).filter
    (fun source => source ≠ "")
  match mapRows with
  | none => ⟨[], []⟩
  | some rows =>
      let readings := mapReadings repr inventorySources rows
      let outcomes := (groupedEntries readings).entries.map (groupOutcome repr)
      { rules := sortedReverse (fun rule => labelOrder rule.incomingCaptureScope rule.pathPrefix)
          (outcomes.filterMap Sum.getRight?)
        issues := sortedOn
          (fun issue => (toLex (issue.relativePath, toLex (issue.kind, issue.message)) :
            String ×ₗ String ×ₗ String))
          (readings.filterMap (fun reading =>
              match reading with
              | .issue issue => some issue
              | .entry _ => none) ++ outcomes.filterMap Sum.getLeft?) }

end Intake
end Tallylot
