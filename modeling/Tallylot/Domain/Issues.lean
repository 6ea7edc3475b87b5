import Mathlib.Tactic.Common

/-!
# Issues — runtime issue records
-/

namespace Tallylot
namespace Domain

/-- Where in a capture a record was found. -/
structure ProvenanceLocator where
  captureUid : String
  relativePath : String
  archiveMemberPath : String := ""
  locatorKind : String := "raw_file"
  anchor : String := ""
  deriving DecidableEq, Repr

/-- `to_reference_ref` -/
def ProvenanceLocator.toReferenceRef (locator : ProvenanceLocator) : String :=
  locator.relativePath ++
    (if locator.archiveMemberPath = "" then "" else "::" ++ locator.archiveMemberPath) ++
      (if locator.anchor = "" then "" else "#" ++ locator.anchor)

structure IssueRecord where
  issueId : String
  source : String
  adapterId : String
  severity : String
  kind : String
  message : String
  contextTimestamp : String := ""
  rawFile : String := ""
  rawProvenance : Option ProvenanceLocator := none
  rawRowRef : String := ""
  status : String := "open"
  deriving DecidableEq, Repr

structure NormalizationReviewRecord where
  reviewId : String
  source : String
  adapterId : String
  scope : String
  kind : String
  message : String
  contextTimestamp : String := ""
  rawFile : String := ""
  rawProvenance : Option ProvenanceLocator := none
  rawRowRef : String := ""
  fieldName : String := ""
  originalValue : String := ""
  normalizedValue : String := ""
  status : String := "needs_review"
  deriving DecidableEq, Repr

end Domain
end Tallylot
