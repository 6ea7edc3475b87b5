import Tallylot.Intake.Entries
import Tallylot.Intake.SourceLabelMap

/-!
# SourceLabels — which source a row of the intake plan gets

The rules and the issues of the map that match a route are compared by their priorities.
-/

namespace Tallylot
namespace Intake

open Data

/-! ## Matching -/

/-- `_scope_matches` -/
def scopeMatches (scope incomingCaptureScope : String) : Bool :=
  scope = "" ∨ scope = incomingCaptureScope

/-- `_prefix_matches` -/
def prefixMatches (pathPrefix routeKey : String) : Bool :=
  if pathPrefix = "." then true
  else if routeKey = pathPrefix then true
  else if startsWithText routeKey pathPrefix = false then false
  else
    match (routeKey.toList.drop pathPrefix.length).head? with
    | some next => next = '/' ∨ next = ':'
    | none => false

/-- `_matching_issue` -/
def matchingIssue (issues : List SourceLabelConfigIssue) (incomingCaptureScope routeKey : String) :
    Option SourceLabelConfigIssue :=
  (sortedReverse (fun issue => labelOrder issue.incomingCaptureScope issue.matchingPrefix)
    (issues.filter (fun issue => issue.matchingPrefix ≠ "" ∧
      scopeMatches issue.incomingCaptureScope incomingCaptureScope = true ∧
        prefixMatches issue.matchingPrefix routeKey = true))).head?

/-- `_matching_rule` -/
def matchingRule (rules : List SourceLabelRule) (incomingCaptureScope routeKey : String) :
    Option SourceLabelRule :=
  rules.find? (fun rule => scopeMatches rule.incomingCaptureScope incomingCaptureScope &&
    prefixMatches rule.pathPrefix routeKey)

/-- `_rule_priority` -/
def rulePriority (scope pathPrefix : String) : Nat ×ₗ Nat :=
  toLex (if scope ≠ "" then 1 else 0, pathPrefix.length)

/-! ## Resolution -/

structure InventoryRouteDecision where
  sourceFolder : String
  inventoryMatchStatus : String
  reviewRequired : String := "no"
  reviewCodes : String := ""
  reviewReason : String := ""
  deriving DecidableEq, Repr

/-- A resolution with its explanation. -/
structure ExplainedResolution extends SourceLabelResolution where
  sourceResolutionStatus : String
  sourceResolutionReason : String
  inventoryMatchStatus : String

/-- A request, with what the inventory routing decides on its file facts. -/
structure SourceLabelResolutionRequest where
  workspaceRoot : PosixPath
  incomingCaptureScope : String
  routeKey : String
  inventoryRoute : InventoryRouteDecision
  sourceFolder : String
  targetPath : PosixPath
  incomingSourceFolder : String := ""

/-- `is_source_scoped_target_path` -/
def isSourceScopedTargetPath (targetPath workspaceRoot : PosixPath) (sourceFolder : String) : Bool :=
  targetPath.root = workspaceRoot.root && workspaceRoot.tail.isPrefixOf targetPath.tail &&
    sourceSegmentIndexes (targetPath.tail.drop workspaceRoot.tail.length) sourceFolder ≠ []

def SourceLabelResolutionRequest.sourceScoped (request : SourceLabelResolutionRequest) : Bool :=
  isSourceScopedTargetPath request.targetPath request.workspaceRoot request.sourceFolder

/-- `_non_source_scoped_resolution` -/
def nonSourceScopedResolution (sourceFolder : String) : ExplainedResolution where
  sourceFolder := sourceFolder
  blocked := false
  sourceResolutionStatus :=
    if sourceFolder ≠ "unclassified" then "routed_source" else "routed_unclassified"
  sourceResolutionReason :=
    if sourceFolder ≠ "unclassified" then
      "Non-source-scoped destination keeps routed source " ++ sourceFolder ++ "."
    else "Non-source-scoped destination keeps routed unclassified source."
  inventoryMatchStatus := "unmatched"

/-- `_blocked_resolution` -/
def blockedResolution (sourceFolder : String) (issue : SourceLabelConfigIssue) :
    ExplainedResolution where
  sourceFolder := sourceFolder
  sourceResolutionStatus := "explicit_map_blocked"
  sourceResolutionReason := issue.message
  inventoryMatchStatus := "not_evaluated_explicit_map"
  reviewRequired := "yes"
  reviewCodes := issue.reviewCode
  reviewReason := issue.message
  blocked := true

/-- `_explicit_rule_resolution` -/
def explicitRuleResolution (repr : String → String) (rule : SourceLabelRule) :
    ExplainedResolution where
  sourceFolder := rule.source
  blocked := false
  sourceResolutionStatus := "explicit_map"
  sourceResolutionReason := "Explicit source map matched prefix " ++ rule.pathPrefix ++
    (if rule.incomingCaptureScope ≠ "" then
      " within incoming capture scope " ++ repr rule.incomingCaptureScope else "") ++ " -> " ++
        rule.source
  inventoryMatchStatus := "not_evaluated_explicit_map"

/-- `_incoming_source_scope_resolution` -/
def incomingSourceScopeResolution (sourceFolder : String) : ExplainedResolution where
  sourceFolder := sourceFolder
  blocked := false
  sourceResolutionStatus := "incoming_source_scope"
  sourceResolutionReason :=
    "Incoming capture path preserved the stable source label " ++ sourceFolder ++ "."
  inventoryMatchStatus := "not_evaluated_incoming_source_scope"

/-- `_should_preserve_incoming_source_scope` -/
def shouldPreserveIncomingSourceScope (request : SourceLabelResolutionRequest) : Bool :=
  request.incomingSourceFolder ≠ "" && request.sourceFolder = "unclassified" &&
    request.incomingSourceFolder ≠ "unclassified"

/-- `_inventory_or_routed_resolution` -/
def inventoryOrRoutedResolution (sourceFolder : String) (inventoryRoute : InventoryRouteDecision) :
    ExplainedResolution :=
  let status := inventoryRoute.inventoryMatchStatus
  if status = "inventory_source_match" then
    { sourceFolder := inventoryRoute.sourceFolder
      blocked := false
      sourceResolutionStatus := "inventory_source_match"
      sourceResolutionReason :=
        "Wallet evidence matched existing inventory source " ++ inventoryRoute.sourceFolder
      inventoryMatchStatus := status }
  else if status = "inventory_source_ambiguous" then
    { sourceFolder := inventoryRoute.sourceFolder
      blocked := false
      sourceResolutionStatus := "inventory_source_ambiguous"
      sourceResolutionReason := inventoryRoute.reviewReason
      inventoryMatchStatus := status
      reviewRequired := inventoryRoute.reviewRequired
      reviewCodes := inventoryRoute.reviewCodes
      reviewReason := inventoryRoute.reviewReason }
  else if status = "generic_scope_routing" then
    { sourceFolder := inventoryRoute.sourceFolder
      blocked := false
      sourceResolutionStatus := "generic_scope_routing"
      sourceResolutionReason := "Generated source label " ++ inventoryRoute.sourceFolder ++
        " from wallet scope evidence."
      inventoryMatchStatus := status }
  else
    { sourceFolder := sourceFolder
      blocked := false
      sourceResolutionStatus :=
        if sourceFolder ≠ "unclassified" then "routed_source" else "routed_unclassified"
      sourceResolutionReason :=
        if sourceFolder ≠ "unclassified" then
          "Fell back to routed source " ++ sourceFolder ++
            " from adapter or file-signature matching."
        else "No explicit or inferred source match; using unclassified."
      inventoryMatchStatus := status }

/-- `resolve_source_label` -/
def resolveSourceLabel (repr : String → String) (context : SourceLabelContext)
    (request : SourceLabelResolutionRequest) : ExplainedResolution :=
  if request.sourceScoped = false then nonSourceScopedResolution request.sourceFolder
  else
    let withoutIssue (rule : Option SourceLabelRule) : ExplainedResolution :=
      match rule with
      | some rule => explicitRuleResolution repr rule
      | none =>
          if shouldPreserveIncomingSourceScope request = true then
            incomingSourceScopeResolution request.incomingSourceFolder
          else inventoryOrRoutedResolution request.sourceFolder request.inventoryRoute
    let explicitRule := matchingRule context.rules request.incomingCaptureScope request.routeKey
    match matchingIssue context.issues request.incomingCaptureScope request.routeKey with
    | none => withoutIssue explicitRule
    | some issue =>
        if ∀ rule ∈ explicitRule, rulePriority rule.incomingCaptureScope rule.pathPrefix ≤
            rulePriority issue.incomingCaptureScope issue.matchingPrefix then
          blockedResolution request.sourceFolder issue
        else withoutIssue explicitRule

end Intake
end Tallylot
