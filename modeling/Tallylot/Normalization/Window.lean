import Tallylot.Domain.ValueObjects
import Tallylot.Normalization.Drafts

/-!
# Window — drafts, issues and reviews inside a normalization window

A window has an optional start and an optional end, both included.  Without bounds the filters keep
everything; otherwise they keep what lies inside and count the rest.
-/

namespace Tallylot
namespace Normalization

open Data Domain

/-! ## Windows -/

/-- The window of a request; a blank bound is none. -/
structure NormalizeRequest where
  windowStart : Option String := none
  windowEnd : Option String := none

/-- `not window_start and not window_end` -/
def NormalizeRequest.unbounded (request : NormalizeRequest) : Bool :=
  request.windowStart.getD "" = "" && request.windowEnd.getD "" = ""

structure Window where
  start : Option Instant
  stop : Option Instant
  deriving DecidableEq

namespace Window

/-- The time is before the start or after the end. -/
def excludes (window : Window) (time : Instant) : Bool :=
  window.start.any (fun start => time < start) || window.stop.any (fun stop => stop < time)

/-- The time lies inside, bounds included. -/
def contains (window : Window) (time : Instant) : Bool := !window.excludes time

end Window

def parseBound (value : Option String) : Decoded (Option Instant) :=
  match value with
  | none => return none
  | some text =>
      if text = "" then return none
      else do
        let bound ← parseTimestamp text
        return some bound

def parseWindow (request : NormalizeRequest) : Decoded Window := do
  let start ← parseBound request.windowStart
  let stop ← parseBound request.windowEnd
  return ⟨start, stop⟩

lemma parseBound_blank {value : Option String} (h : value.getD "" = "") :
    parseBound value = .ok none := by
  cases value with
  | none => rfl
  | some text => exact if_pos h

/-- Without bounds a window contains all times. -/
lemma contains_of_unbounded {request : NormalizeRequest} (h : request.unbounded = true)
    {window : Window} (hwindow : parseWindow request = .ok window) (time : Instant) :
    window.contains time = true := by
  rw [NormalizeRequest.unbounded, Bool.and_eq_true, decide_eq_true_eq, decide_eq_true_eq] at h
  rw [parseWindow, parseBound_blank h.1, bind_ok, parseBound_blank h.2, bind_ok] at hwindow
  rw [← Except.ok.inj hwindow]
  rfl

/-! ## Filters -/

def filterDraftsByWindow (request : NormalizeRequest) (drafts : List EconomicActivityDraft) :
    Decoded (List EconomicActivityDraft × Nat) :=
  if request.unbounded then return (drafts, 0)
  else do
    let window ← parseWindow request
    return (drafts.filter (fun draft => window.contains draft.val.timestamp),
      drafts.countP (fun draft => window.excludes draft.val.timestamp))

/-- `_is_activity_scoped_issue` -/
def isActivityScopedIssue (issue : IssueRecord) : Bool := issue.rawFile ≠ "" || issue.rawRowRef ≠ ""

/-- Issues about activities need a time to be kept, other issues are kept without one. -/
def excludesIssue (window : Window) (issue : IssueRecord) : Decoded Bool :=
  if issue.contextTimestamp = "" then return isActivityScopedIssue issue
  else do
    let time ← parseTimestamp issue.contextTimestamp
    return window.excludes time

/-- Reviews of the whole dataset are kept, other reviews need a time. -/
def excludesReview (window : Window) (review : NormalizationReviewRecord) : Decoded Bool :=
  if review.scope = "dataset" then return false
  else if review.contextTimestamp = "" then return true
  else do
    let time ← parseTimestamp review.contextTimestamp
    return window.excludes time

/-- The loop of a filter: what is kept, and how many are excluded. -/
def filterRecords {α : Type} (excludes : α → Decoded Bool) (records : List α) :
    Decoded (List α × Nat) := do
  let marks ← records.mapM excludes
  return (((records.zip marks).filter (fun p => !p.2)).map Prod.fst, marks.countP id)

def filterIssuesByWindow (request : NormalizeRequest) (issues : List IssueRecord) :
    Decoded (List IssueRecord × Nat) :=
  if request.unbounded then return (issues, 0)
  else do
    let window ← parseWindow request
    filterRecords (excludesIssue window) issues

def filterReviewsByWindow (request : NormalizeRequest) (reviews : List NormalizationReviewRecord) :
    Decoded (List NormalizationReviewRecord × Nat) :=
  if request.unbounded then return (reviews, 0)
  else do
    let window ← parseWindow request
    filterRecords (excludesReview window) reviews

/-- Drafts are kept where the window contains their time, and counted where it does not. -/
theorem filterDrafts_eq_ok {request : NormalizeRequest} {window : Window}
    (hwindow : parseWindow request = .ok window) (drafts : List EconomicActivityDraft) :
    filterDraftsByWindow request drafts =
      .ok (drafts.filter (fun draft => window.contains draft.val.timestamp),
        drafts.countP (fun draft => window.excludes draft.val.timestamp)) := by
  rw [filterDraftsByWindow]
  split_ifs with hunbounded
  · have hall := contains_of_unbounded hunbounded hwindow
    have hkept : drafts.filter (fun draft => window.contains draft.val.timestamp) = drafts :=
      List.filter_eq_self.2 (fun draft _ => hall draft.val.timestamp)
    have hnone : drafts.countP (fun draft => window.excludes draft.val.timestamp) = 0 := by
      refine List.countP_eq_zero.2 (fun draft _ => ?_)
      have hcontains := hall draft.val.timestamp
      rw [Window.contains, Bool.not_eq_true'] at hcontains
      simp [hcontains]
    rw [hkept, hnone]
    rfl
  · rw [hwindow, bind_ok]
    rfl

/-- Every draft is kept or counted. -/
lemma length_kept_add_excluded (window : Window) (drafts : List EconomicActivityDraft) :
    (drafts.filter (fun draft => window.contains draft.val.timestamp)).length +
      drafts.countP (fun draft => window.excludes draft.val.timestamp) = drafts.length := by
  have hsplit := @List.length_eq_countP_add_countP EconomicActivityDraft
    (fun draft => window.excludes draft.val.timestamp) drafts
  have hcontains : ∀ draft : EconomicActivityDraft, window.contains draft.val.timestamp =
      decide ¬(window.excludes draft.val.timestamp = true) := by
    intro draft
    cases hexcludes : window.excludes draft.val.timestamp <;> simp [Window.contains, hexcludes]
  rw [← List.countP_eq_length_filter, Nat.add_comm, hsplit, funext hcontains]

end Normalization
end Tallylot
