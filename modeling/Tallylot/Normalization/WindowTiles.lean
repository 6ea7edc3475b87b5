import Tallylot.Data.Seconds
import Tallylot.Normalization.NormalizeSource

/-!
# WindowTiles — a window and the two parts of it

A window from `start` to `stop` is cut at a second: the first part ends with it, the second part
starts with the next second.  Each of the three filters keeps in the parts what it keeps in the
whole, except for the drafts of the fractions between the two seconds (`windows_tile_iff`).
-/

namespace Tallylot
namespace Normalization

open Data Domain

/-! ## The law -/

/-- A filter keeps some items of a list and counts the others. -/
def Counts {α : Type} (items : List α) (result : List α × Nat) : Prop :=
  result.1.Sublist items ∧ result.1.length + result.2 = items.length

/-- Filtering by two windows keeps what filtering by the whole window keeps, each item once, as far
as items have a time; all three runs count what they leave out. -/
def Tiles {α : Type} (filter : NormalizeRequest → List α → Decoded (List α × Nat))
    (timed : α → Bool) (whole lower upper : NormalizeRequest) (items : List α) : Prop :=
  ∃ kept first second,
    filter whole items = .ok kept ∧ filter lower items = .ok first ∧
      filter upper items = .ok second ∧
      ((first.1 ++ second.1).filter timed).Perm (kept.1.filter timed) ∧
      Counts items kept ∧ Counts items first ∧ Counts items second

/-- A filter that leaves out the items with a mark. -/
def Marks {α : Type} (filter : NormalizeRequest → List α → Decoded (List α × Nat))
    (request : NormalizeRequest) (items : List α) (excluded : α → Bool) : Prop :=
  filter request items = .ok (items.filter (fun x => !excluded x), items.countP excluded)

lemma counts_of_marks {α : Type} (items : List α) (excluded : α → Bool) :
    Counts items (items.filter (fun x => !excluded x), items.countP excluded) := by
  refine ⟨List.filter_sublist, ?_⟩
  have hsplit := @List.length_eq_countP_add_countP α excluded items
  rw [hsplit, Nat.add_comm, ← List.countP_eq_length_filter]
  refine congrArg _ (List.countP_congr (fun x _ => ?_))
  cases excluded x <;> simp

/-- Marks of three windows tile exactly where no timed item of the whole is left out by both parts. -/
theorem tiles_iff_of_marks {α : Type} {filter : NormalizeRequest → List α → Decoded (List α × Nat)}
    {timed : α → Bool} {whole lower upper : NormalizeRequest} {items : List α}
    {out outLower outUpper : α → Bool} (hwhole : Marks filter whole items out)
    (hlower : Marks filter lower items outLower) (hupper : Marks filter upper items outUpper)
    (hinside : ∀ x ∈ items, timed x = true → out x = true → outLower x = true ∧ outUpper x = true)
    (hapart : ∀ x ∈ items, timed x = true → outLower x = true ∨ outUpper x = true) :
    Tiles filter timed whole lower upper items ↔
      ∀ x ∈ items, timed x = true → out x = false → outLower x = false ∨ outUpper x = false := by
  have hboth : ∀ excluded : α → Bool, (items.filter (fun x => !excluded x)).filter timed =
      items.filter (fun x => timed x && !excluded x) := fun _ => List.filter_filter
  have hperm : ((items.filter (fun x => !outLower x) ++ items.filter (fun x => !outUpper x)).filter
      timed).Perm ((items.filter (fun x => !out x)).filter timed) ↔
        ∀ x ∈ items, timed x = true → out x = false → outLower x = false ∨ outUpper x = false := by
    rw [List.filter_append, hboth, hboth, hboth, filter_append_perm_iff]
    · simp only [Bool.and_eq_true, Bool.not_eq_true']
      exact forall₂_congr (fun x _ => ⟨fun h ht ho => (h ⟨ht, ho⟩).imp And.right And.right,
        fun h hp => (h hp.1 hp.2).imp (And.intro hp.1) (And.intro hp.1)⟩)
    · intro x hx hq
      simp only [Bool.and_eq_true, Bool.not_eq_true'] at hq ⊢
      refine ⟨hq.1, Bool.eq_false_iff.2 (fun hout => ?_)⟩
      rw [(hinside x hx hq.1 hout).1] at hq
      cases hq.2
    · intro x hx hr
      simp only [Bool.and_eq_true, Bool.not_eq_true'] at hr ⊢
      refine ⟨hr.1, Bool.eq_false_iff.2 (fun hout => ?_)⟩
      rw [(hinside x hx hr.1 hout).2] at hr
      cases hr.2
    · intro x hx hq
      simp only [Bool.and_eq_true, Bool.not_eq_true'] at hq
      have hout := (hapart x hx hq.1).resolve_left (by rw [hq.2]; exact Bool.false_ne_true)
      rw [hout, Bool.not_true, Bool.and_false]
  constructor
  · rintro ⟨kept, first, second, hkept, hfirst, hsecond, hsame, _⟩
    rw [← Except.ok.inj (hwhole.symm.trans hkept), ← Except.ok.inj (hlower.symm.trans hfirst),
      ← Except.ok.inj (hupper.symm.trans hsecond)] at hsame
    exact hperm.1 hsame
  · intro h
    exact ⟨_, _, _, hwhole, hlower, hupper, hperm.2 h, counts_of_marks _ _, counts_of_marks _ _,
      counts_of_marks _ _⟩

/-! ## A window and its parts -/

/-- The texts of a window, and a second of it before its last one. -/
structure CutAt (s m e : String) (start mid stop : Instant) : Prop where
  startText : parseTimestamp s = .ok start
  midText : parseTimestamp m = .ok mid
  stopText : parseTimestamp e = .ok stop
  start_le : start ≤ mid
  mid_lt : mid < stop

lemma microsecond_of_parseTimestamp {text : String} {t : Instant} (h : parseTimestamp text = .ok t) :
    t.microsecond = 0 :=
  Instant.microsecond_of_readTimestamp (requireSome_eq_ok_iff.1 h)

lemma ne_empty_of_parseTimestamp {text : String} {t : Instant} (h : parseTimestamp text = .ok t) :
    text ≠ "" := by
  rintro rfl
  have hblank : (parseTimestamp "").isOk = false := by decide +kernel
  rw [h] at hblank
  cases hblank

/-- The bounds of a window of two texts. -/
lemma parseWindow_of_texts {a b : String} {t u : Instant} (ha : parseTimestamp a = .ok t)
    (hb : parseTimestamp b = .ok u) : parseWindow ⟨some a, some b⟩ = .ok ⟨some t, some u⟩ := by
  have hbound : ∀ {text : String} {time : Instant}, parseTimestamp text = .ok time →
      parseBound (some text) = .ok (some time) := by
    intro text time htext
    rw [parseBound]
    rw [if_neg (ne_empty_of_parseTimestamp htext), htext]
    rfl
  rw [parseWindow, hbound ha, bind_ok, hbound hb]
  rfl

lemma not_unbounded_of_text {a b : String} {t : Instant} (ha : parseTimestamp a = .ok t) :
    (NormalizeRequest.mk (some a) (some b)).unbounded = false := by
  rw [NormalizeRequest.unbounded, Bool.and_eq_false_iff]
  exact Or.inl (decide_eq_false (ne_empty_of_parseTimestamp ha))

lemma excludes_eq_false_iff {a b t : Instant} :
    (Window.mk (some a) (some b)).excludes t = false ↔ a ≤ t ∧ t ≤ b := by
  rw [Window.excludes, Bool.or_eq_false_iff, Option.any_some, Option.any_some,
    decide_eq_false_iff_not, decide_eq_false_iff_not, not_lt, not_lt]

section Cut

variable {s m e : String} {start mid next stop : Instant}

lemma CutAt.next_le (h : CutAt s m e start mid stop) (hnext : mid.nextSecond = some next) :
    next ≤ stop :=
  (Instant.nextSecond_le_iff (microsecond_of_parseTimestamp h.midText)
    (microsecond_of_parseTimestamp h.stopText) hnext).2 h.mid_lt

lemma CutAt.upperText (h : CutAt s m e start mid stop) (hnext : mid.nextSecond = some next) :
    parseTimestamp next.timestampText = .ok next := by
  have hwhole : next.microsecond = 0 := by
    rw [Instant.microsecond_nextSecond hnext, microsecond_of_parseTimestamp h.midText]
  rw [parseTimestamp_text, (Instant.wholeSecond_eq_iff next).2 hwhole]

/-- What the whole window excludes, both parts exclude. -/
lemma CutAt.inside (h : CutAt s m e start mid stop) (hnext : mid.nextSecond = some next)
    {t : Instant} (hout : (Window.mk (some start) (some stop)).excludes t = true) :
    (Window.mk (some start) (some mid)).excludes t = true ∧
      (Window.mk (some next) (some stop)).excludes t = true := by
  rw [← Bool.not_eq_false, excludes_eq_false_iff] at hout ⊢
  rw [← Bool.not_eq_false, excludes_eq_false_iff]
  refine ⟨fun hin => hout ⟨hin.1, hin.2.trans h.mid_lt.le⟩, fun hin => hout ⟨?_, hin.2⟩⟩
  calc
    start ≤ mid := h.start_le
    _ ≤ next := (Instant.lt_nextSecond hnext).le
    _ ≤ t := hin.1

/-- No time lies in both parts. -/
lemma apart_of_next (hnext : mid.nextSecond = some next) (t : Instant) :
    (Window.mk (some start) (some mid)).excludes t = true ∨
      (Window.mk (some next) (some stop)).excludes t = true := by
  by_contra hboth
  rw [not_or, Bool.not_eq_true, Bool.not_eq_true, excludes_eq_false_iff, excludes_eq_false_iff] at hboth
  exact absurd (hboth.2.1.trans hboth.1.2) (not_le_of_gt (Instant.lt_nextSecond hnext))

/-- A time of the whole window lies in a part unless it is a fraction of the second at the cut. -/
lemma CutAt.covered_iff (h : CutAt s m e start mid stop) (hnext : mid.nextSecond = some next)
    (t : Instant) :
    ((Window.mk (some start) (some stop)).excludes t = false →
        (Window.mk (some start) (some mid)).excludes t = false ∨
          (Window.mk (some next) (some stop)).excludes t = false) ↔
      ¬(mid < t ∧ t < next) := by
  simp only [excludes_eq_false_iff]
  constructor
  · rintro hcovered ⟨hlow, hhigh⟩
    rcases hcovered ⟨h.start_le.trans hlow.le, (hhigh.trans_le (h.next_le hnext)).le⟩ with hin | hin
    · exact absurd hlow (not_lt_of_ge hin.2)
    · exact absurd hhigh (not_lt_of_ge hin.1)
  · intro hfraction hin
    rcases le_or_gt t mid with hlow | hlow
    · exact Or.inl ⟨hin.1, hlow⟩
    · exact Or.inr ⟨le_of_not_gt (fun hhigh => hfraction ⟨hlow, hhigh⟩), hin.2⟩

/-- A whole second is no fraction of the second at the cut. -/
lemma CutAt.whole (h : CutAt s m e start mid stop) (hnext : mid.nextSecond = some next) {t : Instant}
    (ht : t.microsecond = 0) : ¬(mid < t ∧ t < next) := by
  rintro ⟨hlow, hhigh⟩
  have hle := (Instant.nextSecond_le_iff (microsecond_of_parseTimestamp h.midText) ht hnext).2 hlow
  exact absurd hhigh (not_lt_of_ge hle)

end Cut

/-! ## Drafts -/

lemma marks_drafts {a b : String} {t u : Instant} (ha : parseTimestamp a = .ok t)
    (hb : parseTimestamp b = .ok u) (drafts : List EconomicActivityDraft) :
    Marks filterDraftsByWindow ⟨some a, some b⟩ drafts
      (fun draft => (Window.mk (some t) (some u)).excludes draft.val.timestamp) :=
  filterDrafts_eq_ok (parseWindow_of_texts ha hb) drafts

/-! ## Issues and reviews -/

/-- A filter whose marks are all read. -/
lemma filterRecords_eq_ok {α : Type} {excludes : α → Decoded Bool} {excluded : α → Bool}
    {records : List α} (h : ∀ x ∈ records, excludes x = .ok (excluded x)) :
    filterRecords excludes records =
      .ok (records.filter (fun x => !excluded x), records.countP excluded) := by
  have hmarks : records.mapM excludes = .ok (records.map excluded) := by
    induction records with
    | nil => rfl
    | cons x records ih =>
        rw [List.mapM_cons, h x List.mem_cons_self, bind_ok,
          ih (fun y hy => h y (List.mem_cons_of_mem _ hy))]
        rfl
  have hkept : ((records.zip (records.map excluded)).filter (fun p => !p.2)).map Prod.fst =
      records.filter (fun x => !excluded x) := by
    have hzip : records.zip (records.map excluded) = records.map (fun x => (x, excluded x)) := by
      have hpair := List.zip_map' (f := id) (g := excluded) (l := records)
      rwa [List.map_id] at hpair
    rw [hzip, List.filter_map, List.map_map]
    exact List.map_id _
  have hcount : (records.map excluded).countP id = records.countP excluded := by
    rw [List.countP_map, Function.id_comp]
  rw [filterRecords, hmarks, bind_ok, hkept, hcount]
  rfl

/-- Blank, or in the format that times are written in. -/
def CanonicalContext (text : String) : Prop := text = "" ∨ ∃ t : Instant, text = t.timestampText

/-- A time that a window excludes; blank texts have none. -/
def contextExcluded (window : Window) (text : String) : Bool :=
  match parseTimestamp text with
  | .ok time => window.excludes time
  | .error _ => false

def issueExcluded (window : Window) (issue : IssueRecord) : Bool :=
  if issue.contextTimestamp = "" then isActivityScopedIssue issue
  else contextExcluded window issue.contextTimestamp

def timedIssue (issue : IssueRecord) : Bool := issue.contextTimestamp ≠ ""

def reviewExcluded (window : Window) (review : NormalizationReviewRecord) : Bool :=
  if review.scope = "dataset" then false
  else if review.contextTimestamp = "" then true
  else contextExcluded window review.contextTimestamp

/-- Reviews with a time, those of the whole dataset aside. -/
def timedReview (review : NormalizationReviewRecord) : Bool :=
  review.scope ≠ "dataset" && review.contextTimestamp ≠ ""

lemma parse_of_canonical {text : String} (h : CanonicalContext text) (hne : text ≠ "") :
    ∃ t : Instant, t.microsecond = 0 ∧ parseTimestamp text = .ok t := by
  rcases h with h | ⟨t, rfl⟩
  · exact absurd h hne
  · exact ⟨t.wholeSecond, rfl, parseTimestamp_text t⟩

lemma excludesIssue_eq_ok {window : Window} {issue : IssueRecord}
    (h : CanonicalContext issue.contextTimestamp) :
    excludesIssue window issue = .ok (issueExcluded window issue) := by
  rw [excludesIssue, issueExcluded]
  by_cases hblank : issue.contextTimestamp = ""
  · rw [if_pos hblank, if_pos hblank]
    rfl
  · rcases parse_of_canonical h hblank with ⟨t, _, ht⟩
    rw [if_neg hblank, if_neg hblank, contextExcluded, ht]
    rfl

lemma excludesReview_eq_ok {window : Window} {review : NormalizationReviewRecord}
    (h : CanonicalContext review.contextTimestamp) :
    excludesReview window review = .ok (reviewExcluded window review) := by
  rw [excludesReview, reviewExcluded]
  by_cases hscope : review.scope = "dataset"
  · rw [if_pos hscope, if_pos hscope]
    rfl
  · rw [if_neg hscope, if_neg hscope]
    by_cases hblank : review.contextTimestamp = ""
    · rw [if_pos hblank, if_pos hblank]
      rfl
    · rcases parse_of_canonical h hblank with ⟨t, _, ht⟩
      rw [if_neg hblank, if_neg hblank, contextExcluded, ht]
      rfl

section Records

variable {a b : String} {t u : Instant} (ha : parseTimestamp a = .ok t)
  (hb : parseTimestamp b = .ok u)

include ha hb

lemma marks_issues {issues : List IssueRecord}
    (hissues : ∀ issue ∈ issues, CanonicalContext issue.contextTimestamp) :
    Marks filterIssuesByWindow ⟨some a, some b⟩ issues (issueExcluded ⟨some t, some u⟩) := by
  rw [Marks, filterIssuesByWindow, not_unbounded_of_text ha, if_neg Bool.false_ne_true,
    parseWindow_of_texts ha hb, bind_ok]
  exact filterRecords_eq_ok (fun issue hissue => excludesIssue_eq_ok (hissues issue hissue))

lemma marks_reviews {reviews : List NormalizationReviewRecord}
    (hreviews : ∀ review ∈ reviews, CanonicalContext review.contextTimestamp) :
    Marks filterReviewsByWindow ⟨some a, some b⟩ reviews (reviewExcluded ⟨some t, some u⟩) := by
  rw [Marks, filterReviewsByWindow, not_unbounded_of_text ha, if_neg Bool.false_ne_true,
    parseWindow_of_texts ha hb, bind_ok]
  exact filterRecords_eq_ok (fun review hreview => excludesReview_eq_ok (hreviews review hreview))

end Records

/-! ## The three filters -/

section Filters

variable {s m e : String} {start mid next stop : Instant}
  (h : CutAt s m e start mid stop) (hnext : mid.nextSecond = some next)

include h hnext

theorem drafts_tile_iff (drafts : List EconomicActivityDraft) :
    Tiles filterDraftsByWindow (fun _ => true) ⟨some s, some e⟩ ⟨some s, some m⟩
        ⟨some next.timestampText, some e⟩ drafts ↔
      ∀ draft ∈ drafts, ¬(mid < draft.val.timestamp ∧ draft.val.timestamp < next) := by
  rw [tiles_iff_of_marks (marks_drafts h.startText h.stopText drafts)
    (marks_drafts h.startText h.midText drafts)
    (marks_drafts (h.upperText hnext) h.stopText drafts)
    (fun _ _ _ hout => h.inside hnext hout) (fun _ _ _ => apart_of_next hnext _)]
  refine forall₂_congr (fun draft _ => ?_)
  rw [← h.covered_iff hnext]
  exact ⟨fun hcovered => hcovered rfl, fun hcovered _ => hcovered⟩

/-- Filters whose timed items are marked by the whole seconds of their contexts tile. -/
lemma tiles_of_contexts {α : Type} {filter : NormalizeRequest → List α → Decoded (List α × Nat)}
    {timed : α → Bool} {excluded : Window → α → Bool} {items : List α}
    (hmarks : ∀ {a b : String} {t u : Instant}, parseTimestamp a = .ok t → parseTimestamp b = .ok u →
      Marks filter ⟨some a, some b⟩ items (excluded ⟨some t, some u⟩))
    (htimed : ∀ x ∈ items, timed x = true → ∃ t : Instant, t.microsecond = 0 ∧
      ∀ window, excluded window x = window.excludes t) :
    Tiles filter timed ⟨some s, some e⟩ ⟨some s, some m⟩ ⟨some next.timestampText, some e⟩ items := by
  refine (tiles_iff_of_marks (hmarks h.startText h.stopText) (hmarks h.startText h.midText)
    (hmarks (h.upperText hnext) h.stopText) ?_ ?_).2 ?_
  · intro x hx ht hout
    rcases htimed x hx ht with ⟨t, _, hexcluded⟩
    rw [hexcluded] at hout ⊢
    rw [hexcluded]
    exact h.inside hnext hout
  · intro x hx ht
    rcases htimed x hx ht with ⟨t, _, hexcluded⟩
    rw [hexcluded, hexcluded]
    exact apart_of_next hnext t
  · intro x hx ht
    rcases htimed x hx ht with ⟨t, hwhole, hexcluded⟩
    rw [hexcluded, hexcluded, hexcluded]
    exact (h.covered_iff hnext t).2 (h.whole hnext hwhole)

theorem issues_tile {issues : List IssueRecord}
    (hissues : ∀ issue ∈ issues, CanonicalContext issue.contextTimestamp) :
    Tiles filterIssuesByWindow timedIssue ⟨some s, some e⟩ ⟨some s, some m⟩
      ⟨some next.timestampText, some e⟩ issues := by
  refine tiles_of_contexts h hnext (fun ha hb => marks_issues ha hb hissues) ?_
  intro issue hissue htimed
  have hne : issue.contextTimestamp ≠ "" := of_decide_eq_true htimed
  rcases parse_of_canonical (hissues issue hissue) hne with ⟨t, hwhole, ht⟩
  refine ⟨t, hwhole, fun window => ?_⟩
  rw [issueExcluded, if_neg hne, contextExcluded, ht]

theorem reviews_tile {reviews : List NormalizationReviewRecord}
    (hreviews : ∀ review ∈ reviews, CanonicalContext review.contextTimestamp) :
    Tiles filterReviewsByWindow timedReview ⟨some s, some e⟩ ⟨some s, some m⟩
      ⟨some next.timestampText, some e⟩ reviews := by
  refine tiles_of_contexts h hnext (fun ha hb => marks_reviews ha hb hreviews) ?_
  intro review hreview htimed
  rw [timedReview, Bool.and_eq_true, decide_eq_true_eq, decide_eq_true_eq] at htimed
  rcases parse_of_canonical (hreviews review hreview) htimed.2 with ⟨t, hwhole, ht⟩
  refine ⟨t, hwhole, fun window => ?_⟩
  rw [reviewExcluded, if_neg htimed.1, if_neg htimed.2, contextExcluded, ht]

end Filters

/-- The parts of a window keep what the whole window keeps, in all three filters. -/
structure WindowsTile (whole lower upper : NormalizeRequest) (drafts : List EconomicActivityDraft)
    (issues : List IssueRecord) (reviews : List NormalizationReviewRecord) : Prop where
  drafts : Tiles filterDraftsByWindow (fun _ => true) whole lower upper drafts
  issues : Tiles filterIssuesByWindow timedIssue whole lower upper issues
  reviews : Tiles filterReviewsByWindow timedReview whole lower upper reviews

/-- A window tiles at a second exactly where no draft lies between that second and the next one. -/
theorem windows_tile_iff {s m e : String} {start mid stop : Instant}
    (h : CutAt s m e start mid stop) (drafts : List EconomicActivityDraft)
    {issues : List IssueRecord} {reviews : List NormalizationReviewRecord}
    (hissues : ∀ issue ∈ issues, CanonicalContext issue.contextTimestamp)
    (hreviews : ∀ review ∈ reviews, CanonicalContext review.contextTimestamp) :
    ∃ next, mid.nextSecond = some next ∧
      (WindowsTile ⟨some s, some e⟩ ⟨some s, some m⟩ ⟨some next.timestampText, some e⟩ drafts issues
          reviews ↔
        ∀ draft ∈ drafts, ¬(mid < draft.val.timestamp ∧ draft.val.timestamp < next)) := by
  rcases Instant.exists_nextSecond (microsecond_of_parseTimestamp h.midText)
    (microsecond_of_parseTimestamp h.stopText) h.mid_lt with ⟨next, hnext⟩
  refine ⟨next, hnext, ?_⟩
  constructor
  · intro htile
    exact (drafts_tile_iff h hnext drafts).1 htile.drafts
  · intro hdrafts
    exact ⟨(drafts_tile_iff h hnext drafts).2 hdrafts, issues_tile h hnext hissues,
      reviews_tile h hnext hreviews⟩

/-! ## A draft between two seconds -/

def lastMidnight : Instant := ⟨2023, 12, 31, 0, 0, 0, 0, by decide⟩

def lastSecond : Instant := ⟨2023, 12, 31, 23, 59, 59, 0, by decide⟩

/-- Half a second before the new year. -/
def lastFraction : Instant := ⟨2023, 12, 31, 23, 59, 59, 500000, by decide⟩

def endOfNextYear : Instant := ⟨2024, 12, 31, 23, 59, 59, 0, by decide⟩

lemma newYearCut : CutAt "2023-12-31 00:00:00" "2023-12-31 23:59:59" "2024-12-31 23:59:59"
    lastMidnight lastSecond endOfNextYear where
  startText := by decide +kernel
  midText := by decide +kernel
  stopText := by decide +kernel
  start_le := by decide
  mid_lt := by decide

lemma nextSecond_newYear : lastSecond.nextSecond = some firstOfJanuary := by decide +kernel

def statementIssue : IssueRecord where
  issueId := "coinbase:statement"
  source := "coinbase"
  adapterId := "coinbase"
  severity := "high"
  kind := "unsupported_row"
  message := "unsupported row"
  contextTimestamp := lastSecond.timestampText
  rawRowRef := "row:2"

def rowReview : NormalizationReviewRecord where
  reviewId := "coinbase:row"
  source := "coinbase"
  adapterId := "coinbase"
  scope := "row"
  kind := "timestamp_review"
  message := "review required"
  contextTimestamp := firstOfJanuary.timestampText

lemma canonicalContexts_statement :
    ∀ issue ∈ [statementIssue], CanonicalContext issue.contextTimestamp := by
  intro issue hissue
  rw [List.mem_singleton.1 hissue]
  exact .inr ⟨lastSecond, rfl⟩

lemma canonicalContexts_review :
    ∀ review ∈ [rowReview], CanonicalContext review.contextTimestamp := by
  intro review hreview
  rw [List.mem_singleton.1 hreview]
  exact .inr ⟨firstOfJanuary, rfl⟩

lemma rewardDraft_not_between :
    ∀ draft ∈ [rewardDraft],
      ¬(lastSecond < draft.val.timestamp ∧ draft.val.timestamp < firstOfJanuary) := by
  intro draft hdraft
  rw [List.mem_singleton.1 hdraft]
  exact fun hbetween => absurd hbetween.2 (lt_irrefl firstOfJanuary)

/-- A draft of the new year, an issue of the last second and a review of the new year. -/
theorem windows_tile_iff_newYear :
    WindowsTile ⟨some "2023-12-31 00:00:00", some "2024-12-31 23:59:59"⟩
      ⟨some "2023-12-31 00:00:00", some "2023-12-31 23:59:59"⟩
      ⟨some firstOfJanuary.timestampText, some "2024-12-31 23:59:59"⟩ [rewardDraft] [statementIssue]
      [rowReview] := by
  rcases windows_tile_iff newYearCut [rewardDraft] canonicalContexts_statement
    canonicalContexts_review with ⟨next, hnext, htile⟩
  rw [Option.some.inj (hnext.symm.trans nextSecond_newYear)] at htile
  exact htile.2 rewardDraft_not_between

def fractionDraft : EconomicActivityDraft :=
  ⟨{ rewardDraftFields with timestamp := lastFraction },
    { rewardDraftFields with timestamp := lastFraction }, rfl⟩

/-- The draft lies in the whole window, but in neither part. -/
theorem fraction_between_windows :
    CutAt "2023-12-31 00:00:00" "2023-12-31 23:59:59" "2024-12-31 23:59:59" lastMidnight lastSecond
        endOfNextYear ∧
      lastSecond.nextSecond = some firstOfJanuary ∧
      ¬WindowsTile ⟨some "2023-12-31 00:00:00", some "2024-12-31 23:59:59"⟩
        ⟨some "2023-12-31 00:00:00", some "2023-12-31 23:59:59"⟩
        ⟨some firstOfJanuary.timestampText, some "2024-12-31 23:59:59"⟩ [fractionDraft] [] [] := by
  refine ⟨newYearCut, nextSecond_newYear, fun htile => ?_⟩
  have hdrafts := (drafts_tile_iff newYearCut nextSecond_newYear [fractionDraft]).1 htile.drafts
  exact hdrafts fractionDraft (List.mem_singleton.2 rfl) ⟨by decide, by decide⟩

end Normalization
end Tallylot
