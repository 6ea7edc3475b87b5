import Mathlib.Order.CompletePartialOrder
import Tallylot.Data.Day
import Tallylot.Domain.ValueObjects
import Tallylot.Translation.Overlap

/-!
# Coverage — windows of inventory entries, and the instants that they cover

An inventory entry gives its coverage window by two texts and a resolution.  A date-only window covers
whole days, a window of finer resolution the instants between its bounds.

`coverageRelation` compares the bounds themselves, and a bound of a date-only window is the midnight at
which its day starts.  `relationRespected_iff` says for which pairs the answer is right for the instants
that the windows cover.
-/

namespace Tallylot
namespace Translation

open Data Domain

/-! ## Windows of inventory entries -/

/-- What a coverage window is built from. -/
structure InventoryTimestamps where
  minTimestamp : String
  maxTimestamp : String
  timestampResolution : String
  deriving DecidableEq, Repr

/-- `_parse_inventory_timestamp` -/
def parseInventoryTimestamp (value : String) : Option Timestamp :=
  if strip value = "" then none
  else
    match parseTimestamp (strip value) with
    | .ok t => some ⟨t, some 0⟩
    | .error _ => none

/-- `_coverage_bounds_from_inventory_entry` -/
def coverageBoundsFromInventoryEntry (entry : InventoryTimestamps) :
    Option Timestamp × Option Timestamp × Option TemporalPrecision :=
  let precision : Option TemporalPrecision :=
    if entry.timestampResolution = "date_only" then some .date
    else if entry.minTimestamp ≠ "" ∨ entry.maxTimestamp ≠ "" then some .timestamp
    else none
  (parseInventoryTimestamp entry.minTimestamp, parseInventoryTimestamp entry.maxTimestamp, precision)

/-- `translation_input_coverage_from_inventory_entry` -/
def translationInputCoverageFromInventoryEntry (entry : InventoryTimestamps) :
    TranslationCoverageWindow :=
  match coverageBoundsFromInventoryEntry entry with
  | (none, none, _) => ⟨none, none, none, none, .unknown⟩
  | (none, some endAt, precision) => ⟨none, none, some endAt, precision, .unboundedStart⟩
  | (some startAt, none, precision) => ⟨some startAt, precision, none, none, .unboundedEnd⟩
  | (some startAt, some endAt, precision) =>
      ⟨some startAt, precision, some endAt, precision, .bounded⟩

/-! ## The instants that a window covers -/

namespace TranslationCoverageWindow

variable (w : TranslationCoverageWindow)

/-- The start bound that `coverage_bounds` compares. -/
def startBound : Instant := (w.startAt.map Timestamp.instant).getD minCoverageBound

/-- The end bound that `coverage_bounds` compares. -/
def endBound : Instant := (w.endAt.map Timestamp.instant).getD maxCoverageBound

def firstInstant : Instant :=
  if w.startPrecision = some .date then w.startBound.startOfDay else w.startBound

def lastInstant : Instant :=
  if w.endPrecision = some .date then w.endBound.endOfDay else w.endBound

/-- The instants of a window: whole days where its bounds are dates. -/
def instants : Set Instant := Set.Icc w.firstInstant w.lastInstant

/-- A bound of the window is a date. -/
def Dated : Prop := w.startPrecision = some .date ∨ w.endPrecision = some .date

instance : Decidable w.Dated := inferInstanceAs (Decidable (_ ∨ _))

end TranslationCoverageWindow

open TranslationCoverageWindow

/-- The answer of `coverage_relation` is right for the instants that the windows cover. -/
def RelationRespected (left right : TranslationCoverageWindow) : Prop :=
  match coverageRelation left right with
  | .disjoint => Disjoint left.instants right.instants
  | .equal => left.instants = right.instants
  | .contains => right.instants ⊆ left.instants
  | .within => left.instants ⊆ right.instants
  | .partially => True
  | .unknown => True

/-! ## Where bounds and instants part -/

/-- One window ends on the day on which the other one starts, earlier on that day, and one of the two
is date-only. -/
structure SplitsDay (before after : TranslationCoverageWindow) : Prop where
  endsBefore : before.endBound < after.startBound
  sameDay : before.endBound.dayRank = after.startBound.dayRank
  dated : before.Dated ∨ after.Dated

/-- A window of finer resolution starts after midnight on the first day of a date-only window, or
ends before the last instant of its last day. -/
structure CutsShort (outer inner : TranslationCoverageWindow) : Prop where
  innerDated : inner.Dated
  outerExact : ¬outer.Dated
  cut :
    (outer.startBound.dayRank = inner.startBound.dayRank ∧
        outer.startBound ≠ outer.startBound.startOfDay) ∨
      (outer.endBound.dayRank = inner.endBound.dayRank ∧ outer.endBound ≠ outer.endBound.endOfDay)

/-- One window ends before the other starts. -/
def BoundsApart (left right : TranslationCoverageWindow) : Prop :=
  left.endBound < right.startBound ∨ right.endBound < left.startBound

/-- The bounds of one window lie between those of the other. -/
def BoundsWithin (inner outer : TranslationCoverageWindow) : Prop :=
  outer.startBound ≤ inner.startBound ∧ inner.endBound ≤ outer.endBound

instance (left right : TranslationCoverageWindow) : Decidable (BoundsApart left right) :=
  inferInstanceAs (Decidable (_ ∨ _))

instance (inner outer : TranslationCoverageWindow) : Decidable (BoundsWithin inner outer) :=
  inferInstanceAs (Decidable (_ ∧ _))

/-- The pairs of windows that `coverage_relation` misreads. -/
inductive Misread (left right : TranslationCoverageWindow) : Prop
  | splitsDay (hleft : left.instants.Nonempty) (hright : right.instants.Nonempty)
      (h : SplitsDay left right ∨ SplitsDay right left)
  | contained (hright : right.instants.Nonempty) (hapart : ¬BoundsApart left right)
      (hwithin : BoundsWithin right left) (h : CutsShort left right)
  | containing (hleft : left.instants.Nonempty) (hapart : ¬BoundsApart left right)
      (hwithin : BoundsWithin left right)
      (hanswer : BoundsWithin right left → left.mode = right.mode) (h : CutsShort right left)

/-! ## Windows by their bounds -/

/-- The windows that inventory entries give. -/
def Built (w : TranslationCoverageWindow) : Prop :=
  ∃ entry, translationInputCoverageFromInventoryEntry entry = w

lemma startOfDay_minCoverageBound : minCoverageBound.startOfDay = minCoverageBound := rfl

lemma endOfDay_maxCoverageBound : maxCoverageBound.endOfDay = maxCoverageBound := rfl

/-- The instants of a built window lie between its bounds, read as days if the window is date-only. -/
lemma instants_of_built {w : TranslationCoverageWindow} :
    Built w →
      w.instants = Set.Icc (w.startBound.readFirst w.Dated) (w.endBound.readLast w.Dated) := by
  rintro ⟨entry, rfl⟩
  rcases hbounds : coverageBoundsFromInventoryEntry entry with ⟨_ | startAt, _ | endAt, precision⟩
  · simp [translationInputCoverageFromInventoryEntry, hbounds, instants, firstInstant, lastInstant,
      Dated, Instant.readFirst, Instant.readLast]
  · by_cases hdate : precision = some .date
    · simp [translationInputCoverageFromInventoryEntry, hbounds, instants, firstInstant,
        lastInstant, Dated, Instant.readFirst, Instant.readLast, hdate, startBound,
        startOfDay_minCoverageBound]
    · simp [translationInputCoverageFromInventoryEntry, hbounds, instants, firstInstant,
        lastInstant, Dated, Instant.readFirst, Instant.readLast, hdate]
  · by_cases hdate : precision = some .date
    · simp [translationInputCoverageFromInventoryEntry, hbounds, instants, firstInstant,
        lastInstant, Dated, Instant.readFirst, Instant.readLast, hdate, endBound,
        endOfDay_maxCoverageBound]
    · simp [translationInputCoverageFromInventoryEntry, hbounds, instants, firstInstant,
        lastInstant, Dated, Instant.readFirst, Instant.readLast, hdate]
  · by_cases hdate : precision = some .date
    · simp [translationInputCoverageFromInventoryEntry, hbounds, instants, firstInstant,
        lastInstant, Dated, Instant.readFirst, Instant.readLast, hdate]
    · simp [translationInputCoverageFromInventoryEntry, hbounds, instants, firstInstant,
        lastInstant, Dated, Instant.readFirst, Instant.readLast, hdate]

lemma le_maxCoverageBound (t : Instant) : t ≤ maxCoverageBound := by
  rcases t.valid with ⟨⟨_, hyear⟩, ⟨_, hmonth⟩, ⟨_, hday⟩, _⟩
  have hday' := lt_of_le_of_lt hday (Instant.daysInMonth_lt _ _)
  have hrank : t.dayRank ≤ maxCoverageBound.dayRank := by
    have hlast : maxCoverageBound.dayRank = (9999 * 13 + 12) * 32 + 31 := rfl
    rw [hlast, Instant.dayRank]
    omega
  rw [← endOfDay_maxCoverageBound]
  exact Instant.le_endOfDay_iff.2 hrank

lemma minCoverageBound_le (t : Instant) : minCoverageBound ≤ t := by
  rcases t.valid with ⟨⟨hyear, _⟩, ⟨hmonth, _⟩, ⟨hday, _⟩, _⟩
  have hrank : minCoverageBound.dayRank ≤ t.dayRank := by
    have hfirst : minCoverageBound.dayRank = (1 * 13 + 1) * 32 + 1 := rfl
    rw [hfirst, Instant.dayRank]
    omega
  rw [← startOfDay_minCoverageBound]
  exact Instant.startOfDay_le_iff.2 hrank

/-! ## Intervals -/

section Intervals

variable {α : Type*} [LinearOrder α] {a b c d : α}

lemma disjoint_Icc_iff :
    Disjoint (Set.Icc a b) (Set.Icc c d) ↔ ¬(a ≤ b ∧ c ≤ d ∧ a ≤ d ∧ c ≤ b) := by
  rw [Set.disjoint_iff_inter_eq_empty, Set.Icc_inter_Icc, Set.Icc_eq_empty_iff, sup_le_iff,
    le_inf_iff, le_inf_iff]
  refine not_congr ?_
  constructor
  · rintro ⟨⟨hab, had⟩, hcb, hcd⟩
    exact ⟨hab, hcd, had, hcb⟩
  · rintro ⟨hab, hcd, had, hcb⟩
    exact ⟨⟨hab, had⟩, hcb, hcd⟩

lemma subset_Icc_iff : Set.Icc c d ⊆ Set.Icc a b ↔ (c ≤ d → a ≤ c ∧ d ≤ b) := by
  constructor
  · intro h hcd
    exact (Set.Icc_subset_Icc_iff hcd).1 h
  · intro h t ht
    rcases h (ht.1.trans ht.2) with ⟨hac, hdb⟩
    exact ⟨hac.trans ht.1, ht.2.trans hdb⟩

end Intervals

/-! ## Right and wrong answers -/

section Pairs

variable {left right : TranslationCoverageWindow} (hleft : Built left) (hright : Built right)

lemma nonempty_iff {w : TranslationCoverageWindow} (hw : Built w) :
    w.instants.Nonempty ↔
      w.startBound ≤ w.endBound ∨ (w.Dated ∧ w.startBound.dayRank = w.endBound.dayRank) := by
  rw [instants_of_built hw, Set.nonempty_Icc, Instant.readFirst_le_readLast_iff, or_self]

/-- A window starts before another one ends: by the bounds, or on the same day. -/
def ReachesStart (early late : TranslationCoverageWindow) : Prop :=
  early.startBound ≤ late.endBound ∨
    ((early.Dated ∨ late.Dated) ∧ early.startBound.dayRank = late.endBound.dayRank)

lemma reachesStart_of_split (hne : left.instants.Nonempty) (hne' : right.instants.Nonempty)
    (hleft : Built left) (hright : Built right) (hsplit : SplitsDay left right) :
    ReachesStart left right := by
  have hbefore := Instant.dayRank_mono hsplit.endsBefore.le
  rcases le_or_gt left.startBound right.endBound with hle | hlt
  · exact Or.inl hle
  · -- The end of the later window precedes the start of the earlier one, so all is one day.
    have hlast := Instant.dayRank_mono hlt.le
    refine Or.inr ⟨hsplit.dated, ?_⟩
    have hfirst : left.startBound.dayRank ≤ left.endBound.dayRank := by
      rcases (nonempty_iff hleft).1 hne with h | h
      · exact Instant.dayRank_mono h
      · exact h.2.le
    have hend : right.startBound.dayRank ≤ right.endBound.dayRank := by
      rcases (nonempty_iff hright).1 hne' with h | h
      · exact Instant.dayRank_mono h
      · exact h.2.le
    have hday := hsplit.sameDay
    omega

include hleft hright

lemma not_disjoint_iff (hapart : BoundsApart left right) :
    ¬Disjoint left.instants right.instants ↔
      left.instants.Nonempty ∧ right.instants.Nonempty ∧
        (SplitsDay left right ∨ SplitsDay right left) := by
  have hsets : ¬Disjoint left.instants right.instants ↔
      left.instants.Nonempty ∧ right.instants.Nonempty ∧ ReachesStart left right ∧
        ReachesStart right left := by
    rw [instants_of_built hleft, instants_of_built hright, disjoint_Icc_iff, not_not,
      Set.nonempty_Icc, Set.nonempty_Icc, ReachesStart, ReachesStart,
      ← Instant.readFirst_le_readLast_iff, ← Instant.readFirst_le_readLast_iff]
  rw [hsets]
  refine and_congr_right (fun hne => and_congr_right (fun hne' => ?_))
  constructor
  · rintro ⟨hreach, hreach'⟩
    rcases hapart with hlt | hlt
    · rcases hreach' with hle | ⟨hdated, hday⟩
      · exact absurd hle (not_le.2 hlt)
      · exact Or.inl ⟨hlt, hday.symm, hdated.symm⟩
    · rcases hreach with hle | ⟨hdated, hday⟩
      · exact absurd hle (not_le.2 hlt)
      · exact Or.inr ⟨hlt, hday.symm, hdated.symm⟩
  · rintro (hsplit | hsplit)
    · exact ⟨reachesStart_of_split hne hne' hleft hright hsplit,
        Or.inr ⟨hsplit.dated.symm, hsplit.sameDay.symm⟩⟩
    · exact ⟨Or.inr ⟨hsplit.dated.symm, hsplit.sameDay.symm⟩,
        reachesStart_of_split hne' hne hright hleft hsplit⟩

/-- Bounds within bounds, and yet an instant outside. -/
lemma not_subset_iff (hwithin : BoundsWithin right left) :
    ¬right.instants ⊆ left.instants ↔ right.instants.Nonempty ∧ CutsShort left right := by
  have hstart := @Instant.readFirst_le_readFirst_iff left.Dated right.Dated _ _ _ _ hwithin.1
  have hend := @Instant.readLast_le_readLast_iff left.Dated right.Dated _ _ _ _ hwithin.2
  rw [instants_of_built hleft, instants_of_built hright, subset_Icc_iff, Set.nonempty_Icc, hstart,
    hend, Classical.not_imp]
  refine and_congr_right (fun _ => ?_)
  rw [← not_or, not_not]
  constructor
  · rintro (⟨hexact, hdated, hday, hne⟩ | ⟨hexact, hdated, hday, hne⟩)
    · exact ⟨hdated, hexact, Or.inl ⟨hday, hne⟩⟩
    · exact ⟨hdated, hexact, Or.inr ⟨hday, hne⟩⟩
  · rintro ⟨hdated, hexact, hcut⟩
    exact hcut.imp (fun h => ⟨hexact, hdated, h⟩) (fun h => ⟨hexact, hdated, h⟩)

end Pairs

/-! ## The answers of `coverage_relation` -/

section Answers

variable {left right : TranslationCoverageWindow}

lemma bounds_of_known (h : left.mode ≠ .unknown) :
    coverageBounds left = some (left.startBound, left.endBound) := if_neg h

lemma coverageRelation_of_known (hl : left.mode ≠ .unknown) (hr : right.mode ≠ .unknown) :
    coverageRelation left right =
      if BoundsApart left right then .disjoint
      else if (left.startBound, left.endBound) = (right.startBound, right.endBound) ∧
        left.mode = right.mode then .equal
      else if BoundsWithin right left then .contains
      else if BoundsWithin left right then .within
      else .partially := by
  simp only [coverageRelation, bounds_of_known hl, bounds_of_known hr]
  rfl

lemma coverageRelation_of_unknown (h : left.mode = .unknown ∨ right.mode = .unknown) :
    coverageRelation left right = .unknown := by
  rcases h with h | h
  · simp [coverageRelation, coverageBounds, h]
  · cases hl : coverageBounds left <;> simp [coverageRelation, coverageBounds, h]

/-- A built window of unknown coverage has no bounds. -/
lemma bounds_of_unknown (hleft : Built left) (h : left.mode = .unknown) :
    left.startBound = minCoverageBound ∧ left.endBound = maxCoverageBound ∧ ¬left.Dated := by
  rcases hleft with ⟨entry, rfl⟩
  rcases hbounds : coverageBoundsFromInventoryEntry entry with ⟨_ | startAt, _ | endAt, precision⟩
  · simp [translationInputCoverageFromInventoryEntry, hbounds, Dated, startBound, endBound]
  · simp [translationInputCoverageFromInventoryEntry, hbounds] at h
  · simp [translationInputCoverageFromInventoryEntry, hbounds] at h
  · simp [translationInputCoverageFromInventoryEntry, hbounds] at h

lemma not_splitsDay_of_unknown (hleft : Built left) (h : left.mode = .unknown) :
    ¬SplitsDay left right ∧ ¬SplitsDay right left := by
  rcases bounds_of_unknown hleft h with ⟨hstart, hend, _⟩
  constructor
  · intro hsplit
    exact absurd (hend ▸ hsplit.endsBefore) (not_lt.2 (le_maxCoverageBound _))
  · intro hsplit
    exact absurd (hstart ▸ hsplit.endsBefore) (not_lt.2 (minCoverageBound_le _))

lemma not_cutsShort_of_unknown (hleft : Built left) (h : left.mode = .unknown) :
    ¬CutsShort left right ∧ ¬CutsShort right left := by
  rcases bounds_of_unknown hleft h with ⟨hstart, hend, hdated⟩
  constructor
  · intro hcut
    rcases hcut.cut with ⟨_, hne⟩ | ⟨_, hne⟩
    · exact hne (by rw [hstart, startOfDay_minCoverageBound])
    · exact hne (by rw [hend, endOfDay_maxCoverageBound])
  · intro hcut
    exact hdated hcut.innerDated

lemma not_misread_of_unknown (hleft : Built left) (hright : Built right)
    (h : left.mode = .unknown ∨ right.mode = .unknown) : ¬Misread left right := by
  have hsplits : ¬SplitsDay left right ∧ ¬SplitsDay right left := by
    rcases h with h | h
    · exact not_splitsDay_of_unknown hleft h
    · exact (not_splitsDay_of_unknown hright h).symm
  have hcuts : ¬CutsShort left right ∧ ¬CutsShort right left := by
    rcases h with h | h
    · exact not_cutsShort_of_unknown hleft h
    · exact (not_cutsShort_of_unknown hright h).symm
  intro hmisread
  cases hmisread with
  | splitsDay _ _ hsplit => exact hsplit.elim hsplits.1 hsplits.2
  | contained _ _ _ hcut => exact hcuts.1 hcut
  | containing _ _ _ _ hcut => exact hcuts.2 hcut

lemma misread_iff_of_apart (hapart : BoundsApart left right) :
    Misread left right ↔
      left.instants.Nonempty ∧ right.instants.Nonempty ∧
        (SplitsDay left right ∨ SplitsDay right left) := by
  constructor
  · intro h
    cases h with
    | splitsDay hne hne' hsplit => exact ⟨hne, hne', hsplit⟩
    | contained _ hnot _ _ => exact absurd hapart hnot
    | containing _ hnot _ _ _ => exact absurd hapart hnot
  · rintro ⟨hne, hne', hsplit⟩
    exact Misread.splitsDay hne hne' hsplit

lemma misread_iff_of_not_apart (hapart : ¬BoundsApart left right) :
    Misread left right ↔
      (BoundsWithin right left ∧ right.instants.Nonempty ∧ CutsShort left right) ∨
        (BoundsWithin left right ∧ (BoundsWithin right left → left.mode = right.mode) ∧
          left.instants.Nonempty ∧ CutsShort right left) := by
  constructor
  · intro h
    cases h with
    | splitsDay _ _ hsplit =>
        refine absurd ?_ hapart
        exact hsplit.imp SplitsDay.endsBefore SplitsDay.endsBefore
    | contained hne _ hwithin hcut => exact Or.inl ⟨hwithin, hne, hcut⟩
    | containing hne _ hwithin hanswer hcut => exact Or.inr ⟨hwithin, hanswer, hne, hcut⟩
  · rintro (⟨hwithin, hne, hcut⟩ | ⟨hwithin, hanswer, hne, hcut⟩)
    · exact Misread.contained hne hapart hwithin hcut
    · exact Misread.containing hne hapart hwithin hanswer hcut

end Answers

lemma respected_iff_of_built {left right : TranslationCoverageWindow} (hleft : Built left)
    (hright : Built right) : RelationRespected left right ↔ ¬Misread left right := by
  by_cases hunknown : left.mode = .unknown ∨ right.mode = .unknown
  · have hanswer := coverageRelation_of_unknown hunknown
    refine iff_of_true ?_ (not_misread_of_unknown hleft hright hunknown)
    simp [RelationRespected, hanswer]
  rcases not_or.1 hunknown with ⟨hknown, hknown'⟩
  have hanswer := coverageRelation_of_known hknown hknown'
  by_cases hapart : BoundsApart left right
  · rw [if_pos hapart] at hanswer
    rw [misread_iff_of_apart hapart, ← not_disjoint_iff hleft hright hapart, not_not,
      RelationRespected, hanswer]
  rw [if_neg hapart] at hanswer
  rw [misread_iff_of_not_apart hapart]
  by_cases hsame : (left.startBound, left.endBound) = (right.startBound, right.endBound) ∧
      left.mode = right.mode
  · -- Equal bounds: both inclusions are claimed.
    rw [if_pos hsame] at hanswer
    have hbounds := Prod.mk.inj hsame.1
    have hwithin : BoundsWithin right left := ⟨hbounds.1.le, hbounds.2.ge⟩
    have hwithin' : BoundsWithin left right := ⟨hbounds.1.ge, hbounds.2.le⟩
    rw [RelationRespected, hanswer, ← not_subset_iff hleft hright hwithin,
      ← not_subset_iff hright hleft hwithin']
    simp only [hwithin, hwithin', hsame.2, true_and, implies_true]
    rw [not_or, not_not, not_not, and_comm]
    exact Set.Subset.antisymm_iff
  rw [if_neg hsame] at hanswer
  by_cases hwithin : BoundsWithin right left
  · rw [if_pos hwithin] at hanswer
    have hother : BoundsWithin left right → left.mode ≠ right.mode := by
      intro hwithin' hmode
      exact hsame ⟨Prod.ext (le_antisymm hwithin.1 hwithin'.1) (le_antisymm hwithin'.2 hwithin.2),
        hmode⟩
    rw [RelationRespected, hanswer, ← not_subset_iff hleft hright hwithin]
    simp only [hwithin, true_and, true_implies]
    constructor
    · rintro hsub (hno | ⟨hwithin', hmode, _⟩)
      · exact hno hsub
      · exact hother hwithin' hmode
    · intro hno
      by_contra hsub
      exact hno (Or.inl hsub)
  rw [if_neg hwithin] at hanswer
  by_cases hwithin' : BoundsWithin left right
  · rw [if_pos hwithin'] at hanswer
    rw [RelationRespected, hanswer, ← not_subset_iff hright hleft hwithin']
    simp [hwithin, hwithin']
  · rw [if_neg hwithin'] at hanswer
    simp [RelationRespected, hanswer, hwithin, hwithin']

/-- The answer is right for the covered instants unless the windows are misread. -/
theorem relationRespected_iff (leftEntry rightEntry : InventoryTimestamps) :
    RelationRespected (translationInputCoverageFromInventoryEntry leftEntry)
        (translationInputCoverageFromInventoryEntry rightEntry) ↔
      ¬Misread (translationInputCoverageFromInventoryEntry leftEntry)
        (translationInputCoverageFromInventoryEntry rightEntry) :=
  respected_iff_of_built ⟨leftEntry, rfl⟩ ⟨rightEntry, rfl⟩

/-- Noon on the fifth of January 2024. -/
def noon : Instant := ⟨2024, 1, 5, 12, 0, 0, 0, by decide⟩

/-- The window of a date-only export up to the fifth of January. -/
def dateOnlyWindow : TranslationCoverageWindow :=
  ⟨some ⟨⟨2024, 1, 1, 0, 0, 0, 0, Instant.isDay_newYear⟩, some 0⟩, some .date,
    some ⟨⟨2024, 1, 5, 0, 0, 0, 0, by decide⟩, some 0⟩, some .date, .bounded⟩

/-- The window of an export that starts at noon of that day. -/
def noonWindow : TranslationCoverageWindow :=
  ⟨some ⟨noon, some 0⟩, some .timestamp, some ⟨⟨2024, 1, 9, 8, 30, 0, 0, by decide⟩, some 0⟩,
    some .timestamp, .bounded⟩

/-- The two exports are told apart although the first covers all of the fifth. -/
theorem noon_not_respected :
    ¬RelationRespected
        (translationInputCoverageFromInventoryEntry
          ⟨"2024-01-01 00:00:00", "2024-01-05 00:00:00", "date_only"⟩)
        (translationInputCoverageFromInventoryEntry
          ⟨"2024-01-05 12:00:00", "2024-01-09 08:30:00", "second"⟩) := by
  have hleft : translationInputCoverageFromInventoryEntry
      ⟨"2024-01-01 00:00:00", "2024-01-05 00:00:00", "date_only"⟩ = dateOnlyWindow := by
    decide +kernel
  have hright : translationInputCoverageFromInventoryEntry
      ⟨"2024-01-05 12:00:00", "2024-01-09 08:30:00", "second"⟩ = noonWindow := by
    decide +kernel
  have hanswer : coverageRelation dateOnlyWindow noonWindow = .disjoint := by decide +kernel
  have hcovered : noon ∈ dateOnlyWindow.instants := by
    constructor <;> decide +kernel
  have hcovered' : noon ∈ noonWindow.instants := by
    constructor <;> decide +kernel
  rw [hleft, hright, RelationRespected, hanswer]
  intro hdisjoint
  exact Set.disjoint_left.1 hdisjoint hcovered hcovered'

end Translation
end Tallylot
