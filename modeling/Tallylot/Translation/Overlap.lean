import Tallylot.Data.Components
import Tallylot.Translation.Inputs
import Mathlib.Data.List.Dedup

/-!
# Overlap — coverage windows and their overlap components

Two windows of aware bounds are related by these, where a missing bound is the least or the greatest
instant.
`overlapComponents` splits the candidates of a group into the components of the graph whose edges
join candidates that are not coverage-disjoint.
-/

namespace Tallylot
namespace Translation

open Data

/-! ## Coverage windows -/

def minCoverageBound : Instant := ⟨1, 1, 1, 0, 0, 0, 0, Instant.isDay_min⟩

def maxCoverageBound : Instant := ⟨9999, 12, 31, 23, 59, 59, 999999, by decide⟩

inductive CoverageRelation
  | disjoint
  | equal
  | contains
  | within
  | partially
  | unknown
  deriving DecidableEq, Repr

/-- The bounds of a validated window, which are aware. -/
def coverageBounds (coverage : TranslationCoverageWindow) : Option (Instant × Instant) :=
  if coverage.mode = .unknown then none
  else
    some
      ((coverage.startAt.map Timestamp.instant).getD minCoverageBound,
        (coverage.endAt.map Timestamp.instant).getD maxCoverageBound)

def coverageRelation (left right : TranslationCoverageWindow) : CoverageRelation :=
  match coverageBounds left, coverageBounds right with
  | some (leftStart, leftEnd), some (rightStart, rightEnd) =>
      if leftEnd < rightStart ∨ rightEnd < leftStart then .disjoint
      else if (leftStart, leftEnd) = (rightStart, rightEnd) ∧ left.mode = right.mode then .equal
      else if leftStart ≤ rightStart ∧ rightEnd ≤ leftEnd then .contains
      else if rightStart ≤ leftStart ∧ leftEnd ≤ rightEnd then .within
      else .partially
  | _, _ => .unknown

/-- The bounds of `inner` lie between those of `outer`. -/
def CoverageWithin (inner outer : TranslationCoverageWindow) : Prop :=
  ∃ i o, coverageBounds inner = some i ∧ coverageBounds outer = some o ∧ o.1 ≤ i.1 ∧ i.2 ≤ o.2

lemma coverageRelation_disjoint_iff (left right : TranslationCoverageWindow) :
    coverageRelation left right = .disjoint ↔
      ∃ l r, coverageBounds left = some l ∧ coverageBounds right = some r ∧
        (l.2 < r.1 ∨ r.2 < l.1) := by
  unfold coverageRelation
  cases hl : coverageBounds left with
  | none => simp
  | some l =>
      cases hr : coverageBounds right with
      | none => simp
      | some r =>
          by_cases hd : l.2 < r.1 ∨ r.2 < l.1
          · simp [hd]
          · refine iff_of_false ?_ (by simpa using hd)
            simp only [if_neg hd]
            split_ifs <;> simp

lemma coverageRelation_disjoint_comm (left right : TranslationCoverageWindow) :
    coverageRelation left right = .disjoint ↔ coverageRelation right left = .disjoint := by
  rw [coverageRelation_disjoint_iff, coverageRelation_disjoint_iff]
  constructor
  · rintro ⟨l, r, hl, hr, h⟩
    exact ⟨r, l, hr, hl, h.symm⟩
  · rintro ⟨r, l, hr, hl, h⟩
    exact ⟨l, r, hl, hr, h.symm⟩

lemma instants_of_clocks {left right : Option Timestamp}
    (h : left.map Timestamp.clock = right.map Timestamp.clock) :
    left.map Timestamp.instant = right.map Timestamp.instant := by
  have hinstant : Timestamp.instant = (fun clock => (ofLex clock).2) ∘ Timestamp.clock := rfl
  rw [hinstant, ← Option.map_map, ← Option.map_map, h]

lemma coverageBounds_eq_of_same {left right : TranslationCoverageWindow}
    (h : left.same right = true) : coverageBounds left = coverageBounds right := by
  simp only [TranslationCoverageWindow.same, Bool.and_eq_true, decide_eq_true_eq] at h
  simp only [coverageBounds, instants_of_clocks h.1.1.1.1, instants_of_clocks h.1.1.2, h.2]

/-! ## Pairs -/

/-- `combinations(items, 2)` -/
def combinations {α : Type} : List α → List (α × α)
  | [] => []
  | x :: xs => xs.map (fun y => (x, y)) ++ combinations xs

lemma mem_of_combinations {α : Type} {xs : List α} {p : α × α} :
    p ∈ combinations xs → p.1 ∈ xs ∧ p.2 ∈ xs := by
  intro h
  induction xs with
  | nil => simp [combinations] at h
  | cons x xs ih =>
      rcases List.mem_append.1 h with h | h
      · rcases List.mem_map.1 h with ⟨y, hy, rfl⟩
        exact ⟨List.mem_cons_self, List.mem_cons_of_mem _ hy⟩
      · exact ⟨List.mem_cons_of_mem _ (ih h).1, List.mem_cons_of_mem _ (ih h).2⟩

lemma ne_of_combinations {α κ : Type} {key : α → κ} {xs : List α} {p : α × α}
    (hnd : (xs.map key).Nodup) : p ∈ combinations xs → key p.1 ≠ key p.2 := by
  intro h
  induction xs with
  | nil => simp [combinations] at h
  | cons x xs ih =>
      have hx := List.nodup_cons.1 hnd
      rcases List.mem_append.1 h with h | h
      · rcases List.mem_map.1 h with ⟨y, hy, rfl⟩
        intro heq
        exact hx.1 (List.mem_map.2 ⟨y, hy, heq.symm⟩)
      · exact ih hx.2 h

lemma combinations_of_mem {α : Type} {xs : List α} {x y : α} (hxy : x ≠ y) :
    x ∈ xs → y ∈ xs → (x, y) ∈ combinations xs ∨ (y, x) ∈ combinations xs := by
  intro hx hy
  induction xs with
  | nil => cases hx
  | cons z xs ih =>
      simp only [combinations, List.mem_append, List.mem_map, Prod.mk.injEq]
      rcases List.mem_cons.1 hx with rfl | hx'
      · rcases List.mem_cons.1 hy with rfl | hy'
        · exact absurd rfl hxy
        · exact Or.inl (Or.inl ⟨y, hy', rfl, rfl⟩)
      · rcases List.mem_cons.1 hy with rfl | hy'
        · exact Or.inr (Or.inl ⟨x, hx', rfl, rfl⟩)
        · rcases ih hx' hy' with h | h
          · exact Or.inl (Or.inr h)
          · exact Or.inr (Or.inr h)

/-- The pairs of a list in a strict order are the ordered pairs of its elements. -/
theorem mem_combinations_iff_of_pairwise {α : Type} {R : α → α → Prop} (hasymm : ∀ a b, R a b → ¬R b a)
    {xs : List α} (hxs : xs.Pairwise R) {x y : α} :
    (x, y) ∈ combinations xs ↔ x ∈ xs ∧ y ∈ xs ∧ R x y := by
  induction xs with
  | nil => simp [combinations]
  | cons z xs ih =>
      rcases List.pairwise_cons.1 hxs with ⟨hz, htail⟩
      rw [combinations, List.mem_append, ih htail]
      constructor
      · rintro (h | ⟨hx, hy, hR⟩)
        · rcases List.mem_map.1 h with ⟨w, hw, heq⟩
          rw [← (Prod.mk.inj heq).1, ← (Prod.mk.inj heq).2]
          exact ⟨List.mem_cons_self, List.mem_cons_of_mem _ hw, hz w hw⟩
        · exact ⟨List.mem_cons_of_mem _ hx, List.mem_cons_of_mem _ hy, hR⟩
      · rintro ⟨hx, hy, hR⟩
        rcases List.mem_cons.1 hx with hxz | hx
        · rcases List.mem_cons.1 hy with hyz | hy
          · rw [hxz, hyz] at hR
            exact absurd hR (hasymm _ _ hR)
          · exact Or.inl (List.mem_map.2 ⟨y, hy, by rw [hxz]⟩)
        · rcases List.mem_cons.1 hy with hyz | hy
          · rw [hyz] at hR
            exact absurd hR (hasymm _ _ (hz x hx))
          · exact Or.inr ⟨hx, hy, hR⟩

lemma nodup_combinations {α : Type} {xs : List α} (hxs : xs.Nodup) : (combinations xs).Nodup := by
  induction xs with
  | nil => simp [combinations]
  | cons x xs ih =>
      rcases List.nodup_cons.1 hxs with ⟨hx, htail⟩
      rw [combinations]
      refine List.Nodup.append (htail.map (fun a b h => (Prod.mk.inj h).2)) (ih htail) ?_
      intro p hp hp'
      rcases List.mem_map.1 hp with ⟨y, _, rfl⟩
      exact hx (mem_of_combinations hp').1

/-! ## Overlap components -/

/-- `adjacency[candidate_id]`, a set in the source. -/
def adjacency (candidates : List TranslationInputCandidate) (candidateId : String) : List String :=
  (combinations candidates).flatMap (fun p =>
    if coverageRelation p.1.coverage p.2.coverage = .disjoint then []
    else
      (if p.1.candidateId = candidateId then [p.2.candidateId] else []) ++
        (if p.2.candidateId = candidateId then [p.1.candidateId] else []))

/-- What a visit pushes: `sorted(adjacency[candidate_id] - seen)`, the last one on top. -/
def pushed (candidates : List TranslationInputCandidate) (seen : List String)
    (candidateId : String) : List String :=
  (sortedOn id (((adjacency candidates candidateId).dedup).filter (fun i => i ∉ seen))).reverse

def candidateById (candidates : List TranslationInputCandidate) :
    Dict String TranslationInputCandidate :=
  Dict.ofList (candidates.map (fun c => (c.candidateId, c)))

def componentCandidates (candidates : List TranslationInputCandidate) (componentIds : List String) :
    List TranslationInputCandidate :=
  sortedOn TranslationInputCandidate.candidateId
    (componentIds.filterMap (candidateById candidates).get?)

/-- `none` would mean that the traversal ran out of fuel (`overlapComponents_spec`: it does not). -/
def overlapComponents (candidates : List TranslationInputCandidate) :
    Option (List (List TranslationInputCandidate)) :=
  let ids := candidates.map TranslationInputCandidate.candidateId
  (components (pushed candidates) (traversalFuel ids) ids []).map (fun parts =>
    parts.map (componentCandidates candidates))

/-- Two different candidates of a list whose windows are not disjoint. -/
def Overlapping (candidates : List TranslationInputCandidate)
    (left right : TranslationInputCandidate) : Prop :=
  left ∈ candidates ∧ right ∈ candidates ∧ left.candidateId ≠ right.candidateId ∧
    coverageRelation left.coverage right.coverage ≠ .disjoint

/-- Two candidates of a list whose windows are not disjoint; a candidate may touch itself. -/
def Touching (candidates : List TranslationInputCandidate)
    (left right : TranslationInputCandidate) : Prop :=
  left ∈ candidates ∧ right ∈ candidates ∧
    coverageRelation left.coverage right.coverage ≠ .disjoint

section

variable {candidates : List TranslationInputCandidate}

lemma mem_adjacency {i j : String} :
    j ∈ adjacency candidates i ↔
      ∃ p ∈ combinations candidates, coverageRelation p.1.coverage p.2.coverage ≠ .disjoint ∧
        ((p.1.candidateId = i ∧ p.2.candidateId = j) ∨
          (p.2.candidateId = i ∧ p.1.candidateId = j)) := by
  simp only [adjacency, List.mem_flatMap]
  refine exists_congr (fun p => and_congr_right (fun _ => ?_))
  by_cases hd : coverageRelation p.1.coverage p.2.coverage = .disjoint
  · simp [hd]
  · by_cases hl : p.1.candidateId = i <;> by_cases hr : p.2.candidateId = i <;>
      simp [hd, hl, hr, eq_comm]

lemma adjacency_symm (i j : String) :
    j ∈ adjacency candidates i → i ∈ adjacency candidates j := by
  intro h
  rcases mem_adjacency.1 h with ⟨p, hp, hd, hends⟩
  exact mem_adjacency.2 ⟨p, hp, hd, hends.symm.imp And.symm And.symm⟩

lemma pushes_pushed :
    Pushes (candidates.map TranslationInputCandidate.candidateId)
      (fun i j => j ∈ adjacency candidates i) (pushed candidates) where
  mem_iff := by
    intro seen i j
    simp [pushed]
  nodup := by
    intro seen i
    rw [pushed, List.nodup_reverse, (sortedOn_perm _ _).nodup_iff]
    exact (List.nodup_dedup _).filter _
  subset := by
    intro i j h
    rcases mem_adjacency.1 h with ⟨p, hp, _, hends⟩
    have hmem := mem_of_combinations hp
    rcases hends with ⟨_, rfl⟩ | ⟨_, rfl⟩
    · exact List.mem_map_of_mem hmem.2
    · exact List.mem_map_of_mem hmem.1

variable (hnd : (candidates.map TranslationInputCandidate.candidateId).Nodup)

include hnd

lemma eq_of_candidateId {x y : TranslationInputCandidate} (hx : x ∈ candidates)
    (hy : y ∈ candidates) (h : x.candidateId = y.candidateId) : x = y :=
  List.inj_on_of_nodup_map hnd hx hy h

lemma adjacency_iff_overlapping {x y : TranslationInputCandidate} (hx : x ∈ candidates)
    (hy : y ∈ candidates) :
    y.candidateId ∈ adjacency candidates x.candidateId ↔ Overlapping candidates x y := by
  rw [mem_adjacency]
  constructor
  · rintro ⟨p, hp, hd, hends⟩
    have hmem := mem_of_combinations hp
    have hne := ne_of_combinations hnd hp
    rcases hends with ⟨h1, h2⟩ | ⟨h1, h2⟩
    · rw [← eq_of_candidateId hnd hmem.1 hx h1, ← eq_of_candidateId hnd hmem.2 hy h2]
      exact ⟨hmem.1, hmem.2, hne, hd⟩
    · rw [← eq_of_candidateId hnd hmem.2 hx h1, ← eq_of_candidateId hnd hmem.1 hy h2]
      exact ⟨hmem.2, hmem.1, hne.symm, fun h => hd ((coverageRelation_disjoint_comm _ _).1 h)⟩
  · rintro ⟨_, _, hne, hd⟩
    have hxy : x ≠ y := fun h => hne (congrArg _ h)
    rcases combinations_of_mem hxy hx hy with h | h
    · exact ⟨(x, y), h, hd, Or.inl ⟨rfl, rfl⟩⟩
    · exact ⟨(y, x), h, fun hd' => hd ((coverageRelation_disjoint_comm _ _).1 hd'),
        Or.inr ⟨rfl, rfl⟩⟩

lemma candidateById_get? (i : String) (c : TranslationInputCandidate) :
    (candidateById candidates).get? i = some c ↔ c ∈ candidates ∧ c.candidateId = i := by
  rw [candidateById, Dict.get?_eq_some_iff, Dict.entries_ofList (by simpa [Function.comp_def] using hnd)]
  simp only [List.mem_map, Prod.mk.injEq]
  constructor
  · rintro ⟨c', hc', rfl, rfl⟩
    exact ⟨hc', rfl⟩
  · rintro ⟨hc, rfl⟩
    exact ⟨c, hc, rfl, rfl⟩

lemma mem_componentCandidates {ids : List String} {c : TranslationInputCandidate} :
    c ∈ componentCandidates candidates ids ↔ c ∈ candidates ∧ c.candidateId ∈ ids := by
  rw [componentCandidates, mem_sortedOn, List.mem_filterMap]
  constructor
  · rintro ⟨i, hi, hget⟩
    rcases (candidateById_get? hnd i c).1 hget with ⟨hc, rfl⟩
    exact ⟨hc, hi⟩
  · rintro ⟨hc, hi⟩
    exact ⟨_, hi, (candidateById_get? hnd _ c).2 ⟨hc, rfl⟩⟩

lemma candidateIds_componentCandidates {ids : List String}
    (hids : ∀ i ∈ ids, i ∈ candidates.map TranslationInputCandidate.candidateId) :
    ((componentCandidates candidates ids).map TranslationInputCandidate.candidateId).Perm ids := by
  refine ((sortedOn_perm _ _).map _).trans (List.Perm.of_eq ?_)
  induction ids with
  | nil => rfl
  | cons i ids ih =>
      rcases List.mem_map.1 (hids i List.mem_cons_self) with ⟨c, hc, hci⟩
      have hget := (candidateById_get? hnd i c).2 ⟨hc, hci⟩
      simp only [List.filterMap_cons, hget, List.map_cons, hci]
      rw [ih (fun j hj => hids j (List.mem_cons_of_mem _ hj))]

/-- A path of overlaps between ids is a path between their candidates. -/
lemma reach_candidateId_iff {x y : TranslationInputCandidate} (hx : x ∈ candidates)
    (hy : y ∈ candidates) :
    Relation.ReflTransGen (fun i j => j ∈ adjacency candidates i) x.candidateId y.candidateId ↔
      Relation.ReflTransGen (Overlapping candidates) x y := by
  constructor
  · intro h
    generalize hj : y.candidateId = j at h
    induction h generalizing y with
    | refl =>
        rw [eq_of_candidateId hnd hy hx hj]
    | tail _ hstep ih =>
        rename_i k _
        rcases List.mem_map.1 (pushes_pushed.subset _ _ (adjacency_symm _ _ hstep)) with
          ⟨z, hz, rfl⟩
        rw [← hj] at hstep
        exact (ih hz rfl).tail ((adjacency_iff_overlapping hnd hz hy).1 hstep)
  · intro h
    induction h with
    | refl => exact Relation.ReflTransGen.refl
    | tail _ hstep ih =>
        exact (ih hstep.1).tail
          ((adjacency_iff_overlapping hnd hstep.1 hstep.2.1).2 hstep)

/-- The components hold every candidate exactly once, and two candidates share one exactly when a
chain of overlaps joins them. -/
theorem overlapComponents_spec :
    ∃ parts, overlapComponents candidates = some parts ∧
      parts.flatten.Perm candidates ∧
      ∀ part ∈ parts, part ≠ [] ∧
        ∀ x ∈ part, ∀ y, y ∈ part ↔ Relation.ReflTransGen (Overlapping candidates) x y := by
  have hcands : candidates.Nodup := List.Nodup.of_map _ hnd
  rcases components_spec pushes_pushed adjacency_symm with ⟨parts, hparts, hflat, hmem, hconn⟩
  have hids : ∀ part ∈ parts, ∀ i ∈ part,
      i ∈ candidates.map TranslationInputCandidate.candidateId := by
    intro part hpart i hi
    exact (hmem i).1 (List.mem_flatten.2 ⟨part, hpart, hi⟩)
  refine ⟨parts.map (componentCandidates candidates), ?_, ?_, ?_⟩
  · simp only [overlapComponents]
    rw [hparts]
    rfl
  · have hperm : (((parts.map (componentCandidates candidates)).flatten).map
        TranslationInputCandidate.candidateId).Perm parts.flatten := by
      rw [List.map_flatten, List.map_map]
      clear hparts hflat hmem hconn
      induction parts with
      | nil => simp
      | cons part parts ih =>
          simp only [List.map_cons, List.flatten_cons, Function.comp_apply]
          refine (candidateIds_componentCandidates hnd (hids part List.mem_cons_self)).append ?_
          exact ih (fun p hp => hids p (List.mem_cons_of_mem _ hp))
    refine (List.perm_ext_iff_of_nodup ((hperm.nodup_iff.2 hflat).of_map _) hcands).2 ?_
    intro c
    simp only [List.mem_flatten, List.mem_map]
    constructor
    · rintro ⟨_, ⟨part, _, rfl⟩, hc⟩
      exact ((mem_componentCandidates hnd).1 hc).1
    · intro hc
      rcases List.mem_flatten.1 ((hmem c.candidateId).2 (List.mem_map_of_mem hc)) with
        ⟨part, hpart, hi⟩
      exact ⟨_, ⟨part, hpart, rfl⟩, (mem_componentCandidates hnd).2 ⟨hc, hi⟩⟩
  · intro cs hcs
    rcases List.mem_map.1 hcs with ⟨part, hpart, rfl⟩
    rcases hconn part hpart with ⟨hne, hreach⟩
    refine ⟨?_, ?_⟩
    · rcases List.exists_mem_of_ne_nil part hne with ⟨i, hi⟩
      rcases List.mem_map.1 (hids part hpart i hi) with ⟨c, hc, rfl⟩
      exact List.ne_nil_of_mem ((mem_componentCandidates hnd).2 ⟨hc, hi⟩)
    · intro x hx y
      rcases (mem_componentCandidates hnd).1 hx with ⟨hxc, hxi⟩
      rw [mem_componentCandidates hnd]
      constructor
      · rintro ⟨hyc, hyi⟩
        exact (reach_candidateId_iff hnd hxc hyc).1 ((hreach _ hxi _).1 hyi)
      · intro h
        have hyc : y ∈ candidates := by
          rcases Relation.ReflTransGen.cases_tail h with rfl | ⟨_, _, hlast⟩
          · exact hxc
          · exact hlast.2.1
        exact ⟨hyc, (hreach _ hxi _).2 ((reach_candidateId_iff hnd hxc hyc).2 h)⟩

/-- Chains of touching candidates and chains of overlaps join the same candidates: a step from a
candidate to itself can be left out. -/
lemma reach_touching_iff {x y : TranslationInputCandidate} :
    Relation.ReflTransGen (Touching candidates) x y ↔
      Relation.ReflTransGen (Overlapping candidates) x y := by
  constructor
  · intro h
    induction h with
    | refl => exact Relation.ReflTransGen.refl
    | tail _ hstep ih =>
        rename_i z w _
        by_cases hid : z.candidateId = w.candidateId
        · rwa [← eq_of_candidateId hnd hstep.1 hstep.2.1 hid]
        · exact ih.tail ⟨hstep.1, hstep.2.1, hid, hstep.2.2⟩
  · intro h
    induction h with
    | refl => exact Relation.ReflTransGen.refl
    | tail _ hstep ih => exact ih.tail ⟨hstep.1, hstep.2.1, hstep.2.2.2⟩

/-- The traversals come to an end, and their components are the classes of candidates that chains of
touching windows join. -/
theorem overlap_components_exact :
    ∃ parts, overlapComponents candidates = some parts ∧
      parts.flatten.Perm candidates ∧ (∀ part ∈ parts, part ≠ []) ∧
      ∀ x ∈ candidates, ∀ y ∈ candidates,
        (∃ part ∈ parts, x ∈ part ∧ y ∈ part) ↔
          Relation.ReflTransGen (Touching candidates) x y := by
  rcases overlapComponents_spec hnd with ⟨parts, hparts, hperm, hconn⟩
  refine ⟨parts, hparts, hperm, fun part hpart => (hconn part hpart).1, ?_⟩
  intro x hx y _
  rw [reach_touching_iff hnd]
  constructor
  · rintro ⟨part, hpart, hxp, hyp⟩
    exact ((hconn part hpart).2 x hxp y).1 hyp
  · intro h
    rcases List.mem_flatten.1 (hperm.mem_iff.2 hx) with ⟨part, hpart, hxp⟩
    exact ⟨part, hpart, hxp, ((hconn part hpart).2 x hxp y).2 h⟩

end

/-! ## Windows in a chain -/

/-- A candidate that covers some days of May 2024. -/
def mayCandidate (name : String) (startAt endAt : Instant) : TranslationInputCandidate where
  candidateId := name
  selectionGroup := "trades"
  familyId := "trades"
  memberRelativePaths := [name ++ ".csv"]
  selectionMode := .appendableRange
  coverage := ⟨some ⟨startAt, some 0⟩, some .date, some ⟨endAt, some 0⟩, some .date, .bounded⟩
  freshness := ⟨.unknown, none, none⟩
  contentFingerprint := name
  comparisonKey := "trades"
  description := "trades"
  comparable := true

def earlyMay : TranslationInputCandidate :=
  mayCandidate "early" ⟨2024, 5, 1, 0, 0, 0, 0, Instant.isDay_startOfMay⟩ ⟨2024, 5, 10, 0, 0, 0, 0, by decide⟩

def middleMay : TranslationInputCandidate :=
  mayCandidate "middle" ⟨2024, 5, 10, 0, 0, 0, 0, by decide⟩ ⟨2024, 5, 20, 0, 0, 0, 0, by decide⟩

def lateMay : TranslationInputCandidate :=
  mayCandidate "late" ⟨2024, 5, 15, 0, 0, 0, 0, by decide⟩ ⟨2024, 5, 25, 0, 0, 0, 0, by decide⟩

def lastMay : TranslationInputCandidate :=
  mayCandidate "last" ⟨2024, 5, 30, 0, 0, 0, 0, by decide⟩ ⟨2024, 5, 31, 0, 0, 0, 0, Instant.isDay_endOfMay⟩

/-- The early and the late days share a component through the middle ones, the last days are alone. -/
theorem overlap_components_exact_may :
    overlapComponents [lateMay, lastMay, earlyMay, middleMay] =
        some [[earlyMay, lateMay, middleMay], [lastMay]] ∧
      Relation.ReflTransGen (Touching [lateMay, lastMay, earlyMay, middleMay]) earlyMay lateMay ∧
      ¬ Relation.ReflTransGen (Touching [lateMay, lastMay, earlyMay, middleMay]) earlyMay lastMay := by
  have hrun : overlapComponents [lateMay, lastMay, earlyMay, middleMay] =
      some [[earlyMay, lateMay, middleMay], [lastMay]] := by
    decide +kernel
  rcases @overlap_components_exact [lateMay, lastMay, earlyMay, middleMay] (by decide) with
    ⟨parts, hparts, _, _, hsame⟩
  rw [hrun] at hparts
  have heq := Option.some.inj hparts
  refine ⟨hrun, (hsame _ (by decide) _ (by decide)).1 ?_,
    fun h => absurd ((hsame _ (by decide) _ (by decide)).2 h) ?_⟩
  · rw [← heq]
    exact ⟨_, List.mem_cons_self, by decide, by decide⟩
  · rw [← heq]
    decide

end Translation
end Tallylot
