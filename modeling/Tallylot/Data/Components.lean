import Mathlib.Data.List.Nodup
import Mathlib.Data.List.Perm.Subperm
import Mathlib.Logic.Relation
import Mathlib.Tactic.Common

/-!
# Components — connected components by a stack traversal

The components of a finite graph, in the order of its vertices.  A traversal keeps a stack, the
vertices seen so far and the component in the making:

* a vertex that was seen is dropped from the stack;
* any other vertex joins the component, and its unseen neighbours go on the stack.

`next seen a` is what a visit of `a` pushes.  All that is used of it is `Pushes`: it holds the
neighbours of `a` that are not seen.  A vertex may be pushed many times, so the stack does not
shrink; what goes down is `work`.

`components_spec` is the result: the traversal comes to an end, every vertex is in exactly one
component, and two vertices share a component exactly when a path joins them.
-/

namespace Tallylot
namespace Data

universe u

variable {α : Type u} [DecidableEq α]

/-! ## The traversal -/

/-- One traversal: the component and the vertices seen after it; `none` without enough fuel. -/
def explore (next : List α → α → List α) :
    Nat → List α → List α → List α → Option (List α × List α)
  | _, [], seen, component => some (component, seen)
  | 0, _ :: _, _, _ => none
  | fuel + 1, a :: stack, seen, component =>
      if a ∈ seen then explore next fuel stack seen component
      else explore next fuel (next (a :: seen) a ++ stack) (a :: seen) (component ++ [a])

/-- A traversal from every vertex that no earlier traversal has seen. -/
def components (next : List α → α → List α) (fuel : Nat) :
    List α → List α → Option (List (List α))
  | [], _ => some []
  | v :: vs, seen =>
      if v ∈ seen then components next fuel vs seen
      else
        match explore next fuel [v] seen [] with
        | none => none
        | some (component, seen') =>
            (components next fuel vs seen').map (fun rest => component :: rest)

/-- A visit pushes the unseen neighbours, each of them once. -/
structure Pushes (vertices : List α) (adj : α → α → Prop) (next : List α → α → List α) : Prop where
  mem_iff : ∀ seen a b, b ∈ next seen a ↔ adj a b ∧ b ∉ seen
  nodup : ∀ seen a, (next seen a).Nodup
  subset : ∀ a b, adj a b → b ∈ vertices

/-! ## Termination -/

/-- Every visit takes a vertex from the unseen ones, and pushes at most as many as there are. -/
def work (vertices stack seen : List α) : Nat :=
  (vertices.filter (fun v => v ∉ seen)).length * (vertices.length + 1) + stack.length

lemma length_unseen_lt {vertices seen : List α} {a : α} (ha : a ∈ vertices) (hs : a ∉ seen) :
    (vertices.filter (fun v => v ∉ a :: seen)).length <
      (vertices.filter (fun v => v ∉ seen)).length := by
  have hsub : (vertices.filter (fun v => v ∉ a :: seen)).Sublist
      (vertices.filter (fun v => v ∉ seen)) := by
    refine List.monotone_filter_right vertices ?_
    intro v hv
    simp only [List.mem_cons, not_or, decide_eq_true_eq] at hv ⊢
    exact hv.2
  refine Nat.lt_of_le_of_ne hsub.length_le ?_
  intro hlen
  have hmem : a ∈ vertices.filter (fun v => v ∉ a :: seen) := by
    rw [hsub.eq_of_length hlen]
    simp [ha, hs]
  simp at hmem

section

variable {vertices : List α} {adj : α → α → Prop} {next : List α → α → List α}

lemma work_visit (hnext : Pushes vertices adj next) {stack seen : List α} {a : α}
    (ha : a ∈ vertices) (hs : a ∉ seen) :
    work vertices (next (a :: seen) a ++ stack) (a :: seen) < work vertices (a :: stack) seen := by
  have hpushed : (next (a :: seen) a).length ≤ vertices.length := by
    refine (List.subperm_of_subset (hnext.nodup _ _) ?_).length_le
    intro b hb
    exact hnext.subset a b ((hnext.mem_iff _ _ _).1 hb).1
  have hunseen := length_unseen_lt ha hs
  have hmul := Nat.mul_le_mul_right (vertices.length + 1) (Nat.succ_le_of_lt hunseen)
  simp only [Nat.succ_eq_add_one, Nat.add_mul, Nat.one_mul] at hmul
  simp only [work, List.length_append, List.length_cons]
  omega

/-- A traversal of vertices comes to an end. -/
theorem explore_terminates (hnext : Pushes vertices adj next) (fuel : Nat) :
    ∀ stack seen component : List α, (∀ a ∈ stack, a ∈ vertices) →
      work vertices stack seen ≤ fuel → ∃ r, explore next fuel stack seen component = some r := by
  induction fuel with
  | zero =>
      intro stack seen component _ hwork
      cases stack with
      | nil => exact ⟨_, rfl⟩
      | cons a stack => simp [work] at hwork
  | succ fuel ih =>
      intro stack seen component hstack hwork
      cases stack with
      | nil => exact ⟨_, rfl⟩
      | cons a stack =>
          have ha := hstack a List.mem_cons_self
          have htail : ∀ b ∈ stack, b ∈ vertices := fun b hb =>
            hstack b (List.mem_cons_of_mem _ hb)
          by_cases hs : a ∈ seen
          · simp only [explore, if_pos hs]
            refine ih _ _ _ htail ?_
            simp only [work, List.length_cons] at hwork ⊢
            omega
          · simp only [explore, if_neg hs]
            refine ih _ _ _ ?_ ?_
            · intro b hb
              rcases List.mem_append.1 hb with hb | hb
              · exact hnext.subset a b ((hnext.mem_iff _ _ _).1 hb).1
              · exact htail b hb
            · exact Nat.le_of_lt_succ (Nat.lt_of_lt_of_le (work_visit hnext ha hs) hwork)

/-! ## One traversal -/

/-- What holds while the component of `root` is in the making; `base` was seen before. -/
structure Exploring (adj : α → α → Prop) (root : α) (base stack seen component : List α) :
    Prop where
  mem_seen : ∀ a, a ∈ seen ↔ a ∈ base ∨ a ∈ component
  nodup : component.Nodup
  fresh : ∀ a ∈ component, a ∉ base
  reached : ∀ a, a ∈ stack ∨ a ∈ component → Relation.ReflTransGen adj root a
  frontier : ∀ a ∈ component, ∀ b, adj a b → b ∈ seen ∨ b ∈ stack
  root_mem : root ∈ stack ∨ root ∈ seen

variable {root : α} {base stack seen component : List α} {a : α}

omit [DecidableEq α] in
lemma Exploring.start (root : α) (base : List α) : Exploring adj root base [root] base [] where
  mem_seen := by simp
  nodup := List.nodup_nil
  fresh := by simp
  reached := by
    intro a ha
    have : a = root := by simpa using ha
    rw [this]
  frontier := by simp
  root_mem := Or.inl List.mem_cons_self

omit [DecidableEq α] in
lemma Exploring.skip (h : Exploring adj root base (a :: stack) seen component) (hs : a ∈ seen) :
    Exploring adj root base stack seen component where
  mem_seen := h.mem_seen
  nodup := h.nodup
  fresh := h.fresh
  reached := by
    rintro b (hb | hb)
    · exact h.reached b (Or.inl (List.mem_cons_of_mem _ hb))
    · exact h.reached b (Or.inr hb)
  frontier := by
    intro c hc b hcb
    rcases h.frontier c hc b hcb with hb | hb
    · exact Or.inl hb
    · rcases List.mem_cons.1 hb with rfl | hb
      · exact Or.inl hs
      · exact Or.inr hb
  root_mem := by
    rcases h.root_mem with hr | hr
    · rcases List.mem_cons.1 hr with rfl | hr
      · exact Or.inr hs
      · exact Or.inl hr
    · exact Or.inr hr

lemma Exploring.visit (hnext : Pushes vertices adj next)
    (h : Exploring adj root base (a :: stack) seen component) (hs : a ∉ seen) :
    Exploring adj root base (next (a :: seen) a ++ stack) (a :: seen) (component ++ [a]) := by
  have hnew : a ∉ base ∧ a ∉ component := by
    simpa [h.mem_seen a] using hs
  have hroot : Relation.ReflTransGen adj root a := h.reached a (Or.inl List.mem_cons_self)
  constructor
  · intro b
    simp only [List.mem_cons, List.mem_append, h.mem_seen b, List.not_mem_nil, or_false]
    tauto
  · rw [← List.concat_eq_append]
    exact List.Nodup.concat hnew.2 h.nodup
  · intro b hb
    rcases List.mem_append.1 hb with hb | hb
    · exact h.fresh b hb
    · rw [List.mem_singleton.1 hb]
      exact hnew.1
  · intro b hb
    simp only [List.mem_append, List.mem_singleton] at hb
    rcases hb with (hb | hb) | hb | rfl
    · exact hroot.tail ((hnext.mem_iff _ _ _).1 hb).1
    · exact h.reached b (Or.inl (List.mem_cons_of_mem _ hb))
    · exact h.reached b (Or.inr hb)
    · exact hroot
  · intro c hc b hcb
    rcases List.mem_append.1 hc with hc | hc
    · rcases h.frontier c hc b hcb with hb | hb
      · exact Or.inl (List.mem_cons_of_mem _ hb)
      · rcases List.mem_cons.1 hb with rfl | hb
        · exact Or.inl List.mem_cons_self
        · exact Or.inr (List.mem_append_right _ hb)
    · rw [List.mem_singleton.1 hc] at hcb
      -- a neighbour of the visited vertex was seen, or is among the pushed ones
      by_cases hb : b ∈ a :: seen
      · exact Or.inl hb
      · exact Or.inr (List.mem_append_left _ ((hnext.mem_iff _ _ _).2 ⟨hcb, hb⟩))
  · rcases h.root_mem with hr | hr
    · rcases List.mem_cons.1 hr with rfl | hr
      · exact Or.inr List.mem_cons_self
      · exact Or.inl (List.mem_append_right _ hr)
    · exact Or.inr (List.mem_cons_of_mem _ hr)

/-- The traversal keeps the invariant, and ends with an empty stack. -/
theorem Exploring.run (hnext : Pushes vertices adj next) (fuel : Nat) :
    ∀ stack seen component : List α, Exploring adj root base stack seen component →
      ∀ r, explore next fuel stack seen component = some r →
        Exploring adj root base [] r.2 r.1 := by
  induction fuel with
  | zero =>
      intro stack seen component h r hr
      cases stack with
      | nil =>
          cases hr
          exact h
      | cons a stack => simp [explore] at hr
  | succ fuel ih =>
      intro stack seen component h r hr
      cases stack with
      | nil =>
          cases hr
          exact h
      | cons a stack =>
          by_cases hs : a ∈ seen
          · rw [explore, if_pos hs] at hr
            exact ih _ _ _ (h.skip hs) r hr
          · rw [explore, if_neg hs] at hr
            exact ih _ _ _ (h.visit hnext hs) r hr

/-! ## All traversals -/

/-- No edge leaves the set. -/
def Closed (adj : α → α → Prop) (seen : List α) : Prop := ∀ a ∈ seen, ∀ b, adj a b → b ∈ seen

omit [DecidableEq α] in
lemma Closed.reach (h : Closed adj seen) {a b : α} (ha : a ∈ seen) :
    Relation.ReflTransGen adj a b → b ∈ seen := by
  intro hab
  induction hab with
  | refl => exact ha
  | tail _ hstep ih => exact h _ ih _ hstep

omit [DecidableEq α] in
lemma reach_symm (hsymm : ∀ a b, adj a b → adj b a) {a b : α} :
    Relation.ReflTransGen adj a b → Relation.ReflTransGen adj b a := by
  intro hab
  induction hab with
  | refl => exact Relation.ReflTransGen.refl
  | tail _ hstep ih => exact Relation.ReflTransGen.head (hsymm _ _ hstep) ih

omit [DecidableEq α] in
/-- A path between unseen and seen vertices would leave the seen ones at its last edge back. -/
lemma Closed.not_reach (hsymm : ∀ a b, adj a b → adj b a) (h : Closed adj seen) {a b : α} (ha : a ∉ seen) :
    Relation.ReflTransGen adj a b → b ∉ seen := by
  intro hab hb
  exact ha (h.reach hb (reach_symm hsymm hab))

/-- One finished traversal from an unseen vertex of a closed set. -/
structure Explored (adj : α → α → Prop) (root : α) (base seen component : List α) : Prop where
  mem_seen : ∀ a, a ∈ seen ↔ a ∈ base ∨ a ∈ component
  nodup : component.Nodup
  fresh : ∀ a ∈ component, a ∉ base
  mem_iff : ∀ a, a ∈ component ↔ Relation.ReflTransGen adj root a
  closed : Closed adj seen

omit [DecidableEq α] in
lemma Exploring.explored (hsymm : ∀ a b, adj a b → adj b a) (hbase : Closed adj base) (hroot : root ∉ base)
    (h : Exploring adj root base [] seen component) : Explored adj root base seen component := by
  have hclosed : Closed adj seen := by
    intro c hc b hcb
    rcases (h.mem_seen c).1 hc with hc | hc
    · exact (h.mem_seen b).2 (Or.inl (hbase c hc b hcb))
    · simpa using h.frontier c hc b hcb
  refine ⟨h.mem_seen, h.nodup, h.fresh, ?_, hclosed⟩
  intro b
  constructor
  · intro hb
    exact h.reached b (Or.inr hb)
  · intro hb
    have hseen : b ∈ seen := hclosed.reach (by simpa using h.root_mem) hb
    rcases (h.mem_seen b).1 hseen with hold | hnew
    · exact absurd hold (hbase.not_reach hsymm hroot hb)
    · exact hnew

/-- The components of the vertices of `vs` that are not in `seen`. -/
structure IsComponents (adj : α → α → Prop) (vs seen : List α) (parts : List (List α)) : Prop where
  nodup : parts.flatten.Nodup
  mem_iff : ∀ a, a ∈ parts.flatten ↔ ∃ v ∈ vs, v ∉ seen ∧ Relation.ReflTransGen adj v a
  connected : ∀ part ∈ parts, ∃ v ∈ vs, ∀ a, a ∈ part ↔ Relation.ReflTransGen adj v a

omit [DecidableEq α] in
lemma IsComponents.skip {v : α} {vs : List α} {parts : List (List α)}
    (h : IsComponents adj vs seen parts) (hv : v ∈ seen) : IsComponents adj (v :: vs) seen parts := by
  refine ⟨h.nodup, ?_, ?_⟩
  · intro a
    rw [h.mem_iff]
    simp [hv]
  · intro part hpart
    rcases h.connected part hpart with ⟨w, hw, hiff⟩
    exact ⟨w, List.mem_cons_of_mem _ hw, hiff⟩

lemma IsComponents.cons {v : α} {vs seen' : List α} {parts : List (List α)}
    (hsymm : ∀ a b, adj a b → adj b a) (hv : v ∉ seen)
    (hexp : Explored adj v seen seen' component) (h : IsComponents adj vs seen' parts) :
    IsComponents adj (v :: vs) seen (component :: parts) := by
  have hapart : ∀ a ∈ parts.flatten, a ∉ seen' := by
    intro a ha
    rcases (h.mem_iff a).1 ha with ⟨w, _, hw, hwa⟩
    exact hexp.closed.not_reach hsymm hw hwa
  refine ⟨?_, ?_, ?_⟩
  · rw [List.flatten_cons, List.nodup_append]
    refine ⟨hexp.nodup, h.nodup, ?_⟩
    rintro a ha _ hb rfl
    exact hapart a hb ((hexp.mem_seen a).2 (Or.inr ha))
  · intro a
    rw [List.flatten_cons, List.mem_append, hexp.mem_iff, h.mem_iff]
    constructor
    · rintro (ha | ⟨w, hw, hws, hwa⟩)
      · exact ⟨v, List.mem_cons_self, hv, ha⟩
      · refine ⟨w, List.mem_cons_of_mem _ hw, ?_, hwa⟩
        intro hold
        exact hws ((hexp.mem_seen w).2 (Or.inl hold))
    · rintro ⟨w, hw, hws, hwa⟩
      rcases List.mem_cons.1 hw with rfl | hw
      · exact Or.inl hwa
      -- a later vertex that the traversal from `v` has seen is in the component of `v`
      · by_cases hmem : w ∈ component
        · exact Or.inl (((hexp.mem_iff w).1 hmem).trans hwa)
        · refine Or.inr ⟨w, hw, ?_, hwa⟩
          intro hold
          rcases (hexp.mem_seen w).1 hold with h1 | h2
          · exact hws h1
          · exact hmem h2
  · intro part hpart
    rcases List.mem_cons.1 hpart with rfl | hpart
    · exact ⟨v, List.mem_cons_self, hexp.mem_iff⟩
    · rcases h.connected part hpart with ⟨w, hw, hiff⟩
      exact ⟨w, List.mem_cons_of_mem _ hw, hiff⟩

/-- Fuel for every traversal of a graph. -/
def traversalFuel (vertices : List α) : Nat := vertices.length * (vertices.length + 1) + 1

lemma work_le_traversalFuel (vertices seen : List α) (v : α) :
    work vertices [v] seen ≤ traversalFuel vertices := by
  have hlen := List.length_filter_le (fun v => decide (v ∉ seen)) vertices
  have hmul := Nat.mul_le_mul_right (vertices.length + 1) hlen
  simp only [work, traversalFuel, List.length_cons, List.length_nil]
  omega

theorem components_isComponents (hnext : Pushes vertices adj next) (hsymm : ∀ a b, adj a b → adj b a)
    (vs : List α) :
    ∀ seen : List α, Closed adj seen → (∀ v ∈ vs, v ∈ vertices) →
      ∃ parts, components next (traversalFuel vertices) vs seen = some parts ∧
        IsComponents adj vs seen parts := by
  induction vs with
  | nil =>
      intro seen _ _
      exact ⟨[], rfl, by simp, by simp, by simp⟩
  | cons v vs ih =>
      intro seen hseen hvs
      have htail : ∀ w ∈ vs, w ∈ vertices := fun w hw => hvs w (List.mem_cons_of_mem _ hw)
      by_cases hv : v ∈ seen
      · rcases ih seen hseen htail with ⟨parts, hparts, hspec⟩
        exact ⟨parts, by simp only [components, if_pos hv, hparts], hspec.skip hv⟩
      · have hroot : ∀ a ∈ [v], a ∈ vertices := by
          intro a ha
          rw [List.mem_singleton.1 ha]
          exact hvs v List.mem_cons_self
        rcases explore_terminates hnext (traversalFuel vertices) [v] seen [] hroot
          (work_le_traversalFuel vertices seen v) with ⟨⟨component, seen'⟩, hrun⟩
        have hexp : Explored adj v seen seen' component :=
          (Exploring.run hnext _ _ _ _ (Exploring.start v seen) _ hrun).explored hsymm hseen hv
        rcases ih seen' hexp.closed htail with ⟨parts, hparts, hspec⟩
        refine ⟨component :: parts, ?_, hspec.cons hsymm hv hexp⟩
        simp only [components, if_neg hv, hrun, hparts, Option.map_some]

/-- The components of a graph with symmetric edges: they hold every vertex exactly once, and two
vertices share one exactly when a path joins them. -/
theorem components_spec (hnext : Pushes vertices adj next) (hsymm : ∀ a b, adj a b → adj b a) :
    ∃ parts, components next (traversalFuel vertices) vertices [] = some parts ∧
      parts.flatten.Nodup ∧
      (∀ a, a ∈ parts.flatten ↔ a ∈ vertices) ∧
      (∀ part ∈ parts, part ≠ [] ∧ ∀ a ∈ part, ∀ b, b ∈ part ↔ Relation.ReflTransGen adj a b) := by
  rcases components_isComponents hnext hsymm vertices [] (by simp [Closed]) (fun _ hv => hv) with
    ⟨parts, hparts, hspec⟩
  refine ⟨parts, hparts, hspec.nodup, ?_, ?_⟩
  · intro a
    rw [hspec.mem_iff]
    constructor
    · rintro ⟨v, hv, _, hva⟩
      rcases Relation.ReflTransGen.cases_tail hva with rfl | ⟨c, _, hca⟩
      · exact hv
      · exact hnext.subset c a hca
    · intro ha
      exact ⟨a, ha, by simp, Relation.ReflTransGen.refl⟩
  · intro part hpart
    rcases hspec.connected part hpart with ⟨v, _, hiff⟩
    have hvmem : v ∈ part := (hiff v).2 Relation.ReflTransGen.refl
    refine ⟨List.ne_nil_of_mem hvmem, ?_⟩
    intro a ha b
    have hva := (hiff a).1 ha
    rw [hiff]
    constructor
    · intro hvb
      exact (reach_symm hsymm hva).trans hvb
    · intro hab
      exact hva.trans hab

end

end Data
end Tallylot
