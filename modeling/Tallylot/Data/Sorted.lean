import Mathlib.Data.List.Sort
import Mathlib.Order.Basic
import Mathlib.Tactic.Common

/-!
# Sorted — stable sorting by a key

`sortedOn key xs` is the stable sort of `xs` by a key in a linear order.  A stable sort is
determined by two facts, and every later proof uses these instead of the sorting algorithm:

* the result is ordered by key (`pairwise_sortedOn`) and is a permutation (`sortedOn_perm`);
* the elements of each key keep their order (`filter_sortedOn`).

`sortedOn_eq_iff` turns the two into a criterion for two inputs to sort to the same list.
-/

namespace Tallylot
namespace Data

universe u v

variable {α : Type u} {κ : Type v} [LinearOrder κ]

/-- Stable sort by a key. -/
def sortedOn (key : α → κ) (xs : List α) : List α :=
  xs.insertionSort (fun a b => key a ≤ key b)

section

variable (key : α → κ)

instance keyLe_total : Std.Total (fun a b : α => key a ≤ key b) :=
  ⟨fun a b => le_total (key a) (key b)⟩

instance keyLe_trans : IsTrans α (fun a b : α => key a ≤ key b) :=
  ⟨fun _ _ _ => le_trans⟩

end

@[simp] lemma sortedOn_nil (key : α → κ) : sortedOn key [] = [] := rfl

lemma sortedOn_perm (key : α → κ) (xs : List α) : (sortedOn key xs).Perm xs :=
  List.perm_insertionSort _ xs

@[simp] lemma mem_sortedOn {key : α → κ} {xs : List α} {a : α} : a ∈ sortedOn key xs ↔ a ∈ xs :=
  (sortedOn_perm key xs).mem_iff

@[simp] lemma length_sortedOn (key : α → κ) (xs : List α) : (sortedOn key xs).length = xs.length :=
  (sortedOn_perm key xs).length_eq

lemma head?_sortedOn (key : α → κ) {xs : List α} :
    xs ≠ [] → ∃ a ∈ xs, (sortedOn key xs).head? = some a := by
  intro hne
  cases hsort : sortedOn key xs with
  | nil =>
      have hlen : xs.length = 0 := by
        simpa [hsort] using (length_sortedOn key xs).symm
      exact absurd (List.length_eq_zero_iff.1 hlen) hne
  | cons a rest => exact ⟨a, mem_sortedOn.1 (hsort ▸ List.mem_cons_self), rfl⟩

lemma pairwise_sortedOn (key : α → κ) (xs : List α) :
    (sortedOn key xs).Pairwise (fun a b => key a ≤ key b) :=
  List.pairwise_insertionSort _ xs

lemma sortedOn_map {β : Type*} (key : α → κ) (f : β → α) (xs : List β) :
    sortedOn key (xs.map f) = (sortedOn (fun b => key (f b)) xs).map f :=
  (List.map_insertionSort _ _ f xs (by simp)).symm

/-- A stable sort keeps the order of the elements of one key. -/
theorem filter_sortedOn (key : α → κ) (xs : List α) (k : κ) :
    (sortedOn key xs).filter (fun a => key a = k) = xs.filter (fun a => key a = k) := by
  have hsub : (xs.filter (fun a => key a = k)).Sublist (sortedOn key xs) := by
    refine List.sublist_insertionSort ?_ List.filter_sublist
    refine List.pairwise_of_forall_mem_list ?_
    intro a ha b hb
    have hka : key a = k := by simpa using (List.mem_filter.1 ha).2
    have hkb : key b = k := by simpa using (List.mem_filter.1 hb).2
    simp [hka, hkb]
  have hsub' : (xs.filter (fun a => key a = k)).Sublist
      ((sortedOn key xs).filter (fun a => key a = k)) := by
    simpa using hsub.filter (fun a => decide (key a = k))
  refine (hsub'.eq_of_length ?_).symm
  exact (((sortedOn_perm key xs).filter _).length_eq).symm

/-- Two lists that are ordered by key and agree under every key are equal. -/
theorem eq_of_pairwise_of_filter_eq {key : α → κ} {xs ys : List α} :
    xs.Pairwise (fun a b => key a ≤ key b) → ys.Pairwise (fun a b => key a ≤ key b) →
      (∀ k, xs.filter (fun a => key a = k) = ys.filter (fun a => key a = k)) → xs = ys := by
  intro hx
  induction xs generalizing ys with
  | nil =>
      intro _ h
      cases ys with
      | nil => rfl
      | cons y ys => simpa using h (key y)
  | cons x xs ih =>
      intro hy h
      cases ys with
      | nil => simpa using h (key x)
      | cons y ys =>
          have hxy : key x = key y := by
            -- each head is a member of the other list, so neither key is below the other
            have hxmem : x ∈ y :: ys := by
              have : x ∈ (y :: ys).filter (fun a => key a = key x) := by simp [← h (key x)]
              exact (List.mem_filter.1 this).1
            have hymem : y ∈ x :: xs := by
              have : y ∈ (x :: xs).filter (fun a => key a = key y) := by simp [h (key y)]
              exact (List.mem_filter.1 this).1
            refine le_antisymm ?_ ?_
            · rcases List.mem_cons.1 hymem with rfl | hmem
              · exact le_rfl
              · exact (List.pairwise_cons.1 hx).1 y hmem
            · rcases List.mem_cons.1 hxmem with rfl | hmem
              · exact le_rfl
              · exact (List.pairwise_cons.1 hy).1 x hmem
          have hhead := h (key x)
          rw [List.filter_cons_of_pos (by simp), List.filter_cons_of_pos (by simp [hxy])] at hhead
          obtain ⟨rfl, _⟩ := List.cons.inj hhead
          have htail : xs = ys := by
            refine ih (List.pairwise_cons.1 hx).2 (List.pairwise_cons.1 hy).2 ?_
            intro k
            have hk := h k
            by_cases hxk : key x = k
            · rw [List.filter_cons_of_pos (by simpa using hxk),
                List.filter_cons_of_pos (by simpa using hxk)] at hk
              exact (List.cons.inj hk).2
            · rwa [List.filter_cons_of_neg (by simpa using hxk),
                List.filter_cons_of_neg (by simpa using hxk)] at hk
          rw [htail]

/-- Two lists sort to the same list exactly when they agree, in order, under every key. -/
theorem sortedOn_eq_iff (key : α → κ) (xs ys : List α) :
    sortedOn key xs = sortedOn key ys ↔
      ∀ k, xs.filter (fun a => key a = k) = ys.filter (fun a => key a = k) := by
  constructor
  · intro h k
    rw [← filter_sortedOn key xs k, ← filter_sortedOn key ys k, h]
  · intro h
    refine eq_of_pairwise_of_filter_eq (pairwise_sortedOn key xs) (pairwise_sortedOn key ys) ?_
    intro k
    rw [filter_sortedOn, filter_sortedOn, h k]

/-- Sorting does not move elements that are in order already. -/
theorem filter_sortedOn_of_pairwise {key : α → κ} {p : α → Bool} {xs : List α} :
    (xs.filter p).Pairwise (fun a b => key a ≤ key b) →
      (sortedOn key xs).filter p = xs.filter p := by
  intro h
  refine eq_of_pairwise_of_filter_eq ((pairwise_sortedOn key xs).filter p) h ?_
  intro k
  calc
    ((sortedOn key xs).filter p).filter (fun a => key a = k)
        = ((sortedOn key xs).filter (fun a => key a = k)).filter p := List.filter_comm _ _ _
    _ = (xs.filter (fun a => key a = k)).filter p := by rw [filter_sortedOn]
    _ = (xs.filter p).filter (fun a => key a = k) := List.filter_comm _ _ _

/-- Sorting first by a key that ties do not tell apart changes no part of the list. -/
theorem sortedOn_filter_sortedOn {κ' : Type*} [LinearOrder κ'] {key : α → κ} {key' : α → κ'}
    {p : α → Bool} {xs : List α} :
    (∀ a ∈ xs, ∀ b ∈ xs, p a = true → p b = true → key a = key b → key' a = key' b) →
      sortedOn key ((sortedOn key' xs).filter p) = sortedOn key (xs.filter p) := by
  intro hties
  refine (sortedOn_eq_iff key _ _).2 ?_
  intro k
  rw [List.filter_filter, List.filter_filter]
  refine filter_sortedOn_of_pairwise (List.pairwise_of_forall_mem_list ?_)
  intro a ha b hb
  rcases List.mem_filter.1 ha with ⟨ha, hpa⟩
  rcases List.mem_filter.1 hb with ⟨hb, hpb⟩
  simp only [Bool.and_eq_true, decide_eq_true_eq] at hpa hpb
  exact le_of_eq (hties a ha b hb hpa.2 hpb.2 (hpa.1.trans hpb.1.symm))

/-- Sorting first by a key that ties do not tell apart changes nothing. -/
theorem sortedOn_sortedOn {κ' : Type*} [LinearOrder κ'] {key : α → κ} {key' : α → κ'} {xs : List α} :
    (∀ a ∈ xs, ∀ b ∈ xs, key a = key b → key' a = key' b) →
      sortedOn key (sortedOn key' xs) = sortedOn key xs := by
  intro hties
  have hall := @sortedOn_filter_sortedOn _ _ _ _ _ key key' (fun _ => true) xs
    (fun a ha b hb _ _ => hties a ha b hb)
  simpa using hall

/-- Without ties, the order of the input does not matter. -/
theorem sortedOn_eq_of_perm {key : α → κ} {xs ys : List α} :
    xs.Perm ys → Set.InjOn key {a | a ∈ xs} → sortedOn key xs = sortedOn key ys := by
  intro hperm hinj
  refine List.Perm.eq_of_pairwise ?_ (pairwise_sortedOn key xs) (pairwise_sortedOn key ys)
    ((sortedOn_perm key xs).trans (hperm.trans (sortedOn_perm key ys).symm))
  intro a b ha hb hab hba
  exact hinj (mem_sortedOn.1 ha) (hperm.mem_iff.2 (mem_sortedOn.1 hb)) (le_antisymm hab hba)

end Data
end Tallylot
