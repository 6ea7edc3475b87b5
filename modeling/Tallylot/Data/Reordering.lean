import Tallylot.Data.Dict
import Tallylot.Data.Sorted
import Mathlib.Data.List.Perm.Basic

/-!
# Reordering — what the order of a list does not change

Lookups by a key that one element has, folds of semilattice operations, and stable sorts of blocks that
the key tells apart are the same for every order of a list.
-/

namespace Tallylot
namespace Data

universe u v w

variable {α : Type u} {β : Type v} {κ : Type w}

/-! ## Lookups -/

/-- Elements that are all one stand in one order. -/
lemma eq_of_perm_of_const {xs ys : List α} (hperm : xs.Perm ys)
    (hone : ∀ x ∈ xs, ∀ y ∈ xs, x = y) : xs = ys := by
  cases xs with
  | nil => exact (List.nil_perm.1 hperm).symm
  | cons x xs =>
      have hxs : x :: xs = List.replicate (x :: xs).length x :=
        List.eq_replicate_of_mem (fun y hy => hone y hy x List.mem_cons_self)
      rw [hxs] at hperm ⊢
      exact (List.perm_replicate.1 hperm.symm).symm

/-- An element that is the only one of its kind is found in every order. -/
lemma find?_of_perm {p : α → Bool} {xs ys : List α} (hperm : xs.Perm ys)
    (hone : ∀ x ∈ xs, ∀ y ∈ xs, p x = true → p y = true → x = y) : xs.find? p = ys.find? p := by
  rw [← List.head?_filter, ← List.head?_filter]
  refine congrArg List.head? (eq_of_perm_of_const (hperm.filter p) (fun x hx y hy => ?_))
  rcases List.mem_filter.1 hx with ⟨hx, hpx⟩
  rcases List.mem_filter.1 hy with ⟨hy, hpy⟩
  exact hone x hx y hy hpx hpy

/-- Entries whose keys tell them apart are looked up alike in every order. -/
lemma get?_ofList_of_perm [DecidableEq κ] {ps ps' : List (κ × α)} (hperm : ps.Perm ps')
    (hone : ∀ p ∈ ps, ∀ q ∈ ps, p.1 = q.1 → p = q) (k : κ) :
    (Dict.ofList ps).get? k = (Dict.ofList ps').get? k := by
  rw [Dict.get?_ofList, Dict.get?_ofList]
  refine congrArg (fun entries => (List.getLast? entries).map Prod.snd)
    (eq_of_perm_of_const (hperm.filter _) (fun p hp q hq => ?_))
  rcases List.mem_filter.1 hp with ⟨hp, hpk⟩
  rcases List.mem_filter.1 hq with ⟨hq, hqk⟩
  exact hone p hp q hq ((of_decide_eq_true hpk).trans (of_decide_eq_true hqk).symm)

/-! ## Folds -/

section

variable {op : α → α → α} [Std.Associative op] [Std.Commutative op] [Std.IdempotentOp op]

/-- A fold absorbs what it is made of. -/
lemma foldl_absorbs {x : α} {xs : List α} (hx : x ∈ xs) (start : α) :
    op x (xs.foldl op start) = xs.foldl op start := by
  induction xs generalizing start with
  | nil => exact absurd hx List.not_mem_nil
  | cons y ys ih =>
      rw [List.foldl_cons]
      rcases List.mem_cons.1 hx with rfl | hx
      · have hcomm : op start x = op x start := Std.Commutative.comm _ _
        have hassoc : op x (op x start) = op (op x x) start := (Std.Associative.assoc _ _ _).symm
        have hidem : op x x = x := Std.IdempotentOp.idempotent x
        have hfold : ys.foldl op (op x (op start x)) = op x (ys.foldl op (op start x)) :=
          List.foldl_assoc
        rw [← hfold, hcomm, hassoc, hidem]
      · exact ih hx _

/-- The fold of a semilattice operation is the same in every order. -/
theorem foldl_of_perm {x y : α} {xs ys : List α} (hperm : (x :: xs).Perm (y :: ys)) :
    xs.foldl op x = ys.foldl op y := by
  have habsorbs : ∀ {z : α} {zs : List α} (w : α), w ∈ z :: zs →
      (z :: zs).foldl op w = zs.foldl op z := by
    intro z zs w hw
    rw [List.foldl_cons, List.foldl_assoc]
    rcases List.mem_cons.1 hw with rfl | hw
    · have hidem : op w w = w := Std.IdempotentOp.idempotent w
      have hfold : zs.foldl op (op w w) = op w (zs.foldl op w) := List.foldl_assoc
      rw [← hfold, hidem]
    · exact foldl_absorbs hw z
  calc
    xs.foldl op x = (x :: xs).foldl op x := (habsorbs x List.mem_cons_self).symm
    _ = (y :: ys).foldl op x := hperm.foldl_op_eq
    _ = ys.foldl op y := habsorbs x (hperm.mem_iff.1 List.mem_cons_self)

end

/-! ## Blocks -/

variable {f : α → List β} {blocks blocks' : List α}

/-- Of two blocks one has no element that passes. -/
def Separated (f : α → List β) (p : β → Bool) (a b : α) : Prop :=
  (f a).filter p = [] ∨ (f b).filter p = []

lemma Separated.symm {p : β → Bool} {a b : α} (h : Separated f p a b) : Separated f p b a := Or.symm h

/-- The elements that pass do not show the order of blocks of which at most one has any. -/
theorem filter_flatMap_of_perm {p : β → Bool} (hperm : blocks.Perm blocks')
    (hsep : blocks.Pairwise (Separated f p)) :
    (blocks.flatMap f).filter p = (blocks'.flatMap f).filter p := by
  induction hperm with
  | nil => rfl
  | cons a _ ih =>
      rw [List.flatMap_cons, List.flatMap_cons, List.filter_append, List.filter_append,
        ih (List.pairwise_cons.1 hsep).2]
  | swap a b rest =>
      have hab := (List.pairwise_cons.1 hsep).1 a List.mem_cons_self
      simp only [List.flatMap_cons, List.filter_append]
      rcases hab with hb | ha
      · rw [hb, List.nil_append, List.nil_append]
      · rw [ha, List.nil_append, List.nil_append]
  | trans hperm _ ih ih' =>
      exact (ih hsep).trans (ih' ((hperm.pairwise_iff Separated.symm).1 hsep))

section

variable [LinearOrder κ] {key : β → κ}

/-- Blocks without a common key are sorted to one list in every order. -/
theorem sortedOn_flatMap_of_perm (hperm : blocks.Perm blocks')
    (hkeys : blocks.Pairwise (fun a b => ∀ x ∈ f a, ∀ y ∈ f b, key x ≠ key y)) :
    sortedOn key (blocks.flatMap f) = sortedOn key (blocks'.flatMap f) := by
  refine (sortedOn_eq_iff key _ _).2 (fun k => filter_flatMap_of_perm hperm ?_)
  refine hkeys.imp (fun {a b} hab => ?_)
  by_cases ha : (f a).filter (fun x => key x = k) = []
  · exact .inl ha
  · rcases List.exists_mem_of_ne_nil _ ha with ⟨x, hx⟩
    rcases List.mem_filter.1 hx with ⟨hx, hkx⟩
    refine .inr (List.filter_eq_nil_iff.2 (fun y hy hky => ?_))
    exact hab x hx y hy ((of_decide_eq_true hkx).trans (of_decide_eq_true hky).symm)

end

/-! ## Sorted lists -/

section

variable [LinearOrder κ] {key : α → κ} {xs : List α}

/-- Exactly the lists in order are left as they are. -/
lemma sortedOn_eq_self_iff : sortedOn key xs = xs ↔ xs.Pairwise (fun a b => key a ≤ key b) :=
  ⟨fun h => h ▸ pairwise_sortedOn key xs, fun h => h.insertionSort_eq⟩

lemma sortedOn_sortedOn_self (key : α → κ) (xs : List α) :
    sortedOn key (sortedOn key xs) = sortedOn key xs :=
  sortedOn_eq_self_iff.2 (pairwise_sortedOn key xs)

lemma map_eq_self_iff (xs : List α) (f : α → α) : xs.map f = xs ↔ ∀ x ∈ xs, f x = x := by
  conv_lhs => rhs; rw [← List.map_id' xs]
  exact List.map_inj_left

/-- Sorting and settling leave exactly the lists in order whose elements are settled. -/
lemma map_sortedOn_eq_self_iff (key : α → κ) (xs : List α) {f : α → α}
    (hf : ∀ x, f (f x) = f x) :
    (sortedOn key xs).map f = xs ↔ sortedOn key xs = xs ∧ ∀ x ∈ xs, f x = x := by
  constructor
  · intro h
    have hfixed : ∀ x ∈ xs, f x = x := by
      intro x hx
      rw [← h] at hx
      rcases List.mem_map.1 hx with ⟨y, _, rfl⟩
      exact hf y
    have hmap : (sortedOn key xs).map f = sortedOn key xs :=
      (map_eq_self_iff _ f).2 (fun x hx => hfixed x (mem_sortedOn.1 hx))
    exact ⟨hmap.symm.trans h, hfixed⟩
  · rintro ⟨hsorted, hfixed⟩
    rw [hsorted]
    exact (map_eq_self_iff xs f).2 hfixed

end

end Data
end Tallylot
