import Tallylot.Data.Parts
import Mathlib.Algebra.BigOperators.Group.List.Basic

/-!
# Totals — sums of quantities by group

A function gives some elements of a list a group.  The total of a group does not depend on the order
of the list, and it is the sum of the totals of the finer keys that lie in the group.
-/

namespace Tallylot
namespace Data

variable {α β γ κ M : Type*} [DecidableEq γ] [DecidableEq κ] [AddCommMonoid M]

/-- The sum of the quantities of a group. -/
def groupTotal (group : α → Option γ) (quantity : α → M) (g : γ) (xs : List α) : M :=
  ((xs.filter (fun x => group x = some g)).map quantity).sum

section

variable {group : α → Option γ} {quantity : α → M} {g : γ}

lemma groupTotal_perm {xs ys : List α} (h : xs.Perm ys) :
    groupTotal group quantity g xs = groupTotal group quantity g ys :=
  ((h.filter _).map _).sum_eq

lemma groupTotal_map (f : β → α) (xs : List β) :
    groupTotal group quantity g (xs.map f) =
      groupTotal (fun x => group (f x)) (fun x => quantity (f x)) g xs := by
  rw [groupTotal, groupTotal, List.filter_map, List.map_map]
  rfl

lemma groupTotal_append (xs ys : List α) :
    groupTotal group quantity g (xs ++ ys) =
      groupTotal group quantity g xs + groupTotal group quantity g ys := by
  rw [groupTotal, List.filter_append, List.map_append, List.sum_append]
  rfl

lemma groupTotal_flatMap (f : β → List α) (xs : List β) :
    groupTotal group quantity g (xs.flatMap f) =
      (xs.map (fun x => groupTotal group quantity g (f x))).sum := by
  induction xs with
  | nil => rfl
  | cons x xs ih => rw [List.flatMap_cons, groupTotal_append, ih, List.map_cons, List.sum_cons]

/-- Lists with the same groups and quantities, in some order, have the same totals. -/
lemma groupTotal_of_perm {group' : β → Option γ} {quantity' : β → M} {xs : List α} {ys : List β}
    (h : (xs.map (fun x => (group x, quantity x))).Perm
      (ys.map (fun y => (group' y, quantity' y)))) :
    groupTotal group quantity g xs = groupTotal group' quantity' g ys := by
  have hmap := @groupTotal_perm _ _ _ _ _ Prod.fst Prod.snd g _ _ h
  rwa [groupTotal_map, groupTotal_map] at hmap

omit [DecidableEq γ] [AddCommMonoid M] in
/-- ... and they have elements of the same groups. -/
lemma exists_group_of_perm {group' : β → Option γ} {quantity' : β → M} {xs : List α} {ys : List β}
    (h : (xs.map (fun x => (group x, quantity x))).Perm
      (ys.map (fun y => (group' y, quantity' y)))) :
    (∃ x ∈ xs, group x = some g) ↔ ∃ y ∈ ys, group' y = some g := by
  have hgroups := h.map Prod.fst
  rw [List.map_map, List.map_map] at hgroups
  have hmem := hgroups.mem_iff (a := some g)
  simpa only [List.mem_map, Function.comp_apply] using hmem

/-- The total of a group is the sum of the totals of the keys in it. -/
theorem groupTotal_keys {key : α → Option κ} {keyGroup : κ → γ} {xs : List α} {keys : List κ}
    (hgroup : ∀ x ∈ xs, group x = (key x).map keyGroup) (hnd : keys.Nodup)
    (hkeys : ∀ x ∈ xs, ∀ k, key x = some k → k ∈ keys) :
    groupTotal group quantity g xs =
      ((keys.filter (fun k => keyGroup k = g)).map
        (fun k => groupTotal key quantity k xs)).sum := by
  set inGroup := xs.filter (fun x => group x = some g) with hinGroup
  set groupKeys := keys.filter (fun k => keyGroup k = g) with hgroupKeys
  have hkeyed : ∀ x ∈ inGroup, key x ∈ groupKeys.map some := by
    intro x hx
    rcases List.mem_filter.1 hx with ⟨hmem, hg⟩
    have hg := (hgroup x hmem).symm.trans (of_decide_eq_true hg)
    rcases Option.map_eq_some_iff.1 hg with ⟨k, hk, hkg⟩
    rw [hk]
    exact List.mem_map_of_mem
      (List.mem_filter.2 ⟨hkeys x hmem k hk, decide_eq_true hkg⟩)
  have hdistinct : (groupKeys.map some).Nodup :=
    (hnd.filter _).map (fun _ _ h => Option.some.inj h)
  have hperm := flatMap_filter_perm hdistinct inGroup hkeyed
  have hparts : ∀ k ∈ groupKeys,
      inGroup.filter (fun x => key x = some k) = xs.filter (fun x => key x = some k) := by
    intro k hk
    have hkg := of_decide_eq_true (List.mem_filter.1 hk).2
    rw [hinGroup, List.filter_filter]
    refine List.filter_congr (fun x hx => ?_)
    by_cases hxk : key x = some k
    · have hg : group x = some g := by rw [hgroup x hx, hxk, Option.map_some, hkg]
      simp [hxk, hg]
    · simp [hxk]
  calc
    groupTotal group quantity g xs
        = (((groupKeys.map some).flatMap (fun k =>
            inGroup.filter (fun x => key x = k))).map quantity).sum := (hperm.map _).sum_eq.symm
    _ = (groupKeys.map (fun k =>
            ((inGroup.filter (fun x => key x = some k)).map quantity).sum)).sum := by
          rw [List.flatMap_map, List.map_flatMap, List.flatMap_def, List.sum_flatten, List.map_map]
          rfl
    _ = (groupKeys.map (fun k => groupTotal key quantity k xs)).sum := by
          refine congrArg List.sum (List.map_congr_left (fun k hk => ?_))
          rw [hparts k hk]
          rfl

end

end Data
end Tallylot
