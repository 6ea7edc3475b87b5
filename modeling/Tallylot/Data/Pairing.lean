import Mathlib.Data.List.Basic
import Mathlib.Data.List.Perm.Subperm
import Mathlib.Tactic.Common

/-!
# Pairing — what comes of the elements of a list

A transformation that makes entries of some elements of a list, and must not lose the others without
a reason, pairs its entries off with elements: every entry is of an element of its own, and an
element without an entry has a reason.  A matching pairs all elements off.
-/

namespace Tallylot
namespace Data

universe u v

variable {α : Type u} {β : Type v} {related : α → β → Prop} {reason reason' : α → Prop}
  {xs xs' : List α} {ys ys' : List β}

/-- The entries `ys` are of elements of `xs`, each of its own, and the other elements have a reason. -/
def PairsOff (related : α → β → Prop) (reason : α → Prop) (xs : List α) (ys : List β) : Prop :=
  ∃ pairs : List (α × β), (pairs.map Prod.fst).Subperm xs ∧ pairs.map Prod.snd = ys ∧
    (∀ p ∈ pairs, related p.1 p.2) ∧ ∀ x ∈ xs, x ∈ pairs.map Prod.fst ∨ reason x

namespace PairsOff

lemma of_reasons (h : ∀ x ∈ xs, reason x) : PairsOff related reason xs [] :=
  ⟨[], List.nil_subperm, rfl, fun _ hp => absurd hp List.not_mem_nil, fun x hx => Or.inr (h x hx)⟩

lemma append (h : PairsOff related reason xs ys) (h' : PairsOff related reason xs' ys') :
    PairsOff related reason (xs ++ xs') (ys ++ ys') := by
  rcases h with ⟨pairs, hsub, rfl, hrelated, hrest⟩
  rcases h' with ⟨pairs', hsub', rfl, hrelated', hrest'⟩
  refine ⟨pairs ++ pairs', ?_, List.map_append, ?_, ?_⟩
  · rw [List.map_append]
    exact hsub.append hsub'
  · intro p hp
    rcases List.mem_append.1 hp with hp | hp
    · exact hrelated p hp
    · exact hrelated' p hp
  · intro x hx
    rw [List.map_append, List.mem_append]
    rcases List.mem_append.1 hx with hx | hx
    · exact (hrest x hx).imp_left Or.inl
    · exact (hrest' x hx).imp_left Or.inr

lemma perm (h : PairsOff related reason xs ys) (hperm : xs.Perm xs') :
    PairsOff related reason xs' ys := by
  rcases h with ⟨pairs, hsub, hsnd, hrelated, hrest⟩
  exact ⟨pairs, hsub.trans hperm.subperm, hsnd, hrelated,
    fun x hx => hrest x (hperm.mem_iff.2 hx)⟩

lemma mono (h : PairsOff related reason xs ys) (himp : ∀ x ∈ xs, reason x → reason' x) :
    PairsOff related reason' xs ys := by
  rcases h with ⟨pairs, hsub, hsnd, hrelated, hrest⟩
  exact ⟨pairs, hsub, hsnd, hrelated, fun x hx => (hrest x hx).imp_right (himp x hx)⟩

/-- Parts that pair off make a whole that does. -/
theorem flatMap {γ : Type*} {parts : List γ} {elements : γ → List α} {entries : γ → List β}
    (h : ∀ part ∈ parts, PairsOff related reason (elements part) (entries part)) :
    PairsOff related reason (parts.flatMap elements) (parts.flatMap entries) := by
  induction parts with
  | nil => exact of_reasons (fun _ hx => absurd hx List.not_mem_nil)
  | cons part parts ih =>
      rw [List.flatMap_cons, List.flatMap_cons]
      exact (h part List.mem_cons_self).append
        (ih (fun other hother => h other (List.mem_cons_of_mem _ hother)))

end PairsOff

/-! ## Matchings -/

/-- Every element has an entry of its own, and every entry is of an element. -/
def Matched (related : α → β → Prop) (xs : List α) (ys : List β) : Prop :=
  ∃ pairs : List (α × β), (pairs.map Prod.fst).Perm xs ∧ (pairs.map Prod.snd).Perm ys ∧
    ∀ p ∈ pairs, related p.1 p.2

namespace Matched

variable {related' : α → β → Prop}

lemma of_forall₂ (h : List.Forall₂ related xs ys) : Matched related xs ys := by
  induction h with
  | nil => exact ⟨[], List.Perm.refl _, List.Perm.refl _, fun _ hp => absurd hp List.not_mem_nil⟩
  | @cons x y _ _ hfirst _ ih =>
      rcases ih with ⟨pairs, hxs, hys, hrelated⟩
      exact ⟨(x, y) :: pairs, hxs.cons x, hys.cons y, List.forall_mem_cons.2 ⟨hfirst, hrelated⟩⟩

lemma perm (h : Matched related xs ys) (hxs : xs.Perm xs') (hys : ys.Perm ys') :
    Matched related xs' ys' := by
  rcases h with ⟨pairs, hfst, hsnd, hrelated⟩
  exact ⟨pairs, hfst.trans hxs, hsnd.trans hys, hrelated⟩

lemma mono (h : Matched related xs ys) (himp : ∀ x ∈ xs, ∀ y ∈ ys, related x y → related' x y) :
    Matched related' xs ys := by
  rcases h with ⟨pairs, hfst, hsnd, hrelated⟩
  refine ⟨pairs, hfst, hsnd, fun p hp => himp p.1 ?_ p.2 ?_ (hrelated p hp)⟩
  · exact hfst.mem_iff.1 (List.mem_map_of_mem hp)
  · exact hsnd.mem_iff.1 (List.mem_map_of_mem hp)

lemma append (h : Matched related xs ys) (h' : Matched related xs' ys') :
    Matched related (xs ++ xs') (ys ++ ys') := by
  rcases h with ⟨pairs, hxs, hys, hrelated⟩
  rcases h' with ⟨pairs', hxs', hys', hrelated'⟩
  refine ⟨pairs ++ pairs', ?_, ?_, fun p hp => ?_⟩
  · rw [List.map_append]
    exact hxs.append hxs'
  · rw [List.map_append]
    exact hys.append hys'
  · exact (List.mem_append.1 hp).elim (hrelated p) (hrelated' p)

/-- Parts that are matched make wholes that are. -/
theorem flatMap {γ δ : Type*} {parts : List γ} {parts' : List δ} {elements : γ → List α}
    {entries : δ → List β}
    (h : List.Forall₂ (fun part part' => Matched related (elements part) (entries part'))
      parts parts') :
    Matched related (parts.flatMap elements) (parts'.flatMap entries) := by
  induction h with
  | nil => exact of_forall₂ List.Forall₂.nil
  | cons hfirst _ ih =>
      rw [List.flatMap_cons, List.flatMap_cons]
      exact hfirst.append ih

/-- Matched lists show the same where their pairs do. -/
lemma map_perm {γ : Type*} {f : α → γ} {g : β → γ} (h : Matched related xs ys)
    (hsame : ∀ x ∈ xs, ∀ y ∈ ys, related x y → f x = g y) : (xs.map f).Perm (ys.map g) := by
  rcases h.mono hsame with ⟨pairs, hfst, hsnd, hrelated⟩
  have hpairs : (pairs.map Prod.fst).map f = (pairs.map Prod.snd).map g := by
    rw [List.map_map, List.map_map]
    exact List.map_congr_left hrelated
  exact (hfst.map f).symm.trans (hpairs ▸ hsnd.map g)

lemma exists_left (h : Matched related xs ys) {y : β} (hy : y ∈ ys) : ∃ x ∈ xs, related x y := by
  rcases h with ⟨pairs, hfst, hsnd, hrelated⟩
  rcases List.mem_map.1 (hsnd.mem_iff.2 hy) with ⟨p, hp, rfl⟩
  exact ⟨p.1, hfst.mem_iff.1 (List.mem_map_of_mem hp), hrelated p hp⟩

lemma exists_right (h : Matched related xs ys) {x : α} (hx : x ∈ xs) : ∃ y ∈ ys, related x y := by
  rcases h with ⟨pairs, hfst, hsnd, hrelated⟩
  rcases List.mem_map.1 (hfst.mem_iff.2 hx) with ⟨p, hp, rfl⟩
  exact ⟨p.2, hsnd.mem_iff.1 (List.mem_map_of_mem hp), hrelated p hp⟩

end Matched

end Data
end Tallylot
