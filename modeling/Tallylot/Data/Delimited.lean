import Mathlib.Data.List.Basic
import Mathlib.Tactic.Common

/-!
# Delimited — texts joined with a delimiter

A front without the delimiter is read back from `front ++ sep :: back`.  A back that may be left
out, with its delimiter, is not: the front may hold the delimiter too.  `Absorbs` says when two
such texts are told apart by their parts only.

A delimiter of several elements is cut at its first place (`cut`), which may start inside the front:
so the front and all of the delimiter but its last element must not hold it (`cut_append_iff`).
-/

namespace Tallylot
namespace Data

universe u

variable {α : Type u} {sep : α}

/-- The text before the first delimiter and the text after it are read back. -/
theorem append_sep_inj {front front' back back' : List α} (hfront : sep ∉ front)
    (hfront' : sep ∉ front') :
    front ++ sep :: back = front' ++ sep :: back' ↔ front = front' ∧ back = back' := by
  constructor
  · intro h
    rcases List.append_eq_append_iff.1 h with ⟨mid, hmid, hrest⟩ | ⟨mid, hmid, hrest⟩
    · cases mid with
      | nil => exact ⟨by simpa using hmid.symm, (List.cons.inj hrest).2⟩
      | cons x mid =>
          -- a longer front would hold the delimiter
          rcases List.cons.inj hrest with ⟨rfl, _⟩
          rw [hmid] at hfront'
          exact absurd (List.mem_append_right _ List.mem_cons_self) hfront'
    · cases mid with
      | nil => exact ⟨by simpa using hmid, (List.cons.inj hrest).2.symm⟩
      | cons x mid =>
          rcases List.cons.inj hrest with ⟨rfl, _⟩
          rw [hmid] at hfront
          exact absurd (List.mem_append_right _ List.mem_cons_self) hfront
  · rintro ⟨rfl, rfl⟩
    rfl

/-- A part that is left out, with its delimiter, when it is empty. -/
def optionalPart (sep : α) : List α → List α
  | [] => []
  | x :: xs => sep :: x :: xs

@[simp] lemma optionalPart_nil : optionalPart sep [] = [] := rfl

lemma optionalPart_of_ne_nil {part : List α} (h : part ≠ []) :
    optionalPart sep part = sep :: part := by
  cases part with
  | nil => exact absurd rfl h
  | cons x xs => rfl

lemma optionalPart_inj {part part' : List α} :
    optionalPart sep part = optionalPart sep part' ↔ part = part' := by
  cases part with
  | nil => cases part' with
    | nil => simp
    | cons x xs => simp [optionalPart]
  | cons x xs => cases part' with
    | nil => simp [optionalPart]
    | cons y ys => simp [optionalPart]

/-- The front of the first text holds, after a delimiter, the start of the second's last part. -/
def Absorbs (sep : α) (front part front' part' : List α) : Prop :=
  part' ≠ [] ∧ ∃ rest, front = front' ++ sep :: rest ∧ part' = rest ++ optionalPart sep part

lemma Absorbs.eq {front part front' part' : List α} (h : Absorbs sep front part front' part') :
    front ++ optionalPart sep part = front' ++ optionalPart sep part' := by
  rcases h with ⟨hne, rest, rfl, hpart⟩
  rw [optionalPart_of_ne_nil hne, hpart, List.append_assoc, List.cons_append]

lemma Absorbs.ne {front part front' part' : List α} (h : Absorbs sep front part front' part') :
    front ≠ front' := by
  rcases h with ⟨_, rest, rfl, _⟩
  intro heq
  have hlength := congrArg List.length heq
  simp at hlength

lemma not_absorbs_of_no_start {front part front' part' : List α} (h : ¬ front' <+: front) :
    ¬ Absorbs sep front part front' part' := by
  rintro ⟨_, rest, rfl, _⟩
  exact h (List.prefix_append front' _)

/-- Texts with a last part that may be left out are the same for the same parts, and where one
front absorbs the start of the other's last part. -/
theorem append_optionalPart_eq_iff {front part front' part' : List α} :
    front ++ optionalPart sep part = front' ++ optionalPart sep part' ↔
      (front = front' ∧ part = part') ∨ Absorbs sep front part front' part' ∨
        Absorbs sep front' part' front part := by
  constructor
  · intro h
    rcases List.append_eq_append_iff.1 h with ⟨mid, hmid, hrest⟩ | ⟨mid, hmid, hrest⟩
    · cases mid with
      | nil => exact .inl ⟨by simpa using hmid.symm, optionalPart_inj.1 (by simpa using hrest)⟩
      | cons x mid =>
          have hne : part ≠ [] := by
            rintro rfl
            cases hrest
          rw [optionalPart_of_ne_nil hne] at hrest
          rcases List.cons.inj hrest with ⟨rfl, hpart⟩
          exact .inr (.inr ⟨hne, mid, hmid, hpart⟩)
    · cases mid with
      | nil => exact .inl ⟨by simpa using hmid, (optionalPart_inj.1 (by simpa using hrest)).symm⟩
      | cons x mid =>
          have hne : part' ≠ [] := by
            rintro rfl
            cases hrest
          rw [optionalPart_of_ne_nil hne] at hrest
          rcases List.cons.inj hrest with ⟨rfl, hpart⟩
          exact .inr (.inl ⟨hne, mid, hmid, hpart⟩)
  · rintro (⟨rfl, rfl⟩ | h | h)
    · rfl
    · exact h.eq
    · exact h.eq.symm

/-! ## Joined lists -/

section

variable [DecidableEq α]

/-- Lists that are joined are split where each of them is. -/
lemma splitOn_intercalate_flatMap {xss : List (List α)} (h : xss ≠ []) :
    ([sep].intercalate xss).splitOn sep = xss.flatMap (fun xs => xs.splitOn sep) := by
  induction xss with
  | nil => exact absurd rfl h
  | cons xs xss ih =>
      cases xss with
      | nil => simp
      | cons ys yss =>
          have hrest := ih (List.cons_ne_nil ys yss)
          rw [List.intercalate_cons_cons, List.append_assoc, List.singleton_append,
            List.splitOn_append_cons_self, hrest]
          rfl

/-- Joined lists are the same exactly when they have the same pieces without delimiters. -/
theorem intercalate_eq_iff {xss yss : List (List α)} (hx : xss ≠ []) (hy : yss ≠ []) :
    [sep].intercalate xss = [sep].intercalate yss ↔
      xss.flatMap (fun xs => xs.splitOn sep) = yss.flatMap (fun ys => ys.splitOn sep) := by
  rw [← splitOn_intercalate_flatMap hx, ← splitOn_intercalate_flatMap hy]
  refine ⟨fun h => by rw [h], fun h => ?_⟩
  calc
    [sep].intercalate xss = [sep].intercalate (([sep].intercalate xss).splitOn sep) :=
      (List.intercalate_splitOn sep).symm
    _ = [sep].intercalate (([sep].intercalate yss).splitOn sep) := by rw [h]
    _ = [sep].intercalate yss := List.intercalate_splitOn sep

end

/-! ## The first place of a delimiter -/

lemma not_infix_of_length_lt {delimiter xs : List α} (h : xs.length < delimiter.length) :
    ¬ delimiter <:+: xs := fun hinfix => absurd hinfix.length_le (Nat.not_le.2 h)

lemma length_dropLast_lt {delimiter : List α} (h : delimiter ≠ []) : delimiter.dropLast.length < delimiter.length := by
  rw [List.length_dropLast]
  exact Nat.sub_lt (List.length_pos_iff.2 h) Nat.one_pos

section

variable [DecidableEq α]

/-- The front and the back of the first place of a delimiter; `none` where there is no place. -/
def cut (delimiter : List α) : List α → Option (List α × List α)
  | [] => none
  | x :: xs =>
      if delimiter <+: x :: xs then some ([], (x :: xs).drop delimiter.length)
      else (cut delimiter xs).map (fun parts => (x :: parts.1, parts.2))

variable {delimiter : List α}

lemma cut_cons_of_start {x : α} {xs : List α} (h : delimiter <+: x :: xs) :
    cut delimiter (x :: xs) = some ([], (x :: xs).drop delimiter.length) := if_pos h

lemma cut_of_start (hne : delimiter ≠ []) {xs : List α} (h : delimiter <+: xs) :
    cut delimiter xs = some ([], xs.drop delimiter.length) := by
  cases xs with
  | nil => exact absurd (List.prefix_nil.1 h) hne
  | cons x xs => exact cut_cons_of_start h

lemma cut_cons_of_no_start {x : α} {xs : List α} (h : ¬ delimiter <+: x :: xs) :
    cut delimiter (x :: xs) = (cut delimiter xs).map (fun parts => (x :: parts.1, parts.2)) :=
  if_neg h

/-- What is cut is the delimiter between the two parts, at no earlier place. -/
lemma of_cut_eq_some (hne : delimiter ≠ []) {xs front back : List α}
    (h : cut delimiter xs = some (front, back)) :
    xs = front ++ delimiter ++ back ∧ ¬ delimiter <:+: front ++ delimiter.dropLast := by
  induction xs generalizing front with
  | nil => cases h
  | cons x xs ih =>
      by_cases hstart : delimiter <+: x :: xs
      · rw [cut_cons_of_start hstart] at h
        cases h
        rcases hstart with ⟨rest, hrest⟩
        refine ⟨?_, not_infix_of_length_lt (length_dropLast_lt hne)⟩
        rw [← hrest, List.drop_left, List.nil_append]
      · rw [cut_cons_of_no_start hstart] at h
        rcases Option.map_eq_some_iff.1 h with ⟨⟨front', back'⟩, hcut, hparts⟩
        cases hparts
        rcases ih hcut with ⟨hxs, hfirst⟩
        refine ⟨by rw [hxs]; rfl, ?_⟩
        intro hinfix
        rcases List.infix_cons_iff.1 hinfix with hbelow | htail
        · refine hstart (hbelow.trans ?_)
          rw [hxs, List.append_assoc]
          exact (List.prefix_append_right_inj (x :: front')).2
            ((List.dropLast_prefix delimiter).trans (List.prefix_append delimiter _))
        · exact hfirst htail

lemma cut_append (hne : delimiter ≠ []) {front back : List α}
    (h : ¬ delimiter <:+: front ++ delimiter.dropLast) :
    cut delimiter (front ++ delimiter ++ back) = some (front, back) := by
  induction front with
  | nil =>
      rw [List.nil_append, cut_of_start hne (List.prefix_append delimiter back), List.drop_left]
  | cons x front ih =>
      have hstart : ¬ delimiter <+: x :: (front ++ delimiter ++ back) := by
        intro hbelow
        -- a place that starts here ends inside `x :: front ++ delimiter.dropLast`
        have hlength : delimiter.length ≤ (x :: front ++ delimiter.dropLast).length := by
          have hpos := List.length_pos_iff.2 hne
          simp only [List.length_append, List.length_cons, List.length_dropLast]
          omega
        have hshort : x :: front ++ delimiter.dropLast <+: x :: (front ++ delimiter ++ back) := by
          rw [List.append_assoc, ← List.cons_append]
          exact (List.prefix_append_right_inj (x :: front)).2
            ((List.dropLast_prefix delimiter).trans (List.prefix_append delimiter back))
        exact h (List.prefix_of_prefix_length_le hbelow hshort hlength).isInfix
      have htail := ih (fun hinfix => h (List.infix_cons_iff.2 (.inr hinfix)))
      rw [List.cons_append, List.cons_append, cut_cons_of_no_start hstart, htail]
      rfl

/-- The parts around a delimiter are cut apart exactly when it has no earlier place. -/
theorem cut_append_iff (hne : delimiter ≠ []) {front back : List α} :
    cut delimiter (front ++ delimiter ++ back) = some (front, back) ↔
      ¬ delimiter <:+: front ++ delimiter.dropLast :=
  ⟨fun h => (of_cut_eq_some hne h).2, cut_append hne⟩

theorem cut_eq_none_iff (hne : delimiter ≠ []) {xs : List α} :
    cut delimiter xs = none ↔ ¬ delimiter <:+: xs := by
  constructor
  · intro h hinfix
    induction xs with
    | nil => exact hne (List.infix_nil.1 hinfix)
    | cons x xs ih =>
        by_cases hstart : delimiter <+: x :: xs
        · rw [cut_cons_of_start hstart] at h
          cases h
        · rw [cut_cons_of_no_start hstart, Option.map_eq_none_iff] at h
          rcases List.infix_cons_iff.1 hinfix with hbelow | htail
          · exact hstart hbelow
          · exact ih h htail
  · intro h
    cases hcut : cut delimiter xs with
    | none => rfl
    | some parts =>
        have hxs := (@of_cut_eq_some _ _ _ hne xs parts.1 parts.2 hcut).1
        exact absurd ⟨parts.1, parts.2, hxs.symm⟩ h

end

end Data
end Tallylot
