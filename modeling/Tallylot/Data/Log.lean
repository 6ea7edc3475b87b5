import Mathlib.Data.List.Induction
import Mathlib.Tactic.Common

/-!
# Log — verdicts read off an append-only log

Entries of a log may satisfy `accepts`, `refuses` or neither.  A reader that compares the index of
the last accepting entry with the index of the last refusing one only sees which of the two kinds
came last.  `standing` computes that one entry at a time, and `latestIndex_lt_iff_accepted` and
`latestIndex_lt_iff_refused` connect the two readings.
-/

namespace Tallylot
namespace Data

universe u

variable {α : Type u}

/-- Index of the last entry that satisfies `p`, or `-1`. -/
def latestIndex (p : α → Bool) (xs : List α) : Int :=
  match xs.reverse.findIdx? p with
  | some back => xs.length - 1 - back
  | none => -1

@[simp] lemma latestIndex_nil (p : α → Bool) : latestIndex p [] = -1 := rfl

lemma latestIndex_append_singleton (p : α → Bool) (xs : List α) (x : α) :
    latestIndex p (xs ++ [x]) = if p x then (xs.length : Int) else latestIndex p xs := by
  unfold latestIndex
  rw [List.reverse_append, List.reverse_singleton, List.singleton_append, List.findIdx?_cons]
  by_cases hx : p x
  · simp [hx]
  · simp only [hx, Bool.false_eq_true, if_false]
    cases List.findIdx? p xs.reverse with
    | none => simp
    | some back =>
        simp only [Option.map_some, List.length_append, List.length_singleton]
        push_cast
        omega

lemma latestIndex_lt_length (p : α → Bool) (xs : List α) : latestIndex p xs < xs.length := by
  induction xs using List.reverseRecOn with
  | nil => simp
  | append_singleton xs x ih =>
      rw [latestIndex_append_singleton, List.length_append, List.length_singleton]
      split
      · push_cast
        omega
      · push_cast
        omega

/-! ## The standing of a log -/

inductive Standing
  | undecided
  | accepted
  | refused
  deriving DecidableEq, Repr

def Standing.push (accepts refuses : α → Bool) (s : Standing) (x : α) : Standing :=
  if accepts x then .accepted else if refuses x then .refused else s

/-- What the last accepting or refusing entry of the log says. -/
def standing (accepts refuses : α → Bool) (xs : List α) : Standing :=
  xs.foldl (Standing.push accepts refuses) .undecided

@[simp] lemma standing_nil (accepts refuses : α → Bool) :
    standing accepts refuses [] = .undecided := rfl

lemma standing_append_singleton (accepts refuses : α → Bool) (xs : List α) (x : α) :
    standing accepts refuses (xs ++ [x]) =
      (standing accepts refuses xs).push accepts refuses x := by
  simp [standing]

/-- The two last indices are ordered the way the last decisive entry says. -/
lemma latestIndex_compare {accepts refuses : α → Bool}
    (hdisj : ∀ x, accepts x = true → refuses x = false) (xs : List α) :
    match standing accepts refuses xs with
    | .undecided => latestIndex accepts xs = -1 ∧ latestIndex refuses xs = -1
    | .accepted => latestIndex refuses xs < latestIndex accepts xs
    | .refused => latestIndex accepts xs < latestIndex refuses xs := by
  induction xs using List.reverseRecOn with
  | nil => simp
  | append_singleton xs x ih =>
      rw [standing_append_singleton, latestIndex_append_singleton, latestIndex_append_singleton]
      by_cases ha : accepts x
      · have hr : refuses x = false := hdisj x ha
        simpa [Standing.push, ha, hr] using latestIndex_lt_length refuses xs
      · by_cases hr : refuses x
        · simpa [Standing.push, ha, hr] using latestIndex_lt_length accepts xs
        · simpa [Standing.push, ha, hr] using ih

theorem latestIndex_lt_iff_accepted {accepts refuses : α → Bool}
    (hdisj : ∀ x, accepts x = true → refuses x = false) (xs : List α) :
    latestIndex refuses xs < latestIndex accepts xs ↔
      standing accepts refuses xs = .accepted := by
  have h := latestIndex_compare hdisj xs
  cases hs : standing accepts refuses xs with
  | undecided =>
      rw [hs] at h
      simp [h.1, h.2]
  | accepted =>
      rw [hs] at h
      simpa using h
  | refused =>
      have hlt : latestIndex accepts xs < latestIndex refuses xs := by simpa [hs] using h
      simpa using Int.le_of_lt hlt

theorem latestIndex_lt_iff_refused {accepts refuses : α → Bool}
    (hdisj : ∀ x, accepts x = true → refuses x = false) (xs : List α) :
    latestIndex accepts xs < latestIndex refuses xs ↔
      standing accepts refuses xs = .refused := by
  have h := latestIndex_compare hdisj xs
  cases hs : standing accepts refuses xs with
  | undecided =>
      rw [hs] at h
      simp [h.1, h.2]
  | accepted =>
      have hlt : latestIndex refuses xs < latestIndex accepts xs := by simpa [hs] using h
      simpa using Int.le_of_lt hlt
  | refused =>
      rw [hs] at h
      simpa using h

end Data
end Tallylot
