import Tallylot.Data.Dict
import Tallylot.Data.Sorted
import Mathlib.Data.List.MinMax
import Mathlib.Data.Prod.Lex

/-!
# Firsts — the first occurrences of a list

`firsts` keeps the first occurrence of every element, which is what a dictionary keeps of the
elements that it is written from under keys that tell them apart (`values_ofList`).  Filters, stable
sorts and first minima do not see the occurrences that it drops.

`firstsBy` and `repeatsBy` split a list by keys: the first element of every key, and the others.
-/

namespace Tallylot
namespace Data

universe u v

variable {α : Type u} [DecidableEq α]

def keepFirst (acc : List α) (a : α) : List α := if a ∈ acc then acc else acc ++ [a]

/-- The elements in the order of their first occurrence, each once. -/
def firsts (xs : List α) : List α := xs.foldl keepFirst []

@[simp] lemma firsts_nil : firsts ([] : List α) = [] := rfl

lemma firsts_concat (xs : List α) (a : α) : firsts (xs ++ [a]) = keepFirst (firsts xs) a := by
  rw [firsts, List.foldl_append]
  rfl

lemma mem_keepFirst {acc : List α} {a b : α} : a ∈ keepFirst acc b ↔ a ∈ acc ∨ a = b := by
  rw [keepFirst]
  split_ifs with hb
  · have hsame : a = b → a ∈ acc := by
      rintro rfl
      exact hb
    simpa using hsame
  · simp

@[simp] lemma mem_firsts {xs : List α} {a : α} : a ∈ firsts xs ↔ a ∈ xs := by
  induction xs using List.reverseRecOn with
  | nil => simp
  | append_singleton xs b ih => simp [firsts_concat, mem_keepFirst, ih]

lemma nodup_firsts (xs : List α) : (firsts xs).Nodup := by
  induction xs using List.reverseRecOn with
  | nil => simp
  | append_singleton xs b ih =>
      rw [firsts_concat, keepFirst]
      split_ifs with hb
      · exact ih
      · refine List.Nodup.append ih (List.nodup_singleton b) ?_
        simpa using hb

lemma firsts_append_of_subset {xs ys : List α} (h : ys ⊆ xs) : firsts (xs ++ ys) = firsts xs := by
  induction ys using List.reverseRecOn with
  | nil => simp
  | append_singleton ys b ih =>
      have hb : b ∈ xs := h (by simp)
      have hys : ys ⊆ xs := fun a ha => h (by simp [ha])
      rw [← List.append_assoc, firsts_concat, keepFirst, if_pos (by simp [hb]), ih hys]

lemma filter_firsts (p : α → Bool) (xs : List α) :
    (firsts xs).filter p = firsts (xs.filter p) := by
  induction xs using List.reverseRecOn with
  | nil => rfl
  | append_singleton xs b ih =>
      rw [firsts_concat, keepFirst, List.filter_append]
      by_cases hp : p b = true
      · rw [List.filter_cons_of_pos hp, List.filter_nil, firsts_concat, keepFirst, ← ih]
        by_cases hb : b ∈ xs <;> simp [hb, hp]
      · rw [List.filter_cons_of_neg hp, List.filter_nil, List.append_nil, ← ih]
        by_cases hb : b ∈ xs <;> simp [hb, hp]

/-- Stable sorting and dropping later occurrences commute. -/
theorem sortedOn_firsts {κ : Type v} [LinearOrder κ] (key : α → κ) (xs : List α) :
    sortedOn key (firsts xs) = firsts (sortedOn key xs) := by
  have hsublist : ∀ ys : List α, (firsts ys).Sublist ys := by
    intro ys
    induction ys using List.reverseRecOn with
    | nil => simp
    | append_singleton ys b ih =>
        rw [firsts_concat, keepFirst]
        split_ifs
        · exact ih.trans (List.sublist_append_left _ _)
        · exact ih.append (List.Sublist.refl _)
  refine eq_of_pairwise_of_filter_eq (pairwise_sortedOn key _)
    ((pairwise_sortedOn key xs).sublist (hsublist _)) ?_
  intro k
  rw [filter_sortedOn, filter_firsts, filter_firsts, filter_sortedOn]

/-- The first minimum is a first occurrence. -/
theorem argmin_firsts (f : α → Nat) (xs : List α) : (firsts xs).argmin f = xs.argmin f := by
  induction xs using List.reverseRecOn with
  | nil => rfl
  | append_singleton xs b ih =>
      rw [firsts_concat, keepFirst, List.argmin_concat]
      by_cases hb : b ∈ xs
      · rw [if_pos (mem_firsts.2 hb), ih]
        cases hmin : xs.argmin f with
        | none => rw [List.argmin_eq_none.1 hmin] at hb; cases hb
        | some c =>
            have hle : f c ≤ f b := List.le_of_mem_argmin hb hmin
            simp [not_lt.2 hle]
      · rw [if_neg (mt mem_firsts.1 hb), List.argmin_concat, ih]

/-! ## First minima of lists in order -/

section

variable {β : Type u} {γ : Type v} {κ : Type*} [LinearOrder κ]

lemma argmin_map (f : γ → Nat) (g : β → γ) (xs : List β) :
    (xs.map g).argmin f = (xs.argmin (fun a => f (g a))).map g := by
  induction xs using List.reverseRecOn with
  | nil => rfl
  | append_singleton xs b ih =>
      rw [List.map_append, List.map_singleton, List.argmin_concat, List.argmin_concat, ih]
      cases xs.argmin (fun a => f (g a)) with
      | none => rfl
      | some c =>
          simp only [Option.map_some]
          split_ifs <;> rfl

/-- The first minimum is the head of the elements that are minimal. -/
lemma argmin_eq_head? (f : β → Nat) (xs : List β) :
    xs.argmin f = (xs.filter (fun a => ∀ b ∈ xs, f a ≤ f b)).head? := by
  induction xs with
  | nil => rfl
  | cons a xs ih =>
      rw [List.argmin_cons]
      cases hmin : xs.argmin f with
      | none =>
          rw [List.argmin_eq_none.1 hmin]
          simp
      | some c =>
          have hc : c ∈ xs := List.argmin_mem hmin
          have hleast : ∀ b ∈ xs, f c ≤ f b := fun b hb => List.le_of_mem_argmin hb hmin
          dsimp only
          split_ifs with hlt
          · -- The head of the list is not minimal, and the minimal elements are those of the tail.
            have hdrop : ¬∀ b ∈ a :: xs, f a ≤ f b := fun hall =>
              absurd (hall c (List.mem_cons_of_mem _ hc)) (not_le.2 hlt)
            have hsame : ∀ d ∈ xs, (∀ b ∈ a :: xs, f d ≤ f b) ↔ ∀ b ∈ xs, f d ≤ f b := by
              intro d _
              rw [List.forall_mem_cons]
              exact ⟨And.right, fun hall => ⟨(hall c hc).trans hlt.le, hall⟩⟩
            rw [List.filter_cons_of_neg (by simpa using hdrop), ← hmin, ih]
            congr 1
            refine List.filter_congr ?_
            intro d hd
            exact decide_eq_decide.2 (hsame d hd).symm
          · have hkeep : ∀ b ∈ a :: xs, f a ≤ f b := by
              rw [List.forall_mem_cons]
              exact ⟨le_rfl, fun b hb => (not_lt.1 hlt).trans (hleast b hb)⟩
            rw [List.filter_cons_of_pos (by simpa using hkeep)]
            rfl

/-- The first minimum of an ordered list is the least one. -/
lemma argmin_least {f : β → Nat} {key : β → κ} {xs : List β}
    (hsorted : xs.Pairwise (fun a b => key a ≤ key b)) {a : β} (h : xs.argmin f = some a) :
    ∀ b ∈ xs, toLex (f a, key a) ≤ toLex (f b, key b) := by
  induction xs using List.reverseRecOn generalizing a with
  | nil => cases h
  | append_singleton xs c ih =>
      have hfront := List.pairwise_append.1 hsorted
      rw [List.argmin_concat] at h
      cases hmin : xs.argmin f with
      | none =>
          rw [hmin] at h
          rw [List.argmin_eq_none.1 hmin, List.nil_append, List.forall_mem_singleton,
            ← Option.some.inj h]
      | some d =>
          rw [hmin] at h
          simp only at h
          have hd : d ∈ xs := List.argmin_mem hmin
          intro b hb
          split_ifs at h with hlt
          · -- The last element is less than the minimum of the others.
            rw [← Option.some.inj h]
            rcases List.mem_append.1 hb with hb | hb
            · exact (Prod.Lex.left _ _ (hlt.trans_le (List.le_of_mem_argmin hb hmin)))
            · rw [List.mem_singleton.1 hb]
          · rw [← Option.some.inj h]
            rcases List.mem_append.1 hb with hb | hb
            · exact ih hfront.1 hmin b hb
            · rw [List.mem_singleton.1 hb]
              rcases Nat.lt_or_ge (f d) (f c) with hless | hge
              · exact Prod.Lex.left _ _ hless
              · have heq : f d = f c := le_antisymm (not_lt.1 hlt) hge
                rw [Prod.Lex.le_iff]
                exact .inr ⟨heq, hfront.2.2 d hd c List.mem_cons_self⟩

end

/-! ## Dictionaries -/

omit [DecidableEq α] in
lemma set_of_get? {κ : Type v} [DecidableEq κ] {d : Dict κ α} {k : κ} {a : α}
    (h : d.get? k = some a) : (d.set k a).entries = d.entries := by
  have hupsert : ∀ es : List (κ × α), Dict.lookupEntries k es = some a →
      Dict.upsertEntries k (fun _ => a) es = es := by
    intro es
    induction es with
    | nil =>
        intro hes
        cases hes
    | cons e es ih =>
        intro hes
        by_cases hk : e.1 = k
        · have ha : e.2 = a := by simpa [Dict.lookupEntries, hk] using hes
          simp [Dict.upsertEntries, hk, ← ha]
          rw [← hk]
        · have htail : Dict.lookupEntries k es = some a := by
            simpa [Dict.lookupEntries, hk] using hes
          simp [Dict.upsertEntries, hk, ih htail]
  exact hupsert d.entries h

/-- A dictionary written from elements under distinguishing keys holds their first occurrences. -/
theorem values_ofList {κ : Type v} [DecidableEq κ] {key : α → κ} {xs : List α}
    (hinj : Set.InjOn key {a | a ∈ xs}) :
    (Dict.ofList (xs.map (fun a => (key a, a)))).entries =
      (firsts xs).map (fun a => (key a, a)) := by
  induction xs using List.reverseRecOn with
  | nil => rfl
  | append_singleton xs b ih =>
      have hxs : Set.InjOn key {a | a ∈ xs} := hinj.mono (fun a ha => List.mem_append_left _ ha)
      have hfront := ih hxs
      have hwrite : Dict.ofList ((xs ++ [b]).map (fun a => (key a, a))) =
          (Dict.ofList (xs.map (fun a => (key a, a)))).set (key b) b := by
        rw [Dict.ofList, List.map_append, List.foldl_append]
        rfl
      rw [hwrite, firsts_concat, keepFirst]
      by_cases hb : b ∈ xs
      · have hget : (Dict.ofList (xs.map (fun a => (key a, a)))).get? (key b) = some b := by
          rw [Dict.get?_eq_some_iff, hfront]
          exact List.mem_map_of_mem (mem_firsts.2 hb)
        rw [if_pos (mem_firsts.2 hb), set_of_get? hget, hfront]
      · have hnot : key b ∉ (Dict.ofList (xs.map (fun a => (key a, a)))).entries.map Prod.fst := by
          rw [hfront, List.map_map]
          intro hmem
          rcases List.mem_map.1 hmem with ⟨a, ha, hkey⟩
          have ha' : a ∈ xs := mem_firsts.1 ha
          have hab : a = b := hinj (by simp [ha']) (by simp) hkey
          rw [hab] at ha'
          exact hb ha'
        rw [if_neg (mt mem_firsts.1 hb), List.map_append, List.map_singleton, ← hfront]
        exact Dict.upsertEntries_of_not_mem hnot

/-! ## First elements of keys -/

section ByKey

variable {β : Type*} {κ : Type*} [DecidableEq κ] (key : β → κ)

/-- The elements whose key is neither seen nor the key of an element before them. -/
def firstsBy : List κ → List β → List β
  | _, [] => []
  | seen, x :: xs => if key x ∈ seen then firstsBy seen xs else x :: firstsBy (key x :: seen) xs

/-- The elements whose key is seen or the key of an element before them. -/
def repeatsBy : List κ → List β → List β
  | _, [] => []
  | seen, x :: xs => if key x ∈ seen then x :: repeatsBy seen xs else repeatsBy (key x :: seen) xs

lemma firstsBy_append_repeatsBy (seen : List κ) (xs : List β) :
    (firstsBy key seen xs ++ repeatsBy key seen xs).Perm xs := by
  induction xs generalizing seen with
  | nil => exact List.Perm.refl _
  | cons x xs ih =>
      by_cases h : key x ∈ seen
      · rw [firstsBy, repeatsBy, if_pos h, if_pos h]
        exact List.perm_middle.trans ((ih seen).cons x)
      · rw [firstsBy, repeatsBy, if_neg h, if_neg h, List.cons_append]
        exact (ih _).cons x

lemma firstsBy_concat (seen : List κ) (xs : List β) (x : β) :
    firstsBy key seen (xs ++ [x]) =
      firstsBy key seen xs ++ (if key x ∈ seen ∨ key x ∈ xs.map key then [] else [x]) := by
  induction xs generalizing seen with
  | nil =>
      by_cases h : key x ∈ seen <;> simp [firstsBy, h]
  | cons y xs ih =>
      rw [List.cons_append]
      by_cases h : key y ∈ seen
      · have hseen : key x ∈ seen ∨ key x ∈ xs.map key ↔
            key x ∈ seen ∨ key x ∈ (y :: xs).map key := by
          rw [List.map_cons, List.mem_cons]
          constructor
          · rintro (hx | hx)
            · exact Or.inl hx
            · exact Or.inr (Or.inr hx)
          · rintro (hx | hx | hx)
            · exact Or.inl hx
            · exact Or.inl (hx ▸ h)
            · exact Or.inr hx
        rw [firstsBy, firstsBy, if_pos h, if_pos h, ih]
        simp only [hseen]
      · have hseen : key x ∈ key y :: seen ∨ key x ∈ xs.map key ↔
            key x ∈ seen ∨ key x ∈ (y :: xs).map key := by
          rw [List.map_cons, List.mem_cons, List.mem_cons, or_assoc, or_left_comm]
        rw [firstsBy, firstsBy, if_neg h, if_neg h, ih, List.cons_append]
        simp only [hseen]

/-- Every element has the key of a first one, unless its key is seen. -/
lemma exists_firstsBy {seen : List κ} {xs : List β} {x : β} (hx : x ∈ xs) (hnew : key x ∉ seen) :
    ∃ y ∈ firstsBy key seen xs, key y = key x := by
  induction xs generalizing seen with
  | nil => exact absurd hx List.not_mem_nil
  | cons y xs ih =>
      by_cases h : key y ∈ seen
      · rw [firstsBy, if_pos h]
        rcases List.mem_cons.1 hx with rfl | hx
        · exact absurd h hnew
        · exact ih hx hnew
      · rw [firstsBy, if_neg h]
        by_cases hkey : key x = key y
        · exact ⟨y, List.mem_cons_self, hkey.symm⟩
        · rcases List.mem_cons.1 hx with rfl | hx
          · exact absurd rfl hkey
          · have hnew' : key x ∉ key y :: seen := by simp [hkey, hnew]
            rcases ih hx hnew' with ⟨z, hz, hzx⟩
            exact ⟨z, List.mem_cons_of_mem _ hz, hzx⟩

lemma mem_of_mem_firstsBy {seen : List κ} {xs : List β} {x : β}
    (hx : x ∈ firstsBy key seen xs) : x ∈ xs :=
  (firstsBy_append_repeatsBy key seen xs).mem_iff.1 (List.mem_append_left _ hx)

/-- Elements of different keys are all first. -/
lemma firstsBy_of_nodup {seen : List κ} {xs : List β} (hnd : (xs.map key).Nodup)
    (hnew : ∀ x ∈ xs, key x ∉ seen) : firstsBy key seen xs = xs ∧ repeatsBy key seen xs = [] := by
  induction xs generalizing seen with
  | nil => exact ⟨rfl, rfl⟩
  | cons x xs ih =>
      rw [List.map_cons, List.nodup_cons] at hnd
      have hrest : ∀ y ∈ xs, key y ∉ key x :: seen := by
        intro y hy hmem
        rcases List.mem_cons.1 hmem with hsame | hseen
        · exact hnd.1 (hsame ▸ List.mem_map_of_mem hy)
        · exact hnew y (List.mem_cons_of_mem _ hy) hseen
      have hx : key x ∉ seen := hnew x List.mem_cons_self
      rw [firstsBy, repeatsBy, if_neg hx, if_neg hx, (ih hnd.2 hrest).1, (ih hnd.2 hrest).2]
      exact ⟨rfl, rfl⟩

end ByKey

end Data
end Tallylot
