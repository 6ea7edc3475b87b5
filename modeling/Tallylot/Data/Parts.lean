import Mathlib.Data.List.Nodup
import Mathlib.Data.List.Pairwise
import Mathlib.Data.List.Perm.Basic
import Mathlib.Tactic.Common

/-!
# Parts — results computed part by part

A list is split into parts, a partial function gives each part a result, and the results carry
rows that belong to the elements of their part.  `pairs` holds every part with its result.  When
the keys of the elements are distinct, the rows of an element are found in the result of its part
(`mem_rows_of_part`).
-/

namespace Tallylot
namespace Data

universe u v w

variable {α : Type u} {β : Type v} {γ : Type w}

/-- A traversal that succeeds everywhere, as the list of its steps. -/
theorem mapM_pairs {f : α → Option β} {P : α → β → Prop} {xs : List α} :
    (∀ x ∈ xs, ∃ y, f x = some y ∧ P x y) →
      ∃ pairs : List (α × β), xs.mapM f = some (pairs.map Prod.snd) ∧ pairs.map Prod.fst = xs ∧
        ∀ p ∈ pairs, P p.1 p.2 := by
  intro h
  induction xs with
  | nil => exact ⟨[], by simp, rfl, by simp⟩
  | cons x xs ih =>
      rcases h x List.mem_cons_self with ⟨y, hy, hxy⟩
      rcases ih (fun z hz => h z (List.mem_cons_of_mem _ hz)) with ⟨pairs, hmap, hfst, hpairs⟩
      refine ⟨(x, y) :: pairs, ?_, ?_, ?_⟩
      · simp [List.mapM_cons, hy, hmap]
      · simp [hfst]
      · intro p hp
        rcases List.mem_cons.1 hp with rfl | hp
        · exact hxy
        · exact hpairs p hp

/-- A traversal whose steps are known. -/
lemma mapM_eq_map {f : α → Option β} {g : α → β} {xs : List α} :
    (∀ x ∈ xs, f x = some (g x)) → xs.mapM f = some (xs.map g) := by
  intro h
  induction xs with
  | nil => rfl
  | cons x xs ih =>
      simp [List.mapM_cons, h x List.mem_cons_self,
        ih (fun y hy => h y (List.mem_cons_of_mem _ hy))]

/-- A traversal succeeds exactly when every step does. -/
theorem mapM_eq_some_iff [Inhabited β] {f : α → Option β} {xs : List α} {ys : List β} :
    xs.mapM f = some ys ↔
      (∀ x ∈ xs, (f x).isSome) ∧ ys = xs.map (fun x => (f x).getD default) := by
  constructor
  · intro h
    induction xs generalizing ys with
    | nil => simpa using h.symm
    | cons x xs ih =>
        cases hx : f x with
        | none => simp [List.mapM_cons, hx] at h
        | some y =>
            cases hxs : xs.mapM f with
            | none => simp [List.mapM_cons, hx, hxs] at h
            | some zs =>
                have hys : y :: zs = ys := by simpa [List.mapM_cons, hx, hxs] using h
                rcases ih hxs with ⟨hsome, hzs⟩
                refine ⟨?_, by simp [← hys, hx, hzs]⟩
                intro z hz
                rcases List.mem_cons.1 hz with rfl | hz
                · simp [hx]
                · exact hsome z hz
  · rintro ⟨hsome, rfl⟩
    refine mapM_eq_map ?_
    intro x hx
    rcases Option.isSome_iff_exists.1 (hsome x hx) with ⟨y, hy⟩
    simp [hy]

lemma mapM_cons_eq_some {f : α → Option β} {x : α} {xs : List α} {ys : List β} :
    (x :: xs).mapM f = some ys ↔
      ∃ y rest, f x = some y ∧ xs.mapM f = some rest ∧ ys = y :: rest := by
  simp [List.mapM_cons, Option.bind_eq_some_iff, @eq_comm _ ys]

/-- Where every row has the key of its part, the rows of a key are those of the parts of the key. -/
theorem filter_flatMap_key {κ : Type*} [DecidableEq κ] {rows : α → List β} {part : α → κ}
    {key : β → κ} {xs : List α} (h : ∀ x ∈ xs, ∀ y ∈ rows x, key y = part x) (k : κ) :
    (xs.flatMap rows).filter (fun y => key y = k) =
      (xs.filter (fun x => part x = k)).flatMap rows := by
  induction xs with
  | nil => rfl
  | cons x xs ih =>
      have hx := h x List.mem_cons_self
      have htail := ih (fun z hz => h z (List.mem_cons_of_mem _ hz))
      rw [List.flatMap_cons, List.filter_append, htail]
      by_cases hk : part x = k
      · have hall : (rows x).filter (fun y => key y = k) = rows x :=
          List.filter_eq_self.2 (fun y hy => by simpa using (hx y hy).trans hk)
        rw [List.filter_cons_of_pos (by simpa using hk), List.flatMap_cons, hall]
      · have hnone : (rows x).filter (fun y => key y = k) = [] :=
          List.filter_eq_nil_iff.2 (fun y hy => by simpa [hx y hy] using hk)
        rw [List.filter_cons_of_neg (by simpa using hk), hnone, List.nil_append]

/-- The steps of a partial traversal that succeeded. -/
theorem mapM_some_pairs {f : α → Option β} {xs : List α} {ys : List β} :
    xs.mapM f = some ys →
      ∃ pairs : List (α × β), pairs.map Prod.fst = xs ∧ pairs.map Prod.snd = ys ∧
        ∀ p ∈ pairs, f p.1 = some p.2 := by
  intro h
  induction xs generalizing ys with
  | nil => exact ⟨[], rfl, by simpa using h.symm, by simp⟩
  | cons x xs ih =>
      rcases mapM_cons_eq_some.1 h with ⟨y, rest, hy, hrest, rfl⟩
      rcases ih hrest with ⟨pairs, hfst, hsnd, hpairs⟩
      refine ⟨(x, y) :: pairs, by simp [hfst], by simp [hsnd], ?_⟩
      intro p hp
      rcases List.mem_cons.1 hp with rfl | hp
      · exact hy
      · exact hpairs p hp

/-- A traversal in another order gives the results in another order. -/
theorem mapM_perm {f : α → Option β} {xs xs' : List α} (hperm : xs.Perm xs') :
    ∀ {ys : List β}, xs.mapM f = some ys → ∃ ys', xs'.mapM f = some ys' ∧ ys.Perm ys' := by
  induction hperm with
  | nil =>
      intro ys h
      exact ⟨ys, h, List.Perm.refl ys⟩
  | cons x _ ih =>
      intro ys h
      rcases mapM_cons_eq_some.1 h with ⟨y, rest, hy, hrest, rfl⟩
      rcases ih hrest with ⟨rest', hrest', hp⟩
      exact ⟨y :: rest', mapM_cons_eq_some.2 ⟨y, rest', hy, hrest', rfl⟩, hp.cons y⟩
  | swap x x' l =>
      intro ys h
      rcases mapM_cons_eq_some.1 h with ⟨y, rest, hy, hrest, rfl⟩
      rcases mapM_cons_eq_some.1 hrest with ⟨y', rest', hy', hrest', rfl⟩
      refine ⟨y' :: y :: rest', ?_, List.Perm.swap _ _ _⟩
      exact mapM_cons_eq_some.2 ⟨y', y :: rest', hy',
        mapM_cons_eq_some.2 ⟨y, rest', hy, hrest', rfl⟩, rfl⟩
  | trans _ _ ih ih' =>
      intro ys h
      rcases ih h with ⟨ys', h', hp⟩
      rcases ih' h' with ⟨ys'', h'', hp'⟩
      exact ⟨ys'', h'', hp.trans hp'⟩

lemma except_bind_eq_ok {ε : Type*} {α β : Type} {x : Except ε α} {f : α → Except ε β} {b : β} :
    (x >>= f) = .ok b ↔ ∃ a, x = .ok a ∧ f a = .ok b := by
  cases x with
  | error e => exact iff_of_false (fun h => by cases h) (fun ⟨_, h, _⟩ => by cases h)
  | ok a => exact ⟨fun h => ⟨a, rfl, h⟩, fun ⟨_, ha, h⟩ => Except.ok.inj ha ▸ h⟩

lemma mapM_cons_eq_ok {ε : Type*} {α β : Type} {f : α → Except ε β} {x : α} {xs : List α}
    {ys : List β} :
    (x :: xs).mapM f = .ok ys ↔
      ∃ y rest, f x = .ok y ∧ xs.mapM f = .ok rest ∧ ys = y :: rest := by
  rw [List.mapM_cons, except_bind_eq_ok]
  refine exists_congr (fun y => ?_)
  rw [except_bind_eq_ok]
  constructor
  · rintro ⟨hy, rest, hrest, h⟩
    exact ⟨rest, hy, hrest, (Except.ok.inj h).symm⟩
  · rintro ⟨rest, hy, hrest, rfl⟩
    exact ⟨hy, rest, hrest, rfl⟩

/-- A traversal that succeeds does so in another order, with the results in that order. -/
theorem mapM_ok_perm {ε : Type*} {α β : Type} {f : α → Except ε β} {xs xs' : List α}
    (hperm : xs.Perm xs') :
    ∀ {ys : List β}, xs.mapM f = .ok ys → ∃ ys', xs'.mapM f = .ok ys' ∧ ys.Perm ys' := by
  induction hperm with
  | nil =>
      intro ys h
      exact ⟨ys, h, List.Perm.refl ys⟩
  | cons x _ ih =>
      intro ys h
      rcases mapM_cons_eq_ok.1 h with ⟨y, rest, hy, hrest, rfl⟩
      rcases ih hrest with ⟨rest', hrest', hp⟩
      exact ⟨y :: rest', mapM_cons_eq_ok.2 ⟨y, rest', hy, hrest', rfl⟩, hp.cons y⟩
  | swap x x' l =>
      intro ys h
      rcases mapM_cons_eq_ok.1 h with ⟨y, rest, hy, hrest, rfl⟩
      rcases mapM_cons_eq_ok.1 hrest with ⟨y', rest', hy', hrest', rfl⟩
      refine ⟨y' :: y :: rest', ?_, List.Perm.swap _ _ _⟩
      exact mapM_cons_eq_ok.2 ⟨y', y :: rest', hy',
        mapM_cons_eq_ok.2 ⟨y, rest', hy, hrest', rfl⟩, rfl⟩
  | trans _ _ ih ih' =>
      intro ys h
      rcases ih h with ⟨ys', h', hp⟩
      rcases ih' h' with ⟨ys'', h'', hp'⟩
      exact ⟨ys'', h'', hp.trans hp'⟩

/-- The steps of a traversal that succeeded. -/
theorem mapM_ok_pairs {ε : Type*} {f : α → Except ε β} {xs : List α} {ys : List β} :
    xs.mapM f = .ok ys →
      ∃ pairs : List (α × β), pairs.map Prod.fst = xs ∧ pairs.map Prod.snd = ys ∧
        ∀ p ∈ pairs, f p.1 = .ok p.2 := by
  intro h
  induction xs generalizing ys with
  | nil =>
      cases h
      exact ⟨[], rfl, rfl, by simp⟩
  | cons x xs ih =>
      cases hx : f x with
      | error e => simp [List.mapM_cons, hx, bind, Except.bind] at h
      | ok y =>
          cases hxs : xs.mapM f with
          | error e => simp [List.mapM_cons, hx, hxs, bind, Except.bind] at h
          | ok zs =>
              rcases ih hxs with ⟨pairs, hfst, hsnd, hpairs⟩
              have hys : y :: zs = ys := by
                simpa [List.mapM_cons, hx, hxs, bind, Except.bind, pure, Except.pure] using h
              refine ⟨(x, y) :: pairs, by simp [hfst], by simp [hsnd, hys], ?_⟩
              intro p hp
              rcases List.mem_cons.1 hp with rfl | hp
              · exact hx
              · exact hpairs p hp

/-- A traversal succeeds where every step does, in order. -/
theorem mapM_eq_ok_iff {ε : Type*} {α β : Type} {f : α → Except ε β} {xs : List α} {ys : List β} :
    xs.mapM f = .ok ys ↔ List.Forall₂ (fun x y => f x = .ok y) xs ys := by
  constructor
  · intro h
    rcases mapM_ok_pairs h with ⟨pairs, rfl, rfl, hpairs⟩
    rw [List.forall₂_map_left_iff, List.forall₂_map_right_iff, List.forall₂_same]
    exact hpairs
  · intro h
    induction h with
    | nil => rfl
    | cons hfirst _ ih => exact mapM_cons_eq_ok.2 ⟨_, _, hfirst, ih, rfl⟩

lemma mapM_ok_of_pairs {ε : Type*} {f : α → Except ε β} {pairs : List (α × β)} :
    (∀ p ∈ pairs, f p.1 = .ok p.2) →
      (pairs.map Prod.fst).mapM f = .ok (pairs.map Prod.snd) := by
  intro h
  induction pairs with
  | nil => rfl
  | cons p pairs ih =>
      have htail := ih (fun q hq => h q (List.mem_cons_of_mem _ hq))
      simp [List.mapM_cons, h p List.mem_cons_self, htail, bind, Except.bind, pure, Except.pure]

lemma mapM_ok_map {ε δ : Type*} {f : α → Except ε β} {g : δ → α} {h : δ → β} {xs : List δ} :
    (∀ x ∈ xs, f (g x) = .ok (h x)) → (xs.map g).mapM f = .ok (xs.map h) := by
  intro hok
  have hpairs : ∀ p ∈ xs.map (fun x => (g x, h x)), f p.1 = .ok p.2 := by
    intro p hp
    rcases List.mem_map.1 hp with ⟨x, hx, rfl⟩
    exact hok x hx
  simpa [Function.comp_def] using mapM_ok_of_pairs hpairs

/-- A traversal of parts, part by part. -/
lemma mapM_flatMap {ε δ : Type*} {f : α → Except ε β} {g : δ → List α} {h : δ → List β}
    {xs : List δ} :
    (∀ x ∈ xs, (g x).mapM f = .ok (h x)) → (xs.flatMap g).mapM f = .ok (xs.flatMap h) := by
  intro hok
  induction xs with
  | nil => rfl
  | cons x xs ih =>
      have htail := ih (fun z hz => hok z (List.mem_cons_of_mem _ hz))
      rw [List.flatMap_cons, List.mapM_append, hok x List.mem_cons_self, htail]
      rfl

lemma exists_of_isOk {ε α : Type*} {x : Except ε α} (h : x.isOk = true) : ∃ a, x = .ok a := by
  cases x with
  | error e => cases h
  | ok a => exact ⟨a, rfl⟩

lemma exists_mapM_ok {ε : Type*} {f : α → Except ε β} {xs : List α} :
    (∀ x ∈ xs, ∃ y, f x = .ok y) → ∃ ys, xs.mapM f = .ok ys := by
  intro h
  induction xs with
  | nil => exact ⟨[], rfl⟩
  | cons x xs ih =>
      rcases h x List.mem_cons_self with ⟨y, hy⟩
      rcases ih (fun z hz => h z (List.mem_cons_of_mem _ hz)) with ⟨ys, hys⟩
      exact ⟨y :: ys, by simp [List.mapM_cons, hy, hys, bind, Except.bind, pure, Except.pure]⟩

/-- Results that show what their elements show. -/
lemma exists_mapM_map {ε γ : Type*} {f : α → Except ε β} {shown : β → γ} {shows : α → γ}
    {xs : List α} (h : ∀ x ∈ xs, ∃ y, f x = .ok y ∧ shown y = shows x) :
    ∃ ys, xs.mapM f = .ok ys ∧ ys.map shown = xs.map shows := by
  have hok : ∀ x ∈ xs, ∃ y, f x = .ok y := fun x hx => (h x hx).imp (fun _ hy => hy.1)
  rcases exists_mapM_ok hok with ⟨ys, hys⟩
  refine ⟨ys, hys, ?_⟩
  rcases mapM_ok_pairs hys with ⟨pairs, rfl, rfl, hpairs⟩
  rw [List.map_map, List.map_map]
  refine List.map_congr_left ?_
  intro p hp
  rcases h p.1 (List.mem_map_of_mem hp) with ⟨y, hy, hshown⟩
  have hsame : y = p.2 := Except.ok.inj (hy.symm.trans (hpairs p hp))
  rw [Function.comp_apply, Function.comp_apply, ← hsame, hshown]

/-- Lists of results that show, up to their order, what their elements show. -/
lemma exists_mapM_flatten {ε γ : Type*} {f : α → Except ε (List β)} {shown : β → γ}
    {shows : α → List γ} {xs : List α}
    (h : ∀ x ∈ xs, ∃ ys, f x = .ok ys ∧ (ys.map shown).Perm (shows x)) :
    ∃ yss, xs.mapM f = .ok yss ∧ (yss.flatten.map shown).Perm (xs.flatMap shows) := by
  have hok : ∀ x ∈ xs, ∃ ys, f x = .ok ys := fun x hx => (h x hx).imp (fun _ hys => hys.1)
  rcases exists_mapM_ok hok with ⟨yss, hyss⟩
  refine ⟨yss, hyss, ?_⟩
  rcases mapM_ok_pairs hyss with ⟨pairs, rfl, rfl, hpairs⟩
  rw [← List.flatMap_id', List.flatMap_map, List.map_flatMap, List.flatMap_map]
  refine List.Perm.flatMap_left pairs ?_
  intro p hp
  rcases h p.1 (List.mem_map_of_mem hp) with ⟨ys, hys, hperm⟩
  rw [← Except.ok.inj (hys.symm.trans (hpairs p hp))]
  exact hperm

/-- In lists that are related in order, every element on the right has its element on the left. -/
lemma exists_left_of_forall₂ {related : α → β → Prop} {xs : List α} {ys : List β}
    (h : List.Forall₂ related xs ys) {y : β} (hy : y ∈ ys) : ∃ x ∈ xs, related x y := by
  induction h with
  | nil => cases hy
  | cons hrelated _ ih =>
      rcases List.mem_cons.1 hy with rfl | hy
      · exact ⟨_, List.mem_cons_self, hrelated⟩
      · rcases ih hy with ⟨x, hx, hrelated⟩
        exact ⟨x, List.mem_cons_of_mem _ hx, hrelated⟩

lemma exists_forall₂ {related : α → β → Prop} {xs : List α} (h : ∀ x ∈ xs, ∃ y, related x y) :
    ∃ ys, List.Forall₂ related xs ys := by
  induction xs with
  | nil => exact ⟨[], List.Forall₂.nil⟩
  | cons x xs ih =>
      rcases h x List.mem_cons_self with ⟨y, hy⟩
      rcases ih (fun z hz => h z (List.mem_cons_of_mem _ hz)) with ⟨ys, hys⟩
      exact ⟨y :: ys, List.Forall₂.cons hy hys⟩

lemma exists_right_of_forall₂ {related : α → β → Prop} {xs : List α} {ys : List β}
    (h : List.Forall₂ related xs ys) {x : α} (hx : x ∈ xs) : ∃ y ∈ ys, related x y :=
  exists_left_of_forall₂ h.flip hx

/-- Under distinct keys an element is the only one of its key. -/
lemma filter_key_eq_singleton {κ : Type*} [DecidableEq κ] {key : α → κ} {xs : List α} {x : α}
    (hnd : (xs.map key).Nodup) (hx : x ∈ xs) : xs.filter (fun y => key y = key x) = [x] := by
  induction xs with
  | nil => exact absurd hx List.not_mem_nil
  | cons z xs ih =>
      rw [List.map_cons, List.nodup_cons] at hnd
      rcases List.mem_cons.1 hx with rfl | hx
      · have hrest : xs.filter (fun y => key y = key x) = [] := by
          refine List.filter_eq_nil_iff.2 (fun y hy => ?_)
          rw [decide_eq_true_eq]
          exact fun h => hnd.1 (h ▸ List.mem_map_of_mem hy)
        rw [List.filter_cons_of_pos (by simp), hrest]
      · have hne : ¬key z = key x := fun h => hnd.1 (h ▸ List.mem_map_of_mem hx)
        rw [List.filter_cons_of_neg (by simpa using hne), ih hnd.2 hx]

/-- Under distinct keys a key has one element at most. -/
lemma length_filter_key_le_one {κ : Type*} [DecidableEq κ] {key : α → κ} {xs : List α}
    (hnd : (xs.map key).Nodup) (k : κ) : (xs.filter (fun y => key y = k)).length ≤ 1 := by
  by_cases hk : k ∈ xs.map key
  · rcases List.mem_map.1 hk with ⟨x, hx, rfl⟩
    exact Nat.le_of_eq (congrArg List.length (filter_key_eq_singleton hnd hx))
  · have hnil : xs.filter (fun y => key y = k) = [] := by
      refine List.filter_eq_nil_iff.2 (fun y hy => ?_)
      rw [decide_eq_true_eq]
      exact fun h => hk (h ▸ List.mem_map_of_mem hy)
    rw [hnil]
    exact Nat.zero_le 1

/-- Rows that show what is listed under distinct keys: a listed key has one row, which shows it. -/
lemma exists_row_of_perm {κ ν : Type*} [DecidableEq κ] {row : α → κ × ν} {xs : List α}
    {shown : List (κ × ν)} (hperm : (xs.map row).Perm shown) (hnd : (shown.map Prod.fst).Nodup)
    {k : κ} {v : ν} (h : (k, v) ∈ shown) :
    ∃ x, xs.filter (fun y => (row y).1 = k) = [x] ∧ row x = (k, v) := by
  rcases List.mem_map.1 (hperm.mem_iff.2 h) with ⟨x, hx, hrow⟩
  have hkeys : (xs.map (fun y => (row y).1)).Nodup := by
    have hmap := (hperm.map Prod.fst).nodup_iff.2 hnd
    rwa [List.map_map] at hmap
  refine ⟨x, ?_, hrow⟩
  have hfilter := filter_key_eq_singleton hkeys hx
  rwa [hrow] at hfilter

/-- An element that a search accepts is found if the search accepts no other one. -/
lemma find?_eq_some_of_unique {p : α → Bool} {xs : List α} {x : α} (hx : x ∈ xs) (hp : p x = true)
    (hunique : ∀ y ∈ xs, p y = true → y = x) : xs.find? p = some x := by
  cases hfound : xs.find? p with
  | none => exact absurd hp (List.find?_eq_none.1 hfound x hx)
  | some y =>
      rw [hunique y (List.mem_of_find?_eq_some hfound) (List.find?_some hfound)]

/-- Two disjoint filters give what one filter gives exactly where one of the two keeps what it keeps. -/
theorem filter_append_perm_iff {p q r : α → Bool} {xs : List α}
    (hq : ∀ x ∈ xs, q x = true → p x = true) (hr : ∀ x ∈ xs, r x = true → p x = true)
    (hapart : ∀ x ∈ xs, q x = true → r x = false) :
    (xs.filter q ++ xs.filter r).Perm (xs.filter p) ↔
      ∀ x ∈ xs, p x = true → q x = true ∨ r x = true := by
  constructor
  · intro hperm x hx hp
    have hkept := hperm.mem_iff.2 (List.mem_filter.2 ⟨hx, hp⟩)
    exact (List.mem_append.1 hkept).imp (fun h => (List.mem_filter.1 h).2)
      (fun h => (List.mem_filter.1 h).2)
  · intro hcover
    have hfirst : (xs.filter p).filter q = xs.filter q := by
      rw [List.filter_filter]
      refine List.filter_congr (fun x hx => ?_)
      cases hqx : q x with
      | false => rfl
      | true => rw [hq x hx hqx, Bool.and_true]
    have hsecond : (xs.filter p).filter (fun x => !q x) = xs.filter r := by
      rw [List.filter_filter]
      refine List.filter_congr (fun x hx => ?_)
      cases hqx : q x with
      | true => rw [hapart x hx hqx, Bool.not_true, Bool.false_and]
      | false =>
          rw [Bool.not_false, Bool.true_and]
          -- what the first filter leaves of `p` is what the second one keeps
          refine Bool.eq_iff_iff.2 ⟨fun hp => ?_, hr x hx⟩
          exact (hcover x hx hp).resolve_left (by rw [hqx]; exact Bool.false_ne_true)
    have hsplit := List.filter_append_perm q (xs.filter p)
    rwa [hfirst, hsecond] at hsplit

/-- Elements grouped under distinct keys are the elements. -/
lemma flatMap_filter_perm {κ : Type*} [DecidableEq κ] {key : α → κ} {keys : List κ} :
    keys.Nodup → ∀ xs : List α, (∀ x ∈ xs, key x ∈ keys) →
      (keys.flatMap (fun k => xs.filter (fun x => key x = k))).Perm xs := by
  induction keys with
  | nil =>
      intro _ xs hxs
      cases xs with
      | nil => simp
      | cons x xs => exact absurd (hxs x List.mem_cons_self) (by simp)
  | cons k keys ih =>
      intro hnd xs hxs
      have hk := List.nodup_cons.1 hnd
      have hrest : keys.flatMap (fun k' => xs.filter (fun x => key x = k')) =
          keys.flatMap (fun k' =>
            (xs.filter (fun x => !decide (key x = k))).filter (fun x => key x = k')) := by
        refine List.flatMap_congr (fun k' hk' => ?_)
        rw [List.filter_filter]
        refine List.filter_congr (fun x _ => ?_)
        by_cases hx : key x = k'
        · have hne : key x ≠ k := by
            rintro rfl
            exact hk.1 (hx ▸ hk')
          simp [hx, hx ▸ hne]
        · simp [hx]
      rw [List.flatMap_cons, hrest]
      refine ((ih hk.2 _ ?_).append_left _).trans (List.filter_append_perm _ xs)
      intro x hx
      rcases List.mem_filter.1 hx with ⟨hmem, hne⟩
      rcases List.mem_cons.1 (hxs x hmem) with heq | hin
      · simp [heq] at hne
      · exact hin

/-- A partial map that keeps keys keeps their order. -/
theorem filterMap_keys_sublist {κ : Type*} {f : α → Option β} {key : α → κ} {key' : β → κ}
    (h : ∀ x y, f x = some y → key' y = key x) (xs : List α) :
    ((xs.filterMap f).map key').Sublist (xs.map key) := by
  induction xs with
  | nil => exact List.nil_sublist _
  | cons x xs ih =>
      cases hx : f x with
      | none =>
          rw [List.filterMap_cons_none hx]
          exact ih.cons _
      | some y =>
          rw [List.filterMap_cons_some hx, List.map_cons, List.map_cons, h x y hx]
          exact ih.cons_cons _

/-- Rows of parts with distinct keys are distinct if each part's rows are, and show its key. -/
theorem nodup_flatMap_of_label {κ : Type*} {f : α → List β} (label : β → κ) {key : α → κ}
    {xs : List α} (hlabel : ∀ x ∈ xs, ∀ b ∈ f x, label b = key x) (hkey : (xs.map key).Nodup)
    (hf : ∀ x ∈ xs, (f x).Nodup) : (xs.flatMap f).Nodup := by
  induction xs with
  | nil => simp
  | cons x xs ih =>
      rcases List.nodup_cons.1 hkey with ⟨hx, hrest⟩
      have htail := ih (fun y hy => hlabel y (List.mem_cons_of_mem _ hy)) hrest
        (fun y hy => hf y (List.mem_cons_of_mem _ hy))
      rw [List.flatMap_cons]
      refine List.Nodup.append (hf x List.mem_cons_self) htail ?_
      intro b hb hb'
      rcases List.mem_flatMap.1 hb' with ⟨y, hy, hby⟩
      have hxlabel := hlabel x List.mem_cons_self b hb
      have hylabel := hlabel y (List.mem_cons_of_mem _ hy) b hby
      exact hx (List.mem_map.2 ⟨y, hy, hylabel.symm.trans hxlabel⟩)

/-- Lists that share no element are told apart by any element. -/
lemma eq_of_mem_flatMap_nodup {f : α → List β} {xs : List α} {x y : α} {b : β}
    (hnd : (xs.flatMap f).Nodup) (hx : x ∈ xs) (hy : y ∈ xs) :
    b ∈ f x → b ∈ f y → x = y := by
  intro hbx hby
  by_contra hxy
  have hdisj := (List.nodup_flatMap.1 hnd).2
  have hsymm : Std.Symm (Function.onFun List.Disjoint f) := ⟨fun _ _ h _ hb hb' => h hb' hb⟩
  exact hdisj.forall hx hy hxy hbx hby

section

variable {κ δ : Type*} (keyOf : α → κ) (keyOfRow : δ → κ) (rows : γ → List δ)
variable {pairs : List (List α × γ)}
variable (hrows : ∀ p ∈ pairs, ((rows p.2).map keyOfRow).Perm (p.1.map keyOf))

include hrows

/-- Together the results have one row for every element of the parts. -/
theorem rows_perm :
    ((pairs.flatMap (fun p => rows p.2)).map keyOfRow).Perm
      ((pairs.flatMap Prod.fst).map keyOf) := by
  induction pairs with
  | nil => simp
  | cons p pairs ih =>
      simp only [List.flatMap_cons, List.map_append]
      exact (hrows p List.mem_cons_self).append
        (ih (fun q hq => hrows q (List.mem_cons_of_mem _ hq)))

/-- A row of an element is in the result of the element's part. -/
theorem mem_rows_of_part (hnd : ((pairs.flatMap Prod.fst).map keyOf).Nodup)
    {p : List α × γ} {x : α} {d : δ} (hp : p ∈ pairs) (hx : x ∈ p.1) :
    d ∈ pairs.flatMap (fun q => rows q.2) → keyOfRow d = keyOf x → d ∈ rows p.2 := by
  intro hd hkey
  rcases List.mem_flatMap.1 hd with ⟨q, hq, hdq⟩
  have hnd' : (pairs.flatMap (fun q => q.1.map keyOf)).Nodup := by
    simpa [List.map_flatMap] using hnd
  have hkq : keyOf x ∈ q.1.map keyOf :=
    (hrows q hq).mem_iff.1 (List.mem_map.2 ⟨d, hdq, hkey⟩)
  have hpq : p = q :=
    eq_of_mem_flatMap_nodup hnd' hp hq (List.mem_map_of_mem hx) hkq
  rw [hpq]
  exact hdq

end

end Data
end Tallylot
