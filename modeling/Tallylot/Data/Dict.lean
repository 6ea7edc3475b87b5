import Mathlib.Data.List.Nodup
import Mathlib.Data.List.Sort
import Mathlib.Tactic.Common

/-!
# Dict — insertion-ordered dictionaries

An association list with pairwise distinct keys, kept in the order in which the keys were first
written.  Writing a key that is present replaces its value and keeps its place; writing a new key
appends it.  The operations are:

* `Dict.upsert d k f` — replace or create the value at `k` from the value that is there;
* `Dict.set d k a`, `Dict.ofList` — plain writes, so that the last write wins;
* `Dict.group key xs` — the lists of the elements of `xs` under each key.

`get?_ofList` and `get?_group` say what a dictionary built by a loop holds, and are the only facts
that users of a dictionary should need.
-/

namespace Tallylot
namespace Data

universe u v w

/-- Association lists whose keys are pairwise distinct. -/
structure Dict (κ : Type u) (α : Type v) where
  entries : List (κ × α)
  nodup_keys : (entries.map Prod.fst).Nodup

namespace Dict

variable {κ : Type u} {α : Type v} {β : Type w} [DecidableEq κ]

/-! ## Raw entries -/

def lookupEntries (k : κ) : List (κ × α) → Option α
  | [] => none
  | (k', a) :: es => if k' = k then some a else lookupEntries k es

def upsertEntries (k : κ) (f : Option α → α) : List (κ × α) → List (κ × α)
  | [] => [(k, f none)]
  | (k', a) :: es =>
      if k' = k then (k', f (some a)) :: es else (k', a) :: upsertEntries k f es

lemma keys_upsertEntries (k : κ) (f : Option α → α) (es : List (κ × α)) :
    (upsertEntries k f es).map Prod.fst =
      if k ∈ es.map Prod.fst then es.map Prod.fst else es.map Prod.fst ++ [k] := by
  induction es with
  | nil => simp [upsertEntries]
  | cons e es ih =>
      obtain ⟨k', a⟩ := e
      by_cases hk : k' = k
      · simp [upsertEntries, hk]
      · have hk' : k ≠ k' := fun h => hk h.symm
        by_cases hmem : k ∈ es.map Prod.fst
        · simp only [upsertEntries, if_neg hk, List.map_cons, ih, if_pos hmem]
          rw [if_pos (List.mem_cons_of_mem _ hmem)]
        · simp only [upsertEntries, if_neg hk, List.map_cons, ih, if_neg hmem]
          rw [if_neg (by simpa [hk'] using hmem)]
          rfl

lemma lookup_upsertEntries (k k' : κ) (f : Option α → α) (es : List (κ × α)) :
    lookupEntries k' (upsertEntries k f es) =
      if k' = k then some (f (lookupEntries k es)) else lookupEntries k' es := by
  induction es with
  | nil =>
      by_cases h : k' = k
      · simp [upsertEntries, lookupEntries, h]
      · have h' : ¬k = k' := fun e => h e.symm
        simp [upsertEntries, lookupEntries, h, h']
  | cons e es ih =>
      obtain ⟨c, a⟩ := e
      by_cases hc : c = k
      · subst hc
        by_cases h : k' = c
        · simp [upsertEntries, lookupEntries, h]
        · have h' : ¬c = k' := fun e => h e.symm
          simp [upsertEntries, lookupEntries, h, h']
      · by_cases hck : c = k'
        · subst hck
          simp [upsertEntries, lookupEntries, hc]
        · simp [upsertEntries, lookupEntries, hc, hck, ih]

lemma lookupEntries_eq_none_iff (k : κ) (es : List (κ × α)) :
    lookupEntries k es = none ↔ k ∉ es.map Prod.fst := by
  induction es with
  | nil => simp [lookupEntries]
  | cons e es ih =>
      obtain ⟨c, a⟩ := e
      by_cases hc : c = k
      · simp [lookupEntries, hc]
      · have hc' : ¬k = c := fun h => hc h.symm
        simp [lookupEntries, hc, hc', ih]

lemma mem_of_lookupEntries {k : κ} {a : α} {es : List (κ × α)} :
    lookupEntries k es = some a → (k, a) ∈ es := by
  intro h
  induction es with
  | nil => simp [lookupEntries] at h
  | cons e es ih =>
      obtain ⟨c, b⟩ := e
      by_cases hc : c = k
      · have : b = a := by simpa [lookupEntries, hc] using h
        simp [hc, this]
      · have : lookupEntries k es = some a := by simpa [lookupEntries, hc] using h
        exact List.mem_cons_of_mem _ (ih this)

lemma lookupEntries_of_mem {k : κ} {a : α} {es : List (κ × α)} :
    (es.map Prod.fst).Nodup → (k, a) ∈ es → lookupEntries k es = some a := by
  intro hnd hmem
  induction es with
  | nil => cases hmem
  | cons e es ih =>
      obtain ⟨c, b⟩ := e
      have hnd' : c ∉ es.map Prod.fst ∧ (es.map Prod.fst).Nodup := by
        simpa using List.nodup_cons.1 hnd
      rcases List.mem_cons.1 hmem with heq | htail
      · cases heq
        simp [lookupEntries]
      · have hc : c ≠ k := by
          rintro rfl
          exact hnd'.1 (List.mem_map.2 ⟨(c, a), htail, rfl⟩)
        simpa [lookupEntries, hc] using ih hnd'.2 htail

/-! ## Dictionaries -/

def empty : Dict κ α := ⟨[], by simp⟩

def keys (d : Dict κ α) : List κ := d.entries.map Prod.fst

def values (d : Dict κ α) : List α := d.entries.map Prod.snd

def get? (d : Dict κ α) (k : κ) : Option α := lookupEntries k d.entries

/-- Replace the value at `k`, or create it at the end. -/
def upsert (d : Dict κ α) (k : κ) (f : Option α → α) : Dict κ α where
  entries := upsertEntries k f d.entries
  nodup_keys := by
    rw [keys_upsertEntries]
    split
    · exact d.nodup_keys
    · rename_i hk
      rw [← List.concat_eq_append]
      exact List.Nodup.concat hk d.nodup_keys

def set (d : Dict κ α) (k : κ) (a : α) : Dict κ α := d.upsert k (fun _ => a)

/-- The dictionary that a comprehension over `ps` builds. -/
def ofList (ps : List (κ × α)) : Dict κ α := ps.foldl (fun d p => d.set p.1 p.2) empty

/-- The lists of the elements under each key, in the order of `xs`. -/
def group (key : β → κ) (xs : List β) : Dict κ (List β) :=
  xs.foldl (fun d x => d.upsert (key x) (fun old => old.getD [] ++ [x])) empty

/-- How many elements there are under each key. -/
def tally (key : β → κ) (xs : List β) : Dict κ Nat :=
  xs.foldl (fun d x => d.upsert (key x) (fun n => n.getD 0 + 1)) empty

@[simp] lemma get?_empty (k : κ) : (empty : Dict κ α).get? k = none := rfl

omit [DecidableEq κ] in
@[simp] lemma keys_empty : (empty : Dict κ α).keys = [] := rfl

omit [DecidableEq κ] in
lemma keys_nodup (d : Dict κ α) : d.keys.Nodup := d.nodup_keys

lemma get?_upsert (d : Dict κ α) (k k' : κ) (f : Option α → α) :
    (d.upsert k f).get? k' = if k' = k then some (f (d.get? k)) else d.get? k' :=
  lookup_upsertEntries k k' f d.entries

lemma get?_set (d : Dict κ α) (k k' : κ) (a : α) :
    (d.set k a).get? k' = if k' = k then some a else d.get? k' :=
  get?_upsert d k k' _

lemma keys_upsert (d : Dict κ α) (k : κ) (f : Option α → α) :
    (d.upsert k f).keys = if k ∈ d.keys then d.keys else d.keys ++ [k] :=
  keys_upsertEntries k f d.entries

lemma mem_keys_upsert (d : Dict κ α) (k k' : κ) (f : Option α → α) :
    k' ∈ (d.upsert k f).keys ↔ k' = k ∨ k' ∈ d.keys := by
  rw [keys_upsert]
  by_cases hk : k ∈ d.keys
  · rw [if_pos hk]
    constructor
    · exact Or.inr
    · rintro (rfl | h)
      · exact hk
      · exact h
  · rw [if_neg hk]
    simp [or_comm]

lemma get?_eq_none_iff (d : Dict κ α) (k : κ) : d.get? k = none ↔ k ∉ d.keys :=
  lookupEntries_eq_none_iff k d.entries

lemma get?_eq_some_iff (d : Dict κ α) (k : κ) (a : α) : d.get? k = some a ↔ (k, a) ∈ d.entries :=
  ⟨mem_of_lookupEntries, lookupEntries_of_mem d.nodup_keys⟩

/-! ## What a loop of writes leaves behind -/

lemma get?_foldl_set (ps : List (κ × α)) (d : Dict κ α) (k : κ) :
    (ps.foldl (fun d p => d.set p.1 p.2) d).get? k =
      (((ps.filter (fun p => p.1 = k)).getLast?).map Prod.snd).or (d.get? k) := by
  induction ps generalizing d with
  | nil => simp
  | cons p ps ih =>
      rw [List.foldl_cons, ih, get?_set]
      by_cases hp : p.1 = k
      · have hk : k = p.1 := hp.symm
        rw [if_pos hk, List.filter_cons_of_pos (by simpa using hp), List.getLast?_cons]
        cases hl : (ps.filter (fun q => q.1 = k)).getLast? with
        | none => simp
        | some q => simp
      · have hk : ¬k = p.1 := fun h => hp h.symm
        rw [if_neg hk, List.filter_cons_of_neg (by simpa using hp)]

/-- The last write to a key wins. -/
theorem get?_ofList (ps : List (κ × α)) (k : κ) :
    (ofList ps).get? k = ((ps.filter (fun p => p.1 = k)).getLast?).map Prod.snd := by
  simp [ofList, get?_foldl_set]

/-- Where the value is a function of the key, every key that was written has it. -/
theorem get?_ofList_map (key : β → κ) (value : κ → α) {xs : List β} {k : κ} :
    k ∈ xs.map key → (ofList (xs.map (fun x => (key x, value (key x))))).get? k = some (value k) := by
  intro hk
  rcases List.mem_map.1 hk with ⟨x, hx, rfl⟩
  have hne : (xs.map (fun y => (key y, value (key y)))).filter (fun p => p.1 = key x) ≠ [] :=
    List.ne_nil_of_mem (List.mem_filter.2 ⟨List.mem_map_of_mem hx, by simp⟩)
  rw [get?_ofList, List.getLast?_eq_some_getLast hne, Option.map_some]
  have hlast := List.mem_filter.1 (List.getLast_mem hne)
  rcases List.mem_map.1 hlast.1 with ⟨y, _, hy⟩
  have hkey : key y = key x := by simpa [← hy] using hlast.2
  rw [← hy, hkey]

lemma mem_keys_foldl_set (ps : List (κ × α)) (d : Dict κ α) (k : κ) :
    k ∈ (ps.foldl (fun d p => d.set p.1 p.2) d).keys ↔ k ∈ ps.map Prod.fst ∨ k ∈ d.keys := by
  induction ps generalizing d with
  | nil => simp
  | cons p ps ih =>
      rw [List.foldl_cons, ih]
      simp only [set, mem_keys_upsert, List.map_cons, List.mem_cons]
      tauto

theorem mem_keys_ofList (ps : List (κ × α)) (k : κ) :
    k ∈ (ofList ps).keys ↔ k ∈ ps.map Prod.fst := by
  simp [ofList, mem_keys_foldl_set]

lemma upsertEntries_of_not_mem {k : κ} {f : Option α → α} {es : List (κ × α)} :
    k ∉ es.map Prod.fst → upsertEntries k f es = es ++ [(k, f none)] := by
  intro hk
  induction es with
  | nil => rfl
  | cons e es ih =>
      have hk' : e.1 ≠ k ∧ k ∉ es.map Prod.fst := by
        simpa [eq_comm] using hk
      simp [upsertEntries, hk'.1, ih hk'.2]

lemma entries_foldl_set (ps : List (κ × α)) (d : Dict κ α) :
    (d.entries.map Prod.fst ++ ps.map Prod.fst).Nodup →
      (ps.foldl (fun d p => d.set p.1 p.2) d).entries = d.entries ++ ps := by
  intro hnd
  induction ps generalizing d with
  | nil => simp
  | cons p ps ih =>
      have hp : p.1 ∉ d.entries.map Prod.fst := by
        intro hmem
        exact List.disjoint_of_nodup_append hnd hmem (by simp)
      have hentries : (d.set p.1 p.2).entries = d.entries ++ [p] := upsertEntries_of_not_mem hp
      rw [List.foldl_cons, ih _ (by simpa [hentries] using hnd), hentries]
      simp

lemma mem_of_mem_entries_ofList {ps : List (κ × α)} {e : κ × α} :
    e ∈ (ofList ps).entries → e ∈ ps := by
  intro he
  have hget := (get?_eq_some_iff (ofList ps) e.1 e.2).2 he
  rw [get?_ofList] at hget
  rcases Option.map_eq_some_iff.1 hget with ⟨p, hlast, hp⟩
  have hmem := List.mem_filter.1 (List.mem_of_getLast? hlast)
  have hkey : p.1 = e.1 := by simpa using hmem.2
  rw [← Prod.ext hkey hp]
  exact hmem.1

/-- Without repeated keys, nothing is overwritten. -/
theorem entries_ofList {ps : List (κ × α)} (hnd : (ps.map Prod.fst).Nodup) :
    (ofList ps).entries = ps :=
  entries_foldl_set ps empty (by simpa [empty] using hnd)

lemma get?_foldl_group (key : β → κ) (xs : List β) (d : Dict κ (List β)) (k : κ) :
    (xs.foldl (fun d x => d.upsert (key x) (fun old => old.getD [] ++ [x])) d).get? k =
      if xs.filter (fun x => key x = k) = [] then d.get? k
      else some ((d.get? k).getD [] ++ xs.filter (fun x => key x = k)) := by
  induction xs generalizing d with
  | nil => simp
  | cons x xs ih =>
      rw [List.foldl_cons, ih, get?_upsert]
      by_cases hx : key x = k
      · subst hx
        rw [List.filter_cons_of_pos (by simp), if_pos rfl, if_neg (List.cons_ne_nil _ _)]
        by_cases hnil : xs.filter (fun y => key y = key x) = []
        · simp [hnil]
        · simp [hnil]
      · have hx' : ¬k = key x := fun h => hx h.symm
        rw [List.filter_cons_of_neg (by simpa using hx), if_neg hx']

theorem get?_group (key : β → κ) (xs : List β) (k : κ) :
    (group key xs).get? k =
      if xs.filter (fun x => key x = k) = [] then none
      else some (xs.filter (fun x => key x = k)) := by
  simp [group, get?_foldl_group]

lemma mem_keys_foldl_group (key : β → κ) (xs : List β) (d : Dict κ (List β)) (k : κ) :
    k ∈ (xs.foldl (fun d x => d.upsert (key x) (fun old => old.getD [] ++ [x])) d).keys ↔
      k ∈ xs.map key ∨ k ∈ d.keys := by
  induction xs generalizing d with
  | nil => simp
  | cons x xs ih =>
      rw [List.foldl_cons, ih]
      simp only [mem_keys_upsert, List.map_cons, List.mem_cons]
      tauto

theorem mem_keys_group (key : β → κ) (xs : List β) (k : κ) :
    k ∈ (group key xs).keys ↔ k ∈ xs.map key := by
  simp [group, mem_keys_foldl_group]

lemma mem_entries_group {key : β → κ} {xs : List β} {k : κ} {ys : List β} :
    (k, ys) ∈ (group key xs).entries → ys ≠ [] ∧ ys = xs.filter (fun x => key x = k) := by
  intro h
  have hget := (get?_eq_some_iff _ k ys).2 h
  rw [get?_group] at hget
  split at hget
  · cases hget
  · rename_i hne
    cases hget
    exact ⟨hne, rfl⟩

/-- The entries of a grouping are the keys with the elements under them. -/
theorem mem_entries_group_iff {key : β → κ} {xs : List β} {k : κ} {ys : List β} :
    (k, ys) ∈ (group key xs).entries ↔ ys ≠ [] ∧ ys = xs.filter (fun x => key x = k) := by
  refine ⟨mem_entries_group, ?_⟩
  rintro ⟨hne, rfl⟩
  rw [← get?_eq_some_iff, get?_group, if_neg hne]

lemma flatten_upsertEntries (k : κ) (x : β) (es : List (κ × List β)) :
    ((upsertEntries k (fun old => old.getD [] ++ [x]) es).flatMap Prod.snd).Perm
      (es.flatMap Prod.snd ++ [x]) := by
  induction es with
  | nil => simp [upsertEntries]
  | cons e es ih =>
      by_cases hk : e.1 = k
      · simp only [upsertEntries, if_pos hk, List.flatMap_cons, Option.getD_some,
          List.append_assoc]
        exact (List.perm_append_comm).append_left _
      · simp only [upsertEntries, if_neg hk, List.flatMap_cons, List.append_assoc]
        exact ih.append_left _

/-- A grouping loses no element. -/
theorem flatten_group (key : β → κ) (xs : List β) :
    ((group key xs).entries.flatMap Prod.snd).Perm xs := by
  have hfold : ∀ (xs : List β) (d : Dict κ (List β)),
      ((xs.foldl (fun d x => d.upsert (key x) (fun old => old.getD [] ++ [x])) d).entries.flatMap
        Prod.snd).Perm (d.entries.flatMap Prod.snd ++ xs) := by
    intro xs
    induction xs with
    | nil => simp
    | cons x xs ih =>
        intro d
        refine (ih _).trans ?_
        simpa [upsert] using (flatten_upsertEntries (key x) x d.entries).append_right xs
  simpa [group, empty] using hfold xs empty

lemma getD_get?_foldl_tally (key : β → κ) (xs : List β) (d : Dict κ Nat) (k : κ) :
    ((xs.foldl (fun d x => d.upsert (key x) (fun n => n.getD 0 + 1)) d).get? k).getD 0 =
      (d.get? k).getD 0 + xs.countP (fun x => key x = k) := by
  induction xs generalizing d with
  | nil => simp
  | cons x xs ih =>
      rw [List.foldl_cons, ih, get?_upsert]
      by_cases hx : key x = k
      · subst hx
        rw [List.countP_cons_of_pos (by simp), if_pos rfl, Option.getD_some]
        ac_rfl
      · rw [List.countP_cons_of_neg (by simpa using hx), if_neg (fun h => hx h.symm)]

/-- A tally counts; a key that is missing has no elements. -/
theorem getD_get?_tally (key : β → κ) (xs : List β) (k : κ) :
    ((tally key xs).get? k).getD 0 = xs.countP (fun x => key x = k) := by
  simp [tally, getD_get?_foldl_tally]

lemma mem_keys_foldl_tally (key : β → κ) (xs : List β) (d : Dict κ Nat) (k : κ) :
    k ∈ (xs.foldl (fun d x => d.upsert (key x) (fun n => n.getD 0 + 1)) d).keys ↔
      k ∈ xs.map key ∨ k ∈ d.keys := by
  induction xs generalizing d with
  | nil => simp
  | cons x xs ih =>
      rw [List.foldl_cons, ih]
      simp only [mem_keys_upsert, List.map_cons, List.mem_cons]
      tauto

theorem mem_keys_tally (key : β → κ) (xs : List β) (k : κ) :
    k ∈ (tally key xs).keys ↔ k ∈ xs.map key := by
  simp [tally, mem_keys_foldl_tally]

/-- A key of a grouping holds exactly the elements under it, in their order. -/
theorem getD_get?_group (key : β → κ) (xs : List β) (k : κ) :
    ((group key xs).get? k).getD [] = xs.filter (fun x => key x = k) := by
  rw [get?_group]
  split
  · rename_i h
    simp [h]
  · simp

end Dict

end Data
end Tallylot
