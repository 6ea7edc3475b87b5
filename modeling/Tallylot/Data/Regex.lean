import Mathlib.Data.List.Basic
import Mathlib.Data.List.TakeWhile
import Mathlib.Tactic.Common

/-!
# Regex — backtracking regular expressions

`Pattern.ways` lists the ways in which a pattern matches at the front of a text, in the order in which
a backtracking matcher tries them, so that the match is the first of them.  A way has the groups, the
text that it takes and the text that follows.

`search` and `findAll` are for patterns that take at least one character.
-/

namespace Tallylot
namespace Data
namespace Regex

inductive Pattern where
  | empty
  | char (accepts : Char → Bool)
  /-- As many characters of a class as there are, then fewer. -/
  | many (least : Nat) (most : Option Nat) (accepts : Char → Bool)
  | seq (p q : Pattern)
  | alt (p q : Pattern)
  | group (name : String) (p : Pattern)
  /-- The text of a group again. -/
  | again (name : String)
  /-- Between a character of a class and one that is none. -/
  | boundary (isWord : Char → Bool)

abbrev Groups := List (String × List Char)

/-- A match at the front of a text. -/
structure Way where
  groups : Groups
  taken : List Char
  rest : List Char
  deriving DecidableEq, Repr

namespace Way

/-- One match after another. -/
def followedBy (w v : Way) : Way := ⟨v.groups, w.taken ++ v.taken, v.rest⟩

def group (w : Way) (name : String) : String := String.ofList ((w.groups.lookup name).getD [])

end Way

/-- How many characters of a class a repetition can take. -/
def reach (most : Option Nat) (accepts : Char → Bool) (cs : List Char) : Nat :=
  let run := (cs.takeWhile accepts).length
  match most with
  | none => run
  | some most => min run most

/-- The last character up to a position. -/
def lastOf (last : Option Char) (taken : List Char) : Option Char := taken.getLast?.or last

def Pattern.ways : Pattern → Option Char → Groups → List Char → List Way
  | .empty, _, groups, cs => [⟨groups, [], cs⟩]
  | .char accepts, _, groups, cs =>
      match cs with
      | c :: rest => if accepts c then [⟨groups, [c], rest⟩] else []
      | [] => []
  | .many least most accepts, _, groups, cs =>
      ((List.range (reach most accepts cs + 1)).reverse.filter (fun n => least ≤ n)).map
        (fun n => ⟨groups, cs.take n, cs.drop n⟩)
  | .seq p q, last, groups, cs =>
      (p.ways last groups cs).flatMap (fun w =>
        (q.ways (lastOf last w.taken) w.groups w.rest).map w.followedBy)
  | .alt p q, last, groups, cs => p.ways last groups cs ++ q.ways last groups cs
  | .group name p, last, groups, cs =>
      (p.ways last groups cs).map (fun w => { w with groups := (name, w.taken) :: w.groups })
  | .again name, _, groups, cs =>
      match groups.lookup name with
      | some text => if text.isPrefixOf cs then [⟨groups, text, cs.drop text.length⟩] else []
      | none => []
  | .boundary isWord, last, groups, cs =>
      if last.any isWord ≠ cs.head?.any isWord then [⟨groups, [], cs⟩] else []

section Equations

variable (p q : Pattern) (last : Option Char) (groups : Groups) (cs : List Char)

@[simp] lemma Pattern.ways_seq :
    (Pattern.seq p q).ways last groups cs =
      (p.ways last groups cs).flatMap (fun w =>
        (q.ways (lastOf last w.taken) w.groups w.rest).map w.followedBy) := rfl

@[simp] lemma Pattern.ways_many (least : Nat) (most : Option Nat) (accepts : Char → Bool) :
    (Pattern.many least most accepts).ways last groups cs =
      ((List.range (reach most accepts cs + 1)).reverse.filter (fun n => least ≤ n)).map
        (fun n => ⟨groups, cs.take n, cs.drop n⟩) := rfl

@[simp] lemma Pattern.ways_group (name : String) :
    (Pattern.group name p).ways last groups cs =
      (p.ways last groups cs).map (fun w => { w with groups := (name, w.taken) :: w.groups }) := rfl

@[simp] lemma Pattern.ways_again (name : String) :
    (Pattern.again name).ways last groups cs =
      match groups.lookup name with
      | some text => if text.isPrefixOf cs then [⟨groups, text, cs.drop text.length⟩] else []
      | none => [] := rfl

@[simp] lemma Pattern.ways_char_cons (accepts : Char → Bool) (c : Char) (rest : List Char) :
    (Pattern.char accepts).ways last groups (c :: rest) =
      if accepts c then [⟨groups, [c], rest⟩] else [] := rfl

@[simp] lemma Pattern.ways_boundary (isWord : Char → Bool) :
    (Pattern.boundary isWord).ways last groups cs =
      if last.any isWord ≠ cs.head?.any isWord then [⟨groups, [], cs⟩] else [] := rfl

end Equations

/-- The character itself. -/
def Pattern.literal (c : Char) : Pattern := .char (fun d => d = c)

/-- One pattern after another. -/
def inOrder : List Pattern → Pattern
  | [] => .empty
  | [p] => p
  | p :: ps => .seq p (inOrder ps)

def word (text : String) : Pattern := inOrder (text.toList.map Pattern.literal)

def optional (p : Pattern) : Pattern := .alt p .empty

/-- A match of the whole text. -/
def fullMatch (p : Pattern) (text : String) : Option Way :=
  (p.ways none [] text.toList).find? (fun w => w.rest = [])

/-- A match at the front of a text. -/
def first (p : Pattern) (last : Option Char) (cs : List Char) : Option Way :=
  (p.ways last [] cs).head?

/-- The leftmost match. -/
def searchFrom (p : Pattern) : Option Char → List Char → Option Way
  | _, [] => none
  | last, c :: cs => (first p last (c :: cs)).or (searchFrom p (some c) cs)

def search (p : Pattern) (text : String) : Option Way := searchFrom p none text.toList

/-- The matches from left to right; the first `skip` characters belong to the match before. -/
def findAllFrom (p : Pattern) : Nat → Option Char → List Char → List Way
  | _, _, [] => []
  | skip + 1, _, c :: cs => findAllFrom p skip (some c) cs
  | 0, last, c :: cs =>
      match first p last (c :: cs) with
      | some w => w :: findAllFrom p (w.taken.length - 1) (some c) cs
      | none => findAllFrom p 0 (some c) cs

def findAll (p : Pattern) (text : String) : List Way := findAllFrom p 0 none text.toList

/-! ## What a way takes -/

section Ways

variable {p q : Pattern} {last : Option Char} {groups : Groups} {cs : List Char} {w : Way}
  {accepts : Char → Bool} {least : Nat} {most : Option Nat}

lemma reach_le (most : Option Nat) (accepts : Char → Bool) (cs : List Char) :
    reach most accepts cs ≤ (cs.takeWhile accepts).length := by
  cases most with
  | none => exact Nat.le_refl _
  | some most => exact Nat.min_le_left _ _

lemma mem_ways_many :
    w ∈ (Pattern.many least most accepts).ways last groups cs ↔
      ∃ n, least ≤ n ∧ n ≤ reach most accepts cs ∧ w = ⟨groups, cs.take n, cs.drop n⟩ := by
  simp only [Pattern.ways_many, List.mem_map, List.mem_filter, List.mem_reverse, List.mem_range,
    decide_eq_true_eq, Nat.lt_succ_iff]
  constructor
  · rintro ⟨n, ⟨hmost, hleast⟩, rfl⟩
    exact ⟨n, hleast, hmost, rfl⟩
  · rintro ⟨n, hleast, hmost, rfl⟩
    exact ⟨n, ⟨hmost, hleast⟩, rfl⟩

lemma mem_ways_seq :
    w ∈ (Pattern.seq p q).ways last groups cs ↔
      ∃ u ∈ p.ways last groups cs, ∃ v ∈ q.ways (lastOf last u.taken) u.groups u.rest,
        w = u.followedBy v := by
  simp only [Pattern.ways_seq, List.mem_flatMap, List.mem_map, eq_comm]

lemma mem_ways_group {name : String} :
    w ∈ (Pattern.group name p).ways last groups cs ↔
      ∃ u ∈ p.ways last groups cs, w = { u with groups := (name, u.taken) :: u.groups } := by
  simp only [Pattern.ways_group, List.mem_map, eq_comm]

lemma mem_ways_again {name : String} :
    w ∈ (Pattern.again name).ways last groups cs ↔
      ∃ text rest, groups.lookup name = some text ∧ cs = text ++ rest ∧ w = ⟨groups, text, rest⟩ := by
  rw [Pattern.ways_again]
  cases groups.lookup name with
  | none => simp
  | some text =>
      dsimp only
      split_ifs with hstarts
      · rcases List.isPrefixOf_iff_prefix.1 hstarts with ⟨rest, rfl⟩
        simp
      · refine iff_of_false (List.not_mem_nil) ?_
        rintro ⟨text', rest, htext, rfl, _⟩
        cases htext
        exact hstarts (List.isPrefixOf_iff_prefix.2 (List.prefix_append _ _))

/-- A way splits the text. -/
theorem taken_append_rest (h : w ∈ p.ways last groups cs) : w.taken ++ w.rest = cs := by
  induction p generalizing last groups cs w with
  | empty =>
      rw [List.mem_singleton.1 h]
      rfl
  | char accepts =>
      cases cs with
      | nil => cases h
      | cons c rest =>
          rw [Pattern.ways_char_cons] at h
          split_ifs at h
          · rw [List.mem_singleton.1 h]
            rfl
          · cases h
  | many least most accepts =>
      rcases mem_ways_many.1 h with ⟨n, _, _, rfl⟩
      exact List.take_append_drop n cs
  | seq p q ihp ihq =>
      rcases mem_ways_seq.1 h with ⟨u, hu, v, hv, rfl⟩
      rw [Way.followedBy, List.append_assoc, ihq hv, ihp hu]
  | alt p q ihp ihq =>
      rcases List.mem_append.1 h with h | h
      · exact ihp h
      · exact ihq h
  | group name p ih =>
      rcases mem_ways_group.1 h with ⟨u, hu, rfl⟩
      exact (ih hu : u.taken ++ u.rest = cs)
  | again name =>
      rcases mem_ways_again.1 h with ⟨text, rest, _, rfl, rfl⟩
      rfl
  | boundary isWord =>
      rw [Pattern.ways_boundary] at h
      split_ifs at h
      · rw [List.mem_singleton.1 h]
        rfl
      · cases h

end Ways

/-! ## The first way -/

section First

variable {α : Type} {p q : Pattern} {last : Option Char} {groups : Groups} {cs : List Char}
  {accepts : Char → Bool} {least : Nat} {most : Option Nat} {k : Way → Option α} {a : α}

/-- What the first way gives that a continuation accepts. -/
def Pattern.firstWith (p : Pattern) (last : Option Char) (groups : Groups) (cs : List Char)
    (k : Way → Option α) : Option α :=
  (p.ways last groups cs).findSome? k

lemma findSome?_flatMap {β γ : Type} (f : β → List γ) (g : γ → Option α) (xs : List β) :
    (xs.flatMap f).findSome? g = xs.findSome? (fun x => (f x).findSome? g) := by
  induction xs with
  | nil => rfl
  | cons x xs ih =>
      rw [List.flatMap_cons, List.findSome?_append, ih, List.findSome?_cons]
      cases (f x).findSome? g <;> rfl

/-- A sequence tries the second part under each way of the first. -/
lemma firstWith_seq :
    (Pattern.seq p q).firstWith last groups cs k =
      p.firstWith last groups cs (fun u =>
        q.firstWith (lastOf last u.taken) u.groups u.rest (fun v => k (u.followedBy v))) := by
  simp only [Pattern.firstWith, Pattern.ways_seq, findSome?_flatMap, List.findSome?_map,
    Function.comp_def]

lemma firstWith_group {name : String} :
    (Pattern.group name p).firstWith last groups cs k =
      p.firstWith last groups cs (fun u => k { u with groups := (name, u.taken) :: u.groups }) := by
  simp only [Pattern.firstWith, Pattern.ways_group, List.findSome?_map, Function.comp_def]

lemma firstWith_many :
    (Pattern.many least most accepts).firstWith last groups cs k =
      ((List.range (reach most accepts cs + 1)).reverse.filter (fun n => least ≤ n)).findSome?
        (fun n => k ⟨groups, cs.take n, cs.drop n⟩) := by
  simp only [Pattern.firstWith, Pattern.ways_many, List.findSome?_map, Function.comp_def]

lemma firstWith_many_none
    (h : ∀ n, least ≤ n → n ≤ reach most accepts cs → k ⟨groups, cs.take n, cs.drop n⟩ = none) :
    (Pattern.many least most accepts).firstWith last groups cs k = none := by
  rw [firstWith_many, List.findSome?_eq_none_iff]
  intro n hn
  simp only [List.mem_filter, List.mem_reverse, List.mem_range, Nat.lt_succ_iff,
    decide_eq_true_eq] at hn
  exact h n hn.2 hn.1

/-- A repetition takes the most that the continuation accepts. -/
theorem firstWith_many_some {n : Nat} (hleast : least ≤ n) (hmost : n ≤ reach most accepts cs)
    (hn : k ⟨groups, cs.take n, cs.drop n⟩ = some a)
    (hmore : ∀ m, n < m → m ≤ reach most accepts cs → k ⟨groups, cs.take m, cs.drop m⟩ = none) :
    (Pattern.many least most accepts).firstWith last groups cs k = some a := by
  rw [firstWith_many, List.findSome?_eq_some_iff]
  -- The lengths above `n` come first in the descending range.
  have hsplit : (List.range (reach most accepts cs + 1)).reverse =
      (List.range' (n + 1) (reach most accepts cs - n)).reverse ++ n :: (List.range n).reverse := by
    have hlength : reach most accepts cs + 1 = n + (reach most accepts cs - n + 1) := by omega
    rw [List.range_eq_range', hlength, ← List.range'_append_1, Nat.zero_add, List.range'_succ,
      List.reverse_append, List.reverse_cons, List.range_eq_range', List.append_assoc]
    rfl
  refine ⟨(List.range' (n + 1) (reach most accepts cs - n)).reverse.filter (fun m => least ≤ m), n,
    (List.range n).reverse.filter (fun m => least ≤ m), ?_, hn, ?_⟩
  · rw [hsplit, List.filter_append, List.filter_cons_of_pos (by simpa using hleast)]
  · intro m hm
    rw [List.mem_filter, List.mem_reverse, List.mem_range'_1] at hm
    exact hmore m (by omega) (by omega)

lemma firstWith_many_zero (hreach : reach most accepts cs = 0) :
    (Pattern.many 0 most accepts).firstWith last groups cs k = k ⟨groups, [], cs⟩ := by
  rw [firstWith_many, hreach]
  simp

lemma fullMatch_eq (p : Pattern) (text : String) :
    fullMatch p text =
      p.firstWith none [] text.toList (fun w => if w.rest = [] then some w else none) := by
  rw [fullMatch, ← List.findSome?_guard, Pattern.firstWith]
  refine congrArg (fun f => List.findSome? f _) (funext fun w => ?_)
  by_cases h : w.rest = [] <;> simp [Option.guard, h]

end First

/-! ## Reach -/

section Reach

variable {accepts : Char → Bool} {xs ys : List Char}

lemma takeWhile_length_append (hall : ∀ c ∈ xs, accepts c = true)
    (hstop : ∀ c ∈ ys.head?, accepts c = false) : ((xs ++ ys).takeWhile accepts) = xs := by
  rw [List.takeWhile_append_of_pos hall]
  cases ys with
  | nil => simp
  | cons c ys =>
      rw [List.takeWhile_cons_of_neg (by simp [hstop c (by simp)]), List.append_nil]

lemma reach_append (hall : ∀ c ∈ xs, accepts c = true) (hstop : ∀ c ∈ ys.head?, accepts c = false) :
    reach none accepts (xs ++ ys) = xs.length := by
  rw [reach, takeWhile_length_append hall hstop]

/-- A repetition reaches past characters of the class. -/
lemma length_le_reach (hall : ∀ c ∈ xs, accepts c = true) (ys : List Char) :
    xs.length ≤ reach none accepts (xs ++ ys) := by
  rw [reach, List.takeWhile_append_of_pos hall, List.length_append]
  exact Nat.le_add_right _ _

/-- What a repetition takes is of the class. -/
lemma accepts_of_mem_take {most : Option Nat} {n : Nat} {c : Char} (hn : n ≤ reach most accepts xs)
    (hc : c ∈ xs.take n) : accepts c = true := by
  have hle : n ≤ (xs.takeWhile accepts).length := Nat.le_trans hn (reach_le most accepts xs)
  have hstarts : xs.take n = (xs.takeWhile accepts).take n := by
    conv_lhs => rw [← List.takeWhile_append_dropWhile (p := accepts) (l := xs)]
    exact List.take_append_of_le_length hle
  rw [hstarts] at hc
  exact List.mem_takeWhile_imp (List.mem_of_mem_take hc)

/-- A repetition of a class that the text has nothing of takes nothing. -/
lemma take_eq_nil_of_refused {most : Option Nat} {n : Nat} (hn : n ≤ reach most accepts xs)
    (hrefused : ∀ c ∈ xs, accepts c = false) : xs.take n = [] := by
  refine List.eq_nil_iff_forall_not_mem.2 fun c hc => ?_
  have haccepts := accepts_of_mem_take hn hc
  rw [hrefused c (List.mem_of_mem_take hc)] at haccepts
  cases haccepts

lemma length_take_of_reach {most : Option Nat} {n : Nat} (hn : n ≤ reach most accepts xs) :
    (xs.take n).length = n := by
  have hle : n ≤ xs.length :=
    Nat.le_trans hn (Nat.le_trans (reach_le _ _ _) (List.takeWhile_prefix _).length_le)
  rw [List.length_take, Nat.min_eq_left hle]

lemma reach_eq_zero {most : Option Nat} (hstop : ∀ c ∈ ys.head?, accepts c = false) :
    reach most accepts ys = 0 := by
  have hrun := @takeWhile_length_append _ [] _ (fun c hc => absurd hc List.not_mem_nil) hstop
  have hle := reach_le most accepts ys
  rw [List.nil_append] at hrun
  rw [hrun] at hle
  exact Nat.le_zero.1 hle

end Reach

end Regex
end Data
end Tallylot
