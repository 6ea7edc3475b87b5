import Mathlib.Data.String.Basic

/-!
# Path — POSIX paths as parts

A path is a root (blank for a relative path) and the parts below it.  `PosixPath.parse` reads a text
as `pathlib` does: empty parts and `.` are dropped, `..` is kept.  `join` is the operator `/`, so an
absolute right side replaces the left one.
-/

namespace Tallylot
namespace Data

/-- `text.split(c)` on characters: one part more than there are separators. -/
def splitChars (c : Char) : List Char → List (List Char)
  | [] => [[]]
  | x :: xs =>
      if x = c then [] :: splitChars c xs
      else
        match splitChars c xs with
        | [] => [[x]]
        | part :: parts => (x :: part) :: parts

/-- `text.split(c)` -/
def splitText (c : Char) (text : String) : List String :=
  (splitChars c text.toList).map String.ofList

lemma splitChars_eq_splitOn (c : Char) (xs : List Char) : splitChars c xs = xs.splitOn c := by
  induction xs with
  | nil => rfl
  | cons x xs ih =>
      rw [List.splitOn, List.splitOnP_cons_eq_if_modifyHead, splitChars, ih, List.splitOn]
      by_cases hx : x = c
      · simp [hx]
      · cases hsplit : xs.splitOnP (· == c) with
        | nil => exact absurd hsplit (List.splitOnP_ne_nil _ _)
        | cons part parts => simp [hx]

lemma not_mem_splitChars {c : Char} {xs part : List Char} (h : part ∈ splitChars c xs) :
    c ∉ part := by
  induction xs generalizing part with
  | nil =>
      rw [splitChars, List.mem_singleton] at h
      simp [h]
  | cons x xs ih =>
      rw [splitChars] at h
      split_ifs at h with hx
      · rcases List.mem_cons.1 h with rfl | h
        · simp
        · exact ih h
      · cases hsplit : splitChars c xs with
        | nil =>
            rw [hsplit, List.mem_singleton] at h
            simpa [h] using Ne.symm hx
        | cons first parts =>
            rw [hsplit] at h ih
            rcases List.mem_cons.1 h with rfl | h
            · simpa [Ne.symm hx] using ih List.mem_cons_self
            · exact ih (List.mem_cons_of_mem _ h)

/-- Splitting undoes joining where no part has the separator. -/
lemma splitChars_intercalate {c : Char} {parts : List (List Char)} (hne : parts ≠ [])
    (h : ∀ part ∈ parts, c ∉ part) : splitChars c ([c].intercalate parts) = parts := by
  rw [splitChars_eq_splitOn, List.splitOn_intercalate c h hne]

/-- `text.startswith(start)` -/
def startsWithText (text start : String) : Bool := start.toList.isPrefixOf text.toList

/-- `text.endswith(ending)` -/
def endsWithText (text ending : String) : Bool := ending.toList.isSuffixOf text.toList

/-- A path below a root; the root of a relative path is blank. -/
structure PosixPath where
  root : String
  tail : List String
  deriving DecidableEq, Repr

namespace PosixPath

/-- Exactly two leading slashes are a root of their own. -/
def rootOf : List Char → String
  | '/' :: '/' :: '/' :: _ => "/"
  | '/' :: '/' :: _ => "//"
  | '/' :: _ => "/"
  | _ => ""

def parse (text : String) : PosixPath where
  root := rootOf text.toList
  tail := (splitText '/' text).filter (fun part => part ≠ "" ∧ part ≠ ".")

def parts (p : PosixPath) : List String := if p.root = "" then p.tail else p.root :: p.tail

/-- `p / text` -/
def join (p : PosixPath) (text : String) : PosixPath :=
  let q := parse text
  if q.root = "" then { root := p.root, tail := p.tail ++ q.tail } else q

/-- `p.name` -/
def name (p : PosixPath) : String := p.tail.getLastD ""

/-- The characters of a name before and from its last dot, if that dot is neither the first nor the
last character. -/
def splitSuffix (name : List Char) : Option (List Char × List Char) :=
  let rest := (name.reverse.dropWhile (fun c => c ≠ '.')).reverse
  let stem := rest.dropLast
  if stem ≠ [] ∧ rest.length < name.length then some (stem, name.drop stem.length) else none

/-- `p.stem` -/
def stem (p : PosixPath) : String :=
  match splitSuffix p.name.toList with
  | some (stem, _) => String.ofList stem
  | none => p.name

/-- `p.suffix` -/
def suffix (p : PosixPath) : String :=
  match splitSuffix p.name.toList with
  | some (_, suffix) => String.ofList suffix
  | none => ""

/-- `str(p)` -/
def text (p : PosixPath) : String :=
  if p.root = "" ∧ p.tail = [] then "." else p.root ++ "/".intercalate p.tail

/-! ## Parts -/

/-- A name that a text is parsed to. -/
def IsPart (part : String) : Prop := part ≠ "" ∧ part ≠ "." ∧ '/' ∉ part.toList

instance (part : String) : Decidable (IsPart part) := by
  unfold IsPart
  infer_instance

lemma isPart_of_mem_parse {text part : String} (h : part ∈ (parse text).tail) : IsPart part := by
  rcases List.mem_filter.1 h with ⟨hsplit, hkept⟩
  rcases List.mem_map.1 hsplit with ⟨chars, hchars, rfl⟩
  rcases of_decide_eq_true hkept with ⟨hempty, hdot⟩
  exact ⟨hempty, hdot, by simpa using not_mem_splitChars hchars⟩

lemma rootOf_cons {c : Char} {cs : List Char} (h : c ≠ '/') : rootOf (c :: cs) = "" := by
  unfold rootOf
  split
  all_goals first
    | rfl
    | exact absurd (List.cons.inj ‹_›).1 h

/-- A text is read back as the names that it was joined from. -/
theorem parse_intercalate {parts : List String} (hne : parts ≠ [])
    (h : ∀ part ∈ parts, IsPart part) : parse ("/".intercalate parts) = ⟨"", parts⟩ := by
  have hchars : ("/".intercalate parts).toList = ['/'].intercalate (parts.map String.toList) := by
    simp
  have hslash : ∀ part ∈ parts.map String.toList, '/' ∉ part := by
    intro part hpart
    rcases List.mem_map.1 hpart with ⟨name, hname, rfl⟩
    exact (h name hname).2.2
  have hroot : rootOf ("/".intercalate parts).toList = "" := by
    cases parts with
    | nil => exact absurd rfl hne
    | cons part rest =>
        have hpart := h part List.mem_cons_self
        cases hfirst : part.toList with
        | nil => exact absurd (String.toList_eq_nil_iff.1 hfirst) hpart.1
        | cons c cs =>
            have hc : c ≠ '/' := by
              rintro rfl
              exact hpart.2.2 (by simp [hfirst])
            rw [hchars]
            cases rest with
            | nil => simp [hfirst, rootOf_cons hc]
            | cons other rest => simp [hfirst, rootOf_cons hc]
  have htail : (splitText '/' ("/".intercalate parts)).filter (fun part => part ≠ "" ∧ part ≠ ".") =
      parts := by
    rw [splitText, hchars, splitChars_intercalate (by simpa using hne) hslash, List.map_map,
      List.filter_eq_self.2]
    · simp
    · intro part hpart
      rcases List.mem_map.1 hpart with ⟨name, hname, rfl⟩
      simpa using ⟨(h name hname).1, (h name hname).2.1⟩
  rw [parse, hroot, htail]

lemma parse_part {part : String} (h : IsPart part) : parse part = ⟨"", [part]⟩ := by
  simpa using @parse_intercalate [part] (by simp) (by simpa using h)

lemma join_relative {p : PosixPath} {text : String} {tail : List String}
    (h : parse text = ⟨"", tail⟩) : p.join text = ⟨p.root, p.tail ++ tail⟩ := by
  rw [join, h]
  rfl

/-- The path with parts behind it. -/
def below (p : PosixPath) (parts : List String) : PosixPath := { p with tail := p.tail ++ parts }

lemma below_append (p : PosixPath) (parts parts' : List String) :
    p.below (parts ++ parts') = (p.below parts).below parts' := by
  simp [below]

lemma below_inj {p q : PosixPath} {parts : List String} :
    p.below parts = q.below parts ↔ p = q := by
  constructor
  · intro h
    rcases PosixPath.mk.inj h with ⟨hroot, htail⟩
    exact PosixPath.mk.injEq .. ▸ ⟨hroot, List.append_cancel_right htail⟩
  · rintro rfl
    rfl

/-- When parts below two paths lead to one place: the paths are the same and so are the parts, or one
path lies below the other and the parts make up for the steps between them. -/
inductive SamePlace (p q : PosixPath) (parts parts' : List String) : Prop
  | together (path : p = q) (same : parts = parts')
  | deeper (steps : List String) (path : p = q.below steps) (same : parts' = steps ++ parts)
  | higher (steps : List String) (path : q = p.below steps) (same : parts = steps ++ parts')

lemma below_eq_iff {p q : PosixPath} {parts parts' : List String} :
    p.below parts = q.below parts' ↔ SamePlace p q parts parts' := by
  constructor
  · intro h
    rcases PosixPath.mk.inj h with ⟨hroot, htail⟩
    rcases List.append_eq_append_iff.1 htail with ⟨steps, hq, hparts⟩ | ⟨steps, hp, hparts⟩
    · exact .higher steps (PosixPath.mk.injEq .. ▸ ⟨hroot.symm, hq⟩) hparts
    · exact .deeper steps (PosixPath.mk.injEq .. ▸ ⟨hroot, hp⟩) hparts
  · intro h
    cases h with
    | together path same => rw [path, same]
    | deeper steps path same => rw [path, same, below_append]
    | higher steps path same => rw [path, same, below_append]

/-- Where a text is joined to: an absolute text leaves the path. -/
def joinBase (p : PosixPath) (text : String) : PosixPath :=
  if (parse text).root = "" then p else ⟨(parse text).root, []⟩

lemma join_eq_below (p : PosixPath) (text : String) :
    p.join text = (p.joinBase text).below (parse text).tail := by
  unfold join joinBase
  dsimp only
  by_cases hroot : (parse text).root = ""
  · simp [hroot, below]
  · simp [hroot, below]

/-! ## Resolution -/

/-- One part of a path on the parts before it, `..` steps back. -/
def resolveStep (root : String) (done : List String) (part : String) : List String :=
  if part ≠ ".." then done ++ [part]
  else
    match done.getLast? with
    | none => if root = "" then [".."] else []
    | some last => if last = ".." then done ++ [".."] else done.dropLast

/-- The parts of a path after its `..` are resolved. -/
def resolved (p : PosixPath) : List String := p.tail.foldl (resolveStep p.root) []

/-- The resolved path lies below the resolved root. -/
def StrictlyInside (base p : PosixPath) : Prop :=
  p.root = base.root ∧ ∃ rest, rest ≠ [] ∧ p.resolved = base.resolved ++ rest

lemma foldl_resolveStep {root : String} {parts : List String} (done : List String)
    (h : ".." ∉ parts) : parts.foldl (resolveStep root) done = done ++ parts := by
  induction parts generalizing done with
  | nil => simp
  | cons part parts ih =>
      have hpart : part ≠ ".." := fun heq => h (heq ▸ List.mem_cons_self)
      rw [List.foldl_cons, ih _ (fun hmem => h (List.mem_cons_of_mem _ hmem)), resolveStep,
        if_pos hpart]
      simp

/-- Parts other than `..` stay below the path that they are joined to. -/
lemma strictlyInside_of_parts {base : PosixPath} {parts : List String} (hne : parts ≠ [])
    (h : ".." ∉ parts) : StrictlyInside base ⟨base.root, base.tail ++ parts⟩ := by
  refine ⟨rfl, parts, hne, ?_⟩
  rw [resolved, List.foldl_append, foldl_resolveStep _ h]
  rfl

/-- A step back leaves the path, unless the parts lead below it again. -/
lemma not_strictlyInside_of_parent {base : PosixPath} {front : List String} {last : String}
    {parts : List String} (htail : base.tail = front ++ [last]) (hlast : last ≠ "..")
    (hparts : ∀ rest, rest ≠ [] → parts ≠ last :: rest) (h : ".." ∉ parts) :
    ¬StrictlyInside base ⟨base.root, base.tail ++ ".." :: parts⟩ := by
  rintro ⟨_, rest, hrest, hresolved⟩
  have hbase : base.resolved = front.foldl (resolveStep base.root) [] ++ [last] := by
    rw [resolved, htail, List.foldl_append, List.foldl_cons, List.foldl_nil, resolveStep,
      if_pos hlast]
  have hback : (PosixPath.mk base.root (base.tail ++ ".." :: parts)).resolved =
      front.foldl (resolveStep base.root) [] ++ parts := by
    have hstep : resolveStep base.root base.resolved ".." =
        front.foldl (resolveStep base.root) [] := by
      rw [hbase, resolveStep, if_neg (by simp), List.getLast?_concat]
      simp [hlast]
    rw [resolved, List.foldl_append, List.foldl_cons, foldl_resolveStep _ h]
    change resolveStep base.root base.resolved ".." ++ parts = _
    rw [hstep]
  rw [hback, hbase, List.append_assoc, List.append_cancel_left_eq] at hresolved
  exact hparts rest hrest hresolved

example : (parse "a//./b/../c.tar.zip").tail = ["a", "b", "..", "c.tar.zip"] := by decide

example : (parse "in/...zip").stem = ".." ∧ (parse "in/.zip").suffix = "" := by decide

end PosixPath

end Data
end Tallylot
