import Mathlib.Data.List.Basic
import Mathlib.Data.List.Infix
import Mathlib.Tactic.Common
import Tallylot.Data.Text

/-!
# FileTree — directories and files without links

A tree holds the paths of its directories and of its files, as names from the top.  Whatever it holds
lies in a directory that it holds.  `rmtree` removes a directory with all that is below it; `locate`
follows the names of a path, where `..` steps back out of a directory.
-/

namespace Tallylot
namespace Data

structure FileTree where
  dirs : List (List String)
  files : List (List String)
  top : [] ∈ dirs
  parent_dir : ∀ path ∈ dirs, path.dropLast ∈ dirs
  parent_file : ∀ path ∈ files, path.dropLast ∈ dirs
  apart : ∀ path ∈ files, path ∉ dirs

namespace FileTree

variable {tree : FileTree}

/-- All that lies on the way to a directory is a directory. -/
lemma mem_dirs_of_prefix {path start : List String} (hpath : path ∈ tree.dirs)
    (h : start <+: path) : start ∈ tree.dirs := by
  rcases h with ⟨rest, rfl⟩
  induction rest using List.reverseRecOn with
  | nil => simpa using hpath
  | append_singleton rest last ih =>
      refine ih ?_
      have hparent := tree.parent_dir _ hpath
      rwa [← List.append_assoc, List.dropLast_concat] at hparent

/-! ## Removal -/

/-- Whether a path survives the removal of a directory; the top always does. -/
def Survives (root path : List String) : Prop := path = [] ∨ ¬ root <+: path

instance (root path : List String) : Decidable (Survives root path) :=
  inferInstanceAs (Decidable (_ ∨ _))

lemma survives_dropLast {root path : List String} (h : Survives root path) :
    Survives root path.dropLast := by
  rcases h with rfl | h
  · exact .inl rfl
  · exact .inr (fun hbelow => h (hbelow.trans (List.dropLast_prefix path)))

/-- `shutil.rmtree` -/
def rmtree (tree : FileTree) (root : List String) : FileTree where
  dirs := tree.dirs.filter (Survives root)
  files := tree.files.filter (Survives root)
  top := List.mem_filter.2 ⟨tree.top, by simp [Survives]⟩
  parent_dir path hpath := by
    rcases List.mem_filter.1 hpath with ⟨hmem, hkept⟩
    exact List.mem_filter.2 ⟨tree.parent_dir path hmem,
      decide_eq_true (survives_dropLast (of_decide_eq_true hkept))⟩
  parent_file path hpath := by
    rcases List.mem_filter.1 hpath with ⟨hmem, hkept⟩
    exact List.mem_filter.2 ⟨tree.parent_file path hmem,
      decide_eq_true (survives_dropLast (of_decide_eq_true hkept))⟩
  apart path hpath hdir :=
    tree.apart path (List.mem_filter.1 hpath).1 (List.mem_filter.1 hdir).1

@[simp] lemma mem_dirs_rmtree {root path : List String} :
    path ∈ (tree.rmtree root).dirs ↔ path ∈ tree.dirs ∧ Survives root path := by
  simp [rmtree]

@[simp] lemma mem_files_rmtree {root path : List String} :
    path ∈ (tree.rmtree root).files ↔ path ∈ tree.files ∧ Survives root path := by
  simp [rmtree]

/-- The tree without several directories, one after the other. -/
def rmtrees (tree : FileTree) (roots : List (List String)) : FileTree := roots.foldl rmtree tree

lemma mem_dirs_rmtrees {roots : List (List String)} {path : List String} :
    path ∈ (tree.rmtrees roots).dirs ↔ path ∈ tree.dirs ∧ ∀ root ∈ roots, Survives root path := by
  induction roots generalizing tree with
  | nil => simp [rmtrees]
  | cons root roots ih =>
      have hrest := @ih (tree.rmtree root)
      rw [rmtrees, List.foldl_cons]
      rw [rmtrees] at hrest
      rw [hrest, mem_dirs_rmtree, List.forall_mem_cons, and_assoc]

lemma mem_files_rmtrees {roots : List (List String)} {path : List String} :
    path ∈ (tree.rmtrees roots).files ↔
      path ∈ tree.files ∧ ∀ root ∈ roots, Survives root path := by
  induction roots generalizing tree with
  | nil => simp [rmtrees]
  | cons root roots ih =>
      have hrest := @ih (tree.rmtree root)
      rw [rmtrees, List.foldl_cons]
      rw [rmtrees] at hrest
      rw [hrest, mem_files_rmtree, List.forall_mem_cons, and_assoc]

/-! ## Paths -/

/-- Where names lead to from a directory; `none` if a name is looked up in what is no directory. -/
def locate (tree : FileTree) : List String → List String → Option (List String)
  | place, [] => some place
  | place, name :: names =>
      if place ∈ tree.dirs then
        tree.locate (if name = ".." then place.dropLast else place ++ [name]) names
      else none

/-- Names other than `..` lead below the place. -/
lemma locate_eq_append {place names found : List String} (hnames : ".." ∉ names)
    (h : tree.locate place names = some found) : found = place ++ names := by
  induction names generalizing place with
  | nil => simpa [locate] using h.symm
  | cons name names ih =>
      rw [locate] at h
      split_ifs at h with hplace hback
      · exact absurd (hback ▸ List.mem_cons_self) hnames
      · have hfound := ih (fun hmem => hnames (List.mem_cons_of_mem _ hmem)) h
        rw [hfound, List.append_assoc, List.singleton_append]

end FileTree

end Data
end Tallylot
