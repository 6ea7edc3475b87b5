import Mathlib.Data.List.Dedup
import Tallylot.Data.FileTree
import Tallylot.Data.Path
import Tallylot.Data.Sorted

/-!
# Pruning — product directories that no ref names any more

A prior ref is pruned when its text is no current ref.  Its directory is removed if the ref, read as
a path, names a product.  So no directory but a product's is removed, but two texts may name one
directory: a current ref loses its file exactly when it lies below the product of a pruned ref
(`Claimed`).
-/

namespace Tallylot
namespace Normalization

open Data

/-! ## The code -/

/-- `_ALLOWED_PRODUCT_REF_FILENAMES` -/
def allowedProductRefFilenames : List (String × String) :=
  [("evidence_sets", "evidence_set.json"), ("claim_sets", "claim_set.json"),
    ("economic_facts", "economic_facts.json"),
    ("reconciliation_states", "reconciliation_state.json"), ("checkpoints", "checkpoint.json")]

/-- `pruned_refs` -/
def prunedRefs (priorRefs currentRefs : List String) : List String :=
  sortedOn id (priorRefs.dedup.filter (fun ref => ref ∉ currentRefs))

/-- `_product_root_from_ref`; without links a directory resolves to itself. -/
def productRootFromRef (tree : FileTree) (workspaceRoot : List String) (ref : String) :
    Option (List String) :=
  let relativeRef := PosixPath.parse ref
  let parts := relativeRef.parts
  let family := if 3 ≤ parts.length then parts.getD 2 "" else ""
  if relativeRef.root ≠ "" ∨ ".." ∈ parts ∨ parts.length ≠ 5 ∨
      parts.take 2 ≠ ["working", "products"] ∨
      allowedProductRefFilenames.lookup family ≠ parts.getLast? then none
  else
    let root := workspaceRoot ++ parts.dropLast
    if root ∈ tree.dirs ∧ workspaceRoot <+: root then some root else none

/-- `prune_product_roots`: the tree and the directories that were removed, in order. -/
def pruneProductRoots (workspaceRoot : List String) :
    FileTree → List String → FileTree × List (List String)
  | tree, [] => (tree, [])
  | tree, ref :: refs =>
      match productRootFromRef tree workspaceRoot ref with
      | none => pruneProductRoots workspaceRoot tree refs
      | some root =>
          let rest := pruneProductRoots workspaceRoot (tree.rmtree root) refs
          (rest.1, root :: rest.2)

/-- The file that a ref names in the workspace. -/
def fileOfRef (tree : FileTree) (workspaceRoot : List String) (ref : String) :
    Option (List String) :=
  let path := PosixPath.parse ref
  (tree.locate (if path.root = "" then workspaceRoot else []) path.tail).filter
    (fun file => file ∈ tree.files)

/-! ## Product refs -/

/-- The directory of a product. -/
def productDir (workspaceRoot : List String) (family productId : String) : List String :=
  workspaceRoot ++ ["working", "products", family, productId]

/-- A ref to the file of a product, with the name that belongs to the family. -/
def NamesProduct (ref family productId : String) : Prop :=
  ∃ filename, (family, filename) ∈ allowedProductRefFilenames ∧ productId ≠ ".." ∧
    PosixPath.parse ref = ⟨"", ["working", "products", family, productId, filename]⟩

lemma lookup_allowed_iff {family filename : String} :
    allowedProductRefFilenames.lookup family = some filename ↔
      (family, filename) ∈ allowedProductRefFilenames := by
  constructor
  · intro h
    rcases List.lookup_eq_some_iff.1 h with ⟨front, back, hsplit, _⟩
    rw [hsplit]
    exact List.mem_append_right front List.mem_cons_self
  · intro h
    simp only [allowedProductRefFilenames, List.mem_cons, Prod.mk.injEq, List.not_mem_nil,
      or_false] at h
    rcases h with ⟨rfl, rfl⟩ | ⟨rfl, rfl⟩ | ⟨rfl, rfl⟩ | ⟨rfl, rfl⟩ | ⟨rfl, rfl⟩
    all_goals rfl

lemma dots_notMem_allowed {family filename : String}
    (h : (family, filename) ∈ allowedProductRefFilenames) : family ≠ ".." ∧ filename ≠ ".." := by
  simp only [allowedProductRefFilenames, List.mem_cons, Prod.mk.injEq, List.not_mem_nil,
    or_false] at h
  rcases h with ⟨rfl, rfl⟩ | ⟨rfl, rfl⟩ | ⟨rfl, rfl⟩ | ⟨rfl, rfl⟩ | ⟨rfl, rfl⟩
  all_goals exact ⟨by decide, by decide⟩

/-- A ref to the file of a product has a product root when the directory is there. -/
lemma productRootFromRef_of_names {tree : FileTree} {workspaceRoot : List String}
    {ref family productId : String} (h : NamesProduct ref family productId)
    (hdir : productDir workspaceRoot family productId ∈ tree.dirs) :
    productRootFromRef tree workspaceRoot ref = some (productDir workspaceRoot family productId) := by
  rcases h with ⟨filename, hallowed, hid, hparse⟩
  have hdots := dots_notMem_allowed hallowed
  have hpassed : ¬ (("" : String) ≠ "" ∨ ".." ∈ ["working", "products", family, productId, filename] ∨
      5 ≠ 5 ∨ ["working", "products"] ≠ ["working", "products"] ∨
        allowedProductRefFilenames.lookup family ≠ some filename) := by
    simp [lookup_allowed_iff.2 hallowed, Ne.symm hdots.1, Ne.symm hdots.2, Ne.symm hid]
  unfold productRootFromRef
  rw [hparse]
  exact (if_neg hpassed).trans (if_pos ⟨hdir, List.prefix_append _ _⟩)

lemma names_of_productRootFromRef {tree : FileTree} {workspaceRoot root : List String}
    {ref : String} (h : productRootFromRef tree workspaceRoot ref = some root) :
    ∃ family productId, NamesProduct ref family productId ∧
      root = productDir workspaceRoot family productId ∧ root ∈ tree.dirs := by
  unfold productRootFromRef at h
  dsimp only at h
  cases hparse : PosixPath.parse ref with
  | mk top tail =>
      rw [hparse] at h
      rcases ite_eq_iff.1 h with ⟨_, hnone⟩ | ⟨hpassed, hfound⟩
      · cases hnone
      rcases ite_eq_iff.1 hfound with ⟨hdir, hroot⟩ | ⟨_, hnone⟩
      swap
      · cases hnone
      rw [not_or, not_or, not_or, not_or] at hpassed
      simp only [not_not] at hpassed
      rcases hpassed with ⟨rfl, hdots, hlength, hstart, hallowed⟩
      have hparts : (PosixPath.mk "" tail).parts = tail := rfl
      rw [hparts] at *
      match tail, hlength with
      | [working, products, family, productId, filename], _ =>
          rcases List.cons.inj hstart with ⟨rfl, hrest⟩
          rcases List.cons.inj hrest with ⟨rfl, _⟩
          refine ⟨family, productId, ⟨filename, lookup_allowed_iff.1 hallowed, ?_, hparse⟩,
            (Option.some.inj hroot).symm, (Option.some.inj hroot) ▸ hdir.1⟩
          rintro rfl
          exact hdots (show ".." ∈ ["working", "products", family, "..", filename] by simp)

/-! ## What is removed -/

lemma pruneProductRoots_fst {workspaceRoot : List String} {refs : List String} :
    ∀ tree : FileTree, (pruneProductRoots workspaceRoot tree refs).1 =
      tree.rmtrees (pruneProductRoots workspaceRoot tree refs).2 := by
  induction refs with
  | nil => exact fun _ => rfl
  | cons ref refs ih =>
      intro tree
      rw [pruneProductRoots]
      cases productRootFromRef tree workspaceRoot ref with
      | none => exact ih tree
      | some root => exact ih (tree.rmtree root)

/-- Only directories of products are removed, each for one of the refs. -/
lemma names_of_removed {workspaceRoot : List String} {refs : List String} {root : List String} :
    ∀ {tree : FileTree}, root ∈ (pruneProductRoots workspaceRoot tree refs).2 →
      ∃ ref ∈ refs, ∃ family productId, NamesProduct ref family productId ∧
        root = productDir workspaceRoot family productId := by
  induction refs with
  | nil =>
      intro tree h
      cases h
  | cons ref refs ih =>
      intro tree h
      have hlift : (∃ other ∈ refs, ∃ family productId, NamesProduct other family productId ∧
          root = productDir workspaceRoot family productId) →
          ∃ other ∈ ref :: refs, ∃ family productId, NamesProduct other family productId ∧
            root = productDir workspaceRoot family productId :=
        fun ⟨other, hother, hnames⟩ => ⟨other, List.mem_cons_of_mem _ hother, hnames⟩
      rw [pruneProductRoots] at h
      cases hroot : productRootFromRef tree workspaceRoot ref with
      | none =>
          rw [hroot] at h
          exact hlift (ih h)
      | some removed =>
          rw [hroot] at h
          rcases List.mem_cons.1 h with rfl | hrest
          · rcases names_of_productRootFromRef hroot with ⟨family, productId, hnames, hdir, _⟩
            exact ⟨ref, List.mem_cons_self, family, productId, hnames, hdir⟩
          · exact hlift (ih hrest)

/-- No product that a ref names is left. -/
lemma not_mem_dirs_of_names {workspaceRoot : List String} {refs : List String}
    {ref family productId : String} (href : ref ∈ refs) (h : NamesProduct ref family productId) :
    ∀ tree : FileTree, productDir workspaceRoot family productId ∉
      (pruneProductRoots workspaceRoot tree refs).1.dirs := by
  induction refs with
  | nil => cases href
  | cons first refs ih =>
      intro tree hmem
      rcases List.mem_cons.1 href with rfl | hrest
      · by_cases hdir : productDir workspaceRoot family productId ∈ tree.dirs
        · rw [pruneProductRoots, productRootFromRef_of_names h hdir] at hmem
          dsimp only at hmem
          rw [pruneProductRoots_fst, FileTree.mem_dirs_rmtrees, FileTree.mem_dirs_rmtree] at hmem
          rcases hmem.1.2 with hempty | hsurvives
          · simp [productDir] at hempty
          · exact hsurvives (List.prefix_refl _)
        · rw [pruneProductRoots_fst, FileTree.mem_dirs_rmtrees] at hmem
          exact hdir hmem.1
      · rw [pruneProductRoots] at hmem
        cases hroot : productRootFromRef tree workspaceRoot first with
        | none =>
            rw [hroot] at hmem
            exact ih hrest tree hmem
        | some removed =>
            rw [hroot] at hmem
            exact ih hrest (tree.rmtree removed) hmem

/-- A directory is left when it is below none of the products that the refs name. -/
lemma mem_dirs_pruned_iff {workspaceRoot : List String} {refs : List String} {tree : FileTree}
    {path : List String} (hpath : path ∈ tree.dirs) :
    path ∈ (pruneProductRoots workspaceRoot tree refs).1.dirs ↔
      ∀ ref ∈ refs, ∀ family productId, NamesProduct ref family productId →
        ¬ productDir workspaceRoot family productId <+: path := by
  constructor
  · intro h ref href family productId hnames hbelow
    exact not_mem_dirs_of_names href hnames tree (FileTree.mem_dirs_of_prefix h hbelow)
  · intro h
    rw [pruneProductRoots_fst, FileTree.mem_dirs_rmtrees]
    refine ⟨hpath, fun root hroot => .inr ?_⟩
    rcases names_of_removed hroot with ⟨ref, href, family, productId, hnames, rfl⟩
    exact h ref href family productId hnames

lemma mem_prunedRefs_iff {priorRefs currentRefs : List String} {ref : String} :
    ref ∈ prunedRefs priorRefs currentRefs ↔ ref ∈ priorRefs ∧ ref ∉ currentRefs := by
  rw [prunedRefs, (sortedOn_perm id _).mem_iff, List.mem_filter, List.mem_dedup]
  simp

/-! ## Current refs -/

/-- The file lies below the product of a prior ref whose text is no current ref. -/
def Claimed (workspaceRoot : List String) (priorRefs currentRefs file : List String) : Prop :=
  ∃ ref ∈ priorRefs, ref ∉ currentRefs ∧ ∃ family productId, NamesProduct ref family productId ∧
    productDir workspaceRoot family productId <+: file.dropLast

lemma mem_files_of_fileOfRef {tree : FileTree} {workspaceRoot file : List String} {ref : String}
    (h : fileOfRef tree workspaceRoot ref = some file) : file ∈ tree.files := by
  unfold fileOfRef at h
  rcases Option.filter_eq_some_iff.1 h with ⟨_, hfile⟩
  exact of_decide_eq_true hfile

/-- The directory of a file in use is left exactly when no pruned ref claims the file. -/
lemma dropLast_mem_pruned_iff {tree : FileTree} {workspaceRoot file : List String}
    {priorRefs currentRefs : List String} (hfile : file ∈ tree.files) :
    file.dropLast ∈
        (pruneProductRoots workspaceRoot tree (prunedRefs priorRefs currentRefs)).1.dirs ↔
      ¬ Claimed workspaceRoot priorRefs currentRefs file := by
  rw [mem_dirs_pruned_iff (tree.parent_file file hfile)]
  constructor
  · rintro h ⟨ref, href, hcurrent, family, productId, hnames, hbelow⟩
    exact h ref (mem_prunedRefs_iff.2 ⟨href, hcurrent⟩) family productId hnames hbelow
  · intro h ref href family productId hnames hbelow
    rcases mem_prunedRefs_iff.1 href with ⟨hprior, hcurrent⟩
    exact h ⟨ref, hprior, hcurrent, family, productId, hnames, hbelow⟩

/-- A ref that is written as its path is. -/
def Canonical (ref : String) : Prop := (PosixPath.parse ref).text = ref

lemma eq_of_parse_eq {ref other : String} (h : Canonical ref) (hother : Canonical other)
    (hparse : PosixPath.parse ref = PosixPath.parse other) : ref = other := by
  calc
    ref = (PosixPath.parse ref).text := h.symm
    _ = (PosixPath.parse other).text := by rw [hparse]
    _ = other := hother

lemma fileOfRef_of_names {tree : FileTree} {workspaceRoot file : List String}
    {ref family productId : String} (h : NamesProduct ref family productId)
    (hfile : fileOfRef tree workspaceRoot ref = some file) :
    file.dropLast = productDir workspaceRoot family productId := by
  rcases h with ⟨filename, hallowed, hid, hparse⟩
  have hdots := dots_notMem_allowed hallowed
  unfold fileOfRef at hfile
  rw [hparse] at hfile
  rcases Option.filter_eq_some_iff.1 hfile with ⟨hlocate, _⟩
  have hnames : ".." ∉ ["working", "products", family, productId, filename] := by
    simp [Ne.symm hdots.1, Ne.symm hdots.2, Ne.symm hid]
  rw [FileTree.locate_eq_append hnames hlocate, List.dropLast_append_cons]
  rfl

/-- Refs that are written as their paths are claim each other's products only if they are equal: so
pruning by texts is pruning by products. -/
theorem not_claimed_of_canonical {tree : FileTree} {workspaceRoot file : List String}
    {priorRefs currentRefs : List String} (hprior : ∀ ref ∈ priorRefs, Canonical ref)
    {ref family productId : String} (hcurrent : ref ∈ currentRefs) (href : Canonical ref)
    (hnames : NamesProduct ref family productId)
    (hfile : fileOfRef tree workspaceRoot ref = some file) :
    ¬ Claimed workspaceRoot priorRefs currentRefs file := by
  rintro ⟨other, hother, hpruned, otherFamily, otherId, hotherNames, hbelow⟩
  rw [fileOfRef_of_names hnames hfile] at hbelow
  have hsame : productDir workspaceRoot otherFamily otherId =
      productDir workspaceRoot family productId :=
    hbelow.eq_of_length (by simp [productDir])
  have hparts := List.append_cancel_left hsame
  rcases hnames with ⟨filename, hallowed, _, hparse⟩
  rcases hotherNames with ⟨otherFilename, hotherAllowed, _, hotherParse⟩
  simp only [List.cons.injEq, and_true, true_and] at hparts
  rcases hparts with ⟨rfl, rfl⟩
  -- the family decides the name of the file
  have hfilename : otherFilename = filename :=
    Option.some.inj ((lookup_allowed_iff.2 hotherAllowed).symm.trans (lookup_allowed_iff.2 hallowed))
  rw [hfilename, ← hparse] at hotherParse
  exact hpruned (eq_of_parse_eq (hprior other hother) href hotherParse ▸ hcurrent)

/-- Pruning removes directories of products that prior refs name and what is below these, and nothing
else; a current ref loses the directory of its file exactly when a pruned ref claims the file. -/
theorem pruning_safe_iff (tree : FileTree) (workspaceRoot : List String)
    (priorRefs currentRefs : List String) :
    (∀ root ∈ (pruneProductRoots workspaceRoot tree (prunedRefs priorRefs currentRefs)).2,
      ∃ ref ∈ priorRefs, ∃ family productId, NamesProduct ref family productId ∧
        root = productDir workspaceRoot family productId) ∧
    (∀ path, (path ∈ tree.dirs ∧
        path ∉ (pruneProductRoots workspaceRoot tree (prunedRefs priorRefs currentRefs)).1.dirs) ∨
      (path ∈ tree.files ∧
        path ∉ (pruneProductRoots workspaceRoot tree (prunedRefs priorRefs currentRefs)).1.files) →
      ∃ root ∈ (pruneProductRoots workspaceRoot tree (prunedRefs priorRefs currentRefs)).2,
        root <+: path) ∧
    (∀ ref ∈ currentRefs, ∀ file, fileOfRef tree workspaceRoot ref = some file →
      (file.dropLast ∈
          (pruneProductRoots workspaceRoot tree (prunedRefs priorRefs currentRefs)).1.dirs ↔
        ¬ Claimed workspaceRoot priorRefs currentRefs file)) := by
  refine ⟨?_, ?_, fun ref _ file hfile => dropLast_mem_pruned_iff (mem_files_of_fileOfRef hfile)⟩
  · intro root hroot
    rcases names_of_removed hroot with ⟨ref, href, hnames⟩
    exact ⟨ref, (mem_prunedRefs_iff.1 href).1, hnames⟩
  · intro path hlost
    by_contra hnone
    have hsurvives : ∀ root ∈
        (pruneProductRoots workspaceRoot tree (prunedRefs priorRefs currentRefs)).2,
        FileTree.Survives root path :=
      fun root hroot => .inr (fun hbelow => hnone ⟨root, hroot, hbelow⟩)
    rw [pruneProductRoots_fst, FileTree.mem_dirs_rmtrees, FileTree.mem_files_rmtrees] at hlost
    rcases hlost with ⟨hmem, hgone⟩ | ⟨hmem, hgone⟩
    · exact hgone ⟨hmem, hsurvives⟩
    · exact hgone ⟨hmem, hsurvives⟩

/-! ## One checkpoint, two texts -/

def checkpointDirs : List (List String) :=
  [[], ["workspace"], ["workspace", "working"], ["workspace", "working", "products"],
    ["workspace", "working", "products", "checkpoints"],
    ["workspace", "working", "products", "checkpoints", "checkpoint-1"]]

def checkpointTree : FileTree where
  dirs := checkpointDirs
  files := [["workspace", "working", "products", "checkpoints", "checkpoint-1", "checkpoint.json"]]
  top := by decide
  parent_dir := by decide
  parent_file := by decide
  apart := by decide

/-- A prior ref with a doubled separator prunes the checkpoint that the current ref names. -/
theorem pruning_not_safe :
    ¬ ∀ (tree : FileTree) (workspaceRoot priorRefs currentRefs : List String),
      ∀ ref ∈ currentRefs, ∀ file, fileOfRef tree workspaceRoot ref = some file →
        file.dropLast ∈
          (pruneProductRoots workspaceRoot tree (prunedRefs priorRefs currentRefs)).1.dirs := by
  intro h
  have hkept := h checkpointTree ["workspace"]
    ["working//products/checkpoints/checkpoint-1/checkpoint.json"]
    ["working/products/checkpoints/checkpoint-1/checkpoint.json"] _ List.mem_cons_self
    ["workspace", "working", "products", "checkpoints", "checkpoint-1", "checkpoint.json"]
    (by decide +kernel)
  revert hkept
  decide +kernel

end Normalization
end Tallylot
