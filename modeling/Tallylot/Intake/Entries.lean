import Tallylot.Intake.Finalize

/-!
# Entries — scanned files and their planned rows

A scanned file is a file of the incoming tree or a member of an archive in it.  Its bundle is named
after the archive or after the directory that it lies in, and its place in the bundle is its name, or
its path in the archive.  What adapters, inspection and the source map say about a file is data here.
-/

namespace Tallylot
namespace Intake

open Data

/-- `str.lower`, which makes no separator and no dots. -/
structure LowerCase where
  lower : String → String
  slash : ∀ text, '/' ∈ (lower text).toList → '/' ∈ text.toList
  dots : ∀ text, lower text = ".." → text = ".."

/-! ## Scanned files -/

/-- A relative path to something, without `..`. -/
def CleanPath (text : String) : Prop :=
  (PosixPath.parse text).root = "" ∧ (PosixPath.parse text).tail ≠ [] ∧
    ".." ∉ (PosixPath.parse text).tail

instance (text : String) : Decidable (CleanPath text) := by
  unfold CleanPath
  infer_instance

/-- A file of the tree, or an archive member at the path that it was extracted to. -/
structure ScannedFile where
  relativePath : String
  filePath : String
  sha256 : String
  archiveSourcePath : String
  archiveMemberPath : String
  clean : CleanPath (if archiveMemberPath = "" then relativePath else archiveMemberPath)
  member : archiveSourcePath = "" ↔ archiveMemberPath = ""

/-- `sanitize_archive_member_path` -/
def sanitizeArchiveMemberPath (name : String) : Option PosixPath :=
  let path := PosixPath.parse name
  if path.root ≠ "" then none
  else if path.tail = [] ∨ ".." ∈ path.tail then none
  else some path

lemma clean_text {path : PosixPath} (hroot : path.root = "") (hne : path.tail ≠ [])
    (hparts : ∀ part ∈ path.tail, PosixPath.IsPart part) (hup : ".." ∉ path.tail) :
    CleanPath path.text := by
  have hparse : PosixPath.parse path.text = ⟨"", path.tail⟩ := by
    rw [PosixPath.text, if_neg (fun h => hne h.2), hroot, String.empty_append]
    exact PosixPath.parse_intercalate hne hparts
  unfold CleanPath
  rw [hparse]
  exact ⟨rfl, hne, hup⟩

/-- A sanitized member name is a clean path. -/
lemma clean_sanitized {name : String} {path : PosixPath}
    (h : sanitizeArchiveMemberPath name = some path) : CleanPath path.text := by
  unfold sanitizeArchiveMemberPath at h
  dsimp only at h
  split_ifs at h with hroot hparts
  rcases not_or.1 hparts with ⟨hne, hup⟩
  rw [← Option.some.inj h]
  exact clean_text (not_not.1 hroot) hne (fun _ => PosixPath.isPart_of_mem_parse) hup

/-! ## Path rules -/

/-- `p.parent` -/
def parentPath (p : PosixPath) : PosixPath := { p with tail := p.tail.dropLast }

/-- `name.replace(" ", "-").replace("_", "-")` -/
def dashed (name : String) : String :=
  String.ofList (name.toList.map (fun c => if c = ' ' ∨ c = '_' then '-' else c))

def bundleId (letters : LowerCase) (entry : ScannedFile) (sourceFolder : String) : String :=
  if entry.archiveSourcePath ≠ "" then (PosixPath.parse entry.archiveSourcePath).stem
  else
    let relativePath := PosixPath.parse entry.relativePath
    if letters.lower relativePath.suffix = ".zip" then relativePath.stem
    else if parentPath relativePath = ⟨"", []⟩ then sourceFolder ++ "-loose"
    else letters.lower (dashed (parentPath relativePath).name)

def bundleRelativePath (letters : LowerCase) (entry : ScannedFile) : String :=
  if entry.archiveMemberPath ≠ "" then
    ((PosixPath.parse "contents").join entry.archiveMemberPath).text
  else
    let relativePath := PosixPath.parse entry.relativePath
    if letters.lower relativePath.suffix = ".zip" then
      ((PosixPath.parse "archive").join relativePath.name).text
    else relativePath.name

/-! ## Routing -/

structure IntakeRoute where
  category : String
  role : String
  sourceFolder : String
  captureLabel : String
  action : String
  targetPath : PosixPath
  reviewRequired : String := "no"
  reviewCodes : String := ""
  reviewReason : String := ""

/-- `text.replace("::", new)` -/
def replaceMembers (new : List Char) : List Char → List Char
  | ':' :: ':' :: cs => new ++ replaceMembers new cs
  | c :: cs => c :: replaceMembers new cs
  | [] => []

/-- `"_files/" in text` -/
def hasFilesPart : List Char → Bool
  | [] => false
  | c :: cs => "_files/".toList.isPrefixOf (c :: cs) || hasFilesPart cs

def rawSourceSuffixes : List String := [".csv", ".json", ".zip", ".pdf", ".html"]

def workingDerivativeSuffixes : List String := [".png", ".jpg", ".jpeg", ".xlsx", ".xls"]

def isWorkingDerivative (letters : LowerCase) (relativePath : String) : Bool :=
  let path := PosixPath.parse (String.ofList (replaceMembers "__".toList relativePath.toList))
  letters.lower path.suffix ∈ workingDerivativeSuffixes || letters.lower path.name = "test.csv"

/-- `relative_target_path` -/
def relativeTargetPath (relativePath : String) : String :=
  String.ofList (replaceMembers "/members/".toList relativePath.toList)

def routeKey (entry : ScannedFile) : String :=
  if entry.archiveMemberPath = "" then entry.relativePath
  else entry.archiveSourcePath ++ "::" ++ entry.archiveMemberPath

def rawSourceTargetPath (letters : LowerCase) (entry : ScannedFile) (basePath : PosixPath)
    (relativeTarget : String) : PosixPath :=
  let relativePath := PosixPath.parse entry.relativePath
  if entry.archiveMemberPath ≠ "" then
    ((basePath.join (PosixPath.parse entry.archiveSourcePath).stem).join "contents").join
      entry.archiveMemberPath
  else if letters.lower relativePath.suffix = ".zip" then
    ((basePath.join relativePath.stem).join "archive").join relativePath.name
  else basePath.join relativeTarget

def requiredRawSidecarPath (basePath : PosixPath)
    (relativePath archiveSourcePath archiveMemberPath : String) : PosixPath :=
  if archiveMemberPath ≠ "" then
    ((basePath.join (PosixPath.parse archiveSourcePath).stem).join "contents").join
      archiveMemberPath
  else basePath.join (relativeTargetPath relativePath)

/-- The route of a file, given that of the first matching adapter that routes it and the source of the
best match. -/
def routeIntakeFile (letters : LowerCase) (workspaceRoot : PosixPath) (incomingName : String)
    (adapterRoute : Option IntakeRoute) (sourceFolder : String) (entry : ScannedFile) :
    IntakeRoute :=
  match adapterRoute with
  | some route => route
  | none =>
      let key := routeKey entry
      let action := if entry.archiveMemberPath ≠ "" then "extract_copy" else "copy"
      let basePath := captureRoot workspaceRoot sourceFolder incomingName
      let supporting :=
        ((((workspaceRoot.join "working").join "supporting_artifacts").join sourceFolder).join
          incomingName).join (relativeTargetPath key)
      if isWorkingDerivative letters key then
        { category := "supporting_artifact", role := "working_derivative", sourceFolder, action,
          captureLabel := incomingName, targetPath := supporting }
      else if hasFilesPart (letters.lower key).toList then
        { category := "source_raw", role := "required_sidecar", sourceFolder, action,
          captureLabel := incomingName,
          targetPath := requiredRawSidecarPath basePath key entry.archiveSourcePath
            entry.archiveMemberPath }
      else if letters.lower (PosixPath.parse key).suffix ∈ rawSourceSuffixes then
        { category := "source_raw", role := "source_export", sourceFolder, action,
          captureLabel := incomingName,
          targetPath := rawSourceTargetPath letters entry basePath (relativeTargetPath key) }
      else
        { category := "supporting_artifact", role := "supporting_artifact", sourceFolder, action,
          captureLabel := incomingName, targetPath := supporting }

/-! ## Planned rows -/

structure SourceLabelResolution where
  sourceFolder : String
  blocked : Bool
  reviewRequired : String := "no"
  reviewCodes : String := ""
  reviewReason : String := ""

structure OverlapReview where
  reviewRequired : String := "no"
  reviewCodes : String := ""
  reviewReason : String := ""

/-- A scanned file with its route and what is known about its source and contents. -/
structure RoutedFile where
  entry : ScannedFile
  route : IntakeRoute
  resolution : SourceLabelResolution
  overlapReview : OverlapReview := {}
  scopeTokens : List String := []

def mergeReviewRequired (values : List String) : String :=
  if values.any (fun value => value = "yes") then "yes" else "no"

/-- Positions of a source folder in the parts of a raw or working path. -/
def sourceSegmentIndexes (parts : List String) (sourceFolder : String) : List Nat :=
  (parts.zipIdx.filter (fun part =>
    part.1 = sourceFolder &&
      ((3 ≤ part.2 && (parts.drop (part.2 - 3)).take 3 = ["evidence", "raw", "source"]) ||
        (2 ≤ part.2 && parts[part.2 - 2]? = some "working")))).map Prod.snd

def overrideTargetSource (targetPath : PosixPath) (previousSource newSource : String) :
    PosixPath :=
  if previousSource = newSource then targetPath
  else
    match sourceSegmentIndexes targetPath.parts previousSource with
    | [] => targetPath
    | index :: _ => (targetPath.parts.set index newSource).foldl PosixPath.join ⟨"", []⟩

def isCopyAction (action : String) : Bool := action ∈ ["copy", "extract_copy"]

def buildPlannedItem (letters : LowerCase) (workspaceRoot : PosixPath) (file : RoutedFile) :
    PlannedItem :=
  let entry := file.entry
  let route := file.route
  let resolution := file.resolution
  let bundle := bundleId letters entry resolution.sourceFolder
  let bundlePath := bundleRelativePath letters entry
  { sourcePath := entry.filePath
    relativePath :=
      if entry.archiveMemberPath ≠ "" then entry.archiveMemberPath else entry.relativePath
    archiveSourcePath := entry.archiveSourcePath
    archiveMemberPath := entry.archiveMemberPath
    category := route.category
    role := route.role
    sourceFolder := resolution.sourceFolder
    captureLabel := route.captureLabel
    captureStatus := "planned"
    bundleId := bundle
    bundleRelativePath := bundlePath
    action := if resolution.blocked then "skip" else route.action
    decision :=
      { packageStatus := .primary
        packagePrimaryBundleId := bundle
        packageRelatedBundles := ""
        packageCycleStatus := .blank
        packageScopeStatus := .blank
        packageDecisionReason := "" }
    packageRowStatus := .packageKeep
    placementStatus :=
      if resolution.blocked then "mapping_blocked_skip"
      else if isCopyAction route.action then "planned_copy"
      else "inspect_only"
    reviewRequired := mergeReviewRequired
      [route.reviewRequired, resolution.reviewRequired, file.overlapReview.reviewRequired]
    reviewCodes := mergeReviewValues
      [route.reviewCodes, resolution.reviewCodes, file.overlapReview.reviewCodes]
    reviewReason := mergeReviewValues
      [route.reviewReason, resolution.reviewReason, file.overlapReview.reviewReason]
    sha256 := entry.sha256
    scopeTokens := file.scopeTokens
    targetPath :=
      if route.category = "source_raw" then
        sourceRawTargetPath workspaceRoot resolution.sourceFolder route.captureLabel bundle
          bundlePath
      else overrideTargetSource route.targetPath route.sourceFolder resolution.sourceFolder }

/-! ## Bundles and places in them -/

/-- The folders that a bundle puts between the capture root and its files. -/
def bundleFolder (bundleId : String) : List String :=
  if endsWithText bundleId "-loose" then [] else (PosixPath.parse bundleId).tail

/-- A bundle id that stands for one folder at most. -/
def FolderName (bundleId : String) : Prop :=
  endsWithText bundleId "-loose" = true ∨ '/' ∉ bundleId.toList

lemma slash_of_name {p : PosixPath} (h : ∀ part ∈ p.tail, PosixPath.IsPart part) :
    '/' ∉ p.name.toList := by
  cases hlast : p.tail.getLast? with
  | none => simp [PosixPath.name, List.getLastD_eq_getLast?, hlast]
  | some last =>
      have hpart := h last (List.mem_of_getLast? hlast)
      simpa [PosixPath.name, List.getLastD_eq_getLast?, hlast] using hpart.2.2

lemma slash_of_stem {p : PosixPath} (h : '/' ∉ p.name.toList) : '/' ∉ p.stem.toList := by
  unfold PosixPath.stem PosixPath.splitSuffix
  dsimp only
  split_ifs
  · simp only [String.toList_ofList]
    intro hmem
    have hfront := List.mem_reverse.1 (List.mem_of_mem_dropLast hmem)
    exact h (List.mem_reverse.1 ((List.dropWhile_sublist _).subset hfront))
  · exact h

lemma slash_of_dashed {name : String} (h : '/' ∉ name.toList) : '/' ∉ (dashed name).toList := by
  simp only [dashed, String.toList_ofList, List.mem_map, not_exists, not_and]
  intro c hc hslash
  split_ifs at hslash
  · exact absurd hslash (by decide)
  · exact h (hslash ▸ hc)

/-- Every bundle is named after a file or a directory, or is loose. -/
lemma folderName_bundleId (letters : LowerCase) (entry : ScannedFile) (sourceFolder : String) :
    FolderName (bundleId letters entry sourceFolder) := by
  have hname : ∀ text, '/' ∉ (PosixPath.parse text).name.toList :=
    fun text => slash_of_name (fun _ => PosixPath.isPart_of_mem_parse)
  have hparent : '/' ∉ (parentPath (PosixPath.parse entry.relativePath)).name.toList := by
    refine slash_of_name ?_
    intro part hpart
    exact PosixPath.isPart_of_mem_parse (List.mem_of_mem_dropLast hpart)
  unfold bundleId
  dsimp only
  split_ifs
  · exact Or.inr (slash_of_stem (hname _))
  · exact Or.inr (slash_of_stem (hname _))
  · left
    unfold endsWithText
    simp
  · exact Or.inr (fun h => slash_of_dashed hparent (letters.slash _ h))

/-- The parts of a path in a bundle: those of an archive or of its contents, or one file name. -/
inductive BundleParts : List String → Prop
  | below (folder : String) (parts : List String) (known : folder = "contents" ∨ folder = "archive")
      (nonempty : parts ≠ []) (up : ".." ∉ parts) : BundleParts (folder :: parts)
  | file (name : String) (up : name ≠ "..") : BundleParts [name]

namespace BundleParts

lemma ne_nil {parts : List String} (h : BundleParts parts) : parts ≠ [] := by
  cases h <;> simp

lemma no_up {parts : List String} (h : BundleParts parts) : ".." ∉ parts := by
  cases h with
  | below folder parts known nonempty up =>
      rcases known with rfl | rfl <;> simpa using up
  | file name up => simpa using Ne.symm up

end BundleParts

lemma parse_below {folder text : String} {tail : List String} (hfolder : PosixPath.IsPart folder)
    (hparse : PosixPath.parse text = ⟨"", tail⟩) :
    PosixPath.parse ((PosixPath.parse folder).join text).text = ⟨"", folder :: tail⟩ := by
  have hparts : ∀ part ∈ folder :: tail, PosixPath.IsPart part := by
    intro part hpart
    rcases List.mem_cons.1 hpart with rfl | hpart
    · exact hfolder
    · have hmem : part ∈ (PosixPath.parse text).tail := by rwa [hparse]
      exact PosixPath.isPart_of_mem_parse hmem
  rw [PosixPath.join_relative hparse, PosixPath.parse_part hfolder, PosixPath.text,
    if_neg (by simp), String.empty_append]
  exact PosixPath.parse_intercalate (by simp) hparts

/-- The last name of a clean path. -/
lemma name_of_clean {text : String} (h : CleanPath text) :
    PosixPath.IsPart (PosixPath.parse text).name ∧ (PosixPath.parse text).name ≠ ".." := by
  rcases h with ⟨_, hne, hup⟩
  have hlast : (PosixPath.parse text).name = (PosixPath.parse text).tail.getLast hne := by
    rw [PosixPath.name, List.getLastD_eq_getLast?, List.getLast?_eq_getLast_of_ne_nil hne,
      Option.getD_some]
  have hmem := List.getLast_mem hne
  rw [hlast]
  exact ⟨PosixPath.isPart_of_mem_parse hmem, fun heq => hup (heq ▸ hmem)⟩

/-! ## Paths in a bundle -/

/-- What a file is called in its bundle: by its path in an archive, or by its name. -/
inductive EntryPath
  | member (parts : List String)
  | archive (name : String)
  | file (name : String)
  deriving DecidableEq, Repr

def entryPath (letters : LowerCase) (entry : ScannedFile) : EntryPath :=
  if entry.archiveMemberPath ≠ "" then .member (PosixPath.parse entry.archiveMemberPath).tail
  else
    let relativePath := PosixPath.parse entry.relativePath
    if letters.lower relativePath.suffix = ".zip" then .archive relativePath.name
    else .file relativePath.name

/-- The path of a file in the folder of its bundle. -/
def EntryPath.parts : EntryPath → List String
  | .member parts => "contents" :: parts
  | .archive name => ["archive", name]
  | .file name => [name]

/-- A file stands in its bundle under its name, or below `contents` or `archive`. -/
lemma parse_bundleRelativePath (letters : LowerCase) (entry : ScannedFile) :
    PosixPath.parse (bundleRelativePath letters entry) = ⟨"", (entryPath letters entry).parts⟩ ∧
      BundleParts (entryPath letters entry).parts := by
  have hclean := entry.clean
  by_cases hmember : entry.archiveMemberPath = ""
  · rw [if_pos hmember] at hclean
    rcases name_of_clean hclean with ⟨hname, hup⟩
    have hparse := PosixPath.parse_part hname
    unfold bundleRelativePath entryPath
    rw [if_neg (not_not.2 hmember), if_neg (not_not.2 hmember)]
    dsimp only
    split_ifs
    · refine ⟨parse_below (by decide) hparse, ?_⟩
      exact .below "archive" _ (Or.inr rfl) (by simp) (by simpa using Ne.symm hup)
    · exact ⟨hparse, .file _ hup⟩
  · rw [if_neg hmember] at hclean
    rcases hclean with ⟨hroot, hne, hup⟩
    unfold bundleRelativePath entryPath
    rw [if_pos hmember, if_pos hmember]
    refine ⟨@parse_below "contents" _ (PosixPath.parse entry.archiveMemberPath).tail (by decide) ?_,
      .below "contents" _ (Or.inl rfl) hne hup⟩
    rw [← hroot]

/-- A file of an archive has a path in it. -/
def EntryPath.Named : EntryPath → Prop
  | .member parts => parts ≠ []
  | .archive _ => True
  | .file _ => True

lemma named_entryPath (letters : LowerCase) (entry : ScannedFile) :
    (entryPath letters entry).Named := by
  have hclean := entry.clean
  unfold entryPath
  split_ifs with hmember
  · rw [if_neg hmember] at hclean
    exact hclean.2.1
  · dsimp only
    split_ifs <;> trivial

/-- Files that stand at one place below the capture root, told from the folders of their bundles and
from their paths in them; a bundle without a folder has its `contents` and `archive` folders beside the
folders of the other bundles. -/
inductive Collides : List String → EntryPath → List String → EntryPath → Prop
  | same (folder : List String) (path : EntryPath) : Collides folder path folder path
  | contentsFile (name : String) : Collides [] (.member [name]) ["contents"] (.file name)
  | contentsArchive (name : String) :
      Collides [] (.member ["archive", name]) ["contents"] (.archive name)
  | contentsMember (parts : List String) :
      Collides [] (.member ("contents" :: parts)) ["contents"] (.member parts)
  | archiveFile (name : String) : Collides [] (.archive name) ["archive"] (.file name)

lemma Collides.place_eq {folder folder' : List String} {path path' : EntryPath}
    (h : Collides folder path folder' path') : folder ++ path.parts = folder' ++ path'.parts := by
  cases h <;> rfl

/-- Below folders of at most one name, only colliding files have one place. -/
theorem place_eq_iff {folder folder' : List String} {path path' : EntryPath}
    (hfolder : folder = [] ∨ ∃ name, folder = [name])
    (hfolder' : folder' = [] ∨ ∃ name, folder' = [name]) (hnamed : path.Named)
    (hnamed' : path'.Named) :
    folder ++ path.parts = folder' ++ path'.parts ↔
      Collides folder path folder' path' ∨ Collides folder' path' folder path := by
  have hinj : ∀ {p p' : EntryPath}, p.Named → p'.Named → p.parts = p'.parts → p = p' := by
    intro p p' hp hp' h
    cases p <;> cases p' <;> simp_all [EntryPath.parts, EntryPath.Named]
  -- a bundle without a folder against one with a folder
  have hbeside : ∀ {p p' : EntryPath} {name : String}, p.Named → p'.Named →
      p.parts = name :: p'.parts → Collides [] p [name] p' := by
    intro p p' name hp hp' h
    cases p with
    | member parts =>
        rcases List.cons.inj h with ⟨rfl, hparts⟩
        rw [hparts]
        cases p' with
        | member parts' => exact .contentsMember parts'
        | archive name' => exact .contentsArchive name'
        | file name' => exact .contentsFile name'
    | archive archive =>
        rcases List.cons.inj h with ⟨rfl, hparts⟩
        cases p' with
        | member parts' => exact absurd (List.cons.inj hparts).2.symm hp'
        | archive name' => simp [EntryPath.parts] at hparts
        | file name' =>
            rw [(List.cons.inj hparts).1]
            exact .archiveFile name'
    | file file =>
        cases p' <;> simp [EntryPath.parts] at h
  constructor
  · intro h
    rcases hfolder with rfl | ⟨name, rfl⟩ <;> rcases hfolder' with rfl | ⟨name', rfl⟩
    · rw [hinj hnamed hnamed' h]
      exact Or.inl (.same _ _)
    · exact Or.inl (hbeside hnamed hnamed' h)
    · exact Or.inr (hbeside hnamed' hnamed h.symm)
    · rcases List.cons.inj h with ⟨rfl, hparts⟩
      rw [hinj hnamed hnamed' hparts]
      exact Or.inl (.same _ _)
  · rintro (h | h)
    · exact h.place_eq
    · exact h.place_eq.symm

end Intake
end Tallylot
