import Mathlib.Data.List.Forall2
import Tallylot.Data.Sorted
import Tallylot.Intake.Entries

/-!
# Archives — scanning nested archives under one budget

The files of a tree are scanned in turn, and the members of the archives among them, and the members
of the archives among these.  All of them share one budget of members and bytes, and the nesting is
limited.  A member that is not recorded is named by an issue, or its archive is
(`scannedTreeFiles_accounted`).

Contents are abstract: what `zipfile` and `hashlib` say about them is a parameter, so archives may
well contain themselves.
-/

namespace Tallylot
namespace Intake

open Data

/-! ## Archives as they are read -/

/-- What the scan reads of a `ZipInfo`. -/
structure ZipInfo where
  filename : String
  flagBits : Nat
  compressType : Nat
  externalAttr : Nat
  fileSize : Nat
  deriving DecidableEq, Repr

/-- `member.is_dir()` -/
def ZipInfo.isDir (member : ZipInfo) : Bool := endsWithText member.filename "/"

/-- `S_ISLNK(member.external_attr >> 16)` -/
def ZipInfo.isLink (member : ZipInfo) : Bool :=
  (member.externalAttr >>> 16) &&& 0o170000 = 0o120000

inductive ReadError
  | osError
  | badZipFile
  deriving DecidableEq, Repr

/-- What is read of contents.  A member that can be read has the size that it declares. -/
structure ZipReader (Bytes : Type) where
  size : Bytes → Nat
  sha256 : Bytes → String
  /-- The members of an archive; `none` stands for `BadZipFile`. -/
  infolist : Bytes → Option (List ZipInfo)
  read : Bytes → ZipInfo → Except ReadError Bytes
  declared : ∀ archive member payload, read archive member = .ok payload →
    size payload = member.fileSize

/-! ## Settings and state -/

structure ArchiveScanSettings where
  maxArchiveFileSizeBytes : Nat
  maxArchiveTotalExpandedBytes : Nat
  maxArchiveMemberSizeBytes : Nat
  maxArchiveMemberCount : Nat
  maxArchiveDepth : Nat
  supportedZipCompressions : List Nat
  supportedArchiveSuffixes : List String
  unsupportedArchiveSuffixes : List String

/-- The settings of `scanned_tree_files`: nesting three deep, stored, deflated, bzip2 and LZMA members. -/
def scannedTreeSettings : ArchiveScanSettings where
  maxArchiveFileSizeBytes := 512 * 1024 * 1024
  maxArchiveTotalExpandedBytes := 2 * 1024 * 1024 * 1024
  maxArchiveMemberSizeBytes := 256 * 1024 * 1024
  maxArchiveMemberCount := 10000
  maxArchiveDepth := 3
  supportedZipCompressions := [0, 8, 12, 14]
  supportedArchiveSuffixes := [".zip"]
  unsupportedArchiveSuffixes := [".tar", ".gz", ".tgz", ".tar.gz", ".bz2", ".xz", ".7z", ".rar"]

/-- The settings of a scan and the world that it runs in. -/
structure ScanSetup (Bytes : Type) where
  zip : ZipReader Bytes
  letters : LowerCase
  repr : String → String
  settings : ArchiveScanSettings
  extractedRoot : String
  /-- Whether the extraction root takes a file of this path; else writing it is an `OSError`. -/
  writable : String → Bool

structure ScanIssue where
  relativePath : String
  kind : String
  message : String
  severity : String := "high"
  deriving DecidableEq, Repr

structure ArchiveBudget where
  expandedBytes : Nat
  memberCount : Nat
  deriving DecidableEq, Repr

/-- A scanned file and its size. -/
structure SizedFile extends ScannedFile where
  sizeBytes : Nat

/-- The relative path of an archive, which is not blank. -/
structure ArchivePath where
  text : String
  nonblank : text ≠ ""
  deriving Repr

lemma ArchivePath.eq_iff {path path' : ArchivePath} : path = path' ↔ path.text = path'.text := by
  cases path
  cases path'
  simp

instance : DecidableEq ArchivePath := fun _ _ => decidable_of_iff' _ ArchivePath.eq_iff

structure OpenedArchive (Bytes : Type) where
  path : ArchivePath
  handle : Bytes
  depth : Nat
  infolist : List ZipInfo

/-- The state of a scan.  The last two fields are not in the source: they keep every budget that the
scan has had, and every archive that it has opened. -/
structure ArchiveScanState (Bytes : Type) where
  files : List SizedFile
  issues : List ScanIssue
  budget : ArchiveBudget
  budgets : List ArchiveBudget
  opened : List (OpenedArchive Bytes)

namespace ArchiveScanState

variable {Bytes : Type}

def initial : ArchiveScanState Bytes := ⟨[], [], ⟨0, 0⟩, [⟨0, 0⟩], []⟩

def addIssue (state : ArchiveScanState Bytes) (issue : ScanIssue) : ArchiveScanState Bytes :=
  { state with issues := state.issues ++ [issue] }

def addFile (state : ArchiveScanState Bytes) (file : SizedFile) : ArchiveScanState Bytes :=
  { state with files := state.files ++ [file] }

def setBudget (state : ArchiveScanState Bytes) (budget : ArchiveBudget) : ArchiveScanState Bytes :=
  { state with budget := budget, budgets := state.budgets ++ [budget] }

def openArchive (state : ArchiveScanState Bytes) (archive : OpenedArchive Bytes) :
    ArchiveScanState Bytes :=
  { state with opened := state.opened ++ [archive] }

end ArchiveScanState

/-! ## Members -/

section Scan

variable {Bytes : Type} (setup : ScanSetup Bytes)

structure ResolvedArchiveMember where
  name : String
  relativePath : ArchivePath
  clean : CleanPath name

lemma nonblank_of_cleanPath {text : String} (h : CleanPath text) : text ≠ "" := by
  rintro rfl
  exact h.2.1 (by decide)

/-- `f"{archive_relative_path}::{member_name}"` -/
def memberPath (archivePath : ArchivePath) (name : String) : ArchivePath where
  text := archivePath.text ++ "::" ++ name
  nonblank := by
    intro h
    have hchars := congrArg String.toList h
    simp at hchars

/-- `resolve_archive_member`, with the issue that it adds when it returns `None`. -/
def resolveArchiveMember (member : ZipInfo) (archivePath : ArchivePath) (seenPaths : List String) :
    Except ScanIssue ResolvedArchiveMember :=
  match h : sanitizeArchiveMemberPath member.filename with
  | none =>
      .error
        { relativePath := archivePath.text
          kind := "unsafe_archive_member_path"
          message := "Archive member " ++ setup.repr member.filename ++
            " has an unsafe path and was skipped." }
  | some path =>
      if path.text ∈ seenPaths then
        .error
          { relativePath := (memberPath archivePath path.text).text
            kind := "duplicate_archive_member_path"
            message := "Archive member path " ++ setup.repr path.text ++
              " appears more than once and was skipped." }
      else .ok ⟨path.text, memberPath archivePath path.text, clean_sanitized h⟩

/-- `handle_archive_member_limits`: the issue that it adds, and whether the scan of the archive goes
on. -/
def handleArchiveMemberLimits (member : ZipInfo) (archivePath : ArchivePath)
    (resolved : ResolvedArchiveMember) (budget : ArchiveBudget) : Option (ScanIssue × Bool) :=
  if budget.memberCount ≥ setup.settings.maxArchiveMemberCount then
    some
      ({ relativePath := archivePath.text
         kind := "archive_member_limit_exceeded"
         message := "Archive inspection exceeded the " ++
           toString setup.settings.maxArchiveMemberCount ++ " member limit; skipping " ++
           "remaining members for " ++ setup.repr archivePath.text ++ "." }, false)
  else if member.flagBits &&& 0x1 ≠ 0 then
    some
      ({ relativePath := resolved.relativePath.text
         kind := "encrypted_archive_member"
         message := "Encrypted archive member " ++ setup.repr resolved.name ++
           " is not supported." }, true)
  else if member.compressType ∉ setup.settings.supportedZipCompressions then
    some
      ({ relativePath := resolved.relativePath.text
         kind := "unsupported_archive_compression"
         message := "Archive member " ++ setup.repr resolved.name ++
           " uses an unsupported ZIP compression method." }, true)
  else if member.isLink then
    some
      ({ relativePath := resolved.relativePath.text
         kind := "unsupported_archive_member_type"
         message := "Archive member " ++ setup.repr resolved.name ++
           " is a symbolic link and was skipped." }, true)
  else if member.fileSize > setup.settings.maxArchiveMemberSizeBytes then
    some
      ({ relativePath := resolved.relativePath.text
         kind := "archive_member_too_large"
         message := "Archive member " ++ setup.repr resolved.name ++ " exceeds the " ++
           toString setup.settings.maxArchiveMemberSizeBytes ++ " byte inspection limit " ++
           "and was skipped." }, true)
  else none

/-- `write_extracted_file`; a file that exists is not written again, and could be written before. -/
def writeExtractedFile (relativePath : ArchivePath) (payload : Bytes) : Option PosixPath :=
  let suffix := (PosixPath.parse
    (String.ofList (replaceMembers "__".toList relativePath.text.toList))).suffix
  let target := (PosixPath.parse setup.extractedRoot).join (setup.zip.sha256 payload ++ suffix)
  if setup.writable target.text then some target else none

/-- The file that a member is recorded as. -/
def extractedFile (archivePath : ArchivePath) (resolved : ResolvedArchiveMember) (payload : Bytes)
    (extractedPath : PosixPath) : SizedFile where
  relativePath := resolved.relativePath.text
  filePath := extractedPath.text
  sha256 := setup.zip.sha256 payload
  archiveSourcePath := archivePath.text
  archiveMemberPath := resolved.name
  clean := by
    rw [if_neg (nonblank_of_cleanPath resolved.clean)]
    exact resolved.clean
  member := iff_of_false archivePath.nonblank (nonblank_of_cleanPath resolved.clean)
  sizeBytes := setup.zip.size payload

/-- `record_archive_member` -/
def recordArchiveMember (archivePath : ArchivePath) (resolved : ResolvedArchiveMember)
    (payload : Bytes) : Option SizedFile :=
  (writeExtractedFile setup resolved.relativePath payload).map
    (extractedFile setup archivePath resolved payload)

/-! ## Scanning -/

/-- How the scan of a member ends: it returns whether the scan of the archive goes on, or raises. -/
inductive MemberEnd
  | returns (goesOn : Bool)
  | raises (error : ReadError)
  deriving DecidableEq, Repr

/-- A scan that returns nothing ends with `none`, or raises an error. -/
abbrev ScanResult (Bytes : Type) := Option ReadError × ArchiveScanState Bytes

/-- `read_archive_member`; `nested` scans the payload of a nested archive. -/
def readArchiveMember
    (nested : Bytes → ArchivePath → ArchiveScanState Bytes → ScanResult Bytes) (handle : Bytes)
    (member : ZipInfo) (archivePath : ArchivePath) (resolved : ResolvedArchiveMember)
    (state : ArchiveScanState Bytes) : MemberEnd × ArchiveScanState Bytes :=
  match handleArchiveMemberLimits setup member archivePath resolved state.budget with
  | some (issue, goesOn) => (.returns goesOn, state.addIssue issue)
  | none =>
      let nextExpandedBytes := state.budget.expandedBytes + member.fileSize
      if nextExpandedBytes > setup.settings.maxArchiveTotalExpandedBytes then
        (.returns false, state.addIssue
          { relativePath := archivePath.text
            kind := "archive_expanded_size_limit_exceeded"
            message := "Archive inspection exceeded the total expanded-size limit of " ++
              toString setup.settings.maxArchiveTotalExpandedBytes ++
              " bytes; skipping remaining members for " ++ setup.repr archivePath.text ++ "." })
      else
        match setup.zip.read handle member with
        | .error .osError =>
            (.returns true, state.addIssue
              { relativePath := resolved.relativePath.text
                kind := "archive_member_read_failed"
                message := "Archive member " ++ setup.repr resolved.name ++
                  " could not be read." })
        | .error .badZipFile => (.raises .badZipFile, state)
        | .ok payload =>
            let expanded := state.setBudget { state.budget with expandedBytes := nextExpandedBytes }
            let charged := expanded.setBudget
              { expanded.budget with memberCount := expanded.budget.memberCount + 1 }
            match recordArchiveMember setup archivePath resolved payload with
            | none => (.raises .osError, charged)
            | some file =>
                if setup.letters.lower (PosixPath.parse file.filePath).suffix ∈
                    setup.settings.supportedArchiveSuffixes then
                  match nested payload resolved.relativePath (charged.addFile file) with
                  | (none, state) => (.returns true, state)
                  | (some error, state) => (.raises error, state)
                else (.returns true, charged.addFile file)

/-- The loop of `scan_zip_handle`. -/
def scanMembers (nested : Bytes → ArchivePath → ArchiveScanState Bytes → ScanResult Bytes)
    (handle : Bytes) (archivePath : ArchivePath) :
    List ZipInfo → List String → ArchiveScanState Bytes → ScanResult Bytes
  | [], _, state => (none, state)
  | member :: members, seenPaths, state =>
      if member.isDir then scanMembers nested handle archivePath members seenPaths state
      else
        match resolveArchiveMember setup member archivePath seenPaths with
        | .error issue =>
            scanMembers nested handle archivePath members seenPaths (state.addIssue issue)
        | .ok resolved =>
            match readArchiveMember setup nested handle member archivePath resolved state with
            | (.returns true, state) =>
                scanMembers nested handle archivePath members (resolved.name :: seenPaths) state
            | (.returns false, state) => (none, state)
            | (.raises error, state) => (some error, state)

def tooLargeIssue (subject : String) (relativePath : ArchivePath) : ScanIssue where
  relativePath := relativePath.text
  kind := "archive_too_large"
  message := subject ++ " exceeds the " ++ toString setup.settings.maxArchiveFileSizeBytes ++
    " byte inspection limit; skipping members for " ++ setup.repr relativePath.text ++ "."

def invalidArchiveIssue (subject : String) (relativePath : ArchivePath) : ScanIssue where
  relativePath := relativePath.text
  kind := "invalid_archive"
  message := "Could not read " ++ subject ++ " " ++ setup.repr relativePath.text ++ "."

/-- Opens an archive and scans it; `BadZipFile` becomes an issue, at opening as while scanning. -/
def scanOpened
    (scan : Bytes → List ZipInfo → ArchivePath → ArchiveScanState Bytes → ScanResult Bytes)
    (depth : Nat) (subject : String) (archive : Bytes) (relativePath : ArchivePath)
    (state : ArchiveScanState Bytes) : ScanResult Bytes :=
  match setup.zip.infolist archive with
  | none => (none, state.addIssue (invalidArchiveIssue setup subject relativePath))
  | some infolist =>
      match scan archive infolist relativePath
          (state.openArchive ⟨relativePath, archive, depth, infolist⟩) with
      | (some .badZipFile, state) =>
          (none, state.addIssue (invalidArchiveIssue setup subject relativePath))
      | result => result

/-- `scan_nested_zip_bytes`; `scan` scans an opened archive. -/
def scanNestedZipBytes
    (scan : Bytes → List ZipInfo → ArchivePath → ArchiveScanState Bytes → ScanResult Bytes)
    (depth : Nat) (payload : Bytes) (relativePath : ArchivePath) (state : ArchiveScanState Bytes) :
    ScanResult Bytes :=
  if setup.zip.size payload > setup.settings.maxArchiveFileSizeBytes then
    (none, state.addIssue (tooLargeIssue setup "Nested archive" relativePath))
  else
    match writeExtractedFile setup relativePath payload with
    | none => (some .osError, state)
    | some _ => scanOpened setup scan depth "nested ZIP archive" payload relativePath state

/-- `scan_zip_handle` -/
def scanZipHandle (depth : Nat) (handle : Bytes) (infolist : List ZipInfo)
    (archivePath : ArchivePath) (state : ArchiveScanState Bytes) : ScanResult Bytes :=
  if _h : depth ≥ setup.settings.maxArchiveDepth then
    (none, state.addIssue
      { relativePath := archivePath.text
        kind := "archive_depth_limit_exceeded"
        message := "Archive nesting exceeds the maximum depth of " ++
          toString setup.settings.maxArchiveDepth ++ "; skipping members under " ++
          setup.repr archivePath.text ++ "." })
  else
    scanMembers setup
      (scanNestedZipBytes setup
        (fun payload infolist path state => scanZipHandle (depth + 1) payload infolist path state)
        (depth + 1))
      handle archivePath (sortedOn ZipInfo.filename infolist) [] state
termination_by setup.settings.maxArchiveDepth - depth

/-- `scan_zip_file` -/
def scanZipFile (archive : Bytes) (relativePath : ArchivePath) (depth : Nat)
    (state : ArchiveScanState Bytes) : ScanResult Bytes :=
  if setup.zip.size archive > setup.settings.maxArchiveFileSizeBytes then
    (none, state.addIssue (tooLargeIssue setup "Archive" relativePath))
  else
    scanOpened setup (scanZipHandle setup depth) depth "ZIP archive" archive relativePath state

/-! ## Trees of files -/

/-- A file of the tree, at a path relative to its root. -/
structure TreeFile (Bytes : Type) where
  relativePath : String
  filePath : String
  resolvedPath : String
  contents : Bytes
  clean : CleanPath relativePath

/-- `filesystem_file` -/
def filesystemFile (candidate : TreeFile Bytes) : SizedFile where
  relativePath := candidate.relativePath
  filePath := candidate.filePath
  sha256 := setup.zip.sha256 candidate.contents
  archiveSourcePath := ""
  archiveMemberPath := ""
  clean := candidate.clean
  member := iff_of_true rfl rfl
  sizeBytes := setup.zip.size candidate.contents

/-- `has_unsupported_archive_suffix` -/
def hasUnsupportedArchiveSuffix (name : String) : Bool :=
  setup.settings.unsupportedArchiveSuffixes.any (endsWithText (setup.letters.lower name))

def unsupportedArchiveIssue (relativePath name : String) : ScanIssue where
  relativePath := relativePath
  kind := "unsupported_archive_type"
  message := "Archive inspection supports ZIP only in this phase; skipping archive-style file " ++
    setup.repr name ++ "."

/-- One turn of the loop of `scanned_tree_files`, for a file that is not excluded. -/
def scanTreeFile (candidate : TreeFile Bytes) (state : ArchiveScanState Bytes) : ScanResult Bytes :=
  let path := PosixPath.parse candidate.relativePath
  let state := state.addFile (filesystemFile setup candidate)
  if setup.letters.lower path.suffix ∈ setup.settings.supportedArchiveSuffixes then
    scanZipFile setup candidate.contents
      ⟨candidate.relativePath, nonblank_of_cleanPath candidate.clean⟩ 0 state
  else if hasUnsupportedArchiveSuffix setup path.name then
    (none, state.addIssue (unsupportedArchiveIssue setup candidate.relativePath path.name))
  else (none, state)

/-- The loop of `scanned_tree_files`, which an `OSError` ends. -/
def scanTreeFiles (excluded : List String) :
    List (TreeFile Bytes) → ArchiveScanState Bytes → ScanResult Bytes
  | [], state => (none, state)
  | candidate :: candidates, state =>
      if candidate.resolvedPath ∈ excluded then scanTreeFiles excluded candidates state
      else
        match scanTreeFile setup candidate state with
        | (none, state) => scanTreeFiles excluded candidates state
        | (some error, state) => (some error, state)

/-- `scanned_tree_files`, with archives inspected. -/
def scannedTreeFiles (excluded : List String) (candidates : List (TreeFile Bytes)) :
    ScanResult Bytes :=
  scanTreeFiles setup excluded candidates ArchiveScanState.initial

/-! ## Limits and accounting -/

/-- A member of an archive that the scan has opened. -/
structure OpenedMember (Bytes : Type) where
  archivePath : ArchivePath
  handle : Bytes
  info : ZipInfo

/-- The members of an opened archive that are not directories. -/
def membersOf (path : ArchivePath) (handle : Bytes) (infolist : List ZipInfo) :
    List (OpenedMember Bytes) :=
  (infolist.filter (fun member => !member.isDir)).map (fun member => ⟨path, handle, member⟩)

def openedMembers (state : ArchiveScanState Bytes) : List (OpenedMember Bytes) :=
  state.opened.flatMap (fun archive => membersOf archive.path archive.handle archive.infolist)

/-- The scanned files that are members of archives. -/
def memberFiles (state : ArchiveScanState Bytes) : List SizedFile :=
  state.files.filter (fun file => file.archiveMemberPath ≠ "")

/-- An issue names the member, or the archive that it is in. -/
def CoveredBy (issues : List ScanIssue) (member : OpenedMember Bytes) : Prop :=
  ∃ issue ∈ issues, issue.relativePath = member.archivePath.text ∨
    ∃ path, sanitizeArchiveMemberPath member.info.filename = some path ∧
      issue.relativePath = (memberPath member.archivePath path.text).text

/-- A file is the record of a member: its path, its payload and its declared size. -/
structure RecordedAs (member : OpenedMember Bytes) (file : SizedFile) : Prop where
  source : file.archiveSourcePath = member.archivePath.text
  name : (sanitizeArchiveMemberPath member.info.filename).map PosixPath.text =
    some file.archiveMemberPath
  path : file.relativePath = (memberPath member.archivePath file.archiveMemberPath).text
  payload : ∃ payload, setup.zip.read member.handle member.info = .ok payload ∧
    file.sha256 = setup.zip.sha256 payload
  size : file.sizeBytes = member.info.fileSize

/-- Every opened member but the pending ones is recorded, as one file of its own, or covered. -/
def Accounted (pending : List (OpenedMember Bytes)) (state : ArchiveScanState Bytes) : Prop :=
  ∃ recorded covered, (openedMembers state).Perm (recorded ++ covered ++ pending) ∧
    List.Forall₂ (RecordedAs setup) recorded (memberFiles state) ∧
      ∀ member ∈ covered, CoveredBy state.issues member

/-- The budget has never been above its limits, and no archive was opened too deep. -/
structure WithinLimits (state : ArchiveScanState Bytes) : Prop where
  current : state.budget ∈ state.budgets
  budgets : ∀ budget ∈ state.budgets,
    budget.memberCount ≤ setup.settings.maxArchiveMemberCount ∧
      budget.expandedBytes ≤ setup.settings.maxArchiveTotalExpandedBytes
  depths : ∀ archive ∈ state.opened, archive.depth ≤ setup.settings.maxArchiveDepth

variable {setup}

/-! ## What the single steps keep -/

lemma CoveredBy.mono {issues issues' : List ScanIssue} {member : OpenedMember Bytes}
    (h : CoveredBy issues member) (hsub : issues ⊆ issues') : CoveredBy issues' member := by
  rcases h with ⟨issue, hissue, hpath⟩
  exact ⟨issue, hsub hissue, hpath⟩

lemma WithinLimits.addIssue {state : ArchiveScanState Bytes} (h : WithinLimits setup state)
    (issue : ScanIssue) : WithinLimits setup (state.addIssue issue) :=
  ⟨h.current, h.budgets, h.depths⟩

lemma WithinLimits.addFile {state : ArchiveScanState Bytes} (h : WithinLimits setup state)
    (file : SizedFile) : WithinLimits setup (state.addFile file) :=
  ⟨h.current, h.budgets, h.depths⟩

lemma WithinLimits.setBudget {state : ArchiveScanState Bytes} (h : WithinLimits setup state)
    {budget : ArchiveBudget} (hcount : budget.memberCount ≤ setup.settings.maxArchiveMemberCount)
    (hbytes : budget.expandedBytes ≤ setup.settings.maxArchiveTotalExpandedBytes) :
    WithinLimits setup (state.setBudget budget) := by
  refine ⟨List.mem_append_right _ List.mem_cons_self, fun other hother => ?_, h.depths⟩
  rcases List.mem_append.1 hother with hother | hother
  · exact h.budgets other hother
  · rw [List.mem_singleton] at hother
    rw [hother]
    exact ⟨hcount, hbytes⟩

lemma WithinLimits.openArchive {state : ArchiveScanState Bytes} (h : WithinLimits setup state)
    {archive : OpenedArchive Bytes} (hdepth : archive.depth ≤ setup.settings.maxArchiveDepth) :
    WithinLimits setup (state.openArchive archive) := by
  refine ⟨h.current, h.budgets, fun other hother => ?_⟩
  rcases List.mem_append.1 hother with hother | hother
  · exact h.depths other hother
  · rw [List.mem_singleton] at hother
    rw [hother]
    exact hdepth

/-- An issue may settle pending members that it covers. -/
lemma Accounted.addIssue {settled pending : List (OpenedMember Bytes)}
    {state : ArchiveScanState Bytes} (h : Accounted setup (settled ++ pending) state)
    {issue : ScanIssue} (hcovers : ∀ member ∈ settled, CoveredBy [issue] member) :
    Accounted setup pending (state.addIssue issue) := by
  rcases h with ⟨recorded, covered, hperm, hfiles, hcovered⟩
  refine ⟨recorded, covered ++ settled, ?_, hfiles, fun member hmember => ?_⟩
  · have hassoc : recorded ++ (covered ++ settled) ++ pending =
        recorded ++ covered ++ (settled ++ pending) := by simp only [List.append_assoc]
    rw [hassoc]
    exact hperm
  · rcases List.mem_append.1 hmember with hmember | hmember
    · exact (hcovered member hmember).mono (List.subset_append_left _ _)
    · exact (hcovers member hmember).mono (List.subset_append_right _ _)

/-- An issue on an archive settles all members of the archive. -/
lemma Accounted.addArchiveIssue {settled pending : List (OpenedMember Bytes)}
    {state : ArchiveScanState Bytes} (h : Accounted setup (settled ++ pending) state)
    {issue : ScanIssue} {path : ArchivePath} (hissue : issue.relativePath = path.text)
    (hsettled : ∀ member ∈ settled, member.archivePath = path) :
    Accounted setup pending (state.addIssue issue) := by
  refine h.addIssue (fun member hmember => ⟨issue, List.mem_cons_self, Or.inl ?_⟩)
  rw [hissue, hsettled member hmember]

lemma Accounted.addOtherIssue {pending : List (OpenedMember Bytes)} {state : ArchiveScanState Bytes}
    (h : Accounted setup pending state) (issue : ScanIssue) :
    Accounted setup pending (state.addIssue issue) := by
  have hnone : Accounted setup ([] ++ pending) state := h
  exact hnone.addIssue (fun _ hmember => absurd hmember List.not_mem_nil)

/-- The file of the next pending member settles it. -/
lemma Accounted.addFile {member : OpenedMember Bytes} {pending : List (OpenedMember Bytes)}
    {state : ArchiveScanState Bytes} (h : Accounted setup (member :: pending) state)
    {file : SizedFile} (hfile : RecordedAs setup member file) (hmember : file.archiveMemberPath ≠ "") :
    Accounted setup pending (state.addFile file) := by
  rcases h with ⟨recorded, covered, hperm, hfiles, hcovered⟩
  refine ⟨recorded ++ [member], covered, hperm.trans ?_, ?_, hcovered⟩
  · -- The member moves from the head of the pending ones to the end of the recorded ones.
    rw [List.append_assoc, List.append_assoc, List.append_assoc]
    exact (@List.perm_middle _ _ covered _).append_left recorded
  · have hadded : memberFiles (state.addFile file) = memberFiles state ++ [file] := by
      simp [memberFiles, ArchiveScanState.addFile, hmember]
    rw [hadded]
    exact List.rel_append hfiles (List.Forall₂.cons hfile List.Forall₂.nil)

/-- A file of the tree settles no member. -/
lemma Accounted.addFilesystemFile {pending : List (OpenedMember Bytes)}
    {state : ArchiveScanState Bytes} (h : Accounted setup pending state)
    {file : SizedFile} (hfile : file.archiveMemberPath = "") :
    Accounted setup pending (state.addFile file) := by
  rcases h with ⟨recorded, covered, hperm, hfiles, hcovered⟩
  refine ⟨recorded, covered, hperm, ?_, hcovered⟩
  have hadded : memberFiles (state.addFile file) = memberFiles state := by
    simp [memberFiles, ArchiveScanState.addFile, hfile]
  rwa [hadded]

lemma Accounted.setBudget {pending : List (OpenedMember Bytes)} {state : ArchiveScanState Bytes}
    (h : Accounted setup pending state) (budget : ArchiveBudget) :
    Accounted setup pending (state.setBudget budget) := h

/-- Opening an archive makes its members pending. -/
lemma Accounted.openArchive {pending : List (OpenedMember Bytes)} {state : ArchiveScanState Bytes}
    (h : Accounted setup pending state) (archive : OpenedArchive Bytes) :
    Accounted setup (membersOf archive.path archive.handle archive.infolist ++ pending)
      (state.openArchive archive) := by
  rcases h with ⟨recorded, covered, hperm, hfiles, hcovered⟩
  refine ⟨recorded, covered, ?_, hfiles, hcovered⟩
  have hopened : openedMembers (state.openArchive archive) =
      openedMembers state ++ membersOf archive.path archive.handle archive.infolist := by
    simp [openedMembers, ArchiveScanState.openArchive]
  rw [hopened]
  refine (hperm.append_right _).trans ?_
  rw [List.append_assoc, List.append_assoc, List.append_assoc]
  exact (List.perm_append_comm.append_left covered).append_left recorded

lemma Accounted.perm {pending pending' : List (OpenedMember Bytes)}
    {state : ArchiveScanState Bytes} (h : Accounted setup pending state)
    (hpending : pending.Perm pending') : Accounted setup pending' state := by
  rcases h with ⟨recorded, covered, hperm, hfiles, hcovered⟩
  exact ⟨recorded, covered, hperm.trans (hpending.append_left _), hfiles, hcovered⟩

/-! ## What the scan of a member can do -/

lemma covered_of_resolve_error {member : ZipInfo} {archivePath : ArchivePath}
    {seenPaths : List String} {issue : ScanIssue}
    (h : resolveArchiveMember setup member archivePath seenPaths = .error issue) (handle : Bytes) :
    CoveredBy [issue] (⟨archivePath, handle, member⟩ : OpenedMember Bytes) := by
  refine ⟨issue, List.mem_cons_self, ?_⟩
  unfold resolveArchiveMember at h
  split at h
  · cases h
    exact Or.inl rfl
  · rename_i path hpath
    split_ifs at h
    cases h
    exact Or.inr ⟨path, hpath, rfl⟩

lemma resolve_ok {member : ZipInfo} {archivePath : ArchivePath} {seenPaths : List String}
    {resolved : ResolvedArchiveMember}
    (h : resolveArchiveMember setup member archivePath seenPaths = .ok resolved) :
    (sanitizeArchiveMemberPath member.filename).map PosixPath.text = some resolved.name ∧
      resolved.relativePath = memberPath archivePath resolved.name := by
  unfold resolveArchiveMember at h
  split at h
  · cases h
  · rename_i path hpath
    split_ifs at h
    cases h
    exact ⟨Option.map_eq_some_iff.2 ⟨path, hpath, rfl⟩, rfl⟩

/-- An issue of the limits names the archive if it ends the scan, and else the member. -/
lemma path_of_limits {member : ZipInfo} {archivePath : ArchivePath}
    {resolved : ResolvedArchiveMember} {budget : ArchiveBudget} {issue : ScanIssue} {goesOn : Bool}
    (h : handleArchiveMemberLimits setup member archivePath resolved budget =
      some (issue, goesOn)) :
    issue.relativePath = if goesOn then resolved.relativePath.text else archivePath.text := by
  unfold handleArchiveMemberLimits at h
  split_ifs at h <;> cases h <;> rfl

lemma room_of_limits {member : ZipInfo} {archivePath : ArchivePath}
    {resolved : ResolvedArchiveMember} {budget : ArchiveBudget}
    (h : handleArchiveMemberLimits setup member archivePath resolved budget = none) :
    budget.memberCount < setup.settings.maxArchiveMemberCount := by
  unfold handleArchiveMemberLimits at h
  split_ifs at h with hcount
  exact not_le.1 hcount

/-- The state after a member of the given size is charged to the budget. -/
def charged (state : ArchiveScanState Bytes) (size : Nat) : ArchiveScanState Bytes :=
  (state.setBudget ⟨state.budget.expandedBytes + size, state.budget.memberCount⟩).setBudget
    ⟨state.budget.expandedBytes + size, state.budget.memberCount + 1⟩

/-- The budget has room for one more member, of the given size. -/
def HasRoom (setup : ScanSetup Bytes) (state : ArchiveScanState Bytes) (size : Nat) : Prop :=
  state.budget.memberCount < setup.settings.maxArchiveMemberCount ∧
    state.budget.expandedBytes + size ≤ setup.settings.maxArchiveTotalExpandedBytes

/-- The extraction root refuses a file. -/
def Unwritable (setup : ScanSetup Bytes) : Prop := ∃ path, setup.writable path = false

lemma unwritable_of_write {path : ArchivePath} {payload : Bytes}
    (h : writeExtractedFile setup path payload = none) : Unwritable setup := by
  unfold writeExtractedFile at h
  dsimp only at h
  split_ifs at h with hwritable
  exact ⟨_, Bool.eq_false_iff.2 hwritable⟩

/-- What reading a member can come to.  Only the last four cases charge the budget, and they have room
for it. -/
inductive ReadStep (nested : Bytes → ArchivePath → ArchiveScanState Bytes → ScanResult Bytes)
    (handle : Bytes) (member : ZipInfo) (archivePath : ArchivePath)
    (resolved : ResolvedArchiveMember) (state : ArchiveScanState Bytes) :
    MemberEnd × ArchiveScanState Bytes → Prop
  | skipped (issue : ScanIssue) (hpath : issue.relativePath = resolved.relativePath.text) :
      ReadStep nested handle member archivePath resolved state
        (.returns true, state.addIssue issue)
  | stopped (issue : ScanIssue) (hpath : issue.relativePath = archivePath.text) :
      ReadStep nested handle member archivePath resolved state
        (.returns false, state.addIssue issue)
  | bad : ReadStep nested handle member archivePath resolved state (.raises .badZipFile, state)
  | unwritable (hroom : HasRoom setup state member.fileSize) (hfull : Unwritable setup) :
      ReadStep nested handle member archivePath resolved state
        (.raises .osError, charged state member.fileSize)
  | recorded (payload : Bytes) (file : SizedFile) (hroom : HasRoom setup state member.fileSize)
      (hread : setup.zip.read handle member = .ok payload)
      (hfile : recordArchiveMember setup archivePath resolved payload = some file) :
      ReadStep nested handle member archivePath resolved state
        (.returns true, (charged state member.fileSize).addFile file)
  | nestedReturns (payload : Bytes) (file : SizedFile) (state' : ArchiveScanState Bytes)
      (hroom : HasRoom setup state member.fileSize)
      (hread : setup.zip.read handle member = .ok payload)
      (hfile : recordArchiveMember setup archivePath resolved payload = some file)
      (hnested : nested payload resolved.relativePath
        ((charged state member.fileSize).addFile file) = (none, state')) :
      ReadStep nested handle member archivePath resolved state (.returns true, state')
  | nestedRaises (payload : Bytes) (file : SizedFile) (error : ReadError)
      (state' : ArchiveScanState Bytes) (hroom : HasRoom setup state member.fileSize)
      (hread : setup.zip.read handle member = .ok payload)
      (hfile : recordArchiveMember setup archivePath resolved payload = some file)
      (hnested : nested payload resolved.relativePath
        ((charged state member.fileSize).addFile file) = (some error, state')) :
      ReadStep nested handle member archivePath resolved state (.raises error, state')

lemma readArchiveMember_step
    (nested : Bytes → ArchivePath → ArchiveScanState Bytes → ScanResult Bytes) (handle : Bytes)
    (member : ZipInfo) (archivePath : ArchivePath) (resolved : ResolvedArchiveMember)
    (state : ArchiveScanState Bytes) :
    @ReadStep _ setup nested handle member archivePath resolved state
      (readArchiveMember setup nested handle member archivePath resolved state) := by
  unfold readArchiveMember
  split
  · rename_i issue goesOn hlimits
    have hpath := path_of_limits hlimits
    cases goesOn with
    | true => exact .skipped issue hpath
    | false => exact .stopped issue hpath
  · rename_i hlimits
    have hcount := room_of_limits hlimits
    dsimp only
    split_ifs with hbytes
    · exact .stopped _ rfl
    have hroom : HasRoom setup state member.fileSize := ⟨hcount, not_lt.1 hbytes⟩
    split
    · exact .skipped _ rfl
    · exact .bad
    · rename_i payload hread
      split
      · rename_i hnone
        exact .unwritable hroom (unwritable_of_write (Option.map_eq_none_iff.1 hnone))
      · rename_i file hfile
        split_ifs
        · split
          · rename_i state' hnested
            exact .nestedReturns payload file state' hroom hread hfile hnested
          · rename_i error state' hnested
            exact .nestedRaises payload file error state' hroom hread hfile hnested
        · exact .recorded payload file hroom hread hfile

lemma recordedAs_of_record {handle payload : Bytes} {member : ZipInfo} {archivePath : ArchivePath}
    {resolved : ResolvedArchiveMember} {file : SizedFile}
    (hname : (sanitizeArchiveMemberPath member.filename).map PosixPath.text = some resolved.name)
    (hpath : resolved.relativePath = memberPath archivePath resolved.name)
    (hread : setup.zip.read handle member = .ok payload)
    (hfile : recordArchiveMember setup archivePath resolved payload = some file) :
    RecordedAs setup ⟨archivePath, handle, member⟩ file ∧ file.archiveMemberPath ≠ "" := by
  rcases Option.map_eq_some_iff.1 hfile with ⟨extractedPath, _, rfl⟩
  refine ⟨⟨rfl, hname, ?_, ⟨payload, hread, rfl⟩, ?_⟩, nonblank_of_cleanPath resolved.clean⟩
  · exact congrArg ArchivePath.text hpath
  · exact setup.zip.declared handle member payload hread

lemma WithinLimits.charged {state : ArchiveScanState Bytes} {size : Nat}
    (h : WithinLimits setup state) (hroom : HasRoom setup state size) :
    WithinLimits setup (charged state size) := by
  apply WithinLimits.setBudget
  · apply h.setBudget
    · exact hroom.1.le
    · exact hroom.2
  · exact hroom.1
  · exact hroom.2

/-! ## What a whole scan keeps -/

/-- A scan that returns has settled all members but the pending ones.  It raises no `BadZipFile`, and
`OSError` only for a file that cannot be written. -/
structure Settled (setup : ScanSetup Bytes) (pending : List (OpenedMember Bytes))
    (result : ScanResult Bytes) : Prop where
  limits : WithinLimits setup result.2
  accounted : result.1 = none → Accounted setup pending result.2
  caught : result.1 ≠ some .badZipFile
  failed : result.1 = some .osError → Unwritable setup

/-- A scan of an opened archive may also raise `BadZipFile`, and leave members of the archive. -/
structure HandleSettled (setup : ScanSetup Bytes) (path : ArchivePath)
    (pending : List (OpenedMember Bytes)) (result : ScanResult Bytes) : Prop where
  limits : WithinLimits setup result.2
  accounted : result.1 = none → Accounted setup pending result.2
  left : result.1 = some .badZipFile →
    ∃ rest, (∀ member ∈ rest, member.archivePath = path) ∧ Accounted setup (rest ++ pending) result.2
  failed : result.1 = some .osError → Unwritable setup

/-- A scan of nested payloads that settles what it opens. -/
def Settles (setup : ScanSetup Bytes)
    (nested : Bytes → ArchivePath → ArchiveScanState Bytes → ScanResult Bytes) : Prop :=
  ∀ payload path pending state, WithinLimits setup state → Accounted setup pending state →
    Settled setup pending (nested payload path state)

/-- The same of a scan of opened archives, whose members are pending when it starts. -/
def SettlesOpened (setup : ScanSetup Bytes)
    (scan : Bytes → List ZipInfo → ArchivePath → ArchiveScanState Bytes → ScanResult Bytes) : Prop :=
  ∀ handle infolist path pending state, WithinLimits setup state →
    Accounted setup (membersOf path handle infolist ++ pending) state →
      HandleSettled setup path pending (scan handle infolist path state)

lemma membersOf_path {path : ArchivePath} {handle : Bytes} {infolist : List ZipInfo}
    {member : OpenedMember Bytes} (h : member ∈ membersOf path handle infolist) :
    member.archivePath = path := by
  rcases List.mem_map.1 h with ⟨_, _, rfl⟩
  rfl

lemma membersOf_cons_dir {path : ArchivePath} {handle : Bytes} {member : ZipInfo}
    {members : List ZipInfo} (h : member.isDir = true) :
    membersOf path handle (member :: members) = membersOf path handle members := by
  simp [membersOf, h]

lemma membersOf_cons {path : ArchivePath} {handle : Bytes} {member : ZipInfo}
    {members : List ZipInfo} (h : member.isDir = false) :
    membersOf path handle (member :: members) =
      ⟨path, handle, member⟩ :: membersOf path handle members := by
  simp [membersOf, h]

/-- What the scan of a member leaves: the other members of the archive if it goes on, no member of the
archive if it stops, and the member too if `BadZipFile` is raised. -/
structure StepSettled (setup : ScanSetup Bytes) (member : OpenedMember Bytes)
    (rest pending : List (OpenedMember Bytes)) (result : MemberEnd × ArchiveScanState Bytes) :
    Prop where
  limits : WithinLimits setup result.2
  goesOn : result.1 = .returns true → Accounted setup (rest ++ pending) result.2
  stops : result.1 = .returns false → Accounted setup pending result.2
  left : result.1 = .raises .badZipFile → Accounted setup (member :: rest ++ pending) result.2
  failed : result.1 = .raises .osError → Unwritable setup

lemma StepSettled.of_goesOn {member : OpenedMember Bytes} {rest pending : List (OpenedMember Bytes)}
    {state : ArchiveScanState Bytes} (hlimits : WithinLimits setup state)
    (haccounted : Accounted setup (rest ++ pending) state) :
    StepSettled setup member rest pending (.returns true, state) :=
  ⟨hlimits, fun _ => haccounted, fun h => (by cases h), fun h => (by cases h),
    fun h => (by cases h)⟩

lemma StepSettled.of_osError {member : OpenedMember Bytes} {rest pending : List (OpenedMember Bytes)}
    {state : ArchiveScanState Bytes} (hlimits : WithinLimits setup state)
    (hfull : Unwritable setup) : StepSettled setup member rest pending (.raises .osError, state) :=
  ⟨hlimits, fun h => (by cases h), fun h => (by cases h), fun h => (by cases h), fun _ => hfull⟩

lemma readArchiveMember_settled
    {nested : Bytes → ArchivePath → ArchiveScanState Bytes → ScanResult Bytes}
    (hnested : Settles setup nested) {handle : Bytes} {member : ZipInfo} {path : ArchivePath}
    {resolved : ResolvedArchiveMember} {rest pending : List (OpenedMember Bytes)}
    {state : ArchiveScanState Bytes}
    (hname : (sanitizeArchiveMemberPath member.filename).map PosixPath.text = some resolved.name)
    (hpath : resolved.relativePath = memberPath path resolved.name)
    (hrest : ∀ m ∈ rest, m.archivePath = path) (hlimits : WithinLimits setup state)
    (haccounted : Accounted setup (⟨path, handle, member⟩ :: rest ++ pending) state) :
    StepSettled setup ⟨path, handle, member⟩ rest pending
      (readArchiveMember setup nested handle member path resolved state) := by
  -- Once the budget is charged, the member is pending still, and its record settles it.
  have hfiled : ∀ payload file, HasRoom setup state member.fileSize →
      setup.zip.read handle member = .ok payload →
        recordArchiveMember setup path resolved payload = some file →
          WithinLimits setup ((charged state member.fileSize).addFile file) ∧
            Accounted setup (rest ++ pending) ((charged state member.fileSize).addFile file) := by
    intro payload file hroom hread hfile
    rcases recordedAs_of_record hname hpath hread hfile with ⟨hrecord, hmember⟩
    have hcharged : Accounted setup (⟨path, handle, member⟩ :: (rest ++ pending))
        (charged state member.fileSize) := (haccounted.setBudget _).setBudget _
    exact ⟨(hlimits.charged hroom).addFile file, hcharged.addFile hrecord hmember⟩
  have hstep := @readArchiveMember_step _ setup nested handle member path resolved state
  generalize readArchiveMember setup nested handle member path resolved state = result at hstep ⊢
  cases hstep with
  | skipped issue hissue =>
      apply StepSettled.of_goesOn (hlimits.addIssue issue)
      refine @Accounted.addIssue _ _ [⟨path, handle, member⟩] _ _ haccounted _ ?_
      intro m hm
      rw [List.mem_singleton] at hm
      rcases Option.map_eq_some_iff.1 hname with ⟨memberName, hsanitized, htext⟩
      refine ⟨issue, List.mem_cons_self, Or.inr ⟨memberName, ?_, ?_⟩⟩
      · rw [hm]
        exact hsanitized
      · rw [hissue, hpath, hm, htext]
  | stopped issue hissue =>
      refine ⟨hlimits.addIssue issue, fun h => (by cases h), fun _ => ?_, fun h => (by cases h),
        fun h => (by cases h)⟩
      refine Accounted.addArchiveIssue haccounted hissue (fun m hm => ?_)
      rcases List.mem_cons.1 hm with rfl | hm
      · rfl
      · exact hrest m hm
  | bad =>
      exact ⟨hlimits, fun h => (by cases h), fun h => (by cases h), fun _ => haccounted,
        fun h => (by cases h)⟩
  | unwritable hroom hfull => exact StepSettled.of_osError (hlimits.charged hroom) hfull
  | recorded payload file hroom hread hfile =>
      rcases hfiled payload file hroom hread hfile with ⟨hlimits, haccounted⟩
      exact StepSettled.of_goesOn hlimits haccounted
  | nestedReturns payload file state' hroom hread hfile hreturns =>
      rcases hfiled payload file hroom hread hfile with ⟨hlimits, haccounted⟩
      have hsettled := hnested payload resolved.relativePath _ _ hlimits haccounted
      rw [hreturns] at hsettled
      exact StepSettled.of_goesOn hsettled.limits (hsettled.accounted rfl)
  | nestedRaises payload file error state' hroom hread hfile hraises =>
      rcases hfiled payload file hroom hread hfile with ⟨hlimits, haccounted⟩
      have hsettled := hnested payload resolved.relativePath _ _ hlimits haccounted
      rw [hraises] at hsettled
      cases error with
      | osError => exact StepSettled.of_osError hsettled.limits (hsettled.failed rfl)
      | badZipFile => exact absurd rfl hsettled.caught

/-- The members are settled one after the other, until the scan stops or raises. -/
lemma scanMembers_settled
    {nested : Bytes → ArchivePath → ArchiveScanState Bytes → ScanResult Bytes}
    (hnested : Settles setup nested) (handle : Bytes) (path : ArchivePath)
    (pending : List (OpenedMember Bytes)) (members : List ZipInfo) (seenPaths : List String)
    (state : ArchiveScanState Bytes) (hlimits : WithinLimits setup state)
    (haccounted : Accounted setup (membersOf path handle members ++ pending) state) :
    HandleSettled setup path pending
      (scanMembers setup nested handle path members seenPaths state) := by
  induction members generalizing seenPaths state with
  | nil => exact ⟨hlimits, fun _ => haccounted, fun h => (by cases h), fun h => (by cases h)⟩
  | cons member members ih =>
      rw [scanMembers]
      split_ifs with hdir
      · rw [membersOf_cons_dir hdir] at haccounted
        exact ih seenPaths state hlimits haccounted
      rw [membersOf_cons (Bool.eq_false_iff.2 hdir)] at haccounted
      split
      · rename_i issue hresolve
        refine ih seenPaths _ (hlimits.addIssue issue) ?_
        refine @Accounted.addIssue _ _ [⟨path, handle, member⟩] _ _ haccounted _ ?_
        intro m hm
        rw [List.mem_singleton] at hm
        rw [hm]
        exact covered_of_resolve_error hresolve handle
      · rename_i resolved hresolve
        rcases resolve_ok hresolve with ⟨hname, hpath⟩
        have hsettled := readArchiveMember_settled hnested hname hpath
          (fun m => membersOf_path) hlimits haccounted
        split
        · rename_i state' hread
          rw [hread] at hsettled
          exact ih _ _ hsettled.limits (hsettled.goesOn rfl)
        · rename_i state' hread
          rw [hread] at hsettled
          exact ⟨hsettled.limits, fun _ => hsettled.stops rfl, fun h => (by cases h),
            fun h => (by cases h)⟩
        · rename_i error state' hread
          rw [hread] at hsettled
          refine ⟨hsettled.limits, fun h => (by cases h), fun h => ?_, fun h => ?_⟩
          · cases h
            refine ⟨⟨path, handle, member⟩ :: membersOf path handle members, fun m hm => ?_,
              hsettled.left rfl⟩
            rcases List.mem_cons.1 hm with rfl | hm
            · rfl
            · exact membersOf_path hm
          · cases h
            exact hsettled.failed rfl

/-- The issue on a bad archive settles what its scan has left. -/
lemma scanOpened_settled
    {scan : Bytes → List ZipInfo → ArchivePath → ArchiveScanState Bytes → ScanResult Bytes}
    (hscan : SettlesOpened setup scan) {depth : Nat}
    (hdepth : depth ≤ setup.settings.maxArchiveDepth) (subject : String) :
    Settles setup (scanOpened setup scan depth subject) := by
  intro archive path pending state hlimits haccounted
  rw [scanOpened]
  split
  · refine ⟨hlimits.addIssue _, fun _ => ?_, fun h => (by cases h), fun h => (by cases h)⟩
    exact haccounted.addOtherIssue _
  · rename_i infolist _
    have hopened : WithinLimits setup (state.openArchive ⟨path, archive, depth, infolist⟩) :=
      hlimits.openArchive hdepth
    have hsettled := hscan archive infolist path pending _ hopened
      (haccounted.openArchive ⟨path, archive, depth, infolist⟩)
    split
    · rename_i state' hbad
      rw [hbad] at hsettled
      rcases hsettled.left rfl with ⟨rest, hrest, hleft⟩
      refine ⟨hsettled.limits.addIssue _, fun _ => ?_, fun h => (by cases h), fun h => (by cases h)⟩
      exact hleft.addArchiveIssue rfl hrest
    · rename_i result hnot
      exact ⟨hsettled.limits, hsettled.accounted, fun h => hnot _ (Prod.ext h rfl), hsettled.failed⟩

lemma scanNestedZipBytes_settled
    {scan : Bytes → List ZipInfo → ArchivePath → ArchiveScanState Bytes → ScanResult Bytes}
    (hscan : SettlesOpened setup scan) {depth : Nat}
    (hdepth : depth ≤ setup.settings.maxArchiveDepth) :
    Settles setup (scanNestedZipBytes setup scan depth) := by
  intro payload path pending state hlimits haccounted
  rw [scanNestedZipBytes]
  split_ifs
  · refine ⟨hlimits.addIssue _, fun _ => ?_, fun h => (by cases h), fun h => (by cases h)⟩
    exact haccounted.addOtherIssue _
  · split
    · rename_i hnone
      exact ⟨hlimits, fun h => (by cases h), fun h => (by cases h),
        fun _ => unwritable_of_write hnone⟩
    · exact scanOpened_settled hscan hdepth _ payload path pending state hlimits haccounted

/-- Opened archives are settled at every depth.  The induction is on the depth that is left. -/
theorem scanZipHandle_settled (setup : ScanSetup Bytes) (depth : Nat) :
    SettlesOpened setup (scanZipHandle setup depth) := by
  induction hleft : setup.settings.maxArchiveDepth - depth generalizing depth with
  | zero =>
      intro handle infolist path pending state hlimits haccounted
      rw [scanZipHandle, dif_pos (Nat.sub_eq_zero_iff_le.1 hleft)]
      refine ⟨hlimits.addIssue _, fun _ => ?_, fun h => (by cases h), fun h => (by cases h)⟩
      exact haccounted.addArchiveIssue rfl (fun m hm => membersOf_path hm)
  | succ left ih =>
      intro handle infolist path pending state hlimits haccounted
      have hdepth : depth + 1 ≤ setup.settings.maxArchiveDepth := by omega
      rw [scanZipHandle, dif_neg (by omega)]
      have hnested := scanNestedZipBytes_settled (ih (depth + 1) (by omega)) hdepth
      apply scanMembers_settled hnested handle path pending _ _ _ hlimits
      -- The members are scanned in the order of their names.
      refine haccounted.perm (List.Perm.append_right _ ?_)
      exact (((sortedOn_perm ZipInfo.filename infolist).filter _).map _).symm

lemma scanZipFile_settled {archive : Bytes} {path : ArchivePath}
    {pending : List (OpenedMember Bytes)} {state : ArchiveScanState Bytes}
    (hlimits : WithinLimits setup state) (haccounted : Accounted setup pending state) :
    Settled setup pending (scanZipFile setup archive path 0 state) := by
  rw [scanZipFile]
  split_ifs
  · refine ⟨hlimits.addIssue _, fun _ => ?_, fun h => (by cases h), fun h => (by cases h)⟩
    exact haccounted.addOtherIssue _
  · exact scanOpened_settled (scanZipHandle_settled setup 0) (Nat.zero_le _) _ archive path pending
      state hlimits haccounted

lemma scanTreeFile_settled (candidate : TreeFile Bytes) {state : ArchiveScanState Bytes}
    (hlimits : WithinLimits setup state) (haccounted : Accounted setup [] state) :
    Settled setup [] (scanTreeFile setup candidate state) := by
  have hlimits' := hlimits.addFile (filesystemFile setup candidate)
  have haccounted' : Accounted setup [] (state.addFile (filesystemFile setup candidate)) :=
    haccounted.addFilesystemFile rfl
  rw [scanTreeFile]
  split_ifs
  · exact scanZipFile_settled hlimits' haccounted'
  · refine ⟨hlimits'.addIssue _, fun _ => ?_, fun h => (by cases h), fun h => (by cases h)⟩
    exact haccounted'.addOtherIssue _
  · exact ⟨hlimits', fun _ => haccounted', fun h => (by cases h), fun h => (by cases h)⟩

lemma scanTreeFiles_settled (excluded : List String) (candidates : List (TreeFile Bytes))
    {state : ArchiveScanState Bytes} (hlimits : WithinLimits setup state)
    (haccounted : Accounted setup [] state) :
    Settled setup [] (scanTreeFiles setup excluded candidates state) := by
  induction candidates generalizing state with
  | nil => exact ⟨hlimits, fun _ => haccounted, fun h => (by cases h), fun h => (by cases h)⟩
  | cons candidate candidates ih =>
      rw [scanTreeFiles]
      split_ifs
      · exact ih hlimits haccounted
      have hsettled := scanTreeFile_settled candidate hlimits haccounted
      split
      · rename_i state' hscan
        rw [hscan] at hsettled
        exact ih hsettled.limits (hsettled.accounted rfl)
      · rename_i error state' hscan
        rw [hscan] at hsettled
        exact ⟨hsettled.limits, fun h => (by cases h), hsettled.caught, hsettled.failed⟩

lemma initial_withinLimits : WithinLimits setup (ArchiveScanState.initial : ArchiveScanState Bytes) := by
  refine ⟨List.mem_cons_self, fun budget hbudget => ?_, fun _ h => absurd h List.not_mem_nil⟩
  rw [ArchiveScanState.initial, List.mem_singleton] at hbudget
  rw [hbudget]
  exact ⟨Nat.zero_le _, Nat.zero_le _⟩

lemma initial_accounted :
    Accounted setup [] (ArchiveScanState.initial : ArchiveScanState Bytes) :=
  ⟨[], [], List.Perm.refl _, List.Forall₂.nil, fun _ h => absurd h List.not_mem_nil⟩

/-- A scan of a tree stays within its limits.  It comes to an end if the extraction root takes all
files, and then every member of every opened archive is recorded, as one file of its own, or covered by
an issue. -/
theorem scannedTreeFiles_accounted (setup : ScanSetup Bytes) (excluded : List String)
    (candidates : List (TreeFile Bytes)) :
    WithinLimits setup (scannedTreeFiles setup excluded candidates).2 ∧
      ((∀ path, setup.writable path = true) →
        (scannedTreeFiles setup excluded candidates).1 = none) ∧
        ((scannedTreeFiles setup excluded candidates).1 = none →
          Accounted setup [] (scannedTreeFiles setup excluded candidates).2) := by
  have hsettled := scanTreeFiles_settled excluded candidates
    (@initial_withinLimits _ setup) initial_accounted
  refine ⟨hsettled.limits, fun hwritable => ?_, hsettled.accounted⟩
  cases hresult : (scannedTreeFiles setup excluded candidates).1 with
  | none => rfl
  | some error =>
      cases error with
      | osError =>
          rcases hsettled.failed hresult with ⟨path, hpath⟩
          rw [hwritable path] at hpath
          cases hpath
      | badZipFile => exact absurd hresult hsettled.caught

end Scan

/-- An archive whose only member is the archive itself. -/
def selfContaining : ZipReader Unit where
  size _ := 440
  sha256 _ := "c0ffee"
  infolist _ := some [⟨"r.zip", 0, 8, 0, 440⟩]
  read _ member := if member.fileSize = 440 then .ok () else .error .badZipFile
  declared := by
    intro _ member _ h
    by_contra hne
    rw [if_neg (fun heq => hne heq.symm)] at h
    cases h

def selfContainingSetup : ScanSetup Unit where
  zip := selfContaining
  letters := ⟨id, fun _ h => h, fun _ h => h⟩
  repr := fun text => "'" ++ text ++ "'"
  settings := scannedTreeSettings
  extractedRoot := "/tmp/extracted"
  writable := fun _ => true

/-- Its scan comes to an end. -/
theorem selfContaining_scanned :
    (scannedTreeFiles selfContainingSetup [] [⟨"r.zip", "/in/r.zip", "/in/r.zip", (),
      by decide⟩]).1 = none :=
  (scannedTreeFiles_accounted selfContainingSetup [] [⟨"r.zip", "/in/r.zip", "/in/r.zip", (),
    by decide⟩]).2.1 (fun _ => rfl)

end Intake
end Tallylot
