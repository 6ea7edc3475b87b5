import Mathlib.Data.List.Infix
import Tallylot.Data.Delimited
import Tallylot.Data.Text
import Tallylot.Domain.Issues

/-!
# Provenance — references to places in a capture

A reference joins a path, an archive member and an anchor with `::` and `#`.  Reading it cuts at the
first `#` and then at the first `::`.  A locator is read back exactly when both are the ones that
were written (`Separable`); an archive in an archive has a `::` in its path, so its members are not.
-/

namespace Tallylot
namespace Domain

open Data

/-! ## Texts with an optional part -/

/-- `front`, with `delimiter` and `back` unless `back` is empty -/
def joinOptional (delimiter front back : String) : String :=
  if back = "" then front else front ++ delimiter ++ back

lemma joinOptional_left_inj {delimiter front front' back : String}
    (h : joinOptional delimiter front back = joinOptional delimiter front' back) : front = front' := by
  unfold joinOptional at h
  split_ifs at h
  · exact h
  · have hchars := congrArg String.toList h
    simp only [String.toList_append, List.append_cancel_right_eq] at hchars
    exact String.toList_inj.1 hchars

/-- The texts before and after the first delimiter, the second empty where there is none. -/
def cutText (delimiter text : String) : String × String :=
  match cut delimiter.toList text.toList with
  | none => (text, "")
  | some parts => (String.ofList parts.1, String.ofList parts.2)

section

variable {delimiter front back text : String} (hne : delimiter ≠ "")

include hne

lemma toList_ne_nil : delimiter.toList ≠ [] := fun h => hne (String.toList_eq_nil_iff.1 h)

lemma cutText_of_not_infix (h : ¬ delimiter.toList <:+: text.toList) :
    cutText delimiter text = (text, "") := by
  rw [cutText, (cut_eq_none_iff (toList_ne_nil hne)).2 h]

/-- Cutting loses the delimiter at most. -/
lemma of_cutText_eq (h : cutText delimiter text = (front, back)) :
    text = joinOptional delimiter front back ∨ (back = "" ∧ text = front ++ delimiter) := by
  unfold cutText at h
  cases hcut : cut delimiter.toList text.toList with
  | none =>
      rw [hcut] at h
      cases h
      exact .inl rfl
  | some parts =>
      rw [hcut] at h
      cases h
      have hparts := (@of_cut_eq_some _ _ _ (toList_ne_nil hne) _ parts.1 parts.2 hcut).1
      have htext : text = String.ofList parts.1 ++ delimiter ++ String.ofList parts.2 := by
        rw [← String.toList_inj, hparts]
        simp
      by_cases hback : String.ofList parts.2 = ""
      · exact .inr ⟨hback, by rw [htext, hback, String.append_empty]⟩
      · exact .inl (by rw [joinOptional, if_neg hback, htext])

/-- A text is cut into its parts exactly when no delimiter starts in the front. -/
lemma cutText_joinOptional_iff :
    cutText delimiter (joinOptional delimiter front back) = (front, back) ↔
      ¬ delimiter.toList <:+:
        front.toList ++ (if back = "" then [] else delimiter.toList.dropLast) := by
  unfold joinOptional
  split_ifs with hback
  · rw [List.append_nil, hback]
    refine ⟨fun h hinfix => ?_, cutText_of_not_infix hne⟩
    cases hcut : cut delimiter.toList front.toList with
    | none => exact (cut_eq_none_iff (toList_ne_nil hne)).1 hcut hinfix
    | some parts =>
        have hparts := (@of_cut_eq_some _ _ _ (toList_ne_nil hne) _ parts.1 parts.2 hcut).1
        rw [cutText, hcut] at h
        have hfront := congrArg String.toList (congrArg Prod.fst h)
        rw [String.toList_ofList] at hfront
        rw [hfront, List.append_assoc, List.self_eq_append_right, List.append_eq_nil_iff] at hparts
        exact toList_ne_nil hne hparts.1
  · rw [← @cut_append_iff _ _ _ (toList_ne_nil hne) front.toList back.toList, cutText]
    have hchars : (front ++ delimiter ++ back).toList =
        front.toList ++ delimiter.toList ++ back.toList := by simp
    rw [hchars]
    constructor
    · intro h
      cases hcut : cut delimiter.toList (front.toList ++ delimiter.toList ++ back.toList) with
      | none =>
          rw [hcut] at h
          exact absurd (congrArg Prod.snd h).symm hback
      | some parts =>
          rw [hcut] at h
          cases h
          simp
    · intro h
      rw [h]
      simp

end

/-! ## Locators -/

namespace ProvenanceLocator

/-- The constructor of `ProvenanceLocator`. -/
def create (locator : ProvenanceLocator) : Except String ProvenanceLocator :=
  if isBlank locator.relativePath then .error "relative_path must not be blank"
  else if isBlank locator.locatorKind then .error "locator_kind must not be blank"
  else .ok locator

/-- `from_reference_ref` -/
def fromReferenceRef (reference captureUid locatorKind : String) : Except String ProvenanceLocator :=
  let text := strip reference
  if text = "" then .error "reference must not be blank"
  else
    let (pathPart, anchor) := cutText "#" text
    let (relativePath, archiveMemberPath) := cutText "::" pathPart
    create ⟨captureUid, relativePath, archiveMemberPath, locatorKind, anchor⟩

/-- The path of a file and, in an archive, of its member. -/
def pathText (locator : ProvenanceLocator) : String :=
  joinOptional "::" locator.relativePath locator.archiveMemberPath

lemma toReferenceRef_eq (locator : ProvenanceLocator) :
    locator.toReferenceRef = joinOptional "#" locator.pathText locator.anchor := by
  unfold toReferenceRef pathText joinOptional
  split_ifs <;> simp [String.append_assoc]

lemma create_eq_ok_iff {locator built : ProvenanceLocator} :
    create locator = .ok built ↔
      isBlank locator.relativePath = false ∧ isBlank locator.locatorKind = false ∧
        locator = built := by
  unfold create
  split_ifs with hpath hkind <;> simp_all

lemma toReferenceRef_ne_blank {locator : ProvenanceLocator} (h : locator.create = .ok locator) :
    locator.toReferenceRef ≠ "" := by
  intro hempty
  have hpath : locator.relativePath = "" := by
    have hchars := congrArg String.toList hempty
    simp only [toReferenceRef, String.toList_append, List.append_eq_nil_iff, String.toList_empty]
      at hchars
    exact String.toList_eq_nil_iff.1 hchars.1.1
  have hblank := (create_eq_ok_iff.1 h).1
  rw [hpath] at hblank
  cases hblank

/-- No `#` in the paths, and no `::` that starts in the path of the file. -/
structure Separable (locator : ProvenanceLocator) : Prop where
  relativePath : '#' ∉ locator.relativePath.toList
  archiveMemberPath : '#' ∉ locator.archiveMemberPath.toList
  join : ¬ "::".toList <:+:
    locator.relativePath.toList ++ (if locator.archiveMemberPath = "" then [] else [':'])

lemma hash_notMem_pathText_iff {locator : ProvenanceLocator} :
    '#' ∉ locator.pathText.toList ↔
      '#' ∉ locator.relativePath.toList ∧ '#' ∉ locator.archiveMemberPath.toList := by
  unfold pathText joinOptional
  split_ifs with hmember
  · simp [hmember]
  · simp

lemma separable_iff {locator : ProvenanceLocator} :
    Separable locator ↔
      cutText "#" locator.toReferenceRef = (locator.pathText, locator.anchor) ∧
        cutText "::" locator.pathText = (locator.relativePath, locator.archiveMemberPath) := by
  have hanchor : cutText "#" locator.toReferenceRef = (locator.pathText, locator.anchor) ↔
      '#' ∉ locator.pathText.toList := by
    have hnothing : (if locator.anchor = "" then [] else "#".toList.dropLast) = [] := by
      split_ifs <;> rfl
    rw [toReferenceRef_eq, cutText_joinOptional_iff (by decide), hnothing, List.append_nil]
    exact not_congr (List.singleton_infix_iff '#' locator.pathText.toList)
  rw [hanchor, hash_notMem_pathText_iff, pathText, cutText_joinOptional_iff (by decide)]
  exact ⟨fun h => ⟨⟨h.1, h.2⟩, h.3⟩, fun h => ⟨h.1.1, h.1.2, h.2⟩⟩

lemma fromReferenceRef_eq {reference captureUid locatorKind : String} (hstripped : Stripped reference)
    (hne : reference ≠ "") :
    fromReferenceRef reference captureUid locatorKind =
      create ⟨captureUid, (cutText "::" (cutText "#" reference).1).1,
        (cutText "::" (cutText "#" reference).1).2, locatorKind, (cutText "#" reference).2⟩ := by
  unfold fromReferenceRef
  rw [hstripped]
  dsimp only
  rw [if_neg hne]

/-- What is read back from the parts was cut at the places where they were joined. -/
lemma cuts_of_parts {locator : ProvenanceLocator} {path : String}
    (hanchor : cutText "#" locator.toReferenceRef = (path, locator.anchor))
    (hmember : cutText "::" path = (locator.relativePath, locator.archiveMemberPath)) :
    path = locator.pathText := by
  have hreference := of_cutText_eq (by decide) hanchor
  rw [toReferenceRef_eq] at hreference
  rcases of_cutText_eq (by decide) hmember with hpath | ⟨hnone, hpath⟩
  · exact hpath
  · -- a delimiter without a member behind it would make the text longer than what was written
    exfalso
    have hwritten : locator.pathText = locator.relativePath := if_pos hnone
    rw [hwritten, hpath] at hreference
    rcases hreference with hjoin | ⟨hnothing, htext⟩
    · have hlength := congrArg String.length (joinOptional_left_inj hjoin)
      simp at hlength
    · have hlength := congrArg String.length htext
      have hmarks : "::".length + "#".length = 3 := by decide
      simp only [joinOptional, hnothing, if_true, String.length_append] at hlength
      omega

/-- A locator is read back from its reference exactly when the places where its parts are joined are
the first ones. -/
lemma fromReferenceRef_toReferenceRef_iff {locator : ProvenanceLocator}
    (h : locator.create = .ok locator) (hstripped : Stripped locator.toReferenceRef) :
    fromReferenceRef locator.toReferenceRef locator.captureUid locator.locatorKind = .ok locator ↔
      Separable locator := by
  rw [fromReferenceRef_eq hstripped (toReferenceRef_ne_blank h), create_eq_ok_iff, separable_iff]
  constructor
  · rintro ⟨_, _, hlocator⟩
    have hrelative := congrArg ProvenanceLocator.relativePath hlocator
    have hmember := congrArg ProvenanceLocator.archiveMemberPath hlocator
    have hanchor := congrArg ProvenanceLocator.anchor hlocator
    dsimp only at hrelative hmember hanchor
    have hpath := cuts_of_parts (Prod.ext rfl hanchor) (Prod.ext hrelative hmember)
    exact ⟨Prod.ext hpath hanchor, hpath ▸ Prod.ext hrelative hmember⟩
  · rintro ⟨hanchor, hmember⟩
    rw [hanchor, hmember]
    rcases create_eq_ok_iff.1 h with ⟨hpath, hkind, _⟩
    exact ⟨hpath, hkind, rfl⟩

/-- Separable locators are told apart by their references. -/
lemma eq_of_toReferenceRef_eq {locator other : ProvenanceLocator} (h : Separable locator)
    (hother : Separable other) (huid : locator.captureUid = other.captureUid)
    (hkind : locator.locatorKind = other.locatorKind)
    (hreference : locator.toReferenceRef = other.toReferenceRef) : locator = other := by
  rcases separable_iff.1 h with ⟨hanchor, hmember⟩
  rcases separable_iff.1 hother with ⟨hanchor', hmember'⟩
  rw [hreference, hanchor', Prod.mk.injEq] at hanchor
  rw [← hanchor.1, hmember', Prod.mk.injEq] at hmember
  cases locator
  cases other
  simp_all

/-- Exactly the separable locators are read back from their references, and these are distinct. -/
theorem provenance_reference_round_trip (locator : ProvenanceLocator) :
    (locator.create = .ok locator → Stripped locator.toReferenceRef →
      (fromReferenceRef locator.toReferenceRef locator.captureUid locator.locatorKind =
          .ok locator ↔
        Separable locator)) ∧
    (∀ other : ProvenanceLocator, Separable locator → Separable other →
      locator.captureUid = other.captureUid → locator.locatorKind = other.locatorKind →
      locator.toReferenceRef = other.toReferenceRef → locator = other) :=
  ⟨fun h hstripped => fromReferenceRef_toReferenceRef_iff h hstripped,
    fun _ h hother huid hkind hreference => eq_of_toReferenceRef_eq h hother huid hkind hreference⟩

/-! ## A document in an archive in an archive -/

def nestedDocument : ProvenanceLocator where
  captureUid := "01HV4A5H7VJH7M3Y5A6B7C8D9E"
  relativePath := "statements.zip::2024.zip"
  archiveMemberPath := "march.pdf"
  anchor := "page=2"

/-- The reference of the nested document names the member `2024.zip::march.pdf` of the outer archive. -/
theorem provenance_reference_not_read_back :
    ¬ ∀ locator : ProvenanceLocator, locator.create = .ok locator →
      Stripped locator.toReferenceRef →
      fromReferenceRef locator.toReferenceRef locator.captureUid locator.locatorKind =
        .ok locator := by
  intro h
  exact absurd (h nestedDocument (by decide +kernel) (by decide +kernel)) (by decide +kernel)

def archivedDocument : ProvenanceLocator where
  captureUid := "01HV4A5H7VJH7M3Y5A6B7C8D9E"
  relativePath := "statements.zip"
  archiveMemberPath := "2024::march.pdf"
  anchor := "page=2"

def looseDocument : ProvenanceLocator where
  captureUid := "01HV4A5H7VJH7M3Y5A6B7C8D9E"
  relativePath := "2024/march.pdf"
  archiveMemberPath := ""
  anchor := "page=2"

/-- A document of an archive is read back, and its reference is not that of a file beside it. -/
theorem archived_reference_read_back :
    fromReferenceRef archivedDocument.toReferenceRef archivedDocument.captureUid
        archivedDocument.locatorKind = .ok archivedDocument ∧
      archivedDocument.toReferenceRef ≠ looseDocument.toReferenceRef := by
  rcases provenance_reference_round_trip archivedDocument with ⟨hback, hdistinct⟩
  have harchived : Separable archivedDocument :=
    ⟨by decide +kernel, by decide +kernel, by decide +kernel⟩
  have hloose : Separable looseDocument := ⟨by decide +kernel, by decide +kernel, by decide +kernel⟩
  refine ⟨(hback (by decide +kernel) (by decide +kernel)).2 harchived, fun hsame => ?_⟩
  have hequal := hdistinct looseDocument harchived hloose rfl rfl hsame
  exact absurd hequal (by decide +kernel)

end ProvenanceLocator

end Domain
end Tallylot
