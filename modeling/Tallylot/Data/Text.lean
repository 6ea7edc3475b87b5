import Mathlib.Data.List.DropRight
import Mathlib.Data.String.Basic

/-!
# Text — white space

`str.strip()` removes Unicode white space at both ends, so a text strips to the empty one when it
has no other character.
-/

namespace Tallylot
namespace Data

instance lawfulBEq_listString : LawfulBEq (List String) := inferInstance

/-- The characters that `str.isspace` accepts. -/
def isSpaceChar (c : Char) : Bool :=
  (9 ≤ c.toNat && c.toNat ≤ 13) || (28 ≤ c.toNat && c.toNat ≤ 32) ||
    c.toNat ∈ [0x85, 0xa0, 0x1680, 0x2028, 0x2029, 0x202f, 0x205f, 0x3000] ||
    (0x2000 ≤ c.toNat && c.toNat ≤ 0x200a)

/-- No character between `!` and `~` is white space. -/
lemma not_isSpaceChar_of_visible {c : Char} (hleast : 33 ≤ c.toNat) (hmost : c.toNat ≤ 126) :
    isSpaceChar c = false := by
  simp only [isSpaceChar, List.mem_cons, List.not_mem_nil, or_false, Bool.or_eq_false_iff,
    Bool.and_eq_false_iff, decide_eq_false_iff_not]
  omega

lemma not_isSpaceChar_of_isDigit {c : Char} (h : c.isDigit = true) : isSpaceChar c = false := by
  simp only [Char.isDigit, Bool.and_eq_true, decide_eq_true_eq] at h
  have hleast : 48 ≤ c.toNat := h.1
  have hmost : c.toNat ≤ 57 := h.2
  exact not_isSpaceChar_of_visible (by omega) (by omega)

/-- `not text.strip()` -/
def isBlank (text : String) : Bool := text.toList.all isSpaceChar

/-- `text.strip()` -/
def strip (text : String) : String :=
  String.ofList
    ((text.toList.dropWhile isSpaceChar).reverse.dropWhile isSpaceChar).reverse

/-- A text without white space at its ends. -/
def Stripped (text : String) : Prop := strip text = text

instance (text : String) : Decidable (Stripped text) := inferInstanceAs (Decidable (_ = _))

lemma stripped_ofList {first last : Char} {middle : List Char} (hfirst : isSpaceChar first = false)
    (hlast : isSpaceChar last = false) :
    Stripped (String.ofList (first :: (middle ++ [last]))) := by
  simp [Stripped, strip, hfirst, hlast]

lemma strip_eq_self {text : String} (h : ∀ c ∈ text.toList, isSpaceChar c = false) :
    strip text = text := by
  have hfront : text.toList.dropWhile isSpaceChar = text.toList := by
    rw [List.dropWhile_eq_self_iff]
    intro hpos
    simp [h _ (List.getElem_mem hpos)]
  have hback : text.toList.reverse.dropWhile isSpaceChar = text.toList.reverse := by
    rw [List.dropWhile_eq_self_iff]
    intro hpos
    have hlast := h _ (List.mem_reverse.1 (List.getElem_mem hpos))
    simpa using hlast
  rw [strip, hfront, hback, List.reverse_reverse, String.ofList_toList]

/-- Stripping leaves nothing to strip. -/
lemma strip_strip (text : String) : strip (strip text) = strip text := by
  set front := text.toList.dropWhile isSpaceChar with hfront
  have hback : (strip text).toList = front.rdropWhile isSpaceChar := String.toList_ofList
  have hhead : (front.rdropWhile isSpaceChar).dropWhile isSpaceChar =
      front.rdropWhile isSpaceChar := by
    rw [List.dropWhile_eq_self_iff]
    intro hpos
    have hinitial := List.rdropWhile_prefix isSpaceChar front
    have hstart := List.dropWhile_eq_self_iff.1
      (show front.dropWhile isSpaceChar = front from List.dropWhile_idempotent ..)
    rw [hinitial.getElem hpos]
    exact hstart (lt_of_lt_of_le hpos hinitial.length_le)
  have hend : (front.rdropWhile isSpaceChar).rdropWhile isSpaceChar =
      front.rdropWhile isSpaceChar := List.rdropWhile_idempotent ..
  calc
    strip (strip text)
        = String.ofList ((front.rdropWhile isSpaceChar).rdropWhile isSpaceChar) := by
          rw [strip, hback, hhead]
          rfl
    _ = strip text := by
          rw [hend]
          rfl

lemma isBlank_iff (text : String) : isBlank text = true ↔ strip text = "" := by
  have hempty : strip text = "" ↔ (text.toList.dropWhile isSpaceChar).rdropWhile isSpaceChar = [] :=
    ⟨fun h => by simpa [strip, List.rdropWhile] using h,
      fun h => by simpa [strip, List.rdropWhile] using h⟩
  rw [hempty, List.rdropWhile_eq_nil_iff, isBlank, List.all_eq_true]
  constructor
  · intro h c hc
    exact h c ((List.dropWhile_suffix isSpaceChar).subset hc)
  · intro h c hc
    rw [← List.takeWhile_append_dropWhile (p := isSpaceChar) (l := text.toList)] at hc
    rcases List.mem_append.1 hc with hc | hc
    · exact List.mem_takeWhile_imp hc
    · exact h c hc

end Data
end Tallylot
