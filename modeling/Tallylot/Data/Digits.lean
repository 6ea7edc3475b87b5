import Mathlib.Data.String.Basic
import Mathlib.Data.String.Lemmas

/-!
# Digits — the decimal digits of every script

`\d` and `Decimal` take each character that Unicode calls a decimal digit, not the ASCII ones alone.
Such digits come in runs of ten, so `digitZeros` lists the zeros only.  `asciiDigit` writes a digit in
ASCII and leaves every other character as it is.
-/

namespace Tallylot
namespace Data

/-- The zeros of the runs of decimal digits (`Nd`, Unicode 15). -/
def digitZeros : List Nat :=
  [0x30, 0x660, 0x6f0, 0x7c0, 0x966, 0x9e6, 0xa66, 0xae6, 0xb66, 0xbe6, 0xc66, 0xce6, 0xd66, 0xde6,
    0xe50, 0xed0, 0xf20, 0x1040, 0x1090, 0x17e0, 0x1810, 0x1946, 0x19d0, 0x1a80, 0x1a90, 0x1b50,
    0x1bb0, 0x1c40, 0x1c50, 0xa620, 0xa8d0, 0xa900, 0xa9d0, 0xa9f0, 0xaa50, 0xabf0, 0xff10, 0x104a0,
    0x10d30, 0x11066, 0x110f0, 0x11136, 0x111d0, 0x112f0, 0x11450, 0x114d0, 0x11650, 0x116c0, 0x11730,
    0x118e0, 0x11950, 0x11c50, 0x11d50, 0x11da0, 0x11f50, 0x16a60, 0x16ac0, 0x16b50, 0x1d7ce, 0x1d7d8,
    0x1d7e2, 0x1d7ec, 0x1d7f6, 0x1e140, 0x1e2f0, 0x1e4f0, 0x1e950, 0x1fbf0]

/-- The number that a decimal digit of any script stands for. -/
def digitValue (c : Char) : Option Nat :=
  (digitZeros.find? (fun base => base ≤ c.toNat && c.toNat < base + 10)).map
    (fun base => c.toNat - base)

/-- `str.isdecimal` of a character, and the class `\d` -/
def isDecimalDigit (c : Char) : Bool := (digitValue c).isSome

/-- A digit in ASCII; what is no digit stays. -/
def asciiDigit (c : Char) : Char :=
  match digitValue c with
  | some n => Char.ofNat (48 + n)
  | none => c

/-- `int` of a text of digits -/
def readDigits (cs : List Char) : Option Nat :=
  let digits := cs.map asciiDigit
  if digits.all Char.isDigit = true then some (Nat.ofDigitChars 10 digits 0) else none

/-! ## Digits in ASCII -/

lemma digitValue_lt {c : Char} {n : Nat} (h : digitValue c = some n) : n < 10 := by
  rcases Option.map_eq_some_iff.1 h with ⟨base, hbase, rfl⟩
  have hrange := List.find?_some hbase
  simp only [Bool.and_eq_true, decide_eq_true_eq] at hrange
  omega

lemma digitValue_of_isDigit {c : Char} (h : c.isDigit = true) :
    digitValue c = some (c.toNat - 48) := by
  have hrange := Char.isDigit_iff_toNat.1 h
  have hfirst : digitZeros.find? (fun base => base ≤ c.toNat && c.toNat < base + 10) = some 0x30 := by
    refine List.find?_cons_of_pos ?_
    simp only [Bool.and_eq_true, decide_eq_true_eq]
    exact ⟨hrange.1, Nat.lt_succ_of_le hrange.2⟩
  rw [digitValue, hfirst]
  rfl

/-- The first run of digits is the ASCII one, and the next is far above. -/
lemma digitValue_of_ascii {c : Char} (hascii : c.toNat < 128) (h : c.isDigit = false) :
    digitValue c = none := by
  rw [digitValue, Option.map_eq_none_iff, List.find?_eq_none]
  intro base hbase
  have hbounds : base = 48 ∨ 128 ≤ base := by
    revert base
    decide
  simp only [Bool.and_eq_true, decide_eq_true_eq, not_and, not_lt]
  intro hle
  rcases hbounds with rfl | hlarge
  · by_contra hlt
    have hdigit : c.isDigit = true := Char.isDigit_iff_toNat.2 ⟨hle, by
      change c.toNat ≤ 57
      omega⟩
    rw [h] at hdigit
    cases hdigit
  · omega

lemma asciiDigit_of_isDigit {c : Char} (h : c.isDigit = true) : asciiDigit c = c := by
  have hrange := Char.isDigit_iff_toNat.1 h
  have hle : 48 ≤ c.toNat := hrange.1
  rw [asciiDigit, digitValue_of_isDigit h]
  dsimp only
  rw [show 48 + (c.toNat - 48) = c.toNat by omega, Char.ofNat_toNat]

lemma asciiDigit_of_ascii {c : Char} (h : c.toNat < 128) : asciiDigit c = c := by
  by_cases hdigit : c.isDigit = true
  · exact asciiDigit_of_isDigit hdigit
  · rw [asciiDigit, digitValue_of_ascii h (Bool.eq_false_iff.2 hdigit)]

/-- The ten digits, written in ASCII. -/
lemma isDigit_ofNat {n : Nat} (h : n < 10) :
    (Char.ofNat (48 + n)).isDigit = true ∧ (Char.ofNat (48 + n)).toNat = 48 + n := by
  have hall : ∀ i : Fin 10, (Char.ofNat (48 + i.val)).isDigit = true ∧
      (Char.ofNat (48 + i.val)).toNat = 48 + i.val := by
    decide
  exact hall ⟨n, h⟩

/-- A character in ASCII is a digit exactly if it is one of some script. -/
lemma isDigit_asciiDigit {c : Char} : (asciiDigit c).isDigit = isDecimalDigit c := by
  unfold isDecimalDigit
  cases h : digitValue c with
  | some n =>
      rw [asciiDigit, h]
      exact (isDigit_ofNat (digitValue_lt h)).1
  | none =>
      rw [asciiDigit, h, Option.isSome_none]
      refine Bool.eq_false_iff.2 (fun hdigit => ?_)
      rw [digitValue_of_isDigit hdigit] at h
      cases h

lemma ne_of_isDecimalDigit {c d : Char} (hc : isDecimalDigit c = true)
    (hd : isDecimalDigit d = false) : c ≠ d := by
  rintro rfl
  rw [hc] at hd
  cases hd

/-- A capital letter is ASCII and no digit, so no digit is lowered. -/
lemma toLower_of_isDecimalDigit {c : Char} (h : isDecimalDigit c = true) : c.toLower = c := by
  unfold Char.toLower
  split_ifs with hupper
  · have hleast : 65 ≤ c.toNat := UInt32.le_iff_toNat_le.1 hupper.1
    have hmost : c.toNat ≤ 90 := UInt32.le_iff_toNat_le.1 hupper.2
    have hletter : c.isDigit = false := by
      refine Bool.eq_false_iff.2 (fun hdigit => ?_)
      have hnine : c.toNat ≤ 57 := (Char.isDigit_iff_toNat.1 hdigit).2
      omega
    rw [isDecimalDigit, digitValue_of_ascii (by omega) hletter] at h
    cases h
  · rfl

lemma ascii_of_isDigit {c : Char} (h : c.isDigit = true) : c.toNat < 128 :=
  Nat.lt_of_le_of_lt (Char.isDigit_iff_toNat.1 h).2 (by decide)

lemma map_asciiDigit {cs : List Char} (h : ∀ c ∈ cs, c.toNat < 128) : cs.map asciiDigit = cs :=
  (List.map_congr_left (fun c hc => asciiDigit_of_ascii (h c hc))).trans (List.map_id _)

lemma readDigits_of_isDigit {cs : List Char} (h : ∀ c ∈ cs, c.isDigit = true) :
    readDigits cs = some (Nat.ofDigitChars 10 cs 0) := by
  have hmap : cs.map asciiDigit = cs := map_asciiDigit (fun c hc => ascii_of_isDigit (h c hc))
  rw [readDigits, hmap, if_pos (List.all_eq_true.2 h)]

example : readDigits ['１', '０', '٥'] = some 105 := by decide

end Data
end Tallylot
