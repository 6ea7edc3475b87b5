import Tallylot.Data.Decimal
import Tallylot.Data.Decoding
import Tallylot.Data.Digits
import Mathlib.Tactic.Linarith

/-!
# DecimalText — decimals from texts

`readDecimal` is `Decimal(text)` for finite numbers: an optional sign, digits with at most one point,
an optional exponent; the digits may be those of any script, underscores count for nothing and white
space at the ends is ignored.
`quantize` is `normalize()`, which rounds to the context, so a formatted decimal is read back up to
that rounding (`parseDecimal_format`).
-/

namespace Tallylot
namespace Data
namespace Decimal

/-- `quantize_decimal` -/
def quantize (d : Decimal) : Decimal := fix d.coeff d.exp

/-! ## Reading -/

/-- The sign of a number, and what follows it. -/
def readSign : List Char → Bool × List Char
  | '-' :: cs => (true, cs)
  | '+' :: cs => (false, cs)
  | cs => (false, cs)

/-- Digits with at most one point. -/
def readMantissa (cs : List Char) : Option (Nat × Nat) :=
  let digits := cs.filter (fun c => c ≠ '.')
  if digits ≠ [] ∧ (digits.all Char.isDigit = true) ∧ cs.count '.' ≤ 1 then some (readPoint cs)
  else none

/-- The exponent with its indicator, if there is one. -/
def readExponent : List Char → Option Int
  | [] => some 0
  | _ :: cs =>
      let signed := readSign cs
      if signed.2 ≠ [] ∧ (signed.2.all Char.isDigit = true) then
        let magnitude : Int := Nat.ofDigitChars 10 signed.2 0
        some (if signed.1 then -magnitude else magnitude)
      else none

def isIndicator (c : Char) : Bool := c = 'e' || c = 'E'

/-- The coefficient and the exponent of its last digit, as a text shows them. -/
def readParts (text : String) : Option (Int × Int) :=
  let signed := readSign (((Data.strip text).toList.map asciiDigit).filter (fun c => c ≠ '_'))
  match readMantissa (signed.2.takeWhile (fun c => !isIndicator c)),
    readExponent (signed.2.dropWhile (fun c => !isIndicator c)) with
  | some mantissa, some exponent =>
      let magnitude : Int := mantissa.1
      some (if signed.1 then -magnitude else magnitude, exponent - mantissa.2)
  | _, _ => none

/-- `Decimal(text)` -/
def readDecimal (text : String) : Option Decimal :=
  (readParts text).map (fun parts => ofParts parts.1 parts.2)

/-- `parse_decimal` of a text; a blank one stands for no decimal. -/
def parseDecimal (text : String) : Decoded (Option Decimal) :=
  if Data.strip text = "" then .ok none
  else
    match readDecimal (Data.strip text) with
    | none => .error .invalidOperation
    | some d => .ok (some d.quantize)

/-! ## Signs -/

lemma toRat_pos_iff (d : Decimal) : 0 < d.toRat ↔ 0 < d.coeff := by
  have hten : (0 : ℚ) < (10 : ℚ) ^ d.exp := zpow_pos (by norm_num) _
  rw [toRat, mul_pos_iff_of_pos_right hten]
  exact Int.cast_pos

lemma toRat_eq_zero_iff (d : Decimal) : d.toRat = 0 ↔ d = 0 := by
  constructor
  · intro h
    exact toRat_injective (h.trans toRat_zero.symm)
  · rintro rfl
    exact toRat_zero

lemma pow_le_roundHalfEven {m k : Nat} : m / 10 ^ k ≤ roundHalfEven m k := by
  unfold roundHalfEven
  dsimp only
  split_ifs <;> omega

/-- Rounding keeps the sign. -/
lemma sign_fix (c e : Int) :
    ∃ c' e' : Int, fix c e = ofParts c' e' ∧ (0 < c' ↔ 0 < c) ∧ (c' = 0 ↔ c = 0) := by
  by_cases h : c.natAbs < 10 ^ precision
  · exact ⟨c, e, by simp [fix, h], Iff.rfl, Iff.rfl⟩
  · set k := Nat.log 10 c.natAbs + 1 - precision with hk
    have hround : 0 < roundHalfEven c.natAbs k := by
      have hc : c.natAbs ≠ 0 := by
        intro h0
        rw [h0] at h
        exact h (by positivity)
      have hpow : 10 ^ k ≤ c.natAbs := by
        have hle : k ≤ Nat.log 10 c.natAbs := by
          rw [hk, precision]
          omega
        exact (Nat.pow_le_pow_right (by decide) hle).trans (Nat.pow_log_le_self 10 hc)
      exact lt_of_lt_of_le (Nat.div_pos hpow (by positivity)) pow_le_roundHalfEven
    refine ⟨c.sign * roundHalfEven c.natAbs k, e + k, by simp [fix, h, ← hk], ?_, ?_⟩
    · have hcast : (0 : Int) < roundHalfEven c.natAbs k := by exact_mod_cast hround
      rw [mul_pos_iff_of_pos_right hcast]
      exact Int.sign_pos_iff
    · simp [hround.ne']

lemma quantize_pos_iff (d : Decimal) : 0 < d.quantize.coeff ↔ 0 < d.coeff := by
  rcases sign_fix d.coeff d.exp with ⟨c, e, hfix, hpos, _⟩
  have hten : (0 : ℚ) < (10 : ℚ) ^ e := zpow_pos (by norm_num) _
  rw [← toRat_pos_iff, quantize, hfix, toRat_ofParts, mul_pos_iff_of_pos_right hten, Int.cast_pos,
    hpos]

lemma quantize_eq_zero_iff (d : Decimal) : d.quantize = 0 ↔ d = 0 := by
  rcases sign_fix d.coeff d.exp with ⟨c, e, hfix, _, hzero⟩
  have hten : (10 : ℚ) ^ e ≠ 0 := zpow_ne_zero e (by norm_num)
  have hten' : (10 : ℚ) ^ d.exp ≠ 0 := zpow_ne_zero d.exp (by norm_num)
  rw [← toRat_eq_zero_iff, ← toRat_eq_zero_iff, quantize, hfix, toRat_ofParts, toRat,
    mul_eq_zero_iff_right hten, mul_eq_zero_iff_right hten', Int.cast_eq_zero, Int.cast_eq_zero,
    hzero]

/-! ## Rounding -/

lemma fits_quantize (d : Decimal) : d.quantize.Fits := fits_fix d.coeff d.exp

/-- What is read fits the context. -/
lemma fits_of_parseDecimal {text : String} {d : Decimal} (h : parseDecimal text = .ok (some d)) :
    d.Fits := by
  unfold parseDecimal at h
  split_ifs at h
  · cases Except.ok.inj h
  · split at h
    · cases h
    · rw [← Option.some.inj (Except.ok.inj h)]
      exact fits_quantize _

lemma quantize_of_fits {d : Decimal} : d.Fits → d.quantize = d := fix_of_fits

/-- Exactly the decimals that fit are left as they are. -/
theorem quantize_eq_iff (d : Decimal) : d.quantize = d ↔ d.Fits := by
  constructor
  · intro h
    rw [← h]
    exact fits_quantize d
  · exact quantize_of_fits

/-- Rounding takes less than nine tenths of a number away. -/
lemma toRat_lt_ten_mul_quantize {d : Decimal} (h : 0 < d.coeff) :
    d.toRat < 10 * d.quantize.toRat := by
  by_cases hfits : d.Fits
  · have hpos : 0 < d.toRat := (toRat_pos_iff d).2 h
    rw [quantize_of_fits hfits]
    linarith
  · set k := Nat.log 10 d.coeff.natAbs + 1 - precision with hk
    have hfix : d.quantize = ofParts (d.coeff.sign * roundHalfEven d.coeff.natAbs k) (d.exp + k) := by
      exact if_neg hfits
    -- The digits that are dropped stand for less than half of the number.
    have hdropped : 10 * 10 ^ k ≤ d.coeff.natAbs := by
      have hne : d.coeff.natAbs ≠ 0 := by omega
      have hlog : 10 ^ Nat.log 10 d.coeff.natAbs ≤ d.coeff.natAbs := Nat.pow_log_le_self 10 hne
      have hprecision : precision ≤ Nat.log 10 d.coeff.natAbs := by
        refine Nat.le_log_of_pow_le (by norm_num) ?_
        exact Nat.le_of_not_lt hfits
      have hle : k + 1 ≤ Nat.log 10 d.coeff.natAbs := by
        have h28 : precision = 28 := rfl
        omega
      calc 10 * 10 ^ k = 10 ^ (k + 1) := by rw [pow_succ, mul_comm]
        _ ≤ 10 ^ Nat.log 10 d.coeff.natAbs := Nat.pow_le_pow_right (by norm_num) hle
        _ ≤ d.coeff.natAbs := hlog
    have hkept : d.coeff.natAbs < 10 * (roundHalfEven d.coeff.natAbs k * 10 ^ k) := by
      have hmod := Nat.mod_lt d.coeff.natAbs (show 0 < 10 ^ k by positivity)
      have hdiv := Nat.div_add_mod d.coeff.natAbs (10 ^ k)
      have hround := Nat.mul_le_mul_left (10 ^ k) (@pow_le_roundHalfEven d.coeff.natAbs k)
      rw [mul_comm (roundHalfEven _ _)]
      omega
    have hkept' : (d.coeff : ℚ) < 10 * (roundHalfEven d.coeff.natAbs k * (10 : ℚ) ^ k) := by
      have hcoeff : (d.coeff : ℚ) = (d.coeff.natAbs : ℚ) := by
        rw [← Int.cast_natCast, Int.natAbs_of_nonneg (Int.le_of_lt h)]
      rw [hcoeff]
      exact_mod_cast hkept
    have hten : (0 : ℚ) < (10 : ℚ) ^ d.exp := zpow_pos (by norm_num) _
    rw [hfix, toRat_ofParts, Int.sign_eq_one_of_pos h, one_mul, Int.cast_natCast,
      zpow_add₀ (by norm_num), zpow_natCast, toRat]
    calc (d.coeff : ℚ) * 10 ^ d.exp
        < 10 * (roundHalfEven d.coeff.natAbs k * (10 : ℚ) ^ k) * 10 ^ d.exp :=
          mul_lt_mul_of_pos_right hkept' hten
      _ = 10 * ((roundHalfEven d.coeff.natAbs k : ℚ) * (10 ^ d.exp * 10 ^ k)) := by ring

@[simp] lemma quantize_quantize (d : Decimal) : d.quantize.quantize = d.quantize :=
  quantize_of_fits (fits_quantize d)

/-! ## Reading formatted texts -/

lemma pointChars_chars {m places : Nat} {c : Char} (hc : c ∈ pointChars m places) :
    c = '.' ∨ c.isDigit = true := by
  unfold pointChars at hc
  split at hc
  · exact Or.inr (Nat.isDigit_of_mem_toDigits (by decide) (by decide) hc)
  · rcases List.mem_append.1 hc with hc | hc
    · exact Or.inr (isDigit_of_mem_padded (List.mem_of_mem_take hc))
    · rcases List.mem_cons.1 hc with hc | hc
      · exact Or.inl hc
      · exact Or.inr (isDigit_of_mem_padded (List.mem_of_mem_drop hc))

lemma pointChars_count (m places : Nat) : (pointChars m places).count '.' ≤ 1 := by
  have hdigits : ∀ cs : List Char, (∀ c ∈ cs, c.isDigit = true) → cs.count '.' = 0 := by
    intro cs h
    refine List.count_eq_zero.2 (fun hmem => ?_)
    exact ne_of_isDigit rfl (h _ hmem) rfl
  unfold pointChars
  split
  · rw [hdigits _ (fun c hc => Nat.isDigit_of_mem_toDigits (by decide) (by decide) hc)]
    exact Nat.zero_le _
  · rw [List.count_append, List.count_cons_self,
      hdigits _ (fun c hc => isDigit_of_mem_padded (List.mem_of_mem_take hc)),
      hdigits _ (fun c hc => isDigit_of_mem_padded (List.mem_of_mem_drop hc))]

lemma pointChars_digits (m places : Nat) :
    (pointChars m places).filter (fun c => c ≠ '.') ≠ [] := by
  intro hnil
  have hall : ∀ c ∈ pointChars m places, c = '.' := by
    intro c hc
    simpa using List.filter_eq_nil_iff.1 hnil c hc
  have hlength : (pointChars m places).length ≤ 1 := by
    have hcount := List.count_eq_length.2 (fun c hc => (hall c hc).symm)
    rw [← hcount]
    exact pointChars_count m places
  unfold pointChars at hall hlength
  split at hall
  · cases hdigits : Nat.toDigits 10 m with
    | nil => exact Nat.toDigits_ne_nil hdigits
    | cons c cs =>
        have hc : c ∈ Nat.toDigits 10 m := hdigits ▸ List.mem_cons_self
        exact ne_of_isDigit rfl (Nat.isDigit_of_mem_toDigits (by decide) (by decide) hc) (hall c hc)
  · rename_i hplaces
    rw [if_neg hplaces] at hlength
    simp only [List.length_append, List.length_cons, List.length_take, List.length_drop,
      List.length_replicate] at hlength
    omega

lemma readMantissa_pointChars (m places : Nat) :
    readMantissa (pointChars m places) = some (m, places) := by
  have hdigit : ((pointChars m places).filter (fun c => c ≠ '.')).all Char.isDigit = true := by
    rw [List.all_eq_true]
    intro c hc
    have hmem := List.mem_filter.1 hc
    rcases pointChars_chars hmem.1 with hpoint | hdigit
    · exact absurd hpoint (by simpa using hmem.2)
    · exact hdigit
  simp only [readMantissa]
  rw [if_pos ⟨pointChars_digits m places, hdigit, pointChars_count m places⟩,
    readPoint_pointChars]

/-- Characters of a formatted text are ASCII, and neither blanks nor underscores nor indicators. -/
lemma textChar_plain {d : Decimal} {c : Char} (hc : c ∈ d.textChars) :
    isSpaceChar c = false ∧ c ≠ '_' ∧ isIndicator c = false ∧ c.toNat < 128 := by
  have hkinds : c = '-' ∨ c = '.' ∨ c.isDigit = true := by
    rcases textChars_eq d with ⟨m, places, htext, _⟩
    rw [htext] at hc
    rcases List.mem_append.1 hc with hc | hc
    · split at hc
      · exact Or.inl (List.mem_singleton.1 hc)
      · exact absurd hc List.not_mem_nil
    · exact Or.inr (pointChars_chars hc)
  rcases hkinds with rfl | rfl | hdigit
  · decide
  · decide
  · refine ⟨?_, ne_of_isDigit rfl hdigit, ?_, ascii_of_isDigit hdigit⟩
    · have hrange : 48 ≤ c.toNat ∧ c.toNat ≤ 57 := by
        simpa [Char.isDigit, UInt32.le_iff_toNat_le] using hdigit
      have hne : c.toNat ∉ [0x85, 0xa0, 0x1680, 0x2028, 0x2029, 0x202f, 0x205f, 0x3000] := by
        simp only [List.mem_cons, List.not_mem_nil, or_false]
        omega
      simp only [isSpaceChar, hne, decide_false, Bool.or_false, Bool.or_eq_false_iff,
        Bool.and_eq_false_iff, decide_eq_false_iff_not]
      omega
    · simp [isIndicator, ne_of_isDigit (d := 'e') rfl hdigit, ne_of_isDigit (d := 'E') rfl hdigit]

lemma readSign_textChars {d : Decimal} {m places : Nat}
    (htext : d.textChars = (if d.coeff < 0 then ['-'] else []) ++ pointChars m places) :
    readSign d.textChars = (decide (d.coeff < 0), pointChars m places) := by
  rw [htext]
  by_cases hneg : d.coeff < 0
  · simp [hneg, readSign]
  · have hhead := head_pointChars m places
    have hplus : ∀ cs, pointChars m places ≠ '+' :: cs := by
      intro cs h
      have hc : '+' ∈ pointChars m places := h ▸ List.mem_cons_self
      rcases pointChars_chars hc with hpoint | hdigit
      · exact absurd hpoint (by decide)
      · exact absurd hdigit (by decide)
    simp only [hneg, if_false, List.nil_append, decide_false]
    unfold readSign
    split
    · rename_i cs heq
      exact absurd heq (hhead cs)
    · rename_i cs heq
      exact absurd heq (hplus cs)
    · rfl

/-- The text of a decimal is read as that decimal. -/
theorem readDecimal_text (d : Decimal) : readDecimal d.text = some d := by
  rcases textChars_eq d with ⟨m, places, htext, hvalue⟩
  have hchars : d.text.toList = d.textChars := String.toList_ofList
  have hstrip : Data.strip d.text = d.text :=
    strip_eq_self (fun c hc => (textChar_plain (hchars ▸ hc)).1)
  have hmap : d.textChars.map asciiDigit = d.textChars :=
    map_asciiDigit (fun c hc => (textChar_plain hc).2.2.2)
  have hfilter : d.textChars.filter (fun c => c ≠ '_') = d.textChars :=
    List.filter_eq_self.2 (fun c hc => by simpa using (textChar_plain hc).2.1)
  have hplain : ∀ c ∈ pointChars m places, (!isIndicator c) = true := by
    intro c hc
    have hmem : c ∈ d.textChars := by
      rw [htext]
      exact List.mem_append_right _ hc
    simp [(textChar_plain hmem).2.2.1]
  have htake : (pointChars m places).takeWhile (fun c => !isIndicator c) = pointChars m places :=
    List.takeWhile_eq_self_iff.2 hplain
  have hdrop : (pointChars m places).dropWhile (fun c => !isIndicator c) = [] :=
    List.dropWhile_eq_nil_iff.2 hplain
  simp only [readDecimal, readParts, hstrip, hchars, hmap, hfilter, readSign_textChars htext, htake,
    hdrop, readMantissa_pointChars, readExponent, Option.map_some, Option.some.injEq]
  refine toRat_injective ?_
  rw [toRat_ofParts, hvalue]
  by_cases hneg : d.coeff < 0
  · simp [hneg]
  · simp [hneg]

lemma text_ne_empty (d : Decimal) : d.text ≠ "" := by
  intro h
  have hread := readDecimal_text d
  rw [h] at hread
  exact absurd hread (by simp [readDecimal, readParts, Data.strip, readSign, readMantissa])

lemma strip_text (d : Decimal) : Data.strip d.text = d.text := by
  have hchars : d.text.toList = d.textChars := String.toList_ofList
  exact strip_eq_self (fun c hc => (textChar_plain (hchars ▸ hc)).1)

/-- A formatted decimal is read back, rounded to the context. -/
theorem parseDecimal_format (d : Decimal) : parseDecimal d.format = .ok (some d.quantize) := by
  have hstrip : Data.strip d.format = d.quantize.text := strip_text d.quantize
  simp [parseDecimal, hstrip, text_ne_empty, readDecimal_text]

end Decimal

end Data
end Tallylot
