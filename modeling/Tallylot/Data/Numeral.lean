import Tallylot.Data.DecimalContext

/-!
# Numeral — plain printed numbers

A plain numeral is digits with at most one point and a digit behind it.  It is read as the number that
is printed, rounded to the context (`parseDecimal_numeral`).
-/

namespace Tallylot
namespace Data

/-- Digits with at most one point, and a digit behind the point. -/
structure Numeral where
  whole : List Char
  fraction : List Char
  digits : ∀ c ∈ whole ++ fraction, c.isDigit = true
  nonempty : whole ++ fraction ≠ []

namespace Numeral

def chars (n : Numeral) : List Char :=
  if n.fraction = [] then n.whole else n.whole ++ '.' :: n.fraction

/-- The number that is printed. -/
def value (n : Numeral) : Decimal :=
  Decimal.ofParts (Nat.ofDigitChars 10 (n.whole ++ n.fraction) 0) (-(n.fraction.length : Int))

/-- The numeral with further digits behind it. -/
def extend (n : Numeral) (more : List Char) (h : ∀ c ∈ more, c.isDigit = true) : Numeral where
  whole := if n.fraction = [] then n.whole ++ more else n.whole
  fraction := if n.fraction = [] then [] else n.fraction ++ more
  digits := by
    intro c hc
    split_ifs at hc with hfraction
    · rw [List.append_nil] at hc
      rcases List.mem_append.1 hc with hc | hc
      · exact n.digits c (List.mem_append_left _ hc)
      · exact h c hc
    · rw [← List.append_assoc] at hc
      rcases List.mem_append.1 hc with hc | hc
      · exact n.digits c hc
      · exact h c hc
  nonempty := by
    have hne := n.nonempty
    split_ifs with hfraction
    · rw [hfraction, List.append_nil] at hne
      simp [hne]
    · simp [hfraction]

lemma chars_extend (n : Numeral) (more : List Char) (h : ∀ c ∈ more, c.isDigit = true) :
    (n.extend more h).chars = n.chars ++ more := by
  by_cases hfraction : n.fraction = []
  · simp [chars, extend, hfraction]
  · simp [chars, extend, hfraction]

end Numeral

/-! ## Reading -/

lemma isDigit_ne_point {c : Char} (h : c.isDigit = true) : c ≠ '.' := Decimal.ne_of_isDigit rfl h

namespace Numeral

lemma whole_isDigit (n : Numeral) : ∀ c ∈ n.whole, c.isDigit = true :=
  fun c hc => n.digits c (List.mem_append_left _ hc)

lemma fraction_isDigit (n : Numeral) : ∀ c ∈ n.fraction, c.isDigit = true :=
  fun c hc => n.digits c (List.mem_append_right _ hc)

lemma mem_chars {n : Numeral} {c : Char} (hc : c ∈ n.chars) : c.isDigit = true ∨ c = '.' := by
  unfold chars at hc
  split_ifs at hc with hfraction
  · exact Or.inl (n.whole_isDigit c hc)
  · rcases List.mem_append.1 hc with hc | hc
    · exact Or.inl (n.whole_isDigit c hc)
    · rcases List.mem_cons.1 hc with rfl | hc
      · exact Or.inr rfl
      · exact Or.inl (n.fraction_isDigit c hc)

/-- Without its point a numeral is its digits. -/
lemma filter_chars (n : Numeral) : n.chars.filter (fun c => c ≠ '.') = n.whole ++ n.fraction := by
  have hwhole := Decimal.filter_digits n.whole_isDigit
  have hfraction := Decimal.filter_digits n.fraction_isDigit
  by_cases hnone : n.fraction = []
  · simpa [chars, hnone] using hwhole
  · rw [chars, if_neg hnone, List.filter_append, List.filter_cons_of_neg (by simp), hwhole, hfraction]

lemma point_not_mem {cs : List Char} (h : ∀ c ∈ cs, c.isDigit = true) : '.' ∉ cs :=
  fun hmem => isDigit_ne_point (h _ hmem) rfl

lemma readPoint_chars (n : Numeral) :
    Decimal.readPoint n.chars =
      (Nat.ofDigitChars 10 (n.whole ++ n.fraction) 0, n.fraction.length) := by
  rw [Decimal.readPoint, filter_chars]
  by_cases hnone : n.fraction = []
  · have hindex : n.whole.idxOf '.' = n.whole.length :=
      List.idxOf_eq_length (point_not_mem n.whole_isDigit)
    simp only [chars, hnone, if_true, hindex, List.length_nil, Prod.mk.injEq, true_and]
    omega
  · rw [chars, if_neg hnone, Decimal.idxOf_point n.whole_isDigit, List.length_append,
      List.length_cons]
    simp only [Prod.mk.injEq, true_and]
    omega

lemma readMantissa_chars (n : Numeral) :
    Decimal.readMantissa n.chars =
      some (Nat.ofDigitChars 10 (n.whole ++ n.fraction) 0, n.fraction.length) := by
  have hcount : n.chars.count '.' ≤ 1 := by
    have hwhole := List.count_eq_zero.2 (point_not_mem n.whole_isDigit)
    have hfraction := List.count_eq_zero.2 (point_not_mem n.fraction_isDigit)
    unfold chars
    split_ifs
    · rw [hwhole]
      exact Nat.zero_le 1
    · rw [List.count_append, List.count_cons_self, hwhole, hfraction]
  rw [Decimal.readMantissa, filter_chars, if_pos ⟨n.nonempty, List.all_eq_true.2 n.digits, hcount⟩,
    readPoint_chars]

lemma plain_of_isDigit {c : Char} (h : c.isDigit = true) :
    isSpaceChar c = false ∧ c ≠ '_' ∧ Decimal.isIndicator c = false ∧ c ≠ '-' ∧ c ≠ '+' := by
  refine ⟨not_isSpaceChar_of_isDigit h, Decimal.ne_of_isDigit rfl h, ?_, Decimal.ne_of_isDigit rfl h,
    Decimal.ne_of_isDigit rfl h⟩
  rw [Decimal.isIndicator, Bool.or_eq_false_iff, decide_eq_false_iff_not, decide_eq_false_iff_not]
  exact ⟨Decimal.ne_of_isDigit rfl h, Decimal.ne_of_isDigit rfl h⟩

lemma plain_of_mem {n : Numeral} {c : Char} (hc : c ∈ n.chars) :
    isSpaceChar c = false ∧ c ≠ '_' ∧ Decimal.isIndicator c = false ∧ c ≠ '-' ∧ c ≠ '+' := by
  rcases mem_chars hc with hdigit | rfl
  · exact plain_of_isDigit hdigit
  · decide

lemma readSign_plain {cs : List Char} (h : ∀ c ∈ cs, c ≠ '-' ∧ c ≠ '+') :
    Decimal.readSign cs = (false, cs) := by
  unfold Decimal.readSign
  split
  · exact absurd rfl (h '-' List.mem_cons_self).1
  · exact absurd rfl (h '+' List.mem_cons_self).2
  · rfl

lemma chars_ne_nil (n : Numeral) : n.chars ≠ [] := by
  intro hnil
  have hfilter := n.filter_chars
  rw [hnil, List.filter_nil] at hfilter
  exact n.nonempty hfilter.symm

theorem readDecimal_chars (n : Numeral) :
    Decimal.readDecimal (String.ofList n.chars) = some n.value := by
  have hchars : (String.ofList n.chars).toList = n.chars := String.toList_ofList
  have hstrip : strip (String.ofList n.chars) = String.ofList n.chars :=
    strip_eq_self fun c hc => (plain_of_mem (hchars ▸ hc)).1
  have hmap : n.chars.map asciiDigit = n.chars := by
    refine map_asciiDigit (fun c hc => ?_)
    rcases mem_chars hc with hdigit | rfl
    · exact ascii_of_isDigit hdigit
    · decide
  have hfilter : n.chars.filter (fun c => c ≠ '_') = n.chars :=
    List.filter_eq_self.2 fun c hc => by simpa using (plain_of_mem hc).2.1
  have hplain : ∀ c ∈ n.chars, (!Decimal.isIndicator c) = true := fun c hc => by
    simp [(plain_of_mem hc).2.2.1]
  have hsign := @readSign_plain n.chars fun c hc =>
    ⟨(plain_of_mem hc).2.2.2.1, (plain_of_mem hc).2.2.2.2⟩
  simp only [Decimal.readDecimal, Decimal.readParts, hstrip, hchars, hmap, hfilter, hsign,
    List.takeWhile_eq_self_iff.2 hplain, List.dropWhile_eq_nil_iff.2 hplain, readMantissa_chars,
    Decimal.readExponent, value, zero_sub]
  rfl

/-- A numeral is read as what it prints, rounded to the context. -/
theorem parseDecimal_numeral (n : Numeral) :
    Decimal.parseDecimal (String.ofList n.chars) = .ok (some n.value.quantize) := by
  have hstrip : strip (String.ofList n.chars) = String.ofList n.chars := by
    refine strip_eq_self fun c hc => ?_
    rw [String.toList_ofList] at hc
    exact (plain_of_mem hc).1
  have hne : String.ofList n.chars ≠ "" := by
    intro hempty
    have hchars := congrArg String.toList hempty
    rw [String.toList_ofList] at hchars
    exact n.chars_ne_nil hchars
  rw [Decimal.parseDecimal, hstrip, if_neg hne, readDecimal_chars]

/-- A numeral prints zero exactly if its digits are zeros. -/
lemma value_pos_iff (n : Numeral) :
    0 < n.value.coeff ↔ 0 < Nat.ofDigitChars 10 (n.whole ++ n.fraction) 0 := by
  have hten : (0 : ℚ) < (10 : ℚ) ^ (-(n.fraction.length : Int)) := zpow_pos (by norm_num) _
  rw [← Decimal.toRat_pos_iff, value, Decimal.toRat_ofParts, mul_pos_iff_of_pos_right hten,
    Int.cast_pos, Int.natCast_pos]

lemma toRat_value (n : Numeral) :
    n.value.toRat =
      (Nat.ofDigitChars 10 (n.whole ++ n.fraction) 0 : ℚ) * 10 ^ (-(n.fraction.length : Int)) := by
  rw [value, Decimal.toRat_ofParts, Int.cast_natCast]

/-- Digits behind a positive number leave it positive. -/
lemma value_extend_pos {n : Numeral} {more : List Char} (h : ∀ c ∈ more, c.isDigit = true)
    (hpos : 0 < n.value.coeff) : 0 < (n.extend more h).value.coeff := by
  have hdigits : (n.extend more h).whole ++ (n.extend more h).fraction =
      (n.whole ++ n.fraction) ++ more := by
    by_cases hfraction : n.fraction = []
    · simp [extend, hfraction]
    · simp [extend, hfraction]
  rw [value_pos_iff] at hpos ⊢
  rw [hdigits, Nat.ofDigitChars_append, Nat.ofDigitChars_eq_ofDigitChars_zero (l := more)]
  exact Nat.add_pos_left (Nat.mul_pos (Nat.pow_pos (by decide)) hpos) _

lemma extend_nil (n : Numeral) (h : ∀ c ∈ ([] : List Char), c.isDigit = true) : n.extend [] h = n := by
  rcases n with ⟨whole, fraction, digits, nonempty⟩
  by_cases hfraction : fraction = []
  · simp [extend, hfraction]
  · simp [extend, hfraction]

/-- Without a point, digits behind a number make it another one. -/
lemma quantize_extend_ne {n : Numeral} {more : List Char} (h : ∀ c ∈ more, c.isDigit = true)
    (hpos : 0 < n.value.coeff) (hfraction : n.fraction = []) (hne : more ≠ []) :
    (n.extend more h).value.quantize ≠ n.value := by
  intro hsame
  have hvalue : n.value.toRat = Nat.ofDigitChars 10 n.whole 0 := by
    rw [toRat_value, hfraction]
    simp
  have hextend : (n.extend more h).value.toRat = Nat.ofDigitChars 10 (n.whole ++ more) 0 := by
    rw [toRat_value]
    simp [extend, hfraction]
  have hle : 10 * Nat.ofDigitChars 10 n.whole 0 ≤ Nat.ofDigitChars 10 (n.whole ++ more) 0 := by
    rw [Nat.ofDigitChars_append,
      Nat.ofDigitChars_eq_ofDigitChars_zero (l := more)]
    have hten : 10 ≤ 10 ^ more.length :=
      Nat.le_self_pow (Nat.ne_of_gt (List.length_pos_iff.2 hne)) 10
    exact Nat.le_add_right_of_le (Nat.mul_le_mul_right _ hten)
  have hle' : 10 * n.value.toRat ≤ (n.extend more h).value.toRat := by
    rw [hvalue, hextend]
    exact_mod_cast hle
  have hlt := Decimal.toRat_lt_ten_mul_quantize (value_extend_pos h hpos)
  rw [hsame] at hlt
  linarith

/-! ### Digits that are rounded away -/

/-- The digits behind a number count for nothing: the number itself has no more digits than the context
keeps, and they are less than half of the last place that is kept, or half of it where the number is
even there. -/
def FallAway (n : Numeral) (more : List Char) : Prop :=
  let number := Nat.ofDigitChars 10 (n.whole ++ n.fraction) 0
  let rest := Nat.ofDigitChars 10 more 0
  let place := 10 ^ (Nat.log 10 number + 1 + more.length - Decimal.precision)
  n.value.Fits ∧ (2 * rest < place ∨ 2 * rest = place ∧ number * 10 ^ more.length / place % 2 = 0)

lemma ofDigitChars_lt {cs : List Char} (h : ∀ c ∈ cs, c.isDigit = true) :
    Nat.ofDigitChars 10 cs 0 < 10 ^ cs.length := by
  induction cs with
  | nil => decide
  | cons c cs ih =>
    have hdigit : c.toNat ≤ 57 := (Char.isDigit_iff_toNat.1 (h c List.mem_cons_self)).2
    have hrest := ih fun c hc => h c (List.mem_cons_of_mem _ hc)
    have hzero : '0'.toNat = 48 := rfl
    rw [Nat.ofDigitChars_cons, Nat.ofDigitChars_eq_ofDigitChars_zero, List.length_cons, pow_succ, hzero]
    calc
      10 ^ cs.length * (10 * 0 + (c.toNat - 48)) + Nat.ofDigitChars 10 cs 0
          ≤ 10 ^ cs.length * 9 + Nat.ofDigitChars 10 cs 0 :=
        Nat.add_le_add_right (Nat.mul_le_mul_left _ (by omega)) _
      _ < 10 ^ cs.length * 10 := by omega

/-- A magnitude is rounded at the place after its 28th digit, if it has one. -/
lemma fix_natCast (m : Nat) (e : Int) :
    Decimal.fix m e =
      Decimal.ofParts (Decimal.roundHalfEven m (Nat.log 10 m + 1 - Decimal.precision))
        (e + (Nat.log 10 m + 1 - Decimal.precision : Nat)) := by
  by_cases hm : m < 10 ^ Decimal.precision
  · have hlog : Nat.log 10 m + 1 - Decimal.precision = 0 := by
      have hlt : Nat.log 10 m < Decimal.precision := Nat.log_lt_of_lt_pow' (by decide) hm
      omega
    rw [Decimal.fix, Int.natAbs_natCast, if_pos hm, hlog, Int.natCast_zero, add_zero]
    congr 2
    simp [Decimal.roundHalfEven, Nat.mod_one]
  · have hpos : m ≠ 0 := by
      rintro rfl
      exact hm (by decide)
    rw [Decimal.fix, Int.natAbs_natCast, if_neg hm]
    dsimp only
    rw [Int.sign_natCast_of_ne_zero hpos, one_mul]

/-- A number is rounded to a multiple of the place exactly when what is above the multiple is less than
half of it, or half of it above an even one. -/
lemma roundHalfEven_mul_eq_iff {number rest j : Nat} (hdvd : 10 ^ j ∣ number) :
    Decimal.roundHalfEven (number + rest) j * 10 ^ j = number ↔
      2 * rest < 10 ^ j ∨ 2 * rest = 10 ^ j ∧ number / 10 ^ j % 2 = 0 := by
  rcases hdvd with ⟨q, rfl⟩
  have hpos : 0 < 10 ^ j := Nat.pow_pos (by decide)
  have hquotient : (10 ^ j * q + rest) / 10 ^ j = q + rest / 10 ^ j := by
    rw [Nat.mul_add_div hpos]
  have hremainder : (10 ^ j * q + rest) % 10 ^ j = rest % 10 ^ j := Nat.mul_add_mod _ _ _
  have hsplit := Nat.div_add_mod rest (10 ^ j)
  have hsame : ∀ p, p * 10 ^ j = 10 ^ j * q ↔ p = q := by
    intro p
    rw [mul_comm]
    exact Nat.mul_right_inj hpos.ne'
  rw [hsame, Nat.mul_div_cancel_left q hpos, Decimal.roundHalfEven, hquotient, hremainder]
  rcases Nat.eq_zero_or_pos (rest / 10 ^ j) with hzero | hmore
  · rw [hzero, mul_zero, zero_add] at hsplit
    rw [hzero, hsplit]
    split_ifs <;> omega
  -- A whole place above the multiple is never rounded away.
  · have hlarge : 10 ^ j ≤ 10 ^ j * (rest / 10 ^ j) := Nat.le_mul_of_pos_right _ hmore
    split_ifs <;> omega

/-- The digits of a number that fits the context end at the place that is kept. -/
lemma place_dvd {n : Numeral} (hfits : n.value.Fits) (hpos : 0 < n.value.coeff) (k : Nat) :
    10 ^ (Nat.log 10 (Nat.ofDigitChars 10 (n.whole ++ n.fraction) 0) + 1 + k - Decimal.precision) ∣
      Nat.ofDigitChars 10 (n.whole ++ n.fraction) 0 * 10 ^ k := by
  set number := Nat.ofDigitChars 10 (n.whole ++ n.fraction) 0 with hnumber
  have hexp : -(n.fraction.length : Int) ≤ n.value.exp := Decimal.le_exp_ofParts (le_refl _)
  rcases Int.eq_ofNat_of_zero_le (by omega : 0 ≤ n.value.exp + n.fraction.length) with ⟨t, ht⟩
  have hvalue : number = n.value.coeff.natAbs * 10 ^ t := by
    have hrat := toRat_value n
    rw [Decimal.toRat, ← hnumber, show n.value.exp = (t : Int) + -(n.fraction.length : Int) by omega,
      zpow_add₀ (by norm_num), ← mul_assoc, zpow_natCast] at hrat
    have hcancel := mul_right_cancel₀ (zpow_ne_zero _ (by norm_num)) hrat
    have hcoeff : (n.value.coeff : ℚ) = (n.value.coeff.natAbs : ℚ) := by
      rw [← Int.cast_natCast, Int.natCast_natAbs, abs_of_pos hpos]
    rw [hcoeff] at hcancel
    exact_mod_cast hcancel.symm
  have hlog : Nat.log 10 number < Decimal.precision + t := by
    refine Nat.log_lt_of_lt_pow ?_ ?_
    · rw [hvalue]
      exact Nat.mul_ne_zero (Int.natAbs_ne_zero.2 hpos.ne') (Nat.pow_pos (by decide)).ne'
    · rw [hvalue, pow_add]
      exact Nat.mul_lt_mul_of_pos_right hfits (Nat.pow_pos (by decide))
  rw [hvalue, mul_assoc, ← pow_add]
  rw [hvalue] at hlog
  exact Dvd.dvd.mul_left (Nat.pow_dvd_pow 10 (by omega)) _

/-- Behind a point, digits leave the number that is read as it is exactly if they fall away. -/
theorem quantize_extend_eq_iff {n : Numeral} {more : List Char} (h : ∀ c ∈ more, c.isDigit = true)
    (hpos : 0 < n.value.coeff) (hfraction : n.fraction ≠ []) :
    (n.extend more h).value.quantize = n.value ↔ n.FallAway more := by
  unfold FallAway
  dsimp only
  have hnumberPos := n.value_pos_iff.1 hpos
  have hplace := fun hfits => @place_dvd n hfits hpos more.length
  have hrestLt : Nat.ofDigitChars 10 more 0 < 10 ^ more.length := ofDigitChars_lt h
  have hextend : (n.extend more h).value = Decimal.ofParts
      (Nat.ofDigitChars 10 (n.whole ++ n.fraction) 0 * 10 ^ more.length +
        Nat.ofDigitChars 10 more 0 : Nat) (-(n.fraction.length + more.length : Nat)) := by
    have hdigits : Nat.ofDigitChars 10 (n.whole ++ (n.fraction ++ more)) 0 =
        Nat.ofDigitChars 10 (n.whole ++ n.fraction) 0 * 10 ^ more.length +
          Nat.ofDigitChars 10 more 0 := by
      rw [← List.append_assoc, Nat.ofDigitChars_append,
        Nat.ofDigitChars_eq_ofDigitChars_zero (l := more), mul_comm]
    rw [value, show (n.extend more h).whole = n.whole from if_neg hfraction,
      show (n.extend more h).fraction = n.fraction ++ more from if_neg hfraction, hdigits,
      List.length_append]
  set number := Nat.ofDigitChars 10 (n.whole ++ n.fraction) 0 with hnumber
  set rest := Nat.ofDigitChars 10 more 0
  have hlog : Nat.log 10 (number * 10 ^ more.length + rest) = Nat.log 10 number + more.length := by
    refine Nat.log_eq_of_pow_le_of_lt_pow ?_ ?_
    · rw [pow_add]
      exact Nat.le_add_right_of_le
        (Nat.mul_le_mul_right _ (Nat.pow_log_le_self 10 hnumberPos.ne'))
    · calc
        number * 10 ^ more.length + rest < (number + 1) * 10 ^ more.length := by
          rw [Nat.succ_mul]
          omega
        _ ≤ 10 ^ (Nat.log 10 number + 1) * 10 ^ more.length :=
          Nat.mul_le_mul_right _ (Nat.lt_pow_succ_log_self (by decide) number)
        _ = 10 ^ (Nat.log 10 number + more.length + 1) := by
          rw [← pow_add]
          congr 1
          omega
  have hround : (n.extend more h).value.quantize = n.value ↔
      Decimal.roundHalfEven (number * 10 ^ more.length + rest)
          (Nat.log 10 number + 1 + more.length - Decimal.precision) *
        10 ^ (Nat.log 10 number + 1 + more.length - Decimal.precision) = number * 10 ^ more.length := by
    rw [hextend, Decimal.quantize_ofParts, fix_natCast, hlog,
      show Nat.log 10 number + more.length + 1 = Nat.log 10 number + 1 + more.length by omega,
      ← Decimal.toRat_injective.eq_iff, Decimal.toRat_ofParts, toRat_value, ← hnumber]
    generalize Nat.log 10 number + 1 + more.length - Decimal.precision = j
    generalize Decimal.roundHalfEven (number * 10 ^ more.length + rest) j = r
    have hscale : (10 : ℚ) ^ (-((n.fraction.length + more.length : Nat) : Int) + (j : Int)) =
        10 ^ j / 10 ^ more.length * 10 ^ (-(n.fraction.length : Int)) := by
      push_cast
      rw [neg_add, zpow_add₀ (by norm_num), zpow_add₀ (by norm_num), zpow_natCast, zpow_neg _ (more.length : Int),
        zpow_natCast]
      ring
    have hunit : (10 : ℚ) ^ (-(n.fraction.length : Int)) ≠ 0 := zpow_ne_zero _ (by norm_num)
    rw [hscale, ← mul_assoc, mul_left_inj' hunit, ← mul_div_assoc, div_eq_iff (by positivity)]
    exact_mod_cast Iff.rfl
  constructor
  · intro hsame
    have hfits : n.value.Fits := by
      rw [← hsame]
      exact Decimal.fits_quantize _
    exact ⟨hfits, (roundHalfEven_mul_eq_iff (hplace hfits)).1 (hround.1 hsame)⟩
  · rintro ⟨hfits, haway⟩
    exact hround.2 ((roundHalfEven_mul_eq_iff (hplace hfits)).2 haway)

end Numeral

end Data
end Tallylot
