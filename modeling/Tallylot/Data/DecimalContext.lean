import Tallylot.Data.DecimalText

/-!
# DecimalContext — the exponents of the default context

A result of the context has at most 28 digits and its first digit stands at an exponent of at most
`emax`; above it `Overflow` is raised.  Below the exponent `emin` no digit past `etiny` is kept.  The
numbers of `Data.Decimal` are rounded to the digits only, which is all that happens to a number of the
context (`finalize_eq_ok_self_iff`).
-/

namespace Tallylot
namespace Data
namespace Decimal

/-- `Emax` -/
def emax : Int := 999999

/-- `Emin` -/
def emin : Int := -999999

/-- `Etiny` -/
def etiny : Int := emin - 27

/-- The exponent of the first digit. -/
def adjusted (d : Decimal) : Int := d.exp + Nat.log 10 d.coeff.natAbs

/-- A number below the least normal one, rounded to the least exponent. -/
def roundTiny (d : Decimal) : Decimal :=
  if d.adjusted < etiny - 1 then 0
  else ofParts (d.coeff.sign * roundHalfEven d.coeff.natAbs (etiny - d.exp).toNat) etiny

/-- What the context makes of an exact result. -/
def rounded (d : Decimal) : Decimal :=
  if d.exp < etiny ∧ d.adjusted < emin then d.roundTiny else d.quantize

/-- Too large for the context. -/
def Overflows (d : Decimal) : Prop := emax < d.rounded.adjusted

instance (d : Decimal) : Decidable d.Overflows := inferInstanceAs (Decidable (_ < _))

/-- The result of an operation, from the exact one. -/
def finalize (d : Decimal) : Decoded Decimal :=
  if d.Overflows then .error .overflow else .ok d.rounded

/-- A number that the context leaves as it is. -/
structure InContext (d : Decimal) : Prop where
  fits : d.Fits
  least : etiny ≤ d.exp
  most : d.adjusted ≤ emax

instance (d : Decimal) : Decidable d.InContext :=
  decidable_of_iff (d.Fits ∧ etiny ≤ d.exp ∧ d.adjusted ≤ emax)
    ⟨fun h => ⟨h.1, h.2.1, h.2.2⟩, fun h => ⟨h.fits, h.least, h.most⟩⟩

/-- Zero, or between the least normal number and the greatest exponent. -/
def InRange (d : Decimal) : Prop := d = 0 ∨ (emin ≤ d.adjusted ∧ d.adjusted < emax)

instance (d : Decimal) : Decidable d.InRange := inferInstanceAs (Decidable (_ ∨ _))

/-! ## Results -/

lemma finalize_eq_ok_iff {d result : Decimal} :
    d.finalize = .ok result ↔ ¬d.Overflows ∧ d.rounded = result := by
  unfold finalize
  split_ifs with hover
  · exact iff_of_false (fun h => by cases h) (fun h => h.1 hover)
  · rw [Except.ok.injEq, and_iff_right hover]

/-- The exponent of a normal form is no less than the one it is made of. -/
lemma etiny_le_ofParts (c : Int) : etiny ≤ (ofParts c etiny).exp :=
  le_exp_ofParts (show -((1000026 : Nat) : Int) ≤ etiny by decide)

lemma etiny_le_roundTiny (d : Decimal) : etiny ≤ d.roundTiny.exp := by
  unfold roundTiny
  split_ifs
  · exact (by decide : etiny ≤ (0 : Decimal).exp)
  · exact etiny_le_ofParts _

lemma fits_roundTiny {d : Decimal} (hexp : d.exp < etiny) (htiny : d.adjusted < emin) :
    d.roundTiny.Fits := by
  unfold roundTiny
  split_ifs with hzero
  · exact (by decide : Fits 0)
  · refine fits_ofParts etiny ?_
    set k := (etiny - d.exp).toNat with hk
    have hquot : d.coeff.natAbs / 10 ^ k < 10 ^ precision := by
      refine Nat.div_lt_of_lt_mul ?_
      have hlog : d.coeff.natAbs < 10 ^ (Nat.log 10 d.coeff.natAbs + 1) :=
        Nat.lt_pow_succ_log_self (by decide) _
      refine lt_of_lt_of_le hlog ?_
      rw [← pow_add]
      refine Nat.pow_le_pow_right (by decide) ?_
      have hprecision : precision = 28 := rfl
      have htinyExp : etiny = emin - 27 := rfl
      unfold adjusted at htiny
      omega
    have hround := roundHalfEven_le d.coeff.natAbs k
    rw [Int.natAbs_mul, Int.natAbs_natCast]
    have hsign : d.coeff.sign.natAbs ≤ 1 := by
      rw [Int.natAbs_sign]
      split_ifs <;> decide
    calc d.coeff.sign.natAbs * roundHalfEven d.coeff.natAbs k
        ≤ 1 * roundHalfEven d.coeff.natAbs k := Nat.mul_le_mul_right _ hsign
      _ ≤ 10 ^ precision := by omega

lemma fits_rounded (d : Decimal) : d.rounded.Fits := by
  unfold rounded
  split_ifs with htiny
  · exact fits_roundTiny htiny.1 htiny.2
  · exact fits_quantize d

/-- Digits that fit reach down from the first one by no more than the precision. -/
lemma log_lt_of_fits {d : Decimal} (h : d.Fits) : Nat.log 10 d.coeff.natAbs < precision := by
  by_cases hzero : d.coeff.natAbs = 0
  · rw [hzero]
    decide
  · exact (Nat.log_lt_iff_lt_pow (by decide) hzero).2 h

lemma rounded_of_inContext {d : Decimal} (h : d.InContext) : d.rounded = d := by
  rw [rounded, if_neg (fun htiny => not_lt.2 h.least htiny.1), quantize_of_fits h.fits]

/-- A number whose digits and exponent survive the rounding is one of the context. -/
lemma inContext_of_rounded {d : Decimal} (hover : ¬d.Overflows)
    (hcoeff : d.rounded.coeff.natAbs = d.coeff.natAbs) (hexp : d.rounded.exp = d.exp) :
    d.InContext := by
  have hfits : d.Fits := by
    have hrounded := fits_rounded d
    rwa [Fits, hcoeff] at hrounded
  refine ⟨hfits, ?_, ?_⟩
  · by_contra hleast
    have hlog := log_lt_of_fits hfits
    have htiny : d.adjusted < emin := by
      have hprecision : precision = 28 := rfl
      have htinyExp : etiny = emin - 27 := rfl
      unfold adjusted
      omega
    have hround := etiny_le_roundTiny d
    rw [rounded, if_pos ⟨not_le.1 hleast, htiny⟩] at hexp
    rw [hexp] at hround
    exact hleast hround
  · rw [Overflows, adjusted, hcoeff, hexp] at hover
    exact not_lt.1 hover

/-- Exactly the numbers of the context are left as they are. -/
theorem finalize_eq_ok_self_iff {d : Decimal} : d.finalize = .ok d ↔ d.InContext := by
  rw [finalize_eq_ok_iff]
  constructor
  · rintro ⟨hover, hsame⟩
    exact inContext_of_rounded hover (by rw [hsame]) (by rw [hsame])
  · intro h
    refine ⟨?_, rounded_of_inContext h⟩
    rw [Overflows, rounded_of_inContext h]
    exact not_lt.2 h.most

/-! ## Numbers in range -/

lemma etiny_le_fix {c e : Int} (h : etiny ≤ e) : etiny ≤ (fix c e).exp := by
  have hparts : ∀ {c' e' : Int}, etiny ≤ e' → etiny ≤ (ofParts c' e').exp := fun h' =>
    le_exp_ofParts (show -((1000026 : Nat) : Int) ≤ _ from h')
  unfold fix
  split_ifs
  · exact hparts h
  · exact hparts (h.trans (by omega))

/-- The first digit stands at the adjusted exponent. -/
lemma zpow_adjusted_le {d : Decimal} (h : d.coeff ≠ 0) : (10 : ℚ) ^ d.adjusted ≤ |d.toRat| := by
  have hten : (0 : ℚ) < (10 : ℚ) ^ d.exp := zpow_pos (by norm_num) _
  have hlog : 10 ^ Nat.log 10 d.coeff.natAbs ≤ d.coeff.natAbs :=
    Nat.pow_log_le_self 10 (Int.natAbs_ne_zero.2 h)
  have hcast : ((10 : ℚ) ^ Nat.log 10 d.coeff.natAbs) ≤ |(d.coeff : ℚ)| := by
    rw [← Int.cast_abs, Int.abs_eq_natAbs, Int.cast_natCast]
    exact_mod_cast hlog
  calc (10 : ℚ) ^ d.adjusted
      = (10 : ℚ) ^ Nat.log 10 d.coeff.natAbs * (10 : ℚ) ^ d.exp := by
        rw [adjusted, zpow_add₀ (by norm_num), zpow_natCast, mul_comm]
    _ ≤ |(d.coeff : ℚ)| * (10 : ℚ) ^ d.exp := mul_le_mul_of_nonneg_right hcast hten.le
    _ = |d.toRat| := by rw [toRat, abs_mul, abs_of_pos hten]

lemma toRat_lt_zpow_adjusted (d : Decimal) : |d.toRat| < (10 : ℚ) ^ (d.adjusted + 1) := by
  have hten : (0 : ℚ) < (10 : ℚ) ^ d.exp := zpow_pos (by norm_num) _
  have hlog : d.coeff.natAbs < 10 ^ (Nat.log 10 d.coeff.natAbs + 1) :=
    Nat.lt_pow_succ_log_self (by decide) _
  have hcast : |(d.coeff : ℚ)| < (10 : ℚ) ^ (Nat.log 10 d.coeff.natAbs + 1) := by
    rw [← Int.cast_abs, Int.abs_eq_natAbs, Int.cast_natCast]
    exact_mod_cast hlog
  calc |d.toRat|
      = |(d.coeff : ℚ)| * (10 : ℚ) ^ d.exp := by rw [toRat, abs_mul, abs_of_pos hten]
    _ < (10 : ℚ) ^ (Nat.log 10 d.coeff.natAbs + 1) * (10 : ℚ) ^ d.exp :=
        mul_lt_mul_of_pos_right hcast hten
    _ = (10 : ℚ) ^ (d.adjusted + 1) := by
        rw [adjusted, ← zpow_natCast, ← zpow_add₀ (by norm_num)]
        congr 1
        push_cast
        ring

/-- Rounding takes no digit away in front. -/
lemma le_adjusted_quantize {d : Decimal} : d.adjusted ≤ d.quantize.adjusted := by
  by_cases hfits : d.Fits
  · rw [quantize_of_fits hfits]
  · set k := Nat.log 10 d.coeff.natAbs + 1 - precision with hk
    have hfix : d.quantize = ofParts (d.coeff.sign * roundHalfEven d.coeff.natAbs k) (d.exp + k) :=
      if_neg hfits
    have hne : d.coeff.natAbs ≠ 0 := by
      intro hzero
      rw [Fits, hzero] at hfits
      exact hfits (by decide)
    have hprecision : precision ≤ Nat.log 10 d.coeff.natAbs :=
      Nat.le_log_of_pow_le (by decide) (not_lt.1 hfits)
    have hkept : 10 ^ 27 ≤ roundHalfEven d.coeff.natAbs k := by
      have hlog : 10 ^ Nat.log 10 d.coeff.natAbs ≤ d.coeff.natAbs := Nat.pow_log_le_self 10 hne
      have hsplit : 10 ^ 27 * 10 ^ k = 10 ^ Nat.log 10 d.coeff.natAbs := by
        rw [← pow_add]
        congr 1
        have h28 : precision = 28 := rfl
        omega
      refine le_trans ?_ pow_le_roundHalfEven
      exact (Nat.le_div_iff_mul_le (by positivity)).2 (hsplit.trans_le hlog)
    have hkept' : (10 : ℚ) ^ 27 ≤ roundHalfEven d.coeff.natAbs k := by
      exact_mod_cast hkept
    have hsign : |(d.coeff.sign : ℚ)| = 1 := by
      have hint : |d.coeff.sign| = 1 := by
        rw [Int.abs_eq_natAbs, Int.natAbs_sign_of_ne_zero (Int.natAbs_ne_zero.1 hne)]
        rfl
      exact_mod_cast hint
    have hten : (0 : ℚ) < (10 : ℚ) ^ (d.exp + k) := zpow_pos (by norm_num) _
    have hlt : (10 : ℚ) ^ d.adjusted < (10 : ℚ) ^ (d.quantize.adjusted + 1) := by
      calc (10 : ℚ) ^ d.adjusted
          = (10 : ℚ) ^ 27 * (10 : ℚ) ^ (d.exp + k) := by
            rw [adjusted, ← zpow_natCast, ← zpow_add₀ (by norm_num)]
            congr 1
            have h28 : precision = 28 := rfl
            omega
        _ ≤ roundHalfEven d.coeff.natAbs k * (10 : ℚ) ^ (d.exp + k) :=
            mul_le_mul_of_nonneg_right hkept' hten.le
        _ = |d.quantize.toRat| := by
            rw [hfix, toRat_ofParts, Int.cast_mul, Int.cast_natCast, abs_mul, abs_mul,
              abs_of_pos hten, Nat.abs_cast, hsign, one_mul]
        _ < (10 : ℚ) ^ (d.quantize.adjusted + 1) := toRat_lt_zpow_adjusted _
    have hlt' := (zpow_lt_zpow_iff_right₀ (by norm_num)).1 hlt
    omega

/-- Rounding moves the first digit by one place at most. -/
lemma adjusted_quantize_le {d : Decimal} (h : d ≠ 0) : d.quantize.adjusted ≤ d.adjusted + 1 := by
  by_cases hfits : d.Fits
  · rw [quantize_of_fits hfits]
    omega
  · set k := Nat.log 10 d.coeff.natAbs + 1 - precision with hk
    have hfix : d.quantize = ofParts (d.coeff.sign * roundHalfEven d.coeff.natAbs k) (d.exp + k) :=
      if_neg hfits
    have hne : d.quantize.coeff ≠ 0 := by
      intro hzero
      refine h ((quantize_eq_zero_iff d).1 ((toRat_eq_zero_iff _).1 ?_))
      rw [toRat, hzero, Int.cast_zero, zero_mul]
    have hprecision : precision ≤ Nat.log 10 d.coeff.natAbs :=
      Nat.le_log_of_pow_le (by decide) (not_lt.1 hfits)
    -- The digits that are kept, carried at most into one more.
    have hround : roundHalfEven d.coeff.natAbs k ≤ 10 ^ precision := by
      have hquot : d.coeff.natAbs / 10 ^ k < 10 ^ precision := by
        refine Nat.div_lt_of_lt_mul ?_
        have hlog : d.coeff.natAbs < 10 ^ (Nat.log 10 d.coeff.natAbs + 1) :=
          Nat.lt_pow_succ_log_self (by decide) _
        rwa [← pow_add, hk, Nat.sub_add_cancel (by omega)]
      have hle := roundHalfEven_le d.coeff.natAbs k
      omega
    have hround' : (roundHalfEven d.coeff.natAbs k : ℚ) ≤ (10 : ℚ) ^ precision := by
      exact_mod_cast hround
    have hsign : |(d.coeff.sign : ℚ)| ≤ 1 := by
      have hint : |d.coeff.sign| ≤ 1 := by
        rw [Int.abs_eq_natAbs, Int.natAbs_sign]
        split_ifs <;> decide
      exact_mod_cast hint
    have hten : (0 : ℚ) < (10 : ℚ) ^ (d.exp + k) := zpow_pos (by norm_num) _
    have hle : (10 : ℚ) ^ d.quantize.adjusted ≤ (10 : ℚ) ^ (d.adjusted + 1) := by
      calc (10 : ℚ) ^ d.quantize.adjusted
          ≤ |d.quantize.toRat| := zpow_adjusted_le hne
        _ = |(d.coeff.sign : ℚ)| * roundHalfEven d.coeff.natAbs k * (10 : ℚ) ^ (d.exp + k) := by
          rw [hfix, toRat_ofParts, Int.cast_mul, Int.cast_natCast, abs_mul, abs_mul, abs_of_pos hten,
            Nat.abs_cast]
        _ ≤ 1 * (10 : ℚ) ^ precision * (10 : ℚ) ^ (d.exp + k) := by
          refine mul_le_mul_of_nonneg_right ?_ hten.le
          exact mul_le_mul hsign hround' (Nat.cast_nonneg _) zero_le_one
        _ = (10 : ℚ) ^ (d.adjusted + 1) := by
          rw [one_mul, ← zpow_natCast, ← zpow_add₀ (by norm_num)]
          congr 1
          rw [adjusted]
          omega
    exact (zpow_le_zpow_iff_right₀ (by norm_num)).1 hle

lemma rounded_of_inRange {d : Decimal} (h : d.InRange) : d.rounded = d.quantize := by
  refine if_neg (fun htiny => ?_)
  rcases h with rfl | h
  · exact absurd htiny.1 (by decide)
  · exact absurd htiny.2 (not_lt.2 h.1)

/-- Of a number in range the context rounds the digits only. -/
theorem finalize_of_inRange {d : Decimal} (h : d.InRange) : d.finalize = .ok d.quantize := by
  refine finalize_eq_ok_iff.2 ⟨?_, rounded_of_inRange h⟩
  rw [Overflows, rounded_of_inRange h]
  by_cases hzero : d = 0
  · rw [hzero]
    decide
  · have hle := adjusted_quantize_le hzero
    have hlt := (h.resolve_left hzero).2
    omega

/-- What the context returns is a number of the context. -/
theorem inContext_rounded {d : Decimal} (hover : ¬d.Overflows) : d.rounded.InContext := by
  refine ⟨fits_rounded d, ?_, not_lt.1 hover⟩
  unfold rounded
  by_cases htiny : d.exp < etiny ∧ d.adjusted < emin
  · rw [if_pos htiny]
    exact etiny_le_roundTiny d
  · rw [if_neg htiny]
    by_cases hleast : etiny ≤ d.exp
    · exact etiny_le_fix hleast
    -- The digits that are kept are too few to reach below the least exponent.
    · have hnormal : emin ≤ d.adjusted := not_lt.1 (fun h => htiny ⟨not_le.1 hleast, h⟩)
      have hfirst := @le_adjusted_quantize d
      have hlog := log_lt_of_fits (fits_quantize d)
      have hprecision : precision = 28 := rfl
      have hetiny : etiny = emin - 27 := rfl
      have hadjusted : d.quantize.adjusted = d.quantize.exp + Nat.log 10 d.quantize.coeff.natAbs := rfl
      omega

lemma toRat_rounded_iff {d : Decimal} (hover : ¬d.Overflows) :
    d.rounded.toRat = d.toRat ↔ d.InContext := by
  rw [toRat_injective.eq_iff]
  constructor
  · intro hsame
    exact hsame ▸ inContext_rounded hover
  · exact rounded_of_inContext

/-- What is positive once it is rounded was so before. -/
lemma pos_of_rounded_pos {d : Decimal} (h : 0 < d.rounded.coeff) : 0 < d.coeff := by
  unfold rounded roundTiny at h
  split_ifs at h
  · exact absurd h (by decide)
  · have hten : (0 : ℚ) < (10 : ℚ) ^ etiny := zpow_pos (by norm_num) _
    rw [← toRat_pos_iff, toRat_ofParts, mul_pos_iff_of_pos_right hten, Int.cast_pos] at h
    exact Int.sign_pos_iff.1 (pos_of_mul_pos_left h (Int.natCast_nonneg _))
  · exact (quantize_pos_iff d).1 h

lemma rounded_rounded {d : Decimal} (hover : ¬d.Overflows) : d.rounded.rounded = d.rounded :=
  rounded_of_inContext (inContext_rounded hover)

lemma not_overflows_of_inRange {d : Decimal} (h : d.InRange) : ¬d.Overflows :=
  (finalize_eq_ok_iff.1 (finalize_of_inRange h)).1

/-! ## Texts -/

/-- `format_decimal` -/
def formatDecimal (d : Decimal) : Decoded String := do
  let settled ← d.finalize
  return settled.text

lemma formatDecimal_eq_ok_iff {d : Decimal} {text : String} :
    d.formatDecimal = .ok text ↔ ¬d.Overflows ∧ d.rounded.text = text := by
  unfold formatDecimal finalize
  split_ifs with hover
  · exact iff_of_false (fun h => by cases h) (fun h => h.1 hover)
  · rw [bind_ok, and_iff_right hover]
    exact iff_of_eq (Except.ok.injEq _ _)

lemma formatDecimal_of_inRange {d : Decimal} (h : d.InRange) : d.formatDecimal = .ok d.format := by
  refine formatDecimal_eq_ok_iff.2 ⟨not_overflows_of_inRange h, ?_⟩
  rw [rounded_of_inRange h]
  rfl

/-- `parse_decimal` of a text, in the default context. -/
def parseSettled (text : String) : Decoded (Option Decimal) :=
  if Data.strip text = "" then .ok none
  else
    match readDecimal (Data.strip text) with
    | none => .error .invalidOperation
    | some d => d.finalize.map some

/-- What a text is parsed to, from the number that it shows. -/
lemma parseSettled_eq_ok_some_iff {text : String} {d : Decimal} :
    parseSettled text = .ok (some d) ↔ ∃ shown, readDecimal text = some shown ∧ shown.finalize = .ok d := by
  have hstrip : readDecimal (Data.strip text) = readDecimal text := by
    unfold readDecimal readParts
    rw [strip_strip]
  unfold parseSettled
  rw [hstrip]
  split_ifs with hblank
  · have hnone : readDecimal "" = none := by decide +kernel
    rw [← hstrip, hblank, hnone]
    exact iff_of_false (fun h => by cases Except.ok.inj h) (fun ⟨_, h, _⟩ => by cases h)
  · cases readDecimal text with
    | none => exact iff_of_false (fun h => by cases h) (fun ⟨_, h, _⟩ => by cases h)
    | some shown =>
        dsimp only
        cases hfinal : shown.finalize with
        | error e =>
            refine iff_of_false (fun h => by cases h) (fun ⟨other, hother, h⟩ => ?_)
            rw [← Option.some.inj hother, hfinal] at h
            cases h
        | ok kept =>
            rw [Except.map, Except.ok.injEq, Option.some.injEq]
            constructor
            · rintro rfl
              exact ⟨shown, rfl, hfinal⟩
            · rintro ⟨other, hother, h⟩
              rw [← Option.some.inj hother, hfinal] at h
              exact Except.ok.inj h

/-- A number in range is read back rounded. -/
theorem parseSettled_format {d : Decimal} (h : d.InRange) :
    parseSettled d.format = .ok (some d.quantize) := by
  have hshown : readDecimal d.format = some d.quantize := readDecimal_text d.quantize
  have hstrip : Data.strip d.format = d.format := strip_text d.quantize
  have hne : d.format ≠ "" := text_ne_empty d.quantize
  rw [parseSettled, hstrip, if_neg hne, hshown]
  dsimp only
  have hkept := inContext_rounded (not_overflows_of_inRange h)
  rw [rounded_of_inRange h] at hkept
  rw [finalize_eq_ok_self_iff.2 hkept]
  rfl

/-! ## Signs -/

/-- `copy_negate` -/
def copyNegate (d : Decimal) : Decimal := ofParts (-d.coeff) d.exp

lemma copyNegate_parts (d : Decimal) : d.copyNegate.coeff = -d.coeff ∧ d.copyNegate.exp = d.exp := by
  have hcanonical : if -d.coeff = 0 then d.exp = 0 else ¬-d.coeff % 10 = 0 := by
    have h := d.canonical
    by_cases hzero : d.coeff = 0
    · rw [if_pos (by omega)]
      rwa [if_pos hzero] at h
    · rw [if_neg hzero] at h
      rw [if_neg (by omega)]
      omega
  have hsame : d.copyNegate = ⟨-d.coeff, d.exp, hcanonical⟩ := by
    apply toRat_injective
    rw [copyNegate, toRat_ofParts, toRat]
  rw [hsame]
  exact ⟨rfl, rfl⟩

/-- A minus rounds nothing away of a number that fits. -/
lemma neg_of_fits {d : Decimal} (h : d.Fits) : -d = d.copyNegate := by
  apply toRat_injective
  rw [toRat_neg h, copyNegate, toRat_ofParts, toRat]
  push_cast
  ring

lemma toRat_copyNegate (d : Decimal) : d.copyNegate.toRat = -d.toRat := by
  rw [toRat, (copyNegate_parts d).1, (copyNegate_parts d).2, toRat]
  push_cast
  ring

lemma ofParts_neg (c e : Int) : ofParts (-c) e = (ofParts c e).copyNegate := by
  apply toRat_injective
  rw [toRat_copyNegate, toRat_ofParts, toRat_ofParts]
  push_cast
  ring

lemma adjusted_copyNegate (d : Decimal) : d.copyNegate.adjusted = d.adjusted := by
  rw [adjusted, (copyNegate_parts d).1, (copyNegate_parts d).2, Int.natAbs_neg, adjusted]

/-- Rounding is the same on either side of zero. -/
theorem rounded_copyNegate (d : Decimal) : d.copyNegate.rounded = d.rounded.copyNegate := by
  have hparts := copyNegate_parts d
  unfold rounded roundTiny quantize fix
  rw [adjusted_copyNegate, hparts.1, hparts.2, Int.natAbs_neg, Int.sign_neg]
  simp only [neg_mul, ofParts_neg]
  split_ifs
  · decide
  all_goals rfl

lemma overflows_copyNegate_iff (d : Decimal) : d.copyNegate.Overflows ↔ d.Overflows := by
  rw [Overflows, rounded_copyNegate, adjusted_copyNegate, Overflows]

/-- `copy_abs` -/
def copyAbs (d : Decimal) : Decimal := if d.coeff < 0 then d.copyNegate else d

/-- `abs(d)` -/
def magnitude (d : Decimal) : Decoded Decimal := d.copyAbs.finalize

/-! ## Exact sums -/

/-- The sum before it is rounded. -/
def exactSum (d other : Decimal) : Decimal := ofParts (alignedSum d other) (min d.exp other.exp)

/-- The difference before it is rounded. -/
def exactDifference (d other : Decimal) : Decimal := exactSum d other.copyNegate

lemma roundHalfEven_ten_mul (m k : Nat) : roundHalfEven (m * 10) (k + 1) = roundHalfEven m k := by
  have hquot : m * 10 / 10 ^ (k + 1) = m / 10 ^ k := by
    rw [pow_succ, Nat.mul_div_mul_right _ _ (by decide)]
  have hrest : m * 10 % 10 ^ (k + 1) = m % 10 ^ k * 10 := by
    rw [pow_succ, Nat.mul_mod_mul_right]
  unfold roundHalfEven
  rw [hquot, hrest, pow_succ]
  dsimp only
  generalize 10 ^ k = p
  generalize m % p = r
  generalize m / p = q
  split_ifs <;> omega

lemma roundHalfEven_zero (m : Nat) : roundHalfEven m 0 = m := by
  simp [roundHalfEven, Nat.mod_one]

/-- A zero at the end takes no part in the rounding. -/
lemma fix_ten_mul {c : Int} (hc : c ≠ 0) (e : Int) : fix (c * 10) e = fix c (e + 1) := by
  have hten : (c * 10).natAbs = c.natAbs * 10 := by rw [Int.natAbs_mul]; rfl
  have hsign : (c * 10).sign = c.sign := by rw [Int.sign_mul]; exact mul_one _
  have hne : c.natAbs ≠ 0 := Int.natAbs_ne_zero.2 hc
  have hlog : Nat.log 10 (c.natAbs * 10) = Nat.log 10 c.natAbs + 1 :=
    Nat.log_mul_base (by decide) hne
  have hvalue : ofParts (c * 10) e = ofParts c (e + 1) := by
    apply toRat_injective
    rw [toRat_ofParts, toRat_ofParts, zpow_add_one₀ (by norm_num)]
    push_cast
    ring
  unfold fix
  rw [hten, hsign, hlog]
  dsimp only
  by_cases hshort : c.natAbs * 10 < 10 ^ precision
  · rw [if_pos hshort, if_pos (by omega), hvalue]
  · rw [if_neg hshort]
    by_cases hfits : c.natAbs < 10 ^ precision
    -- The last of 29 digits is the zero.
    · have hdigits : Nat.log 10 c.natAbs + 1 + 1 - precision = 0 + 1 := by
        have hlow : precision ≤ Nat.log 10 (c.natAbs * 10) :=
          Nat.le_log_of_pow_le (by decide) (not_lt.1 hshort)
        have hhigh : Nat.log 10 c.natAbs < precision := (Nat.log_lt_iff_lt_pow (by decide) hne).2 hfits
        omega
      rw [if_pos hfits, hdigits, roundHalfEven_ten_mul, roundHalfEven_zero, Int.sign_mul_natAbs]
      rfl
    · have hprecision : precision ≤ Nat.log 10 c.natAbs :=
        Nat.le_log_of_pow_le (by decide) (not_lt.1 hfits)
      have hdigits : Nat.log 10 c.natAbs + 1 + 1 - precision = Nat.log 10 c.natAbs + 1 - precision + 1 := by
        omega
      rw [if_neg hfits, hdigits, roundHalfEven_ten_mul]
      congr 1
      push_cast
      ring

lemma fix_strip (fuel : Nat) : ∀ {c : Int}, c ≠ 0 → ∀ e : Int,
    fix (strip fuel c e).1 (strip fuel c e).2 = fix c e := by
  induction fuel with
  | zero => exact fun _ _ => rfl
  | succ fuel ih =>
      intro c hc e
      by_cases h : c % 10 = 0
      · have hten : c / 10 * 10 = c := Int.ediv_mul_cancel (Int.dvd_of_emod_eq_zero h)
        have hc' : c / 10 ≠ 0 := by omega
        have hstep := fix_ten_mul hc' e
        rw [hten] at hstep
        simp only [strip, h, if_true]
        rw [ih hc' (e + 1), hstep]
      · simp [strip, h]

/-- A normal form is rounded like the parts that it is made of. -/
lemma quantize_ofParts (c e : Int) : (ofParts c e).quantize = fix c e := by
  by_cases hc : c = 0
  · have hzero : ofParts c e = 0 := dif_pos hc
    rw [hzero, fix, if_pos (by rw [hc]; decide), hzero]
    decide
  · have hcoeff : (ofParts c e).coeff = (strip (c.natAbs.log2 + 1) c e).1 := by simp [ofParts, hc]
    have hexp : (ofParts c e).exp = (strip (c.natAbs.log2 + 1) c e).2 := by simp [ofParts, hc]
    rw [quantize, hcoeff, hexp]
    exact fix_strip _ hc e

/-- In the context a sum is the rounded one, or it overflows. -/
lemma finalize_exactSum {d other : Decimal} (hd : etiny ≤ d.exp) (hother : etiny ≤ other.exp)
    (hover : ¬(exactSum d other).Overflows) : (exactSum d other).finalize = .ok (d + other) := by
  have hleast : etiny ≤ (exactSum d other).exp :=
    le_exp_ofParts (show -((1000026 : Nat) : Int) ≤ min d.exp other.exp from le_min hd hother)
  refine finalize_eq_ok_iff.2 ⟨hover, ?_⟩
  rw [rounded, if_neg (fun htiny => not_lt.2 hleast htiny.1)]
  exact quantize_ofParts _ _

lemma etiny_le_add {d other : Decimal} (hd : etiny ≤ d.exp) (hother : etiny ≤ other.exp) :
    etiny ≤ (d + other).exp := etiny_le_fix (le_min hd hother)

/-! ## Running sums -/

/-- `sum += d` for each number in turn. -/
def runningTotal (sum : Decimal) (ds : List Decimal) : Decoded Decimal :=
  ds.foldlM (fun sum d => (exactSum sum d).finalize) sum

/-- No addition of the running sum overflows. -/
def SumsBounded : Decimal → List Decimal → Prop
  | _, [] => True
  | sum, d :: ds => ¬(exactSum sum d).Overflows ∧ SumsBounded (sum + d) ds

theorem runningTotal_of_bounded : ∀ (ds : List Decimal) (sum : Decimal), etiny ≤ sum.exp →
    (∀ d ∈ ds, d.InContext) → SumsBounded sum ds →
      runningTotal sum ds = .ok (ds.foldl (fun s d => s + d) sum) := by
  intro ds
  induction ds with
  | nil => exact fun _ _ _ _ => rfl
  | cons d ds ih =>
      intro sum hsum hds hbounded
      rcases hbounded with ⟨hhead, htail⟩
      have hd := (hds d List.mem_cons_self).least
      have hadd := finalize_exactSum hsum hd hhead
      have hrest := ih (sum + d) (etiny_le_add hsum hd)
        (fun d' hd' => hds d' (List.mem_cons_of_mem _ hd')) htail
      rw [runningTotal, List.foldlM_cons, hadd, List.foldl_cons]
      exact hrest

/-- A number below the digits of the context is far below its greatest exponent. -/
lemma not_overflows_of_lt {d : Decimal} (hfits : d.Fits) (hleast : etiny ≤ d.exp)
    (hsmall : |d.toRat| < 10 ^ precision) : ¬d.Overflows := by
  have hkept : d.rounded = d := by
    rw [rounded, if_neg (fun htiny => not_lt.2 hleast htiny.1), quantize_of_fits hfits]
  rw [Overflows, hkept, not_lt]
  by_cases hzero : d.coeff = 0
  · have hexp : d.exp = 0 := by
      have h := d.canonical
      rwa [if_pos hzero] at h
    rw [adjusted, hzero, hexp]
    decide
  · have hlt : (10 : ℚ) ^ d.adjusted < (10 : ℚ) ^ (precision : Int) := by
      rw [zpow_natCast]
      exact (zpow_adjusted_le hzero).trans_lt hsmall
    have hadjusted := (zpow_lt_zpow_iff_right₀ (by norm_num)).1 hlt
    have hprecision : (precision : Int) ≤ emax := by decide
    omega

/-- Exact sums of small numbers do not overflow. -/
theorem sumsBounded_of_exactSums : ∀ (ds : List Decimal) (sum : Decimal), etiny ≤ sum.exp →
    (∀ d ∈ ds, d.InContext) → ExactSums sum ds →
      |sum.toRat| + (ds.map (fun d => |d.toRat|)).sum < 10 ^ precision → SumsBounded sum ds := by
  intro ds
  induction ds with
  | nil => exact fun _ _ _ _ _ => trivial
  | cons d ds ih =>
      intro sum hsum hds hexact hsmall
      rcases hexact with ⟨hhead, htail⟩
      rw [List.map_cons, List.sum_cons, ← add_assoc] at hsmall
      have hd := (hds d List.mem_cons_self).least
      have hrest : 0 ≤ (ds.map (fun d => |d.toRat|)).sum := by
        refine List.sum_nonneg (fun x hx => ?_)
        rcases List.mem_map.1 hx with ⟨d', _, rfl⟩
        exact abs_nonneg _
      have hadd : exactSum sum d = sum + d := (if_pos hhead).symm
      have hvalue : |(sum + d).toRat| ≤ |sum.toRat| + |d.toRat| := by
        rw [toRat_add hhead]
        exact abs_add_le _ _
      constructor
      · rw [hadd]
        refine not_overflows_of_lt (fits_add sum d) (etiny_le_add hsum hd) ?_
        exact hvalue.trans_lt ((le_add_of_nonneg_right hrest).trans_lt hsmall)
      · refine ih (sum + d) (etiny_le_add hsum hd) (fun d' hd' => hds d' (List.mem_cons_of_mem _ hd'))
          htail ?_
        exact (add_le_add hvalue le_rfl).trans_lt hsmall

end Decimal
end Data
end Tallylot
