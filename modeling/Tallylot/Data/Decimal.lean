import Mathlib.Data.Nat.Log
import Mathlib.Data.String.Basic
import Mathlib.Data.String.Lemmas
import Mathlib.Data.Rat.Cast.Order
import Mathlib.Algebra.Order.Field.Basic
import Mathlib.Tactic.Ring
import Mathlib.Tactic.FieldSimp
import Mathlib.Tactic.Positivity
import Mathlib.Tactic.NormNum

/-!
# Decimal — decimal arithmetic in a context of 28 digits

A decimal is a coefficient and a power of ten.  Two spellings of one number (`1.5` and `1.50`)
compare equal and hash alike, and every reader of this development sees numbers only through
comparison, context arithmetic and normalized text, so a `Decimal` is kept in the one spelling whose
coefficient has no trailing zero; equality is then numeric equality (`toRat_injective`).

Arithmetic is exact arithmetic followed by rounding to `precision` significant digits, half to even.
`toRat_fix` says that nothing is lost when the digits fit.  Exponents are unbounded and there are
no infinities or NaNs.
-/

namespace Tallylot
namespace Data

/-- A decimal number in normal form. -/
structure Decimal where
  coeff : Int
  exp : Int
  canonical : if coeff = 0 then exp = 0 else ¬coeff % 10 = 0
  deriving DecidableEq, Repr

namespace Decimal

/-! ## Normal forms -/

/-- Drop trailing zeros of a coefficient, at most `fuel` of them. -/
def strip : Nat → Int → Int → Int × Int
  | 0, c, e => (c, e)
  | fuel + 1, c, e => if c % 10 = 0 then strip fuel (c / 10) (e + 1) else (c, e)

lemma strip_spec (fuel : Nat) :
    ∀ c e : Int, c ≠ 0 → c.natAbs < 2 ^ fuel →
      (strip fuel c e).1 ≠ 0 ∧ ¬(strip fuel c e).1 % 10 = 0 := by
  induction fuel with
  | zero =>
      intro c e hc hlt
      omega
  | succ fuel ih =>
      intro c e hc hlt
      by_cases h : c % 10 = 0
      · have hq : c / 10 ≠ 0 := by omega
        have hlt' : (c / 10).natAbs < 2 ^ fuel := by
          have hpow : 2 ^ (fuel + 1) = 2 * 2 ^ fuel := by ring
          omega
        simpa [strip, h] using ih (c / 10) (e + 1) hq hlt'
      · simpa [strip, h] using hc

def zero : Decimal := ⟨0, 0, by simp⟩

/-- One unit is in normal form. -/
lemma one_canonical : if (1 : Int) = 0 then (0 : Int) = 0 else ¬(1 : Int) % 10 = 0 := by decide

instance : Zero Decimal := ⟨zero⟩

/-- The decimal `c * 10 ^ e`. -/
def ofParts (c e : Int) : Decimal :=
  if hc : c = 0 then 0
  else
    { coeff := (strip (c.natAbs.log2 + 1) c e).1
      exp := (strip (c.natAbs.log2 + 1) c e).2
      canonical := by
        have h := strip_spec (c.natAbs.log2 + 1) c e hc Nat.lt_log2_self
        rw [if_neg h.1]
        exact h.2 }

/-! ## Values -/

/-- The number that a decimal denotes. -/
def toRat (d : Decimal) : ℚ := (d.coeff : ℚ) * (10 : ℚ) ^ d.exp

lemma strip_value (fuel : Nat) :
    ∀ c e : Int,
      ((strip fuel c e).1 : ℚ) * (10 : ℚ) ^ (strip fuel c e).2 = (c : ℚ) * (10 : ℚ) ^ e := by
  induction fuel with
  | zero =>
      intro c e
      rfl
  | succ fuel ih =>
      intro c e
      by_cases h : c % 10 = 0
      · have hc : (c : ℚ) = ((c / 10 : Int) : ℚ) * 10 := by
          have hcast : c = c / 10 * 10 := by omega
          exact_mod_cast hcast
        calc
          ((strip (fuel + 1) c e).1 : ℚ) * (10 : ℚ) ^ (strip (fuel + 1) c e).2
              = ((c / 10 : Int) : ℚ) * (10 : ℚ) ^ (e + 1) := by
                simpa [strip, h] using ih (c / 10) (e + 1)
          _ = (c : ℚ) * (10 : ℚ) ^ e := by
                rw [zpow_add₀ (by norm_num), hc]
                ring
      · simp [strip, h]

@[simp] lemma toRat_zero : toRat 0 = 0 := by
  change ((0 : Int) : ℚ) * (10 : ℚ) ^ (0 : Int) = 0
  simp

@[simp] lemma toRat_ofParts (c e : Int) : (ofParts c e).toRat = (c : ℚ) * (10 : ℚ) ^ e := by
  by_cases hc : c = 0
  · simp [ofParts, hc]
  · simpa [ofParts, hc, toRat] using strip_value (c.natAbs.log2 + 1) c e

/-- With equal values, the coefficient of the smaller exponent is the other one shifted. -/
lemma coeff_eq_shift {c c' e e' : Int} (he : e ≤ e')
    (hval : (c : ℚ) * (10 : ℚ) ^ e = (c' : ℚ) * (10 : ℚ) ^ e') :
    c = c' * 10 ^ (e' - e).toNat := by
  have hsplit : (10 : ℚ) ^ e' = (10 : ℚ) ^ ((e' - e).toNat : Int) * (10 : ℚ) ^ e := by
    rw [← zpow_add₀ (by norm_num)]
    congr 1
    omega
  have hne : ((10 : ℚ) ^ e) ≠ 0 := zpow_ne_zero e (by norm_num)
  rw [hsplit, ← mul_assoc, zpow_natCast] at hval
  have hcancel := mul_right_cancel₀ hne hval
  exact_mod_cast hcancel

theorem toRat_injective : Function.Injective toRat := by
  intro a b hab
  have key : ∀ a b : Decimal, a.exp ≤ b.exp → a.toRat = b.toRat → a = b := by
    intro a b he h
    have hshift := coeff_eq_shift he h
    have ha := a.canonical
    have hb := b.canonical
    by_cases hb0 : b.coeff = 0
    · have ha0 : a.coeff = 0 := by simpa [hb0] using hshift
      rw [if_pos ha0] at ha
      rw [if_pos hb0] at hb
      cases a
      cases b
      simp_all
    · have hexp : (b.exp - a.exp).toNat = 0 := by
        by_contra hpos
        rcases Nat.exists_eq_succ_of_ne_zero hpos with ⟨k, hk⟩
        have hten : a.coeff % 10 = 0 := by
          rw [hshift, hk, pow_succ, ← mul_assoc]
          exact Int.mul_emod_left _ _
        have ha0 : a.coeff ≠ 0 := by
          rw [hshift]
          exact mul_ne_zero hb0 (pow_ne_zero _ (by norm_num))
        rw [if_neg ha0] at ha
        exact ha hten
      have hc : a.coeff = b.coeff := by simpa [hexp] using hshift
      have hee : a.exp = b.exp := by omega
      cases a
      cases b
      simp_all
  rcases le_total a.exp b.exp with he | he
  · exact key a b he hab
  · exact (key b a he hab.symm).symm

/-! ## Context arithmetic -/

/-- Significant digits of the context. -/
def precision : Nat := 28

/-- Drop the last `k` digits of a magnitude, rounding half to even. -/
def roundHalfEven (m k : Nat) : Nat :=
  let q := m / 10 ^ k
  let r := m % 10 ^ k
  if 2 * r < 10 ^ k then q
  else if 2 * r = 10 ^ k then (if q % 2 = 0 then q else q + 1)
  else q + 1

/-- Round `c * 10 ^ e` to the precision of the context. -/
def fix (c e : Int) : Decimal :=
  if c.natAbs < 10 ^ precision then ofParts c e
  else
    let k := Nat.log 10 c.natAbs + 1 - precision
    ofParts (c.sign * roundHalfEven c.natAbs k) (e + k)

/-- Coefficient of the exact sum at the smaller of the two exponents. -/
def alignedSum (a b : Decimal) : Int :=
  let e := min a.exp b.exp
  a.coeff * 10 ^ (a.exp - e).toNat + b.coeff * 10 ^ (b.exp - e).toNat

instance : Add Decimal := ⟨fun a b => fix (alignedSum a b) (min a.exp b.exp)⟩

instance : Neg Decimal := ⟨fun a => fix (-a.coeff) a.exp⟩

/-- `abs`, which rounds to the context. -/
def abs (d : Decimal) : Decimal := fix |d.coeff| d.exp

instance : Sub Decimal :=
  ⟨fun a b => fix (alignedSum a ⟨-b.coeff, b.exp, by
    have h := b.canonical
    by_cases hb : b.coeff = 0
    · simpa [hb] using h
    · rw [if_neg hb] at h
      rw [if_neg (by omega)]
      omega⟩) (min a.exp b.exp)⟩

/-- Rounding loses nothing when the digits fit the context. -/
theorem toRat_fix {c : Int} (e : Int) :
    c.natAbs < 10 ^ precision → (fix c e).toRat = (c : ℚ) * (10 : ℚ) ^ e := by
  intro h
  simp [fix, h]

lemma toRat_alignedSum (a b : Decimal) :
    (alignedSum a b : ℚ) * (10 : ℚ) ^ min a.exp b.exp = a.toRat + b.toRat := by
  have hshift : ∀ e : Int, min a.exp b.exp ≤ e →
      (10 : ℚ) ^ (e - min a.exp b.exp).toNat * (10 : ℚ) ^ min a.exp b.exp = (10 : ℚ) ^ e := by
    intro e he
    rw [← zpow_natCast, ← zpow_add₀ (by norm_num)]
    congr 1
    omega
  have ha := hshift a.exp (min_le_left _ _)
  have hb := hshift b.exp (min_le_right _ _)
  simp only [alignedSum, toRat]
  push_cast
  rw [add_mul, mul_assoc, mul_assoc, ha, hb]

/-- A sum whose digits fit the context is exact. -/
theorem toRat_add {a b : Decimal} :
    (alignedSum a b).natAbs < 10 ^ precision → (a + b).toRat = a.toRat + b.toRat := by
  intro h
  calc
    (a + b).toRat = (alignedSum a b : ℚ) * (10 : ℚ) ^ min a.exp b.exp := toRat_fix _ h
    _ = a.toRat + b.toRat := toRat_alignedSum a b

/-- The coefficient has no more digits than the context. -/
def Fits (d : Decimal) : Prop := d.coeff.natAbs < 10 ^ precision

instance (d : Decimal) : Decidable d.Fits := inferInstanceAs (Decidable (_ < _))

lemma strip_natAbs_le (fuel : Nat) : ∀ c e : Int, (strip fuel c e).1.natAbs ≤ c.natAbs := by
  induction fuel with
  | zero =>
      intro c e
      exact le_rfl
  | succ fuel ih =>
      intro c e
      by_cases h : c % 10 = 0
      · have hle : (c / 10).natAbs ≤ c.natAbs := by omega
        simpa [strip, h] using (ih (c / 10) (e + 1)).trans hle
      · simp [strip, h]

lemma fits_ofParts {c : Int} (e : Int) : c.natAbs ≤ 10 ^ precision → (ofParts c e).Fits := by
  intro h
  by_cases hc : c = 0
  · simpa [ofParts, hc] using (by decide : Fits 0)
  · have hstrip : (ofParts c e).coeff = (strip (c.natAbs.log2 + 1) c e).1 := by simp [ofParts, hc]
    have hle := strip_natAbs_le (c.natAbs.log2 + 1) c e
    rw [Fits, hstrip]
    rcases lt_or_eq_of_le h with hlt | heq
    · exact lt_of_le_of_lt hle hlt
    -- a power of ten is stripped
    · have hnorm := (strip_spec (c.natAbs.log2 + 1) c e hc Nat.lt_log2_self).2
      refine lt_of_le_of_ne (hle.trans h) ?_
      intro hten
      rw [precision] at hten
      omega

lemma roundHalfEven_le (m k : Nat) : roundHalfEven m k ≤ m / 10 ^ k + 1 := by
  unfold roundHalfEven
  dsimp only
  split_ifs <;> omega

/-- The context never returns more digits than it has. -/
theorem fits_fix (c e : Int) : (fix c e).Fits := by
  by_cases h : c.natAbs < 10 ^ precision
  · simpa [fix, h] using fits_ofParts e h.le
  · have hc : c.natAbs ≠ 0 := by
      intro h0
      rw [h0] at h
      exact h (by positivity)
    set k := Nat.log 10 c.natAbs + 1 - precision with hk
    have hquot : c.natAbs / 10 ^ k < 10 ^ precision := by
      have hlog : c.natAbs < 10 ^ (Nat.log 10 c.natAbs + 1) :=
        Nat.lt_pow_succ_log_self (by decide) _
      have hprec : precision ≤ Nat.log 10 c.natAbs := Nat.le_log_of_pow_le (by decide) (not_lt.1 h)
      refine Nat.div_lt_of_lt_mul ?_
      rwa [← pow_add, hk, Nat.sub_add_cancel (by omega)]
    have hround : (c.sign * (roundHalfEven c.natAbs k : Int)).natAbs ≤ 10 ^ precision := by
      have hle := roundHalfEven_le c.natAbs k
      rw [Int.natAbs_mul, Int.natAbs_sign_of_ne_zero (by omega), one_mul, Int.natAbs_natCast]
      omega
    simpa [fix, h, ← hk] using fits_ofParts (e + k) hround

lemma fits_add (a b : Decimal) : (a + b).Fits := fits_fix _ _

/-- A decimal that fits is not rounded. -/
lemma fix_of_fits {d : Decimal} : d.Fits → fix d.coeff d.exp = d := by
  intro h
  exact toRat_injective (toRat_fix d.exp h)

lemma fits_abs (d : Decimal) : d.abs.Fits := fits_fix _ _

/-- The magnitude of a negative decimal that fits is its opposite. -/
lemma toRat_abs_of_neg {d : Decimal} (hfits : d.Fits) (hneg : d.coeff < 0) :
    d.abs.toRat = -d.toRat := by
  have hdigits : |d.coeff|.natAbs < 10 ^ precision := by
    rw [Int.natAbs_abs]
    exact hfits
  calc
    d.abs.toRat = ((|d.coeff| : Int) : ℚ) * (10 : ℚ) ^ d.exp := toRat_fix d.exp hdigits
    _ = -d.toRat := by
          rw [abs_of_neg hneg, toRat]
          push_cast
          ring

lemma toRat_neg {d : Decimal} (hfits : d.Fits) : (-d).toRat = -d.toRat := by
  have hdigits : (-d.coeff).natAbs < 10 ^ precision := by
    rw [Int.natAbs_neg]
    exact hfits
  calc
    (-d).toRat = ((-d.coeff : Int) : ℚ) * (10 : ℚ) ^ d.exp := toRat_fix d.exp hdigits
    _ = -d.toRat := by
          rw [toRat]
          push_cast
          ring

/-- A negative decimal that fits is the opposite of its magnitude. -/
lemma neg_abs_of_neg {d : Decimal} (hfits : d.Fits) (hneg : d.coeff < 0) : -d.abs = d := by
  apply toRat_injective
  rw [toRat_neg (fits_abs d), toRat_abs_of_neg hfits hneg, neg_neg]

/-! ## Exact sums -/

/-- Every addition of the running sum fits the context. -/
def ExactSums : Decimal → List Decimal → Prop
  | _, [] => True
  | sum, d :: ds => (alignedSum sum d).natAbs < 10 ^ precision ∧ ExactSums (sum + d) ds

/-- A running sum whose additions fit is the sum of the numbers. -/
theorem toRat_foldl_add :
    ∀ (ds : List Decimal) (sum : Decimal), ExactSums sum ds →
      (ds.foldl (fun s d => s + d) sum).toRat = sum.toRat + (ds.map toRat).sum := by
  intro ds
  induction ds with
  | nil =>
      intro sum _
      simp
  | cons d ds ih =>
      intro sum hexact
      rcases hexact with ⟨hhead, htail⟩
      calc
        (ds.foldl (fun s d => s + d) (sum + d)).toRat
            = (sum + d).toRat + (ds.map toRat).sum := ih (sum + d) htail
        _ = sum.toRat + ((d :: ds).map toRat).sum := by
              rw [toRat_add hhead, List.map_cons, List.sum_cons, add_assoc]

lemma strip_exp_le (fuel : Nat) : ∀ c e : Int, e ≤ (strip fuel c e).2 := by
  induction fuel with
  | zero => exact fun _ _ => le_rfl
  | succ fuel ih =>
      intro c e
      by_cases h : c % 10 = 0
      · have htail := ih (c / 10) (e + 1)
        simp only [strip, h, if_true]
        omega
      · simp [strip, h]

/-- Normal forms have no more decimal places than the parts that they are made of. -/
lemma le_exp_ofParts {places : Nat} {c e : Int} (h : -(places : Int) ≤ e) :
    -(places : Int) ≤ (ofParts c e).exp := by
  by_cases hc : c = 0
  · have hzero : (ofParts c e).exp = 0 := by
      rw [ofParts, dif_pos hc]
      rfl
    rw [hzero]
    omega
  · have hstrip : (ofParts c e).exp = (strip (c.natAbs.log2 + 1) c e).2 := by simp [ofParts, hc]
    rw [hstrip]
    exact h.trans (strip_exp_le _ c e)

/-- With few decimal places, the digits of an aligned sum are those of its value. -/
lemma natAbs_alignedSum_lt {places : Nat} {a b : Decimal} (ha : -(places : Int) ≤ a.exp)
    (hb : -(places : Int) ≤ b.exp)
    (hsmall : (|a.toRat| + |b.toRat|) * 10 ^ places < 10 ^ precision) :
    (alignedSum a b).natAbs < 10 ^ precision := by
  set e := min a.exp b.exp with he
  have hlow : -(places : Int) ≤ e := le_min ha hb
  have hpow : (0 : ℚ) < (10 : ℚ) ^ e := zpow_pos (by norm_num) e
  -- Multiplying by the places is multiplying by at least the power that the sum is aligned at.
  have hscale : (1 : ℚ) ≤ (10 : ℚ) ^ e * 10 ^ places := by
    rw [← zpow_natCast, ← zpow_add₀ (by norm_num)]
    exact one_le_zpow₀ (by norm_num) (by omega)
  have hvalue : |(alignedSum a b : ℚ)| * (10 : ℚ) ^ e ≤ |a.toRat| + |b.toRat| := by
    calc
      |(alignedSum a b : ℚ)| * (10 : ℚ) ^ e = |(alignedSum a b : ℚ) * (10 : ℚ) ^ e| := by
            rw [abs_mul, abs_of_pos hpow]
      _ = |a.toRat + b.toRat| := by rw [he, toRat_alignedSum]
      _ ≤ |a.toRat| + |b.toRat| := abs_add_le _ _
  have hbound : |(alignedSum a b : ℚ)| < 10 ^ precision := by
    calc
      |(alignedSum a b : ℚ)| ≤ |(alignedSum a b : ℚ)| * ((10 : ℚ) ^ e * 10 ^ places) :=
            le_mul_of_one_le_right (abs_nonneg _) hscale
      _ = |(alignedSum a b : ℚ)| * (10 : ℚ) ^ e * 10 ^ places := by ring
      _ ≤ (|a.toRat| + |b.toRat|) * 10 ^ places :=
            mul_le_mul_of_nonneg_right hvalue (by positivity)
      _ < 10 ^ precision := hsmall
  have hcast : ((alignedSum a b).natAbs : ℚ) = |(alignedSum a b : ℚ)| := by
    rw [← Int.cast_abs, Int.abs_eq_natAbs, Int.cast_natCast]
  rw [← hcast] at hbound
  exact_mod_cast hbound

/-- Numbers of few decimal places, whose magnitudes add up to few digits, are added up exactly. -/
theorem exactSums_of_small {places : Nat} :
    ∀ (ds : List Decimal) (sum : Decimal), -(places : Int) ≤ sum.exp →
      (∀ d ∈ ds, -(places : Int) ≤ d.exp) →
      (|sum.toRat| + (ds.map (fun d => |d.toRat|)).sum) * 10 ^ places < 10 ^ precision →
      ExactSums sum ds := by
  intro ds
  induction ds with
  | nil => exact fun _ _ _ _ => trivial
  | cons d ds ih =>
      intro sum hsum hds hsmall
      rw [List.map_cons, List.sum_cons] at hsmall
      have hrest : 0 ≤ (ds.map (fun d => |d.toRat|)).sum := by
        refine List.sum_nonneg (fun x hx => ?_)
        rcases List.mem_map.1 hx with ⟨d', _, rfl⟩
        exact abs_nonneg _
      have hplaces : (0 : ℚ) ≤ 10 ^ places := by positivity
      have hd := hds d List.mem_cons_self
      have hhead : (|sum.toRat| + |d.toRat|) * 10 ^ places < 10 ^ precision := by
        refine lt_of_le_of_lt (mul_le_mul_of_nonneg_right ?_ hplaces) hsmall
        rw [← add_assoc]
        exact le_add_of_nonneg_right hrest
      have hfits := natAbs_alignedSum_lt hsum hd hhead
      refine ⟨hfits, ih (sum + d) ?_ (fun d' hd' => hds d' (List.mem_cons_of_mem _ hd')) ?_⟩
      · have hadd : sum + d = ofParts (alignedSum sum d) (min sum.exp d.exp) := by
          change fix _ _ = _
          rw [fix, if_pos hfits]
        rw [hadd]
        exact le_exp_ofParts (le_min hsum hd)
      · rw [toRat_add hfits]
        refine lt_of_le_of_lt (mul_le_mul_of_nonneg_right ?_ hplaces) hsmall
        rw [← add_assoc]
        exact add_le_add (abs_add_le sum.toRat d.toRat) le_rfl

lemma fits_foldl_add {sum : Decimal} (hsum : sum.Fits) (ds : List Decimal) :
    (ds.foldl (fun s d => s + d) sum).Fits := by
  induction ds generalizing sum with
  | nil => exact hsum
  | cons d ds ih => exact ih (fits_add sum d)

/-! ## Text -/

/-- Fixed-point text of a magnitude with `places` digits after the point. -/
def pointChars (m places : Nat) : List Char :=
  if places = 0 then Nat.toDigits 10 m
  else
    let digits := Nat.toDigits 10 m
    let padded := List.replicate (places + 1 - digits.length) '0' ++ digits
    padded.take (padded.length - places) ++ '.' :: padded.drop (padded.length - places)

def textChars (d : Decimal) : List Char :=
  let sign := if d.coeff < 0 then ['-'] else []
  if 0 ≤ d.exp then sign ++ pointChars (d.coeff.natAbs * 10 ^ d.exp.toNat) 0
  else sign ++ pointChars d.coeff.natAbs (-d.exp).toNat

/-- Fixed-point text: no exponent, no trailing zero after the point. -/
def text (d : Decimal) : String := String.ofList d.textChars

/-- `format_decimal`: the text after a `normalize()`, which rounds to the context. -/
def format (d : Decimal) : String := (fix d.coeff d.exp).text

/-- Magnitude and places as the text shows them. -/
def readPoint (cs : List Char) : Nat × Nat :=
  (Nat.ofDigitChars 10 (cs.filter (fun c => c ≠ '.')) 0, cs.length - 1 - cs.idxOf '.')

lemma isDigit_of_mem_padded {m n : Nat} {c : Char} :
    c ∈ List.replicate n '0' ++ Nat.toDigits 10 m → c.isDigit = true := by
  intro h
  rcases List.mem_append.1 h with h | h
  · rw [(List.mem_replicate.1 h).2]
    rfl
  · exact Nat.isDigit_of_mem_toDigits (by decide) (by decide) h

lemma ne_of_isDigit {c d : Char} (hd : d.isDigit = false) : c.isDigit = true → c ≠ d := by
  rintro h rfl
  rw [hd] at h
  cases h

lemma filter_digits {cs : List Char} (h : ∀ c ∈ cs, c.isDigit = true) :
    cs.filter (fun c => c ≠ '.') = cs :=
  List.filter_eq_self.2 (fun c hc => by simpa using ne_of_isDigit rfl (h c hc))

lemma idxOf_point {cs ds : List Char} (h : ∀ c ∈ cs, c.isDigit = true) :
    (cs ++ '.' :: ds).idxOf '.' = cs.length := by
  have hnot : '.' ∉ cs := fun hmem => ne_of_isDigit rfl (h _ hmem) rfl
  rw [List.idxOf_append_of_notMem hnot, List.idxOf_cons_self, Nat.add_zero]

lemma readPoint_pointChars (m places : Nat) : readPoint (pointChars m places) = (m, places) := by
  by_cases h : places = 0
  · have hdigit : ∀ c ∈ Nat.toDigits 10 m, c.isDigit = true := fun c hc =>
      Nat.isDigit_of_mem_toDigits (by decide) (by decide) hc
    have hnot : '.' ∉ Nat.toDigits 10 m := fun hmem => ne_of_isDigit rfl (hdigit _ hmem) rfl
    have hindex : (Nat.toDigits 10 m).idxOf '.' = (Nat.toDigits 10 m).length :=
      List.idxOf_eq_length hnot
    simp only [readPoint, pointChars, h, if_true, filter_digits hdigit, hindex,
      Nat.ofDigitChars_ten_toDigits, Prod.mk.injEq, true_and]
    omega
  · set padded :=
      List.replicate (places + 1 - (Nat.toDigits 10 m).length) '0' ++ Nat.toDigits 10 m with hpadded
    have hdigit : ∀ c ∈ padded, c.isDigit = true := fun c hc => isDigit_of_mem_padded hc
    have hlength : places < padded.length := by
      rw [hpadded, List.length_append, List.length_replicate]
      omega
    have htake : ∀ c ∈ padded.take (padded.length - places), c.isDigit = true := fun c hc =>
      hdigit c (List.mem_of_mem_take hc)
    have hdrop : ∀ c ∈ padded.drop (padded.length - places), c.isDigit = true := fun c hc =>
      hdigit c (List.mem_of_mem_drop hc)
    have hvalue : Nat.ofDigitChars 10 padded 0 = m := by
      rw [hpadded, Nat.ofDigitChars_append, Nat.ofDigitChars_replicate_zero, Nat.mul_zero,
        Nat.ofDigitChars_ten_toDigits]
    have hshape : pointChars m places =
        padded.take (padded.length - places) ++ '.' :: padded.drop (padded.length - places) := by
      simp only [pointChars, h, if_false, hpadded]
    have hfilter : (pointChars m places).filter (fun c => c ≠ '.') = padded := by
      rw [hshape, List.filter_append, List.filter_cons_of_neg (by simp), filter_digits htake,
        filter_digits hdrop, List.take_append_drop]
    have hplaces : (pointChars m places).length - 1 - (pointChars m places).idxOf '.' = places := by
      rw [hshape, idxOf_point htake, List.length_append, List.length_cons, List.length_take,
        List.length_drop]
      omega
    rw [readPoint, hfilter, hvalue, hplaces]

/-- The first character of a magnitude is a digit. -/
lemma head_pointChars (m places : Nat) (cs : List Char) : pointChars m places ≠ '-' :: cs := by
  intro h
  have hmem : '-' ∈ pointChars m places := h ▸ List.mem_cons_self
  have hdigit : ∀ c ∈ pointChars m places, c = '.' ∨ c.isDigit = true := by
    intro c hc
    unfold pointChars at hc
    split at hc
    · exact Or.inr (Nat.isDigit_of_mem_toDigits (by decide) (by decide) hc)
    · rcases List.mem_append.1 hc with hc | hc
      · exact Or.inr (isDigit_of_mem_padded (List.mem_of_mem_take hc))
      · rcases List.mem_cons.1 hc with hc | hc
        · exact Or.inl hc
        · exact Or.inr (isDigit_of_mem_padded (List.mem_of_mem_drop hc))
  rcases hdigit '-' hmem with hpoint | hdigit
  · exact absurd hpoint (by decide)
  · exact absurd hdigit (by decide)

/-- Sign, magnitude and places give the value. -/
lemma textChars_eq (d : Decimal) :
    ∃ m places : Nat, d.textChars = (if d.coeff < 0 then ['-'] else []) ++ pointChars m places ∧
      d.toRat = (if d.coeff < 0 then -1 else 1) * (m : ℚ) * (10 : ℚ) ^ (-(places : Int)) := by
  have habs : (d.coeff : ℚ) = (if d.coeff < 0 then -1 else 1) * (d.coeff.natAbs : ℚ) := by
    by_cases hneg : d.coeff < 0
    · simp [hneg, abs_of_neg]
    · simp [hneg, abs_of_nonneg (not_lt.1 hneg)]
  by_cases hexp : 0 ≤ d.exp
  · refine ⟨d.coeff.natAbs * 10 ^ d.exp.toNat, 0, by simp [textChars, hexp], ?_⟩
    have hpow : (10 : ℚ) ^ d.exp = (10 : ℚ) ^ d.exp.toNat := by
      rw [← zpow_natCast, Int.toNat_of_nonneg hexp]
    rw [toRat, habs, hpow]
    push_cast
    ring
  · refine ⟨d.coeff.natAbs, (-d.exp).toNat, by simp [textChars, hexp], ?_⟩
    have hplaces : -((-d.exp).toNat : Int) = d.exp := by omega
    rw [toRat, habs, hplaces]

theorem text_injective : Function.Injective text := by
  intro a b hab
  have hchars := String.ofList_injective hab
  rcases textChars_eq a with ⟨m, places, ha, hvalue⟩
  rcases textChars_eq b with ⟨m', places', hb, hvalue'⟩
  rw [ha, hb] at hchars
  have hread : pointChars m places = pointChars m' places' → (m, places) = (m', places') := by
    intro h
    rw [← readPoint_pointChars, h, readPoint_pointChars]
  refine toRat_injective ?_
  by_cases hneg : a.coeff < 0
  · by_cases hneg' : b.coeff < 0
    · simp only [hneg, hneg', if_true, List.cons_append, List.nil_append, List.cons.injEq,
        true_and] at hchars
      rcases Prod.mk.inj (hread hchars) with ⟨rfl, rfl⟩
      simp only [hvalue, hvalue', hneg, hneg']
    · simp only [hneg, hneg', if_true, if_false, List.cons_append, List.nil_append] at hchars
      exact absurd hchars.symm (head_pointChars _ _ _)
  · by_cases hneg' : b.coeff < 0
    · simp only [hneg, hneg', if_true, if_false, List.cons_append, List.nil_append] at hchars
      exact absurd hchars (head_pointChars _ _ _)
    · simp only [hneg, hneg', if_false, List.nil_append] at hchars
      rcases Prod.mk.inj (hread hchars) with ⟨rfl, rfl⟩
      simp only [hvalue, hvalue', hneg, hneg']

/-- Formatted texts separate the decimals that fit. -/
theorem eq_of_format_eq {a b : Decimal} (ha : a.Fits) (hb : b.Fits) : a.format = b.format → a = b := by
  intro h
  rw [format, format, fix_of_fits ha, fix_of_fits hb] at h
  exact text_injective h

end Decimal

end Data
end Tallylot
