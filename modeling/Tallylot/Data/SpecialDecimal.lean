import Tallylot.Data.Attempts
import Tallylot.Data.DecimalContext

/-!
# SpecialDecimal — decimals with infinities and NaNs

`Decimal(text)` also reads the names of infinities and NaNs.  An infinity is compared like a number.  A
quiet NaN is equal to nothing, and to compare it by order raises `InvalidOperation`; a signalling one
raises already when it is parsed and is no value here.  A text is read exactly; `quantize` and the sums
round to the context and raise `Overflow` above its greatest exponent.  Signs are changed of numbers
that the context has rounded already.
-/

namespace Tallylot
namespace Data

inductive SpecialDecimal
  | finite (value : Decimal)
  | infinite (negative : Bool)
  | nan
  deriving DecidableEq, Repr

namespace SpecialDecimal

/-! ## Reading -/

/-- The characters of a number, with its digits in ASCII. -/
def plainChars (text : String) : List Char :=
  ((Data.strip text).toList.map asciiDigit).filter (fun c => c ≠ '_')

/-- The letters of a number without its sign, in lower case. -/
def letters (signed : Bool × List Char) : List Char := signed.2.map Char.toLower

/-- The exponents that the constructor takes: `MAX_EMAX`, and the least one of so many digits. -/
def Constructible (parts : Int × Int) : Prop :=
  parts.2 + Nat.log 10 parts.1.natAbs ≤ 999999999999999999 ∧ -1999999999999999997 ≤ parts.2

instance (parts : Int × Int) : Decidable (Constructible parts) :=
  inferInstanceAs (Decidable (_ ∧ _))

/-- `Decimal(text)` -/
def read (text : String) : Option SpecialDecimal :=
  let signed := Decimal.readSign (plainChars text)
  if letters signed = "inf".toList ∨ letters signed = "infinity".toList then some (.infinite signed.1)
  else if (letters signed).take 3 = "nan".toList ∧ ((letters signed).drop 3).all Char.isDigit = true then
    some .nan
  else do
    let parts ← Decimal.readParts text
    if Constructible parts then some (.finite (Decimal.ofParts parts.1 parts.2)) else none

/-- `quantize_decimal` -/
def quantize : SpecialDecimal → Decoded SpecialDecimal
  | finite value => value.finalize.map finite
  | infinite negative => .ok (infinite negative)
  | nan => .ok nan

/-- `parse_decimal` of a text; a blank one stands for no decimal. -/
def parse (text : String) : Decoded (Option SpecialDecimal) :=
  if Data.strip text = "" then .ok none
  else
    match read (Data.strip text) with
    | none => .error .invalidOperation
    | some value => value.quantize.map some

/-- `parse_decimal` of a text that is blank or a numeral. -/
def parseNumeral (text : String) : Decoded (Option Decimal) :=
  if Data.strip text = "" then .ok none
  else
    match Decimal.readParts (Data.strip text) with
    | none => .error .invalidOperation
    | some parts =>
        if Constructible parts then (Decimal.ofParts parts.1 parts.2).finalize.map some
        else .error .invalidOperation

/-! ## Comparing -/

/-- `value == Decimal("0")` -/
def isZero : SpecialDecimal → Bool
  | finite value => value = 0
  | infinite _ => false
  | nan => false

/-- `value < Decimal("0")` -/
def isNegative : SpecialDecimal → Decoded Bool
  | finite value => .ok (value.coeff < 0)
  | infinite negative => .ok negative
  | nan => .error .invalidOperation

/-- `value > Decimal("0")` -/
def isPositive : SpecialDecimal → Decoded Bool
  | finite value => .ok (0 < value.coeff)
  | infinite negative => .ok !negative
  | nan => .error .invalidOperation

/-- `value.is_finite()` -/
def isFinite : SpecialDecimal → Bool
  | finite _ => true
  | infinite _ | nan => false

/-! ## Signs -/

/-- `value.copy_abs()` -/
def copyAbs : SpecialDecimal → SpecialDecimal
  | finite value => finite (if value.coeff < 0 then value.copyNegate else value)
  | infinite _ => infinite false
  | nan => nan

/-- `value.copy_negate()` -/
def copyNegate : SpecialDecimal → SpecialDecimal
  | finite value => finite value.copyNegate
  | infinite negative => infinite !negative
  | nan => nan

/-- `-value` -/
def neg : SpecialDecimal → SpecialDecimal
  | finite value => finite (-value)
  | infinite negative => infinite !negative
  | nan => nan

/-- `abs(value)` -/
def abs : SpecialDecimal → SpecialDecimal
  | finite value => finite value.abs
  | infinite _ => infinite false
  | nan => nan

/-! ## Sums -/

/-- `value + other`; infinities of different signs have no sum. -/
def add : SpecialDecimal → SpecialDecimal → Decoded SpecialDecimal
  | nan, _ | _, nan => .ok nan
  | finite value, finite other => (value.exactSum other).finalize.map finite
  | infinite negative, finite _ | finite _, infinite negative => .ok (infinite negative)
  | infinite negative, infinite other =>
      if negative = other then .ok (infinite negative) else .error .invalidOperation

/-- `value - other` -/
def sub : SpecialDecimal → SpecialDecimal → Decoded SpecialDecimal
  | nan, _ | _, nan => .ok nan
  | finite value, finite other => (value.exactDifference other).finalize.map finite
  | infinite negative, finite _ => .ok (infinite negative)
  | finite _, infinite negative => .ok (infinite !negative)
  | infinite negative, infinite other =>
      if negative ≠ other then .ok (infinite negative) else .error .invalidOperation

/-! ## Texts -/

/-- `str(value)`, which takes an exponent for what is too long without. -/
def str : SpecialDecimal → String
  | finite value =>
      let digits := Nat.toDigits 10 value.coeff.natAbs
      let adjusted := value.exp + digits.length - 1
      if value.exp ≤ 0 ∧ -6 ≤ adjusted then value.text
      else
        (if value.coeff < 0 then "-" else "") ++ String.ofList (digits.take 1) ++
          (if digits.length = 1 then "" else "." ++ String.ofList (digits.drop 1)) ++ "E" ++
            (if 0 ≤ adjusted then "+" else "") ++ toString adjusted
  | infinite negative => if negative then "-Infinity" else "Infinity"
  | nan => "NaN"

/-- `format_decimal` -/
def format : SpecialDecimal → String
  | finite value => value.format
  | infinite negative => if negative then "-Infinity" else "Infinity"
  | nan => "NaN"

/-- A number that a check of zero and of signs does not tell from the value. -/
def standIn : SpecialDecimal → Decimal
  | finite value => value
  | infinite negative => Decimal.ofParts (if negative then -1 else 1) 0
  | nan => Decimal.ofParts 1 0

/-- Comparable with zero and above it. -/
def IsPositive : SpecialDecimal → Prop
  | finite value => 0 < value.coeff
  | infinite negative => negative = false
  | nan => False

lemma isPositive_of_checks {value : SpecialDecimal} (hzero : value.isZero = false)
    (hsign : value.isNegative = .ok false) : value.IsPositive := by
  cases value with
  | finite value =>
      have hne : value.coeff ≠ 0 := by
        intro hcoeff
        refine absurd ((Decimal.toRat_eq_zero_iff value).1 ?_) (of_decide_eq_false hzero)
        rw [Decimal.toRat, hcoeff, Int.cast_zero, zero_mul]
      have hle : ¬value.coeff < 0 := of_decide_eq_false (Except.ok.inj hsign)
      exact lt_of_le_of_ne (not_lt.1 hle) hne.symm
  | infinite negative => exact Except.ok.inj hsign
  | nan => cases hsign

lemma copyAbs_of_not_negative {value : SpecialDecimal} (h : value.isNegative = .ok false) :
    value.copyAbs = value := by
  cases value with
  | finite value => rw [copyAbs, if_neg (of_decide_eq_false (Except.ok.inj h))]
  | infinite negative => rw [copyAbs, Except.ok.inj h]
  | nan => rfl

/-- The magnitude of what is not zero and can be compared. -/
lemma isPositive_copyAbs {value : SpecialDecimal} (hzero : value.isZero = false) {negative : Bool}
    (hsign : value.isNegative = .ok negative) : value.copyAbs.IsPositive := by
  cases value with
  | finite value =>
      by_cases hlt : value.coeff < 0
      · have hten : (0 : ℚ) < (10 : ℚ) ^ value.exp := zpow_pos (by norm_num) _
        have hpos : (0 : ℚ) < ((-value.coeff : Int) : ℚ) := Int.cast_pos.2 (by omega)
        rw [copyAbs, if_pos hlt]
        refine (Decimal.toRat_pos_iff _).1 ?_
        rw [Decimal.copyNegate, Decimal.toRat_ofParts]
        exact mul_pos hpos hten
      · have hnot : (finite value).isNegative = .ok false := by rw [isNegative, decide_eq_false hlt]
        rw [copyAbs_of_not_negative hnot]
        exact isPositive_of_checks hzero hnot
  | infinite negative => rfl
  | nan => cases hsign

lemma pos_standIn {value : SpecialDecimal} (h : value.IsPositive) : 0 < value.standIn.coeff := by
  cases value with
  | finite value => exact h
  | infinite negative =>
      rw [show negative = false from h]
      decide
  | nan => cases h

lemma standIn_neg {value : SpecialDecimal} (h : value.IsPositive) :
    value.neg.standIn.coeff < 0 := by
  cases value with
  | finite value =>
      rcases Decimal.sign_fix (-value.coeff) value.exp with ⟨c, e, hfix, hpos, hzero⟩
      have hvalue : 0 < value.coeff := h
      have hten : (0 : ℚ) < (10 : ℚ) ^ e := zpow_pos (by norm_num) _
      have hc : c < 0 := by omega
      have hnot : ¬0 < (-value).coeff := by
        change ¬0 < (Decimal.fix (-value.coeff) value.exp).coeff
        rw [hfix, ← Decimal.toRat_pos_iff, Decimal.toRat_ofParts, mul_pos_iff_of_pos_right hten,
          Int.cast_pos]
        omega
      have hne : (-value).coeff ≠ 0 := by
        intro hcoeff
        have hrat : (Decimal.ofParts c e).toRat = 0 := by
          rw [← hfix]
          change (-value).toRat = 0
          rw [Decimal.toRat, hcoeff, Int.cast_zero, zero_mul]
        rw [Decimal.toRat_ofParts, mul_eq_zero_iff_right hten.ne', Int.cast_eq_zero] at hrat
        omega
      exact lt_of_le_of_ne (not_lt.1 hnot) hne
  | infinite negative =>
      rw [show negative = false from h]
      decide
  | nan => cases h

lemma ne_nan_of_isPositive {value : SpecialDecimal} (h : value.IsPositive) :
    value ≠ nan ∧ value.neg ≠ nan := by
  cases value with
  | finite value => exact ⟨(fun h => by cases h), (fun h => by cases h)⟩
  | infinite negative => exact ⟨(fun h => by cases h), (fun h => by cases h)⟩
  | nan => cases h

/-! ## Rounded numbers -/

lemma map_finite_eq_ok_iff {d : Decimal} {value : SpecialDecimal} :
    d.finalize.map finite = .ok value ↔ ¬d.Overflows ∧ finite d.rounded = value := by
  unfold Decimal.finalize
  split_ifs with hover
  · exact iff_of_false (fun h => by cases h) (fun h => h.1 hover)
  · rw [Except.map, Except.ok.injEq, and_iff_right hover]

lemma exists_map_finite_iff {d : Decimal} :
    (∃ value, d.finalize.map finite = .ok value ∧ value ≠ nan) ↔ ¬d.Overflows := by
  constructor
  · rintro ⟨value, hvalue, _⟩
    exact (map_finite_eq_ok_iff.1 hvalue).1
  · intro h
    exact ⟨_, map_finite_eq_ok_iff.2 ⟨h, rfl⟩, (fun hnan => by cases hnan)⟩

lemma quantize_finite_eq_ok_iff {d : Decimal} {value : SpecialDecimal} :
    quantize (finite d) = .ok value ↔ ¬d.Overflows ∧ finite d.rounded = value := map_finite_eq_ok_iff

/-! ## Blank texts -/

lemma parse_eq_ok_none_iff {text : String} : parse text = .ok none ↔ Data.strip text = "" := by
  unfold parse
  constructor
  · intro h
    split_ifs at h with hblank
    · exact hblank
    · cases hread : read (Data.strip text) with
      | none =>
          rw [hread] at h
          cases h
      | some value =>
          rw [hread] at h
          dsimp only at h
          cases hquantized : value.quantize with
          | error e =>
              rw [hquantized] at h
              cases h
          | ok result =>
              rw [hquantized] at h
              cases Except.ok.inj h
  · intro h
    rw [if_pos h]

lemma parse_eq_ok_some_iff {text : String} {value : SpecialDecimal} (hfilled : Data.strip text ≠ "") :
    parse text = .ok (some value) ↔
      ∃ shown, read (Data.strip text) = some shown ∧ shown.quantize = .ok value := by
  rw [parse, if_neg hfilled]
  cases hread : read (Data.strip text) with
  | none => exact iff_of_false (fun h => by cases h) (fun ⟨_, h, _⟩ => by cases h)
  | some shown =>
      dsimp only
      cases hquantized : shown.quantize with
      | error e =>
          refine iff_of_false (fun h => by cases h) (fun ⟨other, hother, h⟩ => ?_)
          rw [← Option.some.inj hother, hquantized] at h
          cases h
      | ok result =>
          rw [Except.map, Except.ok.injEq, Option.some.injEq]
          constructor
          · rintro rfl
            exact ⟨shown, rfl, hquantized⟩
          · rintro ⟨other, hother, h⟩
            rw [← Option.some.inj hother, hquantized] at h
            exact Except.ok.inj h

lemma read_of_parse {text : String} {value : SpecialDecimal} (h : parse text = .ok (some value)) :
    ∃ shown, read (Data.strip text) = some shown ∧ shown.quantize = .ok value := by
  refine (parse_eq_ok_some_iff (fun hblank => ?_)).1 h
  rw [parse_eq_ok_none_iff.2 hblank] at h
  cases Except.ok.inj h

lemma read_strip (text : String) : read (Data.strip text) = read text := by
  unfold read plainChars Decimal.readParts
  rw [Data.strip_strip]

/-- A text of an infinity or of a NaN is parsed as it reads, and no other text is parsed as one. -/
lemma parse_eq_ok_special_iff {text : String} {value : SpecialDecimal}
    (hspecial : value.isFinite = false) : parse text = .ok (some value) ↔ read text = some value := by
  have hkept : ∀ {shown : SpecialDecimal}, shown.quantize = .ok value ↔ shown = value := by
    intro shown
    cases shown with
    | finite d =>
        refine iff_of_false (fun h => ?_) ?_
        · rw [← (quantize_finite_eq_ok_iff.1 h).2] at hspecial
          cases hspecial
        · rintro rfl
          cases hspecial
    | infinite negative => rw [quantize, Except.ok.injEq]
    | nan => rw [quantize, Except.ok.injEq]
  by_cases hblank : Data.strip text = ""
  · have hnone : read "" = none := by decide +kernel
    rw [parse_eq_ok_none_iff.2 hblank, ← read_strip, hblank, hnone]
    exact iff_of_false (fun h => by cases Except.ok.inj h) (fun h => by cases h)
  · rw [parse_eq_ok_some_iff hblank, read_strip]
    constructor
    · rintro ⟨shown, hshown, hquantized⟩
      rw [hshown, hkept.1 hquantized]
    · exact fun h => ⟨value, h, hkept.2 rfl⟩

/-- What is comparable is no NaN. -/
lemma exists_isNegative_iff {value : SpecialDecimal} :
    (∃ negative, value.isNegative = .ok negative) ↔ value ≠ nan := by
  cases value with
  | finite value => exact iff_of_true ⟨_, rfl⟩ (fun h => by cases h)
  | infinite negative => exact iff_of_true ⟨_, rfl⟩ (fun h => by cases h)
  | nan => exact iff_of_false (fun ⟨_, h⟩ => by cases h) (fun h => h rfl)

lemma exists_isPositive_iff {value : SpecialDecimal} :
    (∃ positive, value.isPositive = .ok positive) ↔ value ≠ nan := by
  cases value with
  | finite value => exact iff_of_true ⟨_, rfl⟩ (fun h => by cases h)
  | infinite negative => exact iff_of_true ⟨_, rfl⟩ (fun h => by cases h)
  | nan => exact iff_of_false (fun ⟨_, h⟩ => by cases h) (fun h => h rfl)

lemma ne_nan_of_isPositive_ok {value : SpecialDecimal} {positive : Bool}
    (h : value.isPositive = .ok positive) : value ≠ nan := exists_isPositive_iff.1 ⟨_, h⟩

lemma not_isZero_of_isPositive {value : SpecialDecimal} (h : value.isPositive = .ok true) :
    ¬value.isZero = true := by
  cases value with
  | finite value =>
      intro hzero
      have hcoeff : 0 < value.coeff := of_decide_eq_true (Except.ok.inj h)
      rw [of_decide_eq_true hzero] at hcoeff
      exact absurd hcoeff (by decide)
  | infinite negative => exact Bool.false_ne_true
  | nan => cases h

/-! ## What no `ValueError` reports -/

lemma uncaught_map {α β : Type} {x : Decoded α} {f : α → β} (h : Uncaught x) : Uncaught (x.map f) := by
  cases x with
  | ok a => exact uncaught_ok
  | error e =>
      intro message heq
      exact h message (congrArg Except.error (Except.error.inj heq))

lemma uncaught_finalize {d : Decimal} : Uncaught d.finalize := by
  unfold Decimal.finalize
  split_ifs
  · exact uncaught_overflow
  · exact uncaught_ok

lemma uncaught_quantize {value : SpecialDecimal} : Uncaught value.quantize := by
  cases value with
  | finite value => exact uncaught_map uncaught_finalize
  | infinite negative => exact uncaught_ok
  | nan => exact uncaught_ok

lemma uncaught_parse {text : String} : Uncaught (parse text) := by
  unfold parse
  split_ifs
  · exact uncaught_ok
  · cases read (Data.strip text) with
    | none => exact uncaught_invalidOperation
    | some value => exact uncaught_map uncaught_quantize

lemma uncaught_isNegative {value : SpecialDecimal} : Uncaught value.isNegative := by
  cases value with
  | finite value => exact uncaught_ok
  | infinite negative => exact uncaught_ok
  | nan => exact uncaught_invalidOperation

lemma uncaught_isPositive {value : SpecialDecimal} : Uncaught value.isPositive := by
  cases value with
  | finite value => exact uncaught_ok
  | infinite negative => exact uncaught_ok
  | nan => exact uncaught_invalidOperation

lemma uncaught_add {value other : SpecialDecimal} : Uncaught (value.add other) := by
  cases value with
  | nan => exact uncaught_ok
  | finite value =>
      cases other with
      | nan => exact uncaught_ok
      | finite other => exact uncaught_map uncaught_finalize
      | infinite negative => exact uncaught_ok
  | infinite negative =>
      cases other with
      | nan => exact uncaught_ok
      | finite other => exact uncaught_ok
      | infinite sign =>
          exact iteInduction (fun _ => uncaught_ok) (fun _ => uncaught_invalidOperation)

lemma uncaught_sub {value other : SpecialDecimal} : Uncaught (value.sub other) := by
  cases value with
  | nan => exact uncaught_ok
  | finite value =>
      cases other with
      | nan => exact uncaught_ok
      | finite other => exact uncaught_map uncaught_finalize
      | infinite negative => exact uncaught_ok
  | infinite negative =>
      cases other with
      | nan => exact uncaught_ok
      | finite other => exact uncaught_ok
      | infinite sign =>
          exact iteInduction (fun _ => uncaught_ok) (fun _ => uncaught_invalidOperation)

/-! ## Finite values -/

lemma exists_of_isFinite {value : SpecialDecimal} (h : value.isFinite = true) :
    ∃ d, value = finite d := by
  cases value with
  | finite d => exact ⟨d, rfl⟩
  | infinite negative => cases h
  | nan => cases h

/-! ## Exact amounts -/

/-- The digits and the exponent of a magnitude under a minus. -/
lemma copyNegate_magnitude (d : Decimal) :
    (if d.coeff < 0 then d.copyNegate else d).copyNegate.coeff.natAbs = d.coeff.natAbs ∧
      (if d.coeff < 0 then d.copyNegate else d).copyNegate.exp = d.exp := by
  rw [(Decimal.copyNegate_parts _).1, (Decimal.copyNegate_parts _).2]
  split_ifs
  · rw [(Decimal.copyNegate_parts _).1, (Decimal.copyNegate_parts _).2]
    exact ⟨by omega, rfl⟩
  · exact ⟨by omega, rfl⟩

lemma fits_magnitude {d : Decimal} (h : d.Fits) : (if d.coeff < 0 then d.copyNegate else d).Fits := by
  split_ifs
  · rw [Decimal.Fits, (Decimal.copyNegate_parts d).1, Int.natAbs_neg]
    exact h
  · exact h

/-- Rounding leaves exactly the numbers of the context as they are. -/
lemma quantize_eq_self_iff {shown amount : SpecialDecimal} (h : shown.quantize = .ok amount) :
    amount = shown ↔ ∀ d, shown = finite d → d.InContext := by
  cases shown with
  | finite d =>
      have hself : amount = finite d ↔ d.InContext := by
        rw [← Decimal.finalize_eq_ok_self_iff, Decimal.finalize_eq_ok_iff]
        rcases quantize_finite_eq_ok_iff.1 h with ⟨hover, rfl⟩
        rw [and_iff_right hover, finite.injEq]
      rw [hself]
      exact ⟨fun hd other hother => finite.inj hother ▸ hd, fun hall => hall d rfl⟩
  | infinite negative =>
      exact iff_of_true (Except.ok.inj h).symm (fun _ hd => by cases hd)
  | nan => exact iff_of_true (Except.ok.inj h).symm (fun _ hd => by cases hd)

/-- The same for magnitudes under a minus. -/
lemma negated_eq_iff {shown amount : SpecialDecimal} (h : shown.quantize = .ok amount) :
    amount.copyAbs.neg = shown.copyAbs.copyNegate ↔ ∀ d, shown = finite d → d.InContext := by
  cases shown with
  | finite d =>
      rcases quantize_finite_eq_ok_iff.1 h with ⟨hover, rfl⟩
      have hneg : (finite d.rounded).copyAbs.neg =
          finite (if d.rounded.coeff < 0 then d.rounded.copyNegate else d.rounded).copyNegate := by
        rw [copyAbs, neg, Decimal.neg_of_fits (fits_magnitude (Decimal.fits_rounded d))]
      rw [hneg, copyAbs, copyNegate, finite.injEq]
      constructor
      · rintro hsame other hother
        cases hother
        have hrounded := copyNegate_magnitude d.rounded
        have hexact := copyNegate_magnitude d
        rw [hsame] at hrounded
        exact Decimal.inContext_of_rounded hover (hrounded.1.symm.trans hexact.1)
          (hrounded.2.symm.trans hexact.2)
      · intro hall
        rw [Decimal.rounded_of_inContext (hall d rfl)]
  | infinite negative =>
      rw [← Except.ok.inj h]
      exact iff_of_true rfl (fun _ hd => by cases hd)
  | nan =>
      rw [← Except.ok.inj h]
      exact iff_of_true rfl (fun _ hd => by cases hd)

/-! ## Zero and NaN under signs -/

lemma standIn_eq_zero_iff {value : SpecialDecimal} : value.standIn = 0 ↔ value.isZero = true := by
  cases value with
  | finite value => exact decide_eq_true_iff.symm
  | infinite negative =>
      refine iff_of_false ?_ Bool.false_ne_true
      cases negative <;> decide
  | nan => exact iff_of_false (by decide) Bool.false_ne_true

lemma fix_eq_zero_iff (c e : Int) : Decimal.fix c e = 0 ↔ c = 0 := by
  rcases Decimal.sign_fix c e with ⟨c', e', hfix, _, hzero⟩
  have hten : (10 : ℚ) ^ e' ≠ 0 := zpow_ne_zero e' (by norm_num)
  rw [hfix, ← Decimal.toRat_eq_zero_iff, Decimal.toRat_ofParts, mul_eq_zero_iff_right hten,
    Int.cast_eq_zero, hzero]

lemma coeff_eq_zero_iff (d : Decimal) : d.coeff = 0 ↔ d = 0 := by
  have hten : (10 : ℚ) ^ d.exp ≠ 0 := zpow_ne_zero d.exp (by norm_num)
  rw [← Decimal.toRat_eq_zero_iff, Decimal.toRat, mul_eq_zero_iff_right hten, Int.cast_eq_zero]

@[simp] lemma isZero_neg (value : SpecialDecimal) : value.neg.isZero = value.isZero := by
  cases value with
  | finite value =>
      refine decide_eq_decide.2 ?_
      change Decimal.fix (-value.coeff) value.exp = 0 ↔ value = 0
      rw [fix_eq_zero_iff, neg_eq_zero, coeff_eq_zero_iff]
  | infinite negative => rfl
  | nan => rfl

@[simp] lemma isZero_abs (value : SpecialDecimal) : value.abs.isZero = value.isZero := by
  cases value with
  | finite value =>
      refine decide_eq_decide.2 ?_
      change Decimal.fix |value.coeff| value.exp = 0 ↔ value = 0
      rw [fix_eq_zero_iff, abs_eq_zero, coeff_eq_zero_iff]
  | infinite negative => rfl
  | nan => rfl

@[simp] lemma neg_eq_nan_iff {value : SpecialDecimal} : value.neg = nan ↔ value = nan := by
  cases value with
  | finite value => exact iff_of_false (fun h => by cases h) (fun h => by cases h)
  | infinite negative => exact iff_of_false (fun h => by cases h) (fun h => by cases h)
  | nan => exact iff_of_true rfl rfl

@[simp] lemma abs_eq_nan_iff {value : SpecialDecimal} : value.abs = nan ↔ value = nan := by
  cases value with
  | finite value => exact iff_of_false (fun h => by cases h) (fun h => by cases h)
  | infinite negative => exact iff_of_false (fun h => by cases h) (fun h => by cases h)
  | nan => exact iff_of_true rfl rfl

end SpecialDecimal
end Data
end Tallylot
