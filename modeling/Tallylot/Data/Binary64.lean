import Mathlib.Algebra.Order.Field.Power
import Mathlib.Data.Int.Log
import Mathlib.Data.Rat.Floor
import Mathlib.Tactic.Linarith
import Mathlib.Tactic.NormNum
import Mathlib.Tactic.Positivity

/-!
# Binary64 — rounding to doubles

`nearest` is the double that stands for a number: 53 binary places, ties to even.  Numbers too small
or too large for a normal double are not met.  Rounding keeps the order (`nearest_mono`), and an even
number of last places is reached from half a place below it on (`le_roundHalfEven_iff`).
-/

namespace Tallylot
namespace Data
namespace Binary64

/-- The nearest integer, the even one of two that are as near. -/
def roundHalfEven (q : ℚ) : Int :=
  if q - ⌊q⌋ < 1 / 2 then ⌊q⌋
  else if q - ⌊q⌋ = 1 / 2 ∧ ⌊q⌋ % 2 = 0 then ⌊q⌋
  else ⌊q⌋ + 1

/-- Exponent of the last of the 53 places. -/
def lastPlace (q : ℚ) : Int := Int.log 2 |q| - 52

def nearest (q : ℚ) : ℚ := roundHalfEven (q / 2 ^ lastPlace q) * 2 ^ lastPlace q

/-! ## Integers -/

lemma le_roundHalfEven_iff {n : Int} {q : ℚ} (heven : n % 2 = 0) :
    n ≤ roundHalfEven q ↔ (n : ℚ) - 1 / 2 ≤ q := by
  have hlow := Int.floor_le q
  have hhigh := Int.lt_floor_add_one q
  unfold roundHalfEven
  split_ifs with hbelow htie
  · constructor
    · intro h
      have hcast : (n : ℚ) ≤ ⌊q⌋ := by exact_mod_cast h
      linarith
    · intro h
      have hcast : (n : ℚ) < ⌊q⌋ + 1 := by linarith
      exact Int.lt_add_one_iff.1 (by exact_mod_cast hcast)
  -- An even number is not the odd one above the tie.
  · constructor
    · intro h
      have hcast : (n : ℚ) ≤ ⌊q⌋ := by exact_mod_cast h
      linarith
    · intro h
      have hcast : (n : ℚ) ≤ ⌊q⌋ + 1 := by linarith [htie.1]
      have hn : n ≤ ⌊q⌋ + 1 := by exact_mod_cast hcast
      have hparity := htie.2
      omega
  · constructor
    · intro h
      have hcast : (n : ℚ) ≤ ⌊q⌋ + 1 := by exact_mod_cast h
      linarith
    · intro h
      have hcast : (n : ℚ) < ⌊q⌋ + 1 + 1 := by linarith
      exact Int.lt_add_one_iff.1 (by exact_mod_cast hcast)

/-- An integer less than half away is the nearest. -/
lemma roundHalfEven_eq {m : Int} {q : ℚ} (h : |q - m| < 1 / 2) : roundHalfEven q = m := by
  rcases abs_lt.1 h with ⟨hlow, hhigh⟩
  rcases le_or_gt (m : ℚ) q with hle | hlt
  · have hfloor : ⌊q⌋ = m := Int.floor_eq_iff.2 ⟨hle, by linarith⟩
    rw [roundHalfEven, hfloor, if_pos hhigh]
  · have hfloor : ⌊q⌋ = m - 1 := Int.floor_eq_iff.2 ⟨by push_cast; linarith, by push_cast; linarith⟩
    rw [roundHalfEven, hfloor]
    push_cast
    rw [if_neg (by linarith), if_neg (fun htie => by linarith [htie.1])]
    exact sub_add_cancel m 1

lemma roundHalfEven_intCast (m : Int) : roundHalfEven (m : ℚ) = m :=
  roundHalfEven_eq (by simp)

lemma roundHalfEven_mono {q r : ℚ} (h : q ≤ r) : roundHalfEven q ≤ roundHalfEven r := by
  have hfloor := Int.floor_le_floor h
  rcases hfloor.eq_or_lt with heq | hlt
  · unfold roundHalfEven
    rw [← heq]
    split_ifs <;> grind
  · have hround : roundHalfEven q ≤ ⌊q⌋ + 1 := by
      unfold roundHalfEven
      split_ifs <;> omega
    have hround' : ⌊r⌋ ≤ roundHalfEven r := by
      unfold roundHalfEven
      split_ifs <;> omega
    omega

/-! ## Doubles -/

lemma lastPlace_eq {q : ℚ} {e : Int} (hlow : 2 ^ 52 ≤ q / 2 ^ e) (hhigh : q / 2 ^ e < 2 ^ 53) :
    lastPlace q = e := by
  have hplace : (0 : ℚ) < 2 ^ e := by positivity
  rw [le_div_iff₀ hplace] at hlow
  rw [div_lt_iff₀ hplace] at hhigh
  have hq : 0 < q := lt_of_lt_of_le (mul_pos (by norm_num) hplace) hlow
  have hlow' : (2 : ℚ) ^ (52 + e) ≤ q := by
    rw [zpow_add₀ (by norm_num)]
    exact_mod_cast hlow
  have hhigh' : q < (2 : ℚ) ^ (53 + e) := by
    rw [zpow_add₀ (by norm_num)]
    exact_mod_cast hhigh
  have hle : 52 + e ≤ Int.log 2 q :=
    (Int.zpow_le_iff_le_log (by decide) hq).1 (by exact_mod_cast hlow')
  have hlt : Int.log 2 q < 53 + e :=
    (Int.lt_zpow_iff_log_lt (by decide) hq).1 (by exact_mod_cast hhigh')
  rw [lastPlace, abs_of_pos hq]
  omega

lemma scaled_bounds {q : ℚ} (hq : 0 < q) :
    2 ^ 52 ≤ q / 2 ^ lastPlace q ∧ q / 2 ^ lastPlace q < 2 ^ 53 := by
  have hplace : (0 : ℚ) < 2 ^ lastPlace q := by positivity
  have hlow := Int.zpow_log_le_self (b := 2) (by decide) hq
  have hhigh := Int.lt_zpow_succ_log_self (b := 2) (by decide) q
  have hlog : Int.log 2 q = 52 + lastPlace q := by
    rw [lastPlace, abs_of_pos hq]
    omega
  rw [hlog] at hlow hhigh
  push_cast at hlow hhigh
  rw [zpow_add₀ (by norm_num)] at hlow
  rw [show 52 + lastPlace q + 1 = 53 + lastPlace q by ring, zpow_add₀ (by norm_num)] at hhigh
  exact ⟨(le_div_iff₀ hplace).2 (by exact_mod_cast hlow), (div_lt_iff₀ hplace).2 (by exact_mod_cast hhigh)⟩

lemma nearest_zero : nearest 0 = 0 := by
  rw [nearest, zero_div, ← Int.cast_zero, roundHalfEven_intCast, Int.cast_zero, zero_mul]

lemma nearest_bounds {q : ℚ} (hq : 0 < q) :
    2 ^ 52 * 2 ^ lastPlace q ≤ nearest q ∧ nearest q ≤ 2 ^ 53 * 2 ^ lastPlace q := by
  have hplace : (0 : ℚ) < 2 ^ lastPlace q := by positivity
  rcases scaled_bounds hq with ⟨hlow, hhigh⟩
  have hround : roundHalfEven ((2 ^ 52 : Int) : ℚ) ≤ roundHalfEven (q / 2 ^ lastPlace q) :=
    roundHalfEven_mono (by exact_mod_cast hlow)
  have hround' : roundHalfEven (q / 2 ^ lastPlace q) ≤ roundHalfEven ((2 ^ 53 : Int) : ℚ) :=
    roundHalfEven_mono (by exact_mod_cast hhigh.le)
  rw [roundHalfEven_intCast] at hround hround'
  exact ⟨mul_le_mul_of_nonneg_right (by exact_mod_cast hround) hplace.le,
    mul_le_mul_of_nonneg_right (by exact_mod_cast hround') hplace.le⟩

lemma nearest_nonneg {q : ℚ} (hq : 0 ≤ q) : 0 ≤ nearest q := by
  rcases hq.eq_or_lt with rfl | hpos
  · rw [nearest_zero]
  · exact le_trans (by positivity) (nearest_bounds hpos).1

/-- Rounding keeps the order. -/
theorem nearest_mono {q r : ℚ} (hq : 0 ≤ q) (h : q ≤ r) : nearest q ≤ nearest r := by
  rcases hq.eq_or_lt with rfl | hpos
  · rw [nearest_zero]
    exact nearest_nonneg h
  have hlog : lastPlace q ≤ lastPlace r := by
    have hmono := Int.log_mono_right (b := 2) hpos h
    rw [lastPlace, lastPlace, abs_of_pos hpos, abs_of_pos (lt_of_lt_of_le hpos h)]
    omega
  rcases hlog.eq_or_lt with heq | hlt
  · have hplace : (0 : ℚ) < 2 ^ lastPlace r := by positivity
    rw [nearest, nearest, heq]
    refine mul_le_mul_of_nonneg_right ?_ hplace.le
    exact_mod_cast roundHalfEven_mono (div_le_div_of_nonneg_right h hplace.le)
  -- The larger number has its places from the next power of two on.
  · calc
      nearest q ≤ 2 ^ 53 * 2 ^ lastPlace q := (nearest_bounds hpos).2
      _ = 2 ^ 52 * 2 ^ (lastPlace q + 1) := by
        rw [zpow_add₀ (by norm_num)]
        norm_num
        ring
      _ ≤ 2 ^ 52 * 2 ^ lastPlace r := by
        refine mul_le_mul_of_nonneg_left ?_ (by norm_num)
        exact zpow_le_zpow_right₀ (by norm_num) hlt
      _ ≤ nearest r := (nearest_bounds (lt_of_lt_of_le hpos h)).1

end Binary64
end Data
end Tallylot
