import Tallylot.Data.Binary64
import Tallylot.Data.Calendar

/-!
# Milliseconds — the millisecond that a capture uid shows

The uid takes `int(capture_time.timestamp() * 1000)`: the seconds and the product are doubles.  The
seconds of a time are off by less than half of their last place, which the product of the next power
of two may round away or not.  `timestampMs_eq` says of every time which millisecond comes out: its
own, the one before (`shift` is −1) or the one after.
-/

namespace Tallylot
namespace Captures

open Data

/-- `datetime(1970, 1, 1)` -/
def epoch : Instant := ⟨1970, 1, 1, 0, 0, 0, 0, by decide⟩

/-- Microseconds since the epoch. -/
def sinceEpoch (now : Instant) : Int := now.microseconds - epoch.microseconds

/-- `capture_time.timestamp()` -/
def timestamp (now : Instant) : ℚ := Binary64.nearest (sinceEpoch now / 10 ^ 6)

/-- `int(capture_time.timestamp() * 1000)` -/
def timestampMs (now : Instant) : Int :=
  let product := Binary64.nearest (timestamp now * 1000)
  product.num.tdiv product.den

/-- The whole milliseconds since the epoch. -/
def milliseconds (now : Instant) : Int := sinceEpoch now / 1000

/-! ## What the doubles make of a millisecond -/

/-- Binary places after the point in the double nearest to the seconds. -/
def places (now : Instant) : Nat := (-Binary64.lastPlace (sinceEpoch now / 10 ^ 6)).toNat

/-- What the seconds exceed a multiple of their last place by, in parts of 10 ^ 6. -/
def remainder (now : Instant) : Int := (sinceEpoch now * 2 ^ places now).bmod (10 ^ 6)

/-- Half of the last place of the product, in the same parts. -/
def halfPlace (now : Instant) : Int :=
  if sinceEpoch now * 2 ^ places now - remainder now < 1000 * 2 ^ 62 then 256000 else 512000

/-- The millisecond shown, counted from the millisecond of the time. -/
def shift (now : Instant) : Int :=
  if sinceEpoch now % 1000 * 2 ^ places now + halfPlace now < remainder now then -1
  else if remainder now + (1000 - sinceEpoch now % 1000) * 2 ^ places now ≤ halfPlace now then 1
  else 0

section

variable {now now' : Instant}

lemma sinceEpoch_nonneg (hepoch : epoch ≤ now) : 0 ≤ sinceEpoch now :=
  sub_nonneg.2 (Instant.microseconds_le_iff.2 hepoch)

/-- The last year is 9999. -/
lemma sinceEpoch_lt (now : Instant) : sinceEpoch now < 253402300800000000 := by
  have hnumber := CalendarDay.number_lt_nextYear now.calendarDay
  have hyear : Instant.daysBeforeYear (now.calendarDay.year + 1) ≤ Instant.daysBeforeYear 10000 :=
    CalendarDay.daysBeforeYear_mono (Nat.le_add_left 1 _) (Nat.succ_le_succ now.valid.1.2)
  have hlast : Instant.daysBeforeYear 10000 = 3652059 := by decide +kernel
  have hepoch : epoch.microseconds = 62135596800000000 := by decide +kernel
  have htime := Instant.timeOfDay_lt now
  have hlength : Instant.dayLength = 86400000000 := rfl
  rw [sinceEpoch, hepoch, Instant.microseconds_eq]
  rw [hlength] at htime ⊢
  omega

/-- The seconds of a time fill the 53 places, at least 14 of them after the point. -/
lemma places_spec (hpos : 0 < sinceEpoch now) :
    14 ≤ places now ∧ Binary64.lastPlace (sinceEpoch now / 10 ^ 6) = -(places now : Int) ∧
      2 ^ 52 * 10 ^ 6 ≤ sinceEpoch now * 2 ^ places now ∧
        sinceEpoch now * 2 ^ places now < 2 ^ 53 * 10 ^ 6 := by
  have hcast : (0 : ℚ) < sinceEpoch now := by exact_mod_cast hpos
  have hq : (0 : ℚ) < sinceEpoch now / 10 ^ 6 := by positivity
  have hlt : (sinceEpoch now : ℚ) < 253402300800000000 := by exact_mod_cast sinceEpoch_lt now
  rcases Binary64.scaled_bounds hq with ⟨hlow, hhigh⟩
  have hlast : Binary64.lastPlace (sinceEpoch now / 10 ^ 6) ≤ -14 := by
    by_contra hcoarse
    have hplace : (2 : ℚ) ^ (-13 : Int) ≤ 2 ^ Binary64.lastPlace (sinceEpoch now / 10 ^ 6) :=
      zpow_le_zpow_right₀ (by norm_num) (by omega)
    rw [le_div_iff₀ (by positivity)] at hlow
    norm_num at hplace
    linarith
  have hplaces : Binary64.lastPlace (sinceEpoch now / 10 ^ 6) = -(places now : Int) := by
    rw [places, Int.toNat_of_nonneg (by omega), neg_neg]
  rw [hplaces, zpow_neg, zpow_natCast, div_inv_eq_mul, div_mul_eq_mul_div] at hlow hhigh
  refine ⟨by omega, hplaces, ?_, ?_⟩
  · exact_mod_cast (le_div_iff₀ (by norm_num)).1 hlow
  · exact_mod_cast (div_lt_iff₀ (by norm_num)).1 hhigh

/-- No time is half way between two multiples of its last place. -/
lemma remainder_bounds (hpos : 0 < sinceEpoch now) :
    -500000 < remainder now ∧ remainder now < 500000 := by
  have hlow := Int.le_bmod (x := sinceEpoch now * 2 ^ places now) (m := 10 ^ 6) (by decide)
  have hhigh := Int.bmod_lt (x := sinceEpoch now * 2 ^ places now) (m := 10 ^ 6) (by decide)
  have hsum := Int.bmod_add_bdiv (sinceEpoch now * 2 ^ places now) (10 ^ 6)
  rw [← remainder] at hlow hhigh hsum
  -- Both the scaled time and 10 ^ 6 are multiples of 64.
  have hscaled : sinceEpoch now * 2 ^ places now = 64 * (sinceEpoch now * 2 ^ (places now - 6)) := by
    have hsplit : places now = places now - 6 + 6 := by
      have hplaces := (places_spec hpos).1
      omega
    rw [hsplit, pow_add, Nat.add_sub_cancel]
    ring
  rw [hscaled] at hsum
  norm_num at hlow hhigh hsum
  omega

/-- The seconds of a time are the multiple of their last place that is nearest to it. -/
lemma timestamp_eq (hpos : 0 < sinceEpoch now) :
    ∃ m : Int, 10 ^ 6 * m = sinceEpoch now * 2 ^ places now - remainder now ∧
      timestamp now = m / 2 ^ places now := by
  have hsum := Int.bmod_add_bdiv (sinceEpoch now * 2 ^ places now) (10 ^ 6)
  rw [← remainder] at hsum
  set m := (sinceEpoch now * 2 ^ places now).bdiv (10 ^ 6) with hm
  have hmultiple : 10 ^ 6 * m = sinceEpoch now * 2 ^ places now - remainder now := by
    push_cast at hsum
    linarith
  have hscaled : (sinceEpoch now : ℚ) * 2 ^ places now / 10 ^ 6 - m = remainder now / 10 ^ 6 := by
    have hcast : (10 : ℚ) ^ 6 * m = sinceEpoch now * 2 ^ places now - remainder now := by
      exact_mod_cast hmultiple
    field_simp
    linarith
  have hround : Binary64.roundHalfEven ((sinceEpoch now : ℚ) * 2 ^ places now / 10 ^ 6) = m := by
    refine Binary64.roundHalfEven_eq ?_
    have hlow : (-500000 : ℚ) < remainder now := by exact_mod_cast (remainder_bounds hpos).1
    have hhigh : (remainder now : ℚ) < 500000 := by exact_mod_cast (remainder_bounds hpos).2
    rw [hscaled, abs_lt]
    constructor
    · linarith
    · linarith
  refine ⟨m, hmultiple, ?_⟩
  rw [timestamp, Binary64.nearest, (places_spec hpos).2.1, zpow_neg, zpow_natCast, div_inv_eq_mul,
    div_mul_eq_mul_div, hround]
  rfl

/-- A product that fills its 53 places reaches an integer from half of its last place below it on. -/
lemma le_product_iff {m n : Int} {p k : Nat} (hk : k + 1 < p) (hlow : 2 ^ 52 * 2 ^ (k + 1) ≤ 1000 * m)
    (hhigh : 1000 * m < 2 ^ 53 * 2 ^ (k + 1)) :
    (n : ℚ) ≤ Binary64.nearest (m / 2 ^ p * 1000) ↔ n * 2 ^ p ≤ 1000 * m + 2 ^ k := by
  have hpower : (0 : ℚ) < 2 ^ (k + 1) := by positivity
  have hsplit : (2 : ℚ) ^ p = 2 ^ (k + 1) * 2 ^ (p - (k + 1)) := by
    rw [← pow_add, Nat.add_sub_cancel' hk.le]
  have hplace : (2 : ℚ) ^ (-((p - (k + 1) : Nat) : Int)) = 1 / 2 ^ (p - (k + 1)) := by
    rw [zpow_neg, zpow_natCast, one_div]
  have hscaled : (m : ℚ) / 2 ^ p * 1000 / 2 ^ (-((p - (k + 1) : Nat) : Int)) =
      1000 * m / 2 ^ (k + 1) := by
    rw [hplace, hsplit]
    field_simp
  have hlast : Binary64.lastPlace ((m : ℚ) / 2 ^ p * 1000) = -((p - (k + 1) : Nat) : Int) := by
    refine Binary64.lastPlace_eq ?_ ?_
    · rw [hscaled, le_div_iff₀ hpower]
      exact_mod_cast hlow
    · rw [hscaled, div_lt_iff₀ hpower]
      exact_mod_cast hhigh
  have heven : n * 2 ^ (p - (k + 1)) % 2 = 0 := by
    rcases Nat.exists_eq_add_of_lt hk with ⟨j, rfl⟩
    rw [show k + 1 + j + 1 - (k + 1) = j + 1 by omega, pow_succ, ← mul_assoc]
    exact Int.mul_emod_left _ 2
  rw [Binary64.nearest, hlast, hscaled, hplace, mul_one_div, le_div_iff₀ (by positivity)]
  calc
    (n : ℚ) * 2 ^ (p - (k + 1)) ≤ Binary64.roundHalfEven (1000 * m / 2 ^ (k + 1))
        ↔ n * 2 ^ (p - (k + 1)) ≤ Binary64.roundHalfEven (1000 * m / 2 ^ (k + 1)) := by
      exact_mod_cast Iff.rfl
    _ ↔ ((n * 2 ^ (p - (k + 1)) : Int) : ℚ) - 1 / 2 ≤ 1000 * m / 2 ^ (k + 1) :=
      Binary64.le_roundHalfEven_iff heven
    _ ↔ (n : ℚ) * 2 ^ p ≤ 1000 * m + 2 ^ k := by
      rw [le_div_iff₀ hpower, hsplit, pow_succ]
      push_cast
      constructor
      · intro h
        nlinarith
      · intro h
        nlinarith
    _ ↔ n * 2 ^ p ≤ 1000 * m + 2 ^ k := by
      exact_mod_cast Iff.rfl

lemma timestampMs_eq_floor (hepoch : epoch ≤ now) :
    timestampMs now = ⌊Binary64.nearest (timestamp now * 1000)⌋ := by
  have hsince : (0 : ℚ) ≤ sinceEpoch now := by exact_mod_cast sinceEpoch_nonneg hepoch
  have hseconds : 0 ≤ timestamp now := Binary64.nearest_nonneg (div_nonneg hsince (by norm_num))
  have hproduct : 0 ≤ Binary64.nearest (timestamp now * 1000) :=
    Binary64.nearest_nonneg (mul_nonneg hseconds (by norm_num))
  rw [Rat.floor_def', timestampMs, Int.tdiv_eq_ediv_of_nonneg (Rat.num_nonneg.2 hproduct)]

/-- Later times show no earlier millisecond. -/
theorem timestampMs_mono (hepoch : epoch ≤ now) (h : now ≤ now') :
    timestampMs now ≤ timestampMs now' := by
  have hsince : (0 : ℚ) ≤ sinceEpoch now := by exact_mod_cast sinceEpoch_nonneg hepoch
  have hle : (sinceEpoch now : ℚ) ≤ sinceEpoch now' := by
    exact_mod_cast sub_le_sub_right (Instant.microseconds_le_iff.2 h) _
  have hseconds : timestamp now ≤ timestamp now' :=
    Binary64.nearest_mono (div_nonneg hsince (by norm_num))
      (div_le_div_of_nonneg_right hle (by norm_num))
  have hnonneg : 0 ≤ timestamp now := Binary64.nearest_nonneg (div_nonneg hsince (by norm_num))
  rw [timestampMs_eq_floor hepoch, timestampMs_eq_floor (hepoch.trans h)]
  exact Int.floor_le_floor (Binary64.nearest_mono (mul_nonneg hnonneg (by norm_num))
    (mul_le_mul_of_nonneg_right hseconds (by norm_num)))

/-- The millisecond of a time reaches `n` from half of the last place of the product below it on. -/
lemma le_timestampMs_iff (hpos : 0 < sinceEpoch now) (hepoch : epoch ≤ now) (n : Int) :
    n ≤ timestampMs now ↔
      remainder now ≤ (sinceEpoch now - 1000 * n) * 2 ^ places now + halfPlace now := by
  rcases timestamp_eq hpos with ⟨m, hm, htimestamp⟩
  rcases places_spec hpos with ⟨hplaces, _, hlow, hhigh⟩
  rcases remainder_bounds hpos with ⟨hbelow, habove⟩
  rw [timestampMs_eq_floor hepoch, Int.le_floor, htimestamp, halfPlace]
  split_ifs with hsmall
  · rw [le_product_iff (k := 8) (by omega) (by omega) (by omega)]
    constructor
    · intro h
      linarith
    · intro h
      linarith
  · rw [le_product_iff (k := 9) (by omega) (by omega) (by omega)]
    constructor
    · intro h
      linarith
    · intro h
      linarith

/-- An integer that reaches the numbers from half a place below its own on is its own, the one before or
the one after. -/
lemma shown_eq {shown own rest scale remainder half : Int} (hscale : 16384 ≤ scale) (hrest : 0 ≤ rest)
    (hrest' : rest ≤ 999 * scale) (hhalf : 256000 ≤ half ∧ half ≤ 512000)
    (hremainder : -500000 < remainder ∧ remainder < 500000)
    (hreach : ∀ d, own + d ≤ shown ↔ remainder ≤ rest - 1000 * d * scale + half) :
    shown = own + (if rest + half < remainder then -1
      else if remainder + (1000 * scale - rest) ≤ half then 1 else 0) := by
  have hlost := hreach (-1)
  have hown := hreach 0
  have hgained := hreach 1
  have htwo := hreach 2
  split_ifs with hless hmore
  · omega
  · omega
  · omega

/-- The uid shows the millisecond of the time, shifted. -/
theorem timestampMs_eq (hepoch : epoch ≤ now) : timestampMs now = milliseconds now + shift now := by
  rcases (sinceEpoch_nonneg hepoch).eq_or_lt with hzero | hpos
  · have hstart : now = epoch :=
      Instant.microseconds_inj.1 (sub_eq_zero.1 hzero.symm)
    rw [hstart]
    decide +kernel
  have hsplit := Int.emod_add_mul_ediv (sinceEpoch now) 1000
  have hrest := Int.emod_nonneg (sinceEpoch now) (by decide : (1000 : Int) ≠ 0)
  have hrest' := Int.emod_lt_of_pos (sinceEpoch now) (by decide : (0 : Int) < 1000)
  have hscale : (16384 : Int) ≤ 2 ^ places now := by
    exact_mod_cast Nat.pow_le_pow_right (by decide : 0 < 2) (places_spec hpos).1
  have hscale' : (0 : Int) ≤ 2 ^ places now := le_trans (by decide) hscale
  have hhalf : 256000 ≤ halfPlace now ∧ halfPlace now ≤ 512000 := by
    rw [halfPlace]
    split_ifs <;> decide
  rw [shift, sub_mul]
  refine shown_eq hscale (mul_nonneg hrest hscale')
    (mul_le_mul_of_nonneg_right (Int.le_of_lt_add_one hrest') hscale') hhalf (remainder_bounds hpos)
    (fun d => ?_)
  have hfar : sinceEpoch now - 1000 * (milliseconds now + d) = sinceEpoch now % 1000 - 1000 * d := by
    rw [milliseconds]
    linarith
  rw [le_timestampMs_iff hpos hepoch, hfar, sub_mul]

end

end Captures
end Tallylot
