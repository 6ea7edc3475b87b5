import Tallylot.Data.Calendar
import Mathlib.Tactic.Linarith

/-!
# Shift — an instant some time later or earlier

`t.shift distance` is the instant whose microseconds are those of `t` and the distance
(`microseconds_shift`), so that instants are told apart by their distances from any other one.
-/

namespace Tallylot
namespace Data
namespace Instant

/-- A time of a calendar day; none after the year 9999. -/
def atTime (d : CalendarDay) (time : Nat) : Option Instant :=
  if h : d.year ≤ 9999 ∧ time / 3600000000 < 24 then
    some
      { year := d.year
        month := d.month
        day := d.day
        hour := time / 3600000000
        minute := time / 60000000 % 60
        second := time / 1000000 % 60
        microsecond := time % 1000000
        valid := ⟨⟨d.valid.1, h.1⟩, d.valid.2.1, d.valid.2.2, h.2, Nat.mod_lt _ (by decide),
          Nat.mod_lt _ (by decide), Nat.mod_lt _ (by decide)⟩ }
  else none

/-- `t + timedelta(microseconds=…)`; none where the years 1 to 9999 are left. -/
def shift (t : Instant) (distance : Int) : Option Instant :=
  let time : Int := t.timeOfDay + distance
  let rest := (time % dayLength).toNat
  match time / dayLength with
  | .ofNat n => atTime (t.calendarDay.after n) rest
  | .negSucc n => (t.calendarDay.before (n + 1)).bind (fun d => atTime d rest)

lemma microseconds_atTime {u : Instant} {d : CalendarDay} {time : Nat} (h : atTime d time = some u) :
    u.microseconds = (d.number * dayLength + time : Nat) := by
  unfold atTime at h
  split_ifs at h
  cases h
  have hhours := Nat.div_add_mod time 3600000000
  simp only [microseconds, CalendarDay.number, dayLength]
  push_cast
  generalize ((daysBeforeYear d.year : Int) + daysBeforeMonth d.year d.month + (d.day - 1 : Nat)) = n
  omega

theorem microseconds_shift {t u : Instant} {distance : Int} (h : t.shift distance = some u) :
    u.microseconds = t.microseconds + distance := by
  have hday : (0 : Int) < (dayLength : Nat) := by decide
  have hrest : 0 ≤ ((t.timeOfDay : Int) + distance) % (dayLength : Nat) :=
    Int.emod_nonneg _ hday.ne'
  have hsplit := Int.mul_ediv_add_emod ((t.timeOfDay : Int) + distance) (dayLength : Nat)
  simp only [shift] at h
  rw [microseconds_eq t]
  split at h
  · rename_i n hn
    rw [microseconds_atTime h, CalendarDay.number_after]
    rw [hn, Int.ofNat_eq_natCast] at hsplit
    push_cast
    rw [Int.toNat_of_nonneg hrest]
    linarith
  · rename_i n hn
    rcases Option.bind_eq_some_iff.1 h with ⟨d, hd, hu⟩
    have hnumber : ((d.number : Int) + (n + 1)) = t.calendarDay.number := by
      exact_mod_cast CalendarDay.number_before hd
    rw [microseconds_atTime hu]
    rw [hn, Int.negSucc_eq] at hsplit
    push_cast
    rw [Int.toNat_of_nonneg hrest, ← hnumber]
    linarith

end Instant
end Data
end Tallylot
