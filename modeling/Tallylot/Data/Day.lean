import Tallylot.Data.InstantText
import Mathlib.Order.Interval.Set.Basic
import Mathlib.Tactic.NormNum
import Mathlib.Tactic.Ring

/-!
# Day — instants and the days that they lie in

`dayRank` numbers the days in order.  `startOfDay` and `endOfDay` are the first and the last instant of
a day, so that an instant lies between them exactly when it is an instant of that day
(`startOfDay_le_iff`, `le_endOfDay_iff`).
-/

namespace Tallylot
namespace Data
namespace Instant

/-- The last instant of the day that an instant lies in. -/
def endOfDay (t : Instant) : Instant where
  year := t.year
  month := t.month
  day := t.day
  hour := 23
  minute := 59
  second := 59
  microsecond := 999999
  valid := by
    rcases t.valid with ⟨hyear, hmonth, hday, _⟩
    exact ⟨hyear, hmonth, hday, by decide, by decide, by decide, by decide⟩

/-- Days in order; only the order of these numbers means anything. -/
def dayRank (t : Instant) : Nat := (t.year * 13 + t.month) * 32 + t.day

/-- Microseconds of a day. -/
def dayLength : Nat := 24 * 60 * 60 * 1000000

/-- Microseconds since the start of the day. -/
def timeOfDay (t : Instant) : Nat :=
  ((t.hour * 60 + t.minute) * 60 + t.second) * 1000000 + t.microsecond

lemma le_def {t u : Instant} : t ≤ u ↔ t.rank ≤ u.rank := Iff.rfl

lemma rank_eq (t : Instant) : t.rank = t.dayRank * dayLength + t.timeOfDay := by
  simp only [rank, secondRank, dayRank, dayLength, timeOfDay]
  ring

lemma timeOfDay_lt (t : Instant) : t.timeOfDay < dayLength := by
  rcases t.valid with ⟨_, _, _, hhour, hminute, hsecond, hmicro⟩
  simp only [timeOfDay, dayLength]
  omega

@[simp] lemma dayRank_startOfDay (t : Instant) : t.startOfDay.dayRank = t.dayRank := rfl

@[simp] lemma dayRank_endOfDay (t : Instant) : t.endOfDay.dayRank = t.dayRank := rfl

lemma timeOfDay_startOfDay (t : Instant) : t.startOfDay.timeOfDay = 0 := by
  norm_num [timeOfDay, startOfDay]

lemma timeOfDay_endOfDay (t : Instant) : t.endOfDay.timeOfDay + 1 = dayLength := by
  norm_num [timeOfDay, endOfDay, dayLength]

/-- Instants compare by their days first. -/
theorem le_iff {t u : Instant} :
    t ≤ u ↔ t.dayRank < u.dayRank ∨ (t.dayRank = u.dayRank ∧ t.timeOfDay ≤ u.timeOfDay) := by
  have ht := timeOfDay_lt t
  have hu := timeOfDay_lt u
  rw [le_def, rank_eq, rank_eq]
  rcases lt_trichotomy t.dayRank u.dayRank with h | h | h
  · have hmul : (t.dayRank + 1) * dayLength ≤ u.dayRank * dayLength :=
      Nat.mul_le_mul_right _ h
    rw [Nat.succ_mul] at hmul
    exact iff_of_true (by omega) (Or.inl h)
  · rw [h]
    simp
  · have hmul : (u.dayRank + 1) * dayLength ≤ t.dayRank * dayLength :=
      Nat.mul_le_mul_right _ h
    rw [Nat.succ_mul] at hmul
    exact iff_of_false (by omega) (by omega)

lemma lt_iff {t u : Instant} :
    t < u ↔ t.dayRank < u.dayRank ∨ (t.dayRank = u.dayRank ∧ t.timeOfDay < u.timeOfDay) := by
  rw [← not_le, le_iff]
  omega

lemma dayRank_mono {t u : Instant} : t ≤ u → t.dayRank ≤ u.dayRank := by
  intro h
  rcases le_iff.1 h with h | h
  · exact h.le
  · exact h.1.le

lemma startOfDay_le_iff {t u : Instant} : t.startOfDay ≤ u ↔ t.dayRank ≤ u.dayRank := by
  rw [le_iff, timeOfDay_startOfDay, dayRank_startOfDay]
  omega

lemma le_endOfDay_iff {t u : Instant} : u ≤ t.endOfDay ↔ u.dayRank ≤ t.dayRank := by
  have hend := timeOfDay_endOfDay t
  have hlt := timeOfDay_lt u
  rw [le_iff, dayRank_endOfDay]
  omega

/-! ## Bounds read as days -/

/-- A start bound, read as the start of its day if `dated`. -/
def readFirst (dated : Prop) [Decidable dated] (t : Instant) : Instant :=
  if dated then t.startOfDay else t

/-- An end bound, read as the end of its day if `dated`. -/
def readLast (dated : Prop) [Decidable dated] (t : Instant) : Instant :=
  if dated then t.endOfDay else t

section Reading

variable {p q : Prop} [Decidable p] [Decidable q] {t u : Instant}

lemma timeOfDay_eq_zero_iff : t.timeOfDay = 0 ↔ t = t.startOfDay := by
  have hstart := timeOfDay_startOfDay t
  constructor
  · intro h
    exact le_antisymm (le_iff.2 (Or.inr ⟨rfl, by omega⟩)) (startOfDay_le_iff.2 le_rfl)
  · intro h
    rw [h]
    exact timeOfDay_startOfDay t

lemma timeOfDay_eq_last_iff : t.timeOfDay + 1 = dayLength ↔ t = t.endOfDay := by
  have hend := timeOfDay_endOfDay t
  constructor
  · intro h
    exact le_antisymm (le_endOfDay_iff.2 le_rfl) (le_iff.2 (Or.inr ⟨rfl, by omega⟩))
  · intro h
    rw [h]
    exact timeOfDay_endOfDay t

/-- A start comes before an end if it did so unread, or if one of the two is read as its day and the
days agree. -/
theorem readFirst_le_readLast_iff :
    readFirst p t ≤ readLast q u ↔ t ≤ u ∨ ((p ∨ q) ∧ t.dayRank = u.dayRank) := by
  have hmono := @dayRank_mono t u
  have hback := @dayRank_mono u t
  by_cases hp : p
  · by_cases hq : q
    · have hread : t.startOfDay ≤ u.endOfDay ↔ t.dayRank ≤ u.dayRank := startOfDay_le_iff
      simp only [readFirst, readLast, hp, hq, if_true, hread, le_iff, true_or, true_and]
      omega
    · simp only [readFirst, readLast, hp, hq, if_true, if_false, startOfDay_le_iff, true_or,
        true_and]
      rw [le_iff]
      omega
  · by_cases hq : q
    · simp only [readFirst, readLast, hp, hq, if_true, if_false, le_endOfDay_iff, or_true,
        true_and]
      rw [le_iff]
      omega
    · simp [readFirst, readLast, hp, hq]

/-- Reading starts as days keeps their order, unless only the later one is read as the day of both. -/
theorem readFirst_le_readFirst_iff (htu : t ≤ u) :
    readFirst p t ≤ readFirst q u ↔ ¬(¬p ∧ q ∧ t.dayRank = u.dayRank ∧ t ≠ t.startOfDay) := by
  have hmono := dayRank_mono htu
  have hle := le_iff.1 htu
  have hstart := timeOfDay_startOfDay u
  rw [Ne, ← timeOfDay_eq_zero_iff]
  by_cases hp : p
  · refine iff_of_true ?_ (by simp [hp])
    by_cases hq : q
    · simpa [readFirst, hp, hq, startOfDay_le_iff] using hmono
    · simpa [readFirst, hp, hq, startOfDay_le_iff] using hmono
  · by_cases hq : q
    · simp only [readFirst, hp, hq, if_true, if_false, le_iff, dayRank_startOfDay,
        not_false_eq_true, true_and]
      omega
    · simpa [readFirst, hp, hq] using htu

/-- Reading ends as days keeps their order, unless only the earlier one is read as the day of both. -/
theorem readLast_le_readLast_iff (htu : t ≤ u) :
    readLast q t ≤ readLast p u ↔ ¬(¬p ∧ q ∧ u.dayRank = t.dayRank ∧ u ≠ u.endOfDay) := by
  have hmono := dayRank_mono htu
  have hle := le_iff.1 htu
  have hend := timeOfDay_endOfDay t
  have hlt := timeOfDay_lt u
  rw [Ne, ← timeOfDay_eq_last_iff]
  by_cases hp : p
  · refine iff_of_true ?_ (by simp [hp])
    by_cases hq : q
    · simpa [readLast, hp, hq, le_endOfDay_iff] using hmono
    · simpa [readLast, hp, hq, le_endOfDay_iff] using hmono
  · by_cases hq : q
    · simp only [readLast, hp, hq, if_true, if_false, le_iff, dayRank_endOfDay, not_false_eq_true,
        true_and]
      omega
    · simpa [readLast, hp, hq] using htu

end Reading

end Instant

end Data
end Tallylot
