import Tallylot.Data.Calendar

/-!
# Seconds — the second after an instant

`nextSecond` adds one second, across minutes, days and years.  Among whole seconds nothing lies
between an instant and its next second (`nextSecond_le_iff`), and between the two lie the fractions
of that second.
-/

namespace Tallylot
namespace Data
namespace Instant

/-- Seconds since the start of the day. -/
def secondOfDay (t : Instant) : Nat := (t.hour * 60 + t.minute) * 60 + t.second

lemma secondOfDay_lt (t : Instant) : t.secondOfDay < 86400 := by
  rcases t.valid with ⟨_, _, _, hhour, hminute, hsecond, _⟩
  rw [secondOfDay]
  omega

/-- Another second of the same minute. -/
def withSecond (t : Instant) (second : Nat) (h : second < 60) : Instant where
  year := t.year
  month := t.month
  day := t.day
  hour := t.hour
  minute := t.minute
  second := second
  microsecond := t.microsecond
  valid := by
    rcases t.valid with ⟨hyear, hmonth, hday, hhour, hminute, _, hmicro⟩
    exact ⟨hyear, hmonth, hday, hhour, hminute, h, hmicro⟩

/-- `t + timedelta(seconds=1)`; none after the year 9999. -/
def nextSecond (t : Instant) : Option Instant :=
  let elapsed := t.secondOfDay + 1
  let day := if elapsed < 86400 then t.calendarDay else t.calendarDay.next
  (t.withSecond (elapsed % 60) (Nat.mod_lt _ (by decide))).atMinute day (elapsed / 60 % 1440)

/-- Whole seconds and the microseconds of the last one. -/
lemma microseconds_eq_seconds (t : Instant) :
    t.microseconds = (t.calendarDay.number * 86400 + t.secondOfDay : Nat) * 1000000 + t.microsecond := by
  simp only [microseconds, secondOfDay, calendarDay, CalendarDay.number]
  push_cast
  ring

theorem microseconds_nextSecond {t u : Instant} (h : t.nextSecond = some u) :
    u.microseconds = t.microseconds + 1000000 := by
  have hlast := secondOfDay_lt t
  have hminute := Nat.div_add_mod (t.secondOfDay + 1) 60
  rw [nextSecond] at h
  rw [microseconds_atMinute h, microseconds_eq_seconds]
  simp only [withSecond]
  push_cast
  split_ifs with hinside
  · rw [Int.emod_eq_of_lt (by omega) (by omega)]
    omega
  · have hmidnight : t.secondOfDay = 86399 := by omega
    rw [CalendarDay.number_next, hmidnight]
    push_cast
    omega

lemma microsecond_nextSecond {t u : Instant} (h : t.nextSecond = some u) :
    u.microsecond = t.microsecond := by
  rw [nextSecond] at h
  unfold atMinute at h
  split_ifs at h
  all_goals
    cases h
    rfl

lemma lt_nextSecond {t u : Instant} (h : t.nextSecond = some u) : t < u := by
  refine lt_of_not_ge (fun hle => ?_)
  have hmicro := microseconds_nextSecond h
  have hmono := microseconds_le_iff.2 hle
  omega

/-- A whole second has a next one before every later whole second. -/
theorem exists_nextSecond {t e : Instant} (ht : t.microsecond = 0) (he : e.microsecond = 0)
    (h : t < e) : ∃ u, t.nextSecond = some u := by
  have hlast := secondOfDay_lt t
  have hmicro := microseconds_lt_of_lt h
  rw [microseconds_eq_seconds, microseconds_eq_seconds, ht, he] at hmicro
  have hsecond := secondOfDay_lt e
  -- the next second lies on a day that is not later than the day of `e`
  have hday : (if t.secondOfDay + 1 < 86400 then t.calendarDay else t.calendarDay.next).year ≤ 9999 := by
    split_ifs with hinside
    · exact t.valid.1.2
    · refine Nat.le_of_not_lt (fun hyear => ?_)
      have hend : e.calendarDay.number < daysBeforeYear 10000 :=
        lt_of_lt_of_le (CalendarDay.number_lt_nextYear e.calendarDay)
          (CalendarDay.daysBeforeYear_mono (Nat.le_add_left 1 _) (Nat.succ_le_succ e.valid.1.2))
      have hstart : daysBeforeYear 10000 ≤ t.calendarDay.next.number := by
        rw [CalendarDay.number, Nat.add_assoc]
        exact le_trans (CalendarDay.daysBeforeYear_mono (by decide) hyear) (Nat.le_add_right _ _)
      rw [CalendarDay.number_next] at hstart
      omega
  rw [nextSecond]
  unfold atMinute
  exact ⟨_, dif_pos ⟨hday, Nat.mod_lt _ (by decide)⟩⟩

/-- Nothing but fractions lies between a whole second and the next one. -/
theorem nextSecond_le_iff {t u e : Instant} (ht : t.microsecond = 0) (he : e.microsecond = 0)
    (h : t.nextSecond = some u) : u ≤ e ↔ t < e := by
  have hnext := microseconds_nextSecond h
  rw [← microseconds_le_iff, ← not_le, ← microseconds_le_iff, hnext, microseconds_eq_seconds t,
    microseconds_eq_seconds e, ht, he]
  omega

/-- `strptime` reads whole seconds. -/
lemma microsecond_of_readTimestamp {text : String} {t : Instant} (h : readTimestamp text = some t) :
    t.microsecond = 0 := by
  simp only [readTimestamp, Option.bind_eq_bind, Option.bind_eq_some_iff] at h
  rcases h with ⟨year, _, month, _, day, _, hour, _, minute, _, second, _, hfields⟩
  unfold ofFields at hfields
  split at hfields
  · cases hfields
    rfl
  · cases hfields

end Instant

end Data
end Tallylot
