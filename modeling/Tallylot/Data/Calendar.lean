import Tallylot.Data.Day
import Mathlib.Algebra.BigOperators.Group.List.Basic

/-!
# Calendar — days by number, and local times in UTC

`CalendarDay.number` counts the days from the first day of year 1; the next and the previous day have
the neighbouring numbers.  So `microseconds` keeps the order of instants (`microseconds_le_iff`), and
the UTC of a local time is the minutes of its offset earlier (`microseconds_toUtc`).
-/

namespace Tallylot
namespace Data

/-! ## Days -/

/-- A divisor is met one year later exactly when it divides that number of years. -/
lemma succ_div_eq (y d : Nat) :
    (y + 1) / d = y / d + if (y + 1) % d = 0 then 1 else 0 := by
  rw [Nat.succ_div]
  simp only [Nat.dvd_iff_mod_eq_zero]

lemma daysBeforeYear_succ {year : Nat} (h : 1 ≤ year) :
    Instant.daysBeforeYear (year + 1) =
      Instant.daysBeforeYear year + 365 + if isLeap year then 1 else 0 := by
  rcases Nat.exists_eq_add_of_le' h with ⟨y, rfl⟩
  have hfour := succ_div_eq y 4
  have hcentury := succ_div_eq y 100
  have hera := succ_div_eq y 400
  -- Centuries are whole numbers of fours, eras of centuries, so subtracting them loses nothing.
  have horder : y / 100 ≤ y / 4 := Nat.div_le_div_left (by decide) (by decide)
  have hleap : (if isLeap (y + 1) then 1 else 0 : Nat) + (if (y + 1) % 100 = 0 then 1 else 0) =
      (if (y + 1) % 4 = 0 then 1 else 0) + (if (y + 1) % 400 = 0 then 1 else 0) := by
    simp only [isLeap, Bool.and_eq_true, Bool.or_eq_true, decide_eq_true_eq]
    split_ifs <;> omega
  simp only [Instant.daysBeforeYear, Nat.add_sub_cancel]
  rw [hfour, hcentury, hera]
  generalize (if isLeap (y + 1) then 1 else 0 : Nat) = leap at *
  generalize (if (y + 1) % 100 = 0 then 1 else 0 : Nat) = century at *
  generalize (if (y + 1) % 4 = 0 then 1 else 0 : Nat) = four at *
  generalize (if (y + 1) % 400 = 0 then 1 else 0 : Nat) = era at *
  generalize y / 100 = a at *
  generalize y / 4 = b at *
  generalize y / 400 = c at *
  omega

lemma daysBeforeMonth_succ (year : Nat) {month : Nat} (h : 1 ≤ month) :
    Instant.daysBeforeMonth year (month + 1) =
      Instant.daysBeforeMonth year month + daysInMonth year month := by
  rcases Nat.exists_eq_add_of_le' h with ⟨m, rfl⟩
  simp only [Instant.daysBeforeMonth, Nat.add_sub_cancel]
  rw [List.range_succ, List.map_append, List.sum_append, List.map_singleton, List.sum_singleton]

lemma daysInMonth_pos (year month : Nat) : 0 < daysInMonth year month := by
  unfold daysInMonth
  split_ifs <;> decide

/-- The days of a whole year. -/
lemma daysBeforeMonth_year (year : Nat) :
    Instant.daysBeforeMonth year 13 = 365 + if isLeap year then 1 else 0 := by
  have hmonths : ∀ month, 1 ≤ month → Instant.daysBeforeMonth year (month + 1) =
      Instant.daysBeforeMonth year month + daysInMonth year month :=
    fun month hmonth => daysBeforeMonth_succ year hmonth
  rw [hmonths 12 (by decide), hmonths 11 (by decide), hmonths 10 (by decide), hmonths 9 (by decide),
    hmonths 8 (by decide), hmonths 7 (by decide), hmonths 6 (by decide), hmonths 5 (by decide),
    hmonths 4 (by decide), hmonths 3 (by decide), hmonths 2 (by decide), hmonths 1 (by decide)]
  cases hleap : isLeap year <;> simp [Instant.daysBeforeMonth, daysInMonth, hleap]

/-- A calendar day. -/
structure CalendarDay where
  year : Nat
  month : Nat
  day : Nat
  valid : 1 ≤ year ∧ (1 ≤ month ∧ month ≤ 12) ∧ 1 ≤ day ∧ day ≤ daysInMonth year month

namespace CalendarDay

/-- Days since the first day of year 1. -/
def number (d : CalendarDay) : Nat :=
  Instant.daysBeforeYear d.year + Instant.daysBeforeMonth d.year d.month + (d.day - 1)

/-- The day after. -/
def next (d : CalendarDay) : CalendarDay :=
  if h : d.day < daysInMonth d.year d.month then
    ⟨d.year, d.month, d.day + 1, d.valid.1, d.valid.2.1, Nat.le_add_left 1 d.day, h⟩
  else if hmonth : d.month < 12 then
    ⟨d.year, d.month + 1, 1, d.valid.1, ⟨Nat.le_add_left 1 d.month, hmonth⟩, le_refl 1,
      daysInMonth_pos _ _⟩
  else
    ⟨d.year + 1, 1, 1, Nat.le_add_left 1 d.year, by decide, le_refl 1, daysInMonth_pos _ _⟩

/-- The day before; none before the first day of year 1. -/
def previous (d : CalendarDay) : Option CalendarDay :=
  if h : 1 < d.day then
    some ⟨d.year, d.month, d.day - 1, d.valid.1, d.valid.2.1, Nat.le_sub_one_of_lt h,
      le_trans (Nat.sub_le _ _) d.valid.2.2.2⟩
  else if hmonth : 1 < d.month then
    some ⟨d.year, d.month - 1, daysInMonth d.year (d.month - 1), d.valid.1,
      ⟨Nat.le_sub_one_of_lt hmonth, le_trans (Nat.sub_le _ _) d.valid.2.1.2⟩,
      daysInMonth_pos _ _, le_refl _⟩
  else if hyear : 1 < d.year then
    some ⟨d.year - 1, 12, 31, Nat.le_sub_one_of_lt hyear, by decide, by decide, by
      simp [daysInMonth]⟩
  else none

theorem number_next (d : CalendarDay) : d.next.number = d.number + 1 := by
  rcases d.valid with ⟨hyear, ⟨hmonth, hlast⟩, hday, hlength⟩
  unfold next
  split_ifs with hinside hinner
  · simp only [number]
    omega
  · simp only [number]
    rw [daysBeforeMonth_succ d.year hmonth]
    omega
  · simp only [number]
    have hend : d.month = 12 := by omega
    have hwhole := daysBeforeMonth_year d.year
    rw [daysBeforeMonth_succ d.year (by decide : 1 ≤ 12)] at hwhole
    rw [daysBeforeYear_succ hyear, hend]
    rw [hend] at hinside hlength
    have hfirst : Instant.daysBeforeMonth (d.year + 1) 1 = 0 := rfl
    omega

theorem number_previous {d p : CalendarDay} (h : d.previous = some p) : p.number + 1 = d.number := by
  rcases d.valid with ⟨hyear, ⟨hmonth, hlast⟩, hday, hlength⟩
  unfold previous at h
  split_ifs at h with hinside hinner hbefore
  · rw [← Option.some.inj h]
    simp only [number]
    omega
  · rw [← Option.some.inj h]
    simp only [number]
    have hpos := daysInMonth_pos d.year (d.month - 1)
    have hsucc := daysBeforeMonth_succ d.year (Nat.le_sub_one_of_lt hinner)
    rw [Nat.sub_add_cancel hmonth] at hsucc
    omega
  · rw [← Option.some.inj h]
    simp only [number]
    have hfirst : d.month = 1 := by omega
    have hwhole := daysBeforeMonth_year (d.year - 1)
    rw [daysBeforeMonth_succ (d.year - 1) (by decide : 1 ≤ 12)] at hwhole
    have hsucc := daysBeforeYear_succ (Nat.le_sub_one_of_lt hbefore)
    rw [Nat.sub_add_cancel hyear] at hsucc
    have hdecember : daysInMonth (d.year - 1) 12 = 31 := by simp [daysInMonth]
    have hzero : Instant.daysBeforeMonth d.year 1 = 0 := rfl
    rw [hfirst]
    omega

/-! ### Numbers keep the order of the days -/

lemma daysBeforeYear_mono {y z : Nat} (hy : 1 ≤ y) (h : y ≤ z) :
    Instant.daysBeforeYear y ≤ Instant.daysBeforeYear z := by
  induction z, h using Nat.le_induction with
  | base => exact le_refl _
  | succ z hz ih =>
    rw [daysBeforeYear_succ (le_trans hy hz)]
    omega

lemma daysBeforeMonth_mono (year : Nat) {m n : Nat} (hm : 1 ≤ m) (h : m ≤ n) :
    Instant.daysBeforeMonth year m ≤ Instant.daysBeforeMonth year n := by
  induction n, h using Nat.le_induction with
  | base => exact le_refl _
  | succ n hn ih =>
    rw [daysBeforeMonth_succ year (le_trans hm hn)]
    exact le_trans ih (Nat.le_add_right _ _)

/-- A day lies before the first day of the next month. -/
lemma daysBeforeMonth_add_lt (d : CalendarDay) :
    Instant.daysBeforeMonth d.year d.month + (d.day - 1) <
      Instant.daysBeforeMonth d.year (d.month + 1) := by
  rcases d.valid with ⟨_, ⟨hmonth, _⟩, hday, hlast⟩
  rw [daysBeforeMonth_succ d.year hmonth]
  omega

/-- A day lies before the first day of the next year. -/
lemma number_lt_nextYear (d : CalendarDay) : d.number < Instant.daysBeforeYear (d.year + 1) := by
  rcases d.valid with ⟨hyear, ⟨_, hlast⟩, _⟩
  have hmonth := daysBeforeMonth_add_lt d
  have hwhole := daysBeforeMonth_mono d.year (Nat.le_add_left 1 d.month) (Nat.succ_le_succ hlast)
  rw [daysBeforeMonth_year] at hwhole
  rw [daysBeforeYear_succ hyear, number]
  omega

/-- Years, months and days in order. -/
def Before (d e : CalendarDay) : Prop :=
  d.year < e.year ∨ (d.year = e.year ∧ (d.month < e.month ∨ (d.month = e.month ∧ d.day < e.day)))

theorem number_lt_of_before {d e : CalendarDay} (h : Before d e) : d.number < e.number := by
  have hd := d.valid
  have he := e.valid
  rcases h with hyear | ⟨hyear, hmonth | ⟨hmonth, hday⟩⟩
  · calc
      d.number < Instant.daysBeforeYear (d.year + 1) := number_lt_nextYear d
      _ ≤ Instant.daysBeforeYear e.year := daysBeforeYear_mono (Nat.le_add_left 1 _) hyear
      _ ≤ e.number := by
        rw [number]
        omega
  · have hlt := daysBeforeMonth_add_lt d
    have hle := daysBeforeMonth_mono d.year (Nat.le_add_left 1 d.month) hmonth
    rw [number, number, ← hyear]
    omega
  · rw [number, number, ← hyear, ← hmonth]
    omega

end CalendarDay

/-! ## Instants on calendar days -/

namespace Instant

def calendarDay (t : Instant) : CalendarDay :=
  ⟨t.year, t.month, t.day, t.valid.1.1, t.valid.2.1, t.valid.2.2.1⟩

lemma microseconds_eq (t : Instant) :
    t.microseconds = (t.calendarDay.number * dayLength + t.timeOfDay : Nat) := by
  simp only [microseconds, calendarDay, CalendarDay.number, dayLength, timeOfDay]
  push_cast
  ring

lemma before_of_dayRank_lt {t u : Instant} (h : t.dayRank < u.dayRank) :
    CalendarDay.Before t.calendarDay u.calendarDay := by
  have htd := lt_of_le_of_lt t.valid.2.2.1.2 (daysInMonth_lt _ _)
  have hud := lt_of_le_of_lt u.valid.2.2.1.2 (daysInMonth_lt _ _)
  have htm := t.valid.2.1
  have hum := u.valid.2.1
  simp only [dayRank] at h
  simp only [CalendarDay.Before, calendarDay]
  omega

/-- Microseconds keep the order of instants. -/
theorem microseconds_lt_of_lt {t u : Instant} (h : t < u) : t.microseconds < u.microseconds := by
  rw [microseconds_eq, microseconds_eq, Int.ofNat_lt]
  rcases lt_iff.1 h with hday | ⟨hday, htime⟩
  · have hnumber := CalendarDay.number_lt_of_before (before_of_dayRank_lt hday)
    have hlt := timeOfDay_lt t
    calc
      t.calendarDay.number * dayLength + t.timeOfDay
          < (t.calendarDay.number + 1) * dayLength := by
        rw [Nat.succ_mul]
        omega
      _ ≤ u.calendarDay.number * dayLength := Nat.mul_le_mul_right _ hnumber
      _ ≤ u.calendarDay.number * dayLength + u.timeOfDay := Nat.le_add_right _ _
  · have hsame : t.calendarDay.number = u.calendarDay.number := by
      have hfields : t.year = u.year ∧ t.month = u.month ∧ t.day = u.day := by
        have htd := lt_of_le_of_lt t.valid.2.2.1.2 (daysInMonth_lt _ _)
        have hud := lt_of_le_of_lt u.valid.2.2.1.2 (daysInMonth_lt _ _)
        have htm := t.valid.2.1
        have hum := u.valid.2.1
        simp only [dayRank] at hday
        omega
      simp only [CalendarDay.number, calendarDay, hfields.1, hfields.2.1, hfields.2.2]
    rw [hsame]
    exact Nat.add_lt_add_left htime _

theorem microseconds_le_iff {t u : Instant} : t.microseconds ≤ u.microseconds ↔ t ≤ u := by
  rcases lt_trichotomy t u with h | h | h
  · exact iff_of_true (microseconds_lt_of_lt h).le h.le
  · rw [h]
    exact iff_of_true le_rfl le_rfl
  · exact iff_of_false (not_le_of_gt (microseconds_lt_of_lt h)) (not_le_of_gt h)

lemma microseconds_inj {t u : Instant} : t.microseconds = u.microseconds ↔ t = u := by
  rw [le_antisymm_iff, le_antisymm_iff, microseconds_le_iff, microseconds_le_iff]

/-! ## Shifting by an offset -/

/-- The distance of a local time from UTC, less than a day (`datetime.timezone`). -/
structure Offset where
  minutes : Int
  lt_day : -1440 < minutes ∧ minutes < 1440
  deriving DecidableEq

def Offset.utc : Offset := ⟨0, by decide⟩

/-- A minute of a calendar day, at the second of `t`; none after the year 9999. -/
def atMinute (t : Instant) (d : CalendarDay) (minute : Nat) : Option Instant :=
  if h : d.year ≤ 9999 ∧ minute < 1440 then
    some
      { year := d.year
        month := d.month
        day := d.day
        hour := minute / 60
        minute := minute % 60
        second := t.second
        microsecond := t.microsecond
        valid := ⟨⟨d.valid.1, h.1⟩, d.valid.2.1, d.valid.2.2,
          Nat.div_lt_of_lt_mul h.2, Nat.mod_lt _ (by decide), t.valid.2.2.2.2.2⟩ }
  else none

/-- `t.replace(tzinfo=…).astimezone(UTC)`; none where the years 1 to 9999 are left. -/
def toUtc (t : Instant) (offset : Offset) : Option Instant :=
  let minute : Int := (t.hour * 60 + t.minute : Nat) - offset.minutes
  if minute < 0 then t.calendarDay.previous.bind (fun d => t.atMinute d (minute + 1440).toNat)
  else if minute < 1440 then t.atMinute t.calendarDay minute.toNat
  else t.atMinute t.calendarDay.next (minute - 1440).toNat

lemma microseconds_atMinute {t u : Instant} {d : CalendarDay} {minute : Nat}
    (h : t.atMinute d minute = some u) :
    u.microseconds = ((d.number * 1440 + minute) * 60 + t.second) * 1000000 + t.microsecond := by
  unfold atMinute at h
  split_ifs at h with hvalid
  cases h
  have hsplit := Nat.div_add_mod minute 60
  simp only [microseconds, CalendarDay.number]
  push_cast
  generalize ((daysBeforeYear d.year : Int) + daysBeforeMonth d.year d.month + (d.day - 1 : Nat)) = n
  omega

/-- A local time is the minutes of its offset ahead of UTC. -/
theorem microseconds_toUtc {t u : Instant} {offset : Offset} (h : t.toUtc offset = some u) :
    u.microseconds = t.microseconds - offset.minutes * 60000000 := by
  have hstart : t.microseconds = ((t.calendarDay.number * 1440 + (t.hour * 60 + t.minute : Nat)) * 60
      + t.second) * 1000000 + t.microsecond := by
    simp only [microseconds, calendarDay, CalendarDay.number]
    push_cast
    ring
  have hhour := t.valid.2.2.2.1
  have hminute := t.valid.2.2.2.2.1
  have hoffset := offset.lt_day
  simp only [toUtc] at h
  rw [hstart]
  split_ifs at h with hbefore hwithin
  · rcases Option.bind_eq_some_iff.1 h with ⟨d, hd, hu⟩
    have hnumber := CalendarDay.number_previous hd
    rw [microseconds_atMinute hu]
    omega
  · rw [microseconds_atMinute h]
    omega
  · rw [microseconds_atMinute h, CalendarDay.number_next]
    omega

end Instant

/-! ## Shifting by hours -/

namespace CalendarDay

/-- The day some days later. -/
def after : Nat → CalendarDay → CalendarDay
  | 0, d => d
  | n + 1, d => after n d.next

/-- The day some days earlier, none before the year 1. -/
def before : Nat → CalendarDay → Option CalendarDay
  | 0, d => some d
  | n + 1, d => d.previous.bind (before n)

lemma number_after (n : Nat) (d : CalendarDay) : (after n d).number = d.number + n := by
  induction n generalizing d with
  | zero => rfl
  | succ n ih =>
      rw [after, ih, number_next]
      omega

lemma number_before {n : Nat} {d e : CalendarDay} (h : before n d = some e) :
    e.number + n = d.number := by
  induction n generalizing d with
  | zero =>
      cases h
      rfl
  | succ n ih =>
      rcases Option.bind_eq_some_iff.1 h with ⟨p, hp, he⟩
      have hnumber := number_previous hp
      have hrest := ih he
      omega

end CalendarDay

namespace Instant

/-- `t + timedelta(hours=…)`; none where the years 1 to 9999 are left. -/
def addHours (t : Instant) (hours : Int) : Option Instant :=
  let hour : Int := t.hour + hours
  let minute := (hour % 24).toNat * 60 + t.minute
  match hour / 24 with
  | .ofNat n => t.atMinute (t.calendarDay.after n) minute
  | .negSucc n => (t.calendarDay.before (n + 1)).bind (fun d => t.atMinute d minute)

theorem microseconds_addHours {t u : Instant} {hours : Int} (h : t.addHours hours = some u) :
    u.microseconds = t.microseconds + hours * 3600000000 := by
  have hstart : t.microseconds = ((t.calendarDay.number * 1440 + (t.hour * 60 + t.minute : Nat)) * 60
      + t.second) * 1000000 + t.microsecond := by
    simp only [microseconds, calendarDay, CalendarDay.number]
    push_cast
    ring
  have hhour : 0 ≤ ((t.hour : Int) + hours) % 24 := Int.emod_nonneg _ (by decide)
  have hsplit := Int.mul_ediv_add_emod ((t.hour : Int) + hours) 24
  simp only [addHours] at h
  rw [hstart]
  split at h
  · rename_i n hn
    rw [microseconds_atMinute h, CalendarDay.number_after]
    rw [hn] at hsplit
    push_cast
    rw [Int.toNat_of_nonneg hhour]
    rw [Int.ofNat_eq_natCast] at hsplit
    omega
  · rename_i n hn
    rcases Option.bind_eq_some_iff.1 h with ⟨d, hd, hu⟩
    have hnumber := CalendarDay.number_before hd
    rw [microseconds_atMinute hu]
    rw [hn, Int.negSucc_eq] at hsplit
    push_cast
    rw [Int.toNat_of_nonneg hhour]
    omega

end Instant

end Data
end Tallylot
