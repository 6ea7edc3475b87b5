import Mathlib.Order.Basic
import Mathlib.Order.Nat
import Mathlib.Tactic.Common
import Mathlib.Tactic.IntervalCases

/-!
# Instant — UTC instants by calendar fields

An instant is a UTC date and time with microseconds, as a timezone-aware `datetime` in UTC is.  The
order is the order of the fields, and `microseconds` counts from the first day of year 1, so that
the distance of two instants is the difference of their counts.

The canonical texts show the fields at fixed width; `strftime` gives a year four digits from the year
1000 on, and before it where the platform pads years.  `timestampText` leaves the microseconds out, so
that it separates exactly the instants of different seconds (`timestampText_eq_iff`).
-/

namespace Tallylot
namespace Data

def isLeap (year : Nat) : Bool := year % 4 = 0 && (year % 100 ≠ 0 || year % 400 = 0)

def daysInMonth (year month : Nat) : Nat :=
  if month = 2 then (if isLeap year then 29 else 28)
  else if month ∈ [4, 6, 9, 11] then 30
  else 31

/-- A UTC date and time. -/
@[ext]
structure Instant where
  year : Nat
  month : Nat
  day : Nat
  hour : Nat
  minute : Nat
  second : Nat
  microsecond : Nat
  valid :
    (1 ≤ year ∧ year ≤ 9999) ∧ (1 ≤ month ∧ month ≤ 12) ∧ (1 ≤ day ∧ day ≤ daysInMonth year month) ∧
      hour < 24 ∧ minute < 60 ∧ second < 60 ∧ microsecond < 1000000
  deriving DecidableEq, Repr

namespace Instant

lemma daysInMonth_lt (year month : Nat) : daysInMonth year month < 32 := by
  unfold daysInMonth
  split
  · split <;> omega
  · split <;> omega

/-! ## Order -/

/-- Whole seconds in field order; only the order of these numbers means anything. -/
def secondRank (t : Instant) : Nat :=
  ((((t.year * 13 + t.month) * 32 + t.day) * 24 + t.hour) * 60 + t.minute) * 60 + t.second

def rank (t : Instant) : Nat := t.secondRank * 1000000 + t.microsecond

lemma radix_inj {a a' b b' m : Nat} (hb : b < m) (hb' : b' < m) (h : a * m + b = a' * m + b') :
    a = a' ∧ b = b' := by
  have hdiv : a = a' := by
    have h1 : (a * m + b) / m = a := by
      rw [Nat.mul_comm, Nat.mul_add_div (by omega), Nat.div_eq_of_lt hb, Nat.add_zero]
    have h2 : (a' * m + b') / m = a' := by
      rw [Nat.mul_comm, Nat.mul_add_div (by omega), Nat.div_eq_of_lt hb', Nat.add_zero]
    rw [← h1, h, h2]
  subst hdiv
  exact ⟨rfl, by omega⟩

/-- The fields down to the second. -/
def SameSecond (t u : Instant) : Prop :=
  t.year = u.year ∧ t.month = u.month ∧ t.day = u.day ∧ t.hour = u.hour ∧ t.minute = u.minute ∧
    t.second = u.second

instance (t u : Instant) : Decidable (SameSecond t u) := by
  unfold SameSecond
  infer_instance

lemma secondRank_eq_iff (t u : Instant) : t.secondRank = u.secondRank ↔ SameSecond t u := by
  constructor
  · intro h
    rcases t.valid with ⟨_, ⟨_, htm⟩, ⟨_, htd⟩, hth, htmin, hts, _⟩
    rcases u.valid with ⟨_, ⟨_, hum⟩, ⟨_, hud⟩, huh, humin, hus, _⟩
    have htd' := lt_of_le_of_lt htd (daysInMonth_lt _ _)
    have hud' := lt_of_le_of_lt hud (daysInMonth_lt _ _)
    rcases radix_inj hts hus h with ⟨h, hsecond⟩
    rcases radix_inj htmin humin h with ⟨h, hminute⟩
    rcases radix_inj hth huh h with ⟨h, hhour⟩
    rcases radix_inj htd' hud' h with ⟨h, hday⟩
    rcases radix_inj (by omega) (by omega) h with ⟨hyear, hmonth⟩
    exact ⟨hyear, hmonth, hday, hhour, hminute, hsecond⟩
  · rintro ⟨hy, hm, hd, hh, hmin, hs⟩
    simp [secondRank, hy, hm, hd, hh, hmin, hs]

lemma rank_injective : Function.Injective rank := by
  intro t u h
  rcases radix_inj t.valid.2.2.2.2.2.2 u.valid.2.2.2.2.2.2 h with ⟨hrank, hmicro⟩
  rcases (secondRank_eq_iff t u).1 hrank with ⟨hy, hm, hd, hh, hmin, hs⟩
  exact Instant.ext hy hm hd hh hmin hs hmicro

instance : LinearOrder Instant := LinearOrder.lift' rank rank_injective

/-! ## Distance -/

def daysBeforeYear (year : Nat) : Nat :=
  let y := year - 1
  y * 365 + y / 4 - y / 100 + y / 400

def daysBeforeMonth (year month : Nat) : Nat :=
  ((List.range (month - 1)).map (fun m => daysInMonth year (m + 1))).sum

/-- Microseconds since the start of year 1. -/
def microseconds (t : Instant) : Int :=
  let days := daysBeforeYear t.year + daysBeforeMonth t.year t.month + (t.day - 1)
  (((days * 24 + t.hour) * 60 + t.minute) * 60 + t.second) * 1000000 + t.microsecond

def isMidnight (t : Instant) : Bool :=
  t.hour = 0 && t.minute = 0 && t.second = 0 && t.microsecond = 0

/-! ## Text -/

/-- The last decimal digit of a number. -/
def digit (n : Nat) : Char := Char.ofNat (48 + n % 10)

lemma digit_inj {a b : Nat} : digit a = digit b → a % 10 = b % 10 := by
  intro h
  have hval := congrArg Char.toNat h
  have hchar : ∀ n : Nat, (digit n).toNat = 48 + n % 10 := by
    intro n
    unfold digit
    have hlt : n % 10 < 10 := Nat.mod_lt _ (by omega)
    generalize n % 10 = k at hlt ⊢
    interval_cases k <;> rfl
  rw [hchar, hchar] at hval
  omega

def pad2 (n : Nat) : List Char := [digit (n / 10), digit n]

def pad4 (n : Nat) : List Char := [digit (n / 1000), digit (n / 100), digit (n / 10), digit n]

def dateChars (t : Instant) : List Char :=
  pad4 t.year ++ ('-' :: pad2 t.month) ++ ('-' :: pad2 t.day)

def timeChars (t : Instant) : List Char :=
  pad2 t.hour ++ (':' :: pad2 t.minute) ++ (':' :: pad2 t.second)

/-- `%Y-%m-%d` -/
def dateText (t : Instant) : String := String.ofList t.dateChars

/-- `%Y-%m-%d %H:%M:%S` -/
def timestampText (t : Instant) : String := String.ofList (t.dateChars ++ ' ' :: t.timeChars)

lemma pad2_inj {a b : Nat} (ha : a < 100) (hb : b < 100) : pad2 a = pad2 b → a = b := by
  intro h
  simp only [pad2, List.cons.injEq, and_true] at h
  have h1 := digit_inj h.1
  have h2 := digit_inj h.2
  omega

lemma pad4_inj {a b : Nat} (ha : a < 10000) (hb : b < 10000) : pad4 a = pad4 b → a = b := by
  intro h
  simp only [pad4, List.cons.injEq, and_true] at h
  have h1 := digit_inj h.1
  have h2 := digit_inj h.2.1
  have h3 := digit_inj h.2.2.1
  have h4 := digit_inj h.2.2.2
  omega

lemma dateChars_inj {t u : Instant} :
    t.dateChars = u.dateChars → t.year = u.year ∧ t.month = u.month ∧ t.day = u.day := by
  intro h
  rcases t.valid with ⟨⟨_, hty⟩, ⟨_, htm⟩, ⟨_, htd⟩, _⟩
  rcases u.valid with ⟨⟨_, huy⟩, ⟨_, hum⟩, ⟨_, hud⟩, _⟩
  have htd' := lt_of_le_of_lt htd (daysInMonth_lt _ _)
  have hud' := lt_of_le_of_lt hud (daysInMonth_lt _ _)
  have hsplit := List.append_inj h rfl
  have hsplit' := List.append_inj hsplit.1 rfl
  refine ⟨pad4_inj (by omega) (by omega) hsplit'.1, pad2_inj (by omega) (by omega) ?_,
    pad2_inj (by omega) (by omega) ?_⟩
  · exact (List.cons.inj hsplit'.2).2
  · exact (List.cons.inj hsplit.2).2

lemma timeChars_inj {t u : Instant} :
    t.timeChars = u.timeChars → t.hour = u.hour ∧ t.minute = u.minute ∧ t.second = u.second := by
  intro h
  rcases t.valid with ⟨_, _, _, hth, htmin, hts, _⟩
  rcases u.valid with ⟨_, _, _, huh, humin, hus, _⟩
  have hsplit := List.append_inj h rfl
  have hsplit' := List.append_inj hsplit.1 rfl
  refine ⟨pad2_inj (by omega) (by omega) hsplit'.1, pad2_inj (by omega) (by omega) ?_,
    pad2_inj (by omega) (by omega) ?_⟩
  · exact (List.cons.inj hsplit'.2).2
  · exact (List.cons.inj hsplit.2).2

/-- The timestamp text separates exactly the instants of different seconds. -/
theorem timestampText_eq_iff (t u : Instant) :
    t.timestampText = u.timestampText ↔ SameSecond t u := by
  constructor
  · intro h
    have hlist := String.ofList_injective h
    have hsplit := List.append_inj hlist rfl
    rcases dateChars_inj hsplit.1 with ⟨hy, hm, hd⟩
    rcases timeChars_inj (List.cons.inj hsplit.2).2 with ⟨hh, hmin, hs⟩
    exact ⟨hy, hm, hd, hh, hmin, hs⟩
  · rintro ⟨hy, hm, hd, hh, hmin, hs⟩
    simp [timestampText, dateChars, timeChars, hy, hm, hd, hh, hmin, hs]

def pad6 (n : Nat) : List Char :=
  [digit (n / 100000), digit (n / 10000), digit (n / 1000), digit (n / 100), digit (n / 10), digit n]

lemma pad6_inj {a b : Nat} (ha : a < 1000000) (hb : b < 1000000) : pad6 a = pad6 b → a = b := by
  intro h
  simp only [pad6, List.cons.injEq, and_true] at h
  rcases h with ⟨h1, h2, h3, h4, h5, h6⟩
  have h1 := digit_inj h1
  have h2 := digit_inj h2
  have h3 := digit_inj h3
  have h4 := digit_inj h4
  have h5 := digit_inj h5
  have h6 := digit_inj h6
  omega

def isoChars (t : Instant) : List Char :=
  (t.dateChars ++ ' ' :: t.timeChars) ++
    ((if t.microsecond = 0 then [] else '.' :: pad6 t.microsecond) ++ "+00:00".toList)

/-- `str(datetime)` -/
def isoText (t : Instant) : String := String.ofList t.isoChars

theorem isoText_injective : Function.Injective isoText := by
  intro t u h
  have hlist := String.ofList_injective h
  have hsplit := List.append_inj hlist rfl
  have hsecond : SameSecond t u :=
    (timestampText_eq_iff t u).1 (congrArg String.ofList hsplit.1)
  rcases hsecond with ⟨hy, hm, hd, hh, hmin, hs⟩
  have hmicro : t.microsecond = u.microsecond := by
    have hfraction := List.append_cancel_right hsplit.2
    by_cases ht : t.microsecond = 0
    · by_cases hu : u.microsecond = 0
      · rw [ht, hu]
      · simp [ht, hu] at hfraction
    · by_cases hu : u.microsecond = 0
      · simp [ht, hu] at hfraction
      · simp only [ht, hu, if_false, List.cons.injEq, true_and] at hfraction
        exact pad6_inj t.valid.2.2.2.2.2.2 u.valid.2.2.2.2.2.2 hfraction
  exact Instant.ext hy hm hd hh hmin hs hmicro

/-! ## Days of examples -/

/-- The calendar has the day, so that it has its midnight. -/
def IsDay (year month day : Nat) : Prop :=
  (1 ≤ year ∧ year ≤ 9999) ∧ (1 ≤ month ∧ month ≤ 12) ∧ (1 ≤ day ∧ day ≤ daysInMonth year month) ∧
    0 < 24 ∧ 0 < 60 ∧ 0 < 60 ∧ 0 < 1000000

instance (year month day : Nat) : Decidable (IsDay year month day) :=
  inferInstanceAs (Decidable (_ ∧ _))

/-- The first day that `datetime` has. -/
lemma isDay_min : IsDay 1 1 1 := by decide

lemma isDay_newYear : IsDay 2024 1 1 := by decide

lemma isDay_endOfApril : IsDay 2024 4 30 := by decide

lemma isDay_startOfMay : IsDay 2024 5 1 := by decide

lemma isDay_endOfMay : IsDay 2024 5 31 := by decide

lemma isDay_endOfYear : IsDay 2024 12 31 := by decide

end Instant

end Data
end Tallylot
