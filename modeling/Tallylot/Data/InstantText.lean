import Tallylot.Data.Decoding
import Tallylot.Data.Digits
import Tallylot.Data.Instant

/-!
# InstantText — instants from texts

`readTimestamp` and `readDate` are `strptime` for `%Y-%m-%d %H:%M:%S` and `%Y-%m-%d`: a year of four
digits, every other field of one or two, any white space between the date and the time, and nothing
left over.  A day may show a blank for its first digit.  Where an expression has `\d`, a digit of any
script stands.  The canonical texts are read back, down to
the second.
-/

namespace Tallylot
namespace Data
namespace Instant

/-- The start of the second that an instant lies in. -/
def wholeSecond (t : Instant) : Instant where
  year := t.year
  month := t.month
  day := t.day
  hour := t.hour
  minute := t.minute
  second := t.second
  microsecond := 0
  valid := by
    rcases t.valid with ⟨hyear, hmonth, hday, hhour, hminute, hsecond, _⟩
    exact ⟨hyear, hmonth, hday, hhour, hminute, hsecond, by decide⟩

theorem wholeSecond_eq_iff (t : Instant) : t.wholeSecond = t ↔ t.microsecond = 0 := by
  constructor
  · intro h
    rw [← h]
    rfl
  · intro h
    exact Instant.ext rfl rfl rfl rfl rfl rfl h.symm

/-- The start of the day that an instant lies in. -/
def startOfDay (t : Instant) : Instant where
  year := t.year
  month := t.month
  day := t.day
  hour := 0
  minute := 0
  second := 0
  microsecond := 0
  valid := by
    rcases t.valid with ⟨hyear, hmonth, hday, _⟩
    exact ⟨hyear, hmonth, hday, by decide, by decide, by decide, by decide⟩

lemma startOfDay_of_midnight {t : Instant} (h : t.isMidnight = true) : t.startOfDay = t := by
  simp only [isMidnight, Bool.and_eq_true, decide_eq_true_eq] at h
  rcases h with ⟨⟨⟨hhour, hminute⟩, hsecond⟩, hmicro⟩
  exact Instant.ext rfl rfl rfl hhour.symm hminute.symm hsecond.symm hmicro.symm

lemma wholeSecond_of_midnight {t : Instant} (h : t.isMidnight = true) : t.wholeSecond = t := by
  simp only [isMidnight, Bool.and_eq_true, decide_eq_true_eq] at h
  exact (wholeSecond_eq_iff t).2 h.2

lemma isMidnight_wholeSecond {t : Instant} (h : t.isMidnight = true) :
    t.wholeSecond.isMidnight = true := by
  rw [wholeSecond_of_midnight h]
  exact h

/-! ## Reading -/

/-- A calendar date and a time of day, if there are such. -/
def ofFields (year month day hour minute second : Nat) : Option Instant :=
  if h : (1 ≤ year ∧ year ≤ 9999) ∧ (1 ≤ month ∧ month ≤ 12) ∧
      (1 ≤ day ∧ day ≤ daysInMonth year month) ∧ hour < 24 ∧ minute < 60 ∧ second < 60 ∧
        0 < 1000000 then
    some ⟨year, month, day, hour, minute, second, 0, h⟩
  else none

/-- A number of between `least` and `most` digits of any script. -/
def readNumber (least most : Nat) (cs : List Char) : Option Nat :=
  if least ≤ cs.length ∧ cs.length ≤ most then readDigits cs else none

/-- The last digit of a field, after so many tens.  A field's expression ends in `\d` where each of the
ten digits is within bounds (`[1-2]\d`), and in an ASCII range elsewhere (`3[0-1]`). -/
def readUnit (least most tens : Nat) (unit : Char) : Option Nat := do
  let digit ← digitValue unit
  if (least ≤ tens + digit ∧ tens + digit ≤ most) ∧
      (unit.isDigit = true ∨ (least ≤ tens ∧ tens + 9 ≤ most)) then
    some (tens + digit)
  else none

/-- A field of one or two digits; the tens are ASCII. -/
def readField (least most : Nat) : List Char → Option Nat
  | [unit] => readUnit least most 0 unit
  | [ten, unit] => if ten.isDigit = true then readUnit least most (10 * (ten.toNat - 48)) unit else none
  | _ => none

/-- The characters before the first `c`, and those after it. -/
def splitAt (c : Char) (cs : List Char) : List Char × List Char :=
  (cs.takeWhile (fun x => x ≠ c), (cs.dropWhile (fun x => x ≠ c)).tail)

/-- A day of the month; a blank may stand before a single digit. -/
def readDay : List Char → Option Nat
  | [' ', unit] => readField 1 9 [unit]
  | cs => readField 1 31 cs

/-- `strptime(text, "%Y-%m-%d")` -/
def readDate (text : String) : Option Instant := do
  let dashed := splitAt '-' text.toList
  let monthDay := splitAt '-' dashed.2
  let year ← readNumber 4 4 dashed.1
  let month ← readField 1 12 monthDay.1
  let day ← readDay monthDay.2
  ofFields year month day 0 0 0

/-- A date that is read is a midnight. -/
lemma isMidnight_of_readDate {text : String} {t : Instant} (h : readDate text = some t) :
    t.isMidnight = true := by
  simp only [readDate, Option.bind_eq_bind, Option.bind_eq_some_iff] at h
  rcases h with ⟨year, _, month, _, day, _, hfields⟩
  unfold ofFields at hfields
  split at hfields
  · cases hfields
    rfl
  · cases hfields

/-- Day, and what follows the white space after it. -/
def splitDay : List Char → List Char × List Char
  | ' ' :: cs => (' ' :: cs.takeWhile (fun c => !isSpaceChar c), cs.dropWhile (fun c => !isSpaceChar c))
  | cs => (cs.takeWhile (fun c => !isSpaceChar c), cs.dropWhile (fun c => !isSpaceChar c))

/-- `strptime(text, "%Y-%m-%d %H:%M:%S")` -/
def readTimestamp (text : String) : Option Instant := do
  let dashed := splitAt '-' text.toList
  let monthDay := splitAt '-' dashed.2
  let dayTime := splitDay monthDay.2
  let hourMinute := splitAt ':' (dayTime.2.dropWhile isSpaceChar)
  let minuteSecond := splitAt ':' hourMinute.2
  let year ← readNumber 4 4 dashed.1
  let month ← readField 1 12 monthDay.1
  let day ← readDay dayTime.1
  let hour ← readField 0 23 hourMinute.1
  let minute ← readField 0 59 minuteSecond.1
  let second ← readField 0 61 minuteSecond.2
  ofFields year month day hour minute second

/-! ## Reading canonical texts -/

lemma digit_facts (n : Nat) :
    (digit n).isDigit = true ∧ (digit n).toNat - 48 = n % 10 ∧ isSpaceChar (digit n) = false ∧
      digit n ≠ '-' ∧ digit n ≠ ':' ∧ digit n ≠ ' ' := by
  have hall : ∀ i : Fin 10, (Char.ofNat (48 + i.val)).isDigit = true ∧
      (Char.ofNat (48 + i.val)).toNat - 48 = i.val ∧ isSpaceChar (Char.ofNat (48 + i.val)) = false ∧
        Char.ofNat (48 + i.val) ≠ '-' ∧ Char.ofNat (48 + i.val) ≠ ':' ∧
          Char.ofNat (48 + i.val) ≠ ' ' := by
    decide
  exact hall ⟨n % 10, Nat.mod_lt _ (by decide)⟩

lemma digitValue_digit (n : Nat) : digitValue (digit n) = some (n % 10) := by
  rw [digitValue_of_isDigit (digit_facts n).1, (digit_facts n).2.1]

lemma readField_pad2 {least most n : Nat} (hn : n < 100) (hleast : least ≤ n) (hmost : n ≤ most) :
    readField least most (pad2 n) = some n := by
  have htens : 10 * ((digit (n / 10)).toNat - 48) + n % 10 = n := by
    rw [(digit_facts (n / 10)).2.1]
    omega
  rw [pad2, readField, if_pos (digit_facts _).1, readUnit, digitValue_digit, Option.bind_eq_bind,
    Option.bind_some, htens, if_pos ⟨⟨hleast, hmost⟩, Or.inl (digit_facts n).1⟩]

lemma readNumber_pad2 {n : Nat} (hn : n < 100) : readNumber 1 2 (pad2 n) = some n := by
  have hvalue : 10 * ((digit (n / 10)).toNat - 48) + ((digit n).toNat - 48) = n := by
    rw [(digit_facts (n / 10)).2.1, (digit_facts n).2.1]
    omega
  have hdigits : ∀ c ∈ pad2 n, c.isDigit = true := by
    simp only [pad2, List.forall_mem_cons]
    exact ⟨(digit_facts _).1, (digit_facts _).1, fun c hc => absurd hc List.not_mem_nil⟩
  rw [readNumber, if_pos (by simp [pad2]), readDigits_of_isDigit hdigits]
  simp [pad2, Nat.ofDigitChars, hvalue]

lemma readNumber_pad4 {n : Nat} (hn : n < 10000) : readNumber 4 4 (pad4 n) = some n := by
  have hvalue : Nat.ofDigitChars 10 (pad4 n) 0 = n := by
    simp only [pad4, Nat.ofDigitChars, List.foldl_cons, List.foldl_nil]
    have h1 := (digit_facts (n / 1000)).2.1
    have h2 := (digit_facts (n / 100)).2.1
    have h3 := (digit_facts (n / 10)).2.1
    have h4 := (digit_facts n).2.1
    simp only [Char.reduceToNat]
    rw [h1, h2, h3, h4]
    omega
  have hdigits : ∀ c ∈ pad4 n, c.isDigit = true := by
    simp only [pad4, List.forall_mem_cons]
    exact ⟨(digit_facts _).1, (digit_facts _).1, (digit_facts _).1, (digit_facts _).1,
      fun c hc => absurd hc List.not_mem_nil⟩
  rw [readNumber, if_pos (by simp [pad4]), readDigits_of_isDigit hdigits, hvalue]

/-- Text before a separator that it does not contain. -/
lemma splitAt_append {c : Char} {before : List Char} (h : ∀ x ∈ before, x ≠ c) (after : List Char) :
    splitAt c (before ++ c :: after) = (before, after) := by
  have hall : ∀ x ∈ before, (decide (x ≠ c)) = true := fun x hx => by simpa using h x hx
  simp only [splitAt]
  rw [List.takeWhile_append_of_pos hall, List.dropWhile_append_of_pos hall]
  simp

lemma mem_pad2 {n : Nat} {c : Char} (h : c ∈ pad2 n) : ∃ k, c = digit k := by
  simp only [pad2, List.mem_cons, List.not_mem_nil, or_false] at h
  rcases h with rfl | rfl <;> exact ⟨_, rfl⟩

lemma mem_pad4 {n : Nat} {c : Char} (h : c ∈ pad4 n) : ∃ k, c = digit k := by
  simp only [pad4, List.mem_cons, List.not_mem_nil, or_false] at h
  rcases h with rfl | rfl | rfl | rfl <;> exact ⟨_, rfl⟩

lemma readDay_pad2 {n : Nat} (hone : 1 ≤ n) (hn : n ≤ 31) : readDay (pad2 n) = some n := by
  have hhead : digit (n / 10) ≠ ' ' := (digit_facts _).2.2.2.2.2
  rw [← readField_pad2 (by omega) hone hn]
  unfold readDay
  split
  · rename_i unit heq
    exact absurd (List.cons.inj heq).1 hhead
  · rfl

lemma splitDay_pad2 (n : Nat) (after : List Char) :
    splitDay (pad2 n ++ ' ' :: after) = (pad2 n, ' ' :: after) := by
  have hhead : digit (n / 10) ≠ ' ' := (digit_facts _).2.2.2.2.2
  have hall : ∀ x ∈ pad2 n, (!isSpaceChar x) = true := by
    intro x hx
    rcases mem_pad2 hx with ⟨k, rfl⟩
    simp [(digit_facts k).2.2.1]
  have hspace : isSpaceChar ' ' = true := by decide
  unfold splitDay
  split
  · rename_i cs heq
    exact absurd (List.cons.inj heq).1 hhead
  · rw [List.takeWhile_append_of_pos hall, List.dropWhile_append_of_pos hall]
    simp [hspace]

section Canonical

variable (t : Instant)

lemma splitAt_year (after : List Char) :
    splitAt '-' (pad4 t.year ++ '-' :: after) = (pad4 t.year, after) := by
  refine splitAt_append (fun x hx => ?_) after
  rcases mem_pad4 hx with ⟨k, rfl⟩
  exact (digit_facts k).2.2.2.1

lemma splitAt_pad2 {c : Char} (hc : c = '-' ∨ c = ':') (n : Nat) (after : List Char) :
    splitAt c (pad2 n ++ c :: after) = (pad2 n, after) := by
  refine splitAt_append (fun x hx => ?_) after
  rcases mem_pad2 hx with ⟨k, rfl⟩
  rcases hc with rfl | rfl
  · exact (digit_facts k).2.2.2.1
  · exact (digit_facts k).2.2.2.2.1

lemma fields_bounds :
    t.year < 10000 ∧ (1 ≤ t.month ∧ t.month ≤ 12) ∧ (1 ≤ t.day ∧ t.day ≤ 31) ∧ t.hour ≤ 23 ∧
      t.minute ≤ 59 ∧ t.second ≤ 59 := by
  rcases t.valid with ⟨⟨_, hyear⟩, hmonth, ⟨hone, hday⟩, hhour, hminute, hsecond, _⟩
  have hday' := lt_of_le_of_lt hday (daysInMonth_lt _ _)
  refine ⟨?_, hmonth, ⟨hone, ?_⟩, ?_, ?_, ?_⟩ <;> omega

lemma ofFields_wholeSecond :
    ofFields t.year t.month t.day t.hour t.minute t.second = some t.wholeSecond :=
  dif_pos t.wholeSecond.valid

lemma ofFields_startOfDay : ofFields t.year t.month t.day 0 0 0 = some t.startOfDay :=
  dif_pos t.startOfDay.valid

/-- The date text is read as the start of the day. -/
theorem readDate_dateText : readDate t.dateText = some t.startOfDay := by
  rcases fields_bounds t with ⟨hyear, hmonth, hday, _⟩
  have htext : t.dateText.toList =
      pad4 t.year ++ '-' :: (pad2 t.month ++ '-' :: pad2 t.day) := by
    rw [dateText, String.toList_ofList, dateChars, List.append_assoc, List.cons_append]
  simp only [readDate, htext, splitAt_year, splitAt_pad2 (Or.inl rfl), readNumber_pad4 hyear,
    readField_pad2 (Nat.lt_of_le_of_lt hmonth.2 (by decide)) hmonth.1 hmonth.2,
    readDay_pad2 hday.1 hday.2, Option.bind_eq_bind, Option.bind_some, ofFields_startOfDay]

/-- The timestamp text is read as the start of the second. -/
theorem readTimestamp_timestampText : readTimestamp t.timestampText = some t.wholeSecond := by
  rcases fields_bounds t with ⟨hyear, hmonth, hday, hhour, hminute, hsecond⟩
  have htext : t.timestampText.toList =
      pad4 t.year ++ '-' :: (pad2 t.month ++ '-' :: (pad2 t.day ++ ' ' ::
        (pad2 t.hour ++ ':' :: (pad2 t.minute ++ ':' :: pad2 t.second)))) := by
    rw [timestampText, String.toList_ofList, dateChars, timeChars]
    simp only [List.append_assoc, List.cons_append]
  have hspace : (' ' :: (pad2 t.hour ++ ':' :: (pad2 t.minute ++ ':' :: pad2 t.second))).dropWhile
      isSpaceChar = pad2 t.hour ++ ':' :: (pad2 t.minute ++ ':' :: pad2 t.second) := by
    have hdigit := (digit_facts (t.hour / 10)).2.2.1
    have hblank : isSpaceChar ' ' = true := by decide
    simp [pad2, hdigit, hblank]
  have hmonthText : readField 1 12 (pad2 t.month) = some t.month :=
    readField_pad2 (Nat.lt_of_le_of_lt hmonth.2 (by decide)) hmonth.1 hmonth.2
  have hhourText : readField 0 23 (pad2 t.hour) = some t.hour :=
    readField_pad2 (Nat.lt_of_le_of_lt hhour (by decide)) (Nat.zero_le _) hhour
  have hminuteText : readField 0 59 (pad2 t.minute) = some t.minute :=
    readField_pad2 (Nat.lt_of_le_of_lt hminute (by decide)) (Nat.zero_le _) hminute
  have hsecondText : readField 0 61 (pad2 t.second) = some t.second :=
    readField_pad2 (Nat.lt_of_le_of_lt hsecond (by decide)) (Nat.zero_le _)
      (Nat.le_trans hsecond (by decide))
  simp only [readTimestamp, htext, splitAt_year, splitAt_pad2 (Or.inl rfl), splitDay_pad2, hspace,
    splitAt_pad2 (Or.inr rfl), readNumber_pad4 hyear, readDay_pad2 hday.1 hday.2, hmonthText,
    hhourText, hminuteText, hsecondText, Option.bind_eq_bind, Option.bind_some, ofFields_wholeSecond]

/-- Canonical texts start and end with digits. -/
lemma stripped_dateText : strip t.dateText = t.dateText := by
  refine strip_eq_self (fun c hc => ?_)
  rw [dateText, String.toList_ofList] at hc
  simp only [dateChars, List.mem_append, List.mem_cons] at hc
  rcases hc with (hc | rfl | hc) | rfl | hc
  · rcases mem_pad4 hc with ⟨k, rfl⟩
    exact (digit_facts k).2.2.1
  · decide
  · rcases mem_pad2 hc with ⟨k, rfl⟩
    exact (digit_facts k).2.2.1
  · decide
  · rcases mem_pad2 hc with ⟨k, rfl⟩
    exact (digit_facts k).2.2.1

lemma stripped_timestampText : strip t.timestampText = t.timestampText := by
  have hshape : t.dateChars ++ ' ' :: t.timeChars =
      digit (t.year / 1000) :: ((digit (t.year / 100) :: digit (t.year / 10) :: digit t.year ::
        (('-' :: pad2 t.month) ++ ('-' :: pad2 t.day) ++ ' ' ::
          (pad2 t.hour ++ (':' :: pad2 t.minute) ++ ([':', digit (t.second / 10)])))) ++
            [digit t.second]) := by
    simp [dateChars, timeChars, pad4, pad2]
  rw [timestampText, hshape]
  exact stripped_ofList (digit_facts _).2.2.1 (digit_facts _).2.2.1

lemma dateText_ne_empty : t.dateText ≠ "" := by
  intro h
  have hread := readDate_dateText t
  rw [h] at hread
  exact absurd hread (by simp [readDate, splitAt, readNumber])

lemma timestampText_ne_empty : t.timestampText ≠ "" := by
  intro h
  have hread := readTimestamp_timestampText t
  rw [h] at hread
  exact absurd hread (by simp [readTimestamp, splitAt, readNumber])

end Canonical

end Instant

end Data
end Tallylot
