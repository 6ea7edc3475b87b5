import Tallylot.Profiling.InventoryTimestamps

/-!
# SlashDates — what an inferred format says of slashed dates

A slashed date can be read day first or month first.  The pattern takes digits of any script and
compares their numbers, while `strptime` asks for ASCII in most places of a day and a month, so a date
in other digits can be one under a format that the numbers do not tell apart
(`full_width_day_misjudged`).  Of the dates whose day and month are in ASCII the inference returns a
format only if it reads each that either format reads, and the profiler then reads every value that is
a date under the format as that date, whatever the name of the file (`slash_dates_inferred`).
-/

namespace Tallylot
namespace Profiling

open Data Data.Strptime

/-- The date of a slashed value's numbers under a format. -/
def SlashDateToken.date (token : SlashDateToken) (format : String) : Option Instant :=
  if format = "%d/%m/%Y" then Instant.ofFields token.year token.second token.first 0 0 0
  else Instant.ofFields token.year token.first token.second 0 0 0

/-- A slashed value of the list that is a date under one format only. -/
def OnlyUnder (values : List String) (format other : String) : Prop :=
  ∃ value ∈ values, (slashDateToken (strip value)).isSome = true ∧
    (readInstant format (strip value)).isSome = true ∧ readInstant other (strip value) = none

/-- The first two numbers of a slashed value are in ASCII. -/
def writtenInAscii (value : String) : Bool :=
  ((strip value).toList.take 5).all (fun c => c.toNat < 128)

/-! ## Reading two digits and a slash -/

section Readings

variable {a b : Char} {cs : List Char} {n least most : Nat} {ds : List Directive}

lemma digits_of_readNumber {width : Nat} {xs : List Char}
    (h : Instant.readNumber width width xs = some n) :
    (∀ c ∈ xs, isDecimalDigit c = true) ∧ xs.length = width ∧
      n = Nat.ofDigitChars 10 (xs.map asciiDigit) 0 := by
  unfold Instant.readNumber readDigits at h
  dsimp only at h
  split_ifs at h with hlength hdigits
  refine ⟨fun c hc => ?_, Nat.le_antisymm hlength.2 hlength.1, (Option.some.inj h).symm⟩
  rw [← isDigit_asciiDigit]
  exact List.all_eq_true.1 hdigits _ (List.mem_map_of_mem hc)

lemma digit_not_slash {c : Char} (h : isDecimalDigit c = true) : '/'.toLower ≠ c.toLower := by
  rw [toLower_of_isDecimalDigit h]
  exact (ne_of_isDecimalDigit h (by decide)).symm

/-- One digit cannot stand before a slash where there are two. -/
lemma number_one_slash (hb : isDecimalDigit b = true) (set : Nat → Fields) :
    ((number 1 least most (a :: b :: cs)).flatMap
      (fun way => readings (.literal '/' :: ds) (set way.1) way.2)) = [] := by
  refine List.flatMap_eq_nil_iff.2 (fun way hway => ?_)
  have hrest : way.2 = b :: cs := by
    unfold number at hway
    split_ifs at hway
    · split at hway
      · rw [List.mem_singleton.1 hway]
        rfl
      · cases hway
    · cases hway
  rw [readings, hrest, Directive.ways, if_neg (digit_not_slash hb)]
  rfl

/-- The value of two digits, the first of them in ASCII. -/
lemma value_of_two_digits (h : Instant.readNumber 2 2 [a, b] = some n) (ha : a.isDigit = true) :
    ∃ digit, digitValue b = some digit ∧ 10 * (a.toNat - 48) + digit = n := by
  rcases digits_of_readNumber h with ⟨hdigits, _, rfl⟩
  rcases Option.isSome_iff_exists.1 (hdigits b (List.mem_cons_of_mem _ List.mem_cons_self)) with
    ⟨digit, hdigit⟩
  have hb : (asciiDigit b).toNat = 48 + digit := by
    rw [asciiDigit, hdigit]
    exact (isDigit_ofNat (digitValue_lt hdigit)).2
  refine ⟨digit, hdigit, ?_⟩
  simp only [List.map_cons, List.map_nil, Nat.ofDigitChars, List.foldl_cons, List.foldl_nil,
    asciiDigit_of_isDigit ha, hb, Char.reduceToNat]
  omega

/-- A field of two digits is their number, within bounds. -/
lemma bounds_of_readField {m : Nat} (h : Instant.readNumber 2 2 [a, b] = some n)
    (hfield : Instant.readField least most [a, b] = some m) : m = n ∧ least ≤ n ∧ n ≤ most := by
  rw [Instant.readField] at hfield
  split_ifs at hfield with ha
  rcases value_of_two_digits h ha with ⟨digit, hdigit, rfl⟩
  rw [Instant.readUnit, hdigit, Option.bind_eq_bind, Option.bind_some] at hfield
  split_ifs at hfield with hbounds
  exact ⟨(Option.some.inj hfield).symm, hbounds.1⟩

/-- In ASCII the bounds are all that is asked. -/
lemma readField_of_ascii (h : Instant.readNumber 2 2 [a, b] = some n) (ha : a.isDigit = true)
    (hb : b.isDigit = true) :
    Instant.readField least most [a, b] = some n ↔ least ≤ n ∧ n ≤ most := by
  refine ⟨fun hfield => (bounds_of_readField h hfield).2, fun hbounds => ?_⟩
  rcases value_of_two_digits h ha with ⟨digit, hdigit, rfl⟩
  rw [Instant.readField, if_pos ha, Instant.readUnit, hdigit, Option.bind_eq_bind, Option.bind_some,
    if_pos ⟨hbounds, Or.inl hb⟩]

lemma readings_two_digits (h : Instant.readNumber 2 2 [a, b] = some n) (set : Nat → Fields) :
    ((shortNumber least most (a :: b :: '/' :: cs)).flatMap
      (fun way => readings (.literal '/' :: ds) (set way.1) way.2)) =
        if Instant.readField least most [a, b] = some n then readings ds (set n) cs else [] := by
  have hdigits := (digits_of_readNumber h).1
  have htwo : number 2 least most (a :: b :: '/' :: cs) =
      if Instant.readField least most [a, b] = some n then [(n, '/' :: cs)] else [] := by
    rw [number, if_pos (by simp), List.take_succ_cons, List.take_succ_cons, List.take_zero]
    cases hfield : Instant.readField least most [a, b] with
    | none => rfl
    | some m =>
        rw [(bounds_of_readField h hfield).1, if_pos rfl]
        rfl
  rw [shortNumber, List.flatMap_append, htwo,
    number_one_slash (hdigits b (List.mem_cons_of_mem _ List.mem_cons_self)), List.append_nil]
  split_ifs
  · rw [List.flatMap_singleton, readings, Directive.ways, if_pos rfl, List.flatMap_singleton]
  · rfl

lemma readings_month (h : Instant.readNumber 2 2 [a, b] = some n) (f : Fields) :
    readings (.month :: .literal '/' :: ds) f (a :: b :: '/' :: cs) =
      if Instant.readField 1 12 [a, b] = some n then readings ds { f with month := n } cs else [] := by
  rw [readings, Directive.ways, List.flatMap_map]
  exact readings_two_digits h (fun month => { f with month := month })

lemma readings_day (h : Instant.readNumber 2 2 [a, b] = some n) (f : Fields) :
    readings (.day :: .literal '/' :: ds) f (a :: b :: '/' :: cs) =
      if Instant.readField 1 31 [a, b] = some n then readings ds { f with day := n } cs else [] := by
  -- A digit is no blank, so only the numbers of two and of one digit are tried.
  have hblank : a ≠ ' ' :=
    ne_of_isDecimalDigit ((digits_of_readNumber h).1 a List.mem_cons_self) (by decide)
  have hday : dayNumber (a :: b :: '/' :: cs) = shortNumber 1 31 (a :: b :: '/' :: cs) := by
    unfold dayNumber
    split
    · rename_i heq
      exact absurd (List.cons.inj heq).1 hblank
    · exact List.append_nil _
  rw [readings, Directive.ways, hday, List.flatMap_map]
  exact readings_two_digits h (fun day => { f with day := day })

lemma readings_year {cs : List Char} (h : Instant.readNumber 4 4 cs = some n) (f : Fields) :
    readings [.year] f cs = [({ f with year := n }, [])] := by
  have hlength := (digits_of_readNumber h).2.1
  rw [readings, Directive.ways, digits, ← hlength, List.take_length, hlength, h]
  dsimp only
  rw [List.drop_of_length_le (Nat.le_of_eq hlength)]
  rfl

end Readings

/-! ## Slashed dates under a format -/

section Tokens

variable {value format : String} {token : SlashDateToken}

/-- A token has the numbers of its value. -/
lemma slashDateToken_eq_some (h : slashDateToken value = some token) :
    token.raw = value ∧ ∃ a b c d : Char, ∃ year : List Char,
      value.toList = a :: b :: '/' :: c :: d :: '/' :: year ∧
        Instant.readNumber 2 2 [a, b] = some token.first ∧
          Instant.readNumber 2 2 [c, d] = some token.second ∧
            Instant.readNumber 4 4 year = some token.year := by
  unfold slashDateToken at h
  split at h
  · rename_i a b c d e f g i htext
    rcases Option.bind_eq_some_iff.1 h with ⟨first, hfirst, hrest⟩
    rcases Option.bind_eq_some_iff.1 hrest with ⟨second, hsecond, hrest⟩
    rcases Option.bind_eq_some_iff.1 hrest with ⟨year, hyear, hmade⟩
    cases hmade
    exact ⟨rfl, a, b, c, d, [e, f, g, i], htext, hfirst, hsecond, hyear⟩
  · cases h

lemma daysInMonth_le (year month : Nat) : daysInMonth year month ≤ 31 := by
  unfold daysInMonth
  split_ifs <;> decide

/-- A text with one reading, if any, is the date of its numbers. -/
lemma readInstant_of_readings {text : String} {directives : List Directive} {year month day : Nat}
    {P : Prop} [Decidable P] (hdirectives : formatOf format.toList = some directives)
    (hreadings : readings directives {} text.toList =
      if P then [({ year := year, month := month, day := day }, [])] else []) :
    readInstant format text = if P then Instant.ofFields year month day 0 0 0 else none := by
  have hinstant : ({ year := year, month := month, day := day } : Fields).instant =
      Instant.ofFields year month day 0 0 0 := rfl
  rw [readInstant, readFields, hdirectives, Option.bind_eq_bind, Option.bind_some, hreadings]
  split_ifs with hread
  · rw [List.head?_cons, Option.bind_eq_bind, Option.bind_some]
    dsimp only
    split_ifs with hdated
    · rw [Option.bind_some, hinstant]
    · rw [Option.bind_none, Instant.ofFields, dif_neg]
      rintro ⟨⟨hleast, _⟩, _, hday, _⟩
      exact hdated ⟨rfl, hleast, hday.2, fun _ h => by cases h⟩
  · rw [List.head?_nil, Option.bind_eq_bind, Option.bind_none, Option.bind_none]

/-- What `strptime` asks of the first two numbers of a slashed value. -/
def FieldsRead (format : String) (token : SlashDateToken) : Prop :=
  if format = "%d/%m/%Y" then
    Instant.readField 1 31 (token.raw.toList.take 2) = some token.first ∧
      Instant.readField 1 12 ((token.raw.toList.drop 3).take 2) = some token.second
  else
    Instant.readField 1 12 (token.raw.toList.take 2) = some token.first ∧
      Instant.readField 1 31 ((token.raw.toList.drop 3).take 2) = some token.second

instance (format : String) (token : SlashDateToken) : Decidable (FieldsRead format token) := by
  unfold FieldsRead
  split_ifs <;> infer_instance

/-- A slashed value is read as the date of its numbers, if its fields are read. -/
theorem readInstant_slash (h : slashDateToken value = some token) (hformat : format ∈ dateFormats) :
    readInstant format value = if FieldsRead format token then token.date format else none := by
  rcases slashDateToken_eq_some h with ⟨hraw, a, b, c, d, year, htext, hfirst, hsecond, hyear⟩
  have htake : token.raw.toList.take 2 = [a, b] := by rw [hraw, htext]; rfl
  have hdrop : (token.raw.toList.drop 3).take 2 = [c, d] := by rw [hraw, htext]; rfl
  rcases List.mem_cons.1 hformat with rfl | hformat
  · have hdirectives : formatOf "%d/%m/%Y".toList =
        some [.day, .literal '/', .month, .literal '/', .year] := by decide
    rw [SlashDateToken.date, if_pos rfl]
    refine readInstant_of_readings hdirectives ?_
    rw [htext, readings_day hfirst, readings_month hsecond, readings_year hyear, ← ite_and]
    refine if_congr ?_ rfl rfl
    rw [FieldsRead, if_pos rfl, htake, hdrop]
  · have hother : ¬"%m/%d/%Y" = "%d/%m/%Y" := by decide
    have hdirectives : formatOf "%m/%d/%Y".toList =
        some [.month, .literal '/', .day, .literal '/', .year] := by decide
    rw [List.mem_singleton.1 hformat, SlashDateToken.date, if_neg hother]
    refine readInstant_of_readings hdirectives ?_
    rw [htext, readings_month hfirst, readings_day hsecond, readings_year hyear, ← ite_and]
    refine if_congr ?_ rfl rfl
    rw [FieldsRead, if_neg hother, htake, hdrop]

/-- A slashed value that is a date is the date of its numbers. -/
lemma date_of_readInstant (h : slashDateToken value = some token) (hformat : format ∈ dateFormats)
    {t : Instant} (hread : readInstant format value = some t) : token.date format = some t := by
  rw [readInstant_slash h hformat] at hread
  split_ifs at hread
  exact hread

lemma isDigit_of_ascii {c : Char} (hdigit : isDecimalDigit c = true) (hascii : c.toNat < 128) :
    c.isDigit = true := by
  by_contra hnot
  rw [isDecimalDigit, digitValue_of_ascii hascii (Bool.eq_false_iff.2 hnot)] at hdigit
  cases hdigit

/-- In ASCII a slashed value is read exactly as the date of its numbers. -/
theorem readInstant_ascii (h : slashDateToken (strip value) = some token)
    (hformat : format ∈ dateFormats) (hascii : writtenInAscii value = true) :
    readInstant format (strip value) = token.date format := by
  rcases slashDateToken_eq_some h with ⟨hraw, a, b, c, d, year, htext, hfirst, hsecond, _⟩
  have hplain : ∀ x ∈ [a, b, '/', c, d], x.toNat < 128 := by
    intro x hx
    rw [writtenInAscii, htext] at hascii
    exact of_decide_eq_true (List.all_eq_true.1 hascii x hx)
  have hab := (digits_of_readNumber hfirst).1
  have hcd := (digits_of_readNumber hsecond).1
  simp only [List.forall_mem_cons] at hplain hab hcd
  have hfirstField : ∀ least most, Instant.readField least most [a, b] = some token.first ↔
      least ≤ token.first ∧ token.first ≤ most := fun least most =>
    readField_of_ascii hfirst (isDigit_of_ascii hab.1 hplain.1) (isDigit_of_ascii hab.2.1 hplain.2.1)
  have hsecondField : ∀ least most, Instant.readField least most [c, d] = some token.second ↔
      least ≤ token.second ∧ token.second ≤ most := fun least most =>
    readField_of_ascii hsecond (isDigit_of_ascii hcd.1 hplain.2.2.2.1)
      (isDigit_of_ascii hcd.2.1 hplain.2.2.2.2.1)
  have htake : token.raw.toList.take 2 = [a, b] := by rw [hraw, htext]; rfl
  have hdrop : (token.raw.toList.drop 3).take 2 = [c, d] := by rw [hraw, htext]; rfl
  rw [readInstant_slash h hformat]
  split_ifs with hread
  · rfl
  · rw [FieldsRead, htake, hdrop, hfirstField, hfirstField, hsecondField, hsecondField] at hread
    symm
    rw [SlashDateToken.date]
    split_ifs at hread ⊢
    · rw [Instant.ofFields, dif_neg]
      rintro ⟨_, hmonth, hday, _⟩
      exact hread ⟨⟨hday.1, hday.2.trans (daysInMonth_le _ _)⟩, hmonth⟩
    · rw [Instant.ofFields, dif_neg]
      rintro ⟨_, hmonth, hday, _⟩
      exact hread ⟨hmonth, hday.1, hday.2.trans (daysInMonth_le _ _)⟩

/-- A slashed value that is a date is read as that date, whatever the file is called. -/
theorem parseInventoryTimestamp_slash (h : slashDateToken (strip value) = some token) {t : Instant}
    (hread : readInstant format (strip value) = some t) (sourceTimezone : Option Instant.Offset) (filename : String) :
    parseInventoryTimestamp value sourceTimezone filename (some format) = .ok (some t) := by
  rcases slashDateToken_eq_some h with ⟨_, a, b, c, d, year, htext, hfirst, hsecond, hyear⟩
  rcases digits_of_readNumber hyear with ⟨hdigits, hlength, _⟩
  have hcd := (digits_of_readNumber hsecond).1
  have hab := (digits_of_readNumber hfirst).1
  match year, hlength with
  | [e, f, g, i], _ =>
      have hne : strip value ≠ "" := by
        intro hempty
        rw [hempty] at htext
        cases htext
      have hf : f ≠ ':' := ne_of_isDecimalDigit (hdigits f (by simp)) (by decide)
      have hutc : endsWith (strip value) " UTC" = false := by
        rw [endsWith, htext]
        have hi : i ≠ 'C' := ne_of_isDecimalDigit (hdigits i (by simp)) (by decide)
        simp [List.isSuffixOf, List.isPrefixOf, hi.symm]
      have hz : endsWith (strip value) "Z" = false := by
        rw [endsWith, htext]
        have hi : i ≠ 'Z' := ne_of_isDecimalDigit (hdigits i (by simp)) (by decide)
        simp [List.isSuffixOf, List.isPrefixOf, hi.symm]
      have hoffset : valueHasNonUtcOffset (strip value) = false := by
        rw [valueHasNonUtcOffset, strip_strip, htext]
        simp [hf]
      have hiso : isIsoDateOnly (strip value) = false := by
        have hdash : '-' ∉ [a, b] ++ '/' :: ([c, d] ++ '/' :: [e, f, g, i]) := by
          simp only [List.mem_append, List.mem_cons (a := '-') (b := '/'), not_or]
          have hdashed : ∀ {c}, isDecimalDigit c = true → c ≠ '-' := fun hc =>
            ne_of_isDecimalDigit hc (by decide)
          exact ⟨fun hx => hdashed (hab _ hx) rfl, by decide, fun hx => hdashed (hcd _ hx) rfl,
            by decide, fun hx => hdashed (hdigits _ hx) rfl⟩
        have hcount : [a, b, '/', c, d, '/', e, f, g, i].count '-' = 0 := List.count_eq_zero.2 hdash
        rw [isIsoDateOnly, htext, hcount]
        simp
      rw [parseInventoryTimestamp, if_neg hne, exactInventoryTimestamp, hutc, hz, hoffset, hiso]
      simp only [Bool.false_eq_true, if_false, hread]
      rfl

end Tokens

/-! ## What the inference promises -/

section Inference

variable {values : List String} {filename format other : String} {tokens : List SlashDateToken}

lemma twelve_le_daysInMonth (year month : Nat) : 12 ≤ daysInMonth year month := by
  unfold daysInMonth
  split_ifs <;> decide

lemma ofFields_isSome_iff {year month day : Nat} :
    (Instant.ofFields year month day 0 0 0).isSome = true ↔
      (1 ≤ year ∧ year ≤ 9999) ∧ (1 ≤ month ∧ month ≤ 12) ∧ 1 ≤ day ∧ day ≤ daysInMonth year month := by
  unfold Instant.ofFields
  split_ifs with h
  · exact iff_of_true rfl ⟨h.1, h.2.1, h.2.2.1⟩
  · refine iff_of_false (by simp) ?_
    rintro ⟨hyear, hmonth, hday⟩
    exact h ⟨hyear, hmonth, hday, by decide, by decide, by decide, by decide⟩

/-- Numbers up to 12 make a date in either order. -/
lemma date_swap {year first second : Nat} (hfirst : first ≤ 12)
    (h : (Instant.ofFields year second first 0 0 0).isSome = true) :
    (Instant.ofFields year first second 0 0 0).isSome = true := by
  rcases ofFields_isSome_iff.1 h with ⟨hyear, hsecond, hone, _⟩
  exact ofFields_isSome_iff.2
    ⟨hyear, ⟨hone, hfirst⟩, hsecond.1, hsecond.2.trans (twelve_le_daysInMonth year first)⟩

/-- The format reads every date of the tokens. -/
def ReadsAll (tokens : List SlashDateToken) (format : String) : Prop :=
  ∀ token ∈ tokens, ∀ other ∈ dateFormats, (token.date other).isSome = true →
    (token.date format).isSome = true

lemma readsAll_of_componentBounds
    (h : slashDateFormatFromComponentBounds tokens = some format) :
    format ∈ dateFormats ∧ ReadsAll tokens format := by
  unfold slashDateFormatFromComponentBounds at h
  dsimp only at h
  split_ifs at h with heq hday
  · cases h
    refine ⟨List.mem_cons_self, fun token htoken other hother hdate => ?_⟩
    -- Month first is not the only reading of any token.
    have hmonth : tokens.any (fun token => token.first ≤ 12 && 12 < token.second) = false := by
      rw [hday] at heq
      exact Bool.eq_false_iff.2 (Ne.symm heq)
    have hnone := List.any_eq_false.1 hmonth token htoken
    rcases List.mem_cons.1 hother with rfl | hother
    · exact hdate
    · rw [List.mem_singleton.1 hother, SlashDateToken.date, if_neg (by decide)] at hdate
      rw [SlashDateToken.date, if_pos rfl]
      rcases ofFields_isSome_iff.1 hdate with ⟨_, hfirst, _⟩
      exact date_swap (by simpa [hfirst.2] using hnone) hdate
  · cases h
    refine ⟨List.mem_cons_of_mem _ List.mem_cons_self, fun token htoken other hother hdate => ?_⟩
    have hnone := List.any_eq_false.1 (Bool.eq_false_iff.2 hday) token htoken
    rw [SlashDateToken.date, if_neg (by decide)]
    rcases List.mem_cons.1 hother with rfl | hother
    · rw [SlashDateToken.date, if_pos rfl] at hdate
      rcases ofFields_isSome_iff.1 hdate with ⟨_, hsecond, _⟩
      exact date_swap (by simpa [hsecond.2] using hnone) hdate
    · rwa [List.mem_singleton.1 hother, SlashDateToken.date, if_neg (by decide)] at hdate

lemma slashDateToken_raw {value : String} {token : SlashDateToken}
    (h : slashDateToken value = some token) : slashDateToken token.raw = some token := by
  rw [(slashDateToken_eq_some h).1, h]

/-- A candidate that reads as many values as there are tokens reads them all. -/
lemma readsAll_of_complete {candidate : SlashDateCandidate}
    (hraw : ∀ token ∈ tokens, slashDateToken token.raw = some token)
    (hcandidate : candidate ∈ slashCandidates tokens)
    (hcomplete : candidate.parsedValues.length = tokens.length) :
    candidate.dateFormat ∈ dateFormats ∧ ReadsAll tokens candidate.dateFormat := by
  rcases List.mem_map.1 hcandidate with ⟨format, hformat, rfl⟩
  refine ⟨hformat, fun token htoken _ _ _ => ?_⟩
  have hread := List.filterMap_length_eq_length.1 hcomplete token htoken
  rcases Option.isSome_iff_exists.1 hread with ⟨t, ht⟩
  rw [date_of_readInstant (hraw token htoken) hformat ht, Option.isSome_some]

lemma readsAll_of_chronology (hraw : ∀ token ∈ tokens, slashDateToken token.raw = some token)
    (h : slashDateFormatFromChronology tokens (slashCandidates tokens) = some format) :
    format ∈ dateFormats ∧ ReadsAll tokens format := by
  unfold slashDateFormatFromChronology at h
  split at h
  · rename_i winner hfilter
    rcases Option.bind_eq_some_iff.1 h with ⟨loser, _, hformat⟩
    split_ifs at hformat
    rcases List.mem_filter.1 (hfilter ▸ List.mem_singleton.2 rfl : winner ∈ _) with
      ⟨hwinner, hsupports⟩
    simp only [chronologySupportsInference, Bool.and_eq_true, decide_eq_true_eq] at hsupports
    rw [← Option.some.inj hformat]
    exact readsAll_of_complete hraw hwinner hsupports.1.1.1.1
  · cases h

lemma readsAll_of_filenameAnchor (hraw : ∀ token ∈ tokens, slashDateToken token.raw = some token)
    (h : slashDateFormatFromFilenameAnchor (slashCandidates tokens) filename = some format) :
    format ∈ dateFormats ∧ ReadsAll tokens format := by
  unfold slashDateFormatFromFilenameAnchor at h
  split_ifs at h
  split at h
  · rename_i candidate hfilter
    rcases List.mem_filter.1 (hfilter ▸ List.mem_singleton.2 rfl : candidate ∈ _) with
      ⟨hcandidate, hmatches⟩
    simp only [filenameMatchesAnySlashDate, Bool.and_eq_true, decide_eq_true_eq] at hmatches
    have hcount : candidate.tokenCount = tokens.length := by
      rcases List.mem_map.1 hcandidate with ⟨_, _, rfl⟩
      rfl
    rw [← Option.some.inj h]
    exact readsAll_of_complete hraw hcandidate (hcount ▸ hmatches.1.1)
  · cases h

lemma mem_slashDateTokens {value : String} {token : SlashDateToken} (hvalue : value ∈ values)
    (htoken : slashDateToken (strip value) = some token) :
    token ∈ slashDateTokens ((values.map strip).filter (fun value => value ≠ "")) := by
  refine List.mem_filterMap.2 ⟨strip value, List.mem_filter.2 ⟨List.mem_map_of_mem hvalue, ?_⟩, htoken⟩
  rcases slashDateToken_eq_some htoken with ⟨_, _, _, _, _, _, htext, _⟩
  refine decide_eq_true (fun hempty => ?_)
  rw [hempty] at htext
  cases htext

/-- A format is inferred from slashed dates, which it all reads, or there are none. -/
theorem inferDateOnlyFormat_eq_some (h : inferDateOnlyFormat values filename = some format) :
    slashDateTokens ((values.map strip).filter (fun value => value ≠ "")) = [] ∨
      format ∈ dateFormats ∧
        ReadsAll (slashDateTokens ((values.map strip).filter (fun value => value ≠ ""))) format := by
  unfold inferDateOnlyFormat at h
  dsimp only at h
  set tokens := slashDateTokens ((values.map strip).filter (fun value => value ≠ "")) with htokens
  have hraw : ∀ token ∈ tokens, slashDateToken token.raw = some token := by
    intro token htoken
    rcases List.mem_filterMap.1 htoken with ⟨value, _, hvalue⟩
    exact slashDateToken_raw hvalue
  split_ifs at h with hiso hnone
  · exact Or.inl hiso.2
  · right
    rcases Option.or_eq_some_iff.1 h with hbounds | ⟨_, h⟩
    · exact readsAll_of_componentBounds hbounds
    · rcases Option.or_eq_some_iff.1 h with hchronology | ⟨_, hanchor⟩
      · exact readsAll_of_chronology hraw hchronology
      · exact readsAll_of_filenameAnchor hraw hanchor

/-- An inferred slash format reads every slashed value in ASCII that is a date, such values that
contradict each other infer no format, and the profiler reads each date under the format as that date. -/
theorem slash_dates_inferred (values : List String) (filename : String) :
    (∀ format ∈ dateFormats, inferDateOnlyFormat values filename = some format →
      (∀ other ∈ dateFormats, ¬OnlyUnder (values.filter writtenInAscii) other format) ∧
        ∀ value token t, slashDateToken (strip value) = some token →
          readInstant format (strip value) = some t →
            token.date format = some t ∧ ∀ sourceTimezone anyFilename,
              parseInventoryTimestamp value sourceTimezone anyFilename (some format) =
                .ok (some t)) ∧
      (OnlyUnder (values.filter writtenInAscii) "%d/%m/%Y" "%m/%d/%Y" →
        OnlyUnder (values.filter writtenInAscii) "%m/%d/%Y" "%d/%m/%Y" →
          inferDateOnlyFormat values filename = none) := by
  have hreads : ∀ format ∈ dateFormats, inferDateOnlyFormat values filename = some format →
      ∀ other ∈ dateFormats, ¬OnlyUnder (values.filter writtenInAscii) other format := by
    rintro format hformat hinferred other hother ⟨value, hvalue, hslash, hdate, hnone⟩
    rcases List.mem_filter.1 hvalue with ⟨hvalue, hascii⟩
    rcases Option.isSome_iff_exists.1 hslash with ⟨token, htoken⟩
    have hmem := mem_slashDateTokens hvalue htoken
    rw [readInstant_ascii htoken hother hascii] at hdate
    rw [readInstant_ascii htoken hformat hascii] at hnone
    rcases inferDateOnlyFormat_eq_some hinferred with hempty | ⟨_, hall⟩
    · rw [hempty] at hmem
      cases hmem
    · have hsome := hall token hmem other hother hdate
      rw [hnone] at hsome
      cases hsome
  refine ⟨fun format hformat hinferred => ⟨hreads format hformat hinferred, ?_⟩, ?_⟩
  · intro value token t htoken hread
    exact ⟨date_of_readInstant htoken hformat hread, parseInventoryTimestamp_slash htoken hread⟩
  · intro hday hmonth
    by_contra hne
    rcases Option.ne_none_iff_exists'.1 hne with ⟨format, hinferred⟩
    rcases hday with ⟨value, hvalue, hslash, hrest⟩
    rcases Option.isSome_iff_exists.1 hslash with ⟨token, htoken⟩
    rcases inferDateOnlyFormat_eq_some hinferred with hempty | ⟨hformat, _⟩
    · have hmem := mem_slashDateTokens (List.mem_filter.1 hvalue).1 htoken
      rw [hempty] at hmem
      cases hmem
    · rcases List.mem_cons.1 hformat with rfl | hlast
      · exact hreads _ hformat hinferred _ (List.mem_cons_of_mem _ List.mem_cons_self) hmonth
      · rw [List.mem_singleton.1 hlast] at hinferred hformat
        exact hreads _ hformat hinferred _ List.mem_cons_self ⟨value, hvalue, hslash, hrest⟩

/-- The zero of the first day is not ASCII: the pattern takes the number 10 for a day or a month, and
`strptime` for a day only. -/
theorem full_width_day_misjudged :
    inferDateOnlyFormat ["1０/05/2024", "01/13/2024"] "" = some "%m/%d/%Y" ∧
      OnlyUnder ["1０/05/2024", "01/13/2024"] "%d/%m/%Y" "%m/%d/%Y" ∧
        OnlyUnder ["1０/05/2024", "01/13/2024"] "%m/%d/%Y" "%d/%m/%Y" := by
  refine ⟨by decide +kernel, ⟨"1０/05/2024", List.mem_cons_self, ?_⟩,
    ⟨"01/13/2024", List.mem_cons_of_mem _ List.mem_cons_self, ?_⟩⟩
  · decide +kernel
  · decide +kernel

example : inferDateOnlyFormat ["13/02/2024", " 01/02/2024"] "2024-01-02.csv" = some "%d/%m/%Y" := by
  decide +kernel

end Inference

end Profiling
end Tallylot
