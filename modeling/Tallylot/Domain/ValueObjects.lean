import Tallylot.Data.DecimalText
import Tallylot.Data.InstantText
import Tallylot.Domain.Temporal

/-!
# ValueObjects — times, precisions and their texts

Parsing of the canonical texts.  A time is read back down to the second, a date exactly.
-/

namespace Tallylot
namespace Domain

open Data

namespace TemporalPrecision

def members : List TemporalPrecision := [timestamp, date]

end TemporalPrecision

/-- `parse_temporal_precision` -/
def parseTemporalPrecision (value : String) : Option TemporalPrecision :=
  if strip value = "" then none
  else ofValue TemporalPrecision.members TemporalPrecision.text (strip value)

/-- `parse_timestamp` -/
def parseTimestamp (value : String) : Decoded Instant :=
  requireSome (Instant.readTimestamp (strip value))
    "time data does not match format '%Y-%m-%d %H:%M:%S'"

/-- `require_temporal_datetime` of an instant in UTC. -/
def requireTemporalDatetime (value : Instant) (precision : TemporalPrecision) (label : String) :
    Decoded TemporalValue :=
  if h : precision = .date → value.isMidnight = true then .ok ⟨value, precision, h⟩
  else .error (.value (label ++ " with date precision must be midnight UTC"))

/-- `parse_temporal_value` -/
def parseTemporalValue (value : String) (precision : TemporalPrecision) : Decoded Instant :=
  match precision with
  | .timestamp => parseTimestamp (strip value)
  | .date =>
      requireSome (Instant.readDate (strip value)) "time data does not match format '%Y-%m-%d'"

lemma isMidnight_of_parseTemporalValue {value : String} {precision : TemporalPrecision} {t : Instant}
    (h : parseTemporalValue value precision = .ok t) (hdate : precision = .date) :
    t.isMidnight = true := by
  subst hdate
  unfold parseTemporalValue at h
  cases hread : Instant.readDate (strip value) with
  | none =>
      rw [hread] at h
      cases h
  | some read =>
      rw [hread] at h
      cases h
      exact Instant.isMidnight_of_readDate hread

/-! ## Texts that are read back -/

lemma strip_precisionText (p : TemporalPrecision) : strip p.text = p.text := by
  cases p <;> decide

lemma precisionText_ne_empty (p : TemporalPrecision) : p.text ≠ "" := by
  cases p <;> decide

lemma parseTemporalPrecision_text (p : TemporalPrecision) :
    parseTemporalPrecision p.text = some p := by
  cases p <;> decide

lemma parseTimestamp_text (t : Instant) : parseTimestamp t.timestampText = .ok t.wholeSecond := by
  simp [parseTimestamp, Instant.stripped_timestampText, Instant.readTimestamp_timestampText]

lemma requireTemporalDatetime_self (v : TemporalValue) (label : String) :
    requireTemporalDatetime v.instant v.precision label = .ok v :=
  dif_pos v.midnight

lemma requireTemporalDatetime_eq_ok {value : Instant} {precision : TemporalPrecision}
    {label : String} {v : TemporalValue}
    (h : requireTemporalDatetime value precision label = .ok v) :
    v.instant = value ∧ v.precision = precision := by
  unfold requireTemporalDatetime at h
  split at h
  · cases h
    exact ⟨rfl, rfl⟩
  · cases h

namespace TemporalValue

/-- The value that the text of a temporal value shows. -/
def settled (v : TemporalValue) : TemporalValue where
  instant := v.instant.wholeSecond
  precision := v.precision
  midnight := fun h => Instant.isMidnight_wholeSecond (v.midnight h)

theorem settled_eq_iff (v : TemporalValue) : v.settled = v ↔ v.instant.microsecond = 0 := by
  rw [← Instant.wholeSecond_eq_iff, TemporalValue.ext_iff]
  exact ⟨fun h => h.1, fun h => ⟨h, rfl⟩⟩

lemma parse_text (v : TemporalValue) : parseTemporalValue v.text v.precision = .ok v.settled.instant := by
  rcases v with ⟨t, p, hmidnight⟩
  cases p with
  | timestamp =>
      simp [parseTemporalValue, text, settled, Instant.stripped_timestampText, parseTimestamp_text]
  | date =>
      have hdate := hmidnight rfl
      simp [parseTemporalValue, text, settled, Instant.stripped_dateText, Instant.readDate_dateText,
        Instant.startOfDay_of_midnight hdate, Instant.wholeSecond_of_midnight hdate]

lemma strip_text (v : TemporalValue) : strip v.text = v.text := by
  rcases v with ⟨t, p, hmidnight⟩
  cases p with
  | timestamp => exact Instant.stripped_timestampText t
  | date => exact Instant.stripped_dateText t

lemma text_ne_empty (v : TemporalValue) : v.text ≠ "" := by
  rcases v with ⟨t, p, hmidnight⟩
  cases p with
  | timestamp => exact Instant.timestampText_ne_empty t
  | date => exact Instant.dateText_ne_empty t

end TemporalValue

end Domain
end Tallylot
