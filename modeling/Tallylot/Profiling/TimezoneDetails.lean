import Tallylot.Data.Dict
import Tallylot.Data.Sorted
import Tallylot.Profiling.InventoryTimestamps
import Mathlib.Data.List.Infix
import Mathlib.Data.List.Pairwise

/-!
# TimezoneDetails — what the profiler says about the times of a file

The values of the date field are read as UTC, each at its own offset, at the offset of the file's name
or as UTC.  The profile keeps the texts of the first and the last of them, down to the second, and
beside them a text that states the offset (`stateTimezone`), in one of three forms: `UTC`, the last
six characters of the first value, or `UTC±hh:mm`.
-/

namespace Tallylot
namespace Profiling

open Data Data.Strptime

structure TimezoneDetails where
  dateField : String := ""
  minTimestamp : String := ""
  maxTimestamp : String := ""
  observedPeriodStart : String := ""
  observedPeriodEnd : String := ""
  observedPeriodLabel : String := ""
  timestampResolution : String := ""
  timezoneMode : String := ""
  timezoneValue : String := ""
  timezoneConflict : String := ""
  deriving DecidableEq

/-! ## The date field -/

def timestampFieldNames : List String :=
  ["timestamp", "timestamputc", "date", "datetime", "datetimeutc", "time", "transactiondate"]

/-- `text[:n]` -/
def firstChars (n : Nat) (text : String) : String := String.ofList (text.toList.take n)

/-- `text[-n:]` -/
def lastChars (n : Nat) (text : String) : String :=
  String.ofList (text.toList.drop (text.toList.length - n))

def timestampResolution (value : String) : String :=
  if value = "" then ""
  else if isIsoDateOnly (strip value) then "date_only"
  else if ':' ∈ (strip value).toList then "second"
  else "unknown"

section Details

variable (lower : String → String)

def isTimestampField (name : String) : Bool :=
  String.ofList ((lower name).toList.filter Char.isLower) ∈ timestampFieldNames

/-- The values of a field that are not blank. -/
def fieldValues (field : String) (rows : List (Dict String String)) : List String :=
  (rows.map (fun row => strip ((row.get? field).getD ""))).filter (fun value => value ≠ "")

/-! ## The stated offset -/

/-- What a profile says about the offset. -/
structure TimezoneStatement where
  mode : String := ""
  value : String := ""
  conflict : String := ""

/-- The branches of `csv_timezone_details` that set the mode, the value and the conflict. -/
def stateTimezone (timestampField sampleValue : String) (sourceTimezone : Option Instant.Offset)
    (dateOnlyFormat : Option String) : TimezoneStatement :=
  if "utc".toList <:+: (lower timestampField).toList then
    if valueHasNonUtcOffset sampleValue then
      { mode := "conflict", conflict := "header:" ++ timestampField ++ "|value:" ++ sampleValue }
    else { mode := "header_utc", value := "UTC" }
  else if endsWith sampleValue "Z" || endsWith sampleValue " UTC" then
    { mode := "value_utc", value := "UTC" }
  else if valueHasNonUtcOffset sampleValue then
    { mode := "value_utc", value := lastChars 6 sampleValue }
  else
    match sourceTimezone, dateOnlyFormat with
    | some offset, _ =>
      if sampleValue = "" then if dateOnlyFormat.isSome then { mode := "date_only" } else {}
      else { mode := "filename_offset", value := formatTimezoneValue offset }
    | none, some _ => { mode := "date_only" }
    | none, none => if sampleValue = "" then {} else { mode := "naive" }

/-! ## Times -/

/-- The times of the values, as `csv_timezone_details` reads them. -/
def eventTimes (filename timestampField : String) (rows : List (Dict String String)) :
    Except ClockError (List Instant) := do
  let values := fieldValues timestampField rows
  let sourceTimezone ← filenameTimezone filename
  let parsed ← values.mapM (fun value =>
    parseInventoryTimestamp value sourceTimezone filename (inferDateOnlyFormat values filename))
  return parsed.filterMap id

def observedPeriodLabel (first last : String) : String :=
  if first = "" ∨ last = "" then ""
  else if firstChars 7 first = firstChars 7 last then firstChars 7 first
  else firstChars 7 first ++ ".." ++ firstChars 7 last

/-- The date field of a file; empty if it has none. -/
def dateField (header : List String) : String := (header.find? (isTimestampField lower)).getD ""

def csvTimezoneDetails (filename : String) (header : List String) (rows : List (Dict String String)) :
    Except ClockError TimezoneDetails := do
  let timestampField := dateField lower header
  if timestampField = "" then return {}
  let values := fieldValues timestampField rows
  let sampleValue := values.head?.getD ""
  let dateOnlyFormat := inferDateOnlyFormat values filename
  let sourceTimezone ← filenameTimezone filename
  let statement := stateTimezone lower timestampField sampleValue sourceTimezone dateOnlyFormat
  let times ← eventTimes filename timestampField rows
  let parsedValues := sortedOn id times
  let minTimestamp := (parsedValues.head?.map Instant.timestampText).getD ""
  let maxTimestamp := (parsedValues.getLast?.map Instant.timestampText).getD ""
  return {
    dateField := timestampField
    minTimestamp := minTimestamp
    maxTimestamp := maxTimestamp
    observedPeriodStart := firstChars 10 minTimestamp
    observedPeriodEnd := firstChars 10 maxTimestamp
    observedPeriodLabel := observedPeriodLabel (firstChars 10 minTimestamp) (firstChars 10 maxTimestamp)
    timestampResolution :=
      if dateOnlyFormat.isSome then "date_only" else timestampResolution sampleValue
    timezoneMode := statement.mode
    timezoneValue := statement.value
    timezoneConflict := statement.conflict }

/-! ## Profiled files -/

/-- The times of the events of a file; none without a date field. -/
def fileTimes (filename : String) (header : List String) (rows : List (Dict String String)) :
    Except ClockError (List Instant) :=
  if dateField lower header = "" then .ok [] else eventTimes filename (dateField lower header) rows

/-- A file with its profile and the times of its events, in UTC. -/
structure ProfiledFile where
  filename : String
  header : List String
  rows : List (Dict String String)
  details : TimezoneDetails
  times : List Instant
  profiled : csvTimezoneDetails lower filename header rows = .ok details
  timed : fileTimes lower filename header rows = .ok times

/-- The closed interval that some times span. -/
def Spans (times : List Instant) (t : Instant) : Prop := ∃ s ∈ times, ∃ u ∈ times, s ≤ t ∧ t ≤ u

/-- The first and the last of some times. -/
def Bounds (times : List Instant) (first last : Instant) : Prop :=
  (first ∈ times ∧ last ∈ times) ∧ ∀ t ∈ times, first ≤ t ∧ t ≤ last

lemma Bounds.unique {times : List Instant} {a b first last : Instant} (h : Bounds times a b)
    (h' : Bounds times first last) : a = first ∧ b = last :=
  ⟨le_antisymm (h.2 first h'.1.1).1 (h'.2 a h.1.1).1, le_antisymm (h'.2 b h.1.2).2 (h.2 last h'.1.2).2⟩

lemma spans_iff {times : List Instant} {first last t : Instant} (h : Bounds times first last) :
    Spans times t ↔ first ≤ t ∧ t ≤ last := by
  constructor
  · rintro ⟨s, hs, u, hu, hst, htu⟩
    exact ⟨le_trans (h.2 s hs).1 hst, le_trans htu (h.2 u hu).2⟩
  · rintro ⟨hfirst, hlast⟩
    exact ⟨first, h.1.1, last, h.1.2, hfirst, hlast⟩

/-- Sorting puts the bounds at both ends. -/
lemma exists_bounds {times : List Instant} (h : times ≠ []) :
    ∃ first last, Bounds times first last ∧ (sortedOn id times).head? = some first ∧
      (sortedOn id times).getLast? = some last := by
  have hne : sortedOn id times ≠ [] := by
    intro hnil
    have hlength := length_sortedOn id times
    rw [hnil] at hlength
    exact h (List.length_eq_zero_iff.1 hlength.symm)
  have hsorted : (sortedOn id times).Pairwise (fun s t => s ≤ t) := pairwise_sortedOn id times
  refine ⟨(sortedOn id times).head hne, (sortedOn id times).getLast hne, ⟨⟨?_, ?_⟩, ?_⟩, ?_, ?_⟩
  · exact mem_sortedOn.1 (List.head_mem hne)
  · exact mem_sortedOn.1 (List.getLast_mem hne)
  · intro t ht
    have hmem : t ∈ sortedOn id times := mem_sortedOn.2 ht
    exact ⟨hsorted.rel_head hmem, hsorted.rel_getLast hmem⟩
  · exact List.head?_eq_some_head hne
  · exact List.getLast?_eq_some_getLast hne

namespace ProfiledFile

variable {lower} (file : ProfiledFile lower)

/-- The profile of a file with times shows its bounds, and the statement of its offset. -/
theorem details_eq (h : file.times ≠ []) : ∃ first last sourceTimezone, Bounds file.times first last ∧
    filenameTimezone file.filename = .ok sourceTimezone ∧ file.details.dateField ≠ "" ∧
      file.details.minTimestamp = first.timestampText ∧
        file.details.maxTimestamp = last.timestampText ∧
          file.details.timezoneValue =
            (stateTimezone lower (dateField lower file.header)
              ((fieldValues (dateField lower file.header) file.rows).head?.getD "") sourceTimezone
                (inferDateOnlyFormat (fieldValues (dateField lower file.header) file.rows)
                  file.filename)).value := by
  rcases exists_bounds h with ⟨first, last, hbounds, hhead, hlast⟩
  have hprofiled := file.profiled
  have htimed := file.timed
  rw [csvTimezoneDetails] at hprofiled
  rw [fileTimes] at htimed
  by_cases hfield : dateField lower file.header = ""
  · -- Without a date field no value is read.
    rw [if_pos hfield] at htimed
    exact absurd (Except.ok.inj htimed).symm h
  rw [if_neg hfield] at htimed
  simp only [hfield, if_false] at hprofiled
  rcases hname : filenameTimezone file.filename with e | sourceTimezone
  · simp [hname, bind, Except.bind] at hprofiled
  rw [hname, htimed] at hprofiled
  have hdetails := (Except.ok.inj hprofiled).symm
  refine ⟨first, last, sourceTimezone, hbounds, rfl, ?_⟩
  rw [hdetails, hhead, hlast]
  exact ⟨hfield, rfl, rfl, rfl⟩

end ProfiledFile

end Details

end Profiling
end Tallylot
