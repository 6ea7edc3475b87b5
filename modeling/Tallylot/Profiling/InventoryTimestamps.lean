import Tallylot.Profiling.DateInference

/-!
# InventoryTimestamps — the times that the profiler reads

A value says its offset itself (` UTC`, `Z` or `±hh:mm`), or it is a date, or it is a local time at the
offset of the file's name.  Reading a value can raise: a time near the ends of the calendar has no
UTC, and the seconds 60 and 61 are read but are no times.
-/

namespace Tallylot
namespace Profiling

open Data Data.Strptime

/-- What reading a time raises. -/
inductive ClockError
  /-- `OverflowError` of `astimezone` -/
  | overflow
  /-- `ValueError` of `datetime` and `timezone` -/
  | value
  deriving DecidableEq

/-- `.astimezone(UTC)` -/
def astimezone (t : Instant) (offset : Instant.Offset) : Except ClockError Instant :=
  match t.toUtc offset with
  | some u => .ok u
  | none => .error .overflow

lemma astimezone_eq_ok_iff {t u : Instant} {offset : Instant.Offset} :
    astimezone t offset = .ok u ↔ t.toUtc offset = some u := by
  unfold astimezone
  split
  · rename_i w hw
    rw [hw, Except.ok.injEq, Option.some.injEq]
  · rename_i hw
    simp [hw]

/-- `timezone(timedelta(minutes=…))` -/
def timezone (minutes : Int) : Except ClockError Instant.Offset :=
  if h : -1440 < minutes ∧ minutes < 1440 then .ok ⟨minutes, h⟩ else .error .value

/-- `-6` and `-3` of a stripped text are a sign and a colon. -/
def valueHasNonUtcOffset (value : String) : Bool :=
  match (strip value).toList.reverse with
  | _ :: _ :: c :: _ :: _ :: sign :: _ => (sign = '+' || sign = '-') && c = ':'
  | _ => false

/-! ## The offset of a file's name -/

/-- `\d{1,2}(?::\d{2})?\)` at the front of a text: the minutes. -/
def filenameOffset (cs : List Char) : Option Nat := do
  let hours ← Instant.readNumber 1 2 (cs.takeWhile isDecimalDigit)
  match cs.dropWhile isDecimalDigit with
  | ')' :: _ => some (hours * 60)
  | ':' :: a :: b :: ')' :: _ => do
    let minutes ← Instant.readNumber 2 2 [a, b]
    some (hours * 60 + minutes)
  | _ => none

/-- The offset in brackets at the front of a text; only the first of two signs counts. -/
def bracketedOffset : List Char → Option Int
  | '(' :: 'U' :: 'T' :: 'C' :: sign :: cs =>
    if sign = '+' ∨ sign = '-' then do
      let digits := match cs with
        | c :: rest => if c = '+' ∨ c = '-' then rest else c :: rest
        | [] => []
      let minutes ← filenameOffset digits
      some (if sign = '-' then -(minutes : Int) else minutes)
    else none
  | _ => none

/-- The first match of a search. -/
def searchOffset : List Char → Option Int
  | [] => none
  | c :: cs => (bracketedOffset (c :: cs)).or (searchOffset cs)

def filenameTimezone (filename : String) : Except ClockError (Option Instant.Offset) :=
  match searchOffset filename.toList with
  | none => .ok none
  | some minutes => (timezone minutes).map some

/-- `UTC+hh:mm` -/
def formatTimezoneValue (offset : Instant.Offset) : String :=
  let minutes := offset.minutes.natAbs
  String.ofList (['U', 'T', 'C', if 0 ≤ offset.minutes then '+' else '-'] ++
    (Instant.pad2 (minutes / 60) ++ ':' :: Instant.pad2 (minutes % 60)))

/-! ## Values -/

def endsWith (text suffix : String) : Bool := suffix.toList.isSuffixOf text.toList

/-- `_exact_inventory_timestamp` -/
def exactInventoryTimestamp (text filename : String) (dateOnlyFormat : Option String) :
    Except ClockError (Option Instant) :=
  if endsWith text " UTC" then .ok (readInstant "%Y-%m-%d %H:%M:%S UTC" text)
  else if endsWith text "Z" then
    .ok ((readInstant "%Y-%m-%dT%H:%M:%S.%fZ" text).or (readInstant "%Y-%m-%dT%H:%M:%SZ" text))
  else if valueHasNonUtcOffset text then
    match readAware "%Y-%m-%d %H:%M:%S%z" text with
    | some (t, offset) => (astimezone t offset).map some
    | none => .ok none
  else if isIsoDateOnly text then .ok (readInstant "%Y-%m-%d" text)
  else
    match dateOnlyFormat with
    | some format => .ok (readInstant format text)
    | none =>
      match filenameAnchoredDateOnlyFormat text filename with
      | some format => .ok (readInstant format text)
      | none => .ok none

/-- `_timestamp_from_format`: only `time.strptime` may fail quietly. -/
def timestampFromFormat (text format : String) (sourceTimezone : Option Instant.Offset) :
    Except ClockError (Option Instant) :=
  match readFields format text with
  | none => .ok none
  | some fields =>
    match fields.instant with
    | none => .error .value
    | some t => (astimezone t (sourceTimezone.getD Instant.Offset.utc)).map some

def parseInventoryTimestamp (value : String) (sourceTimezone : Option Instant.Offset)
    (filename : String) (dateOnlyFormat : Option String) : Except ClockError (Option Instant) := do
  let text := strip value
  if text = "" then return none
  match ← exactInventoryTimestamp text filename dateOnlyFormat with
  | some t => return some t
  | none =>
    match ← timestampFromFormat text "%Y-%m-%d %H:%M:%S" sourceTimezone with
    | some t => return some t
    | none => timestampFromFormat text "%y-%m-%d %H:%M:%S" sourceTimezone

end Profiling
end Tallylot
