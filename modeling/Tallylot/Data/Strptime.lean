import Tallylot.Data.Calendar

/-!
# Strptime — dates and times read by a format

A format is a list of directives.  `Directive.ways` lists what a directive can take from the front of
a text, in the order in which the backtracking expression tries it, so that `readings` lists the
readings of the whole format with the one that is found first at its head.  `readFields` keeps that
one if nothing of the text is left over and there is such a date.
-/

namespace Tallylot
namespace Data
namespace Strptime

inductive Directive where
  | year
  | shortYear
  | month
  | day
  | hour
  | minute
  | second
  | fraction
  | offset
  | blank
  | literal (c : Char)
  deriving DecidableEq

/-- What a text says, with `strptime`'s values for what it does not say. -/
structure Fields where
  year : Nat := 1900
  month : Nat := 1
  day : Nat := 1
  hour : Nat := 0
  minute : Nat := 0
  second : Nat := 0
  microsecond : Nat := 0
  /-- In minutes. -/
  offset : Option Int := none
  deriving DecidableEq

def directiveOf : Char → Option Directive
  | 'Y' => some .year
  | 'y' => some .shortYear
  | 'm' => some .month
  | 'd' => some .day
  | 'H' => some .hour
  | 'M' => some .minute
  | 'S' => some .second
  | 'f' => some .fraction
  | 'z' => some .offset
  | _ => none

/-- The directives of a format; a run of white space is one blank. -/
def formatOf : List Char → Option (List Directive)
  | [] => some []
  | '%' :: letter :: cs => do
    let d ← directiveOf letter
    let ds ← formatOf cs
    some (d :: ds)
  | c :: cs => do
    let ds ← formatOf cs
    if isSpaceChar c then
      match ds with
      | .blank :: ds => some (.blank :: ds)
      | ds => some (.blank :: ds)
    else some (.literal c :: ds)

/-! ## Readings -/

/-- `width` digits of any script, and what follows them. -/
def digits (width : Nat) (cs : List Char) : List (Nat × List Char) :=
  match Instant.readNumber width width (cs.take width) with
  | some n => [(n, cs.drop width)]
  | none => []

/-- A field of exactly `width` digits within bounds, and what follows it. -/
def number (width least most : Nat) (cs : List Char) : List (Nat × List Char) :=
  if width ≤ cs.length then
    match Instant.readField least most (cs.take width) with
    | some n => [(n, cs.drop width)]
    | none => []
  else []

/-- A number of two digits, else of one. -/
def shortNumber (least most : Nat) (cs : List Char) : List (Nat × List Char) :=
  number 2 least most cs ++ number 1 least most cs

/-- What follows white space, the longest first. -/
def blanks : List Char → List (List Char)
  | [] => []
  | c :: cs => if isSpaceChar c then blanks cs ++ [cs] else []

/-- A day may show a blank for its first digit. -/
def dayNumber (cs : List Char) : List (Nat × List Char) :=
  shortNumber 1 31 cs ++
    match cs with
    | ' ' :: rest => number 1 1 9 rest
    | _ => []

/-- Up to six digits in ASCII, the most first, as microseconds. -/
def fractions (cs : List Char) : List (Nat × List Char) :=
  [6, 5, 4, 3, 2, 1].flatMap fun width =>
    if (cs.take width).all Char.isDigit = true then
      (digits width cs).map fun way => (way.1 * 10 ^ (6 - width), way.2)
    else []

/-- `±hh:mm`, in minutes.  Texts with another form of `%z` do not reach this module. -/
def offsets : List Char → List (Int × List Char)
  | sign :: cs =>
    if sign = '+' ∨ sign = '-' then
      (digits 2 cs).flatMap fun hours =>
        match hours.2 with
        | ':' :: rest => (number 2 0 59 rest).map fun minutes =>
          ((if sign = '-' then -1 else 1) * ((hours.1 * 60 + minutes.1 : Nat) : Int), minutes.2)
        | _ => []
    else []
  | [] => []

def Directive.ways (f : Fields) (cs : List Char) : Directive → List (Fields × List Char)
  | .year => (digits 4 cs).map fun way => ({ f with year := way.1 }, way.2)
  | .shortYear => (digits 2 cs).map fun way =>
      ({ f with year := if way.1 ≤ 68 then 2000 + way.1 else 1900 + way.1 }, way.2)
  | .month => (shortNumber 1 12 cs).map fun way => ({ f with month := way.1 }, way.2)
  | .day => (dayNumber cs).map fun way => ({ f with day := way.1 }, way.2)
  | .hour => (shortNumber 0 23 cs).map fun way => ({ f with hour := way.1 }, way.2)
  | .minute => (shortNumber 0 59 cs).map fun way => ({ f with minute := way.1 }, way.2)
  | .second => (shortNumber 0 61 cs).map fun way => ({ f with second := way.1 }, way.2)
  | .fraction => (fractions cs).map fun way => ({ f with microsecond := way.1 }, way.2)
  | .offset => (offsets cs).map fun way => ({ f with offset := some way.1 }, way.2)
  | .blank => (blanks cs).map fun rest => (f, rest)
  | .literal c =>
    match cs with
    | d :: rest => if c.toLower = d.toLower then [(f, rest)] else []
    | [] => []

def readings : List Directive → Fields → List Char → List (Fields × List Char)
  | [], f, cs => [(f, cs)]
  | d :: ds, f, cs => (d.ways f cs).flatMap fun way => readings ds way.1 way.2

/-- There is such a date, and an offset is less than a day. -/
def Fields.Dated (f : Fields) : Prop :=
  1 ≤ f.year ∧ f.day ≤ daysInMonth f.year f.month ∧
    ∀ minutes, f.offset = some minutes → -1440 < minutes ∧ minutes < 1440

instance (f : Fields) : Decidable f.Dated := by
  unfold Fields.Dated
  cases f.offset with
  | none => exact decidable_of_iff (1 ≤ f.year ∧ f.day ≤ daysInMonth f.year f.month) (by simp)
  | some m =>
    exact decidable_of_iff
      (1 ≤ f.year ∧ f.day ≤ daysInMonth f.year f.month ∧ -1440 < m ∧ m < 1440) (by simp)

/-- `time.strptime`: the 60th and the 61st second are read as well. -/
def readFields (format text : String) : Option Fields := do
  let directives ← formatOf format.toList
  let (f, rest) ← (readings directives {} text.toList).head?
  if rest = [] ∧ f.Dated then some f else none

/-- The calendar fields as an instant. -/
def Fields.instant (f : Fields) : Option Instant :=
  if h : (1 ≤ f.year ∧ f.year ≤ 9999) ∧ (1 ≤ f.month ∧ f.month ≤ 12) ∧
      (1 ≤ f.day ∧ f.day ≤ daysInMonth f.year f.month) ∧ f.hour < 24 ∧ f.minute < 60 ∧
        f.second < 60 ∧ f.microsecond < 1000000 then
    some ⟨f.year, f.month, f.day, f.hour, f.minute, f.second, f.microsecond, h⟩
  else none

/-- `datetime.strptime`, for a format without an offset -/
def readInstant (format text : String) : Option Instant := (readFields format text).bind Fields.instant

/-- `datetime.strptime`, for a format with an offset -/
def readAware (format text : String) : Option (Instant × Instant.Offset) := do
  let fields ← readFields format text
  let t ← fields.instant
  let minutes ← fields.offset
  if h : -1440 < minutes ∧ minutes < 1440 then some (t, ⟨minutes, h⟩) else none

example : (readInstant "%Y-%m-%dT%H:%M:%S.%fZ" "2024-03-05T1:02:03.25z").map Instant.isoText =
    some "2024-03-05 01:02:03.250000+00:00" := by
  decide +kernel

end Strptime
end Data
end Tallylot
