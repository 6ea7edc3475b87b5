import Tallylot.Data.Strptime
import Mathlib.Data.List.Dedup

/-!
# DateInference — the format of dates without a time

Slashed dates do not say whether the day or the month comes first.  `inferDateOnlyFormat` decides by
components above 12, else by the order of the values, else by a date in the file's name; dates of
both spellings decide nothing.
-/

namespace Tallylot
namespace Profiling

open Data Data.Strptime

/-- `_SlashDateToken` -/
structure SlashDateToken where
  first : Nat
  second : Nat
  year : Nat
  raw : String
  deriving DecidableEq

/-- `_SlashDateCandidate` -/
structure SlashDateCandidate where
  dateFormat : String
  tokenCount : Nat
  parsedValues : List Instant

def isIsoDateOnly (text : String) : Bool := text.length = 10 && text.toList.count '-' = 2

/-- A value that `_SLASH_DATE_PATTERN` matches in full. -/
def slashDateToken (value : String) : Option SlashDateToken :=
  match value.toList with
  | [a, b, '/', c, d, '/', e, f, g, h] => do
    let first ← Instant.readNumber 2 2 [a, b]
    let second ← Instant.readNumber 2 2 [c, d]
    let year ← Instant.readNumber 4 4 [e, f, g, h]
    some ⟨first, second, year, value⟩
  | _ => none

def slashDateTokens (values : List String) : List SlashDateToken := values.filterMap slashDateToken

def dateFormats : List String := ["%d/%m/%Y", "%m/%d/%Y"]

def slashCandidates (tokens : List SlashDateToken) : List SlashDateCandidate :=
  dateFormats.map fun dateFormat =>
    { dateFormat := dateFormat
      tokenCount := tokens.length
      parsedValues := tokens.filterMap (fun token => readInstant dateFormat token.raw) }

/-! ## Three kinds of evidence -/

def slashDateFormatFromComponentBounds (tokens : List SlashDateToken) : Option String :=
  let dayFirstEvidence := tokens.any (fun token => token.second ≤ 12 && 12 < token.first)
  let monthFirstEvidence := tokens.any (fun token => token.first ≤ 12 && 12 < token.second)
  if dayFirstEvidence = monthFirstEvidence then none
  else some (if dayFirstEvidence then "%d/%m/%Y" else "%m/%d/%Y")

/-- `(right - left).days` -/
def gapDays (left right : Instant) : Int :=
  (right.microseconds - left.microseconds) / Instant.dayLength

/-- The gaps between neighbours. -/
def adjacentGaps (values : List Instant) : List Int := List.zipWith gapDays values values.tail

def slashComponentsVary (tokens : List SlashDateToken) : Bool :=
  1 < (tokens.map SlashDateToken.first).dedup.length &&
    1 < (tokens.map SlashDateToken.second).dedup.length

def chronologySupportsInference (tokens : List SlashDateToken) (parsedValues : List Instant) : Bool :=
  parsedValues.length = tokens.length && 3 ≤ parsedValues.length && slashComponentsVary tokens &&
    (List.zip parsedValues parsedValues.tail).all (fun pair => pair.1 ≤ pair.2) &&
      (adjacentGaps parsedValues).all (fun gap => gap ≤ 45)

def hasDecisiveChronologyWitness (winnerValues loserValues : List Instant) : Bool :=
  (List.zip (adjacentGaps winnerValues) (adjacentGaps loserValues)).any fun gaps =>
    0 ≤ gaps.1 && gaps.1 ≤ 7 && (gaps.2 < 0 || 21 < gaps.2)

/-- The one format whose reading is in order, if the other one's is out of order somewhere. -/
def slashDateFormatFromChronology (tokens : List SlashDateToken)
    (candidates : List SlashDateCandidate) : Option String := do
  match candidates.filter (fun c => chronologySupportsInference tokens c.parsedValues) with
  | [winner] =>
    let loser ← candidates.find? (fun c => c.dateFormat ≠ winner.dateFormat)
    if hasDecisiveChronologyWitness winner.parsedValues loser.parsedValues then
      some winner.dateFormat
    else none
  | _ => none

/-- A date at the front of a text, as `_FILENAME_DATE_PATTERN` has it: year, month and day. -/
def filenameDate : List Char → Option (Nat × Nat × Nat)
  | a :: b :: c :: d :: s :: e :: f :: t :: g :: h :: _ =>
    if s ∈ ['-', '_', '.'] ∧ t ∈ ['-', '_', '.'] then do
      let year ← Instant.readNumber 4 4 [a, b, c, d]
      let month ← Instant.readNumber 2 2 [e, f]
      let day ← Instant.readNumber 2 2 [g, h]
      some (year, month, day)
    else none
  | _ => none

/-- The dates of a file's name, after `skip` characters that belong to the date before. -/
def filenameDates (skip : Nat) : List Char → List (Nat × Nat × Nat)
  | [] => []
  | c :: cs =>
    if 0 < skip then filenameDates (skip - 1) cs
    else
      match filenameDate (c :: cs) with
      | some date => date :: filenameDates 9 cs
      | none => filenameDates 0 cs

def filenameMatchesAnySlashDate (candidate : SlashDateCandidate) (filename : String) : Bool :=
  let anchoredDates := (filenameDates 0 filename.toList).filterMap fun date =>
    Instant.ofFields date.1 date.2.1 date.2.2 0 0 0
  candidate.parsedValues.length = candidate.tokenCount && candidate.parsedValues ≠ [] &&
    anchoredDates.any fun anchored =>
      candidate.parsedValues.any (fun parsed => anchored.startOfDay = parsed.startOfDay)

def slashDateFormatFromFilenameAnchor (candidates : List SlashDateCandidate) (filename : String) :
    Option String :=
  if filename = "" then none
  else
    match candidates.filter (fun c => filenameMatchesAnySlashDate c filename) with
    | [c] => some c.dateFormat
    | _ => none

/-! ## Inference -/

def inferDateOnlyFormat (values : List String) (filename : String) : Option String :=
  let normalizedValues := (values.map strip).filter (fun value => value ≠ "")
  let isoValues := normalizedValues.filter isIsoDateOnly
  let tokens := slashDateTokens normalizedValues
  if isoValues ≠ [] ∧ tokens = [] then some "%Y-%m-%d"
  else if tokens = [] ∨ isoValues ≠ [] then none
  else
    let candidates := slashCandidates tokens
    (slashDateFormatFromComponentBounds tokens).or
      ((slashDateFormatFromChronology tokens candidates).or
        (slashDateFormatFromFilenameAnchor candidates filename))

def filenameAnchoredDateOnlyFormat (value filename : String) : Option String :=
  match slashDateTokens [value] with
  | [] => none
  | tokens => slashDateFormatFromFilenameAnchor (slashCandidates tokens) filename

end Profiling
end Tallylot
