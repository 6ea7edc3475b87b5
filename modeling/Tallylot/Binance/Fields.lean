import Tallylot.Data.CsvFile
import Tallylot.Data.DecimalContext
import Tallylot.Data.Regex
import Tallylot.Data.Strptime
import Tallylot.Data.Text

/-!
# Fields — cells of Binance exports

Pairs and amounts are printed without a delimiter.  A pair is split at the first quote of a list that
it ends in, an amount is split from its asset by a greedy expression (`amountPattern`).  Times have
two digits for the year, or four and an offset in brackets.
-/

namespace Tallylot
namespace Binance

open Data Data.Regex

/-! ## Rows -/

/-- `row.get(column) or ""` -/
def cell (row : CsvRow) (column : String) : String := (row.get column).getD ""

/-- `(row.get(column) or "").strip()` -/
def field (row : CsvRow) (column : String) : String := strip (cell row column)

def isNoDataRow (row : CsvRow) : Bool := field row "User ID" = "No data matches the criteria."

/-! ## Pairs and amounts -/

def quoteCandidates : List String :=
  ["USDT", "USDC", "BUSD", "BTC", "ETH", "BNB", "EUR", "USD", "CAD"]

/-- `pair.endswith(quote) and len(pair) > len(quote)` -/
def endsInQuote (pair quote : String) : Bool :=
  quote.toList.isSuffixOf pair.toList && quote.length < pair.length

def splitPair (pair : String) : String × String :=
  match quoteCandidates.find? (endsInQuote pair) with
  | some quote => (String.ofList (pair.toList.take (pair.length - quote.length)), quote)
  | none => ("", "")

def isAsciiLetter (c : Char) : Bool :=
  (65 ≤ c.toNat && c.toNat ≤ 90) || (97 ≤ c.toNat && c.toNat ≤ 122)

def isAlphanumeric (c : Char) : Bool := isAsciiLetter c || c.isDigit

/-- `[+-]?[0-9]*\.?[0-9]+` -/
def numberPattern : Pattern :=
  inOrder
    [.many 0 (some 1) (fun c => c = '+' || c = '-'), .many 0 none Char.isDigit,
      .many 0 (some 1) (fun c => c = '.'), .many 1 none Char.isDigit]

/-- `\s*([+-]?[0-9]*\.?[0-9]+)\s*([A-Za-z0-9]+)\s*` -/
def amountPattern : Pattern :=
  inOrder
    [.many 0 none isSpaceChar, .group "1" numberPattern, .many 0 none isSpaceChar,
      .group "2" (.many 1 none isAlphanumeric), .many 0 none isSpaceChar]

/-- `amount_with_asset`; `upper` is `str.upper`. -/
def amountWithAsset (upper : String → String) (value : String) : Decoded (Option Decimal × String) :=
  match fullMatch amountPattern value with
  | none => do
      let amount ← Decimal.parseDecimal (strip value)
      return (amount, "")
  | some w => do
      let amount ← Decimal.parseDecimal (w.group "1")
      return (amount, upper (w.group "2"))

def rowChange (row : CsvRow) : Decoded Decimal := do
  let change ← Decimal.parseSettled (field row "Change")
  return change.getD 0

/-! ## Times -/

/-- `UTC-(?P<sign>[+-])(?P<hours>\d+)` -/
def filenameOffsetPattern : Pattern :=
  inOrder
    [word "UTC-", .group "sign" (.char (fun c => c = '+' || c = '-')),
      .group "hours" (.many 1 none isDecimalDigit)]

/-- `\d{n}` -/
def digits (n : Nat) : Pattern := .many n (some n) isDecimalDigit

/-- `(?P<date>\d{4}-\d{2}-\d{2})(?: (?P<time>\d{2}:\d{2}:\d{2}))?\(UTC(?P<offset>[+-]?\d+)\)` -/
def inlineUtcPattern : Pattern :=
  inOrder
    [.group "date" (inOrder [digits 4, word "-", digits 2, word "-", digits 2]),
      optional (.seq (word " ")
        (.group "time" (inOrder [digits 2, word ":", digits 2, word ":", digits 2]))),
      word "(UTC",
      .group "offset" (.seq (.many 0 (some 1) (fun c => c = '+' || c = '-')) (.many 1 none isDecimalDigit)),
      word ")"]

/-- `int(text)` of digits with an optional sign -/
def readHours (text : String) : Int :=
  let signed := Decimal.readSign text.toList
  let magnitude : Int := Nat.ofDigitChars 10 (signed.2.map asciiDigit) 0
  if signed.1 then -magnitude else magnitude

def timeFormat : String := "%y-%m-%d %H:%M:%S"

/-- Where a time does not read, `strptime` raises. -/
def noTime : String := "time data does not match format"

/-- `_apply_filename_offset` -/
def applyFilenameOffset (parsed : Instant) (filename : String) : Option Instant :=
  match search filenameOffsetPattern filename with
  | none => some parsed
  | some w =>
      let hours := readHours (w.group "hours")
      parsed.addHours (if w.group "sign" = "-" then hours else -hours)

/-- `parse_export_timestamp` -/
def parseExportTimestamp (value filename : String) : Decoded Instant :=
  let stripped := strip value
  match fullMatch inlineUtcPattern stripped with
  | some w =>
      let timeValue := if w.group "time" = "" then "00:00:00" else w.group "time"
      requireSome
        (do
          let parsed ← Strptime.readInstant "%Y-%m-%d %H:%M:%S" (w.group "date" ++ " " ++ timeValue)
          parsed.addHours (-readHours (w.group "offset")))
        noTime
  | none =>
      requireSome
        (do
          let parsed ← Strptime.readInstant timeFormat stripped
          applyFilenameOffset parsed filename)
        noTime

/-- `parse_transaction_history_timestamp` -/
def parseTransactionHistoryTimestamp (value : String) : Decoded Instant :=
  requireSome (Strptime.readInstant timeFormat value) noTime

end Binance
end Tallylot
