import Tallylot.Data.Parts
import Tallylot.Profiling.InventoryTimestamps

/-!
# HeaderRows — the header row of a table, as two readers find it

The adapters and the profiler read the same files, and both look for the header by the same rules:
the first of the first 25 rows whose cells look like names, else the first of the widest rows.  A
`HeaderReader` holds the two points in which they differ, the words that a header is made of and the
cells that are taken for data.
-/

namespace Tallylot
namespace Profiling

open Data Data.Strptime

/-- The rules of one reader. -/
structure HeaderReader where
  keywords : List String
  /-- `_is_payload_like_cell` on a stripped text that is not empty -/
  payload : String → Except ClockError Bool

/-! ## Cells -/

def isKeywordChar (c : Char) : Bool := c.isLower || c.isDigit

/-- `re.sub(r"[^a-z0-9]+", " ", …)`; the flag says whether the blank of a run is already written. -/
def blankRuns (inRun : Bool) : List Char → List Char
  | [] => []
  | c :: cs =>
    if isKeywordChar c then c :: blankRuns false cs
    else if inRun then blankRuns true cs
    else ' ' :: blankRuns true cs

/-- A number with commas, after its first digit: what follows it and its decimals. -/
def afterDecimals : List Char → List Char
  | '.' :: c :: cs => if isDecimalDigit c then cs.dropWhile isDecimalDigit else '.' :: c :: cs
  | cs => cs

/-- `[$€£]?\d[\d,]*(?:\.\d+)?%?`, or with a unit after a slash -/
def isQuantity (cs : List Char) : Bool :=
  let unsigned := match cs with
    | c :: rest => if c ∈ ['$', '€', '£'] then rest else c :: rest
    | [] => []
  match unsigned with
  | [] => false
  | c :: rest =>
    isDecimalDigit c &&
      match afterDecimals (rest.dropWhile (fun d => isDecimalDigit d || d = ',')) with
      | [] => true
      | ['%'] => true
      | '/' :: unit => unit ≠ [] && unit.all Char.isAlpha
      | _ => false

/-- `[+-]?\d+(?:\.\d+)?` -/
def isSignedNumber (cs : List Char) : Bool :=
  let unsigned := match cs with
    | c :: rest => if c ∈ ['+', '-'] then rest else c :: rest
    | [] => []
  match unsigned with
  | [] => false
  | c :: rest => isDecimalDigit c && afterDecimals (rest.dropWhile isDecimalDigit) = []

/-- The amounts that both readers take for data. -/
def isAmount (text : String) : Bool := isQuantity text.toList || isSignedNumber text.toList

section Reader

variable (lower : String → String) (reader : HeaderReader)

/-- `_normalized_header_text` -/
def normalizedHeaderText (value : String) : String :=
  strip (String.ofList (blankRuns false (lower value).toList))

/-- `text.split()` -/
def splitWords (text : String) : List String :=
  ((text.toList.splitOnP isSpaceChar).filter (fun word => word ≠ [])).map String.ofList

def hasHeaderKeyword (value : String) : Bool :=
  reader.keywords.any (fun keyword => keyword ∈ splitWords (normalizedHeaderText lower value))

def isPayloadLikeCell (value : String) : Except ClockError Bool :=
  let text := strip value
  if text = "" then .ok false else reader.payload text

def isHeaderLikeCell (value : String) : Except ClockError Bool := do
  let text := strip value
  if text = "" then return false
  if ← isPayloadLikeCell reader text then return false
  return (normalizedHeaderText lower text).toList.any Char.isLower

/-! ## Rows -/

def nonEmptyCells (row : List String) : List String :=
  (row.map strip).filter (fun cell => cell ≠ "")

/-- `sum(1 for cell in cells if …)` -/
def countCells (check : String → Except ClockError Bool) (cells : List String) :
    Except ClockError Nat := do
  let checked ← cells.mapM check
  return checked.count true

def isPlausibleHeaderRow (row : List String) : Except ClockError Bool := do
  let nonEmpty := nonEmptyCells row
  if nonEmpty.length < 2 then return false
  let keywordHits := nonEmpty.countP (hasHeaderKeyword lower reader)
  if nonEmpty.length ≤ 3 ∧ keywordHits < 2 then return false
  let payloadLikeCount ← countCells (isPayloadLikeCell reader) nonEmpty
  if nonEmpty.length < payloadLikeCount * 2 then return false
  let headerLikeCount ← countCells (isHeaderLikeCell lower reader) nonEmpty
  return nonEmpty.length ≤ headerLikeCount * 2 || 2 ≤ keywordHits

/-- The first row that passes a check, counted from `index`. -/
def firstRow (check : List String → Except ClockError Bool) (index : Nat) :
    List (List String) → Except ClockError (Option Nat)
  | [] => .ok none
  | row :: rows => do
    if ← check row then return some index
    firstRow check (index + 1) rows

def width (row : List String) : Nat := (nonEmptyCells row).length

/-- The first of the widest rows that have two cells or more. -/
def widestRow (rows : List (List String)) : Option Nat :=
  let widest := (rows.map width).foldr max 0
  if 2 ≤ widest then rows.findIdx? (fun row => width row = widest) else none

def headerScanLimit : Nat := 25

/-- `_header_row_index` -/
def headerRowIndex (rows : List (List String)) : Except ClockError (Option Nat) := do
  match ← firstRow (isPlausibleHeaderRow lower reader) 0 (rows.take headerScanLimit) with
  | some index => return some index
  | none => return widestRow rows

end Reader

/-! ## The two readers -/

namespace Adapter

def headerKeywords : List String :=
  ["account", "amount", "asset", "balance", "chain", "coin", "currency", "date", "fee", "hash", "id",
    "name", "network", "note", "order", "pair", "portfolio", "price", "quantity", "settlement",
    "side", "status", "subtotal", "time", "timestamp", "token", "total", "transaction", "type",
    "value", "wallet"]

def timestampFormats : List String :=
  ["%Y-%m-%d %H:%M:%S", "%Y-%m-%d %H:%M:%S UTC", "%Y-%m-%dT%H:%M:%S.%fZ", "%Y-%m-%dT%H:%M:%SZ",
    "%Y-%m-%d"]

def parseTimestamp (value : String) : Option Instant :=
  timestampFormats.findSome? (fun format => readInstant format value)

/-- The reader of `adapters/support/rows.py`. -/
def headerReader : HeaderReader where
  keywords := headerKeywords
  payload := fun text => .ok ((parseTimestamp text).isSome || isAmount text)

end Adapter

namespace Profiler

def headerKeywords : List String :=
  ["account", "amount", "asset", "balance", "chain", "currency", "date", "fee", "hash", "id", "note",
    "order", "pair", "portfolio", "price", "quantity", "settlement", "side", "status", "subtotal",
    "time", "timestamp", "token", "total", "transaction", "type", "value"]

/-- `[A-Z]{2,10}` -/
def isCode (text : String) : Bool :=
  2 ≤ text.length && text.length ≤ 10 && text.toList.all Char.isUpper

/-- The reader of `profiling/csv_inventory.py`. -/
def headerReader : HeaderReader where
  keywords := headerKeywords
  payload := fun text => do
    let timestamp ← exactInventoryTimestamp text "" none
    return timestamp.isSome || isCode text || isAmount text

end Profiler

/-! ## What a scan finds -/

section Scan

variable {check : List String → Except ClockError Bool} {rows : List (List String)}

lemma firstRow_cons (row : List String) (rows : List (List String)) (index : Nat) :
    firstRow check index (row :: rows) =
      (check row).bind fun taken => if taken then .ok (some index) else firstRow check (index + 1) rows := by
  rw [firstRow]
  cases check row with
  | error e => rfl
  | ok taken => cases taken <;> rfl

/-- The row that a scan finds: it is taken, and the rows before it are not. -/
def FoundAt (check : List String → Except ClockError Bool) (rows : List (List String))
    (position : Nat) : Prop :=
  ∃ before row after, rows = before ++ row :: after ∧ before.length = position ∧
    (∀ r ∈ before, check r = .ok false) ∧ check row = .ok true

lemma firstRow_eq_some_iff {index found : Nat} :
    firstRow check index rows = .ok (some found) ↔
      ∃ position, found = index + position ∧ FoundAt check rows position := by
  induction rows generalizing index with
  | nil =>
    refine iff_of_false (by simp [firstRow]) ?_
    rintro ⟨position, _, before, row, after, hrows, _⟩
    simp at hrows
  | cons row rows ih =>
    rw [firstRow_cons]
    constructor
    · intro h
      rcases hrow : check row with e | _ | _
      · rw [hrow] at h
        cases h
      · rw [hrow] at h
        rcases ih.1 h with ⟨position, hfound, before, r, after, hrows, hlength, hbefore, htaken⟩
        refine ⟨position + 1, by omega, row :: before, r, after, by rw [hrows]; rfl, by simp [hlength],
          ?_, htaken⟩
        intro r' hr'
        rcases List.mem_cons.1 hr' with rfl | hr'
        · exact hrow
        · exact hbefore r' hr'
      · rw [hrow] at h
        have hfound : index = found := Option.some.inj (Except.ok.inj h)
        exact ⟨0, by omega, [], row, rows, rfl, rfl, by simp, hrow⟩
    · rintro ⟨position, hfound, before, r, after, hrows, hlength, hbefore, htaken⟩
      cases before with
      | nil =>
        rcases List.cons.inj hrows with ⟨rfl, rfl⟩
        have hzero : position = 0 := hlength.symm
        rw [htaken, hfound, hzero]
        rfl
      | cons b before =>
        rcases List.cons.inj hrows with ⟨rfl, htail⟩
        rw [hbefore row List.mem_cons_self]
        refine ih.2 ⟨before.length, ?_, before, r, after, htail, rfl, ?_, htaken⟩
        · rw [hfound, ← hlength, List.length_cons]
          omega
        · exact fun r' hr' => hbefore r' (List.mem_cons_of_mem _ hr')

lemma firstRow_eq_none_iff {index : Nat} :
    firstRow check index rows = .ok none ↔ ∀ row ∈ rows, check row = .ok false := by
  induction rows generalizing index with
  | nil => simp [firstRow]
  | cons row rows ih =>
    rw [firstRow_cons, List.forall_mem_cons]
    rcases hrow : check row with e | _ | _
    · exact iff_of_false (by rintro ⟨⟩) (by rintro ⟨⟨⟩, _⟩)
    · exact ih.trans (by simp)
    · exact iff_of_false (by rintro ⟨⟩) (by rintro ⟨⟨⟩, _⟩)

end Scan

/-! ## The widest row -/

/-- The row that the fallback finds: two cells or more, wider than the rows before it and as wide as
any after it. -/
def WidestAt (rows : List (List String)) (position : Nat) : Prop :=
  ∃ before row after, rows = before ++ row :: after ∧ before.length = position ∧ 2 ≤ width row ∧
    (∀ r ∈ before, width r < width row) ∧ ∀ r ∈ after, width r ≤ width row

lemma width_le_widest {rows : List (List String)} {row : List String} (h : row ∈ rows) :
    width row ≤ (rows.map width).foldr max 0 := by
  induction rows with
  | nil => simp at h
  | cons r rows ih =>
    rw [List.map_cons, List.foldr_cons]
    rcases List.mem_cons.1 h with rfl | h
    · exact le_max_left _ _
    · exact le_trans (ih h) (le_max_right _ _)

lemma widest_le {rows : List (List String)} {n : Nat} (h : ∀ row ∈ rows, width row ≤ n) :
    (rows.map width).foldr max 0 ≤ n := by
  induction rows with
  | nil => exact Nat.zero_le n
  | cons r rows ih =>
    rw [List.map_cons, List.foldr_cons]
    exact max_le (h r List.mem_cons_self) (ih fun row hrow => h row (List.mem_cons_of_mem _ hrow))

theorem widestRow_eq_some_iff {rows : List (List String)} {position : Nat} :
    widestRow rows = some position ↔ WidestAt rows position := by
  simp only [widestRow]
  constructor
  · intro h
    split_ifs at h with hwide
    rcases List.findIdx?_eq_some_iff_getElem.1 h with ⟨hlt, hfound, hbefore⟩
    have hwidth : width rows[position] = (rows.map width).foldr max 0 := by simpa using hfound
    refine ⟨rows.take position, rows[position], rows.drop (position + 1), ?_, ?_, ?_, ?_, ?_⟩
    · rw [List.getElem_cons_drop, List.take_append_drop]
    · exact List.length_take_of_le hlt.le
    · rw [hwidth]
      exact hwide
    · intro r hr
      rw [hwidth]
      refine lt_of_le_of_ne (width_le_widest (List.mem_of_mem_take hr)) ?_
      rcases List.mem_take_iff_getElem.1 hr with ⟨i, hi, rfl⟩
      simpa using hbefore i (lt_of_lt_of_le hi (min_le_left _ _))
    · intro r hr
      rw [hwidth]
      exact width_le_widest (List.mem_of_mem_drop hr)
  · rintro ⟨before, row, after, rfl, rfl, htwo, hbefore, hafter⟩
    have hwidest : ((before ++ row :: after).map width).foldr max 0 = width row := by
      refine le_antisymm (widest_le fun r hr => ?_) (width_le_widest (by simp))
      rcases List.mem_append.1 hr with hr | hr
      · exact (hbefore r hr).le
      · rcases List.mem_cons.1 hr with rfl | hr
        · exact le_refl _
        · exact hafter r hr
    rw [hwidest, if_pos htwo, List.findIdx?_append]
    have hnone : before.findIdx? (fun r => decide (width r = width row)) = none := by
      rw [List.findIdx?_eq_none_iff]
      exact fun r hr => decide_eq_false (hbefore r hr).ne
    rw [hnone, List.findIdx?_cons, if_pos (decide_eq_true rfl)]
    simp

/-! ## Rows judged by one reader -/

section Judging

variable (lower : String → String) {reader first second : HeaderReader}

/-- The reader judges every text. -/
def HeaderReader.Total (reader : HeaderReader) : Prop := ∀ text, ∃ b, reader.payload text = .ok b

lemma exists_isPayloadLikeCell (h : reader.Total) (value : String) :
    ∃ b, isPayloadLikeCell reader value = .ok b := by
  simp only [isPayloadLikeCell]
  split_ifs
  · exact ⟨false, rfl⟩
  · exact h _

lemma exists_isHeaderLikeCell (h : reader.Total) (value : String) :
    ∃ b, isHeaderLikeCell lower reader value = .ok b := by
  rcases exists_isPayloadLikeCell h (strip value) with ⟨b, hb⟩
  simp only [isHeaderLikeCell, hb]
  split_ifs
  · exact ⟨false, rfl⟩
  · cases b <;> exact ⟨_, rfl⟩

lemma exists_countCells {check : String → Except ClockError Bool} (h : ∀ cell, ∃ b, check cell = .ok b)
    (cells : List String) : ∃ n, countCells check cells = .ok n := by
  rcases exists_mapM_ok (fun cell (_ : cell ∈ cells) => h cell) with ⟨checked, hchecked⟩
  exact ⟨checked.count true, by rw [countCells, hchecked]; rfl⟩

lemma exists_isPlausibleHeaderRow (h : reader.Total) (row : List String) :
    ∃ b, isPlausibleHeaderRow lower reader row = .ok b := by
  rcases exists_countCells (exists_isPayloadLikeCell h) (nonEmptyCells row) with ⟨payload, hpayload⟩
  rcases exists_countCells (exists_isHeaderLikeCell lower h) (nonEmptyCells row) with ⟨header, hheader⟩
  simp only [isPlausibleHeaderRow, hpayload, hheader]
  split_ifs
  · exact ⟨false, rfl⟩
  · exact ⟨false, rfl⟩
  · by_cases hmany : (nonEmptyCells row).length < payload * 2
    · exact ⟨false, by simp [hmany, bind, Except.bind, pure, Except.pure]⟩
    · exact ⟨_, by simp [hmany, bind, Except.bind, pure, Except.pure]; rfl⟩

/-- A total reader's scan ends. -/
lemma exists_firstRow {check : List String → Except ClockError Bool}
    (h : ∀ row, ∃ b, check row = .ok b) (rows : List (List String)) (index : Nat) :
    ∃ found, firstRow check index rows = .ok found := by
  induction rows generalizing index with
  | nil => exact ⟨none, rfl⟩
  | cons row rows ih =>
    rw [firstRow_cons]
    rcases h row with ⟨_ | _, hrow⟩
    · rw [hrow]
      exact ih (index + 1)
    · rw [hrow]
      exact ⟨some index, rfl⟩

/-- Both readers take the cell for data or not, and see the same words of a header or not. -/
def JudgedAlike (first second : HeaderReader) (cell : String) : Prop :=
  hasHeaderKeyword lower first cell = hasHeaderKeyword lower second cell ∧
    isPayloadLikeCell first cell = isPayloadLikeCell second cell

lemma mem_nonEmptyCells {row : List String} {cell : String} (h : cell ∈ nonEmptyCells row) :
    strip cell = cell := by
  rcases List.mem_map.1 (List.mem_filter.1 h).1 with ⟨raw, _, rfl⟩
  exact strip_strip raw

lemma countCells_congr {check check' : String → Except ClockError Bool} {cells : List String}
    (h : ∀ cell ∈ cells, check cell = check' cell) : countCells check cells = countCells check' cells := by
  have hchecked : cells.mapM check = cells.mapM check' := by
    induction cells with
    | nil => rfl
    | cons cell cells ih =>
      rw [List.mapM_cons, List.mapM_cons, h cell List.mem_cons_self,
        ih fun c hc => h c (List.mem_cons_of_mem _ hc)]
  rw [countCells, countCells, hchecked]

/-- A row whose cells are judged alike is judged alike. -/
theorem isPlausibleHeaderRow_congr {row : List String}
    (h : ∀ cell ∈ nonEmptyCells row, JudgedAlike lower first second cell) :
    isPlausibleHeaderRow lower first row = isPlausibleHeaderRow lower second row := by
  have hkeywords : (nonEmptyCells row).countP (hasHeaderKeyword lower first) =
      (nonEmptyCells row).countP (hasHeaderKeyword lower second) :=
    List.countP_congr fun cell hcell => by rw [(h cell hcell).1]
  have hpayload : countCells (isPayloadLikeCell first) (nonEmptyCells row) =
      countCells (isPayloadLikeCell second) (nonEmptyCells row) :=
    countCells_congr fun cell hcell => (h cell hcell).2
  have hheader : countCells (isHeaderLikeCell lower first) (nonEmptyCells row) =
      countCells (isHeaderLikeCell lower second) (nonEmptyCells row) := by
    refine countCells_congr fun cell hcell => ?_
    have hcell' := (h cell hcell).2
    simp only [isHeaderLikeCell]
    rw [mem_nonEmptyCells hcell, hcell']
  simp only [isPlausibleHeaderRow]
  rw [hkeywords, hpayload, hheader]

/-! ### What a judgement counts -/

/-- The cells of a row that count for its judgement. -/
structure HeaderCounts where
  cells : Nat
  keywords : Nat
  data : Nat
  names : Nat

/-- Words or names enough, and data not too much. -/
def HeaderCounts.Plausible (counts : HeaderCounts) : Prop :=
  2 ≤ counts.cells ∧ (counts.cells ≤ 3 → 2 ≤ counts.keywords) ∧ counts.data * 2 ≤ counts.cells ∧
    (counts.cells ≤ counts.names * 2 ∨ 2 ≤ counts.keywords)

instance (counts : HeaderCounts) : Decidable counts.Plausible :=
  inferInstanceAs (Decidable (_ ∧ _ ∧ _ ∧ _))

def hasLetter (cell : String) : Bool := (normalizedHeaderText lower cell).toList.any Char.isLower

/-- The counts of a reader that takes the cells of `data` for data. -/
def headerCounts (reader : HeaderReader) (data : String → Bool) (row : List String) : HeaderCounts where
  cells := (nonEmptyCells row).length
  keywords := (nonEmptyCells row).countP (hasHeaderKeyword lower reader)
  data := (nonEmptyCells row).countP data
  names := (nonEmptyCells row).countP (fun cell => !data cell && hasLetter lower cell)

lemma countCells_eq {check : String → Except ClockError Bool} {judge : String → Bool}
    {cells : List String} (h : ∀ cell ∈ cells, check cell = .ok (judge cell)) :
    countCells check cells = .ok (cells.countP judge) := by
  have hjudged : cells.mapM check = .ok (cells.map judge) := by
    induction cells with
    | nil => rfl
    | cons cell cells ih =>
      rw [List.mapM_cons, h cell List.mem_cons_self, ih fun c hc => h c (List.mem_cons_of_mem _ hc)]
      rfl
  rw [countCells, hjudged, List.countP_eq_length_filter]
  have hcount : (cells.map judge).count true = (cells.filter judge).length := by
    rw [List.count, List.countP_map, List.countP_eq_length_filter]
    exact congrArg List.length (List.filter_congr fun cell _ => by simp)
  exact congrArg Except.ok hcount

/-- A row whose cells a reader judges without an error is judged by its counts. -/
theorem isPlausibleHeaderRow_eq {data : String → Bool} {row : List String}
    (hdata : ∀ cell ∈ nonEmptyCells row, reader.payload cell = .ok (data cell)) :
    isPlausibleHeaderRow lower reader row = .ok (decide (headerCounts lower reader data row).Plausible) := by
  have hpayload : ∀ cell ∈ nonEmptyCells row, isPayloadLikeCell reader cell = .ok (data cell) := by
    intro cell hcell
    have hne : cell ≠ "" := of_decide_eq_true (List.mem_filter.1 hcell).2
    rw [isPayloadLikeCell, mem_nonEmptyCells hcell, ← hdata cell hcell]
    exact if_neg hne
  have hheader : ∀ cell ∈ nonEmptyCells row, isHeaderLikeCell lower reader cell =
      .ok (!data cell && hasLetter lower cell) := by
    intro cell hcell
    have hne : cell ≠ "" := of_decide_eq_true (List.mem_filter.1 hcell).2
    simp only [isHeaderLikeCell, mem_nonEmptyCells hcell, hpayload cell hcell, if_neg hne, hasLetter]
    cases data cell with
    | false => simp [bind, Except.bind, pure, Except.pure]
    | true => simp [bind, Except.bind, pure, Except.pure]
  simp only [isPlausibleHeaderRow, countCells_eq hpayload, countCells_eq hheader, bind, Except.bind]
  by_cases hcells : (nonEmptyCells row).length < 2
  · rw [if_pos hcells, decide_eq_false fun h => absurd hcells (not_lt.2 h.1)]
    rfl
  rw [if_neg hcells]
  by_cases hwords : (nonEmptyCells row).length ≤ 3 ∧
      (nonEmptyCells row).countP (hasHeaderKeyword lower reader) < 2
  · rw [if_pos hwords, decide_eq_false fun h => absurd hwords.2 (not_lt.2 (h.2.1 hwords.1))]
    rfl
  rw [if_neg hwords]
  by_cases hmany : (nonEmptyCells row).length < (nonEmptyCells row).countP data * 2
  · rw [if_pos hmany, decide_eq_false fun h => absurd hmany (not_lt.2 h.2.2.1)]
    rfl
  rw [if_neg hmany]
  refine congrArg Except.ok ?_
  rw [← Bool.decide_or]
  refine decide_eq_decide.2 ⟨fun h => ⟨not_lt.1 hcells, fun hthree => ?_, not_lt.1 hmany, h⟩,
    fun h => h.2.2.2⟩
  exact not_lt.1 fun hfew => hwords ⟨hthree, hfew⟩

end Judging

/-! ## Two readers -/

section Agreement

variable (lower : String → String)

/-- The first of the scanned rows that the reader takes for a header. -/
def HeaderAt (reader : HeaderReader) (rows : List (List String)) (position : Nat) : Prop :=
  FoundAt (isPlausibleHeaderRow lower reader) (rows.take headerScanLimit) position

/-- The reader takes none of the scanned rows for a header. -/
def NoHeader (reader : HeaderReader) (rows : List (List String)) : Prop :=
  ∀ row ∈ rows.take headerScanLimit, isPlausibleHeaderRow lower reader row = .ok false

/-- Both readers take the same row first, or none; or only one of them takes a row, and that row is the
widest. -/
def ReadersAgree (first second : HeaderReader) (rows : List (List String)) : Prop :=
  (∃ position, HeaderAt lower first rows position ∧ HeaderAt lower second rows position) ∨
    (NoHeader lower first rows ∧ NoHeader lower second rows) ∨
      ∃ position, WidestAt rows position ∧
        ((HeaderAt lower first rows position ∧ NoHeader lower second rows) ∨
          (NoHeader lower first rows ∧ HeaderAt lower second rows position))

variable {reader : HeaderReader} {rows : List (List String)} {position : Nat}

lemma headerScan_eq_some_iff :
    firstRow (isPlausibleHeaderRow lower reader) 0 (rows.take headerScanLimit) = .ok (some position) ↔
      HeaderAt lower reader rows position := by
  rw [firstRow_eq_some_iff]
  constructor
  · rintro ⟨p, hp, hfound⟩
    rwa [hp, Nat.zero_add]
  · intro h
    exact ⟨position, (Nat.zero_add _).symm, h⟩

lemma headerScan_eq_none_iff :
    firstRow (isPlausibleHeaderRow lower reader) 0 (rows.take headerScanLimit) = .ok none ↔
      NoHeader lower reader rows :=
  firstRow_eq_none_iff

lemma headerRowIndex_of_headerAt (h : HeaderAt lower reader rows position) :
    headerRowIndex lower reader rows = .ok (some position) := by
  rw [headerRowIndex, (headerScan_eq_some_iff lower).2 h]
  rfl

lemma headerRowIndex_of_noHeader (h : NoHeader lower reader rows) :
    headerRowIndex lower reader rows = .ok (widestRow rows) := by
  rw [headerRowIndex, (headerScan_eq_none_iff lower).2 h]
  rfl

/-- A reader whose search ends took a row first, or none. -/
lemma headerAt_or_noHeader {found : Option Nat} (h : headerRowIndex lower reader rows = .ok found) :
    (∃ p, HeaderAt lower reader rows p) ∨ NoHeader lower reader rows := by
  rcases hscan : firstRow (isPlausibleHeaderRow lower reader) 0 (rows.take headerScanLimit) with
    e | _ | p
  · rw [headerRowIndex, hscan] at h
    cases h
  · exact Or.inr ((headerScan_eq_none_iff lower).1 hscan)
  · exact Or.inl ⟨p, (headerScan_eq_some_iff lower).1 hscan⟩

/-- Two readers, the first of them total, find the same header row exactly if they agree. -/
theorem headerRowIndex_eq_iff {first second : HeaderReader} (htotal : first.Total) :
    headerRowIndex lower first rows = headerRowIndex lower second rows ↔
      ReadersAgree lower first second rows := by
  constructor
  · intro h
    rcases exists_firstRow (exists_isPlausibleHeaderRow lower htotal) (rows.take headerScanLimit) 0 with
      ⟨_ | p, hscan⟩
    · have hfirst := (headerScan_eq_none_iff lower).1 hscan
      rw [headerRowIndex_of_noHeader lower hfirst] at h
      rcases headerAt_or_noHeader lower h.symm with ⟨q, hsecond⟩ | hsecond
      · rw [headerRowIndex_of_headerAt lower hsecond] at h
        exact Or.inr (Or.inr ⟨q, widestRow_eq_some_iff.1 (Except.ok.inj h), Or.inr ⟨hfirst, hsecond⟩⟩)
      · exact Or.inr (Or.inl ⟨hfirst, hsecond⟩)
    · have hfirst := (headerScan_eq_some_iff lower).1 hscan
      rw [headerRowIndex_of_headerAt lower hfirst] at h
      rcases headerAt_or_noHeader lower h.symm with ⟨q, hsecond⟩ | hsecond
      · rw [headerRowIndex_of_headerAt lower hsecond] at h
        cases h
        exact Or.inl ⟨_, hfirst, hsecond⟩
      · rw [headerRowIndex_of_noHeader lower hsecond] at h
        exact Or.inr (Or.inr ⟨p, widestRow_eq_some_iff.1 (Except.ok.inj h).symm,
          Or.inl ⟨hfirst, hsecond⟩⟩)
  · rintro (⟨p, hfirst, hsecond⟩ | ⟨hfirst, hsecond⟩ | ⟨p, hwide, ⟨hfirst, hsecond⟩ | ⟨hfirst, hsecond⟩⟩)
    · rw [headerRowIndex_of_headerAt lower hfirst, headerRowIndex_of_headerAt lower hsecond]
    · rw [headerRowIndex_of_noHeader lower hfirst, headerRowIndex_of_noHeader lower hsecond]
    · rw [headerRowIndex_of_headerAt lower hfirst, headerRowIndex_of_noHeader lower hsecond,
        widestRow_eq_some_iff.2 hwide]
    · rw [headerRowIndex_of_noHeader lower hfirst, headerRowIndex_of_headerAt lower hsecond,
        widestRow_eq_some_iff.2 hwide]

/-- Readers that judge the cells of the scanned rows alike find the same header row. -/
theorem headerRowIndex_congr {first second : HeaderReader}
    (h : ∀ row ∈ rows.take headerScanLimit, ∀ cell ∈ nonEmptyCells row,
      JudgedAlike lower first second cell) :
    headerRowIndex lower first rows = headerRowIndex lower second rows := by
  have hrows : ∀ row ∈ rows.take headerScanLimit,
      isPlausibleHeaderRow lower first row = isPlausibleHeaderRow lower second row :=
    fun row hrow => isPlausibleHeaderRow_congr lower (h row hrow)
  have hscan : ∀ (scanned : List (List String)) (index : Nat), (∀ row ∈ scanned,
      isPlausibleHeaderRow lower first row = isPlausibleHeaderRow lower second row) →
        firstRow (isPlausibleHeaderRow lower first) index scanned =
          firstRow (isPlausibleHeaderRow lower second) index scanned := by
    intro scanned
    induction scanned with
    | nil => exact fun _ _ => rfl
    | cons row scanned ih =>
      intro index hall
      rw [firstRow_cons, firstRow_cons, hall row List.mem_cons_self,
        ih (index + 1) fun r hr => hall r (List.mem_cons_of_mem _ hr)]
  rw [headerRowIndex, headerRowIndex, hscan _ _ hrows]

end Agreement

/-! ## The adapters' reader and the profiler's -/

lemma Adapter.headerReader_total : Adapter.headerReader.Total := fun _ => ⟨_, rfl⟩

/-- The adapters know four words more. -/
theorem hasHeaderKeyword_adapter (lower : String → String) (value : String) :
    hasHeaderKeyword lower Adapter.headerReader value =
      (hasHeaderKeyword lower Profiler.headerReader value ||
        ["coin", "name", "network", "wallet"].any
          (fun keyword => keyword ∈ splitWords (normalizedHeaderText lower value))) := by
  have hperm : Adapter.headerKeywords.Perm
      (Profiler.headerKeywords ++ ["coin", "name", "network", "wallet"]) := by
    decide
  simp only [hasHeaderKeyword, Adapter.headerReader, Profiler.headerReader]
  rw [← List.any_append]
  exact hperm.any_eq

/-- The words of a header that only the adapters know. -/
def adapterWords : List String := ["coin", "name", "network", "wallet"]

/-- The only words of a header in the cell are the adapters'. -/
def onlyAdapterWord (lower : String → String) (cell : String) : Bool :=
  !hasHeaderKeyword lower Profiler.headerReader cell &&
    adapterWords.any (fun keyword => keyword ∈ splitWords (normalizedHeaderText lower cell))

def Adapter.data (text : String) : Bool := (Adapter.parseTimestamp text).isSome || isAmount text

def Profiler.data (text : String) : Bool :=
  (exactInventoryTimestamp text "" none).toOption.join.isSome || Profiler.isCode text || isAmount text

lemma countP_exchange {α : Type} (p q : α → Bool) (xs : List α) :
    xs.countP p + xs.countP (fun x => q x && !p x) = xs.countP q + xs.countP (fun x => p x && !q x) := by
  induction xs with
  | nil => rfl
  | cons x xs ih =>
    simp only [List.countP_cons]
    cases p x <;> cases q x <;> simp <;> omega

lemma countP_or {α : Type} (p q : α → Bool) (xs : List α) :
    xs.countP (fun x => p x || q x) = xs.countP p + xs.countP (fun x => !p x && q x) := by
  induction xs with
  | nil => rfl
  | cons x xs ih =>
    simp only [List.countP_cons, ih]
    cases p x <;> cases q x <;> simp <;> omega

section Rows

variable (lower : String → String) (row : List String)

/-- The adapters count more keywords, by the cells with only a word of theirs. -/
theorem keywords_adapter :
    (headerCounts lower Adapter.headerReader Adapter.data row).keywords =
      (headerCounts lower Profiler.headerReader Profiler.data row).keywords +
        (nonEmptyCells row).countP (onlyAdapterWord lower) := by
  have hwords : hasHeaderKeyword lower Adapter.headerReader = fun cell =>
      hasHeaderKeyword lower Profiler.headerReader cell ||
        adapterWords.any (fun keyword => keyword ∈ splitWords (normalizedHeaderText lower cell)) :=
    funext (hasHeaderKeyword_adapter lower)
  simp only [headerCounts]
  rw [hwords, countP_or]
  rfl

/-- The adapters count the data that only they see, and not what only the profiler sees. -/
theorem data_adapter :
    (headerCounts lower Adapter.headerReader Adapter.data row).data +
        (nonEmptyCells row).countP (fun cell => Profiler.data cell && !Adapter.data cell) =
      (headerCounts lower Profiler.headerReader Profiler.data row).data +
        (nonEmptyCells row).countP (fun cell => Adapter.data cell && !Profiler.data cell) :=
  countP_exchange _ _ _

/-- The letters that only one reader takes for data are names to the other. -/
theorem names_adapter :
    (headerCounts lower Adapter.headerReader Adapter.data row).names +
        (nonEmptyCells row).countP (fun cell =>
          Adapter.data cell && !Profiler.data cell && hasLetter lower cell) =
      (headerCounts lower Profiler.headerReader Profiler.data row).names +
        (nonEmptyCells row).countP (fun cell =>
          Profiler.data cell && !Adapter.data cell && hasLetter lower cell) := by
  simp only [headerCounts]
  induction nonEmptyCells row with
  | nil => rfl
  | cons cell cells ih =>
    simp only [List.countP_cons]
    cases Adapter.data cell <;> cases Profiler.data cell <;> cases hasLetter lower cell <;> simp <;> omega

/-- Where the profiler's clock raises nothing, exactly the rows whose counts are plausible to one reader
alone are judged apart. -/
theorem judged_apart_iff
    (hclock : ∀ cell ∈ nonEmptyCells row, ∃ t, exactInventoryTimestamp cell "" none = .ok t) :
    isPlausibleHeaderRow lower Adapter.headerReader row ≠
        isPlausibleHeaderRow lower Profiler.headerReader row ↔
      ¬((headerCounts lower Adapter.headerReader Adapter.data row).Plausible ↔
        (headerCounts lower Profiler.headerReader Profiler.data row).Plausible) := by
  have hadapter := @isPlausibleHeaderRow_eq lower Adapter.headerReader Adapter.data row
    (fun _ _ => rfl)
  have hprofiler := @isPlausibleHeaderRow_eq lower Profiler.headerReader Profiler.data row (by
    intro cell hcell
    rcases hclock cell hcell with ⟨t, ht⟩
    simp [Profiler.headerReader, Profiler.data, ht, bind, Except.bind, pure, Except.pure,
      Except.toOption])
  rw [hadapter, hprofiler, ne_eq, Except.ok.injEq, decide_eq_decide]

end Rows

/-- Both readers find the same header row exactly if they agree. -/
theorem header_row_agree_iff (lower : String → String) (rows : List (List String)) :
    headerRowIndex lower Adapter.headerReader rows = headerRowIndex lower Profiler.headerReader rows ↔
      ReadersAgree lower Adapter.headerReader Profiler.headerReader rows :=
  headerRowIndex_eq_iff lower Adapter.headerReader_total

/-- A title row, then a header of words that only the adapters know. -/
def walletExport : List (List String) :=
  [["Generated", "report", "2024"], ["Wallet", "Coin", "Network"], ["main", "BTC", "Bitcoin"]]

/-- `str.lower` on ASCII texts -/
def lowerAscii (text : String) : String := String.ofList (text.toList.map Char.toLower)

/-- The adapters take the second row for the header, the profiler the first. -/
theorem wallet_header_differs :
    ¬ ∀ rows, headerRowIndex lowerAscii Adapter.headerReader rows =
      headerRowIndex lowerAscii Profiler.headerReader rows := by
  intro h
  have hadapter : headerRowIndex lowerAscii Adapter.headerReader walletExport = .ok (some 1) := by
    decide +kernel
  have hprofiler : headerRowIndex lowerAscii Profiler.headerReader walletExport = .ok (some 0) := by
    decide +kernel
  have hsame := h walletExport
  rw [hadapter, hprofiler] at hsame
  cases hsame

end Profiling
end Tallylot
