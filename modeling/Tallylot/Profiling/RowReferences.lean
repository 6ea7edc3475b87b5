import Tallylot.Data.Dict
import Tallylot.Data.Firsts
import Tallylot.Data.Path
import Tallylot.Profiling.HeaderRows

/-!
# RowReferences — rows named by the adapters and looked up by the resolver

An adapter names a row by the name of its file and its record number in it, `row:n`.  The resolver of
issue contexts looks the name up among the references of the inventory, which are paths below the raw
directory.  It reads the file as the profiler does, which drops the records before the header, the blank
ones and the placeholders, and looks at position `n - 2` of the rest.

The two readers split the file by their own dialects, so that a file is the records that each of them
gets.
-/

namespace Tallylot
namespace Profiling

open Data Data.Strptime

abbrev TableRow := Dict String String

/-- `zip_longest(header, row, fillvalue="")` -/
def zipLongest : List String → List String → List (String × String)
  | [], row => row.map (fun value => ("", value))
  | header, [] => header.map (fun key => (key, ""))
  | key :: header, value :: row => (key, value) :: zipLongest header row

/-- `_row_dict`, the same in both readers -/
def rowDict (header row : List String) : TableRow :=
  Dict.ofList (((zipLongest header row).filter (fun cell => cell.1 ≠ "")).map
    (fun cell => (cell.1, strip cell.2)))

/-- `any(cell.strip() for cell in row)` -/
def hasContent (row : List String) : Bool := row.any (fun cell => strip cell ≠ "")

def headerCells (records : List (List String)) (index : Nat) : List String :=
  (records.getD index []).map strip

/-! ## The adapters' rows -/

structure CsvRowContext where
  path : PosixPath
  rowIndex : Nat
  row : TableRow

def CsvRowContext.rawFile (context : CsvRowContext) : String := context.path.name

def CsvRowContext.rawRowRef (context : CsvRowContext) : String := "row:" ++ toString context.rowIndex

section Readers

variable (lower : String → String)

/-- `_read_csv_table` and the contexts of its rows; a file without a header yields none. -/
def csvRowContexts (path : PosixPath) (records : List (List String)) :
    Except ClockError (List CsvRowContext) := do
  match ← headerRowIndex lower Adapter.headerReader records with
  | none => return []
  | some index =>
    let numbered := (records.drop (index + 1)).zipIdx (index + 2)
    return (numbered.filter (fun record => hasContent record.1)).map fun record =>
      ⟨path, record.2, rowDict (headerCells records index) record.1⟩

/-! ## The profiler's rows -/

/-- `is_placeholder_no_data_row` -/
def isPlaceholderNoDataRow (row : TableRow) : Bool :=
  match (row.values.map strip).filter (fun value => value ≠ "") with
  | [value] => lower value = "no data matches the criteria."
  | _ => false

/-- `inventory_csv_content` -/
def inventoryCsvContent (records : List (List String)) :
    Except ClockError (List String × List TableRow) := do
  match ← headerRowIndex lower Profiler.headerReader records with
  | none => return ([], [])
  | some index =>
    let header := headerCells records index
    let contentRows := ((records.drop (index + 1)).filter hasContent).map (rowDict header)
    return (header, contentRows.filter (fun row => !isPlaceholderNoDataRow lower row))

end Readers

/-! ## The resolver -/

/-- `\w`, for letters of ASCII -/
def isWordChar (c : Char) : Bool := c.isAlphanum || c = '_'

/-- `row:(\d+)\b` at the front of a text -/
def rowMark : List Char → Option Nat
  | 'r' :: 'o' :: 'w' :: ':' :: cs =>
    let digits := cs.takeWhile Char.isDigit
    if digits ≠ [] ∧ (cs.dropWhile Char.isDigit).head?.any isWordChar = false then
      some (Nat.ofDigitChars 10 digits 0)
    else none
  | _ => none

/-- The first match of `(?:^|[^0-9])row:(\d+)\b`; the flag says that the text begins here. -/
def searchRowMark (atStart : Bool) : List Char → Option Nat
  | [] => none
  | c :: cs =>
    (if atStart then rowMark (c :: cs) else none).or
      ((if c.isDigit then none else rowMark cs).or (searchRowMark false cs))

/-- `_row_number` -/
def rowNumber (rawRowRef : String) : Option Nat :=
  let stripped := (strip rawRowRef).toList
  if stripped ≠ [] ∧ stripped.all Char.isDigit = true then some (Nat.ofDigitChars 10 stripped 0)
  else searchRowMark true stripped

/-- `_row` -/
def resolverRow (rows : List TableRow) (rowNumber : Nat) : Option TableRow :=
  if rowNumber < 2 then none else rows[rowNumber - 2]?

/-- A pattern in which `d` stands for a digit. -/
def template (text : String) : List (Char → Bool) :=
  text.toList.map fun c => if c = 'd' then Char.isDigit else fun x => x = c

/-- `_TIMESTAMP_PATTERNS` -/
def timestampPatterns : List (List (Char → Bool)) :=
  [template "dddd-dd-dd dd:dd:dd UTC", template "dddd-dd-dd dd:dd:dd", template "dd-dd-dd dd:dd:dd",
    template "dddd-dd-dd"]

/-- `pattern.findall`, after `skip` characters that belong to the match before. -/
def findall (pattern : List (Char → Bool)) (skip : Nat) : List Char → List String
  | [] => []
  | c :: cs =>
    if 0 < skip then findall pattern (skip - 1) cs
    else
      let token := (c :: cs).take pattern.length
      if token.length = pattern.length ∧
          (List.zipWith (fun accepts char => accepts char) pattern token).all id = true then
        String.ofList token :: findall pattern (pattern.length - 1) cs
      else findall pattern 0 cs

/-- `_reference_timestamp_candidates` -/
def referenceTimestampCandidates (rawRowRef : String) : List String :=
  firsts (timestampPatterns.flatMap (fun pattern => findall pattern 0 rawRowRef.toList))

/-- The text of the first candidate that is a time. -/
def candidateTimestamp : List String → Except ClockError String
  | [] => .ok ""
  | candidate :: candidates => do
    match ← parseInventoryTimestamp candidate none "" none with
    | some t => return t.timestampText
    | none => candidateTimestamp candidates

/-- What the resolver reads of a `FileInventoryEntry`. -/
structure ReferencedEntry where
  relativePath : String
  sourcePath : String
  archiveSourcePath : String
  dateField : String
  deriving DecidableEq, Repr

/-- The entry has the reference. -/
def ReferencedEntry.Names (entry : ReferencedEntry) (reference : String) : Prop :=
  reference ≠ "" ∧
    reference ∈ [entry.relativePath, entry.sourcePath, entry.archiveSourcePath]

instance (entry : ReferencedEntry) (reference : String) : Decidable (entry.Names reference) :=
  inferInstanceAs (Decidable (_ ∧ _))

/-- `_inventory_references`: of the entries with one reference, the first. -/
def inventoryReference (inventory : List ReferencedEntry) (reference : String) :
    Option ReferencedEntry :=
  inventory.find? (fun entry => entry.Names reference)

/-- `raw_file.replace("\\", "/")` -/
def slashed (rawFile : String) : String := rawFile.map (fun c => if c = '\\' then '/' else c)

/-- `_inventory_entry`, for a provenance with this relative path. -/
def inventoryEntry (inventory : List ReferencedEntry) (rawFile : String)
    (provenancePath : Option String) : Option ReferencedEntry :=
  (provenancePath.bind (inventoryReference inventory)).or
    ((inventoryReference inventory rawFile).or (inventoryReference inventory (slashed rawFile)))

section Files

/- The files by their paths, as the records that the profiler gets of them. -/
variable (files : PosixPath → Option (List (List String))) (rawDir : PosixPath)

/-- `_entry_path` -/
def entryPath (entry : ReferencedEntry) : Option PosixPath :=
  if entry.sourcePath ≠ "" ∧ (files (PosixPath.parse entry.sourcePath)).isSome then
    some (PosixPath.parse entry.sourcePath)
  else if (files (rawDir.join entry.relativePath)).isSome then some (rawDir.join entry.relativePath)
  else none

/-- `_row` with `_rows_for_entry` -/
def entryRow (lower : String → String) (entry : ReferencedEntry) (rowNumber : Nat) :
    Except ClockError (Option TableRow) :=
  if rowNumber < 2 then .ok none
  else
    match (entryPath files rawDir entry).bind files with
    | none => .ok none
    | some records => do
      let content ← inventoryCsvContent lower records
      return resolverRow content.2 rowNumber

/-- `_ContextTimestampResolver.resolve` -/
def resolve (lower : String → String) (inventory : List ReferencedEntry) (rawFile rawRowRef : String)
    (provenancePath : Option String) : Except ClockError String := do
  match inventoryEntry inventory rawFile provenancePath with
  | none => return ""
  | some entry =>
    let row ← match rowNumber rawRowRef with
      | some n => if n = 0 then pure none else entryRow files rawDir lower entry n
      | none => pure none
    let timestamp ← match row with
      | some row =>
        if entry.dateField = "" then pure none
        else do
          let sourceTimezone ← filenameTimezone (PosixPath.parse entry.relativePath).name
          parseInventoryTimestamp (strip ((row.get? entry.dateField).getD "")) sourceTimezone "" none
      | none => pure none
    match timestamp with
    | some t => return t.timestampText
    | none => candidateTimestamp (referenceTimestampCandidates rawRowRef)

end Files

/-! ## Reading a reference -/

lemma toList_rawRowRef (context : CsvRowContext) :
    context.rawRowRef.toList = 'r' :: 'o' :: 'w' :: ':' :: Nat.toDigits 10 context.rowIndex := by
  rw [CsvRowContext.rawRowRef, String.toList_append]
  simp [Nat.repr]

/-- A context's reference is read as its record number. -/
theorem rowNumber_rawRowRef (context : CsvRowContext) :
    rowNumber context.rawRowRef = some context.rowIndex := by
  have hdigit : ∀ c ∈ Nat.toDigits 10 context.rowIndex, c.isDigit = true :=
    fun c hc => Nat.isDigit_of_mem_toDigits (by decide) (by decide) hc
  have hstrip : strip context.rawRowRef = context.rawRowRef := by
    refine strip_eq_self fun c hc => ?_
    rw [toList_rawRowRef] at hc
    simp only [List.mem_cons] at hc
    rcases hc with rfl | rfl | rfl | rfl | hc
    · decide
    · decide
    · decide
    · decide
    · exact not_isSpaceChar_of_isDigit (hdigit c hc)
  have htake : (Nat.toDigits 10 context.rowIndex).takeWhile Char.isDigit =
      Nat.toDigits 10 context.rowIndex := List.takeWhile_eq_self_iff.2 hdigit
  have hdrop : (Nat.toDigits 10 context.rowIndex).dropWhile Char.isDigit = [] :=
    List.dropWhile_eq_nil_iff.2 hdigit
  have hmark : rowMark context.rawRowRef.toList = some context.rowIndex := by
    rw [toList_rawRowRef]
    simp only [rowMark, htake, hdrop]
    rw [if_pos ⟨Nat.toDigits_ne_nil, rfl⟩, Nat.ofDigitChars_ten_toDigits]
  have hletter : context.rawRowRef.toList.all Char.isDigit = false := by
    rw [toList_rawRowRef]
    rfl
  have hsearch : searchRowMark true context.rawRowRef.toList = some context.rowIndex := by
    rw [toList_rawRowRef] at hmark ⊢
    rw [searchRowMark, if_pos rfl, hmark]
    rfl
  simp only [rowNumber, hstrip, hletter, hsearch]
  simp

/-! ## The positions of the profiler's rows -/

section Positions

variable (lower : String → String) (records : List (List String))

/-- The profiler keeps the record at a position: it is neither blank nor a placeholder. -/
def keptAt (index position : Nat) : Bool :=
  match records[position]? with
  | some record =>
    hasContent record && !isPlaceholderNoDataRow lower (rowDict (headerCells records index) record)
  | none => false

/-- The positions of the profiler's rows in the file. -/
def keptPositions (index : Nat) : List Nat :=
  (List.range' (index + 1) (records.length - (index + 1))).filter (keptAt lower records index)

lemma drop_eq_map {α : Type*} (xs : List α) (a : α) (start : Nat) :
    xs.drop start = (List.range' start (xs.length - start)).map (fun p => xs.getD p a) := by
  refine List.ext_getElem (by simp) fun i hi _ => ?_
  rw [List.length_drop] at hi
  simp [List.getElem?_eq_getElem (by omega : start + i < xs.length)]

/-- The profiler's rows are those at the kept positions. -/
theorem inventoryCsvContent_rows {index : Nat} {header : List String} {rows : List TableRow}
    (hindex : headerRowIndex lower Profiler.headerReader records = .ok (some index))
    (h : inventoryCsvContent lower records = .ok (header, rows)) :
    rows = (keptPositions lower records index).map
      (fun p => rowDict (headerCells records index) (records.getD p [])) := by
  rw [inventoryCsvContent, hindex] at h
  have hrows := (congrArg Prod.snd (Except.ok.inj h)).symm
  simp only at hrows
  rw [hrows, List.filter_map, drop_eq_map records [] (index + 1), List.filter_map, List.filter_map,
    List.filter_filter, List.map_map, keptPositions]
  refine congrArg (List.map _) (List.filter_congr fun p hp => ?_)
  have hlt : p < records.length := by
    have := List.mem_range'_1.1 hp
    omega
  simp [keptAt, List.getElem?_eq_getElem hlt, List.getD_eq_getElem?_getD, Bool.and_comm]

end Positions

lemma le_of_getElem?_filter_range' {keep : Nat → Bool} {start count place found : Nat}
    (h : ((List.range' start count).filter keep)[place]? = some found) : start + place ≤ found := by
  induction count generalizing start place with
  | zero => simp at h
  | succ count ih =>
    rw [List.range'_succ, List.filter_cons] at h
    split_ifs at h with hkeep
    · cases place with
      | zero =>
        rw [List.getElem?_cons_zero] at h
        exact Nat.le_of_eq (Option.some.inj h)
      | succ place =>
        rw [List.getElem?_cons_succ] at h
        have hle := ih h
        omega
    · have hle := ih h
      omega

/-- A position stands at its own distance from the start exactly if no position up to it is left
out. -/
lemma getElem?_filter_range'_iff {keep : Nat → Bool} {start count place : Nat} :
    ((List.range' start count).filter keep)[place]? = some (start + place) ↔
      place < count ∧ ∀ j ≤ place, keep (start + j) = true := by
  induction count generalizing start place with
  | zero => simp
  | succ count ih =>
    rw [List.range'_succ, List.filter_cons]
    split_ifs with hkeep
    · cases place with
      | zero => simp [hkeep]
      | succ place =>
        rw [List.getElem?_cons_succ, show start + (place + 1) = start + 1 + place by omega, ih]
        constructor
        · rintro ⟨hlt, hall⟩
          refine ⟨by omega, fun j hj => ?_⟩
          cases j with
          | zero => exact hkeep
          | succ j =>
            have := hall j (by omega)
            rwa [show start + (j + 1) = start + 1 + j by omega]
        · rintro ⟨hlt, hall⟩
          refine ⟨by omega, fun j hj => ?_⟩
          have := hall (j + 1) (by omega)
          rwa [show start + 1 + j = start + (j + 1) by omega]
    · refine iff_of_false ?_ fun h => hkeep (h.2 0 (Nat.zero_le _))
      intro h
      have hle := le_of_getElem?_filter_range' h
      omega

/-! ## Contexts and the rows that their references find -/

section Resolving

variable (lower : String → String) (files : PosixPath → Option (List (List String)))
  (rawDir : PosixPath) (inventory : List ReferencedEntry)

/-- Equality of dictionaries, whatever the order of their keys. -/
def SameRow (row row' : TableRow) : Prop := ∀ key, row.get? key = row'.get? key

/-- The resolver looks up the record that the context was made from: at the position that its
reference names stands that very record, and with the same columns. -/
def ResolvesToItsRow (records : List (List String)) (index : Nat) (rows : List TableRow)
    (context : CsvRowContext) : Prop :=
  ∃ n row, rowNumber context.rawRowRef = some n ∧ resolverRow rows n = some row ∧
    (keptPositions lower records index)[n - 2]? = some (context.rowIndex - 1) ∧
      SameRow row context.row

/-- The resolver reads the file of the context, and in it the context's record. -/
def LooksUpItsRow (records : List (List String)) (index : Nat) (rows : List TableRow)
    (context : CsvRowContext) : Prop :=
  (∃ entry, inventoryEntry inventory context.rawFile none = some entry ∧
      entryPath files rawDir entry = some context.path) ∧
    ResolvesToItsRow lower records index rows context

/-- The first entry of the inventory with a reference. -/
def FirstNamed (reference : String) (entry : ReferencedEntry) : Prop :=
  entry.Names reference ∧ ∃ before after, inventory = before ++ entry :: after ∧
    ∀ other ∈ before, ¬other.Names reference

/-- An entry with a source path that exists is read from there, any other below the raw directory. -/
def ReadFrom (entry : ReferencedEntry) (path : PosixPath) : Prop :=
  if entry.sourcePath ≠ "" ∧ (files (PosixPath.parse entry.sourcePath)).isSome then
    path = PosixPath.parse entry.sourcePath
  else path = rawDir.join entry.relativePath

/-- The name of a file finds it: the first entry with the name among its references, or else with the
name after its backslashes are turned, is read from this very file. -/
def NameFindsFile (path : PosixPath) : Prop :=
  ∃ entry, (FirstNamed inventory path.name entry ∨
      (∀ other ∈ inventory, ¬other.Names path.name) ∧ FirstNamed inventory (slashed path.name) entry) ∧
    ReadFrom files rawDir entry path

/-- The header is the first record, the profiler keeps every record from there to the context's, and
both readers have the same columns in that record. -/
def Aligned (records : List (List String)) (index : Nat) (context : CsvRowContext) : Prop :=
  index = 0 ∧ (∀ position, 1 ≤ position → position < context.rowIndex →
      keptAt lower records index position = true) ∧
    SameRow (rowDict (headerCells records index) (records.getD (context.rowIndex - 1) []))
      context.row

/-- A context stands after the header, and is the row of its record. -/
lemma rowIndex_of_mem_contexts {path : PosixPath} {records : List (List String)} {index : Nat}
    {contexts : List CsvRowContext} {context : CsvRowContext}
    (hindex : headerRowIndex lower Adapter.headerReader records = .ok (some index))
    (h : csvRowContexts lower path records = .ok contexts) (hmem : context ∈ contexts) :
    context.path = path ∧ (index + 2 ≤ context.rowIndex ∧ context.rowIndex ≤ records.length) ∧
      context.row = rowDict (headerCells records index) (records.getD (context.rowIndex - 1) []) := by
  rw [csvRowContexts, hindex] at h
  have hcontexts := (Except.ok.inj h).symm
  rw [hcontexts] at hmem
  rcases List.mem_map.1 hmem with ⟨⟨record, number⟩, hrecord, rfl⟩
  have hplace := (List.mem_zipIdx (List.mem_filter.1 hrecord).1)
  have hlast : number ≤ records.length := by
    have hbound := hplace.2.1
    rw [List.length_drop] at hbound
    have hsome : index + 1 < records.length := by
      by_contra hfew
      have hnone := (List.mem_filter.1 hrecord).1
      rw [List.drop_eq_nil_of_le (Nat.le_of_not_lt hfew)] at hnone
      cases hnone
    omega
  refine ⟨rfl, ⟨hplace.1, hlast⟩, ?_⟩
  have hlt : number - (index + 2) < (records.drop (index + 1)).length := by omega
  have hget : (records.drop (index + 1))[number - (index + 2)]? = some record := by
    rw [hplace.2.2]
    exact List.getElem?_eq_getElem hlt
  rw [List.getElem?_drop, show index + 1 + (number - (index + 2)) = number - 1 by omega] at hget
  simp [List.getD_eq_getElem?_getD, hget]

variable {adapterRecords profileRecords : List (List String)} {index : Nat}
  {contexts : List CsvRowContext} {header : List String} {rows : List TableRow}

lemma resolvesToItsRow_iff {context : CsvRowContext} (hplace : index + 2 ≤ context.rowIndex)
    (hrows : rows = (keptPositions lower profileRecords index).map
      (fun p => rowDict (headerCells profileRecords index) (profileRecords.getD p []))) :
    ResolvesToItsRow lower profileRecords index rows context ↔
      Aligned lower profileRecords index context := by
  have hnumber := rowNumber_rawRowRef context
  have htwo : ¬context.rowIndex < 2 := by omega
  constructor
  · rintro ⟨n, row, hn, hrow, hposition, hsame⟩
    cases hnumber.symm.trans hn
    rw [resolverRow, if_neg htwo, hrows, List.getElem?_map, hposition] at hrow
    -- Every position before the record's is kept, so nothing stands between it and the first record.
    have hle := le_of_getElem?_filter_range' hposition
    have hzero : index = 0 := by omega
    subst hzero
    have hstart : context.rowIndex - 1 = 0 + 1 + (context.rowIndex - 2) := by omega
    rw [hstart] at hposition
    refine ⟨rfl, fun position hleast hmost => ?_, ?_⟩
    · have hkept := (getElem?_filter_range'_iff.1 hposition).2 (position - 1) (by omega)
      rwa [show 0 + 1 + (position - 1) = position by omega] at hkept
    · rw [← Option.some.inj hrow] at hsame
      exact hsame
  · rintro ⟨rfl, hkept, hsame⟩
    have hlast : context.rowIndex - 1 < profileRecords.length := by
      by_contra hbeyond
      have := hkept (context.rowIndex - 1) (by omega) (by omega)
      simp [keptAt, List.getElem?_eq_none (Nat.le_of_not_lt hbeyond)] at this
    have hposition : (keptPositions lower profileRecords 0)[context.rowIndex - 2]? =
        some (context.rowIndex - 1) := by
      have hstart : context.rowIndex - 1 = 0 + 1 + (context.rowIndex - 2) := by omega
      rw [hstart]
      refine getElem?_filter_range'_iff.2 ⟨by omega, fun j hj => ?_⟩
      exact hkept (0 + 1 + j) (by omega) (by omega)
    refine ⟨context.rowIndex, _, hnumber, ?_, hposition, hsame⟩
    rw [resolverRow, if_neg htwo, hrows, List.getElem?_map, hposition]
    rfl

variable {files rawDir inventory}

lemma inventoryReference_eq_some_iff {reference : String} {entry : ReferencedEntry} :
    inventoryReference inventory reference = some entry ↔ FirstNamed inventory reference entry := by
  rw [inventoryReference, List.find?_eq_some_iff_append, decide_eq_true_eq, FirstNamed]
  refine and_congr_right (fun _ => ?_)
  constructor
  · rintro ⟨before, after, hsplit, hnone⟩
    exact ⟨before, after, hsplit, fun other hother => by simpa using hnone other hother⟩
  · rintro ⟨before, after, hsplit, hnone⟩
    exact ⟨before, after, hsplit, fun other hother => by simpa using hnone other hother⟩

lemma inventoryReference_eq_none_iff {reference : String} :
    inventoryReference inventory reference = none ↔ ∀ other ∈ inventory, ¬other.Names reference := by
  rw [inventoryReference, List.find?_eq_none]
  simp only [decide_eq_true_eq]

lemma entryPath_eq_some_iff {path : PosixPath} (hfile : (files path).isSome) {entry : ReferencedEntry} :
    entryPath files rawDir entry = some path ↔ ReadFrom files rawDir entry path := by
  unfold entryPath ReadFrom
  split_ifs with hsource hraw
  · rw [Option.some.injEq, eq_comm]
  · rw [Option.some.injEq, eq_comm]
  · refine iff_of_false (fun h => by cases h) ?_
    rintro rfl
    exact hraw hfile

/-- The lookup of a file that exists, by its name alone. -/
theorem nameFindsFile_iff {path : PosixPath} (hfile : (files path).isSome) :
    (∃ entry, inventoryEntry inventory path.name none = some entry ∧
        entryPath files rawDir entry = some path) ↔ NameFindsFile files rawDir inventory path := by
  refine exists_congr (fun entry => ?_)
  rw [entryPath_eq_some_iff hfile]
  refine and_congr_left (fun _ => ?_)
  rw [inventoryEntry, Option.bind_none, Option.none_or, Option.or_eq_some_iff,
    inventoryReference_eq_some_iff, inventoryReference_eq_some_iff, inventoryReference_eq_none_iff]

/-- Every reference finds its row exactly if the name finds the file and every context is aligned. -/
theorem row_references_resolve_iff {path : PosixPath} (hfile : files path = some profileRecords)
    (hadapter : headerRowIndex lower Adapter.headerReader adapterRecords = .ok (some index))
    (hprofiler : headerRowIndex lower Profiler.headerReader profileRecords = .ok (some index))
    (hcontexts : csvRowContexts lower path adapterRecords = .ok contexts)
    (hrows : inventoryCsvContent lower profileRecords = .ok (header, rows)) :
    (∀ context ∈ contexts,
        LooksUpItsRow lower files rawDir inventory profileRecords index rows context) ↔
      ∀ context ∈ contexts, NameFindsFile files rawDir inventory path ∧
        Aligned lower profileRecords index context := by
  have hpositions := inventoryCsvContent_rows lower profileRecords hprofiler hrows
  refine forall₂_congr fun context hmem => ?_
  have hplace := rowIndex_of_mem_contexts lower hadapter hcontexts hmem
  rw [LooksUpItsRow, CsvRowContext.rawFile, hplace.1,
    nameFindsFile_iff (by rw [hfile]; rfl : (files path).isSome)]
  exact and_congr_right fun _ => resolvesToItsRow_iff lower hplace.2.1.1 hpositions

/-- A reference that finds its row gives the time in the row's date field. -/
theorem resolve_of_looksUpItsRow {context : CsvRowContext} {entry : ReferencedEntry}
    {sourceTimezone : Option Instant.Offset} {t : Instant}
    (h : LooksUpItsRow lower files rawDir inventory profileRecords index rows context)
    (hfile : files context.path = some profileRecords)
    (hrows : inventoryCsvContent lower profileRecords = .ok (header, rows))
    (hentry : inventoryEntry inventory context.rawFile none = some entry)
    (hfield : entry.dateField ≠ "")
    (hname : filenameTimezone (PosixPath.parse entry.relativePath).name = .ok sourceTimezone)
    (htime : parseInventoryTimestamp (strip ((context.row.get? entry.dateField).getD ""))
      sourceTimezone "" none = .ok (some t)) :
    resolve files rawDir lower inventory context.rawFile context.rawRowRef none =
      .ok t.timestampText := by
  rcases h with ⟨⟨found, hfound, hpath⟩, n, row, hn, hrow, _, hsame⟩
  cases hentry.symm.trans hfound
  have hnonzero : ¬n = 0 := by
    rintro rfl
    cases hrow
  have hsmall : ¬n < 2 := by
    intro hlt
    rw [resolverRow, if_pos hlt] at hrow
    cases hrow
  have hread : entryRow files rawDir lower entry n = .ok (some row) := by
    rw [entryRow, if_neg hsmall, hpath, Option.bind_some, hfile]
    simp only [hrows, bind, Except.bind, hrow]
    rfl
  rw [← hsame entry.dateField] at htime
  simp only [resolve, hentry, hn, if_neg hnonzero, hread, bind, Except.bind, if_neg hfield, hname,
    htime]
  rfl

/-- With one dialect for both readers, only the kept records count. -/
lemma aligned_iff_of_sameRecords {path : PosixPath} {records : List (List String)}
    {context : CsvRowContext}
    (hadapter : headerRowIndex lower Adapter.headerReader records = .ok (some index))
    (hcontexts : csvRowContexts lower path records = .ok contexts) (hmem : context ∈ contexts) :
    Aligned lower records index context ↔ index = 0 ∧ ∀ position, 1 ≤ position →
      position < context.rowIndex → keptAt lower records index position = true := by
  have hrow := (rowIndex_of_mem_contexts lower hadapter hcontexts hmem).2.2
  constructor
  · rintro ⟨hzero, hkept, _⟩
    exact ⟨hzero, hkept⟩
  · rintro ⟨hzero, hkept⟩
    exact ⟨hzero, hkept, fun key => by rw [hrow]⟩

end Resolving

/-! ## An export in the raw directory -/

def rawDirectory : PosixPath := ⟨"/", ["raw"]⟩

def tradesPath : PosixPath := ⟨"/", ["raw", "trades.csv"]⟩

/-- The raw directory holds one file. -/
def oneFile (records : List (List String)) (path : PosixPath) : Option (List (List String)) :=
  if path = tradesPath then some records else none

def tradesInventory : List ReferencedEntry := [⟨"trades.csv", "/raw/trades.csv", "", "Date"⟩]

lemma name_finds_trades (records : List (List String)) :
    NameFindsFile (oneFile records) rawDirectory tradesInventory tradesPath := by
  have hsource : PosixPath.parse "/raw/trades.csv" = tradesPath := by decide +kernel
  have hexists : (oneFile records tradesPath).isSome = true := rfl
  refine ⟨⟨"trades.csv", "/raw/trades.csv", "", "Date"⟩, Or.inl ⟨by decide, [], [], rfl, nofun⟩, ?_⟩
  unfold ReadFrom
  rw [hsource, if_pos ⟨by decide, hexists⟩]

/-- Two dated rows after the header. -/
def plainExport : List (List String) :=
  [["Date", "Amount"], ["2024-01-01", "1"], ["2024-02-01", "2"]]

theorem plain_references_resolve :
    ∃ contexts header rows, contexts ≠ [] ∧
      csvRowContexts lowerAscii tradesPath plainExport = .ok contexts ∧
        inventoryCsvContent lowerAscii plainExport = .ok (header, rows) ∧
          ∀ context ∈ contexts, LooksUpItsRow lowerAscii (oneFile plainExport) rawDirectory
            tradesInventory plainExport 0 rows context := by
  have hadapter : headerRowIndex lowerAscii Adapter.headerReader plainExport = .ok (some 0) := by
    decide +kernel
  have hprofiler : headerRowIndex lowerAscii Profiler.headerReader plainExport = .ok (some 0) := by
    decide +kernel
  have hcount : (csvRowContexts lowerAscii tradesPath plainExport).map List.length = .ok 2 := by
    decide +kernel
  have hkept : ∀ position < 3, 1 ≤ position → keptAt lowerAscii plainExport 0 position = true := by
    decide +kernel
  rcases hcontexts : csvRowContexts lowerAscii tradesPath plainExport with e | contexts
  · rw [hcontexts] at hcount
    cases hcount
  rcases exists_of_isOk (by decide +kernel :
    (inventoryCsvContent lowerAscii plainExport).isOk = true) with ⟨⟨header, rows⟩, hrows⟩
  refine ⟨contexts, header, rows, ?_, rfl, hrows, ?_⟩
  · rintro rfl
    rw [hcontexts] at hcount
    cases hcount
  refine (row_references_resolve_iff lowerAscii (if_pos rfl) hadapter hprofiler hcontexts hrows).2 ?_
  intro context hmem
  have hplace := (rowIndex_of_mem_contexts lowerAscii hadapter hcontexts hmem).2.1
  refine ⟨name_finds_trades plainExport,
    (aligned_iff_of_sameRecords lowerAscii hadapter hcontexts hmem).2 ⟨rfl, ?_⟩⟩
  exact fun position hleast hmost => hkept position (lt_of_lt_of_le hmost hplace.2) hleast

/-- A blank record stands before two dated rows. -/
def blankedExport : List (List String) :=
  [["Date", "Amount"], ["", ""], ["2024-01-01", "1"], ["2024-02-01", "2"]]

/-- The name finds the file, but the reference of the first dated row finds the second one, and that of
the second finds none. -/
theorem blank_record_shifts_references :
    ¬ ∀ (files : PosixPath → Option (List (List String))) (rawDir : PosixPath)
        (inventory : List ReferencedEntry) (path : PosixPath) (records : List (List String))
        (index : Nat) (contexts : List CsvRowContext) (header : List String) (rows : List TableRow),
      files path = some records → NameFindsFile files rawDir inventory path →
      headerRowIndex lowerAscii Adapter.headerReader records = .ok (some index) →
      headerRowIndex lowerAscii Profiler.headerReader records = .ok (some index) →
      csvRowContexts lowerAscii path records = .ok contexts →
      inventoryCsvContent lowerAscii records = .ok (header, rows) →
        ∀ context ∈ contexts,
          LooksUpItsRow lowerAscii files rawDir inventory records index rows context := by
  intro h
  have hadapter : headerRowIndex lowerAscii Adapter.headerReader blankedExport = .ok (some 0) := by
    decide +kernel
  have hprofiler : headerRowIndex lowerAscii Profiler.headerReader blankedExport = .ok (some 0) := by
    decide +kernel
  have hcount : (csvRowContexts lowerAscii tradesPath blankedExport).map List.length = .ok 2 := by
    decide +kernel
  have hblank : keptAt lowerAscii blankedExport 0 1 = false := by
    decide +kernel
  rcases hcontexts : csvRowContexts lowerAscii tradesPath blankedExport with e | _ | ⟨context, contexts⟩
  · rw [hcontexts] at hcount
    cases hcount
  · rw [hcontexts] at hcount
    cases hcount
  rcases exists_of_isOk (by decide +kernel :
    (inventoryCsvContent lowerAscii blankedExport).isOk = true) with ⟨⟨header, rows⟩, hrows⟩
  have hmem : context ∈ context :: contexts := List.mem_cons_self
  have hplace := (rowIndex_of_mem_contexts lowerAscii hadapter hcontexts hmem).2.1
  have hresolves := h (oneFile blankedExport) rawDirectory tradesInventory tradesPath blankedExport 0 _
    header rows (if_pos rfl) (name_finds_trades blankedExport) hadapter hprofiler hcontexts hrows context
    hmem
  have haligned := (resolvesToItsRow_iff lowerAscii hplace.1
    (inventoryCsvContent_rows lowerAscii blankedExport hprofiler hrows)).1 hresolves.2
  have hkept := haligned.2.1 1 le_rfl (by omega)
  rw [hblank] at hkept
  cases hkept

/-- A file below the raw directory that no entry names by its bare name is never found. -/
theorem unnamed_file_unresolved {files : PosixPath → Option (List (List String))} {rawDir : PosixPath}
    {inventory : List ReferencedEntry} {path : PosixPath}
    (h : ∀ other ∈ inventory, ¬other.Names path.name ∧ ¬other.Names (slashed path.name)) :
    ¬NameFindsFile files rawDir inventory path := by
  rintro ⟨entry, hfirst | ⟨_, hfirst⟩, _⟩
  · rcases hfirst with ⟨hnames, before, after, rfl, _⟩
    exact (h entry (List.mem_append_right _ List.mem_cons_self)).1 hnames
  · rcases hfirst with ⟨hnames, before, after, rfl, _⟩
    exact (h entry (List.mem_append_right _ List.mem_cons_self)).2 hnames

end Profiling
end Tallylot
