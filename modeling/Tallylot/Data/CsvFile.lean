import Tallylot.Data.Dict
import Mathlib.Data.List.Forall2
import Mathlib.Data.List.Induction

/-!
# CsvFile — dictionary rows of a CSV file

A file is its header and its records, as a CSV reader splits them.  Reading gives every record the
names of the header: a short record misses the last columns, and the surplus cells of a long one have
no column.  Writing refuses a row that has anything the header does not name, after the rows before
it are in the file.

`writeRows_ok` and `writeRows_refused` are what a writer leaves; `keeps_iff` says when a record that
is read under one header and written under another keeps all its cells.
-/

namespace Tallylot
namespace Data

/-- The records of a file, the header first.  A blank line is a record without cells. -/
abbrev CsvFile := List (List String)

/-- A row of `csv.DictReader`: the cells by column, where `none` is a missing cell, and the surplus
cells. -/
structure CsvRow where
  fields : Dict String (Option String)
  surplus : Option (List String) := none

namespace CsvRow

/-- `row.get(column, "")` -/
def get (row : CsvRow) (column : String) : Option String := (row.fields.get? column).getD (some "")

/-- `{**row, column: text}` -/
def set (row : CsvRow) (column text : String) : CsvRow :=
  { row with fields := row.fields.set column (some text) }

/-- A row with a text in every column. -/
def ofTexts (cells : List (String × String)) : CsvRow where
  fields := Dict.ofList (cells.map (fun cell => (cell.1, some cell.2)))

end CsvRow

/-! ## Reading -/

/-- The writes that build the row of a record: `zip`, then the names without a cell. -/
def fieldWrites (fieldnames record : List String) : List (String × Option String) :=
  fieldnames.zipIdx.map (fun name => (name.1, record[name.2]?))

/-- `csv.DictReader.__next__` -/
def dictRow (fieldnames record : List String) : CsvRow where
  fields := Dict.ofList (fieldWrites fieldnames record)
  surplus :=
    if fieldnames.length < record.length then some (record.drop fieldnames.length) else none

/-- The column names of a file. -/
def fieldnames (file : Option CsvFile) : List String := ((file.getD []).head?).getD []

/-- The records with cells after the header. -/
def dataRecords (file : Option CsvFile) : List (List String) :=
  (file.getD []).tail.filter (fun record => record ≠ [])

/-- The rows of a file, none where there is no file. -/
def readRows (file : Option CsvFile) : List CsvRow :=
  (dataRecords file).map (dictRow (fieldnames file))

/-! ## Writing -/

/-- A row that `csv.DictWriter` takes under a header. -/
def Writable (header : List String) (row : CsvRow) : Prop :=
  row.surplus = none ∧ ∀ name ∈ row.fields.keys, name ∈ header

instance (header : List String) : DecidablePred (Writable header) :=
  fun row => inferInstanceAs (Decidable (row.surplus = none ∧ ∀ name ∈ row.fields.keys, name ∈ header))

/-- The cells written for a row. -/
def rowCells (header : List String) (row : CsvRow) : List String :=
  header.map (fun name => (row.get name).getD "")

/-- The records that a writer adds row by row, and whether it stops at a row that it refuses. -/
def writeRecords (header : List String) : List CsvRow → List (List String) × Bool
  | [] => ([], false)
  | row :: rows =>
      if Writable header row then
        let rest := writeRecords header rows
        (rowCells header row :: rest.1, rest.2)
      else ([], true)

/-- A file after an update, and whether the update raised. -/
structure Update where
  file : Option CsvFile
  raised : Bool

/-- `write_rows`: the file is opened, and so emptied, before the first row is written. -/
def writeRows (header : List String) (rows : List CsvRow) : Update where
  file := some (header :: (writeRecords header rows).1)
  raised := (writeRecords header rows).2

section Writing

variable {header : List String} {rows : List CsvRow}

lemma writeRecords_ok (h : ∀ row ∈ rows, Writable header row) :
    writeRecords header rows = (rows.map (rowCells header), false) := by
  induction rows with
  | nil => rfl
  | cons row rows ih =>
      rw [writeRecords, if_pos (h row List.mem_cons_self),
        ih (fun row' hrow' => h row' (List.mem_cons_of_mem _ hrow'))]
      rfl

/-- A refused row leaves fewer records than there are rows. -/
lemma writeRecords_refused (h : ¬∀ row ∈ rows, Writable header row) :
    (writeRecords header rows).2 = true ∧ (writeRecords header rows).1.length < rows.length := by
  induction rows with
  | nil => exact absurd (fun row hrow => by cases hrow) h
  | cons row rows ih =>
      by_cases hrow : Writable header row
      · rw [writeRecords, if_pos hrow]
        have hrest : ¬∀ row' ∈ rows, Writable header row' :=
          fun hall => h (List.forall_mem_cons.2 ⟨hrow, hall⟩)
        exact ⟨(ih hrest).1, Nat.succ_lt_succ (ih hrest).2⟩
      · rw [writeRecords, if_neg hrow]
        exact ⟨rfl, Nat.succ_pos _⟩

lemma writeRows_ok (h : ∀ row ∈ rows, Writable header row) :
    writeRows header rows = ⟨some (header :: rows.map (rowCells header)), false⟩ := by
  rw [writeRows, writeRecords_ok h]

lemma writeRows_refused (h : ¬∀ row ∈ rows, Writable header row) :
    (writeRows header rows).raised = true ∧
      ∀ file, (writeRows header rows).file = some file → file.length ≤ rows.length := by
  rcases writeRecords_refused h with ⟨hraised, hlength⟩
  refine ⟨hraised, fun file hfile => ?_⟩
  rw [← Option.some.inj hfile]
  exact hlength

end Writing

/-! ## Cells that are kept -/

/-- Every cell of a record under a header is in a column of the same name of another record. -/
def Keeps (header record header' record' : List String) : Prop :=
  ∀ (i : Nat) (column cell : String), header[i]? = some column → record[i]? = some cell →
    ∃ j : Nat, header'[j]? = some column ∧ record'[j]? = some cell

/-- The cells of columns with one name are one, where a missing cell is a blank one. -/
def RepeatsAgree (header record : List String) : Prop :=
  ∀ (i j : Nat) (column cell : String), header[i]? = some column → header[j]? = some column →
    record[i]? = some cell → (record[j]?).getD "" = cell

section Keeping

variable {header record header' : List String}

lemma map_fst_fieldWrites (header record : List String) :
    (fieldWrites header record).map Prod.fst = header := by
  rw [fieldWrites, List.map_map]
  exact List.zipIdx_map_fst 0 header

lemma mem_keys_dictRow {name : String} : name ∈ (dictRow header record).fields.keys ↔ name ∈ header := by
  rw [dictRow, Dict.mem_keys_ofList, map_fst_fieldWrites]

/-- A column has the cell of its last name in the header. -/
lemma get?_dictRow {column : String} (h : column ∈ header) :
    ∃ last : Nat, header[last]? = some column ∧
      (∀ i : Nat, header[i]? = some column → i ≤ last) ∧
        (dictRow header record).fields.get? column = some record[last]? := by
  rw [dictRow]
  dsimp only
  induction header using List.reverseRecOn with
  | nil => cases h
  | append_singleton names name ih =>
      have hwrites : Dict.ofList (fieldWrites (names ++ [name]) record) =
          (Dict.ofList (fieldWrites names record)).set name record[names.length]? := by
        simp [fieldWrites, Dict.ofList, List.zipIdx_append]
      rw [hwrites, Dict.get?_set]
      by_cases hname : column = name
      · refine ⟨names.length, ?_, ?_, ?_⟩
        · rw [List.getElem?_concat_length, hname]
        · intro i hi
          have hlt := (List.getElem?_eq_some_iff.1 hi).1
          rw [List.length_append] at hlt
          exact Nat.le_of_lt_succ hlt
        · rw [if_pos hname]
      · have hmem : column ∈ names := by
          rcases List.mem_append.1 h with hmem | hmem
          · exact hmem
          · exact absurd (List.mem_singleton.1 hmem) hname
        rcases ih hmem with ⟨last, hlast, hmost, hget⟩
        have hlt := (List.getElem?_eq_some_iff.1 hlast).1
        refine ⟨last, ?_, ?_, ?_⟩
        · rw [List.getElem?_append_left hlt, hlast]
        · intro i hi
          by_cases hi' : i < names.length
          · rw [List.getElem?_append_left hi'] at hi
            exact hmost i hi
          · rw [List.getElem?_append_right (Nat.le_of_not_lt hi')] at hi
            rw [List.getElem?_singleton] at hi
            split_ifs at hi
            exact absurd (Option.some.inj hi).symm hname
        · rw [if_neg hname, hget]

lemma get_dictRow {column : String} (h : column ∈ header) :
    ∃ last : Nat, header[last]? = some column ∧
      (∀ i : Nat, header[i]? = some column → i ≤ last) ∧
        (dictRow header record).get column = record[last]? := by
  rcases @get?_dictRow header record column h with ⟨last, hlast, hmost, hget⟩
  exact ⟨last, hlast, hmost, by rw [CsvRow.get, hget, Option.getD_some]⟩

/-- The row of a record is refused if the record is too long or the header has another column. -/
lemma writable_dictRow :
    Writable header' (dictRow header record) ↔
      record.length ≤ header.length ∧ header ⊆ header' := by
  have hsurplus : (dictRow header record).surplus = none ↔ record.length ≤ header.length := by
    rw [dictRow]
    dsimp only
    split_ifs with hlong
    · exact iff_of_false (fun h => by cases h) (Nat.not_le_of_gt hlong)
    · exact iff_of_true rfl (Nat.le_of_not_lt hlong)
  rw [Writable, hsurplus]
  simp only [mem_keys_dictRow]
  rfl

lemma getElem?_rowCells {row : CsvRow} {j : Nat} {column : String}
    (h : header[j]? = some column) : (rowCells header row)[j]? = some ((row.get column).getD "") := by
  rw [rowCells, List.getElem?_map, h]
  rfl

/-- A record that is read under one header and written under another keeps its cells if columns of
one name agree. -/
theorem keeps_iff (hsub : header ⊆ header') :
    Keeps header record header' (rowCells header' (dictRow header record)) ↔
      RepeatsAgree header record := by
  constructor
  · intro h i j column cell hi hj hcell
    have hvalue : ∀ (k : Nat) (other : String), header[k]? = some column →
        record[k]? = some other → ((dictRow header record).get column).getD "" = other := by
      intro k other hk hother
      rcases h k column other hk hother with ⟨at', hat, hcells⟩
      rw [getElem?_rowCells hat] at hcells
      exact Option.some.inj hcells
    cases hother : record[j]? with
    | some other =>
        rw [Option.getD_some, ← hvalue j other hj hother, hvalue i cell hi hcell]
    | none =>
        -- The last column of the name has no cell either.
        rcases @get_dictRow _ record _ (List.mem_of_getElem? hj) with ⟨last, _, hmost, hget⟩
        have hlast : record[last]? = none :=
          List.getElem?_eq_none ((List.getElem?_eq_none_iff.1 hother).trans (hmost j hj))
        rw [← hvalue i cell hi hcell, hget, hlast]
  · intro h i column cell hi hcell
    have hmem := List.mem_of_getElem? hi
    rcases List.getElem?_of_mem (hsub hmem) with ⟨j, hj⟩
    rcases @get_dictRow _ record _ hmem with ⟨last, hlast, _, hget⟩
    refine ⟨j, hj, ?_⟩
    rw [getElem?_rowCells hj, hget, h i last column cell hi hlast hcell]

end Keeping

/-! ## Updates of the rows of one key -/

/-- The text that a record has in a column. -/
def recordText (file : Option CsvFile) (column : String) (record : List String) : String :=
  ((dictRow (fieldnames file) record).get column).getD ""

/-- The records with another text in a column. -/
def othersOf (column key : String) (file : Option CsvFile) : List (List String) :=
  (dataRecords file).filter (fun record => recordText file column record ≠ key)

/-- An update raises and leaves the file as it was, or keeps the records of every other key. -/
def LeavesOthers (column key : String) (file : Option CsvFile) (update : Update) : Prop :=
  update.raised = true ∧ update.file = file ∨
    update.raised = false ∧
      List.Forall₂
        (fun record record' => Keeps (fieldnames file) record (fieldnames update.file) record')
        (othersOf column key file) (othersOf column key update.file)

/-- A record that the writer takes under a header. -/
def Fits (file : Option CsvFile) (header record : List String) : Prop :=
  record.length ≤ (fieldnames file).length ∧ fieldnames file ⊆ header

section Updates

variable {file : Option CsvFile} {header : List String} {column key : String}

lemma Keeps.refl (header record : List String) : Keeps header record header record :=
  fun i _ _ hcolumn hcell => ⟨i, hcolumn, hcell⟩

/-- A file that is not written is left alone. -/
lemma leavesOthers_unchanged (raised : Bool) : LeavesOthers column key file ⟨file, raised⟩ := by
  cases raised with
  | true => exact Or.inl ⟨rfl, rfl⟩
  | false => exact Or.inr ⟨rfl, List.forall₂_same.2 (fun record _ => Keeps.refl _ record)⟩

lemma writeRecords_append {rows : List CsvRow} (h : ¬∀ row ∈ rows, Writable header row)
    (rows' : List CsvRow) : writeRecords header (rows ++ rows') = writeRecords header rows := by
  induction rows with
  | nil => exact absurd (fun row hrow => by cases hrow) h
  | cons row rows ih =>
      rw [List.cons_append, writeRecords, writeRecords]
      by_cases hrow : Writable header row
      · have hrest : ¬∀ row' ∈ rows, Writable header row' :=
          fun hall => h (List.forall_mem_cons.2 ⟨hrow, hall⟩)
        rw [if_pos hrow, if_pos hrow, ih hrest]
      · rw [if_neg hrow, if_neg hrow]

lemma length_dataRecords_lt (h : dataRecords file ≠ []) :
    ∃ records, file = some records ∧ (dataRecords file).length < records.length := by
  cases file with
  | none => exact absurd rfl h
  | some records =>
      cases records with
      | nil => exact absurd rfl h
      | cons first rest =>
          exact ⟨_, rfl, Nat.lt_succ_of_le (List.length_filter_le _ _)⟩

lemma recordText_rowCells {rows : List (List String)} {row : CsvRow} (h : column ∈ header) :
    recordText (some (header :: rows)) column (rowCells header row) = (row.get column).getD "" := by
  rcases @get_dictRow header (rowCells header row) column h with ⟨last, hlast, _, hget⟩
  have hnames : fieldnames (some (header :: rows)) = header := rfl
  rw [recordText, hnames, hget, getElem?_rowCells hlast, Option.getD_some]

lemma dataRecords_written (hheader : header ≠ []) (rows : List CsvRow) :
    dataRecords (some (header :: rows.map (rowCells header))) = rows.map (rowCells header) := by
  refine List.filter_eq_self.2 (fun record hrecord => decide_eq_true ?_)
  rcases List.mem_map.1 hrecord with ⟨row, _, rfl⟩
  exact fun hnil => hheader (List.map_eq_nil_iff.1 hnil)

/-- Writing records back beside a new row leaves the others alone exactly when the writer takes all
of them and no column of the others is repeated with another cell. -/
theorem leavesOthers_writeRows {kept : List (List String)} {new : CsvRow}
    (hcolumn : column ∈ header) (hsub : kept.Sublist (dataRecords file))
    (hothers : kept.filter (fun record => recordText file column record ≠ key) =
      othersOf column key file)
    (hnew : (∀ record ∈ kept, Fits file header record) → Writable header new)
    (hkey : (new.get column).getD "" = key) :
    LeavesOthers column key file
        (writeRows header (kept.map (dictRow (fieldnames file)) ++ [new])) ↔
      (∀ record ∈ kept, Fits file header record) ∧
        ∀ record ∈ othersOf column key file, RepeatsAgree (fieldnames file) record := by
  have hwritable : (∀ row ∈ kept.map (dictRow (fieldnames file)), Writable header row) ↔
      ∀ record ∈ kept, Fits file header record := by
    simp only [List.forall_mem_map, writable_dictRow]
    rfl
  by_cases hfits : ∀ record ∈ kept, Fits file header record
  · have hall : ∀ row ∈ kept.map (dictRow (fieldnames file)) ++ [new], Writable header row := by
      intro row hrow
      rcases List.mem_append.1 hrow with hrow | hrow
      · exact hwritable.2 hfits row hrow
      · rw [List.mem_singleton.1 hrow]
        exact hnew hfits
    have hnames : fieldnames (some (header ::
        (kept.map (dictRow (fieldnames file)) ++ [new]).map (rowCells header))) = header := rfl
    -- The others of the new file are the others of the old one, written under the new header.
    have hwritten : othersOf column key (some (header ::
        (kept.map (dictRow (fieldnames file)) ++ [new]).map (rowCells header))) =
          (othersOf column key file).map
            (fun record => rowCells header (dictRow (fieldnames file) record)) := by
      rw [othersOf, dataRecords_written (List.ne_nil_of_mem hcolumn), List.filter_map,
        List.filter_append, List.map_append]
      simp only [Function.comp_def, recordText_rowCells hcolumn, List.filter_map, ← hothers,
        List.map_map]
      have hlast : List.filter (fun row : CsvRow => decide ((row.get column).getD "" ≠ key)) [new] =
          [] := by
        rw [List.filter_singleton, hkey]
        simp
      rw [hlast, List.map_nil, List.append_nil]
      rfl
    rw [writeRows_ok hall, LeavesOthers, hwritten, List.forall₂_map_right_iff,
      List.forall₂_same, hnames]
    have hkeeps : (∀ record ∈ othersOf column key file, Keeps (fieldnames file) record header
          (rowCells header (dictRow (fieldnames file) record))) ↔
        ∀ record ∈ othersOf column key file, RepeatsAgree (fieldnames file) record := by
      refine forall₂_congr (fun record hrecord => ?_)
      rw [← hothers] at hrecord
      exact keeps_iff (hfits record (List.mem_of_mem_filter hrecord)).2
    rw [hkeeps]
    constructor
    · rintro (⟨hraised, _⟩ | ⟨_, hagree⟩)
      · cases hraised
      · exact ⟨hfits, hagree⟩
    · rintro ⟨_, hagree⟩
      exact Or.inr ⟨rfl, hagree⟩
  · refine iff_of_false ?_ (fun h => hfits h.1)
    have hrefused := writeRecords_refused (fun hall => hfits (hwritable.1 hall))
    rw [writeRows, writeRecords_append (fun hall => hfits (hwritable.1 hall))]
    rintro (⟨_, hfile⟩ | ⟨hraised, _⟩)
    · -- The file that is left has fewer records than were read.
      have hne : dataRecords file ≠ [] := by
        intro hnil
        rw [hnil] at hsub
        rw [List.sublist_nil.1 hsub] at hfits
        exact hfits (fun record hrecord => by cases hrecord)
      rcases length_dataRecords_lt hne with ⟨records, hrecords, hlength⟩
      have hsame : records.length =
          (writeRecords header (kept.map (dictRow (fieldnames file)))).1.length + 1 :=
        congrArg List.length (Option.some.inj (hrecords.symm.trans hfile.symm))
      have hshort := hrefused.2
      rw [List.length_map] at hshort
      have hle : records.length ≤ (dataRecords file).length :=
        calc
          records.length =
              (writeRecords header (kept.map (dictRow (fieldnames file)))).1.length + 1 := hsame
          _ ≤ kept.length := hshort
          _ ≤ (dataRecords file).length := hsub.length_le
      exact absurd hlength (Nat.not_lt_of_ge hle)
    · rw [hrefused.1] at hraised
      cases hraised

end Updates

end Data
end Tallylot
