import Mathlib.Data.Fintype.Pi
import Mathlib.Data.List.Lex
import Tallylot.Data.Dict
import Tallylot.Data.Firsts
import Tallylot.Data.Text
import Tallylot.Domain.Issues

/-!
# RowMerge — merging the rows of normalized roots

Source assembly collects the rows of one artifact from every root, keeps each distinct row once in
the order of its columns, and reports the semantic keys under which the kept rows disagree.  Facts
are keyed by `fact_id` and disagree by row; balances are keyed by target and disagree by quantity
text.
-/

namespace Tallylot
namespace Captures

open Data Domain

/-! ## Rows -/

/-- A row with exactly the columns of a header. -/
abbrev CsvRow (header : List String) := {column : String // column ∈ header} → String

namespace CsvRow

variable {header : List String}

/-- `row.get(column, "")` -/
def get (row : CsvRow header) (column : String) : String :=
  if h : column ∈ header then row ⟨column, h⟩ else ""

/-- `_row_tuple(row, header)` -/
def rowTuple (row : CsvRow header) : List String := header.map row.get

/-- `row_key(row)`: the items of the row, sorted. -/
def rowKey (row : CsvRow header) : List (String × String) :=
  (sortedOn id header.dedup).map (fun column => (column, row.get column))

/-- `_text(row, column)` -/
def text (row : CsvRow header) (column : String) : String := strip (row.get column)

lemma ext_get {row row' : CsvRow header} (h : ∀ column ∈ header, row.get column = row'.get column) :
    row = row' := by
  funext ⟨column, hcolumn⟩
  simpa [get, hcolumn] using h column hcolumn

lemma rowTuple_injective : Function.Injective (rowTuple : CsvRow header → List String) :=
  fun _ _ h => ext_get (List.map_inj_left.1 h)

lemma rowKey_injective : Function.Injective (rowKey : CsvRow header → List (String × String)) := by
  intro row row' h
  refine ext_get ?_
  intro column hcolumn
  have hmem : column ∈ sortedOn id header.dedup := by
    simpa using hcolumn
  exact (Prod.mk.inj (List.map_inj_left.1 h column hmem)).2

end CsvRow

/-! ## Distinct rows -/

section

variable {header : List String}

/-- One row: dropped where its tuple was seen before. -/
def keepUnseen (merged : List (CsvRow header)) (row : CsvRow header) : List (CsvRow header) :=
  if row.rowTuple ∈ merged.map CsvRow.rowTuple then merged else merged ++ [row]

def dedupeRows (rows : List (CsvRow header)) : List (CsvRow header) :=
  (sortedOn CsvRow.rowTuple rows).foldl keepUnseen []

/-- Rows with the columns of the header are told apart by their tuples. -/
lemma dedupeRows_eq (rows : List (CsvRow header)) :
    dedupeRows rows = firsts (sortedOn CsvRow.rowTuple rows) := by
  have hstep : (keepUnseen : List (CsvRow header) → CsvRow header → List (CsvRow header)) =
      keepFirst := by
    funext merged row
    simp only [keepUnseen, keepFirst, List.mem_map_of_injective CsvRow.rowTuple_injective]
  rw [dedupeRows, hstep]
  rfl

@[simp] lemma mem_dedupeRows {rows : List (CsvRow header)} {row : CsvRow header} :
    row ∈ dedupeRows rows ↔ row ∈ rows := by
  simp [dedupeRows_eq]

lemma nodup_dedupeRows (rows : List (CsvRow header)) : (dedupeRows rows).Nodup := by
  simpa [dedupeRows_eq] using nodup_firsts (sortedOn CsvRow.rowTuple rows)

lemma dedupeRows_perm {rows rows' : List (CsvRow header)} (h : rows.Perm rows') :
    dedupeRows rows = dedupeRows rows' := by
  rw [dedupeRows_eq, dedupeRows_eq,
    sortedOn_eq_of_perm h (fun _ _ _ _ heq => CsvRow.rowTuple_injective heq)]

end

/-! ## Conflicts -/

section

variable {header : List String} {κ δ : Type} [DecidableEq κ] [DecidableEq δ]

/-- How the rows of an artifact conflict: under one semantic key, unless it is blank, with different
conflict keys. -/
structure ConflictPolicy (header : List String) (κ δ : Type) where
  semanticKey : CsvRow header → κ
  blank : κ → Bool
  conflictKey : CsvRow header → δ
  message : String

variable (policy : ConflictPolicy header κ δ)

/-- The conflict keys under each semantic key that is not blank. -/
def conflictValues (rows : List (CsvRow header)) : Dict κ (List (CsvRow header)) :=
  Dict.group policy.semanticKey (rows.filter (fun row => !policy.blank (policy.semanticKey row)))

/-- `len(values) > 1` -/
def conflicting (rows : List (CsvRow header)) : Bool := 1 < (rows.map policy.conflictKey).dedup.length

/-- The issues of the conflicting keys; the index counts the other keys too. -/
def conflictIssues {ω : Type} [LinearOrder ω] (order : κ × List (CsvRow header) → ω)
    (keyText : κ → String) (artifactName source : String) (rows : List (CsvRow header)) :
    List IssueRecord :=
  ((sortedOn order (conflictValues policy rows).entries).zipIdx 1).filterMap (fun entry =>
    if conflicting policy entry.1.2 then
      some
        { issueId := "assembly:" ++ source ++ ":" ++ artifactName ++ ":" ++ toString entry.2
          source := source
          adapterId := "source_assembly"
          severity := "high"
          kind := "assembly_semantic_conflict"
          message := policy.message
          rawFile := artifactName
          rawRowRef := keyText entry.1.1 }
    else none)

/-- The keys that the issues are about, in their order. -/
def conflictKeys {ω : Type} [LinearOrder ω] (order : κ × List (CsvRow header) → ω)
    (rows : List (CsvRow header)) : List κ :=
  ((sortedOn order (conflictValues policy rows).entries).filter
    (fun entry => conflicting policy entry.2)).map Prod.fst

omit [DecidableEq κ] in
lemma conflicting_iff {rows : List (CsvRow header)} : conflicting policy rows = true ↔
    ∃ row ∈ rows, ∃ row' ∈ rows, policy.conflictKey row ≠ policy.conflictKey row' := by
  simp only [conflicting, decide_eq_true_eq]
  constructor
  · intro h
    match hvalues : (rows.map policy.conflictKey).dedup with
    | [] => simp [hvalues] at h
    | [_] => simp [hvalues] at h
    | a :: b :: rest =>
        have hnodup := hvalues ▸ List.nodup_dedup (rows.map policy.conflictKey)
        have hmem : ∀ d ∈ a :: b :: rest, ∃ row ∈ rows, policy.conflictKey row = d := by
          intro d hd
          simpa [← hvalues] using hd
        rcases hmem a (by simp) with ⟨row, hrow, rfl⟩
        rcases hmem b (by simp) with ⟨row', hrow', rfl⟩
        exact ⟨row, hrow, row', hrow', fun heq => (List.nodup_cons.1 hnodup).1 (by simp [heq])⟩
  · rintro ⟨row, hrow, row', hrow', hne⟩
    have hsub : [policy.conflictKey row, policy.conflictKey row'] ⊆
        (rows.map policy.conflictKey).dedup := by
      intro d hd
      rw [List.mem_dedup, List.mem_map]
      rcases List.mem_pair.1 hd with rfl | rfl
      · exact ⟨row, hrow, rfl⟩
      · exact ⟨row', hrow', rfl⟩
    have hnodup : [policy.conflictKey row, policy.conflictKey row'].Nodup := by
      simpa using hne
    exact (hnodup.subperm hsub).length_le

/-- A key is reported, and once, exactly when two rows under it have different conflict keys. -/
theorem mem_conflictKeys {ω : Type} [LinearOrder ω] (order : κ × List (CsvRow header) → ω)
    {rows : List (CsvRow header)} {key : κ} : key ∈ conflictKeys policy order rows ↔
      policy.blank key = false ∧ ∃ row ∈ rows, ∃ row' ∈ rows, policy.semanticKey row = key ∧
        policy.semanticKey row' = key ∧ policy.conflictKey row ≠ policy.conflictKey row' := by
  have hentry : ∀ {group : List (CsvRow header)} {row : CsvRow header},
      (key, group) ∈ (conflictValues policy rows).entries → (row ∈ group ↔
        row ∈ rows ∧ policy.blank key = false ∧ policy.semanticKey row = key) := by
    intro group row hgroup
    rw [(Dict.mem_entries_group hgroup).2, List.mem_filter, List.mem_filter]
    constructor
    · rintro ⟨⟨hrow, hblank⟩, hkey⟩
      have hkey' : policy.semanticKey row = key := by simpa using hkey
      exact ⟨hrow, by simpa [hkey'] using hblank, hkey'⟩
    · rintro ⟨hrow, hblank, rfl⟩
      exact ⟨⟨hrow, by simpa using hblank⟩, by simp⟩
  rw [conflictKeys, List.mem_map]
  constructor
  · rintro ⟨⟨_, group⟩, hmem, rfl⟩
    rcases List.mem_filter.1 hmem with ⟨hgroup, hconflict⟩
    have hgroup := mem_sortedOn.1 hgroup
    rcases (conflicting_iff policy).1 hconflict with ⟨row, hrow, row', hrow', hne⟩
    rcases (hentry hgroup).1 hrow with ⟨hmem, hblank, hkey⟩
    rcases (hentry hgroup).1 hrow' with ⟨hmem', _, hkey'⟩
    exact ⟨hblank, row, hmem, row', hmem', hkey, hkey', hne⟩
  · rintro ⟨hblank, row, hrow, row', hrow', hkey, hkey', hne⟩
    have hkeys : key ∈ (conflictValues policy rows).keys := by
      rw [conflictValues, Dict.mem_keys_group, List.mem_map]
      exact ⟨row, List.mem_filter.2 ⟨hrow, by simpa [hkey] using hblank⟩, hkey⟩
    rcases List.mem_map.1 hkeys with ⟨⟨key', group⟩, hgroup, hsame⟩
    obtain rfl : key' = key := hsame
    refine ⟨(key', group), List.mem_filter.2 ⟨mem_sortedOn.2 hgroup, ?_⟩, rfl⟩
    rw [conflicting_iff]
    exact ⟨row, (hentry hgroup).2 ⟨hrow, hblank, hkey⟩, row',
      (hentry hgroup).2 ⟨hrow', hblank, hkey'⟩, hne⟩

lemma nodup_conflictKeys {ω : Type} [LinearOrder ω] (order : κ × List (CsvRow header) → ω)
    (rows : List (CsvRow header)) : (conflictKeys policy order rows).Nodup := by
  have hsorted : ((sortedOn order (conflictValues policy rows).entries).map Prod.fst).Nodup :=
    (((sortedOn_perm order _).map Prod.fst).nodup_iff).2 (conflictValues policy rows).nodup_keys
  exact hsorted.sublist (List.filter_sublist.map Prod.fst)

/-- The issues name the conflicting keys, one each. -/
lemma map_rawRowRef_conflictIssues {ω : Type} [LinearOrder ω]
    (order : κ × List (CsvRow header) → ω) (keyText : κ → String) (artifactName source : String)
    (rows : List (CsvRow header)) :
    (conflictIssues policy order keyText artifactName source rows).map IssueRecord.rawRowRef =
      (conflictKeys policy order rows).map keyText := by
  unfold conflictIssues conflictKeys
  generalize sortedOn order (conflictValues policy rows).entries = entries
  generalize 1 = start
  induction entries generalizing start with
  | nil => rfl
  | cons entry entries ih =>
      rw [List.zipIdx_cons]
      cases hconflict : conflicting policy entry.2 with
      | false => simpa [List.filterMap_cons, List.filter_cons, hconflict] using ih (start + 1)
      | true => simpa [List.filterMap_cons, List.filter_cons, hconflict] using ih (start + 1)

lemma kind_of_conflictIssue {ω : Type} [LinearOrder ω] {order : κ × List (CsvRow header) → ω}
    {keyText : κ → String} {artifactName source : String} {rows : List (CsvRow header)}
    {issue : IssueRecord}
    (h : issue ∈ conflictIssues policy order keyText artifactName source rows) :
    issue.kind = "assembly_semantic_conflict" := by
  rcases List.mem_filterMap.1 h with ⟨entry, _, hentry⟩
  split_ifs at hentry
  rw [← Option.some.inj hentry]

/-- The issues are semantic conflicts, one for each key with the property. -/
def Reports (issues : List IssueRecord) (keyText : κ → String) (Conflict : κ → Prop) : Prop :=
  (∀ issue ∈ issues, issue.kind = "assembly_semantic_conflict") ∧
    ∃ keys : List κ, keys.Nodup ∧ (∀ key, key ∈ keys ↔ Conflict key) ∧
      issues.map IssueRecord.rawRowRef = keys.map keyText

/-- The conflicts among the distinct rows are those among the collected ones. -/
lemma reports_conflictIssues {ω : Type} [LinearOrder ω] (order : κ × List (CsvRow header) → ω)
    (keyText : κ → String) (artifactName source : String) (rows : List (CsvRow header)) :
    Reports (conflictIssues policy order keyText artifactName source (dedupeRows rows)) keyText
      (fun key => policy.blank key = false ∧ ∃ row ∈ rows, ∃ row' ∈ rows,
        policy.semanticKey row = key ∧ policy.semanticKey row' = key ∧
          policy.conflictKey row ≠ policy.conflictKey row') := by
  refine ⟨fun issue h => kind_of_conflictIssue policy h,
    conflictKeys policy order (dedupeRows rows), nodup_conflictKeys policy order _, ?_,
    map_rawRowRef_conflictIssues policy order keyText artifactName source _⟩
  intro key
  exact (mem_conflictKeys policy order).trans (by simp)

end

/-! ## Artifacts -/

def factHeader : List String :=
  ["schema_version", "fact_id", "source", "adapter_id", "timestamp", "effective_at",
    "effective_precision", "location_id", "economic_kind", "projection_hint",
    "accounting_intent_hint", "tax_treatment_hint", "description", "provider_operation_key",
    "operation_group_id", "tx_hash", "raw_file", "raw_row_ref", "confidence", "status", "legs",
    "leg_policy"]

def balanceSnapshotHeader : List String :=
  ["source", "location_id", "instrument_id", "balance_kind", "target_at", "target_precision",
    "quantity", "snapshot_basis", "notes"]

def balanceReferenceHeader : List String :=
  ["source", "location_id", "instrument_id", "balance_kind", "target_at", "target_precision",
    "quantity", "reference_kind", "observed_at", "observed_precision", "support_ref",
    "provider_family", "provider_locator", "provider_block_ref", "reviewed_by", "reviewed_at",
    "notes"]

def factPolicy : ConflictPolicy factHeader String (List (String × String)) where
  semanticKey := fun row => row.get "fact_id"
  blank := fun key => key = ""
  conflictKey := CsvRow.rowKey
  message := "Source assembly found conflicting fact rows for the same fact_id."

/-- `_text(value, "balance_kind") or "available"` -/
def balanceKindText {header : List String} (row : CsvRow header) : String :=
  if row.text "balance_kind" = "" then "available" else row.text "balance_kind"

/-- The columns of a balance target. -/
def balanceTargetKey {header : List String} (row : CsvRow header) : List String :=
  [row.text "source", row.text "location_id", row.text "instrument_id", balanceKindText row,
    row.text "target_at", row.text "target_precision"]

def balanceSnapshotSemanticKey (row : CsvRow balanceSnapshotHeader) : List String :=
  balanceTargetKey row

def balanceReferenceSemanticKey (row : CsvRow balanceReferenceHeader) : List String :=
  balanceTargetKey row ++
    [row.text "reference_kind", row.text "observed_at", row.text "observed_precision",
      row.text "support_ref", row.text "provider_family", row.text "provider_locator",
      row.text "provider_block_ref", row.text "reviewed_by", row.text "reviewed_at"]

/-- Balances conflict by the text of their quantity.  A semantic key is never blank. -/
def balancePolicy {header : List String} (semanticKey : CsvRow header → List String)
    (artifact : String) : ConflictPolicy header (List String) String where
  semanticKey := semanticKey
  blank := fun key => key.isEmpty
  conflictKey := fun row => row.text "quantity"
  message :=
    "Source assembly found conflicting balance " ++ artifact ++ " rows for the same semantic key."

def snapshotPolicy : ConflictPolicy balanceSnapshotHeader (List String) String :=
  balancePolicy balanceSnapshotSemanticKey "snapshot"

def referencePolicy : ConflictPolicy balanceReferenceHeader (List String) String :=
  balancePolicy balanceReferenceSemanticKey "reference"

/-- The files of a normalized root that are merged here; a file may be missing. -/
structure NormalizedRoot where
  facts : Option (List (CsvRow factHeader))
  balances : Option (List (CsvRow balanceSnapshotHeader))
  balanceReferences : Option (List (CsvRow balanceReferenceHeader))

/-- The rows of one file of all roots. -/
def collectRows {header : List String}
    (file : NormalizedRoot → Option (List (CsvRow header))) (roots : List NormalizedRoot) :
    List (CsvRow header) :=
  roots.flatMap (fun root => (file root).getD [])

/-- `str` of a dictionary item and of a text, which only order and label the issues. -/
structure TextForms where
  factEntry : String × List (CsvRow factHeader) → String
  repr : String → String

/-- `str(key)` of a tuple of at least two texts -/
def TextForms.tuple (forms : TextForms) (key : List String) : String :=
  "(" ++ ", ".intercalate (key.map forms.repr) ++ ")"

structure AssembledRows where
  facts : List (CsvRow factHeader)
  factIssues : List IssueRecord
  balances : List (CsvRow balanceSnapshotHeader)
  balanceIssues : List IssueRecord
  balanceReferences : List (CsvRow balanceReferenceHeader)
  balanceReferenceIssues : List IssueRecord

def assembleRows (forms : TextForms) (source : String) (roots : List NormalizedRoot) :
    AssembledRows :=
  let facts := dedupeRows (collectRows NormalizedRoot.facts roots)
  let balances := dedupeRows (collectRows NormalizedRoot.balances roots)
  let references := dedupeRows (collectRows NormalizedRoot.balanceReferences roots)
  { facts := facts
    factIssues := conflictIssues factPolicy forms.factEntry id "facts.csv" source facts
    balances := balances
    balanceIssues := conflictIssues snapshotPolicy Prod.fst forms.tuple "balance_snapshots.csv"
      source balances
    balanceReferences := references
    balanceReferenceIssues := conflictIssues referencePolicy Prod.fst forms.tuple
      "balance_references.csv" source references }

/-- `merged` has each row of `collected` once. -/
def Merges {header : List String} (collected merged : List (CsvRow header)) : Prop :=
  merged.Nodup ∧ ∀ row, row ∈ merged ↔ row ∈ collected

lemma merges_dedupeRows {header : List String} (rows : List (CsvRow header)) :
    Merges rows (dedupeRows rows) :=
  ⟨nodup_dedupeRows rows, fun _ => mem_dedupeRows⟩

lemma collectRows_perm {header : List String}
    (file : NormalizedRoot → Option (List (CsvRow header))) {roots roots' : List NormalizedRoot}
    (h : roots.Perm roots') : (collectRows file roots).Perm (collectRows file roots') :=
  h.flatMap_right _

lemma semanticKey_ne_nil {header : List String} (row : CsvRow header) :
    balanceTargetKey row ≠ [] := by
  simp [balanceTargetKey]

/-- Two collected rows of one semantic key and of different quantity texts. -/
def QuantityConflict {header : List String} (semanticKey : CsvRow header → List String)
    (rows : List (CsvRow header)) (key : List String) : Prop :=
  ∃ row ∈ rows, ∃ row' ∈ rows, semanticKey row = key ∧ semanticKey row' = key ∧
    row.text "quantity" ≠ row'.text "quantity"

/-- Two different collected rows of one fact id. -/
def FactConflict (rows : List (CsvRow factHeader)) (factId : String) : Prop :=
  factId ≠ "" ∧ ∃ row ∈ rows, ∃ row' ∈ rows, row.get "fact_id" = factId ∧
    row'.get "fact_id" = factId ∧ row ≠ row'

lemma reports_balances {header : List String} {semanticKey : CsvRow header → List String}
    (hkey : ∀ row, semanticKey row ≠ []) (artifact artifactName source : String)
    (keyText : List String → String) (rows : List (CsvRow header)) :
    Reports (conflictIssues (balancePolicy semanticKey artifact) Prod.fst keyText artifactName
      source (dedupeRows rows)) keyText (QuantityConflict semanticKey rows) := by
  rcases reports_conflictIssues (balancePolicy semanticKey artifact) Prod.fst keyText artifactName
    source rows with ⟨hkind, keys, hnodup, hkeys, hrefs⟩
  refine ⟨hkind, keys, hnodup, ?_, hrefs⟩
  intro key
  rw [hkeys]
  constructor
  · exact And.right
  · rintro ⟨row, hrow, row', hrow', rfl, hsame, hne⟩
    exact ⟨by simpa [balancePolicy] using hkey row, row, hrow, row', hrow', rfl, hsame, hne⟩

lemma reports_facts (order : String × List (CsvRow factHeader) → String)
    (artifactName source : String) (rows : List (CsvRow factHeader)) :
    Reports (conflictIssues factPolicy order id artifactName source (dedupeRows rows)) id
      (FactConflict rows) := by
  rcases reports_conflictIssues factPolicy order id artifactName source rows with
    ⟨hkind, keys, hnodup, hkeys, hrefs⟩
  refine ⟨hkind, keys, hnodup, ?_, hrefs⟩
  intro key
  rw [hkeys]
  simp [FactConflict, factPolicy, CsvRow.rowKey_injective.eq_iff]

/-- Assembly keeps each collected row once, in an order that the order of the roots does not change,
and reports exactly the conflicts among the collected rows. -/
theorem assembled_rows (forms : TextForms) (source : String) (roots : List NormalizedRoot) :
    (Merges (collectRows NormalizedRoot.facts roots) (assembleRows forms source roots).facts ∧
      Merges (collectRows NormalizedRoot.balances roots)
        (assembleRows forms source roots).balances ∧
      Merges (collectRows NormalizedRoot.balanceReferences roots)
        (assembleRows forms source roots).balanceReferences) ∧
    (∀ roots', roots.Perm roots' →
      (assembleRows forms source roots').facts = (assembleRows forms source roots).facts ∧
      (assembleRows forms source roots').balances = (assembleRows forms source roots).balances ∧
      (assembleRows forms source roots').balanceReferences =
        (assembleRows forms source roots).balanceReferences) ∧
    Reports (assembleRows forms source roots).factIssues id
      (FactConflict (collectRows NormalizedRoot.facts roots)) ∧
    Reports (assembleRows forms source roots).balanceIssues forms.tuple
      (QuantityConflict balanceSnapshotSemanticKey
        (collectRows NormalizedRoot.balances roots)) ∧
    Reports (assembleRows forms source roots).balanceReferenceIssues forms.tuple
      (QuantityConflict balanceReferenceSemanticKey
        (collectRows NormalizedRoot.balanceReferences roots)) := by
  refine ⟨⟨merges_dedupeRows _, merges_dedupeRows _, merges_dedupeRows _⟩, ?_,
    reports_facts _ _ _ _, reports_balances semanticKey_ne_nil _ _ _ _ _,
    reports_balances ?_ _ _ _ _ _⟩
  · intro roots' hperm
    exact ⟨dedupeRows_perm (collectRows_perm _ hperm.symm),
      dedupeRows_perm (collectRows_perm _ hperm.symm),
      dedupeRows_perm (collectRows_perm _ hperm.symm)⟩
  · intro row
    simp [balanceReferenceSemanticKey, balanceTargetKey]

/-- One snapshot row, blank but for its quantity. -/
def quantityRow (quantity : String) : CsvRow balanceSnapshotHeader :=
  fun column => if column.1 = "quantity" then quantity else ""

/-- Two rows whose quantity texts differ by a blank are not reported. -/
theorem padded_quantity_not_reported :
    ¬∀ (forms : TextForms) (source : String) (roots : List NormalizedRoot),
      Reports (assembleRows forms source roots).balanceIssues forms.tuple (fun key =>
        ∃ row ∈ collectRows NormalizedRoot.balances roots,
          ∃ row' ∈ collectRows NormalizedRoot.balances roots,
            balanceSnapshotSemanticKey row = key ∧ balanceSnapshotSemanticKey row' = key ∧
              row.get "quantity" ≠ row'.get "quantity") := by
  intro h
  rcases h ⟨fun entry => entry.1, id⟩ "coinbase"
    [⟨none, some [quantityRow "1", quantityRow " 1"], none⟩] with ⟨_, keys, _, hkeys, hrefs⟩
  have hmem : balanceSnapshotSemanticKey (quantityRow "1") ∈ keys := by
    refine (hkeys _).2 ⟨quantityRow "1", by simp [collectRows], quantityRow " 1",
      by simp [collectRows], rfl, ?_, ?_⟩
    · decide +kernel
    · decide +kernel
  have hnone : (assembleRows ⟨fun entry => entry.1, id⟩ "coinbase"
      [⟨none, some [quantityRow "1", quantityRow " 1"], none⟩]).balanceIssues = [] := by
    decide +kernel
  rw [hnone, List.map_nil] at hrefs
  simp [List.map_eq_nil_iff.1 hrefs.symm] at hmem

end Captures
end Tallylot
