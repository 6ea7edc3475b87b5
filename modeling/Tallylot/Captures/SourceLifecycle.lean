import Tallylot.Captures.Assembly
import Tallylot.Captures.RegistryFiles
import Tallylot.Data.InstantText
import Tallylot.Data.Parts
import Tallylot.Data.Path
import Mathlib.Data.List.Dedup

/-!
# SourceLifecycle — the summary of a source over its steps

The steps of a source are intake applies, profilings, normalizations and assemblies.  Each of them
adds rows to the capture registry and reduces the summary row of the source, apart from an apply
without a source folder, such as every apply that ends `capture_blocked`, which records nothing.

`lifecycle_consistent` holds after any number of steps; its invariant `Lifecycle` ties the status to
the two assembly columns and to the statuses of the history.
-/

namespace Tallylot
namespace Captures

open Data

/-! ## Steps -/

/-- The rows of the capture registry and those of the source inventory. -/
structure SourceRegistry where
  captures : List CaptureRow
  inventory : List CsvRow

namespace SourceRegistry

variable (registry : SourceRegistry)

/-- A cell of the summary row of a source; it is blank where there is no row. -/
def summaryValue (source field : String) : Option String :=
  existingValue registry.inventory source field

/-- The reduction of a summary update. -/
def reduction (update : SummaryUpdate) : SourceInventorySummaryReduction :=
  update.reduction (registry.captures.map CaptureRow.toRow) registry.inventory

/-- The registry after a summary update. -/
def updateSummary (update : SummaryUpdate) : Except SummaryError SourceRegistry :=
  match reduceSourceInventorySummary (registry.reduction update) with
  | .error error => .error error
  | .ok row =>
      .ok { registry with inventory := remainingRows registry.inventory update.source ++ [row] }

end SourceRegistry

/-- `_session_updates_source_inventory` -/
def sessionUpdatesSourceInventory (status : SessionStatus) : Bool := status ≠ .captureBlocked

/-- `_workspace_relative_ref` -/
def workspaceRelativeRef (workspaceRoot path : PosixPath) : String :=
  if workspaceRoot.root = path.root ∧ workspaceRoot.tail.isPrefixOf path.tail = true then
    (⟨"", path.tail.drop workspaceRoot.tail.length⟩ : PosixPath).text
  else path.text

/-- What happens to the captures of a source; an assembly is given the captures whose normalized
root is a directory. -/
inductive SourceStep
  | applyIntake (session : CaptureSession)
  | profile (captureUid : String)
  | normalize (captureUid : String)
  | assemble (rootPresent : String → Bool) (workspaceRoot outputRoot : String)

/-- The included rows of an assembly whose normalized root is there. -/
def includedPresent (rootPresent : String → Bool) (source : String) (rows : List CaptureRow) :
    List CaptureRow :=
  (partitionCaptureRows (captureRowHistoriesForSource rows source)).included.filter
    (fun row => rootPresent row.captureUid)

/-- The captures that an assembly does not include. -/
def excludedCount (rootPresent : String → Bool) (source : String) (rows : List CaptureRow) : Nat :=
  let partition := partitionCaptureRows (captureRowHistoriesForSource rows source)
  partition.excluded.length +
    (partition.included.filter (fun row => !rootPresent row.captureUid)).length

/-- The registry updates of a step. -/
def sourceStep (source : String) (registry : SourceRegistry) :
    SourceStep → Except SummaryError SourceRegistry
  | .applyIntake session =>
      let recorded : SourceRegistry :=
        { registry with captures := appendCaptureRecord registry.captures session }
      let planned := session.captureStatus = .planned
      if session.sourceFolder ≠ "" ∧ sessionUpdatesSourceInventory session.captureStatus = true then
        recorded.updateSummary
          { source := session.sourceFolder
            assembledOutputPresent := if planned then some false else none
            assemblyExcludedCaptureCount := if planned then some 0 else none }
      else .ok recorded
  | .profile captureUid =>
      ({ registry with
          captures := appendCaptureStatusRecord registry.captures
            { captureUid := captureUid, status := .profiled } } : SourceRegistry).updateSummary
        { source := source, status := some "profiled" }
  | .normalize captureUid =>
      ({ registry with
          captures := appendCaptureStatusRecord registry.captures
            { captureUid := captureUid, status := .normalized } } : SourceRegistry).updateSummary
        { source := source, status := some "normalized" }
  | .assemble rootPresent workspaceRoot outputRoot =>
      ({ registry with
          captures := assembleSource rootPresent source registry.captures } :
            SourceRegistry).updateSummary
        { source := source
          assembledRootRef := some (workspaceRelativeRef (PosixPath.parse workspaceRoot)
            (PosixPath.parse outputRoot))
          assembledOutputPresent :=
            some (includedPresent rootPresent source registry.captures ≠ [])
          assemblyExcludedCaptureCount :=
            some (excludedCount rootPresent source registry.captures) }

/-- A session as it is planned and completed: `capture_blocked_plan` has no source folder. -/
structure PlannedSession (session : CaptureSession) : Prop where
  blocked : session.captureStatus = .captureBlocked → session.sourceFolder = ""
  completed : ∃ t : Instant, session.intakeCompletedAt = t.timestampText

/-- A step of a source; an apply may turn out to have no source folder. -/
def SourceStep.Of (source : String) : SourceStep → Prop
  | .applyIntake session =>
      PlannedSession session ∧ (session.sourceFolder = source ∨ session.sourceFolder = "")
  | _ => True

/-- What steps of a source lead to. -/
inductive Reaches (source : String) (start : SourceRegistry) : SourceRegistry → Prop
  | refl : Reaches source start start
  | step {registry registry' : SourceRegistry} {step : SourceStep} :
      Reaches source start registry → step.Of source →
        sourceStep source registry step = .ok registry' → Reaches source start registry'

/-- The distinct capture uids of a source. -/
def registeredUids (rows : List CaptureRow) (source : String) : List String :=
  (((rows.filter (fun row => row.source = source)).map CaptureRow.captureUid).filter
    (fun uid => uid ≠ "")).dedup

/-- An apply that plans a new capture of a source. -/
def SourceStep.plansCapture (source : String) : SourceStep → Bool
  | .applyIntake session => session.captureStatus = .planned && session.sourceFolder = source
  | _ => false

/-- The summary row of a source, if there is one, counts its capture uids. -/
def Counted (source : String) (registry : SourceRegistry) : Prop :=
  (∃ row ∈ registry.inventory, row.get "source" = some source) →
    registry.summaryValue source "capture_count" =
      some (toString (registeredUids registry.captures source).length)

/-- An assembly that includes no capture. -/
def SourceStep.includesNothing (source : String) (registry : SourceRegistry) : SourceStep → Bool
  | .assemble rootPresent _ _ => includedPresent rootPresent source registry.captures = []
  | _ => false

/-! ## Cells of the rows -/

section Cells

variable (row : CaptureRow)

lemma source_toRow : row.toRow.get "source" = some row.source := by
  simp [CsvRow.get, CaptureRow.toRow, CsvRow.ofTexts, Dict.get?_ofList]

lemma status_toRow : row.toRow.get "status" = some row.status.text := by
  simp [CsvRow.get, CaptureRow.toRow, CsvRow.ofTexts, Dict.get?_ofList]

lemma completedAt_toRow : row.toRow.get "intake_completed_at" = some row.intakeCompletedAt := by
  simp [CsvRow.get, CaptureRow.toRow, CsvRow.ofTexts, Dict.get?_ofList]

lemma captureLabel_toRow : row.toRow.get "capture_label" = some row.captureLabel := by
  simp [CsvRow.get, CaptureRow.toRow, CsvRow.ofTexts, Dict.get?_ofList]

variable (record : SourceInventorySummaryRecord)

lemma status_summaryRow : record.toRow.get "status" = record.status := by
  simp [CsvRow.get, SourceInventorySummaryRecord.toRow, Dict.get?_ofList]

lemma assemblyStatus_summaryRow : record.toRow.get "assembly_status" = record.assemblyStatus := by
  simp [CsvRow.get, SourceInventorySummaryRecord.toRow, Dict.get?_ofList]

lemma assembledRootRef_summaryRow :
    record.toRow.get "assembled_root_ref" = record.assembledRootRef := by
  simp [CsvRow.get, SourceInventorySummaryRecord.toRow, Dict.get?_ofList]

lemma captureCount_summaryRow :
    record.toRow.get "capture_count" = some (toString record.captureCount) := by
  simp [CsvRow.get, SourceInventorySummaryRecord.toRow, Dict.get?_ofList]

end Cells

/-! ## The history of a source -/

/-- The rows of a source. -/
def historyOf (rows : List CaptureRow) (source : String) : List CaptureRow :=
  rows.filter (fun row => row.source = source)

lemma text_injective {status status' : CaptureStatus} (h : status.text = status'.text) :
    status = status' := by
  revert h
  cases status <;> cases status' <;> decide

section History

variable {registry : SourceRegistry} {update : SummaryUpdate} {rows : List CaptureRow}
  {source : String}

lemma isOf_toRow (source : String) (row : CaptureRow) :
    decide (row.toRow.get "source" = some source) = decide (row.source = source) := by
  simp only [source_toRow, Option.some.injEq]

lemma history_reduction : (registry.reduction update).history =
    (historyOf registry.captures update.source).map CaptureRow.toRow := by
  rw [SourceInventorySummaryReduction.history, SourceRegistry.reduction, SummaryUpdate.reduction]
  dsimp only
  rw [List.filter_map, historyOf]
  simp only [Function.comp_def, isOf_toRow]

/-- The pairs of uid and row from which the latest rows are taken. -/
lemma latestCaptureRowsForSource_eq (rows : List CaptureRow) (source : String) :
    latestCaptureRowsForSource (rows.map CaptureRow.toRow) source =
      Dict.ofList (((historyOf rows source).filter (fun row => row.captureUid ≠ "")).map
        (fun row => (row.captureUid, row.toRow))) := by
  rw [latestCaptureRowsForSource, List.filter_map, List.filterMap_map, historyOf]
  simp only [Function.comp_def, isOf_toRow]
  congr 1
  induction rows.filter (fun row => row.source = source) with
  | nil => rfl
  | cons row rows ih =>
      have hcell : row.toRow.get "capture_uid" = some row.captureUid := captureUid_toRow row
      by_cases huid : row.captureUid = ""
      · rw [List.filterMap_cons_none (by rw [hcell]; simp [huid]),
          List.filter_cons_of_neg (by simp [huid]), ih]
      · rw [List.filterMap_cons_some (by rw [hcell]; simp [huid]; rfl),
          List.filter_cons_of_pos (by simp [huid]), ih]
        rfl

/-- As many latest rows as capture uids. -/
lemma length_matching : (registry.reduction update).matching.length =
    (registeredUids registry.captures update.source).length := by
  have hmatching : (registry.reduction update).matching =
      (latestCaptureRowsForSource (registry.captures.map CaptureRow.toRow) update.source).values :=
    rfl
  have hlength : ∀ d : Dict String CsvRow, d.values.length = d.keys.length := by
    intro d
    rw [Dict.values, Dict.keys, List.length_map, List.length_map]
  rw [hmatching, hlength, latestCaptureRowsForSource_eq]
  refine ((List.perm_ext_iff_of_nodup (Dict.keys_nodup _) (List.nodup_dedup _)).2 ?_).length_eq
  intro uid
  rw [Dict.mem_keys_ofList, List.mem_dedup, List.map_map]
  simp only [List.mem_map, List.mem_filter, historyOf, Function.comp_def]
  constructor
  · rintro ⟨row, ⟨hrow, hne⟩, rfl⟩
    exact ⟨⟨row, hrow, rfl⟩, hne⟩
  · rintro ⟨⟨row, hrow, rfl⟩, hne⟩
    exact ⟨row, ⟨hrow, hne⟩, rfl⟩

lemma mem_matching {row : CsvRow} (h : row ∈ (registry.reduction update).matching) :
    ∃ captureRow ∈ historyOf registry.captures update.source, row = captureRow.toRow := by
  have hmatching : (registry.reduction update).matching =
      (latestCaptureRowsForSource (registry.captures.map CaptureRow.toRow) update.source).values :=
    rfl
  rw [hmatching, latestCaptureRowsForSource_eq, Dict.values] at h
  rcases List.mem_map.1 h with ⟨entry, hentry, rfl⟩
  rcases List.mem_map.1 (Dict.mem_of_mem_entries_ofList hentry) with ⟨captureRow, hmem, rfl⟩
  exact ⟨captureRow, (List.mem_filter.1 hmem).1, rfl⟩

lemma mem_candidates {row : CsvRow} (h : row ∈ (registry.reduction update).candidates) :
    ∃ captureRow ∈ historyOf registry.captures update.source, row = captureRow.toRow := by
  unfold SourceInventorySummaryReduction.candidates at h
  dsimp only at h
  split_ifs at h
  · exact mem_matching h
  · exact mem_matching (List.mem_of_mem_filter h)

end History

/-! ## Summaries are reduced -/

/-- A row whose completion is a timestamp, with a label and a uid. -/
structure Recorded (row : CsvRow) : Prop where
  completed : ∃ t, completionKey row = .ok t
  label : row.get "capture_label" ≠ none
  uid : row.get "capture_uid" ≠ none

lemma completionKey_snd {row : CsvRow} {key : CompletionKey} (h : completionKey row = .ok key) :
    key.2 = (row.get "capture_label", row.get "capture_uid") := by
  unfold completionKey at h
  cases hparse : parseOptionalTimestamp (row.get "intake_completed_at") with
  | error error =>
      rw [hparse] at h
      cases h
  | ok completed =>
      rw [hparse] at h
      rw [← Except.ok.inj h]

lemma textGreater_ok {first second : Option String} (hfirst : first ≠ none)
    (hsecond : second ≠ none) : ∃ greater, textGreater first second = .ok greater := by
  cases first with
  | none => exact absurd rfl hfirst
  | some first =>
      cases second with
      | none => exact absurd rfl hsecond
      | some second => exact ⟨_, rfl⟩

lemma keyGreater_ok {row row' : CsvRow} {key key' : CompletionKey} (hrow : Recorded row)
    (hrow' : Recorded row') (hkey : completionKey row = .ok key)
    (hkey' : completionKey row' = .ok key') : ∃ greater, keyGreater key key' = .ok greater := by
  have hsnd := completionKey_snd hkey
  have hsnd' := completionKey_snd hkey'
  rw [keyGreater, hsnd, hsnd']
  dsimp only
  split_ifs
  · exact ⟨_, rfl⟩
  · exact textGreater_ok hrow.label hrow'.label
  · exact textGreater_ok hrow.uid hrow'.uid
  · exact ⟨_, rfl⟩

lemma foldlM_laterCapture_ok {rest : List CsvRow} {best : CompletionKey × CsvRow}
    (hrest : ∀ row ∈ rest, Recorded row) (hbest : Recorded best.2)
    (hkey : completionKey best.2 = .ok best.1) :
    ∃ best', rest.foldlM laterCapture best = .ok best' := by
  induction rest generalizing best with
  | nil => exact ⟨best, rfl⟩
  | cons row rest ih =>
      have hrow := hrest row List.mem_cons_self
      rcases hrow.completed with ⟨key, hrowKey⟩
      rcases keyGreater_ok hrow hbest hrowKey hkey with ⟨greater, hgreater⟩
      have hturn : laterCapture best row = .ok (if greater = true then (key, row) else best) := by
        rw [laterCapture, hrowKey]
        dsimp only
        rw [hgreater]
      rw [List.foldlM_cons, hturn]
      refine ih (fun row' hrow' => hrest row' (List.mem_cons_of_mem _ hrow')) ?_ ?_
      · split_ifs
        · exact hrow
        · exact hbest
      · split_ifs
        · exact hrowKey
        · exact hkey

lemma latestCompletedCaptureRow_ok {rows : List CsvRow} (h : ∀ row ∈ rows, Recorded row) :
    ∃ latest, latestCompletedCaptureRow rows = .ok latest := by
  cases rows with
  | nil => exact ⟨_, rfl⟩
  | cons first rest =>
      have hfirst := h first List.mem_cons_self
      rcases hfirst.completed with ⟨key, hkey⟩
      rcases @foldlM_laterCapture_ok rest (key, first)
        (fun row hrow => h row (List.mem_cons_of_mem _ hrow)) hfirst hkey with ⟨best, hbest⟩
      rw [latestCompletedCaptureRow, hkey]
      dsimp only
      rw [hbest]
      exact ⟨best.2, rfl⟩

/-- The rows that an apply and its status records write. -/
lemma recorded_toRow {row : CaptureRow} {t : Instant} (h : row.intakeCompletedAt = t.timestampText) :
    Recorded row.toRow := by
  refine ⟨?_, ?_, ?_⟩
  · have hparse : parseOptionalTimestamp (some t.timestampText) = .ok (some t.wholeSecond) := by
      rw [parseOptionalTimestamp, if_neg t.timestampText_ne_empty, t.readTimestamp_timestampText]
    rw [completionKey, completedAt_toRow, h, hparse]
    exact ⟨_, rfl⟩
  · rw [captureLabel_toRow]
    exact Option.some_ne_none _
  · rw [captureUid_toRow]
    exact Option.some_ne_none _

/-! ## What the history says about the status -/

/-- The statuses that the rows of a source ever had. -/
def statusesOf (rows : List CaptureRow) (source : String) : List CaptureStatus :=
  (historyOf rows source).map CaptureRow.status

section Derived

variable {rows : List CaptureRow} {source : String} {status : CaptureStatus}

lemma mem_statusTexts :
    some status.text ∈ ((historyOf rows source).map CaptureRow.toRow).map
        (fun row => row.get "status") ↔ status ∈ statusesOf rows source := by
  simp only [List.map_map, List.mem_map, Function.comp_def, status_toRow, statusesOf,
    Option.some.injEq]
  constructor
  · rintro ⟨row, hrow, htext⟩
    exact ⟨row, hrow, text_injective htext⟩
  · rintro ⟨row, hrow, rfl⟩
    exact ⟨row, hrow, rfl⟩

variable {captureHistory : List CsvRow}

lemma derived_false_ne_assembled :
    sourceStatusFromCaptureHistory captureHistory false ≠ "assembled" := by
  rw [sourceStatusFromCaptureHistory, if_neg (fun h => absurd h.1 (by decide))]
  split_ifs <;> decide

lemma derived_false_of_included
    (h : some "assembly_included" ∈ captureHistory.map (fun row => row.get "status")) :
    sourceStatusFromCaptureHistory captureHistory false = "normalized" := by
  rw [sourceStatusFromCaptureHistory, if_neg (fun hnot => absurd hnot.1 (by decide)),
    if_pos (Or.inr (Or.inl h))]

lemma derived_true_ne_assembled
    (h : some "assembly_included" ∉ captureHistory.map (fun row => row.get "status")) :
    sourceStatusFromCaptureHistory captureHistory true ≠ "assembled" := by
  rw [sourceStatusFromCaptureHistory, if_neg (fun hincluded => absurd hincluded.2 h)]
  split_ifs <;> decide

/-- A status that is derived has a rank. -/
lemma rank_derived {allowAssembled : Bool}
    (h : sourceStatusFromCaptureHistory captureHistory allowAssembled ≠ "") :
    0 ≤ sourceStatusRank (some (sourceStatusFromCaptureHistory captureHistory allowAssembled)) := by
  unfold sourceStatusFromCaptureHistory at h ⊢
  dsimp only at h ⊢
  split_ifs at h ⊢
  all_goals first | decide | exact absurd rfl h

end Derived

/-! ## Reduced statuses -/

/-- A status from which a history with an included capture never falls. -/
def Advanced (status : Option String) : Prop := status = some "normalized" ∨ status = some "assembled"

section Statuses

variable {existing requested : Option String} {derived : String}

lemma rank_le_higher (first second : Option String) :
    sourceStatusRank first ≤ sourceStatusRank (higherSourceStatus first second) := by
  unfold higherSourceStatus
  split_ifs with h
  · exact le_rfl
  · exact (lt_of_not_ge h).le

/-- Asking for less than `assembled` neither gives nor takes it. -/
lemma higher_eq_assembled (hrank : sourceStatusRank requested ≤ 2) :
    higherSourceStatus existing requested = some "assembled" ↔ existing = some "assembled" := by
  have hassembled : sourceStatusRank (some "assembled") = 3 := by decide
  unfold higherSourceStatus
  split_ifs with h
  · exact Iff.rfl
  · refine iff_of_false ?_ ?_
    · rintro rfl
      rw [hassembled] at hrank
      exact absurd hrank (by decide)
    · rintro rfl
      rw [hassembled] at h
      exact h (hrank.trans (by decide))

lemma higher_of_advanced (hrank : sourceStatusRank requested ≤ 2) (h : Advanced existing) :
    higherSourceStatus existing requested = existing := by
  have hexisting : 2 ≤ sourceStatusRank existing := by
    rcases h with rfl | rfl <;> decide
  rw [higherSourceStatus, if_pos (hrank.trans hexisting)]

lemma rank_derived_false (captureHistory : List CsvRow) :
    sourceStatusRank (some (sourceStatusFromCaptureHistory captureHistory false)) ≤ 2 := by
  rw [sourceStatusFromCaptureHistory, if_neg (fun h => absurd h.1 (by decide))]
  split_ifs <;> decide

end Statuses

/-! ## The summary after an update -/

/-- What holds of a source after every step. -/
structure Lifecycle (source : String) (registry : SourceRegistry) : Prop where
  assemblyStatus : registry.summaryValue source "status" = some "assembled" ↔
    registry.summaryValue source "assembly_status" = some "assembled"
  assembledRootRef : registry.summaryValue source "status" = some "assembled" ↔
    registry.summaryValue source "assembled_root_ref" ≠ some ""
  included : CaptureStatus.assemblyIncluded ∈ statusesOf registry.captures source →
    Advanced (registry.summaryValue source "status")
  completed : ∀ row ∈ historyOf registry.captures source,
    ∃ t : Instant, row.intakeCompletedAt = t.timestampText

section Updating

variable {registry : SourceRegistry} {update : SummaryUpdate}

/-- The summary of a source is the row of its last update. -/
lemma existingValue_updated {rows : List CsvRow} {row : CsvRow} {source field : String}
    (h : row.get "source" = some source) :
    existingValue (remainingRows rows source ++ [row]) source field = row.get field := by
  have hnone : (remainingRows rows source).find? (fun row => row.get "source" = some source) =
      none := by
    rw [List.find?_eq_none]
    intro other hother
    have hne := of_decide_eq_true (List.mem_filter.1 hother).2
    simpa using hne
  rw [existingValue, List.find?_append, hnone, Option.none_or, List.find?_cons_of_pos]
  exact decide_eq_true h

/-- The update of a source whose rows have completions goes through. -/
lemma updateSummary_eq_ok
    (hcompleted : ∀ row ∈ historyOf registry.captures update.source,
      ∃ t : Instant, row.intakeCompletedAt = t.timestampText) :
    ∃ latest completed, registry.updateSummary update = .ok
      { registry with
        inventory := remainingRows registry.inventory update.source ++
          [((registry.reduction update).record latest completed).toRow] } := by
  have hrecorded : ∀ row ∈ (registry.reduction update).candidates, Recorded row := by
    intro row hrow
    rcases mem_candidates hrow with ⟨captureRow, hmem, rfl⟩
    rcases hcompleted captureRow hmem with ⟨t, ht⟩
    exact recorded_toRow ht
  rcases latestCompletedCaptureRow_ok hrecorded with ⟨latest, hlatest⟩
  rcases latestCompletedCaptureRow_timestamp hlatest with ⟨completed, hcompletedAt⟩
  refine ⟨latest, completed, ?_⟩
  rw [SourceRegistry.updateSummary,
    reduceSourceInventorySummary_eq_ok.2 ⟨latest, completed, hlatest, hcompletedAt, rfl⟩]

/-- The cells of the summary after an update. -/
structure Updated (registry registry' : SourceRegistry) (update : SummaryUpdate) : Prop where
  captures : registry'.captures = registry.captures
  status : registry'.summaryValue update.source "status" =
    reduceSourceStatus (registry.summaryValue update.source "status")
      ((historyOf registry.captures update.source).map CaptureRow.toRow) update.status
      update.assembledOutputPresent
  assemblyStatus : ∃ matching, registry'.summaryValue update.source "assembly_status" =
    reduceAssemblyStatus (registry.summaryValue update.source "assembly_status") matching
      update.assembledOutputPresent update.assemblyExcludedCaptureCount
  assembledRootRef : registry'.summaryValue update.source "assembled_root_ref" =
    reduceAssembledRootRef (registry.summaryValue update.source "assembled_root_ref")
      update.assembledRootRef update.assembledOutputPresent
  captureCount : registry'.summaryValue update.source "capture_count" =
    some (toString (registeredUids registry.captures update.source).length)

lemma updated_of_updateSummary
    (hcompleted : ∀ row ∈ historyOf registry.captures update.source,
      ∃ t : Instant, row.intakeCompletedAt = t.timestampText) :
    ∃ registry', registry.updateSummary update = .ok registry' ∧
      Updated registry registry' update := by
  rcases updateSummary_eq_ok hcompleted with ⟨latest, completed, hupdate⟩
  have hvalue : ∀ field, existingValue (remainingRows registry.inventory update.source ++
      [((registry.reduction update).record latest completed).toRow]) update.source field =
        ((registry.reduction update).record latest completed).toRow.get field :=
    fun field => existingValue_updated (source_summaryRow _)
  refine ⟨_, hupdate, rfl, ?_, ⟨(registry.reduction update).matching, ?_⟩, ?_, ?_⟩
  · rw [SourceRegistry.summaryValue, hvalue, status_summaryRow, ← history_reduction]
    rfl
  · rw [SourceRegistry.summaryValue, hvalue, assemblyStatus_summaryRow]
    rfl
  · rw [SourceRegistry.summaryValue, hvalue, assembledRootRef_summaryRow]
    rfl
  · rw [SourceRegistry.summaryValue, hvalue, captureCount_summaryRow, ← length_matching]
    rfl

end Updating

/-! ## Rows that a step adds -/

/-- Every row of the source is one that was there or a copy of one, with its completion; only where
`gains` holds can a copy be the first that is included. -/
def Copies (gains : Prop) (source : String) (rows rows' : List CaptureRow) : Prop :=
  ∀ row ∈ historyOf rows' source, ∃ old ∈ historyOf rows source,
    row.intakeCompletedAt = old.intakeCompletedAt ∧
      (row.status = .assemblyIncluded → gains ∨ old.status = .assemblyIncluded)

section Copying

variable {gains : Prop} {source : String} {rows rows' rows'' : List CaptureRow}

lemma mem_historyOf {row : CaptureRow} :
    row ∈ historyOf rows source ↔ row ∈ rows ∧ row.source = source := by
  rw [historyOf, List.mem_filter, decide_eq_true_iff]

lemma Copies.refl : Copies gains source rows rows := fun row hrow => ⟨row, hrow, rfl, Or.inr⟩

lemma Copies.trans (h : Copies gains source rows rows') (h' : Copies gains source rows' rows'') :
    Copies gains source rows rows'' := by
  intro row hrow
  rcases h' row hrow with ⟨middle, hmiddle, hcompleted', hincluded'⟩
  rcases h middle hmiddle with ⟨old, hold, hcompleted, hincluded⟩
  refine ⟨old, hold, hcompleted'.trans hcompleted, fun hrowIncluded => ?_⟩
  rcases hincluded' hrowIncluded with hgains | hmiddleIncluded
  · exact Or.inl hgains
  · exact hincluded hmiddleIncluded

lemma reduceCaptureStatus_cases (existing requested : CaptureStatus) :
    reduceCaptureStatus existing requested = existing ∨
      reduceCaptureStatus existing requested = requested := by
  unfold reduceCaptureStatus
  split_ifs
  · exact Or.inl rfl
  · exact Or.inl rfl
  · exact Or.inr rfl

/-- A status record copies the latest row of its capture. -/
lemma copies_appendCaptureStatusRecord {request : StatusRequest}
    (h : request.status = .assemblyIncluded → gains) :
    Copies gains source rows (appendCaptureStatusRecord rows request) := by
  unfold appendCaptureStatusRecord
  cases hlatest : latestCaptureRow rows request.captureUid with
  | none => exact Copies.refl
  | some latest =>
      have hmem : latest ∈ rows := by
        rw [latestCaptureRow_eq] at hlatest
        exact List.mem_of_mem_filter (List.mem_of_getLast? hlatest)
      intro row hrow
      rcases mem_historyOf.1 hrow with ⟨hrow, hsource⟩
      rcases List.mem_append.1 hrow with hrow | hrow
      · exact ⟨row, mem_historyOf.2 ⟨hrow, hsource⟩, rfl, Or.inr⟩
      · rw [List.mem_singleton.1 hrow] at hsource ⊢
        refine ⟨latest, mem_historyOf.2 ⟨hmem, hsource⟩, rfl, fun hincluded => ?_⟩
        rw [updated_status] at hincluded
        rcases reduceCaptureStatus_cases latest.status request.status with hkept | hasked
        · exact Or.inr (hkept ▸ hincluded)
        · exact Or.inl (h (hasked ▸ hincluded))

lemma copies_foldl {requests : List StatusRequest}
    (h : ∀ request ∈ requests, request.status = .assemblyIncluded → gains) :
    Copies gains source rows (requests.foldl appendCaptureStatusRecord rows) := by
  induction requests generalizing rows with
  | nil => exact Copies.refl
  | cons request requests ih =>
      have hfirst := h request List.mem_cons_self
      exact (copies_appendCaptureStatusRecord hfirst).trans
        (ih (fun other hother => h other (List.mem_cons_of_mem _ hother)))

/-- An assembly records an inclusion only of a capture whose normalized root is there. -/
lemma copies_assembleSource (rootPresent : String → Bool) (assembled : String) :
    Copies (includedPresent rootPresent assembled rows ≠ []) source rows
      (assembleSource rootPresent assembled rows) := by
  refine copies_foldl (fun request hrequest hincluded => ?_)
  rw [assemblyRequests] at hrequest
  rcases List.mem_append.1 hrequest with hrequest | hrequest
  · rcases List.mem_map.1 hrequest with ⟨row, hrow, rfl⟩
    dsimp only at hincluded
    split_ifs at hincluded with hpresent
    refine List.ne_nil_of_mem (List.mem_filter.2 ⟨hrow, ?_⟩)
    by_contra habsent
    exact hpresent (List.mem_filter.2 ⟨hrow, by simpa using habsent⟩)
  · rcases List.mem_map.1 hrequest with ⟨row, hrow, rfl⟩
    cases hincluded

variable {registry : SourceRegistry}

lemma completed_of_copies (h : Copies gains source rows rows')
    (hcompleted : ∀ row ∈ historyOf rows source,
      ∃ t : Instant, row.intakeCompletedAt = t.timestampText) :
    ∀ row ∈ historyOf rows' source, ∃ t : Instant, row.intakeCompletedAt = t.timestampText := by
  intro row hrow
  rcases h row hrow with ⟨old, hold, hsame, _⟩
  rcases hcompleted old hold with ⟨t, ht⟩
  exact ⟨t, hsame.trans ht⟩

/-- Copies that gain no inclusion keep the invariant. -/
lemma Lifecycle.copies (hlifecycle : Lifecycle source registry)
    (h : Copies gains source registry.captures rows) (hgains : ¬gains) :
    Lifecycle source { registry with captures := rows } := by
  refine ⟨hlifecycle.assemblyStatus, hlifecycle.assembledRootRef, fun hincluded => ?_,
    completed_of_copies h hlifecycle.completed⟩
  rcases List.mem_map.1 hincluded with ⟨row, hrow, hstatus⟩
  rcases h row hrow with ⟨old, hold, _, hold'⟩
  refine hlifecycle.included (List.mem_map.2 ⟨old, hold, ?_⟩)
  exact (hold' hstatus).resolve_left hgains

/-- The row of an apply keeps the invariant. -/
lemma Lifecycle.record (hlifecycle : Lifecycle source registry) {session : CaptureSession}
    {t : Instant} (hcompleted : session.intakeCompletedAt = t.timestampText) :
    Lifecycle source
      { registry with captures := appendCaptureRecord registry.captures session } := by
  have hcases : ∀ row ∈ historyOf (appendCaptureRecord registry.captures session) source,
      row ∈ historyOf registry.captures source ∨ row = captureRecord session := by
    intro row hrow
    rcases mem_historyOf.1 hrow with ⟨hrow, hsource⟩
    unfold appendCaptureRecord at hrow
    split_ifs at hrow
    · exact Or.inl (mem_historyOf.2 ⟨hrow, hsource⟩)
    · rcases List.mem_append.1 hrow with hrow | hrow
      · exact Or.inl (mem_historyOf.2 ⟨hrow, hsource⟩)
      · exact Or.inr (List.mem_singleton.1 hrow)
  refine ⟨hlifecycle.assemblyStatus, hlifecycle.assembledRootRef, fun hincluded => ?_,
    fun row hrow => ?_⟩
  · rcases List.mem_map.1 hincluded with ⟨row, hrow, hstatus⟩
    rcases hcases row hrow with hold | rfl
    · exact hlifecycle.included (List.mem_map.2 ⟨row, hold, hstatus⟩)
    · have hrecorded : recordedStatus session.captureStatus ≠ .assemblyIncluded := by
        cases session.captureStatus <;> decide
      exact absurd hstatus hrecorded
  · rcases hcases row hrow with hold | rfl
    · exact hlifecycle.completed row hold
    · exact ⟨t, hcompleted⟩

end Copying

/-! ## What an update does to the invariant -/

section Cases

variable {registry registry' : SourceRegistry} {update : SummaryUpdate}

/-- An assembly with an included capture ends `assembled`. -/
lemma Updated.assembled (h : Updated registry registry' update) {rootRef : String}
    (hpresent : update.assembledOutputPresent = some true)
    (hroot : update.assembledRootRef = some rootRef) (hne : rootRef ≠ "")
    (hcompleted : ∀ row ∈ historyOf registry.captures update.source,
      ∃ t : Instant, row.intakeCompletedAt = t.timestampText) :
    Lifecycle update.source registry' ∧
      registry'.summaryValue update.source "status" = some "assembled" := by
  have hstatus : registry'.summaryValue update.source "status" = some "assembled" := by
    rw [h.status, hpresent]
    rfl
  have hassembly : registry'.summaryValue update.source "assembly_status" = some "assembled" := by
    rcases h.assemblyStatus with ⟨matching, hassembly⟩
    rw [hassembly, hpresent]
    rfl
  have hrootRef : registry'.summaryValue update.source "assembled_root_ref" = some rootRef := by
    rw [h.assembledRootRef, hpresent, hroot]
    rfl
  refine ⟨⟨iff_of_true hstatus hassembly, iff_of_true hstatus ?_, fun _ => Or.inr hstatus, ?_⟩,
    hstatus⟩
  · rw [hrootRef]
    exact fun hblank => hne (Option.some.inj hblank)
  · rw [h.captures]
    exact hcompleted

/-- An update that takes the assembled output away ends the `assembled` state. -/
lemma Updated.disassembled (h : Updated registry registry' update)
    (hpresent : update.assembledOutputPresent = some false)
    (hlifecycle : Lifecycle update.source registry) :
    Lifecycle update.source registry' ∧
      registry'.summaryValue update.source "status" ≠ some "assembled" := by
  set captureHistory := (historyOf registry.captures update.source).map CaptureRow.toRow with hhistory
  set existing := registry.summaryValue update.source "status" with hexisting
  have hstatus : registry'.summaryValue update.source "status" =
      if existing = some "assembled" then
        some (sourceStatusFromCaptureHistory captureHistory false)
      else higherSourceStatus existing (some (sourceStatusFromCaptureHistory captureHistory false)) := by
    rw [h.status, hpresent, ← hhistory, ← hexisting]
    rfl
  have hne : registry'.summaryValue update.source "status" ≠ some "assembled" := by
    rw [hstatus]
    split_ifs with hassembled
    · exact fun hsame => derived_false_ne_assembled (Option.some.inj hsame)
    · exact fun hsame => hassembled ((higher_eq_assembled (rank_derived_false _)).1 hsame)
  have hassembly : registry'.summaryValue update.source "assembly_status" ≠ some "assembled" := by
    rcases h.assemblyStatus with ⟨matching, hassembly⟩
    rw [hassembly, hpresent]
    unfold reduceAssemblyStatus
    dsimp only
    split_ifs <;> decide
  have hrootRef : registry'.summaryValue update.source "assembled_root_ref" = some "" := by
    rw [h.assembledRootRef, hpresent]
    rfl
  refine ⟨⟨iff_of_false hne hassembly, iff_of_false hne (fun hroot => hroot hrootRef), ?_, ?_⟩, hne⟩
  · intro hincluded
    rw [h.captures] at hincluded
    have hderived := derived_false_of_included (mem_statusTexts.2 hincluded)
    rw [hstatus]
    split_ifs
    · exact Or.inl (congrArg some hderived)
    · rw [higher_of_advanced (rank_derived_false _) (hlifecycle.included hincluded)]
      exact hlifecycle.included hincluded
  · rw [h.captures]
    exact hlifecycle.completed

lemma orText_eq_assembled (existing : Option String) :
    orText existing "pending" = some "assembled" ↔ existing = some "assembled" := by
  unfold orText
  split_ifs with hblank
  · refine iff_of_false (by decide) ?_
    rintro rfl
    revert hblank
    decide
  · exact Iff.rfl

/-- An update that says nothing about the assembly keeps the assembly columns. -/
lemma Updated.kept (h : Updated registry registry' update)
    (hpresent : update.assembledOutputPresent = none) (hroot : update.assembledRootRef = none)
    (hlifecycle : Lifecycle update.source registry)
    (hsame : registry'.summaryValue update.source "status" = some "assembled" ↔
      registry.summaryValue update.source "status" = some "assembled")
    (hadvanced : Advanced (registry.summaryValue update.source "status") →
      Advanced (registry'.summaryValue update.source "status")) :
    Lifecycle update.source registry' := by
  have hassembly : registry'.summaryValue update.source "assembly_status" = some "assembled" ↔
      registry.summaryValue update.source "assembly_status" = some "assembled" := by
    rcases h.assemblyStatus with ⟨matching, hassembly⟩
    rw [hassembly, hpresent]
    exact orText_eq_assembled _
  have hrootRef : registry'.summaryValue update.source "assembled_root_ref" =
      registry.summaryValue update.source "assembled_root_ref" := by
    rw [h.assembledRootRef, hpresent, hroot]
    rfl
  refine ⟨hsame.trans (hlifecycle.assemblyStatus.trans hassembly.symm), ?_, ?_, ?_⟩
  · rw [hrootRef]
    exact hsame.trans hlifecycle.assembledRootRef
  · rw [h.captures]
    exact fun hincluded => hadvanced (hlifecycle.included hincluded)
  · rw [h.captures]
    exact hlifecycle.completed

/-- Profiling and normalizing never lower the status. -/
lemma Updated.requested (h : Updated registry registry' update) {requested : String}
    (hpresent : update.assembledOutputPresent = none) (hroot : update.assembledRootRef = none)
    (hrequested : update.status = some requested) (hrank : sourceStatusRank (some requested) ≤ 2)
    (hlifecycle : Lifecycle update.source registry) :
    Lifecycle update.source registry' ∧
      sourceStatusRank (registry.summaryValue update.source "status") ≤
        sourceStatusRank (registry'.summaryValue update.source "status") := by
  have hstatus : registry'.summaryValue update.source "status" =
      higherSourceStatus (registry.summaryValue update.source "status") (some requested) := by
    rw [h.status, hpresent, hrequested]
    rfl
  refine ⟨h.kept hpresent hroot hlifecycle ?_ ?_, ?_⟩
  · rw [hstatus]
    exact higher_eq_assembled hrank
  · intro hadvanced
    rw [hstatus, higher_of_advanced hrank hadvanced]
    exact hadvanced
  · rw [hstatus]
    exact rank_le_higher _ _

/-- An update that asks for nothing never lowers the status. -/
lemma Updated.derived (h : Updated registry registry' update)
    (hpresent : update.assembledOutputPresent = none) (hroot : update.assembledRootRef = none)
    (hrequested : update.status = none) (hlifecycle : Lifecycle update.source registry) :
    Lifecycle update.source registry' ∧
      sourceStatusRank (registry.summaryValue update.source "status") ≤
        sourceStatusRank (registry'.summaryValue update.source "status") := by
  set existing := registry.summaryValue update.source "status" with hexisting
  set captureHistory := (historyOf registry.captures update.source).map CaptureRow.toRow with hhistory
  have hstatus : registry'.summaryValue update.source "status" =
      if existing ∈ [some "profiled", some "normalized", some "assembled"] then existing
      else if sourceStatusFromCaptureHistory captureHistory true ≠ "" then
        some (sourceStatusFromCaptureHistory captureHistory true)
      else existing := by
    rw [h.status, hpresent, hrequested, ← hexisting, ← hhistory]
    rfl
  have hlisted : Advanced existing →
      existing ∈ [some "profiled", some "normalized", some "assembled"] := by
    rintro (hnormalized | hassembled)
    · rw [hnormalized]
      decide
    · rw [hassembled]
      decide
  by_cases hkept : registry'.summaryValue update.source "status" = existing
  · refine ⟨h.kept hpresent hroot hlifecycle ?_ ?_, ?_⟩
    · rw [hkept]
    · rw [hkept]
      exact id
    · rw [hkept]
  · have hnot : existing ∉ [some "profiled", some "normalized", some "assembled"] := by
      intro hmem
      rw [if_pos hmem] at hstatus
      exact hkept hstatus
    rw [if_neg hnot] at hstatus
    have hne : sourceStatusFromCaptureHistory captureHistory true ≠ "" := by
      intro hblank
      rw [if_neg (not_not.2 hblank)] at hstatus
      exact hkept hstatus
    rw [if_pos hne] at hstatus
    -- A history with an inclusion has an advanced status, which is kept.
    have hincluded : CaptureStatus.assemblyIncluded ∉ statusesOf registry.captures update.source :=
      fun hmem => hnot (hlisted (hlifecycle.included hmem))
    have hderived : sourceStatusFromCaptureHistory captureHistory true ≠ "assembled" :=
      derived_true_ne_assembled (fun hmem => hincluded (mem_statusTexts.1 hmem))
    refine ⟨h.kept hpresent hroot hlifecycle ?_ ?_, ?_⟩
    · rw [hstatus]
      refine iff_of_false (fun hsame => hderived (Option.some.inj hsame)) ?_
      exact fun hassembled => hnot (hlisted (Or.inr hassembled))
    · exact fun hadvanced => absurd (hlisted hadvanced) hnot
    · rw [hstatus]
      have hlow : sourceStatusRank existing ≤ 0 := by
        simp only [List.mem_cons, List.not_mem_nil, or_false, not_or] at hnot
        rw [sourceStatusRank]
        simp only [hnot.1, hnot.2.1, hnot.2.2, if_false]
        split_ifs <;> decide
      exact hlow.trans (rank_derived hne)

end Cases

/-! ## Every step -/

lemma text_ne_blank {path : PosixPath} (h : ∀ part ∈ path.tail, part ≠ "") : path.text ≠ "" := by
  unfold PosixPath.text
  split_ifs with hempty
  · decide
  · intro hblank
    have hparts := String.append_eq_empty_iff.1 hblank
    cases htail : path.tail with
    | nil => exact hempty ⟨hparts.1, htail⟩
    | cons part rest =>
        have hpart := h part (htail ▸ List.mem_cons_self)
        rw [htail] at hparts
        have hchars := congrArg String.toList hparts.2
        cases rest with
        | nil => exact hpart (by simpa using hchars)
        | cons next rest => simp at hchars

lemma workspaceRelativeRef_ne_blank (workspaceRoot outputRoot : String) :
    workspaceRelativeRef (PosixPath.parse workspaceRoot) (PosixPath.parse outputRoot) ≠ "" := by
  have hparts : ∀ part ∈ (PosixPath.parse outputRoot).tail, part ≠ "" :=
    fun part hpart => (PosixPath.isPart_of_mem_parse hpart).1
  unfold workspaceRelativeRef
  split_ifs
  · exact text_ne_blank (fun part hpart => hparts part (List.mem_of_mem_drop hpart))
  · exact text_ne_blank hparts

/-- What a step of a source does to its summary. -/
structure Consistent (source : String) (registry : SourceRegistry) (step : SourceStep)
    (registry' : SourceRegistry) : Prop where
  lifecycle : Lifecycle source registry'
  counted : Counted source registry'
  planned : step.plansCapture source = true →
    registry'.summaryValue source "status" ≠ some "assembled"
  rank : step.plansCapture source = false → step.includesNothing source registry = false →
    sourceStatusRank (registry.summaryValue source "status") ≤
      sourceStatusRank (registry'.summaryValue source "status")

lemma Updated.counted {registry registry' : SourceRegistry} {update : SummaryUpdate}
    (h : Updated registry registry' update) : Counted update.source registry' := by
  intro _
  rw [h.captures]
  exact h.captureCount

section Steps

variable {source : String} {registry : SourceRegistry}

lemma applyIntake_consistent (hsource : source ≠ "") (h : Lifecycle source registry)
    (hcounted : Counted source registry) {session : CaptureSession}
    (hof : (SourceStep.applyIntake session).Of source) :
    ∃ registry', sourceStep source registry (.applyIntake session) = .ok registry' ∧
      Consistent source registry (.applyIntake session) registry' := by
  rcases hof with ⟨⟨hblocked, t, ht⟩, hfolder⟩
  rw [sourceStep]
  by_cases hblank : session.sourceFolder = ""
  · -- Nothing is recorded.
    rw [if_neg (fun hboth => hboth.1 hblank)]
    have hcaptures : appendCaptureRecord registry.captures session = registry.captures :=
      if_pos hblank
    have hnot : session.sourceFolder ≠ source := fun hsame => hsource (hsame.symm.trans hblank)
    refine ⟨registry, by rw [hcaptures], h, hcounted, fun hplans => ?_, fun _ _ => le_rfl⟩
    rw [SourceStep.plansCapture, Bool.and_eq_true] at hplans
    exact absurd (of_decide_eq_true hplans.2) hnot
  · rcases hfolder with rfl | hfolder
    · have hrecord : Lifecycle session.sourceFolder
          { registry with captures := appendCaptureRecord registry.captures session } := h.record ht
      have hupdates : sessionUpdatesSourceInventory session.captureStatus = true :=
        decide_eq_true (fun hcaptureBlocked => hblank (hblocked hcaptureBlocked))
      rw [if_pos ⟨hsource, hupdates⟩]
      by_cases hplanned : session.captureStatus = .planned
      · rw [if_pos hplanned, if_pos hplanned]
        rcases @updated_of_updateSummary _
          { source := session.sourceFolder
            assembledOutputPresent := some false
            assemblyExcludedCaptureCount := some 0 } hrecord.completed with
          ⟨registry', hok, hupdated⟩
        rcases hupdated.disassembled rfl hrecord with ⟨hlifecycle, hne⟩
        refine ⟨registry', hok, hlifecycle, hupdated.counted, fun _ => hne, fun hnot => ?_⟩
        have hplans : SourceStep.plansCapture session.sourceFolder (.applyIntake session) = true := by
          rw [SourceStep.plansCapture, Bool.and_eq_true]
          exact ⟨decide_eq_true hplanned, decide_eq_true rfl⟩
        rw [hplans] at hnot
        cases hnot
      · rw [if_neg hplanned, if_neg hplanned]
        rcases @updated_of_updateSummary _ { source := session.sourceFolder } hrecord.completed with
          ⟨registry', hok, hupdated⟩
        rcases hupdated.derived rfl rfl rfl hrecord with ⟨hlifecycle, hrank⟩
        refine ⟨registry', hok, hlifecycle, hupdated.counted, fun hplans => ?_, fun _ _ => hrank⟩
        rw [SourceStep.plansCapture, Bool.and_eq_true] at hplans
        exact absurd (of_decide_eq_true hplans.1) hplanned
    · exact absurd hfolder hblank

/-- Profiling and normalizing. -/
lemma requested_consistent (h : Lifecycle source registry) {request : StatusRequest}
    {requested : String} (hrequest : request.status ≠ .assemblyIncluded)
    (hrank : sourceStatusRank (some requested) ≤ 2) {step : SourceStep}
    (hplans : step.plansCapture source = false)
    (hstep : sourceStep source registry step =
      ({ registry with captures := appendCaptureStatusRecord registry.captures request } :
        SourceRegistry).updateSummary { source := source, status := some requested }) :
    ∃ registry', sourceStep source registry step = .ok registry' ∧
      Consistent source registry step registry' := by
  have hcopies : Copies False source registry.captures
      (appendCaptureStatusRecord registry.captures request) :=
    copies_appendCaptureStatusRecord (fun hincluded => hrequest hincluded)
  have hrecord := h.copies hcopies not_false
  rcases @updated_of_updateSummary _ { source := source, status := some requested }
    hrecord.completed with ⟨registry', hok, hupdated⟩
  rcases hupdated.requested rfl rfl rfl hrank hrecord with ⟨hlifecycle, hle⟩
  refine ⟨registry', hstep.trans hok, hlifecycle, hupdated.counted, fun hnot => ?_, fun _ _ => hle⟩
  rw [hplans] at hnot
  cases hnot

lemma assemble_consistent (h : Lifecycle source registry) (rootPresent : String → Bool)
    (workspaceRoot outputRoot : String) :
    ∃ registry',
      sourceStep source registry (.assemble rootPresent workspaceRoot outputRoot) = .ok registry' ∧
        Consistent source registry (.assemble rootPresent workspaceRoot outputRoot) registry' := by
  have hcopies := @copies_assembleSource source registry.captures rootPresent source
  have hcompleted := completed_of_copies hcopies h.completed
  rw [sourceStep]
  rcases @updated_of_updateSummary
    { registry with captures := assembleSource rootPresent source registry.captures }
    { source := source
      assembledRootRef := some (workspaceRelativeRef (PosixPath.parse workspaceRoot)
        (PosixPath.parse outputRoot))
      assembledOutputPresent := some (includedPresent rootPresent source registry.captures ≠ [])
      assemblyExcludedCaptureCount := some (excludedCount rootPresent source registry.captures) }
    hcompleted with ⟨registry', hok, hupdated⟩
  refine ⟨registry', hok, ?_⟩
  by_cases hnothing : includedPresent rootPresent source registry.captures = []
  · have hpresent : decide (includedPresent rootPresent source registry.captures ≠ []) = false :=
      decide_eq_false (not_not.2 hnothing)
    rcases hupdated.disassembled (congrArg some hpresent)
      (h.copies hcopies (not_not.2 hnothing)) with ⟨hlifecycle, _⟩
    exact ⟨hlifecycle, hupdated.counted, (fun hnot => by cases hnot),
      fun _ hsome => absurd hnothing (of_decide_eq_false hsome)⟩
  · have hpresent : decide (includedPresent rootPresent source registry.captures ≠ []) = true :=
      decide_eq_true hnothing
    rcases hupdated.assembled (congrArg some hpresent) rfl
      (workspaceRelativeRef_ne_blank _ _) hcompleted with ⟨hlifecycle, hassembled⟩
    refine ⟨hlifecycle, hupdated.counted, (fun hnot => by cases hnot), fun _ _ => ?_⟩
    rw [hassembled]
    have htop : ∀ status, sourceStatusRank status ≤ 3 := by
      intro status
      unfold sourceStatusRank
      split_ifs <;> decide
    exact htop _

theorem step_consistent (hsource : source ≠ "") (h : Lifecycle source registry)
    (hcounted : Counted source registry) {step : SourceStep} (hof : step.Of source) :
    ∃ registry', sourceStep source registry step = .ok registry' ∧
      Consistent source registry step registry' := by
  cases step with
  | applyIntake session => exact applyIntake_consistent hsource h hcounted hof
  | profile captureUid =>
      exact requested_consistent h (fun hsame => by cases hsame) (by decide) rfl rfl
  | normalize captureUid =>
      exact requested_consistent h (fun hsame => by cases hsame) (by decide) rfl rfl
  | assemble rootPresent workspaceRoot outputRoot =>
      exact assemble_consistent h rootPresent workspaceRoot outputRoot

/-- A source without rows. -/
structure Unregistered (source : String) (registry : SourceRegistry) : Prop where
  captures : ∀ row ∈ registry.captures, row.source ≠ source
  inventory : ∀ row ∈ registry.inventory, row.get "source" ≠ some source

lemma lifecycle_of_unregistered (h : Unregistered source registry) : Lifecycle source registry := by
  have hvalue : ∀ field, registry.summaryValue source field = some "" := by
    intro field
    have hnone : registry.inventory.find? (fun row => row.get "source" = some source) = none := by
      rw [List.find?_eq_none]
      intro row hrow
      simpa using h.inventory row hrow
    rw [SourceRegistry.summaryValue, existingValue, hnone]
  have hhistory : historyOf registry.captures source = [] := by
    rw [historyOf, List.filter_eq_nil_iff]
    intro row hrow
    simpa using h.captures row hrow
  refine ⟨?_, ?_, fun hincluded => ?_, fun row hrow => ?_⟩
  · rw [hvalue, hvalue]
  · rw [hvalue, hvalue]
    exact iff_of_false (by decide) (fun hne => hne rfl)
  · rw [statusesOf, hhistory] at hincluded
    cases hincluded
  · rw [hhistory] at hrow
    cases hrow

/-- The invariant of a run. -/
lemma lifecycle_of_reaches (hsource : source ≠ "") {start : SourceRegistry}
    (hstart : Unregistered source start) (h : Reaches source start registry) :
    Lifecycle source registry ∧ Counted source registry := by
  induction h with
  | refl =>
      refine ⟨lifecycle_of_unregistered hstart, fun hrow => ?_⟩
      rcases hrow with ⟨row, hmem, hsame⟩
      exact absurd hsame (hstart.inventory row hmem)
  | step _ hof hstep ih =>
      rcases step_consistent hsource ih.1 ih.2 hof with ⟨registry', hok, hconsistent⟩
      rw [hok] at hstep
      rw [← Except.ok.inj hstep]
      exact ⟨hconsistent.lifecycle, hconsistent.counted⟩

end Steps

/-- After any steps of a source that had no rows, its summary is consistent and counts its captures,
and so it is after one step more, which goes through. -/
theorem lifecycle_consistent {source : String} (hsource : source ≠ "")
    {start registry : SourceRegistry} (hstart : Unregistered source start)
    (hreaches : Reaches source start registry) :
    ((registry.summaryValue source "status" = some "assembled" ↔
          registry.summaryValue source "assembly_status" = some "assembled") ∧
        (registry.summaryValue source "status" = some "assembled" ↔
          registry.summaryValue source "assembled_root_ref" ≠ some "") ∧
        Counted source registry) ∧
      ∀ step : SourceStep, step.Of source →
        ∃ registry', sourceStep source registry step = .ok registry' ∧
          Consistent source registry step registry' := by
  rcases lifecycle_of_reaches hsource hstart hreaches with ⟨hlifecycle, hcounted⟩
  exact ⟨⟨hlifecycle.assemblyStatus, hlifecycle.assembledRootRef, hcounted⟩,
    fun step hof => step_consistent hsource hlifecycle hcounted hof⟩

/-! ## A source that is assembled and captured again -/

/-- Steps one after the other. -/
def runSteps (source : String) (registry : SourceRegistry) (steps : List SourceStep) :
    Except SummaryError SourceRegistry := steps.foldlM (sourceStep source) registry

lemma reaches_of_runSteps {source : String} {steps : List SourceStep}
    (hof : ∀ step ∈ steps, step.Of source) {start registry : SourceRegistry}
    (hreaches : Reaches source start registry) {registry' : SourceRegistry}
    (h : runSteps source registry steps = .ok registry') : Reaches source start registry' := by
  induction steps generalizing registry with
  | nil => exact Except.ok.inj h ▸ hreaches
  | cons step steps ih =>
      rcases List.forall_mem_cons.1 hof with ⟨hfirst, hrest⟩
      rw [runSteps, List.foldlM_cons] at h
      rcases except_bind_eq_ok.1 h with ⟨middle, hstep, hsteps⟩
      exact ih hrest (.step hreaches hfirst hstep) hsteps

/-- An apply that plans a capture. -/
def krakenApply (captureUid : String) : SourceStep :=
  .applyIntake
    { captureUid := captureUid
      sourceFolder := "kraken"
      captureLabel := "2024"
      captureStatus := .planned
      intakeStartedAt := ""
      intakeCompletedAt := datetimeMin.timestampText
      incomingRef := "incoming/2024"
      manifestFingerprint := ""
      fileCount := 1
      observedPeriodStart := ""
      observedPeriodEnd := ""
      observedGroupCount := 0 }

lemma krakenApply_of (captureUid : String) : (krakenApply captureUid).Of "kraken" :=
  ⟨⟨(fun h => by cases h), datetimeMin, rfl⟩, Or.inl rfl⟩

/-- A capture that is planned, normalized and assembled. -/
def krakenSteps : List SourceStep :=
  [krakenApply "cap_1", .normalize "cap_1", .assemble (fun _ => true) "/work" "/work/kraken"]

lemma exists_assembledKraken :
    ∃ registry, runSteps "kraken" ⟨[], []⟩ krakenSteps = .ok registry ∧
      registry.summaryValue "kraken" "status" = some "assembled" := by
  have hany : (runSteps "kraken" ⟨[], []⟩ krakenSteps).toOption.any
      (fun registry => registry.summaryValue "kraken" "status" = some "assembled") = true := by
    decide +kernel
  cases hrun : runSteps "kraken" ⟨[], []⟩ krakenSteps with
  | error e =>
      rw [hrun] at hany
      cases hany
  | ok registry =>
      rw [hrun] at hany
      exact ⟨registry, rfl, of_decide_eq_true hany⟩

/-- Assembling a normalized capture assembles the source, and planning another capture ends that. -/
theorem lifecycle_consistent_second_capture :
    ∃ registry registry', runSteps "kraken" ⟨[], []⟩ krakenSteps = .ok registry ∧
      registry.summaryValue "kraken" "assembly_status" = some "assembled" ∧
      registry.summaryValue "kraken" "assembled_root_ref" ≠ some "" ∧
      sourceStep "kraken" registry (krakenApply "cap_2") = .ok registry' ∧
      Consistent "kraken" registry (krakenApply "cap_2") registry' ∧
      registry'.summaryValue "kraken" "status" ≠ some "assembled" := by
  rcases exists_assembledKraken with ⟨registry, hrun, hstatus⟩
  have hof : ∀ step ∈ krakenSteps, step.Of "kraken" := by
    intro step hstep
    rcases List.mem_cons.1 hstep with rfl | hstep
    · exact krakenApply_of "cap_1"
    · rcases List.mem_cons.1 hstep with rfl | hstep
      · trivial
      · exact List.mem_singleton.1 hstep ▸ trivial
  rcases lifecycle_consistent (by decide)
    ⟨fun _ h => absurd h List.not_mem_nil, fun _ h => absurd h List.not_mem_nil⟩
    (reaches_of_runSteps hof .refl hrun) with ⟨⟨hassembly, href, _⟩, hnext⟩
  rcases hnext (krakenApply "cap_2") (krakenApply_of "cap_2") with ⟨registry', hok, hconsistent⟩
  exact ⟨registry, registry', hrun, hassembly.1 hstatus, href.1 hstatus, hok, hconsistent,
    hconsistent.planned (by decide)⟩

end Captures
end Tallylot
