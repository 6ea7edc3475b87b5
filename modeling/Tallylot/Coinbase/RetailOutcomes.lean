import Tallylot.Coinbase.RetailErrors

/-!
# RetailOutcomes — every row of a retail export is accounted for

The two loops of the translator run as one pass over the rows and one over the pairs
(`translateRetailFile_eq`).  A file is translated exactly where every row and every pair fails with a
`ValueError`, if at all, and then every row has a draft with its quantities or an issue, every time of
asset migrations has one of the two, and the drafts compile (`retail_rows_settled_iff`).
-/

namespace Tallylot
namespace Coinbase

open Data Domain Normalization Transactions

/-! ## What a row says -/

/-- The leg of the row's asset. -/
def assetLeg (txType asset : String) (quantity : SpecialDecimal) : RetailLeg :=
  if txType ∈ ["buy", "receive", "deposit"] then primaryLeg "primary_in" quantity asset
  else if txType = "reward income" then primaryLeg "primary_in" quantity.abs asset
  else if txType = "sell" then primaryLeg "primary_out" quantity.neg asset
  else primaryLeg "primary_out" quantity.abs.neg asset

/-- The leg of what a trade pays or brings. -/
def cashLeg (txType priceCurrency : String) (cash : SpecialDecimal) : RetailLeg :=
  if txType = "buy" then primaryLeg "primary_out" cash.neg priceCurrency
  else primaryLeg "primary_in" cash priceCurrency

/-- The quantities of a row: what was transacted and, for a trade, the cash and the fee. -/
inductive RowQuantities (env : KernelEnvironment) (row : RetailRow) : List RetailLeg → Prop
  | trade {amounts : RetailAmounts} {quantity cash : SpecialDecimal} {legs : List RetailLeg}
      (htrade : txType env row ∈ ["buy", "sell"]) (hamounts : readAmounts row = .ok amounts)
      (hquantity : amounts.quantity = some quantity)
      (hcash : retailCashAmount (txType env row) amounts.subtotal amounts.total amounts.fee =
        .ok (some cash))
      (hlegs : legs.Perm (assetLeg (txType env row) (assetSymbol env row) quantity ::
        cashLeg (txType env row) (priceCurrency env row) cash ::
          feeLegs amounts.fee (priceCurrency env row)
            (cashLeg (txType env row) (priceCurrency env row) cash).legId)) :
      RowQuantities env row legs
  | single {amounts : RetailAmounts} {quantity : SpecialDecimal}
      (hsingle : txType env row ∈ singleTypes) (hamounts : readAmounts row = .ok amounts)
      (hquantity : amounts.quantity = some quantity) :
      RowQuantities env row [assetLeg (txType env row) (assetSymbol env row) quantity]

/-- A draft books its legs. -/
def RetailDraft.Booked (built : RetailDraft) : Prop :=
  built.draft.val.legs = built.legs.map BuiltRetailLeg.draft

/-- A row has a draft with its quantities, or an issue. -/
inductive RowSettled (env : KernelEnvironment) (file : RetailFile) (context : RetailRowContext) :
    RetailOutcome → Prop
  | draft {built : RetailDraft}
      (hquantities : RowQuantities env context.row (built.legs.map BuiltRetailLeg.leg))
      (hbooked : built.Booked) (href : built.draft.val.rawRowRef = rowId context.row) :
      RowSettled env file context (.inl built)
  | issue {issue : IssueRecord} (hkind : issue.kind = "unsupported_row")
      (hfile : issue.rawFile = file.name)
      (href : issue.rawRowRef = "row:" ++ toString context.rowIndex) :
      RowSettled env file context (.inr issue)

/-- The rows of one time have a draft that turns what one of them sold into what another bought, or
an issue. -/
inductive MigrationSettled (env : KernelEnvironment) (file : RetailFile)
    (entry : String × List RetailRow) : RetailOutcome → Prop
  | draft {built : RetailDraft} {soldRow boughtRow : RetailRow} {sold bought : SpecialDecimal}
      (hsoldRow : soldRow ∈ entry.2) (hboughtRow : boughtRow ∈ entry.2)
      (hsold : migrationQuantity soldRow = .ok sold) (hnegative : sold.isNegative = .ok true)
      (hbought : migrationQuantity boughtRow = .ok bought) (hpositive : bought.isPositive = .ok true)
      (hlegs : built.legs.map BuiltRetailLeg.leg =
        [primaryLeg "asset_in" bought (assetSymbol env boughtRow),
          primaryLeg "asset_out" sold.abs.neg (assetSymbol env soldRow)])
      (hbooked : built.Booked)
      (href : built.draft.val.rawRowRef = rowId soldRow ++ "|" ++ rowId boughtRow) :
      MigrationSettled env file entry (.inl built)
  | issue {issue : IssueRecord} (hkind : issue.kind = "unsupported_row")
      (hfile : issue.rawFile = file.name) (href : issue.rawRowRef = entry.1) :
      MigrationSettled env file entry (.inr issue)

/-! ## The rows of a file -/

section

variable (env : KernelEnvironment) (contexts : List RetailRowContext)

/-- The rows that are translated one by one. -/
def ownRows : List RetailRowContext :=
  contexts.filter (fun context => txType env context.row ≠ "asset migration")

def migrationRows : List RetailRow :=
  (contexts.filter (fun context => txType env context.row = "asset migration")).map
    RetailRowContext.row

def migrationRowsAt (timestamp : String) : List RetailRow :=
  (migrationRows env contexts).filter (fun row => strip (row .timestamp) = timestamp)

/-- The asset migrations by time. -/
def migrationGroups : List (String × List RetailRow) :=
  sortedOn Prod.fst (Dict.group (fun row : RetailRow => strip (row .timestamp))
    (migrationRows env contexts)).entries

end

/-- The outcomes of the rows and of the times of asset migrations, and the batch of them. -/
structure SettledAs (env : KernelEnvironment) (file : RetailFile) (contexts : List RetailRowContext)
    (batch : RetailBatch) (own : List RetailOutcome) (groups : List (String × List RetailRow))
    (paired : List RetailOutcome) : Prop where
  rows_settled : List.Forall₂ (RowSettled env file) (ownRows env contexts) own
  times_nodup : (groups.map Prod.fst).Nodup
  mem_groups : ∀ timestamp rows, (timestamp, rows) ∈ groups ↔
    rows ≠ [] ∧ rows = migrationRowsAt env contexts timestamp
  groups_settled : List.Forall₂ (MigrationSettled env file) groups paired
  drafts : batch.drafts = (own ++ paired).filterMap Sum.getLeft?
  issues : batch.issues = (own ++ paired).filterMap Sum.getRight?

/-! ## Outcomes -/

lemma exists_outcomeOf_iff {file : RetailFile} {ref rawRowRef : String} {draft : Decoded RetailDraft} :
    (∃ outcome, outcomeOf file ref rawRowRef draft = .ok outcome) ↔ Catchable draft := by
  rw [← exists_attempt_iff]
  constructor
  · rintro ⟨outcome, houtcome⟩
    rcases bind_eq_ok_iff.1 houtcome with ⟨result, hresult, _⟩
    exact ⟨result, hresult⟩
  · rintro ⟨result, hresult⟩
    rw [outcomeOf, hresult, bind_ok]
    cases result with
    | inl built => exact ⟨_, rfl⟩
    | inr message => exact ⟨_, rfl⟩

lemma of_outcomeOf {file : RetailFile} {ref rawRowRef : String} {draft : Decoded RetailDraft}
    {outcome : RetailOutcome} (h : outcomeOf file ref rawRowRef draft = .ok outcome) :
    (∃ built, draft = .ok built ∧ outcome = .inl built) ∨
      ∃ message, outcome = .inr (unsupportedRow file ref message rawRowRef) := by
  rcases bind_eq_ok_iff.1 h with ⟨result, hresult, hrest⟩
  cases result with
  | inl built => exact Or.inl ⟨built, attempt_eq_inl_iff.1 hresult, (Except.ok.inj hrest).symm⟩
  | inr message => exact Or.inr ⟨message, (Except.ok.inj hrest).symm⟩

/-! ## The loops -/

namespace TranslationState

variable (state : TranslationState)

def recordAll (outcomes : List RetailOutcome) : TranslationState := outcomes.foldl record state

def collectAll (rows : List RetailRow) : TranslationState := rows.foldl collect state

/-- What is recorded does not touch what is collected. -/
lemma collectAll_record (outcome : RetailOutcome) (rows : List RetailRow) :
    (state.record outcome).collectAll rows = (state.collectAll rows).record outcome := by
  induction rows generalizing state with
  | nil => rfl
  | cons row rows ih =>
      have hswap : (state.record outcome).collect row = (state.collect row).record outcome := by
        cases outcome <;> rfl
      exact (congrArg (fun s => collectAll s rows) hswap).trans (ih (state.collect row))

lemma drafts_recordAll (outcomes : List RetailOutcome) :
    (state.recordAll outcomes).drafts = state.drafts ++ outcomes.filterMap Sum.getLeft? ∧
      (state.recordAll outcomes).issues = state.issues ++ outcomes.filterMap Sum.getRight? ∧
        (state.recordAll outcomes).assetMigrations = state.assetMigrations := by
  induction outcomes generalizing state with
  | nil => exact ⟨(List.append_nil _).symm, (List.append_nil _).symm, rfl⟩
  | cons outcome outcomes ih =>
      rcases ih (state.record outcome) with ⟨hdrafts, hissues, hmigrations⟩
      cases outcome with
      | inl built => exact ⟨hdrafts.trans (List.append_assoc _ _ _), hissues, hmigrations⟩
      | inr issue => exact ⟨hdrafts, hissues.trans (List.append_assoc _ _ _), hmigrations⟩

lemma assetMigrations_collectAll (rows : List RetailRow) :
    (state.collectAll rows).drafts = state.drafts ∧ (state.collectAll rows).issues = state.issues ∧
      (state.collectAll rows).assetMigrations =
        rows.foldl (fun d row => d.upsert (strip (row .timestamp)) (fun old => old.getD [] ++ [row]))
          state.assetMigrations := by
  induction rows generalizing state with
  | nil => exact ⟨rfl, rfl, rfl⟩
  | cons row rows ih => exact ih (state.collect row)

end TranslationState

/-- The loop over the rows, with the asset migrations set aside. -/
lemma foldlM_addRow (env : KernelEnvironment) (file : RetailFile) (contexts : List RetailRowContext)
    (state : TranslationState) :
    contexts.foldlM (addRow env file) state = (do
      let outcomes ← (ownRows env contexts).mapM (rowOutcome env file)
      return (state.collectAll (migrationRows env contexts)).recordAll outcomes) := by
  induction contexts generalizing state with
  | nil => rfl
  | cons context contexts ih =>
      rw [List.foldlM_cons, addRow, ownRows, migrationRows, List.filter_cons, List.filter_cons]
      by_cases hmigration : txType env context.row = "asset migration"
      · rw [if_pos hmigration, if_neg (by simpa using hmigration), if_pos (by simpa using hmigration),
          bind_ok, ih]
        rfl
      · rw [if_neg hmigration, if_pos (by simpa using hmigration), if_neg (by simpa using hmigration),
          List.mapM_cons]
        cases rowOutcome env file context with
        | error e => rfl
        | ok outcome =>
            rw [bind_ok, bind_ok, pure_bind, ih, TranslationState.collectAll_record]
            change _ = ((ownRows env contexts).mapM (rowOutcome env file) >>= _) >>= _
            cases (ownRows env contexts).mapM (rowOutcome env file) <;> rfl

/-- The loop over the asset migrations. -/
lemma foldlM_addMigration (env : KernelEnvironment) (file : RetailFile)
    (groups : List (String × List RetailRow)) (state : TranslationState) :
    groups.foldlM (addMigration env file) state = (do
      let outcomes ← groups.mapM (migrationOutcome env file)
      return state.recordAll outcomes) := by
  induction groups generalizing state with
  | nil => rfl
  | cons entry groups ih =>
      rw [List.foldlM_cons, addMigration, List.mapM_cons]
      cases migrationOutcome env file entry with
      | error e => rfl
      | ok outcome =>
          rw [bind_ok, bind_ok, pure_bind, ih]
          cases groups.mapM (migrationOutcome env file) <;> rfl

/-- A file is translated row by row and time by time. -/
theorem translateRetailFile_eq (env : KernelEnvironment) (file : RetailFile)
    (contexts : List RetailRowContext) :
    translateRetailFile env file contexts = (do
      let own ← (ownRows env contexts).mapM (rowOutcome env file)
      let paired ← (migrationGroups env contexts).mapM (migrationOutcome env file)
      return ⟨(own ++ paired).filterMap Sum.getLeft?, (own ++ paired).filterMap Sum.getRight?⟩) := by
  rw [translateRetailFile, foldlM_addRow]
  cases (ownRows env contexts).mapM (rowOutcome env file) with
  | error e => rfl
  | ok own =>
      rw [bind_ok, bind_ok]
      set read := (TranslationState.empty.collectAll (migrationRows env contexts)).recordAll own with hread
      rcases TranslationState.drafts_recordAll
        (TranslationState.empty.collectAll (migrationRows env contexts)) own with
        ⟨hdrafts, hissues, hmigrations⟩
      rcases TranslationState.assetMigrations_collectAll TranslationState.empty
        (migrationRows env contexts) with ⟨hnoDrafts, hnoIssues, hcollected⟩
      have hgroups : sortedOn Prod.fst read.assetMigrations.entries = migrationGroups env contexts := by
        rw [hread, hmigrations, hcollected]
        rfl
      change ((sortedOn Prod.fst read.assetMigrations.entries).foldlM (addMigration env file) read >>= _) = _
      rw [hgroups, foldlM_addMigration]
      cases (migrationGroups env contexts).mapM (migrationOutcome env file) with
      | error e => rfl
      | ok paired =>
          rcases TranslationState.drafts_recordAll read paired with ⟨hpaired, hpairedIssues, _⟩
          rw [hdrafts, hnoDrafts] at hpaired
          rw [hissues, hnoIssues] at hpairedIssues
          exact congrArg Except.ok (congrArg₂ RetailBatch.mk (hpaired.trans List.filterMap_append.symm)
            (hpairedIssues.trans List.filterMap_append.symm))

/-! ## Drafts of rows -/

lemma of_buildRetailDraft {lower : String → String} {parts : List String}
    {legs : List BuiltRetailLeg} {fields : EconomicActivityDraftFields} {built : RetailDraft}
    (hlocation : locationIdFromParts lower parts = .ok fields.locationId)
    (h : buildRetailDraft legs fields = .ok built) :
    built.legs = legs ∧ built.Booked ∧ built.draft.val.rawRowRef = fields.rawRowRef := by
  unfold buildRetailDraft at h
  split_ifs at h
  rcases bind_eq_ok_iff.1 h with ⟨draft, hdraft, hbuilt⟩
  have hval : draft.val = { fields with legs := legs.map BuiltRetailLeg.draft } :=
    val_of_build_draft hlocation hdraft
  rw [← Except.ok.inj hbuilt]
  refine ⟨rfl, ?_, ?_⟩
  · exact congrArg EconomicActivityDraftFields.legs hval
  · exact (congrArg EconomicActivityDraftFields.rawRowRef hval).trans rfl

lemma of_retailDraft {env : KernelEnvironment} {file : RetailFile} {row : RetailRow}
    {timestamp : Instant} {description : String} {legPolicy : FactLegPolicy}
    {legs : List BuiltRetailLeg} {built : RetailDraft}
    (h : retailDraft env file row timestamp description legPolicy legs = .ok built) :
    built.legs = legs ∧ built.Booked ∧ built.draft.val.rawRowRef = rowId row := by
  rcases bind_eq_ok_iff.1 h with ⟨location, hlocation, hbuilt⟩
  exact of_buildRetailDraft hlocation hbuilt

lemma tradeLegs_perm {txType : String} (htrade : txType ∈ ["buy", "sell"])
    (asset priceCurrency : String) (quantity cash : SpecialDecimal) :
    ∃ inLeg outLeg, tradeLegs txType asset priceCurrency quantity cash =
        some (inLeg, outLeg, (cashLeg txType priceCurrency cash).legId) ∧
      [inLeg, outLeg].Perm [assetLeg txType asset quantity, cashLeg txType priceCurrency cash] := by
  rcases List.mem_pair.1 htrade with rfl | rfl
  · exact ⟨_, _, rfl, List.Perm.refl _⟩
  · exact ⟨_, _, rfl, List.Perm.swap _ _ _⟩

lemma singleLeg_eq_assetLeg {txType : String} (hsingle : txType ∈ singleTypes) (asset : String)
    (quantity : SpecialDecimal) :
    singleLeg txType asset quantity = some (assetLeg txType asset quantity) := by
  simp only [singleTypes, List.mem_cons, List.not_mem_nil, or_false] at hsingle
  rcases hsingle with rfl | rfl | rfl | rfl | rfl | rfl
  all_goals rfl

/-- A row that is translated has a draft with its quantities. -/
theorem of_normalizeRetailRow {env : KernelEnvironment} {file : RetailFile} {row : RetailRow}
    {built : RetailDraft} (h : normalizeRetailRow env file row = .ok built) :
    RowQuantities env row (built.legs.map BuiltRetailLeg.leg) ∧ built.Booked ∧
      built.draft.val.rawRowRef = rowId row := by
  rcases bind_eq_ok_iff.1 h with ⟨amounts, hamounts, h⟩
  rcases bind_eq_ok_iff.1 h with ⟨timestamp, _, h⟩
  cases hquantity : amounts.quantity with
  | none =>
      rw [hquantity] at h
      cases h
  | some quantity =>
      rw [hquantity] at h
      dsimp only at h
      split_ifs at h with htrade
      · rcases bind_eq_ok_iff.1 h with ⟨found, hfound, h⟩
        cases found with
        | none => cases h
        | some cash =>
            rcases tradeLegs_perm htrade (assetSymbol env row) (priceCurrency env row) quantity cash with
              ⟨inLeg, outLeg, hlegs, hperm⟩
            dsimp only at h
            rw [hlegs] at h
            rcases bind_eq_ok_iff.1 h with ⟨primaryIn, hprimaryIn, h⟩
            rcases bind_eq_ok_iff.1 h with ⟨primaryOut, hprimaryOut, h⟩
            rcases bind_eq_ok_iff.1 h with ⟨charge, hcharge, h⟩
            rcases of_retailDraft h with ⟨hbuilt, hbooked, href⟩
            refine ⟨.trade htrade hamounts hquantity hfound ?_, hbooked, href⟩
            rw [hbuilt, List.map_cons, List.map_cons, leg_of_build hprimaryIn,
              leg_of_build hprimaryOut, legs_of_chargeLegs hcharge]
            exact hperm.append_right _
      · by_cases hsingle : txType env row ∈ singleTypes
        · rw [singleDraft, singleLeg_eq_assetLeg hsingle] at h
          rcases bind_eq_ok_iff.1 h with ⟨leg, hleg, h⟩
          rcases of_retailDraft h with ⟨hbuilt, hbooked, href⟩
          refine ⟨?_, hbooked, href⟩
          rw [hbuilt, List.map_singleton, leg_of_build hleg]
          exact .single hsingle hamounts hquantity
        · rw [singleDraft, singleLeg_eq_none hsingle] at h
          cases h

/-- Rows that are paired have a draft of what one sold and the other bought. -/
theorem of_normalizeAssetMigration {env : KernelEnvironment} {file : RetailFile}
    {entry : String × List RetailRow} {built : RetailDraft}
    (h : normalizeAssetMigration env file entry.1 entry.2 = .ok built) :
    MigrationSettled env file entry (.inl built) := by
  unfold normalizeAssetMigration at h
  split_ifs at h
  rcases bind_eq_ok_iff.1 h with ⟨negatives, hnegatives, h⟩
  rcases bind_eq_ok_iff.1 h with ⟨positives, hpositives, h⟩
  -- one row is sold and one is bought
  rcases negatives with _ | ⟨soldRow, _ | ⟨_, _⟩⟩
  · cases h
  · rcases positives with _ | ⟨boughtRow, _ | ⟨_, _⟩⟩
    · cases h
    · rcases (of_filterM hnegatives).2 soldRow List.mem_cons_self with ⟨hsoldRow, hsold⟩
      rcases (of_filterM hpositives).2 boughtRow List.mem_cons_self with ⟨hboughtRow, hbought⟩
      rcases bind_eq_ok_iff.1 hsold with ⟨sold, hsold, hnegative⟩
      rcases bind_eq_ok_iff.1 hbought with ⟨bought, hbought, hpositive⟩
      rcases bind_eq_ok_iff.1 h with ⟨_, hread, h⟩
      cases hsold.symm.trans hread
      rcases bind_eq_ok_iff.1 h with ⟨parsed, hparsed, h⟩
      cases parsed with
      | none => cases h
      | some quantity =>
          have hquantity : bought = quantity := by
            rcases bind_eq_ok_iff.1 hbought with ⟨_, hparsed', hvalue⟩
            cases hparsed.symm.trans hparsed'
            exact (Except.ok.inj hvalue).symm
          subst hquantity
          rcases bind_eq_ok_iff.1 h with ⟨compared, _, h⟩
          split_ifs at h
          rcases bind_eq_ok_iff.1 h with ⟨location, hlocation, h⟩
          rcases bind_eq_ok_iff.1 h with ⟨instant, _, h⟩
          rcases bind_eq_ok_iff.1 h with ⟨assetIn, hassetIn, h⟩
          rcases bind_eq_ok_iff.1 h with ⟨assetOut, hassetOut, h⟩
          rcases of_buildRetailDraft hlocation h with ⟨hbuilt, hbooked, href⟩
          refine .draft hsoldRow hboughtRow hsold hnegative hbought hpositive ?_ hbooked href
          rw [hbuilt, List.map_cons, List.map_singleton, leg_of_build hassetIn, leg_of_build hassetOut]
    · cases h
  · cases h

lemma rowSettled_of_outcome {env : KernelEnvironment} {file : RetailFile}
    {context : RetailRowContext} {outcome : RetailOutcome}
    (h : rowOutcome env file context = .ok outcome) : RowSettled env file context outcome := by
  rcases of_outcomeOf h with ⟨built, hbuilt, rfl⟩ | ⟨message, rfl⟩
  · rcases of_normalizeRetailRow hbuilt with ⟨hquantities, hbooked, href⟩
    exact .draft hquantities hbooked href
  · exact .issue rfl rfl rfl

lemma migrationSettled_of_outcome {env : KernelEnvironment} {file : RetailFile}
    {entry : String × List RetailRow} {outcome : RetailOutcome}
    (h : migrationOutcome env file entry = .ok outcome) : MigrationSettled env file entry outcome := by
  rcases of_outcomeOf h with ⟨built, hbuilt, rfl⟩ | ⟨message, rfl⟩
  · exact of_normalizeAssetMigration hbuilt
  · exact .issue rfl rfl rfl

/-! ## Compiling -/

lemma resolved_of_booked {env : KernelEnvironment}
    (hupper : ∀ text, isBlank text = false → isBlank (env.upper text) = false) {built : RetailDraft}
    (h : built.Booked) : Resolved env built.draft := by
  intro leg hleg
  rw [h] at hleg
  rcases List.mem_map.1 hleg with ⟨retailLeg, _, rfl⟩
  have hdraft := retailLeg.built
  rw [(val_of_symbolLeg hdraft).2.2.2.1]
  exact exists_resolved_symbol hupper (checked_of_draft hdraft).1 _

lemma booked_of_mem {env : KernelEnvironment} {file : RetailFile} {contexts : List RetailRowContext}
    {batch : RetailBatch} {own paired : List RetailOutcome} {groups : List (String × List RetailRow)}
    (h : SettledAs env file contexts batch own groups paired) {built : RetailDraft}
    (hbuilt : built ∈ batch.drafts) : built.Booked := by
  rw [h.drafts] at hbuilt
  rcases List.mem_filterMap.1 hbuilt with ⟨outcome, houtcome, hleft⟩
  cases outcome with
  | inr issue => cases hleft
  | inl other =>
      cases hleft
      rcases List.mem_append.1 houtcome with hown | hpaired
      · rcases exists_left_of_forall₂ h.rows_settled hown with ⟨context, _, hsettled⟩
        cases hsettled with
        | draft _ hbooked _ => exact hbooked
      · rcases exists_left_of_forall₂ h.groups_settled hpaired with ⟨entry, _, hsettled⟩
        cases hsettled with
        | draft _ _ _ _ _ _ _ hbooked _ => exact hbooked

/-! ## Files -/

lemma mem_migrationGroups_iff {env : KernelEnvironment} {contexts : List RetailRowContext}
    {timestamp : String} {rows : List RetailRow} :
    (timestamp, rows) ∈ migrationGroups env contexts ↔
      rows ≠ [] ∧ rows = migrationRowsAt env contexts timestamp := by
  rw [migrationGroups, mem_sortedOn, Dict.mem_entries_group_iff]
  rfl

lemma nodup_migrationGroups (env : KernelEnvironment) (contexts : List RetailRowContext) :
    ((migrationGroups env contexts).map Prod.fst).Nodup :=
  ((sortedOn_perm Prod.fst _).map Prod.fst).nodup_iff.2
    (Dict.keys_nodup (Dict.group (fun row : RetailRow => strip (row .timestamp))
      (migrationRows env contexts)))

/-- A file is translated exactly where nothing but a `ValueError` is raised on the way. -/
lemma exists_translated_iff {env : KernelEnvironment} {file : RetailFile}
    {contexts : List RetailRowContext} :
    (∃ batch, translateRetailFile env file contexts = .ok batch) ↔
      (∀ context ∈ ownRows env contexts, ComparableRow env file context.row) ∧
        ∀ entry ∈ migrationGroups env contexts, ComparableMigration entry.2 := by
  have hrow : ∀ context, (∃ outcome, rowOutcome env file context = .ok outcome) ↔
      ComparableRow env file context.row := fun context =>
    exists_outcomeOf_iff.trans catchable_normalizeRetailRow_iff
  have hgroup : ∀ entry, (∃ outcome, migrationOutcome env file entry = .ok outcome) ↔
      ComparableMigration entry.2 := fun entry =>
    exists_outcomeOf_iff.trans catchable_normalizeAssetMigration_iff
  rw [translateRetailFile_eq]
  constructor
  · rintro ⟨batch, hbatch⟩
    rcases bind_eq_ok_iff.1 hbatch with ⟨own, hown, hbatch⟩
    rcases bind_eq_ok_iff.1 hbatch with ⟨paired, hpaired, _⟩
    exact ⟨fun context hcontext => (hrow context).1 (exists_ok_of_mapM hown hcontext),
      fun entry hentry => (hgroup entry).1 (exists_ok_of_mapM hpaired hentry)⟩
  · rintro ⟨hrows, hgroups⟩
    rcases exists_mapM_ok (fun context hcontext => (hrow context).2 (hrows context hcontext)) with
      ⟨own, hown⟩
    rcases exists_mapM_ok (fun entry hentry => (hgroup entry).2 (hgroups entry hentry)) with
      ⟨paired, hpaired⟩
    exact ⟨_, bind_eq_ok_iff.2 ⟨own, hown, bind_eq_ok_iff.2 ⟨paired, hpaired, rfl⟩⟩⟩

/-- What is translated is settled. -/
theorem settled_of_translated {env : KernelEnvironment} {file : RetailFile}
    {contexts : List RetailRowContext} {batch : RetailBatch}
    (h : translateRetailFile env file contexts = .ok batch) :
    ∃ own paired, SettledAs env file contexts batch own (migrationGroups env contexts) paired := by
  rw [translateRetailFile_eq] at h
  rcases bind_eq_ok_iff.1 h with ⟨own, hown, h⟩
  rcases bind_eq_ok_iff.1 h with ⟨paired, hpaired, hbatch⟩
  refine ⟨own, paired, ?_⟩
  rw [← Except.ok.inj hbatch]
  constructor
  · exact forall₂_of_mapM hown fun context outcome => rowSettled_of_outcome
  · exact nodup_migrationGroups env contexts
  · exact fun timestamp rows => mem_migrationGroups_iff
  · exact forall₂_of_mapM hpaired fun entry outcome => migrationSettled_of_outcome
  · rfl
  · rfl

/-- No row of a retail export ends the translation of the others, and the drafts compile, exactly where
every amount can be read and compared as far as its row gets. -/
theorem retail_rows_settled_iff (env : KernelEnvironment)
    (hupper : ∀ text, isBlank text = false → isBlank (env.upper text) = false) (file : RetailFile)
    (contexts : List RetailRowContext) :
    (∃ batch result own groups paired, translateRetailFile env file contexts = .ok batch ∧
        compileActivityDraftsWithFeedback env (batch.drafts.map RetailDraft.draft) = .ok result ∧
          SettledAs env file contexts batch own groups paired) ↔
      (∀ context ∈ contexts, txType env context.row ≠ "asset migration" →
          ComparableRow env file context.row) ∧
        ∀ timestamp, ComparableMigration (migrationRowsAt env contexts timestamp) := by
  have hown : (∀ context ∈ ownRows env contexts, ComparableRow env file context.row) ↔
      ∀ context ∈ contexts, txType env context.row ≠ "asset migration" →
        ComparableRow env file context.row := by
    simp only [ownRows, List.mem_filter, decide_eq_true_eq, and_imp]
  have hgroups : (∀ entry ∈ migrationGroups env contexts, ComparableMigration entry.2) ↔
      ∀ timestamp, ComparableMigration (migrationRowsAt env contexts timestamp) := by
    constructor
    · intro h timestamp hlength
      have hne : migrationRowsAt env contexts timestamp ≠ [] := by
        intro hnil
        rw [hnil] at hlength
        cases hlength
      exact h (timestamp, _) (mem_migrationGroups_iff.2 ⟨hne, rfl⟩) hlength
    · rintro h ⟨timestamp, rows⟩ hentry
      rw [(mem_migrationGroups_iff.1 hentry).2]
      exact h timestamp
  rw [← hown, ← hgroups, ← exists_translated_iff]
  constructor
  · rintro ⟨batch, _, _, _, _, hbatch, _⟩
    exact ⟨batch, hbatch⟩
  · rintro ⟨batch, hbatch⟩
    rcases settled_of_translated hbatch with ⟨own, paired, hsettled⟩
    have hresolved : ∀ draft ∈ batch.drafts.map RetailDraft.draft, Resolved env draft := by
      intro draft hdraft
      rcases List.mem_map.1 hdraft with ⟨built, hbuilt, rfl⟩
      exact resolved_of_booked hupper (booked_of_mem hsettled hbuilt)
    rcases exists_compiled hresolved with ⟨result, hresult⟩
    exact ⟨batch, result, own, _, paired, hbatch, hresult, hsettled⟩

/-- A row of an export, without a price and notes. -/
def retailRow (id timestamp transactionType asset quantity currency subtotal total fees : String) :
    RetailRow
  | .id => id
  | .timestamp => timestamp
  | .transactionType => transactionType
  | .asset => asset
  | .quantityTransacted => quantity
  | .priceCurrency => currency
  | .priceAtTransaction => ""
  | .subtotal => subtotal
  | .total => total
  | .fees => fees
  | .notes => ""

/-- Upper and lower case of texts that have the case already. -/
def retailEnvironment : KernelEnvironment where
  sha256 := id
  subjectText _ := ""
  repr := id
  upper := id
  lower := id

def retailFile : RetailFile := ⟨"coinbase", "retail-export.csv"⟩

/-- A purchase with a subtotal. -/
def buyRow (subtotal : String) : RetailRow :=
  retailRow "tx-1" "2024-02-08 16:31:22 UTC" "buy" "BTC" "0.01000000" "CAD" subtotal "$610.00" "$10.00"

def migrationRow (id asset quantity : String) : RetailRow :=
  retailRow id "2023-09-12 10:00:00 UTC" "asset migration" asset quantity "CAD" "" "" ""

def retailContexts : List RetailRowContext :=
  [⟨4, buyRow "$600.00"⟩, ⟨5, migrationRow "tx-2" "ETH2" "-1.5"⟩, ⟨6, migrationRow "tx-3" "ETH" "1.5"⟩]

theorem retail_rows_settled_iff_buy :
    ∃ batch result own groups paired,
      translateRetailFile retailEnvironment retailFile retailContexts = .ok batch ∧
        compileActivityDraftsWithFeedback retailEnvironment (batch.drafts.map RetailDraft.draft) =
          .ok result ∧
          SettledAs retailEnvironment retailFile retailContexts batch own groups paired := by
  refine (retail_rows_settled_iff retailEnvironment (fun _ h => h) retailFile retailContexts).2 ⟨?_, ?_⟩
  · have hbuy : ∃ amounts, readAmounts (buyRow "$600.00") = .ok amounts ∧ amounts.isFinite = true ∧
        amounts.subtotal ≠ none :=
      ⟨⟨some (.finite (Decimal.ofParts 1 (-2))), some (.finite (Decimal.ofParts 600 0)),
        some (.finite (Decimal.ofParts 610 0)), some (.finite (Decimal.ofParts 10 0))⟩,
        by decide +kernel, by decide +kernel, (fun h => by cases h)⟩
    rcases hbuy with ⟨amounts, hamounts, hfinite, hsubtotal⟩
    refine List.forall_mem_cons.2 ⟨fun _ => comparableRow_of_finite hamounts hfinite
        (fun hnone => absurd hnone hsubtotal),
      List.forall_mem_cons.2 ⟨fun h => absurd rfl h, List.forall_mem_singleton.2 fun h => absurd rfl h⟩⟩
  · intro timestamp _ row hrow
    have hmem : row ∈ [migrationRow "tx-2" "ETH2" "-1.5", migrationRow "tx-3" "ETH" "1.5"] :=
      (List.mem_filter.1 hrow).1
    rcases List.mem_pair.1 hmem with rfl | rfl
    · exact ⟨some (.finite (Decimal.ofParts (-15) (-1))), by decide +kernel, by decide⟩
    · exact ⟨some (.finite (Decimal.ofParts 15 (-1))), by decide +kernel, by decide⟩

/-- A subtotal that is no number ends the translation of the whole file. -/
theorem unreadable_subtotal_raises :
    ¬∀ (env : KernelEnvironment) (file : RetailFile) (contexts : List RetailRowContext),
      (∀ text, isBlank text = false → isBlank (env.upper text) = false) →
        ∃ batch result own groups paired, translateRetailFile env file contexts = .ok batch ∧
          compileActivityDraftsWithFeedback env (batch.drafts.map RetailDraft.draft) = .ok result ∧
            SettledAs env file contexts batch own groups paired := by
  intro h
  rcases h retailEnvironment retailFile [⟨4, buyRow "N/A"⟩] (fun _ h => h) with
    ⟨batch, _, _, _, _, hbatch, _⟩
  have hown : (⟨4, buyRow "N/A"⟩ : RetailRowContext) ∈
      ownRows retailEnvironment [⟨4, buyRow "N/A"⟩] :=
    List.mem_filter.2 ⟨List.mem_singleton_self _, by decide +kernel⟩
  rcases (exists_translated_iff.1 ⟨batch, hbatch⟩).1 _ hown with ⟨amounts, hamounts, _⟩
  have hunread : readAmounts (buyRow "N/A") = .error .invalidOperation := by decide +kernel
  cases hunread.symm.trans hamounts

end Coinbase
end Tallylot
