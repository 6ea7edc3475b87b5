import Tallylot.Data.Parts
import Tallylot.Intake.SourceLabels

/-!
# LabelPriority — the most specific entry of the map decides

Among the entries that match a route, one with a scope is more specific than one without, then the
longer prefix, where `.` stands for the whole capture and is less specific than every other prefix.
The code compares `.` as a prefix of one character, and issues with rules by their lengths alone, so
a one-character prefix can lose to `.` (`labelsRespected_iff`).
-/

namespace Tallylot
namespace Intake

open Data

/-! ## Entries -/

/-- A row of the map with a valid scope and a valid prefix. -/
structure LabelRow where
  scope : String
  pathPrefix : String
  source : String
  deriving DecidableEq, Repr

def labelRow? (repr : String → String) (row : Dict String String) : Option LabelRow :=
  match normalizeCaptureScope repr (cellText row "incoming_capture_scope"),
      normalizePrefix repr (cellText row "incoming_path_prefix") with
  | .ok scope, .ok pathPrefix => some ⟨scope, pathPrefix, cellText row "source"⟩
  | _, _ => none

def labelRows (repr : String → String) (mapRows : Option (List (Dict String String))) :
    List LabelRow :=
  (mapRows.getD []).filterMap (labelRow? repr)

/-- `_inventory_sources` -/
def inventorySources (inventoryRows : Option (List (Dict String String))) : List String :=
  ((inventoryRows.getD []).map (fun row => cellText row "source")).filter
    (fun source => source ≠ "")

section

variable (known : List String) (rows : List LabelRow)

/-- An unknown or blank source, or two sources, for one scope and prefix. -/
def Contested (scope pathPrefix : String) : Prop :=
  ∃ row ∈ rows, row.scope = scope ∧ row.pathPrefix = pathPrefix ∧
    (row.source ∉ known ∨
      ∃ other ∈ rows, other.scope = scope ∧ other.pathPrefix = pathPrefix ∧ other.source ∈ known ∧
        row.source ≠ other.source)

/-- The known sources of a scope and prefix are one. -/
def SoleSource (scope pathPrefix source : String) : Prop :=
  (∃ row ∈ rows, row.scope = scope ∧ row.pathPrefix = pathPrefix ∧ row.source = source ∧
      source ∈ known) ∧
    ∀ row ∈ rows, row.scope = scope → row.pathPrefix = pathPrefix → row.source ∈ known →
      row.source = source

end

/-! ## What the context holds -/

section Context

variable {repr : String → String} {mapRows inventoryRows : Option (List (Dict String String))}

lemma normalizePart_ne_blank {value : List Char} {text : String}
    (h : normalizePart value = .ok text) : text ≠ "" := by
  unfold normalizePart at h
  dsimp only at h
  split_ifs at h with hparent hempty
  rw [← Except.ok.inj h]
  intro hblank
  have hchars : ['/'].intercalate ((splitChars '/' value).filter
      (fun segment => segment ≠ [] ∧ segment ≠ ['.'])) = [] := by
    simpa using congrArg String.toList hblank
  cases hsegments : (splitChars '/' value).filter
      (fun segment => segment ≠ [] ∧ segment ≠ ['.']) with
  | nil => exact hempty hsegments
  | cons segment segments =>
      have hmem : segment ∈ (splitChars '/' value).filter
          (fun segment => segment ≠ [] ∧ segment ≠ ['.']) := hsegments ▸ List.mem_cons_self
      have hne : segment ≠ [] := (of_decide_eq_true (List.mem_filter.1 hmem).2).1
      rw [hsegments] at hchars
      cases segments with
      | nil => exact hne (by simpa using hchars)
      | cons next rest =>
          rw [List.intercalate_cons_cons, List.append_assoc] at hchars
          exact hne (List.append_eq_nil_iff.1 hchars).1

/-- Normalized prefixes are not blank. -/
lemma normalizePrefix_ne_blank {value pathPrefix : String}
    (h : normalizePrefix repr value = .ok pathPrefix) : pathPrefix ≠ "" := by
  simp only [normalizePrefix] at h
  split_ifs at h with hempty hdot
  · rw [← Except.ok.inj h]
    decide
  · rcases except_bind_eq_ok.1 h with ⟨normalized, _, h⟩
    rcases except_bind_eq_ok.1 h with ⟨left, hleft, h⟩
    cases hmember : (partitionMember normalized).2 with
    | none =>
        rw [hmember] at h
        rw [← Except.ok.inj h]
        exact normalizePart_ne_blank hleft
    | some member =>
        rw [hmember] at h
        rcases except_bind_eq_ok.1 h with ⟨right, _, h⟩
        rw [← Except.ok.inj h]
        intro hblank
        have hchars := congrArg String.toList hblank
        simp at hchars

lemma labelRow?_eq_some {row : Dict String String} {r : LabelRow} :
    labelRow? repr row = some r ↔
      normalizeCaptureScope repr (cellText row "incoming_capture_scope") = .ok r.scope ∧
        normalizePrefix repr (cellText row "incoming_path_prefix") = .ok r.pathPrefix ∧
          cellText row "source" = r.source := by
  unfold labelRow?
  constructor
  · intro h
    split at h
    · rename_i hscope hpath
      cases h
      exact ⟨hscope, hpath, rfl⟩
    · cases h
  · rintro ⟨hscope, hpath, hsource⟩
    rw [hscope, hpath, hsource]

lemma pathPrefix_ne_blank {row : Dict String String} {r : LabelRow}
    (h : labelRow? repr row = some r) : r.pathPrefix ≠ "" :=
  normalizePrefix_ne_blank (labelRow?_eq_some.1 h).2.1

lemma readMapRow_eq_entry {known : List String} {line : Nat} {row : Dict String String}
    {entry : LabelEntry} :
    readMapRow repr known line row = .entry entry ↔
      ∃ r, labelRow? repr row = some r ∧ r.source ≠ "" ∧ r.source ∈ known ∧
        entry = ⟨r.scope, r.pathPrefix, line, r.source⟩ := by
  simp only [labelRow?_eq_some]
  unfold readMapRow
  dsimp only
  constructor
  · intro h
    split at h
    · cases h
    · rename_i scope hscope
      split at h
      · cases h
      · rename_i pathPrefix hpath
        split_ifs at h with hblank hknown
        cases h
        exact ⟨⟨scope, pathPrefix, cellText row "source"⟩, ⟨hscope, hpath, rfl⟩, hblank, hknown, rfl⟩
  · rintro ⟨r, ⟨hscope, hpath, hsource⟩, hblank, hknown, rfl⟩
    rw [hscope, hpath]
    dsimp only
    rw [hsource, if_neg hblank, if_neg (not_not.2 hknown)]

lemma readMapRow_eq_issue {known : List String} {line : Nat} {row : Dict String String}
    {scope pathPrefix : String} (hne : pathPrefix ≠ "") :
    (∃ issue, readMapRow repr known line row = .issue issue ∧
        issue.incomingCaptureScope = scope ∧ issue.matchingPrefix = pathPrefix) ↔
      ∃ r, labelRow? repr row = some r ∧ (r.source = "" ∨ r.source ∉ known) ∧
        r.scope = scope ∧ r.pathPrefix = pathPrefix := by
  simp only [labelRow?_eq_some]
  unfold readMapRow
  dsimp only
  constructor
  · rintro ⟨issue, h, hscope, hpath⟩
    split at h
    · cases h
      exact absurd hpath.symm hne
    · rename_i normalizedScope hnormalizedScope
      split at h
      · cases h
        exact absurd hpath.symm hne
      · rename_i normalizedPrefix hnormalizedPrefix
        split_ifs at h with hblank hknown
        · cases h
          exact ⟨⟨scope, pathPrefix, _⟩, ⟨hscope ▸ hnormalizedScope, hpath ▸ hnormalizedPrefix,
            rfl⟩, Or.inl hblank, rfl, rfl⟩
        · cases h
          exact ⟨⟨scope, pathPrefix, _⟩, ⟨hscope ▸ hnormalizedScope, hpath ▸ hnormalizedPrefix,
            rfl⟩, Or.inr hknown, rfl, rfl⟩
  · rintro ⟨r, ⟨hscope, hpath, hsource⟩, hunknown, rfl, rfl⟩
    rw [hscope, hpath]
    dsimp only
    rw [hsource]
    by_cases hblank : r.source = ""
    · rw [if_pos hblank]
      exact ⟨_, rfl, rfl, rfl⟩
    · rw [if_neg hblank, if_pos (hunknown.resolve_left hblank)]
      exact ⟨_, rfl, rfl, rfl⟩

lemma inventorySources_ne_blank {source : String} (h : source ∈ inventorySources inventoryRows) :
    source ≠ "" :=
  of_decide_eq_true (List.mem_filter.1 h).2

lemma mem_mapReadings {known : List String} {rows : List (Dict String String)}
    {reading : RowReading} :
    reading ∈ mapReadings repr known rows ↔
      ∃ line row, (row, line) ∈ rows.zipIdx ∧ readMapRow repr known (line + 2) row = reading := by
  rw [mapReadings, List.mem_map]
  constructor
  · rintro ⟨⟨row, line⟩, hmem, h⟩
    exact ⟨line, row, hmem, h⟩
  · rintro ⟨line, row, hmem, h⟩
    exact ⟨(row, line), hmem, h⟩

lemma exists_line {rows : List (Dict String String)} {row : Dict String String} (h : row ∈ rows) :
    ∃ line, (row, line) ∈ rows.zipIdx := by
  rw [← List.zipIdx_map_fst 0 rows] at h
  rcases List.mem_map.1 h with ⟨⟨row', line⟩, hmem, rfl⟩
  exact ⟨line, hmem⟩

/-- The entries of a map are the rows with a known source. -/
lemma mem_readEntries {rows : List (Dict String String)} {scope pathPrefix source : String} :
    (∃ line, RowReading.entry ⟨scope, pathPrefix, line, source⟩ ∈
        mapReadings repr (inventorySources inventoryRows) rows) ↔
      (⟨scope, pathPrefix, source⟩ : LabelRow) ∈ rows.filterMap (labelRow? repr) ∧
        source ∈ inventorySources inventoryRows := by
  simp only [mem_mapReadings, readMapRow_eq_entry, List.mem_filterMap]
  constructor
  · rintro ⟨_, line, row, hmem, ⟨rowScope, rowPrefix, rowSource⟩, hrow, _, hknown, hentry⟩
    cases hentry
    exact ⟨⟨row, List.fst_mem_of_mem_zipIdx hmem, hrow⟩, hknown⟩
  · rintro ⟨⟨row, hmem, hrow⟩, hknown⟩
    rcases exists_line hmem with ⟨line, hline⟩
    exact ⟨line + 2, line, row, hline, _, hrow, inventorySources_ne_blank hknown, hknown, rfl⟩

lemma mem_entrySources {entries : List LabelEntry} {source : String} :
    source ∈ entrySources entries ↔ ∃ entry ∈ entries, entry.source = source := by
  rw [entrySources, mem_sortedOn, List.mem_dedup, List.mem_map]

lemma entrySources_nodup (entries : List LabelEntry) : (entrySources entries).Nodup :=
  (sortedOn_perm id _).nodup_iff.2 (List.nodup_dedup _)

/-- A list without duplicates has one element exactly when all its elements are this one. -/
lemma eq_singleton_iff {xs : List String} (hnd : xs.Nodup) {x : String} :
    xs = [x] ↔ x ∈ xs ∧ ∀ y ∈ xs, y = x := by
  constructor
  · rintro rfl
    exact ⟨List.mem_cons_self, fun y hy => List.mem_singleton.1 hy⟩
  · rintro ⟨hmem, hall⟩
    cases xs with
    | nil => cases hmem
    | cons first rest =>
        have hfirst := hall first List.mem_cons_self
        cases rest with
        | nil => rw [hfirst]
        | cons second rest =>
            have hsecond := hall second (List.mem_cons_of_mem _ List.mem_cons_self)
            rw [hfirst, hsecond] at hnd
            exact absurd List.mem_cons_self (List.nodup_cons.1 hnd).1

lemma groupOutcome_eq_inr {group : (String × String) × List LabelEntry} {rule : SourceLabelRule} :
    groupOutcome repr group = .inr rule ↔
      group.1 = (rule.incomingCaptureScope, rule.pathPrefix) ∧
        entrySources group.2 = [rule.source] := by
  unfold groupOutcome
  split
  · rename_i source hsource
    rw [hsource, Sum.inr.injEq]
    constructor
    · rintro rfl
      exact ⟨rfl, rfl⟩
    · rintro ⟨hkey, hsources⟩
      rw [hkey, (List.cons.inj hsources).1]
  · rename_i hnot
    exact iff_of_false (fun h => by cases h) (fun h => hnot _ h.2)

lemma groupOutcome_eq_inl {group : (String × String) × List LabelEntry} {scope pathPrefix : String} :
    (∃ issue, groupOutcome repr group = .inl issue ∧ issue.incomingCaptureScope = scope ∧
        issue.matchingPrefix = pathPrefix) ↔
      group.1 = (scope, pathPrefix) ∧ ∀ source, entrySources group.2 ≠ [source] := by
  unfold groupOutcome
  split
  · rename_i source hsource
    refine iff_of_false (fun ⟨_, h, _⟩ => by cases h) (fun h => h.2 source hsource)
  · rename_i hnot
    constructor
    · rintro ⟨issue, h, rfl, rfl⟩
      cases h
      exact ⟨rfl, hnot⟩
    · rintro ⟨hkey, _⟩
      exact ⟨_, rfl, congrArg Prod.fst hkey, congrArg Prod.snd hkey⟩

/-- The groups of a map are the scopes and prefixes that have rows with known sources. -/
lemma mem_groups {rows : List (Dict String String)} {scope pathPrefix : String}
    {entries : List LabelEntry} :
    ((scope, pathPrefix), entries) ∈
        (groupedEntries (mapReadings repr (inventorySources inventoryRows) rows)).entries →
      (∃ source, source ∈ entrySources entries) ∧
        ∀ source, source ∈ entrySources entries ↔
          (⟨scope, pathPrefix, source⟩ : LabelRow) ∈ rows.filterMap (labelRow? repr) ∧
            source ∈ inventorySources inventoryRows := by
  intro h
  rcases Dict.mem_entries_group h with ⟨hne, hentries⟩
  have hmem : ∀ source, source ∈ entrySources entries ↔
      (⟨scope, pathPrefix, source⟩ : LabelRow) ∈ rows.filterMap (labelRow? repr) ∧
        source ∈ inventorySources inventoryRows := by
    intro source
    rw [mem_entrySources, ← mem_readEntries, hentries]
    simp only [List.mem_filter, List.mem_filterMap, decide_eq_true_eq, Prod.mk.injEq]
    constructor
    · rintro ⟨entry, ⟨⟨reading, hreading, hread⟩, rfl, rfl⟩, rfl⟩
      cases reading with
      | issue issue => cases hread
      | entry other =>
          cases hread
          exact ⟨entry.line, hreading⟩
    · rintro ⟨line, hline⟩
      exact ⟨_, ⟨⟨_, hline, rfl⟩, rfl, rfl⟩, rfl⟩
  refine ⟨?_, hmem⟩
  rcases List.exists_mem_of_ne_nil _ hne with ⟨entry, hentry⟩
  exact ⟨entry.source, mem_entrySources.2 ⟨entry, hentry, rfl⟩⟩

lemma exists_group {rows : List (Dict String String)} {scope pathPrefix source : String}
    (hrow : (⟨scope, pathPrefix, source⟩ : LabelRow) ∈ rows.filterMap (labelRow? repr))
    (hknown : source ∈ inventorySources inventoryRows) :
    ∃ entries, ((scope, pathPrefix), entries) ∈
      (groupedEntries (mapReadings repr (inventorySources inventoryRows) rows)).entries := by
  rcases mem_readEntries.2 ⟨hrow, hknown⟩ with ⟨line, hline⟩
  refine ⟨_, Dict.mem_entries_group_iff.2 ⟨?_, rfl⟩⟩
  refine List.ne_nil_of_mem (List.mem_filter.2 ⟨List.mem_filterMap.2 ⟨_, hline, rfl⟩, ?_⟩)
  exact decide_eq_true rfl

lemma mem_sortedReverse {α κ : Type} [LinearOrder κ] {key : α → κ} {xs : List α} {a : α} :
    a ∈ sortedReverse key xs ↔ a ∈ xs := by
  rw [sortedReverse, List.mem_reverse, mem_sortedOn, List.mem_reverse]

/-- The rules are the scopes and prefixes whose known sources are one. -/
theorem mem_rules {rule : SourceLabelRule} :
    rule ∈ (loadSourceLabelContext repr mapRows inventoryRows).rules ↔
      SoleSource (inventorySources inventoryRows) (labelRows repr mapRows)
        rule.incomingCaptureScope rule.pathPrefix rule.source := by
  cases mapRows with
  | none =>
      refine iff_of_false (fun h => by cases h) ?_
      rintro ⟨⟨row, hrow, _⟩, _⟩
      cases hrow
  | some rows =>
      have hrules : rule ∈ (loadSourceLabelContext repr (some rows) inventoryRows).rules ↔
          ∃ group ∈ (groupedEntries
              (mapReadings repr (inventorySources inventoryRows) rows)).entries,
            groupOutcome repr group = .inr rule := by
        rw [loadSourceLabelContext]
        simp only [mem_sortedReverse, List.mem_filterMap, List.mem_map]
        constructor
        · rintro ⟨_, ⟨group, hgroup, rfl⟩, hright⟩
          exact ⟨group, hgroup, Sum.getRight?_eq_some_iff.1 hright⟩
        · rintro ⟨group, hgroup, hright⟩
          exact ⟨_, ⟨group, hgroup, rfl⟩, Sum.getRight?_eq_some_iff.2 hright⟩
      have hlabels : labelRows repr (some rows) = rows.filterMap (labelRow? repr) := rfl
      rw [hrules, hlabels]
      constructor
      · rintro ⟨⟨key, entries⟩, hgroup, houtcome⟩
        rcases groupOutcome_eq_inr.1 houtcome with ⟨rfl, hsources⟩
        have hmem := (mem_groups hgroup).2
        have hsole := (eq_singleton_iff (entrySources_nodup entries)).1 hsources
        rcases (hmem rule.source).1 hsole.1 with ⟨hrow, hknown⟩
        refine ⟨⟨_, hrow, rfl, rfl, rfl, hknown⟩, ?_⟩
        rintro ⟨scope, pathPrefix, source⟩ hother rfl rfl hsource
        exact hsole.2 source ((hmem source).2 ⟨hother, hsource⟩)
      · rintro ⟨⟨⟨scope, pathPrefix, source⟩, hrow, rfl, rfl, rfl, hknown⟩, hall⟩
        rcases exists_group hrow hknown with ⟨entries, hgroup⟩
        refine ⟨_, hgroup, groupOutcome_eq_inr.2 ⟨rfl, ?_⟩⟩
        have hmem := (mem_groups hgroup).2
        refine (eq_singleton_iff (entrySources_nodup entries)).2
          ⟨(hmem _).2 ⟨hrow, hknown⟩, fun other hother => ?_⟩
        rcases (hmem other).1 hother with ⟨hother, hotherKnown⟩
        exact hall _ hother rfl rfl hotherKnown

/-- The issues that can match a route are those of the contested scopes and prefixes. -/
theorem exists_issue {scope pathPrefix : String} (hne : pathPrefix ≠ "") :
    (∃ issue ∈ (loadSourceLabelContext repr mapRows inventoryRows).issues,
        issue.incomingCaptureScope = scope ∧ issue.matchingPrefix = pathPrefix) ↔
      Contested (inventorySources inventoryRows) (labelRows repr mapRows) scope pathPrefix := by
  cases mapRows with
  | none =>
      refine iff_of_false (fun ⟨_, h, _⟩ => by cases h) ?_
      rintro ⟨row, hrow, _⟩
      cases hrow
  | some rows =>
      have hissues : ∀ issue,
          issue ∈ (loadSourceLabelContext repr (some rows) inventoryRows).issues ↔
            RowReading.issue issue ∈ mapReadings repr (inventorySources inventoryRows) rows ∨
              ∃ group ∈ (groupedEntries
                  (mapReadings repr (inventorySources inventoryRows) rows)).entries,
                groupOutcome repr group = .inl issue := by
        intro issue
        rw [loadSourceLabelContext]
        simp only [mem_sortedOn, List.mem_append, List.mem_filterMap, List.mem_map]
        refine or_congr ?_ ?_
        · constructor
          · rintro ⟨reading, hreading, hread⟩
            cases reading with
            | issue other =>
                cases hread
                exact hreading
            | entry entry => cases hread
          · exact fun h => ⟨_, h, rfl⟩
        · constructor
          · rintro ⟨_, ⟨group, hgroup, rfl⟩, hleft⟩
            exact ⟨group, hgroup, Sum.getLeft?_eq_some_iff.1 hleft⟩
          · rintro ⟨group, hgroup, hleft⟩
            exact ⟨_, ⟨group, hgroup, rfl⟩, Sum.getLeft?_eq_some_iff.2 hleft⟩
      have hlabels : labelRows repr (some rows) = rows.filterMap (labelRow? repr) := rfl
      simp only [hissues, hlabels]
      constructor
      · rintro ⟨issue, hreading | ⟨⟨key, entries⟩, hgroup, houtcome⟩, hscope, hpath⟩
        · rcases mem_mapReadings.1 hreading with ⟨line, row, hmem, hread⟩
          rcases (readMapRow_eq_issue hne).1 ⟨issue, hread, hscope, hpath⟩ with
            ⟨r, hr, hunknown, rfl, rfl⟩
          refine ⟨r, List.mem_filterMap.2 ⟨row, List.fst_mem_of_mem_zipIdx hmem, hr⟩, rfl, rfl,
            Or.inl ?_⟩
          rcases hunknown with hblank | hunknown
          · exact fun h => inventorySources_ne_blank h hblank
          · exact hunknown
        · rcases groupOutcome_eq_inl.1 ⟨issue, houtcome, hscope, hpath⟩ with ⟨rfl, hmany⟩
          rcases mem_groups hgroup with ⟨⟨source, hsource⟩, hmem⟩
          have hother : ∃ other ∈ entrySources entries, other ≠ source := by
            by_contra hall
            refine hmany source ((eq_singleton_iff (entrySources_nodup entries)).2 ⟨hsource, ?_⟩)
            exact fun other hother => by_contra fun hne' => hall ⟨other, hother, hne'⟩
          rcases hother with ⟨other, hother, hdiffer⟩
          rcases (hmem source).1 hsource with ⟨hrow, hknown⟩
          rcases (hmem other).1 hother with ⟨hotherRow, _⟩
          exact ⟨_, hotherRow, rfl, rfl, Or.inr ⟨_, hrow, rfl, rfl, hknown, hdiffer⟩⟩
      · rintro ⟨⟨rowScope, rowPrefix, source⟩, hrow, rfl, rfl, hcontested⟩
        by_cases hknown : source ∈ inventorySources inventoryRows
        · rcases hcontested with hunknown | ⟨⟨_, _, other⟩, hother, rfl, rfl, hotherKnown, hdiffer⟩
          · exact absurd hknown hunknown
          · rcases exists_group hrow hknown with ⟨entries, hgroup⟩
            have hmem := (mem_groups hgroup).2
            have hmany : ∀ single, entrySources entries ≠ [single] := by
              intro single hsingle
              have hall := ((eq_singleton_iff (entrySources_nodup entries)).1 hsingle).2
              exact hdiffer ((hall _ ((hmem _).2 ⟨hrow, hknown⟩)).trans
                (hall _ ((hmem _).2 ⟨hother, hotherKnown⟩)).symm)
            rcases (@groupOutcome_eq_inl repr (_, entries) _ _).2 ⟨rfl, hmany⟩ with
              ⟨issue, houtcome, hscope, hpath⟩
            exact ⟨issue, Or.inr ⟨_, hgroup, houtcome⟩, hscope, hpath⟩
        · rcases List.mem_filterMap.1 hrow with ⟨row, hmem, hr⟩
          rcases exists_line hmem with ⟨line, hline⟩
          rcases (readMapRow_eq_issue hne).2 ⟨_, hr, Or.inr hknown, rfl, rfl⟩ with
            ⟨issue, hissue, hscope, hpath⟩
          exact ⟨issue, Or.inl (mem_mapReadings.2 ⟨line, row, hline, hissue⟩), hscope, hpath⟩

end Context

/-! ## The matches of the highest order -/

section Sorting

variable {α κ : Type} [LinearOrder κ] {key : α → κ} {xs : List α}

lemma pairwise_sortedReverse (key : α → κ) (xs : List α) :
    (sortedReverse key xs).Pairwise (fun a b => key b ≤ key a) :=
  List.pairwise_reverse.2 (pairwise_sortedOn key _)

lemma head?_sortedReverse {a : α} (h : (sortedReverse key xs).head? = some a) :
    a ∈ xs ∧ ∀ b ∈ xs, key b ≤ key a := by
  have hmem : a ∈ sortedReverse key xs := List.mem_of_head? h
  refine ⟨mem_sortedReverse.1 hmem, fun b hb => ?_⟩
  have hsorted := pairwise_sortedReverse key xs
  have hb : b ∈ sortedReverse key xs := mem_sortedReverse.2 hb
  cases hlist : sortedReverse key xs with
  | nil =>
      rw [hlist] at hb
      cases hb
  | cons first rest =>
      rw [hlist] at h hb hsorted
      have hfirst : first = a := Option.some.inj h
      rcases List.mem_cons.1 hb with rfl | hb
      · rw [hfirst]
      · exact hfirst ▸ (List.pairwise_cons.1 hsorted).1 b hb

lemma find?_sortedReverse {p : α → Bool} {a : α} (h : (sortedReverse key xs).find? p = some a) :
    a ∈ xs ∧ p a = true ∧ ∀ b ∈ xs, p b = true → key b ≤ key a := by
  rcases List.find?_eq_some_iff_append.1 h with ⟨hp, before, after, hlist, hbefore⟩
  have hsorted := pairwise_sortedReverse key xs
  have hmem : a ∈ sortedReverse key xs := List.mem_of_find?_eq_some h
  refine ⟨mem_sortedReverse.1 hmem, hp, fun b hb hpb => ?_⟩
  have hb : b ∈ sortedReverse key xs := mem_sortedReverse.2 hb
  rw [hlist] at hb hsorted
  rcases List.mem_append.1 hb with hb | hb
  · have hnot := hbefore b hb
    rw [hpb] at hnot
    cases hnot
  · rcases List.mem_cons.1 hb with rfl | hb
    · exact le_rfl
    · exact (List.pairwise_cons.1 (List.pairwise_append.1 hsorted).2.1).1 b hb

end Sorting

/-- A scope and a prefix that match a route. -/
def MatchesRoute (request : SourceLabelResolutionRequest) (scope pathPrefix : String) : Prop :=
  scopeMatches scope request.incomingCaptureScope = true ∧
    prefixMatches pathPrefix request.routeKey = true

/-- Of the scopes and prefixes with a property, the one of the highest order. -/
structure Top (P : String → String → Prop) (scope pathPrefix : String) : Prop where
  holds : P scope pathPrefix
  most : ∀ scope' pathPrefix', P scope' pathPrefix' →
    labelOrder scope' pathPrefix' ≤ labelOrder scope pathPrefix

lemma labelOrder_inj {scope scope' pathPrefix pathPrefix' : String}
    (h : labelOrder scope pathPrefix = labelOrder scope' pathPrefix') :
    scope = scope' ∧ pathPrefix = pathPrefix' := by
  simp only [labelOrder, EmbeddingLike.apply_eq_iff_eq, Prod.mk.injEq] at h
  exact ⟨h.2.2.1, h.2.2.2⟩

lemma Top.unique {P : String → String → Prop} {scope scope' pathPrefix pathPrefix' : String}
    (h : Top P scope pathPrefix) (h' : Top P scope' pathPrefix') :
    scope = scope' ∧ pathPrefix = pathPrefix' :=
  labelOrder_inj (le_antisymm (h'.most _ _ h.holds) (h.most _ _ h'.holds))

lemma rulePriority_le_of_labelOrder {scope scope' pathPrefix pathPrefix' : String}
    (h : labelOrder scope pathPrefix ≤ labelOrder scope' pathPrefix') :
    rulePriority scope pathPrefix ≤ rulePriority scope' pathPrefix' := by
  rw [labelOrder, labelOrder, Prod.Lex.toLex_le_toLex] at h
  rw [rulePriority, rulePriority, Prod.Lex.toLex_le_toLex]
  refine h.imp id (fun ⟨hscope, hle⟩ => ⟨hscope, ?_⟩)
  rw [Prod.Lex.toLex_le_toLex] at hle
  rcases hle with hlt | ⟨heq, _⟩
  · exact hlt.le
  · exact heq.le

section Resolution

variable (repr : String → String) (mapRows inventoryRows : Option (List (Dict String String)))
  (request : SourceLabelResolutionRequest)

/-- A matching scope and prefix with an issue. -/
def RouteIssue (scope pathPrefix : String) : Prop :=
  pathPrefix ≠ "" ∧ MatchesRoute request scope pathPrefix ∧
    Contested (inventorySources inventoryRows) (labelRows repr mapRows) scope pathPrefix

/-- A matching scope and prefix with a rule. -/
def RouteRule (scope pathPrefix : String) : Prop :=
  MatchesRoute request scope pathPrefix ∧ ∃ source,
    SoleSource (inventorySources inventoryRows) (labelRows repr mapRows) scope pathPrefix source

variable {repr mapRows inventoryRows request}

lemma matchingIssue_spec :
    match matchingIssue (loadSourceLabelContext repr mapRows inventoryRows).issues
        request.incomingCaptureScope request.routeKey with
    | none => ∀ scope pathPrefix, ¬RouteIssue repr mapRows inventoryRows request scope pathPrefix
    | some issue => Top (RouteIssue repr mapRows inventoryRows request)
        issue.incomingCaptureScope issue.matchingPrefix := by
  have hroute : ∀ scope pathPrefix, RouteIssue repr mapRows inventoryRows request scope pathPrefix →
      ∃ issue ∈ (loadSourceLabelContext repr mapRows inventoryRows).issues.filter (fun issue =>
        issue.matchingPrefix ≠ "" ∧
          scopeMatches issue.incomingCaptureScope request.incomingCaptureScope = true ∧
            prefixMatches issue.matchingPrefix request.routeKey = true),
        issue.incomingCaptureScope = scope ∧ issue.matchingPrefix = pathPrefix := by
    rintro scope pathPrefix ⟨hne, ⟨hscope, hpath⟩, hcontested⟩
    rcases (exists_issue hne).2 hcontested with ⟨issue, hissue, rfl, rfl⟩
    exact ⟨issue, List.mem_filter.2 ⟨hissue, decide_eq_true ⟨hne, hscope, hpath⟩⟩, rfl, rfl⟩
  cases hmatching : matchingIssue (loadSourceLabelContext repr mapRows inventoryRows).issues
      request.incomingCaptureScope request.routeKey with
  | none =>
      intro scope pathPrefix hissue
      rcases hroute scope pathPrefix hissue with ⟨issue, hmem, _⟩
      rw [matchingIssue, List.head?_eq_none_iff] at hmatching
      have hsorted := (@mem_sortedReverse _ _ _ (fun issue : SourceLabelConfigIssue =>
        labelOrder issue.incomingCaptureScope issue.matchingPrefix) _ issue).2 hmem
      rw [hmatching] at hsorted
      cases hsorted
  | some issue =>
      rcases head?_sortedReverse hmatching with ⟨hmem, hmost⟩
      rcases List.mem_filter.1 hmem with ⟨hissue, hmatches⟩
      rcases of_decide_eq_true hmatches with ⟨hne, hscope, hpath⟩
      refine ⟨⟨hne, ⟨hscope, hpath⟩, (exists_issue hne).1 ⟨issue, hissue, rfl, rfl⟩⟩, ?_⟩
      intro scope pathPrefix hother
      rcases hroute scope pathPrefix hother with ⟨other, hotherMem, rfl, rfl⟩
      exact hmost other hotherMem

lemma matchingRule_spec :
    match matchingRule (loadSourceLabelContext repr mapRows inventoryRows).rules
        request.incomingCaptureScope request.routeKey with
    | none => ∀ scope pathPrefix, ¬RouteRule repr mapRows inventoryRows request scope pathPrefix
    | some rule => Top (RouteRule repr mapRows inventoryRows request)
        rule.incomingCaptureScope rule.pathPrefix ∧
          SoleSource (inventorySources inventoryRows) (labelRows repr mapRows)
            rule.incomingCaptureScope rule.pathPrefix rule.source := by
  have hroute : ∀ scope pathPrefix, RouteRule repr mapRows inventoryRows request scope pathPrefix →
      ∃ rule ∈ (loadSourceLabelContext repr mapRows inventoryRows).rules,
        (scopeMatches rule.incomingCaptureScope request.incomingCaptureScope &&
          prefixMatches rule.pathPrefix request.routeKey) = true ∧
            rule.incomingCaptureScope = scope ∧ rule.pathPrefix = pathPrefix := by
    rintro scope pathPrefix ⟨⟨hscope, hpath⟩, source, hsole⟩
    refine ⟨⟨scope, pathPrefix, source⟩, mem_rules.2 hsole, ?_, rfl, rfl⟩
    rw [hscope, hpath]
    rfl
  cases hmatching : matchingRule (loadSourceLabelContext repr mapRows inventoryRows).rules
      request.incomingCaptureScope request.routeKey with
  | none =>
      intro scope pathPrefix hrule
      rcases hroute scope pathPrefix hrule with ⟨rule, hmem, hmatches, _⟩
      exact List.find?_eq_none.1 hmatching rule hmem hmatches
  | some rule =>
      have hsorted : ∃ xs, (loadSourceLabelContext repr mapRows inventoryRows).rules =
          sortedReverse (fun rule => labelOrder rule.incomingCaptureScope rule.pathPrefix) xs := by
        cases mapRows with
        | none => exact ⟨[], rfl⟩
        | some rows => exact ⟨_, rfl⟩
      rcases hsorted with ⟨xs, hxs⟩
      rw [matchingRule, hxs] at hmatching
      rcases find?_sortedReverse hmatching with ⟨hmem, hmatches, hmost⟩
      have hsole := mem_rules.1 (hxs ▸ mem_sortedReverse.2 hmem)
      rw [Bool.and_eq_true] at hmatches
      refine ⟨⟨⟨hmatches, _, hsole⟩, ?_⟩, hsole⟩
      intro scope pathPrefix hother
      rcases hroute scope pathPrefix hother with ⟨other, hotherMem, hotherMatches, rfl, rfl⟩
      rw [hxs] at hotherMem
      exact hmost other (mem_sortedReverse.1 hotherMem) hotherMatches

/-- The source folder where no entry of the map matches. -/
def unmappedFolder (request : SourceLabelResolutionRequest) : String :=
  if shouldPreserveIncomingSourceScope request = true then request.incomingSourceFolder
  else (inventoryOrRoutedResolution request.sourceFolder request.inventoryRoute).sourceFolder

lemma blocked_inventoryOrRouted (sourceFolder : String) (route : InventoryRouteDecision) :
    (inventoryOrRoutedResolution sourceFolder route).blocked = false := by
  unfold inventoryOrRoutedResolution
  dsimp only
  split_ifs <;> rfl

/-- What decides a request whose destination is scoped by a source. -/
inductive Resolves (repr : String → String)
    (mapRows inventoryRows : Option (List (Dict String String)))
    (request : SourceLabelResolutionRequest) : Bool → String → Prop
  | blocked {scope pathPrefix : String}
      (htop : Top (RouteIssue repr mapRows inventoryRows request) scope pathPrefix)
      (hrules : ∀ scope' pathPrefix', RouteRule repr mapRows inventoryRows request scope' pathPrefix' →
        rulePriority scope' pathPrefix' ≤ rulePriority scope pathPrefix) :
      Resolves repr mapRows inventoryRows request true request.sourceFolder
  | mapped {scope pathPrefix source : String}
      (htop : Top (RouteRule repr mapRows inventoryRows request) scope pathPrefix)
      (hsole : SoleSource (inventorySources inventoryRows) (labelRows repr mapRows) scope
        pathPrefix source)
      (hissues : ∀ scope' pathPrefix',
        RouteIssue repr mapRows inventoryRows request scope' pathPrefix' →
          ¬rulePriority scope pathPrefix ≤ rulePriority scope' pathPrefix') :
      Resolves repr mapRows inventoryRows request false source
  | unmapped
      (hissues : ∀ scope pathPrefix,
        ¬RouteIssue repr mapRows inventoryRows request scope pathPrefix)
      (hrules : ∀ scope pathPrefix,
        ¬RouteRule repr mapRows inventoryRows request scope pathPrefix) :
      Resolves repr mapRows inventoryRows request false (unmappedFolder request)

/-- The resolution is what decides the request. -/
theorem resolves_of_scoped (hscoped : request.sourceScoped = true) :
    Resolves repr mapRows inventoryRows request
      (resolveSourceLabel repr (loadSourceLabelContext repr mapRows inventoryRows) request).blocked
      (resolveSourceLabel repr (loadSourceLabelContext repr mapRows inventoryRows)
        request).sourceFolder := by
  have hissue := @matchingIssue_spec repr mapRows inventoryRows request
  have hrule := @matchingRule_spec repr mapRows inventoryRows request
  rw [resolveSourceLabel, if_neg (by rw [hscoped]; decide)]
  dsimp only
  cases hmatchingRule : matchingRule (loadSourceLabelContext repr mapRows inventoryRows).rules
      request.incomingCaptureScope request.routeKey with
  | none =>
      rw [hmatchingRule] at hrule
      cases hmatchingIssue : matchingIssue
          (loadSourceLabelContext repr mapRows inventoryRows).issues
            request.incomingCaptureScope request.routeKey with
      | none =>
          rw [hmatchingIssue] at hissue
          dsimp only
          have hunmapped := Resolves.unmapped hissue hrule
          unfold unmappedFolder at hunmapped
          split_ifs at hunmapped ⊢ with hpreserve
          · exact hunmapped
          · rw [blocked_inventoryOrRouted]
            exact hunmapped
      | some issue =>
          rw [hmatchingIssue] at hissue
          dsimp only
          rw [if_pos (fun _ h => by cases h)]
          exact .blocked hissue (fun scope pathPrefix h => absurd h (hrule scope pathPrefix))
  | some rule =>
      rw [hmatchingRule] at hrule
      cases hmatchingIssue : matchingIssue
          (loadSourceLabelContext repr mapRows inventoryRows).issues
            request.incomingCaptureScope request.routeKey with
      | none =>
          rw [hmatchingIssue] at hissue
          exact .mapped hrule.1 hrule.2
            (fun scope pathPrefix h => absurd h (hissue scope pathPrefix))
      | some issue =>
          rw [hmatchingIssue] at hissue
          dsimp only
          split_ifs with hpriority
          · refine .blocked hissue (fun scope pathPrefix h => ?_)
            exact (rulePriority_le_of_labelOrder (hrule.1.most _ _ h)).trans (hpriority rule rfl)
          · refine .mapped hrule.1 hrule.2 (fun scope pathPrefix h hle => hpriority ?_)
            intro other hother
            cases hother
            exact hle.trans (rulePriority_le_of_labelOrder (hissue.most _ _ h))

end Resolution

/-! ## Specificity -/

/-- A scope before none, then the longer prefix, with `.` below every other prefix. -/
def specificity (scope pathPrefix : String) : Nat ×ₗ Nat :=
  toLex (if scope ≠ "" then 1 else 0, if pathPrefix = "." then 0 else pathPrefix.length)

/-- A matching row of the map whose scope and prefix no matching row exceeds. -/
structure Decides (rows : List LabelRow) (request : SourceLabelResolutionRequest)
    (row : LabelRow) : Prop where
  mem : row ∈ rows
  route : MatchesRoute request row.scope row.pathPrefix
  most : ∀ other ∈ rows, MatchesRoute request other.scope other.pathPrefix →
    specificity other.scope other.pathPrefix ≤ specificity row.scope row.pathPrefix

lemma one_le_length {text : String} (h : text ≠ "") : 1 ≤ text.length := by
  rw [Nat.one_le_iff_ne_zero, ← String.length_toList]
  exact fun hzero => h (String.toList_inj.1 (List.length_eq_zero_iff.1 hzero))

lemma dot_length : ".".length = 1 := rfl

/-- More specific scopes and prefixes have no lower priority. -/
lemma rulePriority_le {scope scope' pathPrefix pathPrefix' : String}
    (h : specificity scope pathPrefix ≤ specificity scope' pathPrefix') (hne : pathPrefix ≠ "")
    (hne' : pathPrefix' ≠ "") : rulePriority scope pathPrefix ≤ rulePriority scope' pathPrefix' := by
  have hlength := one_le_length hne
  have hlength' := one_le_length hne'
  rw [specificity, specificity, Prod.Lex.toLex_le_toLex] at h
  rw [rulePriority, rulePriority, Prod.Lex.toLex_le_toLex]
  refine h.imp id (fun ⟨hscope, hle⟩ => ⟨hscope, ?_⟩)
  by_cases hdot : pathPrefix = "."
  · rw [hdot, dot_length]
    exact hlength'
  · dsimp only at hle
    rw [if_neg hdot] at hle
    split_ifs at hle
    · omega
    · exact hle

lemma rulePriority_eq {scope scope' pathPrefix pathPrefix' : String}
    (h : rulePriority scope pathPrefix = rulePriority scope' pathPrefix') :
    (scope = "" ↔ scope' = "") ∧ pathPrefix.length = pathPrefix'.length := by
  simp only [rulePriority, EmbeddingLike.apply_eq_iff_eq, Prod.mk.injEq] at h
  refine ⟨?_, h.2⟩
  have hflag := h.1
  by_cases hscope : scope = "" <;> by_cases hscope' : scope' = "" <;> simp_all

section Routes

variable {request : SourceLabelResolutionRequest} {scope scope' pathPrefix pathPrefix' : String}

lemma toList_prefix_of_matches {routeKey : String} (h : prefixMatches pathPrefix routeKey = true)
    (hdot : pathPrefix ≠ ".") : pathPrefix.toList <+: routeKey.toList := by
  rw [prefixMatches, if_neg hdot] at h
  split_ifs at h with hsame hstart
  · rw [hsame]
  · rw [Bool.not_eq_false] at hstart
    exact List.isPrefixOf_iff_prefix.1 hstart

/-- Matching prefixes of one length are one, unless one of them is `.`. -/
lemma pathPrefix_eq (h : MatchesRoute request scope pathPrefix)
    (h' : MatchesRoute request scope' pathPrefix') (hdot : pathPrefix ≠ ".")
    (hdot' : pathPrefix' ≠ ".") (hlength : pathPrefix.length = pathPrefix'.length) :
    pathPrefix = pathPrefix' := by
  have hpath := toList_prefix_of_matches h.2 hdot
  have hpath' := toList_prefix_of_matches h'.2 hdot'
  rw [← String.length_toList, ← String.length_toList] at hlength
  have hsub := List.prefix_of_prefix_length_le hpath hpath' hlength.le
  exact String.toList_inj.1 (hsub.eq_of_length hlength)

lemma scope_eq (h : MatchesRoute request scope pathPrefix)
    (h' : MatchesRoute request scope' pathPrefix') (hflag : scope = "" ↔ scope' = "") :
    scope = scope' := by
  by_cases hscope : scope = ""
  · rw [hscope, hflag.1 hscope]
  · have hmatch := (of_decide_eq_true h.1).resolve_left hscope
    have hmatch' := (of_decide_eq_true h'.1).resolve_left (fun hblank => hscope (hflag.2 hblank))
    rw [hmatch, hmatch']

/-- Of the scopes and prefixes that are no more specific, those of the same priority are the same one,
or the `.` of the same scope beside a prefix of one character. -/
lemma same_or_dot (h : MatchesRoute request scope pathPrefix)
    (h' : MatchesRoute request scope' pathPrefix') (hne : pathPrefix ≠ "")
    (hle : specificity scope pathPrefix ≤ specificity scope' pathPrefix')
    (hpriority : rulePriority scope pathPrefix = rulePriority scope' pathPrefix') :
    scope = scope' ∧ (pathPrefix = pathPrefix' ∨
      pathPrefix = "." ∧ pathPrefix' ≠ "." ∧ pathPrefix'.length = 1) := by
  rcases rulePriority_eq hpriority with ⟨hflag, hlength⟩
  refine ⟨scope_eq h h' hflag, ?_⟩
  by_cases hdot : pathPrefix = "."
  · by_cases hdot' : pathPrefix' = "."
    · exact Or.inl (hdot.trans hdot'.symm)
    · rw [hdot, dot_length] at hlength
      exact Or.inr ⟨hdot, hdot', hlength.symm⟩
  · refine Or.inl (pathPrefix_eq h h' hdot (fun hdot' => ?_) hlength)
    -- `.` is below the other prefix.
    have hlong := one_le_length hne
    rw [specificity, specificity, Prod.Lex.toLex_le_toLex] at hle
    simp only [hdot, hdot', if_true, if_false] at hle
    rcases hle with hlt | ⟨_, hle⟩
    · by_cases hscope : scope = ""
      · have hscope' := hflag.1 hscope
        simp [hscope, hscope'] at hlt
      · have hscope' : ¬scope' = "" := fun hblank => hscope (hflag.2 hblank)
        simp [hscope, hscope'] at hlt
    · omega

end Routes

/-! ## The resolution is that of the most specific entry -/

lemma SoleSource.unique {known : List String} {rows : List LabelRow}
    {scope pathPrefix source source' : String} (h : SoleSource known rows scope pathPrefix source)
    (h' : SoleSource known rows scope pathPrefix source') : source = source' := by
  rcases h.1 with ⟨row, hmem, hscope, hpath, rfl, hknown⟩
  exact h'.2 row hmem hscope hpath hknown

lemma soleSource_of_not_contested {known : List String} {rows : List LabelRow} {row : LabelRow}
    (hmem : row ∈ rows) (h : ¬Contested known rows row.scope row.pathPrefix) :
    SoleSource known rows row.scope row.pathPrefix row.source := by
  have hknown : row.source ∈ known :=
    by_contra (fun hunknown => h ⟨row, hmem, rfl, rfl, Or.inl hunknown⟩)
  refine ⟨⟨row, hmem, rfl, rfl, rfl, hknown⟩, fun other hother hscope hpath hotherKnown => ?_⟩
  by_contra hdiffer
  exact h ⟨other, hother, hscope, hpath, Or.inr ⟨row, hmem, rfl, rfl, hknown, hdiffer⟩⟩

section Decision

variable {repr : String → String} {mapRows mapRows' inventoryRows : Option (List (Dict String String))}
  {request : SourceLabelResolutionRequest} {blocked blocked' : Bool}
  {sourceFolder sourceFolder' : String} {row : LabelRow}

lemma labelRows_ne_blank (h : row ∈ labelRows repr mapRows) : row.pathPrefix ≠ "" := by
  rcases List.mem_filterMap.1 h with ⟨cells, _, hrow⟩
  exact pathPrefix_ne_blank hrow

/-- What decides a request is determined by the request. -/
lemma Resolves.unique
    (h : Resolves repr mapRows inventoryRows request blocked sourceFolder)
    (h' : Resolves repr mapRows inventoryRows request blocked' sourceFolder') :
    blocked = blocked' ∧ sourceFolder = sourceFolder' := by
  cases h with
  | blocked htop hrules =>
      cases h' with
      | blocked _ _ => exact ⟨rfl, rfl⟩
      | mapped htop' _ hissues => exact absurd (hrules _ _ htop'.holds) (hissues _ _ htop.holds)
      | unmapped hissues _ => exact absurd htop.holds (hissues _ _)
  | mapped htop hsole hissues =>
      cases h' with
      | blocked htop' hrules => exact absurd (hrules _ _ htop.holds) (hissues _ _ htop'.holds)
      | mapped htop' hsole' _ =>
          rcases htop.unique htop' with ⟨rfl, rfl⟩
          exact ⟨rfl, hsole.unique hsole'⟩
      | unmapped _ hrules => exact absurd htop.holds (hrules _ _)
  | unmapped hissues hrules =>
      cases h' with
      | blocked htop' _ => exact absurd htop'.holds (hissues _ _)
      | mapped htop' _ _ => exact absurd htop'.holds (hrules _ _)
      | unmapped _ _ => exact ⟨rfl, rfl⟩

/-- Only which rows a map has matters, not their order. -/
lemma Resolves.congr
    (hrows : ∀ row, row ∈ labelRows repr mapRows ↔ row ∈ labelRows repr mapRows')
    (h : Resolves repr mapRows inventoryRows request blocked sourceFolder) :
    Resolves repr mapRows' inventoryRows request blocked sourceFolder := by
  have hissue : RouteIssue repr mapRows inventoryRows request =
      RouteIssue repr mapRows' inventoryRows request := by
    funext scope pathPrefix
    simp only [RouteIssue, Contested, hrows]
  have hsole : SoleSource (inventorySources inventoryRows) (labelRows repr mapRows) =
      SoleSource (inventorySources inventoryRows) (labelRows repr mapRows') := by
    funext scope pathPrefix source
    simp only [SoleSource, hrows]
  have hrule : RouteRule repr mapRows inventoryRows request =
      RouteRule repr mapRows' inventoryRows request := by
    funext scope pathPrefix
    simp only [RouteRule, hsole]
  cases h with
  | blocked htop hrules => exact .blocked (hissue ▸ htop) (hrule ▸ hrules)
  | mapped htop hsource hissues => exact .mapped (hrule ▸ htop) (hsole ▸ hsource) (hissue ▸ hissues)
  | unmapped hissues hrules => exact .unmapped (hissue ▸ hissues) (hrule ▸ hrules)

lemma mem_labelRows_perm {rows rows' : List (Dict String String)} (h : rows'.Perm rows)
    (row : LabelRow) : row ∈ labelRows repr (some rows') ↔ row ∈ labelRows repr (some rows) :=
  (h.filterMap (labelRow? repr)).mem_iff

/-- The resolution of a request under the map and the inventory of a workspace. -/
def resolution (repr : String → String) (mapRows inventoryRows : Option (List (Dict String String)))
    (request : SourceLabelResolutionRequest) : ExplainedResolution :=
  resolveSourceLabel repr (loadSourceLabelContext repr mapRows inventoryRows) request

/-- The most specific matching entry decides, in every order of the rows. -/
structure LabelsRespected (repr : String → String)
    (mapRows inventoryRows : Option (List (Dict String String)))
    (request : SourceLabelResolutionRequest) : Prop where
  blocked : ∀ row, Decides (labelRows repr mapRows) request row →
    ((resolution repr mapRows inventoryRows request).blocked = true ↔
      Contested (inventorySources inventoryRows) (labelRows repr mapRows) row.scope row.pathPrefix)
  source : ∀ row, Decides (labelRows repr mapRows) request row →
    ¬Contested (inventorySources inventoryRows) (labelRows repr mapRows) row.scope row.pathPrefix →
      (resolution repr mapRows inventoryRows request).sourceFolder = row.source
  order : ∀ rows rows', mapRows = some rows → rows'.Perm rows →
    (resolution repr (some rows') inventoryRows request).blocked =
        (resolution repr mapRows inventoryRows request).blocked ∧
      (resolution repr (some rows') inventoryRows request).sourceFolder =
        (resolution repr mapRows inventoryRows request).sourceFolder

/-- An entry that decides with one character is not beside a `.` of the same scope that is contested,
nor beside one with another source if it sorts before `.`. -/
def DotYields (known : List String) (rows : List LabelRow)
    (request : SourceLabelResolutionRequest) : Prop :=
  ∀ row, Decides rows request row → ¬Contested known rows row.scope row.pathPrefix →
    row.pathPrefix ≠ "." → row.pathPrefix.length = 1 →
      ∀ dot ∈ rows, dot.scope = row.scope → dot.pathPrefix = "." →
        ¬Contested known rows dot.scope dot.pathPrefix ∧
          (row.pathPrefix < "." → dot.source = row.source)

/-- The order of the rows never matters. -/
theorem resolution_perm {rows rows' : List (Dict String String)} (h : rows'.Perm rows) :
    (resolution repr (some rows') inventoryRows request).blocked =
        (resolution repr (some rows) inventoryRows request).blocked ∧
      (resolution repr (some rows') inventoryRows request).sourceFolder =
        (resolution repr (some rows) inventoryRows request).sourceFolder := by
  by_cases hscoped : request.sourceScoped = true
  · have hresolves : Resolves repr (some rows') inventoryRows request
        (resolution repr (some rows') inventoryRows request).blocked
        (resolution repr (some rows') inventoryRows request).sourceFolder :=
      resolves_of_scoped hscoped
    exact (hresolves.congr (mem_labelRows_perm h)).unique (resolves_of_scoped hscoped)
  · rw [Bool.not_eq_true] at hscoped
    rw [resolution, resolution, resolveSourceLabel, resolveSourceLabel, if_pos hscoped, if_pos hscoped]
    exact ⟨rfl, rfl⟩

/-! ### Scoped destinations -/

lemma routeRule_of_decides (hrow : Decides (labelRows repr mapRows) request row)
    (hsettled : ¬Contested (inventorySources inventoryRows) (labelRows repr mapRows) row.scope
      row.pathPrefix) :
    RouteRule repr mapRows inventoryRows request row.scope row.pathPrefix :=
  ⟨hrow.route, row.source, soleSource_of_not_contested hrow.mem hsettled⟩

lemma routeIssue_specificity (hrow : Decides (labelRows repr mapRows) request row)
    {scope pathPrefix : String}
    (h : RouteIssue repr mapRows inventoryRows request scope pathPrefix) :
    specificity scope pathPrefix ≤ specificity row.scope row.pathPrefix := by
  rcases h with ⟨_, hroute, other, hother, rfl, rfl, _⟩
  exact hrow.most other hother hroute

lemma routeRule_specificity (hrow : Decides (labelRows repr mapRows) request row)
    {scope pathPrefix : String}
    (h : RouteRule repr mapRows inventoryRows request scope pathPrefix) :
    specificity scope pathPrefix ≤ specificity row.scope row.pathPrefix ∧ pathPrefix ≠ "" := by
  rcases h with ⟨hroute, source, ⟨other, hother, rfl, rfl, _⟩, _⟩
  exact ⟨hrow.most other hother hroute, labelRows_ne_blank hother⟩

/-- A contested entry that decides blocks. -/
lemma Resolves.blocked_of_contested (hrow : Decides (labelRows repr mapRows) request row)
    (hcontested : Contested (inventorySources inventoryRows) (labelRows repr mapRows) row.scope
      row.pathPrefix)
    (h : Resolves repr mapRows inventoryRows request blocked sourceFolder) : blocked = true := by
  have hne := labelRows_ne_blank hrow.mem
  have hissue : RouteIssue repr mapRows inventoryRows request row.scope row.pathPrefix :=
    ⟨hne, hrow.route, hcontested⟩
  cases h with
  | blocked _ _ => rfl
  | mapped htop _ hissues =>
      rcases routeRule_specificity hrow htop.holds with ⟨hle, hruleNe⟩
      exact absurd (rulePriority_le hle hruleNe hne) (hissues _ _ hissue)
  | unmapped hissues _ => exact absurd hissue (hissues _ _)

/-- Where `.` yields, an entry that decides and is not contested gives its source. -/
lemma Resolves.source_of_dotYields (hrow : Decides (labelRows repr mapRows) request row)
    (hsettled : ¬Contested (inventorySources inventoryRows) (labelRows repr mapRows) row.scope
      row.pathPrefix)
    (hdot : DotYields (inventorySources inventoryRows) (labelRows repr mapRows) request)
    (h : Resolves repr mapRows inventoryRows request blocked sourceFolder) :
    blocked = false ∧ sourceFolder = row.source := by
  have hne := labelRows_ne_blank hrow.mem
  have hrule := routeRule_of_decides hrow hsettled
  cases h with
  | @blocked scope pathPrefix htop hrules =>
      -- The issue has the priority of the entry, so it is that of a `.` beside it.
      rcases htop.holds with ⟨hissueNe, hroute, hcontested⟩
      have hle := routeIssue_specificity hrow htop.holds
      have hpriority := le_antisymm (rulePriority_le hle hissueNe hne) (hrules _ _ hrule)
      rcases same_or_dot hroute hrow.route hissueNe hle hpriority with
        ⟨rfl, rfl | ⟨rfl, hnot, hlength⟩⟩
      · exact absurd hcontested hsettled
      · have hcontested' := hcontested
        rcases hcontested with ⟨dot, hmem, hscope, hpath, _⟩
        have hyields := (hdot row hrow hsettled hnot hlength dot hmem hscope hpath).1
        rw [hscope, hpath] at hyields
        exact absurd hcontested' hyields
  | @mapped scope pathPrefix _ htop hsole hissues =>
      refine ⟨rfl, ?_⟩
      rcases routeRule_specificity hrow htop.holds with ⟨hle, hruleNe⟩
      have horder := htop.most _ _ hrule
      have hpriority := le_antisymm (rulePriority_le hle hruleNe hne)
        (rulePriority_le_of_labelOrder horder)
      rcases same_or_dot htop.holds.1 hrow.route hruleNe hle hpriority with
        ⟨rfl, rfl | ⟨rfl, hnot, hlength⟩⟩
      · exact hsole.unique (soleSource_of_not_contested hrow.mem hsettled)
      · rcases hsole.1 with ⟨dot, hmem, hscope, hpath, rfl, _⟩
        have hbefore : row.pathPrefix < "." := by
          refine lt_of_le_of_ne ?_ hnot
          simp only [labelOrder, Prod.Lex.toLex_le_toLex, hlength, dot_length] at horder
          simpa using horder
        exact (hdot row hrow hsettled hnot hlength dot hmem hscope hpath).2 hbefore
  | unmapped _ hrules => exact absurd hrule (hrules _ _)

/-- Where every entry that decides and is not contested gives its source, `.` yields. -/
lemma Resolves.dotYields
    (hsource : ∀ row, Decides (labelRows repr mapRows) request row →
      ¬Contested (inventorySources inventoryRows) (labelRows repr mapRows) row.scope
        row.pathPrefix → blocked = false ∧ sourceFolder = row.source)
    (h : Resolves repr mapRows inventoryRows request blocked sourceFolder) :
    DotYields (inventorySources inventoryRows) (labelRows repr mapRows) request := by
  rintro row hrow hsettled hnot hlength ⟨_, _, source⟩ hmem rfl rfl
  rcases hsource row hrow hsettled with ⟨hclear, hfolder⟩
  have hne := labelRows_ne_blank hrow.mem
  have hrule := routeRule_of_decides hrow hsettled
  have hroute : MatchesRoute request row.scope "." := ⟨hrow.route.1, if_pos rfl⟩
  have hpriority : rulePriority row.scope "." = rulePriority row.scope row.pathPrefix := by
    rw [rulePriority, rulePriority, hlength, dot_length]
  have hyields : ¬Contested (inventorySources inventoryRows) (labelRows repr mapRows)
      row.scope "." := by
    intro hcontested
    have hissue : RouteIssue repr mapRows inventoryRows request row.scope "." :=
      ⟨by decide, hroute, hcontested⟩
    cases h with
    | blocked _ _ => cases hclear
    | mapped htop _ hissues =>
        rcases routeRule_specificity hrow htop.holds with ⟨hle, hruleNe⟩
        exact hissues _ _ hissue (hpriority ▸ rulePriority_le hle hruleNe hne)
    | unmapped hissues _ => exact hissues _ _ hissue
  refine ⟨hyields, fun hbefore => ?_⟩
  have hdotSole := soleSource_of_not_contested hmem hyields
  have hdotRule : RouteRule repr mapRows inventoryRows request row.scope "." :=
    ⟨hroute, _, hdotSole⟩
  cases h with
  | blocked _ _ => cases hclear
  | @mapped scope pathPrefix _ htop hsole _ =>
      rcases routeRule_specificity hrow htop.holds with ⟨hle, hruleNe⟩
      have horder := htop.most _ _ hdotRule
      have hsame := le_antisymm (rulePriority_le hle hruleNe hne)
        (hpriority ▸ rulePriority_le_of_labelOrder horder)
      rcases same_or_dot htop.holds.1 hrow.route hruleNe hle hsame with
        ⟨rfl, rfl | ⟨rfl, _, _⟩⟩
      · simp only [labelOrder, Prod.Lex.toLex_le_toLex, hlength, dot_length] at horder
        exact absurd hbefore (not_lt.2 (by simpa using horder))
      · exact (hdotSole.unique hsole).trans hfolder
  | unmapped _ hrules => exact absurd hdotRule (hrules _ _)

/-- Where the destination is scoped by a source, the most specific entry decides exactly when `.`
yields; elsewhere the map is not asked, so the entry has to agree with the route. -/
theorem labelsRespected_iff (repr : String → String)
    (mapRows inventoryRows : Option (List (Dict String String)))
    (request : SourceLabelResolutionRequest) :
    LabelsRespected repr mapRows inventoryRows request ↔
      (request.sourceScoped = true →
          DotYields (inventorySources inventoryRows) (labelRows repr mapRows) request) ∧
        (request.sourceScoped = false → ∀ row, Decides (labelRows repr mapRows) request row →
          ¬Contested (inventorySources inventoryRows) (labelRows repr mapRows) row.scope
              row.pathPrefix ∧
            row.source = request.sourceFolder) := by
  have horder : ∀ rows rows', mapRows = some rows → rows'.Perm rows →
      (resolution repr (some rows') inventoryRows request).blocked =
          (resolution repr mapRows inventoryRows request).blocked ∧
        (resolution repr (some rows') inventoryRows request).sourceFolder =
          (resolution repr mapRows inventoryRows request).sourceFolder := by
    rintro rows rows' rfl hperm
    exact resolution_perm hperm
  by_cases hscoped : request.sourceScoped = true
  · have hresolves : Resolves repr mapRows inventoryRows request
        (resolution repr mapRows inventoryRows request).blocked
        (resolution repr mapRows inventoryRows request).sourceFolder := resolves_of_scoped hscoped
    rw [hscoped]
    constructor
    · intro h
      refine ⟨fun _ => hresolves.dotYields (fun row hrow hsettled => ⟨?_, h.source row hrow hsettled⟩),
        fun hnot => by cases hnot⟩
      rw [← Bool.not_eq_true]
      exact fun hblocked => hsettled ((h.blocked row hrow).1 hblocked)
    · rintro ⟨hdot, _⟩
      refine ⟨fun row hrow => ⟨fun hblocked => ?_, hresolves.blocked_of_contested hrow⟩,
        fun row hrow hsettled => (hresolves.source_of_dotYields hrow hsettled (hdot rfl)).2, horder⟩
      by_contra hsettled
      rw [(hresolves.source_of_dotYields hrow hsettled (hdot rfl)).1] at hblocked
      cases hblocked
  · rw [Bool.not_eq_true] at hscoped
    have hresolution : resolution repr mapRows inventoryRows request =
        nonSourceScopedResolution request.sourceFolder := by
      rw [resolution, resolveSourceLabel, if_pos hscoped]
    have hblocked : (resolution repr mapRows inventoryRows request).blocked = false := by
      rw [hresolution]
      rfl
    have hfolder : (resolution repr mapRows inventoryRows request).sourceFolder =
        request.sourceFolder := by
      rw [hresolution]
      rfl
    rw [hscoped]
    constructor
    · intro h
      refine ⟨(fun hnot => by cases hnot), fun _ row hrow => ?_⟩
      have hsettled : ¬Contested (inventorySources inventoryRows) (labelRows repr mapRows) row.scope
          row.pathPrefix := by
        intro hcontested
        have := (h.blocked row hrow).2 hcontested
        rw [hblocked] at this
        cases this
      exact ⟨hsettled, (h.source row hrow hsettled).symm.trans hfolder⟩
    · rintro ⟨_, hagrees⟩
      refine ⟨fun row hrow => ?_, fun row hrow _ => hfolder.trans (hagrees rfl row hrow).2.symm,
        horder⟩
      rw [hblocked]
      exact iff_of_false (fun h => by cases h) (hagrees rfl row hrow).1

end Decision

/-- A `.` row with a source that the inventory lacks, and a row for the folder `a`. -/
def dotBesideFolder : List (Dict String String) :=
  [Dict.ofList [("incoming_path_prefix", "."), ("source", "unlisted")],
    Dict.ofList [("incoming_path_prefix", "a"), ("source", "kraken")]]

/-- A file in the folder `a`. -/
def requestInFolder : SourceLabelResolutionRequest where
  workspaceRoot := ⟨"/", ["workspace"]⟩
  incomingCaptureScope := ""
  routeKey := "a/trades.csv"
  inventoryRoute := { sourceFolder := "unclassified", inventoryMatchStatus := "unmatched" }
  sourceFolder := "unclassified"
  targetPath := ⟨"/", ["workspace", "evidence", "raw", "source", "unclassified"]⟩

/-- The `.` row blocks the file, although the row for its folder is more specific and names a source
of the inventory. -/
theorem dot_blocks_folder :
    ¬LabelsRespected id (some dotBesideFolder) (some [Dict.ofList [("source", "kraken")]])
      requestInFolder := by
  have hrows : labelRows id (some dotBesideFolder) =
      [⟨"", ".", "unlisted"⟩, ⟨"", "a", "kraken"⟩] := by decide +kernel
  have hknown : inventorySources (some [Dict.ofList [("source", "kraken")]]) = ["kraken"] := by
    decide +kernel
  have hblocked : (resolution id (some dotBesideFolder)
      (some [Dict.ofList [("source", "kraken")]]) requestInFolder).blocked = true := by
    decide +kernel
  intro h
  have hdecides : Decides (labelRows id (some dotBesideFolder)) requestInFolder
      ⟨"", "a", "kraken"⟩ := by
    rw [hrows]
    refine ⟨by decide, ⟨by decide +kernel, by decide +kernel⟩, fun other hother _ => ?_⟩
    simp only [List.mem_cons, List.not_mem_nil, or_false] at hother
    rcases hother with rfl | rfl
    · decide +kernel
    · exact le_rfl
  have hcontested := (h.blocked _ hdecides).1 hblocked
  rw [hrows, hknown] at hcontested
  rcases hcontested with ⟨row, hrow, _, hpath, hcontested⟩
  have hrow' : row = ⟨"", "a", "kraken"⟩ := by
    simp only [List.mem_cons, List.not_mem_nil, or_false] at hrow
    rcases hrow with rfl | rfl
    · exact absurd hpath (by decide)
    · rfl
  subst hrow'
  rcases hcontested with hunknown | ⟨other, hother, _, hotherPrefix, hotherKnown, hdiffer⟩
  · exact hunknown (by decide)
  · exact hdiffer (List.mem_singleton.1 hotherKnown).symm

end Intake
end Tallylot
