import Tallylot.Data.Decimal
import Tallylot.Data.Dict
import Tallylot.Data.Json
import Tallylot.Domain.Temporal
import Mathlib.Data.List.Lex
import Mathlib.Data.Prod.Lex

/-!
# Models — the records of an evidence set and their fingerprints

An evidence set has selections, the members of each selection and the observations of each member.
The records refer to each other by ids, which are keys joined with colons below the id of the set.
A fingerprint hashes the contents of the records, grouped by these ids; the ids are not in it.
-/

namespace Tallylot
namespace Evidence

open Data Domain

/-! ## Enumerations -/

inductive EvidenceSelectionBasis
  | singleMember
  | duplicate
  | coverage
  | freshness
  | ambiguousOverlap
  | upstreamGap
  deriving DecidableEq, Repr

def EvidenceSelectionBasis.value : EvidenceSelectionBasis → String
  | singleMember => "single_member"
  | duplicate => "duplicate"
  | coverage => "coverage"
  | freshness => "freshness"
  | ambiguousOverlap => "ambiguous_overlap"
  | upstreamGap => "upstream_gap"

inductive EvidenceMemberStatus
  | selected
  | superseded
  | blocked
  deriving DecidableEq, Repr

def EvidenceMemberStatus.value : EvidenceMemberStatus → String
  | selected => "selected"
  | superseded => "superseded"
  | blocked => "blocked"

lemma EvidenceMemberStatus.value_injective : Function.Injective EvidenceMemberStatus.value := by
  intro a b h
  cases a <;> cases b <;> first | rfl | exact absurd h (by decide)

inductive EvidenceMemberKind
  | retailActivityExportFile
  | statementDocumentFile
  deriving DecidableEq, Repr

def EvidenceMemberKind.value : EvidenceMemberKind → String
  | retailActivityExportFile => "retail_activity_export_file"
  | statementDocumentFile => "statement_document_file"

inductive EvidenceObservationKind
  | statementDocument
  | statementBalanceRow
  deriving DecidableEq, Repr

def EvidenceObservationKind.value : EvidenceObservationKind → String
  | statementDocument => "statement_document"
  | statementBalanceRow => "statement_balance_row"

lemma EvidenceObservationKind.value_injective :
    Function.Injective EvidenceObservationKind.value := by
  intro a b h
  cases a <;> cases b <;> first | rfl | exact absurd h (by decide)

/-! ## Records -/

/-- An optional UTC time and its optional precision.  A time that is stated as a date is a midnight:
any other one has no text, and no evidence set is built from it. -/
structure StatedTime where
  moment : Option Instant := none
  precision : Option TemporalPrecision := none
  midnight : ∀ t, moment = some t → precision = some .date → t.isMidnight = true := by simp
  deriving DecidableEq, Repr

namespace StatedTime

/-- What is not stated is not a date. -/
lemma unstated_midnight (t : Instant) :
    (none : Option Instant) = some t → (none : Option TemporalPrecision) = some .date →
      t.isMidnight = true := by
  intro h
  cases h

/-- A stated time, unless it claims to be a date and is not a midnight. -/
def ofParts (moment : Option Instant) (precision : Option TemporalPrecision) : Option StatedTime :=
  match moment with
  | none => some { precision := precision }
  | some t =>
      if h : precision = some .date → t.isMidnight = true then
        some { moment := some t, precision := precision, midnight := by simpa using h }
      else none

/-- `_optional_temporal` -/
def text (stated : StatedTime) : String :=
  match stated.moment, stated.precision with
  | some t, some .timestamp => t.timestampText
  | some t, some .date => t.dateText
  | _, _ => ""

def precisionText (stated : StatedTime) : String :=
  (stated.precision.map TemporalPrecision.text).getD ""

end StatedTime

def formatDecimal (value : Option Decimal) : String := (value.map Decimal.format).getD ""

structure EvidenceObservationRecord where
  evidenceSetId : String
  memberId : String
  observationId : String
  kind : EvidenceObservationKind
  key : List String
  observedAt : StatedTime := {}
  provenanceRefs : List (List String) := []
  statementKind : String := ""
  documentEffectiveAt : StatedTime := {}
  statementAsOf : StatedTime := {}
  locationGroupLabel : String := ""
  locationLabel : String := ""
  balanceKind : String := ""
  instrumentSymbol : String := ""
  quantity : Option Decimal := none
  notes : String := ""
  stakedQuantityText : String := ""
  valueAmountText : String := ""
  valueCurrency : String := ""
  priceAmountText : String := ""
  priceCurrency : String := ""
  deriving DecidableEq, Repr

structure EvidenceMemberRecord where
  evidenceSetId : String
  selectionId : String
  memberId : String
  sourceSlug : String
  adapterId : String
  captureUid : String
  kind : EvidenceMemberKind
  locator : List String
  status : EvidenceMemberStatus
  captureManifestFingerprint : String
  deriving DecidableEq, Repr

structure EvidenceSelectionRecord where
  evidenceSetId : String
  selectionId : String
  key : List String
  fingerprint : String
  basis : EvidenceSelectionBasis
  blockingGapRefs : List String := []
  deriving DecidableEq, Repr

structure EvidenceSet where
  evidenceSetId : String
  selectionFingerprint : String
  captureManifestFingerprint : String
  evidenceSelectionRecords : List EvidenceSelectionRecord
  evidenceMemberRecords : List EvidenceMemberRecord
  evidenceObservationRecords : List EvidenceObservationRecord
  deriving DecidableEq, Repr

/-- `semantic_payload` -/
def EvidenceObservationRecord.semanticPayload (observation : EvidenceObservationRecord) : Json :=
  Json.obj
    [ ("kind", Json.str observation.kind.value),
      ("key", Json.strs observation.key),
      ("observed_at", Json.str observation.observedAt.text),
      ("precision", Json.str observation.observedAt.precisionText),
      ("provenance_refs", Json.arr ((sortedOn id observation.provenanceRefs).map Json.strs)),
      ("statement_kind", Json.str observation.statementKind),
      ("document_effective_at", Json.str observation.documentEffectiveAt.text),
      ("document_effective_precision", Json.str observation.documentEffectiveAt.precisionText),
      ("statement_as_of", Json.str observation.statementAsOf.text),
      ("statement_as_of_precision", Json.str observation.statementAsOf.precisionText),
      ("location_group_label", Json.str observation.locationGroupLabel),
      ("location_label", Json.str observation.locationLabel),
      ("balance_kind", Json.str observation.balanceKind),
      ("instrument_symbol", Json.str observation.instrumentSymbol),
      ("quantity", Json.str (formatDecimal observation.quantity)),
      ("notes", Json.str observation.notes),
      ("staked_quantity_text", Json.str observation.stakedQuantityText),
      ("value_amount_text", Json.str observation.valueAmountText),
      ("value_currency", Json.str observation.valueCurrency),
      ("price_amount_text", Json.str observation.priceAmountText),
      ("price_currency", Json.str observation.priceCurrency) ]

/-- `semantic_payload`, as the list of its fields. -/
def EvidenceMemberRecord.semanticFields (member : EvidenceMemberRecord) : List (String × Json) :=
  [ ("source_slug", Json.str member.sourceSlug),
    ("adapter_id", Json.str member.adapterId),
    ("capture_uid", Json.str member.captureUid),
    ("kind", Json.str member.kind.value),
    ("locator", Json.strs member.locator),
    ("status", Json.str member.status.value),
    ("capture_manifest_fingerprint", Json.str member.captureManifestFingerprint) ]

/-! ## Ids -/

/-- `":".join(…)` -/
def colonJoin (parts : List String) : String := String.intercalate ":" parts

def stableEvidenceSetId (sourceSlug adapterId captureUid selectionFingerprint : String) : String :=
  colonJoin [sourceSlug, adapterId, captureUid, selectionFingerprint]

def stableSelectionId (evidenceSetId : String) (key : List String) : String :=
  colonJoin (evidenceSetId :: key)

def stableMemberId (evidenceSetId : String) (kind : EvidenceMemberKind) (locator : List String) :
    String :=
  colonJoin (evidenceSetId :: kind.value :: locator)

def stableObservationId (memberId : String) (kind : EvidenceObservationKind) (key : List String) :
    String :=
  colonJoin (memberId :: kind.value :: key)

lemma colonJoin_cons (first : String) {rest : List String} (hne : rest ≠ []) :
    colonJoin (first :: rest) = first ++ (":" ++ colonJoin rest) := by
  rw [colonJoin, String.intercalate_cons_of_ne_nil hne, String.append_assoc]
  rfl

/-- Below one first part, joined texts differ as the rests do. -/
lemma colonJoin_cons_inj (first : String) {rest rest' : List String} (hne : rest ≠ [])
    (hne' : rest' ≠ []) :
    colonJoin (first :: rest) = colonJoin (first :: rest') ↔ colonJoin rest = colonJoin rest' := by
  rw [colonJoin_cons first hne, colonJoin_cons first hne', String.append_right_inj,
    String.append_right_inj]

lemma stableEvidenceSetId_inj (sourceSlug adapterId captureUid : String)
    {fingerprint fingerprint' : String} :
    stableEvidenceSetId sourceSlug adapterId captureUid fingerprint =
      stableEvidenceSetId sourceSlug adapterId captureUid fingerprint' →
        fingerprint = fingerprint' := by
  intro h
  have hne : ∀ (first : String) (rest : List String), first :: rest ≠ [] :=
    fun first rest => List.cons_ne_nil first rest
  have h₁ := (colonJoin_cons_inj sourceSlug (hne _ _) (hne _ _)).1 h
  have h₂ := (colonJoin_cons_inj adapterId (hne _ _) (hne _ _)).1 h₁
  have h₃ := (colonJoin_cons_inj captureUid (hne _ _) (hne _ _)).1 h₂
  simpa [colonJoin] using h₃

lemma colonJoin_cons_ne_blank (first : String) {rest : List String} (hne : rest ≠ []) :
    colonJoin (first :: rest) ≠ "" := by
  rw [colonJoin_cons first hne]
  intro h
  have hchars := congrArg String.toList h
  simp at hchars

/-! ## Fingerprints -/

/-- Whether an observation belongs to a member; before ids are given, all observations do. -/
def belongsTo (observation : EvidenceObservationRecord) (member : EvidenceMemberRecord) : Bool :=
  observation.memberId = member.memberId ||
    (observation.memberId = "" && observation.evidenceSetId = member.evidenceSetId)

/-- Whether a member is one of a selection; before ids are given, all members are. -/
def isMemberOf (member : EvidenceMemberRecord) (selection : EvidenceSelectionRecord) : Bool :=
  member.selectionId = selection.selectionId ||
    (member.selectionId = "" && member.evidenceSetId = selection.evidenceSetId &&
      member.selectionId = "")

def observationOrder (observation : EvidenceObservationRecord) : String ×ₗ List String :=
  toLex (observation.kind.value, observation.key)

def memberOrder (member : EvidenceMemberRecord) : String ×ₗ List String :=
  toLex (member.status.value, member.locator)

def memberPayload (observations : List EvidenceObservationRecord)
    (member : EvidenceMemberRecord) : Json :=
  Json.obj
    (member.semanticFields ++
      [ ("observations",
          Json.arr
            ((sortedOn observationOrder
                (observations.filter (fun observation => belongsTo observation member))).map
              EvidenceObservationRecord.semanticPayload)) ])

def selectionSemanticsPayload (selection : EvidenceSelectionRecord)
    (members : List EvidenceMemberRecord) (observations : List EvidenceObservationRecord) : Json :=
  Json.obj
    [ ("basis", Json.str selection.basis.value),
      ("blocking_gap_refs", Json.strs (sortedOn id selection.blockingGapRefs)),
      ("key", Json.strs selection.key),
      ("members", Json.arr ((sortedOn memberOrder members).map (memberPayload observations))) ]

section

variable (sha256 : String → String)

/-- `_hash_payload` -/
def hashPayload (payload : Json) : String := sha256 (Json.dumps payload)

def selectionFingerprintForRecords (selections : List EvidenceSelectionRecord)
    (members : List EvidenceMemberRecord) (observations : List EvidenceObservationRecord) :
    String :=
  hashPayload sha256
    (Json.arr
      ((sortedOn EvidenceSelectionRecord.key selections).map (fun selection =>
        selectionSemanticsPayload selection
          (members.filter (fun member => isMemberOf member selection)) observations)))

/-- Fingerprints by selection id. -/
def selectionRecordFingerprints (selections : List EvidenceSelectionRecord)
    (members : List EvidenceMemberRecord) (observations : List EvidenceObservationRecord) :
    Dict String String :=
  Dict.ofList
    (selections.map (fun selection =>
      (selection.selectionId,
        hashPayload sha256
          (selectionSemanticsPayload selection
            (members.filter (fun member => member.selectionId = selection.selectionId))
            observations))))

end

end Evidence
end Tallylot
