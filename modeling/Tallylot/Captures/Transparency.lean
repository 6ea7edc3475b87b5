import Tallylot.Captures.Assembly

/-!
# Transparency — assembly runs and the classes they read back

A registry run is a list of operations: record a capture, mark it profiled, mark it normalized, or
assemble a source.  The question is whether the assembly runs can be left out of a run without
changing the class that an assembly would give to any capture.

The class of a capture depends on its rows only through `CaptureState`: its source, the last
decisive status (`standing`) and the latest status.  An assembly run keeps the standing and may only
overwrite the latest status, and `Shadows` says how far the overwritten status may differ.  The one
operation that does not respect `Shadows` is a `normalized` mark on an excluded capture whose latest
status is `assembly_excluded`: `reduceCaptureStatus` swallows it.
-/

namespace Tallylot
namespace Captures

open Data

/-! ## Runs -/

inductive RegistryOp
  | record (session : CaptureSession)
  | markProfiled (captureUid : String)
  | markNormalized (captureUid : String)
  | assemble (source : String) (rootPresent : String → Bool)

namespace RegistryOp

def isAssembly : RegistryOp → Bool
  | assemble _ _ => true
  | _ => false

def apply (rows : List CaptureRow) : RegistryOp → List CaptureRow
  | record session => appendCaptureRecord rows session
  | markProfiled uid => appendCaptureStatusRecord rows { captureUid := uid, status := .profiled }
  | markNormalized uid =>
      appendCaptureStatusRecord rows { captureUid := uid, status := .normalized }
  | assemble source rootPresent => assembleSource rootPresent source rows

end RegistryOp

def run (ops : List RegistryOp) : List CaptureRow := ops.foldl RegistryOp.apply []

def withoutAssembly (ops : List RegistryOp) : List RegistryOp :=
  ops.filter (fun op => !op.isAssembly)

/-- Every capture uid is recorded for one source, as generated uids are. -/
def UidsNameOneSource (ops : List RegistryOp) : Prop :=
  ∀ a b, RegistryOp.record a ∈ ops → RegistryOp.record b ∈ ops →
    a.sourceFolder ≠ "" → b.sourceFolder ≠ "" →
      a.captureUid = b.captureUid → a.sourceFolder = b.sourceFolder

/-- A session that is recorded is recorded for the source of its uid. -/
def RecordedFor (sourceOf : String → String) (session : CaptureSession) : Prop :=
  session.sourceFolder ≠ "" → session.sourceFolder = sourceOf session.captureUid

/-- A `normalized` mark would be swallowed on a capture that the assembly excludes. -/
def SwallowsNormalization (rows : List CaptureRow) (uid : String) : Prop :=
  ∃ row, latestCaptureRow rows uid = some row ∧ row.status = .assemblyExcluded ∧
    captureClassOf rows row.source uid = some .excluded

/-- No `normalized` mark of the run is swallowed on an excluded capture. -/
def NormalizationsLand (ops : List RegistryOp) : Prop :=
  ∀ pre uid, pre ++ [RegistryOp.markNormalized uid] <+: ops → ¬SwallowsNormalization (run pre) uid

/-! ## The state of one capture -/

structure CaptureState where
  source : String
  standing : Standing
  latest : CaptureStatus
  deriving DecidableEq, Repr

namespace CaptureState

def pushStatus (σ : CaptureState) (status : CaptureStatus) : CaptureState :=
  { σ with
    standing := σ.standing.push assemblyIncludedStatus assemblyExcludedStatus status
    latest := status }

def request (σ : CaptureState) (status : CaptureStatus) : CaptureState :=
  σ.pushStatus (reduceCaptureStatus σ.latest status)

/-- The class of a capture in its own source. -/
def classify (σ : CaptureState) : CaptureClass :=
  if assemblyIncludedStatus σ.latest ||
      (σ.latest = .assemblyExcluded && σ.standing = .accepted) then .included
  else if assemblyExcludedStatus σ.latest || σ.standing = .refused then .excluded
  else .pending

end CaptureState

def statusStanding (rows : List CaptureRow) : Standing :=
  standing assemblyIncludedStatus assemblyExcludedStatus (rows.map CaptureRow.status)

def captureState (rows : List CaptureRow) (uid : String) : Option CaptureState :=
  (rowsOf rows uid).getLast?.map
    (fun row => ⟨row.source, statusStanding (rowsOf rows uid), row.status⟩)

lemma statusStanding_append_singleton (rows : List CaptureRow) (row : CaptureRow) :
    statusStanding (rows ++ [row]) =
      (statusStanding rows).push assemblyIncludedStatus assemblyExcludedStatus row.status := by
  simp [statusStanding, standing_append_singleton]

lemma included_not_excluded :
    ∀ status, assemblyIncludedStatus status = true → assemblyExcludedStatus status = false := by
  intro status
  cases status <;> decide

lemma captureState_record {rows : List CaptureRow} {session : CaptureSession} {uid : String} :
    session.sourceFolder ≠ "" →
      captureState (appendCaptureRecord rows session) uid =
        if session.captureUid = uid then
          some
            { source := session.sourceFolder
              standing :=
                (statusStanding (rowsOf rows uid)).push assemblyIncludedStatus
                  assemblyExcludedStatus (recordedStatus session.captureStatus)
              latest := recordedStatus session.captureStatus }
        else captureState rows uid := by
  intro hsource
  by_cases h : session.captureUid = uid
  · have huid : (captureRecord session).captureUid = uid := h
    simp only [captureState, appendCaptureRecord, hsource, if_false, rowsOf_append_singleton, huid,
      if_true, h, List.getLast?_append, List.getLast?_singleton, Option.some_or, Option.map_some,
      statusStanding_append_singleton]
    rfl
  · have huid : ¬(captureRecord session).captureUid = uid := h
    simp [captureState, appendCaptureRecord, hsource, rowsOf_append_singleton, huid, h]

lemma captureState_request (rows : List CaptureRow) (request : StatusRequest) (uid : String) :
    captureState (appendCaptureStatusRecord rows request) uid =
      if request.captureUid = uid then
        (captureState rows uid).map (fun σ => σ.request request.status)
      else captureState rows uid := by
  by_cases h : request.captureUid = uid
  · cases hlast : (rowsOf rows uid).getLast? with
    | none => simp [captureState, rowsOf_appendCaptureStatusRecord, h, hlast]
    | some latest =>
        simp [captureState, rowsOf_appendCaptureStatusRecord, h, hlast, CaptureState.request,
          CaptureState.pushStatus, statusStanding_append_singleton]
  · simp [captureState, rowsOf_appendCaptureStatusRecord, h]

lemma captureState_requests (requests : List StatusRequest) (rows : List CaptureRow)
    (uid : String) :
    captureState (requests.foldl appendCaptureStatusRecord rows) uid =
      ((requests.filter (fun r => r.captureUid = uid)).map StatusRequest.status).foldl
        (fun σ status => σ.map (fun c => c.request status)) (captureState rows uid) := by
  induction requests generalizing rows with
  | nil => rfl
  | cons r rs ih =>
      rw [List.foldl_cons, ih, captureState_request]
      by_cases h : r.captureUid = uid
      · simp [h]
      · simp [h]

/-- The effect of an assembly run on the state of one capture. -/
theorem captureState_assemble (rootPresent : String → Bool) (source : String)
    (rows : List CaptureRow) (uid : String) :
    captureState (assembleSource rootPresent source rows) uid =
      (assemblyStatuses rootPresent uid (captureClassOf rows source uid)).foldl
        (fun σ status => σ.map (fun c => c.request status)) (captureState rows uid) := by
  rw [assembleSource, captureState_requests, assemblyRequests_statuses]

/-! ## Sources -/

/-- The rows of every capture carry one source. -/
def OneSource (sourceOf : String → String) (rows : List CaptureRow) : Prop :=
  ∀ row ∈ rows, row.source = sourceOf row.captureUid

lemma oneSource_appendCaptureStatusRecord {sourceOf : String → String} {rows : List CaptureRow}
    {request : StatusRequest} :
    OneSource sourceOf rows → OneSource sourceOf (appendCaptureStatusRecord rows request) := by
  intro h
  unfold appendCaptureStatusRecord
  cases hlast : latestCaptureRow rows request.captureUid with
  | none => exact h
  | some latest =>
      intro row hrow
      rcases List.mem_append.1 hrow with hold | hnew
      · exact h row hold
      · have : row = request.updated latest := by simpa using hnew
        subst this
        have hmem : latest ∈ rows := by
          simpa using List.mem_of_find?_eq_some hlast
        simpa using h latest hmem

lemma oneSource_requests {sourceOf : String → String} (requests : List StatusRequest) :
    ∀ {rows : List CaptureRow}, OneSource sourceOf rows →
      OneSource sourceOf (requests.foldl appendCaptureStatusRecord rows) := by
  induction requests with
  | nil => intro rows h; exact h
  | cons r rs ih => intro rows h; exact ih (oneSource_appendCaptureStatusRecord h)

lemma oneSource_apply {sourceOf : String → String} {rows : List CaptureRow} {op : RegistryOp} :
    OneSource sourceOf rows →
      (∀ session, op = .record session → RecordedFor sourceOf session) →
        OneSource sourceOf (op.apply rows) := by
  intro h hop
  cases op with
  | record session =>
      intro row hrow
      by_cases hs : session.sourceFolder = ""
      · exact h row (by simpa [RegistryOp.apply, appendCaptureRecord, hs] using hrow)
      · have hcases : row ∈ rows ∨ row = captureRecord session := by
          simpa [RegistryOp.apply, appendCaptureRecord, hs] using hrow
        rcases hcases with hold | rfl
        · exact h row hold
        · exact hop session rfl hs
  | markProfiled uid => exact oneSource_appendCaptureStatusRecord h
  | markNormalized uid => exact oneSource_appendCaptureStatusRecord h
  | assemble source rootPresent => exact oneSource_requests _ h

/-- The class of a history is the class of the state it leaves. -/
lemma captureClass_eq_classify (history : CaptureHistory) :
    captureClass history =
      CaptureState.classify
        ⟨history.latest.source, statusStanding history.rows, history.latest.status⟩ := by
  have hacc := latestIndex_lt_iff_accepted included_not_excluded history.statuses
  have href := latestIndex_lt_iff_refused included_not_excluded history.statuses
  have hst : statusStanding history.rows =
      standing assemblyIncludedStatus assemblyExcludedStatus history.statuses := rfl
  by_cases hi : assemblyIncludedStatus history.latest.status
  · simp [captureClass, captureHistoryIsIncludable, CaptureState.classify, hi]
  · by_cases ha : history.latest.status = .assemblyExcluded
    · simp [captureClass, captureHistoryIsIncludable, captureHistoryIsPolicyExcluded,
        CaptureState.classify, ha, hacc, href, hst]
    · simp [captureClass, captureHistoryIsIncludable, captureHistoryIsPolicyExcluded,
        CaptureState.classify, hi, ha, href, hst]

theorem captureClassOf_eq {sourceOf : String → String} {rows : List CaptureRow}
    (source uid : String) :
    OneSource sourceOf rows →
      captureClassOf rows source uid =
        if uid = "" ∨ sourceOf uid ≠ source then none
        else (captureState rows uid).map CaptureState.classify := by
  intro h
  by_cases hu : uid = ""
  · simp [captureClassOf, sourceHistory?, hu]
  · have hrows : sourceRows rows source uid =
        if sourceOf uid = source then rowsOf rows uid else [] := by
      by_cases hs : sourceOf uid = source
      · rw [if_pos hs]
        refine List.filter_congr ?_
        intro row hrow
        by_cases huid : row.captureUid = uid
        · simp [huid, h row hrow, hs]
        · simp [huid]
      · rw [if_neg hs]
        refine List.filter_eq_nil_iff.2 ?_
        intro row hrow hboth
        simp only [Bool.and_eq_true, decide_eq_true_eq] at hboth
        exact hs (by rw [← hboth.2, ← h row hrow, hboth.1])
    by_cases hs : sourceOf uid = source
    · rw [if_neg (by simp [hu, hs])]
      simp only [captureClassOf, sourceHistory?, hu, if_false, hrows, hs, if_true, captureState]
      by_cases hnil : rowsOf rows uid = []
      · simp [captureHistory?, hnil]
      · simp [captureHistory?, hnil, captureClass_eq_classify, CaptureHistory.latest,
          List.getLast?_eq_getLast_of_ne_nil hnil]
    · simp [captureClassOf, sourceHistory?, hu, hrows, hs, captureHistory?]

/-! ## What assembly runs may overwrite -/

/-- `σ` is a state of a run and `τ` the state of the same capture with the assembly runs left out. -/
inductive Shadows : CaptureState → CaptureState → Prop
  | same {source : String} {st : Standing} {status : CaptureStatus} :
      status ≠ .assemblyIncluded → status ≠ .assemblyExcluded →
        (status = .normalized → st = .accepted) →
          (assemblyExcludedStatus status = true → st = .refused) →
            Shadows ⟨source, st, status⟩ ⟨source, st, status⟩
  | included {source : String} {status : CaptureStatus} :
      status = .assemblyIncluded ∨ status = .assemblyExcluded →
        Shadows ⟨source, .accepted, status⟩ ⟨source, .accepted, .normalized⟩
  | excluded {source : String} {status : CaptureStatus} :
      assemblyIncludedStatus status = false → status ≠ .assemblyExcluded →
        Shadows ⟨source, .refused, .assemblyExcluded⟩ ⟨source, .refused, status⟩

namespace Shadows

variable {σ τ : CaptureState}

lemma standing_eq : Shadows σ τ → σ.standing = τ.standing := by
  intro h
  cases h <;> rfl

lemma classify_eq : Shadows σ τ → σ.classify = τ.classify := by
  intro h
  cases h with
  | same _ _ _ _ => rfl
  | included hs =>
      rcases hs with rfl | rfl
      · rfl
      · rfl
  | excluded hi ha =>
      have hae : assemblyIncludedStatus .assemblyExcluded = false := rfl
      simp [CaptureState.classify, hi, ha, hae]

lemma request_profiled : Shadows σ τ → Shadows (σ.request .profiled) (τ.request .profiled) := by
  intro h
  cases h with
  | same hni hna hn he =>
      rename_i source st status
      by_cases hs : status = .normalized
      · subst hs
        simpa [CaptureState.request, CaptureState.pushStatus, reduceCaptureStatus, Standing.push,
          assemblyIncludedStatus] using
            @Shadows.same source .accepted _ hni hna (fun _ => rfl) (by decide)
      · have hr : reduceCaptureStatus status .profiled = .profiled := by
          simp [reduceCaptureStatus, hs, hni, hna]
        simpa [CaptureState.request, CaptureState.pushStatus, hr, Standing.push,
          assemblyIncludedStatus, assemblyExcludedStatus] using
            @Shadows.same source st .profiled (by decide) (by decide)
              (fun hs => absurd hs (by decide)) (fun hs => absurd hs (by decide))
  | included hs =>
      rcases hs with rfl | rfl
      · exact Shadows.included (Or.inl rfl)
      · exact Shadows.included (Or.inr rfl)
  | excluded hi ha =>
      rename_i source status
      have hr : reduceCaptureStatus status .profiled = .profiled := by
        have hn : status ≠ .normalized := by
          rintro rfl
          exact absurd hi (by decide)
        have hni : status ≠ .assemblyIncluded := by
          rintro rfl
          exact absurd hi (by decide)
        simp [reduceCaptureStatus, hn, hni, ha]
      have hswallow : reduceCaptureStatus .assemblyExcluded .profiled = .assemblyExcluded := rfl
      simpa [CaptureState.request, CaptureState.pushStatus, hr, hswallow, Standing.push,
        assemblyIncludedStatus, assemblyExcludedStatus] using
          @Shadows.excluded source .profiled (by decide) (by decide)

lemma request_normalized :
    Shadows σ τ → ¬(σ.latest = .assemblyExcluded ∧ σ.classify = .excluded) →
      Shadows (σ.request .normalized) (τ.request .normalized) := by
  intro h hland
  cases h with
  | same hni hna hn he =>
      rename_i source st status
      have hr : reduceCaptureStatus status .normalized = .normalized := by
        simp [reduceCaptureStatus, hni, hna]
      simpa [CaptureState.request, CaptureState.pushStatus, hr, Standing.push,
        assemblyIncludedStatus] using
          @Shadows.same source .accepted .normalized (by decide) (by decide) (fun _ => rfl)
            (by decide)
  | included hs =>
      rcases hs with rfl | rfl
      · exact Shadows.included (Or.inl rfl)
      · exact Shadows.included (Or.inr rfl)
  | excluded hi ha => exact absurd ⟨rfl, rfl⟩ hland

/-- An assembly run of the capture's own source keeps the shadow. -/
lemma assemble {rootPresent : String → Bool} {uid : String} :
    Shadows σ τ → ∃ σ',
      (assemblyStatuses rootPresent uid (some σ.classify)).foldl
          (fun σ status => σ.map (fun c => c.request status)) (some σ) = some σ' ∧
        Shadows σ' τ := by
  intro h
  have hsplit : (if rootPresent uid then CaptureStatus.assemblyIncluded else .assemblyExcluded) =
      .assemblyIncluded ∨
        (if rootPresent uid then CaptureStatus.assemblyIncluded else .assemblyExcluded) =
          .assemblyExcluded := by
    cases rootPresent uid
    · exact Or.inr rfl
    · exact Or.inl rfl
  cases h with
  | same hni hna hn he =>
      rename_i source st status
      cases hc : CaptureState.classify ⟨source, st, status⟩ with
      | included =>
          have hs : status = .normalized := by
            by_contra hs
            have hi : assemblyIncludedStatus status = false := by
              simp [assemblyIncludedStatus, hs, hni]
            by_cases hr : assemblyExcludedStatus status || st = .refused
            · simp [CaptureState.classify, hi, hna, hr] at hc
            · simp [CaptureState.classify, hi, hna, hr] at hc
          subst hs
          have hst : st = .accepted := hn rfl
          subst hst
          rcases hsplit with hreq | hreq
          · exact ⟨_, by simp only [assemblyStatuses, hreq]; rfl, Shadows.included (Or.inl rfl)⟩
          · exact ⟨_, by simp only [assemblyStatuses, hreq]; rfl, Shadows.included (Or.inr rfl)⟩
      | excluded =>
          have hi : assemblyIncludedStatus status = false := by
            cases hi : assemblyIncludedStatus status with
            | false => rfl
            | true => simp [CaptureState.classify, hi] at hc
          have hst : st = .refused := by
            by_contra hst
            by_cases hex : assemblyExcludedStatus status
            · exact hst (he hex)
            · simp [CaptureState.classify, hi, hna, hex, hst] at hc
          subst hst
          exact ⟨_, rfl, Shadows.excluded hi hna⟩
      | pending => exact ⟨_, rfl, Shadows.same hni hna hn he⟩
  | included hs =>
      rename_i source status
      have hc : CaptureState.classify ⟨source, .accepted, status⟩ = .included := by
        rcases hs with rfl | rfl
        · rfl
        · rfl
      rw [hc]
      rcases hsplit with hreq | hreq
      · refine ⟨⟨source, .accepted, .assemblyIncluded⟩, ?_, Shadows.included (Or.inl rfl)⟩
        simp only [assemblyStatuses, hreq]
        rfl
      · refine ⟨⟨source, .accepted, .assemblyExcluded⟩, ?_, Shadows.included (Or.inr rfl)⟩
        simp only [assemblyStatuses, hreq]
        rfl
  | excluded hi ha => exact ⟨_, rfl, Shadows.excluded hi ha⟩

end Shadows

/-! ## Simulation along a run -/

/-- The registries of a run and of the run without assemblies, capture by capture. -/
structure RunShadows (sourceOf : String → String) (rows rows' : List CaptureRow) : Prop where
  oneSource : OneSource sourceOf rows
  oneSource' : OneSource sourceOf rows'
  states : ∀ uid, uid ≠ "" → Option.Rel Shadows (captureState rows uid) (captureState rows' uid)

lemma rel_cases {σ τ : Option CaptureState} :
    Option.Rel Shadows σ τ →
      (σ = none ∧ τ = none) ∨ ∃ x y, σ = some x ∧ τ = some y ∧ Shadows x y := by
  intro h
  cases h with
  | none => exact Or.inl ⟨rfl, rfl⟩
  | some hs => exact Or.inr ⟨_, _, rfl, rfl, hs⟩

lemma statusStanding_rowsOf (rows : List CaptureRow) (uid : String) :
    statusStanding (rowsOf rows uid) =
      ((captureState rows uid).map CaptureState.standing).getD .undecided := by
  cases hl : (rowsOf rows uid).getLast? with
  | none => simp [captureState, List.getLast?_eq_none_iff.1 hl, statusStanding]
  | some row => simp [captureState, hl]

lemma standing_eq_of_rel {rows rows' : List CaptureRow} {uid : String} :
    Option.Rel Shadows (captureState rows uid) (captureState rows' uid) →
      statusStanding (rowsOf rows uid) = statusStanding (rowsOf rows' uid) := by
  intro h
  rw [statusStanding_rowsOf, statusStanding_rowsOf]
  rcases rel_cases h with ⟨hσ, hτ⟩ | ⟨σ, τ, hσ, hτ, hs⟩
  · rw [hσ, hτ]
  · simp [hσ, hτ, hs.standing_eq]

lemma shadows_recorded (source : String) (st : Standing) (status : SessionStatus) :
    Shadows
      ⟨source, st.push assemblyIncludedStatus assemblyExcludedStatus (recordedStatus status),
        recordedStatus status⟩
      ⟨source, st.push assemblyIncludedStatus assemblyExcludedStatus (recordedStatus status),
        recordedStatus status⟩ := by
  refine Shadows.same ?_ ?_ ?_ ?_
  · cases status <;> decide
  · cases status <;> decide
  · intro h
    cases status <;> exact absurd h (by decide)
  · intro h
    cases status with
    | planned => exact absurd h (by decide)
    | captureBlocked => rfl
    | duplicateBlocked => rfl
    | overlapReviewRequired => rfl

namespace RunShadows

variable {sourceOf : String → String} {rows rows' : List CaptureRow}

lemma classOf_eq (h : RunShadows sourceOf rows rows') (source uid : String) :
    captureClassOf rows source uid = captureClassOf rows' source uid := by
  rw [captureClassOf_eq source uid h.oneSource, captureClassOf_eq source uid h.oneSource']
  by_cases hu : uid = "" ∨ sourceOf uid ≠ source
  · rw [if_pos hu, if_pos hu]
  · rw [if_neg hu, if_neg hu]
    rcases rel_cases (h.states uid (fun he => hu (Or.inl he))) with
      ⟨hσ, hτ⟩ | ⟨σ, τ, hσ, hτ, hs⟩
    · rw [hσ, hτ]
    · simp [hσ, hτ, hs.classify_eq]

lemma record (h : RunShadows sourceOf rows rows') {session : CaptureSession}
    (hsource : RecordedFor sourceOf session) :
    RunShadows sourceOf (RegistryOp.apply rows (.record session))
      (RegistryOp.apply rows' (.record session)) where
  oneSource := oneSource_apply h.oneSource (by rintro _ ⟨rfl⟩; exact hsource)
  oneSource' := oneSource_apply h.oneSource' (by rintro _ ⟨rfl⟩; exact hsource)
  states := by
    intro uid hne
    by_cases hs : session.sourceFolder = ""
    · simpa [RegistryOp.apply, appendCaptureRecord, hs] using h.states uid hne
    · simp only [RegistryOp.apply, captureState_record hs, standing_eq_of_rel (h.states uid hne)]
      by_cases huid : session.captureUid = uid
      · rw [if_pos huid, if_pos huid]
        exact Option.Rel.some (shadows_recorded _ _ _)
      · rw [if_neg huid, if_neg huid]
        exact h.states uid hne

lemma request (h : RunShadows sourceOf rows rows') (request : StatusRequest)
    (hstep : request.captureUid ≠ "" → ∀ σ τ, captureState rows request.captureUid = some σ →
      captureState rows' request.captureUid = some τ → Shadows σ τ →
        Shadows (σ.request request.status) (τ.request request.status)) :
    RunShadows sourceOf (appendCaptureStatusRecord rows request)
      (appendCaptureStatusRecord rows' request) where
  oneSource := oneSource_appendCaptureStatusRecord h.oneSource
  oneSource' := oneSource_appendCaptureStatusRecord h.oneSource'
  states := by
    intro uid hne
    rw [captureState_request, captureState_request]
    by_cases huid : request.captureUid = uid
    · rw [if_pos huid, if_pos huid]
      subst huid
      rcases rel_cases (h.states request.captureUid hne) with ⟨hσ, hτ⟩ | ⟨σ, τ, hσ, hτ, hs⟩
      · rw [hσ, hτ]
        exact Option.Rel.none
      · rw [hσ, hτ]
        exact Option.Rel.some (hstep hne σ τ hσ hτ hs)
    · rw [if_neg huid, if_neg huid]
      exact h.states uid hne

/-- An assembly run happens on one side only. -/
lemma assemble (h : RunShadows sourceOf rows rows') (source : String)
    (rootPresent : String → Bool) :
    RunShadows sourceOf (assembleSource rootPresent source rows) rows' where
  oneSource := oneSource_requests _ h.oneSource
  oneSource' := h.oneSource'
  states := by
    intro uid hne
    rw [captureState_assemble, captureClassOf_eq source uid h.oneSource]
    by_cases hu : uid = "" ∨ sourceOf uid ≠ source
    · rw [if_pos hu]
      exact h.states uid hne
    · rw [if_neg hu]
      rcases rel_cases (h.states uid hne) with ⟨hσ, hτ⟩ | ⟨σ, τ, hσ, hτ, hs⟩
      · simpa [hσ, assemblyStatuses] using h.states uid hne
      · rcases @Shadows.assemble _ _ rootPresent uid hs with ⟨σ', hfold, hs'⟩
        rw [hσ, hτ, Option.map_some, hfold]
        exact Option.Rel.some hs'

end RunShadows

/-! ## Assembly runs are transparent exactly when no normalization is swallowed -/

/-- Leaving the assembly runs out changes no class, whichever source is asked. -/
def AssemblyTransparent (ops : List RegistryOp) : Prop :=
  ∀ source,
    (partitionCaptureRows (captureRowHistoriesForSource (run ops) source)).uids =
      (partitionCaptureRows (captureRowHistoriesForSource (run (withoutAssembly ops)) source)).uids

lemma run_append_singleton (ops : List RegistryOp) (op : RegistryOp) :
    run (ops ++ [op]) = op.apply (run ops) := by
  simp [run]

lemma run_withoutAssembly_append_singleton (ops : List RegistryOp) (op : RegistryOp) :
    run (withoutAssembly (ops ++ [op])) =
      if op.isAssembly then run (withoutAssembly ops)
      else op.apply (run (withoutAssembly ops)) := by
  cases h : op.isAssembly with
  | true => simp [withoutAssembly, h]
  | false => simp [withoutAssembly, h, run]

lemma captureState_latest {rows : List CaptureRow} {uid : String} {σ : CaptureState} :
    captureState rows uid = some σ →
      ∃ row, latestCaptureRow rows uid = some row ∧ row.source = σ.source ∧
        row.status = σ.latest := by
  intro h
  rw [captureState, ← latestCaptureRow_eq] at h
  rcases Option.map_eq_some_iff.1 h with ⟨row, hrow, rfl⟩
  exact ⟨row, hrow, rfl, rfl⟩

lemma captureUid_of_latestCaptureRow {rows : List CaptureRow} {uid : String} {row : CaptureRow} :
    latestCaptureRow rows uid = some row → row ∈ rows ∧ row.captureUid = uid := by
  intro h
  exact ⟨by simpa using List.mem_of_find?_eq_some h, by simpa using List.find?_some h⟩

/-- In terms of states, a swallowed normalization is a mark on an excluded capture that an
assembly run has overwritten. -/
lemma swallowsNormalization_iff {sourceOf : String → String} {rows : List CaptureRow}
    {uid : String} (hone : OneSource sourceOf rows) :
    SwallowsNormalization rows uid ↔
      uid ≠ "" ∧ ∃ σ, captureState rows uid = some σ ∧ σ.latest = .assemblyExcluded ∧
        σ.classify = .excluded := by
  constructor
  · rintro ⟨row, hrow, hstatus, hclass⟩
    rw [captureClassOf_eq row.source uid hone] at hclass
    by_cases hu : uid = "" ∨ sourceOf uid ≠ row.source
    · simp [hu] at hclass
    · rw [if_neg hu] at hclass
      rcases Option.map_eq_some_iff.1 hclass with ⟨σ, hσ, hc⟩
      rcases captureState_latest hσ with ⟨row', hrow', _, hlatest⟩
      have hrows : row' = row := Option.some.inj (hrow'.symm.trans hrow)
      subst hrows
      exact ⟨fun h => hu (Or.inl h), σ, hσ, hlatest.symm.trans hstatus, hc⟩
  · rintro ⟨hu, σ, hσ, hlatest, hc⟩
    rcases captureState_latest hσ with ⟨row, hrow, _, hstatus⟩
    rcases captureUid_of_latestCaptureRow hrow with ⟨hmem, huid⟩
    refine ⟨row, hrow, hstatus.trans hlatest, ?_⟩
    have hsource : sourceOf uid = row.source := by rw [hone row hmem, huid]
    rw [captureClassOf_eq row.source uid hone, if_neg (by simp [hu, hsource]), hσ]
    exact congrArg some hc

/-- One step of the two runs. -/
lemma RunShadows.step {sourceOf : String → String} {ops : List RegistryOp} {op : RegistryOp}
    (h : RunShadows sourceOf (run ops) (run (withoutAssembly ops)))
    (hsource : ∀ session, op = .record session → RecordedFor sourceOf session)
    (hland : ∀ uid, uid ≠ "" → op = .markNormalized uid → ∀ σ, captureState (run ops) uid = some σ →
      ¬(σ.latest = .assemblyExcluded ∧ σ.classify = .excluded)) :
    RunShadows sourceOf (run (ops ++ [op])) (run (withoutAssembly (ops ++ [op]))) := by
  rw [run_append_singleton, run_withoutAssembly_append_singleton]
  cases op with
  | record session => exact h.record (hsource session rfl)
  | markProfiled uid => exact h.request _ (fun _ _ _ _ _ hs => hs.request_profiled)
  | markNormalized uid =>
      exact h.request _ (fun hne σ _ hσ _ hs => hs.request_normalized (hland uid hne rfl σ hσ))
  | assemble source rootPresent => exact h.assemble source rootPresent

lemma runShadows_nil (sourceOf : String → String) :
    RunShadows sourceOf (run []) (run (withoutAssembly [])) where
  oneSource := by intro row hrow; cases hrow
  oneSource' := by intro row hrow; cases hrow
  states := fun _ _ => Option.Rel.none

/-- Every prefix of a run whose normalizations land shadows the run without its assemblies. -/
lemma run_shadows {sourceOf : String → String} {ops : List RegistryOp} :
    (∀ session, RegistryOp.record session ∈ ops → RecordedFor sourceOf session) →
      NormalizationsLand ops →
        RunShadows sourceOf (run ops) (run (withoutAssembly ops)) := by
  induction ops using List.reverseRecOn with
  | nil => exact fun _ _ => runShadows_nil sourceOf
  | append_singleton ops op ih =>
      intro hsource hland
      have hpre : RunShadows sourceOf (run ops) (run (withoutAssembly ops)) := by
        refine ih (fun session hmem => hsource session (List.mem_append_left _ hmem)) ?_
        intro pre uid hext
        exact hland pre uid (hext.trans (List.prefix_append _ _))
      refine hpre.step (fun session hop => hsource session (by simp [hop])) ?_
      rintro uid hu rfl σ hσ ⟨hlatest, hclass⟩
      exact hland ops uid (List.prefix_refl _)
        ((swallowsNormalization_iff hpre.oneSource).2 ⟨hu, σ, hσ, hlatest, hclass⟩)

lemma sourceOf_of_uidsNameOneSource {ops : List RegistryOp} :
    UidsNameOneSource ops →
      ∃ sourceOf : String → String,
        ∀ session, RegistryOp.record session ∈ ops → RecordedFor sourceOf session := by
  classical
  intro h
  let recorded (uid : String) (s : CaptureSession) : Prop :=
    RegistryOp.record s ∈ ops ∧ s.sourceFolder ≠ "" ∧ s.captureUid = uid
  refine ⟨fun uid => if hx : ∃ s, recorded uid s then hx.choose.sourceFolder else "", ?_⟩
  intro session hmem hne
  have hx : ∃ s, recorded session.captureUid s := ⟨session, hmem, hne, rfl⟩
  have hspec : recorded session.captureUid hx.choose := hx.choose_spec
  simp only [dif_pos hx]
  exact h session hx.choose hmem hspec.1 hne hspec.2.1 hspec.2.2.symm

lemma RunShadows.assemblyTransparent {sourceOf : String → String} {ops : List RegistryOp} :
    RunShadows sourceOf (run ops) (run (withoutAssembly ops)) → AssemblyTransparent ops := by
  intro h source
  exact (partition_uids_eq_iff _ _ source).2 (h.classOf_eq source)

/-- A swallowed normalization separates the two runs at once. -/
lemma not_transparent_of_swallowed {sourceOf : String → String} {ops : List RegistryOp}
    {uid : String} :
    RunShadows sourceOf (run ops) (run (withoutAssembly ops)) →
      SwallowsNormalization (run ops) uid →
        ¬AssemblyTransparent (ops ++ [.markNormalized uid]) := by
  intro h hswallow htransparent
  rcases (swallowsNormalization_iff h.oneSource).1 hswallow with ⟨hu, σ, hσ, hlatest, hclass⟩
  have hone : OneSource sourceOf (run (ops ++ [.markNormalized uid])) := by
    rw [run_append_singleton]
    exact oneSource_appendCaptureStatusRecord h.oneSource
  have hone' : OneSource sourceOf (run (withoutAssembly (ops ++ [.markNormalized uid]))) := by
    rw [run_withoutAssembly_append_singleton]
    exact oneSource_appendCaptureStatusRecord h.oneSource'
  have hclasses := (partition_uids_eq_iff _ _ (sourceOf uid)).1 (htransparent (sourceOf uid)) uid
  have hown : ¬(uid = "" ∨ sourceOf uid ≠ sourceOf uid) := by simp [hu]
  rw [captureClassOf_eq _ uid hone, captureClassOf_eq _ uid hone', if_neg hown, if_neg hown,
    run_append_singleton, run_withoutAssembly_append_singleton] at hclasses
  simp only [RegistryOp.isAssembly, RegistryOp.apply, captureState_request, if_true,
    Bool.false_eq_true, if_false] at hclasses
  rcases rel_cases (h.states uid hu) with ⟨hσ', _⟩ | ⟨σ', τ, hσ', hτ, hs⟩
  · rw [hσ] at hσ'
    cases hσ'
  · have hσσ' : σ' = σ := Option.some.inj (hσ'.symm.trans hσ)
    subst hσσ'
    rw [hσ', hτ] at hclasses
    cases hs with
    | same _ hna _ _ => exact hna hlatest
    | included _ =>
        have hsame : assemblyIncludedStatus .assemblyExcluded = false := rfl
        simp only at hlatest
        subst hlatest
        simp [CaptureState.classify, hsame] at hclass
    | excluded hi ha =>
        rename_i source status
        have hni : status ≠ .assemblyIncluded := by
          rintro rfl
          exact absurd hi (by decide)
        have hr : reduceCaptureStatus status .normalized = .normalized := by
          simp [reduceCaptureStatus, hni, ha]
        simp only [Option.map_some, CaptureState.request, CaptureState.pushStatus, hr] at hclasses
        have hdiffer : CaptureClass.excluded = .included := Option.some.inj hclasses
        cases hdiffer

/-- Assembly runs are transparent to the classification in every state that a run reaches exactly
when no `normalized` mark meets an excluded capture that an assembly run has overwritten. -/
theorem assembly_transparent_iff (ops : List RegistryOp) (hsource : UidsNameOneSource ops) :
    (∀ pre, pre <+: ops → AssemblyTransparent pre) ↔ NormalizationsLand ops := by
  rcases sourceOf_of_uidsNameOneSource hsource with ⟨sourceOf, hrecord⟩
  have hshadows : ∀ pre, pre <+: ops → NormalizationsLand pre →
      RunShadows sourceOf (run pre) (run (withoutAssembly pre)) := by
    intro pre hpre hland
    exact run_shadows (fun session hmem => hrecord session (hpre.subset hmem)) hland
  constructor
  · intro htransparent
    -- walk along the run: up to the first swallowed mark the two runs shadow each other
    have hall : ∀ pre, pre <+: ops → NormalizationsLand pre := by
      intro pre
      induction pre using List.reverseRecOn with
      | nil =>
          intro _ pre uid h
          exact absurd (List.prefix_nil.1 h) (by simp)
      | append_singleton pre op ih =>
          intro hpre before uid hbefore
          have hpre' : pre <+: ops := (List.prefix_append _ _).trans hpre
          rcases List.prefix_concat_iff.1 hbefore with heq | hshort
          · have hsplit := List.append_inj' heq rfl
            intro hswallow
            rw [hsplit.1] at hswallow
            refine not_transparent_of_swallowed (hshadows pre hpre' (ih hpre')) hswallow ?_
            have hop : op = .markNormalized uid := (List.cons.inj hsplit.2).1.symm
            simpa [hop] using htransparent _ hpre
          · exact ih hpre' before uid hshort
    exact hall ops (List.prefix_refl _)
  · intro hland pre hpre
    refine (hshadows pre hpre ?_).assemblyTransparent
    intro before uid hbefore
    exact hland before uid (hbefore.trans hpre)

/-- A capture held back for overlap review. -/
def overlapSession : CaptureSession where
  captureUid := "01HV4A5H7VJH7M3Y5A6B7C8D9F"
  sourceFolder := "coinbase"
  captureLabel := "2026-03-23T14-15-17Z"
  captureStatus := .overlapReviewRequired
  intakeStartedAt := "2026-03-23 14:15:00"
  intakeCompletedAt := "2026-03-23 14:15:17"
  incomingRef := "incoming/coinbase"
  manifestFingerprint := "f1"
  fileCount := 1
  observedPeriodStart := ""
  observedPeriodEnd := ""
  observedGroupCount := 0

/-- The capture is assembled while it is held back, and normalized afterwards. -/
def heldBackRun : List RegistryOp :=
  [.record overlapSession, .assemble "coinbase" (fun _ => true),
    .markNormalized overlapSession.captureUid]

/-- The same capture, normalized before it is assembled. -/
def releasedRun : List RegistryOp :=
  [.record overlapSession, .markNormalized overlapSession.captureUid,
    .assemble "coinbase" (fun _ => false)]

lemma heldBackRun_uids : UidsNameOneSource heldBackRun := by
  intro a b ha hb _ _ _
  simp only [heldBackRun, List.mem_cons, RegistryOp.record.injEq, reduceCtorEq, List.not_mem_nil,
    or_false] at ha hb
  rw [ha, hb]

lemma releasedRun_uids : UidsNameOneSource releasedRun := by
  intro a b ha hb _ _ _
  simp only [releasedRun, List.mem_cons, RegistryOp.record.injEq, reduceCtorEq, List.not_mem_nil,
    or_false] at ha hb
  rw [ha, hb]

/-- The assembly of a held-back capture keeps its later normalization from counting. -/
theorem assembly_not_transparent :
    ¬∀ ops, UidsNameOneSource ops → AssemblyTransparent ops := by
  intro h
  have hheld := h heldBackRun heldBackRun_uids "coinbase"
  exact absurd hheld (by decide)

lemma releasedRun_lands : NormalizationsLand releasedRun := by
  rintro pre uid ⟨rest, hrest⟩
  -- The one mark comes second, on a capture that intake holds back.
  rcases pre with _ | ⟨first, _ | ⟨second, _ | ⟨third, pre⟩⟩⟩
  · cases (List.cons.inj hrest).1
  · rcases List.cons.inj hrest with ⟨rfl, hmark⟩
    cases (List.cons.inj hmark).1
    rintro ⟨row, hlatest, hstatus, _⟩
    cases hlatest
    cases hstatus
  · rcases List.cons.inj (List.cons.inj hrest).2 with ⟨_, hassemble⟩
    cases (List.cons.inj hassemble).1
  · rcases List.cons.inj (List.cons.inj (List.cons.inj hrest).2).2 with ⟨_, hnil⟩
    exact absurd hnil (by simp)

/-- The normalization lands, so every assembly leaves the capture's class as it is. -/
theorem releasedRun_transparent :
    NormalizationsLand releasedRun ∧ ∀ pre, pre <+: releasedRun → AssemblyTransparent pre := by
  refine ⟨releasedRun_lands, ?_⟩
  exact (assembly_transparent_iff releasedRun releasedRun_uids).2 releasedRun_lands

end Captures
end Tallylot
