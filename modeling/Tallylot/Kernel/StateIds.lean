import Tallylot.Data.JsonText
import Tallylot.Kernel.Guarantees

/-!
# StateIds — what the ids of states tell apart

The id of a state is a hash of a text that begins with the JSON of its subject.  Subjects of one JSON
are one subject, and where the hash has no collision among these texts the states have ids of their
own (`stateIds_nodup`).
-/

namespace Tallylot
namespace Domain

open Data

/-! ## The JSON of a subject -/

namespace RefValue

mutual

lemma compactChars_jsonReady : (value : RefValue) →
    value.jsonReady.chars = value.jsonReady.compactChars
  | none => by rw [jsonReady, Json.chars, Json.compactChars]
  | bool b => by rw [jsonReady, Json.chars, Json.compactChars]
  | int n => by rw [jsonReady, Json.chars, Json.compactChars]
  | str s => by rw [jsonReady, Json.chars, Json.compactChars]
  | tuple items => by
      rw [jsonReady, Json.chars, Json.compactChars, compactItems_jsonReady items]

lemma compactItems_jsonReady : (items : List RefValue) →
    Json.itemChars (jsonReadyItems items) = Json.compactItems (jsonReadyItems items)
  | [] => by rw [jsonReadyItems, Json.itemChars, Json.compactItems]
  | item :: items => by
      rw [jsonReadyItems, Json.itemChars, Json.compactItems, compactChars_jsonReady item,
        compactItems_jsonReady items]

end

mutual

theorem jsonReady_inj : (value other : RefValue) → value.jsonReady = other.jsonReady → value = other
  | none, other => fun h => by cases other <;> simp [jsonReady] at h ⊢
  | bool _, other => fun h => by cases other <;> simp_all [jsonReady]
  | int _, other => fun h => by cases other <;> simp_all [jsonReady]
  | str _, other => fun h => by cases other <;> simp_all [jsonReady]
  | tuple items, other => fun h => by
      cases other <;> simp only [jsonReady, Json.arr.injEq, reduceCtorEq] at h
      rename_i others
      rw [jsonReadyItems_inj items others h]

theorem jsonReadyItems_inj : (items others : List RefValue) →
    jsonReadyItems items = jsonReadyItems others → items = others
  | [], others => fun h => by cases others <;> simp [jsonReadyItems] at h ⊢
  | item :: items, others => fun h => by
      cases others with
      | nil => simp [jsonReadyItems] at h
      | cons other others =>
          simp only [jsonReadyItems, List.cons.injEq] at h
          rw [jsonReady_inj item other h.1, jsonReadyItems_inj items others h.2]

end

end RefValue

lemma compactChars_payload (subjectRef : SubjectRef) :
    subjectRef.payload.chars = subjectRef.payload.compactChars := by
  have hkey := RefValue.compactItems_jsonReady subjectRef.key
  simp only [SubjectRef.payload, Json.chars, Json.compactChars, Json.itemChars, Json.compactItems,
    hkey]

/-- Subjects of one JSON are one subject. -/
theorem payload_chars_inj {subjectRef other : SubjectRef}
    (h : subjectRef.payload.chars = other.payload.chars) : subjectRef = other := by
  rw [compactChars_payload, compactChars_payload] at h
  have hloads := congrArg Json.loads (congrArg String.ofList h)
  have hjson : subjectRef.payload = other.payload := by
    have hread := Json.loads_compactText subjectRef.payload
    rw [Json.compactText, hloads, ← Json.compactText, Json.loads_compactText] at hread
    exact (Option.some.inj hread).symm
  simp only [SubjectRef.payload, Json.arr.injEq, Json.str.injEq, List.cons.injEq, and_true] at hjson
  cases subjectRef
  cases other
  rw [SubjectRef.mk.injEq]
  exact ⟨hjson.1, RefValue.jsonReadyItems_inj _ _ hjson.2⟩

/-- Segments of one id have one subject. -/
lemma subject_of_segmentId {subjectRef other : SubjectRef} {startAt endAt start' end' : Instant}
    (h : stableContinuitySegmentId subjectRef startAt endAt =
      stableContinuitySegmentId other start' end') : subjectRef = other := by
  have hitems := Json.itemChars_inj (String.ofList_injective h)
  exact payload_chars_inj (List.cons.inj hitems).1

end Domain

namespace Kernel

open Data Domain

/-- The texts that the ids of states hash. -/
def stateIdTexts (states : List ReconciliationState) : Set String :=
  {text | ∃ state ∈ states, ∃ segment ∈ state.continuitySegmentRecords,
    text = Json.dumps (Json.strs [state.economicFactsRef, segment.segmentId])}

/-- The states are told apart by their ids. -/
def StatesApart (env : KernelEnvironment) (states : List ReconciliationState) : Prop :=
  Set.InjOn env.sha256 (stateIdTexts states)

section

variable {env : KernelEnvironment} {economicFactsRef : String} {evidenceSet : EvidenceSet}
variable {inputs : ReconciliationInputs} {states : List ReconciliationState}

lemma SegmentOf.segmentId {subjectRef : SubjectRef} {segment : Segment}
    (h : SegmentOf inputs subjectRef segment) :
    segment.segmentId = stableContinuitySegmentId subjectRef segment.startAt segment.endAt := by
  have hmade := h.made
  cases hbounds : segmentBounds (inputs.legsOf subjectRef) (inputs.claimsOf subjectRef) with
  | error message =>
      rw [segmentForSubject, hbounds] at hmade
      cases hmade
  | ok bounds =>
      rw [segmentForSubject, hbounds] at hmade
      rw [← Except.ok.inj hmade]

/-- States of different subjects have different ids. -/
theorem stateIds_nodup (hstates : statesFromInputs env economicFactsRef evidenceSet inputs = .ok states)
    (hapart : StatesApart env states) :
    (states.map ReconciliationState.reconciliationStateId).Nodup := by
  rcases statesFromInputs_ok hstates with ⟨segments, hsubjects, rfl, hof⟩
  have hnodup : (segments.map Segment.subjectRef).Nodup := by
    rw [hsubjects]
    exact inputs.allSubjects_nodup env
  rw [List.map_map]
  refine (List.nodup_map_iff_inj_on hnodup.of_map).2 ?_
  intro segment hsegment other hother hid
  have htext : ∀ s ∈ segments, Json.dumps (Json.strs [economicFactsRef, s.segmentId]) ∈
      stateIdTexts (segments.map
        (stateOf env economicFactsRef (validObservationRefs evidenceSet) inputs)) := by
    intro s hs
    exact ⟨_, List.mem_map_of_mem hs, _, List.mem_singleton.2 rfl, rfl⟩
  have htexts := hapart (htext segment hsegment) (htext other hother) hid
  have hitems := Json.itemChars_inj (String.ofList_injective htexts)
  have hsegmentId : segment.segmentId = other.segmentId := by
    have hchars := (List.cons.inj (List.cons.inj hitems).2).1
    rw [Json.chars, Json.chars] at hchars
    exact (@Json.strChars_append_inj segment.segmentId other.segmentId [] [] (by simpa using hchars)).1
  rw [(hof segment hsegment).segmentId, (hof other hother).segmentId] at hsegmentId
  exact List.inj_on_of_nodup_map hnodup hsegment hother (subject_of_segmentId hsegmentId)

end

end Kernel
end Tallylot
