import Tallylot.Data.Parts
import Tallylot.Domain.Assertion
import Tallylot.Transactions.Codec

/-!
# Fields — reading the files of stored products

The repositories of economic facts, reconciliation states and checkpoints read the JSON value of a
file with the same small functions, which differ in the words of their messages.  What a product
writes is read back: texts as they are, times down to the second, quantities rounded to the context.

Subject keys are nested arrays here; the model has no value for an object inside a key.
-/

namespace Tallylot
namespace Products

open Data Domain Transactions

/-! ## Fields of an object -/

section Fields

variable (product : String)

/-- `_required_dict` -/
def requiredDict (label : String) : Json → Decoded JsonDict
  | .obj fields => .ok fields
  | _ => .error (.value ("invalid " ++ product ++ " " ++ label ++ ": expected object"))

/-- The check of `schema_version`; `true` equals one. -/
def requireSchemaVersion (raw : JsonDict) : Decoded Unit :=
  match jsonGet raw "schema_version" with
  | .int version =>
      require (version = 1) ("unsupported " ++ product ++ " schema_version; expected 1")
  | .bool version =>
      require (version = true) ("unsupported " ++ product ++ " schema_version; expected 1")
  | _ => .error (.value ("unsupported " ++ product ++ " schema_version; expected 1"))

/-- `_required_list` -/
def requiredList (raw : JsonDict) (key : String) : Decoded (List Json) :=
  match jsonGet raw key with
  | .arr items => .ok items
  | _ => .error (.value ("invalid " ++ product ++ " " ++ key ++ ": expected array"))

/-- `_required_text` -/
def requiredText (raw : JsonDict) (key : String) : Decoded String :=
  match jsonGet raw key with
  | .str value =>
      if value = "" then
        .error (.value ("invalid " ++ product ++ " " ++ key ++ ": expected non-empty string"))
      else .ok value
  | _ => .error (.value ("invalid " ++ product ++ " " ++ key ++ ": expected non-empty string"))

/-- `_optional_text` -/
def optionalText (raw : JsonDict) (key : String) : Decoded String :=
  match jsonGet raw key with
  | .null => .ok ""
  | .str value => .ok value
  | _ => .error (.value ("invalid " ++ product ++ " " ++ key ++ ": expected string"))

def textItem (key : String) : Json → Decoded String
  | .str value => .ok value
  | _ => .error (.value ("invalid " ++ product ++ " " ++ key ++ ": expected string array"))

/-- `_required_text_tuple` -/
def requiredTextTuple (raw : JsonDict) (key : String) : Decoded (List String) := do
  let items ← requiredList product raw key
  items.mapM (textItem product key)

/-- `_required_temporal` -/
def requiredTemporal (raw : JsonDict) (key : String) (precision : TemporalPrecision) :
    Decoded Instant := do
  let text ← requiredText product raw key
  parseTemporalValue text precision

/-- A member of an enumeration, from the text of a field. -/
def requiredMember {α : Type} (members : List α) (value : α → String) (enumeration : String)
    (raw : JsonDict) (key : String) : Decoded α := do
  let text ← requiredText product raw key
  requireSome (ofValue members value text) (text ++ " is not a valid " ++ enumeration)

/-- The items of an array of objects, read one by one. -/
def readItems {α : Type} (label : String) (read : JsonDict → Decoded α) (raw : JsonDict)
    (key : String) : Decoded (List α) := do
  let items ← requiredList product raw key
  items.mapM (fun item => do
    let fields ← requiredDict product label item
    read fields)

end Fields

/-- The objects of some records, as an array. -/
def objects (payloads : List JsonDict) : Json := .arr (payloads.map Json.obj)

/-! ## Subjects -/

mutual

/-- `_tupled_item` -/
def tupledItem : Json → Decoded RefValue
  | .null => .ok .none
  | .bool b => .ok (.bool b)
  | .int n => .ok (.int n)
  | .str s => .ok (.str s)
  | .arr items => do
      let values ← tupled items
      .ok (.tuple values)
  | .obj _ => .error (.value "unhashable type: 'dict'")

/-- `_tupled` -/
def tupled : List Json → Decoded (List RefValue)
  | [] => .ok []
  | item :: items => do
      let value ← tupledItem item
      let values ← tupled items
      .ok (value :: values)

end

/-- `_subject_ref_from_payload`, with the messages of another value and of a key that is no array. -/
def subjectRefOf (message keyMessage : String) : Json → Decoded SubjectRef
  | .arr [.str kind, .arr key] => do
      let values ← tupled key
      .ok ⟨kind, values⟩
  | .arr [.str _, _] => .error (.value keyMessage)
  | _ => .error (.value message)

/-! ## Texts and values that are read back -/

/-- A reading that needs `Legible`, and gives `settled` where that holds. -/
lemma reading_eq_ok_iff {α : Type} {reading : Decoded α} {Legible : Prop} {settled : α}
    (hneeds : ∀ a, reading = .ok a → Legible) (hgives : Legible → reading = .ok settled) (a : α) :
    reading = .ok a ↔ Legible ∧ a = settled := by
  constructor
  · intro h
    have hlegible := hneeds a h
    exact ⟨hlegible, Except.ok.inj (h.symm.trans (hgives hlegible))⟩
  · rintro ⟨hlegible, rfl⟩
    exact hgives hlegible

section ReadBack

variable {product key : String} {raw : JsonDict}

lemma requireSchemaVersion_of_get (h : jsonGet raw "schema_version" = .int 1) :
    requireSchemaVersion product raw = .ok () := by
  simp [requireSchemaVersion, h, require]

lemma requiredList_of_get {items : List Json} (h : jsonGet raw key = .arr items) :
    requiredList product raw key = .ok items := by
  simp [requiredList, h]

/-- A text that a record always has is read exactly where it is not blank. -/
lemma requiredText_eq_ok_iff {value text : String} (h : jsonGet raw key = .str value) :
    requiredText product raw key = .ok text ↔ value ≠ "" ∧ text = value := by
  by_cases hblank : value = ""
  · simp [requiredText, h, hblank]
  · simp [requiredText, h, hblank, eq_comm]

/-- A text that is read is not blank. -/
lemma ne_blank_of_read {value text : String} (hread : requiredText product raw key = .ok text)
    (h : jsonGet raw key = .str value) : value ≠ "" :=
  ((requiredText_eq_ok_iff h).1 hread).1

lemma requiredText_of_get {value : String} (h : jsonGet raw key = .str value) (hne : value ≠ "") :
    requiredText product raw key = .ok value :=
  (requiredText_eq_ok_iff h).2 ⟨hne, rfl⟩

lemma optionalText_of_get {value : String} (h : jsonGet raw key = .str value) :
    optionalText product raw key = .ok value := by
  simp [optionalText, h]

lemma requiredTextTuple_of_get {values : List String} (h : jsonGet raw key = Json.strs values) :
    requiredTextTuple product raw key = .ok values := by
  have hitems : (values.map Json.str).mapM (textItem product key) =
      .ok (values.map (fun value => value)) := mapM_ok_map (fun value _ => rfl)
  rw [List.map_id'] at hitems
  simp only [requiredTextTuple, requiredList_of_get h, bind_ok]
  exact hitems

lemma requiredTemporal_of_get {value : Instant} (h : jsonGet raw key = .str value.timestampText) :
    requiredTemporal product raw key .timestamp = .ok value.wholeSecond := by
  have hne : value.timestampText ≠ "" := Instant.timestampText_ne_empty value
  simp only [requiredTemporal, requiredText_of_get h hne, bind_ok, parseTemporalValue,
    Instant.stripped_timestampText, parseTimestamp_text]

lemma requiredMember_of_get {α : Type} {members : List α} {value : α → String}
    {enumeration : String} {a : α} (h : jsonGet raw key = .str (value a)) (hne : value a ≠ "")
    (hnodup : (members.map value).Nodup) (ha : a ∈ members) :
    requiredMember product members value enumeration raw key = .ok a := by
  simp only [requiredMember, requiredText_of_get h hne, bind_ok, ofValue_value hnodup ha,
    requireSome_some]

/-- A list of records is read exactly where each of its records is. -/
lemma readItems_eq_ok_iff {α β : Type} {label : String} {read : JsonDict → Decoded β}
    {records : List α} {payloads : List JsonDict} {Legible : α → Prop} {settled : α → β}
    {found : List β} (h : jsonGet raw key = objects payloads)
    (hread : List.Forall₂ (fun a payload => ∀ b, read payload = .ok b ↔ Legible a ∧ b = settled a)
      records payloads) :
    readItems product label read raw key = .ok found ↔
      (∀ a ∈ records, Legible a) ∧ found = records.map settled := by
  have hpayloads : readItems product label read raw key = .ok found ↔
      List.Forall₂ (fun payload b => read payload = .ok b) payloads found := by
    simp only [readItems, requiredList_of_get h, bind_ok, mapM_eq_ok_iff,
      List.forall₂_map_left_iff, requiredDict]
  rw [hpayloads]
  clear hpayloads h
  induction hread generalizing found with
  | nil => simp
  | cons hfirst _ ih =>
      cases found with
      | nil => simp
      | cons b found =>
          simp only [List.forall₂_cons, hfirst, ih, List.forall_mem_cons, List.map_cons,
            List.cons.injEq]
          exact and_and_and_comm

/-- The payloads of records that are read on their own. -/
lemma forall₂_payloads {α β : Type} {read : JsonDict → Decoded β} {payload : α → JsonDict}
    {Legible : α → Prop} {settled : α → β} (records : List α)
    (hread : ∀ a b, read (payload a) = .ok b ↔ Legible a ∧ b = settled a) :
    List.Forall₂ (fun a payload => ∀ b, read payload = .ok b ↔ Legible a ∧ b = settled a)
      records (records.map payload) :=
  List.forall₂_map_right_iff.2 (List.forall₂_same.2 (fun a _ => hread a))

end ReadBack

mutual

lemma tupledItem_jsonReady : (value : RefValue) → tupledItem value.jsonReady = .ok value
  | .none => rfl
  | .bool _ => rfl
  | .int _ => rfl
  | .str _ => rfl
  | .tuple items => by
      simp only [RefValue.jsonReady, tupledItem, tupled_jsonReadyItems items, bind_ok]

lemma tupled_jsonReadyItems :
    (values : List RefValue) → tupled (RefValue.jsonReadyItems values) = .ok values
  | [] => rfl
  | value :: values => by
      simp only [RefValue.jsonReadyItems, tupled, tupledItem_jsonReady value,
        tupled_jsonReadyItems values, bind_ok]

end

/-- Subjects are read back as they are. -/
lemma subjectRefOf_payload (message keyMessage : String) (subjectRef : SubjectRef) :
    subjectRefOf message keyMessage subjectRef.payload = .ok subjectRef := by
  simp only [SubjectRef.payload, subjectRefOf, tupled_jsonReadyItems, bind_ok]

end Products
end Tallylot
