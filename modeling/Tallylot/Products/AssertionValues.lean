import Tallylot.Products.Fields

/-!
# AssertionValues — asserted values in the files of states and checkpoints

A value is written as an array of its kind and its content.  Both repositories read it alike; they differ in
the words of their messages, and in whether the kind or the content is looked at first.
-/

namespace Tallylot
namespace Products

open Data Domain

/-! ## Reading -/

section Reading

-- `word` stands in the messages: `reconciliation` or `checkpoint`.
variable (word : String)

/-- `_required_list_item` -/
def requiredListItem (items : List Json) (index : Nat) (label : String) : Decoded Json :=
  requireSome items[index]? ("invalid " ++ word ++ " assertion value: missing " ++ label)

/-- `_optional_list_text` -/
def optionalListText (items : List Json) (index : Nat) : Decoded String :=
  match items[index]? with
  | none => .ok ""
  | some .null => .ok ""
  | some (.str value) => .ok value
  | some _ => .error (.value ("invalid " ++ word ++ " owner value"))

/-- `_required_decimal_text` -/
def requiredDecimalText : Json → Decoded Decimal
  | .str text => do
      let parsed ← Decimal.parseDecimal text
      requireSome parsed ("invalid " ++ word ++ " decimal value")
  | _ => .error (.value ("invalid " ++ word ++ " decimal value"))

/-- `_subject_ref_from_payload` -/
def subjectRefFromPayload (payload : Json) : Decoded SubjectRef :=
  subjectRefOf ("invalid " ++ word ++ " subject_ref: expected array")
    ("invalid " ++ word ++ " subject_ref: expected key array") payload

/-- The constructor of an owner value. -/
def ownerValue (legalOwnerRef beneficialOwnerRef counterpartyRef : String) :
    Decoded AssertionValue :=
  if legalOwnerRef = "" ∧ beneficialOwnerRef = "" ∧ counterpartyRef = "" then
    .error (.value "owner value requires at least one owner reference")
  else .ok (.owner legalOwnerRef beneficialOwnerRef counterpartyRef)

/-- The constructor of a location value. -/
def locationValue (locationRef : String) : Decoded AssertionValue :=
  if locationRef = "" then .error (.value "location value requires location_ref")
  else .ok (.location locationRef)

/-- The value of a known kind, with the message of a currency that is no text. -/
def valueOfKind (currencyMessage : String) (items : List Json) (kind : String) :
    Decoded AssertionValue :=
  if kind = "quantity" then do
    let amount ← requiredListItem word items 0 "quantity amount"
    let quantity ← requiredDecimalText word amount
    let subject ← requiredListItem word items 1 "quantity subject_ref"
    let subjectRef ← subjectRefFromPayload word subject
    .ok (.quantity ⟨quantity, subjectRef⟩)
  else if kind = "money" then do
    let currency ← requiredListItem word items 1 "money currency"
    match currency with
    | .str currency => do
        let amount ← requiredListItem word items 0 "money amount"
        let amount ← requiredDecimalText word amount
        .ok (.money amount currency)
    | _ => .error (.value currencyMessage)
  else if kind = "owner" then do
    let legalOwnerRef ← optionalListText word items 0
    let beneficialOwnerRef ← optionalListText word items 1
    let counterpartyRef ← optionalListText word items 2
    ownerValue legalOwnerRef beneficialOwnerRef counterpartyRef
  else if kind = "location" then do
    let locationRef ← requiredListItem word items 0 "location ref"
    match locationRef with
    | .str locationRef => locationValue locationRef
    | _ => .error (.value ("invalid " ++ word ++ " location value"))
  else .error (.value ("invalid " ++ word ++ " assertion value kind: " ++ kind))

/-- `_required_list_object` -/
def requiredListObject (label : String) : Json → Decoded (List Json)
  | .arr items => .ok items
  | _ => .error (.value ("invalid " ++ label ++ ": expected array"))

/-- The kind and the content of a value. -/
def taggedValue : Json → Decoded (String × Json)
  | .arr [.str kind, content] => .ok (kind, content)
  | .arr _ => .error (.value ("invalid " ++ word ++ " assertion value: expected tagged array"))
  | _ => .error (.value ("invalid " ++ word ++ " assertion value: expected array"))

end Reading

def valueKinds : List String := ["quantity", "money", "owner", "location"]

/-- `_assertion_value_from_payload` of reconciliation states: an unknown kind is reported first. -/
def assertionValueFromPayload (payload : Json) : Decoded AssertionValue := do
  let (kind, content) ← taggedValue "reconciliation" payload
  require (kind ∈ valueKinds) ("invalid reconciliation assertion value kind: " ++ kind)
  let items ← requiredListObject ("reconciliation " ++ kind ++ " assertion value") content
  valueOfKind "reconciliation" "invalid reconciliation money value: expected currency" items kind

/-- `_required_assertion_value` of checkpoints: a content that is no array is reported first. -/
def checkpointValueFromPayload (payload : Json) : Decoded AssertionValue := do
  let (kind, content) ← taggedValue "checkpoint" payload
  let items ← requiredListObject "checkpoint assertion value" content
  valueOfKind "checkpoint" "invalid checkpoint money value" items kind

/-! ## Values that are read back -/

/-- The value passes the checks of its constructor. -/
def Legible : AssertionValue → Prop
  | .owner legalOwnerRef beneficialOwnerRef counterpartyRef =>
      ¬(legalOwnerRef = "" ∧ beneficialOwnerRef = "" ∧ counterpartyRef = "")
  | .location locationRef => locationRef ≠ ""
  | _ => True

/-- The value with its amount as the text shows it. -/
def settledValue : AssertionValue → AssertionValue
  | .quantity value => .quantity { value with quantity := value.quantity.quantize }
  | .money amount currency => .money amount.quantize currency
  | value => value

lemma settledValue_settledValue (value : AssertionValue) :
    settledValue (settledValue value) = settledValue value := by
  cases value <;> simp [settledValue]

/-- Kind and content of a value that was written. -/
def contentOf : AssertionValue → String × List Json
  | .quantity value =>
      ("quantity", [Json.str value.quantity.format, value.subjectRef.payload])
  | .money amount currency => ("money", [Json.str amount.format, Json.str currency])
  | .owner legalOwnerRef beneficialOwnerRef counterpartyRef =>
      ("owner", [Json.str legalOwnerRef, Json.str beneficialOwnerRef, Json.str counterpartyRef])
  | .location locationRef => ("location", [Json.str locationRef])

lemma payload_eq (value : AssertionValue) :
    value.payload = .arr [.str (contentOf value).1, .arr (contentOf value).2] := by
  cases value <;> rfl

lemma contentOf_kind (value : AssertionValue) : (contentOf value).1 ∈ valueKinds := by
  cases value <;> simp [contentOf, valueKinds]

lemma subjectRefFromPayload_payload (word : String) (subjectRef : SubjectRef) :
    subjectRefFromPayload word subjectRef.payload = .ok subjectRef :=
  subjectRefOf_payload _ _ subjectRef

lemma requiredDecimalText_format (word : String) (amount : Decimal) :
    requiredDecimalText word (.str amount.format) = .ok amount.quantize := by
  simp only [requiredDecimalText, Decimal.parseDecimal_format, bind_ok, requireSome_some]

/-- The content of a value is read exactly where the value passes its checks. -/
lemma valueOfKind_contentOf (word currencyMessage : String) (value found : AssertionValue) :
    valueOfKind word currencyMessage (contentOf value).2 (contentOf value).1 = .ok found ↔
      Legible value ∧ found = settledValue value := by
  cases value with
  | quantity value =>
      have hread : valueOfKind word currencyMessage
          [Json.str value.quantity.format, value.subjectRef.payload] "quantity" =
            .ok (.quantity { value with quantity := value.quantity.quantize }) := by
        simp only [valueOfKind, if_true, requiredListItem, List.getElem?_cons_zero,
          List.getElem?_cons_succ, requireSome_some, bind_ok, requiredDecimalText_format,
          subjectRefFromPayload_payload]
      exact reading_eq_ok_iff (fun _ _ => trivial) (fun _ => hread) found
  | money amount currency =>
      have hread : valueOfKind word currencyMessage
          [Json.str amount.format, Json.str currency] "money" =
            .ok (.money amount.quantize currency) := by
        simp [valueOfKind, requiredListItem, bind_ok, requiredDecimalText_format]
      exact reading_eq_ok_iff (fun _ _ => trivial) (fun _ => hread) found
  | owner legalOwnerRef beneficialOwnerRef counterpartyRef =>
      have hread : valueOfKind word currencyMessage
          [Json.str legalOwnerRef, Json.str beneficialOwnerRef, Json.str counterpartyRef] "owner" =
            ownerValue legalOwnerRef beneficialOwnerRef counterpartyRef := by
        simp [valueOfKind, optionalListText, bind_ok]
      simp only [contentOf, hread, ownerValue, Legible, settledValue]
      split_ifs with h
      · exact iff_of_false (fun hok => by cases hok) (fun hok => hok.1 h)
      · exact ⟨fun hok => ⟨h, (Except.ok.inj hok).symm⟩, fun hok => hok.2 ▸ rfl⟩
  | location locationRef =>
      have hread : valueOfKind word currencyMessage [Json.str locationRef] "location" =
          locationValue locationRef := by
        simp [valueOfKind, requiredListItem, bind_ok]
      simp only [contentOf, hread, locationValue, Legible, settledValue]
      split_ifs with h
      · exact iff_of_false (fun hok => by cases hok) (fun hok => hok.1 h)
      · exact ⟨fun hok => ⟨h, (Except.ok.inj hok).symm⟩, fun hok => hok.2 ▸ rfl⟩

/-- Both repositories read what was written. -/
theorem assertionValueFromPayload_eq_ok_iff (value found : AssertionValue) :
    assertionValueFromPayload value.payload = .ok found ↔
      Legible value ∧ found = settledValue value := by
  rw [payload_eq, ← valueOfKind_contentOf "reconciliation"
    "invalid reconciliation money value: expected currency"]
  simp only [assertionValueFromPayload, taggedValue, bind_ok, require, contentOf_kind, if_true,
    requiredListObject]

theorem checkpointValueFromPayload_eq_ok_iff (value found : AssertionValue) :
    checkpointValueFromPayload value.payload = .ok found ↔
      Legible value ∧ found = settledValue value := by
  rw [payload_eq, ← valueOfKind_contentOf "checkpoint" "invalid checkpoint money value"]
  simp only [checkpointValueFromPayload, taggedValue, bind_ok, requiredListObject]

end Products
end Tallylot
