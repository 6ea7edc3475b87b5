import Tallylot.Data.Decimal
import Tallylot.Data.Json

/-!
# Assertion — subjects and asserted values

A subject is a kind and a key of nested tuples.  Records refer to each other by ids that are JSON
texts or hashes of JSON texts; the hash and the text of a subject that sorts the states are the
environment of the kernel builders.
-/

namespace Tallylot
namespace Domain

open Data

/-! ## Subjects -/

/-- The values that subject keys are made of. -/
inductive RefValue
  | none
  | bool (b : Bool)
  | int (n : Int)
  | str (s : String)
  | tuple (items : List RefValue)
  deriving Repr

namespace RefValue

mutual

def decEq : (a b : RefValue) → Decidable (a = b)
  | none, none => isTrue rfl
  | bool a, bool b =>
      if h : a = b then isTrue (by rw [h]) else isFalse (by simpa using h)
  | int a, int b =>
      if h : a = b then isTrue (by rw [h]) else isFalse (by simpa using h)
  | str a, str b =>
      if h : a = b then isTrue (by rw [h]) else isFalse (by simpa using h)
  | tuple as, tuple bs =>
      match decEqItems as bs with
      | isTrue h => isTrue (by rw [h])
      | isFalse h => isFalse (by simpa using h)
  | none, bool _ | none, int _ | none, str _ | none, tuple _ => isFalse (by simp)
  | bool _, none | bool _, int _ | bool _, str _ | bool _, tuple _ => isFalse (by simp)
  | int _, none | int _, bool _ | int _, str _ | int _, tuple _ => isFalse (by simp)
  | str _, none | str _, bool _ | str _, int _ | str _, tuple _ => isFalse (by simp)
  | tuple _, none | tuple _, bool _ | tuple _, int _ | tuple _, str _ => isFalse (by simp)

def decEqItems : (as bs : List RefValue) → Decidable (as = bs)
  | [], [] => isTrue rfl
  | a :: as, b :: bs =>
      match decEq a b, decEqItems as bs with
      | isTrue h, isTrue h' => isTrue (by rw [h, h'])
      | isFalse h, _ => isFalse (by simp [h])
      | _, isFalse h => isFalse (by simp [h])
  | [], _ :: _ => isFalse (by simp)
  | _ :: _, [] => isFalse (by simp)

end

instance : DecidableEq RefValue := decEq

mutual

/-- `_json_ready` -/
def jsonReady : RefValue → Json
  | none => Json.null
  | bool b => Json.bool b
  | int n => Json.int n
  | str s => Json.str s
  | tuple items => Json.arr (jsonReadyItems items)

def jsonReadyItems : List RefValue → List Json
  | [] => []
  | item :: items => item.jsonReady :: jsonReadyItems items

end

end RefValue

structure SubjectRef where
  kind : String
  key : List RefValue
  deriving DecidableEq, Repr

/-- `_subject_ref_payload` -/
def SubjectRef.payload (subjectRef : SubjectRef) : Json :=
  Json.arr [Json.str subjectRef.kind, Json.arr (RefValue.jsonReadyItems subjectRef.key)]

/-- The subject of a held position. -/
def positionSubjectRef (beneficialOwnerRef locationRef instrumentRef : String) : SubjectRef where
  kind := "position"
  key :=
    [ RefValue.tuple [RefValue.str beneficialOwnerRef],
      RefValue.tuple [RefValue.str locationRef],
      RefValue.tuple [RefValue.str instrumentRef],
      RefValue.none,
      RefValue.str "held_position" ]

/-! ## Values -/

structure QuantityValue where
  quantity : Decimal
  subjectRef : SubjectRef
  deriving DecidableEq, Repr

inductive AssertionValue
  | quantity (value : QuantityValue)
  | money (amount : Decimal) (currency : String)
  | owner (legalOwnerRef beneficialOwnerRef counterpartyRef : String)
  | location (locationRef : String)
  deriving DecidableEq, Repr

/-- What the kernel builders take from outside. -/
structure KernelEnvironment where
  sha256 : String → String
  /-- `str(subject_ref)` -/
  subjectText : SubjectRef → String
  /-- `repr(text)` -/
  repr : String → String
  upper : String → String
  lower : String → String

namespace AssertionValue

/-- `assertion_value_payload` -/
def payload : AssertionValue → Json
  | quantity value =>
      Json.arr
        [ Json.str "quantity",
          Json.arr [Json.str value.quantity.format, value.subjectRef.payload] ]
  | money amount currency =>
      Json.arr [Json.str "money", Json.arr [Json.str amount.format, Json.str currency]]
  | owner legalOwnerRef beneficialOwnerRef counterpartyRef =>
      Json.arr [Json.str "owner", Json.strs [legalOwnerRef, beneficialOwnerRef, counterpartyRef]]
  | location locationRef => Json.arr [Json.str "location", Json.strs [locationRef]]

/-- `assertion_value_fingerprint` -/
def fingerprint (env : KernelEnvironment) (value : AssertionValue) : String :=
  env.sha256 (Json.dumps value.payload)

end AssertionValue

/-- `_stable_product_id` -/
def stableProductId (env : KernelEnvironment) (components : Json) : String :=
  env.sha256 (Json.dumps components)

end Domain
end Tallylot
