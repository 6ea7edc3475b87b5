import Tallylot.Data.Json
import Tallylot.Data.Text

/-!
# Decoding — records from texts

Decoders read columns of a row, fields of an object and members of an enumeration, and build records
whose constructors check and normalise their fields.  This module holds what they share: the ways in
which they fail, and one lemma for each kind of reading.

A `Constructor` is a checking and normalising constructor together with the fields that its values
show.  A `Value` is what some fields construct; constructing it again from its own fields gives it
back.
-/

namespace Tallylot
namespace Data

/-! ## Failures -/

/-- The exceptions that decoding raises. -/
inductive DecodeError
  /-- `ValueError`, also for texts that are no JSON, no time or no member of an enumeration. -/
  | value (message : String)
  /-- `KeyError`, for a missing column. -/
  | key (name : String)
  /-- `decimal.InvalidOperation`, which is no `ValueError`. -/
  | invalidOperation
  /-- `decimal.Overflow`, which is no `ValueError` and no `InvalidOperation`. -/
  | overflow
  deriving DecidableEq, Repr

abbrev Decoded (α : Type*) := Except DecodeError α

/-- `raise ValueError` unless a condition holds. -/
def require (condition : Prop) [Decidable condition] (message : String) : Decoded Unit :=
  if condition then .ok () else .error (.value message)

lemma require_eq_ok_iff {condition : Prop} [Decidable condition] {message : String} {u : Unit} :
    require condition message = .ok u ↔ condition := by
  by_cases h : condition
  · simp [require, h]
  · simp [require, h]

/-- What an option holds, else a `ValueError`. -/
def requireSome {α : Type*} (value : Option α) (message : String) : Decoded α :=
  match value with
  | some a => .ok a
  | none => .error (.value message)

@[simp] lemma requireSome_some {α : Type*} (a : α) (message : String) :
    requireSome (some a) message = .ok a := rfl

lemma requireSome_eq_ok_iff {α : Type*} {value : Option α} {message : String} {a : α} :
    requireSome value message = .ok a ↔ value = some a := by
  cases value with
  | none => exact iff_of_false (fun h => by cases h) (fun h => by cases h)
  | some b => rw [requireSome_some, Except.ok.injEq, Option.some.injEq]

lemma bind_ok {α β : Type} (a : α) (f : α → Decoded β) :
    ((.ok a : Decoded α) >>= f) = f a := rfl

lemma bind_eq_ok_iff {α β : Type} {x : Decoded α} {f : α → Decoded β} {b : β} :
    (x >>= f) = .ok b ↔ ∃ a, x = .ok a ∧ f a = .ok b := by
  cases x with
  | error e => simp [bind, Except.bind]
  | ok a => simp [bind, Except.bind]

/-- A result that is there, with what was checked of it. -/
lemma exists_of_any {α : Type} {x : Decoded α} {p : α → Bool} (h : x.toOption.any p = true) :
    ∃ a, x = .ok a ∧ p a = true := by
  cases x with
  | error e => cases h
  | ok a => exact ⟨a, rfl, h⟩

/-- Run a check on every element, in order. -/
def checkAll {α : Type*} (check : α → Decoded Unit) : List α → Decoded Unit
  | [] => .ok ()
  | x :: xs => do
      check x
      checkAll check xs

lemma checkAll_eq_ok_iff {α : Type*} {check : α → Decoded Unit} {xs : List α} {u : Unit} :
    checkAll check xs = .ok u ↔ ∀ x ∈ xs, check x = .ok () := by
  induction xs with
  | nil => simp [checkAll]
  | cons x xs ih =>
      rw [checkAll, bind_eq_ok_iff, List.forall_mem_cons]
      exact ⟨fun ⟨_, hx, hxs⟩ => ⟨hx, ih.1 hxs⟩, fun ⟨hx, hxs⟩ => ⟨(), hx, ih.2 hxs⟩⟩

/-! ## Rows -/

/-- A row as `csv.DictReader` gives it. -/
abbrev Row := List (String × String)

namespace Row

/-- `row[column]` -/
def text (row : Row) (column : String) : Decoded String :=
  match row.lookup column with
  | some text => .ok text
  | none => .error (.key column)

/-- `row.get(column, default)` -/
def getD (row : Row) (column default : String) : String := (row.lookup column).getD default

end Row

/-! ## Enumerations -/

section Enumeration

variable {α : Type*} {members : List α} {value : α → String}

/-- The member of an enumeration with a value. -/
def ofValue (members : List α) (value : α → String) (text : String) : Option α :=
  members.find? (fun a => value a = text)

/-- The value of a member is read as that member. -/
theorem ofValue_value (hnodup : (members.map value).Nodup) {a : α} (ha : a ∈ members) :
    ofValue members value (value a) = some a := by
  have hinj := List.inj_on_of_nodup_map hnodup
  unfold ofValue
  cases hfound : members.find? (fun b => value b = value a) with
  | none =>
      have hno := List.find?_eq_none.1 hfound a ha
      simp at hno
  | some b =>
      have hvalue : value b = value a := by simpa using List.find?_some hfound
      rw [hinj (List.mem_of_find?_eq_some hfound) ha hvalue]

end Enumeration

/-! ## Constructors -/

/-- A constructor that checks and normalises, and the fields that its values show. -/
structure Constructor (ρ α : Type*) where
  make : ρ → Decoded α
  fields : α → ρ
  settled : ∀ r a, make r = .ok a → make (fields a) = .ok a

namespace Constructor

variable {ρ α : Type*} (c : Constructor ρ α)

/-- Values that the constructor returns for some fields. -/
def Accepted (a : α) : Prop := ∃ r, c.make r = .ok a

theorem make_fields {a : α} : c.Accepted a → c.make (c.fields a) = .ok a := by
  rintro ⟨r, hr⟩
  exact c.settled r a hr

/-- The objects of a class: nothing else can be built. -/
def Value := { a : α // c.Accepted a }

lemma value_ext {v w : c.Value} : v.val = w.val → v = w := Subtype.ext

/-- Call the constructor. -/
def build (r : ρ) : Decoded c.Value :=
  match h : c.make r with
  | .ok a => .ok ⟨a, r, h⟩
  | .error e => .error e

theorem build_of_make {r : ρ} {a : α} (h : c.make r = .ok a) : c.build r = .ok ⟨a, r, h⟩ := by
  unfold build
  split
  · rename_i b hb
    have hab : b = a := Except.ok.inj (hb.symm.trans h)
    subst hab
    rfl
  · rename_i e he
    exact absurd (he.symm.trans h) (by simp)

lemma make_of_build {r : ρ} {v : c.Value} (h : c.build r = .ok v) : c.make r = .ok v.val := by
  unfold build at h
  split at h
  · rename_i a ha
    cases h
    exact ha
  · cases h

/-- An object is built again from its own fields. -/
theorem build_fields (v : c.Value) : c.build (c.fields v.val) = .ok v :=
  c.build_of_make (c.make_fields v.property)

end Constructor

/-- A constructor that checks its fields and leaves them as they are. -/
def checkedConstructor {α : Type} (validate : α → Decoded Unit) : Constructor α α where
  make := fun a => do
    validate a
    return a
  fields := id
  settled := by
    intro r a h
    rcases bind_eq_ok_iff.1 h with ⟨_, _, hr⟩
    cases hr
    exact h

lemma checkedConstructor_accepted {α : Type} {validate : α → Decoded Unit} {a : α} :
    (checkedConstructor validate).Accepted a ↔ validate a = .ok () := by
  constructor
  · rintro ⟨r, h⟩
    rcases bind_eq_ok_iff.1 h with ⟨_, hvalid, hr⟩
    cases hr
    exact hvalid
  · intro h
    exact ⟨a, bind_eq_ok_iff.2 ⟨(), h, rfl⟩⟩

end Data
end Tallylot
