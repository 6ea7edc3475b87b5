import Tallylot.Data.Decoding
import Tallylot.Data.Parts

/-!
# Attempts — what `except ValueError` catches

A computation is catchable if every failure of it is a `ValueError`; `attempt` then returns a value or
the message of the failure, and raises exactly where something else fails.  Sequences and loops are
catchable as far as they run: what a failure skips does not matter.
-/

namespace Tallylot
namespace Data

/-- `try` with `except ValueError` -/
def attempt {α : Type} : Decoded α → Decoded (Sum α String)
  | .ok a => .ok (.inl a)
  | .error (.value message) => .ok (.inr message)
  | .error e => .error e

/-- Every failure is a `ValueError`. -/
def Catchable {α : Type*} (x : Decoded α) : Prop := ∀ e, x = .error e → ∃ message, e = .value message

variable {α β : Type}

lemma attempt_eq_inl_iff {x : Decoded α} {a : α} : attempt x = .ok (.inl a) ↔ x = .ok a := by
  cases x with
  | ok b => rw [attempt, Except.ok.injEq, Except.ok.injEq, Sum.inl.injEq]
  | error e =>
      cases e with
      | value message => exact iff_of_false (fun h => by cases h) (fun h => by cases h)
      | key name => exact iff_of_false (fun h => by cases h) (fun h => by cases h)
      | invalidOperation => exact iff_of_false (fun h => by cases h) (fun h => by cases h)
      | overflow => exact iff_of_false (fun h => by cases h) (fun h => by cases h)

lemma not_catchable_key {name : String} : ¬Catchable (.error (.key name) : Decoded α) := by
  intro h
  rcases h _ rfl with ⟨_, hvalue⟩
  cases hvalue

@[simp] lemma not_catchable_invalidOperation : ¬Catchable (.error .invalidOperation : Decoded α) := by
  intro h
  rcases h _ rfl with ⟨_, hvalue⟩
  cases hvalue

lemma not_catchable_overflow : ¬Catchable (.error .overflow : Decoded α) := by
  intro h
  rcases h _ rfl with ⟨_, hvalue⟩
  cases hvalue

theorem exists_attempt_iff {x : Decoded α} : (∃ result, attempt x = .ok result) ↔ Catchable x := by
  cases x with
  | ok a => exact iff_of_true ⟨_, rfl⟩ (fun e h => by cases h)
  | error e =>
      cases e with
      | value message =>
          refine iff_of_true ⟨_, rfl⟩ ?_
          intro e h
          exact ⟨message, (Except.error.inj h).symm⟩
      | key name => exact iff_of_false (fun ⟨_, h⟩ => by cases h) not_catchable_key
      | invalidOperation => exact iff_of_false (fun ⟨_, h⟩ => by cases h) not_catchable_invalidOperation
      | overflow => exact iff_of_false (fun ⟨_, h⟩ => by cases h) not_catchable_overflow

/-! ## Single steps -/

@[simp] lemma catchable_ok {a : α} : Catchable (.ok a : Decoded α) := fun e h => by cases h

@[simp] lemma catchable_pure {a : α} : Catchable (pure a : Decoded α) := fun e h => by cases h

@[simp] lemma catchable_value {message : String} :
    Catchable (.error (.value message) : Decoded α) :=
  fun _ h => ⟨message, (Except.error.inj h).symm⟩

lemma catchable_require {condition : Prop} [Decidable condition] {message : String} :
    Catchable (require condition message) := by
  unfold require
  split_ifs
  · exact catchable_ok
  · exact catchable_value

lemma catchable_requireSome {value : Option α} {message : String} :
    Catchable (requireSome value message) := by
  cases value with
  | none => exact catchable_value
  | some a => exact catchable_ok

/-- What follows a step counts only where the step succeeds. -/
theorem catchable_bind_iff {x : Decoded α} {f : α → Decoded β} :
    Catchable (x >>= f) ↔ Catchable x ∧ ∀ a, x = .ok a → Catchable (f a) := by
  cases x with
  | ok a =>
      constructor
      · intro h
        exact ⟨catchable_ok, fun b hb => Except.ok.inj hb ▸ h⟩
      · intro h
        exact h.2 a rfl
  | error e =>
      constructor
      · intro h
        refine ⟨?_, fun a ha => by cases ha⟩
        intro e' he'
        exact h e' (congrArg Except.error (Except.error.inj he'))
      · intro h e' he'
        exact h.1 e' (congrArg Except.error (Except.error.inj he'))

lemma catchable_bind {x : Decoded α} {f : α → Decoded β} (hx : Catchable x)
    (hf : ∀ a, Catchable (f a)) : Catchable (x >>= f) :=
  catchable_bind_iff.2 ⟨hx, fun a _ => hf a⟩

/-! ## Failures that are never caught -/

/-- No failure is a `ValueError`. -/
def Uncaught {α : Type*} (x : Decoded α) : Prop := ∀ message, x ≠ .error (.value message)

lemma uncaught_ok {a : α} : Uncaught (.ok a : Decoded α) := fun _ h => by cases h

lemma uncaught_pure {a : α} : Uncaught (pure a : Decoded α) := fun _ h => by cases h

lemma uncaught_invalidOperation : Uncaught (.error .invalidOperation : Decoded α) :=
  fun _ h => by cases h

lemma uncaught_overflow : Uncaught (.error .overflow : Decoded α) := fun _ h => by cases h

lemma uncaught_bind {x : Decoded α} {f : α → Decoded β} (hx : Uncaught x)
    (hf : ∀ a, Uncaught (f a)) : Uncaught (x >>= f) := by
  cases x with
  | ok a => exact hf a
  | error e =>
      intro message h
      exact hx message (congrArg Except.error (Except.error.inj h))

/-- What is never caught is catchable only if it does not fail. -/
theorem catchable_iff_of_uncaught {x : Decoded α} (h : Uncaught x) :
    Catchable x ↔ ∃ a, x = .ok a := by
  cases x with
  | ok a => exact iff_of_true catchable_ok ⟨a, rfl⟩
  | error e =>
      refine iff_of_false ?_ (fun ⟨_, h⟩ => by cases h)
      intro hcatchable
      rcases hcatchable e rfl with ⟨message, rfl⟩
      exact h message rfl

/-! ## Loops -/

lemma catchable_mapM {f : α → Decoded β} {xs : List α} (h : ∀ x ∈ xs, Catchable (f x)) :
    Catchable (xs.mapM f) := by
  induction xs with
  | nil => exact catchable_ok
  | cons x xs ih =>
      rw [List.mapM_cons]
      exact catchable_bind (h x List.mem_cons_self) fun _ =>
        catchable_bind (ih fun y hy => h y (List.mem_cons_of_mem _ hy)) fun _ => catchable_pure

lemma catchable_foldlM {f : β → α → Decoded β} {xs : List α} (h : ∀ b, ∀ x ∈ xs, Catchable (f b x)) :
    ∀ b, Catchable (xs.foldlM f b) := by
  induction xs with
  | nil => exact fun b => catchable_pure
  | cons x xs ih =>
      intro b
      rw [List.foldlM_cons]
      exact catchable_bind (h b x List.mem_cons_self)
        (ih fun c y hy => h c y (List.mem_cons_of_mem _ hy))

lemma catchable_checkAll {check : α → Decoded Unit} {xs : List α} (h : ∀ x ∈ xs, Catchable (check x)) :
    Catchable (checkAll check xs) := by
  induction xs with
  | nil => exact catchable_ok
  | cons x xs ih =>
      exact catchable_bind (h x List.mem_cons_self) fun _ =>
        ih fun y hy => h y (List.mem_cons_of_mem _ hy)

/-- Results of a loop relate to what they were computed from. -/
lemma forall₂_of_mapM {f : α → Decoded β} {related : α → β → Prop} {xs : List α} {ys : List β}
    (h : xs.mapM f = .ok ys) (hrelated : ∀ x y, f x = .ok y → related x y) :
    List.Forall₂ related xs ys := by
  rcases mapM_ok_pairs h with ⟨pairs, rfl, rfl, hpairs⟩
  rw [List.forall₂_map_left_iff, List.forall₂_map_right_iff, List.forall₂_same]
  exact fun p hp => hrelated p.1 p.2 (hpairs p hp)

lemma exists_ok_of_mapM {f : α → Decoded β} {xs : List α} {ys : List β} (h : xs.mapM f = .ok ys)
    {x : α} (hx : x ∈ xs) : ∃ y, f x = .ok y := by
  have hrelated : List.Forall₂ (fun x y => f x = .ok y) xs ys := forall₂_of_mapM h fun _ _ => id
  rcases exists_right_of_forall₂ hrelated hx with ⟨y, _, hy⟩
  exact ⟨y, hy⟩

/-! ## Selecting -/

lemma uncaught_filterM {p : α → Decoded Bool} {xs : List α} (h : ∀ x, Uncaught (p x)) :
    Uncaught (xs.filterM p) := by
  have haux : ∀ acc, Uncaught (xs.filterAuxM p acc) := by
    induction xs with
    | nil => exact fun acc => uncaught_pure
    | cons x xs ih => exact fun acc => uncaught_bind (h x) fun b => ih _
  exact uncaught_bind (haux []) fun _ => uncaught_pure

/-- A selection has looked at every element, and keeps those that it accepts. -/
lemma of_filterM {p : α → Decoded Bool} {xs ys : List α} (h : xs.filterM p = .ok ys) :
    (∀ x ∈ xs, ∃ b, p x = .ok b) ∧ ∀ y ∈ ys, y ∈ xs ∧ p y = .ok true := by
  have haux : ∀ acc zs, xs.filterAuxM p acc = .ok zs →
      (∀ x ∈ xs, ∃ b, p x = .ok b) ∧ ∀ y ∈ zs, y ∈ acc ∨ y ∈ xs ∧ p y = .ok true := by
    clear h
    induction xs with
    | nil =>
        intro acc zs h
        rw [← Except.ok.inj h]
        exact ⟨fun x hx => absurd hx List.not_mem_nil, fun y hy => Or.inl hy⟩
    | cons x xs ih =>
        intro acc zs h
        rcases bind_eq_ok_iff.1 h with ⟨b, hb, hrest⟩
        rcases ih _ _ hrest with ⟨hall, hmem⟩
        refine ⟨List.forall_mem_cons.2 ⟨⟨b, hb⟩, hall⟩, fun y hy => ?_⟩
        rcases hmem y hy with hacc | ⟨hxs, hp⟩
        · cases b with
          | false => exact Or.inl hacc
          | true =>
              rcases List.mem_cons.1 hacc with rfl | hacc
              · exact Or.inr ⟨List.mem_cons_self, hb⟩
              · exact Or.inl hacc
        · exact Or.inr ⟨List.mem_cons_of_mem _ hxs, hp⟩
  rcases bind_eq_ok_iff.1 h with ⟨zs, hzs, hreverse⟩
  rcases haux [] zs hzs with ⟨hall, hmem⟩
  refine ⟨hall, fun y hy => ?_⟩
  rw [← Except.ok.inj hreverse, List.mem_reverse] at hy
  exact (hmem y hy).resolve_left List.not_mem_nil

lemma exists_filterM {p : α → Decoded Bool} {xs : List α} (h : ∀ x ∈ xs, ∃ b, p x = .ok b) :
    ∃ ys, xs.filterM p = .ok ys := by
  have haux : ∀ acc, ∃ zs, xs.filterAuxM p acc = .ok zs := by
    induction xs with
    | nil => exact fun acc => ⟨acc, rfl⟩
    | cons x xs ih =>
        intro acc
        rcases h x List.mem_cons_self with ⟨b, hb⟩
        rw [List.filterAuxM, hb, bind_ok]
        exact ih (fun y hy => h y (List.mem_cons_of_mem _ hy)) _
  rcases haux [] with ⟨zs, hzs⟩
  exact ⟨zs.reverse, bind_eq_ok_iff.2 ⟨zs, hzs, rfl⟩⟩

/-! ## Constructors -/

lemma catchable_build {ρ : Type} {c : Constructor ρ α} {fields : ρ} (h : Catchable (c.make fields)) :
    Catchable (c.build fields) := by
  intro e he
  unfold Constructor.build at he
  split at he
  · cases he
  · rename_i e' he'
    exact h e (he'.trans (congrArg Except.error (Except.error.inj he)))

end Data
end Tallylot
