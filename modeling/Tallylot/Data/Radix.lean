import Mathlib.Data.List.Lex
import Mathlib.Data.Nat.Digits.Defs
import Mathlib.Data.Nat.Init
import Mathlib.Tactic.Common

/-!
# Radix — numbers by digits of a fixed width

`digits base width value` are the last `width` digits of a number, the most significant first.  Below
`base ^ width` they decide the number, and their lexicographic order is the order of the numbers
(`digits_lt_iff`).  `ofDigits` reads a number from its digits.
-/

namespace Tallylot
namespace Data
namespace Radix

/-- The digits of a number, the most significant first. -/
def digits (base : Nat) : Nat → Nat → List Nat
  | 0, _ => []
  | width + 1, value => value / base ^ width % base :: digits base width (value % base ^ width)

/-- The number of some digits, the most significant first. -/
def ofDigits (base : Nat) (ds : List Nat) : Nat := Nat.ofDigits base ds.reverse

section

variable {base width a b : Nat}

@[simp] lemma length_digits (base width value : Nat) : (digits base width value).length = width := by
  induction width generalizing value with
  | zero => rfl
  | succ width ih => rw [digits, List.length_cons, ih]

lemma mem_digits_lt (hbase : 0 < base) {value d : Nat} (h : d ∈ digits base width value) :
    d < base := by
  induction width generalizing value with
  | zero => cases h
  | succ width ih =>
      rcases List.mem_cons.1 h with rfl | h
      · exact Nat.mod_lt _ hbase
      · exact ih h

/-- Each digit is the number without the digits behind it. -/
theorem digits_eq_map (base width value : Nat) :
    digits base width value =
      ((List.range width).reverse.map (fun shift => value / base ^ shift % base)) := by
  induction width generalizing value with
  | zero => rfl
  | succ width ih =>
      rw [digits, ih, List.range_succ, List.reverse_concat, List.map_cons]
      congr 1
      refine List.map_congr_left (fun shift hshift => ?_)
      rw [List.mem_reverse, List.mem_range] at hshift
      -- The digits in front do not reach down to this one.
      have hsplit : base ^ width = base ^ shift * base ^ (width - shift) := by
        rw [← Nat.pow_add, Nat.add_sub_cancel' (Nat.le_of_lt hshift)]
      have hdvd : base ∣ base ^ (width - shift) :=
        dvd_pow_self base (Nat.sub_ne_zero_of_lt hshift)
      rw [hsplit, Nat.mod_mul_right_div_self, Nat.mod_mod_of_dvd _ hdvd]

/-- Numbers compare by what is in front, then by the rest. -/
lemma lt_iff_div_mod (q a b : Nat) :
    a < b ↔ a / q < b / q ∨ a / q = b / q ∧ a % q < b % q := by
  have ha := Nat.div_add_mod a q
  have hb := Nat.div_add_mod b q
  constructor
  · intro h
    rcases Nat.lt_or_eq_of_le (Nat.div_le_div_right (c := q) (Nat.le_of_lt h)) with hlt | heq
    · exact Or.inl hlt
    · refine Or.inr ⟨heq, ?_⟩
      rw [heq] at ha
      omega
  · rintro (hlt | ⟨heq, hlt⟩)
    · exact Nat.lt_of_not_le (fun hle => absurd hlt (Nat.not_lt.2 (Nat.div_le_div_right hle)))
    · rw [heq] at ha
      omega

/-- The order of the digits is the order of the numbers. -/
theorem digits_lt_iff (ha : a < base ^ width) (hb : b < base ^ width) :
    digits base width a < digits base width b ↔ a < b := by
  induction width generalizing a b with
  | zero =>
      have hzero : a = b := by
        rw [Nat.pow_zero, Nat.lt_one_iff] at ha hb
        rw [ha, hb]
      rw [hzero]
      exact iff_of_false (List.not_lt_nil _) (Nat.lt_irrefl b)
  | succ width ih =>
      have hbase : 0 < base ^ width := by
        rcases Nat.eq_zero_or_pos (base ^ width) with hzero | hpos
        · rw [Nat.pow_succ, hzero, Nat.zero_mul] at ha
          exact absurd ha (Nat.not_lt_zero a)
        · exact hpos
      have hfront : ∀ {c : Nat}, c < base ^ (width + 1) → c / base ^ width % base = c / base ^ width :=
        fun hc => Nat.mod_eq_of_lt (Nat.div_lt_of_lt_mul (by rwa [Nat.pow_succ] at hc))
      rw [digits, digits, List.cons_lt_cons_iff, hfront ha, hfront hb,
        ih (Nat.mod_lt _ hbase) (Nat.mod_lt _ hbase)]
      exact (lt_iff_div_mod _ a b).symm

/-! ## Reading digits -/

lemma ofDigits_cons (base d : Nat) (ds : List Nat) :
    ofDigits base (d :: ds) = d * base ^ ds.length + ofDigits base ds := by
  rw [ofDigits, List.reverse_cons, Nat.ofDigits_append, Nat.ofDigits_singleton, List.length_reverse,
    Nat.add_comm, Nat.mul_comm, ofDigits]

lemma ofDigits_lt (hbase : 1 < base) {ds : List Nat} (hds : ∀ d ∈ ds, d < base) :
    ofDigits base ds < base ^ ds.length := by
  have hlt := Nat.ofDigits_lt_base_pow_length hbase
    (fun d hd => hds d (List.mem_reverse.1 hd) : ∀ d ∈ ds.reverse, d < base)
  rwa [List.length_reverse] at hlt

theorem digits_ofDigits (hbase : 1 < base) {ds : List Nat} (hds : ∀ d ∈ ds, d < base) :
    digits base ds.length (ofDigits base ds) = ds := by
  induction ds with
  | nil => rfl
  | cons d ds ih =>
      have hrest := ofDigits_lt hbase (fun e he => hds e (List.mem_cons_of_mem d he))
      have hpos : 0 < base ^ ds.length := Nat.pow_pos (Nat.lt_trans Nat.zero_lt_one hbase)
      rw [List.length_cons, digits, ofDigits_cons, Nat.mul_comm, Nat.mul_add_div hpos,
        Nat.div_eq_of_lt hrest, Nat.add_zero, Nat.mod_eq_of_lt (hds d List.mem_cons_self),
        Nat.mul_add_mod, Nat.mod_eq_of_lt hrest, ih (fun e he => hds e (List.mem_cons_of_mem d he))]

/-- Texts of digits of one length compare like their numbers. -/
theorem ofDigits_lt_iff (hbase : 1 < base) {ds es : List Nat} (hlength : ds.length = es.length)
    (hds : ∀ d ∈ ds, d < base) (hes : ∀ e ∈ es, e < base) :
    ofDigits base ds < ofDigits base es ↔ ds < es := by
  have hd := ofDigits_lt hbase hds
  have he := ofDigits_lt hbase hes
  rw [hlength] at hd
  rw [← digits_lt_iff hd he, ← hlength, digits_ofDigits hbase hds, hlength, digits_ofDigits hbase hes]

end

/-- A strictly monotone spelling of the digits keeps their order. -/
theorem map_lt_map_iff {α β : Type} [LT α] [LT β] {f : α → β} {xs ys : List α}
    (hlt : ∀ x ∈ xs, ∀ y ∈ ys, f x < f y ↔ x < y) (heq : ∀ x ∈ xs, ∀ y ∈ ys, f x = f y ↔ x = y) :
    xs.map f < ys.map f ↔ xs < ys := by
  induction xs generalizing ys with
  | nil =>
      cases ys with
      | nil => exact iff_of_false (List.not_lt_nil _) (List.not_lt_nil _)
      | cons y ys => exact iff_of_true (List.nil_lt_cons _ _) (List.nil_lt_cons _ _)
  | cons x xs ih =>
      cases ys with
      | nil => exact iff_of_false (List.not_lt_nil _) (List.not_lt_nil _)
      | cons y ys =>
          rw [List.map_cons, List.map_cons, List.cons_lt_cons_iff, List.cons_lt_cons_iff,
            hlt x List.mem_cons_self y List.mem_cons_self,
            heq x List.mem_cons_self y List.mem_cons_self,
            ih (fun x' hx y' hy => hlt x' (List.mem_cons_of_mem _ hx) y' (List.mem_cons_of_mem _ hy))
              (fun x' hx y' hy => heq x' (List.mem_cons_of_mem _ hx) y' (List.mem_cons_of_mem _ hy))]

end Radix
end Data
end Tallylot
