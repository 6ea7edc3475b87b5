import Tallylot.Binance.Fields
import Tallylot.Data.Numeral

/-!
# Numerals — printed amounts and what is read of them

An amount is printed as a plain numeral with its asset behind it, without a delimiter.  The greedy
expression reads on through the digits that the asset begins with (`amountWithAsset_printed`).  A
numeral without an asset loses its last digit to one if two digits stand at its end
(`amountWithAsset_bare_iff`).
-/

namespace Tallylot
namespace Binance

open Data Data.Regex

/-! ## Reading a numeral -/

lemma isDigit_not_sign {c : Char} (h : c.isDigit = true) : (c = '+' || c = '-') = false := by
  rw [Bool.or_eq_false_iff, decide_eq_false_iff_not, decide_eq_false_iff_not]
  constructor
  · rintro rfl
    cases h
  · rintro rfl
    cases h

/-- What may stand behind a numeral that ends there. -/
def EndsNumeral (tail : List Char) : Prop := ∀ c ∈ tail.head?, c.isDigit = false ∧ c ≠ '.'

section Number

variable {α : Type} {k : Way → Option α} {a : α} {last : Option Char} {groups : Groups}
  {n : Numeral} {tail : List Char}

lemma head_chars (n : Numeral) : ∃ c rest, n.chars = c :: rest ∧ (c.isDigit = true ∨ c = '.') := by
  by_cases hfraction : n.fraction = []
  · have hne : n.whole ≠ [] := by
      have hne := n.nonempty
      rwa [hfraction, List.append_nil] at hne
    rcases List.exists_cons_of_ne_nil hne with ⟨c, rest, hwhole⟩
    refine ⟨c, rest, by simp [Numeral.chars, hfraction, hwhole], Or.inl (n.digits c ?_)⟩
    rw [hwhole]
    exact List.mem_append_left _ List.mem_cons_self
  · rcases hwhole : n.whole with _ | ⟨c, rest⟩
    · exact ⟨'.', n.fraction, by simp [Numeral.chars, hfraction, hwhole], Or.inr rfl⟩
    · refine ⟨c, rest ++ '.' :: n.fraction, by simp [Numeral.chars, hfraction, hwhole], Or.inl ?_⟩
      refine n.digits c ?_
      rw [hwhole]
      exact List.mem_append_left _ List.mem_cons_self

/-- The expression of numbers takes a numeral whole, if what follows is fine with that. -/
theorem numberPattern_first (htail : EndsNumeral tail)
    (hk : k ⟨groups, n.chars, tail⟩ = some a) :
    numberPattern.firstWith last groups (n.chars ++ tail) k = some a := by
  rcases head_chars n with ⟨c, rest, hchars, hc⟩
  have hsign : reach (some 1) (fun c => c = '+' || c = '-') (n.chars ++ tail) = 0 := by
    refine reach_eq_zero fun d hd => ?_
    rw [hchars] at hd
    cases hd
    rcases hc with hdigit | rfl
    · exact isDigit_not_sign hdigit
    · decide
  have htailDigit : ∀ c ∈ tail.head?, c.isDigit = false := fun c hc => (htail c hc).1
  have htailPoint : ∀ c ∈ tail.head?, decide (c = '.') = false :=
    fun c hc => decide_eq_false (htail c hc).2
  simp only [numberPattern, inOrder]
  rw [firstWith_seq, firstWith_many_zero hsign, firstWith_seq]
  by_cases hfraction : n.fraction = []
  · -- Without a point the first repetition leaves the last digit to the second one.
    have hdigits : ∀ c ∈ n.whole, c.isDigit = true :=
      fun c hc => n.digits c (List.mem_append_left _ hc)
    have hne : n.whole ≠ [] := by
      have hne := n.nonempty
      rwa [hfraction, List.append_nil] at hne
    have hwhole : n.chars = n.whole := by simp [Numeral.chars, hfraction]
    have hreach := reach_append hdigits htailDigit
    rcases List.eq_nil_or_concat n.whole with hnil | ⟨front, digit, hconcat⟩
    · exact absurd hnil hne
    rw [List.concat_eq_append] at hconcat
    rw [hwhole, hconcat] at hk ⊢
    rw [hconcat] at hreach hdigits
    have hdigit := hdigits digit (List.mem_append_right _ (List.mem_singleton.2 rfl))
    rw [List.length_append, List.length_singleton] at hreach
    refine firstWith_many_some (n := front.length) (Nat.zero_le _)
      (Nat.le_trans (Nat.le_succ _) (Nat.le_of_eq hreach.symm)) ?_ ?_
    · have hpoint : reach (some 1) (fun c => c = '.') (digit :: tail) = 0 :=
        reach_eq_zero fun d hd => by
          cases hd
          exact decide_eq_false (isDigit_ne_point hdigit)
      have hone : reach none Char.isDigit ([digit] ++ tail) = 1 :=
        reach_append (fun d hd => by rwa [List.mem_singleton.1 hd]) htailDigit
      rw [List.append_assoc, List.take_left, List.drop_left, List.singleton_append, firstWith_seq,
        firstWith_many_zero hpoint]
      refine firstWith_many_some (n := 1) (Nat.le_refl 1) (Nat.le_of_eq hone.symm) hk ?_
      intro m hm hmost
      rw [← List.singleton_append, hone] at hmost
      omega
    · intro m hm hmost
      have hle : m ≤ front.length + 1 := Nat.le_trans hmost (Nat.le_of_eq hreach)
      have hlength : m = (front ++ [digit]).length := by
        rw [List.length_append, List.length_singleton]
        omega
      rw [hlength, List.take_left, List.drop_left, firstWith_seq,
        firstWith_many_zero (reach_eq_zero htailPoint)]
      refine firstWith_many_none fun d hd hd' => ?_
      rw [reach_eq_zero htailDigit] at hd'
      omega
  · have hchars' : n.chars ++ tail = n.whole ++ '.' :: (n.fraction ++ tail) := by
      simp [Numeral.chars, hfraction]
    have hreach : reach none Char.isDigit (n.whole ++ '.' :: (n.fraction ++ tail)) = n.whole.length :=
      reach_append (fun c hc => n.digits c (List.mem_append_left _ hc))
        (fun c hc => by
          cases hc
          decide)
    have hpoint : reach (some 1) (fun c => c = '.') ('.' :: (n.fraction ++ tail)) = 1 := by
      simp [reach]
    have hfractionReach : reach none Char.isDigit (n.fraction ++ tail) = n.fraction.length :=
      reach_append (fun c hc => n.digits c (List.mem_append_right _ hc)) htailDigit
    have hchars'' : n.chars = n.whole ++ '.' :: n.fraction := by simp [Numeral.chars, hfraction]
    rw [hchars']
    rw [hchars''] at hk
    refine firstWith_many_some (n := n.whole.length) (Nat.zero_le _) (Nat.le_of_eq hreach.symm) ?_ ?_
    · rw [List.take_left, List.drop_left, firstWith_seq]
      refine firstWith_many_some (n := 1) (Nat.zero_le _) (Nat.le_of_eq hpoint.symm) ?_ ?_
      · refine firstWith_many_some (n := n.fraction.length) (List.length_pos_iff.2 hfraction)
          (Nat.le_of_eq hfractionReach.symm) ?_ ?_
        · rw [List.drop_succ_cons, List.drop_zero, List.take_left, List.drop_left]
          exact hk
        · intro m hm hmost
          rw [List.drop_succ_cons, List.drop_zero, hfractionReach] at hmost
          omega
      · intro m hm hmost
        have hle : m ≤ 1 := Nat.le_trans hmost (Nat.le_of_eq hpoint)
        omega
    · intro m hm hmost
      have hle : m ≤ n.whole.length := Nat.le_trans hmost (Nat.le_of_eq hreach)
      omega

end Number

/-! ## Amounts with an asset -/

/-- Upper-case letters and digits. -/
def isAssetChar (c : Char) : Bool := (65 ≤ c.toNat && c.toNat ≤ 90) || c.isDigit

/-- An asset's name: upper-case letters and digits, and a letter among them. -/
structure Asset where
  chars : List Char
  allowed : ∀ c ∈ chars, isAssetChar c = true
  letter : ∃ c ∈ chars, c.isDigit = false

namespace Asset

def name (a : Asset) : String := String.ofList a.chars

/-- The digits that the name begins with. -/
def leading (a : Asset) : List Char := a.chars.takeWhile Char.isDigit

def trailing (a : Asset) : List Char := a.chars.dropWhile Char.isDigit

lemma leading_isDigit (a : Asset) : ∀ c ∈ a.leading, c.isDigit = true :=
  fun _ hc => List.mem_takeWhile_imp hc

lemma trailing_ne_nil (a : Asset) : a.trailing ≠ [] := by
  intro hnil
  rcases a.letter with ⟨c, hc, hletter⟩
  rw [List.dropWhile_eq_nil_iff.1 hnil c hc] at hletter
  cases hletter

lemma chars_ne_nil (a : Asset) : a.chars ≠ [] := by
  rcases a.letter with ⟨c, hc, _⟩
  exact List.ne_nil_of_mem hc

lemma leading_append_trailing (a : Asset) : a.leading ++ a.trailing = a.chars :=
  List.takeWhile_append_dropWhile

lemma trailing_allowed (a : Asset) : ∀ c ∈ a.trailing, isAssetChar c = true :=
  fun c hc => a.allowed c ((List.dropWhile_suffix _).subset hc)

lemma head_trailing (a : Asset) : ∀ c ∈ a.trailing.head?, c.isDigit = false := by
  intro c hc
  have hne := a.trailing_ne_nil
  have hhead := List.head?_dropWhile_not Char.isDigit a.chars
  rw [trailing] at hc
  rw [hc] at hhead
  simpa using hhead

end Asset

lemma visible_of_isAssetChar {c : Char} (h : isAssetChar c = true) :
    33 ≤ c.toNat ∧ c.toNat ≤ 126 ∧ c ≠ '.' ∧ isAlphanumeric c = true := by
  rw [isAssetChar, Bool.or_eq_true] at h
  rcases h with hletter | hdigit
  · have hbounds : 65 ≤ c.toNat ∧ c.toNat ≤ 90 := by simpa using hletter
    refine ⟨by omega, by omega, ?_, ?_⟩
    · rintro rfl
      exact absurd hbounds (by decide)
    · simp [isAlphanumeric, isAsciiLetter, hbounds]
  · have hbounds : 48 ≤ c.toNat ∧ c.toNat ≤ 57 := by
      simp only [Char.isDigit, Bool.and_eq_true, decide_eq_true_eq] at hdigit
      exact hdigit
    exact ⟨by omega, by omega, isDigit_ne_point hdigit, by simp [isAlphanumeric, hdigit]⟩

lemma endsNumeral_trailing (a : Asset) : EndsNumeral a.trailing := by
  intro c hc
  refine ⟨a.head_trailing c hc, ?_⟩
  exact (visible_of_isAssetChar (a.trailing_allowed c (List.mem_of_mem_head? hc))).2.2.1

lemma strip_of_allowed {cs : List Char} (h : ∀ c ∈ cs, isAssetChar c = true) :
    strip (String.ofList cs) = String.ofList cs := by
  refine strip_eq_self fun c hc => ?_
  rw [String.toList_ofList] at hc
  have hvisible := visible_of_isAssetChar (h c hc)
  exact not_isSpaceChar_of_visible hvisible.1 hvisible.2.1

/-- The match of an amount: all digits in a row are the number's. -/
theorem fullMatch_printed (n : Numeral) {tail : List Char} (hne : tail ≠ [])
    (hallowed : ∀ c ∈ tail, isAssetChar c = true) (htail : EndsNumeral tail) :
    ∃ w, fullMatch amountPattern (String.ofList (n.chars ++ tail)) = some w ∧
      w.group "1" = String.ofList n.chars ∧ w.group "2" = String.ofList tail := by
  have hfront : reach none isSpaceChar (n.chars ++ tail) = 0 := by
    rcases head_chars n with ⟨c, rest, hchars, hc⟩
    refine reach_eq_zero fun d hd => ?_
    rw [hchars] at hd
    cases hd
    rcases hc with hdigit | rfl
    · exact not_isSpaceChar_of_isDigit hdigit
    · decide
  have hmiddle : reach none isSpaceChar tail = 0 := by
    refine reach_eq_zero fun c hc => ?_
    have hvisible := visible_of_isAssetChar (hallowed c (List.mem_of_mem_head? hc))
    exact not_isSpaceChar_of_visible hvisible.1 hvisible.2.1
  have hasset : reach none isAlphanumeric tail = tail.length := by
    have hreach := @reach_append _ _ [] (fun c hc =>
      (visible_of_isAssetChar (hallowed c hc)).2.2.2) (by simp)
    rwa [List.append_nil] at hreach
  refine ⟨⟨[("2", tail), ("1", n.chars)], n.chars ++ tail, []⟩, ?_, rfl, rfl⟩
  rw [fullMatch_eq, String.toList_ofList]
  simp only [amountPattern, inOrder]
  rw [firstWith_seq, firstWith_many_zero hfront, firstWith_seq, firstWith_group]
  refine numberPattern_first htail ?_
  rw [firstWith_seq, firstWith_many_zero hmiddle, firstWith_seq, firstWith_group]
  refine firstWith_many_some (n := tail.length) (List.length_pos_iff.2 hne)
    (Nat.le_of_eq hasset.symm) ?_ ?_
  · rw [List.take_length, List.drop_length, firstWith_many_zero rfl]
    simp [Way.followedBy]
  · intro m hm hmost
    have hle : m ≤ tail.length := Nat.le_trans hmost (Nat.le_of_eq hasset)
    omega

/-- `str.upper` leaves upper-case letters and digits of ASCII as they are. -/
def UpperKeeps (upper : String → String) : Prop :=
  ∀ cs : List Char, (∀ c ∈ cs, isAssetChar c = true) → upper (String.ofList cs) = String.ofList cs

/-- An amount is read on through the digits that its asset begins with. -/
theorem amountWithAsset_printed {upper : String → String} (hupper : UpperKeeps upper) (n : Numeral)
    (a : Asset) :
    amountWithAsset upper (String.ofList (n.chars ++ a.chars)) =
      .ok (some (n.extend a.leading a.leading_isDigit).value.quantize, String.ofList a.trailing) := by
  have hchars : n.chars ++ a.chars = (n.extend a.leading a.leading_isDigit).chars ++ a.trailing := by
    rw [Numeral.chars_extend, List.append_assoc, a.leading_append_trailing]
  rcases fullMatch_printed (n.extend a.leading a.leading_isDigit) a.trailing_ne_nil
    a.trailing_allowed (endsNumeral_trailing a) with ⟨w, hmatch, hnumber, hasset⟩
  rw [amountWithAsset, hchars, hmatch]
  dsimp only
  rw [hnumber, hasset, Numeral.parseDecimal_numeral, hupper _ a.trailing_allowed]
  rfl

/-! ## Numerals without an asset -/

/-- The text ends in two digits. -/
def EndsInTwoDigits (cs : List Char) : Prop :=
  ∃ front c d, cs = front ++ [c, d] ∧ c.isDigit = true ∧ d.isDigit = true

/-- The ways of a pattern set no group and end in a digit. -/
def EndsInDigit (p : Pattern) : Prop :=
  ∀ last groups cs, ∀ w ∈ p.ways last groups cs,
    w.groups = groups ∧ ∃ front digit, w.taken = front ++ [digit] ∧ digit.isDigit = true

lemma EndsInDigit.after {q : Pattern} (h : EndsInDigit q) (least : Nat) (most : Option Nat)
    (accepts : Char → Bool) : EndsInDigit (.seq (.many least most accepts) q) := by
  intro last groups cs w hw
  rcases mem_ways_seq.1 hw with ⟨u, hu, v, hv, rfl⟩
  rcases mem_ways_many.1 hu with ⟨n, _, _, rfl⟩
  rcases h _ _ _ v hv with ⟨hgroups, front, digit, htaken, hdigit⟩
  refine ⟨hgroups, cs.take n ++ front, digit, ?_, hdigit⟩
  rw [Way.followedBy, htaken, List.append_assoc]

lemma endsInDigit_many : EndsInDigit (.many 1 none Char.isDigit) := by
  intro last groups cs w hw
  rcases mem_ways_many.1 hw with ⟨n, hleast, hmost, rfl⟩
  refine ⟨rfl, ?_⟩
  rcases List.eq_nil_or_concat (cs.take n) with hnil | ⟨front, digit, hconcat⟩
  · have hlength := length_take_of_reach hmost
    rw [hnil, List.length_nil] at hlength
    omega
  · rw [List.concat_eq_append] at hconcat
    refine ⟨front, digit, hconcat, accepts_of_mem_take hmost ?_⟩
    rw [hconcat]
    exact List.mem_append_right _ (List.mem_singleton.2 rfl)

lemma endsInDigit_numberPattern : EndsInDigit numberPattern :=
  ((endsInDigit_many.after _ _ _).after _ _ _).after _ _ _

/-- A match of a text without white space: a number that ends in a digit, and the asset. -/
lemma parts_of_mem_amountPattern {cs : List Char} {w : Way}
    (h : w ∈ amountPattern.ways none [] cs) (hrest : w.rest = [])
    (hspace : ∀ c ∈ cs, isSpaceChar c = false) :
    ∃ front digit asset, cs = front ++ digit :: asset ∧ digit.isDigit = true ∧ asset ≠ [] ∧
      (∀ c ∈ asset, isAlphanumeric c = true) ∧ w.group "2" = String.ofList asset := by
  have hwhole := taken_append_rest h
  rw [hrest, List.append_nil] at hwhole
  simp only [amountPattern, inOrder] at h
  rcases mem_ways_seq.1 h with ⟨before, hbefore, w₁, h₁, rfl⟩
  rcases mem_ways_many.1 hbefore with ⟨n₀, _, hn₀, rfl⟩
  rcases mem_ways_seq.1 h₁ with ⟨number, hnumber, w₂, h₂, rfl⟩
  rcases mem_ways_group.1 hnumber with ⟨v, hv, rfl⟩
  rcases endsInDigit_numberPattern _ _ _ v hv with ⟨_, front, digit, htaken, hdigit⟩
  rcases mem_ways_seq.1 h₂ with ⟨between, hbetween, w₃, h₃, rfl⟩
  rcases mem_ways_many.1 hbetween with ⟨n₁, _, hn₁, rfl⟩
  rcases mem_ways_seq.1 h₃ with ⟨asset, hasset, w₄, h₄, rfl⟩
  rcases mem_ways_group.1 hasset with ⟨u, hu, rfl⟩
  rcases mem_ways_many.1 hu with ⟨n₂, hleast, hn₂, rfl⟩
  rcases mem_ways_many.1 h₄ with ⟨n₃, _, hn₃, rfl⟩
  -- The three runs of white space are empty.
  have hbeforeNil : cs.take n₀ = [] := take_eq_nil_of_refused hn₀ hspace
  have hnumberWhole : v.taken ++ v.rest = cs.drop n₀ := taken_append_rest hv
  have hspace₁ : ∀ c ∈ v.rest, isSpaceChar c = false := by
    intro c hc
    have hmem : c ∈ cs.drop n₀ := by
      rw [← hnumberWhole]
      exact List.mem_append_right _ hc
    exact hspace c (List.mem_of_mem_drop hmem)
  have hbetweenNil : v.rest.take n₁ = [] := take_eq_nil_of_refused hn₁ hspace₁
  have hafterNil : (((v.rest.drop n₁).drop n₂).take n₃) = [] :=
    take_eq_nil_of_refused hn₃ fun c hc =>
      hspace₁ c (List.mem_of_mem_drop (List.mem_of_mem_drop hc))
  rw [List.drop_drop] at hafterNil
  have hsplit : cs = v.taken ++ (v.rest.drop n₁).take n₂ := by
    simpa [Way.followedBy, hbeforeNil, hbetweenNil, hafterNil] using hwhole.symm
  refine ⟨front, digit, (v.rest.drop n₁).take n₂, ?_, hdigit, ?_,
    fun c hc => accepts_of_mem_take hn₂ hc, rfl⟩
  · rw [hsplit, htaken, List.append_assoc, List.singleton_append]
  · rw [← List.length_pos_iff, length_take_of_reach hn₂]
    exact hleast

/-- A run of one character and more is taken whole by one of the ways of a repetition. -/
lemma mem_ways_many_append {least : Nat} {accepts : Char → Bool} {last : Option Char}
    {groups : Groups} {xs : List Char} (ys : List Char) (hall : ∀ c ∈ xs, accepts c = true)
    (hleast : least ≤ xs.length) :
    (⟨groups, xs, ys⟩ : Way) ∈ (Pattern.many least none accepts).ways last groups (xs ++ ys) :=
  mem_ways_many.2 ⟨xs.length, hleast, length_le_reach hall ys, by
    rw [List.take_left, List.drop_left]⟩

/-- Whatever stands behind it, a numeral is taken whole by one of the ways. -/
lemma mem_ways_numberPattern (n : Numeral) (last : Option Char) (groups : Groups)
    (tail : List Char) :
    (⟨groups, n.chars, tail⟩ : Way) ∈ numberPattern.ways last groups (n.chars ++ tail) := by
  simp only [numberPattern, inOrder]
  refine mem_ways_seq.2 ⟨⟨groups, [], n.chars ++ tail⟩,
    mem_ways_many.2 ⟨0, Nat.le_refl 0, Nat.zero_le _, rfl⟩, ?_⟩
  by_cases hfraction : n.fraction = []
  · -- The digits are the second repetition's, the first one and the point take nothing.
    have hchars : n.chars = n.whole := by simp [Numeral.chars, hfraction]
    have hne : n.whole ≠ [] := by
      have hne := n.nonempty
      rwa [hfraction, List.append_nil] at hne
    refine ⟨⟨groups, n.chars, tail⟩, mem_ways_seq.2 ⟨⟨groups, [], n.chars ++ tail⟩,
      mem_ways_many.2 ⟨0, Nat.le_refl 0, Nat.zero_le _, rfl⟩, ⟨groups, n.chars, tail⟩,
      mem_ways_seq.2 ⟨⟨groups, [], n.chars ++ tail⟩,
        mem_ways_many.2 ⟨0, Nat.le_refl 0, Nat.zero_le _, rfl⟩, ⟨groups, n.chars, tail⟩, ?_, rfl⟩,
      rfl⟩, rfl⟩
    rw [hchars]
    exact mem_ways_many_append tail n.whole_isDigit (List.length_pos_iff.2 hne)
  · have hchars : n.chars = n.whole ++ '.' :: n.fraction := by simp [Numeral.chars, hfraction]
    rw [hchars, List.append_assoc, List.cons_append]
    refine ⟨⟨groups, n.whole ++ '.' :: n.fraction, tail⟩,
      mem_ways_seq.2 ⟨⟨groups, n.whole, '.' :: (n.fraction ++ tail)⟩,
        mem_ways_many_append _ n.whole_isDigit (Nat.zero_le _),
        ⟨groups, '.' :: n.fraction, tail⟩,
        mem_ways_seq.2 ⟨⟨groups, ['.'], n.fraction ++ tail⟩,
          mem_ways_many.2 ⟨1, Nat.zero_le 1, by simp [reach], rfl⟩,
          ⟨groups, n.fraction, tail⟩,
          mem_ways_many_append tail n.fraction_isDigit (List.length_pos_iff.2 hfraction), rfl⟩,
        rfl⟩, rfl⟩

/-- Two digits at the end: without the last one it is a numeral still. -/
lemma exists_shorter {n : Numeral} (h : EndsInTwoDigits n.chars) :
    ∃ (m : Numeral) (d : Char), n.chars = m.chars ++ [d] ∧ d.isDigit = true := by
  rcases h with ⟨front, c, d, hsplit, hc, hd⟩
  have hlast : front ++ [c, d] = (front ++ [c]) ++ [d] := by simp
  by_cases hfraction : n.fraction = []
  · have hwhole : n.whole = (front ++ [c]) ++ [d] := by
      rw [← hlast, ← hsplit]
      simp [Numeral.chars, hfraction]
    refine ⟨⟨front ++ [c], [], fun x hx => n.whole_isDigit x ?_, by simp⟩, d, ?_, hd⟩
    · rw [hwhole]
      rw [List.append_nil] at hx
      exact List.mem_append_left _ hx
    · rw [hsplit, hlast]
      rfl
  · rcases List.eq_nil_or_concat n.fraction with hnil | ⟨before, x, hconcat⟩
    · exact absurd hnil hfraction
    rw [List.concat_eq_append] at hconcat
    have hchars : n.chars = (n.whole ++ '.' :: before) ++ [x] := by
      simp [Numeral.chars, hconcat]
    rcases List.append_inj' (hchars.symm.trans (hsplit.trans hlast)) rfl with ⟨hfront, hx⟩
    -- Of one digit behind the point there is none to spare.
    have hbefore : before ≠ [] := by
      rintro rfl
      rcases List.append_inj' hfront rfl with ⟨_, hpoint⟩
      cases hpoint
      cases hc
    refine ⟨⟨n.whole, before, fun y hy => n.digits y ?_, by simp [hbefore]⟩, d, ?_, hd⟩
    · rw [hconcat, ← List.append_assoc]
      exact List.mem_append_left _ hy
    · have hshorter : (n.whole ++ '.' :: before) ++ [x] = (n.whole ++ '.' :: before) ++ [d] :=
        congrArg _ hx
      have hplain : (if before = [] then n.whole else n.whole ++ '.' :: before) =
          n.whole ++ '.' :: before := if_neg hbefore
      exact hchars.trans (hshorter.trans (congrArg (· ++ [d]) hplain.symm))

/-- A number and a digit behind it are a match. -/
lemma fullMatch_isSome_of_endsInTwoDigits {n : Numeral} (h : EndsInTwoDigits n.chars) :
    (fullMatch amountPattern (String.ofList n.chars)).isSome = true := by
  rcases exists_shorter h with ⟨m, d, hchars, hd⟩
  rw [fullMatch, List.find?_isSome, String.toList_ofList, hchars]
  refine ⟨⟨[("2", [d]), ("1", m.chars)], m.chars ++ [d], []⟩, ?_, by simp⟩
  simp only [amountPattern, inOrder]
  refine mem_ways_seq.2 ⟨⟨[], [], m.chars ++ [d]⟩,
    mem_ways_many.2 ⟨0, Nat.le_refl 0, Nat.zero_le _, rfl⟩,
    ⟨[("2", [d]), ("1", m.chars)], m.chars ++ [d], []⟩, ?_, rfl⟩
  refine mem_ways_seq.2 ⟨⟨[("1", m.chars)], m.chars, [d]⟩,
    mem_ways_group.2 ⟨_, mem_ways_numberPattern m _ [] [d], rfl⟩,
    ⟨[("2", [d]), ("1", m.chars)], [d], []⟩, ?_, rfl⟩
  refine mem_ways_seq.2 ⟨⟨[("1", m.chars)], [], [d]⟩,
    mem_ways_many.2 ⟨0, Nat.le_refl 0, Nat.zero_le _, rfl⟩,
    ⟨[("2", [d]), ("1", m.chars)], [d], []⟩, ?_, rfl⟩
  refine mem_ways_seq.2 ⟨⟨[("2", [d]), ("1", m.chars)], [d], []⟩,
    mem_ways_group.2 ⟨⟨[("1", m.chars)], [d], []⟩, ?_, rfl⟩,
    ⟨[("2", [d]), ("1", m.chars)], [], []⟩,
    mem_ways_many.2 ⟨0, Nat.le_refl 0, Nat.zero_le _, rfl⟩, rfl⟩
  refine @mem_ways_many_append _ _ _ _ [d] [] (fun c hc => ?_) (Nat.le_refl 1)
  rw [List.mem_singleton.1 hc, isAlphanumeric, hd, Bool.or_true]

lemma endsInTwoDigits_of_digits (front : List Char) {digit : Char} {ds : List Char}
    (hdigit : digit.isDigit = true) (hds : ∀ c ∈ ds, c.isDigit = true) (hne : ds ≠ []) :
    EndsInTwoDigits (front ++ digit :: ds) := by
  rcases List.eq_nil_or_concat ds with hnil | ⟨before, d, rfl⟩
  · exact absurd hnil hne
  rw [List.concat_eq_append] at hds ⊢
  have hd : d.isDigit = true := hds d (List.mem_append_right _ (List.mem_singleton.2 rfl))
  rcases List.eq_nil_or_concat before with rfl | ⟨before', c, rfl⟩
  · exact ⟨front, digit, d, rfl, hdigit, hd⟩
  · rw [List.concat_eq_append] at hds ⊢
    refine ⟨front ++ digit :: before', c, d, by simp, hds c ?_, hd⟩
    exact List.mem_append_left _ (List.mem_append_right _ (List.mem_singleton.2 rfl))

lemma isDigit_of_alphanumeric_of_mem {n : Numeral} {c : Char} (hc : c ∈ n.chars)
    (halphanumeric : isAlphanumeric c = true) : c.isDigit = true := by
  rcases Numeral.mem_chars hc with hdigit | rfl
  · exact hdigit
  · cases halphanumeric

/-- A bare numeral is read as its number and no asset exactly if it fits and does not end in two
digits. -/
theorem amountWithAsset_bare_iff {upper : String → String} (hupper : UpperKeeps upper)
    (n : Numeral) :
    amountWithAsset upper (String.ofList n.chars) = .ok (some n.value, "") ↔
      n.value.Fits ∧ ¬EndsInTwoDigits n.chars := by
  have hchars : (String.ofList n.chars).toList = n.chars := String.toList_ofList
  have hspace : ∀ c ∈ n.chars, isSpaceChar c = false := fun c hc => (Numeral.plain_of_mem hc).1
  have hstrip : strip (String.ofList n.chars) = String.ofList n.chars :=
    strip_eq_self fun c hc => hspace c (hchars ▸ hc)
  cases hmatch : fullMatch amountPattern (String.ofList n.chars) with
  | none =>
      have hread : amountWithAsset upper (String.ofList n.chars) =
          .ok (some n.value.quantize, "") := by
        rw [amountWithAsset, hmatch]
        dsimp only
        rw [hstrip, Numeral.parseDecimal_numeral]
        rfl
      have hnot : ¬EndsInTwoDigits n.chars := by
        intro hends
        have hsome := fullMatch_isSome_of_endsInTwoDigits hends
        rw [hmatch] at hsome
        cases hsome
      rw [hread, Except.ok.injEq, Prod.mk.injEq, Option.some.injEq, Decimal.quantize_eq_iff]
      exact ⟨fun h => ⟨h.1, hnot⟩, fun h => ⟨h.1, rfl⟩⟩
  | some w =>
      have hfound := List.find?_some hmatch
      have hmem := List.mem_of_find?_eq_some hmatch
      rw [hchars] at hmem
      rcases parts_of_mem_amountPattern hmem (by simpa using hfound) hspace with
        ⟨front, digit, asset, hsplit, hdigit, hne, hallowed, hgroup⟩
      -- What the expression takes for the asset is digits, since it takes no point.
      have hasset : ∀ c ∈ asset, c.isDigit = true := fun c hc =>
        isDigit_of_alphanumeric_of_mem
          (hsplit ▸ List.mem_append_right _ (List.mem_cons_of_mem _ hc)) (hallowed c hc)
      refine iff_of_false ?_ fun h => h.2 ?_
      · intro hread
        rw [amountWithAsset, hmatch] at hread
        rcases bind_eq_ok_iff.1 hread with ⟨amount, _, hpair⟩
        have hempty : upper (w.group "2") = "" := congrArg Prod.snd (Except.ok.inj hpair)
        rw [hgroup, hupper asset fun c hc => by rw [isAssetChar, hasset c hc, Bool.or_true]] at hempty
        have hnil := congrArg String.toList hempty
        rw [String.toList_ofList] at hnil
        exact hne hnil
      · rw [hsplit]
        exact endsInTwoDigits_of_digits front hdigit hasset hne

end Binance
end Tallylot
