import Tallylot.Transactions.Facts

/-!
# Satisfiable — leg policies that some legs meet

Counting finds how many legs of a fact are of each kind and of each sign (`Counted`), so a limit is
met or not by two numbers, of positive and of negative legs (`validateFactLimit_eq_ok_iff`).

The constructor of a limit compares its bounds pairwise.  What is left out is the least number of
legs against the most positive and the most negative ones: a limit can be met exactly where these
reach it (`exists_meets_iff`).
-/

namespace Tallylot
namespace Transactions

open Data Domain

/-! ## What counting finds -/

def EconomicLegFields.signKey (leg : EconomicLegFields) : String :=
  if 0 < leg.quantity.coeff then "positive" else "negative"

/-- The counts of some legs. -/
structure Counted (legs : List EconomicLeg) (counts : FactLegCounts) : Prop where
  byKind : ∀ key, (counts.countsByKind.get? key).getD 0 =
    legs.countP (fun leg => leg.val.kind.value = key)
  signed : ∀ key sign, (counts.signedCounts.get? (key, sign)).getD 0 =
    legs.countP (fun leg => leg.val.kind.value = key ∧ leg.val.signKey = sign)
  seen : ∀ id, id ∈ counts.seenLegIds ↔ id ∈ legs.map (fun leg => leg.val.legId)

/-- A limit of the policy is about the kind of the leg. -/
def Allowed (policy : FactLegPolicy) (leg : EconomicLeg) : Prop :=
  ∃ limit ∈ policy.val.limits, limit.val.kind.value = leg.val.kind.value

section Counting

variable {policy : FactLegPolicy} {legs : List EconomicLeg} {counts : FactLegCounts}
  {leg : EconomicLeg}

lemma counted_empty : Counted [] FactLegCounts.empty :=
  ⟨fun _ => rfl, fun _ _ => rfl, fun _ => Iff.rfl⟩

/-- Raising one count of a dictionary raises the number of the elements of that key. -/
lemma getD_upsert_succ {κ : Type} [DecidableEq κ] (d : Dict κ Nat) (key key' : κ) :
    ((d.upsert key (fun n => n.getD 0 + 1)).get? key').getD 0 =
      (d.get? key').getD 0 + if key = key' then 1 else 0 := by
  rw [Dict.get?_upsert]
  by_cases hkey : key' = key
  · simp [hkey]
  · rw [if_neg hkey, if_neg (Ne.symm hkey), Nat.add_zero]

theorem Counted.add {next : FactLegCounts} (h : Counted legs counts)
    (hadd : counts.add policy leg = .ok next) : Counted (legs ++ [leg]) next := by
  simp only [FactLegCounts.add, bind_eq_ok_iff] at hadd
  rcases hadd with ⟨_, _, _, _, hnext⟩
  rw [← Except.ok.inj hnext]
  refine ⟨?_, ?_, ?_⟩
  · intro key
    dsimp only
    rw [getD_upsert_succ, h.byKind, List.countP_append, List.countP_singleton]
    simp only [decide_eq_true_eq]
  · intro key sign
    dsimp only
    rw [getD_upsert_succ, h.signed, List.countP_append, List.countP_singleton]
    refine congrArg _ (if_congr ?_ rfl rfl)
    rw [Prod.mk.injEq, decide_eq_true_eq]
    rfl
  · intro id
    rw [List.map_append, List.mem_append, ← h.seen, List.map_singleton, List.mem_singleton,
      List.mem_cons]
    exact or_comm

theorem Counted.run (rest : List EconomicLeg) :
    ∀ {legs : List EconomicLeg} {counts next : FactLegCounts}, Counted legs counts →
      rest.foldlM (FactLegCounts.add policy) counts = .ok next → Counted (legs ++ rest) next := by
  induction rest with
  | nil =>
      intro legs counts next h hrun
      rw [← Except.ok.inj hrun, List.append_nil]
      exact h
  | cons leg rest ih =>
      intro legs counts next h hrun
      rw [List.foldlM_cons] at hrun
      rcases bind_eq_ok_iff.1 hrun with ⟨mid, hadd, hrest⟩
      have hcounted := ih (h.add hadd) hrest
      rwa [List.append_assoc] at hcounted

lemma counted_of_factLegCounts (h : factLegCounts legs policy = .ok counts) : Counted legs counts :=
  Counted.run legs counted_empty h

/-- Legs of allowed kinds and of different ids are counted. -/
theorem Counted.exists_run (rest : List EconomicLeg) :
    ∀ {legs : List EconomicLeg} {counts : FactLegCounts}, Counted legs counts →
      (∀ leg ∈ rest, Allowed policy leg) →
        ((legs ++ rest).map (fun leg => leg.val.legId)).Nodup →
          ∃ next, rest.foldlM (FactLegCounts.add policy) counts = .ok next := by
  induction rest with
  | nil => exact fun _ _ _ => ⟨_, rfl⟩
  | cons leg rest ih =>
      intro legs counts h hallowed hnodup
      have hnew : leg.val.legId ∉ counts.seenLegIds := by
        rw [List.map_append, List.nodup_append] at hnodup
        intro hseen
        exact hnodup.2.2 _ ((h.seen _).1 hseen) _ List.mem_cons_self rfl
      have hadd : ∃ mid, counts.add policy leg = .ok mid := by
        have hkind : FactLegCounts.validatePolicyKindAllowed policy leg.val.kind.value = .ok () :=
          require_eq_ok_iff.2 (hallowed leg List.mem_cons_self)
        rw [FactLegCounts.add, hkind, bind_ok, (require_eq_ok_iff (u := ())).2 hnew, bind_ok]
        exact ⟨_, rfl⟩
      rcases hadd with ⟨mid, hadd⟩
      rw [List.append_cons] at hnodup
      rcases ih (h.add hadd) (fun other hother => hallowed other (List.mem_cons_of_mem _ hother))
        hnodup with ⟨next, hnext⟩
      refine ⟨next, ?_⟩
      rw [List.foldlM_cons, hadd]
      exact hnext

/-- A leg is positive or negative. -/
lemma countP_kind_eq_add (legs : List EconomicLeg) (key : String) :
    legs.countP (fun leg => leg.val.kind.value = key) =
      legs.countP (fun leg => leg.val.kind.value = key ∧ leg.val.signKey = "positive") +
        legs.countP (fun leg => leg.val.kind.value = key ∧ leg.val.signKey = "negative") := by
  induction legs with
  | nil => rfl
  | cons leg legs ih =>
      have hsign : leg.val.signKey = "positive" ∨ leg.val.signKey = "negative" := by
        unfold EconomicLegFields.signKey
        split_ifs
        · exact Or.inl rfl
        · exact Or.inr rfl
      have hne : ("positive" : String) ≠ "negative" := by decide
      simp only [List.countP_cons, ih, decide_eq_true_eq]
      rcases hsign with hsign | hsign
      · simp only [hsign, hne, and_true, and_false, if_false]
        omega
      · simp only [hsign, hne.symm, and_true, and_false, if_false]
        omega

end Counting

/-! ## Numbers within a limit -/

/-- Numbers of positive and of negative legs that a limit admits. -/
structure Meets (limit : LegShapeLimitFields) (positive negative : Int) : Prop where
  least : limit.minCount ≤ positive + negative
  most : positive + negative ≤ limit.maxCount
  leastPositive : ∀ least, limit.minPositiveCount = some least → least ≤ positive
  mostPositive : ∀ most, limit.maxPositiveCount = some most → positive ≤ most
  leastNegative : ∀ least, limit.minNegativeCount = some least → least ≤ negative
  mostNegative : ∀ most, limit.maxNegativeCount = some most → negative ≤ most

lemma validateFactSignedCount_eq_ok_iff {limit : LegShapeLimit} {positive : Bool} {count : Nat}
    {u : Unit} :
    validateFactSignedCount limit positive count = .ok u ↔
      (∀ least, (if positive then limit.val.minPositiveCount else limit.val.minNegativeCount) =
          some least → least ≤ (count : Int)) ∧
        ∀ most, (if positive then limit.val.maxPositiveCount else limit.val.maxNegativeCount) =
          some most → (count : Int) ≤ most := by
  simp only [validateFactSignedCount, bind_eq_ok_iff, validateOptional_eq_ok_iff, require_eq_ok_iff]
  constructor
  · rintro ⟨_, h⟩
    exact h
  · exact fun h => ⟨(), h⟩

/-- A limit is checked by the numbers of positive and of negative legs of its kind. -/
theorem validateFactLimit_eq_ok_iff {legs : List EconomicLeg} {counts : FactLegCounts}
    (h : Counted legs counts) (limit : LegShapeLimit) {u : Unit} :
    validateFactLimit counts limit = .ok u ↔
      Meets limit.val
        (legs.countP (fun leg =>
          leg.val.kind.value = limit.val.kind.value ∧ leg.val.signKey = "positive"))
        (legs.countP (fun leg =>
          leg.val.kind.value = limit.val.kind.value ∧ leg.val.signKey = "negative")) := by
  simp only [validateFactLimit, validateFactTotalCount, bind_eq_ok_iff, require_eq_ok_iff,
    validateFactSignedCount_eq_ok_iff, h.byKind, h.signed, if_true, if_false, Bool.false_eq_true,
    countP_kind_eq_add legs, Nat.cast_add]
  constructor
  · rintro ⟨_, ⟨_, hleast, hmost⟩, _, hpositive, hnegative⟩
    exact ⟨hleast, hmost, hpositive.1, hpositive.2, hnegative.1, hnegative.2⟩
  · intro hmeets
    exact ⟨(), ⟨(), hmeets.least, hmeets.most⟩, (), ⟨hmeets.leastPositive, hmeets.mostPositive⟩,
      hmeets.leastNegative, hmeets.mostNegative⟩

/-! ## Limits that some numbers meet -/

/-- The order of the bounds that the constructor of a limit checks. -/
structure Ordered (limit : LegShapeLimitFields) : Prop where
  count : limit.minCount ≤ limit.maxCount
  positive : ∀ least, limit.minPositiveCount = some least → least ≤ limit.maxCount ∧
    ∀ most, limit.maxPositiveCount = some most → least ≤ most
  negative : ∀ least, limit.minNegativeCount = some least → least ≤ limit.maxCount ∧
    ∀ most, limit.maxNegativeCount = some most → least ≤ most
  signed : ∀ positive negative, limit.minPositiveCount = some positive →
    limit.minNegativeCount = some negative → positive + negative ≤ limit.maxCount

lemma validateOptionalWithinMax_eq_ok_iff {value : Option Int} {label : String} {maxCount : Int}
    {u : Unit} :
    validateOptionalWithinMax value label maxCount = .ok u ↔
      ∀ count, value = some count → count ≤ maxCount := by
  cases value with
  | none => simp [validateOptionalWithinMax]
  | some count => simp [validateOptionalWithinMax, require_eq_ok_iff]

lemma validateOptionalMinMax_eq_ok_iff {minimum maximum : Option Int} {minLabel maxLabel : String}
    {u : Unit} :
    validateOptionalMinMax minimum maximum minLabel maxLabel = .ok u ↔
      ∀ least most, minimum = some least → maximum = some most → least ≤ most := by
  cases minimum with
  | none => simp [validateOptionalMinMax]
  | some least =>
      cases maximum with
      | none => simp [validateOptionalMinMax]
      | some most => simp [validateOptionalMinMax, require_eq_ok_iff]

theorem legShapeLimit_ordered (limit : LegShapeLimit) : Ordered limit.val := by
  have hvalid := checkedConstructor_accepted.1 limit.property
  simp only [LegShapeLimitFields.validate, validateLegShapeCounts, bind_eq_ok_iff, require_eq_ok_iff,
    validateOptionalWithinMax_eq_ok_iff, validateOptionalMinMax_eq_ok_iff] at hvalid
  rcases hvalid with ⟨_, _, _, _, _, hcount, _, _, _, _, _, _, _, _, _, hminPositive, _, _, _,
    hminNegative, _, _, _, hpositive, _, hnegative, hsigned⟩
  refine ⟨hcount, ?_, ?_, ?_⟩
  · exact fun least hleast => ⟨hminPositive least hleast, fun most => hpositive least most hleast⟩
  · exact fun least hleast => ⟨hminNegative least hleast, fun most => hnegative least most hleast⟩
  · intro positive negative hp hn
    rw [hp, hn] at hsigned
    exact require_eq_ok_iff.1 hsigned

/-- The most positive and the most negative legs, where both are bounded, reach the least number. -/
def MaximaReach (limit : LegShapeLimitFields) : Prop :=
  ∀ positive negative, limit.maxPositiveCount = some positive →
    limit.maxNegativeCount = some negative → limit.minCount ≤ positive + negative

lemma Meets.maximaReach {limit : LegShapeLimitFields} {positive negative : Int}
    (h : Meets limit positive negative) : MaximaReach limit := by
  intro most most' hpositive hnegative
  calc
    limit.minCount ≤ positive + negative := h.least
    _ ≤ most + most' := Int.add_le_add (h.mostPositive _ hpositive) (h.mostNegative _ hnegative)

/-- A least number of legs of one sign lies between its bounds. -/
lemma lower_between {least most : Option Int} (hleast : ∀ count, least = some count → 0 ≤ count)
    (hmost : ∀ count, most = some count → 0 ≤ count)
    (hle : ∀ count, least = some count → ∀ bound, most = some bound → count ≤ bound) :
    0 ≤ least.getD 0 ∧ (∀ count, least = some count → count = least.getD 0) ∧
      ∀ bound, most = some bound → least.getD 0 ≤ bound := by
  cases least with
  | none => exact ⟨le_refl _, fun _ h => (by cases h), hmost⟩
  | some count =>
      exact ⟨hleast count rfl, fun _ h => (Option.some.inj h).symm, hle count rfl⟩

/-- From the least legs of each sign, positive legs are added until there are enough, and negative
legs once no more positive ones are admitted. -/
lemma Ordered.exists_meets {limit : LegShapeLimitFields} (hordered : Ordered limit)
    (hnonneg : Nonnegative limit) (hreach : MaximaReach limit) :
    ∃ positive negative : Int, 0 ≤ positive ∧ 0 ≤ negative ∧ Meets limit positive negative := by
  rcases lower_between hnonneg.minPositive hnonneg.maxPositive
    (fun least h => (hordered.positive least h).2) with ⟨hpositive, hleastPositive, hmostPositive⟩
  rcases lower_between hnonneg.minNegative hnonneg.maxNegative
    (fun least h => (hordered.negative least h).2) with ⟨hnegative, hleastNegative, hmostNegative⟩
  have hsum : limit.minPositiveCount.getD 0 + limit.minNegativeCount.getD 0 ≤ limit.maxCount := by
    cases hp : limit.minPositiveCount with
    | none =>
        cases hn : limit.minNegativeCount with
        | none => simpa using hnonneg.maxCount
        | some least => simpa using (hordered.negative least hn).1
    | some least =>
        cases hn : limit.minNegativeCount with
        | none => simpa using (hordered.positive least hp).1
        | some other => exact hordered.signed least other hp hn
  have hcount := hordered.count
  generalize limit.minPositiveCount.getD 0 = lower at *
  generalize limit.minNegativeCount.getD 0 = lower' at *
  by_cases henough : limit.minCount ≤ lower + lower'
  · exact ⟨lower, lower', hpositive, hnegative, henough, hsum,
      fun _ h => (hleastPositive _ h).le, hmostPositive, fun _ h => (hleastNegative _ h).le,
      hmostNegative⟩
  · by_cases hroom : ∀ most, limit.maxPositiveCount = some most → limit.minCount - lower' ≤ most
    · refine ⟨limit.minCount - lower', lower', by omega, hnegative, by omega, by omega, ?_, hroom,
        fun _ h => (hleastNegative _ h).le, hmostNegative⟩
      intro least hleast
      have hlower := hleastPositive least hleast
      omega
    · simp only [not_forall, not_le] at hroom
      rcases hroom with ⟨most, hmost, hfull⟩
      have hlower := hmostPositive most hmost
      refine ⟨most, limit.minCount - most, by omega, by omega, by omega, by omega, ?_, ?_, ?_, ?_⟩
      · intro least hleast
        exact (hleastPositive least hleast).trans_le hlower
      · intro bound hbound
        rw [hmost] at hbound
        exact (Option.some.inj hbound).le
      · intro least hleast
        have hlower' := hleastNegative least hleast
        omega
      · intro bound hbound
        have hreached := hreach most bound hmost hbound
        omega

/-- Some numbers of positive and of negative legs meet a limit exactly where its maxima reach its
least number. -/
theorem exists_meets_iff (limit : LegShapeLimit) :
    (∃ positive negative : Nat, Meets limit.val positive negative) ↔ MaximaReach limit.val := by
  constructor
  · rintro ⟨positive, negative, h⟩
    exact h.maximaReach
  · intro hreach
    rcases (legShapeLimit_ordered limit).exists_meets (legShapeLimit_nonneg limit) hreach with
      ⟨positive, negative, hpositive, hnegative, h⟩
    refine ⟨positive.toNat, negative.toNat, ?_⟩
    rwa [Int.toNat_of_nonneg hpositive, Int.toNat_of_nonneg hnegative]

/-! ## Legs of given numbers -/

/-- A leg id for each number. -/
def numberedId (i : Nat) : String := String.ofList ('l' :: List.replicate i '_')

lemma numberedId_injective : Function.Injective numberedId := by
  intro i j h
  have hlength := congrArg List.length (String.ofList_injective h)
  simpa using hlength

lemma isSnakeCase_numberedId (i : Nat) : isSnakeCase (numberedId i) = true := by
  have hunderscore : isSuffixChar '_' = true := by decide
  have hlower : isLower 'l' = true := by decide
  rw [isSnakeCase, numberedId, String.toList_ofList]
  simp [hlower, hunderscore]

def numberedLeg (kind : LegKind) (coeff : Int) (i : Nat) : EconomicLegFields where
  legId := numberedId i
  kind := kind
  instrumentId := "instrument"
  quantity := Decimal.ofParts coeff 0
  subtype := none
  attributedToLegId := none
  locationId := none

lemma numberedLeg_accepted (kind : LegKind) {coeff : Int}
    (hcoeff : Decimal.ofParts coeff 0 ≠ 0) (i : Nat) :
    economicLeg.Accepted (numberedLeg kind coeff i) := by
  refine ⟨numberedLeg kind coeff i, (postInit_eq_ok_iff _ _).2 ⟨?_, none, rfl, rfl⟩⟩
  have hinstrument : "instrument" ≠ "" := by decide
  exact ⟨isSnakeCase_numberedId i, hinstrument, hcoeff, fun _ => rfl, fun _ h => (by cases h),
    fun _ h => (by cases h)⟩

def positiveLeg (kind : LegKind) (i : Nat) : EconomicLeg :=
  ⟨numberedLeg kind 1 i, numberedLeg_accepted kind (by decide) i⟩

def negativeLeg (kind : LegKind) (i : Nat) : EconomicLeg :=
  ⟨numberedLeg kind (-1) i, numberedLeg_accepted kind (by decide) i⟩

def numberedLegs (kind : LegKind) (positive negative : Nat) : List EconomicLeg :=
  (List.range positive).map (positiveLeg kind) ++
    (List.range negative).map (fun i => negativeLeg kind (positive + i))

section Numbered

variable (kind : LegKind) (positive negative : Nat)

lemma kind_of_mem_numberedLegs {leg : EconomicLeg} (h : leg ∈ numberedLegs kind positive negative) :
    leg.val.kind = kind := by
  rcases List.mem_append.1 h with h | h
  · rcases List.mem_map.1 h with ⟨i, _, rfl⟩
    rfl
  · rcases List.mem_map.1 h with ⟨i, _, rfl⟩
    rfl

lemma nodup_numberedLegs :
    ((numberedLegs kind positive negative).map (fun leg => leg.val.legId)).Nodup := by
  have hids : (numberedLegs kind positive negative).map (fun leg => leg.val.legId) =
      (List.range (positive + negative)).map numberedId := by
    rw [numberedLegs, List.range_add, List.map_append, List.map_append, List.map_map, List.map_map,
      List.map_map]
    rfl
  rw [hids]
  exact List.nodup_range.map numberedId_injective

lemma countP_numberedLegs :
    (numberedLegs kind positive negative).countP (fun leg =>
        leg.val.kind.value = kind.value ∧ leg.val.signKey = "positive") = positive ∧
      (numberedLegs kind positive negative).countP (fun leg =>
        leg.val.kind.value = kind.value ∧ leg.val.signKey = "negative") = negative := by
  have hpositive : ∀ i, (positiveLeg kind i).val.signKey = "positive" := fun _ => rfl
  have hnegative : ∀ i, (negativeLeg kind i).val.signKey = "negative" := fun _ => rfl
  have hkind : ∀ i, (positiveLeg kind i).val.kind = kind := fun _ => rfl
  have hkind' : ∀ i, (negativeLeg kind i).val.kind = kind := fun _ => rfl
  have hne : ("positive" : String) ≠ "negative" := by decide
  simp [numberedLegs, List.countP_map, Function.comp_def, hpositive, hnegative, hkind, hkind', hne,
    hne.symm]

end Numbered

/-! ## Policies that legs meet -/

/-- Some legs of the kind of a limit are counted and pass the check of that limit. -/
def Satisfiable (policy : FactLegPolicy) (limit : LegShapeLimit) : Prop :=
  ∃ legs : List EconomicLeg, (∀ leg ∈ legs, leg.val.kind = limit.val.kind) ∧
    ∃ counts, factLegCounts legs policy = .ok counts ∧ validateFactLimit counts limit = .ok ()

theorem satisfiable_iff {policy : FactLegPolicy} {limit : LegShapeLimit}
    (hlimit : limit ∈ policy.val.limits) :
    Satisfiable policy limit ↔ MaximaReach limit.val := by
  constructor
  · rintro ⟨legs, _, counts, hcounts, hchecked⟩
    exact ((validateFactLimit_eq_ok_iff (counted_of_factLegCounts hcounts) limit).1
      hchecked).maximaReach
  · intro hreach
    rcases (exists_meets_iff limit).2 hreach with ⟨positive, negative, hmeets⟩
    have hkind := fun leg => @kind_of_mem_numberedLegs limit.val.kind positive negative leg
    have hallowed : ∀ leg ∈ numberedLegs limit.val.kind positive negative, Allowed policy leg :=
      fun leg hleg => ⟨limit, hlimit, congrArg LegKind.value (hkind leg hleg).symm⟩
    rcases Counted.exists_run _ counted_empty hallowed (nodup_numberedLegs _ positive negative) with
      ⟨counts, hcounts⟩
    refine ⟨_, hkind, counts, hcounts,
      (validateFactLimit_eq_ok_iff (counted_of_factLegCounts hcounts) limit).2 ?_⟩
    rw [(countP_numberedLegs _ _ _).1, (countP_numberedLegs _ _ _).2]
    exact hmeets

/-- Each limit of a policy can be met exactly where its maxima reach its least number. -/
theorem policy_satisfiable_iff (policy : FactLegPolicy) :
    (∀ limit ∈ policy.val.limits, Satisfiable policy limit) ↔
      ∀ limit ∈ policy.val.limits, MaximaReach limit.val :=
  forall₂_congr (fun _ hlimit => satisfiable_iff hlimit)

/-- One leg at least, but neither a positive nor a negative one. -/
def unmeetableLimit : LegShapeLimit :=
  ⟨{ kind := .primary, maxCount := 1, minCount := 1, maxPositiveCount := some 0,
     minPositiveCount := none, maxNegativeCount := some 0, minNegativeCount := none },
    checkedConstructor_accepted.2 (by decide)⟩

def unmeetablePolicy : FactLegPolicy :=
  ⟨⟨[unmeetableLimit]⟩, (factLegPolicy_accepted _).2 ⟨List.cons_ne_nil _ _, List.nodup_singleton _⟩⟩

/-- The constructors accept a policy that no legs meet. -/
theorem unmeetable_policy_accepted :
    ¬ ∀ policy : FactLegPolicy, ∀ limit ∈ policy.val.limits, Satisfiable policy limit := by
  intro h
  have hlimit : unmeetableLimit ∈ unmeetablePolicy.val.limits := List.mem_singleton.2 rfl
  have hreach := (satisfiable_iff hlimit).1 (h unmeetablePolicy unmeetableLimit hlimit)
  exact absurd (hreach 0 0 rfl rfl) (by decide)

end Transactions
end Tallylot
