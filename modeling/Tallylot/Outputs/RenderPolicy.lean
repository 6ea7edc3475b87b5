import Tallylot.Transactions.Facts

/-!
# RenderPolicy — the check of facts before they are rendered

An output adapter declares which legs a fact may have to be rendered: for each kind of leg a range
of counts, of all legs and of the positive and negative ones.  The check counts the legs of every
fact by kind and by kind and sign, and raises on the first count outside its range.

`validateRenderPolicy_eq_ok_iff` says what it accepts, in terms of the legs themselves.
-/

namespace Tallylot
namespace Outputs

open Data Transactions

structure OutputRenderPolicy where
  shapePolicy : FactLegPolicy
  requiresProjectionHint : Bool

/-- The key of a sign in the counts. -/
def signKey (leg : EconomicLeg) : String :=
  if 0 < leg.val.quantity.coeff then "positive" else "negative"

def countsByKind (legs : List EconomicLeg) : Dict LegKind Nat :=
  Dict.tally (fun leg => leg.val.kind) legs

def signedCounts (legs : List EconomicLeg) : Dict (LegKind × String) Nat :=
  Dict.tally (fun leg => (leg.val.kind, signKey leg)) legs

section Checks

variable (factId adapterId : String)

/-- `_validate_render_total_count` -/
def validateRenderTotalCount (kind : LegKind) (totalCount : Nat) (limit : LegShapeLimit) :
    Decoded Unit := do
  require (limit.val.minCount ≤ totalCount)
    ("fact " ++ factId ++ " falls below " ++ adapterId ++ " render policy for " ++ kind.value ++
      " legs")
  require ((totalCount : Int) ≤ limit.val.maxCount)
    ("fact " ++ factId ++ " exceeds " ++ adapterId ++ " render policy for " ++ kind.value ++ " legs")

/-- `_validate_render_signed_count` -/
def validateRenderSignedCount (limit : LegShapeLimit) (sign : String) (count : Nat) :
    Decoded Unit := do
  let signLabel := if sign = "positive" then "positive" else "negative"
  let minimum := if sign = "positive" then limit.val.minPositiveCount else limit.val.minNegativeCount
  let maximum := if sign = "positive" then limit.val.maxPositiveCount else limit.val.maxNegativeCount
  validateOptional
    (fun least =>
      require (least ≤ (count : Int))
        ("fact " ++ factId ++ " falls below " ++ adapterId ++ " render policy for " ++ signLabel ++
          " " ++ limit.val.kind.value ++ " legs"))
    minimum
  validateOptional
    (fun most =>
      require ((count : Int) ≤ most)
        ("fact " ++ factId ++ " exceeds " ++ adapterId ++ " render policy for " ++ signLabel ++ " " ++
          limit.val.kind.value ++ " legs"))
    maximum

/-- `_validate_absent_render_kind` -/
def validateAbsentRenderKind (limit : LegShapeLimit) (isPresent : Bool) : Decoded Unit :=
  if isPresent then .ok ()
  else do
    require (limit.val.minCount ≤ 0)
      ("fact " ++ factId ++ " falls below " ++ adapterId ++ " render policy for " ++
        limit.val.kind.value ++ " legs")
    require (limit.val.minPositiveCount = none ∨ limit.val.minPositiveCount = some 0)
      ("fact " ++ factId ++ " falls below " ++ adapterId ++ " render policy for positive " ++
        limit.val.kind.value ++ " legs")
    require (limit.val.minNegativeCount = none ∨ limit.val.minNegativeCount = some 0)
      ("fact " ++ factId ++ " falls below " ++ adapterId ++ " render policy for negative " ++
        limit.val.kind.value ++ " legs")

/-- The check of a kind that has legs. -/
def validatePresentKind (countsByKind : Dict LegKind Nat)
    (signedCounts : Dict (LegKind × String) Nat) (kind : LegKind) (limit : LegShapeLimit) :
    Decoded Unit := do
  validateRenderTotalCount factId adapterId kind ((countsByKind.get? kind).getD 0) limit
  validateRenderSignedCount factId adapterId limit "positive"
    ((signedCounts.get? (kind, "positive")).getD 0)
  validateRenderSignedCount factId adapterId limit "negative"
    ((signedCounts.get? (kind, "negative")).getD 0)

/-- `_validate_fact_shape` -/
def validateFactShape (policy : OutputRenderPolicy) (countsByKind : Dict LegKind Nat)
    (signedCounts : Dict (LegKind × String) Nat) : Decoded Unit := do
  checkAll
    (fun kind =>
      require (policy.shapePolicy.val.limitFor kind ≠ none)
        ("fact " ++ factId ++ " has unsupported " ++ adapterId ++ " render leg kind: " ++ kind.value))
    countsByKind.keys
  checkAll
    (fun kind =>
      validateOptional (validatePresentKind factId adapterId countsByKind signedCounts kind)
        (policy.shapePolicy.val.limitFor kind))
    countsByKind.keys
  checkAll
    (fun limit =>
      validateAbsentRenderKind factId adapterId limit (decide (limit.val.kind ∈ countsByKind.keys)))
    policy.shapePolicy.val.limits

end Checks

/-- The check of one fact. -/
def validateRenderFact (adapterId : String) (policy : OutputRenderPolicy) (fact : TransactionFact) :
    Decoded Unit := do
  require (policy.requiresProjectionHint = true → fact.val.semantics.projectionHint ≠ none)
    ("fact " ++ fact.val.factId ++ " is missing required " ++ adapterId ++ " projection metadata")
  validateFactShape fact.val.factId adapterId policy (countsByKind fact.val.legs)
    (signedCounts fact.val.legs)

/-- `_validate_render_policy` -/
def validateRenderPolicy (adapterId : String) (policy : OutputRenderPolicy)
    (facts : List TransactionFact) : Decoded Unit :=
  checkAll (validateRenderFact adapterId policy) facts

/-! ## What the check accepts -/

/-- An optional lower and an optional upper bound of a count. -/
structure InRange (minimum maximum : Option Int) (count : Nat) : Prop where
  least : ∀ least, minimum = some least → least ≤ (count : Int)
  most : ∀ most, maximum = some most → (count : Int) ≤ most

/-- The legs of a kind with a key of their sign. -/
def signedCount (legs : List EconomicLeg) (kind : LegKind) (sign : String) : Nat :=
  legs.countP (fun leg => (leg.val.kind, signKey leg) = (kind, sign))

/-- Legs stand within a limit, whether or not there are any of its kind. -/
structure LimitMet (limit : LegShapeLimitFields) (legs : List EconomicLeg) : Prop where
  least : limit.minCount ≤ (legs.countP (fun leg => leg.val.kind = limit.kind) : Nat)
  most : ((legs.countP (fun leg => leg.val.kind = limit.kind) : Nat) : Int) ≤ limit.maxCount
  positive :
    InRange limit.minPositiveCount limit.maxPositiveCount (signedCount legs limit.kind "positive")
  negative :
    InRange limit.minNegativeCount limit.maxNegativeCount (signedCount legs limit.kind "negative")

/-- What an adapter may be given to render. -/
structure Renderable (policy : OutputRenderPolicy) (fact : TransactionFactFields) : Prop where
  hint : policy.requiresProjectionHint = true → fact.semantics.projectionHint ≠ none
  kinds : ∀ leg ∈ fact.legs, ∃ limit ∈ policy.shapePolicy.val.limits,
    limit.val.kind = leg.val.kind
  limits : ∀ limit ∈ policy.shapePolicy.val.limits, LimitMet limit.val fact.legs

section Accepted

variable {factId adapterId : String}

lemma validateRenderTotalCount_eq_ok_iff {kind : LegKind} {count : Nat} {limit : LegShapeLimit}
    {u : Unit} :
    validateRenderTotalCount factId adapterId kind count limit = .ok u ↔
      limit.val.minCount ≤ count ∧ (count : Int) ≤ limit.val.maxCount := by
  simp only [validateRenderTotalCount, bind_eq_ok_iff, require_eq_ok_iff]
  constructor
  · rintro ⟨_, hleast, hmost⟩
    exact ⟨hleast, hmost⟩
  · rintro ⟨hleast, hmost⟩
    exact ⟨(), hleast, hmost⟩

lemma validateRenderSignedCount_eq_ok_iff {limit : LegShapeLimit} {sign : String} {count : Nat}
    {u : Unit} :
    validateRenderSignedCount factId adapterId limit sign count = .ok u ↔
      InRange (if sign = "positive" then limit.val.minPositiveCount else limit.val.minNegativeCount)
        (if sign = "positive" then limit.val.maxPositiveCount else limit.val.maxNegativeCount)
        count := by
  simp only [validateRenderSignedCount, bind_eq_ok_iff, validateOptional_eq_ok_iff,
    require_eq_ok_iff]
  constructor
  · rintro ⟨_, hleast, hmost⟩
    exact ⟨hleast, hmost⟩
  · exact fun h => ⟨(), h.least, h.most⟩

lemma validateAbsentRenderKind_eq_ok_iff {limit : LegShapeLimit} {isPresent : Bool}
    {u : Unit} :
    validateAbsentRenderKind factId adapterId limit isPresent = .ok u ↔
      (isPresent = false → limit.val.minCount ≤ 0 ∧
        (limit.val.minPositiveCount = none ∨ limit.val.minPositiveCount = some 0) ∧
          (limit.val.minNegativeCount = none ∨ limit.val.minNegativeCount = some 0)) := by
  cases isPresent with
  | true => simp [validateAbsentRenderKind]
  | false =>
      simp only [validateAbsentRenderKind, Bool.false_eq_true, if_false, bind_eq_ok_iff,
        require_eq_ok_iff]
      constructor
      · rintro ⟨_, hcount, _, hpositive, hnegative⟩ _
        exact ⟨hcount, hpositive, hnegative⟩
      · exact fun h => ⟨(), (h trivial).1, (), (h trivial).2.1, (h trivial).2.2⟩

/-- With counts taken from the legs, the check of a present kind is that its limit is met. -/
lemma validatePresentKind_eq_ok_iff {legs : List EconomicLeg} {limit : LegShapeLimit} :
    validatePresentKind factId adapterId (countsByKind legs) (signedCounts legs) limit.val.kind
        limit = .ok () ↔ LimitMet limit.val legs := by
  simp only [validatePresentKind, countsByKind, signedCounts, Dict.getD_get?_tally, bind_eq_ok_iff,
    validateRenderTotalCount_eq_ok_iff, validateRenderSignedCount_eq_ok_iff, reduceIte,
    String.reduceEq]
  constructor
  · rintro ⟨_, ⟨hleast, hmost⟩, _, hpositive, hnegative⟩
    exact ⟨hleast, hmost, hpositive, hnegative⟩
  · intro h
    exact ⟨(), ⟨h.least, h.most⟩, (), h.positive, h.negative⟩

/-- Without legs of its kind, a limit is met when it asks for none. -/
lemma limitMet_absent_iff {legs : List EconomicLeg} {limit : LegShapeLimit}
    (habsent : ∀ leg ∈ legs, leg.val.kind ≠ limit.val.kind) :
    LimitMet limit.val legs ↔ limit.val.minCount ≤ 0 ∧
      (limit.val.minPositiveCount = none ∨ limit.val.minPositiveCount = some 0) ∧
        (limit.val.minNegativeCount = none ∨ limit.val.minNegativeCount = some 0) := by
  have hnonneg := legShapeLimit_nonneg limit
  have hcount : legs.countP (fun leg => leg.val.kind = limit.val.kind) = 0 :=
    List.countP_eq_zero.2 (fun leg hleg => by simpa using habsent leg hleg)
  have hsigned : ∀ sign, signedCount legs limit.val.kind sign = 0 := by
    intro sign
    refine List.countP_eq_zero.2 (fun leg hleg => ?_)
    simp [habsent leg hleg]
  -- a lower bound that is no negative number and that zero reaches is zero
  have hzero : ∀ minimum : Option Int, (∀ least, minimum = some least → 0 ≤ least) →
      ((∀ least, minimum = some least → least ≤ 0) ↔ minimum = none ∨ minimum = some 0) := by
    intro minimum hleast
    cases minimum with
    | none => simp
    | some least =>
        have := hleast least rfl
        simp only [Option.some.injEq, forall_eq', reduceCtorEq, false_or]
        omega
  constructor
  · intro h
    have hleast := h.least
    have hpositive := h.positive.least
    have hnegative := h.negative.least
    rw [hcount] at hleast
    rw [hsigned] at hpositive hnegative
    exact ⟨by simpa using hleast, (hzero _ hnonneg.minPositive).1 (by simpa using hpositive),
      (hzero _ hnonneg.minNegative).1 (by simpa using hnegative)⟩
  · rintro ⟨hleast, hpositive, hnegative⟩
    refine ⟨?_, ?_, ⟨?_, ?_⟩, ⟨?_, ?_⟩⟩
    · simpa [hcount] using hleast
    · simpa [hcount] using hnonneg.maxCount
    · simpa [hsigned] using (hzero _ hnonneg.minPositive).2 hpositive
    · simpa [hsigned] using hnonneg.maxPositive
    · simpa [hsigned] using (hzero _ hnonneg.minNegative).2 hnegative
    · simpa [hsigned] using hnonneg.maxNegative

/-- The loops over the kinds that are there and over the limits check every limit once. -/
theorem validateRenderFact_eq_ok_iff (policy : OutputRenderPolicy) (fact : TransactionFact) :
    validateRenderFact adapterId policy fact = .ok () ↔ Renderable policy fact.val := by
  simp only [validateRenderFact, validateFactShape, bind_eq_ok_iff, checkAll_eq_ok_iff,
    require_eq_ok_iff, validateOptional_eq_ok_iff, validateAbsentRenderKind_eq_ok_iff,
    limitFor_eq_some_iff, ne_eq, limitFor_eq_none_iff]
  have hkeys : ∀ kind : LegKind, kind ∈ (countsByKind fact.val.legs).keys ↔
      ∃ leg ∈ fact.val.legs, leg.val.kind = kind := by
    intro kind
    rw [countsByKind, Dict.mem_keys_tally, List.mem_map]
  constructor
  · rintro ⟨_, hhint, _, hkinds, _, hpresent, habsent⟩
    refine ⟨hhint, ?_, ?_⟩
    · intro leg hleg
      simpa using hkinds leg.val.kind ((hkeys _).2 ⟨leg, hleg, rfl⟩)
    · intro limit hlimit
      by_cases hkind : ∃ leg ∈ fact.val.legs, leg.val.kind = limit.val.kind
      · exact validatePresentKind_eq_ok_iff.1
          (hpresent limit.val.kind ((hkeys _).2 hkind) limit ⟨hlimit, rfl⟩)
      · have hmissing := habsent limit hlimit (by simpa [hkeys] using hkind)
        exact (limitMet_absent_iff (by simpa using hkind)).2 hmissing
  · intro h
    refine ⟨(), h.hint, (), ?_, (), ?_, ?_⟩
    · intro kind hkind
      rcases (hkeys kind).1 hkind with ⟨leg, hleg, rfl⟩
      simpa using h.kinds leg hleg
    · rintro _ _ limit ⟨hlimit, rfl⟩
      exact validatePresentKind_eq_ok_iff.2 (h.limits limit hlimit)
    · intro limit hlimit hmissing
      refine (limitMet_absent_iff ?_).1 (h.limits limit hlimit)
      simpa [hkeys] using hmissing

theorem validateRenderPolicy_eq_ok_iff (policy : OutputRenderPolicy) (facts : List TransactionFact) :
    validateRenderPolicy adapterId policy facts = .ok () ↔
      ∀ fact ∈ facts, Renderable policy fact.val := by
  simp only [validateRenderPolicy, checkAll_eq_ok_iff, validateRenderFact_eq_ok_iff]

end Accepted

end Outputs
end Tallylot
