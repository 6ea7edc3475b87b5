import Tallylot.Binance.TransactionHistory
import Tallylot.Data.Pairing

/-!
# Conservation — what becomes of every row of a transaction history

A row that changes a balance should be booked by one leg of its own, or its group should be skipped for
the cutoff or for an order export, or an issue should count it (`PairsOff`).  But a group of rewards is
taken to be its first row, and a group of dust to be its first row of each sign; the others are
dropped.  `pairsOff_normalize_iff` says that all rows are accounted for exactly where the groups have no
others that change a balance, and where their changes fit the decimal context.
-/

namespace Tallylot
namespace Binance

open Data Domain Transactions Normalization

/-! ## Changes -/

/-- The number that a row shows as its change, as it is written. -/
def changeOf (row : NumberedRow) : Option Decimal := Decimal.readDecimal (field row.2 "Change")

/-- The row changes a balance. -/
def Moved (row : NumberedRow) : Prop := ∃ d, changeOf row = some d ∧ d ≠ 0

instance (row : NumberedRow) : Decidable (Moved row) :=
  decidable_of_iff (changeOf row ≠ none ∧ changeOf row ≠ some 0) (by
    unfold Moved
    cases changeOf row with
    | none => exact iff_of_false (fun h => h.1 rfl) (fun ⟨_, h, _⟩ => by cases h)
    | some d => simp)

/-- The change is a number of the context, with a sign. -/
def ShowsExact (accepts : Decimal → Bool) (row : NumberedRow) : Prop :=
  ∃ d, changeOf row = some d ∧ accepts d = true ∧ d.InContext

/-- What a row's change is rounded to. -/
lemma rowChange_cases {row : NumberedRow} {d : Decimal} (h : rowChange row.2 = .ok d) :
    (changeOf row = none ∧ d = 0) ∨ ∃ shown, changeOf row = some shown ∧ shown.finalize = .ok d := by
  rcases bind_eq_ok_iff.1 h with ⟨change, hchange, hd⟩
  cases change with
  | none =>
      refine Or.inl ⟨?_, (Except.ok.inj hd).symm⟩
      have hblank : field row.2 "Change" = "" := by
        have hstrip : strip (field row.2 "Change") = field row.2 "Change" := strip_strip _
        unfold Decimal.parseSettled at hchange
        rw [hstrip] at hchange
        split_ifs at hchange with hempty
        · exact hempty
        · cases hread : Decimal.readDecimal (field row.2 "Change") with
          | none =>
              rw [hread] at hchange
              cases hchange
          | some shown =>
              rw [hread] at hchange
              dsimp only at hchange
              cases hfinal : shown.finalize with
              | error e =>
                  rw [hfinal] at hchange
                  cases hchange
              | ok kept =>
                  rw [hfinal] at hchange
                  cases Except.ok.inj hchange
      have hnone : Decimal.readDecimal "" = none := by decide +kernel
      rw [changeOf, hblank, hnone]
  | some kept =>
      rcases Decimal.parseSettled_eq_ok_some_iff.1 hchange with ⟨shown, hshown, hfinal⟩
      have hsame : kept = d := Except.ok.inj hd
      rw [hsame] at hfinal
      exact Or.inr ⟨shown, hshown, hfinal⟩

lemma finalize_zero : (0 : Decimal).finalize = .ok 0 := by decide

/-- A row whose change is read as other than zero changes a balance. -/
lemma moved_of_rowChange {row : NumberedRow} {d : Decimal} (h : rowChange row.2 = .ok d)
    (hne : d ≠ 0) : Moved row := by
  rcases rowChange_cases h with ⟨_, hzero⟩ | ⟨shown, hshown, hfinal⟩
  · exact absurd hzero hne
  · refine ⟨shown, hshown, ?_⟩
    rintro rfl
    rw [finalize_zero] at hfinal
    exact hne (Except.ok.inj hfinal).symm

/-- A change of the context is read as it is written. -/
lemma eq_of_inContext {row : NumberedRow} {d shown : Decimal} (h : rowChange row.2 = .ok d)
    (hshown : changeOf row = some shown) (hcontext : shown.InContext) : d = shown := by
  rcases rowChange_cases h with ⟨hnone, _⟩ | ⟨other, hother, hfinal⟩
  · rw [hshown] at hnone
    cases hnone
  · rw [hshown] at hother
    cases hother
    rw [Decimal.finalize_eq_ok_self_iff.2 hcontext] at hfinal
    exact (Except.ok.inj hfinal).symm

lemma inContext_of_rowChange {row : NumberedRow} {d : Decimal} (h : rowChange row.2 = .ok d) :
    d.InContext := by
  rcases rowChange_cases h with ⟨_, rfl⟩ | ⟨shown, _, hfinal⟩
  · decide
  · rcases Decimal.finalize_eq_ok_iff.1 hfinal with ⟨hover, rfl⟩
    exact Decimal.inContext_rounded hover

lemma ne_zero_of_isPositive {d : Decimal} (h : isPositive d = true) : d ≠ 0 := by
  rintro rfl
  cases h

lemma ne_zero_of_isNegative {d : Decimal} (h : isNegative d = true) : d ≠ 0 := by
  rintro rfl
  cases h

lemma not_isNegative_of_isPositive {d : Decimal} (h : isPositive d = true) :
    isNegative d ≠ true := by
  intro hneg
  simp only [isPositive, isNegative, decide_eq_true_eq] at h hneg
  omega

/-- What `nextRow` found, and what stands before it. -/
lemma nextRow_some {accepts : Decimal → Bool} {group : List NumberedRow} {row : NumberedRow}
    {change : Decimal} (h : nextRow accepts group = .ok (some (row, change))) :
    rowChange row.2 = .ok change ∧ accepts change = true ∧
      ∃ before after, group = before ++ row :: after ∧
        ∀ other ∈ before, ∃ d, rowChange other.2 = .ok d ∧ accepts d = false := by
  induction group with
  | nil => cases h
  | cons first rest ih =>
      rcases bind_eq_ok_iff.1 h with ⟨d, hd, hnext⟩
      cases haccepts : accepts d with
      | true =>
          rw [haccepts] at hnext
          cases hnext
          exact ⟨hd, haccepts, [], rest, rfl, fun other hother => absurd hother List.not_mem_nil⟩
      | false =>
          rw [haccepts] at hnext
          rcases ih hnext with ⟨hchange, haccepted, before, after, rfl, hbefore⟩
          refine ⟨hchange, haccepted, first :: before, after, rfl, ?_⟩
          intro other hother
          rcases List.mem_cons.1 hother with rfl | hother
          · exact ⟨d, hd, haccepts⟩
          · exact hbefore other hother

lemma nextRow_none {accepts : Decimal → Bool} {group : List NumberedRow}
    (h : nextRow accepts group = .ok none) :
    ∀ row ∈ group, ∃ d, rowChange row.2 = .ok d ∧ accepts d = false := by
  induction group with
  | nil => exact fun row hrow => absurd hrow List.not_mem_nil
  | cons first rest ih =>
      rcases bind_eq_ok_iff.1 h with ⟨d, hd, hnext⟩
      cases haccepts : accepts d with
      | true =>
          rw [haccepts] at hnext
          cases hnext
      | false =>
          rw [haccepts] at hnext
          intro row hrow
          rcases List.mem_cons.1 hrow with rfl | hrow
          · exact ⟨d, hd, haccepts⟩
          · exact ih hnext row hrow

/-! ## What rows are owed -/

section

variable (env : KernelEnvironment) (profile : HistoryProfile) (fileName : String)
  (convertMatchTimes p2pMatchTimes : List Instant)

/-- The leg is the row's: its change in its coin at its account and time. -/
structure Books (row : NumberedRow) (leg : BookedLeg) : Prop where
  location :
    locationIdFromParts env.lower [profile.source, field row.2 "Account"] = .ok leg.locationId
  time : parseTransactionHistoryTimestamp (field row.2 "Time") = .ok leg.timestamp
  instrument : leg.instrument = [symbolClaim (coin env row.2) (some "binance")]
  quantity : changeOf row = some leg.quantity

/-- The operation is an ignored one of a time before the cutoff. -/
def Historical (key : GroupKey) : Prop :=
  ∃ at', parseTransactionHistoryTimestamp key.time = .ok at' ∧
    shouldIgnoreHistoricalOperation profile at' key.operation = .ok true

/-- An order export has an order of this time. -/
def MatchedByOrder (key : GroupKey) : Prop :=
  ∃ at', parseTransactionHistoryTimestamp key.time = .ok at' ∧
    ((key.operation = convertOperation ∧ at' ∈ convertMatchTimes) ∨
      (key.operation = p2pOperation ∧ at' ∈ p2pMatchTimes))

/-- The groups of which a draft may be made. -/
def Supported (key : GroupKey) (group : List NumberedRow) : Prop :=
  key.operation = rewardOperation ∨ (key.operation = dustOperation ∧ 2 ≤ group.length)

instance (key : GroupKey) (group : List NumberedRow) : Decidable (Supported key group) :=
  inferInstanceAs (Decidable (_ ∨ _))

/-- A group of rewards changes a balance by its first row at most, upwards and by a number of the
context. -/
def FirstOnly (group : List NumberedRow) : Prop :=
  ∀ row ∈ group, Moved row → group.head? = some row ∧ ShowsExact isPositive row

/-- A group of dust changes no balance, or those of one negative and of one positive row. -/
def OneOfEachSign (group : List NumberedRow) : Prop :=
  (∀ row ∈ group, ¬Moved row) ∨
    ∃ neg ∈ group, ∃ pos ∈ group, ShowsExact isNegative neg ∧ ShowsExact isPositive pos ∧
      ∀ row ∈ group, Moved row → row = neg ∨ row = pos

/-- A supported group has no more changes than its draft has legs. -/
structure Collapsible (key : GroupKey) (group : List NumberedRow) : Prop where
  reward : key.operation = rewardOperation → FirstOnly group
  dust : key.operation = dustOperation → 2 ≤ group.length → OneOfEachSign group

/-- An issue among those given counts the group. -/
def UnderIssue (issues : List IssueRecord) (groupsOf : GroupKey → List NumberedRow)
    (key : GroupKey) : Prop :=
  (key.operation = convertOperation ∧ ambiguousIssue profile fileName key ∈ issues) ∨
    ∃ keys : List GroupKey, key ∈ keys ∧
      (∀ other ∈ keys, other.operation = key.operation ∧ ¬Supported other (groupsOf other)) ∧
        unsupportedGroupIssue profile fileName key.operation keys ∈ issues

end

/-! ## Drafts and the rows they are of -/

section Groups

variable {env : KernelEnvironment} {profile : HistoryProfile} {fileName : String}
  {convertMatchTimes p2pMatchTimes : List Instant} {key : GroupKey} {group : List NumberedRow}
  {at' : Instant}

/-- The group is of the key. -/
def OfKey (key : GroupKey) (group : List NumberedRow) : Prop := ∀ row ∈ group, groupKey row = key

lemma books_of_key {row : NumberedRow} {location : String} {quantity : Decimal}
    (hkey : groupKey row = key) (htime : parseTransactionHistoryTimestamp key.time = .ok at')
    (hlocation : locationIdFromParts env.lower [profile.source, key.account] = .ok location)
    (hchange : changeOf row = some quantity) :
    Books env profile row
      ⟨location, at', [symbolClaim (coin env row.2) (some "binance")], quantity⟩ := by
  subst hkey
  exact ⟨hlocation, htime, rfl, hchange⟩

lemma bookedLegs_rewardDraft {row : NumberedRow} {change : Decimal} {draft : EconomicActivityDraft}
    (h : rewardDraft env profile fileName key at' row change = .ok draft) :
    ∃ location, locationIdFromParts env.lower [profile.source, key.account] = .ok location ∧
      bookedLegs draft =
        [⟨location, at', [symbolClaim (coin env row.2) (some "binance")], change⟩] := by
  rcases bind_eq_ok_iff.1 h with ⟨location, hlocation, hleg⟩
  rcases bind_eq_ok_iff.1 hleg with ⟨leg, hsymbol, hbuild⟩
  rcases val_of_symbolLeg hsymbol with ⟨_, _, hquantity, hclaims, hplace⟩
  refine ⟨location, hlocation, ?_⟩
  rw [bookedLegs, val_of_build_draft hlocation hbuild]
  simp only [List.map_cons, List.map_nil, hquantity, hclaims, hplace, Option.getD_none]

lemma bookedLegs_dustDraft {neg pos : NumberedRow} {negChange posChange : Decimal}
    {draft : EconomicActivityDraft}
    (h : dustDraft env profile fileName key at' neg pos negChange posChange = .ok draft) :
    ∃ location, locationIdFromParts env.lower [profile.source, key.account] = .ok location ∧
      bookedLegs draft =
        [⟨location, at', [symbolClaim (coin env pos.2) (some "binance")], posChange⟩,
          ⟨location, at', [symbolClaim (coin env neg.2) (some "binance")], -negChange.abs⟩] := by
  rcases bind_eq_ok_iff.1 h with ⟨location, hlocation, hlegs⟩
  rcases bind_eq_ok_iff.1 hlegs with ⟨legIn, hin, hrest⟩
  rcases bind_eq_ok_iff.1 hrest with ⟨legOut, hout, hbuild⟩
  rcases val_of_symbolLeg hin with ⟨_, _, hquantity, hclaims, hplace⟩
  rcases val_of_symbolLeg hout with ⟨_, _, hquantity', hclaims', hplace'⟩
  refine ⟨location, hlocation, ?_⟩
  rw [bookedLegs, val_of_build_draft hlocation hbuild]
  simp only [List.map_cons, List.map_nil, hquantity, hclaims, hplace, hquantity', hclaims', hplace',
    Option.getD_none]

def GroupOutcome.legs (outcome : GroupOutcome) : List BookedLeg :=
  (outcome.draft?.map bookedLegs).getD []

/-- What becomes of a group of rewards: nothing, or the draft of its first row. -/
lemma rewardOutcome_cases {outcome : GroupOutcome}
    (h : rewardOutcome env profile fileName key at' group = .ok outcome) :
    (outcome = .skipped ∧
        ∀ row, group.head? = some row → ∀ d, rowChange row.2 = .ok d → isPositive d = false) ∨
      ∃ row d draft, group.head? = some row ∧ rowChange row.2 = .ok d ∧ isPositive d = true ∧
        rewardDraft env profile fileName key at' row d = .ok draft ∧ outcome = .drafted draft := by
  cases group with
  | nil =>
      cases h
      exact Or.inl ⟨rfl, nofun⟩
  | cons first rest =>
      rcases bind_eq_ok_iff.1 h with ⟨change, hchange, houtcome⟩
      have hread : rowChange first.2 = .ok (change.getD 0) := by
        rw [rowChange, hchange]
        rfl
      -- Only the first row is read, and passed over unless it is positive.
      have hskipped : isPositive (change.getD 0) = false → ∀ row, (first :: rest).head? = some row →
          ∀ d, rowChange row.2 = .ok d → isPositive d = false := by
        intro hsign row hrow d hd
        cases hrow
        rw [hread] at hd
        rwa [← Except.ok.inj hd]
      rcases change with _ | change
      · cases houtcome
        exact Or.inl ⟨rfl, hskipped (by decide)⟩
      · dsimp only at houtcome
        split_ifs at houtcome with hpositive
        · rcases bind_eq_ok_iff.1 houtcome with ⟨draft, hdraft, hdrafted⟩
          cases hdrafted
          exact Or.inr ⟨first, change, draft, rfl, hread, hpositive, hdraft, rfl⟩
        · cases houtcome
          exact Or.inl ⟨rfl, hskipped (Bool.eq_false_iff.2 hpositive)⟩

/-- What becomes of a group of dust: nothing, or the draft of its first row of each sign. -/
lemma dustOutcome_cases {outcome : GroupOutcome}
    (h : dustOutcome env profile fileName key at' group = .ok outcome) :
    (outcome = .skipped ∧
        (nextRow isNegative group = .ok none ∨ nextRow isPositive group = .ok none)) ∨
      ∃ neg pos draft, nextRow isNegative group = .ok (some neg) ∧
        nextRow isPositive group = .ok (some pos) ∧
          dustDraft env profile fileName key at' neg.1 pos.1 neg.2 pos.2 = .ok draft ∧
            outcome = .drafted draft := by
  rcases bind_eq_ok_iff.1 h with ⟨negative, hnegative, hrest⟩
  rcases bind_eq_ok_iff.1 hrest with ⟨positive, hpositive, houtcome⟩
  rcases negative with _ | neg
  · cases houtcome
    exact Or.inl ⟨rfl, Or.inl hnegative⟩
  rcases positive with _ | pos
  · cases houtcome
    exact Or.inl ⟨rfl, Or.inr hpositive⟩
  rcases bind_eq_ok_iff.1 houtcome with ⟨draft, hdraft, hdrafted⟩
  cases hdrafted
  exact Or.inr ⟨neg, pos, draft, hnegative, hpositive, hdraft, rfl⟩

/-- A row of the context with a sign is found, if the sign is looked for. -/
lemma nextRow_ne_none {accepts : Decimal → Bool} {row : NumberedRow} (hrow : row ∈ group)
    (hshown : ShowsExact accepts row) : nextRow accepts group ≠ .ok none := by
  intro hnone
  rcases hshown with ⟨d, hd, haccepts, hcontext⟩
  rcases nextRow_none hnone row hrow with ⟨kept, hkept, hrefused⟩
  rw [eq_of_inContext hkept hd hcontext, haccepts] at hrefused
  cases hrefused

lemma found_of_nextRow {accepts : Decimal → Bool} {found : NumberedRow × Decimal}
    (h : nextRow accepts group = .ok (some found)) :
    found.1 ∈ group ∧ rowChange found.1.2 = .ok found.2 ∧ accepts found.2 = true := by
  rcases nextRow_some h with ⟨hchange, haccepts, before, after, rfl, _⟩
  exact ⟨List.mem_append_right _ List.mem_cons_self, hchange, haccepts⟩

/-- The rows that are found are those of the group, by their signs. -/
lemma eq_of_found {accepts : Decimal → Bool} {other row : NumberedRow} {d : Decimal}
    (hother : ∀ kept, rowChange other.2 = .ok kept → accepts kept = false)
    (hchange : rowChange row.2 = .ok d) (haccepts : accepts d = true) : row ≠ other := by
  rintro rfl
  rw [hother d hchange] at haccepts
  cases haccepts

lemma isNegative_of_isPositive {d : Decimal} (h : isPositive d = true) : isNegative d = false :=
  Bool.eq_false_iff.2 (not_isNegative_of_isPositive h)

lemma isPositive_of_isNegative {d : Decimal} (h : isNegative d = true) : isPositive d = false :=
  Bool.eq_false_iff.2 (fun hpos => not_isNegative_of_isPositive hpos h)

/-- The leg that goes out has the magnitude of the change, negated: the change itself. -/
lemma neg_abs_rowChange {row : NumberedRow} {d : Decimal} (h : rowChange row.2 = .ok d)
    (hneg : isNegative d = true) : -d.abs = d :=
  Decimal.neg_abs_of_neg (inContext_of_rowChange h).fits (of_decide_eq_true hneg)

/-- A group of rewards that changes a balance by its first row only is booked. -/
lemma pairsOff_rewardOutcome {outcome : GroupOutcome} (hkey : OfKey key group)
    (htime : parseTransactionHistoryTimestamp key.time = .ok at') (honly : FirstOnly group)
    (h : rewardOutcome env profile fileName key at' group = .ok outcome) :
    PairsOff (Books env profile) (fun row => ¬Moved row) group outcome.legs := by
  rcases rewardOutcome_cases h with ⟨rfl, hsign⟩ | ⟨row, d, draft, hhead, hread, hpositive, hdraft, rfl⟩
  · refine .of_reasons fun row hrow hmoved => ?_
    rcases honly row hrow hmoved with ⟨hhead, d, hd, hpositive, hcontext⟩
    have hread : rowChange row.2 = .ok d := by
      rw [rowChange, Decimal.parseSettled_eq_ok_some_iff.2
        ⟨d, hd, Decimal.finalize_eq_ok_self_iff.2 hcontext⟩]
      rfl
    rw [hsign row hhead d hread] at hpositive
    cases hpositive
  · have hrow : row ∈ group := List.mem_of_mem_head? hhead
    rcases honly row hrow (moved_of_rowChange hread (ne_zero_of_isPositive hpositive)) with
      ⟨_, shown, hshown, _, hcontext⟩
    rw [eq_of_inContext hread hshown hcontext] at hdraft
    rcases bookedLegs_rewardDraft hdraft with ⟨location, hlocation, hlegs⟩
    refine ⟨[(row, ⟨location, at', [symbolClaim (coin env row.2) (some "binance")], shown⟩)], ?_,
      hlegs.symm, ?_, ?_⟩
    · exact List.singleton_subperm_iff.2 hrow
    · intro p hp
      rw [List.mem_singleton.1 hp]
      exact books_of_key (hkey row hrow) htime hlocation hshown
    · intro other hother
      by_cases hmoved : Moved other
      · have hsame := (honly other hother hmoved).1
        rw [hhead] at hsame
        cases hsame
        exact Or.inl (List.mem_singleton.2 rfl)
      · exact Or.inr hmoved

/-- A group of dust with one change of each sign is booked. -/
lemma pairsOff_dustOutcome {outcome : GroupOutcome} (hkey : OfKey key group)
    (htime : parseTransactionHistoryTimestamp key.time = .ok at') (hone : OneOfEachSign group)
    (h : dustOutcome env profile fileName key at' group = .ok outcome) :
    PairsOff (Books env profile) (fun row => ¬Moved row) group outcome.legs := by
  rcases dustOutcome_cases h with ⟨rfl, hnone⟩ | ⟨neg, pos, draft, hneg, hpos, hdraft, rfl⟩
  · rcases hone with hstill | ⟨neg, hneg, pos, hpos, hnegShown, hposShown, _⟩
    · exact .of_reasons hstill
    · rcases hnone with hnone | hnone
      · exact absurd hnone (nextRow_ne_none hneg hnegShown)
      · exact absurd hnone (nextRow_ne_none hpos hposShown)
  · rcases found_of_nextRow hneg with ⟨hnegMem, hnegRead, hnegSign⟩
    rcases found_of_nextRow hpos with ⟨hposMem, hposRead, hposSign⟩
    have hnegMoved := moved_of_rowChange hnegRead (ne_zero_of_isNegative hnegSign)
    have hposMoved := moved_of_rowChange hposRead (ne_zero_of_isPositive hposSign)
    rcases hone with hstill | ⟨neg', hneg', pos', hpos', ⟨dneg, hdneg, hdnegSign, hdnegContext⟩,
      ⟨dpos, hdpos, hdposSign, hdposContext⟩, hall⟩
    · exact absurd hnegMoved (hstill _ hnegMem)
    -- The two that are found are the two that there are.
    have hnegSame : neg.1 = neg' := by
      refine (hall _ hnegMem hnegMoved).resolve_right (eq_of_found (fun kept hkept => ?_) hnegRead hnegSign)
      rw [eq_of_inContext hkept hdpos hdposContext]
      exact isNegative_of_isPositive hdposSign
    have hposSame : pos.1 = pos' := by
      refine (hall _ hposMem hposMoved).resolve_left (eq_of_found (fun kept hkept => ?_) hposRead hposSign)
      rw [eq_of_inContext hkept hdneg hdnegContext]
      exact isPositive_of_isNegative hdnegSign
    have hdistinct : pos.1 ≠ neg.1 := by
      refine eq_of_found (fun kept hkept => ?_) hposRead hposSign
      rw [hnegRead] at hkept
      rw [← Except.ok.inj hkept]
      exact isPositive_of_isNegative hnegSign
    have hnegShown : changeOf neg.1 = some neg.2 := by
      rw [hnegSame] at hnegRead ⊢
      rw [hdneg, eq_of_inContext hnegRead hdneg hdnegContext]
    have hposShown : changeOf pos.1 = some pos.2 := by
      rw [hposSame] at hposRead ⊢
      rw [hdpos, eq_of_inContext hposRead hdpos hdposContext]
    rcases bookedLegs_dustDraft hdraft with ⟨location, hlocation, hlegs⟩
    rw [neg_abs_rowChange hnegRead hnegSign] at hlegs
    refine ⟨[(pos.1, ⟨location, at', [symbolClaim (coin env pos.1.2) (some "binance")], pos.2⟩),
      (neg.1, ⟨location, at', [symbolClaim (coin env neg.1.2) (some "binance")], neg.2⟩)],
      ?_, hlegs.symm, ?_, ?_⟩
    · refine List.Nodup.subperm (by simpa using hdistinct) ?_
      intro row hrow
      rcases List.mem_cons.1 hrow with rfl | hrow
      · exact hposMem
      · rw [List.mem_singleton.1 hrow]
        exact hnegMem
    · intro p hp
      rcases List.mem_cons.1 hp with rfl | hp
      · exact books_of_key (hkey _ hposMem) htime hlocation hposShown
      · rw [List.mem_singleton.1 hp]
        exact books_of_key (hkey _ hnegMem) htime hlocation hnegShown
    · intro row hrow
      by_cases hmoved : Moved row
      · rcases hall row hrow hmoved with hsame | hsame
        · exact Or.inl (by simp [hsame, hnegSame])
        · exact Or.inl (by simp [hsame, hposSame])
      · exact Or.inr hmoved

/-- The reasons that an outcome leaves to the rows of its group. -/
def ReasonIn (convertMatchTimes p2pMatchTimes : List Instant) (profile : HistoryProfile)
    (fileName : String) (key : GroupKey) (outcome : GroupOutcome) (row : NumberedRow) : Prop :=
  Moved row →
    Historical profile key ∨ MatchedByOrder convertMatchTimes p2pMatchTimes key ∨
      outcome = .ambiguous (ambiguousIssue profile fileName key) ∧ key.operation = convertOperation ∨
        outcome = .unsupported

lemma ReasonIn.of_not_moved {outcome : GroupOutcome} {row : NumberedRow} (h : ¬Moved row) :
    ReasonIn convertMatchTimes p2pMatchTimes profile fileName key outcome row :=
  fun hmoved => absurd hmoved h

/-- One turn of the loop: the rows of a group that can be collapsed pair off with the legs of its
draft. -/
theorem pairsOff_groupOutcome {outcome : GroupOutcome} (hkey : OfKey key group)
    (hcollapsible : Collapsible key group)
    (h : groupOutcome env profile fileName convertMatchTimes p2pMatchTimes (key, group) =
      .ok outcome) :
    PairsOff (Books env profile)
      (ReasonIn convertMatchTimes p2pMatchTimes profile fileName key outcome) group outcome.legs := by
  rcases bind_eq_ok_iff.1 h with ⟨at', htime, hignored⟩
  rcases bind_eq_ok_iff.1 hignored with ⟨ignored, hhistorical, houtcome⟩
  dsimp only at htime hhistorical houtcome
  split_ifs at houtcome with hcutoff hreward hdust hconvert hp2p hambiguous
  · cases houtcome
    rw [hcutoff] at hhistorical
    exact .of_reasons fun row _ _ => Or.inl ⟨at', htime, hhistorical⟩
  · exact (pairsOff_rewardOutcome hkey htime (hcollapsible.reward hreward) houtcome).mono
      (fun row _ hstill => .of_not_moved hstill)
  · exact (pairsOff_dustOutcome hkey htime (hcollapsible.dust hdust.1 hdust.2) houtcome).mono
      (fun row _ hstill => .of_not_moved hstill)
  · cases houtcome
    exact .of_reasons fun row _ _ => Or.inr (Or.inl ⟨at', htime, Or.inl hconvert⟩)
  · cases houtcome
    exact .of_reasons fun row _ _ => Or.inr (Or.inl ⟨at', htime, Or.inr hp2p⟩)
  · cases houtcome
    exact .of_reasons fun row _ _ => Or.inr (Or.inr (Or.inl ⟨rfl, hambiguous⟩))
  · cases houtcome
    exact .of_reasons fun row _ _ => Or.inr (Or.inr (Or.inr rfl))

/-- What the legs of an outcome say about its group: they are of numbers of the context, no more than
the group has changes, and as many only if it can be collapsed. -/
structure LegsOf (key : GroupKey) (group : List NumberedRow) (legs : List BookedLeg) : Prop where
  inContext : ∀ leg ∈ legs, leg.quantity.InContext
  few : legs.length ≤ (group.filter Moved).length
  collapsible : (group.filter Moved).length ≤ legs.length →
    (∀ row ∈ group, Moved row → ∃ d, changeOf row = some d ∧ d.InContext) → Collapsible key group

/-- Without a leg, as many changes as legs are none. -/
lemma LegsOf.nil : LegsOf key group [] where
  inContext := nofun
  few := Nat.zero_le _
  collapsible := by
    intro hnone _
    have hstill : ∀ row ∈ group, ¬Moved row := by
      intro row hrow hmoved
      have hmem : row ∈ group.filter Moved := List.mem_filter.2 ⟨hrow, decide_eq_true hmoved⟩
      exact absurd (List.length_pos_of_mem hmem) (by simpa using hnone)
    exact ⟨fun _ row hrow hmoved => absurd hmoved (hstill row hrow), fun _ _ => Or.inl hstill⟩

/-- Of rows that are read as `d`, the exact change is `d`. -/
lemma showsExact_of_rowChange {accepts : Decimal → Bool} {row : NumberedRow} {d : Decimal}
    (hread : rowChange row.2 = .ok d) (haccepts : accepts d = true)
    (hexact : ∃ shown, changeOf row = some shown ∧ shown.InContext) : ShowsExact accepts row := by
  rcases hexact with ⟨shown, hshown, hcontext⟩
  have hsame := eq_of_inContext hread hshown hcontext
  exact ⟨shown, hshown, hsame ▸ haccepts, hcontext⟩

lemma legsOf_rewardOutcome {outcome : GroupOutcome} (hoperation : key.operation = rewardOperation)
    (h : rewardOutcome env profile fileName key at' group = .ok outcome) :
    LegsOf key group outcome.legs := by
  rcases rewardOutcome_cases h with ⟨rfl, _⟩ | ⟨row, d, draft, hhead, hread, hpositive, hdraft, rfl⟩
  · exact .nil
  · rcases bookedLegs_rewardDraft hdraft with ⟨location, _, hlegs⟩
    have hlegs' : (GroupOutcome.drafted draft).legs =
        [⟨location, at', [symbolClaim (coin env row.2) (some "binance")], d⟩] := hlegs
    have hmoved := moved_of_rowChange hread (ne_zero_of_isPositive hpositive)
    have hmem : row ∈ group.filter Moved :=
      List.mem_filter.2 ⟨List.mem_of_mem_head? hhead, decide_eq_true hmoved⟩
    rw [hlegs']
    refine ⟨?_, List.length_pos_of_mem hmem, fun hfew hexact => ?_⟩
    · intro leg hleg
      rw [List.mem_singleton.1 hleg]
      exact inContext_of_rowChange hread
    · have hone : group.filter Moved = [row] := by
        rcases List.length_eq_one_iff.1 (le_antisymm hfew (List.length_pos_of_mem hmem)) with
          ⟨other, hother⟩
        rw [hother, List.mem_singleton] at hmem
        rw [hother, hmem]
      refine ⟨fun _ other hother hmoves => ?_, fun hdust => ?_⟩
      · have hsame : other ∈ group.filter Moved := List.mem_filter.2 ⟨hother, decide_eq_true hmoves⟩
        rw [hone, List.mem_singleton] at hsame
        rw [hsame] at hother hmoves ⊢
        exact ⟨hhead, showsExact_of_rowChange hread hpositive (hexact row hother hmoves)⟩
      · rw [hoperation] at hdust
        exact absurd hdust (by decide)

lemma legsOf_dustOutcome {outcome : GroupOutcome} (hoperation : key.operation = dustOperation)
    (h : dustOutcome env profile fileName key at' group = .ok outcome) :
    LegsOf key group outcome.legs := by
  rcases dustOutcome_cases h with ⟨rfl, _⟩ | ⟨neg, pos, draft, hneg, hpos, hdraft, rfl⟩
  · exact .nil
  · rcases found_of_nextRow hneg with ⟨hnegMem, hnegRead, hnegSign⟩
    rcases found_of_nextRow hpos with ⟨hposMem, hposRead, hposSign⟩
    rcases bookedLegs_dustDraft hdraft with ⟨location, _, hlegs⟩
    rw [neg_abs_rowChange hnegRead hnegSign] at hlegs
    have hlegs' : (GroupOutcome.drafted draft).legs =
        [⟨location, at', [symbolClaim (coin env pos.1.2) (some "binance")], pos.2⟩,
          ⟨location, at', [symbolClaim (coin env neg.1.2) (some "binance")], neg.2⟩] := hlegs
    have hdistinct : pos.1 ≠ neg.1 := by
      refine eq_of_found (fun kept hkept => ?_) hposRead hposSign
      rw [hnegRead] at hkept
      rw [← Except.ok.inj hkept]
      exact isPositive_of_isNegative hnegSign
    have hfound : [pos.1, neg.1].Subperm (group.filter Moved) := by
      refine List.Nodup.subperm (by simpa using hdistinct) ?_
      intro row hrow
      rcases List.mem_cons.1 hrow with rfl | hrow
      · exact List.mem_filter.2 ⟨hposMem,
          decide_eq_true (moved_of_rowChange hposRead (ne_zero_of_isPositive hposSign))⟩
      · rw [List.mem_singleton.1 hrow]
        exact List.mem_filter.2 ⟨hnegMem,
          decide_eq_true (moved_of_rowChange hnegRead (ne_zero_of_isNegative hnegSign))⟩
    rw [hlegs']
    refine ⟨?_, hfound.length_le, fun hfew hexact => ?_⟩
    · intro leg hleg
      rcases List.mem_cons.1 hleg with rfl | hleg
      · exact inContext_of_rowChange hposRead
      · rw [List.mem_singleton.1 hleg]
        exact inContext_of_rowChange hnegRead
    · have hall := hfound.perm_of_length_le hfew
      have hmoved : ∀ row ∈ [pos.1, neg.1], Moved row := fun row hrow =>
        of_decide_eq_true (List.mem_filter.1 (hall.mem_iff.1 hrow)).2
      refine ⟨fun hreward => ?_, fun _ _ => Or.inr ⟨neg.1, hnegMem, pos.1, hposMem, ?_, ?_, ?_⟩⟩
      · rw [hoperation] at hreward
        exact absurd hreward (by decide)
      · exact showsExact_of_rowChange hnegRead hnegSign
          (hexact _ hnegMem (hmoved _ (List.mem_cons_of_mem _ List.mem_cons_self)))
      · exact showsExact_of_rowChange hposRead hposSign (hexact _ hposMem (hmoved _ List.mem_cons_self))
      · intro row hrow hmoves
        have hmem := hall.mem_iff.2 (List.mem_filter.2 ⟨hrow, decide_eq_true hmoves⟩)
        rcases List.mem_cons.1 hmem with hsame | hmem
        · exact Or.inr hsame
        · exact Or.inl (List.mem_singleton.1 hmem)

/-- One turn of the loop, by its legs; only supported groups have any, and none of these comes out as
unsupported. -/
theorem legsOf_groupOutcome {outcome : GroupOutcome}
    (h : groupOutcome env profile fileName convertMatchTimes p2pMatchTimes (key, group) =
      .ok outcome) :
    LegsOf key group outcome.legs ∧ (¬Supported key group → outcome.legs = []) ∧
      (outcome = .unsupported → ¬Supported key group) := by
  rcases bind_eq_ok_iff.1 h with ⟨at', _, hignored⟩
  rcases bind_eq_ok_iff.1 hignored with ⟨ignored, _, houtcome⟩
  dsimp only at houtcome
  split_ifs at houtcome with hcutoff hreward hdust
  · cases houtcome
    exact ⟨.nil, fun _ => rfl, fun h => by cases h⟩
  · refine ⟨legsOf_rewardOutcome hreward houtcome, fun hnot => absurd (Or.inl hreward) hnot, ?_⟩
    rintro rfl
    rcases rewardOutcome_cases houtcome with ⟨hskipped, _⟩ | ⟨_, _, _, _, _, _, _, hdrafted⟩
    · cases hskipped
    · cases hdrafted
  · refine ⟨legsOf_dustOutcome hdust.1 houtcome, fun hnot => absurd (Or.inr hdust) hnot, ?_⟩
    rintro rfl
    rcases dustOutcome_cases houtcome with ⟨hskipped, _⟩ | ⟨_, _, _, _, _, _, hdrafted⟩
    · cases hskipped
    · cases hdrafted
  · cases houtcome
    exact ⟨.nil, fun _ => rfl, fun h => by cases h⟩
  · cases houtcome
    exact ⟨.nil, fun _ => rfl, fun h => by cases h⟩
  · cases houtcome
    exact ⟨.nil, fun _ => rfl, fun h => by cases h⟩
  · cases houtcome
    refine ⟨.nil, fun _ => rfl, fun _ => ?_⟩
    rintro (hsupported | hsupported)
    · exact hreward hsupported
    · exact hdust hsupported

end Groups

/-! ## The whole history -/

/-- The rows of a key. -/
def rowsOf (rows : List CsvRow) (key : GroupKey) : List NumberedRow :=
  (numberedRows rows).filter (fun row => groupKey row = key)

section History

variable {env : KernelEnvironment} {profile : HistoryProfile} {fileName : String}
  {convertMatchTimes p2pMatchTimes : List Instant} {rows : List CsvRow} {result : NormalizedHistory}

lemma mem_sortedGroups {entry : GroupKey × List NumberedRow} (h : entry ∈ sortedGroups rows) :
    entry.2 = rowsOf rows entry.1 :=
  (Dict.mem_entries_group (mem_sortedOn.1 h)).2

lemma sortedGroups_perm (rows : List CsvRow) :
    ((sortedGroups rows).flatMap Prod.snd).Perm (numberedRows rows) :=
  ((sortedOn_perm _ _).flatMap_right _).trans (Dict.flatten_group groupKey (numberedRows rows))

lemma flatMap_legs (outcomes : List GroupOutcome) :
    outcomes.flatMap GroupOutcome.legs = (outcomes.filterMap GroupOutcome.draft?).flatMap bookedLegs := by
  induction outcomes with
  | nil => rfl
  | cons outcome outcomes ih =>
      cases outcome with
      | drafted draft =>
          rw [List.flatMap_cons, ih]
          rfl
      | skipped => exact ih
      | unsupported => exact ih
      | ambiguous issue => exact ih

/-- A group with the outcome that the loop gave it. -/
abbrev Turn := (GroupKey × List NumberedRow) × GroupOutcome

/-- The loop as its turns. -/
lemma turns_of_normalize
    (h : normalizeTransactionRows env profile fileName rows convertMatchTimes p2pMatchTimes =
      .ok result) :
    ∃ turns : List Turn, turns.map Prod.fst = sortedGroups rows ∧
      (∀ turn ∈ turns, groupOutcome env profile fileName convertMatchTimes p2pMatchTimes turn.1 =
        .ok turn.2) ∧
      result.drafts = (turns.map Prod.snd).filterMap GroupOutcome.draft? ∧
      result.issues = (turns.map Prod.snd).filterMap GroupOutcome.issue? ++
        unsupportedGroupIssues profile fileName
          (unsupportedGroups (turns.map (fun turn => (turn.1.1, turn.2)))) := by
  rcases bind_eq_ok_iff.1 h with ⟨outcomes, houtcomes, hresult⟩
  rcases mapM_ok_pairs houtcomes with ⟨turns, hfst, rfl, hturns⟩
  refine ⟨turns, hfst, hturns, ?_, ?_⟩
  · rw [← Except.ok.inj hresult]
  · rw [← Except.ok.inj hresult]
    dsimp only
    rw [← hfst, List.map_map, List.zip_map']
    rfl

lemma mem_unsupportedGroups {turns : List Turn} {key : GroupKey} :
    key ∈ unsupportedGroups (turns.map (fun turn => (turn.1.1, turn.2))) ↔
      ∃ turn ∈ turns, turn.1.1 = key ∧ turn.2 = .unsupported := by
  rw [unsupportedGroups, List.mem_filterMap]
  constructor
  · rintro ⟨p, hp, hkey⟩
    rcases List.mem_map.1 hp with ⟨turn, hturn, rfl⟩
    refine ⟨turn, hturn, ?_⟩
    dsimp only at hkey
    split at hkey
    · rename_i hunsupported
      exact ⟨Option.some.inj hkey, hunsupported⟩
    · cases hkey
  · rintro ⟨turn, hturn, rfl, hunsupported⟩
    refine ⟨(turn.1.1, turn.2), List.mem_map_of_mem hturn, ?_⟩
    rw [hunsupported]

/-- An unsupported group is counted by the issue of its operation. -/
lemma mem_unsupportedGroupIssues {keys : List GroupKey} {key : GroupKey} (h : key ∈ keys) :
    unsupportedGroupIssue profile fileName key.operation
        (keys.filter (fun other => other.operation = key.operation)) ∈
      unsupportedGroupIssues profile fileName keys := by
  refine List.mem_map.2 ⟨(key.operation, keys.filter (fun other => other.operation = key.operation)),
    mem_sortedOn.2 (Dict.mem_entries_group_iff.2 ⟨?_, rfl⟩), rfl⟩
  exact List.ne_nil_of_mem (List.mem_filter.2 ⟨h, by simp⟩)

/-- The row is excused: its group is skipped for the cutoff or an order, or an issue counts it. -/
def Excused (profile : HistoryProfile) (fileName : String)
    (convertMatchTimes p2pMatchTimes : List Instant) (rows : List CsvRow) (issues : List IssueRecord)
    (row : NumberedRow) : Prop :=
  Historical profile (groupKey row) ∨ MatchedByOrder convertMatchTimes p2pMatchTimes (groupKey row) ∨
    UnderIssue profile fileName issues (rowsOf rows) (groupKey row)

/-- The issues of a file, by the turns of its loop. -/
def issuesOf (profile : HistoryProfile) (fileName : String) (turns : List Turn) : List IssueRecord :=
  (turns.map Prod.snd).filterMap GroupOutcome.issue? ++
    unsupportedGroupIssues profile fileName
      (unsupportedGroups (turns.map (fun turn => (turn.1.1, turn.2))))

lemma underIssue_of_ambiguous {turns : List Turn} {turn : Turn} (hturn : turn ∈ turns)
    (houtcome : turn.2 = .ambiguous (ambiguousIssue profile fileName turn.1.1))
    (hoperation : turn.1.1.operation = convertOperation) :
    UnderIssue profile fileName (issuesOf profile fileName turns) (rowsOf rows) turn.1.1 := by
  refine Or.inl ⟨hoperation, List.mem_append_left _ (List.mem_filterMap.2 ⟨turn.2, ?_, ?_⟩)⟩
  · exact List.mem_map_of_mem hturn
  · rw [houtcome]
    rfl

lemma underIssue_of_unsupported {turns : List Turn} {turn : Turn} (hturn : turn ∈ turns)
    (houtcome : turn.2 = .unsupported)
    (hnone : ∀ turn ∈ turns, turn.2 = .unsupported → ¬Supported turn.1.1 (rowsOf rows turn.1.1)) :
    UnderIssue profile fileName (issuesOf profile fileName turns) (rowsOf rows) turn.1.1 := by
  have hkey : turn.1.1 ∈ unsupportedGroups (turns.map (fun turn => (turn.1.1, turn.2))) :=
    mem_unsupportedGroups.2 ⟨turn, hturn, rfl, houtcome⟩
  refine Or.inr ⟨_, List.mem_filter.2 ⟨hkey, by simp⟩, ?_,
    List.mem_append_right _ (mem_unsupportedGroupIssues hkey)⟩
  intro other hother
  rcases List.mem_filter.1 hother with ⟨hmem, hsame⟩
  rcases mem_unsupportedGroups.1 hmem with ⟨turn', hturn', rfl, hunsupported⟩
  exact ⟨by simpa using hsame, hnone turn' hturn' hunsupported⟩

/-- What the loop leaves of a row is a reason. -/
lemma excused_of_turn {turns : List Turn} {turn : Turn} {row : NumberedRow} (hturn : turn ∈ turns)
    (hnone : ∀ turn ∈ turns, turn.2 = .unsupported → ¬Supported turn.1.1 (rowsOf rows turn.1.1))
    (hrow : groupKey row = turn.1.1)
    (h : ReasonIn convertMatchTimes p2pMatchTimes profile fileName turn.1.1 turn.2 row)
    (hmoved : Moved row) :
    Excused profile fileName convertMatchTimes p2pMatchTimes rows (issuesOf profile fileName turns)
      row := by
  rw [Excused, hrow]
  rcases h hmoved with hhistorical | hmatched | ⟨hambiguous, hconvert⟩ | hunsupported
  · exact Or.inl hhistorical
  · exact Or.inr (Or.inl hmatched)
  · exact Or.inr (Or.inr (underIssue_of_ambiguous hturn hambiguous hconvert))
  · exact Or.inr (Or.inr (underIssue_of_unsupported hturn hunsupported hnone))

/-- The row changes a balance, and a draft should be made of its group. -/
def Owed (rows : List CsvRow) (row : NumberedRow) : Prop :=
  Moved row ∧ Supported (groupKey row) (rowsOf rows (groupKey row))

instance (rows : List CsvRow) (row : NumberedRow) : Decidable (Owed rows row) :=
  inferInstanceAs (Decidable (_ ∧ _))

/-- Neither a cutoff nor an order nor an issue excuses a row of a group of which a draft should be
made. -/
lemma not_excused_of_owed {row : NumberedRow} {issues : List IssueRecord} (h : Owed rows row) :
    ¬Excused profile fileName convertMatchTimes p2pMatchTimes rows issues row := by
  have hoperation : (groupKey row).operation = rewardOperation ∨
      (groupKey row).operation = dustOperation := h.2.imp_right And.left
  have hother : (groupKey row).operation ≠ convertOperation ∧
      (groupKey row).operation ≠ p2pOperation ∧
        (groupKey row).operation ∉ historicalOnlyIgnoredOperations := by
    rcases hoperation with hoperation | hoperation
    · rw [hoperation]
      decide
    · rw [hoperation]
      decide
  rintro (⟨at', _, hignored⟩ | ⟨at', _, ⟨hconvert, _⟩ | ⟨hp2p, _⟩⟩ | ⟨hconvert, _⟩ | ⟨keys, hkeys, hall, _⟩)
  · unfold shouldIgnoreHistoricalOperation at hignored
    split at hignored
    · cases hignored
    · rw [if_neg hother.2.2] at hignored
      cases hignored
  · exact hother.1 hconvert
  · exact hother.2.1 hp2p
  · exact hother.1 hconvert
  · exact (hall _ hkeys).2 h.2

lemma nodup_numberedRows (rows : List CsvRow) : (numberedRows rows).Nodup := by
  refine List.Nodup.filter _ (List.Nodup.of_map Prod.fst ?_)
  rw [List.map_map]
  have hnumbers : (rows.zipIdx 2).map (Prod.fst ∘ Prod.swap) = List.range' 2 rows.length := by
    exact List.zipIdx_map_snd 2 rows
  rw [hnumbers]
  exact List.nodup_range'

/-- Of two sums of which one is the greater in each part, only equal parts make it the smaller. -/
lemma eq_of_sum_le {α : Type*} {f g : α → Nat} {xs : List α} (hle : ∀ x ∈ xs, f x ≤ g x)
    (hsum : (xs.map g).sum ≤ (xs.map f).sum) : ∀ x ∈ xs, g x ≤ f x := by
  induction xs with
  | nil => exact nofun
  | cons x xs ih =>
      rw [List.map_cons, List.map_cons, List.sum_cons, List.sum_cons] at hsum
      have hfirst := hle x List.mem_cons_self
      have hrest : ∀ other ∈ xs, f other ≤ g other := fun other hother =>
        hle other (List.mem_cons_of_mem _ hother)
      have hrestSum : (xs.map f).sum ≤ (xs.map g).sum := List.sum_le_sum hrest
      intro other hother
      rcases List.mem_cons.1 hother with rfl | hother
      · omega
      · exact ih hrest (by omega) other hother

/-- What is known of the turns of a loop. -/
structure TurnsOf (env : KernelEnvironment) (profile : HistoryProfile) (fileName : String)
    (convertMatchTimes p2pMatchTimes : List Instant) (rows : List CsvRow) (turns : List Turn) : Prop where
  groups : turns.map Prod.fst = sortedGroups rows
  outcomes : ∀ turn ∈ turns,
    groupOutcome env profile fileName convertMatchTimes p2pMatchTimes turn.1 = .ok turn.2

namespace TurnsOf

variable {turns : List Turn}
  (h : TurnsOf env profile fileName convertMatchTimes p2pMatchTimes rows turns)

include h

lemma group {turn : Turn} (hturn : turn ∈ turns) : turn.1.2 = rowsOf rows turn.1.1 := by
  refine mem_sortedGroups ?_
  rw [← h.groups]
  exact List.mem_map_of_mem hturn

lemma ofKey {turn : Turn} (hturn : turn ∈ turns) : OfKey turn.1.1 turn.1.2 := by
  intro row hrow
  rw [h.group hturn] at hrow
  exact of_decide_eq_true (List.mem_filter.1 hrow).2

lemma elements : (turns.flatMap (fun turn => turn.1.2)).Perm (numberedRows rows) := by
  rw [← List.flatMap_map, h.groups]
  exact sortedGroups_perm rows

lemma not_supported {turn : Turn} (hturn : turn ∈ turns) (hunsupported : turn.2 = .unsupported) :
    ¬Supported turn.1.1 (rowsOf rows turn.1.1) := by
  rw [← h.group hturn]
  exact (legsOf_groupOutcome (h.outcomes turn hturn)).2.2 hunsupported

/-- In a group the owed rows are all that change a balance, or none. -/
lemma filter_owed {turn : Turn} (hturn : turn ∈ turns) :
    turn.1.2.filter (fun row => Owed rows row) =
      if Supported turn.1.1 turn.1.2 then turn.1.2.filter Moved else [] := by
  have hsame : ∀ row ∈ turn.1.2, decide (Owed rows row) =
      decide (Moved row ∧ Supported turn.1.1 turn.1.2) := by
    intro row hrow
    have hkey := h.ofKey hturn row hrow
    rw [decide_eq_decide, Owed, hkey, ← h.group hturn]
  rw [List.filter_congr hsame]
  split_ifs with hsupported
  · simp [hsupported]
  · simp [hsupported]

/-- No group has more legs than owed rows. -/
lemma length_legs_le {turn : Turn} (hturn : turn ∈ turns) :
    turn.2.legs.length ≤ (turn.1.2.filter (fun row => Owed rows row)).length := by
  have hlegs := legsOf_groupOutcome (h.outcomes turn hturn)
  rw [h.filter_owed hturn]
  split_ifs with hsupported
  · exact hlegs.1.few
  · rw [hlegs.2.1 hsupported]
    exact Nat.zero_le _

lemma length_owed :
    ((numberedRows rows).filter (fun row => Owed rows row)).length =
      (turns.map (fun turn => (turn.1.2.filter (fun row => Owed rows row)).length)).sum := by
  rw [← (h.elements.filter _).length_eq, List.filter_flatMap, List.length_flatMap]

/-- If every row pairs off, the owed rows are as few as the legs in each group, and exact. -/
theorem collapsible_of_pairsOff {issues : List IssueRecord}
    (hpairs : PairsOff (Books env profile)
      (fun row => Moved row →
        Excused profile fileName convertMatchTimes p2pMatchTimes rows issues row)
      (numberedRows rows) (turns.flatMap (fun turn => turn.2.legs)))
    {turn : Turn} (hturn : turn ∈ turns) : Collapsible turn.1.1 turn.1.2 := by
  rcases hpairs with ⟨pairs, _, hsnd, hbooks, hrest⟩
  have howed : ∀ row ∈ (numberedRows rows).filter (fun row => Owed rows row),
      row ∈ pairs.map Prod.fst := by
    intro row hrow
    rcases List.mem_filter.1 hrow with ⟨hmem, hdecided⟩
    have how := of_decide_eq_true hdecided
    exact (hrest row hmem).resolve_right (fun hexcused => not_excused_of_owed how (hexcused how.1))
  have hcount : ((numberedRows rows).filter (fun row => Owed rows row)).length ≤
      (turns.flatMap (fun turn => turn.2.legs)).length := by
    have hsubperm := ((nodup_numberedRows rows).filter (fun row => decide (Owed rows row))).subperm howed
    have hlength := hsubperm.length_le
    rw [List.length_map] at hlength
    rwa [← hsnd, List.length_map]
  rw [h.length_owed, List.length_flatMap] at hcount
  have hfew := eq_of_sum_le (fun turn hturn => h.length_legs_le hturn) hcount turn hturn
  by_cases hsupported : Supported turn.1.1 turn.1.2
  · rw [h.filter_owed hturn, if_pos hsupported] at hfew
    refine (legsOf_groupOutcome (h.outcomes turn hturn)).1.collapsible hfew ?_
    intro row hrow hmoved
    have hmem : row ∈ numberedRows rows :=
      h.elements.mem_iff.1 (List.mem_flatMap.2 ⟨turn, hturn, hrow⟩)
    have how : Owed rows row := by
      refine ⟨hmoved, ?_⟩
      rw [h.ofKey hturn row hrow, ← h.group hturn]
      exact hsupported
    rcases List.mem_map.1 (howed row (List.mem_filter.2 ⟨hmem, decide_eq_true how⟩)) with ⟨p, hp, rfl⟩
    have hleg : p.2 ∈ turns.flatMap (fun turn => turn.2.legs) := by
      rw [← hsnd]
      exact List.mem_map_of_mem hp
    rcases List.mem_flatMap.1 hleg with ⟨other, hother, hmemLeg⟩
    exact ⟨p.2.quantity, (hbooks p hp).quantity,
      (legsOf_groupOutcome (h.outcomes other hother)).1.inContext _ hmemLeg⟩
  · exact ⟨fun hreward => absurd (Or.inl hreward) hsupported,
      fun hdust hlength => absurd (Or.inr ⟨hdust, hlength⟩) hsupported⟩

end TurnsOf

/-- If every row is booked or excused, every group of the history can be collapsed. -/
theorem collapsible_of_normalize
    (h : normalizeTransactionRows env profile fileName rows convertMatchTimes p2pMatchTimes =
      .ok result)
    (hpairs : PairsOff (Books env profile)
      (fun row => Moved row →
        Excused profile fileName convertMatchTimes p2pMatchTimes rows result.issues row)
      (numberedRows rows) (result.drafts.flatMap bookedLegs)) (key : GroupKey) :
    Collapsible key (rowsOf rows key) := by
  rcases turns_of_normalize h with ⟨turns, hgroups, hturns, hdrafts, _⟩
  have hloop : TurnsOf env profile fileName convertMatchTimes p2pMatchTimes rows turns :=
    ⟨hgroups, hturns⟩
  rw [hdrafts, ← flatMap_legs, List.flatMap_map] at hpairs
  by_cases hempty : rowsOf rows key = []
  · rw [hempty]
    exact ⟨fun _ row hrow => absurd hrow List.not_mem_nil, fun _ hlength => absurd hlength (by decide)⟩
  · have hentry : (key, rowsOf rows key) ∈ sortedGroups rows :=
      mem_sortedOn.2 (Dict.mem_entries_group_iff.2 ⟨hempty, rfl⟩)
    rw [← hgroups] at hentry
    rcases List.mem_map.1 hentry with ⟨turn, hturn, hfst⟩
    have hcollapsible := hloop.collapsible_of_pairsOff hpairs hturn
    rwa [hfst] at hcollapsible

/-- Every row that changes a balance is booked by one leg of its own, or is excused, exactly where
every group of the history can be collapsed. -/
theorem pairsOff_normalize_iff
    (h : normalizeTransactionRows env profile fileName rows convertMatchTimes p2pMatchTimes =
      .ok result) :
    PairsOff (Books env profile)
        (fun row => Moved row →
          Excused profile fileName convertMatchTimes p2pMatchTimes rows result.issues row)
        (numberedRows rows) (result.drafts.flatMap bookedLegs) ↔
      ∀ key, Collapsible key (rowsOf rows key) := by
  constructor
  · exact fun hpairs key => collapsible_of_normalize h hpairs key
  · intro hcollapsible
    rcases turns_of_normalize h with ⟨turns, hgroups, hturns, hdrafts, hissues⟩
    have hloop : TurnsOf env profile fileName convertMatchTimes p2pMatchTimes rows turns :=
      ⟨hgroups, hturns⟩
    have hentries : turns.flatMap (fun turn => turn.2.legs) = result.drafts.flatMap bookedLegs := by
      rw [hdrafts, ← flatMap_legs, List.flatMap_map]
    rw [hissues, ← hentries]
    have hparts : ∀ turn ∈ turns, PairsOff (Books env profile)
        (fun row => Moved row → Excused profile fileName convertMatchTimes p2pMatchTimes rows
          (issuesOf profile fileName turns) row) turn.1.2 turn.2.legs := by
      intro turn hturn
      have hgroup : Collapsible turn.1.1 turn.1.2 := by
        rw [hloop.group hturn]
        exact hcollapsible _
      refine (pairsOff_groupOutcome (hloop.ofKey hturn) hgroup (hturns turn hturn)).mono ?_
      intro row hrow hreason
      exact excused_of_turn hturn (fun turn hturn => hloop.not_supported hturn)
        (hloop.ofKey hturn row hrow) hreason
    exact (PairsOff.flatMap hparts).perm hloop.elements

end History

/-! ## Two rewards at once -/

def asciiEnvironment : KernelEnvironment where
  sha256 := id
  subjectText := fun _ => ""
  repr := fun text => "'" ++ text ++ "'"
  upper := String.toUpper
  lower := String.toLower

def binanceProfile : HistoryProfile := ⟨"binance", none⟩

def historyRow (account operation coin change : String) : CsvRow :=
  CsvRow.ofTexts
    [("User ID", "1"), ("Time", "23-03-23 04:00:00"), ("Account", account), ("Operation", operation),
      ("Coin", coin), ("Change", change), ("Remark", "")]

lemma numberedRows_pair {first second : CsvRow} (hfirst : isNoDataRow first = false)
    (hsecond : isNoDataRow second = false) :
    numberedRows [first, second] = [(2, first), (3, second)] := by
  have hrows : numberedRows [first, second] =
      [(2, first), (3, second)].filter (fun row => !isNoDataRow row.2) := rfl
  rw [hrows]
  simp [hfirst, hsecond]

/-- Two rewards of one time and account. -/
def rewardRows : List CsvRow :=
  [historyRow "Earn" rewardOperation "ETH" "0.005", historyRow "Earn" rewardOperation "ETH" "0.007"]

/-- The second reward is neither booked nor excused. -/
theorem second_reward_lost :
    ¬∀ (env : KernelEnvironment) (profile : HistoryProfile) (fileName : String)
        (rows : List CsvRow) (convertMatchTimes p2pMatchTimes : List Instant)
        (result : NormalizedHistory),
      normalizeTransactionRows env profile fileName rows convertMatchTimes p2pMatchTimes =
          .ok result →
        PairsOff (Books env profile)
          (fun row => Moved row →
            Excused profile fileName convertMatchTimes p2pMatchTimes rows result.issues row)
          (numberedRows rows) (result.drafts.flatMap bookedLegs) := by
  intro h
  rcases exists_of_isOk (x := normalizeTransactionRows asciiEnvironment binanceProfile "history.csv"
    rewardRows [] []) (by decide +kernel) with ⟨result, hresult⟩
  have hcollapsible := collapsible_of_normalize hresult (h _ _ _ _ _ _ _ hresult)
    ⟨"23-03-23 04:00:00", "Earn", rewardOperation⟩
  have hrow : (3, historyRow "Earn" rewardOperation "ETH" "0.007") ∈
      rowsOf rewardRows ⟨"23-03-23 04:00:00", "Earn", rewardOperation⟩ := by
    rw [rowsOf, rewardRows, numberedRows_pair (by decide +kernel) (by decide +kernel)]
    exact List.mem_filter.2 ⟨List.mem_cons_of_mem _ List.mem_cons_self, by decide +kernel⟩
  have hhead := (hcollapsible.reward rfl _ hrow
    ⟨Decimal.ofParts 7 (-3), by decide +kernel, by decide +kernel⟩).1
  have hfirst : (rowsOf rewardRows ⟨"23-03-23 04:00:00", "Earn", rewardOperation⟩).head?.map Prod.fst =
      some 2 := by
    decide +kernel
  rw [hhead] at hfirst
  cases hfirst

/-- Two rows of a dust conversion. -/
def dustRows : List CsvRow :=
  [historyRow "Spot" dustOperation "ADA" "-10.0", historyRow "Spot" dustOperation "BNB" "0.1"]

lemma collapsible_dustRows (key : GroupKey) : Collapsible key (rowsOf dustRows key) := by
  have hnumbered : numberedRows dustRows =
      [(2, historyRow "Spot" dustOperation "ADA" "-10.0"), (3, historyRow "Spot" dustOperation "BNB" "0.1")] :=
    numberedRows_pair (by decide +kernel) (by decide +kernel)
  have hkeys : ∀ row ∈ numberedRows dustRows,
      groupKey row = ⟨"23-03-23 04:00:00", "Spot", dustOperation⟩ := by
    decide +kernel
  refine ⟨fun hreward row hrow => ?_, fun _ hlength => Or.inr ?_⟩
  · rcases List.mem_filter.1 hrow with ⟨hmem, hkey⟩
    rw [← of_decide_eq_true hkey, hkeys row hmem] at hreward
    exact absurd hreward (by decide)
  · -- The group is not empty, so that its key is the one of the rows.
    have hkey : key = ⟨"23-03-23 04:00:00", "Spot", dustOperation⟩ := by
      rcases List.exists_mem_of_length_pos (lt_of_lt_of_le (by decide) hlength) with ⟨row, hrow⟩
      rcases List.mem_filter.1 hrow with ⟨hmem, hkey⟩
      rw [← of_decide_eq_true hkey, hkeys row hmem]
    subst hkey
    have hall : rowsOf dustRows ⟨"23-03-23 04:00:00", "Spot", dustOperation⟩ = numberedRows dustRows :=
      List.filter_eq_self.2 (fun row hrow => decide_eq_true (hkeys row hrow))
    rw [hall, hnumbered]
    refine ⟨_, List.mem_cons_self, _, List.mem_cons_of_mem _ List.mem_cons_self, ?_, ?_, ?_⟩
    · exact ⟨Decimal.ofParts (-10) 0, by decide +kernel, by decide +kernel, by decide +kernel⟩
    · exact ⟨Decimal.ofParts 1 (-1), by decide +kernel, by decide +kernel, by decide +kernel⟩
    · intro row hrow _
      rcases List.mem_cons.1 hrow with hsame | hrow
      · exact Or.inl hsame
      · exact Or.inr (List.mem_singleton.1 hrow)

/-- The dust conversion is booked row by row. -/
theorem dust_booked :
    ∃ result, normalizeTransactionRows asciiEnvironment binanceProfile "history.csv" dustRows [] [] =
        .ok result ∧
      PairsOff (Books asciiEnvironment binanceProfile)
        (fun row => Moved row → Excused binanceProfile "history.csv" [] [] dustRows result.issues row)
        (numberedRows dustRows) (result.drafts.flatMap bookedLegs) := by
  rcases exists_of_isOk (x := normalizeTransactionRows asciiEnvironment binanceProfile "history.csv"
    dustRows [] []) (by decide +kernel) with ⟨result, hresult⟩
  exact ⟨result, hresult, (pairsOff_normalize_iff hresult).2 collapsible_dustRows⟩

end Binance
end Tallylot
