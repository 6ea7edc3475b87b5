import Tallylot.EvmExplorer.Bookings

/-!
# SettledRows — what becomes of a row of an EVM explorer

A row with a transfer is booked at an owned address, reported, or left out because its transaction is
blocked (`settled_native`, `settled_token`).  It is spoilt where the amount that the row shows is none of
the decimal context, and where a native row moves an amount one way between two owned addresses
(`SpoiltNative`, `SpoiltToken`).
-/

namespace Tallylot
namespace EvmExplorer

open Data Domain Normalization Transactions

/-! ## Shown amounts -/

/-- The number that a text shows, with all of its digits; a blank text shows none. -/
def shownNumber (text : String) : Option Decimal :=
  if strip text = "" then none else Decimal.readDecimal (strip text)

/-- The amount of a native row; a blank cell shows zero. -/
def shownValue (row : CsvRow) (name : String) : Decimal :=
  (shownNumber (amountText (valueCell row name))).getD 0

/-- The amount of a token row. -/
def shownToken (row : CsvRow) : Option Decimal :=
  shownNumber (amountText ((row.get? "TokenValue").getD ""))

/-- The text is blank or a numeral. -/
def IsAmount (text : String) : Prop := strip text = "" ∨ ∃ d, Decimal.readDecimal (strip text) = some d

/-- The numeral of the text is one that the type of decimals has, and the context does not overflow at
it. -/
def Manageable (text : String) : Prop :=
  ∀ parts, Decimal.readParts (strip text) = some parts →
    SpecialDecimal.Constructible parts ∧ ¬(Decimal.ofParts parts.1 parts.2).Overflows

/-- What is read of a text is what it shows, rounded to the context. -/
lemma parseNumeral_eq_ok_iff {text : String} (hamount : IsAmount text) {parsed : Option Decimal} :
    SpecialDecimal.parseNumeral text = .ok parsed ↔
      Manageable text ∧ parsed = (shownNumber text).map Decimal.rounded := by
  unfold SpecialDecimal.parseNumeral shownNumber Manageable
  by_cases hblank : strip text = ""
  · have hnone : Decimal.readParts "" = none := by decide +kernel
    rw [if_pos hblank, if_pos hblank, hblank, hnone]
    simp only [reduceCtorEq, false_implies, implies_true, true_and, Option.map_none]
    exact ⟨fun h => (Except.ok.inj h).symm, fun h => h ▸ rfl⟩
  · rcases hamount with hempty | ⟨d, hread⟩
    · exact absurd hempty hblank
    · rcases Option.map_eq_some_iff.1 hread with ⟨parts, hparts, rfl⟩
      rw [if_neg hblank, if_neg hblank, hread, hparts]
      simp only [Option.some.injEq, forall_eq', Option.map_some]
      by_cases hconstructible : SpecialDecimal.Constructible parts
      · rw [if_pos hconstructible, and_iff_right hconstructible]
        by_cases hover : (Decimal.ofParts parts.1 parts.2).Overflows
        · rw [Decimal.finalize, if_pos hover]
          exact iff_of_false (fun h => by cases h) (fun h => h.1 hover)
        · rw [Decimal.finalize, if_neg hover, and_iff_right hover]
          exact ⟨fun h => (Except.ok.inj h).symm, fun h => h ▸ rfl⟩
      · rw [if_neg hconstructible]
        exact iff_of_false (fun h => by cases h) (fun h => hconstructible h.1.1)

/-- The shown number of a manageable text does not overflow. -/
lemma not_overflows_of_shown {text : String} (h : Manageable text) {d : Decimal}
    (hshown : shownNumber text = some d) : ¬d.Overflows := by
  unfold shownNumber at hshown
  by_cases hblank : strip text = ""
  · rw [if_pos hblank] at hshown
    cases hshown
  · rw [if_neg hblank] at hshown
    rcases Option.map_eq_some_iff.1 hshown with ⟨parts, hparts, rfl⟩
    exact (h parts hparts).2

lemma toRat_neg_rounded (d : Decimal) : (-d.rounded).toRat = -d.rounded.toRat :=
  Decimal.toRat_neg (Decimal.fits_rounded d)

lemma rounded_zero : Decimal.rounded 0 = 0 := by decide

/-- The texts of the amounts of a row. -/
def amountTexts (family : Family) (row : CsvRow) : List String :=
  match family with
  | .nativeTransfers =>
      [amountText (valueCell row "Value_IN"), amountText (valueCell row "Value_OUT")]
  | .tokenTransfers => [amountText ((row.get? "TokenValue").getD "")]
  | _ => []

lemma parseAmount_eq_ok_iff {row : CsvRow} {name : String}
    (hamount : IsAmount (amountText (valueCell row name))) {amount : Decimal} :
    parseAmount row name = .ok amount ↔
      Manageable (amountText (valueCell row name)) ∧ amount = (shownValue row name).rounded := by
  -- A blank cell is read as nothing and counts as zero, which the context does not round.
  have hshown : ((shownNumber (amountText (valueCell row name))).map Decimal.rounded).getD 0 =
      (shownValue row name).rounded := by
    rw [shownValue]
    cases shownNumber (amountText (valueCell row name)) with
    | none => exact rounded_zero.symm
    | some d => rfl
  rw [parseAmount, bind_eq_ok_iff, ← hshown]
  constructor
  · rintro ⟨parsed, hparsed, hval⟩
    have hamountOf : parsed.getD 0 = amount := Except.ok.inj hval
    rcases (parseNumeral_eq_ok_iff hamount).1 hparsed with ⟨hmanageable, hrounded⟩
    exact ⟨hmanageable, by rw [← hamountOf, hrounded]⟩
  · rintro ⟨hmanageable, hamountOf⟩
    refine ⟨_, (parseNumeral_eq_ok_iff hamount).2 ⟨hmanageable, rfl⟩, ?_⟩
    rw [hamountOf]
    rfl

lemma not_overflows_shownValue {row : CsvRow} {name : String}
    (h : Manageable (amountText (valueCell row name))) : ¬(shownValue row name).Overflows := by
  rw [shownValue]
  cases hshown : shownNumber (amountText (valueCell row name)) with
  | none => exact (by decide : ¬(0 : Decimal).Overflows)
  | some d => exact not_overflows_of_shown h hshown

section

variable {env : EvmEnvironment} {row : CsvRow}

/-- The cells of a native row are read exactly if its amounts are manageable. -/
lemma exists_nativeCells_iff (hreadable : ∀ text ∈ amountTexts .nativeTransfers row, IsAmount text) :
    (∃ cells, nativeCells env row = .ok cells) ↔
      ∀ text ∈ amountTexts .nativeTransfers row, Manageable text := by
  simp only [amountTexts, List.forall_mem_cons, List.not_mem_nil, false_implies, implies_true,
    and_true] at hreadable ⊢
  constructor
  · rintro ⟨cells, h⟩
    rcases bind_eq_ok_iff.1 h with ⟨amountIn, hin, h⟩
    rcases bind_eq_ok_iff.1 h with ⟨amountOut, hout, _⟩
    exact ⟨((parseAmount_eq_ok_iff hreadable.1).1 hin).1,
      ((parseAmount_eq_ok_iff hreadable.2).1 hout).1⟩
  · rintro ⟨hin, hout⟩
    have hparsedIn : parseAmount row "Value_IN" = .ok (shownValue row "Value_IN").rounded :=
      (parseAmount_eq_ok_iff hreadable.1).2 ⟨hin, rfl⟩
    have hparsedOut : parseAmount row "Value_OUT" = .ok (shownValue row "Value_OUT").rounded :=
      (parseAmount_eq_ok_iff hreadable.2).2 ⟨hout, rfl⟩
    rw [nativeCells, hparsedIn, hparsedOut]
    exact ⟨_, rfl⟩

/-- What is read of the amounts of a native row. -/
lemma amounts_of_nativeCells (hreadable : ∀ text ∈ amountTexts .nativeTransfers row, IsAmount text)
    {cells : NativeCells} (h : nativeCells env row = .ok cells) :
    cells.amountIn = (shownValue row "Value_IN").rounded ∧
      cells.amountOut = (shownValue row "Value_OUT").rounded := by
  simp only [amountTexts, List.forall_mem_cons] at hreadable
  rcases bind_eq_ok_iff.1 h with ⟨amountIn, hin, h⟩
  rcases bind_eq_ok_iff.1 h with ⟨amountOut, hout, hcells⟩
  rw [← Except.ok.inj hcells]
  exact ⟨((parseAmount_eq_ok_iff hreadable.1).1 hin).2,
    ((parseAmount_eq_ok_iff hreadable.2.1).1 hout).2⟩

lemma exists_tokenCells_iff (hreadable : ∀ text ∈ amountTexts .tokenTransfers row, IsAmount text) :
    (∃ cells, tokenCells env row = .ok cells) ↔
      ∀ text ∈ amountTexts .tokenTransfers row, Manageable text := by
  simp only [amountTexts, List.forall_mem_cons, List.not_mem_nil, false_implies, implies_true,
    and_true] at hreadable ⊢
  constructor
  · rintro ⟨cells, h⟩
    rcases bind_eq_ok_iff.1 h with ⟨parsed, hparsed, _⟩
    exact ((parseNumeral_eq_ok_iff hreadable).1 hparsed).1
  · intro hmanageable
    rw [tokenCells, (parseNumeral_eq_ok_iff hreadable).2 ⟨hmanageable, rfl⟩]
    exact ⟨_, rfl⟩

lemma amount_of_tokenCells (hreadable : ∀ text ∈ amountTexts .tokenTransfers row, IsAmount text)
    {cells : TokenCells} (h : tokenCells env row = .ok cells) :
    cells.amount = (shownToken row).map Decimal.rounded := by
  simp only [amountTexts, List.forall_mem_cons] at hreadable
  rcases bind_eq_ok_iff.1 h with ⟨parsed, hparsed, hcells⟩
  rw [← Except.ok.inj hcells]
  exact ((parseNumeral_eq_ok_iff hreadable.1).1 hparsed).2

end

/-! ## Transfers -/

/-- A change of what an address holds, against another address. -/
structure Move where
  address : String
  other : String
  change : ℚ

structure Transfer where
  txHash : String
  timestamp : Instant
  moves : List Move

def arrival (toAddress fromAddress : String) (amount : Decimal) : Move :=
  ⟨toAddress, fromAddress, amount.toRat⟩

def departure (toAddress fromAddress : String) (amount : Decimal) : Move :=
  ⟨fromAddress, toAddress, -amount.toRat⟩

/-- The moves of a native row, whose columns say the direction. -/
def nativeMoves (cells : NativeCells) (amountIn amountOut : Decimal) : List Move :=
  (if 0 < amountIn.coeff then [arrival cells.toAddress cells.fromAddress amountIn] else []) ++
  if 0 < amountOut.coeff then [departure cells.toAddress cells.fromAddress amountOut] else []

/-- A token row moves its amount from one address to the other. -/
def tokenMoves (cells : TokenCells) (amount : Decimal) : List Move :=
  [arrival cells.toAddress cells.fromAddress amount,
    departure cells.toAddress cells.fromAddress amount]

/-- The rows with a hash, a readable time and a positive amount, and what they say.  The amounts are
those that the row shows, of any number of digits. -/
inductive Transfers (env : EvmEnvironment) : Family → CsvRow → Transfer → Prop where
  | native {row : CsvRow} {cells : NativeCells} {timestamp : Instant}
      (hcells : nativeCells env row = .ok cells) (hhash : cells.txHash ≠ "")
      (htime : cells.timestamp = some timestamp)
      (hpositive : 0 < (shownValue row "Value_IN").coeff ∨ 0 < (shownValue row "Value_OUT").coeff) :
      Transfers env .nativeTransfers row
        ⟨cells.txHash, timestamp,
          nativeMoves cells (shownValue row "Value_IN") (shownValue row "Value_OUT")⟩
  | token {row : CsvRow} {cells : TokenCells} {timestamp : Instant} {amount : Decimal}
      (hcells : tokenCells env row = .ok cells) (hhash : cells.txHash ≠ "")
      (htime : cells.timestamp = some timestamp) (hamount : shownToken row = some amount)
      (hpositive : 0 < amount.coeff) :
      Transfers env .tokenTransfers row ⟨cells.txHash, timestamp, tokenMoves cells amount⟩

/-- A native row whose cells are read has at most one transfer. -/
lemma transfers_native_iff {env : EvmEnvironment} {row : CsvRow} {cells : NativeCells}
    (hcells : nativeCells env row = .ok cells) {transfer : Transfer} :
    Transfers env .nativeTransfers row transfer ↔
      cells.txHash ≠ "" ∧
        (0 < (shownValue row "Value_IN").coeff ∨ 0 < (shownValue row "Value_OUT").coeff) ∧
          ∃ timestamp, cells.timestamp = some timestamp ∧
            transfer = ⟨cells.txHash, timestamp,
              nativeMoves cells (shownValue row "Value_IN") (shownValue row "Value_OUT")⟩ := by
  constructor
  · intro h
    cases h with
    | @native _ others timestamp hothers hhash htime hpositive =>
        cases Except.ok.inj (hothers.symm.trans hcells)
        exact ⟨hhash, hpositive, timestamp, htime, rfl⟩
  · rintro ⟨hhash, hpositive, timestamp, htime, rfl⟩
    exact .native hcells hhash htime hpositive

lemma transfers_token_iff {env : EvmEnvironment} {row : CsvRow} {cells : TokenCells}
    (hcells : tokenCells env row = .ok cells) {transfer : Transfer} :
    Transfers env .tokenTransfers row transfer ↔
      cells.txHash ≠ "" ∧ ∃ timestamp amount, cells.timestamp = some timestamp ∧
        shownToken row = some amount ∧ 0 < amount.coeff ∧
          transfer = ⟨cells.txHash, timestamp, tokenMoves cells amount⟩ := by
  constructor
  · intro h
    cases h with
    | @token _ others timestamp amount hothers hhash htime hamount hpositive =>
        cases Except.ok.inj (hothers.symm.trans hcells)
        exact ⟨hhash, timestamp, amount, htime, hamount, hpositive, rfl⟩
  · rintro ⟨hhash, timestamp, amount, htime, hamount, hpositive, rfl⟩
    exact .token hcells hhash htime hamount hpositive

lemma Transfers.hash_ne {env : EvmEnvironment} {family : Family} {row : CsvRow} {transfer : Transfer}
    (h : Transfers env family row transfer) : transfer.txHash ≠ "" := by
  cases h with
  | native _ hhash => exact hhash
  | token _ hhash => exact hhash

/-! ## Outcomes -/

/-- The row has an issue that says that it is not supported. -/
def HasRowIssue (place : RowPlace) (result : RowResult) : Prop :=
  ∃ issue ∈ result.issues, issue.kind = "unsupported_row" ∧ issue.rawFile = place.fileName ∧
    issue.rawRowRef = rowRef place.index

/-- One draft books a move of the transfer at an owned address, from or to an address that is not
owned. -/
def Booked (ctx : EvmTranslationContext) (place : RowPlace) (transfer : Transfer)
    (result : RowResult) : Prop :=
  ¬HasRowIssue place result ∧
    ∃ move ∈ transfer.moves, move.address ∈ ctx.ownedAddresses ∧ move.other ∉ ctx.ownedAddresses ∧
      ∃ draft quantity, result.drafts = [draft] ∧ Decimal.toRat quantity = move.change ∧
        Books ctx.networkScope place transfer.txHash transfer.timestamp move.address quantity draft

def Reported (place : RowPlace) (result : RowResult) : Prop :=
  result.drafts = [] ∧ HasRowIssue place result

/-- The row leaves nothing, for the reason given. -/
def Skipped (reason : Prop) (result : RowResult) : Prop :=
  result.drafts = [] ∧ result.issues = [] ∧ reason

def ExactlyOne (p q r : Prop) : Prop := (p ∧ ¬q ∧ ¬r) ∨ (¬p ∧ q ∧ ¬r) ∨ (¬p ∧ ¬q ∧ r)

/-- What the translation makes of the row of a transfer.  Where the row is spoilt it is lost, or its draft
is between owned addresses or of another amount, and only there. -/
inductive Settled (ctx : EvmTranslationContext) (place : RowPlace) (transfer : Transfer)
    (spoilt : Prop) : RowResult → Prop where
  | blocked (hhash : transfer.txHash ∈ ctx.blockedTxHashes) (hfine : ¬spoilt) :
      Settled ctx place transfer spoilt {}
  | lost (hhash : transfer.txHash ∉ ctx.blockedTxHashes) (hspoilt : spoilt) :
      Settled ctx place transfer spoilt {}
  | reported (issueSuffix message : String) (hfine : ¬spoilt) :
      Settled ctx place transfer spoilt (place.reported issueSuffix message)
  | booked {move : Move} {draft : EconomicActivityDraft} {quantity : Decimal}
      {issues : List IssueRecord} (hmove : move ∈ transfer.moves)
      (howned : move.address ∈ ctx.ownedAddresses)
      (hbooks : Books ctx.networkScope place transfer.txHash transfer.timestamp move.address quantity
        draft)
      (hissues : ∀ issue ∈ issues, issue.kind ≠ "unsupported_row")
      (hfine : ¬spoilt → move.other ∉ ctx.ownedAddresses ∧ quantity.toRat = move.change)
      (hspoilt : spoilt → ∀ m ∈ transfer.moves,
        m.other ∈ ctx.ownedAddresses ∨ quantity.toRat ≠ m.change) :
      Settled ctx place transfer spoilt ⟨[draft], issues⟩

lemma hasRowIssue_reported (place : RowPlace) (issueSuffix message : String) :
    HasRowIssue place (place.reported issueSuffix message) :=
  ⟨_, List.mem_singleton_self _, rfl, rfl, rfl⟩

/-- The quantity of a draft is that of its one leg. -/
lemma Books.quantity_unique {scope : String} {place : RowPlace} {txHash : String}
    {timestamp : Instant} {address other : String} {quantity amount : Decimal}
    {draft : EconomicActivityDraft}
    (h : Books scope place txHash timestamp address quantity draft)
    (hother : Books scope place txHash timestamp other amount draft) : quantity = amount := by
  rcases h.legs with ⟨leg, hlegs, _, hquantity, _⟩
  rcases hother.legs with ⟨same, hsame, _, hamount, _⟩
  have hleg : leg = same := (List.cons.inj (hlegs.symm.trans hsame)).1
  rw [← hquantity, ← hamount, hleg]

/-- Of a settled row exactly one thing is true, but for those that are spoilt. -/
theorem Settled.exactlyOne_iff {ctx : EvmTranslationContext} {place : RowPlace} {transfer : Transfer}
    {spoilt : Prop} {result : RowResult} (h : Settled ctx place transfer spoilt result) {reason : Prop}
    (hreason : transfer.txHash ∈ ctx.blockedTxHashes ↔ reason) :
    ExactlyOne (Booked ctx place transfer result) (Reported place result) (Skipped reason result) ↔
      ¬spoilt := by
  have hnoDraft : ¬Booked ctx place transfer {} := by
    rintro ⟨_, _, _, _, _, _, _, hdrafts, _⟩
    cases hdrafts
  have hnoIssue : ¬Reported place {} := by
    rintro ⟨_, _, hmem, _⟩
    cases hmem
  cases h with
  | blocked hhash hfine =>
      -- Nothing was left of the row, and the reason is the block of its transaction.
      exact iff_of_true (.inr (.inr ⟨hnoDraft, hnoIssue, rfl, rfl, hreason.1 hhash⟩)) hfine
  | lost hhash hspoilt =>
      refine iff_of_false ?_ (not_not.2 hspoilt)
      rintro (⟨hp, _⟩ | ⟨_, hq, _⟩ | ⟨_, _, hr⟩)
      · exact hnoDraft hp
      · exact hnoIssue hq
      · exact hhash (hreason.2 hr.2.2)
  | reported issueSuffix message hfine =>
      have hissue := hasRowIssue_reported place issueSuffix message
      have hskipped : ¬Skipped reason (place.reported issueSuffix message) := by
        rintro ⟨_, hissues, _⟩
        cases hissues
      exact iff_of_true (.inr (.inl ⟨fun hp => hp.1 hissue, ⟨rfl, hissue⟩, hskipped⟩)) hfine
  | @booked move draft quantity issues hmove howned hbooks hissues hfine hspoilt =>
      have hissue : ¬HasRowIssue place ⟨[draft], issues⟩ := by
        rintro ⟨issue, hmem, hkind, _⟩
        exact hissues issue hmem hkind
      have hreported : ¬Reported place ⟨[draft], issues⟩ := fun hq => hissue hq.2
      have hskipped : ¬Skipped reason ⟨[draft], issues⟩ := by
        rintro ⟨hdrafts, _⟩
        cases hdrafts
      constructor
      · -- The one draft has the quantity of the row, whichever move it is taken for.
        rintro (⟨⟨_, m, hm, _, hforeign, other, amount, hdrafts, hchange, hother⟩, _⟩ | ⟨_, hq, _⟩ |
          ⟨_, _, hr⟩) hself
        · cases (List.cons.inj hdrafts).1
          rcases hspoilt hself m hm with hown | hrounded
          · exact hforeign hown
          · exact hrounded (by rw [hbooks.quantity_unique hother, hchange])
        · exact hreported hq
        · exact hskipped hr
      · intro hself
        rcases hfine hself with ⟨hforeign, hchange⟩
        have hbooked : Booked ctx place transfer ⟨[draft], issues⟩ :=
          ⟨hissue, move, hmove, howned, hforeign, draft, quantity, rfl, hchange, hbooks⟩
        exact .inl ⟨hbooked, hreported, hskipped⟩

/-! ## Native rows -/

/-- The amount comes in alone, at an owned address. -/
def Arrives (ctx : EvmTranslationContext) (cells : NativeCells) (amountIn amountOut : Decimal) : Prop :=
  0 < amountIn.rounded.coeff ∧ amountOut.rounded = 0 ∧ cells.toAddress ∈ ctx.ownedAddresses

/-- The amount goes out alone, at an owned address. -/
def Leaves (ctx : EvmTranslationContext) (cells : NativeCells) (amountIn amountOut : Decimal) : Prop :=
  0 < amountOut.rounded.coeff ∧ amountIn.rounded = 0 ∧ cells.fromAddress ∈ ctx.ownedAddresses

/-- A native row that is not blocked is spoilt where its amounts round to nothing, and where it moves an
amount one way that comes from an owned address too or that the context does not have. -/
inductive SpoiltNative (ctx : EvmTranslationContext) (cells : NativeCells)
    (amountIn amountOut : Decimal) : Prop where
  | vanishes (hblocked : cells.txHash ∉ ctx.blockedTxHashes) (hin : amountIn.rounded.coeff ≤ 0)
      (hout : amountOut.rounded.coeff ≤ 0) : SpoiltNative ctx cells amountIn amountOut
  | arrives (hblocked : cells.txHash ∉ ctx.blockedTxHashes) (hmethod : cells.method ∈ ["", "transfer"])
      (harrives : Arrives ctx cells amountIn amountOut)
      (hspoilt : cells.fromAddress ∈ ctx.ownedAddresses ∨ ¬amountIn.InContext) :
      SpoiltNative ctx cells amountIn amountOut
  | leaves (hblocked : cells.txHash ∉ ctx.blockedTxHashes) (hmethod : cells.method ∈ ["", "transfer"])
      (hleaves : Leaves ctx cells amountIn amountOut)
      (hspoilt : cells.toAddress ∈ ctx.ownedAddresses ∨ ¬amountOut.InContext) :
      SpoiltNative ctx cells amountIn amountOut

lemma SpoiltNative.unblocked {ctx : EvmTranslationContext} {cells : NativeCells}
    {amountIn amountOut : Decimal} (h : SpoiltNative ctx cells amountIn amountOut) :
    cells.txHash ∉ ctx.blockedTxHashes := by
  cases h with
  | vanishes hblocked => exact hblocked
  | arrives hblocked => exact hblocked
  | leaves hblocked => exact hblocked

/-- A token row with one owned address that nothing stops, and with an amount that the context does not
have. -/
structure SpoiltToken (ctx : EvmTranslationContext) (cells : TokenCells) (amount : Decimal) :
    Prop where
  symbol : cells.symbol ≠ ""
  unblocked : cells.txHash ∉ ctx.blockedTxHashes
  method : (ctx.unsupportedMethods.get? cells.txHash).getD "" = ""
  oneOwned : (cells.toAddress ∈ ctx.ownedAddresses ∧ cells.fromAddress ∉ ctx.ownedAddresses) ∨
    (cells.fromAddress ∈ ctx.ownedAddresses ∧ cells.toAddress ∉ ctx.ownedAddresses)
  positive : 0 < amount.rounded.coeff
  outside : ¬amount.InContext

lemma ne_zero_of_pos {amount : Decimal} (h : 0 < amount.coeff) : amount ≠ 0 := by
  rintro rfl
  exact absurd h (by decide)

lemma neg_rounded_ne_zero_of_pos {amount : Decimal} (h : 0 < amount.rounded.coeff) :
    -amount.rounded ≠ 0 := by
  intro hzero
  have hrat : -amount.rounded.toRat = 0 := by
    rw [← toRat_neg_rounded, hzero, Decimal.toRat_zero]
  exact ne_zero_of_pos h ((Decimal.toRat_eq_zero_iff _).1 (neg_eq_zero.1 hrat))

/-- What is booked of a departure is its amount exactly if the context has it. -/
lemma change_departure_iff {toAddress fromAddress : String} {amount : Decimal}
    (hover : ¬amount.Overflows) :
    (-amount.rounded).toRat = (departure toAddress fromAddress amount).change ↔ amount.InContext := by
  rw [toRat_neg_rounded, departure, neg_inj, Decimal.toRat_rounded_iff hover]

/-- The moves of a native row are an arrival and a departure, each of a positive amount. -/
lemma mem_nativeMoves_iff {cells : NativeCells} {amountIn amountOut : Decimal} {move : Move} :
    move ∈ nativeMoves cells amountIn amountOut ↔
      (0 < amountIn.coeff ∧ move = arrival cells.toAddress cells.fromAddress amountIn) ∨
        (0 < amountOut.coeff ∧ move = departure cells.toAddress cells.fromAddress amountOut) := by
  simp [nativeMoves]

section

variable {env : EvmEnvironment} {ctx : EvmTranslationContext}
  (hcase : CaseMaps env.toKernelEnvironment) (hscope : ctx.networkScope ∈ networkScopes)
  (howned : ∀ address ∈ ctx.ownedAddresses, OwnedAddress env.lower address) (place : RowPlace)

include hcase hscope howned

/-- An amount that comes in is booked at its owned receiver; nobody asks who sent it. -/
lemma settled_arrives (symbol : String) {cells : NativeCells} {timestamp : Instant}
    {amountIn amountOut : Decimal} (hover : ¬amountIn.Overflows)
    (hblocked : cells.txHash ∉ ctx.blockedTxHashes) (hmethod : cells.method ∈ ["", "transfer"])
    (harrives : Arrives ctx cells amountIn amountOut) :
    ∃ draft, bookTransfer env ctx place cells.txHash timestamp cells.toAddress amountIn.rounded
        (evmNativeAssetClaim env.toKernelEnvironment ctx.networkScope symbol) incoming = .ok draft ∧
      Settled ctx place ⟨cells.txHash, timestamp, nativeMoves cells amountIn amountOut⟩
        (SpoiltNative ctx cells amountIn amountOut) ⟨[draft], []⟩ := by
  rcases id harrives with ⟨harrived, _, hto⟩
  rcases exists_bookTransfer hcase hscope place cells.txHash timestamp (howned _ hto)
    (ne_zero_of_pos harrived) (@exists_nativeClaim env ctx hcase hscope symbol) incoming with
    ⟨draft, hdraft, hbooks⟩
  have hmove : arrival cells.toAddress cells.fromAddress amountIn ∈
      nativeMoves cells amountIn amountOut :=
    mem_nativeMoves_iff.2 (.inl ⟨Decimal.pos_of_rounded_pos harrived, rfl⟩)
  refine ⟨draft, hdraft, .booked hmove hto hbooks (fun _ hmem => by cases hmem) ?_ ?_⟩
  · intro hfine
    refine ⟨fun hfrom => hfine (.arrives hblocked hmethod harrives (.inl hfrom)), ?_⟩
    apply (Decimal.toRat_rounded_iff hover).2
    by_contra houtside
    exact hfine (.arrives hblocked hmethod harrives (.inr houtside))
  · intro hspoilt move hmem
    cases hspoilt with
    | vanishes _ hnone _ => exact absurd harrived (not_lt.2 hnone)
    | leaves _ _ hleaves _ => exact absurd hleaves.2.1 (ne_zero_of_pos harrived)
    | arrives _ _ _ hspoilt =>
        rcases mem_nativeMoves_iff.1 hmem with ⟨_, rfl⟩ | ⟨_, rfl⟩
        · exact hspoilt.imp_right
            (fun houtside hchange => houtside ((Decimal.toRat_rounded_iff hover).1 hchange))
        · exact .inl hto

/-- An amount that goes out is booked at its owned sender; nobody asks who received it. -/
lemma settled_leaves (symbol : String) {cells : NativeCells} {timestamp : Instant}
    {amountIn amountOut : Decimal} (hover : ¬amountOut.Overflows)
    (hblocked : cells.txHash ∉ ctx.blockedTxHashes) (hmethod : cells.method ∈ ["", "transfer"])
    (hleaves : Leaves ctx cells amountIn amountOut) :
    ∃ draft, bookTransfer env ctx place cells.txHash timestamp cells.fromAddress (-amountOut.rounded)
        (evmNativeAssetClaim env.toKernelEnvironment ctx.networkScope symbol) outgoing = .ok draft ∧
      Settled ctx place ⟨cells.txHash, timestamp, nativeMoves cells amountIn amountOut⟩
        (SpoiltNative ctx cells amountIn amountOut) ⟨[draft], []⟩ := by
  rcases id hleaves with ⟨hleft, hnothing, hfrom⟩
  rcases exists_bookTransfer hcase hscope place cells.txHash timestamp (howned _ hfrom)
    (neg_rounded_ne_zero_of_pos hleft) (@exists_nativeClaim env ctx hcase hscope symbol) outgoing with
    ⟨draft, hdraft, hbooks⟩
  have hmove : departure cells.toAddress cells.fromAddress amountOut ∈
      nativeMoves cells amountIn amountOut :=
    mem_nativeMoves_iff.2 (.inr ⟨Decimal.pos_of_rounded_pos hleft, rfl⟩)
  have hchange := @change_departure_iff cells.toAddress cells.fromAddress amountOut hover
  refine ⟨draft, hdraft, .booked hmove hfrom hbooks (fun _ hmem => by cases hmem) ?_ ?_⟩
  · intro hfine
    refine ⟨fun hto => hfine (.leaves hblocked hmethod hleaves (.inl hto)), hchange.2 ?_⟩
    by_contra houtside
    exact hfine (.leaves hblocked hmethod hleaves (.inr houtside))
  · intro hspoilt move hmem
    cases hspoilt with
    | vanishes _ _ hnone => exact absurd hleft (not_lt.2 hnone)
    | arrives _ _ harrives _ => exact absurd hnothing (ne_zero_of_pos harrives.1)
    | leaves _ _ _ hspoilt =>
        rcases mem_nativeMoves_iff.1 hmem with ⟨_, rfl⟩ | ⟨_, rfl⟩
        · exact .inl hfrom
        · exact hspoilt.imp_right (fun houtside hsame => houtside (hchange.1 hsame))

/-- A native transfer that is supported is booked, or reported for its shape. -/
lemma settled_nativeTransfer (symbol : String) {cells : NativeCells} {timestamp : Instant}
    {amountIn amountOut : Decimal} (hin : cells.amountIn = amountIn.rounded)
    (hout : cells.amountOut = amountOut.rounded) (hinOver : ¬amountIn.Overflows)
    (houtOver : ¬amountOut.Overflows)
    (hpositive : ¬(amountIn.rounded.coeff ≤ 0 ∧ amountOut.rounded.coeff ≤ 0))
    (hblocked : cells.txHash ∉ ctx.blockedTxHashes) (hmethod : cells.method ∈ ["", "transfer"]) :
    ∃ result, nativeTransfer env ctx place symbol cells timestamp = .ok result ∧
      Settled ctx place ⟨cells.txHash, timestamp, nativeMoves cells amountIn amountOut⟩
        (SpoiltNative ctx cells amountIn amountOut) result := by
  rw [nativeTransfer, hin, hout]
  by_cases harrives : Arrives ctx cells amountIn amountOut
  · rcases @settled_arrives env ctx hcase hscope howned place symbol cells timestamp amountIn amountOut
      hinOver hblocked hmethod harrives with ⟨draft, hdraft, hsettled⟩
    rw [if_pos (show _ ∧ _ ∧ _ from harrives)]
    exact ⟨_, bind_eq_ok_iff.2 ⟨draft, hdraft, rfl⟩, hsettled⟩
  · rw [if_neg (show ¬(_ ∧ _ ∧ _) from harrives)]
    by_cases hleaves : Leaves ctx cells amountIn amountOut
    · rcases @settled_leaves env ctx hcase hscope howned place symbol cells timestamp amountIn amountOut
        houtOver hblocked hmethod hleaves with ⟨draft, hdraft, hsettled⟩
      rw [if_pos (show _ ∧ _ ∧ _ from hleaves)]
      exact ⟨_, bind_eq_ok_iff.2 ⟨draft, hdraft, rfl⟩, hsettled⟩
    · -- A move one way at an owned address would have been taken by a branch above.
      rw [if_neg (show ¬(_ ∧ _ ∧ _) from hleaves)]
      refine ⟨_, rfl, .reported _ _ ?_⟩
      intro hspoilt
      cases hspoilt with
      | vanishes _ hinNone houtNone => exact hpositive ⟨hinNone, houtNone⟩
      | arrives _ _ harrived _ => exact harrives harrived
      | leaves _ _ hleft _ => exact hleaves hleft

theorem settled_native (symbol : String) {cells : NativeCells} {timestamp : Instant}
    {amountIn amountOut : Decimal} (hin : cells.amountIn = amountIn.rounded)
    (hout : cells.amountOut = amountOut.rounded) (hinOver : ¬amountIn.Overflows)
    (houtOver : ¬amountOut.Overflows) (hhash : cells.txHash ≠ "")
    (htime : cells.timestamp = some timestamp) :
    ∃ result, nativeOutcome env ctx place symbol cells = .ok result ∧
      Settled ctx place ⟨cells.txHash, timestamp, nativeMoves cells amountIn amountOut⟩
        (SpoiltNative ctx cells amountIn amountOut) result := by
  simp only [nativeOutcome, htime, if_neg hhash, hin, hout]
  by_cases hblocked : cells.txHash ∈ ctx.blockedTxHashes
  · rw [if_pos hblocked]
    exact ⟨_, rfl, .blocked hblocked (fun hspoilt => hspoilt.unblocked hblocked)⟩
  · rw [if_neg hblocked]
    by_cases hnone : amountIn.rounded.coeff ≤ 0 ∧ amountOut.rounded.coeff ≤ 0
    · -- The amounts that are shown were rounded to nothing.
      rw [if_pos hnone]
      exact ⟨_, rfl, .lost hblocked (.vanishes hblocked hnone.1 hnone.2)⟩
    · rw [if_neg hnone]
      by_cases hmethod : cells.method ∈ ["", "transfer"]
      · rw [if_neg (not_not.2 hmethod)]
        exact settled_nativeTransfer hcase hscope howned place symbol hin hout hinOver houtOver hnone
          hblocked hmethod
      · rw [if_pos hmethod]
        refine ⟨_, rfl, .reported _ _ ?_⟩
        intro hspoilt
        cases hspoilt with
        | vanishes _ hinNone houtNone => exact hnone ⟨hinNone, houtNone⟩
        | arrives _ hsupported _ _ => exact hmethod hsupported
        | leaves _ hsupported _ _ => exact hmethod hsupported

/-! ## Token rows -/

/-- A token transfer whose token is claimed is booked where one of its addresses is owned and the
other is not, and reported for its shape else. -/
lemma settled_tokenTransfer {cells : TokenCells} {timestamp : Instant} {amount : Decimal}
    (hover : ¬amount.Overflows) (hpositive : 0 < amount.rounded.coeff)
    (claim : InstrumentIdentityClaim) (hsymbol : cells.symbol ≠ "")
    (hblocked : cells.txHash ∉ ctx.blockedTxHashes)
    (hmethod : (ctx.unsupportedMethods.get? cells.txHash).getD "" = "") :
    ∃ result, tokenTransfer env ctx place cells timestamp amount.rounded claim = .ok result ∧
      Settled ctx place ⟨cells.txHash, timestamp, tokenMoves cells amount⟩
        (SpoiltToken ctx cells amount) result := by
  have hissues : ∀ issue ∈ tokenIdentityIssues place cells, issue.kind ≠ "unsupported_row" := by
    intro issue hmem
    unfold tokenIdentityIssues at hmem
    split_ifs at hmem
    · cases hmem
    · rw [List.mem_singleton.1 hmem]
      exact fun h => absurd h (by decide : ¬"instrument_identity_blocked" = "unsupported_row")
  -- Each branch asks for the other address too, so that no draft is between owned addresses.
  unfold tokenTransfer
  by_cases hin : cells.toAddress ∈ ctx.ownedAddresses ∧ cells.fromAddress ∉ ctx.ownedAddresses
  · rcases exists_bookTransfer hcase hscope place cells.txHash timestamp (howned _ hin.1)
      (ne_zero_of_pos hpositive) ⟨claim, rfl⟩ incoming with ⟨draft, hdraft, hbooks⟩
    rw [if_pos hin]
    refine ⟨_, bind_eq_ok_iff.2 ⟨draft, hdraft, rfl⟩,
      .booked List.mem_cons_self hin.1 hbooks hissues ?_ ?_⟩
    · intro hfine
      refine ⟨hin.2, (Decimal.toRat_rounded_iff hover).2 ?_⟩
      by_contra houtside
      exact hfine ⟨hsymbol, hblocked, hmethod, .inl hin, hpositive, houtside⟩
    · intro hspoilt
      simp only [tokenMoves, List.forall_mem_cons]
      refine ⟨.inr ?_, .inl hin.1, fun _ hmem => by cases hmem⟩
      exact fun hsame => hspoilt.outside ((Decimal.toRat_rounded_iff hover).1 hsame)
  · rw [if_neg hin]
    by_cases hout : cells.fromAddress ∈ ctx.ownedAddresses ∧ cells.toAddress ∉ ctx.ownedAddresses
    · rcases exists_bookTransfer hcase hscope place cells.txHash timestamp (howned _ hout.1)
        (neg_rounded_ne_zero_of_pos hpositive) ⟨claim, rfl⟩ outgoing with ⟨draft, hdraft, hbooks⟩
      have hchange := @change_departure_iff cells.toAddress cells.fromAddress amount hover
      rw [if_pos hout]
      refine ⟨_, bind_eq_ok_iff.2 ⟨draft, hdraft, rfl⟩,
        .booked (List.mem_cons_of_mem _ List.mem_cons_self) hout.1 hbooks hissues ?_ ?_⟩
      · intro hfine
        refine ⟨hout.2, hchange.2 ?_⟩
        by_contra houtside
        exact hfine ⟨hsymbol, hblocked, hmethod, .inr hout, hpositive, houtside⟩
      · intro hspoilt
        simp only [tokenMoves, List.forall_mem_cons]
        exact ⟨.inl hout.1, .inr (fun hsame => hspoilt.outside (hchange.1 hsame)),
          fun _ hmem => by cases hmem⟩
    · rw [if_neg hout]
      exact ⟨_, rfl, .reported _ _ (fun hspoilt => hspoilt.oneOwned.elim hin hout)⟩

theorem settled_token {row : CsvRow} {cells : TokenCells} (hcells : tokenCells env row = .ok cells)
    {timestamp : Instant} {amount : Decimal} (hover : ¬amount.Overflows) (hhash : cells.txHash ≠ "")
    (htime : cells.timestamp = some timestamp) (hamount : cells.amount = some amount.rounded) :
    ∃ result, tokenOutcome env ctx place cells = .ok result ∧
      Settled ctx place ⟨cells.txHash, timestamp, tokenMoves cells amount⟩
        (SpoiltToken ctx cells amount) result := by
  simp only [tokenOutcome, htime, hamount]
  by_cases hinvalid : cells.txHash = "" ∨ amount.rounded.coeff ≤ 0 ∨ cells.symbol = ""
  · rw [if_pos hinvalid]
    refine ⟨_, rfl, .reported _ _ (fun hspoilt => ?_)⟩
    rcases hinvalid with h | h | h
    · exact hhash h
    · exact not_lt.2 h hspoilt.positive
    · exact hspoilt.symbol h
  · have hpositive : 0 < amount.rounded.coeff := not_le.1 (fun h => hinvalid (.inr (.inl h)))
    have hsymbol : cells.symbol ≠ "" := fun h => hinvalid (.inr (.inr h))
    rw [if_neg hinvalid]
    by_cases hblocked : cells.txHash ∈ ctx.blockedTxHashes
    · rw [if_pos hblocked]
      exact ⟨_, rfl, .blocked hblocked (fun hspoilt => hspoilt.unblocked hblocked)⟩
    · rw [if_neg hblocked, tokenUnblocked]
      by_cases hmethod : (ctx.unsupportedMethods.get? cells.txHash).getD "" = ""
      · rcases @exists_tokenClaim env ctx hcase hscope row cells hcells hsymbol with ⟨claim, hclaim⟩
        rcases @settled_tokenTransfer env ctx hcase hscope howned place cells timestamp amount hover
          hpositive claim hsymbol hblocked hmethod with ⟨result, hresult, hsettled⟩
        rw [if_neg (not_not.2 hmethod), hclaim]
        exact ⟨result, bind_eq_ok_iff.2 ⟨claim, rfl, hresult⟩, hsettled⟩
      · rw [if_pos hmethod]
        exact ⟨_, rfl, .reported _ _ (fun hspoilt => hmethod hspoilt.method)⟩

end

/-! ## Rows without a transfer -/

lemma nativeOutcome_of_no_transfer {env : EvmEnvironment} {ctx : EvmTranslationContext}
    {place : RowPlace} {symbol : String} {cells : NativeCells}
    (h : ∀ timestamp, cells.timestamp = some timestamp → cells.txHash ≠ "" →
      ¬(0 < cells.amountIn.coeff ∨ 0 < cells.amountOut.coeff)) :
    ∃ result, nativeOutcome env ctx place symbol cells = .ok result ∧ result.drafts = [] := by
  unfold nativeOutcome
  cases htime : cells.timestamp with
  | none => exact ⟨_, rfl, rfl⟩
  | some timestamp =>
      dsimp only
      by_cases hhash : cells.txHash = ""
      · rw [if_pos hhash]
        exact ⟨_, rfl, rfl⟩
      · have hnone : cells.amountIn.coeff ≤ 0 ∧ cells.amountOut.coeff ≤ 0 := by
          have hnot := not_or.1 (h timestamp htime hhash)
          exact ⟨not_lt.1 hnot.1, not_lt.1 hnot.2⟩
        rw [if_neg hhash, if_pos hnone]
        by_cases hblocked : cells.txHash ∈ ctx.blockedTxHashes
        · rw [if_pos hblocked]
          exact ⟨_, rfl, rfl⟩
        · rw [if_neg hblocked]
          exact ⟨_, rfl, rfl⟩

lemma tokenOutcome_of_no_transfer {env : EvmEnvironment} {ctx : EvmTranslationContext}
    {place : RowPlace} {cells : TokenCells}
    (h : ∀ timestamp amount, cells.timestamp = some timestamp → cells.amount = some amount →
      cells.txHash ≠ "" → ¬0 < amount.coeff) :
    ∃ result, tokenOutcome env ctx place cells = .ok result ∧ result.drafts = [] := by
  unfold tokenOutcome
  cases htime : cells.timestamp with
  | none => exact ⟨_, rfl, rfl⟩
  | some timestamp =>
      cases hamount : cells.amount with
      | none => exact ⟨_, rfl, rfl⟩
      | some amount =>
          have hinvalid : cells.txHash = "" ∨ amount.coeff ≤ 0 ∨ cells.symbol = "" := by
            by_cases hhash : cells.txHash = ""
            · exact .inl hhash
            · exact .inr (.inl (not_lt.1 (h timestamp amount htime hamount hhash)))
          dsimp only
          rw [if_pos hinvalid]
          exact ⟨_, rfl, rfl⟩

end EvmExplorer
end Tallylot
