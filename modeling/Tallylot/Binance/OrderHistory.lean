import Tallylot.Binance.Conservation
import Tallylot.Binance.TransactionHistory
import Mathlib.Data.List.ReduceOption

/-!
# OrderHistory — Binance convert and C2C orders

A row of an order export becomes a draft, and its time is added to the times that a transaction
history is matched by.  The draft's time is read by `parseExportTimestamp`, which knows times with an
offset in brackets and shifts the others by the offset in the name of the file.  The time that is added
is read by `parseTransactionHistoryTimestamp`, which does neither.

An order is `Recognised` if its time is added as the time of its draft, so that the groups of the
history at that time are skipped.
-/

namespace Tallylot
namespace Binance

open Data Data.Regex Domain Transactions Normalization

section

variable (env : KernelEnvironment) (source fileName : String)

/-! ## Orders -/

/-- What the draft of an order takes from its row. -/
structure Order where
  /-- The time as it is written. -/
  time : String
  place : String
  reference : String
  economicKind : EconomicKind
  description : String
  operationKey : String
  bought : Decimal
  boughtAsset : String
  sold : Decimal
  soldAsset : String

/-- The order of a row, `none` where the row is passed over. -/
abbrev OrderReader := NumberedRow → Decoded (Option Order)

/-- `(row.get("Date Updated") or row.get("Time") or "").strip()` -/
def convertTime (row : CsvRow) : String :=
  strip (if cell row "Date Updated" ≠ "" then cell row "Date Updated" else cell row "Time")

def c2cTime (row : CsvRow) : String := field row "Created Time"

def convertOrder (row : NumberedRow) (buyAmount : Decimal) (buyAsset : String) (sellAmount : Decimal)
    (sellAsset : String) : Order where
  time := convertTime row.2
  place := if field row.2 "Wallet" ≠ "" then field row.2 "Wallet" else "Spot"
  reference := "convert:" ++ toString row.1
  economicKind := .assetConversion
  description := "Binance convert " ++ field row.2 "Pair"
  operationKey := "order_history:convert"
  bought := buyAmount
  boughtAsset := buyAsset
  sold := sellAmount
  soldAsset := sellAsset

/-- The row of a convert export. -/
def readConvertOrder (row : NumberedRow) : Decoded (Option Order) :=
  if env.lower (field row.2 "Status") ≠ "successful" then .ok none
  else do
    let (buyAmount, buyAsset) ← amountWithAsset env.upper (cell row.2 "Buy")
    let (sellAmount, sellAsset) ← amountWithAsset env.upper (cell row.2 "Sell")
    match buyAmount, sellAmount with
    | some buyAmount, some sellAmount =>
        if buyAsset = "" || sellAsset = "" then return none
        else return some (convertOrder row buyAmount buyAsset sellAmount sellAsset)
    | _, _ => return none

/-- What a C2C order buys and sells; an order of another type than `SELL` buys the asset. -/
def c2cOrder (row : NumberedRow) (quantity : Decimal) (asset : String) (totalPrice : Decimal)
    (fiat : String) : Order where
  time := c2cTime row.2
  place := "funding"
  reference := "c2c:" ++
    if field row.2 "Order Number" ≠ "" then field row.2 "Order Number" else toString row.1
  economicKind := .p2pTrade
  description := "Binance C2C " ++ field row.2 "Order Type" ++ " " ++ asset ++ "/" ++ fiat
  operationKey := "order_history:c2c:" ++ env.lower (env.upper (field row.2 "Order Type"))
  bought := if env.upper (field row.2 "Order Type") = "SELL" then totalPrice else quantity
  boughtAsset := if env.upper (field row.2 "Order Type") = "SELL" then fiat else asset
  sold := if env.upper (field row.2 "Order Type") = "SELL" then quantity else totalPrice
  soldAsset := if env.upper (field row.2 "Order Type") = "SELL" then asset else fiat

/-- The row of a C2C export. -/
def readC2cOrder (row : NumberedRow) : Decoded (Option Order) :=
  if env.lower (field row.2 "Status") ≠ "completed" then .ok none
  else do
    let quantity ← Decimal.parseDecimal (field row.2 "Quantity")
    let totalPrice ← Decimal.parseDecimal (field row.2 "Total Price")
    let asset := env.upper (field row.2 "Asset")
    let fiat := env.upper (field row.2 "Fiat Type")
    match quantity, totalPrice with
    | some quantity, some totalPrice =>
        if asset = "" || fiat = "" then return none
        else return some (c2cOrder env row quantity asset totalPrice fiat)
    | _, _ => return none

def orderDraft (index : Nat) (order : Order) (timestamp : Instant) : Decoded EconomicActivityDraft := do
  let location ← locationIdFromParts env.lower [source, order.place]
  let bought ← symbolLeg "primary_in" .primary order.bought order.boughtAsset (some "binance")
  let sold ← symbolLeg "primary_out" .primary (-order.sold) order.soldAsset (some "binance")
  economicActivityDraft.build
    { activityId := "binance:" ++ fileName ++ ":" ++ order.reference
      source := source
      adapterId := "binance"
      locationId := location
      timestamp := timestamp
      classification := ⟨order.economicKind, .assetExchange, .capitalExchange, some .trade⟩
      legPolicy := twoSidedPrimaryExchangePolicy
      description := order.description
      rawFile := fileName
      rawRowRef := "row:" ++ toString index
      providerOperationKey := order.operationKey
      legs := [bought, sold] }

/-- The body of the loop: the time that is added, and the draft. -/
def normalizeOrderRow (read : OrderReader) (row : NumberedRow) :
    Decoded (Option (Instant × EconomicActivityDraft)) := do
  match ← read row with
  | none => return none
  | some order => do
      let matched ← parseTransactionHistoryTimestamp order.time
      let timestamp ← parseExportTimestamp order.time fileName
      let draft ← orderDraft env source fileName row.1 order timestamp
      return some (matched, draft)

structure NormalizedOrders where
  drafts : List EconomicActivityDraft
  matchedTimes : List Instant

def normalizeOrderRowsFrom (read : OrderReader) (start : Nat) (rows : List CsvRow) :
    Decoded NormalizedOrders := do
  let outcomes ← ((rows.zipIdx start).map Prod.swap).mapM (normalizeOrderRow env source fileName read)
  return ⟨outcomes.reduceOption.map Prod.snd, outcomes.reduceOption.map Prod.fst⟩

/-- `normalize_convert_order_rows` -/
def normalizeConvertOrderRows (rows : List CsvRow) : Decoded NormalizedOrders :=
  normalizeOrderRowsFrom env source fileName (readConvertOrder env) 2 rows

/-- `normalize_c2c_order_rows` -/
def normalizeC2cOrderRows (rows : List CsvRow) : Decoded NormalizedOrders :=
  normalizeOrderRowsFrom env source fileName (readC2cOrder env) 2 rows

end

lemma time_of_readConvertOrder {env : KernelEnvironment} {row : NumberedRow} {order : Order}
    (h : readConvertOrder env row = .ok (some order)) : order.time = convertTime row.2 := by
  unfold readConvertOrder at h
  by_cases hstatus : env.lower (field row.2 "Status") ≠ "successful"
  · rw [if_pos hstatus] at h
    cases h
  · rw [if_neg hstatus] at h
    rcases bind_eq_ok_iff.1 h with ⟨⟨buyAmount, buyAsset⟩, _, hrest⟩
    rcases bind_eq_ok_iff.1 hrest with ⟨⟨sellAmount, sellAsset⟩, _, horder⟩
    rcases buyAmount with _ | buyAmount
    · cases horder
    · rcases sellAmount with _ | sellAmount
      · cases horder
      · dsimp only at horder
        split_ifs at horder
        · cases horder
        · rw [← Option.some.inj (Except.ok.inj horder)]
          rfl

lemma time_of_readC2cOrder {env : KernelEnvironment} {row : NumberedRow} {order : Order}
    (h : readC2cOrder env row = .ok (some order)) : order.time = c2cTime row.2 := by
  unfold readC2cOrder at h
  by_cases hstatus : env.lower (field row.2 "Status") ≠ "completed"
  · rw [if_pos hstatus] at h
    cases h
  · rw [if_neg hstatus] at h
    rcases bind_eq_ok_iff.1 h with ⟨quantity, _, hrest⟩
    rcases bind_eq_ok_iff.1 hrest with ⟨totalPrice, _, horder⟩
    rcases quantity with _ | quantity
    · cases horder
    · rcases totalPrice with _ | totalPrice
      · cases horder
      · dsimp only at horder
        split_ifs at horder
        · cases horder
        · rw [← Option.some.inj (Except.ok.inj horder)]
          rfl

/-- The exports of orders. -/
inductive OrderExport where
  | convert
  | c2c

namespace OrderExport

def read (env : KernelEnvironment) : OrderExport → OrderReader
  | convert => readConvertOrder env
  | c2c => readC2cOrder env

/-- The time of a row, as it is written. -/
def time : OrderExport → CsvRow → String
  | convert => convertTime
  | c2c => c2cTime

def normalizeRows (env : KernelEnvironment) (source fileName : String) :
    OrderExport → List CsvRow → Decoded NormalizedOrders
  | convert => normalizeConvertOrderRows env source fileName
  | c2c => normalizeC2cOrderRows env source fileName

/-- The operation of the history that the orders explain. -/
def operation : OrderExport → String
  | convert => convertOperation
  | c2c => p2pOperation

/-- The times of the history that the export's times go to. -/
def matchTimes (convertMatchTimes p2pMatchTimes : List Instant) : OrderExport → List Instant
  | convert => convertMatchTimes
  | c2c => p2pMatchTimes

lemma strip_time (kind : OrderExport) (row : CsvRow) : strip (kind.time row) = kind.time row := by
  cases kind <;> exact strip_strip _

lemma time_of_read {env : KernelEnvironment} {kind : OrderExport} {row : NumberedRow} {order : Order}
    (h : kind.read env row = .ok (some order)) : order.time = kind.time row.2 := by
  cases kind with
  | convert => exact time_of_readConvertOrder h
  | c2c => exact time_of_readC2cOrder h

lemma normalizeRows_eq (env : KernelEnvironment) (source fileName : String) (kind : OrderExport)
    (rows : List CsvRow) :
    kind.normalizeRows env source fileName rows =
      normalizeOrderRowsFrom env source fileName (kind.read env) 2 rows := by
  cases kind <;> rfl

end OrderExport

/-! ## Two readings of a time -/

/-- The time has its offset in brackets. -/
def WrittenInline (time : String) : Prop := (fullMatch inlineUtcPattern (strip time)).isSome = true

/-- The hours of the offset in the name of a file. -/
def filenameHours (filename : String) : Int :=
  match search filenameOffsetPattern filename with
  | none => 0
  | some w => readHours (w.group "hours")

lemma applyFilenameOffset_eq_self_iff {parsed t : Instant} {filename : String}
    (h : applyFilenameOffset parsed filename = some t) : t = parsed ↔ filenameHours filename = 0 := by
  unfold applyFilenameOffset at h
  unfold filenameHours
  cases hsearch : search filenameOffsetPattern filename with
  | none =>
      rw [hsearch] at h
      exact iff_of_true (Option.some.inj h).symm rfl
  | some w =>
      rw [hsearch] at h
      dsimp only at h ⊢
      have hshift := Instant.microseconds_addHours h
      rw [← Instant.microseconds_inj, hshift]
      split_ifs <;> omega

/-- A year of two digits is no more than two characters. -/
lemma snd_of_mem_digits {width : Nat} {cs : List Char} {way : Nat × List Char}
    (h : way ∈ Strptime.digits width cs) : way.2 = cs.drop width := by
  unfold Strptime.digits at h
  split at h
  · rw [List.mem_singleton.1 h]
  · cases h

lemma readings_of_digits {a b c : Char} {cs : List Char} {ds : List Strptime.Directive}
    {f : Strptime.Fields} (hc : isDecimalDigit c = true) :
    Strptime.readings (.shortYear :: .literal '-' :: ds) f (a :: b :: c :: cs) = [] := by
  rw [Strptime.readings, List.flatMap_eq_nil_iff]
  intro way hway
  rcases List.mem_map.1 hway with ⟨year, hyear, rfl⟩
  have hrest : year.2 = c :: cs := snd_of_mem_digits hyear
  -- The dash of the format is compared with a digit.
  have hdash : ¬Char.toLower '-' = c.toLower := by
    rw [toLower_of_isDecimalDigit hc]
    exact (ne_of_isDecimalDigit hc (by decide)).symm
  dsimp only
  rw [hrest, Strptime.readings, Strptime.Directive.ways, if_neg hdash, List.flatMap_nil]

lemma timeFormat_directives :
    Strptime.formatOf timeFormat.toList =
      some [.shortYear, .literal '-', .month, .literal '-', .day, .blank, .hour, .literal ':', .minute,
        .literal ':', .second] := by
  decide +kernel

/-- A year of four digits is no year of two digits with a dash behind it. -/
lemma readInstant_of_digits {a b c : Char} {cs : List Char} (hc : isDecimalDigit c = true) :
    Strptime.readInstant timeFormat (String.ofList (a :: b :: c :: cs)) = none := by
  have hfields : Strptime.readFields timeFormat (String.ofList (a :: b :: c :: cs)) = none := by
    rw [Strptime.readFields, timeFormat_directives, String.toList_ofList]
    dsimp only [Option.bind_eq_bind, Option.bind_some]
    rw [readings_of_digits hc]
    rfl
  rw [Strptime.readInstant, hfields]
  rfl

/-- A time with its offset in brackets begins with digits. -/
lemma exists_digits_of_inline {time : String} (h : WrittenInline time) :
    ∃ a b c cs, strip time = String.ofList (a :: b :: c :: cs) ∧ isDecimalDigit c = true := by
  rcases Option.isSome_iff_exists.1 h with ⟨w, hw⟩
  have hmem := List.mem_of_find?_eq_some hw
  simp only [inlineUtcPattern, inOrder] at hmem
  rcases mem_ways_seq.1 hmem with ⟨date, hdate, _⟩
  rcases mem_ways_group.1 hdate with ⟨date', hdate', _⟩
  rcases mem_ways_seq.1 hdate' with ⟨year, hyear, _⟩
  rcases mem_ways_many.1 hyear with ⟨n, hfour, hreach, _⟩
  have hlength := length_take_of_reach hreach
  have hdigits := fun c => @accepts_of_mem_take _ _ _ _ c hreach
  rcases hchars : (strip time).toList with _ | ⟨a, _ | ⟨b, _ | ⟨c, cs⟩⟩⟩
  case cons.cons.cons =>
    refine ⟨a, b, c, cs, by rw [← hchars, String.ofList_toList], hdigits c ?_⟩
    obtain ⟨m, rfl⟩ : ∃ m, n = m + 4 := ⟨n - 4, by omega⟩
    rw [hchars]
    simp
  all_goals
    rw [hchars, List.length_take] at hlength
    simp only [List.length_cons, List.length_nil] at hlength
    omega

/-- The two readings agree on a time exactly if there is no offset, neither in brackets nor in the name
of the file. -/
theorem readings_agree_iff {time fileName : String} {t : Instant} (hstrip : strip time = time)
    (h : parseExportTimestamp time fileName = .ok t) :
    parseTransactionHistoryTimestamp time = .ok t ↔
      ¬WrittenInline time ∧ filenameHours fileName = 0 := by
  cases hmatch : fullMatch inlineUtcPattern (strip time) with
  | some w =>
      have hinline : WrittenInline time := by
        rw [WrittenInline, hmatch]
        rfl
      rcases exists_digits_of_inline hinline with ⟨a, b, c, cs, hchars, hc⟩
      refine iff_of_false (fun hread => ?_) fun hplain => hplain.1 hinline
      rw [parseTransactionHistoryTimestamp, ← hstrip, hchars, readInstant_of_digits hc] at hread
      cases hread
  | none =>
      have hplain : ¬WrittenInline time := by
        rw [WrittenInline, hmatch]
        exact Bool.false_ne_true
      rw [parseExportTimestamp] at h
      dsimp only at h
      rw [hmatch, hstrip] at h
      dsimp only at h
      cases hparsed : Strptime.readInstant timeFormat time with
      | none =>
          rw [hparsed] at h
          cases h
      | some parsed =>
          have hshift : applyFilenameOffset parsed fileName = some t := by
            rw [hparsed] at h
            exact requireSome_eq_ok_iff.1 h
          rw [parseTransactionHistoryTimestamp, hparsed, requireSome_some, Except.ok.injEq, eq_comm,
            applyFilenameOffset_eq_self_iff hshift]
          exact (and_iff_right hplain).symm

/-! ## Recognised orders -/

section Recognised

variable {env : KernelEnvironment} {source fileName : String} {kind : OrderExport} {row : CsvRow}
  {order : Order} {t : Instant}

/-- The group of the history is skipped once the time is matched. -/
lemma skipped_of_matched {profile : HistoryProfile} {historyFile : String}
    {convertMatchTimes p2pMatchTimes : List Instant} {key : GroupKey} {group : List NumberedRow}
    {outcome : GroupOutcome} (htime : parseTransactionHistoryTimestamp key.time = .ok t)
    (hoperation : key.operation = kind.operation)
    (hmem : t ∈ kind.matchTimes convertMatchTimes p2pMatchTimes)
    (h : groupOutcome env profile historyFile convertMatchTimes p2pMatchTimes (key, group) =
      .ok outcome) :
    outcome = .skipped := by
  rcases bind_eq_ok_iff.1 h with ⟨at', hat, hignored⟩
  rcases bind_eq_ok_iff.1 hignored with ⟨ignored, _, houtcome⟩
  dsimp only at hat houtcome
  cases Except.ok.inj (htime.symm.trans hat)
  rw [hoperation] at houtcome
  split_ifs at houtcome with hcutoff hreward hdust hconvert hp2p hambiguous
  · exact (Except.ok.inj houtcome).symm
  · cases kind <;> exact absurd hreward (by decide)
  · cases kind <;> exact absurd hdust.1 (by decide)
  · exact (Except.ok.inj houtcome).symm
  · exact (Except.ok.inj houtcome).symm
  · cases kind with
    | convert => exact absurd ⟨rfl, hmem⟩ hconvert
    | c2c => exact absurd hambiguous (by decide)
  · cases kind with
    | convert => exact absurd ⟨rfl, hmem⟩ hconvert
    | c2c => exact absurd ⟨rfl, hmem⟩ hp2p

/-- The order of a row is recognised: its time does not raise and is added as the time of its draft, in
every file whose other rows are read, and no group of the history at that time is reported. -/
structure Recognised (env : KernelEnvironment) (source fileName : String) (kind : OrderExport)
    (row : CsvRow) (t : Instant) : Prop where
  added : parseTransactionHistoryTimestamp (kind.time row) = .ok t
  booked : ∀ before after earlier later order draft,
    normalizeOrderRowsFrom env source fileName (kind.read env) 2 before = .ok earlier →
      normalizeOrderRowsFrom env source fileName (kind.read env) (before.length + 3) after = .ok later →
        kind.read env (before.length + 2, row) = .ok (some order) →
          orderDraft env source fileName (before.length + 2) order t = .ok draft →
            draft.val.timestamp = t ∧
              kind.normalizeRows env source fileName (before ++ row :: after) =
                .ok ⟨earlier.drafts ++ draft :: later.drafts,
                  earlier.matchedTimes ++ t :: later.matchedTimes⟩
  skipped : ∀ profile historyFile convertMatchTimes p2pMatchTimes key group outcome,
    t ∈ kind.matchTimes convertMatchTimes p2pMatchTimes → key.operation = kind.operation →
      parseTransactionHistoryTimestamp key.time = .ok t →
        groupOutcome env profile historyFile convertMatchTimes p2pMatchTimes (key, group) =
            .ok outcome →
          outcome = .skipped

lemma timestamp_of_orderDraft {index : Nat} {draft : EconomicActivityDraft}
    (h : orderDraft env source fileName index order t = .ok draft) : draft.val.timestamp = t := by
  rcases bind_eq_ok_iff.1 h with ⟨location, hlocation, hrest⟩
  rcases bind_eq_ok_iff.1 hrest with ⟨bought, _, hrest'⟩
  rcases bind_eq_ok_iff.1 hrest' with ⟨sold, _, hdraft⟩
  rw [@val_of_build_draft _ _ _ _ hlocation hdraft]

/-- A row is read by itself. -/
lemma normalizeOrderRowsFrom_append {read : OrderReader} {start : Nat} {before after : List CsvRow}
    {earlier later : NormalizedOrders} {matched : Instant} {draft : EconomicActivityDraft}
    (hbefore : normalizeOrderRowsFrom env source fileName read start before = .ok earlier)
    (hrow : normalizeOrderRow env source fileName read (start + before.length, row) =
      .ok (some (matched, draft)))
    (hafter : normalizeOrderRowsFrom env source fileName read (start + before.length + 1) after =
      .ok later) :
    normalizeOrderRowsFrom env source fileName read start (before ++ row :: after) =
      .ok ⟨earlier.drafts ++ draft :: later.drafts,
        earlier.matchedTimes ++ matched :: later.matchedTimes⟩ := by
  rcases bind_eq_ok_iff.1 hbefore with ⟨outcomes, houtcomes, hearlier⟩
  rcases bind_eq_ok_iff.1 hafter with ⟨outcomes', houtcomes', hlater⟩
  cases hearlier
  cases hlater
  rw [normalizeOrderRowsFrom, List.zipIdx_append, List.zipIdx_cons, List.map_append, List.map_cons,
    List.mapM_append, List.mapM_cons, houtcomes]
  dsimp only [Prod.swap]
  rw [hrow, houtcomes']
  have hkept : (outcomes ++ some (matched, draft) :: outcomes').reduceOption =
      outcomes.reduceOption ++ (matched, draft) :: outcomes'.reduceOption := by
    rw [List.reduceOption_append, List.reduceOption_cons_of_some]
  have hresult : (⟨(outcomes ++ some (matched, draft) :: outcomes').reduceOption.map Prod.snd,
      (outcomes ++ some (matched, draft) :: outcomes').reduceOption.map Prod.fst⟩ : NormalizedOrders) =
        ⟨outcomes.reduceOption.map Prod.snd ++ draft :: outcomes'.reduceOption.map Prod.snd,
          outcomes.reduceOption.map Prod.fst ++ matched :: outcomes'.reduceOption.map Prod.fst⟩ := by
    rw [hkept, List.map_append, List.map_append, List.map_cons, List.map_cons]
  exact congrArg Except.ok hresult

/-- An order whose time the export's reading accepts is recognised exactly if there is no offset,
neither in brackets in its time nor in the name of the file. -/
theorem recognised_iff {index : Nat} {order : Order}
    (horder : kind.read env (index, row) = .ok (some order))
    (htime : parseExportTimestamp order.time fileName = .ok t) :
    Recognised env source fileName kind row t ↔
      ¬WrittenInline order.time ∧ filenameHours fileName = 0 := by
  have hread : order.time = kind.time row := OrderExport.time_of_read horder
  rw [hread] at htime ⊢
  have hagree := readings_agree_iff (kind.strip_time row) htime
  constructor
  · exact fun h => hagree.1 h.added
  · intro hplain
    have hadded := hagree.2 hplain
    refine ⟨hadded, ?_, fun _ _ _ _ _ _ _ hmem hoperation hkey houtcome =>
      skipped_of_matched hkey hoperation hmem houtcome⟩
    intro before after earlier later order' draft hbefore hafter horder' hdraft
    have hrow : normalizeOrderRow env source fileName (kind.read env) (2 + before.length, row) =
        .ok (some (t, draft)) := by
      have htime' : order'.time = kind.time row := OrderExport.time_of_read horder'
      rw [Nat.add_comm] at horder' hdraft
      rw [normalizeOrderRow, horder', bind_ok]
      dsimp only
      rw [htime', hadded, bind_ok, htime, bind_ok, hdraft]
      rfl
    refine ⟨timestamp_of_orderDraft hdraft, ?_⟩
    rw [OrderExport.normalizeRows_eq]
    refine normalizeOrderRowsFrom_append hbefore hrow ?_
    rw [show 2 + before.length + 1 = before.length + 3 by omega]
    exact hafter

end Recognised

/-! ## Times with an offset -/

def convertRow (time : String) : CsvRow :=
  CsvRow.ofTexts
    [("Date Updated", time), ("Wallet", "Spot"), ("Pair", "BTCUSDT"), ("Buy", "0.5BTC"),
      ("Sell", "14000USDT"), ("Status", "Successful")]

lemma exists_order {x : Decoded (Option Order)} (h : x.toOption.join.isSome = true) :
    ∃ order, x = .ok (some order) := by
  rcases x with e | _ | order
  · cases h
  · cases h
  · exact ⟨order, rfl⟩

/-- A row whose time is in UTC, and so is the file. -/
theorem plain_recognised :
    Recognised asciiEnvironment "binance" "convert.csv" .convert (convertRow "23-03-23 04:00:00")
      ⟨2023, 3, 23, 4, 0, 0, 0, by decide⟩ := by
  rcases exists_order (x := OrderExport.read asciiEnvironment .convert
    (2, convertRow "23-03-23 04:00:00")) (by decide +kernel) with ⟨order, horder⟩
  have htime : order.time = convertTime (convertRow "23-03-23 04:00:00") :=
    OrderExport.time_of_read horder
  have hinstant : parseExportTimestamp (convertTime (convertRow "23-03-23 04:00:00")) "convert.csv" =
      .ok ⟨2023, 3, 23, 4, 0, 0, 0, by decide⟩ := by
    decide +kernel
  rw [← htime] at hinstant
  refine (recognised_iff horder hinstant).2 ⟨?_, by decide +kernel⟩
  rw [htime, WrittenInline]
  decide +kernel

/-- The export's reading takes a time with its offset in brackets, the other one raises. -/
theorem inline_time_raises :
    ¬∀ (env : KernelEnvironment) (source fileName : String) (kind : OrderExport) (row : CsvRow)
        (index : Nat) (order : Order) (t : Instant),
      kind.read env (index, row) = .ok (some order) →
        parseExportTimestamp order.time fileName = .ok t →
          Recognised env source fileName kind row t := by
  intro h
  rcases exists_order (x := OrderExport.read asciiEnvironment .convert
    (2, convertRow "2023-03-23 04:00:00(UTC-5)")) (by decide +kernel) with ⟨order, horder⟩
  have htime : order.time = convertTime (convertRow "2023-03-23 04:00:00(UTC-5)") :=
    OrderExport.time_of_read horder
  rcases exists_of_isOk (x := parseExportTimestamp
    (convertTime (convertRow "2023-03-23 04:00:00(UTC-5)")) "convert.csv") (by decide +kernel) with
    ⟨t, ht⟩
  rw [← htime] at ht
  have hadded := (h asciiEnvironment "binance" "convert.csv" .convert _ 2 order t horder ht).added
  have hraises : (parseTransactionHistoryTimestamp
      (convertTime (convertRow "2023-03-23 04:00:00(UTC-5)"))).toOption = none := by
    decide +kernel
  have hread : (parseTransactionHistoryTimestamp
      (convertTime (convertRow "2023-03-23 04:00:00(UTC-5)"))).toOption = some t :=
    congrArg Except.toOption hadded
  rw [hraises] at hread
  cases hread

end Binance
end Tallylot
