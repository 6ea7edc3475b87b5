import Tallylot.Data.Json

/-!
# JsonText — reading JSON text

`Json.loads` reads a JSON text: one value between blanks.  `Json.compactText` writes a value without
blanks and with the object fields in their own order, and `loads_compactText` says that reading gives
the value back.

Numbers are integers: a text with a fraction, an exponent, `NaN` or `Infinity` is not read here, and
neither is an escaped half of a surrogate pair.  `fuel` bounds the nesting and the length of a text;
the length of the text is enough.
-/

namespace Tallylot
namespace Data
namespace Json

/-! ## Compact text in field order -/

mutual

def compactChars : Json → List Char
  | arr items => '[' :: (commaSeparated (compactItems items) ++ [']'])
  | obj fields => '\x7b' :: (commaSeparated (compactFields fields) ++ ['\x7d'])
  | null => "null".toList
  | bool b => (if b then "true" else "false").toList
  | int n => (toString n).toList
  | str s => strChars s

def compactItems : List Json → List (List Char)
  | [] => []
  | item :: items => item.compactChars :: compactItems items

def compactFields : List (String × Json) → List (List Char)
  | [] => []
  | (key, value) :: fields => (strChars key ++ ':' :: value.compactChars) :: compactFields fields

end

attribute [grind =] compactChars compactItems compactFields

/-- `json.dumps` with compact separators. -/
def compactText (j : Json) : String := String.ofList j.compactChars

/-! ## Reading strings -/

def hexValue (c : Char) : Option Nat :=
  if c.isDigit then some (c.toNat - 48)
  else if 97 ≤ c.toNat ∧ c.toNat ≤ 102 then some (c.toNat - 87)
  else if 65 ≤ c.toNat ∧ c.toNat ≤ 70 then some (c.toNat - 55)
  else none

def readHex4 : List Char → Option (Nat × List Char)
  | a :: b :: c :: d :: rest => do
      let a ← hexValue a
      let b ← hexValue b
      let c ← hexValue c
      let d ← hexValue d
      some (((a * 16 + b) * 16 + c) * 16 + d, rest)
  | _ => none

/-- The second half of a surrogate pair. -/
def readLowSurrogate (high : Nat) : List Char → Option (Char × List Char)
  | '\\' :: 'u' :: rest => do
      let low ← readHex4 rest
      if 56320 ≤ low.1 ∧ low.1 ≤ 57343 then
        some (Char.ofNat (65536 + (high - 55296) * 1024 + (low.1 - 56320)), low.2)
      else none
  | _ => none

/-- What follows a backslash. -/
def readEscape : List Char → Option (Char × List Char)
  | [] => none
  | x :: rest =>
      match shortEscape x with
      | some c => some (c, rest)
      | none =>
          if x = '/' then some ('/', rest)
          else if x = 'u' then do
            let unit ← readHex4 rest
            if 55296 ≤ unit.1 ∧ unit.1 ≤ 56319 then readLowSurrogate unit.1 unit.2
            else if 56320 ≤ unit.1 ∧ unit.1 ≤ 57343 then none
            else some (Char.ofNat unit.1, unit.2)
          else none

/-- The characters up to the closing quote, and what follows it. -/
def readChars : Nat → List Char → Option (List Char × List Char)
  | 0, _ => none
  | _ + 1, [] => none
  | fuel + 1, c :: rest =>
      if c = '"' then some ([], rest)
      else if c = '\\' then do
        let escape ← readEscape rest
        let tail ← readChars fuel escape.2
        some (escape.1 :: tail.1, tail.2)
      else if c.toNat < 32 then none
      else do
        let tail ← readChars fuel rest
        some (c :: tail.1, tail.2)

/-! ## Reading values -/

def isJsonSpace (c : Char) : Bool := c = ' ' || c = '\t' || c = '\n' || c = '\r'

def skipSpace (cs : List Char) : List Char := cs.dropWhile isJsonSpace

/-- The digits of a number; a leading zero stands alone. -/
def readDigits (cs : List Char) : Option (Nat × List Char) :=
  match cs with
  | '0' :: rest => some (0, rest)
  | cs =>
      let digits := cs.takeWhile Char.isDigit
      if digits = [] then none else some (Nat.ofDigitChars 10 digits 0, cs.dropWhile Char.isDigit)

/-- An integer that is not the start of a fraction or an exponent. -/
def readInt (cs : List Char) : Option (Int × List Char) := do
  let number ←
    match cs with
    | '-' :: rest => (readDigits rest).map (fun n => (-(n.1 : Int), n.2))
    | cs => (readDigits cs).map (fun n => ((n.1 : Int), n.2))
  if number.2.head?.any (fun c => c = '.' || c = 'e' || c = 'E') then none else some number

/-- Values that are no strings, arrays or objects. -/
def readScalar (cs : List Char) : Option (Json × List Char) :=
  if "null".toList.isPrefixOf cs then some (null, cs.drop 4)
  else if "true".toList.isPrefixOf cs then some (bool true, cs.drop 4)
  else if "false".toList.isPrefixOf cs then some (bool false, cs.drop 5)
  else (readInt cs).map (fun n => (int n.1, n.2))

mutual

def readValue : Nat → List Char → Option (Json × List Char)
  | 0, _ => none
  | _ + 1, [] => none
  | fuel + 1, c :: rest =>
      if c = '"' then (readChars fuel rest).map (fun s => (str (String.ofList s.1), s.2))
      else if c = '[' then
        if (skipSpace rest).head? = some ']' then some (arr [], (skipSpace rest).tail)
        else (readItems fuel (skipSpace rest)).map (fun items => (arr items.1, items.2))
      else if c = '\x7b' then
        if (skipSpace rest).head? = some '\x7d' then some (obj [], (skipSpace rest).tail)
        else (readFields fuel (skipSpace rest)).map (fun fields => (obj fields.1, fields.2))
      else readScalar (c :: rest)

/-- The items of an array from the first one on. -/
def readItems : Nat → List Char → Option (List Json × List Char)
  | 0, _ => none
  | fuel + 1, cs => do
      let item ← readValue fuel cs
      match skipSpace item.2 with
      | [] => none
      | c :: rest =>
          if c = ']' then some ([item.1], rest)
          else if c = ',' then do
            let items ← readItems fuel (skipSpace rest)
            some (item.1 :: items.1, items.2)
          else none

/-- The fields of an object from the first one on. -/
def readFields : Nat → List Char → Option (List (String × Json) × List Char)
  | 0, _ => none
  | _ + 1, [] => none
  | fuel + 1, quote :: cs =>
      if quote ≠ '"' then none
      else do
        let key ← readChars fuel cs
        match skipSpace key.2 with
        | [] => none
        | colon :: cs =>
            if colon ≠ ':' then none
            else do
              let value ← readValue fuel (skipSpace cs)
              match skipSpace value.2 with
              | [] => none
              | c :: rest =>
                  if c = '\x7d' then some ([(String.ofList key.1, value.1)], rest)
                  else if c = ',' then do
                    let fields ← readFields fuel (skipSpace rest)
                    some ((String.ofList key.1, value.1) :: fields.1, fields.2)
                  else none

end

attribute [grind =] readValue readItems readFields readChars readHex4 readEscape

/-- `json.loads` -/
def loads (text : String) : Option Json := do
  let value ← readValue (text.toList.length + 1) (skipSpace text.toList)
  if skipSpace value.2 = [] then some value.1 else none

/-! ## Strings are read back -/

lemma hexValue_hexDigit (n : Nat) : hexValue (hexDigit n) = some (n % 16) := by
  have hall : ∀ i : Fin 16, hexValue (hexDigit i) = some i.val := by decide
  have hmod : hexDigit n = hexDigit (n % 16) := by simp [hexDigit]
  rw [hmod]
  exact hall ⟨n % 16, Nat.mod_lt _ (by decide)⟩

lemma readHex4_escapeUnit {n : Nat} (hn : n < 65536) (rest : List Char) :
    readHex4 (hexDigit (n / 4096) :: hexDigit (n / 256) :: hexDigit (n / 16) :: hexDigit n :: rest) =
      some (n, rest) := by
  have hvalue : ((n / 4096 % 16 * 16 + n / 256 % 16) * 16 + n / 16 % 16) * 16 + n % 16 = n := by
    omega
  simp [readHex4, hexValue_hexDigit, hvalue]

lemma printable_of_plain {c : Char} (h : escapeChar c = [c]) : 32 ≤ c.toNat := by
  by_contra hlow
  have hlen := congrArg List.length h
  unfold escapeChar at hlen
  split_ifs at hlen <;> first | omega | simp [escapeUnit] at hlen

lemma readChars_backslash (fuel : Nat) (rest : List Char) :
    readChars (fuel + 1) ('\\' :: rest) =
      (readEscape rest).bind (fun escape =>
        (readChars fuel escape.2).map (fun tail => (escape.1 :: tail.1, tail.2))) := by
  rw [readChars, if_neg (by decide), if_pos rfl]
  cases readEscape rest with
  | none => rfl
  | some escape => cases hread : readChars fuel escape.2 <;> simp [hread]

lemma readEscape_unit (rest : List Char) :
    readEscape ('u' :: rest) =
      (readHex4 rest).bind (fun unit =>
        if 55296 ≤ unit.1 ∧ unit.1 ≤ 56319 then readLowSurrogate unit.1 unit.2
        else if 56320 ≤ unit.1 ∧ unit.1 ≤ 57343 then none
        else some (Char.ofNat unit.1, unit.2)) := rfl

/-- A surrogate pair is read as the character that it stands for. -/
lemma readChars_pair {high low fuel : Nat} {rest : List Char} (hhigh : 55296 ≤ high ∧ high ≤ 56319)
    (hlow : 56320 ≤ low ∧ low ≤ 57343) :
    readChars (fuel + 1) (escapeUnit high ++ (escapeUnit low ++ rest)) =
      (readChars fuel rest).map (fun tail =>
        (Char.ofNat (65536 + (high - 55296) * 1024 + (low - 56320)) :: tail.1, tail.2)) := by
  have hreadHigh := readHex4_escapeUnit (lt_of_le_of_lt hhigh.2 (by decide))
    (escapeUnit low ++ rest)
  have hreadLow := readHex4_escapeUnit (lt_of_le_of_lt hlow.2 (by decide)) rest
  have hpair : readLowSurrogate high (escapeUnit low ++ rest) =
      some (Char.ofNat (65536 + (high - 55296) * 1024 + (low - 56320)), rest) := by
    simp [escapeUnit, readLowSurrogate, hreadLow, hlow.1, hlow.2]
  generalize escapeUnit low ++ rest = after at hreadHigh hpair ⊢
  rw [escapeUnit, List.cons_append, readChars_backslash, List.cons_append, readEscape_unit]
  simp only [List.cons_append, List.nil_append, hreadHigh, Option.bind_some, hhigh, and_self,
    if_true, hpair]

/-- An escaped character is read back. -/
lemma readChars_escapeChar (c : Char) (fuel : Nat) (rest : List Char) :
    readChars (fuel + 1) (escapeChar c ++ rest) =
      (readChars fuel rest).map (fun tail => (c :: tail.1, tail.2)) := by
  cases escaped c with
  | plain hchars hback hquote =>
      have hlow := printable_of_plain hchars
      rw [hchars, List.singleton_append, readChars, if_neg hquote, if_neg hback,
        if_neg (not_lt.2 hlow)]
      cases readChars fuel rest <;> rfl
  | short x hchars hletter =>
      have hescape : readEscape (x :: rest) = some (c, rest) := by
        simp [readEscape, hletter]
      rw [hchars, List.cons_append, List.singleton_append, readChars_backslash, hescape,
        Option.bind_some]
  | unit hchars hbasic =>
      have hread := readHex4_escapeUnit hbasic rest
      have hhigh : ¬(55296 ≤ c.toNat ∧ c.toNat ≤ 56319) := by
        have hrange := toNat_not_surrogate c
        omega
      have hlow : ¬(56320 ≤ c.toNat ∧ c.toNat ≤ 57343) := by
        have hrange := toNat_not_surrogate c
        omega
      rw [hchars, escapeUnit, List.cons_append, readChars_backslash, List.cons_append,
        readEscape_unit]
      simp only [List.cons_append, List.nil_append, hread, Option.bind_some, hhigh, hlow, if_false,
        Char.ofNat_toNat]
  | pair hchars hbeyond =>
      have hlt := toNat_lt c
      have hhigh : 55296 ≤ 55296 + (c.toNat - 65536) / 1024 ∧
          55296 + (c.toNat - 65536) / 1024 ≤ 56319 := by omega
      have hlow : 56320 ≤ 56320 + (c.toNat - 65536) % 1024 ∧
          56320 + (c.toNat - 65536) % 1024 ≤ 57343 := by omega
      have hvalue : 65536 + (55296 + (c.toNat - 65536) / 1024 - 55296) * 1024 +
          (56320 + (c.toNat - 65536) % 1024 - 56320) = c.toNat := by omega
      rw [hchars, List.append_assoc, readChars_pair hhigh hlow, hvalue, Char.ofNat_toNat]

/-- A quoted string is read back, whatever follows it. -/
theorem readChars_escaped (cs : List Char) {fuel : Nat} (hfuel : cs.length < fuel)
    (rest : List Char) :
    readChars fuel (cs.flatMap escapeChar ++ '"' :: rest) = some (cs, rest) := by
  induction cs generalizing fuel with
  | nil =>
      cases fuel with
      | zero => exact absurd hfuel (Nat.not_lt_zero _)
      | succ fuel => simp [readChars]
  | cons c cs ih =>
      cases fuel with
      | zero => exact absurd hfuel (Nat.not_lt_zero _)
      | succ fuel =>
          have htail := ih (Nat.lt_of_succ_lt_succ hfuel)
          rw [List.flatMap_cons, List.append_assoc, readChars_escapeChar, htail]
          rfl

/-! ## Numbers are read back -/

lemma toDigits_head (n : Nat) : n ≠ 0 → ∀ cs, Nat.toDigits 10 n ≠ '0' :: cs := by
  induction n using Nat.strong_induction_on with
  | _ n ih =>
      intro hn cs h
      by_cases hsmall : n < 10
      · rw [Nat.toDigits_of_lt_base hsmall] at h
        have hall : ∀ i : Fin 10, i.val ≠ 0 → i.val.digitChar ≠ '0' := by decide
        exact hall ⟨n, hsmall⟩ hn (List.cons.inj h).1
      · rw [Nat.toDigits_of_base_le (by decide) (not_lt.1 hsmall)] at h
        have hq : n / 10 ≠ 0 := by omega
        cases hdigits : Nat.toDigits 10 (n / 10) with
        | nil => exact Nat.toDigits_ne_nil hdigits
        | cons d ds =>
            rw [hdigits, List.cons_append] at h
            rw [(List.cons.inj h).1] at hdigits
            exact ih (n / 10) (by omega) hq ds hdigits

lemma not_digit_of_ends {rest : List Char} (h : Ends rest) :
    ∀ c ∈ rest.head?, c.isDigit = false ∧ c ≠ '.' ∧ c ≠ 'e' ∧ c ≠ 'E' := by
  intro c hc
  rcases h c hc with rfl | rfl | rfl <;> decide

lemma takeWhile_digits {ds rest : List Char} (hds : ∀ c ∈ ds, c.isDigit = true)
    (hrest : Ends rest) :
    (ds ++ rest).takeWhile Char.isDigit = ds ∧ (ds ++ rest).dropWhile Char.isDigit = rest := by
  have hstop : rest.takeWhile Char.isDigit = [] ∧ rest.dropWhile Char.isDigit = rest := by
    cases rest with
    | nil => exact ⟨rfl, rfl⟩
    | cons c rest =>
        have hc := (not_digit_of_ends hrest c rfl).1
        simp [hc]
  rw [List.takeWhile_append_of_pos hds, List.dropWhile_append_of_pos hds, hstop.1, hstop.2]
  exact ⟨List.append_nil ds, rfl⟩

lemma readDigits_toDigits (n : Nat) {rest : List Char} (hrest : Ends rest) :
    readDigits (Nat.toDigits 10 n ++ rest) = some (n, rest) := by
  by_cases hn : n = 0
  · subst hn
    rfl
  · have hdigit : ∀ c ∈ Nat.toDigits 10 n, c.isDigit = true := fun c hc =>
      Nat.isDigit_of_mem_toDigits (by decide) (by decide) hc
    have hspan := takeWhile_digits hdigit hrest
    have hhead := toDigits_head n hn
    unfold readDigits
    split
    · rename_i rest' heq
      cases hdigits : Nat.toDigits 10 n with
      | nil => exact absurd hdigits Nat.toDigits_ne_nil
      | cons d ds =>
          rw [hdigits, List.cons_append] at heq
          rw [(List.cons.inj heq).1] at hdigits
          exact absurd hdigits (hhead ds)
    · simp [hspan.1, hspan.2, Nat.toDigits_ne_nil, Nat.ofDigitChars_ten_toDigits]

/-- An integer is read back before a stop. -/
theorem readInt_toString (n : Int) {rest : List Char} (hrest : Ends rest) :
    readInt ((toString n).toList ++ rest) = some (n, rest) := by
  have hany : rest.head?.any (fun c => c = '.' || c = 'e' || c = 'E') = false := by
    cases rest with
    | nil => rfl
    | cons c rest =>
        have hc := not_digit_of_ends hrest c rfl
        simp [hc.2.1, hc.2.2.1, hc.2.2.2]
  cases n with
  | ofNat n =>
      have hn : (toString (Int.ofNat n)).toList = Nat.toDigits 10 n := by
        simp [toString, Int.repr, Nat.repr]
      have hminus : ∀ cs, Nat.toDigits 10 n ++ rest ≠ '-' :: cs := by
        intro cs h
        cases hdigits : Nat.toDigits 10 n with
        | nil => exact Nat.toDigits_ne_nil hdigits
        | cons d ds =>
            rw [hdigits, List.cons_append] at h
            have hd := Nat.isDigit_of_mem_toDigits (by decide) (by decide)
              (hdigits ▸ List.mem_cons_self)
            rw [(List.cons.inj h).1] at hd
            exact absurd hd (by decide)
      have hread : readInt (Nat.toDigits 10 n ++ rest) =
          ((readDigits (Nat.toDigits 10 n ++ rest)).map (fun n => ((n.1 : Int), n.2))).bind
            (fun number =>
              if number.2.head?.any (fun c => c = '.' || c = 'e' || c = 'E') then none
              else some number) := by
        unfold readInt
        split
        · rename_i cs heq
          exact absurd heq (hminus cs)
        · rfl
      rw [hn, hread, readDigits_toDigits n hrest]
      simp [hany]
  | negSucc n =>
      have hn : (toString (Int.negSucc n)).toList = '-' :: Nat.toDigits 10 (n + 1) := by
        simp [toString, Int.repr, Nat.repr]
      rw [hn, List.cons_append, readInt]
      simp [readDigits_toDigits (n + 1) hrest, hany, Int.negSucc_eq]

/-! ## Values are read back -/

/-- A value starts with a character that is neither blank nor a stop. -/
lemma compact_eq_cons (j : Json) :
    ∃ c cs, j.compactChars = c :: cs ∧ ¬IsStop c ∧ isJsonSpace c = false := by
  cases j with
  | null => exact ⟨'n', "ull".toList, rfl, by simp [IsStop], rfl⟩
  | bool b =>
      cases b with
      | true => exact ⟨'t', "rue".toList, rfl, by simp [IsStop], rfl⟩
      | false => exact ⟨'f', "alse".toList, rfl, by simp [IsStop], rfl⟩
  | int n =>
      rcases List.exists_cons_of_ne_nil (int_ne_nil n) with ⟨c, cs, hn⟩
      refine ⟨c, cs, by rw [compactChars, hn], ?_, ?_⟩
      · rcases int_char (hn ▸ List.mem_cons_self) with rfl | hdigit
        · simp [IsStop]
        · simp [IsStop, isDigit_ne _ hdigit]
      · rcases int_char (hn ▸ List.mem_cons_self) with rfl | hdigit
        · rfl
        · simp [isJsonSpace, isDigit_ne _ hdigit]
  | str s => exact ⟨'"', _, by rw [compactChars, strChars], by simp [IsStop], rfl⟩
  | arr items => exact ⟨'[', _, by rw [compactChars], by simp [IsStop], rfl⟩
  | obj fields => exact ⟨'\x7b', _, by rw [compactChars], by simp [IsStop], rfl⟩

lemma skipSpace_cons {c : Char} (hc : isJsonSpace c = false) (cs : List Char) :
    skipSpace (c :: cs) = c :: cs := by
  simp [skipSpace, hc]

lemma skipSpace_compact (j : Json) (rest : List Char) :
    skipSpace (j.compactChars ++ rest) = j.compactChars ++ rest := by
  rcases compact_eq_cons j with ⟨c, cs, h, _, hspace⟩
  rw [h, List.cons_append, skipSpace_cons hspace]

/-- Before a stop, the text of a value is read as the value. -/
def ReadsBack (j : Json) : Prop :=
  ∀ (fuel : Nat) (rest : List Char), j.compactChars.length < fuel → Ends rest →
    readValue fuel (j.compactChars ++ rest) = some (j, rest)

lemma ends_cons {c : Char} (hc : IsStop c) (rest : List Char) : Ends (c :: rest) := by
  intro d hd
  rw [← Option.mem_some_iff.1 hd]
  exact hc

lemma readsBack_scalar {j : Json} (hkind : ∀ c cs, j.compactChars = c :: cs →
      c ≠ '"' ∧ c ≠ '[' ∧ c ≠ '\x7b')
    (hscalar : ∀ rest, Ends rest → readScalar (j.compactChars ++ rest) = some (j, rest)) :
    ReadsBack j := by
  intro fuel rest hfuel hrest
  rcases compact_eq_cons j with ⟨c, cs, h, _, _⟩
  rcases hkind c cs h with ⟨hquote, harr, hobj⟩
  have hread := hscalar rest hrest
  cases fuel with
  | zero => exact absurd hfuel (Nat.not_lt_zero _)
  | succ fuel =>
      rw [h, List.cons_append] at hread ⊢
      rw [readValue, if_neg hquote, if_neg harr, if_neg hobj]
      exact hread

lemma readsBack_int (n : Int) : ReadsBack (int n) := by
  refine readsBack_scalar ?_ ?_
  · intro c cs h
    have hmem : c ∈ (toString n).toList := by
      rw [show (toString n).toList = c :: cs by simpa [compactChars] using h]
      exact List.mem_cons_self
    rcases int_char hmem with rfl | hdigit
    · decide
    · exact ⟨isDigit_ne rfl hdigit, isDigit_ne rfl hdigit, isDigit_ne rfl hdigit⟩
  · intro rest hrest
    have hread := readInt_toString n hrest
    rcases List.exists_cons_of_ne_nil (int_ne_nil n) with ⟨c, cs, hn⟩
    have hc : c ≠ 'n' ∧ c ≠ 't' ∧ c ≠ 'f' := by
      rcases int_char (hn ▸ List.mem_cons_self) with rfl | hdigit
      · decide
      · exact ⟨isDigit_ne rfl hdigit, isDigit_ne rfl hdigit, isDigit_ne rfl hdigit⟩
    rw [compactChars]
    rw [hn, List.cons_append] at hread ⊢
    simp [readScalar, List.isPrefixOf, hc.1.symm, hc.2.1.symm, hc.2.2.symm, hread]

lemma readsBack_null : ReadsBack null := by
  refine readsBack_scalar ?_ ?_
  · intro c cs h
    rw [compactChars] at h
    rw [← (List.cons.inj h).1]
    decide
  · intro rest _
    rfl

lemma readsBack_bool (b : Bool) : ReadsBack (bool b) := by
  refine readsBack_scalar ?_ ?_
  · intro c cs h
    rw [compactChars] at h
    cases b with
    | true =>
        rw [← (List.cons.inj h).1]
        decide
    | false =>
        rw [← (List.cons.inj h).1]
        decide
  · intro rest _
    cases b <;> rfl

lemma length_le_escaped (cs : List Char) : cs.length ≤ (cs.flatMap escapeChar).length := by
  induction cs with
  | nil => exact le_rfl
  | cons c cs ih =>
      have hpos : 0 < (escapeChar c).length := by
        cases escaped c with
        | plain hchars _ _ => simp [hchars]
        | short x hchars _ => simp [hchars]
        | unit hchars _ => simp [hchars, escapeUnit]
        | pair hchars _ => simp [hchars, escapeUnit]
      rw [List.flatMap_cons, List.length_append, List.length_cons]
      omega

/-- The quoted text of a string, without its opening quote, is read back. -/
lemma readChars_strChars (s : String) {fuel : Nat} (hfuel : (strChars s).length ≤ fuel + 1)
    (rest : List Char) :
    readChars fuel (s.toList.flatMap escapeChar ++ '"' :: rest) = some (s.toList, rest) := by
  refine readChars_escaped s.toList ?_ rest
  have hle := length_le_escaped s.toList
  simp only [strChars, List.length_cons, List.length_append, List.length_nil] at hfuel
  omega

lemma readsBack_str (s : String) : ReadsBack (str s) := by
  intro fuel rest hfuel _
  rw [compactChars] at hfuel ⊢
  cases fuel with
  | zero => exact absurd hfuel (Nat.not_lt_zero _)
  | succ fuel =>
      have hread := readChars_strChars s hfuel.le rest
      rw [strChars, List.cons_append, List.append_assoc, List.singleton_append, readValue,
        if_pos rfl, hread]
      simp

lemma commaSeparated_cons (p : List Char) (ps : List (List Char)) :
    ∃ tail, commaSeparated (p :: ps) = p ++ tail := by
  cases ps with
  | nil => exact ⟨[], by rw [commaSeparated_singleton, List.append_nil]⟩
  | cons q qs => exact ⟨_, commaSeparated_cons_cons p q qs⟩

/-- The items of an array start with a value. -/
lemma items_start (item : Json) (items : List Json) (rest : List Char) :
    (∃ c cs, commaSeparated (compactItems (item :: items)) ++ rest = c :: cs ∧ ¬IsStop c) ∧
      skipSpace (commaSeparated (compactItems (item :: items)) ++ rest) =
        commaSeparated (compactItems (item :: items)) ++ rest := by
  rcases compact_eq_cons item with ⟨c, cs, hitem, hstop, hspace⟩
  rcases commaSeparated_cons item.compactChars (compactItems items) with ⟨tail, htail⟩
  rw [compactItems, htail, hitem]
  exact ⟨⟨c, _, rfl, hstop⟩, skipSpace_cons hspace _⟩

lemma readItems_compact {items : List Json} (hitems : ∀ item ∈ items, ReadsBack item)
    (hne : items ≠ []) (rest : List Char) :
    ∀ fuel, (commaSeparated (compactItems items)).length + 1 < fuel →
      readItems fuel (commaSeparated (compactItems items) ++ ']' :: rest) = some (items, rest) := by
  induction items with
  | nil => exact absurd rfl hne
  | cons item items ih =>
      intro fuel hfuel
      cases fuel with
      | zero => exact absurd hfuel (Nat.not_lt_zero _)
      | succ fuel =>
          have hitem := hitems item List.mem_cons_self
          cases items with
          | nil =>
              rw [compactItems, compactItems, commaSeparated_singleton] at hfuel ⊢
              have hread := hitem fuel (']' :: rest) (by omega)
                (ends_cons (Or.inr (Or.inl rfl)) rest)
              simp [readItems, hread, @skipSpace_cons ']' rfl]
          | cons next items =>
              have hread := hitem fuel
                (',' :: (commaSeparated (compactItems (next :: items)) ++ ']' :: rest))
                (by
                  rw [compactItems, compactItems, commaSeparated_cons_cons, List.length_append]
                    at hfuel
                  omega)
                (ends_cons (Or.inl rfl) _)
              have htail := ih (fun x hx => hitems x (List.mem_cons_of_mem _ hx))
                (List.cons_ne_nil _ _) fuel
                (by
                  rw [compactItems, compactItems, commaSeparated_cons_cons, List.length_append,
                    List.length_cons] at hfuel
                  rw [compactItems]
                  omega)
              have hspace := (items_start next items (']' :: rest)).2
              rw [compactItems, compactItems, commaSeparated_cons_cons, List.append_assoc,
                List.cons_append]
              rw [compactItems] at hread htail hspace
              have hcomma : ¬ ',' = ']' := by decide
              simp only [readItems, hread, Option.bind_eq_bind, Option.bind_some,
                @skipSpace_cons ',' rfl, hcomma, if_false, if_true, hspace, htail]

lemma readsBack_arr {items : List Json} (hitems : ∀ item ∈ items, ReadsBack item) :
    ReadsBack (arr items) := by
  intro fuel rest hfuel _
  rw [compactChars] at hfuel ⊢
  cases fuel with
  | zero => exact absurd hfuel (Nat.not_lt_zero _)
  | succ fuel =>
      have hquote : ¬ '[' = '"' := by decide
      rw [List.cons_append, List.append_assoc, List.singleton_append, readValue, if_neg hquote,
        if_pos rfl]
      cases items with
      | nil =>
          rw [show commaSeparated (compactItems []) = [] from rfl, List.nil_append,
            @skipSpace_cons ']' rfl _, if_pos (show (']' :: rest).head? = some ']' from rfl)]
          rfl
      | cons item items =>
          rcases items_start item items (']' :: rest) with ⟨⟨c, cs, hhead, hstop⟩, hspace⟩
          have hread := readItems_compact hitems (List.cons_ne_nil _ _) rest fuel
            (by
              simp only [List.length_cons, List.length_append, List.length_nil] at hfuel
              omega)
          have hne : ¬(c :: cs).head? = some ']' := by
            intro h
            exact hstop (Or.inr (Or.inl (Option.some.inj h)))
          rw [hspace]
          rw [hhead] at hread ⊢
          rw [if_neg hne, hread]
          rfl

/-- The text of one field. -/
lemma compactFields_cons (key : String) (value : Json) (fields : List (String × Json)) :
    ∃ tail, commaSeparated (compactFields ((key, value) :: fields)) =
      '"' :: (key.toList.flatMap escapeChar ++ '"' :: (':' :: (value.compactChars ++ tail))) := by
  rcases commaSeparated_cons (strChars key ++ ':' :: value.compactChars) (compactFields fields)
    with ⟨tail, htail⟩
  refine ⟨tail, ?_⟩
  rw [compactFields, htail, strChars]
  simp

lemma readFields_compact {fields : List (String × Json)} (hfields : ∀ f ∈ fields, ReadsBack f.2)
    (hne : fields ≠ []) (rest : List Char) :
    ∀ fuel, (commaSeparated (compactFields fields)).length + 1 < fuel →
      readFields fuel (commaSeparated (compactFields fields) ++ '\x7d' :: rest) =
        some (fields, rest) := by
  induction fields with
  | nil => exact absurd rfl hne
  | cons f fields ih =>
      rcases f with ⟨key, value⟩
      intro fuel hfuel
      cases fuel with
      | zero => exact absurd hfuel (Nat.not_lt_zero _)
      | succ fuel =>
          have hvalue : ReadsBack value := hfields (key, value) List.mem_cons_self
          have hquote : ¬('"' : Char) ≠ '"' := by decide
          have hcolon : ¬(':' : Char) ≠ ':' := by decide
          have hclose : ¬ ',' = '\x7d' := by decide
          have hend : ∀ cs, skipSpace ('\x7d' :: cs) = '\x7d' :: cs := fun cs =>
            skipSpace_cons rfl cs
          have hcomma : ∀ cs, skipSpace (',' :: cs) = ',' :: cs := fun cs => skipSpace_cons rfl cs
          have hcolon' : ∀ cs, skipSpace (':' :: cs) = ':' :: cs := fun cs => skipSpace_cons rfl cs
          cases fields with
          | nil =>
              rw [compactFields, compactFields, commaSeparated_singleton] at hfuel ⊢
              rw [List.length_append, List.length_cons] at hfuel
              have hkey := @readChars_strChars key fuel (by omega)
                (':' :: (value.compactChars ++ '\x7d' :: rest))
              have hread := hvalue fuel ('\x7d' :: rest) (by omega)
                (ends_cons (Or.inr (Or.inr rfl)) rest)
              have hskip := skipSpace_compact value ('\x7d' :: rest)
              simp only [strChars, List.cons_append, List.append_assoc, List.nil_append, readFields,
                hquote, if_false, hkey, Option.bind_eq_bind, Option.bind_some, hcolon', hcolon,
                hskip, hread, hend, if_true, String.ofList_toList]
          | cons next fields =>
              rcases next with ⟨nextKey, nextValue⟩
              rw [compactFields] at hfuel ⊢
              have hpieces : ∃ p ps, compactFields ((nextKey, nextValue) :: fields) = p :: ps :=
                ⟨_, _, by rw [compactFields]⟩
              rcases hpieces with ⟨p, ps, hpieces⟩
              rcases compactFields_cons nextKey nextValue fields with ⟨tail, hstart⟩
              rw [hpieces, commaSeparated_cons_cons, List.length_append, List.length_append,
                List.length_cons, List.length_cons] at hfuel
              have htail := ih (fun g hg => hfields g (List.mem_cons_of_mem _ hg))
                (List.cons_ne_nil _ _) fuel (by rw [hpieces]; omega)
              have hkey := @readChars_strChars key fuel (by omega)
                (':' :: (value.compactChars ++
                  ',' :: (commaSeparated (p :: ps) ++ '\x7d' :: rest)))
              have hread := hvalue fuel (',' :: (commaSeparated (p :: ps) ++ '\x7d' :: rest))
                (by omega) (ends_cons (Or.inl rfl) _)
              have hskip := skipSpace_compact value
                (',' :: (commaSeparated (p :: ps) ++ '\x7d' :: rest))
              have hnext : skipSpace (commaSeparated (p :: ps) ++ '\x7d' :: rest) =
                  commaSeparated (p :: ps) ++ '\x7d' :: rest := by
                rw [← hpieces, hstart, List.cons_append]
                exact skipSpace_cons rfl _
              rw [hpieces] at htail
              rw [hpieces, commaSeparated_cons_cons]
              simp only [strChars, List.cons_append, List.append_assoc, List.nil_append, readFields,
                hquote, if_false, hkey, Option.bind_eq_bind, Option.bind_some, hcolon', hcolon,
                hskip, hread, hcomma, hclose, if_true, hnext, htail, String.ofList_toList]

lemma readsBack_obj {fields : List (String × Json)} (hfields : ∀ f ∈ fields, ReadsBack f.2) :
    ReadsBack (obj fields) := by
  intro fuel rest hfuel _
  rw [compactChars] at hfuel ⊢
  cases fuel with
  | zero => exact absurd hfuel (Nat.not_lt_zero _)
  | succ fuel =>
      have hquote : ¬ '\x7b' = '"' := by decide
      have harr : ¬ '\x7b' = '[' := by decide
      rw [List.cons_append, List.append_assoc, List.singleton_append, readValue, if_neg hquote,
        if_neg harr, if_pos rfl]
      cases fields with
      | nil =>
          rw [show commaSeparated (compactFields []) = [] from rfl, List.nil_append,
            @skipSpace_cons '\x7d' rfl _,
            if_pos (show ('\x7d' :: rest).head? = some '\x7d' from rfl)]
          rfl
      | cons f fields =>
          have hread := readFields_compact hfields (List.cons_ne_nil _ _) rest fuel
            (by
              simp only [List.length_cons, List.length_append, List.length_nil] at hfuel
              omega)
          rcases compactFields_cons f.1 f.2 fields with ⟨tail, hstart⟩
          have hne : ∀ cs, ¬('"' :: cs).head? = some '\x7d' := by simp
          rw [hstart, List.cons_append] at hread ⊢
          rw [@skipSpace_cons '"' rfl _, if_neg (hne _), hread]
          rfl

/-- Every value is read back. -/
theorem readsBack (j : Json) : ReadsBack j := by
  refine @Json.rec ReadsBack (fun items => ∀ item ∈ items, ReadsBack item)
    (fun fields => ∀ f ∈ fields, ReadsBack f.2) (fun f => ReadsBack f.2)
    readsBack_null readsBack_bool readsBack_int readsBack_str (fun items ih => readsBack_arr ih)
    (fun fields ih => readsBack_obj ih) ?_ ?_ ?_ ?_ (fun _ _ ih => ih) j
  · exact fun item hitem => absurd hitem List.not_mem_nil
  · intro item items ih ih' x hx
    rcases List.mem_cons.1 hx with rfl | hx
    · exact ih
    · exact ih' x hx
  · exact fun f hf => absurd hf List.not_mem_nil
  · intro f fields ih ih' x hx
    rcases List.mem_cons.1 hx with rfl | hx
    · exact ih
    · exact ih' x hx

theorem loads_compactText (j : Json) : loads j.compactText = some j := by
  have hends : Ends [] := by
    intro c hc
    cases hc
  have hskip := skipSpace_compact j []
  have hread := readsBack j (j.compactChars.length + 1) [] (Nat.lt_succ_self _) hends
  rw [List.append_nil] at hskip hread
  have hchars : j.compactText.toList = j.compactChars := String.toList_ofList
  simp only [loads, hchars, hskip, hread, Option.bind_eq_bind, Option.bind_some]
  rfl

end Json

end Data
end Tallylot
