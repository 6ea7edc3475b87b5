import Tallylot.Data.Sorted
import Mathlib.Data.String.Basic
import Mathlib.Data.String.Lemmas

/-!
# Json — JSON values and their compact text

`Json.dumps` is the text that payloads are hashed in: no blanks, object keys in sorted order, and
every character outside printable ASCII escaped.  Values delimit themselves in it
(`selfDelimiting`), so that equal texts come from equal parts.
-/

namespace Tallylot
namespace Data

inductive Json
  | null
  | bool (b : Bool)
  | int (n : Int)
  | str (s : String)
  | arr (items : List Json)
  | obj (fields : List (String × Json))

namespace Json

/-! ## Strings -/

def hexDigit (n : Nat) : Char := "0123456789abcdef".toList.getD (n % 16) '0'

/-- `\\uXXXX` -/
def escapeUnit (n : Nat) : List Char :=
  ['\\', 'u', hexDigit (n / 4096), hexDigit (n / 256), hexDigit (n / 16), hexDigit n]

/-- One character of a string; characters beyond the basic plane are surrogate pairs. -/
def escapeChar (c : Char) : List Char :=
  if c = '"' then ['\\', '"']
  else if c = '\\' then ['\\', '\\']
  else if c = '\n' then ['\\', 'n']
  else if c = '\r' then ['\\', 'r']
  else if c = '\t' then ['\\', 't']
  else if c.toNat = 8 then ['\\', 'b']
  else if c.toNat = 12 then ['\\', 'f']
  else if 32 ≤ c.toNat ∧ c.toNat ≤ 126 then [c]
  else if c.toNat < 65536 then escapeUnit c.toNat
  else
    escapeUnit (55296 + (c.toNat - 65536) / 1024) ++ escapeUnit (56320 + (c.toNat - 65536) % 1024)

def strChars (s : String) : List Char := '"' :: (s.toList.flatMap escapeChar ++ ['"'])

/-! ## Strings delimit themselves -/

lemma hexDigit_inj {a b : Nat} : hexDigit a = hexDigit b → a % 16 = b % 16 := by
  intro h
  have hall : ∀ i j : Fin 16, hexDigit i = hexDigit j → i = j := by decide
  have hmod : ∀ n : Nat, hexDigit n = hexDigit (n % 16) := by
    intro n
    simp [hexDigit]
  rw [hmod a, hmod b] at h
  exact congrArg Fin.val
    (hall ⟨a % 16, Nat.mod_lt _ (by decide)⟩ ⟨b % 16, Nat.mod_lt _ (by decide)⟩ h)

lemma escapeUnit_append_inj {m n : Nat} (hm : m < 65536) (hn : n < 65536) {r r' : List Char} :
    escapeUnit m ++ r = escapeUnit n ++ r' → m = n ∧ r = r' := by
  intro h
  simp only [escapeUnit, List.cons_append, List.nil_append, List.cons.injEq, true_and] at h
  rcases h with ⟨h1, h2, h3, h4, hr⟩
  have h1 := hexDigit_inj h1
  have h2 := hexDigit_inj h2
  have h3 := hexDigit_inj h3
  have h4 := hexDigit_inj h4
  exact ⟨by omega, hr⟩

/-- What the letter after a backslash stands for. -/
def shortEscape (x : Char) : Option Char :=
  if x = '"' then some '"'
  else if x = '\\' then some '\\'
  else if x = 'n' then some '\n'
  else if x = 'r' then some '\r'
  else if x = 't' then some '\t'
  else if x = 'b' then some (Char.ofNat 8)
  else if x = 'f' then some (Char.ofNat 12)
  else none

lemma char_eq_of_toNat {c d : Char} : c.toNat = d.toNat → c = d := by
  intro h
  rw [← Char.ofNat_toNat c, h, Char.ofNat_toNat]

/-- The four shapes of an escaped character. -/
inductive Escaped (c : Char) : Prop
  | plain (hchars : escapeChar c = [c]) (hback : c ≠ '\\') (hquote : c ≠ '"')
  | short (x : Char) (hchars : escapeChar c = ['\\', x]) (hletter : shortEscape x = some c)
  | unit (hchars : escapeChar c = escapeUnit c.toNat) (hbasic : c.toNat < 65536)
  | pair
      (hchars : escapeChar c = escapeUnit (55296 + (c.toNat - 65536) / 1024) ++
        escapeUnit (56320 + (c.toNat - 65536) % 1024))
      (hbeyond : 65536 ≤ c.toNat)

lemma escaped (c : Char) : Escaped c := by
  by_cases hquote : c = '"'
  · exact .short '"' (by simp [escapeChar, hquote]) (by rw [hquote]; rfl)
  by_cases hback : c = '\\'
  · exact .short '\\' (by simp [escapeChar, hback]) (by rw [hback]; rfl)
  by_cases hline : c = '\n'
  · exact .short 'n' (by simp [escapeChar, hline]) (by rw [hline]; rfl)
  by_cases hreturn : c = '\r'
  · exact .short 'r' (by simp [escapeChar, hreturn]) (by rw [hreturn]; rfl)
  by_cases htab : c = '\t'
  · exact .short 't' (by simp [escapeChar, htab]) (by rw [htab]; rfl)
  by_cases hbackspace : c.toNat = 8
  · have hc : c = Char.ofNat 8 := char_eq_of_toNat hbackspace
    exact .short 'b' (by rw [hc]; rfl) (by rw [hc]; rfl)
  by_cases hfeed : c.toNat = 12
  · have hc : c = Char.ofNat 12 := char_eq_of_toNat hfeed
    exact .short 'f' (by rw [hc]; rfl) (by rw [hc]; rfl)
  by_cases hplain : 32 ≤ c.toNat ∧ c.toNat ≤ 126
  · refine .plain ?_ hback hquote
    simp [escapeChar, hquote, hback, hline, hreturn, htab, hbackspace, hfeed, hplain]
  by_cases hbasic : c.toNat < 65536
  · refine .unit ?_ hbasic
    simp [escapeChar, hquote, hback, hline, hreturn, htab, hbackspace, hfeed, hplain, hbasic]
  · refine .pair ?_ (not_lt.1 hbasic)
    simp [escapeChar, hquote, hback, hline, hreturn, htab, hbackspace, hfeed, hplain, hbasic]

/-- No character is half of a surrogate pair. -/
lemma toNat_not_surrogate (c : Char) : c.toNat < 55296 ∨ 57343 < c.toNat := by
  rcases c.valid with h | h
  · exact Or.inl h
  · exact Or.inr h.1

lemma toNat_lt (c : Char) : c.toNat < 1114112 := by
  rcases c.valid with h | h
  · exact lt_trans h (by decide)
  · exact h.2

/-- Escaped characters are a prefix code. -/
lemma escapeChar_append_inj {c d : Char} {r r' : List Char} :
    escapeChar c ++ r = escapeChar d ++ r' → c = d ∧ r = r' := by
  intro h
  have hc := toNat_lt c
  have hd := toNat_lt d
  have hc' := toNat_not_surrogate c
  have hd' := toNat_not_surrogate d
  have hletter : ∀ {x : Char} {c : Char}, shortEscape x = some c → x ≠ 'u' := by
    rintro x c hx rfl
    exact absurd hx (by simp [shortEscape])
  cases escaped c with
  | plain hchars hback hquote =>
      rw [hchars] at h
      cases escaped d with
      | plain hchars' _ _ => simpa [hchars'] using h
      | short x hchars' _ => exact absurd (by simpa [hchars'] using h.symm) (by simp [hback.symm])
      | unit hchars' _ => exact absurd h (by simp [hchars', escapeUnit, hback])
      | pair hchars' _ => exact absurd h (by simp [hchars', escapeUnit, hback])
  | short x hchars hx =>
      rw [hchars] at h
      cases escaped d with
      | plain hchars' hback' _ => exact absurd h (by simp [hchars', hback'.symm])
      | short x' hchars' hx' =>
          simp only [hchars', List.cons_append, List.nil_append, List.cons.injEq, true_and] at h
          rw [h.1, hx'] at hx
          exact ⟨(Option.some.inj hx).symm, h.2⟩
      | unit hchars' _ => exact absurd h (by simp [hchars', escapeUnit, hletter hx])
      | pair hchars' _ => exact absurd h (by simp [hchars', escapeUnit, hletter hx])
  | unit hchars hbasic =>
      rw [hchars] at h
      cases escaped d with
      | plain hchars' hback' _ => exact absurd h (by simp [hchars', escapeUnit, hback'.symm])
      | short x' hchars' hx' => exact absurd h (by simp [hchars', escapeUnit, (hletter hx').symm])
      | unit hchars' hbasic' =>
          rw [hchars'] at h
          rcases escapeUnit_append_inj hbasic hbasic' h with ⟨heq, hr⟩
          exact ⟨char_eq_of_toNat heq, hr⟩
      | pair hchars' hbeyond' =>
          rw [hchars', List.append_assoc] at h
          have heq := (escapeUnit_append_inj hbasic (by omega) h).1
          omega
  | pair hchars hbeyond =>
      rw [hchars, List.append_assoc] at h
      cases escaped d with
      | plain hchars' hback' _ => exact absurd h (by simp [hchars', escapeUnit, hback'.symm])
      | short x' hchars' hx' => exact absurd h (by simp [hchars', escapeUnit, (hletter hx').symm])
      | unit hchars' hbasic' =>
          rw [hchars'] at h
          have heq := (escapeUnit_append_inj (by omega) hbasic' h).1
          omega
      | pair hchars' hbeyond' =>
          rw [hchars', List.append_assoc] at h
          rcases escapeUnit_append_inj (by omega) (by omega) h with ⟨hhigh, hrest⟩
          rcases escapeUnit_append_inj (by omega) (by omega) hrest with ⟨hlow, hr⟩
          exact ⟨char_eq_of_toNat (by omega), hr⟩

lemma escapeChar_ne_quote (c : Char) (r r' : List Char) : escapeChar c ++ r ≠ '"' :: r' := by
  intro h
  cases escaped c with
  | plain hchars _ hquote => exact absurd h (by simp [hchars, hquote])
  | short x hchars _ => exact absurd h (by simp [hchars])
  | unit hchars _ => exact absurd h (by simp [hchars, escapeUnit])
  | pair hchars _ => exact absurd h (by simp [hchars, escapeUnit])

lemma escaped_append_inj :
    ∀ (cs ds : List Char) (r r' : List Char),
      cs.flatMap escapeChar ++ '"' :: r = ds.flatMap escapeChar ++ '"' :: r' → cs = ds ∧ r = r' := by
  intro cs
  induction cs with
  | nil =>
      intro ds r r' h
      cases ds with
      | nil => exact ⟨rfl, (List.cons.inj h).2⟩
      | cons d ds =>
          rw [List.flatMap_cons, List.append_assoc] at h
          exact absurd h.symm (escapeChar_ne_quote d _ r)
  | cons c cs ih =>
      intro ds r r' h
      cases ds with
      | nil =>
          rw [List.flatMap_cons, List.append_assoc] at h
          exact absurd h (escapeChar_ne_quote c _ r')
      | cons d ds =>
          rw [List.flatMap_cons, List.flatMap_cons, List.append_assoc, List.append_assoc] at h
          rcases escapeChar_append_inj h with ⟨rfl, hrest⟩
          rcases ih ds r r' hrest with ⟨rfl, hr⟩
          exact ⟨rfl, hr⟩

/-- A quoted string ends where its text says. -/
theorem strChars_append_inj {s t : String} {r r' : List Char} :
    strChars s ++ r = strChars t ++ r' → s = t ∧ r = r' := by
  intro h
  simp only [strChars, List.cons_append, List.append_assoc, List.nil_append, List.cons.injEq,
    true_and] at h
  rcases escaped_append_inj _ _ _ _ h with ⟨hlist, hr⟩
  exact ⟨String.toList_injective hlist, hr⟩

def commaSeparated (parts : List (List Char)) : List Char := (parts.intersperse [',']).flatten

/-! ## Values -/

mutual

def chars : Json → List Char
  | null => "null".toList
  | bool b => (if b then "true" else "false").toList
  | int n => (toString n).toList
  | str s => strChars s
  | arr items => '[' :: (commaSeparated (itemChars items) ++ [']'])
  | obj fields =>
      '\x7b' ::
        (commaSeparated
          ((sortedOn Prod.fst (fieldChars fields)).map (fun f => strChars f.1 ++ ':' :: f.2)) ++
          ['\x7d'])

def itemChars : List Json → List (List Char)
  | [] => []
  | item :: items => item.chars :: itemChars items

def fieldChars : List (String × Json) → List (String × List Char)
  | [] => []
  | (key, value) :: fields => (key, value.chars) :: fieldChars fields

end

/-- Compact text with sorted keys. -/
def dumps (j : Json) : String := String.ofList j.chars

def strs (texts : List String) : Json := arr (texts.map str)

/-! ## Values delimit themselves -/

/-- The kind of a value, which its first character shows. -/
def kind : Json → Nat
  | null => 0
  | bool _ => 1
  | int _ => 2
  | str _ => 3
  | arr _ => 4
  | obj _ => 5

def kindOfChar (c : Char) : Nat :=
  if c = 'n' then 0
  else if c = 't' ∨ c = 'f' then 1
  else if c = '"' then 3
  else if c = '[' then 4
  else if c = '\x7b' then 5
  else 2

/-- The characters after a value inside a text. -/
def IsStop (c : Char) : Prop := c = ',' ∨ c = ']' ∨ c = '\x7d'

def Ends (rest : List Char) : Prop := ∀ c ∈ rest.head?, IsStop c

lemma int_char {n : Int} {c : Char} (hc : c ∈ (toString n).toList) : c = '-' ∨ c.isDigit = true := by
  cases n with
  | ofNat n =>
      have hn : (toString (Int.ofNat n)).toList = Nat.toDigits 10 n := by
        simp [toString, Int.repr, Nat.repr]
      rw [hn] at hc
      exact Or.inr (Nat.isDigit_of_mem_toDigits (by decide) (by decide) hc)
  | negSucc n =>
      have hn : (toString (Int.negSucc n)).toList = '-' :: Nat.toDigits 10 (n + 1) := by
        simp [toString, Int.repr, Nat.repr]
      rw [hn] at hc
      rcases List.mem_cons.1 hc with rfl | hc
      · exact Or.inl rfl
      · exact Or.inr (Nat.isDigit_of_mem_toDigits (by decide) (by decide) hc)

lemma int_ne_nil (n : Int) : (toString n).toList ≠ [] := by
  cases n with
  | ofNat n =>
      have hn : (toString (Int.ofNat n)).toList = Nat.toDigits 10 n := by
        simp [toString, Int.repr, Nat.repr]
      rw [hn]
      exact Nat.toDigits_ne_nil
  | negSucc n => simp [toString, Int.repr]

lemma isDigit_ne {c d : Char} (hd : d.isDigit = false) (hc : c.isDigit = true) : c ≠ d := by
  rintro rfl
  simp [hd] at hc

/-- A value starts with a character of its kind, and not with a stop. -/
lemma chars_eq_cons (j : Json) :
    ∃ c cs, j.chars = c :: cs ∧ kindOfChar c = j.kind ∧ ¬IsStop c := by
  cases j with
  | null => exact ⟨'n', "ull".toList, rfl, rfl, by simp [IsStop]⟩
  | bool b =>
      cases b with
      | true => exact ⟨'t', "rue".toList, rfl, rfl, by simp [IsStop]⟩
      | false => exact ⟨'f', "alse".toList, rfl, rfl, by simp [IsStop]⟩
  | int n =>
      rcases List.exists_cons_of_ne_nil (int_ne_nil n) with ⟨c, cs, hn⟩
      refine ⟨c, cs, by rw [chars, hn], ?_, ?_⟩
      · rcases int_char (hn ▸ List.mem_cons_self) with rfl | hdigit
        · rfl
        · simp [kindOfChar, kind, isDigit_ne _ hdigit]
      · rcases int_char (hn ▸ List.mem_cons_self) with rfl | hdigit
        · simp [IsStop]
        · simp [IsStop, isDigit_ne _ hdigit]
  | str s => exact ⟨'"', _, by rw [chars, strChars], rfl, by simp [IsStop]⟩
  | arr items => exact ⟨'[', _, by rw [chars], rfl, by simp [IsStop]⟩
  | obj fields => exact ⟨'\x7b', _, by rw [chars], rfl, by simp [IsStop]⟩

/-- Texts without stops end where a stop follows. -/
lemma append_inj_of_ends {xs ys r r' : List Char} (hx : ∀ c ∈ xs, ¬IsStop c)
    (hy : ∀ c ∈ ys, ¬IsStop c) (hr : Ends r) (hr' : Ends r') :
    xs ++ r = ys ++ r' → xs = ys ∧ r = r' := by
  induction xs generalizing ys with
  | nil =>
      intro h
      cases ys with
      | nil => exact ⟨rfl, h⟩
      | cons y ys =>
          have hhead : y ∈ r.head? := by rw [show r = y :: (ys ++ r') from h]; rfl
          exact absurd (hr y hhead) (hy y List.mem_cons_self)
  | cons x xs ih =>
      intro h
      cases ys with
      | nil =>
          have hhead : x ∈ r'.head? := by rw [← show x :: (xs ++ r) = r' from h]; rfl
          exact absurd (hr' x hhead) (hx x List.mem_cons_self)
      | cons y ys =>
          rcases List.cons.inj h with ⟨rfl, htail⟩
          rcases ih (fun c hc => hx c (List.mem_cons_of_mem _ hc))
            (fun c hc => hy c (List.mem_cons_of_mem _ hc)) htail with ⟨rfl, hrest⟩
          exact ⟨rfl, hrest⟩

/-- A piece of text whose end is seen from what follows, against pieces of a list. -/
def Delimited (p : List Char) (qs : List (List Char)) : Prop :=
  ∀ q ∈ qs, ∀ r r', Ends r → Ends r' → p ++ r = q ++ r' → p = q ∧ r = r'

/-- A piece that is not blank and does not start with a stop. -/
def Starts (p : List Char) : Prop := ∃ c cs, p = c :: cs ∧ ¬IsStop c

lemma commaSeparated_cons_cons (p q : List Char) (ps : List (List Char)) :
    commaSeparated (p :: q :: ps) = p ++ ',' :: commaSeparated (q :: ps) := by
  simp [commaSeparated]

lemma commaSeparated_singleton (p : List Char) : commaSeparated [p] = p := by
  simp [commaSeparated]

lemma Starts.append_ne {p : List Char} (h : Starts p) {c : Char} (hc : IsStop c)
    (r r' : List Char) : p ++ r ≠ c :: r' := by
  rintro heq
  rcases h with ⟨d, ds, rfl, hd⟩
  rcases List.cons.inj heq with ⟨rfl, _⟩
  exact hd hc

/-- A list of delimited pieces ends at its closing bracket. -/
lemma commaSeparated_append_inj {stop : Char} (hstop : IsStop stop) (hcomma : stop ≠ ',') :
    ∀ ps qs : List (List Char), (∀ p ∈ ps, Delimited p qs) → (∀ p ∈ ps, Starts p) →
      (∀ q ∈ qs, Starts q) → ∀ r r', commaSeparated ps ++ stop :: r = commaSeparated qs ++ stop :: r' →
        ps = qs ∧ r = r' := by
  have hends : ∀ r : List Char, Ends (stop :: r) := by
    intro r c hc
    simpa using (Option.mem_some_iff.1 hc) ▸ hstop
  have hends' : ∀ r : List Char, Ends (',' :: r) := by
    intro r c hc
    exact (Option.mem_some_iff.1 hc) ▸ Or.inl rfl
  intro ps
  induction ps with
  | nil =>
      intro qs _ _ hq r r' h
      cases qs with
      | nil => exact ⟨rfl, (List.cons.inj h).2⟩
      | cons q qs =>
          have hne := (hq q List.mem_cons_self).append_ne hstop
          cases qs with
          | nil =>
              rw [commaSeparated_singleton] at h
              exact absurd h.symm (hne _ _)
          | cons q' qs =>
              rw [commaSeparated_cons_cons, List.append_assoc] at h
              exact absurd h.symm (hne _ _)
  | cons p ps ih =>
      intro qs hdel hp hq r r' h
      cases qs with
      | nil =>
          have hne := (hp p List.mem_cons_self).append_ne hstop
          cases ps with
          | nil =>
              rw [commaSeparated_singleton] at h
              exact absurd h (hne _ _)
          | cons p' ps =>
              rw [commaSeparated_cons_cons, List.append_assoc] at h
              exact absurd h (hne _ _)
      | cons q qs =>
          have hpq := hdel p List.mem_cons_self q List.mem_cons_self
          cases ps with
          | nil =>
              cases qs with
              | nil =>
                  rw [commaSeparated_singleton, commaSeparated_singleton] at h
                  rcases hpq _ _ (hends r) (hends r') h with ⟨rfl, hrest⟩
                  exact ⟨rfl, (List.cons.inj hrest).2⟩
              | cons q' qs =>
                  rw [commaSeparated_singleton, commaSeparated_cons_cons, List.append_assoc] at h
                  have hrest := (hpq _ _ (hends r) (hends' _) h).2
                  exact absurd (List.cons.inj hrest).1 hcomma
          | cons p' ps =>
              cases qs with
              | nil =>
                  rw [commaSeparated_singleton, commaSeparated_cons_cons, List.append_assoc] at h
                  have hrest := (hpq _ _ (hends' _) (hends r') h).2
                  exact absurd (List.cons.inj hrest).1.symm hcomma
              | cons q' qs =>
                  rw [commaSeparated_cons_cons, commaSeparated_cons_cons, List.append_assoc,
                    List.append_assoc] at h
                  rcases hpq _ _ (hends' _) (hends' _) h with ⟨rfl, hrest⟩
                  rcases ih (q' :: qs)
                    (fun x hx y hy => hdel x (List.mem_cons_of_mem _ hx) y
                      (List.mem_cons_of_mem _ hy))
                    (fun x hx => hp x (List.mem_cons_of_mem _ hx))
                    (fun y hy => hq y (List.mem_cons_of_mem _ hy)) r r'
                    (List.cons.inj hrest).2 with ⟨htail, hr⟩
                  exact ⟨by rw [htail], hr⟩

lemma itemChars_eq_map (items : List Json) : itemChars items = items.map chars := by
  induction items with
  | nil => rfl
  | cons item items ih => rw [itemChars, ih, List.map_cons]

lemma fieldChars_eq_map (fields : List (String × Json)) :
    fieldChars fields = fields.map (fun f => (f.1, f.2.chars)) := by
  induction fields with
  | nil => rfl
  | cons f fields ih => rw [fieldChars, ih, List.map_cons]

/-- The text of one field. -/
def fieldPiece (f : String × List Char) : List Char := strChars f.1 ++ ':' :: f.2

lemma starts_chars (j : Json) : Starts j.chars := by
  rcases chars_eq_cons j with ⟨c, cs, h, _, hc⟩
  exact ⟨c, cs, h, hc⟩

lemma starts_fieldPiece (f : String × List Char) : Starts (fieldPiece f) :=
  ⟨'"', _, by rw [fieldPiece, strChars, List.cons_append], by simp [IsStop]⟩

/-- A value whose text ends where it ends, against every other value. -/
def SelfDelimiting (j : Json) : Prop :=
  ∀ (k : Json) (r r' : List Char), Ends r → Ends r' → j.chars ++ r = k.chars ++ r' →
    j.chars = k.chars ∧ r = r'

lemma kind_eq_of_append {j k : Json} {r r' : List Char} (h : j.chars ++ r = k.chars ++ r') :
    j.kind = k.kind := by
  rcases chars_eq_cons j with ⟨c, cs, hj, hc, _⟩
  rcases chars_eq_cons k with ⟨d, ds, hk, hd, _⟩
  rw [hj, hk] at h
  rw [← hc, ← hd, (List.cons.inj h).1]

lemma items_append_inj {items items' : List Json} (hitems : ∀ item ∈ items, SelfDelimiting item)
    {r r' : List Char}
    (h : commaSeparated (items.map chars) ++ ']' :: r =
      commaSeparated (items'.map chars) ++ ']' :: r') :
    items.map chars = items'.map chars ∧ r = r' := by
  have hdel : ∀ p ∈ items.map chars, Delimited p (items'.map chars) := by
    intro p hp q hq r r' hr hr' heq
    rcases List.mem_map.1 hp with ⟨item, hitem, rfl⟩
    rcases List.mem_map.1 hq with ⟨item', _, rfl⟩
    exact hitems item hitem item' r r' hr hr' heq
  have hstart : ∀ items : List Json, ∀ p ∈ items.map chars, Starts p := by
    intro items p hp
    rcases List.mem_map.1 hp with ⟨item, _, rfl⟩
    exact starts_chars item
  exact commaSeparated_append_inj (Or.inr (Or.inl rfl)) (by decide) _ _ hdel (hstart items)
    (hstart items') r r' h

lemma selfDelimiting_arr {items : List Json} (hitems : ∀ item ∈ items, SelfDelimiting item) :
    SelfDelimiting (arr items) := by
  intro k r r' _ _ h
  have hkind := kind_eq_of_append h
  cases k <;> simp [kind] at hkind
  rename_i items'
  simp only [chars, itemChars_eq_map, List.cons_append, List.append_assoc, List.nil_append,
    List.cons.injEq, true_and] at h ⊢
  rcases items_append_inj hitems h with ⟨heq, hr⟩
  exact ⟨by rw [heq], hr⟩

lemma sortedFields_eq (fields : List (String × Json)) :
    (obj fields).chars =
      '\x7b' ::
        (commaSeparated ((sortedOn Prod.fst (fieldChars fields)).map fieldPiece) ++ ['\x7d']) := by
  rw [chars]
  rfl

lemma mem_sortedFields {fields : List (String × Json)} {f : String × List Char} :
    f ∈ sortedOn Prod.fst (fieldChars fields) ↔ ∃ g ∈ fields, f = (g.1, g.2.chars) := by
  rw [mem_sortedOn, fieldChars_eq_map, List.mem_map]
  exact exists_congr (fun g => and_congr_right (fun _ => eq_comm))

lemma fieldPieces_append_inj {fields fields' : List (String × Json)}
    (hfields : ∀ f ∈ fields, SelfDelimiting f.2) {r r' : List Char}
    (h : commaSeparated ((sortedOn Prod.fst (fieldChars fields)).map fieldPiece) ++ '\x7d' :: r =
      commaSeparated ((sortedOn Prod.fst (fieldChars fields')).map fieldPiece) ++ '\x7d' :: r') :
    sortedOn Prod.fst (fieldChars fields) = sortedOn Prod.fst (fieldChars fields') ∧ r = r' := by
  have hpiece : ∀ f ∈ sortedOn Prod.fst (fieldChars fields),
      ∀ g ∈ sortedOn Prod.fst (fieldChars fields'), ∀ r r', Ends r → Ends r' →
        fieldPiece f ++ r = fieldPiece g ++ r' → f = g ∧ r = r' := by
    intro f hf g hg r r' hr hr' heq
    rcases mem_sortedFields.1 hf with ⟨source, hsource, rfl⟩
    rcases mem_sortedFields.1 hg with ⟨source', _, rfl⟩
    simp only [fieldPiece, List.append_assoc, List.cons_append] at heq
    rcases strChars_append_inj heq with ⟨hkey, hvalue⟩
    rcases hfields source hsource source'.2 r r' hr hr' (List.cons.inj hvalue).2 with
      ⟨hchars, hrest⟩
    exact ⟨Prod.ext hkey hchars, hrest⟩
  have hdel : ∀ p ∈ (sortedOn Prod.fst (fieldChars fields)).map fieldPiece,
      Delimited p ((sortedOn Prod.fst (fieldChars fields')).map fieldPiece) := by
    intro p hp q hq r r' hr hr' heq
    rcases List.mem_map.1 hp with ⟨f, hf, rfl⟩
    rcases List.mem_map.1 hq with ⟨g, hg, rfl⟩
    rcases hpiece f hf g hg r r' hr hr' heq with ⟨rfl, hrest⟩
    exact ⟨rfl, hrest⟩
  have hstart : ∀ fs : List (String × List Char), ∀ p ∈ fs.map fieldPiece, Starts p := by
    intro fs p hp
    rcases List.mem_map.1 hp with ⟨f, _, rfl⟩
    exact starts_fieldPiece f
  rcases commaSeparated_append_inj (Or.inr (Or.inr rfl)) (by decide) _ _ hdel (hstart _)
    (hstart _) r r' h with ⟨hpieces, hr⟩
  refine ⟨?_, hr⟩
  -- equal pieces are equal fields
  have hend : Ends [] := by
    intro c hc
    cases hc
  refine List.ext_getElem (by simpa using congrArg List.length hpieces) ?_
  intro n hn hn'
  have heq := List.getElem_of_eq hpieces (by simpa using hn)
  simp only [List.getElem_map] at heq
  exact (hpiece _ (List.getElem_mem hn) _ (List.getElem_mem hn') [] [] hend hend
    (by rw [heq])).1

lemma selfDelimiting_obj {fields : List (String × Json)}
    (hfields : ∀ f ∈ fields, SelfDelimiting f.2) : SelfDelimiting (obj fields) := by
  intro k r r' _ _ h
  have hkind := kind_eq_of_append h
  cases k <;> simp [kind] at hkind
  rename_i fields'
  rw [sortedFields_eq, sortedFields_eq] at h ⊢
  simp only [List.cons_append, List.append_assoc, List.nil_append, List.cons.injEq,
    true_and] at h
  rcases fieldPieces_append_inj hfields h with ⟨heq, hr⟩
  exact ⟨by rw [heq], hr⟩

/-- Every value delimits itself. -/
theorem selfDelimiting (j : Json) : SelfDelimiting j := by
  refine @Json.rec SelfDelimiting (fun items => ∀ item ∈ items, SelfDelimiting item)
    (fun fields => ∀ f ∈ fields, SelfDelimiting f.2) (fun f => SelfDelimiting f.2)
    ?_ ?_ ?_ ?_ ?_ ?_ ?_ ?_ ?_ ?_ ?_ j
  · intro k r r' _ _ h
    have hkind := kind_eq_of_append h
    cases k <;> simp [kind] at hkind
    exact ⟨rfl, by simpa [chars] using h⟩
  · intro b k r r' _ _ h
    have hkind := kind_eq_of_append h
    cases k <;> simp [kind] at hkind
    rename_i b'
    cases b <;> cases b' <;> simp [chars] at h ⊢ <;> exact h
  · intro n k r r' hr hr' h
    have hkind := kind_eq_of_append h
    cases k <;> simp [kind] at hkind
    rename_i m
    have hstop : ∀ n : Int, ∀ c ∈ (toString n).toList, ¬IsStop c := by
      intro n c hc
      rcases int_char hc with rfl | hdigit
      · simp [IsStop]
      · simp [IsStop, isDigit_ne _ hdigit]
    exact append_inj_of_ends (hstop n) (hstop m) hr hr' h
  · intro s k r r' _ _ h
    have hkind := kind_eq_of_append h
    cases k <;> simp [kind] at hkind
    rcases strChars_append_inj h with ⟨rfl, hr⟩
    exact ⟨rfl, hr⟩
  · exact fun items ih => selfDelimiting_arr ih
  · exact fun fields ih => selfDelimiting_obj ih
  · exact fun item hitem => absurd hitem List.not_mem_nil
  · intro item items ih ih' x hx
    rcases List.mem_cons.1 hx with rfl | hx
    · exact ih
    · exact ih' x hx
  · exact fun f hf => absurd hf List.not_mem_nil
  · intro f fields ih ih' x hx
    rcases List.mem_cons.1 hx with rfl | hx
    · exact ih
    · exact ih' x hx
  · exact fun _ _ ih => ih

/-- Arrays of one text have items of one text. -/
theorem itemChars_inj {items items' : List Json} (h : (arr items).chars = (arr items').chars) :
    items.map chars = items'.map chars := by
  simp only [chars, itemChars_eq_map, List.cons.injEq, true_and] at h
  exact (items_append_inj (fun item _ => selfDelimiting item) h).1

/-- In objects of one text, a key that occurs once has values of one text. -/
theorem fieldChars_inj {fields fields' : List (String × Json)}
    (h : (obj fields).chars = (obj fields').chars) (hnd : (fields'.map Prod.fst).Nodup)
    {key : String} {value value' : Json} (hvalue : (key, value) ∈ fields)
    (hvalue' : (key, value') ∈ fields') : value.chars = value'.chars := by
  rw [sortedFields_eq, sortedFields_eq] at h
  have hsorted := (fieldPieces_append_inj (fun f _ => selfDelimiting f.2)
    (List.cons.inj h).2).1
  have hmem : (key, value.chars) ∈ sortedOn Prod.fst (fieldChars fields) :=
    mem_sortedFields.2 ⟨(key, value), hvalue, rfl⟩
  rw [hsorted] at hmem
  rcases mem_sortedFields.1 hmem with ⟨f, hf, heq⟩
  have hsame : f = (key, value') := by
    refine List.inj_on_of_nodup_map hnd hf hvalue' ?_
    exact (Prod.mk.inj heq).1.symm
  rw [(Prod.mk.inj heq).2, hsame]

end Json

end Data
end Tallylot
