import Tallylot.Captures.Milliseconds
import Tallylot.Data.Decoding
import Tallylot.Data.Radix

/-!
# Identity — capture uids

A capture uid shows a millisecond and ten random bytes as 26 digits of base 32.  The text decides
both, and texts sort by the millisecond, then by the bytes.  The millisecond shown is computed with
doubles, so the uids of two times sort as the times do only where the doubles keep them apart
(`captureUids_sort_iff`): two milliseconds of a day in 2038 have one uid (`one_uid_in_2038`).
-/

namespace Tallylot
namespace Captures

open Data

/-- `_CROCKFORD_BASE32` -/
def crockfordBase32 : List Char := "0123456789ABCDEFGHJKMNPQRSTVWXYZ".toList

def ulidLength : Nat := 26

def randomnessBytes : Nat := 10

def timestampBits : Nat := 48

def randomnessBits : Nat := 80

/-- `int.from_bytes(entropy, byteorder="big")` -/
def fromBytes (entropy : List UInt8) : Nat := Radix.ofDigits 256 (entropy.map UInt8.toNat)

/-- `_CROCKFORD_BASE32[index]` -/
def crockfordDigit (index : Nat) : Char := crockfordBase32.getD index '0'

/-- `generate_capture_uid`, with the bytes that were given or drawn. -/
def generateCaptureUid (now : Instant) (entropy : List UInt8) : Decoded String := do
  require (timestampMs now < 2 ^ timestampBits) "capture_uid timestamp exceeds ULID range"
  require (entropy.length = randomnessBytes) "capture_uid randomness must be exactly 10 bytes"
  -- The shifted milliseconds have no bits where the bytes stand.
  let value := timestampMs now * 2 ^ randomnessBits + fromBytes entropy
  return String.ofList ((List.range ulidLength).reverse.map
    (fun shift => crockfordDigit (value / 2 ^ (5 * shift) % 32).toNat))

def isCaptureUid (value : String) : Bool :=
  value.length = ulidLength && value.toList.all (fun c => c ∈ crockfordBase32)

/-! ## The digits of a uid -/

lemma length_crockfordBase32 : crockfordBase32.length = 32 := by decide

/-- The alphabet is in order. -/
lemma crockford_sorted : ∀ i j : Fin 32,
    (crockfordDigit i < crockfordDigit j ↔ i < j) ∧ (crockfordDigit i = crockfordDigit j ↔ i = j) := by
  decide +kernel

lemma crockfordDigit_mem {index : Nat} (h : index < 32) : crockfordDigit index ∈ crockfordBase32 := by
  rw [← length_crockfordBase32] at h
  rw [crockfordDigit, List.getD_eq_getElem?_getD, List.getElem?_eq_getElem h, Option.getD_some]
  exact List.getElem_mem h

/-- The number that a uid spells. -/
def uidValue (ms : Nat) (entropy : List UInt8) : Nat := ms * 2 ^ randomnessBits + fromBytes entropy

def uidText (value : Nat) : String :=
  String.ofList ((Radix.digits 32 ulidLength value).map crockfordDigit)

section

variable {ms ms' : Nat} {entropy entropy' : List UInt8}

lemma bytes_lt (entropy : List UInt8) : ∀ d ∈ entropy.map UInt8.toNat, d < 256 := by
  intro d hd
  rcases List.mem_map.1 hd with ⟨byte, _, rfl⟩
  exact byte.toNat_lt

lemma fromBytes_lt (h : entropy.length = randomnessBytes) : fromBytes entropy < 2 ^ randomnessBits := by
  have hlt := Radix.ofDigits_lt (by decide) (bytes_lt entropy)
  rw [List.length_map, h] at hlt
  exact hlt

lemma uidValue_lt (hms : ms < 2 ^ timestampBits) (h : entropy.length = randomnessBytes) :
    uidValue ms entropy < 32 ^ ulidLength := by
  have hbytes := fromBytes_lt h
  have hsize : 2 ^ timestampBits * 2 ^ randomnessBits ≤ 32 ^ ulidLength := by decide
  calc
    uidValue ms entropy < ms * 2 ^ randomnessBits + 2 ^ randomnessBits := Nat.add_lt_add_left hbytes _
    _ = (ms + 1) * 2 ^ randomnessBits := (Nat.succ_mul ms _).symm
    _ ≤ 2 ^ timestampBits * 2 ^ randomnessBits := Nat.mul_le_mul_right _ hms
    _ ≤ 32 ^ ulidLength := hsize

lemma uidValue_div (h : entropy.length = randomnessBytes) :
    uidValue ms entropy / 2 ^ randomnessBits = ms := by
  rw [uidValue, Nat.mul_comm, Nat.mul_add_div (by decide), Nat.div_eq_of_lt (fromBytes_lt h),
    Nat.add_zero]

lemma uidValue_mod (h : entropy.length = randomnessBytes) :
    uidValue ms entropy % 2 ^ randomnessBits = fromBytes entropy := by
  rw [uidValue, Nat.mul_comm, Nat.mul_add_mod, Nat.mod_eq_of_lt (fromBytes_lt h)]

lemma fromBytes_lt_iff (h : entropy.length = randomnessBytes)
    (h' : entropy'.length = randomnessBytes) :
    fromBytes entropy < fromBytes entropy' ↔ entropy < entropy' := by
  rw [fromBytes, fromBytes, Radix.ofDigits_lt_iff (by decide) (by simp [h, h']) (bytes_lt entropy)
    (bytes_lt entropy')]
  refine Radix.map_lt_map_iff (fun x _ y _ => UInt8.lt_iff_toNat_lt.symm) (fun x _ y _ => ?_)
  exact UInt8.toNat_inj

lemma fromBytes_inj (h : entropy.length = randomnessBytes) (h' : entropy'.length = randomnessBytes) :
    fromBytes entropy = fromBytes entropy' ↔ entropy = entropy' := by
  constructor
  · intro heq
    have hbytes := Radix.digits_ofDigits (by decide) (bytes_lt entropy)
    have hbytes' := Radix.digits_ofDigits (by decide) (bytes_lt entropy')
    rw [List.length_map, h] at hbytes
    rw [List.length_map, h'] at hbytes'
    have hmap : entropy.map UInt8.toNat = entropy'.map UInt8.toNat := by
      rw [← hbytes, ← hbytes']
      exact congrArg (Radix.digits 256 randomnessBytes) heq
    exact List.map_injective_iff.2 (fun _ _ => UInt8.toNat_inj.1) hmap
  · rintro rfl
    rfl

lemma uidValue_inj (h : entropy.length = randomnessBytes) (h' : entropy'.length = randomnessBytes) :
    uidValue ms entropy = uidValue ms' entropy' ↔ ms = ms' ∧ entropy = entropy' := by
  constructor
  · intro heq
    have hdiv := congrArg (fun value => value / 2 ^ randomnessBits) heq
    have hmod := congrArg (fun value => value % 2 ^ randomnessBits) heq
    rw [uidValue_div h, uidValue_div h'] at hdiv
    rw [uidValue_mod h, uidValue_mod h', fromBytes_inj h h'] at hmod
    exact ⟨hdiv, hmod⟩
  · rintro ⟨rfl, rfl⟩
    rfl

/-- Numbers of uids compare by their milliseconds, then by their bytes. -/
lemma uidValue_lt_iff (h : entropy.length = randomnessBytes) (h' : entropy'.length = randomnessBytes) :
    uidValue ms entropy < uidValue ms' entropy' ↔ ms < ms' ∨ ms = ms' ∧ entropy < entropy' := by
  rw [Radix.lt_iff_div_mod (2 ^ randomnessBits), uidValue_div h, uidValue_div h',
    uidValue_mod h, uidValue_mod h', fromBytes_lt_iff h h']

lemma crockford_lt_iff {i j : Nat} (hi : i < 32) (hj : j < 32) :
    (crockfordDigit i < crockfordDigit j ↔ i < j) ∧ (crockfordDigit i = crockfordDigit j ↔ i = j) := by
  have hsorted := crockford_sorted ⟨i, hi⟩ ⟨j, hj⟩
  exact ⟨hsorted.1, hsorted.2.trans Fin.mk_eq_mk⟩

/-- Uids sort like their numbers. -/
theorem uidText_lt_iff {a b : Nat} (ha : a < 32 ^ ulidLength) (hb : b < 32 ^ ulidLength) :
    uidText a < uidText b ↔ a < b := by
  rw [uidText, uidText, String.lt_iff_toList_lt, String.toList_ofList, String.toList_ofList,
    ← Radix.digits_lt_iff ha hb]
  refine Radix.map_lt_map_iff (fun i hi j hj => ?_) (fun i hi j hj => ?_)
  · exact (crockford_lt_iff (Radix.mem_digits_lt (by decide) hi) (Radix.mem_digits_lt (by decide) hj)).1
  · exact (crockford_lt_iff (Radix.mem_digits_lt (by decide) hi) (Radix.mem_digits_lt (by decide) hj)).2

theorem uidText_inj {a b : Nat} (ha : a < 32 ^ ulidLength) (hb : b < 32 ^ ulidLength) :
    uidText a = uidText b ↔ a = b := by
  constructor
  · intro heq
    rcases Nat.lt_trichotomy a b with hlt | hab | hlt
    · exact absurd ((uidText_lt_iff ha hb).2 hlt) (heq ▸ String.lt_irrefl _)
    · exact hab
    · exact absurd ((uidText_lt_iff hb ha).2 hlt) (heq ▸ String.lt_irrefl _)
  · rintro rfl
    rfl

lemma isCaptureUid_uidText (value : Nat) : isCaptureUid (uidText value) = true := by
  rw [isCaptureUid, uidText, String.length_ofList, List.length_map, Radix.length_digits,
    String.toList_ofList, Bool.and_eq_true, List.all_eq_true]
  refine ⟨decide_eq_true rfl, fun c hc => decide_eq_true ?_⟩
  rcases List.mem_map.1 hc with ⟨index, hindex, rfl⟩
  exact crockfordDigit_mem (Radix.mem_digits_lt (by decide) hindex)

/-- A uid spells the number of its milliseconds and bytes. -/
lemma generateCaptureUid_eq {now : Instant} (hepoch : 0 ≤ timestampMs now)
    (hms : timestampMs now < 2 ^ timestampBits) (h : entropy.length = randomnessBytes) :
    generateCaptureUid now entropy = .ok (uidText (uidValue (timestampMs now).toNat entropy)) := by
  have hvalue : timestampMs now * 2 ^ randomnessBits + (fromBytes entropy : Int) =
      (uidValue (timestampMs now).toNat entropy : Nat) := by
    rw [uidValue]
    push_cast
    rw [Int.toNat_of_nonneg hepoch]
  have hdigit : ∀ shift, ((uidValue (timestampMs now).toNat entropy : Int) / 2 ^ (5 * shift) % 32).toNat =
      uidValue (timestampMs now).toNat entropy / 32 ^ shift % 32 := by
    intro shift
    have hpow : (2 : Int) ^ (5 * shift) = ((32 ^ shift : Nat) : Int) := by
      rw [pow_mul]
      push_cast
      rfl
    rw [hpow]
    exact_mod_cast Int.toNat_natCast _
  have hdigits : (List.range ulidLength).reverse.map (fun shift =>
        crockfordDigit ((timestampMs now * 2 ^ randomnessBits + (fromBytes entropy : Int)) /
          2 ^ (5 * shift) % 32).toNat) =
      (Radix.digits 32 ulidLength (uidValue (timestampMs now).toNat entropy)).map crockfordDigit := by
    rw [Radix.digits_eq_map, List.map_map]
    refine List.map_congr_left (fun shift _ => ?_)
    rw [hvalue, hdigit, Function.comp_apply]
  refine bind_eq_ok_iff.2 ⟨(), require_eq_ok_iff.2 hms, bind_eq_ok_iff.2 ⟨(), require_eq_ok_iff.2 h, ?_⟩⟩
  dsimp only
  rw [hdigits]
  rfl

/-- No time is too late for a uid. -/
lemma timestampMs_bounds {now : Instant} (hepoch : epoch ≤ now) :
    0 ≤ timestampMs now ∧ timestampMs now < 2 ^ timestampBits := by
  have hlast := sinceEpoch_lt now
  have hms := timestampMs_eq hepoch
  have hstart : timestampMs epoch = 0 := by decide +kernel
  have hle := timestampMs_mono (le_refl epoch) hepoch
  rw [milliseconds] at hms
  have hshift : shift now ≤ 1 := by
    rw [shift]
    split_ifs <;> decide
  rw [timestampBits]
  omega

/-- Uids are accepted, and sort as the milliseconds that they show, then as their bytes. -/
lemma captureUids_spec {now now' : Instant} (hepoch : epoch ≤ now) (hepoch' : epoch ≤ now')
    (h : entropy.length = randomnessBytes) (h' : entropy'.length = randomnessBytes) :
    ∃ uid uid', generateCaptureUid now entropy = .ok uid ∧ generateCaptureUid now' entropy' = .ok uid' ∧
      isCaptureUid uid = true ∧ isCaptureUid uid' = true ∧
        (uid = uid' ↔ timestampMs now = timestampMs now' ∧ entropy = entropy') ∧
          (uid < uid' ↔ timestampMs now < timestampMs now' ∨
            timestampMs now = timestampMs now' ∧ entropy < entropy') := by
  rcases timestampMs_bounds hepoch with ⟨hnonneg, hms⟩
  rcases timestampMs_bounds hepoch' with ⟨hnonneg', hms'⟩
  have hlt : (timestampMs now).toNat < 2 ^ timestampBits := (Int.toNat_lt hnonneg).2 hms
  have hlt' : (timestampMs now').toNat < 2 ^ timestampBits := (Int.toNat_lt hnonneg').2 hms'
  have hsize := uidValue_lt hlt h
  have hsize' := uidValue_lt hlt' h'
  refine ⟨_, _, generateCaptureUid_eq hnonneg hms h, generateCaptureUid_eq hnonneg' hms' h',
    isCaptureUid_uidText _, isCaptureUid_uidText _, ?_, ?_⟩
  · have heq : (timestampMs now).toNat = (timestampMs now').toNat ↔
        timestampMs now = timestampMs now' := by omega
    rw [uidText_inj hsize hsize', uidValue_inj h h', heq]
  · have heq : (timestampMs now).toNat = (timestampMs now').toNat ↔
        timestampMs now = timestampMs now' := by omega
    have horder : (timestampMs now).toNat < (timestampMs now').toNat ↔
        timestampMs now < timestampMs now' := by omega
    rw [uidText_lt_iff hsize hsize', uidValue_lt_iff h h', heq, horder]

end

/-! ## Uids and times -/

section

variable {now now' : Instant}

/-- The uids of two times, with any bytes: both are accepted, equal uids have equal milliseconds and
bytes, and uids sort by the milliseconds, then by the bytes. -/
def UidsSort (now now' : Instant) : Prop :=
  ∀ entropy entropy' : List UInt8, entropy.length = randomnessBytes →
    entropy'.length = randomnessBytes →
      ∃ uid uid', generateCaptureUid now entropy = .ok uid ∧
        generateCaptureUid now' entropy' = .ok uid' ∧ isCaptureUid uid = true ∧ isCaptureUid uid' = true ∧
          (uid = uid' ↔ milliseconds now = milliseconds now' ∧ entropy = entropy') ∧
            (uid < uid' ↔ milliseconds now < milliseconds now' ∨
              milliseconds now = milliseconds now' ∧ entropy < entropy')

/-- Where the shifts keep two milliseconds apart, they keep their order. -/
lemma timestampMs_lt_iff (hepoch : epoch ≤ now) (hepoch' : epoch ≤ now')
    (h : timestampMs now = timestampMs now' ↔ milliseconds now = milliseconds now') :
    timestampMs now < timestampMs now' ↔ milliseconds now < milliseconds now' := by
  have hmono : ∀ {t u : Instant}, t ≤ u → milliseconds t ≤ milliseconds u := by
    intro t u hle
    have hsince := sub_le_sub_right (Instant.microseconds_le_iff.2 hle) epoch.microseconds
    exact Int.ediv_le_ediv (by decide) hsince
  rcases le_total now now' with hle | hle
  · have hshown := timestampMs_mono hepoch hle
    have hown := hmono hle
    omega
  · have hshown := timestampMs_mono hepoch' hle
    have hown := hmono hle
    omega

/-- The uids of two times sort as the times do exactly when the shifted milliseconds are equal just
where the milliseconds are. -/
theorem captureUids_sort_iff (hepoch : epoch ≤ now) (hepoch' : epoch ≤ now') :
    UidsSort now now' ↔
      (milliseconds now + shift now = milliseconds now' + shift now' ↔
        milliseconds now = milliseconds now') := by
  rw [← timestampMs_eq hepoch, ← timestampMs_eq hepoch']
  constructor
  · intro h
    have hlength : (List.replicate 10 (0 : UInt8)).length = randomnessBytes := rfl
    rcases h _ _ hlength hlength with ⟨uid, uid', huid, huid', _, _, hown, _⟩
    rcases captureUids_spec hepoch hepoch' hlength hlength with ⟨_, _, hshow, hshow', _, _, hshown, _⟩
    rw [← Except.ok.inj (huid.symm.trans hshow), ← Except.ok.inj (huid'.symm.trans hshow'), hown]
      at hshown
    simpa using hshown.symm
  · intro h entropy entropy' hlength hlength'
    rcases captureUids_spec hepoch hepoch' hlength hlength' with
      ⟨uid, uid', huid, huid', haccepted, haccepted', heq, hlt⟩
    rw [h] at heq
    rw [h, timestampMs_lt_iff hepoch hepoch' h] at hlt
    exact ⟨uid, uid', huid, huid', haccepted, haccepted', heq, hlt⟩

/-- The last millisecond of a second, and the next one. -/
theorem leapDay_uids_sort :
    UidsSort ⟨2024, 2, 29, 23, 59, 59, 999999, by decide⟩ ⟨2024, 3, 1, 0, 0, 0, 0, by decide⟩ :=
  (captureUids_sort_iff (by decide +kernel) (by decide +kernel)).2 (by decide +kernel)

/-- `2165497250.430` seconds are a little more than their double, and its product with 1000 is rounded
below the millisecond. -/
theorem one_uid_in_2038 :
    ¬UidsSort ⟨2038, 8, 15, 15, 0, 50, 429000, by decide⟩ ⟨2038, 8, 15, 15, 0, 50, 430000, by decide⟩ ∧
      generateCaptureUid ⟨2038, 8, 15, 15, 0, 50, 429000, by decide⟩ (List.replicate 10 7) =
        generateCaptureUid ⟨2038, 8, 15, 15, 0, 50, 430000, by decide⟩ (List.replicate 10 7) := by
  have hms : timestampMs ⟨2038, 8, 15, 15, 0, 50, 429000, by decide⟩ =
      timestampMs ⟨2038, 8, 15, 15, 0, 50, 430000, by decide⟩ := by decide +kernel
  have hone : ∀ entropy,
      generateCaptureUid ⟨2038, 8, 15, 15, 0, 50, 429000, by decide⟩ entropy =
        generateCaptureUid ⟨2038, 8, 15, 15, 0, 50, 430000, by decide⟩ entropy := by
    intro entropy
    rw [generateCaptureUid, generateCaptureUid, hms]
  refine ⟨fun h => ?_, hone _⟩
  rcases h (List.replicate 10 7) (List.replicate 10 7) rfl rfl with
    ⟨uid, uid', huid, huid', _, _, heq, _⟩
  rw [hone] at huid
  have hsame := (heq.1 (Except.ok.inj (huid.symm.trans huid'))).1
  exact absurd hsame (by decide +kernel)

end

end Captures
end Tallylot
