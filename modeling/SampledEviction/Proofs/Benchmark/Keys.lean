import Mathlib.Data.Nat.Digits.Defs
import SampledEviction.Proofs.Benchmark.Parts

/-!
# The keys of a workload

A key is written over a buffer, digit by digit from its end, until the buffer is full; digits that
are left then are lost. A workload is accepted only if no number below its number of keys loses one:
short keys are checked for that, and keys of sixteen digits have room for any word.

* `toList_writeDigits` — what is written
* `valueOf?_writeKey` — what is read back
* `writeKey_distinct` — the keys of an accepted workload tell their numbers apart
* `exists_collision` — those of a workload whose keys are too short do not
-/

namespace SampledEviction.Benchmark

/-! ## Digits -/

/-- The last digits of a number to base 16, the very last one first. -/
def lowDigits : Nat → Nat → List Nat
  | 0, _ => []
  | count + 1, n => n % 16 :: lowDigits count (n / 16)

theorem lt_of_mem_lowDigits {count n d : Nat} (h : d ∈ lowDigits count n) : d < 16 := by
  induction count generalizing n with
  | zero => simp [lowDigits] at h
  | succ count ih =>
    rcases List.mem_cons.mp h with rfl | h
    · exact Nat.mod_lt _ (by decide)
    · exact ih h

theorem ofDigits_lowDigits (count n : Nat) :
    Nat.ofDigits 16 (lowDigits count n) = n % 16 ^ count := by
  induction count generalizing n with
  | zero => simp [lowDigits, Nat.mod_one]
  | succ count ih =>
    rw [lowDigits, Nat.ofDigits_cons, ih, Nat.pow_succ', Nat.mod_mul]

/-- The last digits of a number do not depend on those in front of them. -/
theorem lowDigits_mod (count n : Nat) : lowDigits count (n % 16 ^ count) = lowDigits count n := by
  induction count generalizing n with
  | zero => rfl
  | succ count ih =>
    rw [lowDigits, lowDigits, Nat.pow_succ', Nat.mod_mul_right_mod, Nat.mod_mul_right_div_self, ih]

/-! ## Writing -/

theorem toList_set! (buffer : Bytes) (i : Nat) (c : UInt8) :
    (buffer.set! i c).data.toList = buffer.data.toList.set i c :=
  Array.toList_setIfInBounds

/-- The digits stand in the order of the number; what stands behind them in the buffer is kept. -/
theorem toList_writeDigits {count : Nat} {buffer : Bytes} (h : count ≤ buffer.size) (n : Nat) :
    (writeDigits count n buffer).data.toList
      = (lowDigits count n).reverse.map hexDigit ++ buffer.data.toList.drop count := by
  induction count generalizing n buffer with
  | zero => rfl
  | succ count ih =>
    have hlt : count < buffer.data.toList.length := h
    have hrest : (buffer.data.toList.set count (hexDigit (n % 16))).drop count
        = hexDigit (n % 16) :: buffer.data.toList.drop (count + 1) := by
      rw [List.drop_set, if_neg (Nat.lt_irrefl _), Nat.sub_self, List.drop_eq_getElem_cons hlt,
        List.set_cons_zero]
    have hroom : count ≤ (buffer.set! count (hexDigit (n % 16))).size := by
      rw [ByteArray.size_set!]
      omega
    rw [writeDigits, ih hroom, toList_set!, hrest, lowDigits]
    simp

theorem toList_writeKey (id : Nat) (buffer : Bytes) :
    (writeKey id buffer).data.toList = (lowDigits buffer.size id).reverse.map hexDigit := by
  have hnothing : buffer.data.toList.drop buffer.size = [] := List.drop_length
  rw [writeKey, toList_writeDigits (Nat.le_refl _), hnothing, List.append_nil]

theorem toList_key (length id : Nat) :
    (key length id).data.toList = (lowDigits length id).reverse.map hexDigit := by
  have hsize : (ByteArray.mk (Array.replicate length 0)).size = length := Array.size_replicate
  rw [key, toList_writeKey, hsize]

/-- What the buffer held before does not matter. -/
theorem writeKey_eq_key (id : Nat) (buffer : Bytes) : writeKey id buffer = key buffer.size id := by
  refine ByteArray.ext (Array.toList_inj.mp ?_)
  rw [toList_writeKey, toList_key]

/-! ## Reading back -/

/-- The value of a hexadecimal digit in lower case. -/
def nibble? (c : UInt8) : Option Nat :=
  if 0x30 ≤ c ∧ c ≤ 0x39 then some (c.toNat - 0x30)
  else if 0x61 ≤ c ∧ c ≤ 0x66 then some (c.toNat - 0x61 + 10)
  else none

/-- The number that bytes stand for to base 16, if they are digits in lower case. -/
def valueOf? (b : Bytes) : Option Nat :=
  (b.data.toList.mapM nibble?).map fun digits => Nat.ofDigits 16 digits.reverse

theorem nibble?_hexDigit : ∀ d, d < 16 → nibble? (hexDigit d) = some d := by decide

theorem mapM_nibble?_hexDigit {digits : List Nat} (h : ∀ d ∈ digits, d < 16) :
    (digits.map hexDigit).mapM nibble? = some digits := by
  induction digits with
  | nil => rfl
  | cons d digits ih =>
    have hd := nibble?_hexDigit d (h d List.mem_cons_self)
    simp [hd, ih fun x hx => h x (List.mem_cons_of_mem _ hx)]

/-- A key is read back as its number, but for the digits that found no room. -/
theorem valueOf?_writeKey (id : Nat) (buffer : Bytes) :
    valueOf? (writeKey id buffer) = some (id % 16 ^ buffer.size) := by
  have hdigits : ∀ d ∈ (lowDigits buffer.size id).reverse, d < 16 := fun d hd =>
    lt_of_mem_lowDigits (List.mem_reverse.mp hd)
  rw [valueOf?, toList_writeKey, mapM_nibble?_hexDigit hdigits, Option.map_some,
    List.reverse_reverse, ofDigits_lowDigits]

/-! ## Workloads -/

theorem keyCount_eq (length : Nat) : keyCount length = 16 ^ length := by
  induction length with
  | zero => rfl
  | succ length ih => rw [keyCount, ih, Nat.pow_succ]

/-- An accepted workload has no more keys than there are hexadecimal numbers of their length. -/
theorem Workload.Accepted.keys_le {w : Workload} (h : w.Accepted) (hword : w.keys ≤ Word.modulus) :
    w.keys ≤ 16 ^ w.keyLength := by
  by_cases hshort : w.keyLength < 16
  · rw [← keyCount_eq]
    exact h.distinct hshort
  · calc w.keys ≤ Word.modulus := hword
      _ = 16 ^ 16 := by decide
      _ ≤ 16 ^ w.keyLength := Nat.pow_le_pow_right (by decide) (Nat.not_lt.mp hshort)

/-- A hexadecimal digit in lower case. -/
def IsLowerHex (c : UInt8) : Prop := 0x30 ≤ c ∧ c ≤ 0x39 ∨ 0x61 ≤ c ∧ c ≤ 0x66

instance (c : UInt8) : Decidable (IsLowerHex c) := inferInstanceAs (Decidable (_ ∨ _))

theorem isLowerHex_hexDigit : ∀ d, d < 16 → IsLowerHex (hexDigit d) := by decide

theorem isLowerHex_of_mem_writeKey {id : Nat} {buffer : Bytes} {c : UInt8}
    (h : c ∈ (writeKey id buffer).data.toList) : IsLowerHex c := by
  rw [toList_writeKey] at h
  obtain ⟨d, hd, rfl⟩ := List.mem_map.mp h
  exact isLowerHex_hexDigit d (lt_of_mem_lowDigits (List.mem_reverse.mp hd))

/-- The keys of an accepted workload, of which a word of 64 bits tells the number, tell their
numbers apart. Over any buffer of their length a key is written in full, in digits in lower case,
and is read back as its number. -/
theorem writeKey_distinct {s : Settings} (hs : s.validate = .ok ())
    (hword : s.workload.keys ≤ Word.modulus) {id : Nat} (hid : id < s.workload.keys)
    {buffer : Bytes} (hbuffer : buffer.size = s.workload.keyLength) :
    writeKey id buffer = key s.workload.keyLength id ∧
    (writeKey id buffer).size = s.workload.keyLength ∧
    (∀ c ∈ (writeKey id buffer).data.toList, IsLowerHex c) ∧
    valueOf? (writeKey id buffer) = some id ∧
    ∀ other < s.workload.keys, ∀ buffer' : Bytes, buffer'.size = s.workload.keyLength →
      writeKey other buffer' = writeKey id buffer → other = id := by
  have hroom := (Settings.validate_iff.mp hs).2.2.keys_le hword
  have hread {n : Nat} {b : Bytes} (hn : n < s.workload.keys)
      (hb : b.size = s.workload.keyLength) : valueOf? (writeKey n b) = some n := by
    rw [valueOf?_writeKey, hb, Nat.mod_eq_of_lt (Nat.lt_of_lt_of_le hn hroom)]
  refine ⟨?_, ?_, fun c => isLowerHex_of_mem_writeKey, hread hid hbuffer, ?_⟩
  · rw [writeKey_eq_key, hbuffer]
  · rw [size_writeKey, hbuffer]
  · intro other hother buffer' hbuffer' hsame
    have hvalue := hread hother hbuffer'
    rw [hsame, hread hid hbuffer] at hvalue
    exact (Option.some.inj hvalue).symm

/-- As many keys of two digits as there are. -/
def crowdedSettings : Settings where
  workload := { keys := 256, keyLength := 2 }

/-- The last key of a workload that is full, over a buffer that holds something else. -/
theorem writeKey_distinct_crowded :
    (crowdedSettings.validate = .ok () ∧ crowdedSettings.workload.keys ≤ Word.modulus ∧
      255 < crowdedSettings.workload.keys ∧
      (ByteArray.mk #[0x7a, 0x21]).size = crowdedSettings.workload.keyLength) ∧
    writeKey 255 ⟨#[0x7a, 0x21]⟩ = ⟨#[0x66, 0x66]⟩ ∧
    valueOf? (writeKey 255 ⟨#[0x7a, 0x21]⟩) = some 255 ∧
    ∀ other < 255, key 2 other ≠ writeKey 255 ⟨#[0x7a, 0x21]⟩ := by
  have hs : crowdedSettings.validate = .ok () := by decide
  have hword : crowdedSettings.workload.keys ≤ Word.modulus := by decide
  have hid : 255 < crowdedSettings.workload.keys := by decide
  have hbuffer : (ByteArray.mk #[0x7a, 0x21]).size = crowdedSettings.workload.keyLength := rfl
  obtain ⟨-, -, -, hvalue, hdistinct⟩ := writeKey_distinct hs hword hid hbuffer
  refine ⟨⟨hs, hword, hid, hbuffer⟩, by decide, hvalue, ?_⟩
  intro other hother hsame
  have heq := hdistinct other (Nat.lt_trans hother hid) ⟨#[0, 0]⟩ rfl hsame
  omega

/-- A workload is refused for the length of its keys only if two of them are the same. -/
theorem exists_collision {w : Workload} {length keys : Nat}
    (h : w.fault? = some (.shortKeys length keys)) :
    ∃ id other, id < other ∧ other < w.keys ∧ key w.keyLength id = key w.keyLength other := by
  have hshort : 16 ^ w.keyLength < w.keys := by
    rw [← keyCount_eq]
    unfold Workload.fault? at h
    split at h
    · cases h
    split at h
    · cases h
    split at h
    · rename_i hfull
      exact hfull.2
    split at h
    · cases h
    · split at h <;> cases h
  refine ⟨0, 16 ^ w.keyLength, Nat.pow_pos (by decide), hshort, ?_⟩
  refine ByteArray.ext (Array.toList_inj.mp ?_)
  rw [toList_key, toList_key, ← lowDigits_mod w.keyLength (16 ^ w.keyLength), Nat.mod_self]

end SampledEviction.Benchmark
