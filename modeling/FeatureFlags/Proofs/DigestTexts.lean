import FeatureFlags.Bucketing
import FeatureFlags.Hex
import Mathlib.Data.Nat.Digits.Lemmas

/-!
The text of a digest: its two words one after the other, each least significant byte first, and each
byte as two hexadecimal digits. The place of a digest, from which the bucket is formed, is the
number that the first fifteen digits of this text spell.
-/
namespace FeatureFlags

namespace Hex

def number? (text : List Char) : Option ℕ :=
  text.foldlM (fun n c => (value? c).map (16 * n + ·)) 0

def halves (byte : UInt8) : List ℕ := [byte.toNat / 16, byte.toNat % 16]

theorem lt_of_mem_halves {bytes : List UInt8} {n : ℕ} (h : n ∈ bytes.flatMap halves) : n < 16 := by
  obtain ⟨byte, -, hhalf⟩ := List.mem_flatMap.mp h
  have hbyte := byte.toNat_lt
  simp only [halves, List.mem_cons, List.not_mem_nil, or_false] at hhalf
  omega

/-- Digits that are written out spell their number again. -/
theorem number?_map_digit {values : List ℕ} (hvalues : ∀ n ∈ values, n < 16) :
    number? (values.map digit) = some (Nat.ofDigits 16 values.reverse) := by
  induction values using List.reverseRecOn with
  | nil => rfl
  | append_singleton values last ih =>
    have hlast : last < 16 := hvalues last (by simp)
    have hbefore : number? (values.map digit) = some (Nat.ofDigits 16 values.reverse) :=
      ih fun n hn => hvalues n (by simp [hn])
    unfold number? at hbefore ⊢
    rw [List.map_append, List.foldlM_append, hbefore, List.reverse_append]
    simp [value?_digit hlast, Nat.ofDigits_cons, Nat.add_comm]

/-- The halves of bytes, read as digits, are the number that the bytes are. -/
theorem ofDigits_halves (bytes : List UInt8) :
    Nat.ofDigits 16 (bytes.flatMap halves).reverse =
      Nat.ofDigits 256 (bytes.reverse.map UInt8.toNat) := by
  induction bytes using List.reverseRecOn with
  | nil => rfl
  | append_singleton bytes last ih =>
    rw [List.flatMap_append, List.reverse_append, List.reverse_append]
    simp only [List.flatMap_singleton, halves, List.reverse_cons, List.reverse_nil, List.nil_append,
      List.cons_append, List.map_cons, Nat.ofDigits_cons, ih]
    omega

end Hex

namespace Murmur3

theorem ofDigits_bytes_lt (bytes : List UInt8) :
    Nat.ofDigits 256 (bytes.map UInt8.toNat) < 256 ^ bytes.length := by
  have hbytes : ∀ n ∈ bytes.map UInt8.toNat, n < 256 := by
    intro n hn
    obtain ⟨byte, -, rfl⟩ := List.mem_map.mp hn
    exact byte.toNat_lt
  simpa only [List.length_map] using Nat.ofDigits_lt_base_pow_length (by decide : 1 < 256) hbytes

/-- A byte that is put below a word. -/
theorem toNat_shiftLeft_or (word : UInt64) (byte : UInt8) (h : word.toNat < 256 ^ 7) :
    ((word <<< 8) ||| byte.toUInt64).toNat = byte.toNat + 256 * word.toNat := by
  have hfits : word.toNat * 256 < 2 ^ 64 := by omega
  have hbyte : byte.toNat < 2 ^ 8 := byte.toNat_lt
  rw [UInt64.toNat_or, UInt64.toNat_shiftLeft, UInt8.toNat_toUInt64, Nat.shiftLeft_eq]
  show word.toNat * 256 % 2 ^ 64 ||| byte.toNat = _
  rw [Nat.mod_eq_of_lt hfits, Nat.mul_comm, Nat.add_comm]
  exact (Nat.two_pow_add_eq_or_of_lt hbyte word.toNat).symm

theorem toNat_wordOfBytes {bytes : List UInt8} (h : bytes.length ≤ 8) :
    (wordOfBytes bytes).toNat = Nat.ofDigits 256 (bytes.map UInt8.toNat) := by
  induction bytes with
  | nil => rfl
  | cons byte bytes ih =>
    have hlength : bytes.length ≤ 7 := Nat.le_of_succ_le_succ h
    have hrest : (wordOfBytes bytes).toNat = Nat.ofDigits 256 (bytes.map UInt8.toNat) :=
      ih (by omega)
    have hsmall : (wordOfBytes bytes).toNat < 256 ^ 7 := by
      rw [hrest]
      exact (ofDigits_bytes_lt bytes).trans_le (Nat.pow_le_pow_right (by decide) hlength)
    rw [List.map_cons, Nat.ofDigits_cons, ← hrest]
    exact toNat_shiftLeft_or (wordOfBytes bytes) byte hsmall

def bytesOfWord (x : UInt64) : List UInt8 :=
  [x.toUInt8, (x >>> 8).toUInt8, (x >>> 16).toUInt8, (x >>> 24).toUInt8, (x >>> 32).toUInt8,
    (x >>> 40).toUInt8, (x >>> 48).toUInt8, (x >>> 56).toUInt8]

/-- A word is read back from its bytes. -/
theorem wordOfBytes_bytesOfWord (x : UInt64) : wordOfBytes (bytesOfWord x) = x := by
  rw [← UInt64.toNat_inj, toNat_wordOfBytes le_rfl]
  have hx := x.toNat_lt
  simp [bytesOfWord, Nat.ofDigits_cons, Nat.shiftRight_eq_div_pow]
  omega

theorem reverseBytes_eq (x : UInt64) : reverseBytes x = wordOfBytes (bytesOfWord x).reverse := by
  rw [reverseBytes, bytesOfWord]
  rfl

namespace Digest

def number (d : Digest) : ℕ := d.low.toNat + 0x10000000000000000 * d.high.toNat

theorem ofNat_number (d : Digest) : UInt64.ofNat d.number = d.low := by
  have hlow := d.low.toNat_lt
  rw [← UInt64.toNat_inj, UInt64.toNat_ofNat']
  unfold number
  omega

/-- The halves of the bytes of the digest, in the order in which they are written. -/
def halves (d : Digest) : List ℕ :=
  (bytesOfWord d.low ++ bytesOfWord d.high).flatMap Hex.halves

def digits (d : Digest) : List Char := d.halves.map Hex.digit

theorem length_digits (d : Digest) : d.digits.length = 32 := rfl

/-- The first sixteen digits spell the word with its bytes reversed. -/
theorem ofDigits_take_sixteen (d : Digest) :
    Nat.ofDigits 16 (d.halves.take 16).reverse = (reverseBytes d.low).toNat := by
  have htake : d.halves.take 16 = (bytesOfWord d.low).flatMap Hex.halves := rfl
  rw [htake, Hex.ofDigits_halves, reverseBytes_eq]
  exact (toNat_wordOfBytes le_rfl).symm

/-- The place of a digest is its lower word turned round, without the last four bits. -/
theorem place_toNat (d : Digest) : d.place.toNat = (reverseBytes d.low).toNat / 16 := by
  rw [place, UInt64.toNat_shiftRight]
  exact Nat.shiftRight_eq_div_pow _ 4

/-- The last of sixteen digits is what the shift of the word drops. -/
theorem place_eq_ofDigits (d : Digest) :
    d.place.toNat = Nat.ofDigits 16 (d.halves.take 15).reverse := by
  have hlast : ∃ last < 16, d.halves.take 16 = d.halves.take 15 ++ [last] :=
    ⟨_, Nat.mod_lt _ (by decide), rfl⟩
  obtain ⟨last, hsmall, hsplit⟩ := hlast
  rw [place_toNat, ← ofDigits_take_sixteen, hsplit, List.reverse_append, List.reverse_singleton,
    List.singleton_append, Nat.ofDigits_cons]
  omega

/-- The first fifteen digits of a digest spell its place. -/
theorem number?_take_digits (d : Digest) :
    Hex.number? (d.digits.take 15) = some d.place.toNat := by
  have hhalves : ∀ n ∈ d.halves.take 15, n < 16 :=
    fun n hn => Hex.lt_of_mem_halves (List.mem_of_mem_take hn)
  rw [digits, ← List.map_take, Hex.number?_map_digit hhalves, place_eq_ofDigits]

theorem place_lt (d : Digest) : d.place.toNat < 16 ^ 15 := by
  have hword := (reverseBytes d.low).toNat_lt
  rw [place_toNat]
  omega

end Digest

/-- The bucket is formed from the number of the first fifteen digits of the hash, of which each word
is written least significant byte first; that is less than the number of such places. -/
theorem bucket_of_first_digits :
    (∀ d : Digest, wordOfBytes (bytesOfWord d.low) = d.low ∧ UInt64.ofNat d.number = d.low ∧
      d.digits.length = 32 ∧ Hex.number? (d.digits.take 15) = some d.place.toNat ∧
      d.place.toNat < 16 ^ 15) ∧
    ∀ bytes : List UInt8, ∃ n < 16 ^ 15, Hex.number? ((hash bytes).digits.take 15) = some n ∧
      (reverseBytes (UInt64.ofNat (hash bytes).number) >>> 4).toNat = n ∧
      bucketOfBytes bytes = (UInt64.ofNat n).toFloat / lastPlace.toFloat := by
  refine ⟨fun d => ?_, fun bytes => ?_⟩
  · exact ⟨wordOfBytes_bytesOfWord d.low, d.ofNat_number, d.length_digits, d.number?_take_digits,
      d.place_lt⟩
  · refine ⟨(hash bytes).place.toNat, (hash bytes).place_lt, (hash bytes).number?_take_digits,
      ?_, ?_⟩
    · rw [Digest.ofNat_number, Digest.place]
    · rw [UInt64.ofNat_toNat, bucketOfBytes]

example :
    (hash "hashKey.saltyA.userKeyA".toUTF8.toList).digits.take 16 = "0346e965977ff949".toList := by
  decide +kernel

end Murmur3

end FeatureFlags
