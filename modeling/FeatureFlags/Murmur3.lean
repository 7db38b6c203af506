/-!
The 128-bit Murmur3 hash for 64-bit machines, with seed zero.
-/
namespace FeatureFlags.Murmur3

structure Digest where
  low : UInt64
  high : UInt64
  deriving DecidableEq

def factor₁ : UInt64 := 0x87c37b91114253d5

def factor₂ : UInt64 := 0x4cf5ad432745937f

def rotateLeft (x amount : UInt64) : UInt64 := (x <<< amount) ||| (x >>> (64 - amount))

/-- The number that bytes spell, least significant byte first. -/
def wordOfBytes (bytes : List UInt8) : UInt64 :=
  bytes.foldr (fun byte word => (word <<< 8) ||| byte.toUInt64) 0

def scrambleLow (word : UInt64) : UInt64 := rotateLeft (word * factor₁) 31 * factor₂

def scrambleHigh (word : UInt64) : UInt64 := rotateLeft (word * factor₂) 33 * factor₁

def mixBlock (d : Digest) (block : List UInt8) : Digest :=
  let low := d.low ^^^ scrambleLow (wordOfBytes (block.take 8))
  let low := (rotateLeft low 27 + d.high) * 5 + 0x52dce729
  let high := d.high ^^^ scrambleHigh (wordOfBytes (block.drop 8))
  let high := (rotateLeft high 31 + low) * 5 + 0x38495ab5
  ⟨low, high⟩

def mixBlocks : Nat → Digest → List UInt8 → Digest × List UInt8
  | 0, d, bytes => (d, bytes)
  | count + 1, d, bytes => mixBlocks count (mixBlock d (bytes.take 16)) (bytes.drop 16)

def mixTail (d : Digest) (tail : List UInt8) : Digest :=
  ⟨d.low ^^^ scrambleLow (wordOfBytes (tail.take 8)),
    d.high ^^^ scrambleHigh (wordOfBytes (tail.drop 8))⟩

def avalanche (x : UInt64) : UInt64 :=
  let x := (x ^^^ (x >>> 33)) * 0xff51afd7ed558ccd
  let x := (x ^^^ (x >>> 33)) * 0xc4ceb9fe1a85ec53
  x ^^^ (x >>> 33)

def finish (length : UInt64) (d : Digest) : Digest :=
  let low := (d.low ^^^ length) + (d.high ^^^ length)
  let high := (d.high ^^^ length) + low
  let low := avalanche low
  let high := avalanche high
  let low := low + high
  ⟨low, high + low⟩

def hash (bytes : List UInt8) : Digest :=
  let (d, tail) := mixBlocks (bytes.length / 16) ⟨0, 0⟩ bytes
  finish (UInt64.ofNat bytes.length) (mixTail d tail)

end FeatureFlags.Murmur3
