import FeatureFlags.Flag
import FeatureFlags.Murmur3
import FeatureFlags.Segment
import FeatureFlags.Subject

/-!
Buckets: places between 0 and 1 that a subject takes in a rollout, by a hash of one of its
attributes.
-/
namespace FeatureFlags

abbrev Bucketer := String → Float

namespace Murmur3

def reverseBytes (x : UInt64) : UInt64 :=
  wordOfBytes [(x >>> 56).toUInt8, (x >>> 48).toUInt8, (x >>> 40).toUInt8, (x >>> 32).toUInt8,
    (x >>> 24).toUInt8, (x >>> 16).toUInt8, (x >>> 8).toUInt8, x.toUInt8]

/-- A place among the numbers of fifteen hexadecimal digits. -/
def Digest.place (d : Digest) : UInt64 := reverseBytes d.low >>> 4

def lastPlace : UInt64 := 0xFFFFFFFFFFFFFFF

/-- The share of all places that come before the place of the bytes' hash. -/
def bucketOfBytes (bytes : List UInt8) : Float :=
  (hash bytes).place.toFloat / lastPlace.toFloat

def bucketer : Bucketer := fun text => bucketOfBytes text.toUTF8.toList

end Murmur3

namespace Subject

/-- The text whose bucket is a subject's bucket for a flag or a segment, if the attribute to go by
has a text; a secondary key follows it. -/
def bucketText? (subject : Subject) (key salt : String) (bucketBy : Option String) :
    Option String := do
  let value ← subject.value? (bucketBy.getD "key")
  let id ← value.bucketText?
  let id := match subject.secondary with
    | some secondary => id ++ "." ++ secondary
    | none => id
  return key ++ "." ++ salt ++ "." ++ id

end Subject

def share (weight : Nat) : Float := Float.ofNat weight / 100000.0

namespace Rollout

/-- Goes through the shares up to the bucket; what shares leave over belongs to the last
variation. -/
def pickFrom (bucket sum : Float) : List WeightedVariation → Option Nat
  | [] => none
  | [last] => some last.variation
  | weighted :: rest =>
      let sum := sum + share weighted.weight
      if bucket < sum then some weighted.variation else pickFrom bucket sum rest

def pick (rollout : Rollout) (bucket : Float) : Option Nat :=
  pickFrom bucket 0 rollout.variations

end Rollout

def Segment.Rule.admits (bucket : Float) (weight : Nat) : Bool := bucket < share weight

end FeatureFlags
