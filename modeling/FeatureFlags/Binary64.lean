/-!
The integers that doubles stand for, read off their bits: a finite double is a whole number of
units, and a unit is a power of two.
-/
namespace FeatureFlags.Binary64

/-- A finite double is `units * 2 ^ (scale - 1075)`, with its sign apart. -/
structure Parts where
  negative : Bool
  units : Nat
  scale : Nat
  deriving DecidableEq

/-- Infinities and not-a-number have no parts. -/
def parts? (x : Float) : Option Parts :=
  let bits := x.toBits.toNat
  let field := (bits >>> 52) % 2048
  let fraction := bits % (1 <<< 52)
  if field = 2047 then none
  else some
    { negative := bits >>> 63 = 1
      units := if field = 0 then fraction else fraction + (1 <<< 52)
      scale := if field = 0 then 1 else field }

namespace Parts

def floor (p : Parts) : Nat :=
  if 1075 ≤ p.scale then p.units <<< (p.scale - 1075) else p.units >>> (1075 - p.scale)

def isIntegral (p : Parts) : Bool :=
  1075 ≤ p.scale || p.units % (1 <<< (1075 - p.scale)) == 0

end Parts

def minInt64 : Int := -9223372036854775808

def maxInt64 : Int := 9223372036854775807

def clamp (n : Int) : Int := max minInt64 (min maxInt64 n)

/-- The double rounded toward zero and held within 64 signed bits; zero for not-a-number. -/
def toInt64 (x : Float) : Int :=
  match parts? x with
  | some p => clamp (if p.negative then -p.floor else p.floor)
  | none => if x < 0 then minInt64 else if 0 < x then maxInt64 else 0

def isIntegral (x : Float) : Bool :=
  match parts? x with
  | some p => p.isIntegral
  | none => false

theorem clamp_eq_self {n : Int} (low : minInt64 ≤ n) (high : n ≤ maxInt64) : clamp n = n := by
  unfold clamp
  omega

example : toInt64 (-2.75) = -2 ∧ toInt64 1e300 = maxInt64 ∧ toInt64 (0.0 / 0.0) = 0 := by
  decide +kernel

example : isIntegral 4503599627370497.0 = true ∧ isIntegral 0.5 = false ∧ isIntegral (-0.0) = true := by
  decide +kernel

end FeatureFlags.Binary64
