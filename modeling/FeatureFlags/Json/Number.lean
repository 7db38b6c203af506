import FeatureFlags.Json.Basic

/-!
Numbers of JSON text. A numeral is an integer when it has neither fraction nor exponent and fits
64 bits, signed or unsigned; any other numeral is a double, made from a 64-bit significand scaled by a
power of ten.
-/
namespace FeatureFlags.Json

/-- The pieces of a numeral; `digits` and `fraction` hold decimal digits, `exponent` a sign and
decimal digits. -/
structure Numeral where
  negative : Bool
  digits : List Char
  fraction : Option (List Char)
  exponent : Option (Bool × List Char)
  deriving DecidableEq

namespace Numeral

def digitValue (c : Char) : Nat := c.toNat - '0'.toNat

def natOfDigits (digits : List Char) : Nat :=
  digits.foldl (fun n c => 10 * n + digitValue c) 0

def maxSignificand : Nat := (1 <<< 64) - 1

/-- Appends digits to a significand while it fits 64 bits; the digits from the first one that does
not fit are left over. -/
def extend (significand : Nat) : List Char → Nat × List Char
  | [] => (significand, [])
  | c :: rest =>
      let next := 10 * significand + digitValue c
      if next ≤ maxSignificand then extend next rest else (significand, c :: rest)

def powerOfTen (n : Nat) : Float := Float.ofScientific 1 false n

def maxPower : Nat := 308

/-- Divides by a power of ten in steps of at most the largest one that a double holds. After two
such steps a 64-bit significand has become zero. -/
def scaleDown (x : Float) (power : Nat) : Float :=
  if power ≤ maxPower then x / powerOfTen power
  else
    let y := x / powerOfTen maxPower
    if power - maxPower ≤ maxPower then y / powerOfTen (power - maxPower)
    else y / powerOfTen maxPower

/-- No double is too large: such a numeral is refused. -/
def scaleUp? (x : Float) (power : Nat) : Option Float :=
  if x == 0 then some x
  else if maxPower < power then none
  else
    let y := x * powerOfTen power
    if y.isInf then none else some y

def scale? (significand : Nat) (power : Int) : Option Float :=
  let x := Float.ofNat significand
  if power < 0 then some (scaleDown x power.natAbs) else scaleUp? x power.natAbs

def maxExponent : Nat := (1 <<< 31) - 1

def signed (negative : Bool) (x : Float) : Float := if negative then -x else x

/-- The double of a numeral. Integer digits that do not fit the significand count as a power of ten,
fraction digits that do not fit are dropped. -/
def toFloat? (n : Numeral) : Option Float :=
  let (whole, dropped) := extend 0 n.digits
  let (significand, unused) := extend whole (n.fraction.getD [])
  let taken := (n.fraction.getD []).length - unused.length
  let power : Int := dropped.length - taken
  match n.exponent with
  | none => (scale? significand power).map (signed n.negative)
  | some (negative, digits) =>
      let exponent := natOfDigits digits
      if maxExponent < exponent then
        if negative || significand == 0 then some (signed n.negative 0) else none
      else
        (scale? significand (if negative then power - exponent else power + exponent)).map
          (signed n.negative)

/-- The integer of a numeral that has an integer's form; minus zero is a double. -/
def toInt? (n : Numeral) : Option Int :=
  if n.fraction.isSome || n.exponent.isSome then none
  else
    let value := natOfDigits n.digits
    if n.negative then
      if 0 < value ∧ value ≤ 1 <<< 63 then some (-value) else none
    else if value ≤ maxSignificand then some value else none

/-- The number that a numeral stands for, unless it is too large for a double. -/
def value? (n : Numeral) : Option Json :=
  match n.toInt? with
  | some i => some (.int i)
  | none => n.toFloat?.map .float

def isDigit (c : Char) : Bool := '0' ≤ c && c ≤ '9'

def readDigits? (text : List Char) : Option (List Char × List Char) :=
  match text.span isDigit with
  | ([], _) => none
  | (digits, rest) => some (digits, rest)

def readWhole? : List Char → Option (List Char × List Char)
  | '0' :: rest =>
      match rest with
      | c :: _ => if isDigit c then none else some (['0'], rest)
      | [] => some (['0'], rest)
  | text => readDigits? text

def readFraction? : List Char → Option (Option (List Char) × List Char)
  | '.' :: rest => (readDigits? rest).map fun (digits, rest) => (some digits, rest)
  | text => some (none, text)

def readSignedDigits? : List Char → Option ((Bool × List Char) × List Char)
  | '-' :: rest => (readDigits? rest).map fun (digits, rest) => ((true, digits), rest)
  | '+' :: rest => (readDigits? rest).map fun (digits, rest) => ((false, digits), rest)
  | text => (readDigits? text).map fun (digits, rest) => ((false, digits), rest)

def readExponent? : List Char → Option (Option (Bool × List Char) × List Char)
  | 'e' :: rest | 'E' :: rest => (readSignedDigits? rest).map fun (e, rest) => (some e, rest)
  | text => some (none, text)

def readUnsigned? (negative : Bool) (text : List Char) : Option (Numeral × List Char) := do
  let (digits, text) ← readWhole? text
  let (fraction, text) ← readFraction? text
  let (exponent, text) ← readExponent? text
  return (⟨negative, digits, fraction, exponent⟩, text)

def read? : List Char → Option (Numeral × List Char)
  | '-' :: rest => readUnsigned? true rest
  | text => readUnsigned? false text

end Numeral

end FeatureFlags.Json
