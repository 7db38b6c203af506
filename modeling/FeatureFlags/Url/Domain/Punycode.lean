import FeatureFlags.Hex

/-!
Text written in ASCII: first its ASCII characters, then the places of all others as numbers to the
base 36 with digits of varying weight. The weights adapt to the numbers that have been written.
-/
namespace FeatureFlags.Url.Punycode

def base : Nat := 36

def firstPoint : Nat := 0x80

def firstBias : Nat := 72

def limit : Nat := 1 <<< 32

def digit (n : Nat) : Char := Char.ofNat (if n < 26 then 'a'.toNat + n else '0'.toNat + n - 26)

def value? (c : Char) : Option Nat :=
  if c.isLower then some (c.toNat - 'a'.toNat)
  else if c.isUpper then some (c.toNat - 'A'.toNat)
  else if c.isDigit then some (c.toNat - '0'.toNat + 26)
  else none

/-- A digit below this is the last of its number. -/
def threshold (k bias : Nat) : Nat :=
  if k ≤ bias then 1 else if bias + 26 ≤ k then 26 else k - bias

def scale (delta k : Nat) : Nat :=
  if 455 < delta then scale (delta / (base - 1)) (k + base)
  else k + base * delta / (delta + 38)
termination_by delta
decreasing_by simp only [base]; omega

/-- The bias after a number, the first of which is damped, when so many characters are written. -/
def adapt (delta count : Nat) (isFirst : Bool) : Nat :=
  let delta := if isFirst then delta / 700 else delta / 2
  scale (delta + delta / count) 0

/-- Reads a number from its first digit on, given the part that was read and the weight and the place
of the next digit. -/
def readNumber? (bias : Nat) (read weight k : Nat) : List Char → Option (Nat × List Char)
  | [] => none
  | c :: rest => do
      let n ← value? c
      let read := read + n * weight
      let t := threshold k bias
      guard (read < limit)
      if n < t then some (read, rest)
      else
        let weight := weight * (base - t)
        guard (weight < limit)
        readNumber? bias read weight (k + base) rest

def char? (n : Nat) : Option Char := if n.isValidChar then some (Char.ofNat n) else none

/-- Inserts characters into those that were read; every number takes a character, which bounds the
fuel. -/
def insertAll? : Nat → (point place bias : Nat) → (text input : List Char) → Option (List Char)
  | _, _, _, _, text, [] => some text
  | 0, _, _, _, _, _ => none
  | fuel + 1, point, place, bias, text, input => do
      let (next, rest) ← readNumber? bias place 1 base input
      let count := text.length + 1
      let c ← char? (point + next / count)
      let at' := next % count
      insertAll? fuel c.toNat (at' + 1) (adapt (next - place) count (place = 0))
        (text.take at' ++ c :: text.drop at') rest

/-- What stands before and after the last hyphen; one that comes first is no mark. -/
def splitLast (text : List Char) : List Char × List Char :=
  match text.reverse.span (· != '-') with
  | (after, _ :: before) => if before = [] then ([], text) else (before.reverse, after.reverse)
  | (_, []) => ([], text)

def decode? (text : List Char) : Option (List Char) :=
  let (ascii, input) := splitLast text
  insertAll? input.length firstPoint 0 firstBias ascii input

def digits (bias : Nat) (k n : Nat) : List Char :=
  let t := threshold k bias
  if n < t then [digit n]
  else digit (t + (n - t) % (base - t)) :: digits bias (k + base) ((n - t) / (base - t))
termination_by n
decreasing_by
  have below : 1 ≤ threshold k bias := by unfold threshold; split <;> (try split) <;> omega
  have := Nat.div_le_self (n - threshold k bias) (base - threshold k bias)
  omega

/-- What is being written: the text, how many characters it says, and the number that counts up. -/
structure Writing where
  text : List Char
  count : Nat
  delta : Nat := 0
  bias : Nat := firstBias

def Writing.pass (ascii point : Nat) (writing : Writing) (c : Char) : Writing :=
  if c.toNat < point then { writing with delta := writing.delta + 1 }
  else if c.toNat = point then
    { text := writing.text ++ digits writing.bias base writing.delta
      count := writing.count + 1
      bias := adapt writing.delta (writing.count + 1) (writing.count = ascii) }
  else writing

/-- Writes the places of characters, from the smallest on, each with the one before it. -/
def writePoints (text : List Char) (ascii : Nat) : List (Nat × Nat) → Writing → Writing
  | [], writing => writing
  | (before, point) :: rest, writing =>
      let counted := { writing with
        delta := writing.delta + (point - before) * (writing.count + 1) }
      let passed := text.foldl (Writing.pass ascii point) counted
      writePoints text ascii rest { passed with delta := passed.delta + 1 }

def encode (text : List Char) : List Char :=
  let ascii := text.filter (·.toNat < firstPoint)
  let points := ((text.map Char.toNat).filter (firstPoint ≤ ·)).eraseDups.mergeSort
  let start := if ascii = [] then [] else ascii ++ ['-']
  (writePoints text ascii.length ((firstPoint :: points.map (· + 1)).zip points)
    { text := start, count := ascii.length }).text

end FeatureFlags.Url.Punycode
